import Cartridge.Proofs.Resolve.Actor
import Mathlib.Data.List.Find

/-!
The sheet of a slot. The symbol of a sheet names the sheet that its declaration
has been overridden with, and overrides are found by name. The symbol of an
animation looks the sheet up again, and this time by its role. Both are symbols
of one actor, and of one sheet if the overrides of the sheet are tagged as what
they are: `sheet_of_animation`.
-/

namespace Cartridge

theorem findSome?_congr {α β : Type} {f g : α → Option β} {as : List α}
    (h : ∀ a ∈ as, f a = g a) : as.findSome? f = as.findSome? g := by
  induction as with
  | nil => rfl
  | cons a as ih =>
      rw [List.findSome?_cons, List.findSome?_cons, h a List.mem_cons_self,
        ih fun b hb => h b (List.mem_cons_of_mem a hb)]

/-- A search by name and a search by role find one variable in a table whose
variables of that name in the slot are those with the role. -/
theorem VariableTable.named?_eq_tagged? {table : VariableTable} {name : String} {role : Role}
    {slot : Int32} (hslot : slot ≠ entitySlot)
    (h : ∀ v ∈ table, v.slot = slot → Text.sameName v.name name = hasRole v.tags role) :
    table.named? name slot = table.tagged? role slot := by
  refine List.find?_congr fun v hv => ?_
  rw [Variable.overrides, Variable.plays]
  by_cases hv' : v.slot = slot
  · rw [h v hv hv']
  · have hunreached : v.inSlot slot = false := by
      simp [Variable.inSlot, hslot, Ne.symm hv']
    rw [hunreached, Bool.false_and, Bool.false_and]

namespace Export.Context

/-- The overrides of a declaration are the variables of its slot with the
role. -/
def OverriddenByRole (c : Context) (decl : Variable) (role : Role) : Prop :=
  ∀ level ∈ c.overrides, ∀ v ∈ level.vars, v.slot = decl.slot →
    Text.sameName v.name decl.name = hasRole v.tags role

instance (c : Context) (decl : Variable) (role : Role) : Decidable (c.OverriddenByRole decl role) :=
  inferInstanceAs (Decidable (∀ _ ∈ _, ∀ _ ∈ _, _ → _))

/-- A declaration that alone has its role in its slot is what a search for the
role finds, in the overriding variable if there is one. -/
theorem tagged?_eq_override {c : Context} {decl : Variable} {role : Role}
    (hslot : decl.slot ≠ entitySlot)
    (hone : c.type.vars.filter (Variable.plays role decl.slot) = [decl])
    (hrole : c.OverriddenByRole decl role) :
    c.tagged? role decl.slot =
      ((c.overrides.findSome? fun level => level.vars.named? decl.name decl.slot).or
        (some decl)) := by
  have htype : c.type.vars.tagged? role decl.slot = some decl := by
    rw [VariableTable.tagged?, ← List.head?_filter, hone, List.head?_cons]
  have hnamed : ∀ level ∈ c.overrides,
      level.vars.named? decl.name decl.slot = level.vars.tagged? role decl.slot :=
    fun level hlevel => VariableTable.named?_eq_tagged? hslot (hrole level hlevel)
  rw [tagged?, levels, List.findSome?_append, List.findSome?_singleton,
    ← findSome?_congr hnamed]
  exact congrArg _ htype

/-- The value of such a declaration is that of the variable a search for its
role finds. -/
theorem value_of_tagged? {c : Context} {decl v : Variable} {role : Role}
    (hslot : decl.slot ≠ entitySlot)
    (hone : c.type.vars.filter (Variable.plays role decl.slot) = [decl])
    (hrole : c.OverriddenByRole decl role) (hv : c.tagged? role decl.slot = some v) :
    v.value = c.valueOf decl := by
  rw [tagged?_eq_override hslot hone hrole] at hv
  rw [valueOf]
  cases hoverride : c.overrides.findSome? fun level =>
      level.vars.named? decl.name decl.slot with
  | none =>
      rw [hoverride] at hv
      cases hv
      rfl
  | some w =>
      rw [hoverride] at hv
      cases hv
      rfl

/-- The symbols of the sheet and of an animation in one slot are symbols of one
actor. The sheet is that of the declaration's value in the one and that of the
strongest variable for a sheet in the other; they are the same if the
declaration is overridden by variables for a sheet, and by all of them. -/
theorem sheet_of_animation {c : Context} (sheet animation : Variable)
    (hslot : 0 ≤ sheet.slot) (hanimationSlot : animation.slot = sheet.slot)
    (hone : c.type.vars.filter (Variable.plays .spriteSheet sheet.slot) = [sheet])
    (hsheetRole : decidingRole? sheet.tags = some .spriteSheet)
    (hanimationRole : decidingRole? animation.tags = some .spriteAnimation)
    (hsheet : (c.resolve sheet).value ≠ "0") (hanimation : (c.resolve animation).value ≠ "0") :
    ∃ actor s v t a, c.actor? sheet.slot = some actor ∧
      actor.sheet? (c.valueOf sheet) = some s ∧
      (c.resolve sheet).value = "actor_" ++ actor.name ++ "_spritesheet_" ++ s.name ∧
      c.tagged? .spriteSheet sheet.slot = some v ∧ actor.sheet? v.value = some t ∧
      t.animation? (c.valueOf animation) = some a ∧
      (c.resolve animation).value =
        "actor_" ++ actor.name ++ "_sheet_" ++ t.name ++ "_anim_" ++ a.name ∧
      (c.OverriddenByRole sheet .spriteSheet → s = t) := by
  have hslot' : sheet.slot ≠ entitySlot := by
    intro h
    rw [h] at hslot
    exact absurd hslot (by decide)
  rw [resolve, resolvedValue_of_sheet hsheetRole] at hsheet ⊢
  rw [resolve, resolvedValue_of_animation hanimationRole] at hanimation ⊢
  obtain ⟨actor, s, hactor, hs, hsheetValue⟩ := sheetSymbol_of_ne_zero hsheet
  obtain ⟨actor', v, t, a, hactor', hv, ht, ha, hanimationValue⟩ :=
    animationSymbol_of_ne_zero hanimation
  rw [hanimationSlot] at hactor' hv
  rw [hactor] at hactor'
  cases hactor'
  refine ⟨actor, s, v, t, a, hactor, hs, hsheetValue, hv, ht, ha, hanimationValue, ?_⟩
  intro hrole
  rw [value_of_tagged? hslot' hone hrole hv, hs] at ht
  exact Option.some.inj ht

/-- An override that is tagged as a sheet is found both by its name and by its
role. -/
theorem tagged_override_keeps_sheet :
    let v := spriteVariable "sdsprite_sheet" .spriteSheet "RUN"
    let c := { enemyContext [] with placement := some (placedEnemy none [v]) }
    (0 ≤ sheetVariable.slot ∧ animationVariable.slot = sheetVariable.slot ∧
      c.type.vars.filter (Variable.plays .spriteSheet 0) = [sheetVariable] ∧
      decidingRole? sheetVariable.tags = some .spriteSheet ∧
      decidingRole? animationVariable.tags = some .spriteAnimation ∧
      (c.resolve sheetVariable).value ≠ "0" ∧ (c.resolve animationVariable).value ≠ "0" ∧
      c.OverriddenByRole sheetVariable .spriteSheet) ∧
    ∃ s a : String, (c.resolve sheetVariable).value = "actor_Enemy_spritesheet_" ++ s ∧
      (c.resolve animationVariable).value = "actor_Enemy_sheet_" ++ s ++ "_anim_" ++ a := by
  intro v c
  have hslot : 0 ≤ sheetVariable.slot := by decide
  have hone : c.type.vars.filter (Variable.plays .spriteSheet 0) = [sheetVariable] := by
    decide +kernel
  have hsheetRole : decidingRole? sheetVariable.tags = some .spriteSheet := by decide +kernel
  have hanimationRole : decidingRole? animationVariable.tags = some .spriteAnimation := by
    decide +kernel
  have hsheet : (c.resolve sheetVariable).value ≠ "0" := by decide +kernel
  have hanimation : (c.resolve animationVariable).value ≠ "0" := by decide +kernel
  have hrole : c.OverriddenByRole sheetVariable .spriteSheet := by decide +kernel
  have hactor : c.actor? sheetVariable.slot = some enemy := by decide +kernel
  refine ⟨⟨hslot, rfl, hone, hsheetRole, hanimationRole, hsheet, hanimation, hrole⟩, ?_⟩
  obtain ⟨actor, s, -, t, a, ha, -, hs, -, -, -, ht, hsame⟩ :=
    sheet_of_animation sheetVariable animationVariable hslot rfl hone hsheetRole
      hanimationRole hsheet hanimation
  rw [hactor] at ha
  cases ha
  cases hsame hrole
  exact ⟨s.name, a.name, hs, ht⟩

/-- An override without a tag is found by its name only, so the animation is
looked up on a sheet that is not the one of the sheet's own symbol. -/
theorem untagged_override_splits_sheets :
    let v : Variable := ⟨"SDSprite_Sheet", .long, "Run", [], 0, "ECSprite"⟩
    let c := { enemyContext [] with placement := some (placedEnemy none [v]) }
    c.type.vars.filter (Variable.plays .spriteSheet 0) = [sheetVariable] ∧
    c.type.vars.filter (Variable.plays .spriteAnimation 0) = [animationVariable] ∧
    (c.resolve sheetVariable).value = "actor_Enemy_spritesheet_Run" ∧
    (c.resolve animationVariable).value = "actor_Enemy_sheet_Walk_anim_Loop" := by
  intro v c
  refine ⟨?_, ?_, ?_, ?_⟩ <;> decide +kernel

end Export.Context

end Cartridge
