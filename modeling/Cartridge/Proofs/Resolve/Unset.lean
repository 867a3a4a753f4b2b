import Cartridge.Proofs.LetterCase
import Cartridge.Proofs.Resolve.Actor

/-!
References that are not set, as they often are in a project in the making: the value is
empty or zero. Archetypes, actors, sheets and animations are then laid down as zero, whereas
the descriptor of no type is made into a symbol all the same: `operand_of_unset_reference`.
-/

namespace Cartridge

open Cartridge.Text (sameName)

/-- The value of a reference that is not set. -/
def IsUnset (value : String) : Prop :=
  value = "" ∨ value = "0"

instance (value : String) : Decidable (IsUnset value) :=
  inferInstanceAs (Decidable (_ ∨ _))

/-- No other name is looked up by the value of a reference that is not set. -/
theorem IsUnset.of_sameName {name value : String} (hvalue : IsUnset value)
    (h : sameName name value = true) : IsUnset name := by
  rw [Text.sameName_iff, Text.foldCase, Text.foldCase, String.ofList_inj] at h
  -- Neither the empty value nor the digit has a letter that could be written otherwise.
  rcases hvalue with rfl | rfl
  · have hname : name.toList = [] := by simpa using h
    exact .inl (by simpa using hname)
  · have hdigit : "0".toList.map Char.toLower = ['0'] := by decide
    rw [hdigit, List.map_eq_singleton_iff] at h
    obtain ⟨c, hname, hc⟩ := h
    rw [Text.toLower_eq_iff (by decide)] at hc
    exact .inr (String.toList_inj.1 (by rw [hname, hc]; rfl))

/-- The role makes a symbol out of the name of something else. -/
def Role.IsReference (role : Role) : Prop :=
  role ∈ [Role.entityDesc, .entityArchetype, .spriteActor, .spriteSheet, .spriteAnimation]

instance (role : Role) : Decidable role.IsReference :=
  inferInstanceAs (Decidable (role ∈ _))

/-- No sheet or animation of the project has the name of a reference that is not set. -/
def Project.NamesParts (p : Project) : Prop :=
  ∀ actor ∈ p.actors, ∀ sheet ∈ actor.sheets,
    ¬IsUnset sheet.name ∧ ∀ animation ∈ sheet.animations, ¬IsUnset animation.name

instance (p : Project) : Decidable p.NamesParts :=
  inferInstanceAs (Decidable (∀ _ ∈ _, ∀ _ ∈ _, _ ∧ ∀ _ ∈ _, _))

namespace Export.Context

variable {c : Context} {decl : Variable}

theorem mem_actors_of_actor? {slot : Int32} {actor : Actor} (h : c.actor? slot = some actor) :
    actor ∈ c.project.actors := by
  obtain ⟨level, -, ⟨v, -, -, hv⟩ | hfield⟩ := exists_names_of_actor? h
  · exact List.mem_of_find?_eq_some hv
  · obtain ⟨name, -, hname⟩ := Option.bind_eq_some_iff.1 hfield
    exact List.mem_of_find?_eq_some hname

theorem archetypeReference_of_unset (h : IsUnset (c.valueOf decl)) :
    c.archetypeReference decl = "0" := by
  rcases h with h | h <;> simp [archetypeReference, h]

theorem sheetSymbol_of_unset (hparts : c.project.NamesParts) (h : IsUnset (c.valueOf decl)) :
    c.sheetSymbol decl = "0" := by
  by_contra hsymbol
  obtain ⟨actor, sheet, hactor, hsheet, -⟩ := sheetSymbol_of_ne_zero hsymbol
  have hname := (hparts actor (mem_actors_of_actor? hactor) sheet
    (List.mem_of_find?_eq_some hsheet)).1
  exact hname (h.of_sameName (by simpa using List.find?_some hsheet))

theorem animationSymbol_of_unset (hparts : c.project.NamesParts) (h : IsUnset (c.valueOf decl)) :
    c.animationSymbol decl = "0" := by
  by_contra hsymbol
  obtain ⟨actor, v, sheet, animation, hactor, -, hsheet, hanimation, -⟩ :=
    animationSymbol_of_ne_zero hsymbol
  have hnames := (hparts actor (mem_actors_of_actor? hactor) sheet
    (List.mem_of_find?_eq_some hsheet)).2
  exact hnames animation (List.mem_of_find?_eq_some hanimation)
    (h.of_sameName (by simpa using List.find?_some hanimation))

/-- A reference that is not set comes to zero under every role but that of a descriptor,
under which it comes to a symbol that is made of the value. -/
theorem operand_of_unset_reference (hparts : c.project.NamesParts) {role : Role}
    (hrole : decidingRole? decl.tags = some role) (hreference : role.IsReference)
    (hvalue : IsUnset (c.valueOf decl)) :
    ((c.resolve decl).operand = "0" ↔ role ≠ .entityDesc) ∧
      (role = .entityDesc → (c.resolve decl).operand = c.valueOf decl ++ "_TypeDesc") := by
  have hresolve : (c.resolve decl).value =
      if role = .entityDesc then c.valueOf decl ++ "_TypeDesc" else "0" := by
    cases role with
    | entityDesc => simp only [resolve, resolvedValue, hrole, if_true]
    | entityArchetype =>
        simp only [resolve, resolvedValue, hrole, archetypeReference_of_unset hvalue]
        rfl
    | spriteActor =>
        simp only [resolve, resolvedValue, hrole]
        rfl
    | spriteSheet =>
        rw [resolve, resolvedValue_of_sheet hrole, sheetSymbol_of_unset hparts hvalue]
        rfl
    | spriteAnimation =>
        rw [resolve, resolvedValue_of_animation hrole, animationSymbol_of_unset hparts hvalue]
        rfl
    | positionX | positionY | scriptData | prefabData => exact absurd hreference (by decide)
  by_cases hdesc : role = .entityDesc
  · rw [if_pos hdesc] at hresolve
    have hoperand : (c.resolve decl).operand = c.valueOf decl ++ "_TypeDesc" := by
      simp [Param.operand, hresolve]
    have hne : c.valueOf decl ++ "_TypeDesc" ≠ "0" := by
      rcases hvalue with h | h <;> rw [h] <;> decide
    simp [hoperand, hdesc, hne]
  · rw [if_neg hdesc] at hresolve
    simp [Param.operand, hresolve, hdesc]

/-- A sheet that was taken back is laid down as zero. -/
theorem no_enemy_sheet :
    let v := spriteVariable "SDSprite_Sheet" .spriteSheet ""
    let c := { enemyContext [] with placement := some (placedEnemy none [v]) }
    IsUnset (c.valueOf sheetVariable) ∧ c.project.NamesParts ∧
      (c.resolve sheetVariable).operand = "0" := by
  intro v c
  have hvalue : IsUnset (c.valueOf sheetVariable) := by decide +kernel
  have hparts : c.project.NamesParts := by decide +kernel
  have hrole : decidingRole? sheetVariable.tags = some .spriteSheet := by decide +kernel
  exact ⟨hvalue, hparts,
    (operand_of_unset_reference hparts hrole (by decide) hvalue).1.2 (by decide)⟩

/-- The descriptor of no type is laid down as a symbol. -/
theorem no_type_described :
    let c := enemyContext []
    let decl := spriteVariable "SDSprite_Target" .entityDesc "0"
    c.project.NamesParts ∧ decidingRole? decl.tags = some .entityDesc ∧
      IsUnset (c.valueOf decl) ∧ (c.resolve decl).operand = "0_TypeDesc" := by
  refine ⟨?_, ?_, ?_, ?_⟩ <;> decide +kernel

end Export.Context

end Cartridge
