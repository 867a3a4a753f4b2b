import Cartridge.Proofs.LetterCase
import Cartridge.Proofs.Resolve.Actor
import Cartridge.Proofs.Resolve.Lookup
import Mathlib.Data.List.Forall2

/-!
Spelling. All that is looked up is looked up in either letter case, so an entity that is
authored in another spelling throughout resolves alike: `resolve_of_respelled`. Another
spelling may change any name and any tag. It may change a value only where the value
names a sprite actor or a part of one, as any other value is shown as it stands.
-/

namespace Cartridge

open Text (foldCase sameName)

/-! ### Tags -/

theorem hasRole_map_foldCase (tags : List String) : hasRole (tags.map foldCase) = hasRole tags := by
  funext role
  have hofTag : ∀ tag, Role.ofTag? (foldCase tag) = Role.ofTag? tag := by
    intro tag
    simp only [Role.ofTag?, Text.sameName_foldCase]
  simp only [hasRole, List.any_map, Function.comp_def, hofTag]

theorem payload?_foldCase (key tag : String) :
    payload? key (foldCase tag) = (payload? key tag).map foldCase := by
  have htrim : ∀ cs : List Char, String.ofList (Text.trimList (cs.map Char.toLower)) =
      foldCase (String.ofList (Text.trimList cs)) := by
    intro cs
    rw [Text.trimList_map_toLower, foldCase, String.toList_ofList]
  rw [payload?, payload?, foldCase, String.toList_ofList, Text.cutAtChar_map_toLower (by decide)]
  cases Text.cutAtChar '=' tag.toList with
  | none => rfl
  | some cut =>
      obtain ⟨name, value⟩ := cut
      simp only [Option.map_some, Prod.map, htrim, Text.sameName_comm _ key,
        Text.sameName_foldCase]
      split <;> rfl

theorem findPayload?_map_foldCase (tags : List String) (key : String) :
    findPayload? (tags.map foldCase) key = (findPayload? tags key).map foldCase := by
  have hpayload : payload? key ∘ foldCase = Option.map foldCase ∘ payload? key := by
    funext tag
    rw [Function.comp_apply, Function.comp_apply, payload?_foldCase]
  rw [findPayload?, findPayload?, List.findSome?_map, List.map_findSome?, hpayload]

theorem decidingRole?_congr {tags tags' : List String} (h : hasRole tags' = hasRole tags) :
    Export.decidingRole? tags' = Export.decidingRole? tags := by
  rw [Export.decidingRole?, Export.decidingRole?, h]

/-- The tags give the role and no second one. -/
def OnlyRole (tags : List String) (role : Role) : Prop :=
  ∀ other, hasRole tags other = true ↔ other = role

instance (tags : List String) (role : Role) : Decidable (OnlyRole tags role) :=
  decidable_of_iff (∀ other ∈ Role.all, (hasRole tags other = true ↔ other = role))
    ⟨fun h other => h other (by cases other <;> decide), fun h other _ => h other⟩

theorem OnlyRole.decidingRole? {tags : List String} {role : Role} (h : OnlyRole tags role) :
    Export.decidingRole? tags = some role := by
  have hmem : role ∈ Export.rolePriority := by cases role <;> decide
  cases hfind : Export.decidingRole? tags with
  | none => exact absurd ((h role).2 rfl) (List.find?_eq_none.1 hfind role hmem)
  | some other => rw [(h other).1 (List.find?_some hfind)]

/-! ### Spellings -/

/-- The role asks for the name of a sprite actor or of a part of one. -/
def Role.NamesSprite (role : Role) : Prop :=
  role ∈ [Role.spriteActor, .spriteSheet, .spriteAnimation]

instance (role : Role) : Decidable role.NamesSprite :=
  inferInstanceAs (Decidable (role ∈ _))

namespace Variable

/-- One variable in two spellings. -/
structure Respelled (v w : Variable) : Prop where
  name : sameName v.name w.name = true
  tags : w.tags.map foldCase = v.tags.map foldCase
  value : w.value = v.value ∨
    sameName v.value w.value = true ∧ ∃ role : Role, role.NamesSprite ∧ OnlyRole v.tags role
  others : { w with name := v.name, tags := v.tags, value := v.value } = v

/-- An overriding variable in two spellings. If its value is respelled and overrides the
declaration, then the declaration has its role. -/
structure RespelledFor (decl v w : Variable) : Prop extends Respelled v w where
  own : w.value ≠ v.value → v.overrides decl.name decl.slot = true →
    ∀ role, hasRole v.tags role = true → Export.decidingRole? decl.tags = some role

section

variable {v w decl decl' : Variable}

theorem Respelled.slot (h : Respelled v w) : w.slot = v.slot :=
  (congrArg Variable.slot h.others :)

theorem Respelled.size (h : Respelled v w) : w.size = v.size :=
  (congrArg Variable.size h.others :)

theorem Respelled.hasRole (h : Respelled v w) : hasRole w.tags = hasRole v.tags := by
  rw [← hasRole_map_foldCase, h.tags, hasRole_map_foldCase]

theorem Respelled.sameValue (h : Respelled v w) : sameName v.value w.value = true := by
  rcases h.value with heq | ⟨hsame, -⟩
  · rw [heq, Text.sameName_refl]
  · exact hsame

/-- A variable with any other role keeps its value as it stands. -/
theorem Respelled.value_eq {role : Role} (h : Respelled v w)
    (hrole : Cartridge.hasRole v.tags role = true) (hsprite : ¬role.NamesSprite) :
    w.value = v.value := by
  rcases h.value with heq | ⟨-, other, hother, honly⟩
  · exact heq
  · rw [(honly role).1 hrole] at hsprite
    exact absurd hother hsprite

theorem Respelled.plays (h : Respelled v w) (role : Role) (slot : Int32) :
    w.plays role slot = v.plays role slot := by
  rw [Variable.plays, Variable.plays, inSlot, inSlot, h.slot, h.hasRole]

theorem Respelled.overrides (h : Respelled v w) (name : String) (slot : Int32) :
    w.overrides name slot = v.overrides name slot := by
  rw [Variable.overrides, Variable.overrides, inSlot, inSlot, h.slot, Text.sameName_congr h.name]

end

end Variable

/-- One level of overrides in two spellings; `R` relates those of its variables. -/
structure Export.Level.Respelled (R : Variable → Variable → Prop) (l m : Export.Level) : Prop where
  vars : List.Forall₂ R l.vars m.vars
  spriteActor : m.spriteActor.map foldCase = l.spriteActor.map foldCase

/-- The placements of a type, named in lower case. -/
def Placement.folded (p : Placement) : Placement :=
  { p with name := foldCase p.name }

/-- An address map with routines and globals named in lower case. -/
def AddressMap.folded (m : AddressMap) : AddressMap :=
  ⟨m.types.map fun t => (t.1, t.2.map Placement.folded)⟩

/-- What a declaration is resolved in, in two spellings. -/
structure Export.Context.Respelled (decl : Variable) (c d : Export.Context) : Prop where
  type : c.type.level.Respelled Variable.Respelled d.type.level ∧
    { d.type with vars := c.type.vars, spriteActor := c.type.spriteActor } = c.type
  placement : Option.Rel (fun i j => i.level.Respelled (Variable.RespelledFor decl) j.level ∧
    { j with vars := i.vars, spriteActor := i.spriteActor } = i) c.placement d.placement
  child : Option.Rel (fun i j => i.level.Respelled (Variable.RespelledFor decl) j.level ∧
    { j with vars := i.vars, spriteActor := i.spriteActor } = i) c.child d.child
  archetype : Option.Rel (fun a b => a.level.Respelled (Variable.RespelledFor decl) b.level ∧
    { b with vars := a.vars, spriteActor := a.spriteActor } = a) c.archetype d.archetype
  addresses : d.addresses.folded = c.addresses.folded
  others : { d with
    type := c.type, placement := c.placement, child := c.child, archetype := c.archetype,
    addresses := c.addresses } = c

/-! ### Lookups in two spellings -/

section

variable {α β γ : Type} {R : α → β → Prop} {as : List α} {bs : List β}

theorem find?_rel {p : α → Bool} {q : β → Bool} (h : List.Forall₂ R as bs)
    (hpq : ∀ a b, R a b → q b = p a) :
    Option.Rel (fun a b => R a b ∧ p a = true) (as.find? p) (bs.find? q) := by
  induction h with
  | nil => exact .none
  | @cons a b as bs hab _ ih =>
      rw [List.find?_cons, List.find?_cons, hpq a b hab]
      cases ha : p a with
      | true => exact .some ⟨hab, ha⟩
      | false => exact ih

theorem findSome?_eq_of_rel {f : α → Option γ} {g : β → Option γ} (h : List.Forall₂ R as bs)
    (hfg : ∀ a b, R a b → g b = f a) : bs.findSome? g = as.findSome? f := by
  induction h with
  | nil => rfl
  | @cons a b as bs hab _ ih => rw [List.findSome?_cons, List.findSome?_cons, hfg a b hab, ih]

theorem bind_eq_of_rel {x : Option α} {y : Option β} {f : α → Option γ} {g : β → Option γ}
    (h : Option.Rel R x y) (hfg : ∀ a b, R a b → g b = f a) : y.bind g = x.bind f := by
  cases h with
  | none => rfl
  | some hab => exact hfg _ _ hab

theorem toList_map_rel {δ : Type} {S : γ → δ → Prop} {x : Option α} {y : Option β} {f : α → γ}
    {g : β → δ} (h : Option.Rel R x y) (hS : ∀ a b, R a b → S (f a) (g b)) :
    List.Forall₂ S (x.map f).toList (y.map g).toList := by
  cases h with
  | none => exact .nil
  | some hab => exact .cons (hS _ _ hab) .nil

end

theorem Project.actor?_congr (p : Project) {a b : String} (h : sameName a b = true) :
    p.actor? b = p.actor? a := by
  simp only [Project.actor?, Text.sameName_congr_right h]

theorem Actor.sheet?_congr (actor : Actor) {a b : String} (h : sameName a b = true) :
    actor.sheet? b = actor.sheet? a := by
  simp only [Actor.sheet?, Text.sameName_congr_right h]

theorem SpriteSheet.animation?_congr (sheet : SpriteSheet) {a b : String}
    (h : sameName a b = true) : sheet.animation? b = sheet.animation? a := by
  simp only [SpriteSheet.animation?, Text.sameName_congr_right h]

theorem AddressMap.find?_foldCase (m : AddressMap) (type name : String) :
    m.find? type (foldCase name) = m.find? type name := by
  simp only [AddressMap.find?, Text.sameName_foldCase]

theorem AddressMap.find?_folded (m : AddressMap) (type name : String) :
    m.folded.find? type name = m.find? type name := by
  have hname : ∀ p : Placement, sameName p.folded.name name = sameName p.name name := by
    intro p
    rw [Placement.folded, Text.sameName_comm, Text.sameName_foldCase, Text.sameName_comm]
  rw [AddressMap.find?, AddressMap.find?, AddressMap.folded, List.find?_map]
  simp only [Function.comp_def]
  cases m.types.find? fun t => sameName t.1 type with
  | none => rfl
  | some t =>
      simp only [Option.map_some, List.find?_map, Function.comp_def, hname, Option.map_map]
      rfl

theorem Export.Level.Respelled.bind_actor? {R : Variable → Variable → Prop} {l m : Export.Level}
    (h : l.Respelled R m) (p : Project) :
    m.spriteActor.bind p.actor? = l.spriteActor.bind p.actor? := by
  have hactor : p.actor? ∘ foldCase = p.actor? := by
    funext name
    simp only [Function.comp_apply, Project.actor?, Text.sameName_foldCase]
  rw [← hactor, ← Option.bind_map, h.spriteActor, Option.bind_map]

theorem VariableTable.tagged?_rel {a b : VariableTable} (h : List.Forall₂ Variable.Respelled a b)
    (role : Role) (slot : Int32) :
    Option.Rel (fun v w => v.Respelled w ∧ v.plays role slot = true)
      (a.tagged? role slot) (b.tagged? role slot) :=
  find?_rel h fun _ _ hvw => hvw.plays role slot

/-- A variable that is found by another role has kept its value. -/
theorem VariableTable.value_tagged?_eq {a b : VariableTable} {role : Role}
    (h : List.Forall₂ Variable.Respelled a b) (hrole : ¬role.NamesSprite) (slot : Int32) :
    (b.tagged? role slot).map Variable.value = (a.tagged? role slot).map Variable.value := by
  rw [Option.map_eq_bind, Option.map_eq_bind]
  refine bind_eq_of_rel (VariableTable.tagged?_rel h role slot) fun v w hvw => ?_
  obtain ⟨hvw, hplays⟩ := hvw
  exact congrArg some (hvw.value_eq (Bool.and_eq_true_iff.1 hplays).2 hrole)

namespace Export.Context

/-! ### Resolution in two spellings -/

section

variable {decl decl' : Variable} {c d : Context}

theorem Respelled.project (h : Respelled decl c d) : d.project = c.project :=
  (congrArg Context.project h.others :)

theorem Respelled.typeName (h : Respelled decl c d) : d.type.name = c.type.name :=
  (congrArg EntityType.name h.type.2 :)

theorem Respelled.overrides (h : Respelled decl c d) :
    List.Forall₂ (Level.Respelled (Variable.RespelledFor decl)) c.overrides d.overrides :=
  List.rel_append
    (List.rel_append (toList_map_rel h.placement fun _ _ hlevel => hlevel.1)
      (toList_map_rel h.child fun _ _ hlevel => hlevel.1))
    (toList_map_rel h.archetype fun _ _ hlevel => hlevel.1)

theorem Respelled.overridingVars (h : Respelled decl c d) :
    List.Forall₂ (Variable.RespelledFor decl) c.overridingVars d.overridingVars :=
  List.rel_flatMap h.overrides fun _ _ hlevel => hlevel.vars

theorem Respelled.tagged? (h : Respelled decl c d) (role : Role) (slot : Int32) :
    Option.Rel (fun v w => v.Respelled w ∧ v.plays role slot = true)
      (c.tagged? role slot) (d.tagged? role slot) := by
  have hvars : List.Forall₂ Variable.Respelled (c.overridingVars ++ c.type.vars)
      (d.overridingVars ++ d.type.vars) :=
    List.rel_append (h.overridingVars.imp fun _ _ hvw => hvw.toRespelled) h.type.1.vars
  rw [tagged?_eq, tagged?_eq, ← VariableTable.tagged?_append, ← VariableTable.tagged?_append]
  exact VariableTable.tagged?_rel hvars role slot

theorem Respelled.actor? (h : Respelled decl c d) (slot : Int32) :
    d.actor? slot = c.actor? slot := by
  have hvariable : ((d.tagged? .spriteActor slot).bind fun w => d.project.actor? w.value) =
      (c.tagged? .spriteActor slot).bind fun v => c.project.actor? v.value := by
    rw [h.project]
    exact bind_eq_of_rel (h.tagged? _ _) fun v w hvw => Project.actor?_congr _ hvw.1.sameValue
  have htype : d.type.level.spriteActor.bind d.project.actor? =
      c.type.level.spriteActor.bind c.project.actor? := by
    rw [h.project, h.type.1.bind_actor?]
  have hoverrides : (d.overrides.findSome? fun level => level.spriteActor.bind d.project.actor?) =
      c.overrides.findSome? fun level => level.spriteActor.bind c.project.actor? := by
    rw [h.project]
    exact findSome?_eq_of_rel h.overrides fun l m hlm => hlm.bind_actor? _
  simp only [Context.actor?, levels, List.findSome?_append, List.findSome?_singleton, hvariable,
    htype, hoverrides]

/-- A declaration takes the same value, or the value names a sprite actor or a part of one
in another spelling. -/
theorem Respelled.valueOf (h : Respelled decl c d) (hdecl : decl.Respelled decl')
    (hname : decl'.name = decl.name) :
    d.valueOf decl' = c.valueOf decl ∨
      sameName (c.valueOf decl) (d.valueOf decl') = true ∧
        ∃ role : Role, role.NamesSprite ∧ decidingRole? decl.tags = some role := by
  have hfind := find?_rel h.overridingVars fun v w hvw =>
    hvw.toRespelled.overrides decl.name decl.slot
  rw [valueOf_eq, valueOf_eq, hname, hdecl.slot, VariableTable.named?, VariableTable.named?]
  generalize c.overridingVars.find? (Variable.overrides decl.name decl.slot) = x,
    d.overridingVars.find? (Variable.overrides decl.name decl.slot) = y at hfind ⊢
  cases hfind with
  | none =>
      refine hdecl.value.imp id fun ⟨hsame, role, hsprite, honly⟩ => ?_
      exact ⟨hsame, role, hsprite, honly.decidingRole?⟩
  | @some v w hvw =>
      obtain ⟨hvw, hoverrides⟩ := hvw
      by_cases heq : w.value = v.value
      · exact .inl heq
      · obtain ⟨hsame, role, hsprite, honly⟩ := hvw.value.resolve_left heq
        exact .inr ⟨hsame, role, hsprite, hvw.own heq hoverrides role ((honly role).2 rfl)⟩

/-- The type that an archetype is referred to by is the value of a variable for entities. -/
theorem Respelled.archetypeReference (h : Respelled decl c d) (hslot : decl'.slot = decl.slot)
    (hvalue : d.valueOf decl' = c.valueOf decl) :
    d.archetypeReference decl' = c.archetypeReference decl := by
  have hdescribed : ∀ {a b : Level}, a.Respelled (Variable.RespelledFor decl) b →
      (b.vars.tagged? .entityDesc decl.slot).map Variable.value =
        (a.vars.tagged? .entityDesc decl.slot).map Variable.value := fun hab =>
    VariableTable.value_tagged?_eq (hab.vars.imp fun _ _ hvw => hvw.toRespelled)
      (by decide) _
  have harchetype : (d.archetype.bind fun b =>
      (b.vars.tagged? .entityDesc decl.slot).map Variable.value) =
        c.archetype.bind fun a => (a.vars.tagged? .entityDesc decl.slot).map Variable.value :=
    bind_eq_of_rel h.archetype fun _ _ hab => hdescribed hab.1
  have hplacement : (d.placement.bind fun j =>
      (j.vars.tagged? .entityDesc decl.slot).map Variable.value) =
        c.placement.bind fun i => (i.vars.tagged? .entityDesc decl.slot).map Variable.value :=
    bind_eq_of_rel h.placement fun _ _ hij => hdescribed hij.1
  simp only [Context.archetypeReference, hvalue, hslot, h.typeName, Option.map_or, Option.map_bind,
    Function.comp_def, harchetype, hplacement]

theorem Respelled.coordinate (h : Respelled decl c d) : d.coordinate = c.coordinate := by
  have hborder : d.border = c.border := (congrArg Context.border h.others :)
  funext axis
  have hplacement := h.placement
  rw [Context.coordinate, Context.coordinate, hborder]
  generalize c.placement = x, d.placement = y at hplacement ⊢
  cases hplacement with
  | none => rfl
  | @some i j hij =>
      have hposition : j.position = i.position := (congrArg Instance.position hij.2 :)
      simp only [hposition]

theorem Respelled.scriptAddress (h : Respelled decl c d) : d.scriptAddress = c.scriptAddress := by
  funext target
  rw [Context.scriptAddress, Context.scriptAddress, h.typeName, ← AddressMap.find?_folded,
    h.addresses, AddressMap.find?_folded]

theorem scriptAddress_foldCase (c : Context) (target : String) :
    c.scriptAddress (foldCase target) = c.scriptAddress target := by
  rw [scriptAddress, scriptAddress, AddressMap.find?_foldCase]

theorem map_scriptTarget?_eq (hdecl : decl.Respelled decl') (c : Context) :
    (scriptTarget? decl').map c.scriptAddress = (scriptTarget? decl).map c.scriptAddress := by
  have hfold : ∀ v : Variable, (scriptTarget? v).map c.scriptAddress =
      ((findPayload? (v.tags.map foldCase) routineKey).or
        (findPayload? (v.tags.map foldCase) globalKey)).map c.scriptAddress := by
    intro v
    rw [findPayload?_map_foldCase, findPayload?_map_foldCase, ← Option.map_or, Option.map_map,
      scriptTarget?]
    have haddress : c.scriptAddress ∘ foldCase = c.scriptAddress :=
      funext c.scriptAddress_foldCase
    rw [haddress]
  rw [hfold, hfold, hdecl.tags]

/-- A declaration resolves to the same name, width and value in every spelling: of names and
tags throughout, of the actors that levels name by a field, of routines and globals in the
address map, and of values that name a sprite actor or a part of one. -/
theorem resolve_of_respelled (hdecl : decl.Respelled decl') (hname : decl'.name = decl.name)
    (h : Respelled decl c d) : (d.resolve decl').content = (c.resolve decl).content := by
  have hvalue := h.valueOf hdecl hname
  have hsame : sameName (c.valueOf decl) (d.valueOf decl') = true := by
    rcases hvalue with heq | ⟨hsame, -⟩
    · rw [heq, Text.sameName_refl]
    · exact hsame
  -- A value that is shown as it stands belongs to no declaration that names a sprite.
  have hshown : (∀ role, decidingRole? decl.tags = some role → ¬role.NamesSprite) →
      d.valueOf decl' = c.valueOf decl := by
    intro hnot
    rcases hvalue with heq | ⟨-, role, hsprite, hrole⟩
    · exact heq
    · exact absurd hsprite (hnot role hrole)
  have hactor : d.actor? decl'.slot = c.actor? decl.slot := by rw [hdecl.slot, h.actor?]
  have hsheet : ∀ actor : Actor,
      (d.tagged? .spriteSheet decl'.slot).bind (fun w => actor.sheet? w.value) =
        (c.tagged? .spriteSheet decl.slot).bind fun v => actor.sheet? v.value := by
    intro actor
    rw [hdecl.slot]
    exact bind_eq_of_rel (h.tagged? _ _) fun v w hvw => actor.sheet?_congr hvw.1.sameValue
  have hresolved : d.resolvedValue decl' = c.resolvedValue decl := by
    refine resolvedValue_congr (decidingRole?_congr hdecl.hasRole) h.typeName ?_ ?_ ?_ ?_ ?_ ?_ ?_
    · exact (congrArg EntityType.prefabLabel h.type.2 :)
    · rintro (hrole | hrole)
      · exact hshown (by rw [hrole]; rintro _ ⟨⟩; decide)
      · exact hshown (by rw [hrole]; rintro _ ⟨⟩)
    · intro hrole
      exact h.archetypeReference hdecl.slot (hshown (by rw [hrole]; rintro _ ⟨⟩; decide))
    · exact fun _ => h.coordinate
    · exact fun _ => sheetSymbol_congr hactor fun actor => actor.sheet?_congr hsame
    · exact fun _ => animationSymbol_congr hactor hsheet fun sheet => sheet.animation?_congr hsame
    · exact fun _ => by rw [h.scriptAddress, map_scriptTarget?_eq hdecl]
  rw [Param.content, Param.content, resolve, resolve, hname, hdecl.size, hresolved]

end

/-- The enemy runs in either spelling: the sheet is overridden by the instance, the actor
is the one that the prefab child names, and the loop is the one of the type. -/
theorem respelled_enemy_runs :
    let run : Variable := spriteVariable "SDSprite_Sheet" .spriteSheet "Run"
    let run' : Variable := ⟨"SDSPRITE_SHEET", .long, "RUN", ["sprite_sheet"], 0, "ECSprite"⟩
    let loop' : Variable := ⟨"SDSprite_Anim", .long, "LOOP", ["sprite_anim"], 0, "ECSprite"⟩
    let child : PrefabChild := ⟨3, "Guard", 1, .zero, some "enemy", []⟩
    let child' : PrefabChild := ⟨3, "Guard", 1, .zero, some "Enemy", []⟩
    let c := { enemyContext [] with
      placement := some (placedEnemy none [run])
      child := some child
      addresses := ⟨[("EEnemy", [⟨"OnHit", 4660⟩])]⟩ }
    let d := { c with
      type := { c.type with vars := [sheetVariable, loop'] }
      placement := some (placedEnemy none [run'])
      child := some child'
      addresses := ⟨[("EEnemy", [⟨"ONHIT", 4660⟩])]⟩ }
    animationVariable.Respelled loop' ∧ Respelled animationVariable c d ∧
    (d.resolve loop').content = ("SDSprite_Anim", .long, "actor_Enemy_sheet_Run_anim_Loop") := by
  intro run run' loop' child child' c d
  have hloop : animationVariable.Respelled loop' :=
    ⟨by decide +kernel, by decide +kernel,
      .inr ⟨by decide +kernel, .spriteAnimation, by decide, by decide +kernel⟩, rfl⟩
  have hrun : run.Respelled run' :=
    ⟨by decide +kernel, by decide +kernel,
      .inr ⟨by decide +kernel, .spriteSheet, by decide, by decide +kernel⟩, rfl⟩
  have hsheet : sheetVariable.Respelled sheetVariable :=
    ⟨Text.sameName_refl _, rfl, .inl rfl, rfl⟩
  have hplaced : Level.Respelled (Variable.RespelledFor animationVariable) ⟨[run], none⟩
      ⟨[run'], none⟩ :=
    ⟨.cons ⟨hrun, fun _ hname => absurd hname (by decide +kernel)⟩ .nil, rfl⟩
  have hrespelled : Respelled animationVariable c d :=
    { type := ⟨⟨.cons hsheet (.cons hloop .nil), rfl⟩, rfl⟩
      placement := .some ⟨hplaced, rfl⟩
      child := .some ⟨⟨.nil, by decide +kernel⟩, rfl⟩
      archetype := .none
      addresses := by decide +kernel
      others := rfl }
  have hvalue : (c.resolve animationVariable).content =
      ("SDSprite_Anim", .long, "actor_Enemy_sheet_Run_anim_Loop") := by decide +kernel
  refine ⟨hloop, hrespelled, ?_⟩
  rw [resolve_of_respelled hloop rfl hrespelled, hvalue]

end Export.Context

end Cartridge
