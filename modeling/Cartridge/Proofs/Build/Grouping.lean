import Cartridge.Proofs.Build.Parts
import Mathlib.Data.List.Perm.Basic

/-!
Declarations by their owners. The parameters of a type are dealt out to the entity and to
one component for each slot, however the slots alternate, and so are its routines. Every
declared parameter has one owner and is there once; of the routines those are left out
that no variable made a component for: `declarations_grouped`.
-/

namespace Cartridge

/-! ### Lists that are dealt out -/

section

variable {α κ : Type}

theorem filter_append_perm_of_apart {items : List α} {p q : α → Bool}
    (h : ∀ x ∈ items, p x = true → q x = false) :
    (items.filter p ++ items.filter q).Perm (items.filter fun x => p x || q x) := by
  induction items with
  | nil => exact .nil
  | cons x rest ih =>
      rw [List.forall_mem_cons] at h
      cases hp : p x with
      | true =>
          rw [List.filter_cons_of_pos hp, List.filter_cons_of_neg (by simp [h.1 hp]),
            List.filter_cons_of_pos (by simp [hp]), List.cons_append]
          exact (ih h.2).cons x
      | false =>
          rw [List.filter_cons_of_neg (by simp [hp])]
          cases hq : q x with
          | true =>
              rw [List.filter_cons_of_pos hq, List.filter_cons_of_pos (by simp [hq])]
              exact List.perm_middle.trans ((ih h.2).cons x)
          | false =>
              rw [List.filter_cons_of_neg (by simp [hq]),
                List.filter_cons_of_neg (by simp [hp, hq])]
              exact ih h.2

variable [DecidableEq κ]

/-- What is dealt out by distinct keys is there once, if its key is among them. -/
theorem flatMap_filter_perm {keys : List κ} (h : keys.Nodup) (key : α → κ) (items : List α) :
    (keys.flatMap fun k => items.filter (key · = k)).Perm (items.filter (key · ∈ keys)) := by
  induction keys with
  | nil => simp
  | cons k keys ih =>
      rw [List.nodup_cons] at h
      have hapart : ∀ x ∈ items, decide (key x = k) = true → decide (key x ∈ keys) = false := by
        intro x _ hx
        rw [of_decide_eq_true hx]
        exact decide_eq_false h.1
      rw [List.flatMap_cons]
      refine ((ih h.2).append_left _).trans ((filter_append_perm_of_apart hapart).trans ?_)
      simp [List.mem_cons]

/-- The first appearances in a list follow each other in it. -/
theorem pairwise_idxOf_eraseDups (p : κ → Bool) (keys : List κ) :
    (keys.filter p).eraseDups.Pairwise fun k k' => keys.idxOf k < keys.idxOf k' := by
  induction keys generalizing p with
  | nil => exact .nil
  | cons k keys ih =>
      -- What is erased behind the first key is what it is different from.
      have hlater : ∀ q : κ → Bool, q k = false →
          (keys.filter q).eraseDups.Pairwise fun a b =>
            (k :: keys).idxOf a < (k :: keys).idxOf b := by
        intro q hq
        have hne : ∀ a ∈ (keys.filter q).eraseDups, k ≠ a := by
          rintro a ha rfl
          rw [List.mem_eraseDups, List.mem_filter, hq] at ha
          cases ha.2
        refine (ih q).imp_of_mem fun ha hb hlt => ?_
        rw [List.idxOf_cons_ne _ (hne _ ha), List.idxOf_cons_ne _ (hne _ hb)]
        exact Nat.succ_lt_succ hlt
      cases hp : p k with
      | true =>
          rw [List.filter_cons_of_pos hp, List.eraseDups_cons, List.filter_filter,
            List.pairwise_cons]
          refine ⟨fun a ha => ?_, hlater _ (by simp)⟩
          have hne : k ≠ a := by
            rintro rfl
            simp [List.mem_eraseDups] at ha
          rw [List.idxOf_cons_self, List.idxOf_cons_ne _ hne]
          exact Nat.succ_pos _
      | false =>
          rw [List.filter_cons_of_neg (by simp [hp])]
          exact hlater p hp

end

/-! ### Owners -/

/-- The component slots of a type, each where a variable is in it for the first time. -/
structure EntityType.HasSlots (t : EntityType) (slots : List Int32) : Prop where
  mem_iff : ∀ slot, slot ∈ slots ↔ 0 ≤ slot ∧ ∃ v ∈ t.vars, v.slot = slot
  inOrder : slots.Pairwise fun slot slot' =>
    (t.vars.map Variable.slot).idxOf slot < (t.vars.map Variable.slot).idxOf slot'

/-- The component of a slot: the first variable in the slot names it, and its parameters
are what all the variables in the slot resolve to. -/
structure Export.Context.Fills (c : Context) (slot : Int32) (component : Component) : Prop where
  name : ∃ v, c.type.vars.find? (·.slot = slot) = some v ∧ component.name = v.componentName
  params : component.spawn.params = (c.type.vars.filter (·.slot = slot)).map c.resolve

/-- Parameters and components that have what the variables of a type resolve to, each
variable once. -/
structure Export.Context.Groups (c : Context) (slots : List Int32) (own : List Param)
    (components : List Component) : Prop where
  own_eq : own = (c.type.vars.filter (·.slot < 0)).map c.resolve
  fills : List.Forall₂ c.Fills slots components
  complete : (own ++ components.flatMap fun component => component.spawn.params).Perm
    (c.type.vars.map c.resolve)

/-- A routine of any scope. -/
def Routine.unscoped (r : Routine) : Routine :=
  { r with scope := "" }

/-- An entity and components that have the routines of a type, each once, save those in
other slots. -/
structure EntityType.Attaches (t : EntityType) (slots : List Int32) (e : Entity) : Prop where
  own_eq : e.routines = (t.routines.filter (·.slot < 0)).map (·.ownedBy t.name)
  attached : List.Forall₂ (fun slot component => component.routines =
    (t.routines.filter (·.slot = slot)).map (·.ownedBy component.name)) slots e.components
  complete : ((e.routines ++ e.components.flatMap Component.routines).map Routine.unscoped).Perm
    ((t.routines.filter fun r => r.slot < 0 || r.slot ∈ slots).map (·.ownedBy ""))

namespace EntityType

variable {t : EntityType} {slots : List Int32}

theorem hasSlots_slots (t : EntityType) : t.HasSlots t.vars.slots where
  mem_iff _ := VariableTable.mem_slots
  inOrder := by
    have h := pairwise_idxOf_eraseDups (fun slot => !decide (slot < 0)) (t.vars.map Variable.slot)
    rwa [List.filter_map] at h

theorem HasSlots.nodup (h : t.HasSlots slots) : slots.Nodup :=
  h.inOrder.imp fun {slot slot'} hlt heq => by
    rw [heq] at hlt
    exact Nat.lt_irrefl _ hlt

/-- What is dealt out to the entity and to the slots is there once, save what belongs to
no slot. -/
theorem HasSlots.dealt {α : Type} (h : t.HasSlots slots) (slot : α → Int32) (items : List α) :
    (items.filter (slot · < 0) ++ slots.flatMap fun s => items.filter (slot · = s)).Perm
      (items.filter fun x => slot x < 0 || slot x ∈ slots) := by
  have hapart : ∀ x ∈ items, decide (slot x < 0) = true → decide (slot x ∈ slots) = false := by
    intro x _ hx
    refine decide_eq_false fun hmem => ?_
    exact Int32.not_lt.2 ((h.mem_iff _).1 hmem).1 (of_decide_eq_true hx)
  exact ((flatMap_filter_perm h.nodup slot items).append_left _).trans
    (filter_append_perm_of_apart hapart)

/-- Every variable of the type belongs to the entity or to a slot. -/
theorem HasSlots.dealt_vars (h : t.HasSlots slots) :
    (t.vars.filter (·.slot < 0) ++ slots.flatMap fun s => t.vars.filter (·.slot = s)).Perm
      t.vars := by
  have hall : (t.vars.filter fun v => v.slot < 0 || v.slot ∈ slots) = t.vars := by
    refine List.filter_eq_self.2 fun v hv => ?_
    rw [Bool.or_eq_true, decide_eq_true_eq, decide_eq_true_eq, h.mem_iff]
    by_cases hslot : v.slot < 0
    · exact .inl hslot
    · exact .inr ⟨Int32.not_lt.1 hslot, v, hv, rfl⟩
  have hdealt := h.dealt Variable.slot t.vars
  rwa [hall] at hdealt

theorem find?_of_mem_slots {slot : Int32} (h : slot ∈ t.vars.slots) :
    ∃ v, t.vars.find? (·.slot = slot) = some v ∧
      t.vars.componentName slot = v.componentName := by
  obtain ⟨-, v, hv, hslot⟩ := VariableTable.mem_slots.1 h
  have hsome : (t.vars.find? (·.slot = slot)).isSome :=
    List.find?_isSome.2 ⟨v, hv, decide_eq_true hslot⟩
  obtain ⟨first, hfirst⟩ := Option.isSome_iff_exists.1 hsome
  refine ⟨first, hfirst, ?_⟩
  have hvariables : t.vars.inSlot slot = t.vars.filter (·.slot = slot) := rfl
  rw [VariableTable.componentName, hvariables, List.head?_filter, hfirst]
  rfl

end EntityType

namespace Export.Context

variable (c : Context)

theorem fills_of_record {slot : Int32} (h : slot ∈ c.type.vars.slots) {component : Component}
    (hname : component.name = c.type.vars.componentName slot)
    (hparams : component.spawn.params = (c.type.vars.inSlot slot).map c.resolve) :
    c.Fills slot component := by
  obtain ⟨v, hv, hfirst⟩ := EntityType.find?_of_mem_slots h
  exact ⟨⟨v, hv, hname.trans hfirst⟩, hparams⟩

/-- Records of the slots hold what the variables of the type resolve to. -/
theorem groups_records {record : Int32 → Component}
    (hname : ∀ slot, (record slot).name = c.type.vars.componentName slot)
    (hparams : ∀ slot, (record slot).spawn.params = (c.type.vars.inSlot slot).map c.resolve) :
    c.Groups c.type.vars.slots c.ownParams (c.type.vars.slots.map record) where
  own_eq := rfl
  fills := by
    rw [List.forall₂_map_right_iff, List.forall₂_same]
    exact fun slot hslot => c.fills_of_record hslot (hname slot) (hparams slot)
  complete := by
    have hdealt := c.type.hasSlots_slots.dealt_vars.map c.resolve
    rw [List.map_append, List.map_flatMap] at hdealt
    simp only [List.flatMap_map, hparams]
    exact hdealt

/-- The parts without routines, which an archetype is made of. -/
theorem groups_parts :
    c.Groups c.type.vars.slots c.parts.params (c.parts.components.map Prod.snd) := by
  rw [parts_eq, Parts.ofVars, List.map_map]
  exact c.groups_records (fun _ => rfl) fun _ => rfl

variable (id : UInt16) (name : String) (position : Point) (dimensions : Dimensions)

theorem groups_entity :
    c.Groups c.type.vars.slots (c.entity id name position dimensions).spawn.params
      (c.entity id name position dimensions).components := by
  rw [entity_eq]
  exact c.groups_records (fun _ => rfl) fun _ => rfl

theorem attaches_entity :
    c.type.Attaches c.type.vars.slots (c.entity id name position dimensions) := by
  rw [entity_eq]
  refine ⟨rfl, ?_, ?_⟩
  · rw [List.forall₂_map_right_iff, List.forall₂_same]
    exact fun _ _ => rfl
  · have hdealt := (c.type.hasSlots_slots.dealt RoutineDecl.slot c.type.routines).map
      (·.ownedBy "")
    rw [List.map_append, List.map_flatMap] at hdealt
    simp only [scriptedComponent, EntityType.ownRoutines, EntityType.routinesIn,
      List.map_append, List.map_flatMap, List.flatMap_map, List.map_map]
    exact hdealt

end Export.Context

/-- The parameters of a type's variables are dealt out to an entity and its components by
their slots, in every way of building one, and its routines go with them. -/
theorem Export.Builder.declarations_grouped (b : Builder) (t : EntityType) :
    ∃ slots, t.HasSlots slots ∧
      (∀ (c : Context) (v : Variable), (c.resolve v).name = v.name ∧
        (c.resolve v).size = v.size ∧ (c.resolve v).tags = v.tags) ∧
      ((b.context t).Groups slots (b.typeEntity t).spawn.params (b.typeEntity t).components ∧
        t.Attaches slots (b.typeEntity t)) ∧
      (∀ i : Instance, { b.context t with placement := some i }.Groups slots
          (b.instanceEntity t i).spawn.params (b.instanceEntity t i).components ∧
        t.Attaches slots (b.instanceEntity t i)) ∧
      (∀ child : PrefabChild, { b.context t with child := some child }.Groups slots
          (b.childEntity t child).spawn.params (b.childEntity t child).components ∧
        t.Attaches slots (b.childEntity t child)) ∧
      ∀ a : ArchetypeDef, b.project.typeWithId? a.typeId = some t →
        ∃ built, b.archetype a = .ok built ∧
          { b.context t with archetype := some a }.Groups slots built.params built.components := by
  refine ⟨t.vars.slots, t.hasSlots_slots, fun _ _ => ⟨rfl, rfl, rfl⟩, ⟨?_, ?_⟩, fun i => ⟨?_, ?_⟩,
    fun child => ⟨?_, ?_⟩, fun a ha => ?_⟩
  · exact (b.context t).groups_entity ..
  · exact (b.context t).attaches_entity ..
  · exact { b.context t with placement := some i }.groups_entity ..
  · exact { b.context t with placement := some i }.attaches_entity ..
  · exact { b.context t with child := some child }.groups_entity ..
  · exact { b.context t with child := some child }.attaches_entity ..
  · refine ⟨_, by rw [archetype, ha], ?_⟩
    exact { b.context t with archetype := some a }.groups_parts

/-- A gun and a body whose variables alternate, with a routine for a third slot. -/
def turret : EntityType where
  id := 3
  name := "ETurret"
  dimensions := .zero
  spriteActor := none
  vars := [⟨"ECGun_Rate", .word, "8", [], 1, "ECGun"⟩, ⟨"Health", .word, "40", [], -1, ""⟩,
    ⟨"ECBody_Mass", .word, "2", [], 0, "ECBody"⟩, ⟨"ECGun_Heat", .byte, "0", [], 1, "ECBarrel"⟩,
    ⟨"ECBody_Hits", .byte, "0", [], 0, "ECBody"⟩]
  routines := [⟨"OnHit", "void", "ETurret_OnHit", [], 0⟩,
    ⟨"OnFire", "void", "ETurret_OnFire", [], 1⟩, ⟨"OnLost", "void", "ETurret_OnLost", [], 2⟩,
    ⟨"OnStart", "void", "ETurret_OnStart", [], -1⟩]
  prefabName := none
  prefabChildren := []
  isStatic := false

theorem turret_grouped :
    let b : Export.Builder := ⟨⟨[turret], [], [], []⟩, .empty, .default⟩
    let fast : ArchetypeDef := ⟨"Fast", 3, none, [⟨"ECGun_Rate", .word, "2", [], 1, ""⟩]⟩
    b.project.typeWithId? fast.typeId = some turret ∧
      ((b.typeEntity turret).components.map fun d =>
          (d.name, d.spawn.params.map Param.name, d.routines.map Routine.name)) =
        [("ECGun", ["ECGun_Rate", "ECGun_Heat"], ["OnFire"]),
          ("ECBody", ["ECBody_Mass", "ECBody_Hits"], ["OnHit"])] ∧
      ∃ slots, turret.HasSlots slots ∧ turret.Attaches slots (b.typeEntity turret) ∧
        ∃ built, b.archetype fast = .ok built ∧
          { b.context turret with archetype := some fast }.Groups slots built.params
            built.components := by
  intro b fast
  have htype : b.project.typeWithId? fast.typeId = some turret := rfl
  obtain ⟨slots, hslots, -, ⟨-, hattaches⟩, -, -, harchetypes⟩ := b.declarations_grouped turret
  exact ⟨htype, rfl, slots, hslots, hattaches, harchetypes fast htype⟩

end Cartridge
