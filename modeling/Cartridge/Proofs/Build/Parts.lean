import Cartridge.Export.Build
import Mathlib.Data.List.Induction
import Mathlib.Data.List.Nodup

/-!
What the variables and routines of a type make up when they are handed out in turn. However
their slots alternate, the parameters of the entity are those of the variables in no slot,
and there is one component for each slot, in the order in which the slots appear, with the
parameters of its variables: `parts_eq`. The routines are added to these:
`scriptedParts_value`.
-/

namespace Cartridge

/-! ### Slots -/

namespace VariableTable

/-- The component slots of some variables, in the order of their first appearance. -/
def slots (table : VariableTable) : List Int32 :=
  ((table.filter fun v => !v.ofEntity).map Variable.slot).eraseDups

def inSlot (table : VariableTable) (slot : Int32) : VariableTable :=
  table.filter fun v => v.slot == slot

/-- The name of the component in a slot, which its first variable gives. -/
def componentName (table : VariableTable) (slot : Int32) : String :=
  ((table.inSlot slot).head?.map Variable.componentName).getD ""

variable {table : VariableTable} {v : Variable} {slot : Int32}

theorem mem_slots : slot ∈ table.slots ↔ 0 ≤ slot ∧ ∃ v ∈ table, v.slot = slot := by
  simp only [slots, List.mem_eraseDups, List.mem_map, List.mem_filter, Variable.ofEntity,
    Bool.not_eq_true', decide_eq_false_iff_not, Int32.not_lt]
  constructor
  · rintro ⟨v, ⟨hv, hslot⟩, rfl⟩
    exact ⟨hslot, v, hv, rfl⟩
  · rintro ⟨hslot, v, hv, rfl⟩
    exact ⟨v, ⟨hv, hslot⟩, rfl⟩

theorem slots_concat_of_ofEntity (h : v.ofEntity = true) :
    (table ++ [v]).slots = table.slots := by
  simp [slots, h]

theorem slots_concat_of_mem (h : v.slot ∈ table.slots) :
    (table ++ [v]).slots = table.slots := by
  have hv : v.ofEntity = false := decide_eq_false (Int32.not_lt.2 (mem_slots.1 h).1)
  rw [slots, List.mem_eraseDups] at h
  simp [slots, hv, List.eraseDups_append, List.removeAll, h]

theorem slots_concat_of_notMem (hv : v.ofEntity = false) (h : v.slot ∉ table.slots) :
    (table ++ [v]).slots = table.slots ++ [v.slot] := by
  rw [slots, List.mem_eraseDups] at h
  simp [slots, hv, List.eraseDups_append, List.removeAll, h, List.eraseDups_cons]

theorem nodup_slots (table : VariableTable) : table.slots.Nodup := by
  induction table using List.reverseRecOn with
  | nil => exact List.nodup_nil
  | append_singleton table v ih =>
      by_cases hv : v.ofEntity = true
      · rwa [slots_concat_of_ofEntity hv]
      by_cases hslot : v.slot ∈ slots table
      · rwa [slots_concat_of_mem hslot]
      · rw [slots_concat_of_notMem (by simpa using hv) hslot]
        exact List.nodup_append_comm.1 (List.nodup_cons.2 ⟨hslot, ih⟩)

theorem inSlot_concat_self : (table ++ [v]).inSlot v.slot = table.inSlot v.slot ++ [v] := by
  simp [inSlot]

theorem inSlot_concat_of_ne (h : v.slot ≠ slot) :
    (table ++ [v]).inSlot slot = table.inSlot slot := by
  simp [inSlot, h]

theorem inSlot_ne_nil (h : slot ∈ table.slots) : table.inSlot slot ≠ [] := by
  obtain ⟨-, v, hv, hslot⟩ := mem_slots.1 h
  exact List.ne_nil_of_mem (List.mem_filter.2 ⟨hv, by simp [hslot]⟩)

/-- A slot in which nothing is yet. -/
theorem inSlot_eq_nil (hv : v.ofEntity = false) (h : v.slot ∉ table.slots) :
    table.inSlot v.slot = [] := by
  rw [inSlot, List.filter_eq_nil_iff]
  intro w hw hslot
  exact h (mem_slots.2 ⟨Int32.not_lt.1 (of_decide_eq_false hv), w, hw, by simpa using hslot⟩)

theorem componentName_concat (h : slot ∈ table.slots) :
    (table ++ [v]).componentName slot = table.componentName slot := by
  by_cases hslot : v.slot = slot
  · subst hslot
    rw [componentName, inSlot_concat_self, List.head?_append_of_ne_nil _ (inSlot_ne_nil h)]
    rfl
  · rw [componentName, inSlot_concat_of_ne hslot]
    rfl

end VariableTable

namespace EntityType

/-- The routines of the entity itself. -/
def ownRoutines (t : EntityType) : List Routine :=
  (t.routines.filter fun r => r.slot < 0).map (RoutineDecl.ownedBy · t.name)

/-- The routines of the component in a slot. -/
def routinesIn (t : EntityType) (slot : Int32) : List Routine :=
  (t.routines.filter fun r => r.slot == slot).map
    (RoutineDecl.ownedBy · (t.vars.componentName slot))

end EntityType

namespace Export

namespace Parts

/-! ### The component in a slot -/

section

variable {slots : List Int32} {slot : Int32} {change : Component → Component}

theorem alter?_of_notMem (h : slot ∉ slots) (record : Int32 → Component) :
    alter? slot change (slots.map fun s => (s, record s)) = none := by
  induction slots with
  | nil => rfl
  | cons s slots ih =>
      rw [List.mem_cons, not_or] at h
      rw [List.map_cons, alter?, if_neg (by simpa using Ne.symm h.1), ih h.2, Option.map_none]

theorem alter?_of_mem (hnodup : slots.Nodup) (h : slot ∈ slots) (record : Int32 → Component) :
    alter? slot change (slots.map fun s => (s, record s)) =
      some (slots.map fun s => (s, if s = slot then change (record s) else record s)) := by
  induction slots with
  | nil => cases h
  | cons s slots ih =>
      rw [List.nodup_cons] at hnodup
      rw [List.map_cons, alter?, List.map_cons]
      by_cases hs : s = slot
      · subst hs
        rw [if_pos BEq.rfl, if_pos rfl]
        -- The slot does not come up again.
        have hrest : ∀ s' ∈ slots, s' ≠ s := fun s' hs' heq => hnodup.1 (heq ▸ hs')
        congr 2
        exact List.map_congr_left fun s' hs' => by rw [if_neg (hrest s' hs')]
      · rw [if_neg (by simpa using hs), if_neg hs,
          ih hnodup.2 ((List.mem_cons.1 h).resolve_left (Ne.symm hs)), Option.map_some]

end

/-! ### Parameters -/

section

variable (resolve : Variable → Param)

/-- The component of a slot with what its variables resolve to. -/
def record (table : VariableTable) (slot : Int32) : Component :=
  let name := table.componentName slot
  ⟨name, { SpawnData.named name with params := (table.inSlot slot).map resolve }, []⟩

/-- What some variables make up: the parameters of those in no slot, and a component for each
slot. -/
def ofVars (table : VariableTable) : Parts :=
  ⟨(table.filter Variable.ofEntity).map resolve, [],
    table.slots.map fun slot => (slot, record resolve table slot)⟩

variable {resolve} {table : VariableTable} {v : Variable}

theorem record_concat_self (h : v.slot ∈ table.slots) :
    record resolve (table ++ [v]) v.slot = (record resolve table v.slot).addParam (resolve v) := by
  simp [record, Component.addParam, VariableTable.componentName_concat h,
    VariableTable.inSlot_concat_self]

theorem record_concat_of_ne {slot : Int32} (hslot : slot ∈ table.slots) (h : v.slot ≠ slot) :
    record resolve (table ++ [v]) slot = record resolve table slot := by
  simp [record, VariableTable.componentName_concat hslot, VariableTable.inSlot_concat_of_ne h]

/-- The component that the first variable of a slot makes. -/
theorem record_concat_new (hv : v.ofEntity = false) (h : v.slot ∉ table.slots) :
    record resolve (table ++ [v]) v.slot =
      (Component.named v.componentName).addParam (resolve v) := by
  simp [record, VariableTable.componentName, VariableTable.inSlot_concat_self,
    VariableTable.inSlot_eq_nil hv h, Component.addParam, Component.named, SpawnData.named]

/-- One more variable is added to what the variables before it make up. -/
theorem addParam_ofVars :
    (ofVars resolve table).addParam v (resolve v) = ofVars resolve (table ++ [v]) := by
  by_cases hv : v.ofEntity = true
  · have hrecords : ∀ slot ∈ table.slots,
        (slot, record resolve table slot) = (slot, record resolve (table ++ [v]) slot) := by
      intro slot hslot
      have hne : v.slot ≠ slot := by
        rintro rfl
        exact Int32.not_lt.2 (VariableTable.mem_slots.1 hslot).1 (of_decide_eq_true hv)
      rw [record_concat_of_ne hslot hne]
    simp only [addParam, hv, if_true, ofVars, VariableTable.slots_concat_of_ofEntity hv,
      List.filter_append, List.map_append, List.map_congr_left hrecords]
    simp [hv]
  · have hv' : v.ofEntity = false := by simpa using hv
    have hown : ((table ++ [v]).filter Variable.ofEntity).map resolve =
        (table.filter Variable.ofEntity).map resolve := by simp [hv']
    by_cases hslot : v.slot ∈ table.slots
    · -- There is a component in the slot: it takes the parameter, and all others stay.
      have hrecords : ∀ slot ∈ table.slots, (slot, if slot = v.slot then
          (record resolve table slot).addParam (resolve v) else record resolve table slot) =
          (slot, record resolve (table ++ [v]) slot) := by
        intro slot hmem
        by_cases heq : slot = v.slot
        · rw [if_pos heq, heq, record_concat_self hslot]
        · rw [if_neg heq, record_concat_of_ne hmem (Ne.symm heq)]
      simp only [addParam, hv', Bool.false_eq_true, if_false, ofVars,
        alter?_of_mem table.nodup_slots hslot, VariableTable.slots_concat_of_mem hslot, hown,
        List.map_congr_left hrecords]
    · -- The variable is the first in its slot, so a component with its parameter comes last.
      have hrecords : ∀ slot ∈ table.slots,
          (slot, record resolve table slot) = (slot, record resolve (table ++ [v]) slot) := by
        intro slot hmem
        rw [record_concat_of_ne hmem fun heq => hslot (heq ▸ hmem)]
      simp only [addParam, hv', Bool.false_eq_true, if_false, ofVars, alter?_of_notMem hslot,
        VariableTable.slots_concat_of_notMem hv' hslot, hown, List.map_append, List.map_singleton,
        record_concat_new hv' hslot, List.map_congr_left hrecords]

theorem foldl_addParam (resolve : Variable → Param) (table : VariableTable) :
    table.foldl (fun parts v => parts.addParam v (resolve v)) empty = ofVars resolve table := by
  induction table using List.reverseRecOn with
  | nil => rfl
  | append_singleton table v ih => rw [List.foldl_concat, ih, addParam_ofVars]

end

/-! ### Routines -/

/-- The routines of the component in a slot, added to a component. -/
def withRoutines (routines : List RoutineDecl) (slot : Int32) (c : Component) : Component :=
  { c with routines := c.routines ++
      (routines.filter fun r => r.slot == slot).map (RoutineDecl.ownedBy · c.name) }

section

variable {slots : List Int32}

/-- Routines go to the entity or to the component in their slot, in order, whatever is there
already. -/
theorem addRoutines_value (hnodup : slots.Nodup) (hslots : ∀ slot ∈ slots, 0 ≤ slot)
    (typeName : String) (params : List Param) (own : List Routine) (record : Int32 → Component)
    (routines : List RoutineDecl) :
    (addRoutines typeName ⟨params, own, slots.map fun slot => (slot, record slot)⟩
        routines).value =
      ⟨params, own ++ (routines.filter fun r => r.slot < 0).map (RoutineDecl.ownedBy · typeName),
        slots.map fun slot => (slot, withRoutines routines slot (record slot))⟩ := by
  induction routines generalizing own record with
  | nil => simp [addRoutines, withRoutines]
  | cons r rest ih =>
      rw [addRoutines, Logged.value_bind, addRoutine]
      by_cases hr : r.slot < 0
      · have hrecords : ∀ slot ∈ slots, withRoutines (r :: rest) slot (record slot) =
            withRoutines rest slot (record slot) := by
          intro slot hslot
          have hne : r.slot ≠ slot := by
            rintro rfl
            exact Int32.not_lt.2 (hslots _ hslot) hr
          simp [withRoutines, hne]
        have hcomponents :
            (slots.map fun slot => (slot, withRoutines (r :: rest) slot (record slot))) =
              slots.map fun slot => (slot, withRoutines rest slot (record slot)) :=
          List.map_congr_left fun slot hslot => by rw [hrecords slot hslot]
        rw [if_pos hr, Logged.value_pure, ih, hcomponents,
          List.filter_cons_of_pos (by simpa using hr), List.map_cons, List.append_assoc,
          List.singleton_append]
      · rw [if_neg hr, List.filter_cons_of_neg (by simpa using hr)]
        by_cases hmem : r.slot ∈ slots
        · simp only [alter?_of_mem hnodup hmem, Logged.value_pure, ih]
          congr 1
          refine List.map_congr_left fun slot _ => ?_
          by_cases heq : slot = r.slot
          · simp [heq, withRoutines, Component.addRoutine]
          · simp [heq, Ne.symm heq, withRoutines]
        · simp only [alter?_of_notMem hmem, ih]
          congr 1
          refine List.map_congr_left fun slot hslot => ?_
          have hne : r.slot ≠ slot := fun heq => hmem (heq ▸ hslot)
          simp [withRoutines, hne]

end

end Parts

/-! ### Entities -/

namespace Context

variable (c : Context)

/-- The resolved parameters of the entity itself. -/
def ownParams : List Param :=
  (c.type.vars.filter Variable.ofEntity).map c.resolve

/-- The component in a slot with its resolved parameters and its routines. -/
def scriptedComponent (slot : Int32) : Component :=
  { Parts.record c.resolve c.type.vars slot with routines := c.type.routinesIn slot }

theorem parts_eq : c.parts = Parts.ofVars c.resolve c.type.vars :=
  Parts.foldl_addParam c.resolve c.type.vars

theorem scriptedParts_value : c.scriptedParts.value =
    ⟨c.ownParams, c.type.ownRoutines,
      c.type.vars.slots.map fun slot => (slot, c.scriptedComponent slot)⟩ := by
  rw [scriptedParts, parts_eq, Parts.ofVars, Parts.addRoutines_value c.type.vars.nodup_slots
    fun slot hslot => (VariableTable.mem_slots.1 hslot).1]
  rfl

theorem entity_eq (id : UInt16) (name : String) (position : Point) (dimensions : Dimensions) :
    c.entity id name position dimensions =
      ⟨c.type.name, id, ⟨name, position, dimensions, c.ownParams⟩,
        c.type.vars.slots.map c.scriptedComponent, c.type.ownRoutines, c.type.isStatic⟩ := by
  rw [entity, scriptedParts_value, List.map_map]
  rfl

end Context

end Export

end Cartridge
