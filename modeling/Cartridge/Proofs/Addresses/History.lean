import Cartridge.Proofs.Addresses.Map
import Mathlib.Data.List.Find
import Mathlib.Data.Set.Finite.Lemmas

/-!
Address maps by the placements that were made in them. Placements are kept under their
type as it was spelled when they were made, while a lookup goes to one spelling alone:
of those that were used for the type it asks for, the first in order. So a map answers
with the earliest placement of that spelling, and with the earliest one of all if the
type was spelled one way throughout: `lookup_of_history`.
-/

namespace Cartridge.AddressMap

open Cartridge.Text (sameName)

/-- A placement that is made for a type. -/
structure Insertion where
  type : String
  placement : Placement
  deriving DecidableEq, Repr

/-- Make the placements of a history in turn. -/
def insertAll (m : AddressMap) (history : List Insertion) : AddressMap :=
  history.foldl (fun m i => m.insert i.type i.placement.name i.placement.address) m

/-- The ways in which a history spells a type. -/
def spellings (history : List Insertion) (type : String) : Set String :=
  {key | key ∈ history.map Insertion.type ∧ sameName key type = true}

/-- The earliest placement of a name for a type, both in either letter case. -/
def earliest? (history : List Insertion) (type name : String) : Option Placement :=
  (history.find? fun i => sameName i.type type && sameName i.placement.name name).map
    Insertion.placement

/-! ### Maps -/

section

variable {m : AddressMap} {type lead : String}

/-- The first key that is spelled like the type is the least one. -/
theorem find?_key_eq_lookup_lead {table : List (String × List Placement)}
    (h : (table.map Prod.fst).Pairwise (· < ·)) (hlead : sameName lead type = true)
    (hmem : lead ∈ table.map Prod.fst)
    (hleast : ∀ key ∈ table.map Prod.fst, sameName key type = true → lead ≤ key) :
    table.find? (fun entry => sameName entry.1 type) =
      (table.lookup lead).map fun placements => (lead, placements) := by
  induction table with
  | nil => cases hmem
  | cons entry rest ih =>
      obtain ⟨key, placements⟩ := entry
      rw [List.map_cons, List.pairwise_cons] at h
      rw [List.map_cons, List.forall_mem_cons] at hleast
      rw [lookup_cons_eq_ite]
      rcases List.mem_cons.1 hmem with rfl | hmem
      · rw [List.find?_cons_of_pos (by simpa using hlead), if_pos rfl, Option.map_some]
      · have hlt : key < lead := h.1 lead hmem
        have hother : ¬sameName key type = true := fun hsame => (hleast.1 hsame).not_gt hlt
        rw [List.find?_cons_of_neg (by simpa using hother), if_neg hlt.ne', ih h.2 hmem hleast.2]

/-- A lookup sees what the map holds under the least key that is spelled like the type. -/
theorem find?_of_lead (h : m.Ascending)
    (hlead : IsLeast {key | key ∈ m.types.map Prod.fst ∧ sameName key type = true} lead)
    (name : String) :
    m.find? type name =
      ((m.placementsOf lead).find? fun p => sameName p.name name).map Placement.address := by
  obtain ⟨⟨hmem, hsame⟩, hleast⟩ := hlead
  rw [find?, find?_key_eq_lookup_lead h hsame hmem fun key hkey hlike => hleast ⟨hkey, hlike⟩,
    placementsOf]
  cases m.types.lookup lead <;> rfl

theorem find?_eq_none_of_keys (h : ∀ key ∈ m.types.map Prod.fst, sameName key type = false)
    (name : String) : m.find? type name = none := by
  have hnone : m.types.find? (fun entry => sameName entry.1 type) = none :=
    List.find?_eq_none.2 fun entry hentry => by
      rw [h entry.1 (List.mem_map_of_mem hentry)]
      exact Bool.false_ne_true
  rw [find?, hnone]

end

/-! ### Histories -/

section

variable {m : AddressMap} {history : List Insertion} {type : String}

theorem insertAll_cons (m : AddressMap) (i : Insertion) (rest : List Insertion) :
    m.insertAll (i :: rest) =
      (m.insert i.type i.placement.name i.placement.address).insertAll rest := rfl

theorem ascending_insertAll (h : m.Ascending) (history : List Insertion) :
    (m.insertAll history).Ascending := by
  induction history generalizing m with
  | nil => exact h
  | cons i rest ih => exact ih (ascending_insert h i.type i.placement.name i.placement.address)

theorem mem_keys_insertAll {key : String} :
    key ∈ (m.insertAll history).types.map Prod.fst ↔
      key ∈ history.map Insertion.type ∨ key ∈ m.types.map Prod.fst := by
  induction history generalizing m with
  | nil => simp [insertAll]
  | cons i rest ih =>
      rw [insertAll_cons, ih, List.map_cons, List.mem_cons, insert, mem_keys_alter]
      exact or_left_comm.trans or_assoc.symm

/-- Under each key the map holds the placements that were made for exactly that type. -/
theorem placementsOf_insertAll (h : m.Ascending) (history : List Insertion) (key : String) :
    (m.insertAll history).placementsOf key =
      m.placementsOf key ++ (history.filter (·.type = key)).map Insertion.placement := by
  induction history generalizing m with
  | nil => simp [insertAll]
  | cons i rest ih =>
      rw [insertAll_cons, ih (ascending_insert h i.type i.placement.name i.placement.address),
        placementsOf_insert h, List.append_assoc, List.filter_cons]
      by_cases hkey : i.type = key <;> simp [hkey]

theorem exists_isLeast_spellings (h : (spellings history type).Nonempty) :
    ∃ lead, IsLeast (spellings history type) lead := by
  have hfinite : (spellings history type).Finite :=
    (List.finite_toSet (history.map Insertion.type)).subset fun key hkey => hkey.1
  obtain ⟨lead, hlead, hleast⟩ := Set.exists_min_image _ id hfinite h
  exact ⟨lead, hlead, hleast⟩

/-- A lookup sees the placements of the least spelling, and the earliest of a name counts. -/
theorem find?_insertAll {lead : String} (hlead : IsLeast (spellings history type) lead)
    (name : String) :
    (empty.insertAll history).find? type name =
      (history.find? fun i => i.type = lead && sameName i.placement.name name).map
        fun i => i.placement.address := by
  have hkeys : IsLeast {key | key ∈ (empty.insertAll history).types.map Prod.fst ∧
      sameName key type = true} lead := by
    have hset : {key | key ∈ (empty.insertAll history).types.map Prod.fst ∧
        sameName key type = true} = spellings history type := by
      ext key
      simp [spellings, mem_keys_insertAll, empty]
    rwa [hset]
  rw [find?_of_lead (ascending_insertAll ascending_empty history) hkeys,
    placementsOf_insertAll ascending_empty, show empty.placementsOf lead = [] from rfl,
    List.nil_append, List.find?_map, List.find?_filter, Option.map_map]
  simp [Function.comp_def]

theorem find?_insertAll_of_unused (h : spellings history type = ∅) (name : String) :
    (empty.insertAll history).find? type name = none := by
  refine find?_eq_none_of_keys (fun key hkey => ?_) name
  rcases mem_keys_insertAll.1 hkey with hkey | hkey
  · by_contra hsame
    rw [Bool.not_eq_false] at hsame
    exact Set.eq_empty_iff_forall_notMem.1 h key ⟨hkey, hsame⟩
  · cases hkey

/-- A lookup ends with an address just if it is that of the earliest placement of the name
for the least spelling. -/
theorem find?_insertAll_eq_some_iff {name : String} {address : UInt32} :
    (empty.insertAll history).find? type name = some address ↔
      ∃ before i after, history = before ++ i :: after ∧ i.placement.address = address ∧
        IsLeast (spellings history type) i.type ∧ sameName i.placement.name name = true ∧
        ∀ j ∈ before, j.type = i.type → sameName j.placement.name name = false := by
  constructor
  · intro h
    rcases (spellings history type).eq_empty_or_nonempty with hunused | hused
    · rw [find?_insertAll_of_unused hunused] at h
      cases h
    · obtain ⟨lead, hlead⟩ := exists_isLeast_spellings hused
      rw [find?_insertAll hlead, Option.map_eq_some_iff] at h
      obtain ⟨i, hfind, haddress⟩ := h
      obtain ⟨hi, before, after, hsplit, hbefore⟩ := List.find?_eq_some_iff_append.1 hfind
      rw [Bool.and_eq_true, decide_eq_true_eq] at hi
      obtain ⟨rfl, hname⟩ := hi
      refine ⟨before, i, after, hsplit, haddress, hlead, hname, fun j hj htype => ?_⟩
      simpa [htype] using hbefore j hj
  · rintro ⟨before, i, after, hsplit, rfl, hlead, hname, hbefore⟩
    have hfind : history.find? (fun j => j.type = i.type && sameName j.placement.name name) =
        some i := by
      refine List.find?_eq_some_iff_append.2 ⟨by simpa using hname, before, after, hsplit, ?_⟩
      intro j hj
      by_cases htype : j.type = i.type
      · simp [hbefore j hj htype]
      · simp [htype]
    rw [find?_insertAll hlead, hfind, Option.map_some]

theorem earliest?_of_unused (h : spellings history type = ∅) (name : String) :
    earliest? history type name = none := by
  have hnone : ∀ i ∈ history, sameName i.type type = false := by
    intro i hi
    by_contra hsame
    rw [Bool.not_eq_false] at hsame
    exact Set.eq_empty_iff_forall_notMem.1 h i.type ⟨List.mem_map_of_mem hi, hsame⟩
  have hfind : history.find? (fun i => sameName i.type type && sameName i.placement.name name) =
      none := List.find?_eq_none.2 fun i hi => by simp [hnone i hi]
  rw [earliest?, hfind]
  rfl

/-- With one spelling of the type, the least one is that of every placement for it. -/
theorem find?_insertAll_of_one_spelling
    (h : ∀ i ∈ history, ∀ j ∈ history, sameName i.type type = true →
      sameName j.type type = true → i.type = j.type) (name : String) :
    (empty.insertAll history).find? type name =
      (earliest? history type name).map Placement.address := by
  rcases (spellings history type).eq_empty_or_nonempty with hunused | hused
  · rw [find?_insertAll_of_unused hunused, earliest?_of_unused hunused, Option.map_none]
  · obtain ⟨lead, hlead⟩ := exists_isLeast_spellings hused
    obtain ⟨k, hk, rfl⟩ := List.mem_map.1 hlead.1.1
    have hsame : ∀ i ∈ history, (i.type = k.type ↔ sameName i.type type = true) := fun i hi =>
      ⟨fun htype => htype ▸ hlead.1.2, fun hlike => h i hi k hk hlike hlead.1.2⟩
    rw [find?_insertAll hlead, earliest?, Option.map_map]
    congr 1
    refine List.find?_congr fun i hi => ?_
    rw [Bool.eq_iff_iff, Bool.and_eq_true, Bool.and_eq_true, decide_eq_true_eq, hsame i hi]

end

/-- A map that was filled by a history answers with the earliest placement of a name among
those for the least spelling of the type. That is the earliest one in either letter case,
if there is no other spelling of the type. -/
theorem lookup_of_history (history : List Insertion) (type name : String) :
    (∀ address, (empty.insertAll history).find? type name = some address ↔
      ∃ before i after, history = before ++ i :: after ∧ i.placement.address = address ∧
        IsLeast (spellings history type) i.type ∧ sameName i.placement.name name = true ∧
        ∀ j ∈ before, j.type = i.type → sameName j.placement.name name = false) ∧
    ((∀ i ∈ history, ∀ j ∈ history, sameName i.type type = true → sameName j.type type = true →
        i.type = j.type) →
      (empty.insertAll history).find? type name =
        (earliest? history type name).map Placement.address) :=
  ⟨fun _ => find?_insertAll_eq_some_iff,
    fun hspelling => find?_insertAll_of_one_spelling hspelling name⟩

/-- The first of two placements counts, past one for another type. -/
theorem player_routine_found :
    let history : List Insertion :=
      [⟨"EBat", "OnHit", 0x20⟩, ⟨"EPlayer", "OnHit", 0x40⟩, ⟨"EPlayer", "ONHIT", 0x60⟩]
    (∀ i ∈ history, ∀ j ∈ history, sameName i.type "eplayer" = true →
      sameName j.type "eplayer" = true → i.type = j.type) ∧
    (empty.insertAll history).find? "eplayer" "onhit" = some 0x40 := by
  intro history
  have hspelling : ∀ i ∈ history, ∀ j ∈ history, sameName i.type "eplayer" = true →
      sameName j.type "eplayer" = true → i.type = j.type := by
    decide
  refine ⟨hspelling, ?_⟩
  rw [(lookup_of_history history "eplayer" "onhit").2 hspelling]
  decide

/-- One type in two spellings, with the second one ahead in order. -/
def respelledPlayer : List Insertion :=
  [⟨"eplayer", "OnHit", 0x80⟩, ⟨"eplayer", "Tick", 0x90⟩, ⟨"EPlayer", "Tick", 0xA0⟩]

/-- A routine that was placed is not found, and another one comes after a later placement. -/
theorem respelled_player_forgotten :
    earliest? respelledPlayer "eplayer" "OnHit" = some ⟨"OnHit", 0x80⟩ ∧
      (empty.insertAll respelledPlayer).find? "eplayer" "OnHit" = none ∧
      earliest? respelledPlayer "eplayer" "Tick" = some ⟨"Tick", 0x90⟩ ∧
      (empty.insertAll respelledPlayer).find? "eplayer" "Tick" = some 0xA0 := by
  decide

end Cartridge.AddressMap
