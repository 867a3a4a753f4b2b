import Cartridge.Script.AddressMap
import Mathlib.Data.String.Basic
import Mathlib.Data.List.Basic

/-!
Address maps by what they hold. Each type of a map has its placements in the order
they were made, under one key; a lookup in either letter case finds them if no
other key of the map is spelled alike.
-/

namespace Cartridge.AddressMap

open Cartridge.Text (sameName)

section

variable {α : Type} {key : String} {fresh : α} {change : α → α} {table : List (String × α)}

theorem mem_keys_alter {k : String} :
    k ∈ (alter key fresh change table).map Prod.fst ↔ k = key ∨ k ∈ table.map Prod.fst := by
  fun_induction alter key fresh change table with
  | case1 => simp
  | case2 a rest => simp
  | case3 k' a rest hne hlt => simp
  | case4 k' a rest hne hlt ih =>
      rw [List.map_cons, List.mem_cons, ih, List.map_cons, List.mem_cons]
      exact or_left_comm

/-- Keys stay in ascending order. -/
theorem pairwise_keys_alter (h : (table.map Prod.fst).Pairwise (· < ·)) :
    ((alter key fresh change table).map Prod.fst).Pairwise (· < ·) := by
  fun_induction alter key fresh change table with
  | case1 => simp
  | case2 a rest => exact h
  | case3 k a rest hne hlt =>
      rw [List.map_cons, List.pairwise_cons]
      refine ⟨fun k' hk' => ?_, h⟩
      rcases List.mem_cons.1 hk' with rfl | hk'
      · exact hlt
      · exact hlt.trans ((List.pairwise_cons.1 h).1 k' hk')
  | case4 k a rest hne hlt ih =>
      rw [List.map_cons, List.pairwise_cons] at h ⊢
      refine ⟨fun k' hk' => ?_, ih h.2⟩
      rcases mem_keys_alter.1 hk' with rfl | hk'
      · exact lt_of_le_of_ne (not_lt.1 hlt) hne
      · exact h.1 k' hk'

theorem lookup_cons_eq_ite (k k' : String) (a : α) (rest : List (String × α)) :
    List.lookup k ((k', a) :: rest) = if k = k' then some a else rest.lookup k := by
  rw [List.lookup_cons]
  by_cases hk : k = k'
  · simp [hk]
  · rw [beq_eq_false_iff_ne.2 hk, if_neg hk]

theorem lookup_eq_none_of_lt (h : ∀ k ∈ table.map Prod.fst, key < k) : table.lookup key = none := by
  rw [List.lookup_eq_none_iff]
  intro entry hentry
  exact bne_iff_ne.2 (h entry.1 (List.mem_map_of_mem hentry)).ne

/-- Only what the key holds is changed. -/
theorem lookup_alter (h : (table.map Prod.fst).Pairwise (· < ·)) (k : String) :
    (alter key fresh change table).lookup k =
      if k = key then some (change ((table.lookup key).getD fresh)) else table.lookup k := by
  fun_induction alter key fresh change table with
  | case1 => rw [lookup_cons_eq_ite, List.lookup_nil, List.lookup_nil, Option.getD_none]
  | case2 a rest =>
      rw [lookup_cons_eq_ite, lookup_cons_eq_ite, if_pos rfl, Option.getD_some, lookup_cons_eq_ite]
      split <;> rfl
  | case3 k' a rest hne hlt =>
      have habsent : List.lookup key ((k', a) :: rest) = none := by
        refine lookup_eq_none_of_lt fun k'' hk'' => ?_
        rcases List.mem_cons.1 hk'' with rfl | hk''
        · exact hlt
        · exact hlt.trans ((List.pairwise_cons.1 h).1 k'' hk'')
      rw [habsent, lookup_cons_eq_ite, Option.getD_none]
  | case4 k' a rest hne hlt ih =>
      rw [List.map_cons, List.pairwise_cons] at h
      rw [lookup_cons_eq_ite, ih h.2, lookup_cons_eq_ite key, if_neg (Ne.symm hne),
        lookup_cons_eq_ite]
      by_cases hk : k = k'
      · rw [if_pos hk, if_pos hk, if_neg (hk ▸ hne)]
      · rw [if_neg hk, if_neg hk]

end

/-- The keys of the map are in ascending order. -/
def Ascending (m : AddressMap) : Prop :=
  (m.types.map Prod.fst).Pairwise (· < ·)

theorem ascending_empty : empty.Ascending :=
  List.Pairwise.nil

/-- What the map holds for the type of exactly this name. -/
def placementsOf (m : AddressMap) (type : String) : List Placement :=
  (m.types.lookup type).getD []

/-- Make the placements of a type in turn. -/
def place (m : AddressMap) (type : String) (placements : List Placement) : AddressMap :=
  placements.foldl (fun m p => m.insert type p.name p.address) m

section

variable {m : AddressMap} {type : String}

theorem place_cons (m : AddressMap) (type : String) (p : Placement) (rest : List Placement) :
    m.place type (p :: rest) = (m.insert type p.name p.address).place type rest := rfl

theorem ascending_insert (h : m.Ascending) (type name : String) (address : UInt32) :
    (m.insert type name address).Ascending :=
  pairwise_keys_alter h

theorem placementsOf_insert (h : m.Ascending) (type name : String) (address : UInt32)
    (type' : String) :
    (m.insert type name address).placementsOf type' =
      m.placementsOf type' ++ if type = type' then [⟨name, address⟩] else [] := by
  rw [placementsOf, insert, lookup_alter h, placementsOf]
  by_cases htype : type = type'
  · rw [if_pos htype.symm, if_pos htype, Option.getD_some, htype]
  · rw [if_neg (Ne.symm htype), if_neg htype, List.append_nil]

theorem ascending_place (h : m.Ascending) (type : String) (placements : List Placement) :
    (m.place type placements).Ascending := by
  induction placements generalizing m with
  | nil => exact h
  | cons p rest ih => exact ih (ascending_insert h type p.name p.address)

/-- What is placed for a type comes after what the map holds for it, and the
other types keep what they have. -/
theorem placementsOf_place (h : m.Ascending) (type : String) (placements : List Placement)
    (type' : String) :
    (m.place type placements).placementsOf type' =
      m.placementsOf type' ++ if type = type' then placements else [] := by
  induction placements generalizing m with
  | nil => simp [place]
  | cons p rest ih =>
      rw [place_cons, ih (ascending_insert h type p.name p.address), placementsOf_insert h,
        List.append_assoc]
      split <;> rfl

theorem mem_keys_place {placements : List Placement} {key : String}
    (hkey : key ∈ (m.place type placements).types.map Prod.fst) :
    key = type ∨ key ∈ m.types.map Prod.fst := by
  induction placements generalizing m with
  | nil => exact .inr hkey
  | cons p rest ih =>
      rcases ih hkey with hkey | hkey
      · exact .inl hkey
      · exact mem_keys_alter.1 hkey

theorem find?_key_eq_lookup {table : List (String × List Placement)}
    (h : ∀ key ∈ table.map Prod.fst, sameName key type = true → key = type) :
    table.find? (fun entry => sameName entry.1 type) =
      (table.lookup type).map fun placements => (type, placements) := by
  induction table with
  | nil => rfl
  | cons entry rest ih =>
      obtain ⟨key, placements⟩ := entry
      rw [List.map_cons, List.forall_mem_cons] at h
      rw [lookup_cons_eq_ite]
      by_cases hkey : type = key
      · subst hkey
        rw [List.find?_cons_of_pos (by simp), if_pos rfl, Option.map_some]
      · have hother : ¬sameName key type = true := fun hsame => hkey (h.1 hsame).symm
        rw [List.find?_cons_of_neg (by simpa using hother), if_neg hkey, ih h.2]

/-- A lookup sees what the map holds for the type, if no other key is spelled
like it. -/
theorem find?_eq_of_keys (h : ∀ key ∈ m.types.map Prod.fst, sameName key type = true → key = type)
    (name : String) :
    m.find? type name =
      ((m.placementsOf type).find? fun p => sameName p.name name).map Placement.address := by
  rw [find?, find?_key_eq_lookup h, placementsOf]
  cases m.types.lookup type <;> rfl

end

end Cartridge.AddressMap
