import Cartridge.Proofs.Linking.Patch
import Cartridge.Script.Dump

/-!
Reading relocations out of a dump. Each line that speaks of the offset table
gives one relocation, and the index of a relocation is the slot that its scope
and name have in the table.
-/

namespace Cartridge.Script.Dump

theorem relocationsFrom_eq_ok_iff {table : OffsetTable} {number : Nat}
    {lines : List (List Char)} {rs : List Relocation} :
    relocationsFrom table number lines = .ok rs ↔
      List.Forall₂ (fun line r => relocation? table line = some r) (lines.filter isMarked) rs := by
  induction lines generalizing number rs with
  | nil => simp [relocationsFrom, eq_comm (a := [])]
  | cons line lines ih =>
      rw [relocationsFrom]
      by_cases hmarked : isMarked line = true
      · rw [if_pos hmarked, List.filter_cons_of_pos hmarked, List.forall₂_cons_left_iff]
        cases hline : relocation? table line with
        | none => simp
        | some r =>
            constructor
            · intro h
              cases hrest : relocationsFrom table (number + 1) lines with
              | error e =>
                  rw [hrest] at h
                  cases h
              | ok others =>
                  rw [hrest] at h
                  cases h
                  exact ⟨r, others, rfl, ih.1 hrest, rfl⟩
            · rintro ⟨r', others, hr, hothers, rfl⟩
              cases hr
              rw [ih.2 hothers]
              rfl
      · rw [if_neg hmarked, List.filter_cons_of_neg hmarked]
        exact ih

/-- One relocation for each line that speaks of the offset table, in order. -/
theorem relocations_eq_ok {table : OffsetTable} {dump : String}
    {relocations : List Relocation} (h : Dump.relocations table dump = .ok relocations) :
    List.Forall₂ (fun line r => relocation? table line = some r)
      ((Text.linesList dump.toList).filter isMarked) relocations :=
  relocationsFrom_eq_ok_iff.1 h

theorem index_of_relocation? {table : OffsetTable} {line : List Char} {r : Relocation}
    (h : relocation? table line = some r) :
    r.index = if r.scope.isEmpty then none
      else (table.find? r.scope r.name).map UInt64.ofNat := by
  obtain ⟨⟨address, symbol⟩, -, h⟩ := Option.bind_eq_some_iff.1 h
  obtain ⟨⟨scope, name⟩, -, h⟩ := Option.bind_eq_some_iff.1 h
  cases h
  rfl

theorem index_of_mem_relocations {table : OffsetTable} {dump : String}
    {relocations : List Relocation} {r : Relocation}
    (h : Dump.relocations table dump = .ok relocations) (hr : r ∈ relocations) :
    r.index = if r.scope.isEmpty then none
      else (table.find? r.scope r.name).map UInt64.ofNat := by
  obtain ⟨line, -, hline⟩ := forall₂_exists_of_mem_right (relocations_eq_ok h) hr
  exact index_of_relocation? hline

end Cartridge.Script.Dump
