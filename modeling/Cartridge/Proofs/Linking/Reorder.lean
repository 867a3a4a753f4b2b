import Cartridge.Proofs.Linking.Outcome
import Mathlib.Data.List.Pairwise
import Mathlib.Data.List.Perm.Basic

/-!
Patching twice and patching in another order. What is written into a field does
not depend on the code, so patched code is patched already; and fields without
a byte in common can be filled in one after the other in any order.
-/

namespace Cartridge.Script

/-! ### Writing once more -/

/-- Some fix is the last over a place, or none covers it. -/
theorem last_over (fs : List Fix) (place : Nat) :
    (∀ f ∈ fs, ¬f.Covers place) ∨ ∃ before f after, fs = before ++ f :: after ∧
      f.Covers place ∧ ∀ g ∈ after, ¬g.Covers place := by
  induction fs with
  | nil => exact .inl (by simp)
  | cons f fs ih =>
      rcases ih with hnone | ⟨before, g, after, rfl, hlast⟩
      · by_cases hf : f.Covers place
        · exact .inr ⟨[], f, fs, rfl, hf, hnone⟩
        · exact .inl (List.forall_mem_cons.2 ⟨hf, hnone⟩)
      · exact .inr ⟨f :: before, g, after, rfl, hlast⟩

theorem foldl_apply_foldl_apply {fs : List Fix} {code : Bytes}
    (hroom : ∀ f ∈ fs, f.address + 2 ≤ code.length) :
    fs.foldl Fix.apply (fs.foldl Fix.apply code) = fs.foldl Fix.apply code := by
  apply List.ext_getElem?
  intro place
  rcases last_over fs place with hnone | ⟨before, f, after, rfl, hf, hafter⟩
  · exact getElem?_foldl_apply_of_not_covers _ hnone
  · have hin : f.address + 2 ≤ code.length := hroom f (by simp)
    rw [getElem?_foldl_apply_of_last (by rwa [length_foldl_apply]) hf hafter,
      getElem?_foldl_apply_of_last hin hf hafter]

section Runs

variable {tableSize loadOffset : UInt16} {relocations : List Relocation} {code linked : Bytes}

theorem fixes_of_forall₂ {size : Nat} {fs : List Fix}
    (h : List.Forall₂ (fun r f => fix size tableSize loadOffset r = .ok f) relocations fs) :
    fixes size tableSize loadOffset relocations = .ok fs := by
  induction h with
  | nil => rfl
  | cons hfix _ ih =>
      rw [fixes, hfix, ih]
      rfl

/-- Code that has been patched is left as it is. -/
theorem patch_patched (h : patch tableSize loadOffset relocations code = .ok linked) :
    patch tableSize loadOffset relocations linked = .ok linked := by
  have hlength := length_patch h
  obtain ⟨fs, hfs, rfl⟩ := patch_eq_ok h
  have hroom : ∀ f ∈ fs, f.address + 2 ≤ code.length := by
    intro f hf
    obtain ⟨r, -, hfix⟩ := forall₂_exists_of_mem_right hfs hf
    obtain ⟨hin, haddress, -⟩ := fix_eq_ok hfix
    rwa [haddress]
  rw [patch, hlength, fixes_of_forall₂ hfs]
  exact congrArg Except.ok (foldl_apply_foldl_apply hroom)

end Runs

/-! ### Writing in another order -/

/-- The fields of two fixes have no byte in common. -/
def Fix.Apart (f g : Fix) : Prop :=
  f.address + 2 ≤ g.address ∨ g.address + 2 ≤ f.address

theorem Fix.Apart.apply_comm {f g : Fix} (h : f.Apart g) (code : Bytes) :
    g.apply (f.apply code) = f.apply (g.apply code) := by
  unfold Fix.Apart at h
  simp only [Fix.apply]
  rw [List.set_comm _ _ (by omega : f.address + 1 ≠ g.address),
    List.set_comm _ _ (by omega : f.address ≠ g.address),
    List.set_comm _ _ (by omega : f.address + 1 ≠ g.address + 1),
    List.set_comm _ _ (by omega : f.address ≠ g.address + 1)]

theorem foldl_apply_of_perm {fs gs : List Fix} (hperm : fs.Perm gs)
    (hapart : fs.Pairwise Fix.Apart) (code : Bytes) :
    fs.foldl Fix.apply code = gs.foldl Fix.apply code := by
  have hcomm : fs.Pairwise fun f g => ∀ code : Bytes,
      g.apply (f.apply code) = f.apply (g.apply code) := hapart.imp Fix.Apart.apply_comm
  have : Std.Symm fun f g : Fix => ∀ code : Bytes,
      g.apply (f.apply code) = f.apply (g.apply code) := ⟨fun _ _ h code => (h code).symm⟩
  exact hperm.foldl_eq' (hcomm.forall_of_forall fun _ _ _ => rfl) code

section Orders

variable {tableSize loadOffset : UInt16} {relocations others : List Relocation}
  {code linked : Bytes}

/-- The fixes for relocations are as far apart as these. -/
theorem pairwise_apart_of_forall₂ {size : Nat} {fs : List Fix}
    (h : List.Forall₂ (fun r f => fix size tableSize loadOffset r = .ok f) relocations fs)
    (hapart : relocations.Pairwise Relocation.Apart) : fs.Pairwise Fix.Apart := by
  induction h with
  | nil => exact .nil
  | @cons r f rest fs hfix hrest ih =>
      rw [List.pairwise_cons] at hapart ⊢
      refine ⟨fun g hg => ?_, ih hapart.2⟩
      obtain ⟨s, hs, hsfix⟩ := forall₂_exists_of_mem_right hrest hg
      rw [Fix.Apart, (fix_eq_ok hfix).2.1, (fix_eq_ok hsfix).2.1]
      exact hapart.1 s hs

theorem patch_of_perm (hperm : others.Perm relocations)
    (hapart : relocations.Pairwise Relocation.Apart)
    (h : patch tableSize loadOffset relocations code = .ok linked) :
    patch tableSize loadOffset others code = .ok linked := by
  obtain ⟨fs, hfs, rfl⟩ := patch_eq_ok h
  obtain ⟨gs, hgs, hsame⟩ := List.perm_comp_forall₂ hperm hfs
  have happly := foldl_apply_of_perm hsame.symm (pairwise_apart_of_forall₂ hfs hapart) code
  rw [patch, fixes_of_forall₂ hgs, happly]
  rfl

theorem patch_perm_iff (hperm : others.Perm relocations)
    (hapart : relocations.Pairwise Relocation.Apart) :
    patch tableSize loadOffset others code = .ok linked ↔
      patch tableSize loadOffset relocations code = .ok linked := by
  have hsymm : ∀ {r s : Relocation}, r.Apart s → s.Apart r := Or.symm
  exact ⟨patch_of_perm hperm.symm (hperm.symm.pairwise hapart hsymm), patch_of_perm hperm hapart⟩

end Orders

/-- Patching again changes nothing, and where no two fields have a byte in
common the order of the relocations does not matter: in any order they are
filled in with the same bytes, or the code stays as it was. -/
theorem patch_repeats_in_any_order (tableSize loadOffset : UInt16)
    (relocations : List Relocation) (code : Bytes) :
    (∀ linked, patch tableSize loadOffset relocations code = .ok linked →
      patch tableSize loadOffset relocations linked = .ok linked ∧
      (patchInPlace tableSize loadOffset relocations).run linked =
        (.ok linked.length, linked)) ∧
    (relocations.Pairwise Relocation.Apart → ∀ others, others.Perm relocations →
      (∀ linked, patch tableSize loadOffset others code = .ok linked ↔
        patch tableSize loadOffset relocations code = .ok linked) ∧
      ((patchInPlace tableSize loadOffset others).run code).2 =
        ((patchInPlace tableSize loadOffset relocations).run code).2) := by
  refine ⟨fun linked h => ?_, fun hapart others hperm => ?_⟩
  · have hagain := patch_patched h
    exact ⟨hagain, by rw [run_patchInPlace, hagain]⟩
  · have hsame : ∀ linked, patch tableSize loadOffset others code = .ok linked ↔
        patch tableSize loadOffset relocations code = .ok linked := fun _ =>
      patch_perm_iff hperm hapart
    refine ⟨hsame, ?_⟩
    rw [run_patchInPlace, run_patchInPlace]
    cases hothers : patch tableSize loadOffset others code with
    | ok linked => rw [(hsame linked).1 hothers]
    | error e =>
        cases hpatch : patch tableSize loadOffset relocations code with
        | error e' => rfl
        | ok linked => exact absurd ((hsame linked).2 hpatch) (by simp [hothers])

/-! Three fields next to each other, and the same ones the other way round. -/

def neighbours : List Relocation :=
  [⟨2, "Bar", "Tick", some 1⟩, ⟨0, "", "_GLOBAL_OFFSET_TABLE_", none⟩, ⟨4, "Foo", "Init", some 0⟩]

theorem neighbours_in_reverse :
    patch 8 0 neighbours [1, 2, 3, 4, 5, 6, 7] = .ok [0xFF, 0xF8, 0, 4, 0, 0, 7] ∧
    neighbours.Pairwise Relocation.Apart ∧ neighbours.reverse.Perm neighbours ∧
    patch 8 0 neighbours [0xFF, 0xF8, 0, 4, 0, 0, 7] = .ok [0xFF, 0xF8, 0, 4, 0, 0, 7] ∧
    patch 8 0 neighbours.reverse [1, 2, 3, 4, 5, 6, 7] = .ok [0xFF, 0xF8, 0, 4, 0, 0, 7] := by
  have hpatch : patch 8 0 neighbours [1, 2, 3, 4, 5, 6, 7] = .ok [0xFF, 0xF8, 0, 4, 0, 0, 7] := rfl
  have hapart : neighbours.Pairwise Relocation.Apart := by decide
  have hperm : neighbours.reverse.Perm neighbours := List.reverse_perm neighbours
  obtain ⟨hagain, horder⟩ := patch_repeats_in_any_order 8 0 neighbours [1, 2, 3, 4, 5, 6, 7]
  exact ⟨hpatch, hapart, hperm, (hagain _ hpatch).1, ((horder hapart _ hperm).1 _).2 hpatch⟩

end Cartridge.Script
