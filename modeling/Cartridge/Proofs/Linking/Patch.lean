import Cartridge.Proofs.BigEndian
import Cartridge.Script.Patch
import Mathlib.Data.List.Forall2

/-!
What patching leaves behind. Each field is written over two bytes and over
nothing else, so a field that no later one overlaps holds its value at the
end: `patch_field`.
-/

namespace Cartridge

/-- The fields of two relocations have no byte in common. -/
def Relocation.Apart (r s : Relocation) : Prop :=
  r.address.toNat + 2 ≤ s.address.toNat ∨ s.address.toNat + 2 ≤ r.address.toNat

instance (r s : Relocation) : Decidable (r.Apart s) :=
  inferInstanceAs (Decidable (_ ∨ _))

namespace Script

/-! ### Writing one field -/

theorem Fix.slice_apply_self {code : Bytes} {f : Fix}
    (hroom : f.address + 2 ≤ code.length) :
    ((f.apply code).drop f.address).take 2 = Bytes.ofWord f.value := by
  have hlen : 2 ≤ (code.drop f.address).length := by
    rw [List.length_drop]
    omega
  obtain ⟨x, y, rest, hdrop⟩ : ∃ x y rest, code.drop f.address = x :: y :: rest := by
    match h : code.drop f.address with
    | [] | [_] => simp [h] at hlen
    | x :: y :: rest => exact ⟨x, y, rest, rfl⟩
  have hnext : ¬f.address + 1 < f.address := by omega
  simp [Fix.apply, List.drop_set, hdrop, hnext, Bytes.ofWord]

theorem Fix.slice_apply_of_apart {code : Bytes} {f : Fix} {place size : Nat}
    (hapart : f.address + 2 ≤ place ∨ place + size ≤ f.address) :
    ((f.apply code).drop place).take size = (code.drop place).take size := by
  apply List.ext_getElem?
  intro i
  by_cases hi : i < size
  · rw [List.getElem?_take_of_lt hi, List.getElem?_take_of_lt hi,
      List.getElem?_drop, List.getElem?_drop, Fix.apply,
      List.getElem?_set_ne (by omega), List.getElem?_set_ne (by omega)]
  · rw [List.getElem?_eq_none (by rw [List.length_take]; omega),
      List.getElem?_eq_none (by rw [List.length_take]; omega)]

/-! ### Writing all fields in turn -/

@[simp] theorem length_foldl_apply (fs : List Fix) (code : Bytes) :
    (fs.foldl Fix.apply code).length = code.length := by
  induction fs generalizing code with
  | nil => rfl
  | cons f fs ih => rw [List.foldl_cons, ih, Fix.length_apply]

theorem slice_foldl_apply_of_apart {fs : List Fix} {place size : Nat} (code : Bytes)
    (hapart : ∀ f ∈ fs, f.address + 2 ≤ place ∨ place + size ≤ f.address) :
    ((fs.foldl Fix.apply code).drop place).take size =
      (code.drop place).take size := by
  induction fs generalizing code with
  | nil => rfl
  | cons f fs ih =>
      rw [List.foldl_cons, ih _ fun g hg => hapart g (List.mem_cons_of_mem f hg),
        Fix.slice_apply_of_apart (hapart f List.mem_cons_self)]

/-- The last fix for a place decides what stands there. -/
theorem numberAt?_foldl_apply {before after : List Fix} {f : Fix} {code : Bytes}
    (hroom : f.address + 2 ≤ code.length)
    (hapart : ∀ g ∈ after, g.address + 2 ≤ f.address ∨ f.address + 2 ≤ g.address) :
    ((before ++ f :: after).foldl Fix.apply code).numberAt? f.address 2 =
      some f.value.toNat := by
  rw [← Bytes.value_ofWord]
  apply Bytes.numberAt?_of_slice
  · rw [List.foldl_append, List.foldl_cons, slice_foldl_apply_of_apart _ hapart,
      Fix.slice_apply_self (by rwa [length_foldl_apply])]
  · rwa [length_foldl_apply]

/-! ### The fixes for relocations -/

/-- The value of a field for a routine is the offset of its slot. -/
theorem fieldValue_eq_ok {tableSize loadOffset v : UInt16} {r : Relocation}
    (hbase : r.isBase = false) (h : fieldValue tableSize loadOffset r = .ok v) :
    ∃ index, r.index = some index ∧ v.toNat = OffsetTable.slotSize * index.toNat := by
  rw [fieldValue, hbase] at h
  cases hindex : r.index with
  | none => simp [hindex] at h
  | some index =>
      simp only [hindex, Bool.false_eq_true, if_false] at h
      split at h
      · cases h
      · split at h
        · next hfits =>
            cases h
            exact ⟨index, rfl, UInt16.toNat_ofNat_of_lt' hfits⟩
        · cases h

theorem forall₂_exists_of_mem_right {α β : Type} {R : α → β → Prop} {as : List α}
    {bs : List β} {b : β} (h : List.Forall₂ R as bs) (hb : b ∈ bs) :
    ∃ a ∈ as, R a b := by
  induction h with
  | nil => cases hb
  | cons hr _ ih =>
      rcases List.mem_cons.1 hb with rfl | hb
      · exact ⟨_, List.mem_cons_self, hr⟩
      · obtain ⟨a, ha, hab⟩ := ih hb
        exact ⟨a, List.mem_cons_of_mem _ ha, hab⟩

theorem forall₂_append_cons {α β : Type} {R : α → β → Prop} {before after : List α} {a : α}
    {bs : List β} (h : List.Forall₂ R (before ++ a :: after) bs) :
    ∃ first b last, bs = first ++ b :: last ∧ R a b ∧ List.Forall₂ R after last := by
  have hothers := List.forall₂_drop before.length h
  rw [List.drop_left] at hothers
  obtain ⟨b, last, hb, hlast, hdrop⟩ := List.forall₂_cons_left_iff.1 hothers
  exact ⟨bs.take before.length, b, last, by rw [← hdrop, List.take_append_drop], hb, hlast⟩

/-- What a successful fix says: the field lies in the code, and its value is
that of the relocation. -/
theorem fix_eq_ok {size : Nat} {tableSize loadOffset : UInt16} {r : Relocation}
    {f : Fix} (h : fix size tableSize loadOffset r = .ok f) :
    r.address.toNat + 2 ≤ size ∧ f.address = r.address.toNat ∧
      fieldValue tableSize loadOffset r = .ok f.value := by
  unfold fix at h
  split at h
  · cases h
  · next hroom =>
      cases hv : fieldValue tableSize loadOffset r with
      | error e =>
          rw [hv] at h
          cases h
      | ok v =>
          rw [hv] at h
          cases h
          exact ⟨by omega, rfl, rfl⟩

theorem fixes_eq_ok {size : Nat} {tableSize loadOffset : UInt16}
    {relocations : List Relocation} {fs : List Fix}
    (h : fixes size tableSize loadOffset relocations = .ok fs) :
    List.Forall₂ (fun r f => fix size tableSize loadOffset r = .ok f) relocations fs := by
  induction relocations generalizing fs with
  | nil =>
      cases h
      exact .nil
  | cons r rest ih =>
      cases hf : fix size tableSize loadOffset r with
      | error e =>
          rw [fixes, hf] at h
          cases h
      | ok f =>
          cases hfs : fixes size tableSize loadOffset rest with
          | error e =>
              rw [fixes, hf, hfs] at h
              cases h
          | ok others =>
              rw [fixes, hf, hfs] at h
              cases h
              exact .cons hf (ih hfs)

/-- Patched code is the code with all fixes written over it. -/
theorem patch_eq_ok {tableSize loadOffset : UInt16} {relocations : List Relocation}
    {code linked : Bytes}
    (h : patch tableSize loadOffset relocations code = .ok linked) :
    ∃ fs, List.Forall₂ (fun r f => fix code.length tableSize loadOffset r = .ok f)
        relocations fs ∧ linked = fs.foldl Fix.apply code := by
  cases hfs : fixes code.length tableSize loadOffset relocations with
  | error e =>
      rw [patch, hfs] at h
      cases h
  | ok fs =>
      rw [patch, hfs] at h
      cases h
      exact ⟨fs, fixes_eq_ok hfs, rfl⟩

/-- In patched code the field of a relocation holds its value, unless a later
relocation overlaps it. -/
theorem patch_field {tableSize loadOffset : UInt16} {before after : List Relocation}
    {r : Relocation} {code linked : Bytes}
    (h : patch tableSize loadOffset (before ++ r :: after) code = .ok linked)
    (hapart : ∀ s ∈ after, r.Apart s) :
    ∃ v, fieldValue tableSize loadOffset r = .ok v ∧
      linked.numberAt? r.address.toNat 2 = some v.toNat := by
  obtain ⟨fs, hfs, rfl⟩ := patch_eq_ok h
  obtain ⟨first, f, last, rfl, hf, hlast⟩ := forall₂_append_cons hfs
  obtain ⟨hroom, haddress, hvalue⟩ := fix_eq_ok hf
  refine ⟨f.value, hvalue, ?_⟩
  rw [← haddress] at hroom ⊢
  apply numberAt?_foldl_apply hroom
  intro g hg
  obtain ⟨s, hs, hfix⟩ := forall₂_exists_of_mem_right hlast hg
  obtain ⟨-, hplace, -⟩ := fix_eq_ok hfix
  have := hapart s hs
  unfold Relocation.Apart at this
  omega

end Script

end Cartridge
