import Cartridge.Proofs.Linking.Patch

/-!
What patching comes to, for any relocations and any code. It fails with the
error of the first relocation that has one, and then nothing has been written;
otherwise the last field over a byte decides it, and bytes under no field stay
as they are.
-/

namespace Cartridge

open Script (LinkError)
open Script.OffsetTable (slotSize)

namespace Relocation

/-- Why the field of a relocation cannot be filled in, in code of the given
size. The offset of a slot is too far for a field or even for a machine word. -/
inductive Fault (size : Nat) (r : Relocation) : LinkError → Prop
  | outOfBounds (hroom : size < r.address.toNat + 2) : r.Fault size (.outOfBounds r.address size)
  | unresolved (hroom : r.address.toNat + 2 ≤ size) (hbase : r.isBase = false)
      (hindex : r.index = none) : r.Fault size (.unresolved r.address r.scope r.name)
  | tooFar {index : UInt64} (hroom : r.address.toNat + 2 ≤ size) (hbase : r.isBase = false)
      (hindex : r.index = some index) (hfar : UInt16.size ≤ slotSize * index.toNat)
      (hword : slotSize * index.toNat < UInt64.size) :
      r.Fault size (.tableTooLarge (index.toNat + 1))
  | overflow {index : UInt64} (hroom : r.address.toNat + 2 ≤ size) (hbase : r.isBase = false)
      (hindex : r.index = some index) (hword : UInt64.size ≤ slotSize * index.toNat) :
      r.Fault size .overflow

/-- The byte at a place belongs to the field of the relocation. -/
def Covers (r : Relocation) (place : Nat) : Prop :=
  r.address.toNat ≤ place ∧ place < r.address.toNat + 2

instance (r : Relocation) (place : Nat) : Decidable (r.Covers place) :=
  inferInstanceAs (Decidable (_ ∧ _))

end Relocation

namespace Script

/-! ### Errors -/

section Errors

variable {size : Nat} {tableSize loadOffset : UInt16} {r : Relocation} {e : LinkError}

theorem fieldValue_eq_error_iff : fieldValue tableSize loadOffset r = .error e ↔
    r.isBase = false ∧
      (r.index = none ∧ e = .unresolved r.address r.scope r.name ∨
        ∃ index, r.index = some index ∧
          (UInt64.size ≤ slotSize * index.toNat ∧ e = .overflow ∨
            UInt16.size ≤ slotSize * index.toNat ∧ slotSize * index.toNat < UInt64.size ∧
              e = .tableTooLarge (index.toNat + 1))) := by
  unfold fieldValue
  cases hbase : r.isBase with
  | true => simp
  | false =>
      cases hindex : r.index with
      | none => simp [eq_comm]
      | some index =>
          simp only [Bool.false_eq_true, if_false, true_and, reduceCtorEq, false_and, false_or,
            Option.some.injEq, exists_eq_left']
          split
          · next hword =>
              simp [eq_comm, hword, Nat.not_lt.2 hword]
          · next hword =>
              split
              · next hfits => simp [hword, Nat.not_le.2 hfits]
              · next hfits => simp [eq_comm, hword, Nat.not_lt.1 hfits, Nat.not_le.1 hword]

theorem fix_eq_error_iff : fix size tableSize loadOffset r = .error e ↔ r.Fault size e := by
  unfold fix
  by_cases hroom : size < r.address.toNat + 2
  · rw [if_pos hroom]
    constructor
    · rintro ⟨⟩
      exact .outOfBounds hroom
    · rintro (- | ⟨hin, -, -⟩ | ⟨hin, -, -, -, -⟩ | ⟨hin, -, -, -⟩)
      · rfl
      all_goals omega
  · have hin : r.address.toNat + 2 ≤ size := by omega
    have hmap : ∀ result : Except LinkError UInt16,
        (result.map fun value => (⟨r.address.toNat, value⟩ : Fix)) = .error e ↔
          result = .error e := by
      rintro (_ | _) <;> simp [Except.map]
    rw [if_neg hroom, hmap, fieldValue_eq_error_iff]
    constructor
    · rintro ⟨hbase, ⟨hindex, rfl⟩ | ⟨index, hindex, ⟨hword, rfl⟩ | ⟨hfar, hword, rfl⟩⟩⟩
      · exact .unresolved hin hbase hindex
      · exact .overflow hin hbase hindex hword
      · exact .tooFar hin hbase hindex hfar hword
    · rintro (hout | ⟨-, hbase, hindex⟩ | ⟨-, hbase, hindex, hfar, hword⟩ |
        ⟨-, hbase, hindex, hword⟩)
      · exact absurd hout hroom
      · exact ⟨hbase, .inl ⟨hindex, rfl⟩⟩
      · exact ⟨hbase, .inr ⟨_, hindex, .inr ⟨hfar, hword, rfl⟩⟩⟩
      · exact ⟨hbase, .inr ⟨_, hindex, .inl ⟨hword, rfl⟩⟩⟩

/-- A relocation has a fix if nothing stands against it. -/
theorem exists_fix_iff :
    (∃ f, fix size tableSize loadOffset r = .ok f) ↔ ∀ e, ¬r.Fault size e := by
  constructor
  · rintro ⟨f, hf⟩ e he
    rw [fix_eq_error_iff.2 he] at hf
    cases hf
  · intro h
    cases hfix : fix size tableSize loadOffset r with
    | ok f => exact ⟨f, rfl⟩
    | error e => exact absurd (fix_eq_error_iff.1 hfix) (h e)

/-- A relocation at fault is reported, whatever follows it. -/
theorem fixes_cons_eq_error_iff {rest : List Relocation} :
    fixes size tableSize loadOffset (r :: rest) = .error e ↔
      r.Fault size e ∨
        (∀ e', ¬r.Fault size e') ∧ fixes size tableSize loadOffset rest = .error e := by
  rw [fixes, ← fix_eq_error_iff, ← exists_fix_iff]
  cases fix size tableSize loadOffset r with
  | error e' => simp [bind, Except.bind]
  | ok f =>
      cases fixes size tableSize loadOffset rest <;> simp [bind, Except.bind, pure, Except.pure]

/-- The relocations are checked in order, up to the first at fault. -/
theorem fixes_eq_error_iff {relocations : List Relocation} :
    fixes size tableSize loadOffset relocations = .error e ↔
      ∃ before r after, relocations = before ++ r :: after ∧
        (∀ s ∈ before, ∀ e', ¬s.Fault size e') ∧ r.Fault size e := by
  induction relocations with
  | nil => simp [fixes]
  | cons r rest ih =>
      rw [fixes_cons_eq_error_iff, ih]
      constructor
      · rintro (hfault | ⟨hsound, before, t, after, rfl, hbefore, ht⟩)
        · exact ⟨[], r, rest, rfl, List.forall_mem_nil _, hfault⟩
        · exact ⟨r :: before, t, after, rfl, List.forall_mem_cons.2 ⟨hsound, hbefore⟩, ht⟩
      · rintro ⟨_ | ⟨s, before⟩, t, after, heq, hbefore, ht⟩
        · obtain ⟨rfl, -⟩ := List.cons.inj heq
          exact .inl ht
        · obtain ⟨rfl, rfl⟩ := List.cons.inj heq
          obtain ⟨hsound, hbefore⟩ := List.forall_mem_cons.1 hbefore
          exact .inr ⟨hsound, before, t, after, rfl, hbefore, ht⟩

theorem patch_eq_error_iff {relocations : List Relocation} {code : Bytes} :
    patch tableSize loadOffset relocations code = .error e ↔
      fixes code.length tableSize loadOffset relocations = .error e := by
  rw [patch]
  cases fixes code.length tableSize loadOffset relocations <;> simp [Except.map]

end Errors

/-! ### Bytes -/

/-- The byte at a place is one of the two that a fix writes. -/
def Fix.Covers (f : Fix) (place : Nat) : Prop :=
  f.address ≤ place ∧ place < f.address + 2

/-- A byte of a part that is known. -/
theorem getElem?_of_slice {code field : Bytes} {start size place : Nat}
    (hslice : (code.drop start).take size = field) (hstart : start ≤ place)
    (hend : place < start + size) : code[place]? = field[place - start]? := by
  rw [← hslice, List.getElem?_take_of_lt (by omega), List.getElem?_drop, Nat.add_sub_of_le hstart]

/-- Fixes leave a byte alone that none of them covers. -/
theorem getElem?_foldl_apply_of_not_covers {fs : List Fix} {place : Nat} (code : Bytes)
    (h : ∀ f ∈ fs, ¬f.Covers place) : (fs.foldl Fix.apply code)[place]? = code[place]? := by
  have hslice : ((fs.foldl Fix.apply code).drop place).take 1 = (code.drop place).take 1 := by
    refine slice_foldl_apply_of_apart code fun f hf => ?_
    have hf := h f hf
    unfold Fix.Covers at hf
    omega
  rw [getElem?_of_slice hslice (Nat.le_refl _) (by omega), Nat.sub_self,
    List.getElem?_take_of_lt (by omega), List.getElem?_drop, Nat.add_zero]

/-- The last fix over a byte decides it. -/
theorem getElem?_foldl_apply_of_last {before after : List Fix} {f : Fix} {place : Nat}
    {code : Bytes} (hroom : f.address + 2 ≤ code.length) (hf : f.Covers place)
    (hafter : ∀ g ∈ after, ¬g.Covers place) :
    ((before ++ f :: after).foldl Fix.apply code)[place]? =
      (Bytes.ofWord f.value)[place - f.address]? := by
  rw [List.foldl_append, List.foldl_cons, getElem?_foldl_apply_of_not_covers _ hafter]
  have hroom' : f.address + 2 ≤ (before.foldl Fix.apply code).length := by
    rwa [length_foldl_apply]
  exact getElem?_of_slice (Fix.slice_apply_self hroom') hf.1 hf.2

section Patched

variable {tableSize loadOffset : UInt16} {relocations : List Relocation} {code linked : Bytes}

theorem length_patch (h : patch tableSize loadOffset relocations code = .ok linked) :
    linked.length = code.length := by
  obtain ⟨fs, -, rfl⟩ := patch_eq_ok h
  exact length_foldl_apply fs code

theorem covers_of_fix {size : Nat} {r : Relocation} {f : Fix}
    (h : fix size tableSize loadOffset r = .ok f) {place : Nat} :
    f.Covers place ↔ r.Covers place := by
  rw [Fix.Covers, Relocation.Covers, (fix_eq_ok h).2.1]

theorem getElem?_patch_of_not_covers
    (h : patch tableSize loadOffset relocations code = .ok linked) {place : Nat}
    (hplace : ∀ r ∈ relocations, ¬r.Covers place) : linked[place]? = code[place]? := by
  obtain ⟨fs, hfs, rfl⟩ := patch_eq_ok h
  refine getElem?_foldl_apply_of_not_covers code fun f hf => ?_
  obtain ⟨r, hr, hfix⟩ := forall₂_exists_of_mem_right hfs hf
  exact mt (covers_of_fix hfix).1 (hplace r hr)

theorem getElem?_patch_of_last {before after : List Relocation} {r : Relocation} {place : Nat}
    (h : patch tableSize loadOffset (before ++ r :: after) code = .ok linked)
    (hr : r.Covers place) (hafter : ∀ s ∈ after, ¬s.Covers place) :
    ∃ v, fieldValue tableSize loadOffset r = .ok v ∧
      linked[place]? = (Bytes.ofWord v)[place - r.address.toNat]? := by
  obtain ⟨fs, hfs, rfl⟩ := patch_eq_ok h
  obtain ⟨first, f, last, rfl, hfix, hlast⟩ := forall₂_append_cons hfs
  obtain ⟨hroom, haddress, hvalue⟩ := fix_eq_ok hfix
  refine ⟨f.value, hvalue, ?_⟩
  rw [← haddress] at hroom ⊢
  refine getElem?_foldl_apply_of_last hroom ((covers_of_fix hfix).2 hr) fun g hg => ?_
  obtain ⟨s, hs, hsfix⟩ := forall₂_exists_of_mem_right hlast hg
  exact mt (covers_of_fix hsfix).1 (hafter s hs)

end Patched

/-! ### Code that is patched where it stands -/

/-- Fill in the fields of code in place, one after the other, once all of them
are checked. The result is the size of the code. -/
def patchInPlace (tableSize loadOffset : UInt16) (relocations : List Relocation) :
    StateM Bytes (Except LinkError Nat) := do
  match fixes (← get).length tableSize loadOffset relocations with
  | .error e => return .error e
  | .ok fs =>
    forM fs fun f => modify fun code => f.apply code
    return .ok (← get).length

theorem run_forM_apply (fs : List Fix) (code : Bytes) :
    (forM fs fun f => modify fun code => f.apply code : StateM Bytes PUnit).run code =
      (⟨⟩, fs.foldl Fix.apply code) := by
  induction fs generalizing code with
  | nil => rfl
  | cons f fs ih => exact ih (f.apply code)

/-- A failure leaves the code as it was, and otherwise the patched code stands
in its place. -/
theorem run_patchInPlace (tableSize loadOffset : UInt16) (relocations : List Relocation)
    (code : Bytes) : (patchInPlace tableSize loadOffset relocations).run code =
      match patch tableSize loadOffset relocations code with
      | .error e => (.error e, code)
      | .ok linked => (.ok linked.length, linked) := by
  have hrun : (patchInPlace tableSize loadOffset relocations).run code =
      StateT.run (match fixes code.length tableSize loadOffset relocations with
        | .error e => return .error e
        | .ok fs => do
          forM fs fun f => modify fun code => f.apply code
          return .ok (← get).length) code := rfl
  rw [hrun, patch]
  cases fixes code.length tableSize loadOffset relocations with
  | error e => rfl
  | ok fs =>
      rw [StateT.run_bind, run_forM_apply]
      rfl

/-! ### The outcome -/

/-- Something is at fault with a relocation that lies outside of the code, or
that is not of the base and has no slot or one too far into the table. -/
theorem exists_fault_iff {size : Nat} {r : Relocation} :
    (∃ e, r.Fault size e) ↔ size < r.address.toNat + 2 ∨
      r.isBase = false ∧ ∀ index ∈ r.index, 65535 < slotSize * index.toNat := by
  constructor
  · rintro ⟨e, hroom | ⟨-, hbase, hindex⟩ | ⟨-, hbase, hindex, hfar, -⟩ | ⟨-, hbase, hindex, hword⟩⟩
    · exact .inl hroom
    · exact .inr ⟨hbase, by simp [hindex]⟩
    · refine .inr ⟨hbase, fun other hother => ?_⟩
      obtain rfl := Option.some.inj (hindex.symm.trans hother)
      exact hfar
    · refine .inr ⟨hbase, fun other hother => ?_⟩
      obtain rfl := Option.some.inj (hindex.symm.trans hother)
      exact Nat.lt_of_lt_of_le (by decide) hword
  · rintro (hroom | ⟨hbase, hfar⟩)
    · exact ⟨_, .outOfBounds hroom⟩
    · rcases Nat.lt_or_ge size (r.address.toNat + 2) with hroom | hroom
      · exact ⟨_, .outOfBounds hroom⟩
      · cases hindex : r.index with
        | none => exact ⟨_, .unresolved hroom hbase hindex⟩
        | some index =>
            rcases Nat.lt_or_ge (slotSize * index.toNat) UInt64.size with hword | hword
            · exact ⟨_, .tooFar hroom hbase hindex (hfar index hindex) hword⟩
            · exact ⟨_, .overflow hroom hbase hindex hword⟩

theorem exists_patch_error_iff {tableSize loadOffset : UInt16} {relocations : List Relocation}
    {code : Bytes} : (∃ e, patch tableSize loadOffset relocations code = .error e) ↔
      ∃ r ∈ relocations, ∃ e, r.Fault code.length e := by
  constructor
  · rintro ⟨e, he⟩
    obtain ⟨before, r, after, rfl, -, hr⟩ := fixes_eq_error_iff.1 (patch_eq_error_iff.1 he)
    exact ⟨r, by simp, e, hr⟩
  · rintro ⟨r, hr, e, hfault⟩
    cases hpatch : patch tableSize loadOffset relocations code with
    | error e => exact ⟨e, rfl⟩
    | ok linked =>
        obtain ⟨fs, hfs, -⟩ := patch_eq_ok hpatch
        obtain ⟨f, -, hfix⟩ := forall₂_exists_of_mem_right hfs.flip hr
        exact absurd hfault (exists_fix_iff.1 ⟨f, hfix⟩ e)

/-- Patching fails with the error of the first relocation at fault and leaves
the code as it was. Those that are unresolved, outside of the code or too far
into the table are at fault and no others. Otherwise each byte is the one that
the last field over it holds, and a byte under no field is unchanged. -/
theorem patch_outcome (tableSize loadOffset : UInt16) (relocations : List Relocation)
    (code : Bytes) :
    (∀ e, patch tableSize loadOffset relocations code = .error e ↔
      ∃ before r after, relocations = before ++ r :: after ∧
        (∀ s ∈ before, ∀ e', ¬s.Fault code.length e') ∧ r.Fault code.length e) ∧
    ((∃ e, patch tableSize loadOffset relocations code = .error e) ↔
      ∃ r ∈ relocations, code.length < r.address.toNat + 2 ∨
        r.isBase = false ∧ ∀ index ∈ r.index, 65535 < slotSize * index.toNat) ∧
    (∀ e, patch tableSize loadOffset relocations code = .error e →
      (patchInPlace tableSize loadOffset relocations).run code = (.error e, code)) ∧
    ∀ linked, patch tableSize loadOffset relocations code = .ok linked →
      (patchInPlace tableSize loadOffset relocations).run code = (.ok code.length, linked) ∧
      linked.length = code.length ∧
      (∀ place, (∀ r ∈ relocations, ¬r.Covers place) → linked[place]? = code[place]?) ∧
      ∀ before r after place, relocations = before ++ r :: after → r.Covers place →
        (∀ s ∈ after, ¬s.Covers place) →
        ∃ v, fieldValue tableSize loadOffset r = .ok v ∧
          linked[place]? = (Bytes.ofWord v)[place - r.address.toNat]? := by
  have hfirst : ∀ e, patch tableSize loadOffset relocations code = .error e ↔
      ∃ before r after, relocations = before ++ r :: after ∧
        (∀ s ∈ before, ∀ e', ¬s.Fault code.length e') ∧ r.Fault code.length e :=
    fun e => patch_eq_error_iff.trans fixes_eq_error_iff
  have hinPlace := run_patchInPlace tableSize loadOffset relocations code
  refine ⟨hfirst, ?_, fun e he => ?_, fun linked hlinked => ?_⟩
  · simp only [exists_patch_error_iff, exists_fault_iff]
  · rw [hinPlace, he]
  · have hlength := length_patch hlinked
    refine ⟨?_, hlength, fun place => getElem?_patch_of_not_covers hlinked, ?_⟩
    · rw [hinPlace, hlinked]
      simp only [hlength]
    · rintro before r after place rfl
      exact getElem?_patch_of_last hlinked

/-! Two fields with a byte in common: the later one keeps it. -/

def overlapping : List Relocation :=
  [⟨0, "", "_GLOBAL_OFFSET_TABLE_", none⟩, ⟨1, "Bar", "Tick", some 1⟩]

theorem overlapping_filled : patch 4 0 overlapping [1, 2, 3, 9] = .ok [0xFF, 0, 4, 9] ∧
    (patchInPlace 4 0 overlapping).run [1, 2, 3, 9] = (.ok 4, [0xFF, 0, 4, 9]) ∧
    (¬∃ e, patch 4 0 overlapping [1, 2, 3, 9] = .error e) ∧
    ([0xFF, 0, 4, 9] : Bytes)[3]? = ([1, 2, 3, 9] : Bytes)[3]? ∧
    ∃ v, fieldValue 4 0 ⟨1, "Bar", "Tick", some 1⟩ = .ok v ∧
      ([0xFF, 0, 4, 9] : Bytes)[1]? = (Bytes.ofWord v)[0]? := by
  have hlinked : patch 4 0 overlapping [1, 2, 3, 9] = .ok [0xFF, 0, 4, 9] := rfl
  obtain ⟨-, hfails, -, hfills⟩ := patch_outcome 4 0 overlapping [1, 2, 3, 9]
  obtain ⟨hrun, -, hframe, hlast⟩ := hfills _ hlinked
  refine ⟨hlinked, hrun, ?_, hframe 3 (by decide), ?_⟩
  · rw [hfails]
    simp [overlapping, slotSize, Relocation.isBase, Relocation.baseSymbol]
  · exact hlast [⟨0, "", "_GLOBAL_OFFSET_TABLE_", none⟩] _ [] 1 rfl (by decide) (by simp)

/-- A slot so far into the table that its offset is beyond the machine word stops the program,
where any nearer one is reported as too far. -/
theorem far_slot_overflows :
    let far : Relocation := ⟨0, "Foo", "Far", some 0x4000000000000000⟩
    far.isBase = false ∧ 65535 < slotSize * (0x4000000000000000 : UInt64).toNat ∧
      patch 0 0 [far] [1, 2] = .error .overflow ∧
      patch 0 0 [far] [1, 2] ≠ .error (.tableTooLarge 0x4000000000000001) := by
  decide

end Script

end Cartridge
