import Cartridge.Proofs.Linking.Dump
import Cartridge.Proofs.Linking.Patch
import Cartridge.Proofs.Linking.Table

/-!
Linking from end to end. Once a dump has been read against a table and its
relocations have been patched into the code, the code holds the offset of the
right slot wherever it refers to a routine, and the distance back to the table
wherever it refers to its base.
-/

namespace Cartridge.Script

/-- A field for a routine that was looked up in a table holds the offset of a slot of the
table, as long as machine words can number the slots. -/
theorem slot_of_fieldValue {tableSize loadOffset v : UInt16} {t : OffsetTable}
    {r : Relocation} (hwords : t.size ≤ UInt64.size) (hbase : r.isBase = false)
    (hindex : r.index = if r.scope.isEmpty then none
      else (t.find? r.scope r.name).map UInt64.ofNat)
    (h : fieldValue tableSize loadOffset r = .ok v) :
    ∃ i, t.find? r.scope r.name = some i ∧ i < t.size ∧
      v.toNat = OffsetTable.slotSize * i := by
  obtain ⟨index, hsome, hoffset⟩ := fieldValue_eq_ok hbase h
  rw [hsome] at hindex
  split at hindex
  · cases hindex
  · obtain ⟨i, hfind, rfl⟩ := Option.map_eq_some_iff.1 hindex.symm
    obtain ⟨e, he, -⟩ := OffsetTable.getElem?_of_find? hfind
    have hi : i < t.size := (List.getElem?_eq_some_iff.1 he).1
    rw [UInt64.toNat_ofNat_of_lt' (Nat.lt_of_lt_of_le hi hwords)] at hoffset
    exact ⟨i, hfind, hi, hoffset⟩

/-- The value of a field for a routine is the offset of the slot of the
routine. -/
theorem fieldValue_of_scope {tableSize loadOffset v : UInt16} {t : OffsetTable}
    {r : Relocation} (hsize : t.offsetSize = .ok tableSize) (hscope : r.scope ≠ "")
    (hindex : r.index = if r.scope.isEmpty then none
      else (t.find? r.scope r.name).map UInt64.ofNat)
    (h : fieldValue tableSize loadOffset r = .ok v) :
    ∃ i, t.find? r.scope r.name = some i ∧ v.toNat = OffsetTable.slotSize * i ∧
      OffsetTable.slotSize * (i + 1) ≤ tableSize.toNat := by
  have hempty : r.scope.isEmpty = false := by simpa using hscope
  have hbase : r.isBase = false := by rw [Relocation.isBase, hempty, Bool.false_and]
  have hbytes := OffsetTable.byteSize_of_offsetSize hsize
  have hwords : t.size ≤ UInt64.size := by
    have := tableSize.toNat_lt
    rw [OffsetTable.slotSize] at hbytes
    rw [UInt64.size]
    omega
  obtain ⟨i, hfind, hi, hoffset⟩ := slot_of_fieldValue hwords hbase hindex h
  exact ⟨i, hfind, hoffset, by rw [hbytes]; exact Nat.mul_le_mul_left _ hi⟩

/-- The value of a field for the base of the table leads back to it from the
place where the field is loaded. -/
theorem fieldValue_of_isBase {tableSize loadOffset v : UInt16} {r : Relocation}
    (hbase : r.isBase) (h : fieldValue tableSize loadOffset r = .ok v) :
    (v.toNat + r.address.toNat + loadOffset.toNat + tableSize.toNat) % 65536 = 0 := by
  rw [fieldValue, if_pos hbase] at h
  cases h
  have hload := loadOffset.toNat_lt
  have htable := tableSize.toNat_lt
  simp only [UInt16.toNat_sub, UInt32.toNat_toUInt16, UInt16.reduceToNat]
  omega

/-- Where the bytes of a collected table lie, the first routine of a key is
reached through the slot that the key finds. -/
theorem encode_ofRoutines {routines : List Routine} {scope name : String} {i : Nat}
    (hfind : (OffsetTable.ofRoutines routines).find? scope name = some i) :
    ∃ f, (routines.find? fun f => f.key == (scope, name)) = some f ∧
      ∀ address bytes, (OffsetTable.ofRoutines routines).encode address = .ok bytes →
        ∃ a, address f.label = some a ∧
          bytes.numberAt? (OffsetTable.slotSize * i) OffsetTable.slotSize =
            some a.toNat := by
  obtain ⟨e, he, hentry⟩ := OffsetTable.getElem?_of_find? hfind
  have hfirst := OffsetTable.find?_ofRoutines routines (scope, name)
  rw [hentry, Option.map_some] at hfirst
  obtain ⟨f, hf, hunplaced⟩ := Option.map_eq_some_iff.1 hfirst.symm
  have hlabel : f.label = e.label := by
    rw [← f.label_unplaced, hunplaced, e.label_unplaced]
  refine ⟨f, hf, fun address bytes hbytes => ?_⟩
  rw [hlabel]
  exact OffsetTable.numberAt?_encodeEntries hbytes he

/-- Code that has been linked reaches the routines it was compiled against: a
field for a routine holds the offset of the slot with the address of the first
routine of that scope and name, and a field for the base holds the distance
back to the table. -/
theorem linked_code_reaches_table (routines : List Routine) (dump : String)
    (code linked : Bytes) (tableSize loadOffset : UInt16)
    (relocations : List Relocation)
    (hsize : (OffsetTable.ofRoutines routines).offsetSize = .ok tableSize)
    (hdump : Dump.relocations (OffsetTable.ofRoutines routines) dump = .ok relocations)
    (hapart : relocations.Pairwise Relocation.Apart)
    (hlink : patch tableSize loadOffset relocations code = .ok linked) :
    (∀ r ∈ relocations, r.scope ≠ "" →
      ∃ offset f, linked.numberAt? r.address.toNat 2 = some offset ∧
        offset % 4 = 0 ∧ offset + 4 ≤ tableSize.toNat ∧
        (routines.find? fun f => f.key == (r.scope, r.name)) = some f ∧
        ∀ address bytes, (OffsetTable.ofRoutines routines).encode address = .ok bytes →
          ∃ a, address f.label = some a ∧ bytes.numberAt? offset 4 = some a.toNat) ∧
    ∀ r ∈ relocations, r.isBase →
      ∃ distance, linked.numberAt? r.address.toNat 2 = some distance ∧
        (distance + r.address.toNat + loadOffset.toNat + tableSize.toNat) % 65536 = 0 := by
  have hfield : ∀ r ∈ relocations, ∃ v, fieldValue tableSize loadOffset r = .ok v ∧
      linked.numberAt? r.address.toNat 2 = some v.toNat := by
    intro r hr
    obtain ⟨before, after, rfl⟩ := List.append_of_mem hr
    have hlast := (List.pairwise_append.1 hapart).2.1
    exact patch_field hlink (List.pairwise_cons.1 hlast).1
  constructor
  · intro r hr hscope
    obtain ⟨v, hv, hread⟩ := hfield r hr
    obtain ⟨i, hfind, hoffset, hroom⟩ := fieldValue_of_scope hsize hscope
      (Dump.index_of_mem_relocations hdump hr) hv
    obtain ⟨f, hf, hencode⟩ := encode_ofRoutines hfind
    rw [OffsetTable.slotSize] at *
    exact ⟨v.toNat, f, hread, by omega, by omega, hf, by rwa [hoffset]⟩
  · intro r hr hbase
    obtain ⟨v, hv, hread⟩ := hfield r hr
    exact ⟨v.toNat, hread, fieldValue_of_isBase hbase hv⟩

/-! A unit that calls one routine, of which there are two declarations. -/

def tickRoutines : List Routine :=
  [⟨"Init", "Foo", "void", "Foo_Init", [], none⟩,
    ⟨"Tick", "Bar", "void", "Bar_Tick", [], some 7⟩,
    ⟨"Tick", "Bar", "int", "Bar_Other", [], none⟩]

def tickDump : String :=
  "00000000 R_68K_GOT16O _GLOBAL_OFFSET_TABLE_\n0x4 R_68K_GOT16O Bar::Tick(int)+2\n"

def tickRelocations : List Relocation :=
  [⟨0, "", "_GLOBAL_OFFSET_TABLE_", none⟩, ⟨4, "Bar", "Tick", some 1⟩]

/-- Where an assembler put the two routines that have a slot. -/
def tickAddress (label : String) : Option UInt32 :=
  if label = "Foo_Init" then some 0x1000 else if label = "Bar_Tick" then some 0x1234 else none

theorem linked_tick_reaches_table :
    (OffsetTable.ofRoutines tickRoutines).offsetSize = .ok 8 ∧
    Dump.relocations (OffsetTable.ofRoutines tickRoutines) tickDump = .ok tickRelocations ∧
    tickRelocations.Pairwise Relocation.Apart ∧
    patch 8 0x200 tickRelocations [1, 2, 3, 4, 5, 6, 7] =
      .ok [0xFD, 0xF8, 3, 4, 0, 4, 7] ∧
    (OffsetTable.ofRoutines tickRoutines).encode tickAddress =
      .ok [0, 0, 0x10, 0, 0, 0, 0x12, 0x34] ∧
    (∃ offset f, Bytes.numberAt? [0xFD, 0xF8, 3, 4, 0, 4, 7] 4 2 = some offset ∧
      offset % 4 = 0 ∧ offset + 4 ≤ 8 ∧
      (tickRoutines.find? fun f => f.key == ("Bar", "Tick")) = some f ∧
      (∀ address bytes, (OffsetTable.ofRoutines tickRoutines).encode address = .ok bytes →
        ∃ a, address f.label = some a ∧ bytes.numberAt? offset 4 = some a.toNat) ∧
      f.label = "Bar_Tick" ∧ offset = 4 ∧
      Bytes.numberAt? [0, 0, 0x10, 0, 0, 0, 0x12, 0x34] offset 4 = some 0x1234) ∧
    ∃ distance, Bytes.numberAt? [0xFD, 0xF8, 3, 4, 0, 4, 7] 0 2 = some distance ∧
      (distance + 0 + 0x200 + 8) % 65536 = 0 := by
  have hsize : (OffsetTable.ofRoutines tickRoutines).offsetSize = .ok 8 := rfl
  have hdump : Dump.relocations (OffsetTable.ofRoutines tickRoutines) tickDump =
      .ok tickRelocations := by decide +kernel
  have hapart : tickRelocations.Pairwise Relocation.Apart := by decide
  have hlink : patch 8 0x200 tickRelocations [1, 2, 3, 4, 5, 6, 7] =
      .ok [0xFD, 0xF8, 3, 4, 0, 4, 7] := rfl
  have hbytes : (OffsetTable.ofRoutines tickRoutines).encode tickAddress =
      .ok [0, 0, 0x10, 0, 0, 0, 0x12, 0x34] := by decide +kernel
  obtain ⟨hroutine, hbase⟩ := linked_code_reaches_table tickRoutines tickDump _ _ 8 0x200
    tickRelocations hsize hdump hapart hlink
  obtain ⟨offset, f, hread, hmod, hroom, hf, hencode⟩ :=
    hroutine ⟨4, "Bar", "Tick", some 1⟩ (by simp [tickRelocations]) (by decide)
  have hlabel : f.label = "Bar_Tick" := by
    rw [show (tickRoutines.find? fun f => f.key == ("Bar", "Tick")) =
      some ⟨"Tick", "Bar", "void", "Bar_Tick", [], some 7⟩ by decide +kernel] at hf
    cases hf
    rfl
  have hoffset : offset = 4 := (Option.some_inj.1 hread).symm
  -- The slot that the patched reference leads to holds the address of the routine.
  obtain ⟨a, ha, hslot⟩ := hencode tickAddress _ hbytes
  have haddress : a = 0x1234 := by
    rw [hlabel] at ha
    exact (Option.some_inj.1 ha).symm
  rw [haddress] at hslot
  exact ⟨hsize, hdump, hapart, hlink, hbytes,
    ⟨offset, f, hread, hmod, hroom, hf, hencode, hlabel, hoffset, hslot⟩,
    hbase ⟨0, "", "_GLOBAL_OFFSET_TABLE_", none⟩ (by simp [tickRelocations]) (by decide)⟩

end Cartridge.Script
