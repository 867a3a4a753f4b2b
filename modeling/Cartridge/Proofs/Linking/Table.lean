import Cartridge.Proofs.BigEndian
import Cartridge.Script.OffsetTable

/-!
Collecting an offset table. Of the routines with one key the table keeps the
first, and the bytes of a slot are the address of the routine in it.
-/

namespace Cartridge

/-- A routine apart from the slot that it has been given. -/
def Routine.unplaced (r : Routine) : Routine :=
  { r with slot := none }

@[simp] theorem Routine.label_unplaced (r : Routine) : r.unplaced.label = r.label := rfl

namespace Script.OffsetTable

theorem isSome_find? (t : OffsetTable) (scope name : String) :
    (t.find? scope name).isSome =
      (t.entries.find? fun e => e.key == (scope, name)).isSome := by
  rw [find?, List.findIdx?_isSome, List.isSome_find?]

/-- A slot that has been found holds a routine of the given key, the first one
in the table. -/
theorem getElem?_of_find? {t : OffsetTable} {scope name : String} {i : Nat}
    (h : t.find? scope name = some i) :
    ∃ e, t.entries[i]? = some e ∧
      (t.entries.find? fun e => e.key == (scope, name)) = some e := by
  have hbind : t.entries.find? (fun e => e.key == (scope, name)) =
      (t.entries.findIdx? fun e => e.key == (scope, name)).bind (t.entries[·]?) :=
    List.find?_eq_bind_findIdx?_getElem?
  rw [show t.entries.findIdx? (fun e => e.key == (scope, name)) = some i from h,
    Option.bind_some] at hbind
  obtain ⟨hi, -⟩ := List.findIdx?_eq_some_iff_getElem.1 h
  exact ⟨t.entries[i], List.getElem?_eq_getElem hi,
    hbind.trans (List.getElem?_eq_getElem hi)⟩

/-- Adding routines leaves what a key finds: an entry that was there, or else
the first of the routines that were added. -/
theorem find?_foldl_add (t : OffsetTable) (routines : List Routine)
    (k : String × String) :
    ((routines.foldl add t).entries.find? fun e => e.key == k).map Routine.unplaced =
      ((t.entries ++ routines).find? fun e => e.key == k).map Routine.unplaced := by
  induction routines generalizing t with
  | nil => rw [List.foldl_nil, List.append_nil]
  | cons r rest ih =>
      rw [List.foldl_cons, ih]
      have hsome := t.isSome_find? r.scope r.name
      by_cases hr : (t.find? r.scope r.name).isSome
      · -- The routine is left out; it could only be found behind an entry of its key.
        rw [add, if_pos hr, List.find?_append, List.find?_append, List.find?_cons]
        by_cases hk : r.key = k
        · rw [hr, show (r.scope, r.name) = k from hk] at hsome
          obtain ⟨e, he⟩ := Option.isSome_iff_exists.1 hsome.symm
          rw [he, Option.some_or, Option.some_or]
        · rw [show (r.key == k) = false by simpa using hk]
      · rw [add, if_neg hr]
        generalize hp : ({ r with slot := some (UInt32.ofNat t.size) } : Routine) = p
        have hkey : p.key = r.key := by rw [← hp]; rfl
        have hunplaced : p.unplaced = r.unplaced := by rw [← hp]; rfl
        rw [List.append_assoc, List.singleton_append, List.find?_append,
          List.find?_append, List.find?_cons, List.find?_cons, hkey]
        by_cases hk : r.key = k
        · rw [show (r.key == k) = true by simpa using hk]
          cases t.entries.find? fun e => e.key == k with
          | none => simp [hunplaced]
          | some e => rfl
        · rw [show (r.key == k) = false by simpa using hk]

/-- A key finds in a collected table what it finds among the routines. -/
theorem find?_ofRoutines (routines : List Routine) (k : String × String) :
    ((ofRoutines routines).entries.find? fun e => e.key == k).map Routine.unplaced =
      (routines.find? fun e => e.key == k).map Routine.unplaced :=
  find?_foldl_add empty routines k

/-! ### The bytes of a table -/

theorem encodeEntries_cons {address : String → Option UInt32} {r : Routine}
    {rest : List Routine} {bytes : Bytes}
    (h : encodeEntries address (r :: rest) = .ok bytes) :
    ∃ a others, address r.label = some a ∧ encodeEntries address rest = .ok others ∧
      bytes = Bytes.ofLong a ++ others := by
  rw [encodeEntries] at h
  split at h
  · cases h
  · next a ha =>
      cases hrest : encodeEntries address rest with
      | error e =>
          rw [hrest] at h
          cases h
      | ok others =>
          rw [hrest] at h
          cases h
          exact ⟨a, others, ha, rfl, rfl⟩

theorem length_encodeEntries {address : String → Option UInt32} {entries : List Routine}
    {bytes : Bytes} (h : encodeEntries address entries = .ok bytes) :
    bytes.length = slotSize * entries.length := by
  induction entries generalizing bytes with
  | nil =>
      cases h
      rfl
  | cons r rest ih =>
      obtain ⟨a, others, -, hothers, rfl⟩ := encodeEntries_cons h
      rw [List.length_append, ih hothers, Bytes.length_ofLong, List.length_cons, slotSize]
      omega

/-- The bytes of a slot are the address of the label of its routine. -/
theorem numberAt?_encodeEntries {address : String → Option UInt32}
    {entries : List Routine} {bytes : Bytes} {i : Nat} {e : Routine}
    (h : encodeEntries address entries = .ok bytes) (hi : entries[i]? = some e) :
    ∃ a, address e.label = some a ∧
      bytes.numberAt? (slotSize * i) slotSize = some a.toNat := by
  have hlen := length_encodeEntries h
  obtain ⟨hlt, -⟩ := List.getElem?_eq_some_iff.1 hi
  suffices hslice : ∃ a, address e.label = some a ∧
      (bytes.drop (slotSize * i)).take slotSize = Bytes.ofLong a by
    obtain ⟨a, ha, hslice⟩ := hslice
    refine ⟨a, ha, ?_⟩
    rw [Bytes.numberAt?_of_slice hslice (by rw [hlen, slotSize]; omega),
      Bytes.value_ofLong]
  clear hlen hlt
  induction entries generalizing bytes i with
  | nil => cases hi
  | cons r rest ih =>
      obtain ⟨a, others, ha, hothers, rfl⟩ := encodeEntries_cons h
      cases i with
      | zero =>
          cases hi
          exact ⟨a, ha, rfl⟩
      | succ i =>
          obtain ⟨b, hb, hslice⟩ := ih hothers hi
          refine ⟨b, hb, ?_⟩
          rw [← hslice, Nat.mul_succ, Nat.add_comm, ← List.drop_drop]
          rfl

/-! ### The size of a table -/

/-- Computed in 32-bit words the size is the same, as long as they can hold it. -/
theorem byteSize_eq_toNat {t : OffsetTable} (h : t.byteSize < UInt32.size) :
    t.byteSize = (UInt32.ofNat t.size * 4).toNat := by
  have hfour : (4 : UInt32).toNat = 4 := rfl
  rw [byteSize, slotSize, UInt32.size] at h
  rw [byteSize, slotSize, UInt32.toNat_mul, UInt32.toNat_ofNat', hfour]
  omega

theorem byteSize_of_offsetSize {t : OffsetTable} {size : UInt16}
    (h : t.offsetSize = .ok size) : size.toNat = slotSize * t.size := by
  unfold offsetSize at h
  split at h
  · next hlt =>
      cases h
      exact UInt16.toNat_ofNat_of_lt' hlt
  · cases h

end Script.OffsetTable

end Cartridge
