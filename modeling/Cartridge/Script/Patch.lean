import Cartridge.Script.OffsetTable
import Cartridge.Script.Relocation

/-!
Patching of compiled code. The offset table lies right before the code, so a field for its base
takes the distance back to it, and a field for a routine takes the offset of its slot. All fields
are checked before the first is written.
-/

namespace Cartridge.Script

/-- The value of a field, given the size of the table in bytes and the place where the code is
loaded, counted from the end of the table. -/
def fieldValue (tableSize loadOffset : UInt16) (r : Relocation) : Except LinkError UInt16 :=
  if r.isBase then .ok (0 - r.address.toUInt16 - loadOffset - tableSize)
  else
    match r.index with
    | none => .error (.unresolved r.address r.scope r.name)
    | some index =>
      -- The offset is computed in a machine word before it is measured against a field.
      let offset := OffsetTable.slotSize * index.toNat
      if UInt64.size ≤ offset then .error .overflow
      else if offset < UInt16.size then .ok (UInt16.ofNat offset)
      else .error (.tableTooLarge (index.toNat + 1))

/-- A value for the field at an address. -/
structure Fix where
  address : Nat
  value : UInt16
  deriving DecidableEq, Repr

def fix (size : Nat) (tableSize loadOffset : UInt16) (r : Relocation) : Except LinkError Fix :=
  if size < r.address.toNat + 2 then .error (.outOfBounds r.address size)
  else (fieldValue tableSize loadOffset r).map fun value => ⟨r.address.toNat, value⟩

/-- The fixes for relocations, or the error for the first that has none. -/
def fixes (size : Nat) (tableSize loadOffset : UInt16) :
    List Relocation → Except LinkError (List Fix)
  | [] => .ok []
  | r :: rest => do
    let first ← fix size tableSize loadOffset r
    let others ← fixes size tableSize loadOffset rest
    return first :: others

def Fix.apply (code : Bytes) (f : Fix) : Bytes :=
  (code.set f.address (f.value >>> 8).toUInt8).set (f.address + 1) f.value.toUInt8

@[simp] theorem Fix.length_apply (code : Bytes) (f : Fix) :
    (f.apply code).length = code.length := by
  simp [Fix.apply]

/-- Code with the fields of its relocations filled in, in order. -/
def patch (tableSize loadOffset : UInt16) (relocations : List Relocation) (code : Bytes) :
    Except LinkError Bytes :=
  (fixes code.length tableSize loadOffset relocations).map fun fs => fs.foldl Fix.apply code

end Cartridge.Script
