import Cartridge.Bytes
import Cartridge.Entity.Basic
import Cartridge.Script.Error

/-!
The global offset table: the address of every script routine, four bytes each. Compiled code calls
routines through their slots in it, so the numbering of slots is fixed by the order of the
routines.
-/

namespace Cartridge.Script

/-- An offset table. No two entries have one key, and each has the number of its slot. -/
structure OffsetTable where
  entries : List Routine
  deriving DecidableEq, Repr

namespace OffsetTable

def empty : OffsetTable := ⟨[]⟩

def size (t : OffsetTable) : Nat :=
  t.entries.length

def find? (t : OffsetTable) (scope name : String) : Option Nat :=
  t.entries.findIdx? fun e => e.key == (scope, name)

/-- Add a routine in the next slot, unless the table has one with its key. -/
def add (t : OffsetTable) (r : Routine) : OffsetTable :=
  if (t.find? r.scope r.name).isSome then t
  else ⟨t.entries ++ [{ r with slot := some (UInt32.ofNat t.size) }]⟩

/-- The table of the given routines, the first of each key in the order of their appearance. -/
def ofRoutines (routines : List Routine) : OffsetTable :=
  routines.foldl add empty

def build (entities : List Entity) (components : List Component) : OffsetTable :=
  ofRoutines (entities.flatMap Entity.routines ++ components.flatMap Component.routines)

def slotSize : Nat := 4

/-- Size of the table in bytes. It is told without a bound, as the tables in which 32-bit words
would fail to hold it are those of `2 ^ 30` routines and more, and to number their slots those of
`2 ^ 32` and more. -/
def byteSize (t : OffsetTable) : Nat :=
  slotSize * t.size

/-- Size of the table in bytes as it is written into code. -/
def offsetSize (t : OffsetTable) : Except LinkError UInt16 :=
  if t.byteSize < UInt16.size then .ok (UInt16.ofNat t.byteSize)
  else .error (.tableTooLarge t.size)

def slotLine (r : Routine) : String :=
  "\tdc.l " ++ r.label ++ "\t\t; " ++ r.signature ++ "\n"

def assembly (t : OffsetTable) : String :=
  String.join (t.entries.map slotLine)

def encodeEntries (address : String → Option UInt32) : List Routine → Except LinkError Bytes
  | [] => .ok []
  | r :: rest =>
    match address r.label with
    | none => .error (.unknownRoutine r.label)
    | some a => (encodeEntries address rest).map (Bytes.ofLong a ++ ·)

/-- The bytes of the table, given the addresses of labels. -/
def encode (t : OffsetTable) (address : String → Option UInt32) : Except LinkError Bytes :=
  encodeEntries address t.entries

end OffsetTable

end Cartridge.Script
