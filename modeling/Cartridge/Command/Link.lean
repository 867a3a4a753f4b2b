import Cartridge.Command.Failure
import Cartridge.Command.Options
import Cartridge.Entity.Document
import Cartridge.Json.Reader
import Cartridge.Script.Linker

/-!
The linking of script code that was compiled elsewhere: the relocations of a dump are filled in in
a binary.
-/

namespace Cartridge.Command.Link

structure Args where
  binary : String
  dump : String
  /-- The number of entries of the offset table; without it, the table itself says. -/
  entries : Option UInt16
  loadOffset : UInt16
  table : Option String
  deriving DecidableEq, Repr

namespace Args

def binaryOption : OptionSpec := ⟨"binary", some 'b', .single⟩
def dumpOption : OptionSpec := ⟨"dump", some 'd', .single⟩
def entriesOption : OptionSpec := ⟨"got-entries", some 'g', .single⟩
def loadOffsetOption : OptionSpec := ⟨"load-offset", some 'l', .single⟩
def tableOption : OptionSpec := ⟨"table", some 't', .single⟩

def options : List OptionSpec :=
  [binaryOption, dumpOption, entriesOption, loadOffsetOption, tableOption]

def readOffset? (value : String) : Option UInt16 :=
  (Text.readMarkedHex? UInt16.size value.toList).map UInt16.ofNat

def readEntries? (value : String) : Option UInt16 :=
  (Text.readDecimalInt? 0 0xFFFF value.toList).map fun i => UInt16.ofNat i.toNat

def parse? (line : List String) : Option Args := do
  let given ← Command.parse? options line
  let binary ← binaryOption.required readPath? given
  let dump ← dumpOption.required readPath? given
  let entries ← entriesOption.optional readEntries? given
  let loadOffset ← loadOffsetOption.valueOr readOffset? 0 given
  let table ← tableOption.optional readPath? given
  return ⟨binary, dump, entries, loadOffset, table⟩

end Args

variable {m : Type → Type} [Monad m] [Host m]

def loadTable : Option String → ExceptT Failure m Script.OffsetTable
  | none => return .empty
  | some path => do
    let text ← during ("reading " ++ path) (attempt .file (Host.readText path))
    match (Json.Value.parse? text).bind (Json.Read.list Routine.read) with
    | some routines => return .ofRoutines routines
    | none => throw (.during ("parsing " ++ path) .malformed)

/-- The size of the offset table in bytes. A number of entries that is given counts more than the
table. -/
def tableSize (args : Args) (table : Script.OffsetTable) : Except Failure UInt16 :=
  match args.entries, args.table with
  | some entries, _ =>
    if entries.toNat * Script.OffsetTable.slotSize < UInt16.size then .ok (entries * 4)
    else .error .tooManyEntries
  | none, some _ => table.offsetSize.mapError .link
  | none, none => .error .noTableSize

/-- The relocations, if the first of them is that of the base of the table. -/
def basedRelocations : List Relocation → Except Script.LinkError (List Relocation)
  | [] => .ok []
  | first :: others =>
    if first.isBase then .ok (first :: others) else .error (.missingBase first.name)

/-- Link a binary. -/
def run (args : Args) : ExceptT Failure m Unit := do
  let table ← loadTable args.table
  let size ← attempt id (pure (tableSize args table))
  let dump ← during ("reading " ++ args.dump) (attempt .file (Host.readText args.dump))
  let relocations ← during ("parsing " ++ args.dump)
    (attempt .link (pure (Script.Dump.relocations table dump)))
  during ("linking " ++ args.binary) do
    let relocations ← attempt .link (pure (basedRelocations relocations))
    let _ ← attempt .link (Script.linkFile args.binary relocations size args.loadOffset)

end Cartridge.Command.Link
