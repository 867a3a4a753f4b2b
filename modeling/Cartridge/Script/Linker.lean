import Cartridge.Script.Dump
import Cartridge.Script.Patch
import Cartridge.Script.Toolchain

/-!
Linking of script units: compile a source, extract its code, read its relocations and fill in
their fields. The code keeps its extracted bytes unless every field can be filled in.
-/

namespace Cartridge.Script

variable {m : Type → Type} [Monad m] [Host m]

/-- Fill in the fields of the code in a file. The result is the size of the code. -/
def linkFile (path : String) (relocations : List Relocation) (tableSize loadOffset : UInt16) :
    m (Except LinkError Nat) := do
  match ← Host.read path with
  | .error e => return .error (.file e)
  | .ok code =>
    match patch tableSize loadOffset relocations code with
    | .error e => return .error e
    | .ok patched =>
      match ← Host.replace path patched with
      | .error e => return .error (.unwritable path e)
      | .ok () => return .ok patched.length

inductive Stage where
  | buildingTable
  | compiling
  | parsingRelocations
  | patching
  | done
  | failed
  deriving DecidableEq, Repr

def Stage.name : Stage → String
  | .buildingTable => "BuildingTable"
  | .compiling => "Compiling"
  | .parsingRelocations => "ParsingRelocations"
  | .patching => "Patching"
  | .done => "Done"
  | .failed => "Failed"

/-- A linked unit. The dump of its symbols is kept so that addresses can be looked up. -/
structure LinkedUnit where
  binary : String
  size : Nat
  relocations : List Relocation
  symbols : String
  deriving DecidableEq, Repr

/-- A linker. All units are linked against one offset table. -/
structure Linker where
  table : Option OffsetTable
  loadOffset : UInt16
  stage : Stage
  deriving DecidableEq, Repr

namespace Linker

def new (loadOffset : UInt16) : Linker :=
  ⟨none, loadOffset, .buildingTable⟩

def buildTable (l : Linker) (entities : List Entity) (components : List Component) : Linker :=
  { l with table := some (.build entities components), stage := .buildingTable }

def makeBinary (tools : Toolchain m) (source object binary : String) :
    m (Except LinkError Unit) := do
  Host.note (.compile source object)
  match ← tools.compile source object with
  | .error e => return .error e
  | .ok () =>
    Host.note (.extractBinary object binary)
    tools.extractBinary object binary

/-- The symbols of a unit and its relocations, the first of which must be that of the base. -/
def readRelocations (tools : Toolchain m) (table : OffsetTable) (object : String) :
    m (Except LinkError (String × List Relocation)) := do
  Host.note (.dumpSymbols object)
  match ← tools.dumpSymbols object with
  | .error e => return .error e
  | .ok symbols =>
    match Dump.relocations table symbols with
    | .error e => return .error e
    | .ok [] => return .ok (symbols, [])
    | .ok (first :: others) =>
      if first.isBase then return .ok (symbols, first :: others)
      else
        Host.report (.warning "relocation table rejected"
          [("count", .ofNat (others.length + 1))])
        return .error (.missingBase first.name)

/-- Build and link a unit against a table of the given size. The stage is the one that was reached
last. -/
def buildUnit (tools : Toolchain m) (table : OffsetTable) (tableSize loadOffset : UInt16)
    (source out : String) : m (Stage × Except LinkError LinkedUnit) := do
  let object := Path.withExtension out "o"
  let binary := Path.withExtension out "bin"
  match ← makeBinary tools source object binary with
  | .error e => return (.compiling, .error e)
  | .ok () =>
    match ← readRelocations tools table object with
    | .error e => return (.parsingRelocations, .error e)
    | .ok (symbols, relocations) =>
      match ← linkFile binary relocations tableSize loadOffset with
      | .error e => return (.patching, .error e)
      | .ok size => return (.patching, .ok ⟨binary, size, relocations, symbols⟩)

def attempt (tools : Toolchain m) (l : Linker) (source out : String) :
    m (Stage × Except LinkError LinkedUnit) :=
  match l.table with
  | none => pure (l.stage, .error .tableNotBuilt)
  | some table =>
    match table.offsetSize with
    | .error e => pure (l.stage, .error e)
    | .ok tableSize => buildUnit tools table tableSize l.loadOffset source out

/-- Build and link a unit. The object file and the code go beside `out`. -/
def linkUnit (tools : Toolchain m) (l : Linker) (source out : String) :
    m (Except LinkError LinkedUnit × Linker) := do
  let (stage, result) ← attempt tools l source out
  match result with
  | .ok unit => return (.ok unit, { l with stage := .done })
  | .error e =>
    Host.report ⟨.error, .own "script link failed",
      [("source", .own source), ("stage", .own stage.name), ("error", e.wording)]⟩
    return (.error e, { l with stage := .failed })

end Linker

end Cartridge.Script
