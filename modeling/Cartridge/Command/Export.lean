import Cartridge.Command.Failure
import Cartridge.Command.Options
import Cartridge.Export.Archetype
import Cartridge.Export.Prefab
import Cartridge.Export.Scene
import Cartridge.Json.Writer
import Cartridge.Script.OffsetTable
import Cartridge.Script.Sources
import Cartridge.Text.Blank

/-!
The export of a project: its archetypes, prefabs and scenes as assembly source, the declarations
that its scripts are written against, and the offset table of the script routines. Each of these is
a step of its own, and one that fails does not keep the others from being done.
-/

namespace Cartridge.Command.Export

open Cartridge.Export

structure Args where
  project : String
  out : String
  /-- The scenes to export; if there are none, all of the project's. -/
  scenes : List String
  addresses : Option String
  scripts : Option String
  settings : Settings
  deriving DecidableEq, Repr

namespace Args

def projectOption : OptionSpec := ⟨"project", some 'p', .single⟩
def outOption : OptionSpec := ⟨"out", some 'o', .single⟩
def sceneOption : OptionSpec := ⟨"scene", some 's', .repeated⟩
def addressesOption : OptionSpec := ⟨"addresses", none, .single⟩
def scriptsOption : OptionSpec := ⟨"scripts-dir", none, .single⟩
def borderOption : OptionSpec := ⟨"sprite-border", none, .single⟩
def nameLengthOption : OptionSpec := ⟨"debug-name-len", none, .single⟩
def noNamesOption : OptionSpec := ⟨"no-debug-names", none, .flag⟩

def options : List OptionSpec :=
  [projectOption, outOption, sceneOption, addressesOption, scriptsOption, borderOption,
    nameLengthOption, noNamesOption]

def readCoordinate? (text : List Char) : Option Int32 :=
  (Text.readDecimalInt? (-0x80000000) 0x7fffffff (Text.trimList text)).map Int32.ofInt

def readPoint? (value : String) : Option Point := do
  let (x, y) ← Text.cutAtChar ',' value.toList
  return ⟨← readCoordinate? x, ← readCoordinate? y⟩

def readLength? (value : String) : Option Nat :=
  let digits := match value.toList with
    | '+' :: digits => digits
    | digits => digits
  (Text.readDecimal? digits).filter (· < UInt64.size)

def parse? (line : List String) : Option Args := do
  let given ← Command.parse? options line
  let project ← projectOption.required readPath? given
  let out ← outOption.valueOr readPath? "out" given
  let addresses ← addressesOption.optional readPath? given
  let scripts ← scriptsOption.optional readPath? given
  let border ← borderOption.valueOr readPoint? Settings.default.border given
  let length ←
    nameLengthOption.valueOr readLength? Settings.default.debugNameLength given
  return ⟨project, out, sceneOption.values given, addresses, scripts,
    ⟨border, length, !noNamesOption.isGiven given⟩⟩

def scriptsPath (args : Args) : String :=
  args.scripts.getD (Path.join args.out "scripts")

def outPath (args : Args) (file : String) : String :=
  Path.join args.out file

def sceneNames (args : Args) (p : Project) : List String :=
  if args.scenes.isEmpty then p.scenes.map Scene.name else args.scenes

end Args

def tableSourceFile : String := "script_table.asm"
def tableDocumentFile : String := "script_table.json"

variable {m : Type → Type} [Monad m] [Host m]

def readDocument (path : String) : ExceptT Failure m String :=
  attempt .file (Host.readText path)

def loadProject (path : String) : ExceptT Failure m Project :=
  during ("loading project " ++ path) do
    let text ← readDocument path
    attempt .project (pure (Project.load text))

def loadAddresses : Option String → ExceptT Failure m AddressMap
  | none => return .empty
  | some path => do
    let text ← during ("reading " ++ path) (readDocument path)
    match (Json.Value.parse? text).bind AddressMap.read with
    | some addresses => return addresses
    | none => throw (.during ("parsing " ++ path) .malformed)

def create (path : String) : ExceptT Failure m Unit :=
  during ("creating " ++ path) (attempt .file (Host.createDirectories path))

def writeOutput (path text : String) : ExceptT Failure m Unit :=
  attempt (.unwritable path) (Host.replace path (Bytes.ofText text))

def exportArchetypes (b : Builder) (args : Args) : ExceptT Failure m Unit := do
  let archetypes ← ExceptT.lift (Host.reported b.archetypes)
  writeOutput (args.outPath archetypesFile) (archetypesText b.settings archetypes)

def exportPrefabs (b : Builder) (args : Args) : ExceptT Failure m Unit := do
  let prefabs ← ExceptT.lift (Host.reported b.prefabs)
  writeOutput (args.outPath prefabsFile) (prefabsText b.settings prefabs)

/-- Export the scene of a name, if there is one and the types of all its instances are known. -/
def exportScene (b : Builder) (args : Args) (name : String) : ExceptT Failure m Unit :=
  match b.project.scene? name with
  | none => throw (.unknownScene name)
  | some scene => do
    let entities ← attempt .build (Host.reported (b.scene scene))
    writeOutput (args.outPath (sceneFile scene.name)) (sceneText b.settings scene.name entities)

/-- The entities of the types that scripts can be attached to. -/
def scriptedEntities (b : Builder) : Logged (List Entity) :=
  .each (b.project.types.filter fun t => !t.isPrefab) b.reportedType

def tableOf (entities : List Entity) : Script.OffsetTable :=
  .build entities (entities.flatMap Entity.components)

def tableDocument (table : Script.OffsetTable) : Json.Value :=
  .list Routine.write table.entries

def exportScripts (b : Builder) (args : Args) : ExceptT Failure m Unit := do
  let entities ← ExceptT.lift (Host.reported (scriptedEntities b))
  create args.scriptsPath
  let _ ← attempt .link (Script.writeSources args.scriptsPath entities)
  let table := tableOf entities
  writeOutput (args.outPath tableSourceFile) table.assembly
  writeOutput (args.outPath tableDocumentFile) (tableDocument table).pretty

/-- The steps of an export, by name. -/
def steps (b : Builder) (args : Args) : List (String × ExceptT Failure m Unit) :=
  ("archetypes", exportArchetypes b args) :: ("prefabs", exportPrefabs b args) ::
    (args.sceneNames b.project).map (fun name => ("scene " ++ name, exportScene b args name)) ++
    [("scripts", exportScripts b args)]

/-- Carry out steps and count those that fail. Failures are reported. -/
def carryOut : List (String × ExceptT Failure m Unit) → m Nat
  | [] => return 0
  | (name, step) :: rest => do
    match ← step.run with
    | .ok () => carryOut rest
    | .error f =>
      Host.report ⟨.error, f.wording, [("step", .own name)]⟩
      return (← carryOut rest) + 1

/-- Export a project. -/
def run (args : Args) : ExceptT Failure m Unit := do
  let project ← loadProject args.project
  let addresses ← loadAddresses args.addresses
  create args.out
  let failures ← ExceptT.lift (carryOut (steps ⟨project, addresses, args.settings⟩ args))
  if failures > 0 then throw (.failedSteps failures)

end Cartridge.Command.Export
