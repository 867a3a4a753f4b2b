import Cartridge.Files.Host
import Cartridge.Script.Ending
import Cartridge.Script.Error
import Cartridge.Text.Blank

/-!
The tools that build a script: a compiler, a tool that extracts the code of an object file, and
one that dumps its symbols. They are run with fixed arguments to which only paths are added.
-/

namespace Cartridge.Script

/-- The three steps of building a script that are left to tools. -/
structure Toolchain (m : Type → Type) where
  compile (source object : String) : m (Except LinkError Unit)
  extractBinary (object binary : String) : m (Except LinkError Unit)
  dumpSymbols (object : String) : m (Except LinkError String)

/-- Where the tools are and how they are called. -/
structure ToolSettings where
  /-- The directory with the tools in its `bin` directory. Without one they are looked up by
  name. -/
  root : Option String
  compiler : String
  extractor : String
  dumper : String
  compilerArgs : List String
  extractorArgs : List String
  dumperArgs : List String
  includes : List String
  defines : List String
  deriving DecidableEq, Repr

namespace ToolSettings

def default : ToolSettings where
  root := none
  compiler := "m68k-elf-gcc"
  extractor := "m68k-elf-objcopy"
  dumper := "m68k-elf-objdump"
  compilerArgs := ["-m68000", "-O3", "-Wall", "-fno-builtin", "-nostdlib", "-n", "-fno-inline",
    "-fpie", "-x", "c++", "-c", "-Wl,-N"]
  extractorArgs := ["-j", ".text", "-O", "binary"]
  dumperArgs := ["-t", "-r", "-C"]
  includes := []
  defines := []

def toolPath (t : ToolSettings) (tool : String) : String :=
  match t.root with
  | some root => Path.join (Path.join root "bin") tool
  | none => tool

def compileArgs (t : ToolSettings) (source object : String) : List String :=
  t.compilerArgs ++ (t.root.map ("-B" ++ ·)).toList ++ t.includes.map ("-I" ++ ·) ++
    t.defines.map ("-D" ++ ·) ++ [source, "-o", object]

def extractArgs (t : ToolSettings) (object binary : String) : List String :=
  t.extractorArgs ++ [object, binary]

def dumpArgs (t : ToolSettings) (object : String) : List String :=
  t.dumperArgs ++ [object]

end ToolSettings

/-- How a program ended, and what it wrote. -/
structure Finished where
  ending : Ending
  output : Bytes
  complaints : Bytes
  deriving DecidableEq, Repr

/-- A way to run programs: given a path and arguments, how the program ends, or why it cannot be
started. -/
abbrev Runner (m : Type → Type) := String → List String → m (Except FileError Finished)

/-- Run a tool for its output. -/
def runTool {m : Type → Type} [Monad m] (run : Runner m) (t : ToolSettings) (tool : String)
    (args : List String) : m (Except LinkError String) := do
  match ← run (t.toolPath tool) args with
  | .error e => return .error (.unstartable tool e)
  | .ok finished =>
    if finished.ending.isSuccess then return .ok finished.output.lossyText
    else return .error (.toolFailed tool finished.ending.text
      (Text.trim finished.complaints.lossyText))

def ToolSettings.toolchain {m : Type → Type} [Monad m] (t : ToolSettings) (run : Runner m) :
    Toolchain m where
  compile source object := do
    return (← runTool run t t.compiler (t.compileArgs source object)).map fun _ => ()
  extractBinary object binary := do
    return (← runTool run t t.extractor (t.extractArgs object binary)).map fun _ => ()
  dumpSymbols object := runTool run t t.dumper (t.dumpArgs object)

end Cartridge.Script
