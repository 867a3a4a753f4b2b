import Cartridge.Files.Host
import Cartridge.Source.Definition

/-!
Loading sources from files and from directories. In a directory, the files with a source extension
are loaded in ascending order of their names, and so are those in the directories in it.
-/

namespace Cartridge.Source

inductive LoadError where
  | file (cause : FileError)
  | source (path : String) (fault : Fault)
  deriving DecidableEq, Repr

def LoadError.message : LoadError → String
  | .file cause => "io error: " ++ cause.message
  | .source path fault => path ++ ": " ++ fault.message

def isSource (path : String) : Bool :=
  (Path.extension? path).any fun e => Text.sameName e "asm" || Text.sameName e "s"

namespace SourceSet

variable {m : Type → Type} [Monad m] [Host m]

def loadFile (s : SourceSet) (path : String) : m (SourceSet × Except LoadError Unit) := do
  match ← Host.readText path with
  | .error e => return (s, .error (.file e))
  | .ok text =>
    match s.load text with
    | .error fault => return (s, .error (.source path fault))
    | .ok s => return (s, .ok ())

mutual

/-- Add the sources in a directory, up to the first that is at fault. Directories are entered down
to the given depth. -/
def loadDirectoryTo (depth : Nat) (s : SourceSet) (path : String) :
    m (SourceSet × Except LoadError Unit) :=
  match depth with
  | 0 => pure (s, .error (.file (.other "directories nest too deep")))
  | depth + 1 => do
    match ← Host.list path with
    | .error e => return (s, .error (.file e))
    | .ok names => loadEntries depth s (names.map (Path.join path))

def loadEntries (depth : Nat) (s : SourceSet) :
    List String → m (SourceSet × Except LoadError Unit)
  | [] => return (s, .ok ())
  | path :: rest => do
    let (s, result) ← do
      if ← Host.isDirectory path then loadDirectoryTo depth s path
      else if isSource path then s.loadFile path
      else pure (s, .ok ())
    match result with
    | .error e => return (s, .error e)
    | .ok () => loadEntries depth s rest

end

/-- How deep directories can nest: each name on the way takes a character and a slash of a
path. -/
def depthLimit : Nat := Files.pathLimit / 2 + 2

def loadDirectory (s : SourceSet) (path : String) : m (SourceSet × Except LoadError Unit) :=
  loadDirectoryTo depthLimit s path

end SourceSet

end Cartridge.Source
