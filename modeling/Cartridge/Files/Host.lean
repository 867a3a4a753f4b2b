import Cartridge.Files.Path
import Cartridge.Files.Tree
import Cartridge.Report

/-!
What a command asks of its surroundings: the file system, a place to report events to, and one to
print to. The surroundings can be the real ones or a `Session`, which is plain data.
-/

namespace Cartridge

inductive ToolCall where
  | compile (source object : String)
  | extractBinary (object binary : String)
  | dumpSymbols (object : String)
  deriving DecidableEq, Repr

class Host (m : Type → Type) where
  read : String → m (Except FileError Bytes)
  write : String → Bytes → m (Except FileError Unit)
  rename : String → String → m (Except FileError Unit)
  remove : String → m (Except FileError Unit)
  createDirectories : String → m (Except FileError Unit)
  isPresent : String → m Bool
  isDirectory : String → m Bool
  list : String → m (Except FileError (List String))
  report : Event → m Unit
  print : String → m Unit
  note : ToolCall → m Unit

namespace Host

variable {m : Type → Type} [Monad m] [Host m]

def reportAll : List Event → m Unit
  | [] => pure ()
  | e :: rest => do
    report e
    reportAll rest

def reported {α : Type} (x : Logged α) : m α := do
  reportAll x.events
  return x.value

def readText (path : String) : m (Except FileError String) := do
  match ← read path with
  | .error e => return .error e
  | .ok content =>
    match Bytes.text? content with
    | some text => return .ok text
    | none => return .error .notText

def stagingPath (path : String) : String :=
  Path.withExtension path "tmp"

/-- Give a file new content at once: it is written to a file beside it, which then takes its
place. After a failure that other file is gone. -/
def replace (path : String) (content : Bytes) : m (Except FileError Unit) := do
  match ← write (stagingPath path) content with
  | .error e =>
    let _ ← remove (m := m) (stagingPath path)
    return .error e
  | .ok () =>
    match ← rename (stagingPath path) path with
    | .error e =>
      let _ ← remove (m := m) (stagingPath path)
      return .error e
    | .ok () => return .ok ()

end Host

end Cartridge
