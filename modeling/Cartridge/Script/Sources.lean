import Cartridge.Files.Host
import Cartridge.Script.Error
import Cartridge.Script.Header

/-!
Writing the generated declarations of entity scripts. The sources that hold authored code are
only written when they are missing.
-/

namespace Cartridge.Script

variable {m : Type → Type} [Monad m] [Host m]

def writeText (path text : String) : m (Except LinkError String) := do
  match ← Host.replace path (Bytes.ofText text) with
  | .error e => return .error (.unwritable path e)
  | .ok () => return .ok path

def headerPath (directory type : String) : String :=
  Path.join directory (type ++ ".h")

def sourcePath (directory type : String) : String :=
  Path.join directory (type ++ ".cpp")

/-- Write the header of an entity type, and its source if there is none. The result lists what was
written. -/
def writeType (directory : String) (e : Entity) : m (Except LinkError (List String)) := do
  match ← writeText (headerPath directory e.typeName) (entityHeader e) with
  | .error e => return .error e
  | .ok header =>
    if ← Host.isPresent (sourcePath directory e.typeName) then return .ok [header]
    else
      match ← writeText (sourcePath directory e.typeName) (boilerplate e) with
      | .error e => return .error e
      | .ok source => return .ok [header, source]

/-- Write the files of each type, besides those that were seen already. -/
def writeTypes (directory : String) (seen : List String) :
    List Entity → m (Except LinkError (List String))
  | [] => return .ok []
  | e :: rest => do
    if seen.contains e.typeName then writeTypes directory seen rest
    else
      match ← writeType directory e with
      | .error e => return .error e
      | .ok written =>
        return (← writeTypes directory (e.typeName :: seen) rest).map (written ++ ·)

/-- Write the files of each entity type and the header of all components. The result lists what
was written. -/
def writeSources (directory : String) (entities : List Entity) :
    m (Except LinkError (List String)) := do
  match ← writeTypes directory [] entities with
  | .error e => return .error e
  | .ok written =>
    let header := componentHeader (entities.flatMap Entity.components)
    return (← writeText (Path.join directory componentsHeader) header).map (written ++ [·])

end Cartridge.Script
