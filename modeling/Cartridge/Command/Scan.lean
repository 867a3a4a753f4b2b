import Cartridge.Command.Failure
import Cartridge.Command.Options
import Cartridge.Json.Writer
import Cartridge.Source.Document

/-!
The scan of a directory of engine sources for the definitions in them.
-/

namespace Cartridge.Command.Scan

def directory? : List String → Option String
  | ["--", directory] => readPath? directory
  | [directory] => if isValue directory then readPath? directory else none
  | _ => none

variable {m : Type → Type} [Monad m] [Host m]

/-- Print the definitions in the sources in a directory. -/
def run (directory : String) : ExceptT Failure m Unit := do
  let sources ← during ("scanning " ++ directory) (attempt .source do
    let (sources, result) ← Source.SourceSet.empty.loadDirectory directory
    return result.map fun () => sources)
  let definitions ← ExceptT.lift (Host.reported sources.resolve)
  ExceptT.lift (Host.print (definitions.write.pretty ++ "\n"))

end Cartridge.Command.Scan
