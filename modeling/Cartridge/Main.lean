import Cartridge.Command.Export
import Cartridge.Command.Link
import Cartridge.Command.Scan

/-!
The command line: `export`, `scan` and `link`, run on the real file system. Events and failures go
to the standard error.
-/

namespace Cartridge

def FileError.ofIO : IO.Error → FileError
  | .noFileOrDirectory .. => .notFound
  | e => .other (toString e)

def attemptIO {α : Type} (action : IO α) : IO (Except FileError α) := do
  try
    return .ok (← action)
  catch e =>
    return .error (.ofIO e)

def Event.line (e : Event) : String :=
  (match e.severity with
    | .warning => "warning: "
    | .error => "error: ") ++
    e.message.text ++
      String.join (e.details.map fun (name, text) => " " ++ name ++ "=" ++ text.text)

instance : Host IO where
  read path := attemptIO do return (← IO.FS.readBinFile path).toList
  write path content := attemptIO (IO.FS.writeBinFile path ⟨content.toArray⟩)
  rename source target := attemptIO (IO.FS.rename source target)
  remove path := attemptIO (IO.FS.removeFile path)
  createDirectories path := attemptIO (IO.FS.createDirAll path)
  isPresent path := do (← IO.FS.realPath path).pathExists
  isDirectory path := do (← IO.FS.realPath path).isDir
  list path := attemptIO do
    let entries ← (← IO.FS.realPath path).readDir
    return (entries.toList.map IO.FS.DirEntry.fileName).mergeSort fun a b => decide (a ≤ b)
  report e := IO.eprintln e.line
  print text := IO.print text
  note _ := pure ()

def perform {α : Type} (args : Option α) (run : α → ExceptT Command.Failure IO Unit) :
    IO UInt32 := do
  match args with
  | none =>
    IO.eprintln "error: invalid arguments"
    return 2
  | some args =>
    match ← (run args).run with
    | .ok () => return 0
    | .error failure =>
      IO.eprintln ("error: " ++ failure.message)
      return 1

end Cartridge

open Cartridge in
def main (args : List String) : IO UInt32 :=
  match args with
  | "export" :: rest => perform (Command.Export.Args.parse? rest) Command.Export.run
  | "scan" :: rest => perform (Command.Scan.directory? rest) Command.Scan.run
  | "link" :: rest => perform (Command.Link.Args.parse? rest) Command.Link.run
  | _ => perform (none : Option String) Command.Scan.run
