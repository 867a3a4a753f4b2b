import Cartridge.Files.Tree
import Cartridge.Text.Search

/-!
The files that are there before any others: programs, and the directories they are in.
-/

namespace Cartridge.Shell

open Cartridge.Text

def programs : List String :=
  ["[", "cat", "dash", "echo", "false", "printf", "sh", "test", "true"]

def programDirectory : Place := ["usr", "bin"]

def nullFile : Place := ["dev", "null"]

/-- A machine with nothing but its programs, and a directory in which relative paths start. -/
def machine (current : Place) : Files :=
  let directories := [["dev"], ["etc"], ["proc"], ["tmp"], ["usr"], programDirectory,
    ["usr", "lib"], ["usr", "local"], ["usr", "sbin"], current.dropLast, current]
  { nodes :=
      directories.map (·, .directory) ++ [(nullFile, .file [])] ++
        programs.map fun name => (programDirectory ++ [name], .file [0x7F, 0x45, 0x4C, 0x46])
    links :=
      [(["bin"], programDirectory), (["lib"], ["usr", "lib"]), (["sbin"], ["usr", "sbin"])]
    current }

def programAt? (place : Place) : Option String :=
  match place with
  | ["usr", "bin", name] => if programs.contains name then some name else none
  | _ => none

def usualDirectories : List String :=
  ["/usr/local/sbin", "/usr/local/bin", "/usr/sbin", "/usr/bin", "/sbin", "/bin"]

def programOf (fs : Files) (path : String) : Except FileError String := do
  let place ← fs.locate path
  match fs.get? place, programAt? place with
  | none, _ => .error .notFound
  | some _, some name => .ok name
  | some _, none => .error (.other "permission denied")

/-- The first path under which there is a program of some name. A name with slashes is a path. -/
def findProgram (fs : Files) (directories : List String) (name : String) :
    Except FileError String :=
  if name.toList.contains '/' then programOf fs name
  else
    let found := directories.filterMap fun directory =>
      let path := if directory.isEmpty then name else directory ++ "/" ++ name
      (programOf fs path).toOption
    match found with
    | program :: _ => .ok program
    | [] => .error .notFound

end Cartridge.Shell
