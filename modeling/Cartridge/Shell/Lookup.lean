import Cartridge.Shell.Expand
import Cartridge.Shell.Grammar

/-!
What the name of a command leads to: a function, a builtin command or a program. Programs that have
been found are remembered.
-/

namespace Cartridge.Shell

def regularBuiltins : List String :=
  ["[", "alias", "bg", "cd", "chdir", "command", "echo", "false", "fg", "getopts", "hash", "jobs",
    "kill", "printf", "pwd", "read", "test", "true", "type", "ulimit", "umask", "unalias",
    "wait"]

def isBuiltin (name : Octets) : Bool :=
  specialBuiltins.contains name || regularBuiltins.contains name

/-- What the name of a command leads to. -/
inductive Found where
  | nothing (reason : Octets)
  | function (body : Command)
  | builtin (special : Bool)
  | program (index : Option Nat)

def pathIn (directory name : Octets) : Octets :=
  if directory.isEmpty then name else directory ++ "/" ++ name

def programPath (path : Octets) (index : Option Nat) (name : Octets) : Octets :=
  match index with
  | none => name
  | some index => pathIn ((directoriesIn path)[index]?.getD "") name

/-- The first directory, from an index on, in which there is a program; otherwise why there is
none. -/
def searchProgram (fs : Files) (name : Octets) (reason : Octets) (index : Nat) :
    List Octets → Except Octets Nat
  | [] => .error reason
  | directory :: rest =>
    match fs.locate (Octets.toText (pathIn directory name)) with
    | .error .badName => searchProgram fs name "File name too long" (index + 1) rest
    | .error _ => searchProgram fs name reason (index + 1) rest
    | .ok place =>
      if (programAt? place).isSome then .ok index
      else
        let reason := if (fs.get? place).isSome then "Permission denied" else reason
        searchProgram fs name reason (index + 1) rest

/-- Look for a program in the usual way, or along some other path. In the usual way it is remembered,
unless there is a function of its name. -/
def findProgramIn (path : Option Octets) (name : Octets) : Act (Except Octets Nat) := do
  let s ← get
  let usual := (s.value? "PATH").getD "/"
  let known := if path.isSome then none else s.remembered.find? fun r => r.name == name && !r.isStale
  match known with
  | some r => return .ok r.index
  | none =>
    let found := searchProgram s.files name "not found" 0 (directoriesIn (path.getD usual))
    if path.isNone && (s.functions.lookup name).isNone then
      let remembered := match found with
        | .error _ => s.remembered.filter fun r => r.name != name
        | .ok index =>
          let now : Remembered := ⟨name, index, false⟩
          if s.remembered.any fun r => r.name == name then
            s.remembered.map fun r => if r.name == name then now else r
          else s.remembered ++ [now]
      modify fun s => { s with remembered }
    return found

def known? (functions : List (String × Command)) (name : Octets) : Option Found :=
  if name.toList.contains '/' then none
  else
    match functions.lookup name with
    | some body => some (.function body)
    | none => if isBuiltin name then some (.builtin (specialBuiltins.contains name)) else none

/-- What a name leads to. With another path, that is no function, and no program but one along it. -/
def find (path : Option Octets) (name : Octets) : Act Found := do
  let s ← get
  match known? (if path.isNone then s.functions else []) name with
  | some found => return found
  | none =>
    if name.toList.contains '/' then return .program none
    else
      match ← findProgramIn path name with
      | .ok index => return .program (some index)
      | .error reason => return .nothing reason

def nameOrder (size : Nat) (name : Octets) : Nat :=
  let codes := name.toList.map Char.toNat
  codes.foldl (· + ·) (codes.headD 0 * 16) % size

def orderedByName {α : Type} (size : Nat) (name : α → Octets) (xs : List α) : List α :=
  xs.mergeSort fun a b => nameOrder size (name a) ≤ nameOrder size (name b)

end Cartridge.Shell
