import Cartridge.Shell.Builtin.Option

/-!
The builtin commands that mark variables and take them away.
-/

namespace Cartridge.Shell

open Cartridge.Text

def splitAssignment (arg : Octets) : String × Option Octets :=
  match cutAtChar '=' arg.toList with
  | some (name, value) => (String.ofList name, some (String.ofList value))
  | none => (arg, none)

def declare (change : Variable → Variable) : List Octets → Act Unit
  | [] => return ()
  | arg :: rest => do
    let (name, value) := splitAssignment arg
    match value with
    | some value => assignNamed name value
    | none => if !isName name then badVariableName name
    mark name change
    declare change rest

def markBuiltin (command : String) (isMarked : Variable → Bool) (change : Variable → Variable)
    (args : List Octets) : Act Nat := do
  let names := (← firstOption 'p' args).getD []
  if names.isEmpty then
    listVariables
      (fun name value => command ++ " " ++ name ++ ((value.map ("=" ++ reread ·)).getD "") ++ "\n")
      isMarked
  else declare change names
  return 0

def exportBuiltin : List Octets → Act Nat :=
  markBuiltin "export" (·.exported) fun v => { v with exported := true }

def readonlyBuiltin : List Octets → Act Nat :=
  markBuiltin "readonly" (·.readOnly) fun v => { v with readOnly := true }

/-- Make a variable the function's own. A name that is none comes out only at the end of the
function. -/
def localVariable (arg : Octets) : Act Unit := do
  if arg = "-" then keep (.settings (← get).settings)
  else
    let (name, value) := splitAssignment arg
    if isName name then
      keepVariable name
      match value with
      | some value => assign name value
      | none => mark name id
    else if value.isSome then keepVariable name
    else badVariableName name

def localBuiltin (args : List Octets) : Act Nat := do
  if (← get).kept.isEmpty then fail "not in a function"
  else
    args.forM localVariable
    return 0

def unsetBuiltin (args : List Octets) : Act Nat := do
  let (options, names) ← letterOptions ['v', 'f'] args
  let ofFunctions := options.getLast?.any fun (c, _) => c == 'f'
  names.forM fun name =>
    if ofFunctions then
      modify fun s => { s with functions := s.functions.filter fun f => f.1 != name }
    else unset name
  return 0

end Cartridge.Shell
