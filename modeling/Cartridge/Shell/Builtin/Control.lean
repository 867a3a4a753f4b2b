import Cartridge.Shell.Environment

/-!
The builtin commands that end more than themselves.
-/

namespace Cartridge.Shell

def exitBuiltin (args : List Octets) : Act Nat := do
  let s ← get
  let status ← match args with
    | [] => pure (s.heldStatus.getD s.status)
    | text :: _ => naturalNumber text
  throw (.exit status)

def returnBuiltin (args : List Octets) : Act Nat := do
  match args with
  | [] => throw (.back (← get).status false)
  | text :: _ => throw (.back (← naturalNumber text) true)

def leaveBuiltin (goesOn : Bool) (args : List Octets) : Act Nat := do
  let count ← match args with
    | [] => pure 1
    | text :: _ => do
      let n ← naturalNumber text
      if n = 0 then illegalNumber text else pure n
  let count := min count (← get).loops
  if count = 0 then return 0
  else
    setStatus 0
    throw (.leave count goesOn)

end Cartridge.Shell
