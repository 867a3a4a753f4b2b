import Cartridge.Shell.Builtin.Option
import Cartridge.Shell.Condition
import Cartridge.Shell.Printf

/-!
The builtin commands that write texts and that judge them.
-/

namespace Cartridge.Shell

def echoCommand (args : List Octets) : Act Nat := do
  say (echoBuiltin args)
  return 0

def printfBuiltin (args : List Octets) : Act Nat := do
  let (_, args) ← letterOptions [] args
  match args with
  | [] => fail "usage: printf format [arg ...]"
  | text :: args =>
    let printed := printf text args
    say (String.ofList printed.output)
    if printed.isBroken then
      printed.complaints.dropLast.forM warn
      fail (printed.complaints.getLast?.getD "")
    else
      printed.complaints.forM warn
      return if printed.complaints.isEmpty then 0 else 1

/-- The last word starts with the bracket that closes a condition. What follows it there does not
matter. -/
def isClosed (args : List Octets) : Bool :=
  args.getLast?.any fun word => word.startsWith "]"

def judge (name : String) (args : List Octets) : Act (Except Octets Bool) := do
  if name = "[" ∧ !isClosed args then return .error "missing ]"
  else
    let args := if name = "[" then args.dropLast else args
    return conditionHolds ⟨(← get).files⟩ (args.length + 1) args

def testBuiltin (name : String) (args : List Octets) : Act Nat := do
  match ← judge name args with
  | .ok holds => return if holds then 0 else 1
  | .error text => fail text

end Cartridge.Shell
