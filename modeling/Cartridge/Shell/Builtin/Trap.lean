import Cartridge.Shell.Builtin.Job

/-!
The builtin commands that send signals and that say what is done when they arrive.
-/

namespace Cartridge.Shell

open Cartridge.Text

def setTraps (action : Option Octets) : List Octets → Act Nat
  | [] => return 0
  | name :: rest => do
    match signal? 0 name with
    | none =>
      write 2 ("trap: " ++ name ++ ": bad trap\n")
      return 1
    | some n =>
      modify fun s =>
        let others := s.traps.filter fun t => t.1 != n
        { s with traps := (action.map (n, ·)).toList ++ others }
      setTraps action rest

def listTraps : Act Unit := do
  let traps := (← get).traps.mergeSort fun a b => decide (a.1 ≤ b.1)
  traps.forM fun (n, action) => say ("trap -- " ++ reread action ++ " " ++ signalLabel n ++ "\n")

def trapBuiltin (args : List Octets) : Act Nat := do
  let (_, args) ← letterOptions [] args
  match args with
  | [] =>
    listTraps
    return 0
  | [name] => setTraps none [name]
  | action :: names =>
    if (plainSignal? action).isSome then setTraps none (action :: names)
    else setTraps (if action = "-" then none else some action) names

/-! Sending signals. -/

def killUsage : Octets :=
  "Usage: kill [-s sigspec | -signum | -sigspec] [pid | job]... or\nkill -l [exitstatus]"

/-- What the arguments of `kill` ask for. -/
structure KillRequest where
  lists : Bool
  signal : Option Nat
  rest : List Octets

def killRequest (args : List Octets) : Act KillRequest := do
  match args with
  | [] => fail killUsage
  | arg :: rest =>
    match arg.toList with
    | '-' :: name =>
      match signal? 1 (String.ofList name) with
      | some signal => return ⟨false, some signal, rest⟩
      | none =>
        let (options, rest) ← letterOptions ['l', 's', ':'] args
        let signal ← options.foldlM
          (fun signal (c, value) => do
            if c = 'l' then return signal
            else
              match signal? 1 value with
              | some n => return some n
              | none => fail ("invalid signal number or name: " ++ value))
          none
        return ⟨options.any fun (c, _) => c == 'l', signal, rest⟩
    | _ => return ⟨false, none, args⟩

def listSignals : List Octets → Act Nat
  | [] => do
    (List.range signalCount).forM fun n =>
      say ((if n = 0 then "0" else signalLabel n) ++ "\n")
    return 0
  | text :: _ => do
    let n ← naturalNumber text
    let n := if 128 < n then n - 128 else n
    if 0 < n ∧ n < signalCount then
      say (signalLabel n ++ "\n")
      return 0
    else fail ("invalid signal number or exit status: " ++ text)

def processOf (arg : Octets) : Act (Option Nat) := do
  match arg.toList with
  | '-' :: digits =>
    discard (naturalNumber (String.ofList digits))
    return none
  | _ => return some (← naturalNumber arg)

def sendEach (signal : Nat) : List Octets → Act Nat
  | [] => return 0
  | arg :: rest => do
    let found ←
      if arg.toList.head? = some '%' then
        discard (jobNamed arg)
        pure false
      else
        match ← processOf arg with
        | some pid => send pid signal
        | none => pure false
    if !found then warn "No such process\n"
    let others ← sendEach signal rest
    return if found then others else 1

def killBuiltin (args : List Octets) : Act Nat := do
  let r ← killRequest args
  if r.lists then
    if r.signal.isSome then fail killUsage else listSignals r.rest
  else if r.rest.isEmpty then fail killUsage
  else sendEach (r.signal.getD termination) r.rest

end Cartridge.Shell
