import Cartridge.Shell.Builtin.Option
import Cartridge.Shell.Signal

/-!
Jobs: what has been started in the background and how it has ended.
-/

namespace Cartridge.Shell

open Cartridge.Script (Ending)
open Cartridge.Text

def noteEnded : Act Unit :=
  modify fun s =>
    let jobs := s.jobs.map fun j =>
      match j.ending with
      | some _ => j
      | none => { j with ending := (s.ended.find? fun e => e.1 == j.pid).map (·.2) }
    { s with jobs }

def Job.stateText (j : Job) : Octets :=
  match j.ending with
  | none => "Running"
  | some (.exited 0) => "Done"
  | some (.exited status) => "Done(" ++ numeral status ++ ")"
  | some (.killed signal) => deathText signal

/-- Make room for a job: the first number is taken that is free, or of which the job has ended and
been waited for. -/
def takeNumber : Act Nat := do
  let s ← get
  let isFree := fun (n : Nat) =>
    (s.jobs.find? fun j => j.number == n).all fun j => j.isWaitedFor && j.ending.isSome
  let number := ((List.range (s.jobs.length + 1)).map (· + 1)).find? isFree |>.getD 1
  set { s with jobs := s.jobs.filter fun j => j.number != number }
  return number

def jobNamed (name : Octets) : Act Job := do
  let jobs := (← get).jobs
  let demand := fun (reason : Octets) (j : Option Job) => do
    match j with
    | some j => return j
    | none => fail reason
  match name.toList with
  | ['%'] | ['%', '+'] | ['%', '%'] => demand "No current job" jobs.head?
  | ['%', '-'] => demand "No previous job" jobs.tail.head?
  | '%' :: digits =>
    demand ("No such job: " ++ name)
      ((readDecimal? digits).bind fun n => jobs.find? (·.number == n))
  | _ => fail ("No such job: " ++ name)

inductive JobView where
  | state
  | stateAndProcesses
  | process
  deriving DecidableEq, Repr

def Job.firstPid (j : Job) : Nat :=
  j.pid + 1 - j.width

def showJob (view : JobView) (j : Job) : Act Unit := do
  let jobs := (← get).jobs
  let mark :=
    if jobs.head?.any (·.number == j.number) then "+"
    else if jobs.tail.head?.any (·.number == j.number) then "-"
    else " "
  let head := "[" ++ numeral j.number ++ "] " ++ mark ++ " "
  let process := fun (i : Nat) => numeral (j.firstPid + i) ++ " "
  let others := List.range (j.width - 1)
  match view with
  | .process => say (numeral j.firstPid ++ "\n")
  | .state => say (padded 33 (head ++ j.stateText) ++ String.join (others.map fun _ => " | ") ++ "\n")
  | .stateAndProcesses =>
    let further := others.map fun i => " |\n" ++ padded 33 (padded head.length "" ++ process (i + 1))
    say (padded 33 (head ++ process 0 ++ j.stateText) ++ String.join further ++ "\n")
  if view != .process && j.ending.isSome then
    modify fun s => { s with jobs := s.jobs.filter fun other => other.number != j.number }

def jobsBuiltin (args : List Octets) : Act Nat := do
  let (options, names) ← letterOptions ['l', 'p'] args
  noteEnded
  let view := match options.getLast? with
    | none => .state
    | some ('l', _) => .stateAndProcesses
    | some _ => JobView.process
  if names.isEmpty then (← get).jobs.forM (showJob view)
  else names.forM fun name => do showJob view (← jobNamed name)
  return 0

def moveBuiltin (args : List Octets) : Act Nat := do
  let (_, names) ← letterOptions [] args
  discard (jobNamed (names.headD "%"))
  fail ("job " ++ names.headD "(null)" ++ " not created under job control")

end Cartridge.Shell
