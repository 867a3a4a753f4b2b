import Cartridge.Shell.Builtin.Job
import Cartridge.Shell.Redirection

/-!
Processes: what they do when signals arrive, how they end, and those that run in the background. All
of that runs commands, which is the task of a performer.
-/

namespace Cartridge.Shell

open Cartridge.Script (Ending)

structure Flow where
  tested : Bool
  isLast : Bool
  deriving DecidableEq, Repr

namespace Flow

def final : Flow := ⟨false, true⟩

def condition : Flow := ⟨true, false⟩

def inner (f : Flow) : Flow := { f with isLast := false }

end Flow

inductive Origin where
  | text (script : Octets)
  | stream (stream : Nat)
  deriving DecidableEq, Repr

inductive Task where
  | commands (flow : Flow) (cs : List Command)
  | script (tested : Bool) (origin : Origin)
  | pending (p : Pending)

abbrev Performer := Task → Act Unit

/-! Signals. -/

/-- Do what is to be done when a signal arrives. The status stays what it was, unless the function
that is running ends with another one. -/
def runTrap (perform : Performer) (status : Nat) (text : Octets) : Act Unit := do
  try
    perform (.script false (.text text))
    setStatus status
  catch
    | .back n true =>
      setStatus n
      throw (.back n true)
    | .back _ false =>
      setStatus status
      throw (.back status false)
    | .leave n goesOn =>
      setStatus status
      throw (.leave n goesOn)
    | j => throw j

/-- Do what is to be done about the signals that have been caught. If that ends a function or a loop,
the others wait. -/
def runTraps (perform : Performer) : Act Unit := do
  let outer ← get
  let status := outer.heldStatus.getD outer.status
  let release := modify fun s => { s with heldStatus := outer.heldStatus }
  set { outer with heldStatus := some status, alarm := none }
  try
    (List.range signalCount).forM fun n => do
      let s ← get
      if s.caught.contains n then
        set { s with caught := s.caught.filter (· != n) }
        match s.traps.lookup n with
        | some text => runTrap perform status text
        | none => pure ()
    release
  catch j =>
    match j with
    | .back .. | .leave .. =>
      release
      modify fun s => { s with alarm := s.alarm <|> s.caught.head? }
    | _ => pure ()
    throw j

def attend (perform : Performer) : Act Unit := do
  let s ← get
  if !s.sent.isEmpty then receiveSignals
  if (← get).alarm.isSome then runTraps perform

def Interpreter.hasTraps (s : Interpreter) : Bool :=
  s.traps.any fun t => t.2 != ""

/-! Processes in the background. -/

def trialLength : Nat := 2000

def finish (perform : Performer) (p : Pending) : Act Unit := do
  let s ← get
  if s.pending.any (·.pid == p.pid) then
    set { s with pending := s.pending.filter (·.pid != p.pid) }
    perform (.pending p)

def tryPending (perform : Performer) (p : Pending) : Act Unit := do
  let before ← get
  let limit := min trialLength (before.patience.getD trialLength)
  set { before with patience := some limit }
  try
    finish perform p
    modify fun s =>
      { s with patience := before.patience.map fun n => n - (limit - s.patience.getD 0) }
  catch
    | .exhausted =>
      let pending := before.pending.map fun q =>
        if q.pid == p.pid then { q with isSlow := true } else q
      set { before with pending, patience := before.patience.map (· - limit) }
    | j => throw j

/-- Run the processes in the background that end soon, as they would have done in the meantime. -/
def runReadyFuel (perform : Performer) : Nat → Act Unit
  | 0 => return ()
  | fuel + 1 => do
    match (← get).pending.find? (!·.isSlow) with
    | none => return ()
    | some p =>
      tryPending perform p
      runReadyFuel perform fuel

def runReady (perform : Performer) : Act Unit :=
  runReadyFuel perform Source.stepLimit

def Pending.holds (channel : Nat) (p : Pending) : Bool :=
  p.shell.streams.any fun (stream, index) =>
    index == channel && !p.connections.any (·.stream == stream)

def finishHoldersFuel (perform : Performer) (channel : Nat) : Nat → Act Unit
  | 0 => return ()
  | fuel + 1 => do
    match (← get).pending.find? (·.holds channel) with
    | none => return ()
    | some p =>
      finish perform p
      finishHoldersFuel perform channel fuel

def finishHolders (perform : Performer) (channel : Nat) : Act Unit :=
  finishHoldersFuel perform channel Source.stepLimit

/-! The end of a process. -/

def outcome (go : Act Unit) : Act Ending := do
  try
    go
    return .exited (← get).status
  catch
    | .exit n | .failure n | .back n _ => return .exited n
    | .leave .. => return .exited 0
    | .killed signal => return .killed signal
    | .full _ => return .killed brokenPipe
    | j => throw j

def runExitTrap (perform : Performer) (ending : Ending) : Act Ending := do
  let s ← get
  match ending, s.traps.lookup 0 with
  | .exited status, some text =>
    set { s with traps := s.traps.filter (·.1 != 0), status, heldStatus := some status }
    try
      perform (.script false (.text text))
      return ending
    catch
      | .back .. | .leave .. => return ending
      | j => outcome (throw j)
  | _, _ => return ending

/-- How a process ends that does something, and what it leaves behind in the background has been done
as far as it ends soon. -/
def toEnd (perform : Performer) (go : Act Unit) : Act Ending := do
  let ending ← runExitTrap perform (← outcome go)
  runReady perform
  match ending with
  | .exited status => return .exited (status % 256)
  | .killed signal => return .killed signal

def inProcess (perform : Performer) (child : Interpreter) (current : Place) (go : Act Unit) :
    Act Ending := fun s =>
  let world := { s.toWorld with files := { s.files with current } }
  match toEnd perform go { toInterpreter := child, toWorld := world } with
  | (result, inner) =>
    let files := { inner.files with current := s.files.current }
    (result, { toInterpreter := s.toInterpreter, toWorld := { inner.toWorld with files } })

def Interpreter.forked (s : Interpreter) (pid : Nat) : Interpreter :=
  { s with
    pid
    parentPid := s.pid
    waiting := s.pid :: s.waiting
    traps := s.traps.filter fun t => t.2 == ""
    caught := []
    alarm := none
    jobs := []
    reached := 1 }

end Cartridge.Shell
