import Cartridge.Shell.Process

/-!
Processes that a shell starts: those that it waits for, of which each reads what the one before it
writes, and those that it leaves in the background.
-/

namespace Cartridge.Shell

open Cartridge.Script (Ending)

/-! Processes that the shell waits for. They run one after the other. What one of them writes beyond
the size of a pipe it can write only if the next one reads that much. -/

def pipeSize : Nat := 0x10000

def runStages (perform : Performer) (parent : Interpreter) (current : Place) (size pid : Nat)
    (input : Option Nat) : List (Act Unit) → Act (List Ending)
  | [] => return []
  | go :: rest => do
    let start : Act Unit := match input with
      | some channel => connect 0 (some channel)
      | none => pure ()
    let stage := fun (body : Act Unit) =>
      inProcess perform (parent.forked pid) current do
        start
        body
    match rest with
    | [] => return [← stage go]
    | rest =>
      let sink ← openChannel (.collector (some size))
      let ending ← stage do
        connect 1 (some sink)
        go
      finishHolders perform sink
      let written := (← get).takenBy sink
      let source ← openChannel ⟨.source written (written.length ≤ size), true, false⟩
      return ending :: (← runStages perform parent current size (pid + 1) (some source) rest)

def runPipeline (perform : Performer) (parent : Interpreter) (current : Place) (pid : Nat)
    (stages : List (Act Unit)) : Nat → Nat → Act (List Ending)
  | 0, size => runStages perform parent current size pid none stages
  | attempts + 1, size => do
    let before ← get
    try
      let endings ← runStages perform parent current size pid none stages
      releaseChannels before.channels.length
      return endings
    catch
      | .drained channel =>
        if before.channels.length ≤ channel then
          set before
          runPipeline perform parent current pid stages attempts (8 * size)
        else throw (.drained channel)
      | j => throw j

def pipeAttempts : Nat := 4

def report : Ending → Act Unit
  | .exited _ => return ()
  | .killed signal => do
    if signal ≠ interrupt ∧ signal ≠ brokenPipe then write 2 (deathText signal ++ "\n")

def fork (perform : Performer) (stages : List (Act Unit)) : Act Nat := do
  runReady perform
  discard takeNumber
  let s ← get
  set { s with nextPid := s.nextPid + stages.length }
  let endings ←
    runPipeline perform s.toInterpreter s.files.current s.nextPid stages pipeAttempts pipeSize
  noteEnded
  endings.forM report
  receive childEnd
  return statusOf (endings.getLast?.getD (.exited 0))

def outputOf (perform : Performer) (body : List Command) : Act Octets := do
  if body.isEmpty then return ""
  else
    let sink ← openChannel (.collector none)
    let status ← fork perform [do
      connect 1 (some sink)
      perform (.commands .final body)]
    finishHolders perform sink
    let cs := (Octets.ofBytes ((← get).takenBy sink)).toList.filter (· != '\x00')
    modify fun s => { s with outputStatus := status }
    releaseChannels sink
    return String.ofList (cs.reverse.dropWhile (· == '\n')).reverse

/-! Processes in the background. -/

/-- Start a command that the shell does not wait for. It does not read what the shell reads, and
signals from a terminal do not reach it. -/
def startBackground (perform : Performer) (line : Nat) (body : Command)
    (redirects : List Redirect) : Act Unit := do
  if !redirects.isEmpty then modify fun s => { s with line }
  let connections ← redirects.mapM (resolve (outputOf perform))
  let number ← takeNumber
  let s ← get
  let stages := match body with
    | .pipeline stages => stages
    | c => [c]
  let pid := s.nextPid + stages.length - 1
  let shell : Interpreter := { s.toInterpreter with deaf := interrupt :: quit :: s.deaf }
  let p : Pending := ⟨pid, shell, s.files.current, stages, connections, false⟩
  let j : Job := ⟨number, pid, stages.length, none, false⟩
  set
    { s with
      nextPid := pid + 1
      pending := s.pending ++ [p]
      jobs := j :: s.jobs
      lastJob := some pid
      status := 0 }

def runPending (perform : Performer) (p : Pending) : Act Unit := do
  let stages := p.stages.mapIdx fun i c => do
    if i = 0 then connectNew 0 ⟨.nothing, true, false⟩
    connectForGood (outputOf perform) p.connections
    perform (.commands .final [c])
  let endings ← runPipeline perform p.shell p.current (p.pid + 1 - stages.length) stages
    pipeAttempts pipeSize
  modify fun s => { s with ended := s.ended ++ [(p.pid, endings.getLast?.getD (.exited 0))] }
  discard (send p.shell.pid childEnd)

/-- The signal that has arrived and is trapped, so that nothing is waited for any longer. -/
def interruption : Act (Option Nat) := do
  receiveSignals
  return (← get).alarm.filter (· != childEnd)

/-- Wait for a job. The result is how it has ended, or the signal that has arrived before. -/
def waitFor (perform : Performer) (j : Job) : Act (Except Nat Ending) := do
  match j.ending with
  | some ending => return .ok ending
  | none =>
    runReady perform
    if (← interruption).isNone then
      ((← get).pending.filter (·.pid == j.pid)).forM (finish perform)
    match ← interruption with
    | some signal => return .error signal
    | none =>
      let ending := ((← get).ended.lookup j.pid).getD (.exited 0)
      noteEnded
      report ending
      return .ok ending

def markWaited (isWaited : Job → Bool) : Act Unit :=
  modify fun s =>
    { s with
      jobs := s.jobs.map fun j => { j with isWaitedFor := j.isWaitedFor || isWaited j } }

def waitForAll (perform : Performer) : Act Nat := do
  runReady perform
  if (← interruption).isNone then
    let s ← get
    (s.pending.filter (·.shell.pid == s.pid)).forM (finish perform)
  match ← interruption with
  | some signal => return 128 + signal
  | none =>
    noteEnded
    markWaited fun _ => true
    return 0

def waitForEach (perform : Performer) (status : Nat) : List Octets → Act Nat
  | [] => return status
  | arg :: rest => do
    let job? ←
      if arg.toList.head? = some '%' then some <$> jobNamed arg
      else
        let pid ← naturalNumber arg
        pure ((← get).jobs.find? (·.pid == pid))
    match job? with
    | none => waitForEach perform status rest
    | some j =>
      match ← waitFor perform j with
      | .error signal => return 128 + signal
      | .ok ending =>
        markWaited (·.number == j.number)
        waitForEach perform (statusOf ending) rest

def waitBuiltin (perform : Performer) (args : List Octets) : Act Nat := do
  let (_, args) ← letterOptions [] args
  if args.isEmpty then waitForAll perform else waitForEach perform 127 args

end Cartridge.Shell
