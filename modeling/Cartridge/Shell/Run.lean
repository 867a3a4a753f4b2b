import Cartridge.Files.Session
import Cartridge.Script.Toolchain
import Cartridge.Shell.Call

/-!
Running commands, and programs that are started from outside. Commands are run by recursion on them.
What is not a part of them, such as the body of a function, is a task, and tasks are nested up to a
given depth.
-/

namespace Cartridge.Shell

open Cartridge.Script (Ending Finished)

/-- Run a command, and before and after it what signals that have arrived ask for. If `checks`, a
failure ends the script where errors do. -/
def attended (perform : Performer) (flow : Flow) (checks : Bool) (go : Act Unit) : Act Unit := do
  if ← isOn .runsNothing then attend perform
  else
    match (← get).patience with
    | some 0 => throw .exhausted
    | some (n + 1) => modify fun s => { s with patience := some n }
    | none => pure ()
    attend perform
    go
    attend perform
    let s ← get
    if checks && !flow.tested && s.status != 0 && s.settings.contains .stopsAtErrors then
      throw (.exit s.status)

/-! Loops. -/

def inLoop (go : Act Unit) : Act Bool := do
  modify fun s => { s with loops := s.loops + 1 }
  let part := do
    try
      go
      return true
    catch
      | .leave n goesOn => if n ≤ 1 then return goesOn else throw (.leave (n - 1) goesOn)
      | j => throw j
  ensuring part do
    modify fun s => { s with loops := s.loops - 1 }

inductive Next where
  | body
  | condition
  | nothing
  deriving DecidableEq, Repr

/-- Evaluate the condition of a loop of which the body has ended with a status. If something ends
here, it is that status that remains. -/
def loopCondition (inverted : Bool) (last : Nat) (condition : Act Unit) : Act Next := do
  let go := do
    try
      condition
      return if ((← get).status == 0) != inverted then Next.body else .nothing
    catch
      | .leave n goesOn =>
        setStatus last
        if n ≤ 1 then return if goesOn then .condition else .nothing
        else throw (.leave (n - 1) goesOn)
      | .back _ false =>
        setStatus last
        throw (.back last false)
      | j => throw j
  modify fun s => { s with loops := s.loops + 1 }
  ensuring go do
    modify fun s => { s with loops := s.loops - 1 }

def runLoop (inverted : Bool) (condition body : Act Unit) : Nat → Nat → Act Unit
  | 0, _ => throw .exhausted
  | fuel + 1, last => do
    match ← loopCondition inverted last condition with
    | .nothing => setStatus last
    | .condition => runLoop inverted condition body fuel last
    | .body => if ← inLoop body then runLoop inverted condition body fuel (← get).status

def runEach (name : String) (body : Act Unit) : List Octets → Act Unit
  | [] => return ()
  | value :: rest => do
    assign name value
    if ← inLoop body then runEach name body rest

/-! Commands. -/

def matchesAny (run : List Command → Act Octets) (text : Octets) : List Word → Act Bool
  | [] => return false
  | w :: ws => do
    let pattern ← expandPattern run w
    if Pattern.isMatch pattern text.toList then return true else matchesAny run text ws

def remember : Command → Act Unit
  | .simple _ _ (w :: _) _ => do
    match (Word.plain? w).filter isName with
    | some name =>
      if (known? (← get).functions name).isNone then discard (findProgramIn none name)
    | none => return ()
  | _ => return ()

/-- Run the commands in a subshell, which is the shell itself if nothing comes after it. -/
def runSubshell (perform : Performer) (isLast : Bool) (line : Nat) (redirects : List Redirect)
    (body : Act Unit) : Act Unit := do
  modify fun s => { s with line }
  let run := outputOf perform
  let connections ← redirects.mapM (resolve run)
  let go := do
    connectForGood run connections
    body
  if isLast && !(← get).hasTraps then
    go
    throw (.exit (← get).status)
  else setStatus (← fork perform [go])

mutual

def runCommand (perform : Performer) (flow : Flow) : Command → Act Unit
  | .simple line assignments words redirects =>
    attended perform flow true (runSimple perform flow line assignments words redirects)
  | .pipeline stages =>
    attended perform flow true do
      stages.forM remember
      setStatus (← fork perform (runStagesOf perform ⟨flow.tested, true⟩ stages))
  | .background line body redirects =>
    attended perform flow true (startBackground perform line body redirects)
  | .negate body =>
    attended perform flow false do
      runCommand perform .condition body
      setStatus (if (← get).status = 0 then 1 else 0)
  | .both first second =>
    attended perform flow false do
      runCommand perform .condition first
      if (← get).status = 0 then runCommand perform flow second
  | .either first second =>
    attended perform flow false do
      runCommand perform .condition first
      if (← get).status ≠ 0 then runCommand perform flow second
  | .branch condition yes no =>
    attended perform flow false do
      runAll perform .condition condition
      if (← get).status = 0 then runAll perform flow yes
      else if no.isEmpty then setStatus 0
      else runAll perform flow no
  | .loop inverted condition body =>
    attended perform flow false do
      runLoop inverted (runAll perform .condition condition) (runAll perform flow.inner body)
        Source.stepLimit 0
  | .each line name words body =>
    attended perform flow false do
      modify fun s => { s with line }
      let values ← expandAll (outputOf perform) words
      if values.isEmpty then setStatus 0
      runEach name (runAll perform flow.inner body) values
  | .select line subject choices =>
    attended perform flow false do
      modify fun s => { s with line }
      let text ← expandText (outputOf perform) subject
      runChoice perform flow text choices
  | .group body => runAll perform flow body
  | .subshell line body redirects =>
    attended perform flow true do
      runSubshell perform flow.isLast line redirects (runAll perform ⟨flow.tested, true⟩ body)
  | .redirected line body redirects =>
    attended perform flow false do
      let run := outputOf perform
      modify fun s => { s with line }
      let connections ← redirects.mapM (resolve run)
      connecting run connections fun isConnected =>
        if isConnected then runCommand perform flow.inner body else setStatus 2
  | .define name body =>
    attended perform flow false do
      modify fun s =>
        { s with
          functions := (name, body) :: s.functions.filter fun f => f.1 != name
          remembered := s.remembered.filter fun r => r.name != name
          status := 0 }

def runAll (perform : Performer) (flow : Flow) : List Command → Act Unit
  | [] => attend perform
  | [c] => runCommand perform flow c
  | c :: rest => do
    runCommand perform flow.inner c
    runAll perform flow rest

def runStagesOf (perform : Performer) (flow : Flow) : List Command → List (Act Unit)
  | [] => []
  | c :: rest => runCommand perform flow c :: runStagesOf perform flow rest

def runChoice (perform : Performer) (flow : Flow) (text : Octets) : List Choice → Act Unit
  | [] => setStatus 0
  | .choice patterns body :: rest => do
    if ← matchesAny (outputOf perform) text patterns then
      if body.isEmpty then setStatus 0 else runAll perform flow body
    else runChoice perform flow text rest

end

def step (perform : Performer) : Task → Act Unit
  | .commands flow cs => runAll perform flow cs
  | .script tested origin => runScript (runAll perform ⟨tested, false⟩) origin
  | .pending p => runPending perform p

def performAt : Nat → Performer
  | 0, _ => throw .exhausted
  | depth + 1, task => step (performAt depth) task

def depthLimit : Nat := 20000

/-! Programs that are started from outside. -/

def State.outside (fs : Files) : State where
  toInterpreter := { Interpreter.started 2 1 fs "" [] with
    vars := [("PATH", ⟨some usualPath, true, false⟩)]
    streams := [(0, 0), (1, 1), (2, 2)] }
  toWorld :=
    { files := fs
      channels := [⟨.nothing, true, false⟩, .collector none, .collector none]
      pending := []
      ended := []
      sent := []
      nextPid := 3
      patience := none }

def patienceLimit : Nat := 300000

def runOutside (perform : Performer) (program name : String) (args : List Octets) : Act Ending := do
  let ending ← runProgram perform program name args
  modify fun s => { s with patience := some patienceLimit }
  try
    finishHolders perform 1
    finishHolders perform 2
  catch _ => pure ()
  return ending

def run (fs : Files) (path : String) (args : List String) : Except FileError (Finished × Files) :=
  if (path :: args).any fun text => text.toList.contains '\x00' then .error .badName
  else do
    let program ← findProgram fs usualDirectories path
    let (result, s) :=
      runOutside (performAt depthLimit) program (Octets.ofText path) (args.map Octets.ofText)
        (State.outside fs)
    let ending := match result with
      | .ok ending => ending
      | .error _ => .killed segmentation
    return (⟨ending, s.takenBy 1, s.takenBy 2⟩, { s.files with current := fs.current })

def runner : Script.Runner (StateM Session) := fun path args s =>
  match run s.files path args with
  | .ok (finished, files) => (.ok finished, { s with files })
  | .error e => (.error e, s)

end Cartridge.Shell
