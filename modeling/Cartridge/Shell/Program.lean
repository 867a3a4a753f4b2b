import Cartridge.Shell.Builtin
import Cartridge.Shell.Cat
import Cartridge.Shell.Pipeline

/-!
Programs, of which the shell itself is one.
-/

namespace Cartridge.Shell

open Cartridge.Script (Ending)

/-! Shells. -/

def startVariables : List (String × Octets) :=
  [("PATH", usualPath), ("PS1", "# "), ("PS2", "> "), ("PS4", "+ ")]

def Interpreter.environment (s : Interpreter) : List (String × Variable) :=
  s.vars.filterMap fun (name, v) =>
    if v.exported && v.value.isSome then some (name, { v with readOnly := false }) else none

def knownDirectory? (fs : Files) (path : Octets) : Option Octets :=
  if path.toList.head? = some '/' then
    match fs.locate (Octets.toText path) with
    | .ok place => if place = fs.current then some path else none
    | .error _ => none
  else none

def Interpreter.started (pid parentPid : Nat) (fs : Files) (name : Octets)
    (environment : List (String × Variable)) : Interpreter :=
  let vars := environment ++ (startVariables.filter fun v => (environment.lookup v.1).isNone).map
    fun (name, text) => (name, ⟨some text, false, false⟩)
  let directory := ((environment.lookup "PWD").bind (·.value)).bind (knownDirectory? fs)
    |>.getD (placeText fs.current)
  let bare : Interpreter :=
    { pid
      mainPid := pid
      parentPid
      waiting := []
      name
      args := []
      vars
      functions := []
      aliases := []
      settings := []
      status := 0
      outputStatus := 0
      line := 0
      reached := 0
      builtin := none
      pieces := []
      losesOutput := false
      traps := []
      deaf := []
      caught := []
      alarm := none
      heldStatus := none
      jobs := []
      lastJob := none
      streams := []
      documents := []
      kept := []
      loops := 0
      depth := 0
      optionIndex := 1
      optionOffset := none
      directory
      remembered := []
      mask := 0o022
      limits := startLimits
      endIsNext := false
      startsTrace := false }
  let put := fun (s : Interpreter) (v : String × Octets × Bool) =>
    let isExported := ((environment.lookup v.1).map (·.exported)).getD v.2.2
    s.withVariable v.1 (some ⟨some v.2.1, isExported, false⟩)
  [("IFS", " \t\n", false), ("OPTIND", "1", false), ("PPID", numeral parentPid, false),
    ("PWD", directory, true)].foldl put bare

/-- The shell that a process becomes. Streams that only a shell uses for itself are closed, and
signals that are ignored stay so. -/
def Interpreter.replaced (s : Interpreter) (fs : Files) (name : Octets) : Interpreter :=
  let ignored := s.traps.filterMap fun (n, action) => if action = "" then some n else none
  { Interpreter.started s.pid s.parentPid fs name s.environment with
    waiting := s.waiting
    streams := s.streams.filter fun (n, _) => n < 10
    deaf := ignored ++ s.deaf
    mask := s.mask
    limits := s.limits }

def openScript (path : Octets) : Act Nat := do
  let s ← get
  let free := (List.range (s.streams.length + 1)).map (· + 10)
  let stream := (free.find? fun n => (s.streams.lookup n).isNone).getD 10
  connectFile stream .read path
  return stream

/-- Read a script from a stream as the main one, and say how it can be left at its end where that does
not end it. -/
def runMain (perform : Performer) (stream : Nat) : Act Unit := do
  perform (.script false (.stream stream))
  if ← isOn .ignoresEnd then
    (List.range 50).forM fun _ => write 2 "\nUse \"exit\" to leave shell.\n"
  else if ← isOn .interactive then write 2 "\n"

def startScript (name : Option Octets) (args : List Octets) : Act Unit := do
  modify fun s => { s with name := name.getD s.name, args }
  checkTerminal
  modify fun s => { s with line := 1 }

def shellMain (perform : Performer) (args : List Octets) : Act Unit := do
  let options ← try applyStartOptions args finally passOutput
  let readsInput ← isOn .readsInput
  match options.isCommand, options.rest with
  | true, [] => fail "-c requires an argument"
  | true, text :: rest =>
    startScript rest.head? rest.tail
    perform (.script false (.text text))
    if readsInput then runMain perform 0
  | false, rest =>
    match if readsInput then [] else rest with
    | [] =>
      turn .readsInput true
      startScript none rest
      runMain perform 0
    | path :: args =>
      let stream ← openScript path
      startScript (some path) args
      runMain perform stream

/-! Other programs. -/

def runTool (program name : String) (args : List Octets) : Act Nat := do
  match program with
  | "true" => return 0
  | "echo" =>
    let text := echoProgram ⟨false, true, true⟩ args
    if (← writeBytes 1 (Octets.toBytes text)) || text.isEmpty then return 0
    else
      write 2 (name ++ ": write error: Bad file descriptor\n")
      return 1
  | "cat" => cat name args
  | "test" | "[" =>
    match ← judge program args with
    | .ok holds => return if holds then 0 else 1
    | .error text =>
      write 2 (name ++ ": " ++ text ++ "\n")
      return 2
  | "printf" =>
    let printed := printf (args.headD "") args.tail
    write 1 (String.ofList printed.output)
    printed.complaints.forM fun text => write 2 (name ++ ": " ++ text ++ "\n")
    return if args.isEmpty || !printed.complaints.isEmpty then 1 else 0
  | _ => return 1

def runProgram (perform : Performer) (program name : String) (args : List Octets) :
    Act Ending := do
  if program = "sh" ∨ program = "dash" then
    let s ← get
    let shell := s.toInterpreter.replaced s.files name
    inProcess perform shell s.files.current (shellMain perform args)
  else return .exited (← runTool program name args)

def unrunnable : FileError → String × Nat
  | .badName => ("File name too long", 127)
  | .other _ => ("Permission denied", 126)
  | _ => ("not found", 127)

def become (perform : Performer) (path name : Octets) (args : List Octets) : Act Unit := do
  match programOf (← get).files (Octets.toText path) with
  | .error e =>
    let (reason, status) := unrunnable e
    warn (name ++ ": " ++ reason)
    throw (.exit status)
  | .ok program =>
    let ending ← runProgram perform program name args
    modify fun s => { s with traps := [] }
    match ending with
    | .exited status => throw (.exit status)
    | .killed signal => throw (.killed signal)

end Cartridge.Shell
