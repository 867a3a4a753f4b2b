import Cartridge.Files.Tree
import Cartridge.Script.Ending
import Cartridge.Shell.Source

/-!
What there is while scripts run. An `Interpreter` is what a process knows by itself: variables,
functions, where its streams lead. A `World` is what all processes share: files, channels, and the
processes that still have to run. Running a command changes both, and may end more than the command.
-/

namespace Cartridge.Shell

open Cartridge.Text
open Cartridge.Script (Ending)

/-! Channels. -/

inductive Target where
  | nothing
  /-- What is left to be read. If it is not complete, nobody knows what would come after it. -/
  | source (left : Bytes) (isComplete : Bool)
  /-- What has been written, the last piece first, and its size. It may have to stop at a limit. -/
  | sink (pieces : List Bytes) (size : Nat) (limit : Option Nat)
  | file (place : Place) (offset : Nat) (appends : Bool)
  | directory
  deriving DecidableEq, Repr

structure Channel where
  target : Target
  reads : Bool
  writes : Bool
  deriving DecidableEq, Repr

/-- A redirection of which the words have been expanded. -/
inductive Connection where
  | file (stream : Nat) (how : Opening) (path : Octets)
  | duplicate (stream : Nat) (source : Option Nat)
  | document (stream : Nat) (number : Nat)
  deriving DecidableEq, Repr

/-! What a shell knows. -/

structure Variable where
  value : Option Octets
  exported : Bool
  readOnly : Bool
  deriving DecidableEq, Repr

/-- What can be turned on and off in a shell. -/
inductive Setting where
  | stopsAtErrors
  | keepsPatterns
  | ignoresEnd
  | interactive
  | monitors
  | runsNothing
  | readsInput
  | traces
  | echoes
  | editsLikeVi
  | editsLikeEmacs
  | protectsFiles
  | exportsAll
  | notifies
  | demandsValues
  | privileged
  | keepsNoLog
  | debugs
  deriving DecidableEq, Repr

/-- What a function has to put back at its end. -/
inductive Kept where
  | variable (name : String) (old : Option Variable)
  | settings (old : List Setting)
  deriving DecidableEq, Repr

/-- Something that has been started and can be waited for. -/
structure Job where
  number : Nat
  pid : Nat
  width : Nat
  ending : Option Ending
  isWaitedFor : Bool
  deriving DecidableEq, Repr

/-- A program that has been found before. -/
structure Remembered where
  name : Octets
  index : Nat
  /-- A change of the current directory may have changed what the name leads to. -/
  isStale : Bool
  deriving DecidableEq, Repr

/-- How much a process may use of something. Without a number, there is no limit. -/
structure Limit where
  letter : Char
  name : String
  soft : Option Nat
  hard : Option Nat
  deriving DecidableEq, Repr

structure Interpreter where
  pid : Nat
  mainPid : Nat
  parentPid : Nat
  waiting : List Nat
  name : Octets
  args : List Octets
  vars : List (String × Variable)
  functions : List (String × Command)
  aliases : List Alias
  settings : List Setting
  status : Nat
  outputStatus : Nat
  line : Nat
  reached : Nat
  builtin : Option Octets
  pieces : List Octets
  /-- Output of the running builtin command has got lost, because its stream is closed. -/
  losesOutput : Bool
  /-- What is run when a signal arrives or, for number zero, at the end of the script. -/
  traps : List (Nat × Octets)
  deaf : List Nat
  caught : List Nat
  alarm : Option Nat
  heldStatus : Option Nat
  jobs : List Job
  lastJob : Option Nat
  streams : List (Nat × Nat)
  documents : List (Nat × Word)
  kept : List (List Kept)
  loops : Nat
  depth : Nat
  optionIndex : Nat
  optionOffset : Option Nat
  directory : Octets
  remembered : List Remembered
  mask : Nat
  limits : List Limit
  endIsNext : Bool
  startsTrace : Bool

/-- Processes that have been started in the background and have not run yet. Each of them reads what
the one before it writes. -/
structure Pending where
  pid : Nat
  shell : Interpreter
  current : Place
  stages : List Command
  connections : List Connection
  isSlow : Bool

structure World where
  files : Files
  channels : List Channel
  pending : List Pending
  ended : List (Nat × Ending)
  sent : List (Nat × Nat)
  nextPid : Nat
  patience : Option Nat

structure State extends Interpreter, World

inductive Jump where
  | exit (status : Nat)
  | failure (status : Nat)
  /-- So many loops end, the outermost of which goes on with its next round if `goesOn`. -/
  | leave (loops : Nat) (goesOn : Bool)
  /-- The function ends. A trap that it ends, too, keeps the status only if it was given. -/
  | back (status : Nat) (isGiven : Bool)
  | killed (signal : Nat)
  | full (channel : Nat)
  | drained (channel : Nat)
  /-- More commands are run than the limit allows, or they are nested too deeply. -/
  | exhausted
  deriving DecidableEq, Repr

abbrev Act := ExceptT Jump (StateM State)

def numeral (n : Nat) : String :=
  String.ofList (decimal n)

def intNumeral (n : Int) : String :=
  String.ofList (decimalInt n)

def ensuring {α : Type} (action : Act α) (after : Act Unit) : Act α := fun s =>
  match action s with
  | (result, s) =>
    match after s with
    | (.ok (), s) => (result, s)
    | (.error j, s) => (.error j, s)

def setStatus (status : Nat) : Act Unit :=
  modify fun s => { s with status }

def allSettings : List (Setting × String × Option Char) :=
  [(.stopsAtErrors, "errexit", some 'e'), (.keepsPatterns, "noglob", some 'f'),
    (.ignoresEnd, "ignoreeof", some 'I'), (.interactive, "interactive", some 'i'),
    (.monitors, "monitor", some 'm'), (.runsNothing, "noexec", some 'n'),
    (.readsInput, "stdin", some 's'), (.traces, "xtrace", some 'x'), (.echoes, "verbose", some 'v'),
    (.editsLikeVi, "vi", some 'V'), (.editsLikeEmacs, "emacs", some 'E'),
    (.protectsFiles, "noclobber", some 'C'), (.exportsAll, "allexport", some 'a'),
    (.notifies, "notify", some 'b'), (.demandsValues, "nounset", some 'u'),
    (.privileged, "privileged", some 'p'), (.keepsNoLog, "nolog", none), (.debugs, "debug", none)]

def lettersOf (settings : List Setting) : String :=
  String.ofList (allSettings.reverse.filterMap fun (setting, _, letter) =>
    if settings.contains setting then letter else none)

def isOn (setting : Setting) : Act Bool := do
  return (← get).settings.contains setting

def turn (setting : Setting) (on : Bool) : Act Unit :=
  modify fun s =>
    let others := s.settings.filter (· != setting)
    { s with settings := if on then setting :: others else others }

end Cartridge.Shell
