import Cartridge.Shell.Environment

/-!
Signals: their numbers, sending them, and what becomes of those that arrive. A signal that is not
trapped ends the process, unless it is ignored.
-/

namespace Cartridge.Shell

open Cartridge.Script (Ending signalNames)
open Cartridge.Text

def signalCount : Nat := 65

/-- The name of a signal, which is a number for two of them. Number zero stands for the end of a
script. -/
def signalLabel (n : Nat) : String :=
  if n = 0 then "EXIT"
  else
    match if n = 16 then none else signalNames[n - 1]? with
    | some name => name
    | none =>
      if n < 34 then numeral n
      else if n = 34 then "RTMIN"
      else if n < 50 then "RTMIN+" ++ numeral (n - 34)
      else if n < 64 then "RTMAX-" ++ numeral (64 - n)
      else "RTMAX"

def plainSignal? (text : Octets) : Option Nat :=
  (readDecimal? text.toList).filter (· < signalCount)

def signal? (low : Nat) (text : Octets) : Option Nat :=
  let isNamed := fun n => (signalLabel n).toList.map Char.toUpper == text.toList.map Char.toUpper
  plainSignal? text <|> ((List.range signalCount).find? fun n => low ≤ n && isNamed n)

def hangup : Nat := 1
def interrupt : Nat := 2
def quit : Nat := 3
def divisionError : Nat := 8
def kill : Nat := 9
def segmentation : Nat := 11
def brokenPipe : Nat := 13
def termination : Nat := 15
def childEnd : Nat := 17

def deathTexts : List String :=
  ["Hangup", "Interrupt", "Quit", "Illegal instruction", "Trace/breakpoint trap", "Aborted",
    "Bus error", "Floating point exception", "Killed", "User defined signal 1", "Segmentation fault",
    "User defined signal 2", "Broken pipe", "Alarm clock", "Terminated", "Stack fault",
    "Child exited", "Continued", "Stopped (signal)", "Stopped", "Stopped (tty input)",
    "Stopped (tty output)", "Urgent I/O condition", "CPU time limit exceeded",
    "File size limit exceeded", "Virtual timer expired", "Profiling timer expired", "Window changed",
    "I/O possible", "Power failure", "Bad system call"]

def deathText (signal : Nat) : String :=
  match deathTexts[signal - 1]? with
  | some text => text
  | none =>
    if signal < 34 then "Unknown signal " ++ numeral signal
    else "Real-time signal " ++ numeral (signal - 34)

def statusOf : Ending → Nat
  | .exited status => status
  | .killed signal => 128 + signal

def isHarmless (signal : Nat) : Bool :=
  signal == 0 || signal == 17 || signal == 18 || signal == 23 || signal == 28

def Interpreter.ignores (s : Interpreter) (signal : Nat) : Bool :=
  signal != kill && (s.deaf.contains signal || s.traps.lookup signal == some "")

def receive (signal : Nat) : Act Unit := do
  let s ← get
  if s.ignores signal then return ()
  else
    match if signal = kill then none else s.traps.lookup signal with
    | some _ => set { s with caught := signal :: s.caught, alarm := some signal }
    | none => if !isHarmless signal then throw (.killed signal)

def receiveSignals : Act Unit := do
  let s ← get
  if !s.sent.isEmpty then
    set { s with sent := s.sent.filter fun (pid, _) => pid != s.pid }
    s.sent.forM fun (pid, signal) => if pid = s.pid then receive signal else pure ()

def send (pid signal : Nat) : Act Bool := do
  let s ← get
  if pid = s.pid ∨ s.waiting.contains pid then
    set { s with sent := s.sent ++ [(pid, signal)] }
    receiveSignals
    return true
  else
    match s.pending.find? fun p => p.pid == pid with
    | some p =>
      if !isHarmless signal && !p.shell.ignores signal then
        modify fun s =>
          { s with
            pending := s.pending.filter fun p => p.pid != pid
            ended := s.ended ++ [(pid, .killed signal)] }
      return true
    | none => return s.ended.any fun (other, _) => other == pid

end Cartridge.Shell
