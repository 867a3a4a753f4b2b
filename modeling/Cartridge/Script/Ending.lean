import Cartridge.Text.Decimal

/-!
How programs end: with a status of their own, or by a signal.
-/

namespace Cartridge.Script

/-- The names of signals, in the order of their numbers from one on. -/
def signalNames : List String :=
  ["HUP", "INT", "QUIT", "ILL", "TRAP", "ABRT", "BUS", "FPE", "KILL", "USR1", "SEGV", "USR2",
    "PIPE", "ALRM", "TERM", "STKFLT", "CHLD", "CONT", "STOP", "TSTP", "TTIN", "TTOU", "URG", "XCPU",
    "XFSZ", "VTALRM", "PROF", "WINCH", "IO", "PWR", "SYS"]

def signalName? (signal : Nat) : Option String :=
  if signal = 0 then none else signalNames[signal - 1]?

inductive Ending where
  | exited (status : Nat)
  | killed (signal : Nat)
  deriving DecidableEq, Repr

namespace Ending

def isSuccess (e : Ending) : Bool :=
  e == .exited 0

def text : Ending → String
  | .exited status => "exit status: " ++ String.ofList (Text.decimal status)
  | .killed signal =>
    let name := match signalName? signal with
      | some name => " (SIG" ++ name ++ ")"
      | none => ""
    "signal: " ++ String.ofList (Text.decimal signal) ++ name

end Ending

end Cartridge.Script
