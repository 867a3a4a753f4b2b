import Cartridge.Shell.Builtin.Control
import Cartridge.Shell.Builtin.Directory
import Cartridge.Shell.Builtin.Getopts
import Cartridge.Shell.Builtin.Limit
import Cartridge.Shell.Builtin.Line
import Cartridge.Shell.Builtin.Lookup
import Cartridge.Shell.Builtin.Text
import Cartridge.Shell.Builtin.Trap
import Cartridge.Shell.Builtin.Variable

/-!
The commands that a shell carries out itself without running others. The result of such a command is
its status.
-/

namespace Cartridge.Shell

def simpleBuiltin? (name : String) : Option (List Octets → Act Nat) :=
  match name with
  | ":" | "true" => some fun _ => return 0
  | "false" => some fun _ => return 1
  | "[" | "test" => some (testBuiltin name)
  | "alias" => some aliasBuiltin
  | "bg" | "fg" => some moveBuiltin
  | "break" => some (leaveBuiltin false)
  | "cd" | "chdir" => some cdBuiltin
  | "command" => some commandBuiltin
  | "continue" => some (leaveBuiltin true)
  | "echo" => some echoCommand
  | "exit" => some exitBuiltin
  | "export" => some exportBuiltin
  | "getopts" => some getoptsBuiltin
  | "hash" => some hashBuiltin
  | "jobs" => some jobsBuiltin
  | "kill" => some killBuiltin
  | "local" => some localBuiltin
  | "printf" => some printfBuiltin
  | "pwd" => some pwdBuiltin
  | "read" => some readBuiltin
  | "readonly" => some readonlyBuiltin
  | "return" => some returnBuiltin
  | "set" => some setBuiltin
  | "shift" => some shiftBuiltin
  | "times" => some timesBuiltin
  | "trap" => some trapBuiltin
  | "type" => some typeBuiltin
  | "ulimit" => some ulimitBuiltin
  | "umask" => some umaskBuiltin
  | "unalias" => some unaliasBuiltin
  | "unset" => some unsetBuiltin
  | _ => none

end Cartridge.Shell
