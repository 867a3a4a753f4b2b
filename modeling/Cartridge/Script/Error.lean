import Cartridge.Files.Error
import Cartridge.Report
import Cartridge.Text.Decimal
import Cartridge.Text.Hexadecimal

/-!
What can go wrong when scripts are compiled and linked.
-/

namespace Cartridge.Script

inductive LinkError where
  | malformedRelocation (line : Nat) (text : String)
  | missingBase (first : String)
  | unresolved (address : UInt32) (scope name : String)
  | outOfBounds (address : UInt32) (size : Nat)
  | tableTooLarge (entries : Nat)
  /-- An offset is beyond the machine word, which stops the program. -/
  | overflow
  | unknownRoutine (label : String)
  | tableNotBuilt
  | unstartable (tool : String) (cause : FileError)
  | toolFailed (tool status complaint : String)
  | unwritable (path : String) (cause : FileError)
  | file (cause : FileError)
  deriving DecidableEq, Repr

namespace LinkError

def number (n : Nat) : String :=
  String.ofList (Text.decimal n)

def message : LinkError → String
  | .malformedRelocation line text => "line " ++ number line ++ ": malformed relocation: " ++ text
  | .missingBase first => "first relocation is " ++ first ++ ", expected _GLOBAL_OFFSET_TABLE_"
  | .unresolved address scope name =>
    "unresolved relocation " ++ scope ++ "::" ++ name ++ " at " ++ Text.paddedHex 4 address.toNat
  | .outOfBounds address size =>
    "relocation at " ++ Text.paddedHex 4 address.toNat ++ " is outside the " ++ number size ++
      " byte binary"
  | .tableTooLarge entries =>
    "offset table of " ++ number entries ++ " entries does not fit a 16-bit offset"
  | .overflow => "attempt to multiply with overflow"
  | .unknownRoutine label => "unknown routine: " ++ label
  | .tableNotBuilt => "global offset table has not been built"
  | .unstartable tool cause => "failed to run " ++ tool ++ ": " ++ cause.message
  | .toolFailed tool status complaint => tool ++ " exited with " ++ status ++ ": " ++ complaint
  | .unwritable path cause => "failed to write " ++ path ++ ": " ++ cause.message
  | .file cause => "io error: " ++ cause.message

def fileError? : LinkError → Option FileError
  | .unstartable _ cause => some cause
  | .unwritable _ cause => some cause
  | .file cause => some cause
  | _ => none

def wording (e : LinkError) : Wording :=
  if e.fileError?.isSome then .foreign e.message else .own e.message

end LinkError

end Cartridge.Script
