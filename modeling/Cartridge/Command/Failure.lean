import Cartridge.Export.Build
import Cartridge.Project.Document
import Cartridge.Script.Error
import Cartridge.Source.Load

/-!
Failures of commands. A failure says what was being done, step by step from the outermost, and at
last what went wrong.
-/

namespace Cartridge.Command

inductive Failure where
  | file (cause : FileError)
  | project (cause : ProjectError)
  | malformed
  | source (cause : Source.LoadError)
  | link (cause : Script.LinkError)
  | tooManyEntries
  | noTableSize
  | unknownScene (name : String)
  | build (cause : Export.BuildError)
  | unwritable (path : String) (cause : FileError)
  | failedSteps (count : Nat)
  | during (activity : String) (cause : Failure)
  deriving DecidableEq, Repr

namespace Failure

/-- The texts of a failure from the outermost on. A text that quotes its cause is followed by that
cause nevertheless. -/
def chain : Failure → List String
  | file cause => [cause.message]
  | project cause => [cause.message]
  | malformed => ["malformed document"]
  | source (.file cause) => [(Source.LoadError.file cause).message, cause.message]
  | source (.source path fault) => [(Source.LoadError.source path fault).message, fault.message]
  | link cause => cause.message :: (cause.fileError?.map FileError.message).toList
  | tooManyEntries => ["offset table does not fit a 16-bit offset"]
  | noTableSize => ["--got-entries is required without --table"]
  | unknownScene name => ["unknown scene: " ++ name]
  | build cause => [cause.message]
  | unwritable path cause => ["failed to write " ++ path ++ ": " ++ cause.message, cause.message]
  | failedSteps count => [String.ofList (Text.decimal count) ++ " export step(s) failed"]
  | during activity cause => activity :: cause.chain

def message (f : Failure) : String :=
  ": ".intercalate f.chain

def headline (f : Failure) : String :=
  f.chain.headD ""

def fileError? : Failure → Option FileError
  | file cause => some cause
  | source (.file cause) => some cause
  | link cause => cause.fileError?
  | unwritable _ cause => some cause
  | during _ cause => cause.fileError?
  | _ => none

def isOfDocument : Failure → Bool
  | malformed => true
  | project .malformed => true
  | during _ cause => cause.isOfDocument
  | _ => false

def wording (f : Failure) : Wording :=
  if f.fileError?.isSome then .foreign f.message else .own f.message

end Failure

/-! Commands stop at their first failure. -/

section

variable {m : Type → Type} [Monad m]

def attempt {α ε : Type} (failure : ε → Failure) (x : m (Except ε α)) : ExceptT Failure m α :=
  ExceptT.mk do return (← x).mapError failure

def during {α : Type} (activity : String) (x : ExceptT Failure m α) : ExceptT Failure m α :=
  ExceptT.mk do return (← x.run).mapError (.during activity)

end

end Cartridge.Command
