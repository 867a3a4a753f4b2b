/-!
Failures of the file system.
-/

namespace Cartridge

inductive FileError where
  | notFound
  | notDirectory
  | isDirectory
  | alreadyExists
  | badName
  | notText
  | other (text : String)
  deriving DecidableEq, Repr

def FileError.message : FileError → String
  | .notFound => "no such file or directory"
  | .notDirectory => "not a directory"
  | .isDirectory => "is a directory"
  | .alreadyExists => "file exists"
  | .badName => "invalid file name"
  | .notText => "stream did not contain valid UTF-8"
  | .other text => text

end Cartridge
