import Cartridge.Text.Case
import Cartridge.Text.Search

/-!
File paths. Names are separated by slashes. Empty names and single dots stand for nothing.
-/

namespace Cartridge.Path

open Cartridge.Text

def join (directory path : String) : String :=
  if path.toList.head? = some '/' then path
  else if directory.isEmpty || directory.toList.getLast? = some '/' then directory ++ path
  else directory ++ "/" ++ path

def pieces (path : String) : List (List Char) :=
  splitAtChar '/' path.toList

def isEmptyPiece (piece : List Char) : Bool :=
  piece == [] || piece == ['.']

/-- The pieces before the last name, and that name. A path that ends in two dots, or has no names,
ends in none. -/
def lastName? (path : String) : Option (List (List Char) × List Char) :=
  match (pieces path).reverse.dropWhile isEmptyPiece with
  | [] => none
  | name :: before => if name = ['.', '.'] then none else some (before.reverse, name)

def cutAtLastDot : List Char → Option (List Char × List Char)
  | [] => none
  | c :: rest =>
    match cutAtLastDot rest with
    | some (before, after) => some (c :: before, after)
    | none => if c = '.' then some ([], rest) else none

/-- A name without and with its extension. A dot at the start of a name starts no extension. -/
def splitName (name : List Char) : List Char × Option (List Char) :=
  match cutAtLastDot name with
  | some (c :: stem, extension) => (c :: stem, some extension)
  | _ => (name, none)

def extension? (path : String) : Option String :=
  (lastName? path).bind fun (_, name) => (splitName name).2.map String.ofList

def putExtension (path extension : String) : String :=
  match lastName? path with
  | none => path
  | some (before, name) =>
    String.ofList (((before ++ [(splitName name).1]).intersperse ['/']).flatten) ++ "." ++ extension

/-- The path with another extension. The old one is taken off its end first: when that leaves two
dots, as it does of `..bin`, there is no name that could have an extension. -/
def withExtension (path extension : String) : String :=
  match extension? path with
  | none => putExtension path extension
  | some old =>
    putExtension (String.ofList (path.toList.take (path.length - old.length))) extension

end Cartridge.Path
