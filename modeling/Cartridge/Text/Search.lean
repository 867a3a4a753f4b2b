/-!
Looking for one text inside another: where it stands, cutting at it and deleting it. Occurrences
are taken from the left and do not overlap.
-/

namespace Cartridge.Text

/-- What follows `pattern` at the start of a text. -/
def afterStart : List Char → List Char → Option (List Char)
  | [], cs => some cs
  | _ :: _, [] => none
  | p :: ps, c :: cs => if p = c then afterStart ps cs else none

def containsList (pattern : List Char) : List Char → Bool
  | [] => pattern.isEmpty
  | c :: cs => (afterStart pattern (c :: cs)).isSome || containsList pattern cs

def contains (pattern s : String) : Bool :=
  containsList pattern.toList s.toList

def cutAt (pattern : List Char) : List Char → Option (List Char × List Char)
  | [] => if pattern.isEmpty then some ([], []) else none
  | c :: cs =>
    match afterStart pattern (c :: cs) with
    | some after => some ([], after)
    | none => (cutAt pattern cs).map fun (before, after) => (c :: before, after)

def cutAtChar (separator : Char) : List Char → Option (List Char × List Char)
  | [] => none
  | c :: cs =>
    if c = separator then some ([], cs)
    else (cutAtChar separator cs).map fun (before, after) => (c :: before, after)

/-- The pieces of a text between its `separator`s; a text without one is a single piece. -/
def splitAtChar (separator : Char) : List Char → List (List Char)
  | [] => [[]]
  | c :: cs =>
    if c = separator then [] :: splitAtChar separator cs
    else
      match splitAtChar separator cs with
      | [] => [[c]]
      | piece :: others => (c :: piece) :: others

/-- Delete every occurrence of `pattern`. `skip` counts the characters of the current occurrence
that are still to be dropped. -/
def deleteFrom (pattern : List Char) (skip : Nat) : List Char → List Char
  | [] => []
  | c :: cs =>
    match skip with
    | skip + 1 => deleteFrom pattern skip cs
    | 0 =>
      if pattern ≠ [] ∧ (afterStart pattern (c :: cs)).isSome then
        deleteFrom pattern (pattern.length - 1) cs
      else c :: deleteFrom pattern 0 cs

def delete (pattern s : String) : String :=
  String.ofList (deleteFrom pattern.toList 0 s.toList)

end Cartridge.Text
