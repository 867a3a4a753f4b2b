import Cartridge.Shell.Field
import Cartridge.Shell.Pattern

/-!
Values of which a part at one end is cut off that matches a pattern.

Several arguments at once are one value here. Texts are compared where they lie in a row of cells: the
value comes first, then the pattern and, if a character of the first argument is escaped, a copy of
that argument in which none is. A search from the end goes back as many cells as the value has
characters, so that with several arguments it can come from the copy to the pattern.
-/

namespace Cartridge.Shell

namespace Item

def compared : Item → Char
  | .plain c | .escaped c => c
  | _ => '\x00'

def cells : Item → List Char
  | .plain c => [c]
  | .escaped c => ['\x81', c]
  | .mark => ['\x88']
  | .gap => ['\x00']

def isEscaped : Item → Bool
  | .escaped _ => true
  | _ => false

end Item

def textInCells (cells : List Char) : List Char :=
  cells.takeWhile (· != '\x00')

/-- A value and the pattern that a part of it is to match. -/
structure Trim where
  pattern : List Item
  value : List Item

namespace Trim

def first (t : Trim) : List Char :=
  (t.value.takeWhile (· != .gap)).map Item.compared

def isCopied (t : Trim) : Bool :=
  (t.value.takeWhile (· != .gap)).any Item.isEscaped

def valueCells (t : Trim) : List Char :=
  t.value.flatMap Item.cells

def patternCells (t : Trim) : List Char :=
  let read := Item.pattern t.pattern ++ ['\x00']
  read ++ (t.pattern.flatMap Item.cells ++ ['\x00']).drop read.length

def cells (t : Trim) : List Char :=
  t.valueCells ++ '\x00' :: t.patternCells ++ if t.isCopied then t.first else []

def patternStart (t : Trim) : Nat :=
  t.valueCells.length + 1

def searchEnd (t : Trim) : Nat :=
  if t.isCopied then t.cells.length else t.valueCells.length

def textStart (t : Trim) : Nat :=
  if t.isCopied then t.cells.length - t.first.length else 0

def shortestFront? (t : Trim) : Option Nat :=
  let isMatch := Pattern.isMatch (Pattern.read (Item.pattern t.pattern))
  (List.range (t.first.length + 1)).find? fun n => isMatch (t.first.take n)

def longestBack? (t : Trim) : Option Nat :=
  let isMatch := Pattern.isMatch (Pattern.read (Item.pattern t.pattern))
  (List.range (t.first.length + 1)).find? fun n => isMatch (t.first.drop n)

def matchesWithout (t : Trim) (cell : Nat) : Bool :=
  let cells := t.cells.set cell '\x00'
  let pattern := Pattern.read (textInCells (cells.drop t.patternStart))
  Pattern.isMatch pattern (textInCells (cells.drop t.textStart))

/-- How many characters before its end a value is cut for the longest part at its start. -/
def longestFront? (t : Trim) : Option Nat :=
  (List.range (t.value.length + 1)).find? fun n => t.matchesWithout (t.searchEnd - n)

/-- How many steps back the shortest text starts that matches, given the cells before it in reverse,
the text found so far and the steps that led to it. -/
def shortestBackFrom? (isMatch : List Char → Bool) (part : List Char) (count : Nat) :
    List Char → Option Nat
  | [] => if isMatch part then some count else none
  | c :: rest =>
    if isMatch part then some count
    else shortestBackFrom? isMatch (if c = '\x00' then [] else c :: part) (count + 1) rest

def shortestBack? (t : Trim) : Option Nat :=
  let isMatch := Pattern.isMatch (Pattern.read (Item.pattern t.pattern))
  shortestBackFrom? isMatch [] 0 ((t.cells.take t.searchEnd).reverse.take t.value.length)

def front (t : Trim) (longest : Bool) : List Item :=
  if longest then
    match t.longestFront? with
    | none => t.value
    | some count => t.value.drop (t.value.length - count)
  else t.value.drop (t.shortestFront?.getD 0)

def back (t : Trim) (longest : Bool) : List Item :=
  if longest then
    match t.longestBack? with
    | none => t.value
    | some n => t.value.take n
  else
    match t.shortestBack? with
    | none => t.value
    | some count => t.value.take (t.value.length - count)

end Trim

end Cartridge.Shell
