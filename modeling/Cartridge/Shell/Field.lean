import Cartridge.Shell.Octets
import Cartridge.Shell.Syntax

/-!
Expanded words: what they are made of, the fields they fall apart into, and how they read as
patterns.
-/

namespace Cartridge.Shell

inductive Item where
  | plain (c : Char)
  | escaped (c : Char)
  | mark
  | gap
  deriving DecidableEq, Repr

namespace Item

def char? : Item → Option Char
  | .plain c | .escaped c => some c
  | _ => none

def text (items : List Item) : Octets :=
  String.ofList (items.filterMap char?)

def isPlain : Item → Bool
  | .plain _ => true
  | _ => false

/-- The items that a text becomes, and whether characters that can mean more are escaped. -/
def ofText (escapes : Bool) (isSpecial : Char → Bool) (text : Octets) : List Item :=
  text.toList.map fun c => if escapes && isSpecial c then .escaped c else .plain c

/-- The pattern that items read as after a mark or an escaped character. A backslash that stands
right before an escaped character protects it already. -/
def patternFrom (protects : Bool) : List Item → List Char
  | [] => []
  | .mark :: rest => patternFrom true rest
  | .plain '\\' :: rest => '\\' :: patternFrom false rest
  | .plain c :: rest => c :: patternFrom true rest
  | .escaped c :: rest => (if protects then ['\\', c] else [c]) ++ patternFrom true rest
  | .gap :: _ => []

def pattern (items : List Item) : List Char :=
  let start := items.takeWhile isPlain
  start.filterMap char? ++ patternFrom true (items.drop start.length)

end Item

/-- Where a stretch of an expanded word falls apart. -/
inductive Splitting where
  | nowhere
  | atSeparators
  | atGaps
  deriving DecidableEq, Repr

structure Stretch where
  items : List Item
  splitting : Splitting
  deriving DecidableEq, Repr

def itemsOf (stretches : List Stretch) : List Item :=
  stretches.flatMap Stretch.items

/-! Fields. -/

def isBlankSeparator (c : Char) : Bool :=
  c == ' ' || c == '\t' || c == '\n'

/-- How far a word has been cut into fields. -/
structure Cutting where
  fields : List (List Item)
  current : List Item
  /-- How many fields there may be after those. Without any, the current one takes all. -/
  room : Option Nat
  trimmed : Option (List Item)
  afterBlank : Bool
  onlyAtGaps : Bool
  deriving DecidableEq, Repr

namespace Cutting

def start (room : Option Nat) : Cutting :=
  ⟨[], [], room, none, false, false⟩

def separates (separators : List Char) : Item → Bool × Bool
  | .gap => (true, true)
  | .mark => (false, false)
  | .plain c | .escaped c => (separators.contains c, separators.contains c && isBlankSeparator c)

def lastItem (k : Cutting) (isSeparator isBlank : Bool) (i : Item) : Cutting :=
  let longer := i :: k.current
  if isBlank then { k with current := longer, trimmed := k.trimmed <|> some k.current }
  else if isSeparator && k.afterBlank then { k with current := longer, afterBlank := false }
  else { k with current := longer, trimmed := none, afterBlank := false }

def item (keepsGaps : Bool) (separators : List Char) (k : Cutting) (i : Item) : Cutting :=
  let (isSeparator, isBlank) := separates separators i
  if k.room = some 0 then k.lastItem isSeparator isBlank i
  else if k.afterBlank then
    if isBlank then { k with current := [] }
    else { k with current := if isSeparator then [] else [i], afterBlank := false }
  else if isSeparator then
    let afterBlank := isBlank && !keepsGaps
    if k.current.isEmpty && afterBlank then k
    else
      match k.room with
      | some 1 =>
        { k with current := i :: k.current, room := some 0, trimmed := some k.current, afterBlank }
      | room =>
        { k with
          fields := k.current.reverse :: k.fields
          current := []
          room := room.map (· - 1)
          afterBlank }
  else { k with current := i :: k.current }

def stretch (separators : List Char) (k : Cutting) (s : Stretch) : Cutting :=
  let split := fun (onlyAtGaps : Bool) =>
    let start := { k with afterBlank := false, onlyAtGaps }
    s.items.foldl (item (k.onlyAtGaps || onlyAtGaps) (if onlyAtGaps then [] else separators)) start
  match s.splitting with
  | .nowhere => { k with current := s.items.reverse ++ k.current }
  | .atSeparators => split false
  | .atGaps => split true

/-- All fields. The last one counts if there is anything in it, or if it comes after a gap. -/
def finish (k : Cutting) : List (List Item) :=
  let last := if k.onlyAtGaps then k.current else k.trimmed.getD k.current
  (if last.isEmpty && !k.onlyAtGaps then k.fields else last.reverse :: k.fields).reverse

end Cutting

def fieldsOf (separators : List Char) (room : Option Nat) (word : List Stretch) :
    List (List Item) :=
  (word.foldl (Cutting.stretch separators) (.start room)).finish

end Cartridge.Shell
