import Cartridge.Shell.Octets

/-!
What shell scripts are made of: words, redirections and commands.
-/

namespace Cartridge.Shell

/-- What becomes of the value of a parameter. Where a use has a condition, `nonempty` says that an
empty value counts as none. -/
inductive Use where
  | value
  | length
  | orElse (nonempty : Bool)
  | orAssign (nonempty : Bool)
  | orFail (nonempty : Bool)
  | ifSet (nonempty : Bool)
  | cutFront (longest : Bool)
  | cutBack (longest : Bool)
  | malformed
  deriving DecidableEq, Repr

inductive Opening where
  | read
  | write
  | overwrite
  | append
  | readWrite
  deriving DecidableEq, Repr

/-- How a character of a word is kept from meaning more than itself. -/
inductive Cover where
  | none
  | quotes
  | escape
  deriving DecidableEq, Repr

mutual

/-- A piece of a word. What is quoted is kept as it is when the word is expanded. -/
inductive Part where
  | char (c : Char) (cover : Cover)
  | mark
  | parameter (name : String) (use : Use) (word : List Part) (quoted : Bool)
  | output (body : List Command) (quoted : Bool)
  | arithmetic (expression : List Part) (quoted : Bool)

inductive Assignment where
  | set (name : String) (value : List Part)

inductive Redirect where
  | file (stream : Nat) (how : Opening) (path : List Part)
  | duplicate (stream : Nat) (source : List Part)
  | document (stream : Nat) (number : Nat)

/-- One of the patterns of a `case`, and what it leads to. -/
inductive Choice where
  | choice (patterns : List (List Part)) (body : List Command)

inductive Command where
  | simple (line : Nat) (assignments : List Assignment) (words : List (List Part))
    (redirects : List Redirect)
  | pipeline (stages : List Command)
  | background (line : Nat) (body : Command) (redirects : List Redirect)
  | negate (body : Command)
  | both (first second : Command)
  | either (first second : Command)
  | branch (condition yes no : List Command)
  | loop (inverted : Bool) (condition body : List Command)
  | each (line : Nat) (name : String) (words : List (List Part)) (body : List Command)
  | select (line : Nat) (subject : List Part) (choices : List Choice)
  | group (body : List Command)
  | subshell (line : Nat) (body : List Command) (redirects : List Redirect)
  | redirected (line : Nat) (body : Command) (redirects : List Redirect)
  | define (name : String) (body : Command)

end

abbrev Word := List Part

def Part.bare? : Part → Option Char
  | .char c .none => some c
  | _ => none

def Part.char? : Part → Option Char
  | .char c _ => some c
  | _ => none

def Part.isQuote : Part → Bool
  | .char _ cover => cover != .none
  | .mark => true
  | _ => false

def Word.plain? (w : Word) : Option String :=
  (w.mapM Part.bare?).map String.ofList

def Word.literal (w : Word) : String :=
  String.ofList (w.filterMap Part.char?)

/-- Outside of quotes the character can mean more than itself, in a pattern or at a tilde. -/
def isMeaningful (c : Char) : Bool :=
  c == '!' || c == '*' || c == '?' || c == '[' || c == ']' || c == '=' || c == '~' || c == ':' ||
    c == '/' || c == '-'

/-! Names of variables. -/

def isNameStart (c : Char) : Bool :=
  c.isAlpha || c == '_'

def isNameChar (c : Char) : Bool :=
  c.isAlphanum || c == '_'

def isName (s : String) : Bool :=
  match s.toList with
  | [] => false
  | c :: rest => isNameStart c && rest.all isNameChar

def isSpecialName (c : Char) : Bool :=
  c.isDigit || c == '@' || c == '*' || c == '#' || c == '?' || c == '-' || c == '$' || c == '!'

def Word.assignment? (w : Word) : Option (String × Word) :=
  let isNamePart := fun part : Part => part.bare?.any isNameChar
  match w.dropWhile isNamePart with
  | .char '=' .none :: value =>
    let name := Word.literal (w.takeWhile isNamePart)
    if isName name then some (name, value) else none
  | _ => none

end Cartridge.Shell
