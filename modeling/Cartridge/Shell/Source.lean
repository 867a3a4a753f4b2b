import Cartridge.Shell.Syntax

/-!
Reading a script: the characters that are left of it, its tokens, and what is wrong with it.
-/

namespace Cartridge.Shell

/-- What a redirection operator asks for. -/
inductive Direction where
  | file (how : Opening)
  | duplicate
  | document (stripsTabs : Bool)
  deriving DecidableEq, Repr

inductive Token where
  | endOfScript
  | lineEnd
  | semicolon
  | background
  | and
  | or
  | pipe
  | openParen
  | closeParen
  | endChoice
  | redirect (stream : Nat) (d : Direction)
  | keyword (text : String)
  | word (w : Word)

def keywords : List String :=
  ["!", "case", "do", "done", "elif", "else", "esac", "fi", "for", "if", "in", "then", "until",
    "while", "\x7b", "\x7d"]

namespace Token

def name : Token → String
  | .endOfScript => "end of file"
  | .lineEnd => "newline"
  | .semicolon => "\";\""
  | .background => "\"&\""
  | .and => "\"&&\""
  | .or => "\"||\""
  | .pipe => "\"|\""
  | .openParen => "\"(\""
  | .closeParen => "\")\""
  | .endChoice => "\";;\""
  | .redirect .. => "redirection"
  | .keyword text => "\"" ++ text ++ "\""
  | .word _ => "word"

def endsList : Token → Bool
  | .endOfScript | .closeParen | .endChoice => true
  | .keyword text =>
    ["do", "done", "elif", "else", "esac", "fi", "then", "\x7d"].contains text
  | _ => false

def isKeyword (text : String) : Token → Bool
  | .keyword other => other == text
  | _ => false

def word? : Token → Option Word
  | .word w => some w
  | .keyword text => some (text.toList.map fun c => .char c .none)
  | _ => none

end Token

/-- What is wrong with a script, and how much of it was left then. -/
structure SyntaxError where
  line : Nat
  text : String
  left : Nat
  deriving DecidableEq, Repr

/-- A text that a redirection announces, and that starts after the end of the line. -/
structure Announced where
  number : Nat
  last : String
  stripsTabs : Bool
  expands : Bool
  deriving DecidableEq, Repr

/-- A short name of a text that is read in its place. -/
structure Alias where
  name : String
  text : Octets
  deriving DecidableEq, Repr

/-- What follows the text that stands in for an alias. -/
structure Resumption where
  expanded : Alias
  rest : List Char
  deriving DecidableEq, Repr

structure Source where
  rest : List Char
  /-- What can be read where the script comes from, after what has been read there. -/
  beyond : List Char
  fetched : Nat
  line : Nat
  again : Option Token
  announced : List Announced
  documents : List (Nat × Word)
  aliases : List Alias
  resumptions : List Resumption
  ending : List String
  aliasNext : Bool
  document : Option Announced
  documentEnded : Bool
  /-- The word that is read is the last line of an announced text: nothing is expanded in it. -/
  isMarker : Bool
  lastWord : Word

abbrev Parse := StateT Source (Except SyntaxError)

namespace Source

def start (script : String) (documents : List (Nat × Word)) : Source where
  rest := script.toList
  beyond := []
  fetched := 0
  line := 1
  again := none
  announced := []
  documents := documents
  aliases := []
  resumptions := []
  ending := []
  aliasNext := false
  document := none
  documentEnded := false
  isMarker := false
  lastWord := []

def portion : Nat := 8192

def stepLimit : Nat := 0x40000000

def extend? (s : Source) : Option Source :=
  match s.resumptions with
  | r :: outer =>
    let endsBlank := match r.expanded.text.toList.getLast? with
      | some c => c == ' ' || c == '\t'
      | none => false
    some
      { s with
        rest := s.rest ++ r.rest
        resumptions := outer
        ending := r.expanded.name :: s.ending
        aliasNext := s.aliasNext || endsBlank }
  | [] =>
    if s.beyond.isEmpty then none
    else
      let read := s.beyond.take portion
      some
        { s with
          rest := s.rest ++ read.filter (· != '\x00')
          beyond := s.beyond.drop portion
          fetched := s.fetched + read.length }

def extendWhile (areTooFew : List Char → Bool) : Nat → Source → Source
  | 0, s => s
  | fuel + 1, s =>
    if areTooFew s.rest then
      match s.extend? with
      | some s => extendWhile areTooFew fuel s
      | none => s
    else s

def proceed (s : Source) : Source :=
  s.extendWhile (fun cs => cs == [] || cs == ['\\']) stepLimit

def wholeLine (s : Source) : Source :=
  s.extendWhile (fun cs => !cs.contains '\n') stepLimit

def joinLines : Nat → Source → Source
  | 0, s => s
  | fuel + 1, s =>
    let s := s.proceed
    match s.rest with
    | '\\' :: '\n' :: rest => joinLines fuel { s with rest, line := s.line + 1 }
    | _ => s

def remaining (s : Source) : List Char :=
  s.rest ++ s.resumptions.flatMap (·.rest) ++ s.beyond

def left (s : Source) : Nat :=
  s.remaining.length

end Source

namespace Parse

def refuse {α : Type} (text : String) : Parse α := do
  let s ← get
  throw ⟨s.line, text, s.left⟩

def peek : Parse (Option Char) := do
  let s ← get
  if s.documentEnded then return none
  else
    let s := s.joinLines Source.stepLimit
    set s
    return s.rest.head?

def skip : Parse Unit :=
  modify fun s =>
    match s.rest with
    | [] => s
    | c :: rest => { s with rest, line := if c = '\n' then s.line + 1 else s.line }

def drop : Parse Unit :=
  modify fun s => { s with rest := s.rest.drop 1 }

def take : Parse (Option Char) := do
  let s ← get
  if s.documentEnded then return none
  else
    set s.proceed
    let c := (← get).rest.head?
    skip
    return c

def giveBack (c : Option Char) : Parse Unit :=
  modify fun s => { s with rest := c.toList ++ s.rest }

def skipIf (c : Char) : Parse Bool := do
  if (← peek) = some c then
    skip
    return true
  else return false

def takeWhileFuel (isKind : Char → Bool) : Nat → Parse (List Char)
  | 0 => return []
  | fuel + 1 => do
    match ← peek with
    | some c =>
      if isKind c then
        skip
        return c :: (← takeWhileFuel isKind fuel)
      else return []
    | none => return []

def takeWhile (isKind : Char → Bool) : Parse (List Char) :=
  takeWhileFuel isKind Source.stepLimit

def putBack (t : Token) : Parse Unit :=
  modify fun s => { s with again := some t }

def unexpected {α : Type} (t : Token) : Parse α :=
  refuse (t.name ++ " unexpected")

def expected {α : Type} (t wanted : Token) : Parse α :=
  refuse (t.name ++ " unexpected (expecting " ++ wanted.name ++ ")")

end Parse

end Cartridge.Shell
