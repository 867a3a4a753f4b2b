import Cartridge.Shell.Source
import Cartridge.Text.Decimal
import Cartridge.Text.Search

/-!
Words and the other tokens of a script. A word can hold commands, so the reader of commands is an
argument here.
-/

namespace Cartridge.Shell

open Parse

/-- What kind of text a piece of a word stands in. -/
inductive Region where
  | word
  /-- Double quotes, possibly inside braces. What is expanded in them counts as quoted, except inside
  an announced text, where it depends on what is around them. -/
  | quotes (inBraces counts : Bool)
  | braces (quoted : Bool)
  | arithmetic (depth : Nat)
  | document
  deriving DecidableEq, Repr

namespace Region

def isQuoted : Region → Bool
  | .word => false
  | .braces quoted => quoted
  | _ => true

def quotesExpansions : Region → Bool
  | .quotes _ counts => counts
  | r => r.isQuoted

def inBraces : Region → Bool
  | .quotes inBraces _ => inBraces
  | .braces _ => true
  | _ => false

def inner (r : Region) : Region :=
  .braces r.isQuoted

def cover (r : Region) (c : Char) : Cover :=
  match r with
  | .word | .braces false | .arithmetic _ => .none
  | _ => if isMeaningful c then .escape else .quotes

def finish (r : Region) : Parse Word := do
  let inDocument := (← get).document.isSome
  match r with
  | .word | .document => return []
  | .arithmetic _ => refuse "Missing '))'"
  | .braces false => refuse "Missing '\x7d'"
  | _ => refuse (if inDocument then "Missing '\x7d'" else "Unterminated quoted string")

def keepsBackslash (r : Region) (c : Char) : Bool :=
  r.isQuoted && c != '\\' && c.toNat != 0x60 && c != '$' &&
    (c != '"' || (r == .document)) && (c != '\x7d' || !r.inBraces)

end Region

def endsWord (c : Char) : Bool :=
  c == ' ' || c == '\t' || c == '\n' || c == '<' || c == '>' || c == '(' || c == ')' || c == ';' ||
    c == '&' || c == '|'

/-- A text that is announced loses a byte that is not ASCII where a line stops being like the last
one, after it has started like it. -/
def likeLast (hasStarted : Bool) (last : List Char) : List Char → List Char
  | [] => []
  | c :: rest =>
    if last.head? = some c then c :: likeLast true last.tail rest
    else if hasStarted && 0x80 ≤ c.toNat then rest
    else c :: rest

/-- An announced text ends where a line starts that is its last one. Nothing happens outside of such
texts. -/
def startLine : Parse Unit := do
  match (← get).document with
  | none => return ()
  | some a =>
    modify fun s =>
      let s := s.wholeLine
      let rest := if a.stripsTabs then s.rest.dropWhile (· == '\t') else s.rest
      match Text.afterStart a.last.toList rest with
      | some [] => { s with rest := [], line := s.line + 1, documentEnded := true }
      | some ('\n' :: after) =>
        { s with rest := after, line := s.line + 1, documentEnded := true }
      | _ => { s with rest := likeLast false a.last.toList rest }

/-- Start a line of an announced text in which backslashes join lines. After tabs that do not count
they stay, which is the result then, and the end of such a line does not count. -/
def startJoinedLine : Parse Word := do
  discard peek
  let startsWithTab := (← get).rest.head? == some '\t'
  startLine
  let s ← get
  match s.rest with
  | '\\' :: '\n' :: rest =>
    if startsWithTab && !s.documentEnded && s.document.any (·.stripsTabs) then
      set { s with rest }
      return [.char '\\' .escape, .char '\n' .escape]
    else return []
  | _ => return []

def escaped (r : Region) : Parse Word := do
  match ← take with
  | none => return [.char '\\' .escape]
  | some c =>
    if r.keepsBackslash c then return [.char '\\' .escape, .char c .escape]
    else return [.char c .escape]

def singleQuoted (before : Word) : Nat → Parse Word
  | 0 => refuse "Unterminated quoted string"
  | fuel + 1 => do
    match ← take with
    | none => (Region.quotes true true).finish
    | some '\'' => return before.reverse
    | some c =>
      if c = '\n' then startLine
      let cover : Cover := if isMeaningful c || c == '\\' then .escape else .quotes
      singleQuoted (.char c cover :: before) fuel

/-- Quotes around parts of a word, which are no word of their own only around all arguments. -/
def quote : Word → Word
  | [.parameter "@" .value [] true] => [.parameter "@" .value [] true]
  | inner => .mark :: inner ++ [.mark]

/-- The commands between backquotes, with the backslashes taken off that protect characters there.
`before` holds the text so far in reverse. -/
def backquoted (quoted : Bool) (before : List Char) : Nat → Parse (List Char)
  | 0 => refuse "EOF in backquote substitution"
  | fuel + 1 => do
    match ← peek with
    | none => refuse "EOF in backquote substitution"
    | some c =>
      skip
      if c.toNat = 0x60 then return before.reverse
      else if c = '\\' then
        match ← take with
        | none => refuse "EOF in backquote substitution"
        | some d =>
          if d = '\\' ∨ d.toNat = 0x60 ∨ d = '$' ∨ (quoted ∧ d = '"') then
            backquoted quoted (d :: before) fuel
          else backquoted quoted (d :: c :: before) fuel
      else backquoted quoted (c :: before) fuel

def within (text : List Char) (list : Parse (List Command)) : Parse (List Command) := do
  let outer ← get
  set
    { Source.start (String.ofList text) outer.documents with
      aliases := outer.aliases
      lastWord := outer.lastWord }
  let body ← list
  let inner ← get
  set { outer with documents := inner.documents, lastWord := inner.lastWord }
  return body

/-- Read commands up to the closing parenthesis. Texts that are still announced then are empty. -/
def parenthesized (list : Parse (List Command)) : Parse (List Command) := do
  let outer ← get
  set
    { outer with
      again := none
      announced := []
      document := none
      documentEnded := false
      isMarker := false }
  let body ← list
  match (← get).again with
  | some .closeParen =>
    modify fun s =>
      { s with
        again := none
        announced := outer.announced
        documents := s.documents ++ s.announced.map fun a => (a.number, [])
        document := outer.document
        documentEnded := outer.documentEnded
        isMarker := outer.isMarker }
    return body
  | some t => expected t .closeParen
  | none => expected .endOfScript .closeParen

def next : Parse (Option Char) := do
  let c ← peek
  drop
  return c

/-- How the value of a parameter in braces is used, given the character after its name. `more` reads
on in a region. -/
def use (more : Region → Parse Word) (r : Region) (name : String) (c : Option Char) :
    Parse Part := do
  let quoted := r.quotesExpansions
  let withWord := fun (u : Use) (inner : Region) => do
    return Part.parameter name u (← more inner) quoted
  let conditional := fun (c : Option Char) (nonempty : Bool) =>
    match c with
    | some '-' => withWord (.orElse nonempty) r.inner
    | some '=' => withWord (.orAssign nonempty) r.inner
    | some '?' => withWord (.orFail nonempty) r.inner
    | some '+' => withWord (.ifSet nonempty) r.inner
    | _ => withWord .malformed r.inner
  match c with
  | some '\x7d' => return .parameter name .value [] quoted
  | some ':' => conditional (← next) true
  | some '#' => withWord (.cutFront (← skipIf '#')) (.braces false)
  | some '%' => withWord (.cutBack (← skipIf '%')) (.braces false)
  | c => conditional c false

def braced (more : Region → Parse Word) (r : Region) : Parse Part := do
  let malformed := do return Part.parameter "" .malformed (← more r.inner) r.quotesExpansions
  let length := fun name => do
    if ← skipIf '\x7d' then return Part.parameter name .length [] r.quotesExpansions
    else malformed
  match ← peek with
  | none => malformed
  | some c =>
    if isNameStart c then
      let name ← takeWhile isNameChar
      use more r (String.ofList name) (← next)
    else if c.isDigit then
      let name ← takeWhile Char.isDigit
      use more r (String.ofList name) (← next)
    else if c = '\x7d' then malformed
    else
      drop
      let special := fun (c : Char) => do
        if isSpecialName c then use more r (String.ofList [c]) (← next) else malformed
      if c = '#' then
        match ← peek with
        | none => special c
        | some d =>
          if isNameStart d then length (String.ofList (← takeWhile isNameChar))
          else if d.isDigit then length (String.ofList (← takeWhile Char.isDigit))
          else
            drop
            let e ← peek
            if d = '\x7d' ∨ e ≠ some '\x7d' then use more r "#" (some d)
            else if isSpecialName d then length (String.ofList [d])
            else malformed
      else special c

def dollar (list : Parse (List Command)) (more : Region → Parse Word) (r : Region) :
    Parse Part := do
  let quoted := r.quotesExpansions
  let itself := .char '$' (r.cover '$')
  let c ← peek
  match if (← get).isMarker then none else c with
  | none => return itself
  | some c =>
    if c = '(' then
      skip
      if ← skipIf '(' then return .arithmetic (← more (.arithmetic 0)) quoted
      else return .output (← parenthesized list) quoted
    else if c = '\x7b' then
      skip
      braced more r
    else if isNameStart c then
      return .parameter (String.ofList (← takeWhile isNameChar)) .value [] quoted
    else if isSpecialName c then
      skip
      return .parameter (String.ofList [c]) .value [] quoted
    else return itself

def parts (list : Parse (List Command)) : Nat → Region → Parse Word
  | 0, r => r.finish
  | fuel + 1, r => do
    match ← peek with
    | none => r.finish
    | some c =>
      if r = .word ∧ endsWord c then return []
      skip
      let inDocument := (← get).document.isSome
      let itself := do return .char c (r.cover c) :: (← parts list fuel r)
      match c with
      | '\n' =>
        let start ← startJoinedLine
        return .char c (r.cover c) :: start ++ (← parts list fuel r)
      | '\\' => return (← escaped r) ++ (← parts list fuel r)
      | '$' =>
        let piece ← dollar list (parts list fuel) r
        return piece :: (← parts list fuel r)
      | '\'' =>
        if r.isQuoted then itself
        else
          let inner ← singleQuoted [] (fuel + 1)
          let quotes := if inDocument then [] else [Part.mark]
          return quotes ++ inner ++ quotes ++ (← parts list fuel r)
      | '"' =>
        match r with
        | .quotes .. => return []
        | .word | .braces _ =>
          let inner ← parts list fuel (.quotes r.inBraces (!inDocument || r.isQuoted))
          return (if inDocument then inner else quote inner) ++ (← parts list fuel r)
        | _ => itself
      | '\x7d' =>
        match r with
        | .braces _ => return []
        | _ => itself
      | '(' =>
        match r with
        | .arithmetic depth => return .char c .none :: (← parts list fuel (.arithmetic (depth + 1)))
        | _ => itself
      | ')' =>
        match r with
        | .arithmetic (depth + 1) => return .char c .none :: (← parts list fuel (.arithmetic depth))
        | .arithmetic 0 => if ← skipIf ')' then return [] else itself
        | _ => itself
      | c =>
        if c.toNat = 0x60 ∧ !(← get).isMarker then
          let text ← backquoted r.isQuoted [] (fuel + 1)
          let body ← within text list
          return .output body r.quotesExpansions :: (← parts list fuel r)
        else itself

/-! Texts that redirections announce. -/

/-- Read an announced text in which nothing is expanded. `before` holds it so far in reverse. -/
def plainDocument (before : Word) : Nat → Parse Word
  | 0 => return before.reverse
  | fuel + 1 => do
    match ← take with
    | none => return before.reverse
    | some c =>
      if c = '\n' then startLine
      plainDocument (.char c .escape :: before) fuel

def readDocument (list : Parse (List Command)) (a : Announced) : Parse Unit := do
  let outer ← get
  set { outer with document := some a, documentEnded := false, announced := [] }
  let body ←
    if a.expands then
      let start ← startJoinedLine
      pure (start ++ (← parts list Source.stepLimit .document))
    else
      startLine
      plainDocument [] Source.stepLimit
  modify fun s =>
    { s with
      document := outer.document
      documentEnded := outer.documentEnded
      announced := outer.announced
      documents := s.documents ++ [(a.number, body)] }

def readDocuments (list : Parse (List Command)) : Parse Unit := do
  let announced := (← get).announced
  modify fun s => { s with announced := [] }
  announced.forM (readDocument list)

/-! Tokens. -/

def direction : Parse (Nat × Direction) := do
  if ← skipIf '>' then
    if ← skipIf '>' then return (1, .file .append)
    else if ← skipIf '|' then return (1, .file .overwrite)
    else if ← skipIf '&' then return (1, .duplicate)
    else return (1, .file .write)
  else
    skip
    if ← skipIf '<' then return (0, .document (← skipIf '-'))
    else if ← skipIf '&' then return (0, .duplicate)
    else if ← skipIf '>' then return (0, .file .readWrite)
    else return (0, .file .read)

def streamNumber? : Word → Option (Option Nat)
  | [] => some none
  | [.char c .none] => (Text.decimalDigit? c).map some
  | _ => none

def wordToken (list : Parse (List Command)) : Parse Token := do
  let w ← parts list Source.stepLimit .word
  let c ← peek
  match if c = some '<' ∨ c = some '>' then streamNumber? w else none with
  | some stream =>
    let (usual, d) ← direction
    return .redirect (stream.getD usual) d
  | none =>
    modify fun s => { s with lastWord := w }
    return .word w

def skipComment : Parse Unit :=
  modify fun s =>
    let s := s.wholeLine
    { s with rest := s.rest.dropWhile (· != '\n') }

def freshToken (list : Parse (List Command)) : Nat → Parse Token
  | 0 => return .endOfScript
  | fuel + 1 => do
    match ← peek with
    | none => return .endOfScript
    | some c =>
      let operator := fun (single double : Token) => do
        skip
        return if ← skipIf c then double else single
      match c with
      | ' ' | '\t' =>
        skip
        freshToken list fuel
      | '#' =>
        skipComment
        freshToken list fuel
      | '\n' =>
        skip
        return .lineEnd
      | '&' => operator .background .and
      | '|' => operator .pipe .or
      | ';' => operator .semicolon .endChoice
      | '(' =>
        skip
        return .openParen
      | ')' =>
        skip
        return .closeParen
      | _ => wordToken list

def anyToken (list : Parse (List Command)) : Parse Token := do
  match (← get).again with
  | some t =>
    modify fun s => { s with again := none }
    return t
  | none =>
    modify fun s => { s with ending := [] }
    freshToken list Source.stepLimit

def afterLineEnds (list : Parse (List Command)) (t : Token) : Nat → Parse Token
  | 0 => return t
  | fuel + 1 => do
    match t with
    | .lineEnd =>
      readDocuments list
      modify fun s => { s with aliasNext := false }
      afterLineEnds list (← anyToken list) fuel
    | t => return t

/-- What a token may be at some place of a script. -/
structure Reading where
  skipsLineEnds : Bool
  keywords : Bool
  aliases : Bool

def anywhere : Reading := ⟨false, false, false⟩

def atStart : Reading := ⟨true, true, true⟩

def atEnd : Reading := ⟨false, true, true⟩

def atChoice : Reading := ⟨true, true, false⟩

def Source.alias? (s : Source) (name : String) : Option Alias :=
  if s.ending.contains name || s.resumptions.any (fun r => r.expanded.name == name) then none
  else s.aliases.find? fun a => a.name == name

def tokenFuel (list : Parse (List Command)) : Nat → Reading → Parse Token
  | 0, _ => return .endOfScript
  | fuel + 1, r => do
    let t ← anyToken list
    let t ← if r.skipsLineEnds then afterLineEnds list t Source.stepLimit else pure t
    let s ← get
    set { s with aliasNext := false }
    let r := { r with aliases := r.aliases || s.aliasNext }
    match t with
    | .word w =>
      match Word.plain? w with
      | none => return t
      | some text =>
        if r.keywords && keywords.contains text then return .keyword text
        else
          match if r.aliases then s.alias? text else none with
          | none => return t
          | some a =>
            if !a.text.isEmpty then
              modify fun s =>
                { s with
                  rest := a.text.toList
                  resumptions := ⟨a, s.rest⟩ :: s.resumptions }
            tokenFuel list fuel r
    | t => return t

def token (list : Parse (List Command)) (r : Reading) : Parse Token :=
  tokenFuel list Source.stepLimit r

end Cartridge.Shell
