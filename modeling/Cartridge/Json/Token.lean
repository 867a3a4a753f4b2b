import Cartridge.Json.Value
import Cartridge.Text.Decimal
import Cartridge.Text.Hexadecimal

/-!
The tokens of a JSON document. The scanner is an automaton that takes one character at a time:
between tokens, inside a bare word (a literal name or a number) or inside a string.
-/

namespace Cartridge.Json

open Cartridge.Text

inductive Token where
  | openArray
  | closeArray
  | openObject
  | closeObject
  | colon
  | comma
  | text (t : Text)
  | scalar (v : Value)
  deriving Repr

/-! Numbers. -/

def digits? (cs : List Char) : Option (List Char × List Char) :=
  let digits := cs.takeWhile Char.isDigit
  if digits.isEmpty then none else some (digits, cs.dropWhile Char.isDigit)

def afterFraction? (cs : List Char) : Option (List Char) :=
  match cs with
  | '.' :: rest => (digits? rest).map (·.2)
  | _ => some cs

def afterExponent? (cs : List Char) : Option (List Char) :=
  match cs with
  | e :: rest =>
    if e = 'e' ∨ e = 'E' then
      match rest with
      | '+' :: rest => (digits? rest).map (·.2)
      | '-' :: rest => (digits? rest).map (·.2)
      | _ => (digits? rest).map (·.2)
    else some cs
  | [] => some []

def number? (word : List Char) : Option Value := do
  let (negative, unsigned) := match word with
    | '-' :: rest => (true, rest)
    | _ => (false, word)
  let (digits, rest) ← digits? unsigned
  if digits.head? = some '0' ∧ digits.length ≠ 1 then none
  else if rest.isEmpty then
    let n ← readDecimal? digits
    if negative then
      if n = 0 then some (.real (String.ofList word)) else some (.integer (-(n : Int)))
    else some (.integer n)
  else
    let tail ← (afterFraction? rest).bind afterExponent?
    if tail.isEmpty then some (.real (String.ofList word)) else none

def Token.ofWord? (word : List Char) : Option Token :=
  if word = "true".toList then some (.scalar (.bool true))
  else if word = "false".toList then some (.scalar (.bool false))
  else if word = "null".toList then some (.scalar .null)
  else (number? word).map .scalar

/-! Strings. -/

/-- A piece of a string: a character, or half of a surrogate pair. -/
inductive Piece where
  | char (c : Char)
  | half (code : Nat)
  deriving Repr

def escaped? : Char → Option Char
  | '"' => some '"'
  | '\\' => some '\\'
  | '/' => some '/'
  | 'b' => some '\x08'
  | 'f' => some '\x0c'
  | 'n' => some '\n'
  | 'r' => some '\r'
  | 't' => some '\t'
  | _ => none

def isHighHalf (code : Nat) : Bool :=
  0xD800 ≤ code && code < 0xDC00

def isLowHalf (code : Nat) : Bool :=
  0xDC00 ≤ code && code < 0xE000

def Piece.ofUnit (code : Nat) : Piece :=
  if isHighHalf code || isLowHalf code then .half code else .char (Char.ofNat code)

def pieces? : List Char → Option (List Piece)
  | [] => some []
  | '\\' :: 'u' :: a :: b :: c :: d :: rest => do
    let code ← hexValueFrom 0 [a, b, c, d]
    let others ← pieces? rest
    return .ofUnit code :: others
  | '\\' :: c :: rest => do
    let c ← escaped? c
    let others ← pieces? rest
    return .char c :: others
  | '\\' :: [] => none
  | c :: rest => (pieces? rest).map (.char c :: ·)

/-- Join the halves of surrogate pairs; `none` if one is left over. -/
def joinPieces : List Piece → Option (List Char)
  | [] => some []
  | .char c :: rest => (joinPieces rest).map (c :: ·)
  | .half high :: .half low :: rest =>
    if isHighHalf high && isLowHalf low then
      (joinPieces rest).map
        (Char.ofNat (0x10000 + (high - 0xD800) * 0x400 + (low - 0xDC00)) :: ·)
    else none
  | .half _ :: _ => none

def Token.ofQuoted? (raw : List Char) : Option Token :=
  (pieces? raw).map fun pieces => .text ((joinPieces pieces).map String.ofList)

/-! The automaton. The characters of the token under way are held in reverse. -/

inductive Mode where
  | between
  | word (seen : List Char)
  | quoted (seen : List Char)
  | escape (seen : List Char)

/-- A scan in progress: its mode and, in reverse, the tokens found so far. -/
structure Scan where
  mode : Mode
  found : List Token

def isWordChar (c : Char) : Bool :=
  c.isAlphanum || c == '-' || c == '+' || c == '.'

def mark? : Char → Option Token
  | '[' => some .openArray
  | ']' => some .closeArray
  | '\x7b' => some .openObject
  | '\x7d' => some .closeObject
  | ':' => some .colon
  | ',' => some .comma
  | _ => none

def isJsonBlank (c : Char) : Bool :=
  c == ' ' || c == '\t' || c == '\n' || c == '\r'

def Scan.start (found : List Token) (c : Char) : Option Scan :=
  if isJsonBlank c then some ⟨.between, found⟩
  else if c = '"' then some ⟨.quoted [], found⟩
  else if isWordChar c then some ⟨.word [c], found⟩
  else (mark? c).map fun token => ⟨.between, token :: found⟩

def Scan.step (s : Scan) (c : Char) : Option Scan :=
  match s.mode with
  | .between => Scan.start s.found c
  | .word seen =>
    if isWordChar c then some ⟨.word (c :: seen), s.found⟩
    else (Token.ofWord? seen.reverse).bind fun token => Scan.start (token :: s.found) c
  | .quoted seen =>
    if c = '"' then
      (Token.ofQuoted? seen.reverse).map fun token => ⟨.between, token :: s.found⟩
    else if c = '\\' then some ⟨.escape (c :: seen), s.found⟩
    else if c.toNat < 0x20 then none
    else some ⟨.quoted (c :: seen), s.found⟩
  | .escape seen => some ⟨.quoted (c :: seen), s.found⟩

def Scan.finish? (s : Scan) : Option (List Token) :=
  match s.mode with
  | .between => some s.found.reverse
  | .word seen => (Token.ofWord? seen.reverse).map fun token => (token :: s.found).reverse
  | .quoted _ => none
  | .escape _ => none

def tokens? (cs : List Char) : Option (List Token) :=
  (cs.foldlM Scan.step ⟨.between, []⟩).bind Scan.finish?

end Cartridge.Json
