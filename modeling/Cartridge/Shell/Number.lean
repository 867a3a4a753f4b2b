import Cartridge.Text.Decimal
import Cartridge.Text.Hexadecimal

/-!
Numbers at the start of texts. They are decimal, or octal after a zero and hexadecimal after `0x`.
-/

namespace Cartridge.Shell

open Cartridge.Text

def maxNumber : Int := 0x7fffffffffffffff

def minNumber : Int := -0x8000000000000000

def digitBelow? (base : Nat) (c : Char) : Option Nat :=
  (hexDigit? c).filter (· < base)

/-- The value of the digits at the start of a text, after `value`, and what follows them. -/
def digitsFrom (base value : Nat) : List Char → Nat × List Char
  | [] => (value, [])
  | c :: rest =>
    match digitBelow? base c with
    | some digit => digitsFrom base (base * value + digit) rest
    | none => (value, c :: rest)

def magnitude? (cs : List Char) : Option (Nat × List Char) :=
  match cs with
  | '0' :: x :: c :: rest =>
    if (x = 'x' ∨ x = 'X') ∧ (digitBelow? 16 c).isSome then some (digitsFrom 16 0 (c :: rest))
    else some (digitsFrom 8 0 (x :: c :: rest))
  | '0' :: rest => some (digitsFrom 8 0 rest)
  | c :: _ => if c.isDigit then some (digitsFrom 10 0 cs) else none
  | [] => none

def decimalMagnitude? (cs : List Char) : Option (Nat × List Char) :=
  match cs with
  | c :: _ => if c.isDigit then some (digitsFrom 10 0 cs) else none
  | [] => none

def isNumberBlank (c : Char) : Bool :=
  c == ' ' || (9 ≤ c.toNat && c.toNat ≤ 13)

def signed? (unsigned? : List Char → Option (Nat × List Char)) (cs : List Char) :
    Option (Int × List Char) :=
  match cs.dropWhile isNumberBlank with
  | '-' :: rest => (unsigned? rest).map fun (n, rest) => (-(n : Int), rest)
  | '+' :: rest => (unsigned? rest).map fun (n, rest) => ((n : Int), rest)
  | cs => (unsigned? cs).map fun (n, rest) => ((n : Int), rest)

def integer? : List Char → Option (Int × List Char) :=
  signed? magnitude?

def decimalInteger? : List Char → Option (Int × List Char) :=
  signed? decimalMagnitude?

def wholeInteger? (integer : List Char → Option (Int × List Char)) (text : String) : Option Int :=
  match integer text.toList with
  | some (n, rest) =>
    if rest.all isNumberBlank && minNumber ≤ n && n ≤ maxNumber then some n else none
  | none => none

def saturated (n : Int) : Int64 :=
  Int64.ofInt (max minNumber (min maxNumber n))

def smallNatural? (text : String) : Option Nat :=
  match wholeInteger? decimalInteger? text with
  | some n => if 0 ≤ n ∧ n < 0x80000000 then some n.toNat else none
  | none => none

def digitsIn (base : Nat) (digit : Nat → Char) (n : Nat) : List Char :=
  go (n + 1) n []
where
  go : Nat → Nat → List Char → List Char
    | 0, _, cs => cs
    | fuel + 1, n, cs =>
      let cs := digit (n % base) :: cs
      if n / base = 0 ∨ base ≤ 1 then cs else go fuel (n / base) cs

end Cartridge.Shell
