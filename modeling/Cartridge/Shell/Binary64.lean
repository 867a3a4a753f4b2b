import Cartridge.Shell.Arithmetic
import Cartridge.Text.Decimal

/-!
Numbers of 53 significant bits: the one nearest to what a text says, and how one is written with a
given number of digits. Of two numbers that are equally near, the even one is taken.
-/

namespace Cartridge.Shell

open Cartridge.Text

def nearestQuotient (n d : Nat) : Nat :=
  let q := n / d
  let r := n % d
  if 2 * r < d ∨ (2 * r = d ∧ q % 2 = 0) then q else q + 1

def mantissaLimit : Nat := 0x20000000000000

def lowestExponent : Int := -1074

def highestExponent : Int := 971

inductive Magnitude where
  /-- The mantissa is multiplied with a power of two. It is less than half of its limit only if the
  exponent is the lowest. -/
  | finite (mantissa : Nat) (exponent : Int)
  | infinite
  | undefined
  deriving DecidableEq, Repr

namespace Magnitude

def zero : Magnitude := .finite 0 lowestExponent

/-- What is nearest to a quotient, and whether it is far from it because the quotient is too large
or too small. -/
def ofQuotient (n d : Nat) : Magnitude × Bool :=
  if n = 0 then (zero, false)
  else
    let k : Int := (n.log2 : Int) - d.log2
    let e := if d * Nat.pow 2 k.toNat ≤ n * Nat.pow 2 (-k).toNat then k - 52 else k - 53
    let e := max e lowestExponent
    let (n, d) := (n * Nat.pow 2 (-e).toNat, d * Nat.pow 2 e.toNat)
    let m := nearestQuotient n d
    let (m, e) := if m = mantissaLimit then (mantissaLimit / 2, e + 1) else (m, e)
    if highestExponent < e then (.infinite, true)
    else (.finite m e, m < mantissaLimit / 2 && m * d != n)

def ofPower (base n : Nat) (power : Int) : Magnitude × Bool :=
  if n = 0 then (zero, false)
  else
    let size := ((n.log2 / base.log2 : Nat) : Int) + power
    if 1100 < size then (.infinite, true)
    else if size < -1200 then (zero, true)
    else ofQuotient (n * Nat.pow base power.toNat) (Nat.pow base (-power).toNat)

end Magnitude

/-! Reading. -/

structure Real where
  negative : Bool
  magnitude : Magnitude
  outOfRange : Bool
  deriving DecidableEq, Repr

/-- The digits at the start of a text, with a point in or beside them: their value, how many are
behind the point, and what follows. -/
def pointed? (base : Nat) (cs : List Char) : Option (Nat × Nat × List Char) :=
  let isDigit := fun c => (digitBelow? base c).isSome
  let whole := cs.takeWhile isDigit
  let rest := cs.dropWhile isDigit
  let (behind, after) := match rest with
    | '.' :: more => (more.takeWhile isDigit, more.dropWhile isDigit)
    | _ => ([], rest)
  if whole.isEmpty && behind.isEmpty then none
  else some ((digitsFrom base 0 (whole ++ behind)).1, behind.length, after)

def powerAfter (letter : Char) (cs : List Char) : Int × List Char :=
  let digits := fun (sign : Int) (c : Char) (rest : List Char) =>
    if c.isDigit then
      let (n, rest) := digitsFrom 10 0 (c :: rest)
      (sign * n, rest)
    else (0, cs)
  match cs with
  | x :: '-' :: c :: rest => if x.toLower = letter then digits (-1) c rest else (0, cs)
  | x :: '+' :: c :: rest => if x.toLower = letter then digits 1 c rest else (0, cs)
  | x :: c :: rest => if x.toLower = letter then digits 1 c rest else (0, cs)
  | _ => (0, cs)

def afterWord? (word : String) (cs : List Char) : Option (List Char) :=
  let n := word.length
  if (cs.take n).map Char.toLower = word.toList then some (cs.drop n) else none

def afterRemark (cs : List Char) : List Char :=
  match cs with
  | '(' :: rest =>
    match rest.dropWhile isNameChar with
    | ')' :: after => after
    | _ => cs
  | _ => cs

/-- A number without a sign at the start of a text, whether it is out of range, and what follows. -/
def magnitudeAt? (cs : List Char) : Option ((Magnitude × Bool) × List Char) :=
  let hexadecimal := match cs with
    | '0' :: x :: rest => if x.toLower = 'x' then pointed? 16 rest else none
    | _ => none
  match afterWord? "infinity" cs <|> afterWord? "inf" cs, afterWord? "nan" cs, hexadecimal with
  | some rest, _, _ => some ((.infinite, false), rest)
  | _, some rest, _ => some ((.undefined, false), afterRemark rest)
  | _, _, some (n, behind, rest) =>
    let (power, rest) := powerAfter 'p' rest
    some (Magnitude.ofPower 2 n (power - 4 * behind), rest)
  | _, _, none =>
    (pointed? 10 cs).map fun (n, behind, rest) =>
      let (power, rest) := powerAfter 'e' rest
      (Magnitude.ofPower 10 n (power - behind), rest)

/-- A number with an optional sign at the start of a text, after blanks, and what follows it. -/
def real? (cs : List Char) : Option (Real × List Char) :=
  let signed := fun negative rest =>
    (magnitudeAt? rest).map fun ((m, outOfRange), rest) => (⟨negative, m, outOfRange⟩, rest)
  match cs.dropWhile isNumberBlank with
  | '-' :: rest => signed true rest
  | '+' :: rest => signed false rest
  | rest => signed false rest

/-! Writing. -/

/-- Digits with a point before the last ones. The point is there without digits behind it only if it
is asked for. -/
def withPoint (places : Nat) (always : Bool) (digits : List Char) : List Char :=
  let digits := List.replicate (places + 1 - digits.length) '0' ++ digits
  let whole := digits.length - places
  digits.take whole ++ (if places = 0 ∧ !always then [] else '.' :: digits.drop whole)

def fraction (m : Nat) (e power : Int) : Nat × Nat :=
  (m * Nat.pow 2 e.toNat * Nat.pow 10 power.toNat, Nat.pow 2 (-e).toNat * Nat.pow 10 (-power).toNat)

def scaled (m : Nat) (e power : Int) : Nat :=
  nearestQuotient (fraction m e power).1 (fraction m e power).2

def fixedForm (places : Nat) (always : Bool) (m : Nat) (e : Int) : List Char :=
  withPoint places always (decimal (scaled m e places))

def decimalPower (m : Nat) (e : Int) : Int :=
  let (n, d) := fraction m e 0
  if d ≤ n then ((decimal (n / d)).length : Int) - 1
  else -((decimal ((n + d - 1) / n - 1)).length : Int)

/-- The first digits of a number, one and then so many more, and the power of ten of the first. -/
def firstDigits (more : Nat) (m : Nat) (e : Int) : Nat × Int :=
  if m = 0 then (0, 0)
  else
    let power := decimalPower m e
    let digits := scaled m e (more - power)
    if digits = Nat.pow 10 (more + 1) then (Nat.pow 10 more, power + 1) else (digits, power)

def powerText (letter : Char) (least : Nat) (power : Int) : List Char :=
  let digits := decimal power.natAbs
  letter :: (if power < 0 then '-' else '+') ::
    (List.replicate (least - digits.length) '0' ++ digits)

def powerForm (places : Nat) (always : Bool) (m : Nat) (e : Int) : List Char :=
  let (digits, power) := firstDigits places m e
  withPoint places always (decimal digits) ++ powerText 'e' 2 power

def trimmed (cs : List Char) : List Char :=
  let digits := cs.takeWhile (· != 'e')
  let rest := cs.dropWhile (· != 'e')
  if digits.contains '.' then
    let kept := digits.reverse.dropWhile (· == '0')
    (if kept.head? = some '.' then kept.tail else kept).reverse ++ rest
  else cs

def generalForm (digits : Nat) (always : Bool) (m : Nat) (e : Int) : List Char :=
  let digits := max digits 1
  let power := (firstDigits (digits - 1) m e).2
  let text :=
    if -4 ≤ power ∧ power < digits then fixedForm ((digits : Int) - 1 - power).toNat always m e
    else powerForm (digits - 1) always m e
  if always then text else trimmed text

/-- A number in hexadecimal digits, all of them or so many behind the point, with a power of two. -/
def binaryForm (places : Option Nat) (always : Bool) (m : Nat) (e : Int) : List Char :=
  let power := if m = 0 then 0 else e + 52
  let (first, digits) := match places with
    | none =>
      (m / (mantissaLimit / 2), ((lowDigits lowerHexDigit 13 m).reverse.dropWhile (· == '0')).reverse)
    | some places =>
      let kept := min places 13
      let n := nearestQuotient m (Nat.pow 16 (13 - kept))
      (n / Nat.pow 16 kept, lowDigits lowerHexDigit kept n ++ List.replicate (places - kept) '0')
  decimal first ++ (if digits.isEmpty && !always then [] else '.' :: digits) ++
    powerText 'p' 1 power

end Cartridge.Shell
