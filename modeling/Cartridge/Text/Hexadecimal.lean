/-!
Hexadecimal numerals: reading one, and writing the low digits of a value.
-/

namespace Cartridge.Text

def hexDigit? (c : Char) : Option Nat :=
  if '0' ≤ c ∧ c ≤ '9' then some (c.toNat - '0'.toNat)
  else if 'a' ≤ c ∧ c ≤ 'f' then some (c.toNat - 'a'.toNat + 10)
  else if 'A' ≤ c ∧ c ≤ 'F' then some (c.toNat - 'A'.toNat + 10)
  else none

def hexValueFrom (value : Nat) : List Char → Option Nat
  | [] => some value
  | c :: cs => (hexDigit? c).bind fun digit => hexValueFrom (16 * value + digit) cs

/-- A hexadecimal numeral below `bound`: one or more digits, with an optional plus sign. -/
def readHex? (bound : Nat) (cs : List Char) : Option Nat :=
  let digits := match cs with
    | '+' :: rest => rest
    | _ => cs
  if digits.isEmpty then none
  else (hexValueFrom 0 digits).filter (· < bound)

def readMarkedHex? (bound : Nat) (cs : List Char) : Option Nat :=
  match cs with
  | '0' :: 'x' :: rest => readHex? bound rest
  | '0' :: 'X' :: rest => readHex? bound rest
  | _ => readHex? bound cs

def upperHexDigit (n : Nat) : Char :=
  Char.ofNat (if n < 10 then '0'.toNat + n else 'A'.toNat + (n - 10))

def lowerHexDigit (n : Nat) : Char :=
  Char.ofNat (if n < 10 then '0'.toNat + n else 'a'.toNat + (n - 10))

/-- The lowest `width` hexadecimal digits of a number, most significant first. -/
def lowDigits (digit : Nat → Char) : Nat → Nat → List Char
  | 0, _ => []
  | width + 1, n => lowDigits digit width (n / 16) ++ [digit (n % 16)]

def hexWidth (n : Nat) : Nat :=
  n.log2 / 4 + 1

def paddedHex (width n : Nat) : String :=
  "0x" ++ String.ofList (lowDigits upperHexDigit (max width (hexWidth n)) n)

/-- The low 16 bits of a value as a marked numeral of four digits. -/
def hex4 (value : Int) : String :=
  paddedHex 4 (value % 0x10000).toNat

def hex8 (value : Int) : String :=
  paddedHex 8 (value % 0x100000000).toNat

end Cartridge.Text
