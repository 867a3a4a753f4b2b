/-!
Decimal numerals. `readDecimal?_decimal` says that a written numeral reads back as its number.
-/

namespace Cartridge.Text

def decimalDigit (n : Nat) : Char :=
  Char.ofNat ('0'.toNat + n)

def decimal (n : Nat) : List Char :=
  if n < 10 then [decimalDigit n] else decimal (n / 10) ++ [decimalDigit (n % 10)]
termination_by n
decreasing_by omega

def decimalInt (i : Int) : List Char :=
  if i < 0 then '-' :: decimal i.natAbs else decimal i.natAbs

def decimalDigit? (c : Char) : Option Nat :=
  if '0' ≤ c ∧ c ≤ '9' then some (c.toNat - '0'.toNat) else none

/-- The value of a digit string read after `value`. -/
def decimalValueFrom (value : Nat) : List Char → Option Nat
  | [] => some value
  | c :: cs => (decimalDigit? c).bind fun digit => decimalValueFrom (10 * value + digit) cs

def readDecimal? (cs : List Char) : Option Nat :=
  if cs.isEmpty then none else decimalValueFrom 0 cs

/-- A decimal number with an optional sign, at least `low` and at most `high`. -/
def readDecimalInt? (low high : Int) (cs : List Char) : Option Int :=
  let value := match cs with
    | '-' :: digits => (readDecimal? digits).map fun n => -(n : Int)
    | '+' :: digits => (readDecimal? digits).map Int.ofNat
    | digits => (readDecimal? digits).map Int.ofNat
  value.filter fun i => low ≤ i && i ≤ high

theorem decimalDigit?_decimalDigit {n : Nat} (h : n < 10) :
    decimalDigit? (decimalDigit n) = some n := by
  have : n = 0 ∨ n = 1 ∨ n = 2 ∨ n = 3 ∨ n = 4 ∨ n = 5 ∨ n = 6 ∨ n = 7 ∨ n = 8 ∨ n = 9 := by
    omega
  rcases this with h | h | h | h | h | h | h | h | h | h <;> subst h <;> decide

theorem decimalValueFrom_append (v : Nat) (cs ds : List Char) :
    decimalValueFrom v (cs ++ ds) = (decimalValueFrom v cs).bind (decimalValueFrom · ds) := by
  induction cs generalizing v with
  | nil => rfl
  | cons c cs ih =>
    cases h : decimalDigit? c with
    | none => simp [decimalValueFrom, h]
    | some digit => simp [decimalValueFrom, h, ih]

theorem decimal_ne_nil (n : Nat) : decimal n ≠ [] := by
  unfold decimal
  split <;> simp

theorem decimalValueFrom_decimal (n : Nat) : decimalValueFrom 0 (decimal n) = some n := by
  fun_induction decimal n with
  | case1 n h => simp [decimalValueFrom, decimalDigit?_decimalDigit h]
  | case2 n h ih =>
    have hd := decimalDigit?_decimalDigit (Nat.mod_lt n (by decide : 0 < 10))
    simp only [decimalValueFrom_append, ih, Option.bind_some, decimalValueFrom, hd]
    exact congrArg some (by omega)

theorem readDecimal?_decimal (n : Nat) : readDecimal? (decimal n) = some n := by
  simp [readDecimal?, decimal_ne_nil, decimalValueFrom_decimal]

end Cartridge.Text
