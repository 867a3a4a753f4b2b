import Cartridge.Bytes

/-!
Numbers read out of bytes, the highest byte first. `value_ofWord` and
`value_ofLong` say that the two widths a program is made of read back.
-/

namespace Cartridge.Bytes

/-- The number that bytes stand for, the highest byte first. -/
def value (bytes : Bytes) : Nat :=
  bytes.foldl (fun n b => 256 * n + b.toNat) 0

/-- The number in the `size` bytes at a place; `none` if they are not all
there. -/
def numberAt? (bytes : Bytes) (place size : Nat) : Option Nat :=
  if place + size ≤ bytes.length then
    some (value ((bytes.drop place).take size))
  else none

@[simp] theorem value_ofWord (n : UInt16) : value (ofWord n) = n.toNat := by
  have hn := n.toNat_lt
  simp only [value, ofWord, List.foldl_cons, List.foldl_nil,
    UInt16.toNat_toUInt8, UInt16.toNat_shiftRight, UInt16.reduceToNat,
    Nat.shiftRight_eq_div_pow, Nat.reduceMod, Nat.reducePow]
  omega

@[simp] theorem value_ofLong (n : UInt32) : value (ofLong n) = n.toNat := by
  have hn := n.toNat_lt
  simp only [value, ofLong, List.foldl_cons, List.foldl_nil,
    UInt32.toNat_toUInt8, UInt32.toNat_shiftRight, UInt32.reduceToNat,
    Nat.shiftRight_eq_div_pow, Nat.reduceMod, Nat.reducePow]
  omega

/-- A field whose bytes are known reads as the number they stand for. -/
theorem numberAt?_of_slice {bytes field : Bytes} {place size : Nat}
    (hslice : (bytes.drop place).take size = field)
    (hroom : place + size ≤ bytes.length) :
    bytes.numberAt? place size = some field.value := by
  rw [numberAt?, if_pos hroom, hslice]

end Cartridge.Bytes
