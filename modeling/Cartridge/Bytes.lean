/-!
Byte sequences, and the text they hold. `text?_ofText` says that text reads back from its bytes.
-/

namespace Cartridge

abbrev Bytes := List UInt8

namespace Bytes

/-- The two bytes of a number, the high one first. -/
def ofWord (n : UInt16) : Bytes :=
  [(n >>> 8).toUInt8, n.toUInt8]

def ofLong (n : UInt32) : Bytes :=
  [(n >>> 24).toUInt8, (n >>> 16).toUInt8, (n >>> 8).toUInt8, n.toUInt8]

def ofText (s : String) : Bytes :=
  s.toUTF8.data.toList

def text? (bytes : Bytes) : Option String :=
  String.fromUTF8? ⟨bytes.toArray⟩

@[simp] theorem text?_ofText (s : String) : text? (ofText s) = some s := by
  simpa [text?, ofText, String.fromUTF8?] using ⟨s.isValidUTF8, rfl⟩

@[simp] theorem length_ofWord (n : UInt16) : (ofWord n).length = 2 := rfl

@[simp] theorem length_ofLong (n : UInt32) : (ofLong n).length = 4 := rfl

/-! Reading text out of bytes of which some may be no text. -/

def isTail (b : UInt8) : Bool :=
  0x80 ≤ b && b ≤ 0xBF

/-- How many bytes follow the first one of a character, and between which bounds the first of them
lies. -/
def following? (b : UInt8) : Option (Nat × UInt8 × UInt8) :=
  if b < 0x80 then some (0, 0x80, 0xBF)
  else if 0xC2 ≤ b ∧ b ≤ 0xDF then some (1, 0x80, 0xBF)
  else if b = 0xE0 then some (2, 0xA0, 0xBF)
  else if b = 0xED then some (2, 0x80, 0x9F)
  else if 0xE1 ≤ b ∧ b ≤ 0xEF then some (2, 0x80, 0xBF)
  else if b = 0xF0 then some (3, 0x90, 0xBF)
  else if 0xF1 ≤ b ∧ b ≤ 0xF3 then some (3, 0x80, 0xBF)
  else if b = 0xF4 then some (3, 0x80, 0x8F)
  else none

/-- How many of the next bytes continue a character that needs `needed` more, the first of them
within the given bounds. -/
def continuing (low high : UInt8) : Nat → Bytes → Nat
  | 0, _ => 0
  | _ + 1, [] => 0
  | needed + 1, b :: rest =>
    if low ≤ b ∧ b ≤ high then continuing 0x80 0xBF needed rest + 1 else 0

def codePoint (first : UInt8) (others : Bytes) : Nat :=
  let lead := match others.length with
    | 0 => first.toNat
    | 1 => first.toNat % 0x20
    | 2 => first.toNat % 0x10
    | _ => first.toNat % 0x08
  others.foldl (fun code b => code * 0x40 + b.toNat % 0x40) lead

/-- The characters of the bytes. Each longest start of a character that does not go on as one
counts as a replacement character, and so does each byte that starts none. -/
def lossyChars : Nat → Bytes → List Char
  | 0, _ => []
  | _ + 1, [] => []
  | fuel + 1, b :: rest =>
    match following? b with
    | none => '\uFFFD' :: lossyChars fuel rest
    | some (needed, low, high) =>
      let taken := continuing low high needed rest
      let c := if taken = needed then Char.ofNat (codePoint b (rest.take taken)) else '\uFFFD'
      c :: lossyChars fuel (rest.drop taken)

def lossyText (bytes : Bytes) : String :=
  String.ofList (lossyChars bytes.length bytes)

end Bytes

end Cartridge
