import Cartridge.Bytes

/-!
The texts that a shell and the programs it runs work on. They are made of bytes, whether or not
these are UTF-8, so every character of such a text stands for one byte. `toBytes_ofBytes` says that
no byte gets lost.
-/

namespace Cartridge.Shell

abbrev Octets := String

namespace Octets

def ofBytes (bytes : Bytes) : Octets :=
  String.ofList (bytes.map fun b => Char.ofNat b.toNat)

def toBytes (s : Octets) : Bytes :=
  s.toList.map fun c => UInt8.ofNat c.toNat

def ofText (s : String) : Octets :=
  ofBytes (Bytes.ofText s)

def toText (s : Octets) : String :=
  (toBytes s).lossyText

theorem toNat_charOfNat {n : Nat} (h : n < 256) : (Char.ofNat n).toNat = n := by
  have hv : n.isValidChar := Or.inl (by omega)
  rw [Char.ofNat, dif_pos hv]
  rfl

theorem ofNat_toNat_charOfNat (b : UInt8) : UInt8.ofNat (Char.ofNat b.toNat).toNat = b := by
  rw [toNat_charOfNat b.toNat_lt]
  exact UInt8.ofNat_toNat

@[simp] theorem toBytes_ofBytes (bytes : Bytes) : toBytes (ofBytes bytes) = bytes := by
  induction bytes with
  | nil => rfl
  | cons b rest ih =>
    simp only [toBytes, ofBytes, String.toList_ofList, List.map_map, List.map_cons,
      ofNat_toNat_charOfNat] at ih ⊢
    rw [ih]

end Octets

end Cartridge.Shell
