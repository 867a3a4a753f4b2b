import Cartridge.Text.Blank
import Cartridge.Text.Case
import Cartridge.Text.Search
import Mathlib

/-!
Letter case and the shape of a text. Only letters change with the case they are written
in, and neither a separator nor a blank is one. So two spellings of a text are cut and
trimmed at the same places, and are alike to every comparison of names.
-/

namespace Cartridge.Text

theorem sameName_congr {a b : String} (h : sameName a b = true) (c : String) :
    sameName a c = sameName b c := by
  rw [sameName_iff] at h
  rw [sameName, sameName, h]

theorem sameName_congr_right {a b : String} (h : sameName a b = true) (c : String) :
    sameName c a = sameName c b := by
  rw [sameName_comm c a, sameName_comm c b, sameName_congr h]

theorem sameName_foldCase (a b : String) : sameName a (foldCase b) = sameName a b := by
  have hfold : sameName b (foldCase b) = true := by
    simp [sameName_iff, foldCase, Function.comp_def]
  exact (sameName_congr_right hfold a).symm

/-! ### Characters -/

/-- Only a letter becomes a letter in lower case. -/
theorem toLower_eq_iff {c d : Char} (hd : d.isAlpha = false) : c.toLower = d ↔ c = d := by
  by_cases hupper : c.isUpper = true
  · have hc : c.isAlpha = true := by rw [Char.isAlpha, hupper, Bool.true_or]
    have hlower : c.toLower.isAlpha = true := by rw [Char.isAlpha_toLower_eq_isAlpha, hc]
    constructor
    · rintro rfl
      exact absurd hlower (by simp [hd])
    · rintro rfl
      exact absurd hc (by simp [hd])
  · rw [Char.toLower_eq_of_not_isUpper hupper]

theorem isBlank_eq_false_of_isAlpha {c : Char} (h : c.isAlpha = true) : isBlank c = false := by
  have hcode : (65 ≤ c.toNat ∧ c.toNat ≤ 90) ∨ (97 ≤ c.toNat ∧ c.toNat ≤ 122) := by
    simpa [Char.isAlpha, Char.isUpper, Char.isLower, UInt32.le_iff_toNat_le] using h
  simp only [isBlank, Bool.or_eq_false_iff, Bool.and_eq_false_iff, beq_eq_false_iff_ne,
    decide_eq_false_iff_not]
  omega

theorem isBlank_toLower (c : Char) : isBlank c.toLower = isBlank c := by
  by_cases hupper : c.isUpper = true
  · have hc : c.isAlpha = true := by rw [Char.isAlpha, hupper, Bool.true_or]
    have hlower : c.toLower.isAlpha = true := by rw [Char.isAlpha_toLower_eq_isAlpha, hc]
    rw [isBlank_eq_false_of_isAlpha hc, isBlank_eq_false_of_isAlpha hlower]
  · rw [Char.toLower_eq_of_not_isUpper hupper]

/-! ### Cuts -/

theorem cutAtChar_map_toLower {separator : Char} (h : separator.isAlpha = false) (cs : List Char) :
    cutAtChar separator (cs.map Char.toLower) =
      (cutAtChar separator cs).map (Prod.map (List.map Char.toLower) (List.map Char.toLower)) := by
  induction cs with
  | nil => rfl
  | cons c cs ih =>
      rw [List.map_cons, cutAtChar, cutAtChar]
      by_cases hc : c = separator
      · rw [if_pos hc, if_pos ((toLower_eq_iff h).2 hc)]
        rfl
      · rw [if_neg hc, if_neg fun heq => hc ((toLower_eq_iff h).1 heq), ih, Option.map_map,
          Option.map_map]
        rfl

theorem dropWhile_isBlank_map_toLower (cs : List Char) :
    (cs.map Char.toLower).dropWhile isBlank = (cs.dropWhile isBlank).map Char.toLower := by
  have hblank : isBlank ∘ Char.toLower = isBlank := funext isBlank_toLower
  rw [List.dropWhile_map, hblank]

theorem trimList_map_toLower (cs : List Char) :
    trimList (cs.map Char.toLower) = (trimList cs).map Char.toLower := by
  rw [trimList, trimStartList, dropWhile_isBlank_map_toLower, ← List.map_reverse,
    dropWhile_isBlank_map_toLower, ← List.map_reverse, trimList, trimStartList]

end Cartridge.Text
