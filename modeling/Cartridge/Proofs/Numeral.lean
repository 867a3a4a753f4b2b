import Cartridge.Text.Decimal
import Cartridge.Text.Hexadecimal
import Mathlib.Tactic.IntervalCases
import Mathlib.Tactic.Ring

/-!
Numerals that are written into source text. The four hexadecimal digits of a
value read back as its low 16 bits, and no digit breaks a line.
-/

namespace Cartridge.Text

/-- The text stays on one line. -/
def OneLine (s : String) : Prop :=
  '\n' ∉ s.toList

instance (s : String) : Decidable (OneLine s) :=
  inferInstanceAs (Decidable (¬_))

theorem OneLine.append {a b : String} (ha : OneLine a) (hb : OneLine b) :
    OneLine (a ++ b) := by
  simpa [OneLine] using ⟨ha, hb⟩

theorem oneLine_ofList {cs : List Char} : OneLine (String.ofList cs) ↔ '\n' ∉ cs := by
  simp [OneLine]

/-! ### Hexadecimal digits -/

theorem hexDigit?_upperHexDigit {n : Nat} (h : n < 16) :
    hexDigit? (upperHexDigit n) = some n := by
  interval_cases n <;> decide

theorem upperHexDigit_ne_lineFeed {n : Nat} (h : n < 16) : upperHexDigit n ≠ '\n' := by
  interval_cases n <;> decide

theorem hexValueFrom_append (v : Nat) (cs ds : List Char) :
    hexValueFrom v (cs ++ ds) = (hexValueFrom v cs).bind (hexValueFrom · ds) := by
  induction cs generalizing v with
  | nil => rfl
  | cons c cs ih =>
      cases h : hexDigit? c with
      | none => simp [hexValueFrom, h]
      | some digit => simp [hexValueFrom, h, ih]

theorem hexValueFrom_lowDigits (width n v : Nat) :
    hexValueFrom v (lowDigits upperHexDigit width n) =
      some (16 ^ width * v + n % 16 ^ width) := by
  induction width generalizing n with
  | zero => simp [lowDigits, hexValueFrom, Nat.mod_one]
  | succ width ih =>
      have hdigit := hexDigit?_upperHexDigit (Nat.mod_lt n (by decide : 0 < 16))
      rw [lowDigits, hexValueFrom_append, ih, Option.bind_some, hexValueFrom, hdigit,
        Option.bind_some, hexValueFrom, pow_succ', Nat.mod_mul]
      congr 1
      ring

theorem lineFeed_not_mem_lowDigits (width n : Nat) :
    '\n' ∉ lowDigits upperHexDigit width n := by
  induction width generalizing n with
  | zero => simp [lowDigits]
  | succ width ih =>
      have hdigit := upperHexDigit_ne_lineFeed (Nat.mod_lt n (by decide : 0 < 16))
      simp [lowDigits, ih, hdigit.symm]

theorem oneLine_paddedHex (width n : Nat) : OneLine (paddedHex width n) := by
  have hmark : OneLine "0x" := by decide
  exact hmark.append (oneLine_ofList.2 (lineFeed_not_mem_lowDigits _ n))

theorem hexWidth_le_four {n : Nat} (h : n < 0x10000) : hexWidth n ≤ 4 := by
  have hlog : n.log2 < 16 := by
    rcases Nat.eq_zero_or_pos n with rfl | hpos
    · decide
    · exact (Nat.log2_lt hpos.ne').2 h
  rw [hexWidth]
  omega

theorem readHex?_eq_some {bound value : Nat} {c : Char} {cs : List Char} (hc : c ≠ '+')
    (hvalue : hexValueFrom 0 (c :: cs) = some value) (hlt : value < bound) :
    readHex? bound (c :: cs) = some value := by
  unfold readHex?
  split
  · next h => exact absurd (List.cons.inj h).1 hc
  · simp [hvalue, hlt]

theorem isSome_hexDigit?_of_mem {v n : Nat} {digits : List Char}
    (h : hexValueFrom v digits = some n) {c : Char} (hc : c ∈ digits) :
    (hexDigit? c).isSome = true := by
  induction digits generalizing v with
  | nil => cases hc
  | cons d digits ih =>
      obtain ⟨digit, hdigit, h⟩ := Option.bind_eq_some_iff.1 h
      rcases List.mem_cons.1 hc with rfl | hc
      · rw [hdigit]
        rfl
      · exact ih h hc

theorem notMem_of_hexValueFrom {v n : Nat} {digits : List Char}
    (h : hexValueFrom v digits = some n) {c : Char} (hc : hexDigit? c = none) : c ∉ digits := by
  intro hmem
  have hsome := isSome_hexDigit?_of_mem h hmem
  rw [hc] at hsome
  cases hsome

theorem readHex?_of_digits {bound value : Nat} {digits : List Char} (hne : digits ≠ [])
    (hvalue : hexValueFrom 0 digits = some value) (hlt : value < bound) :
    readHex? bound digits = some value := by
  obtain ⟨c, cs, rfl⟩ := List.exists_cons_of_ne_nil hne
  refine readHex?_eq_some ?_ hvalue hlt
  rintro rfl
  exact notMem_of_hexValueFrom hvalue (by decide : hexDigit? '+' = none) List.mem_cons_self

/-- The numerals that are read: digits, with or without a sign in front. -/
theorem readHex?_eq_some_iff {bound value : Nat} {cs : List Char} :
    readHex? bound cs = some value ↔ ∃ sign ∈ [[], ['+']], ∃ digits, digits ≠ [] ∧
      cs = sign ++ digits ∧ hexValueFrom 0 digits = some value ∧ value < bound := by
  constructor
  · intro h
    by_cases hsign : ∃ rest, cs = '+' :: rest
    · obtain ⟨rest, rfl⟩ := hsign
      obtain ⟨hne, hvalue, hlt⟩ : rest ≠ [] ∧ hexValueFrom 0 rest = some value ∧ value < bound := by
        simpa [readHex?, Option.filter_eq_some_iff] using h
      exact ⟨['+'], by simp, rest, hne, rfl, hvalue, hlt⟩
    · obtain ⟨hne, hvalue, hlt⟩ : cs ≠ [] ∧ hexValueFrom 0 cs = some value ∧ value < bound := by
        simp only [readHex?] at h
        split at h
        · next rest => exact absurd ⟨rest, rfl⟩ hsign
        · simpa [Option.filter_eq_some_iff] using h
      exact ⟨[], by simp, cs, hne, rfl, hvalue, hlt⟩
  · rintro ⟨sign, hsign, digits, hne, rfl, hvalue, hlt⟩
    simp only [List.mem_cons, List.not_mem_nil, or_false] at hsign
    rcases hsign with rfl | rfl
    · exact readHex?_of_digits hne hvalue hlt
    · simp [readHex?, hne, hvalue, hlt]

/-- A text with a mark in front reads as what follows the mark. -/
theorem readMarkedHex?_mark_append {bound value : Nat} {mark cs : List Char}
    (hmark : mark ∈ [[], ['0', 'x'], ['0', 'X']]) (h : readHex? bound cs = some value) :
    readMarkedHex? bound (mark ++ cs) = some value := by
  obtain ⟨sign, hsign, digits, -, rfl, hvalue, -⟩ := readHex?_eq_some_iff.1 h
  have hx := notMem_of_hexValueFrom hvalue (by decide : hexDigit? 'x' = none)
  have hX := notMem_of_hexValueFrom hvalue (by decide : hexDigit? 'X' = none)
  simp only [List.mem_cons, List.not_mem_nil, or_false] at hmark hsign
  rcases hmark with rfl | rfl | rfl
  · -- What is read has no mark in it, so none is taken off.
    rw [List.nil_append, readMarkedHex?]
    · exact h
    · rintro rest heq
      rcases hsign with rfl | rfl
      · exact hx (by simp [show digits = _ from heq])
      · cases heq
    · rintro rest heq
      rcases hsign with rfl | rfl
      · exact hX (by simp [show digits = _ from heq])
      · cases heq
  · exact h
  · exact h

theorem readMarkedHex?_eq_some_iff {bound value : Nat} {cs : List Char} :
    readMarkedHex? bound cs = some value ↔ ∃ mark ∈ [[], ['0', 'x'], ['0', 'X']],
      ∃ rest, cs = mark ++ rest ∧ readHex? bound rest = some value := by
  constructor
  · intro h
    unfold readMarkedHex? at h
    split at h
    · next rest => exact ⟨['0', 'x'], by simp, rest, rfl, h⟩
    · next rest => exact ⟨['0', 'X'], by simp, rest, rfl, h⟩
    · exact ⟨[], by simp, cs, rfl, h⟩
  · rintro ⟨mark, hmark, rest, rfl, h⟩
    exact readMarkedHex?_mark_append hmark h

/-- The digits of a value read back as its low 16 bits. -/
theorem readMarkedHex?_hex4 (value : Int) :
    readMarkedHex? 0x10000 (hex4 value).toList = some (value % 0x10000).toNat := by
  have hlt : (value % 0x10000).toNat < 0x10000 := by omega
  have hwidth : max 4 (hexWidth (value % 0x10000).toNat) = 4 :=
    max_eq_left (hexWidth_le_four hlt)
  simp only [hex4, paddedHex, hwidth, String.toList_append, String.toList_ofList]
  generalize (value % 0x10000).toNat = n at hlt
  have hvalue := hexValueFrom_lowDigits 4 n 0
  rw [Nat.mul_zero, Nat.zero_add, Nat.mod_eq_of_lt (by simpa using hlt)] at hvalue
  have hsign : ∀ m < 16, upperHexDigit m ≠ '+' := by decide
  obtain ⟨c, cs, hdigits, hc⟩ : ∃ c cs, lowDigits upperHexDigit 4 n = c :: cs ∧ c ≠ '+' :=
    ⟨_, _, rfl, hsign _ (Nat.mod_lt _ (by decide))⟩
  rw [hdigits] at hvalue ⊢
  exact readHex?_eq_some hc hvalue hlt

/-! ### Padded numerals -/

theorem length_lowDigits (digit : Nat → Char) (width n : Nat) :
    (lowDigits digit width n).length = width := by
  induction width generalizing n with
  | zero => rfl
  | succ width ih => rw [lowDigits, List.length_append, ih, List.length_singleton]

/-- The first digit is the highest one. -/
theorem lowDigits_succ (digit : Nat → Char) (width n : Nat) :
    lowDigits digit (width + 1) n = digit (n / 16 ^ width % 16) :: lowDigits digit width n := by
  induction width generalizing n with
  | zero => simp [lowDigits]
  | succ width ih =>
      rw [lowDigits, ih, Nat.div_div_eq_div_mul, ← pow_succ', List.cons_append]
      rfl

theorem upperHexDigit_mem {n : Nat} (h : n < 16) : upperHexDigit n ∈ "0123456789ABCDEF".toList := by
  interval_cases n <;> decide

theorem upperHexDigit_mem_of_mem_lowDigits {width n : Nat} {c : Char}
    (hc : c ∈ lowDigits upperHexDigit width n) : c ∈ "0123456789ABCDEF".toList := by
  induction width generalizing n with
  | zero => cases hc
  | succ width ih =>
      rcases List.mem_append.1 hc with hc | hc
      · exact ih hc
      · rw [List.mem_singleton.1 hc]
        exact upperHexDigit_mem (Nat.mod_lt n (by decide))

theorem lt_pow_hexWidth (n : Nat) : n < 16 ^ hexWidth n := by
  have hbits : (16 : Nat) ^ hexWidth n = 2 ^ (4 * hexWidth n) := by
    rw [pow_mul]
    norm_num
  rcases Nat.eq_zero_or_pos n with rfl | hpos
  · decide
  · rw [hbits, ← Nat.log2_lt hpos.ne', hexWidth]
    omega

theorem pow_hexWidth_le {n : Nat} (hpos : 0 < n) : 16 ^ (hexWidth n - 1) ≤ n := by
  have hbits : (16 : Nat) ^ (hexWidth n - 1) = 2 ^ (4 * (hexWidth n - 1)) := by
    rw [pow_mul]
    norm_num
  rw [hbits, ← Nat.le_log2 hpos.ne', hexWidth]
  omega

/-- The text is the marked numeral of the value in upper-case digits, with as many
zeros in front as it takes to make `width` digits. -/
def IsPaddedHex (width value : Nat) (text : String) : Prop :=
  ∃ digits : List Char, text = "0x" ++ String.ofList digits ∧ width ≤ digits.length ∧
    (width < digits.length → digits.head? ≠ some '0') ∧
    (∀ d ∈ digits, d ∈ "0123456789ABCDEF".toList) ∧ hexValueFrom 0 digits = some value

theorem isPaddedHex_paddedHex {width : Nat} (hwidth : 0 < width) (n : Nat) :
    IsPaddedHex width n (paddedHex width n) := by
  refine ⟨lowDigits upperHexDigit (max width (hexWidth n)) n, rfl, ?_, ?_,
    fun d hd => upperHexDigit_mem_of_mem_lowDigits hd, ?_⟩
  · rw [length_lowDigits]
    exact le_max_left _ _
  · rw [length_lowDigits]
    intro hlonger
    have hmax : max width (hexWidth n) = hexWidth n := by omega
    obtain ⟨w, hw⟩ : ∃ w, hexWidth n = w + 1 := ⟨hexWidth n - 1, by omega⟩
    have hpos : 0 < n := by
      rcases Nat.eq_zero_or_pos n with rfl | hpos
      · have hzero : hexWidth 0 = 1 := by decide
        omega
      · exact hpos
    have hlow := pow_hexWidth_le hpos
    have hhigh := lt_pow_hexWidth n
    rw [hw, Nat.add_sub_cancel] at hlow
    rw [hw, pow_succ] at hhigh
    have htop : 0 < n / 16 ^ w ∧ n / 16 ^ w < 16 :=
      ⟨Nat.div_pos hlow (by positivity), Nat.div_lt_of_lt_mul hhigh⟩
    have hdigit : ∀ m < 16, 0 < m → upperHexDigit m ≠ '0' := by decide
    rw [hmax, hw, lowDigits_succ, List.head?_cons, Nat.mod_eq_of_lt htop.2, ne_eq,
      Option.some.injEq]
    exact hdigit _ htop.2 htop.1
  · have hlt : n < 16 ^ max width (hexWidth n) :=
      (lt_pow_hexWidth n).trans_le (Nat.pow_le_pow_right (by decide) (le_max_right _ _))
    rw [hexValueFrom_lowDigits, Nat.mul_zero, Nat.zero_add, Nat.mod_eq_of_lt hlt]

/-! ### Decimal digits -/

theorem mem_digits_of_mem_decimal {n : Nat} {c : Char} (hc : c ∈ decimal n) :
    c ∈ "0123456789".toList := by
  have hdigit : ∀ m < 10, decimalDigit m ∈ "0123456789".toList := by decide
  fun_induction decimal n with
  | case1 n h =>
      rw [List.mem_singleton.1 hc]
      exact hdigit n h
  | case2 n h ih =>
      rcases List.mem_append.1 hc with hc | hc
      · exact ih hc
      · rw [List.mem_singleton.1 hc]
        exact hdigit _ (Nat.mod_lt n (by decide))

theorem lineFeed_not_mem_decimal (n : Nat) : '\n' ∉ decimal n := fun h =>
  absurd (mem_digits_of_mem_decimal h) (by decide)

end Cartridge.Text
