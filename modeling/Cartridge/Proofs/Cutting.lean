import Cartridge.Proofs.Numeral
import Cartridge.Text.Blank
import Cartridge.Text.Lines
import Cartridge.Text.Search
import Mathlib.Data.List.DropRight
import Mathlib.Data.List.Infix

/-!
Text cut at its blanks, at separators and at its line ends, and searched for
patterns. Trimming takes blanks off the ends and nothing else; a search finds a
pattern exactly where it stands.
-/

namespace Cartridge.Text

/-! ### Blanks -/

def IsBlanks (cs : List Char) : Prop :=
  ∀ c ∈ cs, isBlank c = true

instance : DecidablePred IsBlanks := fun cs => List.decidableBAll _ cs

def IsWord (cs : List Char) : Prop :=
  ∀ c ∈ cs, isBlank c = false

instance : DecidablePred IsWord := fun cs => List.decidableBAll _ cs

@[simp] theorem isBlanks_cons {c : Char} {cs : List Char} :
    IsBlanks (c :: cs) ↔ isBlank c = true ∧ IsBlanks cs :=
  List.forall_mem_cons

@[simp] theorem isBlanks_append {a b : List Char} :
    IsBlanks (a ++ b) ↔ IsBlanks a ∧ IsBlanks b :=
  List.forall_mem_append

@[simp] theorem isWord_cons {c : Char} {cs : List Char} :
    IsWord (c :: cs) ↔ isBlank c = false ∧ IsWord cs :=
  List.forall_mem_cons

@[simp] theorem isWord_append {a b : List Char} : IsWord (a ++ b) ↔ IsWord a ∧ IsWord b :=
  List.forall_mem_append

theorem trimStartList_append {blanks : List Char} (h : IsBlanks blanks)
    (rest : List Char) : trimStartList (blanks ++ rest) = trimStartList rest :=
  List.dropWhile_append_of_pos h

theorem trimStartList_word {word : List Char} (hne : word ≠ [])
    (hword : IsWord word) (rest : List Char) :
    trimStartList (word ++ rest) = word ++ rest := by
  obtain ⟨c, cs, rfl⟩ := List.exists_cons_of_ne_nil hne
  exact List.dropWhile_cons_of_neg (by simp [hword c List.mem_cons_self])

theorem trimList_eq (cs : List Char) :
    trimList cs = (trimStartList cs).rdropWhile isBlank := rfl

/-- Only what follows the last character that is no blank is dropped. -/
theorem rdropWhile_append_cons {front back : List Char} {c : Char} (hc : isBlank c = false) :
    (front ++ c :: back).rdropWhile isBlank = front ++ c :: back.rdropWhile isBlank := by
  induction back using List.reverseRecOn with
  | nil => exact List.rdropWhile_concat_neg isBlank front c (by simp [hc])
  | append_singleton back d ih =>
      have hfront : front ++ c :: (back ++ [d]) = (front ++ c :: back) ++ [d] := by simp
      rw [hfront]
      by_cases hd : isBlank d = true
      · rw [List.rdropWhile_concat_pos _ _ _ hd, List.rdropWhile_concat_pos _ _ _ hd, ih]
      · rw [List.rdropWhile_concat_neg _ _ _ hd, List.rdropWhile_concat_neg _ _ _ hd, hfront]

theorem rdropWhile_append_blanks (front : List Char) {blanks : List Char}
    (h : IsBlanks blanks) :
    (front ++ blanks).rdropWhile isBlank = front.rdropWhile isBlank := by
  have hreverse : ∀ c ∈ blanks.reverse, isBlank c = true := fun c hc => h c (List.mem_reverse.1 hc)
  rw [List.rdropWhile, List.reverse_append, List.dropWhile_append_of_pos hreverse, List.rdropWhile]

/-- Text that starts and ends with a character that is no blank. -/
def IsTrimmed (cs : List Char) : Prop :=
  cs ≠ [] ∧ (∀ c ∈ cs.head?, isBlank c = false) ∧ ∀ c ∈ cs.getLast?, isBlank c = false

theorem trimStartList_eq_self {cs : List Char} (h : ∀ c ∈ cs.head?, isBlank c = false) :
    trimStartList cs = cs := by
  cases cs with
  | nil => rfl
  | cons c cs => exact List.dropWhile_cons_of_neg (by simp [h c rfl])

/-- Trimming takes the blanks off the ends, and no more. -/
theorem trimList_append {front core back : List Char} (hfront : IsBlanks front)
    (hcore : IsTrimmed core) (hback : IsBlanks back) :
    trimList (front ++ (core ++ back)) = core := by
  obtain ⟨hne, hhead, hlast⟩ := hcore
  have hstart : ∀ c ∈ (core ++ back).head?, isBlank c = false := by
    rwa [List.head?_append_of_ne_nil _ hne]
  rw [trimList_eq, trimStartList_append hfront, trimStartList_eq_self hstart,
    rdropWhile_append_blanks core hback, List.rdropWhile_eq_self_iff]
  intro hcore hblank
  rw [hlast _ (List.getLast?_eq_some_getLast hcore)] at hblank
  cases hblank

theorem exists_trimStartList (cs : List Char) : ∃ front, IsBlanks front ∧
    cs = front ++ trimStartList cs ∧ ∀ c ∈ (trimStartList cs).head?, isBlank c = false := by
  refine ⟨cs.takeWhile isBlank, fun c hc => ?_, List.takeWhile_append_dropWhile.symm, ?_⟩
  · exact List.mem_takeWhile_imp hc
  · intro c hc
    have hhead := List.head?_dropWhile_not isBlank cs
    rw [trimStartList] at hc
    rw [Option.mem_def.1 hc] at hhead
    exact hhead

/-- A text is what trimming leaves of it, with blanks around that. -/
theorem exists_trimList (cs : List Char) : ∃ front back, IsBlanks front ∧ IsBlanks back ∧
    cs = front ++ (trimList cs ++ back) ∧ (trimList cs ≠ [] → IsTrimmed (trimList cs)) := by
  obtain ⟨front, hfront, hcs, hhead⟩ := exists_trimStartList cs
  rw [trimList_eq]
  refine ⟨front, (trimStartList cs).rtakeWhile isBlank, hfront,
    fun c hc => List.mem_rtakeWhile_imp hc, ?_, fun hne => ⟨hne, fun c hc => ?_, fun c hc => ?_⟩⟩
  · rw [List.rdropWhile_append_rtakeWhile]
    exact hcs
  · obtain ⟨back, hback⟩ := List.rdropWhile_prefix isBlank (trimStartList cs)
    refine hhead c ?_
    rw [← hback, List.head?_append_of_ne_nil _ hne]
    exact hc
  · have hlast := List.rdropWhile_last_not isBlank (trimStartList cs) hne
    obtain rfl := Option.some.inj ((List.getLast?_eq_some_getLast hne).symm.trans hc)
    simpa using hlast

theorem isBlanks_of_trimList_eq_nil {cs : List Char} (h : trimList cs = []) : IsBlanks cs := by
  obtain ⟨front, back, hfront, hback, hcs, -⟩ := exists_trimList cs
  rw [hcs, h, List.nil_append]
  exact isBlanks_append.2 ⟨hfront, hback⟩

/-- Trimmed text does not end with blanks. -/
theorem IsTrimmed.not_isBlanks {front back : List Char} (h : IsTrimmed (front ++ back))
    (hne : back ≠ []) : ¬IsBlanks back := by
  intro hblanks
  have hlast := h.2.2 (back.getLast hne)
    (by simp [List.getLast?_append_of_ne_nil _ hne, List.getLast?_eq_some_getLast hne])
  rw [hblanks _ (List.getLast_mem hne)] at hlast
  cases hlast

/-- Text is cut at the blank behind a word. -/
theorem cutAtBlank_append {word : List Char} (hword : IsWord word)
    {blank : Char} (hblank : isBlank blank = true) (rest : List Char) :
    cutAtBlank (word ++ blank :: rest) = some (word, rest) := by
  induction word with
  | nil => simp [cutAtBlank, hblank]
  | cons c cs ih =>
      rw [isWord_cons] at hword
      simp [cutAtBlank, hword.1, ih hword.2]

theorem cutAtBlank_eq_some_iff {cs word rest : List Char} :
    cutAtBlank cs = some (word, rest) ↔
      IsWord word ∧ ∃ blank, isBlank blank = true ∧ cs = word ++ blank :: rest := by
  constructor
  · intro h
    induction cs generalizing word with
    | nil => cases h
    | cons c cs ih =>
        rw [cutAtBlank] at h
        split at h
        · next hc =>
            cases h
            exact ⟨nofun, c, hc, rfl⟩
        · next hc =>
            obtain ⟨⟨front, back⟩, hcut, heq⟩ := Option.map_eq_some_iff.1 h
            cases heq
            obtain ⟨hword, blank, hblank, rfl⟩ := ih hcut
            exact ⟨isWord_cons.2 ⟨by simpa using hc, hword⟩, blank, hblank, rfl⟩
  · rintro ⟨hword, blank, hblank, rfl⟩
    exact cutAtBlank_append hword hblank rest

/-- Text that starts with no blank is cut behind a word of it. -/
theorem ne_nil_of_cutAtBlank {cs word rest : List Char} (hhead : ∀ c ∈ cs.head?, isBlank c = false)
    (h : cutAtBlank cs = some (word, rest)) : word ≠ [] := by
  rintro rfl
  obtain ⟨-, blank, hblank, rfl⟩ := cutAtBlank_eq_some_iff.1 h
  rw [hhead blank rfl] at hblank
  cases hblank

theorem isBlank_eq_false_of_hexDigit? {c : Char} (h : (hexDigit? c).isSome = true) :
    isBlank c = false := by
  have hrange : ('0' ≤ c ∧ c ≤ '9') ∨ ('a' ≤ c ∧ c ≤ 'f') ∨ 'A' ≤ c ∧ c ≤ 'F' := by
    by_contra hno
    simp only [not_or] at hno
    simp [hexDigit?, hno] at h
  simp only [Char.le_def, UInt32.le_iff_toNat_le] at hrange
  have hcode : c.toNat = c.val.toNat := rfl
  simp only [isBlank, hcode]
  simp at hrange ⊢
  omega

theorem isWord_of_hexValueFrom {v n : Nat} {digits : List Char}
    (h : hexValueFrom v digits = some n) : IsWord digits := fun _ hc =>
  isBlank_eq_false_of_hexDigit? (isSome_hexDigit?_of_mem h hc)

/-- A word is kept until it ends. -/
theorem wordsFrom_append {word : List Char} (hword : IsWord word) (front rest : List Char) :
    wordsFrom front (word ++ rest) = wordsFrom (word.reverse ++ front) rest := by
  induction word generalizing front with
  | nil => rfl
  | cons c cs ih =>
      rw [isWord_cons] at hword
      rw [List.cons_append, wordsFrom, if_neg (by simp [hword.1]), ih hword.2]
      simp

theorem wordsList_of_isWord {word : List Char} (hne : word ≠ []) (hword : IsWord word) :
    wordsList word = [word] := by
  have hwords := wordsFrom_append hword [] []
  rw [List.append_nil, List.append_nil] at hwords
  rw [wordsList, hwords]
  simp [wordsFrom, hne]

/-- The word at the start of a text is its first. -/
theorem wordsList_append {word : List Char} (hne : word ≠ [])
    (hword : IsWord word) {blank : Char} (hblank : isBlank blank = true)
    (rest : List Char) : wordsList (word ++ blank :: rest) = word :: wordsList rest := by
  rw [wordsList, wordsFrom_append hword, List.append_nil, wordsFrom, if_pos hblank,
    if_neg (by simpa using hne), List.reverse_reverse, wordsList]

/-! ### Searching -/

theorem afterStart_eq_some_iff {pattern cs rest : List Char} :
    afterStart pattern cs = some rest ↔ cs = pattern ++ rest := by
  induction pattern generalizing cs with
  | nil => simp [afterStart]
  | cons p ps ih =>
      cases cs with
      | nil => simp [afterStart]
      | cons c cs =>
          by_cases hc : p = c
          · simp [afterStart, hc, ih]
          · simp [afterStart, hc, Ne.symm hc]

theorem isSome_afterStart_iff {pattern cs : List Char} :
    (afterStart pattern cs).isSome = true ↔ pattern <+: cs := by
  rw [Option.isSome_iff_exists]
  exact exists_congr fun rest => afterStart_eq_some_iff.trans eq_comm

theorem containsList_iff {pattern cs : List Char} :
    containsList pattern cs = true ↔ pattern <:+: cs := by
  induction cs with
  | nil => simp [containsList]
  | cons c cs ih =>
      rw [containsList, Bool.or_eq_true, isSome_afterStart_iff, ih, List.infix_cons_iff]

/-- A search starts over behind a character that the pattern does not start with. -/
theorem cutAt_of_notMem {p : Char} (pattern : List Char) {cs : List Char} (h : p ∉ cs) :
    cutAt (p :: pattern) cs = none := by
  induction cs with
  | nil => rfl
  | cons c cs ih =>
      rw [List.mem_cons, not_or] at h
      rw [cutAt, afterStart, if_neg h.1]
      simp [ih h.2]

theorem cutAt_append {p : Char} {pattern before : List Char} (h : p ∉ before)
    (after : List Char) :
    cutAt (p :: pattern) (before ++ (p :: pattern ++ after)) = some (before, after) := by
  induction before with
  | nil =>
      have hstart : afterStart (p :: pattern) (p :: pattern ++ after) = some after :=
        afterStart_eq_some_iff.2 rfl
      rw [List.nil_append, List.cons_append, cutAt]
      rw [List.cons_append] at hstart
      rw [hstart]
  | cons c before ih =>
      rw [List.mem_cons, not_or] at h
      rw [List.cons_append, cutAt, afterStart, if_neg h.1, ih h.2]
      rfl

/-- A text has one ending. -/
theorem not_suffix_of_suffix {a b cs : List Char} (h : a <:+ cs) (hlength : b.length ≤ a.length)
    (hab : ¬b <:+ a) : ¬b <:+ cs := fun hb =>
  hab (List.suffix_of_suffix_length_le hb h hlength)

/-! ### Separators -/

theorem cutAtChar_append {separator : Char} {before : List Char} (h : separator ∉ before)
    (after : List Char) :
    cutAtChar separator (before ++ separator :: after) = some (before, after) := by
  induction before with
  | nil => simp [cutAtChar]
  | cons c before ih =>
      rw [List.mem_cons, not_or] at h
      rw [List.cons_append, cutAtChar, if_neg (Ne.symm h.1), ih h.2]
      rfl

theorem splitAtChar_ne_nil (separator : Char) (cs : List Char) :
    splitAtChar separator cs ≠ [] := by
  cases cs with
  | nil => simp [splitAtChar]
  | cons c cs =>
      rw [splitAtChar]
      split
      · simp
      · split <;> simp

theorem splitAtChar_append {separator : Char} {line : List Char} (h : separator ∉ line)
    (rest : List Char) :
    splitAtChar separator (line ++ separator :: rest) =
      line :: splitAtChar separator rest := by
  induction line with
  | nil => simp [splitAtChar]
  | cons c cs ih =>
      rw [List.mem_cons, not_or] at h
      rw [List.cons_append, splitAtChar, if_neg (Ne.symm h.1), ih h.2]

theorem splitAtChar_of_notMem {separator : Char} {piece : List Char} (h : separator ∉ piece) :
    splitAtChar separator piece = [piece] := by
  induction piece with
  | nil => rfl
  | cons c cs ih =>
      rw [List.mem_cons, not_or] at h
      rw [splitAtChar, if_neg (Ne.symm h.1), ih h.2]

theorem splitAtChar_intercalate {separator : Char} {pieces : List (List Char)}
    (hne : pieces ≠ []) (h : ∀ piece ∈ pieces, separator ∉ piece) :
    splitAtChar separator ([separator].intercalate pieces) = pieces := by
  induction pieces with
  | nil => exact absurd rfl hne
  | cons piece others ih =>
      rw [List.forall_mem_cons] at h
      cases others with
      | nil => simpa using splitAtChar_of_notMem h.1
      | cons next others =>
          rw [List.intercalate_cons_cons, List.append_assoc, List.singleton_append,
            splitAtChar_append h.1, ih (by simp) h.2]

/-- Between the separators stand the pieces. -/
theorem mem_of_mem_intercalate {c separator : Char} {pieces : List String}
    (h : c ∈ [separator].intercalate (pieces.map String.toList)) :
    c = separator ∨ ∃ piece ∈ pieces, c ∈ piece.toList := by
  induction pieces with
  | nil => simp at h
  | cons piece others ih =>
      cases others with
      | nil => exact .inr ⟨piece, List.mem_cons_self, by simpa using h⟩
      | cons next others =>
          rw [List.map_cons, List.map_cons, List.intercalate_cons_cons, List.mem_append,
            List.mem_append, List.mem_singleton] at h
          rcases h with (h | h) | h
          · exact .inr ⟨piece, List.mem_cons_self, h⟩
          · exact .inl h
          · exact (ih h).imp_right fun ⟨piece', hpiece, hmem⟩ =>
              ⟨piece', List.mem_cons_of_mem _ hpiece, hmem⟩

/-! ### Lines -/

/-- The text consists of these lines, each with one of the two line ends; the last
may go without. -/
inductive IsLines : List (List Char) → List Char → Prop
  | done : IsLines [] []
  | last {line : List Char} (hne : line ≠ []) (hline : '\n' ∉ line) : IsLines [line] line
  | lineFeed {line rest : List Char} {others : List (List Char)} (hline : '\n' ∉ line)
      (hend : line.getLast? ≠ some '\r') (hrest : IsLines others rest) :
      IsLines (line :: others) (line ++ '\n' :: rest)
  | carriageReturn {line rest : List Char} {others : List (List Char)} (hline : '\n' ∉ line)
      (hrest : IsLines others rest) : IsLines (line :: others) (line ++ '\r' :: '\n' :: rest)

/-- A line ends at the first line feed. -/
theorem linesList_append_lineFeed {line : List Char} (hline : '\n' ∉ line)
    (hend : line.getLast? ≠ some '\r') (rest : List Char) :
    linesList (line ++ '\n' :: rest) = line :: linesList rest := by
  induction line with
  | nil => rfl
  | cons c cs ih =>
      rw [List.mem_cons, not_or] at hline
      have hcs : linesList (cs ++ '\n' :: rest) = cs :: linesList rest := by
        refine ih hline.2 fun h => hend ?_
        rw [List.getLast?_cons, h]
        rfl
      rw [List.cons_append, linesList, hcs]
      · exact fun h => hline.1 h.symm
      · -- A carriage return belongs to the line end only right before it.
        rintro others rfl hothers
        cases cs with
        | nil => exact hend rfl
        | cons d ds => exact hline.2 (List.mem_cons.2 (.inl (List.cons.inj hothers).1.symm))

theorem linesList_append_carriageReturn {line : List Char} (hline : '\n' ∉ line)
    (rest : List Char) : linesList (line ++ '\r' :: '\n' :: rest) = line :: linesList rest := by
  induction line with
  | nil => rfl
  | cons c cs ih =>
      rw [List.mem_cons, not_or] at hline
      rw [List.cons_append, linesList, ih hline.2]
      · exact fun h => hline.1 h.symm
      · rintro others rfl hothers
        cases cs with
        | nil => cases hothers
        | cons d ds => exact hline.2 (List.mem_cons.2 (.inl (List.cons.inj hothers).1.symm))

theorem linesList_of_notMem {line : List Char} (hne : line ≠ []) (hline : '\n' ∉ line) :
    linesList line = [line] := by
  induction line with
  | nil => exact absurd rfl hne
  | cons c cs ih =>
      rw [List.mem_cons, not_or] at hline
      cases cs with
      | nil =>
          rw [linesList]
          · rfl
          · exact fun h => hline.1 h.symm
          · rintro others rfl hothers
            cases hothers
      | cons d ds =>
          rw [linesList, ih (by simp) hline.2]
          · exact fun h => hline.1 h.symm
          · rintro others rfl hothers
            exact hline.2 (List.mem_cons.2 (.inl (List.cons.inj hothers).1.symm))

theorem lineFeed_notMem_of_mem_linesList {line cs : List Char} (h : line ∈ linesList cs) :
    '\n' ∉ line := by
  fun_induction linesList cs generalizing line with
  | case1 => cases h
  | case2 rest ih =>
      rcases List.mem_cons.1 h with rfl | h
      · exact List.not_mem_nil
      · exact ih h
  | case3 rest ih =>
      rcases List.mem_cons.1 h with rfl | h
      · exact List.not_mem_nil
      · exact ih h
  | case4 c rest hfeed _ hnil ih =>
      rw [List.mem_singleton.1 h, List.mem_singleton]
      exact fun hc => hfeed hc.symm
  | case5 c rest hfeed _ first others hcons ih =>
      rcases List.mem_cons.1 h with rfl | h
      · rw [List.mem_cons, not_or]
        exact ⟨fun hc => hfeed hc.symm, ih (hcons ▸ List.mem_cons_self)⟩
      · exact ih (hcons ▸ List.mem_cons_of_mem _ h)

theorem IsLines.linesList_eq {lines : List (List Char)} {text : List Char}
    (h : IsLines lines text) : linesList text = lines := by
  induction h with
  | done => rfl
  | last hne hline => exact linesList_of_notMem hne hline
  | lineFeed hline hend _ ih => rw [linesList_append_lineFeed hline hend, ih]
  | carriageReturn hline _ ih => rw [linesList_append_carriageReturn hline, ih]

end Cartridge.Text
