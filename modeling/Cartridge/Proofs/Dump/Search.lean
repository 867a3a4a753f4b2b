import Cartridge.Proofs.Dump.Columns
import Cartridge.Proofs.Dump.Routine
import Cartridge.Proofs.Source.Layout

/-!
Routines looked up in any dump at all. The search goes on behind an occurrence that
it has refused, and so it passes over those that overlap this one. None of them can be
the symbol as a whole: what stands in front of it is a character of the refused
occurrence, and a qualified name has only characters that lead into another name.
A lookup therefore answers with the first line that mentions the routine anywhere.
-/

namespace Cartridge.Script.Dump

open Cartridge.Text

/-! ### Qualified names -/

/-- A character of a qualified name. -/
def isQualifiedChar (c : Char) : Bool :=
  isIdentifierChar c || c == ':'

/-- Segments of letters, numbers and underscores, with double colons between them. -/
def IsQualified (name : String) : Prop :=
  ∃ segments, segments ≠ [] ∧ (∀ s ∈ segments, s ≠ [] ∧ ∀ c ∈ s, isIdentifierChar c = true) ∧
    name.toList = Symbol.join segments

theorem isQualifiedChar_of_mem_join {segments : List (List Char)}
    (h : ∀ s ∈ segments, ∀ c ∈ s, isIdentifierChar c = true) {c : Char}
    (hc : c ∈ Symbol.join segments) : isQualifiedChar c = true := by
  induction segments using List.reverseRecOn with
  | nil => cases hc
  | append_singleton scope name ih =>
      have hname : ∀ c ∈ name, isQualifiedChar c = true := fun c hc => by
        rw [isQualifiedChar, h name (by simp) c hc, Bool.true_or]
      by_cases hscope : scope = []
      · rw [hscope, List.nil_append, Symbol.join_singleton] at hc
        exact hname c hc
      · rw [Symbol.join_concat hscope, List.mem_append, List.mem_cons, List.mem_cons] at hc
        rcases hc with hc | rfl | rfl | hc
        · exact ih (fun s hs => h s (by simp [hs])) hc
        · simp [isQualifiedChar]
        · simp [isQualifiedChar]
        · exact hname c hc

theorem IsQualified.isQualifiedChar {name : String} (h : IsQualified name) :
    ∀ c ∈ name.toList, isQualifiedChar c = true := by
  obtain ⟨segments, -, hsegments, hname⟩ := h
  rw [hname]
  exact fun c hc => isQualifiedChar_of_mem_join (fun s hs => (hsegments s hs).2) hc

theorem isQualifiedChar_of_mem_routineName {scope name : String} (hscope : IsQualified scope)
    (hname : IsQualified name) : ∀ c ∈ routineName scope name, isQualifiedChar c = true := by
  have hcolons : ∀ c ∈ "::".toList, isQualifiedChar c = true :=
    List.all_eq_true.1 (by decide +kernel)
  intro c hc
  rw [routineName, String.toList_append, String.toList_append, List.mem_append,
    List.mem_append] at hc
  rcases hc with (hc | hc) | hc
  · exact hscope.isQualifiedChar c hc
  · exact hcolons c hc
  · exact hname.isQualifiedChar c hc

/-! ### The search -/

section

variable {symbol text after front : List Char} {skip : Nat}

/-- The search gets to a mention from wherever it is. What it still has to pass over are
characters of a qualified name, and so is what it has passed last: they end before the
character in front of the mention, which is none. -/
theorem hasSymbol_of_clean (before : List Char) (hne : symbol ≠ [])
    (hsymbol : ∀ c ∈ symbol, isQualifiedChar c = true)
    (hfront : (before ++ front).getLast?.any isQualifiedChar = false)
    (hafter : after.head?.any isIdentifierChar = false)
    (hpassed : skip ≠ 0 → before.getLast?.any isQualifiedChar = true)
    (hskip : ∀ c ∈ (front ++ (symbol ++ after)).take skip, isQualifiedChar c = true) :
    hasSymbol symbol before.getLast? skip (front ++ (symbol ++ after)) = true := by
  induction front generalizing before skip with
  | nil =>
      rw [List.append_nil] at hfront
      obtain rfl : skip = 0 := by
        by_contra hskip
        rw [hpassed hskip] at hfront
        cases hfront
      obtain ⟨c, rest, rfl⟩ := List.exists_cons_of_ne_nil hne
      have hfound : afterStart (c :: rest) (c :: (rest ++ after)) = some after :=
        afterStart_eq_some_iff.2 rfl
      have hclean : before.getLast?.any (fun c => isIdentifierChar c || c == ':') = false := hfront
      rw [List.nil_append, List.cons_append, hasSymbol]
      simp [hfound, hclean, hafter]
  | cons c front ih =>
      have hnext : ∀ {skip}, (skip ≠ 0 → isQualifiedChar c = true) →
          (∀ d ∈ (front ++ (symbol ++ after)).take skip, isQualifiedChar d = true) →
            hasSymbol symbol (some c) skip (front ++ (symbol ++ after)) = true := by
        intro skip hpassed hskip
        have hrest := ih (before ++ [c]) (by simpa using hfront) (by simpa using hpassed) hskip
        rwa [List.getLast?_concat] at hrest
      rw [List.cons_append] at hskip ⊢
      cases skip with
      | succ skip =>
          rw [List.take_succ_cons, List.forall_mem_cons] at hskip
          exact hnext (fun _ => hskip.1) hskip.2
      | zero =>
          rw [hasSymbol]
          cases hstart : afterStart symbol (c :: (front ++ (symbol ++ after))) with
          | none => exact hnext (by simp) (by simp)
          | some rest =>
              -- An occurrence starts here: if it is refused, the rest of it is passed over.
              obtain ⟨d, others, hcons⟩ := List.exists_cons_of_ne_nil hne
              have hoccurs := afterStart_eq_some_iff.1 hstart
              nth_rewrite 2 [hcons] at hoccurs
              rw [List.cons_append] at hoccurs
              obtain ⟨rfl, hothers⟩ := List.cons.inj hoccurs
              rw [hcons, List.forall_mem_cons] at hsymbol
              refine Bool.or_eq_true_iff.2 (.inr (hnext (fun _ => hsymbol.1) ?_))
              rw [hothers, hcons, List.length_cons, Nat.add_sub_cancel, List.take_left]
              exact hsymbol.2

/-- The search finds a symbol exactly where a text mentions it. -/
theorem hasSymbol_iff_mentions (hne : symbol ≠ [])
    (hsymbol : ∀ c ∈ symbol, isQualifiedChar c = true) :
    hasSymbol symbol none 0 text = true ↔ Mentions symbol text := by
  constructor
  · exact mentions_of_search
  · rintro ⟨front, after, rfl, hfront, hafter⟩
    have hfound := hasSymbol_of_clean [] hne hsymbol hfront hafter
      (fun h => absurd rfl h) (by simp)
    rwa [← List.append_assoc] at hfound

end

/-! ### Lines -/

/-- The first word of a line is an address: digits of a 32-bit value, with or without a
mark and then a plus sign in front. -/
def StartsWithAddress (line : List Char) (address : UInt32) : Prop :=
  ∃ word others, Spaced (word :: others) line ∧
    ∃ mark ∈ [[], ['0', 'x'], ['0', 'X']], ∃ sign ∈ [[], ['+']], ∃ digits,
      word = mark ++ (sign ++ digits) ∧ digits ≠ [] ∧ hexValueFrom 0 digits = some address.toNat

theorem lineAddress?_eq_some_iff {line : List Char} {address : UInt32} :
    lineAddress? line = some address ↔ StartsWithAddress line address := by
  rw [lineAddress?, Option.bind_eq_some_iff]
  constructor
  · rintro ⟨word, hword, haddress⟩
    obtain ⟨others, hwords⟩ := List.head?_eq_some_iff.1 hword
    exact ⟨word, others, spaced_iff.2 hwords, address?_eq_some_iff.1 haddress⟩
  · rintro ⟨word, others, hwords, haddress⟩
    exact ⟨word, by rw [hwords.wordsList_eq]; rfl, address?_eq_some_iff.2 haddress⟩

/-- The line has an address for a symbol: it does not speak of the offset table, mentions
the symbol as a whole, at any place, and starts with the address. -/
structure Gives (symbol line : List Char) (address : UInt32) : Prop where
  unmarked : ¬relocationMark <:+: line
  mentions : Mentions symbol line
  address : StartsWithAddress line address

section Lookup

variable {dump scope name : String} {symbol line : List Char}

theorem answer?_eq_some_iff (hne : symbol ≠ [])
    (hsymbol : ∀ c ∈ symbol, isQualifiedChar c = true) {a : UInt32} :
    answer? symbol line = some a ↔ Gives symbol line a := by
  rw [answer?, Option.ite_none_right_eq_some, Bool.and_eq_true_iff,
    hasSymbol_iff_mentions hne hsymbol, lineAddress?_eq_some_iff, Bool.not_eq_true',
    ← Bool.not_eq_true, isMarked_iff]
  constructor
  · rintro ⟨⟨hunmarked, hmentions⟩, haddress⟩
    exact ⟨hunmarked, hmentions, haddress⟩
  · rintro ⟨hunmarked, hmentions, haddress⟩
    exact ⟨⟨hunmarked, hmentions⟩, haddress⟩

theorem answer?_eq_none_iff (hne : symbol ≠ [])
    (hsymbol : ∀ c ∈ symbol, isQualifiedChar c = true) :
    answer? symbol line = none ↔ ∀ a, ¬Gives symbol line a := by
  simp only [Option.eq_none_iff_forall_ne_some, ne_eq, answer?_eq_some_iff hne hsymbol]

/-- A lookup answers with the first line that has an address for the routine, and with
nothing only if there is no such line. -/
theorem routineAddress?_first_mention (hscope : IsQualified scope) (hname : IsQualified name) :
    (∀ a, routineAddress? dump scope name = some a ↔
      ∃ before line after, linesList dump.toList = before ++ line :: after ∧
        Gives (routineName scope name) line a ∧
        ∀ l ∈ before, ∀ b, ¬Gives (routineName scope name) l b) ∧
    (routineAddress? dump scope name = none ↔
      ∀ line ∈ linesList dump.toList, ∀ a, ¬Gives (routineName scope name) line a) := by
  have hne : routineName scope name ≠ [] := List.ne_nil_of_mem (colon_mem_routineName scope name)
  have hchars := isQualifiedChar_of_mem_routineName hscope hname
  constructor
  · intro a
    simp only [routineAddress?_eq_first_answer, List.findSome?_eq_some_iff,
      answer?_eq_some_iff hne hchars, answer?_eq_none_iff hne hchars]
  · simp only [routineAddress?_eq_first_answer, List.findSome?_eq_none_iff,
      answer?_eq_none_iff hne hchars]

end Lookup

/-! A dump that mentions a routine on its last line only. Longer names hold the symbol on
the lines in front, twice over on the first one; then come a line of the offset table
and one without an address. -/

def nestedLines : List (List Char) :=
  ["00000010 g F .text xA::A::A::A()".toList, "00000014 g F .text \u00e9A::A::A()".toList,
    "00000018 R_68K_GOT16O A::A::A()".toList, "see A::A::A()".toList]

def nestedLine : List Char :=
  "0x1c g F .text B(A::A::A)".toList

/-- The text of a dump of the given lines. -/
def dumpOf (lines : List (List Char)) : String :=
  String.ofList (lines.flatMap (· ++ ['\n']))

theorem nested_routine_found :
    IsQualified "A::A" ∧ IsQualified "A" ∧
      routineAddress? (dumpOf (nestedLines ++ [nestedLine])) "A::A" "A" = some 0x1c ∧
      routineAddress? (dumpOf nestedLines) "A::A" "A" = none := by
  have hletter : isIdentifierChar 'A' = true := by decide +kernel
  have hscope : IsQualified "A::A" := ⟨[['A'], ['A']], by decide, by simp [hletter], by decide⟩
  have hname : IsQualified "A" := ⟨[['A']], by decide, by simp [hletter], by decide⟩
  have hnone : ∀ l ∈ nestedLines, ∀ b, ¬Gives (routineName "A::A" "A") l b := by
    have hlines : ∀ l ∈ nestedLines, relocationMark <:+: l ∨
        ¬Mentions (routineName "A::A" "A") l ∨ lineAddress? l = none := by decide +kernel
    intro l hl b h
    rcases hlines l hl with hmarked | hunmentioned | hnone
    · exact h.unmarked hmarked
    · exact hunmentioned h.mentions
    · rw [lineAddress?_eq_some_iff.2 h.address] at hnone
      cases hnone
  have hgives : Gives (routineName "A::A" "A") nestedLine 0x1c :=
    ⟨by decide +kernel, by decide +kernel, lineAddress?_eq_some_iff.1 (by decide +kernel)⟩
  have hlines : linesList (dumpOf nestedLines).toList = nestedLines ∧
      linesList (dumpOf (nestedLines ++ [nestedLine])).toList = nestedLines ++ [nestedLine] := by
    simp only [dumpOf, String.toList_ofList]
    decide +kernel
  refine ⟨hscope, hname, ?_, ?_⟩
  · exact ((routineAddress?_first_mention hscope hname).1 0x1c).2
      ⟨nestedLines, nestedLine, [], hlines.2, hgives, hnone⟩
  · refine (routineAddress?_first_mention hscope hname).2.2 ?_
    rwa [hlines.1]

end Cartridge.Script.Dump
