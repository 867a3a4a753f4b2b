import Cartridge.Proofs.Cutting
import Cartridge.Source.Scan

/-!
Lines as their author lays them out. Blanks stand around the words of a line in any
number, and a comment may follow; a line is read as the words it shows and as no
others.
-/

namespace Cartridge.Text

/-- Blanks stand between the words, and may stand before and behind them. -/
inductive Spaced : List (List Char) → List Char → Prop
  | blanks {cs : List Char} (h : IsBlanks cs) : Spaced [] cs
  | word {blanks word rest : List Char} {words : List (List Char)} (hblanks : IsBlanks blanks)
      (hne : word ≠ []) (hword : IsWord word) (hend : ∀ c ∈ rest.head?, isBlank c = true)
      (hrest : Spaced words rest) : Spaced (word :: words) (blanks ++ word ++ rest)

theorem wordsList_append_blanks {blanks : List Char} (h : IsBlanks blanks) (rest : List Char) :
    wordsList (blanks ++ rest) = wordsList rest := by
  induction blanks with
  | nil => rfl
  | cons c cs ih =>
      rw [isBlanks_cons] at h
      have hrest := ih h.2
      rw [wordsList, wordsList] at hrest
      rw [List.cons_append, wordsList, wordsList, wordsFrom, if_pos h.1]
      exact hrest

theorem Spaced.wordsList_eq {words : List (List Char)} {cs : List Char} (h : Spaced words cs) :
    wordsList cs = words := by
  induction h with
  | @blanks cs h =>
      have hnone := wordsList_append_blanks h []
      rwa [List.append_nil] at hnone
  | @word blanks word rest words hblanks hne hword hend _ ih =>
      rw [List.append_assoc, wordsList_append_blanks hblanks]
      cases rest with
      | nil =>
          rw [← ih, List.append_nil]
          exact wordsList_of_isWord hne hword
      | cons c rest =>
          have hc : isBlank c = true := hend c rfl
          have hbehind : wordsList (c :: rest) = wordsList rest :=
            wordsList_append_blanks (isBlanks_cons.2 ⟨hc, List.forall_mem_nil _⟩) rest
          rw [wordsList_append hne hword hc, ← ih, hbehind]

theorem Spaced.cons_blank {words : List (List Char)} {cs : List Char} (h : Spaced words cs)
    {c : Char} (hc : isBlank c = true) : Spaced words (c :: cs) := by
  cases h with
  | blanks h => exact .blanks (isBlanks_cons.2 ⟨hc, h⟩)
  | @word blanks word rest words hblanks hne hword hend hrest =>
      exact .word (isBlanks_cons.2 ⟨hc, hblanks⟩) hne hword hend hrest

/-- Cutting at the blanks finds the words, whatever has been read of the first one. -/
theorem spaced_wordsFrom {front : List Char} (hfront : IsWord front) (cs : List Char) :
    Spaced (wordsFrom front cs) (front.reverse ++ cs) := by
  have hreverse : ∀ {front : List Char}, IsWord front → IsWord front.reverse :=
    fun h c hc => h c (List.mem_reverse.1 hc)
  induction cs generalizing front with
  | nil =>
      cases front with
      | nil => exact .blanks (List.forall_mem_nil _)
      | cons d ds =>
          have hword := Spaced.word (List.forall_mem_nil _ : IsBlanks []) (by simp)
            (hreverse hfront) (by simp) (.blanks (List.forall_mem_nil _ : IsBlanks []))
          simpa [wordsFrom] using hword
  | cons c cs ih =>
      cases hc : isBlank c with
      | true =>
          have hrest : Spaced (wordsFrom [] cs) (c :: cs) :=
            (ih (List.forall_mem_nil _ : IsWord [])).cons_blank hc
          cases front with
          | nil => simpa [wordsFrom, hc] using hrest
          | cons d ds =>
              have hword := Spaced.word (List.forall_mem_nil _ : IsBlanks []) (by simp)
                (hreverse hfront) (by simpa using hc) hrest
              simpa [wordsFrom, hc] using hword
      | false =>
          -- The character joins the word that has been read so far.
          have hrest := ih (isWord_cons.2 ⟨hc, hfront⟩)
          simpa [wordsFrom, hc] using hrest

theorem spaced_iff {words : List (List Char)} {cs : List Char} :
    Spaced words cs ↔ wordsList cs = words := by
  constructor
  · exact Spaced.wordsList_eq
  · rintro rfl
    exact spaced_wordsFrom (List.forall_mem_nil _ : IsWord []) cs

/-- The last word stands behind characters of the others and blanks. -/
theorem Spaced.exists_concat {front : List (List Char)} {word cs : List Char}
    (h : Spaced (front ++ [word]) cs) : ∃ before after, cs = before ++ word ++ after ∧
      ∀ c ∈ before, isBlank c = true ∨ ∃ w ∈ front, c ∈ w := by
  induction front generalizing cs with
  | nil =>
      cases h with
      | @word blanks _ rest _ hblanks => exact ⟨blanks, rest, rfl, fun c hc => .inl (hblanks c hc)⟩
  | cons w front ih =>
      cases h with
      | @word blanks _ rest _ hblanks _ _ _ hrest =>
          obtain ⟨before, after, rfl, hbefore⟩ := ih hrest
          refine ⟨blanks ++ w ++ before, after, by simp, fun c hc => ?_⟩
          rw [List.mem_append, List.mem_append] at hc
          rcases hc with (hc | hc) | hc
          · exact .inl (hblanks c hc)
          · exact .inr ⟨w, List.mem_cons_self, hc⟩
          · exact (hbefore c hc).imp_right fun ⟨w', hw', hmem⟩ =>
              ⟨w', List.mem_cons_of_mem _ hw', hmem⟩

theorem Spaced.mem {words : List (List Char)} {cs : List Char} (h : Spaced words cs) :
    ∀ c ∈ cs, isBlank c = true ∨ ∃ w ∈ words, c ∈ w := by
  induction h with
  | blanks h => exact fun c hc => .inl (h c hc)
  | @word blanks word rest words hblanks _ _ _ _ ih =>
      intro c hc
      rw [List.mem_append, List.mem_append] at hc
      rcases hc with (hc | hc) | hc
      · exact .inl (hblanks c hc)
      · exact .inr ⟨word, List.mem_cons_self, hc⟩
      · exact (ih c hc).imp_right fun ⟨w, hw, hmem⟩ => ⟨w, List.mem_cons_of_mem _ hw, hmem⟩

end Cartridge.Text

namespace Cartridge.Source

open Cartridge.Text

/-- The line shows these words; what follows them is a comment. -/
structure ShowsAs (words : List String) (raw : String) (code comment : List Char) : Prop where
  raw_eq : raw.toList = code ++ comment
  spaced : Spaced (words.map String.toList) code
  code : ';' ∉ code
  comment : ∀ c ∈ comment.head?, c = ';'

/-- The line shows these words, with or without a comment behind them. -/
def Shows (words : List String) (raw : String) : Prop :=
  ∃ code comment, ShowsAs words raw code comment

/-- The line shows the word, in either letter case. -/
def HasWord (word raw : String) : Prop :=
  ∃ words, Shows words raw ∧ ∃ w ∈ words, sameName w word = true

variable {raw : String} {words : List String}

theorem ShowsAs.text {code comment : List Char} (h : ShowsAs words raw code comment)
    (number : Nat) : (Line.mk number raw).text = String.ofList code := by
  have hcode : ∀ c ∈ code, (c != ';') = true := by
    intro c hc
    simpa using fun heq : c = ';' => h.code (heq ▸ hc)
  have hcomment : comment.takeWhile (· != ';') = [] := by
    cases comment with
    | nil => rfl
    | cons c rest =>
        have hc : c = ';' := h.comment c rfl
        rw [List.takeWhile_cons, hc]
        rfl
  rw [Line.text, h.raw_eq, List.takeWhile_append_of_pos hcode, hcomment, List.append_nil]

/-- A line is read as the words it shows. -/
theorem shows_iff {number : Nat} : Shows words raw ↔ (Line.mk number raw).words = words := by
  constructor
  · rintro ⟨code, comment, h⟩
    rw [Line.words, h.text, Text.words, String.toList_ofList, h.spaced.wordsList_eq, List.map_map]
    simp
  · rintro rfl
    refine ⟨raw.toList.takeWhile (· != ';'), raw.toList.dropWhile (· != ';'),
      List.takeWhile_append_dropWhile.symm, ?_, ?_, ?_⟩
    · rw [spaced_iff]
      simp [Line.words, Line.text, Text.words]
    · intro hmem
      simpa using List.mem_takeWhile_imp hmem
    · intro c hc
      have hhead := List.head?_dropWhile_not (· != ';') raw.toList
      rw [Option.mem_def.1 hc] at hhead
      simpa using hhead

theorem Shows.words_eq (h : Shows words raw) (number : Nat) : (Line.mk number raw).words = words :=
  shows_iff.1 h

theorem Shows.mentions (h : Shows words raw) (number : Nat) (word : String) :
    (Line.mk number raw).mentions word = words.any (sameName · word) := by
  rw [Line.mentions, h.words_eq]

theorem mentions_iff {number : Nat} {word : String} :
    (Line.mk number raw).mentions word = true ↔ HasWord word raw := by
  rw [Line.mentions, List.any_eq_true]
  constructor
  · rintro ⟨w, hw, hsame⟩
    exact ⟨_, shows_iff.2 rfl, w, hw, hsame⟩
  · rintro ⟨words, hshows, w, hw, hsame⟩
    exact ⟨w, hshows.words_eq number ▸ hw, hsame⟩

end Cartridge.Source
