import Cartridge.Proofs.LetterCase
import Cartridge.Proofs.Source.Layout
import Cartridge.Source.Block
import Mathlib

/-!
Declarations read back. A line that shows the words of a parameter or of a component
reference declares it, in whatever letter case its directives are written, and is
neither an end marker nor part of a macro definition.
-/

namespace Cartridge

open Text

namespace Width

/-- The directive that reserves a field of this width. -/
def reserve : Width → String
  | .byte => "rs.b"
  | .word => "rs.w"
  | .long => "rs.l"

theorem ofReserve?_of_sameName {directive : String} {size : Width}
    (h : sameName directive size.reserve = true) : ofReserve? directive = some size := by
  have hself : ofReserve? size.reserve = some size := by cases size <;> decide
  simpa only [ofReserve?, sameName_congr h] using hself

end Width

namespace Source

/-! ### Names and tags -/

/-- The words that begin and end blocks, and the one that begins a macro definition. -/
def markers : List String :=
  "macro" :: (BlockKind.all.map BlockKind.beginMarker ++ BlockKind.all.map BlockKind.endMarker)

/-- A word that can name a block, a parameter or a component. -/
@[mk_iff] structure IsName (name : String) : Prop where
  nonempty : name ≠ ""
  word : IsWord name.toList
  comment : ';' ∉ name.toList
  bracket : '[' ∉ name.toList
  reference : sameName name "ENT_COMPONENT" = false
  free : ∀ marker ∈ markers, sameName name marker = false

instance : DecidablePred IsName := fun name => decidable_of_iff' _ (isName_iff name)

/-- A word that can stand in a tag list. -/
@[mk_iff] structure IsTag (tag : String) : Prop where
  nonempty : tag ≠ ""
  word : IsWord tag.toList
  comma : ',' ∉ tag.toList
  bracket : ']' ∉ tag.toList
  comment : ';' ∉ tag.toList

instance : DecidablePred IsTag := fun tag => decidable_of_iff' _ (isTag_iff tag)

/-- The words of a line that declares the item. -/
inductive Declares : Item → List String → Prop
  | untagged {name directive : String} {size : Width} (hname : IsName name)
      (hsize : sameName directive size.reserve = true) :
      Declares (.param ⟨name, size, "0", []⟩) [name, directive, "1"]
  | tagged {name directive opening : String} {size : Width} {tags : List String}
      (hname : IsName name) (hsize : sameName directive size.reserve = true)
      (hopening : sameName opening "[TAGS=" = true) (htags : ∀ tag ∈ tags, IsTag tag) :
      Declares (.param ⟨name, size, "0", tags⟩)
        [name, directive, "1", opening ++ ",".intercalate tags ++ "]"]
  | component {name directive : String} (hname : IsName name)
      (hdirective : sameName directive "ENT_COMPONENT" = true) :
      Declares (.component name) [directive, name]

/-! ### Letter case -/

theorem map_toUpper_of_sameName {a b : String} (h : sameName a b = true) :
    a.toList.map Char.toUpper = b.toList.map Char.toUpper := by
  have hupper : ∀ s : String, s.toList.map Char.toUpper = (foldCase s).toList.map Char.toUpper := by
    intro s
    rw [foldCase, String.toList_ofList, List.map_map]
    exact List.map_congr_left fun c _ => (Char.toUpper_toLower_eq_toUpper c).symm
  rw [hupper a, hupper b, sameName_iff.1 h]

theorem eq_of_toUpper_eq_bracket {c : Char} (h : c.toUpper = '[') : c = '[' := by
  by_cases hlower : c.isLower = true
  · have hupper : c.toUpper.isUpper = true := by
      rw [Char.isUpper_toUpper_eq_isAlpha, Char.isAlpha, hlower, Bool.or_true]
    rw [h] at hupper
    cases hupper
  · rwa [Char.toUpper_eq_of_not_isLower hlower] at h

theorem bracket_notMem_map_toUpper {cs : List Char} (h : '[' ∉ cs) :
    '[' ∉ cs.map Char.toUpper := by
  intro hmem
  obtain ⟨c, hc, hupper⟩ := List.mem_map.1 hmem
  exact h (eq_of_toUpper_eq_bracket hupper ▸ hc)

theorem bracket_notMem_of_sameName {a b : String} (h : sameName a b = true)
    (hb : '[' ∉ b.toList) : '[' ∉ a.toList := by
  intro hmem
  refine bracket_notMem_map_toUpper hb ?_
  rw [← map_toUpper_of_sameName h]
  exact List.mem_map.2 ⟨'[', hmem, rfl⟩

/-! ### Markers -/

/-- What starts with a bracket is no marker. -/
theorem not_marker_of_bracket {word : String} (h : '[' ∈ word.toList) :
    ∀ marker ∈ markers, sameName word marker = false := by
  have hmarkers : ∀ marker ∈ markers, '[' ∉ marker.toList := by decide
  intro marker hmarker
  rw [Bool.eq_false_iff]
  exact fun hsame => bracket_notMem_of_sameName hsame (hmarkers marker hmarker) h

theorem not_marker_of_sameName {a b : String} (h : sameName a b = true)
    (hb : ∀ marker ∈ markers, sameName b marker = false) :
    ∀ marker ∈ markers, sameName a marker = false := by
  intro marker hmarker
  rw [sameName_congr h, hb marker hmarker]

/-- The words of a declaration are no markers. -/
theorem Declares.not_marker {item : Item} {words : List String} (h : Declares item words) :
    ∀ word ∈ words, ∀ marker ∈ markers, sameName word marker = false := by
  have hsizes : ∀ size : Width, ∀ marker ∈ markers, sameName size.reserve marker = false := by
    intro size
    cases size <;> decide
  have hcount : ∀ marker ∈ markers, sameName "1" marker = false := by decide
  have hreference : ∀ marker ∈ markers, sameName "ENT_COMPONENT" marker = false := by decide
  cases h with
  | @untagged _ _ size hname hsize =>
      simp only [List.forall_mem_cons]
      exact ⟨hname.free, not_marker_of_sameName hsize (hsizes size), hcount, List.forall_mem_nil _⟩
  | @tagged _ _ opening size tags hname hsize hopening =>
      have hbracket : '[' ∈ (opening ++ ",".intercalate tags ++ "]").toList := by
        rw [String.toList_append, String.toList_append]
        refine List.mem_append_left _ (List.mem_append_left _ ?_)
        by_contra hno
        refine bracket_notMem_of_sameName ((sameName_comm _ _).trans hopening) hno ?_
        decide
      simp only [List.forall_mem_cons]
      exact ⟨hname.free, not_marker_of_sameName hsize (hsizes size), hcount,
        not_marker_of_bracket hbracket, List.forall_mem_nil _⟩
  | component hname hdirective =>
      simp only [List.forall_mem_cons]
      exact ⟨not_marker_of_sameName hdirective hreference, hname.free, List.forall_mem_nil _⟩

/-! ### Tag lists -/

theorem trimList_of_isWord {word : List Char} (h : IsWord word) : trimList word = word := by
  cases word with
  | nil => rfl
  | cons c cs =>
      have hstart : trimStartList (c :: cs) = c :: cs := by
        simpa using trimStartList_word (List.cons_ne_nil c cs) h []
      rw [trimList_eq, hstart, List.rdropWhile_eq_self_iff]
      intro hne
      simp [h _ (List.getLast_mem hne)]

/-- A tag list is cut into its tags. -/
theorem splitTags_intercalate {tags : List String} (h : ∀ tag ∈ tags, IsTag tag) :
    splitTags ([','].intercalate (tags.map String.toList)) = tags := by
  rcases eq_or_ne tags [] with rfl | hne
  · rfl
  · have hcommas : ∀ piece ∈ tags.map String.toList, ',' ∉ piece := by
      simpa using fun tag htag => (h tag htag).comma
    have htrim : (tags.map String.toList).map trimList = tags.map String.toList := by
      rw [List.map_map]
      exact List.map_congr_left fun tag htag => trimList_of_isWord (h tag htag).word
    rw [splitTags, splitAtChar_intercalate (by simpa using hne) hcommas, htrim,
      List.filterMap_map]
    calc tags.filterMap _ = tags.filterMap some :=
          List.filterMap_congr fun tag htag => by simp [(h tag htag).nonempty]
      _ = tags := List.filterMap_some

/-! ### Lines -/

variable {raw : String}

/-- No blank is a bracket, so where the words have none there is none. -/
theorem bracket_notMem_of_words {words : List String} {cs : List Char}
    (hcs : ∀ c ∈ cs, isBlank c = true ∨ ∃ word ∈ words.map String.toList, c ∈ word)
    (hwords : ∀ word ∈ words, '[' ∉ word.toList) : '[' ∉ cs := by
  intro hmem
  rcases hcs '[' hmem with hblank | ⟨_, hword, hmem⟩
  · revert hblank
    decide
  · obtain ⟨word, hfrom, rfl⟩ := List.mem_map.1 hword
    exact hwords word hfrom hmem

/-- A line without a bracket has no tags. -/
theorem tags_of_bracket_notMem {words : List String} {code comment : List Char}
    (hraw : ShowsAs words raw code comment) (hcode : '[' ∉ code) (number : Nat) :
    (Line.mk number raw).tags = .ok [] := by
  have hpattern : "[TAGS=".toList.map Char.toUpper = '[' :: "TAGS=".toList := by decide
  have hsearch := cutAt_of_notMem "TAGS=".toList (bracket_notMem_map_toUpper hcode)
  rw [Line.tags, hraw.text, before?, String.toList_ofList, hpattern, hsearch]
  rfl

/-- The tags of a line stand in its last word. -/
theorem tags_of_tagList (front : List String) {opening : String} {tags : List String}
    {code comment : List Char}
    (hraw : ShowsAs (front ++ [opening ++ ",".intercalate tags ++ "]"]) raw code comment)
    (hfront : ∀ word ∈ front, '[' ∉ word.toList) (hopening : sameName opening "[TAGS=" = true)
    (htags : ∀ tag ∈ tags, IsTag tag) (number : Nat) :
    (Line.mk number raw).tags = .ok tags := by
  have hpattern : "[TAGS=".toList.map Char.toUpper = '[' :: "TAGS=".toList := by decide
  have hspaced := hraw.spaced
  rw [List.map_append, List.map_singleton] at hspaced
  obtain ⟨before, after, hcode, hbefore⟩ := hspaced.exists_concat
  -- The search for the opening stops at the first bracket, and none stands ahead of it.
  have hnone : '[' ∉ before := bracket_notMem_of_words hbefore hfront
  have hupper : opening.toList.map Char.toUpper = '[' :: "TAGS=".toList :=
    (map_toUpper_of_sameName hopening).trans hpattern
  have hlength : opening.toList.length = 6 := by
    rw [← List.length_map Char.toUpper, hupper]
    rfl
  have hcode' : code = before ++ (opening.toList ++
      ([','].intercalate (tags.map String.toList) ++ ']' :: after)) := by
    rw [hcode]
    simp [String.toList_intercalate]
  have hsearch : before? "[TAGS=" (String.ofList code) = some before := by
    rw [before?, String.toList_ofList, hpattern, hcode', List.map_append, List.map_append, hupper,
      cutAt_append (bracket_notMem_map_toUpper hnone)]
    simp
  have hdrop : code.drop (before.length + 6) =
      [','].intercalate (tags.map String.toList) ++ ']' :: after := by
    rw [hcode', ← hlength, ← List.append_assoc, ← List.length_append, List.drop_left]
  have hclose : ']' ∉ [','].intercalate (tags.map String.toList) := by
    intro hmem
    rcases mem_of_mem_intercalate hmem with hcomma | ⟨tag, htag, hmem⟩
    · cases hcomma
    · exact (htags tag htag).bracket hmem
  rw [Line.tags, hraw.text, hsearch]
  simp only [String.toList_ofList, hdrop, cutAtChar_append hclose, splitTags_intercalate htags]

/-- A line that shows the words of a declaration declares its item. -/
theorem Declares.item?_eq {item : Item} {words : List String} (h : Declares item words)
    (hraw : Shows words raw) (number : Nat) : (Line.mk number raw).item? = .ok (some item) := by
  have hwords := hraw.words_eq number
  obtain ⟨code, comment, hraw⟩ := hraw
  have hfront : ∀ {name directive : String} {size : Width}, IsName name →
      sameName directive size.reserve = true →
      ∀ word ∈ [name, directive, "1"], '[' ∉ word.toList := by
    intro name directive size hname hsize
    have hreserve : '[' ∉ size.reserve.toList := by cases size <;> decide
    simp only [List.forall_mem_cons]
    exact ⟨hname.bracket, bracket_notMem_of_sameName hsize hreserve, by decide,
      List.forall_mem_nil _⟩
  cases h with
  | @untagged name directive size hname hsize =>
      have hcode : '[' ∉ code := bracket_notMem_of_words hraw.spaced.mem (hfront hname hsize)
      simp only [Line.item?, hwords, hname.reference, tags_of_bracket_notMem hraw hcode]
      simp [Width.ofReserve?_of_sameName hsize, Except.map]
  | @tagged name directive opening size tags hname hsize hopening htags =>
      have htagList := tags_of_tagList [name, directive, "1"] hraw (hfront hname hsize) hopening
        htags
      simp only [Line.item?, hwords, hname.reference, htagList]
      simp [Width.ofReserve?_of_sameName hsize, Except.map]
  | component hname hdirective =>
      simp [Line.item?, hwords, hdirective]

end Source
end Cartridge
