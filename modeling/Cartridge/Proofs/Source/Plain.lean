import Cartridge.Proofs.Source.ReadBack

/-!
The plain text of blocks: one line for each marker and each item, one blank between
two words, and nothing else. It renders the blocks, so every list of blocks with
proper names and tags has a text.
-/

namespace Cartridge.Source

open Cartridge.Text

/-! ### Plain lines -/

/-- A piece of a line that the scanner keeps whole. -/
@[mk_iff] structure IsToken (token : String) : Prop where
  nonempty : token ≠ ""
  word : IsWord token.toList
  comment : ';' ∉ token.toList

instance : DecidablePred IsToken := fun token => decidable_of_iff' _ (isToken_iff token)

def plainLine (words : List String) : String :=
  " ".intercalate words

theorem toList_plainLine (words : List String) :
    (plainLine words).toList = [' '].intercalate (words.map String.toList) := by
  rw [plainLine, String.toList_intercalate]
  rfl

theorem spaced_intercalate {words : List (List Char)}
    (h : ∀ word ∈ words, word ≠ [] ∧ IsWord word) : Spaced words ([' '].intercalate words) := by
  have hnone : IsBlanks [] := List.forall_mem_nil _
  induction words with
  | nil => exact .blanks hnone
  | cons word others ih =>
      rw [List.forall_mem_cons] at h
      obtain ⟨⟨hne, hword⟩, hothers⟩ := h
      cases others with
      | nil => simpa using Spaced.word hnone hne hword (by simp) (.blanks hnone)
      | cons next others =>
          have hblank : isBlank ' ' = true := by decide
          rw [List.intercalate_cons_cons, List.append_assoc]
          exact .word hnone hne hword (by simp [hblank]) ((ih hothers).cons_blank hblank)

theorem shows_plainLine {words : List String} (h : ∀ word ∈ words, IsToken word) :
    Shows words (plainLine words) := by
  refine ⟨(plainLine words).toList, [], (List.append_nil _).symm, ?_, ?_, by simp⟩
  · rw [toList_plainLine]
    refine spaced_intercalate ?_
    rw [List.forall_mem_map]
    exact fun word hword => ⟨by simpa using (h word hword).nonempty, (h word hword).word⟩
  · rw [toList_plainLine]
    intro hmem
    rcases mem_of_mem_intercalate hmem with hblank | ⟨word, hword, hmem⟩
    · cases hblank
    · exact (h word hword).comment hmem

/-- A plain line has no line end in it. -/
theorem notMem_plainLine {words : List String} (h : ∀ word ∈ words, IsToken word) {c : Char}
    (hblank : isBlank c = true) (hc : c ≠ ' ') : c ∉ (plainLine words).toList := by
  rw [toList_plainLine]
  intro hmem
  rcases mem_of_mem_intercalate hmem with hsame | ⟨word, hword, hmem⟩
  · exact hc hsame
  · have hnot := (h word hword).word c hmem
    rw [hblank] at hnot
    cases hnot

/-! ### Plain blocks -/

theorem IsName.isToken {name : String} (h : IsName name) : IsToken name :=
  ⟨h.nonempty, h.word, h.comment⟩

/-- The words of the line of an item. -/
def Item.words : Item → List String
  | .param p => [p.name, p.size.reserve, "1", "[TAGS=" ++ ",".intercalate p.tags ++ "]"]
  | .component name => ["ENT_COMPONENT", name]

/-- The names and tags of an item can be written down, and its value is the default. -/
def Item.Valid : Item → Prop
  | .param p => IsName p.name ∧ p.value = "0" ∧ ∀ tag ∈ p.tags, IsTag tag
  | .component name => IsName name

structure Block.Valid (b : Block) : Prop where
  name : IsName b.name
  items : ∀ item ∈ b.items, item.Valid

theorem Item.Valid.declares {item : Item} (h : item.Valid) : Declares item item.words := by
  cases item with
  | param p =>
      obtain ⟨name, size, value, tags⟩ := p
      obtain ⟨hname, hvalue, htags⟩ := h
      cases hvalue
      exact .tagged hname (sameName_refl _) (sameName_refl _) htags
  | component name => exact .component h (sameName_refl _)

theorem isToken_tagList {tags : List String} (h : ∀ tag ∈ tags, IsTag tag) :
    IsToken ("[TAGS=" ++ ",".intercalate tags ++ "]") := by
  have hinner : ∀ c ∈ (",".intercalate tags).toList, c = ',' ∨ ∃ tag ∈ tags, c ∈ tag.toList := by
    intro c hc
    rw [String.toList_intercalate] at hc
    exact mem_of_mem_intercalate hc
  have hword : IsWord (",".intercalate tags).toList := by
    intro c hc
    rcases hinner c hc with rfl | ⟨tag, htag, hc⟩
    · decide
    · exact (h tag htag).word c hc
  have hcomment : ';' ∉ (",".intercalate tags).toList := by
    intro hmem
    rcases hinner ';' hmem with heq | ⟨tag, htag, hmem⟩
    · cases heq
    · exact (h tag htag).comment hmem
  constructor
  · intro hempty
    have hlength := congrArg String.length hempty
    simp at hlength
  · rw [String.toList_append, String.toList_append, isWord_append, isWord_append]
    exact ⟨⟨by decide, hword⟩, by decide⟩
  · rw [String.toList_append, String.toList_append, List.mem_append, List.mem_append]
    rintro ((hmem | hmem) | hmem)
    · revert hmem
      decide
    · exact hcomment hmem
    · revert hmem
      decide

theorem Item.Valid.isToken {item : Item} (h : item.Valid) : ∀ word ∈ item.words, IsToken word := by
  cases item with
  | param p =>
      obtain ⟨hname, -, htags⟩ := h
      have hsize : IsToken p.size.reserve := by
        cases p.size <;> decide
      have hcount : IsToken "1" := by decide
      simp only [Item.words, List.forall_mem_cons]
      exact ⟨hname.isToken, hsize, hcount, isToken_tagList htags, List.forall_mem_nil _⟩
  | component name =>
      have hreference : IsToken "ENT_COMPONENT" := by decide
      simp only [Item.words, List.forall_mem_cons]
      exact ⟨hreference, IsName.isToken h, List.forall_mem_nil _⟩

theorem isToken_marker : ∀ marker ∈ markers, IsToken marker := by
  decide

/-- The words of the lines of a block. -/
def Block.words (b : Block) : List (List String) :=
  [b.kind.beginMarker, b.name] :: (b.items.map Item.words ++ [[b.kind.endMarker]])

theorem Block.Valid.isToken {b : Block} (h : b.Valid) :
    ∀ words ∈ b.words, ∀ word ∈ words, IsToken word := by
  have hbegin := isToken_marker _ (beginMarker_mem_markers b.kind)
  have hend := isToken_marker _ (endMarker_mem_markers b.kind)
  simp only [Block.words, List.forall_mem_cons, List.forall_mem_append, List.forall_mem_map]
  exact ⟨⟨hbegin, h.name.isToken, List.forall_mem_nil _⟩,
    fun item hitem => (h.items item hitem).isToken, ⟨hend, List.forall_mem_nil _⟩,
    List.forall_mem_nil _⟩

/-! ### Plain texts -/

/-- The blocks with the lines of their begin markers in their plain text. -/
def numbered (number : Nat) : List Block → List Block
  | [] => []
  | b :: rest => { b with line := number } :: numbered (number + b.items.length + 2) rest

/-- The lines of the plain text of blocks. -/
def plainLines (blocks : List Block) : List String :=
  (blocks.flatMap Block.words).map plainLine

theorem body_plainLines {items : List Item} (h : ∀ item ∈ items, item.Valid) :
    Body items (items.map fun item => plainLine item.words) := by
  induction items with
  | nil => exact .done .done
  | cons item items ih =>
      rw [List.forall_mem_cons] at h
      exact .item .done h.1.declares (shows_plainLine h.1.isToken) (ih h.2)

theorem renders_plainLines {blocks : List Block} (h : ∀ b ∈ blocks, b.Valid) (number : Nat) :
    Renders number (numbered number blocks) (plainLines blocks) := by
  induction blocks generalizing number with
  | nil => exact .done .done
  | cons b rest ih =>
      rw [List.forall_mem_cons] at h
      have hshows : ∀ words ∈ b.words, Shows words (plainLine words) :=
        fun words hwords => shows_plainLine (h.1.isToken words hwords)
      simp only [Block.words, List.forall_mem_cons, List.forall_mem_append] at hshows
      obtain ⟨hfirst, -, hlast, -⟩ := hshows
      have hbody := body_plainLines h.1.items
      have hrest := ih h.2 (number + b.items.length + 2)
      have hlines : plainLines (b :: rest) = [] ++ plainLine [b.kind.beginMarker, b.name] ::
          ((b.items.map fun item => plainLine item.words) ++
            plainLine [b.kind.endMarker] :: plainLines rest) := by
        simp [plainLines, Block.words]
      rw [hlines, numbered]
      exact .block .done (sameName_refl _) h.1.name hfirst hbody (sameName_refl _) hlast
        (by simpa using hrest)

theorem isLines_flatMap {lines : List (List Char)}
    (h : ∀ line ∈ lines, '\n' ∉ line ∧ '\r' ∉ line) :
    IsLines lines (lines.flatMap (· ++ ['\n'])) := by
  induction lines with
  | nil => exact .done
  | cons line others ih =>
      rw [List.forall_mem_cons] at h
      rw [List.flatMap_cons, List.append_assoc]
      exact .lineFeed h.1.1 (fun hlast => h.1.2 (List.mem_of_getLast? hlast)) (ih h.2)

/-- Every list of blocks with proper names and tags has a text that renders it. -/
theorem exists_rendering {blocks : List Block} (h : ∀ b ∈ blocks, b.Valid) :
    ∃ (source : String) (lines : List String), IsLines (lines.map String.toList) source.toList ∧
      Renders 1 (numbered 1 blocks) lines := by
  have hends : ∀ line ∈ (plainLines blocks).map String.toList, '\n' ∉ line ∧ '\r' ∉ line := by
    rw [List.forall_mem_map]
    intro line hline
    obtain ⟨words, hwords, rfl⟩ := List.mem_map.1 hline
    obtain ⟨b, hb, hwords⟩ := List.mem_flatMap.1 hwords
    have htokens := (h b hb).isToken words hwords
    exact ⟨notMem_plainLine htokens (by decide) (by decide),
      notMem_plainLine htokens (by decide) (by decide)⟩
  refine ⟨String.ofList (((plainLines blocks).map String.toList).flatMap (· ++ ['\n'])),
    plainLines blocks, ?_, renders_plainLines h 1⟩
  rw [String.toList_ofList]
  exact isLines_flatMap hends

end Cartridge.Source
