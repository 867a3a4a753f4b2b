import Cartridge.Proofs.Source.Cut
import Cartridge.Proofs.Source.Declaration

/-!
Annotated source read back. Whatever letter case its markers and directives have,
and whatever blanks, comments and macro definitions stand around its lines, the text
of a list of blocks is parsed as these blocks: `parse_rendering`.
-/

namespace Cartridge.Source

open Cartridge.Text

/-! ### Texts of blocks -/

/-- Lines that say nothing: blank ones, comments and whole macro definitions, in whose
bodies anything may stand. -/
inductive Idle : List String → Prop
  | done : Idle []
  | blank {raw : String} {rest : List String} (hraw : Shows [] raw) (hrest : Idle rest) :
      Idle (raw :: rest)
  | defined {head last : String} {body rest : List String} (hhead : HasWord "macro" head)
      (hbody : ∀ raw ∈ body, ¬HasWord "endm" raw) (hlast : HasWord "endm" last)
      (hrest : Idle rest) : Idle (head :: (body ++ last :: rest))

/-- Lines that declare the items, one line each, with idle lines between them. -/
inductive Body : List Item → List String → Prop
  | done {gap : List String} (hgap : Idle gap) : Body [] gap
  | item {item : Item} {items : List Item} {words gap rest : List String} {raw : String}
      (hgap : Idle gap) (hitem : Declares item words) (hraw : Shows words raw)
      (hrest : Body items rest) : Body (item :: items) (gap ++ raw :: rest)

/-- Lines, numbered from `number`, of the blocks: each has a begin line, its body and
an end line, with idle lines between the blocks. -/
inductive Renders : Nat → List Block → List String → Prop
  | done {number : Nat} {gap : List String} (hgap : Idle gap) : Renders number [] gap
  | block {number : Nat} {kind : BlockKind} {name opening closing first last : String}
      {items : List Item} {blocks : List Block} {gap body rest : List String}
      (hgap : Idle gap) (hopening : sameName opening kind.beginMarker = true)
      (hname : IsName name) (hfirst : Shows [opening, name] first) (hbody : Body items body)
      (hclosing : sameName closing kind.endMarker = true) (hlast : Shows [closing] last)
      (hrest : Renders (number + gap.length + body.length + 2) blocks rest) :
      Renders number (⟨kind, name, number + gap.length, items⟩ :: blocks)
        (gap ++ first :: (body ++ last :: rest))

/-! ### The code of lines -/

/-- Lines that start and end outside of macro definitions, and the code among them. -/
structure HasCode (lines code : List Line) : Prop where
  codeFrom_eq : codeFrom false lines = code
  outside : endsInMacro false lines = false

theorem HasCode.append {a b codeA codeB : List Line} (ha : HasCode a codeA)
    (hb : HasCode b codeB) : HasCode (a ++ b) (codeA ++ codeB) := by
  have houtside := ha.outside
  rw [endsInMacro] at houtside
  constructor
  · rw [codeFrom_append, ha.codeFrom_eq, ha.outside, hb.codeFrom_eq]
  · rw [endsInMacro, List.foldl_append, houtside]
    exact hb.outside

theorem hasCode_line {l : Line} (hl : isCode false l = true) : HasCode [l] [l] := by
  constructor
  · rw [codeFrom, if_pos hl, codeFrom]
  · rw [endsInMacro, List.foldl_cons, macroAfter_of_isCode hl, List.foldl_nil]

theorem hasCode_blank {l : Line} (hl : l.words = []) : HasCode [l] [] := by
  constructor
  · simp [codeFrom, isCode, hl]
  · simp [endsInMacro, macroAfter, mentions_of_words hl]

/-- A macro definition is passed over up to its end. -/
theorem hasCode_definition {head last : Line} {body : List Line}
    (hhead : head.mentions "macro" = true) (hbody : ∀ l ∈ body, l.mentions "endm" = false)
    (hlast : last.mentions "endm" = true) : HasCode (head :: (body ++ [last])) [] := by
  have hinside : codeFrom true (body ++ [last]) = [] ∧
      endsInMacro true (body ++ [last]) = false := by
    induction body with
    | nil => simp [codeFrom, endsInMacro, isCode, macroAfter, hlast]
    | cons l body ih =>
        rw [List.forall_mem_cons] at hbody
        have hafter : macroAfter true l = true := by simp [macroAfter, hbody.1]
        rw [List.cons_append, codeFrom, if_neg (by simp [isCode]), endsInMacro, List.foldl_cons,
          hafter]
        exact ih hbody.2
  have hafter : macroAfter false head = true := by simp [macroAfter, hhead]
  constructor
  · rw [codeFrom, if_neg (by simp [isCode, hhead]), hafter]
    exact hinside.1
  · rw [endsInMacro, List.foldl_cons, hafter]
    exact hinside.2

/-! ### Numbered lines -/

theorem numberLines_append (number : Nat) (a b : List String) :
    numberLines number (a ++ b) =
      numberLines number a ++ numberLines (number + a.length) b := by
  induction a generalizing number with
  | nil => rfl
  | cons raw rest ih =>
      rw [List.cons_append, numberLines, numberLines, ih, List.length_cons, List.cons_append,
        Nat.add_assoc, Nat.add_comm 1]

theorem numberLines_append_cons (number : Nat) (a : List String) (raw : String)
    (b : List String) : numberLines number (a ++ raw :: b) =
      numberLines number a ++ ([⟨number + a.length, raw⟩] ++
        numberLines (number + a.length + 1) b) := by
  rw [numberLines_append, numberLines, List.singleton_append]

theorem exists_of_mem_numberLines {number : Nat} {lines : List String} {l : Line}
    (h : l ∈ numberLines number lines) : ∃ n, ∃ raw ∈ lines, l = ⟨n, raw⟩ := by
  induction lines generalizing number with
  | nil => cases h
  | cons raw rest ih =>
      rcases List.mem_cons.1 h with rfl | h
      · exact ⟨number, raw, List.mem_cons_self, rfl⟩
      · obtain ⟨n, raw', hraw, hl⟩ := ih h
        exact ⟨n, raw', List.mem_cons_of_mem _ hraw, hl⟩

/-- Idle lines hold no code. -/
theorem Idle.hasCode {gap : List String} (h : Idle gap) (number : Nat) :
    HasCode (numberLines number gap) [] := by
  induction h generalizing number with
  | done => exact ⟨rfl, rfl⟩
  | blank hraw _ ih => exact (hasCode_blank (hraw.words_eq number)).append (ih (number + 1))
  | @defined head last body rest hhead hbody hlast _ ih =>
      have hlines : ∀ l ∈ numberLines (number + 1) body, l.mentions "endm" = false := by
        intro l hl
        obtain ⟨n, raw, hraw, rfl⟩ := exists_of_mem_numberLines hl
        exact Bool.eq_false_iff.2 (mt mentions_iff.1 (hbody raw hraw))
      have hdefinition : HasCode (⟨number, head⟩ :: (numberLines (number + 1) body ++
          [⟨number + 1 + body.length, last⟩])) [] :=
        hasCode_definition (mentions_iff.2 hhead) hlines (mentions_iff.2 hlast)
      have hall := hdefinition.append (ih (number + 1 + body.length + 1))
      rw [numberLines, numberLines_append_cons]
      simpa using hall

/-- The line shows words of which none begins a macro definition. -/
theorem Shows.isCode {words : List String} {raw : String} (h : Shows words raw)
    (hne : words ≠ []) (hfree : ∀ word ∈ words, sameName word "macro" = false)
    (number : Nat) : isCode false ⟨number, raw⟩ = true := by
  have hnone : (Line.mk number raw).mentions "macro" = false := by
    rw [h.mentions, List.any_eq_false]
    exact fun word hword => by simp [hfree word hword]
  exact isCode_iff.2 ⟨rfl, hnone, by simp [h.words_eq number, hne]⟩

/-! ### Markers -/

theorem beginMarker_mem_markers (kind : BlockKind) : kind.beginMarker ∈ markers :=
  List.mem_cons_of_mem _ (List.mem_append_left _ (List.mem_map_of_mem (mem_all kind)))

theorem endMarker_mem_markers (kind : BlockKind) : kind.endMarker ∈ markers :=
  List.mem_cons_of_mem _ (List.mem_append_right _ (List.mem_map_of_mem (mem_all kind)))

/-- The kinds of blocks have different begin markers. -/
theorem sameName_beginMarker (kind other : BlockKind) :
    sameName kind.beginMarker other.beginMarker = decide (kind = other) := by
  cases kind <;> cases other <;> decide

theorem marker_ne_macroHead (kind : BlockKind) : sameName kind.beginMarker "macro" = false ∧
    sameName kind.endMarker "macro" = false := by
  cases kind <;> decide

/-- A line of a begin marker and a name begins a block of this kind and name. -/
theorem begins?_of_words {l : Line} {kind : BlockKind} {opening name : String}
    (hwords : l.words = [opening, name]) (hopening : sameName opening kind.beginMarker = true)
    (hname : IsName name) : l.begins? = some (kind, some name) := by
  have hafter : ∀ other : BlockKind, wordAfter? other.beginMarker [opening, name] =
      if kind = other then some (some name) else none := by
    intro other
    simp [wordAfter?, sameName_congr hopening, sameName_beginMarker,
      hname.free _ (beginMarker_mem_markers other)]
  simp only [Line.begins?, hwords, hafter]
  cases kind <;> simp [BlockKind.all]

/-! ### Parsing -/

/-- What the parser makes of a body, and that the block stays open on it. -/
theorem Body.exists_code {items : List Item} {body : List String} (h : Body items body)
    (number : Nat) : ∃ code, HasCode (numberLines number body) code ∧ itemsOf code = .ok items ∧
      ∀ l ∈ code, ∀ kind : BlockKind, l.mentions kind.endMarker = false := by
  induction h generalizing number with
  | done hgap => exact ⟨[], hgap.hasCode number, rfl, List.forall_mem_nil _⟩
  | @item item items words gap rest raw hgap hitem hraw _ ih =>
      obtain ⟨code, hcode, hitems, hends⟩ := ih (number + gap.length + 1)
      have hmarker := hitem.not_marker
      have hne : words ≠ [] := by
        rintro rfl
        cases hitem
      have hline : isCode false ⟨number + gap.length, raw⟩ = true :=
        hraw.isCode hne (fun word hword => hmarker word hword _ List.mem_cons_self) _
      refine ⟨⟨number + gap.length, raw⟩ :: code, ?_, ?_, ?_⟩
      · rw [numberLines_append_cons]
        simpa using (hgap.hasCode number).append ((hasCode_line hline).append hcode)
      · rw [itemsOf, hitem.item?_eq hraw, hitems]
        rfl
      · rw [List.forall_mem_cons]
        refine ⟨fun kind => ?_, hends⟩
        rw [hraw.mentions, List.any_eq_false]
        intro word hword
        simp [hmarker word hword _ (endMarker_mem_markers kind)]

theorem HasCode.codeFrom_append {front code : List Line} (h : HasCode front code)
    (rest : List Line) : codeFrom false (front ++ rest) = code ++ codeFrom false rest := by
  rw [Source.codeFrom_append, h.codeFrom_eq, h.outside]

/-- The lines of one block, from its begin line to its end line, hold the code of a closed
block that is parsed as this one. -/
theorem Body.exists_span {kind : BlockKind} {name opening closing first last : String}
    {items : List Item} {body : List String} (hbody : Body items body)
    (hopening : sameName opening kind.beginMarker = true) (hname : IsName name)
    (hfirst : Shows [opening, name] first) (hclosing : sameName closing kind.endMarker = true)
    (hlast : Shows [closing] last) (number : Nat) :
    ∃ s : Span, s.Closed ∧ s.block.parse = .ok ⟨kind, name, number, items⟩ ∧
      HasCode (numberLines number (first :: (body ++ [last]))) s.lines := by
  obtain ⟨code, hcode, hitems, hopen⟩ := hbody.exists_code (number + 1)
  have hfirstCode : isCode false ⟨number, first⟩ = true := by
    refine hfirst.isCode (by simp) ?_ _
    simp only [List.forall_mem_cons]
    exact ⟨(sameName_congr hopening _).trans (marker_ne_macroHead kind).1,
      hname.free _ List.mem_cons_self, List.forall_mem_nil _⟩
  have hlastCode : isCode false ⟨number + 1 + body.length, last⟩ = true := by
    refine hlast.isCode (by simp) ?_ _
    simp only [List.forall_mem_cons]
    exact ⟨(sameName_congr hclosing _).trans (marker_ne_macroHead kind).2, List.forall_mem_nil _⟩
  refine ⟨⟨kind, name, ⟨number, first⟩, code, ⟨number + 1 + body.length, last⟩⟩, ⟨?_, ?_, ?_⟩,
    ?_, ?_⟩
  · exact begins?_of_words (hfirst.words_eq _) hopening hname
  · exact fun l hl => hopen l hl kind
  · rw [hlast.mentions]
    simpa using hclosing
  · simp [Span.block, TextBlock.parse, hitems]
  · rw [numberLines, numberLines_append]
    exact (hasCode_line hfirstCode).append (hcode.append (hasCode_line hlastCode))

/-- The code of rendered blocks can be cut into blocks that are parsed as these. -/
theorem Renders.exists_cut {number : Nat} {blocks : List Block} {lines : List String}
    (h : Renders number blocks lines) :
    ∃ spans, Cut (codeFrom false (numberLines number lines)) spans ∧
      (spans.map Span.block).mapM TextBlock.parse = .ok blocks := by
  induction h with
  | done hgap =>
      rw [(hgap.hasCode _).codeFrom_eq]
      exact ⟨[], .done, rfl⟩
  | @block number kind name opening closing first last items blocks gap body rest hgap hopening
      hname hfirst hbody hclosing hlast _ ih =>
      obtain ⟨spans, hcut, hblocks⟩ := ih
      obtain ⟨s, hclosed, hparse, hcode⟩ :=
        hbody.exists_span hopening hname hfirst hclosing hlast (number + gap.length)
      -- The gap holds no code, so the first block of the cut is this one.
      have hfront : HasCode (numberLines number (gap ++ first :: (body ++ [last]))) s.lines := by
        rw [numberLines_append]
        exact (hgap.hasCode number).append hcode
      have hlines : gap ++ first :: (body ++ last :: rest) =
          (gap ++ first :: (body ++ [last])) ++ rest := by simp
      have hnumber : number + (gap ++ first :: (body ++ [last])).length =
          number + gap.length + body.length + 2 := by
        simp only [List.length_append, List.length_cons, List.length_nil]
        omega
      refine ⟨s :: spans, ?_, ?_⟩
      · rw [hlines, numberLines_append, hfront.codeFrom_append, hnumber]
        exact .block hclosed hcut
      · rw [List.map_cons, List.mapM_cons, hparse, hblocks]
        rfl

/-- Parsing undoes rendering: a text of blocks is parsed as these blocks, in order,
each with the line of its begin marker. -/
theorem parse_rendering {source : String} {lines : List String} {blocks : List Block}
    (htext : IsLines (lines.map String.toList) source.toList) (h : Renders 1 blocks lines) :
    parse source = .ok blocks := by
  obtain ⟨spans, hcut, hblocks⟩ := h.exists_cut
  have hlines : Text.lines source = lines := by
    rw [Text.lines, htext.linesList_eq, List.map_map]
    simp
  have hscan : scan source = .ok (spans.map Span.block) := by
    refine scan_eq_ok_iff.2 ⟨spans, ?_, rfl⟩
    rw [code, hlines]
    exact hcut
  rw [parse, hscan]
  exact hblocks

/-- The text of one entity, behind a macro definition that ends another. -/
theorem player_parsed :
    parse ("; Player\nBegin macro name\n ENTITY_END\n endm\n" ++
        "Entity_Begin  EPlayer ; first\n\tSpeed Rs.W 1 [Tags=X,Y]\r\n" ++
        "\nent_component ECSprite\nENTITY_END") =
      .ok [⟨.entity, "EPlayer", 5,
        [.param ⟨"Speed", .word, "0", ["X", "Y"]⟩, .component "ECSprite"]⟩] := by
  have hshows : ∀ {raw : String} {words : List String}, (Line.mk 0 raw).words = words →
      Shows words raw := shows_iff.2
  have hgap : Idle ["; Player", "Begin macro name", " ENTITY_END", " endm"] := by
    refine .blank (hshows (by decide)) (@Idle.defined _ _ [" ENTITY_END"] [] ?_ ?_ ?_ .done)
    · exact ⟨_, hshows rfl, "macro", by decide, by decide⟩
    · intro raw hraw hend
      rw [List.mem_singleton.1 hraw, ← @mentions_iff _ 0] at hend
      revert hend
      decide
    · exact ⟨_, hshows rfl, "endm", by decide, by decide⟩
  have hspeed : Declares (.param ⟨"Speed", .word, "0", ["X", "Y"]⟩)
      ["Speed", "Rs.W", "1", "[Tags=" ++ ",".intercalate ["X", "Y"] ++ "]"] :=
    .tagged (by decide) (by decide) (by decide) (by decide)
  have hsprite : Declares (.component "ECSprite") ["ent_component", "ECSprite"] :=
    .component (by decide) (by decide)
  have hbody : Body [.param ⟨"Speed", .word, "0", ["X", "Y"]⟩, .component "ECSprite"]
      ["\tSpeed Rs.W 1 [Tags=X,Y]", "", "ent_component ECSprite"] :=
    .item .done hspeed (hshows (by decide))
      (@Body.item _ _ _ [""] _ _ (.blank (hshows (by decide)) .done) hsprite (hshows (by decide))
        (.done .done))
  have hrenders : Renders 1 [⟨.entity, "EPlayer", 5,
      [.param ⟨"Speed", .word, "0", ["X", "Y"]⟩, .component "ECSprite"]⟩]
      (["; Player", "Begin macro name", " ENTITY_END", " endm"] ++
        "Entity_Begin  EPlayer ; first" ::
          (["\tSpeed Rs.W 1 [Tags=X,Y]", "", "ent_component ECSprite"] ++ ["ENTITY_END"])) :=
    @Renders.block 1 .entity "EPlayer" "Entity_Begin" "ENTITY_END" _ _ _ [] _ _ [] hgap (by decide)
      (by decide) (hshows (by decide)) hbody (by decide) (hshows (by decide)) (.done .done)
  have hsource : ("; Player\nBegin macro name\n ENTITY_END\n endm\n" ++
      "Entity_Begin  EPlayer ; first\n\tSpeed Rs.W 1 [Tags=X,Y]\r\n" ++
      "\nent_component ECSprite\nENTITY_END").toList =
      "; Player".toList ++ '\n' :: ("Begin macro name".toList ++ '\n' ::
        (" ENTITY_END".toList ++ '\n' :: (" endm".toList ++ '\n' ::
          ("Entity_Begin  EPlayer ; first".toList ++ '\n' ::
            ("\tSpeed Rs.W 1 [Tags=X,Y]".toList ++ '\r' :: '\n' :: ("".toList ++ '\n' ::
              ("ent_component ECSprite".toList ++ '\n' :: "ENTITY_END".toList))))))) := by
    simp
  refine parse_rendering ?_ hrenders
  rw [hsource]
  exact .lineFeed (by decide) (by decide) (.lineFeed (by decide) (by decide)
    (.lineFeed (by decide) (by decide) (.lineFeed (by decide) (by decide)
      (.lineFeed (by decide) (by decide) (.carriageReturn (by decide)
        (.lineFeed (by decide) (by decide) (.lineFeed (by decide) (by decide)
          (.last (by decide) (by decide)))))))))

end Cartridge.Source
