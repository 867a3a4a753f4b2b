import Cartridge.Proofs.Source.Code
import Mathlib.Data.List.Nodup
import Mathlib.Data.List.Range

/-!
Scanning as a cut of the code. A source is accepted exactly if its code can be cut
into closed blocks with lines between them that begin none. So no begin marker is
lost between the blocks of a source; but one that stands inside a block is text of
this block, and what it was meant to begin becomes part of a block that has not
been closed: `scan_accounts_for_blocks`.
-/

namespace Cartridge.Source

open Cartridge.Text

/-- A block in the code: the line that begins it, those in it, and the line that
ends it. -/
structure Span where
  kind : BlockKind
  name : String
  first : Line
  body : List Line
  last : Line

namespace Span

/-- The lines behind the first. -/
def inner (s : Span) : List Line :=
  s.body ++ [s.last]

def lines (s : Span) : List Line :=
  s.first :: s.inner

def block (s : Span) : TextBlock :=
  ⟨s.kind, s.name, s.first.number, s.body⟩

/-- The block ends at the first end marker of its kind. -/
structure Closed (s : Span) : Prop where
  begins : s.first.begins? = some (s.kind, some s.name)
  body : ∀ l ∈ s.body, l.mentions s.kind.endMarker = false
  ends : s.last.mentions s.kind.endMarker = true

end Span

/-- The code consists of the blocks and of lines between them that begin none. -/
inductive Cut : List Line → List Span → Prop
  | done : Cut [] []
  | between {l : Line} {rest : List Line} {spans : List Span} (hl : l.begins? = none)
      (hrest : Cut rest spans) : Cut (l :: rest) spans
  | block {s : Span} {rest : List Line} {spans : List Span} (hs : s.Closed)
      (hrest : Cut rest spans) : Cut (s.lines ++ rest) (s :: spans)

/-! ### One block -/

section

variable (block : TextBlock) {body rest : List Line}

/-- A block stays open up to an end marker of its kind. -/
theorem blocksFrom_body (hcode : ∀ l ∈ body, isCode false l = true)
    (hbody : ∀ l ∈ body, l.mentions block.kind.endMarker = false) :
    blocksFrom false (some block) (body ++ rest) =
      blocksFrom false (some { block with lines := block.lines ++ body }) rest := by
  induction body generalizing block with
  | nil => simp
  | cons l body ih =>
      rw [List.forall_mem_cons] at hcode hbody
      rw [List.cons_append, blocksFrom_some hcode.1, if_neg (by simp [hbody.1]),
        ih { block with lines := block.lines ++ [l] } hcode.2 hbody.2, List.append_assoc,
        List.singleton_append]

/-- A block without an end marker is an error, whatever else follows it. -/
theorem blocksFrom_unclosed (hcode : ∀ l ∈ body, isCode false l = true)
    (hbody : ∀ l ∈ body, l.mentions block.kind.endMarker = false) :
    blocksFrom false (some block) body =
      .error ⟨block.line, 1, .unclosedBlock block.kind block.name⟩ := by
  have hopen : blocksFrom false (some block) (body ++ []) = _ := blocksFrom_body block hcode hbody
  rw [List.append_nil] at hopen
  rw [hopen]
  rfl

theorem blocksFrom_first {l : Line} {kind : BlockKind} {name : String}
    (hl : isCode false l = true) (hbegins : l.begins? = some (kind, some name)) :
    blocksFrom false none (l :: rest) =
      blocksFrom false (some ⟨kind, name, l.number, []⟩) rest := by
  rw [blocksFrom_none hl, hbegins]

theorem blocksFrom_span {s : Span} (hs : s.Closed)
    (hcode : ∀ l ∈ s.lines, isCode false l = true) :
    blocksFrom false none (s.lines ++ rest) = (blocksFrom false none rest).map (s.block :: ·) := by
  simp only [Span.lines, Span.inner, List.forall_mem_cons, List.forall_mem_append] at hcode
  obtain ⟨hfirst, hbody, hlast, -⟩ := hcode
  rw [Span.lines, Span.inner, List.cons_append, List.append_assoc, List.singleton_append,
    blocksFrom_first hfirst hs.begins,
    blocksFrom_body ⟨s.kind, s.name, s.first.number, []⟩ hbody hs.body,
    blocksFrom_some hlast, if_pos hs.ends, List.nil_append, Span.block]

end

/-- An open block is ended by a line of the code. -/
theorem exists_end_of_blocksFrom {block : TextBlock} {rest : List Line} {blocks : List TextBlock}
    (hcode : ∀ l ∈ rest, isCode false l = true)
    (h : blocksFrom false (some block) rest = .ok blocks) :
    ∃ l ∈ rest, l.mentions block.kind.endMarker = true := by
  by_contra hnone
  push Not at hnone
  rw [blocksFrom_unclosed block hcode (by simpa using hnone)] at h
  cases h

/-- A line that begins a block which is ended is the first of a closed block. -/
theorem exists_span {first : Line} {kind : BlockKind} {name : String} {rest : List Line}
    (hbegins : first.begins? = some (kind, some name))
    (hend : ∃ l ∈ rest, l.mentions kind.endMarker = true) :
    ∃ s : Span, s.Closed ∧ ∃ tail, first :: rest = s.lines ++ tail := by
  obtain ⟨last, hfind⟩ := Option.isSome_iff_exists.1 (List.find?_isSome.2 hend)
  obtain ⟨hlast, body, tail, rfl, hbody⟩ := List.find?_eq_some_iff_append.1 hfind
  refine ⟨⟨kind, name, first, body, last⟩, ⟨hbegins, by simpa using hbody, hlast⟩, tail, ?_⟩
  simp [Span.lines, Span.inner]

/-! ### All blocks -/

/-- What is cut off the front of the code comes out as blocks. -/
theorem Cut.blocksFrom_append {front : List Line} {spans : List Span} (h : Cut front spans)
    (hcode : ∀ l ∈ front, isCode false l = true) (rest : List Line) :
    blocksFrom false none (front ++ rest) =
      (blocksFrom false none rest).map (spans.map Span.block ++ ·) := by
  induction h with
  | done =>
      rw [List.nil_append]
      cases blocksFrom false none rest <;> rfl
  | between hl _ ih =>
      rw [List.forall_mem_cons] at hcode
      rw [List.cons_append, blocksFrom_none hcode.1, hl, ih hcode.2]
  | block hs _ ih =>
      rw [List.forall_mem_append] at hcode
      rw [List.append_assoc, blocksFrom_span hs hcode.1, ih hcode.2]
      cases blocksFrom false none rest <;> rfl

/-- Only code that can be cut is accepted. -/
theorem exists_cut_of_blocksFrom {lines : List Line} (hcode : ∀ l ∈ lines, isCode false l = true)
    {blocks : List TextBlock} (h : blocksFrom false none lines = .ok blocks) :
    ∃ spans, Cut lines spans ∧ blocks = spans.map Span.block := by
  -- By the length of the code: what follows a block is no tail of it given by one line.
  induction hlength : lines.length using Nat.strong_induction_on generalizing lines blocks with
  | _ n ih =>
  cases lines with
  | nil =>
      cases h
      exact ⟨[], .done, rfl⟩
  | cons l rest =>
      obtain ⟨hfirst, hrest⟩ := List.forall_mem_cons.1 hcode
      rw [blocksFrom_none hfirst] at h
      split at h
      · next hl =>
          obtain ⟨spans, hcut, hblocks⟩ := ih rest.length (by simp [← hlength]) hrest h rfl
          exact ⟨spans, .between hl hcut, hblocks⟩
      · cases h
      · next kind name hl =>
          have hend := exists_end_of_blocksFrom hrest h
          obtain ⟨s, hs, tail, hlines⟩ := exists_span hl hend
          rw [← blocksFrom_first hfirst hl, hlines] at h
          rw [hlines] at hcode hlength ⊢
          obtain ⟨hspan, htail⟩ := List.forall_mem_append.1 hcode
          rw [blocksFrom_span hs hspan] at h
          cases hothers : blocksFrom false none tail with
          | error e =>
              rw [hothers] at h
              cases h
          | ok others =>
              rw [hothers] at h
              cases h
              have hshorter : tail.length < n := by
                rw [← hlength, List.length_append, Span.lines, List.length_cons]
                omega
              obtain ⟨spans, hcut, rfl⟩ := ih tail.length hshorter htail hothers rfl
              exact ⟨s :: spans, .block hs hcut, rfl⟩

/-- A source is accepted exactly if its code can be cut into closed blocks. -/
theorem scan_eq_ok_iff {source : String} {blocks : List TextBlock} :
    scan source = .ok blocks ↔
      ∃ spans, Cut (code source) spans ∧ blocks = spans.map Span.block := by
  have hcode : ∀ l ∈ code source, isCode false l = true := fun l => isCode_of_mem_code
  rw [scan_eq_blocksFrom_code]
  constructor
  · exact exists_cut_of_blocksFrom hcode
  · rintro ⟨spans, hcut, rfl⟩
    have hfront := hcut.blocksFrom_append hcode []
    rw [List.append_nil] at hfront
    rw [hfront]
    simp [blocksFrom, Except.map]

/-! ### Begin markers -/

/-- The line carries a begin marker. -/
def Line.Begins (l : Line) : Prop :=
  ∃ kind : BlockKind, l.mentions kind.beginMarker = true

theorem isSome_wordAfter?_iff {marker : String} {words : List String} :
    (wordAfter? marker words).isSome = true ↔ words.any (sameName · marker) = true := by
  induction words with
  | nil => simp [wordAfter?]
  | cons word rest ih =>
      rw [wordAfter?, List.any_cons, Bool.or_eq_true]
      by_cases hword : sameName word marker = true <;> simp [hword, ih]

theorem mem_all (kind : BlockKind) : kind ∈ BlockKind.all := by
  cases kind <;> decide

theorem begins_iff {l : Line} : l.Begins ↔ l.begins? ≠ none := by
  rw [Line.begins?, Ne, List.findSome?_eq_none_iff]
  constructor
  · rintro ⟨kind, hkind⟩ hnone
    have hfound := isSome_wordAfter?_iff.2 hkind
    have hmissed := hnone kind (mem_all kind)
    rw [Option.map_eq_none_iff] at hmissed
    rw [hmissed] at hfound
    cases hfound
  · intro hsome
    push Not at hsome
    obtain ⟨kind, -, hkind⟩ := hsome
    rw [Ne, Option.map_eq_none_iff, ← Ne, Option.ne_none_iff_isSome] at hkind
    exact ⟨kind, isSome_wordAfter?_iff.1 hkind⟩

/-- Among the blocks is one that the line begins, that consists of the lines after
it, and that ends before any other begin marker. -/
def OpensOwn (blocks : List TextBlock) (l : Line) (after : List Line) : Prop :=
  ∃ block ∈ blocks, ∃ last rest,
    l.begins? = some (block.kind, some block.name) ∧ block.line = l.number ∧
      after = block.lines ++ last :: rest ∧ last.mentions block.kind.endMarker = true ∧
      ∀ l' ∈ block.lines, ¬l'.Begins

/-- A line with a begin marker is the first of a block or stands inside of one. -/
theorem Cut.first_or_inner {lines : List Line} {spans : List Span} (h : Cut lines spans)
    {before : List Line} {l : Line} {after : List Line} (hlines : lines = before ++ l :: after)
    (hbegins : l.Begins) :
    (∃ s ∈ spans, l = s.first ∧ ∃ rest, after = s.inner ++ rest) ∨ ∃ s ∈ spans, l ∈ s.inner := by
  induction h generalizing before with
  | done => simp at hlines
  | between hl _ ih =>
      rcases List.cons_eq_append_iff.1 hlines with ⟨-, heq⟩ | ⟨before', rfl, hrest⟩
      · cases heq
        exact absurd hl (begins_iff.1 hbegins)
      · exact ih hrest
  | @block s rest spans hs _ ih =>
      rcases List.cons_eq_append_iff.1 hlines with ⟨-, heq⟩ | ⟨before', rfl, hrest⟩
      · cases heq
        exact .inl ⟨s, List.mem_cons_self, rfl, rest, rfl⟩
      · by_cases hinner : l ∈ s.inner
        · exact .inr ⟨s, List.mem_cons_self, hinner⟩
        · -- The line stands behind this block, so its prefix contains the block.
          obtain ⟨tail, htail⟩ : ∃ tail, rest = tail ++ l :: after := by
            rcases List.append_eq_append_iff.1 hrest with ⟨tail, -, htail⟩ | ⟨tail, heq, htail⟩
            · exact ⟨tail, htail⟩
            · rcases List.cons_eq_append_iff.1 htail with ⟨-, hrest⟩ | ⟨tail', rfl, -⟩
              · exact ⟨[], hrest⟩
              · exact absurd (heq ▸ List.mem_append_right _ List.mem_cons_self) hinner
          rcases ih htail with ⟨s', hs', hfirst⟩ | ⟨s', hs', hinner⟩
          · exact .inl ⟨s', List.mem_cons_of_mem _ hs', hfirst⟩
          · exact .inr ⟨s', List.mem_cons_of_mem _ hs', hinner⟩

theorem Cut.lines_infix {lines : List Line} {spans : List Span} (h : Cut lines spans)
    {s : Span} (hs : s ∈ spans) : s.lines <:+: lines := by
  induction h with
  | done => cases hs
  | between _ _ ih => exact (ih hs).trans (List.suffix_cons _ _).isInfix
  | @block s' rest spans _ _ ih =>
      rcases List.mem_cons.1 hs with rfl | hs
      · exact (List.prefix_append _ _).isInfix
      · exact (ih hs).trans (List.suffix_append _ _).isInfix

theorem Cut.closed {lines : List Line} {spans : List Span} (h : Cut lines spans) {s : Span}
    (hs : s ∈ spans) : s.Closed := by
  induction h with
  | done => cases hs
  | between _ _ ih => exact ih hs
  | block hclosed _ ih =>
      rcases List.mem_cons.1 hs with rfl | hs
      · exact hclosed
      · exact ih hs

/-! ### Line numbers -/

theorem codeFrom_sublist (inMacro : Bool) (lines : List Line) :
    (codeFrom inMacro lines).Sublist lines := by
  induction lines generalizing inMacro with
  | nil => exact .slnil
  | cons l rest ih =>
      rw [codeFrom]
      split
      · exact (ih _).cons_cons l
      · exact (ih _).cons l

theorem map_number_numberLines (number : Nat) (lines : List String) :
    (numberLines number lines).map Line.number = List.range' number lines.length := by
  induction lines generalizing number with
  | nil => rfl
  | cons raw rest ih => rw [numberLines, List.map_cons, ih, List.length_cons, List.range'_succ]

theorem nodup_numbers_code (source : String) : ((code source).map Line.number).Nodup := by
  refine ((codeFrom_sublist _ _).map Line.number).nodup ?_
  rw [map_number_numberLines]
  exact List.nodup_range'

/-- The number of the first line of a block is no number inside of a block. -/
theorem Cut.number_first_ne {lines : List Line} {spans : List Span} (h : Cut lines spans)
    (hnodup : (lines.map Line.number).Nodup) {s s' : Span} (hs : s ∈ spans) (hs' : s' ∈ spans)
    {l : Line} (hl : l ∈ s'.inner) : s.first.number ≠ l.number := by
  induction h with
  | done => cases hs
  | between _ _ ih =>
      rw [List.map_cons, List.nodup_cons] at hnodup
      exact ih hnodup.2 hs hs'
  | @block s₀ rest spans _ hrest ih =>
      rw [List.map_append, List.nodup_append] at hnodup
      obtain ⟨hown, htail, hapart⟩ := hnodup
      rw [Span.lines, List.map_cons, List.nodup_cons] at hown
      have hbehind : ∀ {s : Span}, s ∈ spans → ∀ l ∈ s.lines, l.number ∈ rest.map Line.number :=
        fun hs l hl => List.mem_map_of_mem ((hrest.lines_infix hs).subset hl)
      rcases List.mem_cons.1 hs with rfl | hrs <;> rcases List.mem_cons.1 hs' with rfl | hrs'
      · intro heq
        exact hown.1 (heq ▸ List.mem_map_of_mem hl)
      · exact hapart _ (List.mem_map_of_mem List.mem_cons_self) _
          (hbehind hrs' l (List.mem_cons_of_mem _ hl))
      · exact (hapart _ (List.mem_map_of_mem (List.mem_cons_of_mem _ hl)) _
          (hbehind hrs _ List.mem_cons_self)).symm
      · exact ih htail hrs hrs'

/-! ### Every begin marker -/

/-- The begin markers of a cut all open blocks of their own exactly if none stands
inside of a block. -/
theorem Cut.all_open_iff {lines : List Line} {spans : List Span} (h : Cut lines spans)
    (hnodup : (lines.map Line.number).Nodup) :
    (∀ before l after, lines = before ++ l :: after → l.Begins →
        OpensOwn (spans.map Span.block) l after) ↔
      ∀ s ∈ spans, ∀ l ∈ s.inner, ¬l.Begins := by
  constructor
  · intro hall s' hs' l hl hbegins
    have hmem : l ∈ lines := (h.lines_infix hs').subset (List.mem_cons_of_mem _ hl)
    obtain ⟨before, after, hlines⟩ := List.append_of_mem hmem
    obtain ⟨block, hblock, -, -, -, hnumber, -⟩ := hall before l after hlines hbegins
    obtain ⟨s, hs, rfl⟩ := List.mem_map.1 hblock
    -- A block of its own would start at a line inside of `s'`.
    exact h.number_first_ne hnodup hs hs' hl hnumber
  · intro hnone before l after hlines hbegins
    rcases h.first_or_inner hlines hbegins with ⟨s, hs, rfl, rest, rfl⟩ | ⟨s, hs, hinner⟩
    · have hclosed := h.closed hs
      refine ⟨s.block, List.mem_map_of_mem hs, s.last, rest, hclosed.begins, rfl, ?_,
        hclosed.ends, ?_⟩
      · simp [Span.inner, Span.block]
      · exact fun l' hl' => hnone s hs l' (List.mem_append_left _ hl')
    · exact absurd hbegins (hnone s hs l hinner)

/-- If a source is accepted then every begin marker stands in one of its blocks, and
each of them opens a block of its own exactly if none stands behind the first line
of a block. A block with no end marker of its kind after it is an error at its begin
marker, whatever else follows it. -/
theorem scan_accounts_for_blocks (source : String) :
    (∀ blocks, scan source = .ok blocks → ∃ spans, Cut (code source) spans ∧
      blocks = spans.map Span.block ∧
      (∀ l ∈ code source, l.Begins → ∃ s ∈ spans, l ∈ s.lines) ∧
      ((∀ before l after, code source = before ++ l :: after → l.Begins →
          OpensOwn blocks l after) ↔
        ∀ s ∈ spans, ∀ l ∈ s.inner, ¬l.Begins)) ∧
    ∀ before l after spans kind name, code source = before ++ l :: after → Cut before spans →
      l.begins? = some (kind, some name) →
      (∀ l' ∈ after, l'.mentions kind.endMarker = false) →
      scan source = .error ⟨l.number, 1, .unclosedBlock kind name⟩ := by
  constructor
  · intro blocks hscan
    obtain ⟨spans, hcut, rfl⟩ := scan_eq_ok_iff.1 hscan
    refine ⟨spans, hcut, rfl, ?_, hcut.all_open_iff (nodup_numbers_code source)⟩
    intro l hl hbegins
    obtain ⟨before, after, hlines⟩ := List.append_of_mem hl
    rcases hcut.first_or_inner hlines hbegins with ⟨s, hs, rfl, -⟩ | ⟨s, hs, hinner⟩
    · exact ⟨s, hs, List.mem_cons_self⟩
    · exact ⟨s, hs, List.mem_cons_of_mem _ hinner⟩
  · intro before l after spans kind name hlines hcut hbegins hopen
    have hcode : ∀ l' ∈ before ++ l :: after, isCode false l' = true :=
      fun l' hl' => isCode_of_mem_code (hlines ▸ hl')
    rw [List.forall_mem_append, List.forall_mem_cons] at hcode
    obtain ⟨hbefore, hl, hafter⟩ := hcode
    rw [scan_eq_blocksFrom_code, hlines, hcut.blocksFrom_append hbefore,
      blocksFrom_first hl hbegins, blocksFrom_unclosed ⟨kind, name, l.number, []⟩ hafter hopen]
    rfl

theorem lamp_accounted_unclosed_rejected :
    (∃ spans, Cut (code "ENTITY_BEGIN ELamp\nENTITY_END\n") spans ∧
      [⟨.entity, "ELamp", 1, []⟩] = spans.map Span.block) ∧
    scan "ENTITY_BEGIN EPlayer\nSTATIC_ENTITY_BEGIN ELamp\nSTATIC_ENTITY_END\n" =
      .error ⟨1, 1, .unclosedBlock .entity "EPlayer"⟩ := by
  constructor
  · obtain ⟨spans, hcut, hblocks, -⟩ :=
      (scan_accounts_for_blocks "ENTITY_BEGIN ELamp\nENTITY_END\n").1 _ rfl
    exact ⟨spans, hcut, hblocks⟩
  · exact (scan_accounts_for_blocks _).2 [] ⟨1, "ENTITY_BEGIN EPlayer"⟩
      [⟨2, "STATIC_ENTITY_BEGIN ELamp"⟩, ⟨3, "STATIC_ENTITY_END"⟩] [] .entity "EPlayer" rfl .done
      rfl (by decide)

/-- An entity that is begun before the one ahead of it has been ended is lost, and so
is what follows the head of a macro definition that is not ended. -/
theorem begun_inside_lost :
    (∃ blocks, scan "ENTITY_BEGIN EPlayer\nHealth rs.w 1\nENTITY_BEGIN EEnemy\nENTITY_END\n" =
        .ok blocks ∧
      ∃ l ∈ code "ENTITY_BEGIN EPlayer\nHealth rs.w 1\nENTITY_BEGIN EEnemy\nENTITY_END\n",
        l.begins? = some (.entity, some "EEnemy") ∧ ∀ block ∈ blocks, block.line ≠ l.number) ∧
    scan "Begin macro\nENTITY_BEGIN EEnemy\n" = .ok [] ∧
      endsInMacro false (numberLines 1 (lines "Begin macro\nENTITY_BEGIN EEnemy\n")) = true := by
  have hcode : code "ENTITY_BEGIN EPlayer\nHealth rs.w 1\nENTITY_BEGIN EEnemy\nENTITY_END\n" =
      [⟨1, "ENTITY_BEGIN EPlayer"⟩, ⟨2, "Health rs.w 1"⟩, ⟨3, "ENTITY_BEGIN EEnemy"⟩,
        ⟨4, "ENTITY_END"⟩] := rfl
  refine ⟨⟨[⟨.entity, "EPlayer", 1, [⟨2, "Health rs.w 1"⟩, ⟨3, "ENTITY_BEGIN EEnemy"⟩]⟩], rfl,
    ⟨3, "ENTITY_BEGIN EEnemy"⟩, ?_, rfl, by decide⟩, rfl, rfl⟩
  rw [hcode]
  simp

end Cartridge.Source
