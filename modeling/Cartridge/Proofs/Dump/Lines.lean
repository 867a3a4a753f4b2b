import Cartridge.Proofs.Dump.Reading
import Cartridge.Proofs.Dump.Relocations
import Cartridge.Proofs.Linking.Dump

/-!
A dump line by line. Each line that speaks of the offset table accounts for one
relocation, in order, and the first that cannot be read is the one that is
reported. What counts as readable is wider than the grammar of dumps.
-/

namespace Cartridge.Script.Dump

open Cartridge.Text

variable {table : OffsetTable}

/-! ### Lines and relocations -/

/-- The first line that is not accepted is reported. -/
theorem relocationsFrom_of_refused {before : List (List Char)} {line : List Char}
    (hbefore : ∀ other ∈ before, Accepted table other) (hline : ¬Accepted table line)
    (number : Nat) (after : List (List Char)) :
    relocationsFrom table number (before ++ line :: after) =
      .error (.malformedRelocation (number + before.length) (String.ofList (trimList line))) := by
  obtain ⟨hmarked, hnone⟩ : isMarked line = true ∧ relocation? table line = none := by
    simpa [Accepted] using hline
  rw [relocationsFrom_append hbefore, relocationsFrom, if_pos hmarked, hnone]
  rfl

/-- Lines that are not all accepted have a first one that is not. -/
theorem exists_first_refused {lines : List (List Char)} (h : ∃ line ∈ lines, ¬Accepted table line) :
    ∃ before line after, lines = before ++ line :: after ∧
      (∀ other ∈ before, Accepted table other) ∧ ¬Accepted table line := by
  obtain ⟨line, hfind⟩ : ∃ line, lines.find? (¬Accepted table ·) = some line := by
    rw [← Option.isSome_iff_exists, List.find?_isSome]
    simpa using h
  obtain ⟨hline, before, after, hlines, hbefore⟩ := List.find?_eq_some_iff_append.1 hfind
  exact ⟨before, line, after, hlines, by simpa using hbefore, by simpa using hline⟩

theorem relocationsFrom_eq_error_iff {number : Nat} {lines : List (List Char)} {e : LinkError} :
    relocationsFrom table number lines = .error e ↔ ∃ before line after,
      lines = before ++ line :: after ∧ (∀ other ∈ before, Accepted table other) ∧
        ¬Accepted table line ∧
        e = .malformedRelocation (number + before.length) (String.ofList (trimList line)) := by
  constructor
  · intro h
    have hrefused : ∃ line ∈ lines, ¬Accepted table line := by
      by_contra hno
      rw [relocationsFrom_of_accepted (by simpa using hno)] at h
      cases h
    obtain ⟨before, line, after, rfl, hbefore, hline⟩ := exists_first_refused hrefused
    rw [relocationsFrom_of_refused hbefore hline] at h
    cases h
    exact ⟨before, line, after, rfl, hbefore, hline, rfl⟩
  · rintro ⟨before, line, after, rfl, hbefore, hline, rfl⟩
    exact relocationsFrom_of_refused hbefore hline number after

theorem exists_error_iff {number : Nat} {lines : List (List Char)} :
    (∃ e, relocationsFrom table number lines = .error e) ↔
      ∃ line ∈ lines, ¬Accepted table line := by
  constructor
  · rintro ⟨e, h⟩
    obtain ⟨before, line, after, rfl, -, hline, -⟩ := relocationsFrom_eq_error_iff.1 h
    exact ⟨line, by simp, hline⟩
  · intro h
    obtain ⟨before, line, after, hlines, hbefore, hline⟩ := exists_first_refused h
    exact ⟨_, relocationsFrom_eq_error_iff.2 ⟨before, line, after, hlines, hbefore, hline, rfl⟩⟩

/-- The line is a malformed dump when it stands on its own. -/
def FailsAlone (table : OffsetTable) (line : List Char) : Prop :=
  ∃ e, Dump.relocations table (String.ofList line) = .error e

theorem failsAlone_iff {line : List Char} (hline : '\n' ∉ line) :
    FailsAlone table line ↔ ¬Accepted table line := by
  rw [FailsAlone, Dump.relocations, String.toList_ofList]
  by_cases hne : line = []
  · subst hne
    have haccepted : Accepted table [] := fun h => absurd h (by decide)
    simp [linesList, relocationsFrom, haccepted]
  · rw [linesList_of_notMem hne hline]
    constructor
    · rintro ⟨e, h⟩ haccepted
      rw [relocationsFrom_of_accepted (by simpa using haccepted)] at h
      cases h
    · intro hrefused
      have hnone : ∀ other ∈ [], Accepted table other := List.forall_mem_nil _
      exact ⟨_, relocationsFrom_of_refused hnone hrefused 1 []⟩

/-- The base of the table has to come first, or there are no relocations at all. -/
theorem value_checkedRelocations (table : OffsetTable) (dump : String) :
    (checkedRelocations table dump).value = (Dump.relocations table dump).map fun rs =>
      if rs.head?.any Relocation.isBase then rs else [] := by
  rw [checkedRelocations]
  split
  · next e he => rw [he, Except.map]
  · next hnil => rw [hnil]; rfl
  · next first others hcons =>
      rw [hcons, Except.map, List.head?_cons, Option.any_some]
      split <;> rfl

/-- A dump is read as one relocation for each of its lines that speak of the table,
in their order, and as nothing else. It is malformed exactly if one of its lines is
so on its own, and then the first of these is reported. -/
theorem relocations_account_for_lines (table : OffsetTable) (dump : String) :
    let lines := linesList dump.toList
    (∀ rs, Dump.relocations table dump = .ok rs ↔
      List.Forall₂ (fun line r => ∃ c : Columns, c.text = line ∧ c.Describes table r)
        (lines.filter isMarked) rs) ∧
    ((∃ e, Dump.relocations table dump = .error e) ↔ ∃ line ∈ lines, FailsAlone table line) ∧
    (∀ e, Dump.relocations table dump = .error e ↔ ∃ before line after,
      lines = before ++ line :: after ∧ (∀ other ∈ before, ¬FailsAlone table other) ∧
        FailsAlone table line ∧
        e = .malformedRelocation (before.length + 1) (String.ofList (trimList line))) ∧
    (checkedRelocations table dump).value = (Dump.relocations table dump).map fun rs =>
      if rs.head?.any Relocation.isBase then rs else [] := by
  intro lines
  have halone : ∀ line ∈ lines, FailsAlone table line ↔ ¬Accepted table line := fun line hline =>
    failsAlone_iff (lineFeed_notMem_of_mem_linesList hline)
  refine ⟨fun rs => ?_, ?_, fun e => ?_, value_checkedRelocations table dump⟩
  · simp only [Dump.relocations, relocationsFrom_eq_ok_iff, relocation?_eq_some_iff, lines]
  · rw [Dump.relocations, exists_error_iff]
    exact exists_congr fun line => and_congr_right fun hline => (halone line hline).symm
  · rw [Dump.relocations, relocationsFrom_eq_error_iff]
    refine exists₃_congr fun before line after => and_congr_right fun hlines => ?_
    change lines = before ++ line :: after at hlines
    have hbefore : (∀ other ∈ before, ¬FailsAlone table other) ↔
        ∀ other ∈ before, Accepted table other := by
      refine forall₂_congr fun other hother => ?_
      rw [halone other (by simp [hlines, hother]), not_not]
    rw [hbefore, halone line (by simp [hlines]), Nat.add_comm]

/-! ### The grammar of dumps -/

/-- A dump is malformed exactly if a line that speaks of the table cannot be read. -/
theorem malformedRelocation_iff (table : OffsetTable) (dump : String) :
    (∃ number text, Dump.relocations table dump = .error (.malformedRelocation number text)) ↔
      ∃ line ∈ linesList dump.toList, relocationMark <:+: line ∧
        ¬∃ c : Columns, c.text = line ∧ c.IsRead := by
  have hrefused : ∀ line, ¬Accepted table line ↔
      relocationMark <:+: line ∧ ¬∃ c : Columns, c.text = line ∧ c.IsRead := by
    intro line
    rw [Accepted, Classical.not_imp, isMarked_iff, isSome_relocation?_iff]
  have herror : (∃ e, Dump.relocations table dump = .error e) ↔
      ∃ line ∈ linesList dump.toList, ¬Accepted table line := exists_error_iff
  simp only [← hrefused]
  rw [← herror]
  constructor
  · rintro ⟨number, text, h⟩
    exact ⟨_, h⟩
  · rintro ⟨e, h⟩
    obtain ⟨before, line, after, -, -, -, rfl⟩ := relocationsFrom_eq_error_iff.1 h
    exact ⟨_, _, h⟩

/-- Hexadecimal digits, with or without a mark in front. -/
def IsNumeral (cs : List Char) : Prop :=
  ∃ mark ∈ [[], ['0', 'x'], ['0', 'X']], ∃ digits, cs = mark ++ digits ∧ digits ≠ [] ∧
    (hexValueFrom 0 digits).isSome = true

/-- Segments joined by double colons, and then a parameter list whose parentheses are
closed and an addend, if there are any. -/
def IsGrammaticalSymbol (symbol : List Char) : Prop :=
  ∃ segments params addend, symbol = Symbol.join segments ++ (params ++ addend) ∧ segments ≠ [] ∧
    (∀ s ∈ segments, s ≠ [] ∧ ∃ plain ∈ Symbol.outside? 0 s, ':' ∉ plain) ∧
    (params = [] ∨ params.head? = some '(' ∧ params.count '(' = params.count ')') ∧
    (addend = [] ∨ ∃ sign ∈ ['+', '-'], ∃ offset, addend = sign :: offset ∧ IsNumeral offset)

/-- A line of these columns follows the grammar of dumps. -/
structure Columns.IsGrammatical (c : Columns) : Prop where
  cut : c.IsCut
  kind : relocationMark <:+: c.kind
  address : IsNumeral c.address
  symbol : IsGrammaticalSymbol c.symbol

/-- The symbol starts with a segment, and behind it with what may follow one. -/
def StartsWithSegment (symbol : List Char) : Prop :=
  ∃ n ≤ symbol.length, symbol.take n ≠ [] ∧
    (∃ plain ∈ Symbol.outside? 0 (symbol.take n), ':' ∉ plain) ∧
    (Symbol.IsRest (symbol.drop n) ∨ [':', ':'] <+: symbol.drop n)

instance : DecidablePred StartsWithSegment := fun symbol =>
  inferInstanceAs (Decidable (∃ n ≤ symbol.length, symbol.take n ≠ [] ∧
    (∃ plain ∈ Symbol.outside? 0 (symbol.take n), ':' ∉ plain) ∧
    (Symbol.IsRest (symbol.drop n) ∨ [':', ':'] <+: symbol.drop n)))

theorem IsGrammaticalSymbol.startsWithSegment {symbol : List Char}
    (h : IsGrammaticalSymbol symbol) : StartsWithSegment symbol := by
  obtain ⟨segments, params, addend, rfl, hne, hsegments, hparams, haddend⟩ := h
  obtain ⟨first, others, rfl⟩ := List.exists_cons_of_ne_nil hne
  have hfirst := hsegments first List.mem_cons_self
  have hrest : Symbol.IsRest (params ++ addend) := by
    rcases hparams with rfl | ⟨hhead, -⟩
    · rcases haddend with rfl | ⟨sign, hsign, offset, rfl, -⟩
      · rfl
      · simp only [List.mem_cons, List.not_mem_nil, or_false] at hsign
        rcases hsign with rfl | rfl <;> rfl
    · obtain ⟨back, rfl⟩ := List.head?_eq_some_iff.1 hhead
      rfl
  obtain ⟨back, hback, hfollows⟩ : ∃ back,
      Symbol.join (first :: others) ++ (params ++ addend) = first ++ back ∧
        (Symbol.IsRest back ∨ [':', ':'] <+: back) := by
    cases others with
    | nil => exact ⟨params ++ addend, by rw [Symbol.join_singleton], .inl hrest⟩
    | cons next others =>
        refine ⟨[':', ':'] ++ (Symbol.join (next :: others) ++ (params ++ addend)), ?_,
          .inr (List.prefix_append _ _)⟩
        simp [Symbol.join, List.intercalate_cons_cons]
  rw [hback]
  refine ⟨first.length, by simp, ?_⟩
  rw [List.take_left, List.drop_left]
  exact ⟨hfirst.1, hfirst.2, hfollows⟩

theorem IsNumeral.plus_notMem {cs : List Char} (h : IsNumeral cs) : '+' ∉ cs := by
  obtain ⟨mark, hmark, digits, rfl, -, hdigits⟩ := h
  obtain ⟨value, hvalue⟩ := Option.isSome_iff_exists.1 hdigits
  have hmarks : ∀ mark ∈ [[], ['0', 'x'], ['0', 'X']], '+' ∉ mark := by decide
  rw [List.mem_append, not_or]
  exact ⟨hmarks mark hmark, notMem_of_hexValueFrom hvalue rfl⟩

/-! Three lines that leave the grammar at different places. -/

def tickTable : OffsetTable :=
  .ofRoutines [⟨"Tick", "Foo", "void", "Foo_Tick", [], none⟩]

/-- An empty segment, a single colon and an address with a sign. -/
def strayLines : List (List Char) :=
  ["00000020 R_68K_GOT16O ::Foo::Tick()", "00000024 R_68K_GOT16O Foo:Bar::Tick()",
    "+0000028 R_68K_GOT16O Foo::Tick()"].map String.toList

theorem not_isGrammatical_of_symbol {line symbol : List Char} {address : UInt32}
    (hfields : fields? line = some (address, symbol)) (hsymbol : ¬StartsWithSegment symbol) :
    ¬∃ c : Columns, c.text = line ∧ c.IsGrammatical := by
  rintro ⟨c, rfl, h⟩
  rw [h.cut.fields?_text, if_pos (isMarked_iff.2 h.kind)] at hfields
  obtain ⟨found, -, heq⟩ := Option.map_eq_some_iff.1 hfields
  cases heq
  exact hsymbol h.symbol.startsWithSegment

theorem not_isGrammatical_of_address {line digits rest : List Char}
    (hcut : cutAtBlank (trimList line) = some (digits, rest)) (hdigits : '+' ∈ digits) :
    ¬∃ c : Columns, c.text = line ∧ c.IsGrammatical := by
  rintro ⟨c, rfl, h⟩
  rw [h.cut.cutAtBlank_text] at hcut
  cases hcut
  exact h.address.plus_notMem hdigits

/-- None of them is malformed. -/
theorem stray_lines_read :
    let dump := String.ofList (baseLine ++ strayLines.flatMap ('\n' :: ·))
    (∀ line ∈ strayLines, line ∈ linesList dump.toList ∧ relocationMark <:+: line ∧
      ¬∃ c : Columns, c.text = line ∧ c.IsGrammatical) ∧
    Dump.relocations tickTable dump = .ok [⟨0x10, "", "_GLOBAL_OFFSET_TABLE_", none⟩,
      ⟨0x20, "::Foo", "Tick", none⟩, ⟨0x24, "Foo:Bar", "Tick", none⟩,
      ⟨0x28, "Foo", "Tick", some 0⟩] := by
  intro dump
  have hlines : linesList dump.toList = baseLine :: strayLines := by
    simp only [dump, String.toList_ofList]
    decide +kernel
  have hmarked : ∀ line ∈ strayLines, isMarked line = true := by decide +kernel
  refine ⟨fun line hline => ⟨?_, isMarked_iff.1 (hmarked line hline), ?_⟩, ?_⟩
  · rw [hlines]
    exact List.mem_cons_of_mem _ hline
  · simp only [strayLines, List.map_cons, List.map_nil, List.mem_cons, List.not_mem_nil,
      or_false] at hline
    rcases hline with rfl | rfl | rfl
    · have hfields : fields? "00000020 R_68K_GOT16O ::Foo::Tick()".toList =
          some (0x20, "::Foo::Tick()".toList) := by decide +kernel
      exact not_isGrammatical_of_symbol hfields (by decide)
    · have hfields : fields? "00000024 R_68K_GOT16O Foo:Bar::Tick()".toList =
          some (0x24, "Foo:Bar::Tick()".toList) := by decide +kernel
      exact not_isGrammatical_of_symbol hfields (by decide)
    · have hcut : cutAtBlank (trimList "+0000028 R_68K_GOT16O Foo::Tick()".toList) =
          some ("+0000028".toList, "R_68K_GOT16O Foo::Tick()".toList) := by decide +kernel
      exact not_isGrammatical_of_address hcut (by decide)
  · rw [Dump.relocations, hlines]
    decide +kernel

end Cartridge.Script.Dump
