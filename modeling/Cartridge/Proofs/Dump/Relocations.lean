import Cartridge.Proofs.Dump.Columns
import Cartridge.Proofs.Dump.Symbol

/-!
Relocation lines read out of a dump. A line of the grammar is an address, a
kind that speaks of the offset table and a symbol; wherever it stands in a dump,
it gives the relocation at that address of the routine that its segments name.
-/

namespace Cartridge.Script.Dump

open Cartridge.Text

/-! ### One line -/

theorem address?_append {mark digits : List Char} {address : UInt32}
    (hmark : mark ∈ [[], ['0', 'x'], ['0', 'X']])
    (hdigits : digits ≠ [] ∧ hexValueFrom 0 digits = some address.toNat) :
    address? (mark ++ digits) = some address :=
  address?_eq_some_iff.2 ⟨mark, hmark, [], List.mem_cons_self, digits, rfl, hdigits⟩

/-- A relocation line by its parts: an address, a kind and a symbol, with blanks
between and around them. -/
structure RelocationLine where
  indent : List Char
  mark : List Char
  digits : List Char
  gap : List Char
  kind : List Char
  space : List Char
  /-- The segments of the symbol but for the last one. -/
  scope : List (List Char)
  name : List Char
  /-- The parameter list and the addend, if there are any. -/
  rest : List Char
  trailing : List Char

namespace RelocationLine

/-- The line as it stands in a dump. -/
def text (l : RelocationLine) : List Char :=
  l.indent ++ (l.mark ++ l.digits) ++ l.gap ++ l.kind ++ l.space ++
    (Symbol.join (l.scope ++ [l.name]) ++ l.rest) ++ l.trailing

/-- The line follows the grammar and its digits are those of the address. -/
structure Follows (l : RelocationLine) (address : UInt32) : Prop where
  blanks : IsBlanks (l.indent ++ l.gap ++ l.space ++ l.trailing)
  apart : l.gap ≠ [] ∧ l.space ≠ []
  mark : l.mark ∈ [[], ['0', 'x'], ['0', 'X']]
  digits : l.digits ≠ [] ∧ hexValueFrom 0 l.digits = some address.toNat
  kind : "R_68K_GOT".toList <:+: l.kind ∧ IsWord l.kind
  scope : ∀ segment ∈ l.scope, Symbol.IsSegment segment
  name : Symbol.IsSegment l.name
  /-- A parameter list starts with a bracket and an addend with a sign. -/
  rest : Symbol.IsRest l.rest

/-- The relocation that the line stands for. -/
def relocation (table : OffsetTable) (l : RelocationLine) (address : UInt32) : Relocation :=
  let scope := String.ofList (Symbol.join l.scope)
  let name := String.ofList l.name
  ⟨address, scope, name,
    if l.scope = [] then none else (table.find? scope name).map UInt64.ofNat⟩

variable {l : RelocationLine} {address : UInt32}

theorem Follows.isMarked_text (h : l.Follows address) : isMarked l.text = true := by
  have hkind : l.kind <:+: l.text := by
    refine ⟨l.indent ++ (l.mark ++ l.digits) ++ l.gap,
      l.space ++ (Symbol.join (l.scope ++ [l.name]) ++ l.rest) ++ l.trailing, ?_⟩
    simp [text]
  exact containsList_iff.2 (h.kind.1.trans hkind)

theorem Follows.address?_digits (h : l.Follows address) :
    address? (l.mark ++ l.digits) = some address :=
  address?_append h.mark h.digits

/-- The word of the address has no blank in it. -/
theorem Follows.isWord_digits (h : l.Follows address) : IsWord (l.mark ++ l.digits) := by
  have hmark : ∀ mark ∈ [[], ['0', 'x'], ['0', 'X']], IsWord mark := by decide
  exact isWord_append.2 ⟨hmark l.mark h.mark, isWord_of_hexValueFrom h.digits.2⟩

/-- What the symbol is read as: its names and what follows them, trimmed. -/
def symbol (l : RelocationLine) : List Char :=
  Symbol.join (l.scope ++ [l.name]) ++ (l.rest ++ l.trailing).rdropWhile isBlank

theorem Follows.segments (h : l.Follows address) :
    ∀ segment ∈ l.scope ++ [l.name], Symbol.IsSegment segment := by
  simpa [or_imp, forall_and] using ⟨h.scope, h.name⟩

theorem Follows.isTrimmed_symbol (h : l.Follows address) : IsTrimmed l.symbol := by
  obtain ⟨start, c, hend, -, -, hblank⟩ := Symbol.exists_join_eq_concat l.scope h.name
  have hjoin : Symbol.join (l.scope ++ [l.name]) ≠ [] := by simp [hend]
  have hne : l.symbol ≠ [] := List.append_ne_nil_of_left_ne_nil hjoin _
  -- The names do not end with a blank, so no more is dropped than what follows them.
  have hdrop : (Symbol.join (l.scope ++ [l.name]) ++ (l.rest ++ l.trailing)).rdropWhile isBlank =
      l.symbol := by
    have hdropped : (start ++ c :: (l.rest ++ l.trailing)).rdropWhile isBlank =
        start ++ c :: (l.rest ++ l.trailing).rdropWhile isBlank :=
      rdropWhile_append_cons hblank
    simpa [symbol, hend] using hdropped
  refine ⟨hne, fun d hd => ?_, fun d hd => ?_⟩
  · rw [symbol, List.head?_append_of_ne_nil _ hjoin] at hd
    exact Symbol.isBlank_head_join h.segments d hd
  · have hlast : l.symbol.getLast hne = d :=
      Option.some.inj ((List.getLast?_eq_some_getLast hne).symm.trans hd)
    have hnot := List.rdropWhile_last_not isBlank _ (hdrop ▸ hne)
    simp only [hdrop, hlast] at hnot
    simpa using hnot

/-- The columns that the line falls into. -/
def columns (l : RelocationLine) : Columns :=
  ⟨l.indent, l.mark ++ l.digits, l.gap, l.kind, l.space, l.symbol,
    (l.rest ++ l.trailing).rtakeWhile isBlank⟩

theorem text_columns (l : RelocationLine) : l.columns.text = l.text := by
  have hback : (l.rest ++ l.trailing).rdropWhile isBlank ++
      (l.rest ++ l.trailing).rtakeWhile isBlank = l.rest ++ l.trailing :=
    List.rdropWhile_append_rtakeWhile
  simp [columns, Columns.text, Columns.core, symbol, text, hback]

theorem Follows.isCut_columns (h : l.Follows address) : l.columns.IsCut := by
  have hblanks := h.blanks
  simp only [isBlanks_append] at hblanks
  have hkind : l.kind ≠ [] := by
    rintro hnil
    have hmark := h.kind.1
    rw [hnil, List.infix_nil] at hmark
    exact absurd hmark (by decide)
  refine ⟨?_, h.apart, ⟨List.append_ne_nil_of_right_ne_nil _ h.digits.1, h.isWord_digits⟩,
    ⟨hkind, h.kind.2⟩, h.isTrimmed_symbol⟩
  simp only [isBlanks_append]
  exact ⟨hblanks.1, fun c hc => List.mem_rtakeWhile_imp hc⟩

theorem Follows.fields?_text (h : l.Follows address) :
    fields? l.text = some (address, l.symbol) :=
  fields?_eq_some_iff.2
    ⟨l.columns, l.text_columns, h.isCut_columns, h.kind.1, h.address?_digits, rfl⟩

theorem Follows.split?_symbol (h : l.Follows address) :
    Symbol.split? l.symbol =
      if ':' ∈ l.name then none else some (Symbol.join l.scope, l.name) := by
  have htrailing : IsBlanks l.trailing := fun c hc => h.blanks c (by simp [hc])
  refine Symbol.split?_join h.scope h.name (h.rest.of_prefix ?_)
  rw [rdropWhile_append_blanks l.rest htrailing]
  exact List.rdropWhile_prefix isBlank l.rest

/-- The line gives its relocation, unless there is a colon in the last segment. -/
theorem Follows.relocation?_text (table : OffsetTable) (h : l.Follows address) :
    relocation? table l.text =
      if ':' ∈ l.name then none else some (l.relocation table address) := by
  simp only [relocation?, h.fields?_text, h.split?_symbol, Option.bind_eq_bind, Option.bind_some]
  by_cases hcolon : ':' ∈ l.name
  · simp [hcolon]
  · simp [hcolon, relocation, Symbol.join_eq_nil_iff h.scope]

end RelocationLine

/-! ### The lines of a dump -/

variable {table : OffsetTable}

/-- The line is a relocation if it speaks of the offset table. -/
def Accepted (table : OffsetTable) (line : List Char) : Prop :=
  isMarked line = true → (relocation? table line).isSome = true

instance (table : OffsetTable) : DecidablePred (Accepted table) := fun line =>
  inferInstanceAs (Decidable (isMarked line = true → (relocation? table line).isSome = true))

/-- The relocations that lines describe one by one. -/
def described (table : OffsetTable) (lines : List (List Char)) : List Relocation :=
  (lines.filter isMarked).filterMap (relocation? table)

theorem relocationsFrom_append {before : List (List Char)}
    (h : ∀ line ∈ before, Accepted table line) (number : Nat) (after : List (List Char)) :
    relocationsFrom table number (before ++ after) =
      (relocationsFrom table (number + before.length) after).map (described table before ++ ·) := by
  induction before generalizing number with
  | nil =>
      cases hafter : relocationsFrom table number after <;> simp [hafter, described, Except.map]
  | cons line rest ih =>
      rw [List.forall_mem_cons] at h
      have hrest := ih h.2 (number + 1)
      have hnumber : number + 1 + rest.length = number + (line :: rest).length := by
        rw [List.length_cons]
        omega
      rw [hnumber] at hrest
      rw [List.cons_append, relocationsFrom]
      by_cases hmarked : isMarked line = true
      · obtain ⟨r, hr⟩ := Option.isSome_iff_exists.1 (h.1 hmarked)
        have hdescribed : described table (line :: rest) = r :: described table rest := by
          simp [described, hmarked, hr]
        rw [if_pos hmarked, hr, hrest, hdescribed]
        cases relocationsFrom table (number + (line :: rest).length) after <;> rfl
      · have hdescribed : described table (line :: rest) = described table rest := by
          simp [described, hmarked]
        rw [if_neg hmarked, hrest, hdescribed]

theorem relocationsFrom_of_accepted {lines : List (List Char)}
    (h : ∀ line ∈ lines, Accepted table line) (number : Nat) :
    relocationsFrom table number lines = .ok (described table lines) := by
  have hall := relocationsFrom_append h number []
  simpa [relocationsFrom, Except.map] using hall

/-- Wherever a line of the grammar stands among lines that are accepted, it is
read as the relocation that its segments name, except that a colon among the
template arguments of the last segment makes it malformed. -/
theorem relocations_of_segments {dump : String} {before after : List (List Char)}
    {line : RelocationLine} {address : UInt32} (hline : line.Follows address)
    (hdump : linesList dump.toList = before ++ line.text :: after)
    (hothers : ∀ other ∈ before ++ after, Accepted table other) :
    Dump.relocations table dump =
      if ':' ∈ line.name then
        .error (.malformedRelocation (before.length + 1) (String.ofList (trimList line.text)))
      else
        .ok (described table before ++
          ⟨address, String.ofList (Symbol.join line.scope), String.ofList line.name,
            if line.scope = [] then none
            else (table.find? (String.ofList (Symbol.join line.scope))
              (String.ofList line.name)).map UInt64.ofNat⟩ :: described table after) := by
  rw [List.forall_mem_append] at hothers
  rw [Dump.relocations, hdump, relocationsFrom_append hothers.1, relocationsFrom,
    if_pos hline.isMarked_text, hline.relocation?_text table]
  by_cases hcolon : ':' ∈ line.name
  · rw [if_pos hcolon, if_pos hcolon, Nat.add_comm]
    rfl
  · rw [if_neg hcolon, if_neg hcolon, relocationsFrom_of_accepted hothers.2]
    rfl

/-! A unit that calls two routines of templates. -/

def templateTable : OffsetTable :=
  .ofRoutines [⟨"Run", "Baz<int, ns::Thing>", "void", "Baz_Run", [], none⟩,
    ⟨"Run<ns::Thing>", "Foo", "void", "Foo_Run", [], none⟩]

def baseLine : List Char :=
  "00000010 R_68K_GOT16O _GLOBAL_OFFSET_TABLE_".toList

/-- A line of the kind that dumps have, with the given symbol in it. -/
def templateLine (scope : List (List Char)) (name rest : List Char) : RelocationLine :=
  ⟨[], [], "00000028".toList, [' '], "R_68K_GOT16O".toList, [' '], scope, name, rest, []⟩

/-- The template arguments of a scope do not matter. -/
theorem relocations_of_template_scope :
    let line := templateLine ["Baz<int, ns::Thing>".toList] "Run".toList "(short)+0x2".toList
    let dump := String.ofList (baseLine ++ '\n' :: line.text ++ ['\n'])
    line.Follows 0x28 ∧ linesList dump.toList = [baseLine] ++ line.text :: [] ∧
      (∀ other ∈ [baseLine] ++ [], Accepted templateTable other) ∧
      Dump.relocations templateTable dump =
        .ok [⟨0x10, "", "_GLOBAL_OFFSET_TABLE_", none⟩,
          ⟨0x28, "Baz<int, ns::Thing>", "Run", some 0⟩] := by
  intro line dump
  have hline : line.Follows 0x28 :=
    ⟨by decide, by decide, by decide, by decide, by decide, by decide, by decide, by decide⟩
  have hdump : linesList dump.toList = [baseLine] ++ line.text :: [] := by
    simp only [dump, String.toList_ofList]
    decide +kernel
  have hothers : ∀ other ∈ [baseLine] ++ [], Accepted templateTable other := by decide +kernel
  refine ⟨hline, hdump, hothers, ?_⟩
  rw [relocations_of_segments hline hdump hothers]
  decide +kernel

/-- Those of the last segment do. -/
theorem template_name_is_malformed :
    let line := templateLine ["Foo".toList] "Run<ns::Thing>".toList "(short)".toList
    let dump := String.ofList (baseLine ++ '\n' :: line.text ++ ['\n'])
    line.Follows 0x28 ∧ linesList dump.toList = [baseLine] ++ line.text :: [] ∧
      (∀ other ∈ [baseLine] ++ [], Accepted templateTable other) ∧
      Dump.relocations templateTable dump =
        .error (.malformedRelocation 2 "00000028 R_68K_GOT16O Foo::Run<ns::Thing>(short)") := by
  intro line dump
  have hline : line.Follows 0x28 :=
    ⟨by decide, by decide, by decide, by decide, by decide, by decide, by decide, by decide⟩
  simp only [Dump.relocations, dump, String.toList_ofList]
  exact ⟨hline, by decide +kernel, by decide +kernel, by decide +kernel⟩

end Cartridge.Script.Dump
