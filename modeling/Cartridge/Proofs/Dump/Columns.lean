import Cartridge.Proofs.Cutting
import Cartridge.Proofs.Numeral
import Cartridge.Script.Dump

/-!
The columns of a relocation line. A line that is read falls into an address, a
kind and a symbol with blanks between and around them, in one way only: the
address and the kind are words, and the symbol is all that stands behind them.
-/

namespace Cartridge.Script.Dump

open Cartridge.Text

theorem isMarked_iff {line : List Char} : isMarked line = true ↔ relocationMark <:+: line :=
  containsList_iff

/-- A line by its columns, and the blanks around each of them. -/
structure Columns where
  indent : List Char
  address : List Char
  gap : List Char
  kind : List Char
  space : List Char
  symbol : List Char
  trailing : List Char

namespace Columns

/-- The columns from the address to the symbol. -/
def core (c : Columns) : List Char :=
  c.address ++ (c.gap ++ (c.kind ++ (c.space ++ c.symbol)))

/-- The line as it stands in a dump. -/
def text (c : Columns) : List Char :=
  c.indent ++ (c.core ++ c.trailing)

/-- The line falls into these columns. -/
structure IsCut (c : Columns) : Prop where
  blanks : IsBlanks (c.indent ++ c.gap ++ c.space ++ c.trailing)
  apart : c.gap ≠ [] ∧ c.space ≠ []
  address : c.address ≠ [] ∧ IsWord c.address
  kind : c.kind ≠ [] ∧ IsWord c.kind
  symbol : IsTrimmed c.symbol

variable {c : Columns}

theorem IsCut.isTrimmed_core (h : c.IsCut) : IsTrimmed c.core := by
  refine ⟨?_, fun a ha => ?_, fun a ha => ?_⟩
  · exact List.append_ne_nil_of_left_ne_nil h.address.1 _
  · rw [core, List.head?_append_of_ne_nil _ h.address.1] at ha
    exact h.address.2 a (List.mem_of_mem_head? ha)
  · have hlast : c.core.getLast? = c.symbol.getLast? := by
      have hcore : c.core = (c.address ++ c.gap ++ c.kind ++ c.space) ++ c.symbol := by
        simp [core]
      rw [hcore, List.getLast?_append_of_ne_nil _ h.symbol.1]
    rw [hlast] at ha
    exact h.symbol.2.2 a ha

theorem IsCut.trimList_text (h : c.IsCut) : trimList c.text = c.core := by
  have hblanks := h.blanks
  simp only [isBlanks_append] at hblanks
  exact trimList_append hblanks.1.1.1 h.isTrimmed_core hblanks.2

/-- The first word of a line is its address. -/
theorem IsCut.cutAtBlank_text (h : c.IsCut) : cutAtBlank (trimList c.text) =
    some (c.address, c.gap.tail ++ (c.kind ++ (c.space ++ c.symbol))) := by
  have hblanks := h.blanks
  simp only [isBlanks_append] at hblanks
  obtain ⟨blank, gap, hgap⟩ := List.exists_cons_of_ne_nil h.apart.1
  have hblank : isBlank blank = true := hblanks.1.1.2 blank (by simp [hgap])
  rw [h.trimList_text, core, hgap]
  exact cutAtBlank_append h.address.2 hblank _

theorem IsCut.fields?_text (h : c.IsCut) : fields? c.text =
    if isMarked c.kind then (address? c.address).map (·, c.symbol) else none := by
  have hblanks := h.blanks
  simp only [isBlanks_append] at hblanks
  obtain ⟨blank, space, hspace⟩ := List.exists_cons_of_ne_nil h.apart.2
  have hblank : isBlank blank = true ∧ IsBlanks space := by
    rw [← isBlanks_cons, ← hspace]
    exact hblanks.1.2
  have hgap : IsBlanks c.gap.tail := fun a ha => hblanks.1.1.2 a (List.mem_of_mem_tail ha)
  have hkind : cutAtBlank (trimStartList (c.gap.tail ++ (c.kind ++ (c.space ++ c.symbol)))) =
      some (c.kind, space ++ c.symbol) := by
    rw [trimStartList_append hgap, trimStartList_word h.kind.1 h.kind.2, hspace]
    exact cutAtBlank_append h.kind.2 hblank.1 _
  have hsymbol : trimList (space ++ c.symbol) = c.symbol := by
    have hback : IsBlanks [] := List.forall_mem_nil _
    have htrim := trimList_append hblank.2 h.symbol hback
    rwa [List.append_nil] at htrim
  simp only [fields?, h.cutAtBlank_text, hkind, hsymbol, Option.bind_eq_bind, Option.bind_some]
  split
  · cases address? c.address <;> rfl
  · rfl

/-- What is cut at its first two blanks falls into columns. -/
theorem exists_isCut {line digits rest kind symbol : List Char}
    (hdigits : cutAtBlank (trimList line) = some (digits, rest))
    (hkind : cutAtBlank (trimStartList rest) = some (kind, symbol)) :
    ∃ c : Columns, c.IsCut ∧ c.text = line ∧ c.address = digits ∧ c.kind = kind ∧
      c.symbol = trimList symbol := by
  obtain ⟨indent, trailing, hindent, htrailing, hline, htrimmed⟩ := exists_trimList line
  obtain ⟨gap, hgap, hrest, hstart⟩ := exists_trimStartList rest
  obtain ⟨space, back, hspace, hback, hsymbol, hcore⟩ := exists_trimList symbol
  obtain ⟨hdigitsWord, blank, hblank, hcut⟩ := cutAtBlank_eq_some_iff.1 hdigits
  obtain ⟨hkindWord, blank', hblank', hcut'⟩ := cutAtBlank_eq_some_iff.1 hkind
  have htrimmed := htrimmed (by simp [hcut])
  have htext : trimList line = digits ++ (blank :: gap ++ (kind ++ (blank' :: symbol))) := by
    rw [hcut, hrest, hcut']
    simp
  -- A trimmed line does not end with blanks, so the symbol is more than these.
  have hne : trimList symbol ≠ [] := by
    intro hnil
    have hfront : trimList line = (digits ++ (blank :: gap) ++ kind) ++ (blank' :: symbol) := by
      rw [htext]
      simp
    rw [hfront] at htrimmed
    exact htrimmed.not_isBlanks (List.cons_ne_nil _ _)
      (isBlanks_cons.2 ⟨hblank', isBlanks_of_trimList_eq_nil hnil⟩)
  refine ⟨⟨indent, digits, blank :: gap, kind, blank' :: space, trimList symbol, back ++ trailing⟩,
    ⟨?_, ⟨List.cons_ne_nil _ _, List.cons_ne_nil _ _⟩,
      ⟨ne_nil_of_cutAtBlank htrimmed.2.1 hdigits, hdigitsWord⟩,
      ⟨ne_nil_of_cutAtBlank hstart hkind, hkindWord⟩, hcore hne⟩, ?_, rfl, rfl, rfl⟩
  · simp only [isBlanks_append, isBlanks_cons]
    exact ⟨⟨⟨hindent, hblank, hgap⟩, hblank', hspace⟩, hback, htrailing⟩
  · rw [hline, htext]
    nth_rewrite 2 [hsymbol]
    simp [text, core]

end Columns

/-- The address and the symbol of a relocation line are the first and the third of
its columns. -/
theorem fields?_eq_some_iff {line symbol : List Char} {address : UInt32} :
    fields? line = some (address, symbol) ↔ ∃ c : Columns, c.text = line ∧ c.IsCut ∧
      relocationMark <:+: c.kind ∧ address? c.address = some address ∧ c.symbol = symbol := by
  constructor
  · intro h
    obtain ⟨⟨digits, rest⟩, hdigits, h⟩ := Option.bind_eq_some_iff.1 h
    obtain ⟨⟨kind, back⟩, hkind, h⟩ := Option.bind_eq_some_iff.1 h
    obtain ⟨c, hcut, rfl, rfl, rfl, -⟩ := Columns.exists_isCut hdigits hkind
    have hfields : fields? c.text = some (address, symbol) := by
      simp only [fields?, hdigits, hkind, Option.bind_eq_bind, Option.bind_some]
      exact h
    rw [hcut.fields?_text, Option.ite_none_right_eq_some] at hfields
    obtain ⟨a, ha, heq⟩ := Option.map_eq_some_iff.1 hfields.2
    cases heq
    exact ⟨c, rfl, hcut, isMarked_iff.1 hfields.1, ha, rfl⟩
  · rintro ⟨c, rfl, hcut, hkind, haddress, rfl⟩
    rw [hcut.fields?_text, if_pos (isMarked_iff.2 hkind), haddress, Option.map_some]

/-- An address is digits of a 32-bit value, with or without a mark and then a sign
in front. -/
theorem address?_eq_some_iff {cs : List Char} {address : UInt32} :
    address? cs = some address ↔ ∃ mark ∈ [[], ['0', 'x'], ['0', 'X']], ∃ sign ∈ [[], ['+']],
      ∃ digits, cs = mark ++ (sign ++ digits) ∧ digits ≠ [] ∧
        hexValueFrom 0 digits = some address.toNat := by
  rw [address?, Option.map_eq_some_iff]
  constructor
  · rintro ⟨value, hread, rfl⟩
    obtain ⟨mark, hmark, rest, rfl, hrest⟩ := readMarkedHex?_eq_some_iff.1 hread
    obtain ⟨sign, hsign, digits, hne, rfl, hvalue, hlt⟩ := readHex?_eq_some_iff.1 hrest
    refine ⟨mark, hmark, sign, hsign, digits, rfl, hne, ?_⟩
    rw [hvalue, UInt32.toNat_ofNat_of_lt' hlt]
  · rintro ⟨mark, hmark, sign, hsign, digits, rfl, hne, hvalue⟩
    refine ⟨address.toNat, ?_, UInt32.ofNat_toNat⟩
    exact readMarkedHex?_eq_some_iff.2 ⟨mark, hmark, _, rfl,
      readHex?_eq_some_iff.2 ⟨sign, hsign, digits, hne, rfl, hvalue, address.toNat_lt⟩⟩

end Cartridge.Script.Dump
