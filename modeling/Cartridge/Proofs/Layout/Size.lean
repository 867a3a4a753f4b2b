import Cartridge.Proofs.Layout.Structure

/-!
Sizes of blocks. A structure is padded where its fields take an odd number of bytes; the
values of an entity are padded where one of them is a single byte, and those of a component
in any case. From an even address all three rules come to the same, so the blocks of a
record follow one another at the distances that the structures say:
`blocks_as_long_as_structures`.
-/

namespace Cartridge

open Cartridge.Assembly
open Cartridge.Text (OneLine)

/-! ### Sizes of structures -/

namespace Script

/-- How many bytes the fields take that are declared for some parameters, not counting
gaps between them. -/
def structBytes (owner : String) (params : List Param) : Nat :=
  (((sourceLines (fieldsText owner params)).filterMap fieldWidth?).map Width.bytes).sum

theorem sum_bytes_widths (params : List Param) :
    ((widths params).map Width.bytes).sum = totalBytes params := by
  induction params with
  | nil => rfl
  | cons p params ih =>
      rw [totalBytes, ← ih]
      rfl

/-- The padding of a structure makes up for an odd byte. -/
theorem structBytes_eq (owner : String) {params : List Param}
    (h : ∀ p ∈ params, OneLine p.name) :
    structBytes owner params = totalBytes params + totalBytes params % 2 := by
  have hpadding : ((paddingWidths params).map Width.bytes).sum = totalBytes params % 2 := by
    rw [paddingWidths]
    split
    · next hodd => rw [hodd]; rfl
    · next heven => simp only [List.map_nil, List.sum_nil]; omega
  rw [structBytes, fieldsText_eq, sourceLines_joinLines (oneLine_fieldLines owner h),
    fieldWidths_eq, List.map_append, List.sum_append, sum_bytes_widths, hpadding]

end Script

namespace Export

open Script (structBytes structBytes_eq totalBytes)

/-! ### Sizes of blocks -/

/-- The value of the parameter takes the bytes of its width. -/
def FillsWidth (p : Param) : Prop :=
  lineBytes (paramLine p).text = p.size.bytes

instance (p : Param) : Decidable (FillsWidth p) :=
  inferInstanceAs (Decidable (_ = _))

theorem advance_paramLine (address : Nat) (p : Param) :
    advance address (paramLine p).text = address + lineBytes (paramLine p).text := by
  rw [advance, if_neg (ne_even_of_operands? (by rw [paramLine, operands?_data]; rfl))]

/-- A single operand takes the bytes of its width. -/
theorem fillsWidth_of_isOperand {p : Param} (h : IsOperand p.operand) : FillsWidth p := by
  have hadvance : advance 0 (paramLine p).text = 0 + p.size.bytes := advance_data_operand h
  rw [advance_paramLine] at hadvance
  exact Nat.add_left_cancel hadvance

/-- A quoted text does so just if it has as many characters. -/
theorem fillsWidth_iff_of_quoted {p : Param} {quoted : String}
    (hoperand : p.operand = "\"" ++ quoted ++ "\"") (hquote : '"' ∉ quoted.toList) :
    FillsWidth p ↔ quoted.toList.length = p.size.bytes := by
  have hoperands : operandsFrom false (p.operand.toList ++ '\t' :: ';' :: ' ' :: p.name.toList) =
      ['"' :: quoted.toList ++ ['"']] := by
    have htext : p.operand.toList = '"' :: (quoted.toList ++ ['"']) := by simp [hoperand]
    rw [htext, List.cons_append, List.append_assoc, List.singleton_append,
      operandsFrom_quote hquote]
    rfl
  rw [FillsWidth, lineBytes, paramLine, operands?_data, hoperands]
  simp [operandBytes]

/-- Only a single byte makes a total odd. -/
theorem totalBytes_mod_two_of_hasByte {params : List Param} (h : hasByte params = false) :
    totalBytes params % 2 = 0 := by
  induction params with
  | nil => rfl
  | cons p params ih =>
      rw [hasByte, List.any_cons, Bool.or_eq_false_iff] at h
      have hrest : totalBytes params % 2 = 0 := ih h.2
      have hsize : p.size.bytes % 2 = 0 := by
        cases hp : p.size with
        | byte => rw [hp] at h; exact absurd h.1 (by decide)
        | word => rfl
        | long => rfl
      rw [totalBytes]
      omega

section

variable {params : List Param} {address : Nat}

theorem endFrom_params (h : ∀ p ∈ params, FillsWidth p) :
    endFrom address ((params.map paramLine).map Line.text) = address + totalBytes params := by
  induction params generalizing address with
  | nil => rfl
  | cons p params ih =>
      rw [List.forall_mem_cons] at h
      rw [List.map_cons, List.map_cons, endFrom, List.foldl_cons, advance_paramLine, h.1,
        totalBytes, ← Nat.add_assoc]
      exact ih h.2

/-- The values of a component take as many bytes as its structure. -/
theorem endFrom_padded (owner : String) (hvalues : ∀ p ∈ params, FillsWidth p)
    (hnames : ∀ p ∈ params, OneLine p.name) (haddress : address % 2 = 0) :
    endFrom address ((params.map paramLine ++ [Line.even]).map Line.text) =
      address + structBytes owner params := by
  rw [List.map_append, endFrom_append, endFrom_params hvalues, List.map_singleton, endFrom,
    List.foldl_cons, List.foldl_nil, advance_even, structBytes_eq owner hnames]
  omega

/-- So do the values of an entity, which are padded only behind single bytes. -/
theorem endFrom_own (owner : String) (hvalues : ∀ p ∈ params, FillsWidth p)
    (hnames : ∀ p ∈ params, OneLine p.name) (haddress : address % 2 = 0) :
    endFrom address
        ((params.map paramLine ++ if hasByte params then [Line.even] else []).map Line.text) =
      address + structBytes owner params := by
  by_cases hbyte : hasByte params = true
  · rw [if_pos hbyte]
    exact endFrom_padded owner hvalues hnames haddress
  · have heven : totalBytes params % 2 = 0 :=
      totalBytes_mod_two_of_hasByte (by simpa using hbyte)
    rw [if_neg hbyte, List.append_nil, endFrom_params hvalues, structBytes_eq owner hnames, heven,
      Nat.add_zero]

end

/-! ### Ends of blocks -/

/-- The line ends a block: it is the heading of the next one, or the empty line behind the
record. -/
def endsBlock (line : String) : Bool :=
  isHeading line || line.isEmpty

/-- The addresses at which blocks end. -/
def blockEnds (lines : List (Nat × String)) : List Nat :=
  (lines.filter fun line => endsBlock line.2).map Prod.fst

/-- The lines of a record from its first block on. -/
def blocksOf (record : List (Nat × String)) : List (Nat × String) :=
  record.drop (headerLength (record.map Prod.snd))

theorem blockEnds_append (a b : List (Nat × String)) :
    blockEnds (a ++ b) = blockEnds a ++ blockEnds b := by
  simp [blockEnds]

/-- Values and padding end no block. -/
theorem blockEnds_params (params : List Param) {padding : List Line}
    (hpadding : ∀ l ∈ padding, l = .even) (address : Nat) :
    blockEnds (addressesFrom address ((params.map paramLine ++ padding).map Line.text)) = [] := by
  have hline : ∀ l ∈ params.map paramLine ++ padding, endsBlock l.text = false := by
    intro l hl
    rcases List.mem_append.1 hl with hl | hl
    · obtain ⟨p, -, rfl⟩ := List.mem_map.1 hl
      have hne : (paramLine p).text ≠ "" := fun h => nomatch text_eq_empty_iff.1 h
      rw [endsBlock, Bool.or_eq_false_iff]
      exact ⟨isHeading_data p.size p.operand p.name, by simpa using hne⟩
    · rw [hpadding l hl]
      decide
  rw [blockEnds, List.map_eq_nil_iff, List.filter_eq_nil_iff]
  intro line hmem
  obtain ⟨l, hl, heq⟩ := List.mem_map.1 (mem_of_mem_addressesFrom hmem)
  simp [← heq, hline l hl]

/-- How many bytes the blocks of components take, each that has parameters. -/
def componentBytes (components : List Component) : List Nat :=
  (components.filter fun c => c.spawn.params ≠ []).map fun c => structBytes c.name c.spawn.params

/-- From an even address components end one after the other, and behind the last of them
the record does. -/
theorem blockEnds_components {components : List Component}
    (hvalues : ∀ c ∈ components, ∀ p ∈ c.spawn.params, FillsWidth p)
    (hnames : ∀ c ∈ components, ∀ p ∈ c.spawn.params, OneLine p.name) {address : Nat}
    (haddress : address % 2 = 0) :
    blockEnds (addressesFrom address
        ((components.flatMap componentLines ++ [Line.blank]).map Line.text)) =
      (componentBytes components).scanl (· + ·) address := by
  induction components generalizing address with
  | nil => rfl
  | cons c cs ih =>
      rw [List.forall_mem_cons] at hvalues hnames
      by_cases hc : c.spawn.params = []
      · have hnone : componentLines c = [] := by simp [componentLines, hc]
        have hbytes : componentBytes (c :: cs) = componentBytes cs := by simp [componentBytes, hc]
        rw [List.flatMap_cons, hnone, List.nil_append, hbytes]
        exact ih hvalues.2 hnames.2 haddress
      · have hlines : ((c :: cs).flatMap componentLines ++ [Line.blank]).map Line.text =
            (Line.comment c.name).text ::
              ((c.spawn.params.map paramLine ++ [Line.even]).map Line.text ++
                (cs.flatMap componentLines ++ [Line.blank]).map Line.text) := by
          simp [componentLines, hc]
        have hbytes : componentBytes (c :: cs) =
            structBytes c.name c.spawn.params :: componentBytes cs := by
          simp [componentBytes, hc]
        have hheading : ∀ rest, blockEnds ((address, (Line.comment c.name).text) :: rest) =
            address :: blockEnds rest := fun rest => by
          simp [blockEnds, endsBlock, isHeading_comment]
        -- The next component starts at an even address as well, since the padding has seen to it.
        have hnext : (address + structBytes c.name c.spawn.params) % 2 = 0 := by
          rw [structBytes_eq c.name hnames.1]
          omega
        rw [hlines, addressesFrom, advance_comment, hheading, addressesFrom_append,
          blockEnds_append, blockEnds_params _ (by simp), List.nil_append,
          endFrom_padded c.name hvalues.1 hnames.1 haddress, ih hvalues.2 hnames.2 hnext, hbytes,
          List.scanl_cons]

theorem head?_addressesFrom {address : Nat} {lines : List String} (h : lines ≠ []) :
    (addressesFrom address lines).head?.map Prod.fst = some address := by
  cases lines with
  | nil => exact absurd rfl h
  | cons line lines => rfl

theorem oneLine_name_of_paramLine {p : Param} (h : OneLine (paramLine p).text) :
    OneLine p.name := by
  simp only [OneLine, paramLine, Line.text, String.toList_append, List.mem_append, not_or] at h
  exact h.2

section

variable {settings : Settings} {name : String} {id : UInt16} {params : List Param}
  {components : List Component}

/-- A record that keeps to its lines keeps the names of its parameters to theirs. -/
theorem oneLine_names_of_spawnRecord
    (h : ∀ l ∈ spawnRecord settings name id params components, OneLine l.text) :
    (∀ p ∈ params, OneLine p.name) ∧
      ∀ c ∈ components, ∀ p ∈ c.spawn.params, OneLine p.name := by
  refine ⟨fun p hp => ?_, fun c hc p hp => ?_⟩
  · refine oneLine_name_of_paramLine (h _ ?_)
    simp [spawnRecord, List.mem_map_of_mem hp]
  · have hmem : paramLine p ∈ componentLines c := by
      simp [componentLines, List.ne_nil_of_mem hp, List.mem_map_of_mem hp]
    refine oneLine_name_of_paramLine (h _ ?_)
    simp [spawnRecord, List.mem_flatMap_of_mem hc hmem]

/-- Behind the header of a record the block of the entity comes before those of the
components. -/
theorem exists_blocksOf_spawnRecord
    (h : ∀ l ∈ spawnRecord settings name id params components, OneLine l.text) (address : Nat) :
    ∃ start, blocksOf (addressesFrom address
        (sourceLines (render (spawnRecord settings name id params components)))) =
      addressesFrom start
        ((params.map paramLine ++ if hasByte params then [Line.even] else []).map Line.text ++
          (components.flatMap componentLines ++ [Line.blank]).map Line.text) := by
  let lines := (spawnRecord settings name id params components).map Line.text
  have hrecord : spawnRecord settings name id params components =
      debugNameLines settings name "EntitySpawnData_DebugName" ++
        .data .word (Text.hex4 id.toNat) "EntitySpawnData_Id" ::
          ((params.map paramLine ++ if hasByte params then [Line.even] else []) ++
            (components.flatMap componentLines ++ [Line.blank])) := by
    simp [spawnRecord]
  refine ⟨endFrom address (lines.take (headerLength lines)), ?_⟩
  rw [blocksOf, map_snd_addressesFrom, sourceLines_render h, drop_addressesFrom, ← List.map_append,
    hrecord, drop_header, ← hrecord]

/-- The blocks of a record start where the structures say. If the first does at an even
address, the block of the entity and those of the components end one after the other as
far on as the fields of their structures reach. -/
theorem blocks_as_long_as_structures (owner : String)
    (hlines : ∀ l ∈ spawnRecord settings name id params components, OneLine l.text)
    (hparams : ∀ p ∈ params, FillsWidth p)
    (hcomponents : ∀ c ∈ components, ∀ p ∈ c.spawn.params, FillsWidth p)
    (address : Nat) :
    let blocks := blocksOf (addressesFrom address
      (sourceLines (render (spawnRecord settings name id params components))))
    ∃ start, blocks.head?.map Prod.fst = some start ∧
      (start % 2 = 0 → start :: blockEnds blocks =
        (structBytes owner params :: componentBytes components).scanl (· + ·) start) := by
  intro blocks
  obtain ⟨hnames, hcomponentNames⟩ := oneLine_names_of_spawnRecord hlines
  obtain ⟨start, hblocks⟩ := exists_blocksOf_spawnRecord hlines address
  refine ⟨start, ?_, fun hstart => ?_⟩
  · exact (congrArg (fun blocks => blocks.head?.map Prod.fst) hblocks).trans
      (head?_addressesFrom (by simp))
  · have hpadding : ∀ l ∈ (if hasByte params then [Line.even] else []), l = Line.even := by
      split <;> simp
    have hnext : (start + structBytes owner params) % 2 = 0 := by
      rw [structBytes_eq owner hnames]
      omega
    have hends : blockEnds blocks =
        (componentBytes components).scanl (· + ·) (start + structBytes owner params) := by
      dsimp only [blocks]
      rw [hblocks, addressesFrom_append, blockEnds_append, blockEnds_params params hpadding,
        List.nil_append, endFrom_own owner hparams hnames hstart,
        blockEnds_components hcomponents hcomponentNames hnext]
    rw [hends, List.scanl_cons]

end

/-- The entity takes five bytes and has padding behind it, which its single bytes ask for;
the sprite takes three and a byte of padding, and the flight nothing. -/
theorem paired_bat_blocks :
    let params : List Param := ⟨"EBat_Grade", .byte, "\"A\"", []⟩ :: pairedBat.spawn.params
    let record := spawnRecord .default "Bat" 5 params pairedBat.components
    let blocks := blocksOf (addressesFrom 0x200 (sourceLines (render record)))
    (∀ l ∈ record, OneLine l.text) ∧
    (∀ p ∈ params, FillsWidth p) ∧
    (∀ c ∈ pairedBat.components, ∀ p ∈ c.spawn.params, FillsWidth p) ∧
    blocks.head?.map Prod.fst = some 0x212 ∧ blockEnds blocks = [0x218, 0x21C] := by
  intro params record blocks
  have hlines : ∀ l ∈ record, OneLine l.text := by decide +kernel
  have hparams : ∀ p ∈ params, FillsWidth p := by
    have hvalues : ∀ p ∈ pairedBat.spawn.params, IsOperand p.operand := by decide +kernel
    have hquoted : (⟨"EBat_Grade", .byte, "\"A\"", []⟩ : Param).operand = "\"" ++ "A" ++ "\"" := rfl
    have hgrade := (fillsWidth_iff_of_quoted hquoted (by decide)).2 rfl
    exact List.forall_mem_cons.2 ⟨hgrade, fun p hp => fillsWidth_of_isOperand (hvalues p hp)⟩
  have hcomponents : ∀ c ∈ pairedBat.components, ∀ p ∈ c.spawn.params, FillsWidth p := by
    decide +kernel
  obtain ⟨start, hhead, hends⟩ :=
    blocks_as_long_as_structures "EBat" hlines hparams hcomponents 0x200
  have hfirst : blocks.head?.map Prod.fst = some 0x212 := by
    dsimp only [blocks]
    rw [sourceLines_render hlines]
    decide +kernel
  obtain rfl : start = 0x212 := Option.some.inj (hhead.symm.trans hfirst)
  have hsizes : (structBytes "EBat" params ::
      componentBytes pairedBat.components).scanl (· + ·) 0x212 = [0x212, 0x218, 0x21C] := by
    decide +kernel
  exact ⟨hlines, hparams, hcomponents, hfirst,
    (List.cons.inj ((hends (by decide)).trans hsizes)).2⟩

/-- A name that ends its line lays down a byte that no structure knows of, and so do the
characters of a quoted text beyond the width of its parameter. -/
theorem records_outgrow_structures :
    let broken : List Param := [⟨"Speed\n\tdc.b 1", .word, "1", []⟩]
    let quoted : List Param := [⟨"Tag", .byte, "\"abc\"", []⟩]
    let blocksFor := fun params => blocksOf (addressesFrom 0
      (sourceLines (render (spawnRecord ⟨.zero, 16, false⟩ "Bat" 5 params []))))
    (∀ params ∈ [broken, quoted], ∀ p ∈ params,
      (operandsFrom false p.operand.toList).length = 1) ∧
    (∀ params ∈ [broken, quoted], (blocksFor params).head?.map Prod.fst = some 2 ∧
      2 :: blockEnds (blocksFor params) ≠ [structBytes "EBat" params].scanl (· + ·) 2) ∧
    blockEnds (blocksFor broken) = [5] ∧ structBytes "EBat" broken = 2 ∧
    blockEnds (blocksFor quoted) = [6] ∧ structBytes "EBat" quoted = 2 := by
  intro broken quoted blocksFor
  have hbroken : blocksFor broken = [(2, "\tdc.w 1\t; Speed"), (4, "\tdc.b 1"), (5, "")] := by
    decide +kernel
  have hquoted : blocksFor quoted = [(2, "\tdc.b \"abc\"\t; Tag"), (5, "\teven"), (6, "")] := by
    decide +kernel
  have hbrokenEnds : blockEnds (blocksFor broken) = [5] := by
    rw [hbroken]
    decide
  have hquotedEnds : blockEnds (blocksFor quoted) = [6] := by
    rw [hquoted]
    decide
  have hbrokenBytes : structBytes "EBat" broken = 2 := by decide +kernel
  have hquotedBytes : structBytes "EBat" quoted = 2 := by decide +kernel
  refine ⟨by decide, ?_, hbrokenEnds, hbrokenBytes, hquotedEnds, hquotedBytes⟩
  rw [List.forall_mem_cons, List.forall_mem_singleton]
  refine ⟨⟨by rw [hbroken]; rfl, ?_⟩, by rw [hquoted]; rfl, ?_⟩
  · rw [hbrokenEnds, hbrokenBytes]
    decide
  · rw [hquotedEnds, hquotedBytes]
    decide

end Export

end Cartridge
