import Cartridge.Proofs.Assembly.Source

/-!
The addresses of the lines of a source. A directive takes as many bytes as its
operands, each of the width of the directive but for quoted texts, which take a byte
for each character; padding goes on to the next even address. Symbols, remarks and
conditions take nothing, and what is left out of final builds counts.
-/

namespace Cartridge.Assembly

/-- The operands that a text starts with. They are separated by commas and end at a
tab; neither counts between quotes. -/
def operandsFrom (quoted : Bool) : List Char → List (List Char)
  | [] => [[]]
  | c :: cs =>
    if quoted = false ∧ c = '\t' then [[]]
    else if quoted = false ∧ c = ',' then [] :: operandsFrom false cs
    else (operandsFrom (quoted != (c == '"')) cs).modifyHead (c :: ·)

/-- The text is one operand wherever it stands, and no quoted text. -/
def IsOperand (text : String) : Prop :=
  ∀ c ∈ text.toList, c ∉ ['\t', ',', '"']

instance (text : String) : Decidable (IsOperand text) :=
  List.decidableBAll _ text.toList

/-- How many bytes an operand takes. Of a quoted text the quotes take none. -/
def operandBytes (width : Width) (operand : List Char) : Nat :=
  if operand.head? = some '"' then operand.length - 2 else width.bytes

/-- What a directive lays down: the width and the operands. -/
def operands? (line : String) : Option (Width × List (List Char)) :=
  [Width.byte, .word, .long].findSome? fun width =>
    (Text.afterStart ("\t" ++ width.directive ++ " ").toList line.toList).map fun rest =>
      (width, operandsFrom false rest)

/-- How many bytes a line takes, besides padding. -/
def lineBytes (line : String) : Nat :=
  match operands? line with
  | some (width, operands) => (operands.map (operandBytes width)).sum
  | none => 0

/-- The address behind a line. -/
def advance (address : Nat) (line : String) : Nat :=
  if line = "\teven" then address + address % 2 else address + lineBytes line

/-- The lines of a source with their addresses. -/
def addressesFrom (address : Nat) : List String → List (Nat × String)
  | [] => []
  | line :: rest => (address, line) :: addressesFrom (advance address line) rest

/-- The address behind the lines. -/
def endFrom (address : Nat) (lines : List String) : Nat :=
  lines.foldl advance address

theorem addressesFrom_append (address : Nat) (a b : List String) :
    addressesFrom address (a ++ b) =
      addressesFrom address a ++ addressesFrom (endFrom address a) b := by
  induction a generalizing address with
  | nil => rfl
  | cons line a ih => rw [List.cons_append, addressesFrom, ih]; rfl

theorem endFrom_append (address : Nat) (a b : List String) :
    endFrom address (a ++ b) = endFrom (endFrom address a) b :=
  List.foldl_append

theorem drop_addressesFrom (n address : Nat) (lines : List String) :
    (addressesFrom address lines).drop n =
      addressesFrom (endFrom address (lines.take n)) (lines.drop n) := by
  induction n generalizing address lines with
  | zero => rfl
  | succ n ih =>
      cases lines with
      | nil => rfl
      | cons line lines => exact ih (advance address line) lines

theorem map_snd_addressesFrom (address : Nat) (lines : List String) :
    (addressesFrom address lines).map Prod.snd = lines := by
  induction lines generalizing address with
  | nil => rfl
  | cons line lines ih => rw [addressesFrom, List.map_cons, ih]

theorem mem_of_mem_addressesFrom {address : Nat} {lines : List String} {line : Nat × String}
    (h : line ∈ addressesFrom address lines) : line.2 ∈ lines := by
  rw [← map_snd_addressesFrom address lines]
  exact List.mem_map_of_mem h

/-! ### Operands -/

section

variable {c : Char} {cs : List Char}

theorem operandsFrom_cons (h : c ≠ '"') :
    operandsFrom false (c :: cs) =
      if c = '\t' then [[]]
      else if c = ',' then [] :: operandsFrom false cs
      else (operandsFrom false cs).modifyHead (c :: ·) := by
  have hstate : (false != (c == '"')) = false := by simpa using h
  rw [operandsFrom, hstate]
  simp only [true_and]

theorem operandsFrom_quoted_cons (h : c ≠ '"') :
    operandsFrom true (c :: cs) = (operandsFrom true cs).modifyHead (c :: ·) := by
  have hstate : (true != (c == '"')) = true := by simpa using h
  rw [operandsFrom, if_neg (by simp), if_neg (by simp), hstate]

/-- A tab behind a text without quotes ends its operands. -/
theorem operandsFrom_append_tab (h : '"' ∉ cs) (rest : List Char) :
    operandsFrom false (cs ++ '\t' :: rest) = operandsFrom false cs := by
  induction cs with
  | nil => rfl
  | cons c cs ih =>
      rw [List.mem_cons, not_or] at h
      rw [List.cons_append, operandsFrom_cons (Ne.symm h.1), operandsFrom_cons (Ne.symm h.1),
        ih h.2]

theorem notMem_of_mem_operandsFrom (h : '"' ∉ cs) :
    ∀ operand ∈ operandsFrom false cs, '"' ∉ operand := by
  induction cs with
  | nil => simp [operandsFrom]
  | cons c cs ih =>
      rw [List.mem_cons, not_or] at h
      have hcs := ih h.2
      rw [operandsFrom_cons (Ne.symm h.1)]
      split
      · simp
      split
      · simpa using hcs
      · cases hrest : operandsFrom false cs with
        | nil => simp
        | cons operand others =>
            rw [hrest, List.forall_mem_cons] at hcs
            rw [List.modifyHead_cons, List.forall_mem_cons]
            exact ⟨by simp [h.1, hcs.1], hcs.2⟩

/-- A text without separators is one operand. -/
theorem operandsFrom_of_notMem (h : ∀ c ∈ cs, c ∉ ['\t', ',', '"']) :
    operandsFrom false cs = [cs] := by
  induction cs with
  | nil => rfl
  | cons c cs ih =>
      rw [List.forall_mem_cons] at h
      obtain ⟨hc, hcs⟩ := h
      simp only [List.mem_cons, List.not_mem_nil, or_false, not_or] at hc
      rw [operandsFrom_cons hc.2.2, if_neg hc.1, if_neg hc.2.1, ih hcs, List.modifyHead_cons]

/-- A text between quotes belongs to one operand. -/
theorem operandsFrom_quoted (h : '"' ∉ cs) (rest : List Char) :
    operandsFrom true (cs ++ '"' :: rest) =
      (operandsFrom false rest).modifyHead fun operand => cs ++ '"' :: operand := by
  induction cs with
  | nil => rfl
  | cons c cs ih =>
      rw [List.mem_cons, not_or] at h
      rw [List.cons_append, operandsFrom_quoted_cons (Ne.symm h.1), ih h.2,
        List.modifyHead_modifyHead]
      rfl

theorem operandsFrom_quote (h : '"' ∉ cs) (rest : List Char) :
    operandsFrom false ('"' :: (cs ++ '"' :: rest)) =
      (operandsFrom false rest).modifyHead fun operand => '"' :: cs ++ '"' :: operand := by
  have hopen : operandsFrom false ('"' :: (cs ++ '"' :: rest)) =
      (operandsFrom true (cs ++ '"' :: rest)).modifyHead ('"' :: ·) := rfl
  rw [hopen, operandsFrom_quoted h, List.modifyHead_modifyHead]
  rfl

theorem operandsFrom_zeros (zeros : Nat) (rest : List Char) :
    operandsFrom false ((String.join (List.replicate zeros ",0")).toList ++ '\t' :: rest) =
      [] :: List.replicate zeros ['0'] := by
  induction zeros with
  | zero => rfl
  | succ n ih =>
      have htext : (String.join (List.replicate (n + 1) ",0")).toList =
          ',' :: '0' :: (String.join (List.replicate n ",0")).toList := by
        rw [List.replicate_succ, String.join_cons, String.toList_append]
        rfl
      rw [htext, List.cons_append, List.cons_append, operandsFrom_cons (by decide),
        operandsFrom_cons (by decide), ih]
      rfl

end

/-! ### Lines -/

section

variable {address : Nat} {width : Width} {operand remark symbol : String}

theorem operands?_directive (width : Width) (rest : List Char) {line : String}
    (h : line.toList = ("\t" ++ width.directive ++ " ").toList ++ rest) :
    operands? line = some (width, operandsFrom false rest) := by
  rw [operands?, h]
  cases width <;> rfl

theorem operands?_of_head? {line : String} (h : line.toList.head? ≠ some '\t') :
    operands? line = none := by
  have hnone : ∀ pattern : List Char, Text.afterStart ('\t' :: pattern) line.toList = none := by
    intro pattern
    cases hline : line.toList with
    | nil => rfl
    | cons c cs =>
        rw [hline] at h
        have hc : c ≠ '\t' := by simpa using h
        rw [Text.afterStart, if_neg hc.symm]
  rw [operands?, List.findSome?_eq_none_iff]
  intro width hwidth
  cases width <;> exact Option.map_eq_none_iff.2 (hnone _)

theorem operands?_data (width : Width) (operand remark : String) :
    operands? (Line.data width operand remark).text =
      some (width, operandsFrom false (operand.toList ++ '\t' :: ';' :: ' ' :: remark.toList)) := by
  refine operands?_directive width _ ?_
  simp [Line.text]

theorem operands?_name {quoted : String} (h : '"' ∉ quoted.toList) (zeros : Nat) (remark : String) :
    operands? (Line.name quoted zeros remark).text =
      some (.byte, ('"' :: quoted.toList ++ ['"']) :: List.replicate zeros ['0']) := by
  have hoperands : operandsFrom false ('"' :: (quoted.toList ++ '"' ::
      ((String.join (List.replicate zeros ",0")).toList ++ '\t' :: ';' :: ' ' :: remark.toList))) =
      ('"' :: quoted.toList ++ ['"']) :: List.replicate zeros ['0'] := by
    rw [operandsFrom_quote h, operandsFrom_zeros]
    rfl
  rw [operands?_directive .byte _ ?_, hoperands]
  simp [Line.text, nameOperands]

/-! ### Addresses behind lines -/

theorem advance_even (address : Nat) : advance address Line.even.text = address + address % 2 :=
  if_pos rfl

theorem advance_of_none {line : String} (hpadding : line ≠ "\teven") (h : operands? line = none) :
    advance address line = address := by
  rw [advance, if_neg hpadding, lineBytes, h]
  rfl

theorem ne_even_of_operands? {line : String} (h : (operands? line).isSome = true) :
    line ≠ "\teven" := by
  rintro rfl
  revert h
  decide

theorem advance_of_some {line : String} {operands : List (List Char)}
    (h : operands? line = some (width, operands)) :
    advance address line = address + (operands.map (operandBytes width)).sum := by
  rw [advance, if_neg (ne_even_of_operands? (by rw [h]; rfl)), lineBytes, h]

theorem advance_of_head? {line : String} (h : line.toList.head? ≠ some '\t') :
    advance address line = address := by
  refine advance_of_none ?_ (operands?_of_head? h)
  rintro rfl
  exact h rfl

theorem advance_comment (remark : String) :
    advance address (Line.comment remark).text = address := by
  have htext : (Line.comment remark).text.toList = '\t' :: ';' :: ' ' :: remark.toList := by
    simp [Line.text]
  refine advance_of_none ?_ ?_
  · intro h
    rw [h] at htext
    cases htext
  · rw [operands?, htext]
    rfl

/-- The bytes of a word or long stay in step with even addresses unless a text is
quoted. -/
theorem advance_data_mod_two (hwidth : width ≠ .byte) (hoperand : '"' ∉ operand.toList) :
    advance address (Line.data width operand remark).text % 2 = address % 2 := by
  rw [advance_of_some (operands?_data width operand remark), operandsFrom_append_tab hoperand]
  have hoperands := notMem_of_mem_operandsFrom hoperand
  generalize operandsFrom false operand.toList = operands at hoperands
  induction operands with
  | nil => rfl
  | cons first others ih =>
      rw [List.forall_mem_cons] at hoperands
      have hfirst : first.head? ≠ some '"' := fun h => hoperands.1 (List.mem_of_head? h)
      have hbytes : width.bytes % 2 = 0 := by cases width <;> simp_all [Width.bytes]
      have hothers := ih hoperands.2
      rw [List.map_cons, List.sum_cons, operandBytes, if_neg hfirst]
      omega

theorem advance_name {quoted : String} (h : '"' ∉ quoted.toList) (zeros : Nat) :
    advance address (Line.name quoted zeros remark).text =
      address + (quoted.toList.length + zeros) := by
  rw [advance_of_some (operands?_name h zeros remark)]
  simp [operandBytes, Width.bytes]

/-- A single operand takes as many bytes as its directive says. -/
theorem advance_data_operand (h : IsOperand operand) :
    advance address (Line.data width operand remark).text = address + width.bytes := by
  have hquote : '"' ∉ operand.toList := fun hmem => h _ hmem (by decide)
  have hhead : operand.toList.head? ≠ some '"' := fun hhead => hquote (List.mem_of_head? hhead)
  rw [advance_of_some (operands?_data width operand remark), operandsFrom_append_tab hquote,
    operandsFrom_of_notMem h]
  simp [operandBytes, hhead]

end

end Cartridge.Assembly
