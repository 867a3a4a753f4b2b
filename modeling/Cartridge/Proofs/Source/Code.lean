import Cartridge.Source.Scan
import Mathlib.Data.List.Basic

/-!
The code of a source: its lines without the blank ones and without macro
definitions. Blocks are made of code; what stands in a macro definition or in a
comment neither opens nor closes one.
-/

namespace Cartridge.Source

open Cartridge.Text

/-- Whether the lines after `l` are inside a macro definition. -/
def macroAfter (inMacro : Bool) (l : Line) : Bool :=
  if inMacro then !l.mentions "endm" else l.mentions "macro"

/-- The line is part of no macro definition and not blank. -/
def isCode (inMacro : Bool) (l : Line) : Bool :=
  !inMacro && !l.mentions "macro" && !l.words.isEmpty

/-- The code among lines, given whether these start inside a macro definition. -/
def codeFrom (inMacro : Bool) : List Line → List Line
  | [] => []
  | l :: rest =>
    if isCode inMacro l then l :: codeFrom (macroAfter inMacro l) rest
    else codeFrom (macroAfter inMacro l) rest

/-- Whether lines end inside a macro definition. -/
def endsInMacro (inMacro : Bool) (lines : List Line) : Bool :=
  lines.foldl macroAfter inMacro

/-- The code of a source. -/
def code (source : String) : List Line :=
  codeFrom false (numberLines 1 (lines source))

theorem mentions_of_words {l : Line} (h : l.words = []) (word : String) :
    l.mentions word = false := by
  rw [Line.mentions, h, List.any_nil]

theorem isCode_iff {inMacro : Bool} {l : Line} : isCode inMacro l = true ↔
    inMacro = false ∧ l.mentions "macro" = false ∧ l.words.isEmpty = false := by
  simp [isCode, and_assoc]

/-- Behind code no macro definition is open. -/
theorem macroAfter_of_isCode {inMacro : Bool} {l : Line} (hl : isCode inMacro l = true) :
    macroAfter inMacro l = false := by
  obtain ⟨rfl, hfree, -⟩ := isCode_iff.1 hl
  simp [macroAfter, hfree]

theorem codeFrom_append (inMacro : Bool) (a b : List Line) :
    codeFrom inMacro (a ++ b) = codeFrom inMacro a ++ codeFrom (endsInMacro inMacro a) b := by
  induction a generalizing inMacro with
  | nil => rfl
  | cons l rest ih =>
      rw [List.cons_append, codeFrom, codeFrom, ih, endsInMacro, endsInMacro, List.foldl_cons]
      split <;> rfl

theorem isCode_of_mem_codeFrom {inMacro : Bool} {lines : List Line} {l : Line}
    (h : l ∈ codeFrom inMacro lines) : isCode false l = true := by
  induction lines generalizing inMacro with
  | nil => cases h
  | cons l' rest ih =>
      rw [codeFrom] at h
      split at h
      · next hcode =>
          rcases List.mem_cons.1 h with rfl | h
          · obtain ⟨rfl, -⟩ := isCode_iff.1 hcode
            exact hcode
          · exact ih h
      · exact ih h

theorem isCode_of_mem_code {source : String} {l : Line} (h : l ∈ code source) :
    isCode false l = true :=
  isCode_of_mem_codeFrom h

/-! ### Blocks of code -/

section

variable {l : Line} (hl : isCode false l = true) (rest : List Line)

include hl

/-- One line of code outside of a block. -/
theorem blocksFrom_none :
    blocksFrom false none (l :: rest) =
      match l.begins? with
      | none => blocksFrom false none rest
      | some (kind, none) => .error ⟨l.number, columnOf kind.beginMarker l.raw, .unnamedBlock kind⟩
      | some (kind, some name) => blocksFrom false (some ⟨kind, name, l.number, []⟩) rest := by
  obtain ⟨-, hfree, hwords⟩ := isCode_iff.1 hl
  rcases hbegins : l.begins? with _ | ⟨kind, _ | name⟩ <;>
    simp [blocksFrom, hfree, hwords, hbegins]

/-- One line of code in an open block. -/
theorem blocksFrom_some (block : TextBlock) :
    blocksFrom false (some block) (l :: rest) =
      if l.mentions block.kind.endMarker then (blocksFrom false none rest).map (block :: ·)
      else blocksFrom false (some { block with lines := block.lines ++ [l] }) rest := by
  obtain ⟨-, hfree, hwords⟩ := isCode_iff.1 hl
  rw [blocksFrom, if_neg (by simp [hwords]), if_neg (by simp), if_neg (by simp [hfree])]

end

/-- A line that is no code changes nothing but whether a macro definition is
open. -/
theorem blocksFrom_of_not_code {inMacro : Bool} {l : Line} (hl : isCode inMacro l = false)
    (current : Option TextBlock) (rest : List Line) :
    blocksFrom inMacro current (l :: rest) = blocksFrom (macroAfter inMacro l) current rest := by
  rw [blocksFrom.eq_def]
  by_cases hblank : l.words = []
  · simp only [hblank, List.isEmpty_nil, if_true]
    cases inMacro <;> simp [macroAfter, mentions_of_words hblank]
  · cases inMacro with
    | true => simp [hblank, macroAfter]
    | false =>
        have hhead : l.mentions "macro" = true := by
          simpa [isCode, hblank] using hl
        simp [hblank, macroAfter, hhead]

/-- The blocks of lines are those of their code. -/
theorem blocksFrom_codeFrom (inMacro : Bool) (current : Option TextBlock) (lines : List Line) :
    blocksFrom inMacro current lines = blocksFrom false current (codeFrom inMacro lines) := by
  induction lines generalizing inMacro current with
  | nil => cases current <;> rfl
  | cons l rest ih =>
      rw [codeFrom]
      split
      · next hcode =>
          rw [macroAfter_of_isCode hcode]
          obtain ⟨rfl, -⟩ := isCode_iff.1 hcode
          cases current with
          | none =>
              rw [blocksFrom_none hcode, blocksFrom_none hcode]
              split
              · exact ih false none
              · rfl
              · exact ih false _
          | some block => rw [blocksFrom_some hcode, blocksFrom_some hcode, ih, ih]
      · next hcode => rw [blocksFrom_of_not_code (by simpa using hcode), ih]

theorem scan_eq_blocksFrom_code (source : String) :
    scan source = blocksFrom false none (code source) :=
  blocksFrom_codeFrom false none _

end Cartridge.Source
