import Cartridge.Assembly.Line
import Cartridge.Proofs.Cutting
import Mathlib.Data.List.Basic

/-!
Assembly source read back from its text. A source is cut into lines at its
line ends; a symbol is defined by the line that holds it and a colon, and its
block runs from there to the next empty line.
-/

namespace Cartridge.Assembly

open Cartridge.Text (OneLine)

/-- The lines of a source, each of which has a line end. -/
def sourceLines (source : String) : List String :=
  (Text.splitAtChar '\n' source.toList).dropLast.map String.ofList

/-- Lines as text, each with a line end. -/
def joinLines (lines : List String) : String :=
  String.join (lines.map (· ++ "\n"))

@[simp] theorem joinLines_nil : joinLines [] = "" := rfl

@[simp] theorem joinLines_cons (line : String) (lines : List String) :
    joinLines (line :: lines) = line ++ "\n" ++ joinLines lines := by
  simp [joinLines]

theorem joinLines_append (a b : List String) : joinLines (a ++ b) = joinLines a ++ joinLines b := by
  simp [joinLines]

/-- A text that ends in a line end is made of lines. -/
theorem exists_lines {cs : List Char} (h : ∀ c ∈ cs.getLast?, c = '\n') :
    ∃ lines, cs = (joinLines lines).toList ∧
      ∀ line ∈ lines, OneLine line ∧ ∀ c ∈ line.toList, c ∈ cs := by
  induction cs with
  | nil => exact ⟨[], rfl, by simp⟩
  | cons c cs ih =>
      have hrest : ∀ d ∈ cs.getLast?, d = '\n' := by
        cases cs with
        | nil => simp
        | cons d cs => rwa [List.getLast?_cons_cons] at h
      obtain ⟨lines, rfl, hlines⟩ := ih hrest
      have hlines : ∀ line ∈ lines, OneLine line ∧
          ∀ d ∈ line.toList, d ∈ c :: (joinLines lines).toList := fun line hline =>
        ⟨(hlines line hline).1, fun d hd => List.mem_cons_of_mem c ((hlines line hline).2 d hd)⟩
      by_cases hc : c = '\n'
      · exact ⟨"" :: lines, by simp [hc],
          List.forall_mem_cons.2 ⟨⟨by decide, by simp⟩, hlines⟩⟩
      · cases lines with
        | nil => exact absurd (h c (by simp)) hc
        | cons line lines =>
            obtain ⟨⟨hline, hmem⟩, hlines⟩ := List.forall_mem_cons.1 hlines
            refine ⟨String.ofList (c :: line.toList) :: lines, by simp,
              List.forall_mem_cons.2 ⟨⟨?_, ?_⟩, hlines⟩⟩
            · rw [Text.oneLine_ofList, List.mem_cons, not_or]
              exact ⟨Ne.symm hc, hline⟩
            · rw [String.toList_ofList]
              exact List.forall_mem_cons.2 ⟨List.mem_cons_self, hmem⟩

theorem joinLines_map {α : Type} {text line : α → String} (h : ∀ x, text x = line x ++ "\n")
    (xs : List α) : String.join (xs.map text) = joinLines (xs.map line) := by
  rw [joinLines, List.map_map, funext h]
  rfl

/-- Text is read back line by line. -/
theorem sourceLines_joinLines {lines : List String} (h : ∀ line ∈ lines, OneLine line) :
    sourceLines (joinLines lines) = lines := by
  induction lines with
  | nil => rfl
  | cons line lines ih =>
      rw [List.forall_mem_cons] at h
      have htext : (line ++ "\n" ++ joinLines lines).toList =
          line.toList ++ '\n' :: (joinLines lines).toList := by simp
      have hrest := ih h.2
      rw [sourceLines] at hrest
      rw [sourceLines, joinLines_cons, htext, Text.splitAtChar_append h.1,
        List.dropLast_cons_of_ne_nil (Text.splitAtChar_ne_nil _ _), List.map_cons, hrest,
        String.ofList_toList]

/-- What was rendered is read back line by line. -/
theorem sourceLines_render {lines : List Line} (h : ∀ l ∈ lines, OneLine l.text) :
    sourceLines (render lines) = lines.map Line.text := by
  have htext : render lines = joinLines (lines.map Line.text) := by
    rw [render, joinLines, List.map_map]
    rfl
  rw [htext, sourceLines_joinLines (List.forall_mem_map.2 h)]

/-! ### Symbols -/

def Line.label? : Line → Option String
  | .label symbol => some symbol
  | _ => none

/-- The symbols that the lines define. -/
def labels (lines : List Line) : List String :=
  lines.filterMap Line.label?

@[simp] theorem labels_append (a b : List Line) : labels (a ++ b) = labels a ++ labels b :=
  List.filterMap_append

@[simp] theorem labels_nil : labels [] = [] := rfl

@[simp] theorem labels_cons (l : Line) (ls : List Line) :
    labels (l :: ls) = l.label?.toList ++ labels ls := by
  rw [labels, List.filterMap_cons]
  cases l.label? <;> rfl

theorem labels_flatMap {α : Type} (f : α → List Line) (xs : List α) :
    labels (xs.flatMap f) = xs.flatMap fun x => labels (f x) := by
  induction xs with
  | nil => rfl
  | cons x xs ih => rw [List.flatMap_cons, labels_append, ih, List.flatMap_cons]

theorem labels_flatMap_eq_map {α : Type} {f : α → List Line} {symbol : α → String}
    (h : ∀ x, labels (f x) = [symbol x]) (xs : List α) :
    labels (xs.flatMap f) = xs.map symbol := by
  rw [labels_flatMap, List.map_eq_flatMap]
  exact List.flatMap_congr fun x _ => h x

theorem head?_text {l : Line} (hlabel : l.label? = none) (hblank : l ≠ .blank) :
    l.text.toList.head? = some '\t' := by
  cases l with
  | blank => exact absurd rfl hblank
  | label symbol => cases hlabel
  | data size operand remark =>
      simp only [Line.text, String.toList_append]
      rfl
  | name quoted zeros remark =>
      simp only [Line.text, String.toList_append]
      rfl
  | comment remark =>
      simp only [Line.text, String.toList_append]
      rfl
  | even => rfl
  | unlessFinal => rfl
  | endCondition => rfl

theorem text_eq_empty_iff {l : Line} : l.text = "" ↔ l = .blank := by
  constructor
  · intro h
    by_contra hblank
    cases hlabel : l.label? with
    | none =>
        have htab := head?_text hlabel hblank
        rw [h] at htab
        cases htab
    | some symbol =>
        cases l <;> cases hlabel
        simp [Line.text] at h
  · rintro rfl
    rfl

/-- Only a label reads as a symbol and a colon, unless the symbol starts with
the tab that the lines of code start with. -/
theorem text_eq_label_iff {l : Line} {symbol : String}
    (hsymbol : symbol.toList.head? ≠ some '\t') :
    l.text = symbol ++ ":" ↔ l.label? = some symbol := by
  cases hlabel : l.label? with
  | some s =>
      cases l <;> cases hlabel
      simp [Line.text]
  | none =>
      have hne : l.text ≠ symbol ++ ":" := by
        intro h
        by_cases hblank : l = .blank
        · rw [text_eq_empty_iff.2 hblank] at h
          exact absurd h.symm (by simp)
        · have htab := head?_text hlabel hblank
          rw [h, String.toList_append] at htab
          cases hcs : symbol.toList with
          | nil => rw [hcs] at htab; cases htab
          | cons c cs => rw [hcs] at htab hsymbol; exact hsymbol htab
      simp [hne]

theorem count_text_label {symbol : String} (hsymbol : symbol.toList.head? ≠ some '\t')
    (lines : List Line) :
    (lines.map Line.text).count (symbol ++ ":") = (labels lines).count symbol := by
  induction lines with
  | nil => rfl
  | cons l ls ih =>
      rw [List.map_cons, List.count_cons, ih, labels_cons]
      cases hl : l.label? with
      | none =>
          have htext : l.text ≠ symbol ++ ":" := by
            rw [ne_eq, text_eq_label_iff hsymbol, hl]
            simp
          simp [htext]
      | some s =>
          have htext : l.text = symbol ++ ":" ↔ s = symbol := by
            rw [text_eq_label_iff hsymbol, hl, Option.some.injEq]
          simp [List.count_cons, htext]

/-- The symbol that a line of source defines: a colon follows it, and it does not
start with the tab that the lines of code start with. -/
def definedSymbol? (line : String) : Option String :=
  if line.toList.head? ≠ some '\t' ∧ line.toList.getLast? = some ':' then
    some (String.ofList line.toList.dropLast)
  else none

theorem definedSymbol?_text {l : Line}
    (h : ∀ symbol ∈ l.label?, symbol.toList.head? ≠ some '\t') :
    definedSymbol? l.text = l.label? := by
  cases hlabel : l.label? with
  | some symbol =>
      have hsymbol := h symbol hlabel
      have htext := (text_eq_label_iff hsymbol).2 hlabel
      have hhead : (symbol ++ ":").toList.head? ≠ some '\t' := by
        rw [String.toList_append, List.head?_append]
        cases hcs : symbol.toList.head? with
        | none => decide
        | some c => rwa [hcs] at hsymbol
      rw [definedSymbol?, htext, if_pos ⟨hhead, by simp⟩]
      simp
  | none =>
      refine if_neg fun hdefined => ?_
      by_cases hblank : l = .blank
      · rw [text_eq_empty_iff.2 hblank] at hdefined
        exact absurd hdefined.2 (by decide)
      · exact hdefined.1 (head?_text hlabel hblank)

/-- The symbols that the lines of a source define. -/
def definedSymbols (source : List String) : List String :=
  source.filterMap definedSymbol?

theorem definedSymbols_text {lines : List Line}
    (h : ∀ symbol ∈ labels lines, symbol.toList.head? ≠ some '\t') :
    definedSymbols (lines.map Line.text) = labels lines := by
  rw [definedSymbols, List.filterMap_map, labels]
  refine List.filterMap_congr fun l hl => definedSymbol?_text fun symbol hsymbol => ?_
  exact h symbol (List.mem_filterMap.2 ⟨l, hl, hsymbol⟩)

/-! ### Blocks -/

/-- The lines that follow the first definition of a symbol. -/
def below (symbol : String) (lines : List String) : List String :=
  (lines.dropWhile fun line => line ≠ symbol ++ ":").drop 1

/-- The lines that follow the first definition of a symbol, up to an empty
one. -/
def block (symbol : String) (lines : List String) : List String :=
  ((lines.dropWhile fun line => line ≠ symbol ++ ":").drop 1).takeWhile fun line => line ≠ ""

/-- The groups of lines that follow the first definition of a symbol with an empty
line after each, up to a group without lines. -/
def paragraphs (symbol : String) (lines : List String) : List (List String) :=
  ((below symbol lines).splitOnP fun line => line = "").takeWhile fun group => group ≠ []

section

variable {symbol : String} {lines before after : List Line}

theorem below_of_notMem (hsymbol : symbol.toList.head? ≠ some '\t') (h : symbol ∉ labels before) :
    below symbol ((before ++ Line.label symbol :: after).map Line.text) = after.map Line.text := by
  have hbefore : ∀ line ∈ before.map Line.text, line ≠ symbol ++ ":" := by
    intro line hline heq
    obtain ⟨l, hl, rfl⟩ := List.mem_map.1 hline
    exact h (List.mem_filterMap.2 ⟨l, hl, (text_eq_label_iff hsymbol).1 heq⟩)
  rw [below, List.map_append, List.dropWhile_append_of_pos (by simpa using hbefore),
    List.map_cons, List.dropWhile_cons_of_neg (by simp [Line.text]), List.drop_succ_cons,
    List.drop_zero]

/-- What stands below a symbol that is defined once. -/
theorem below_of_count (hsymbol : symbol.toList.head? ≠ some '\t')
    (hlines : lines = before ++ Line.label symbol :: after)
    (hcount : (labels lines).count symbol = 1) :
    below symbol (lines.map Line.text) = after.map Line.text := by
  have hbefore : symbol ∉ labels before := by
    rw [← List.count_eq_zero]
    rw [hlines, labels_append, List.count_append, labels_cons, Line.label?,
      Option.toList_some, List.singleton_append, List.count_cons_self] at hcount
    omega
  rw [hlines, below_of_notMem hsymbol hbefore]

/-- The block of a symbol that is defined once is what stands between its
definition and the next blank line. -/
theorem block_of_count {body : List Line} (hsymbol : symbol.toList.head? ≠ some '\t')
    (hlines : lines = before ++ Line.label symbol :: (body ++ after))
    (hcount : (labels lines).count symbol = 1) (hbody : Line.blank ∉ body)
    (hafter : after.head?.all fun l => l = .blank) :
    block symbol (lines.map Line.text) = body.map Line.text := by
  have hkeep : ∀ l ∈ body, l ≠ .blank := fun l hl hblank => hbody (hblank ▸ hl)
  have hstop : after.takeWhile (fun l => decide (l ≠ .blank)) = [] := by
    cases after with
    | nil => rfl
    | cons l ls =>
        have hl : l = .blank := by simpa using hafter
        simp [hl]
  have hempty : (fun line : String => decide (line ≠ "")) ∘ Line.text =
      fun l => decide (l ≠ .blank) := by
    funext l
    simp [text_eq_empty_iff]
  have hblock : block symbol (lines.map Line.text) =
      (below symbol (lines.map Line.text)).takeWhile fun line => line ≠ "" := rfl
  rw [hblock, below_of_count hsymbol hlines hcount, List.takeWhile_map, hempty,
    List.takeWhile_append_of_pos (by simpa using hkeep), hstop, List.append_nil]

/-- The paragraphs of a symbol that is defined once. -/
theorem paragraphs_of_count {rows : List (List Line)} (hsymbol : symbol.toList.head? ≠ some '\t')
    (hlines : lines = before ++
      Line.label symbol :: (rows.flatMap (fun row => row ++ [Line.blank]) ++ Line.blank :: after))
    (hcount : (labels lines).count symbol = 1) (hrows : ∀ row ∈ rows, row ≠ [] ∧ Line.blank ∉ row) :
    paragraphs symbol (lines.map Line.text) = rows.map (List.map Line.text) := by
  rw [paragraphs, below_of_count hsymbol hlines hcount]
  clear hlines
  induction rows with
  | nil => simp [Line.text, List.splitOnP_cons_eq_if_modifyHead]
  | cons row rows ih =>
      rw [List.forall_mem_cons] at hrows
      have hrow : ∀ line ∈ row.map Line.text, decide (line = "") = false := by
        intro line hline
        obtain ⟨l, hl, rfl⟩ := List.mem_map.1 hline
        rw [decide_eq_false_iff_not, text_eq_empty_iff]
        rintro rfl
        exact hrows.1.2 hl
      rw [List.flatMap_cons, List.append_assoc, List.append_assoc, List.map_append,
        List.singleton_append, List.map_cons,
        List.splitOnP_append_cons_of_forall_mem hrow _ (by simp [Line.text]),
        List.takeWhile_cons_of_pos (by simpa using hrows.1.1), ih hrows.2, List.map_cons]

end

end Cartridge.Assembly
