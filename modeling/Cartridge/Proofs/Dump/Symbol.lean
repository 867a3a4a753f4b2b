import Cartridge.Script.Symbol
import Mathlib.Data.List.Basic
import Mathlib.Data.List.Induction

/-!
Symbols of the grammar: segments joined by double colons, and behind them what
starts as a parameter list or an addend. Template brackets hide whatever stands
between them, so a symbol is cut where its segments meet. The one exception is
a last segment with a colon among its template arguments, which is refused.
-/

namespace Cartridge.Script.Symbol

open Cartridge.Text (isBlank)

/-- The characters of a text outside of its template brackets, `depth` of which
are open in front of it; `none` if the brackets do not balance. -/
def outside? (depth : Nat) : List Char → Option (List Char)
  | [] => if depth = 0 then some [] else none
  | c :: rest =>
    if c = '<' then outside? (depth + 1) rest
    else if c = '>' then if depth = 0 then none else outside? (depth - 1) rest
    else if depth = 0 then (outside? 0 rest).map (c :: ·)
    else outside? depth rest

/-- The character starts a parameter list or an addend. -/
def isEnd (c : Char) : Bool :=
  c == '(' || c == '+' || c == '-'

/-- No colon, no blank and nothing that starts a parameter list or an addend. -/
def IsPlain (text : List Char) : Prop :=
  ∀ c ∈ text, c ≠ ':' ∧ isEnd c = false ∧ isBlank c = false

instance : DecidablePred IsPlain := fun text => List.decidableBAll _ text

/-- A segment has balanced brackets, and outside of them nothing that ends it. -/
def IsSegment (segment : List Char) : Prop :=
  segment ≠ [] ∧ ∃ plain ∈ outside? 0 segment, IsPlain plain

instance : DecidablePred IsSegment := fun segment =>
  inferInstanceAs (Decidable (segment ≠ [] ∧ ∃ plain ∈ outside? 0 segment, IsPlain plain))

/-- What stands behind the names of a symbol: nothing, or what starts as a
parameter list or an addend. -/
def IsRest (rest : List Char) : Prop :=
  rest.head?.all isEnd = true

instance : DecidablePred IsRest := fun rest =>
  inferInstanceAs (Decidable (rest.head?.all isEnd = true))

theorem IsRest.of_prefix {rest front : List Char} (h : IsRest rest) (hfront : front <+: rest) :
    IsRest front := by
  obtain ⟨back, rfl⟩ := hfront
  cases front with
  | nil => rfl
  | cons c front => exact h

/-- Segments with double colons between them. -/
def join (segments : List (List Char)) : List Char :=
  List.intercalate [':', ':'] segments

/-! ### Outside of the brackets -/

theorem outside?_append {depth : Nat} {a plain : List Char}
    (ha : outside? depth a = some plain) (b : List Char) :
    outside? depth (a ++ b) = (outside? 0 b).map (plain ++ ·) := by
  fun_induction outside? depth a generalizing plain with
  | case1 =>
      cases ha
      simp
  | case2 => cases ha
  | case3 depth rest ih => simpa [outside?] using ih ha
  | case4 => cases ha
  | case5 depth rest hdepth _ ih => simpa [outside?, hdepth] using ih ha
  | case6 c rest hopen hclose ih =>
      obtain ⟨others, hothers, rfl⟩ := Option.map_eq_some_iff.1 ha
      simp [outside?, hopen, hclose, ih hothers, Function.comp_def]
  | case7 depth c rest hopen hclose hdepth ih =>
      simpa [outside?, hopen, hclose, hdepth] using ih ha

/-- Balanced text starts with a bracket or outside of them. -/
theorem head_of_outside? {c : Char} {rest plain : List Char}
    (h : outside? 0 (c :: rest) = some plain) : c = '<' ∨ c ∈ plain := by
  by_cases hopen : c = '<'
  · exact .inl hopen
  · by_cases hclose : c = '>'
    · simp [outside?, hclose] at h
    · have hplain : (outside? 0 rest).map (c :: ·) = some plain := by
        simpa [outside?, hopen, hclose] using h
      obtain ⟨others, -, rfl⟩ := Option.map_eq_some_iff.1 hplain
      exact .inr List.mem_cons_self

/-- Balanced text ends with a bracket or outside of them. -/
theorem last_of_outside? {depth : Nat} {c : Char} {front plain : List Char}
    (h : outside? depth (front ++ [c]) = some plain) : c = '>' ∨ c ∈ plain := by
  induction front generalizing depth plain with
  | nil =>
      by_cases hopen : c = '<'
      · simp [outside?, hopen] at h
      · by_cases hclose : c = '>'
        · exact .inl hclose
        · by_cases hdepth : depth = 0
          · obtain rfl : [c] = plain := by simpa [outside?, hopen, hclose, hdepth] using h
            exact .inr List.mem_cons_self
          · simp [outside?, hopen, hclose, hdepth] at h
  | cons d front ih =>
      rw [List.cons_append, outside?] at h
      split at h
      · exact ih h
      · split at h
        · split at h
          · cases h
          · exact ih h
        · split at h
          · obtain ⟨others, hothers, rfl⟩ := Option.map_eq_some_iff.1 h
            exact (ih hothers).imp_right (List.mem_cons_of_mem d)
          · exact ih h

theorem IsSegment.last {c : Char} {front : List Char} (h : IsSegment (front ++ [c])) :
    c ≠ ':' ∧ isEnd c = false ∧ isBlank c = false := by
  obtain ⟨-, plain, hplain, hchars⟩ := h
  rcases last_of_outside? hplain with rfl | hc
  · decide
  · exact hchars c hc

/-! ### Joined segments -/

theorem join_singleton (name : List Char) : join [name] = name :=
  List.intercalate_singleton

theorem join_concat {scope : List (List Char)} (hscope : scope ≠ []) (name : List Char) :
    join (scope ++ [name]) = join scope ++ ':' :: ':' :: name := by
  induction scope with
  | nil => exact absurd rfl hscope
  | cons segment others ih =>
      cases others with
      | nil => simp [join]
      | cons next others =>
          have hothers := ih (List.cons_ne_nil next others)
          simp only [join, List.cons_append, List.intercalate_cons_cons] at hothers ⊢
          rw [hothers, List.append_assoc _ _ (':' :: ':' :: name)]

/-- Joined segments have balanced brackets, and nothing outside of these ends
the names. -/
theorem outside?_join {segments : List (List Char)} (h : ∀ s ∈ segments, IsSegment s) :
    ∃ plain, outside? 0 (join segments) = some plain ∧
      ∀ c ∈ plain, isEnd c = false ∧ isBlank c = false := by
  induction segments using List.reverseRecOn with
  | nil => exact ⟨[], rfl, by simp⟩
  | append_singleton scope name ih =>
      obtain ⟨-, plain, hplain, hchars⟩ := h name (by simp)
      have hname : ∀ c ∈ plain, isEnd c = false ∧ isBlank c = false :=
        fun c hc => (hchars c hc).2
      by_cases hscope : scope = []
      · subst hscope
        exact ⟨plain, by rwa [List.nil_append, join_singleton], hname⟩
      · obtain ⟨front, hfront, hends⟩ := ih fun s hs => h s (by simp [hs])
        have hcolons : outside? 0 (':' :: ':' :: name) = some (':' :: ':' :: plain) := by
          simp [outside?, Option.mem_def.1 hplain]
        have hcolon : isEnd ':' = false ∧ isBlank ':' = false := by decide
        refine ⟨front ++ ':' :: ':' :: plain, ?_, ?_⟩
        · rw [join_concat hscope, outside?_append hfront, hcolons, Option.map_some]
        · simp only [List.mem_append, List.mem_cons]
          rintro c (hc | rfl | rfl | hc)
          · exact hends c hc
          · exact hcolon
          · exact hcolon
          · exact hname c hc

/-- Joined segments start with a bracket or with a character of a name. -/
theorem isBlank_head_join {segments : List (List Char)} (h : ∀ s ∈ segments, IsSegment s) :
    ∀ c ∈ (join segments).head?, isBlank c = false := by
  intro c hc
  obtain ⟨plain, hplain, hends⟩ := outside?_join h
  obtain ⟨rest, hrest⟩ := List.head?_eq_some_iff.1 hc
  rw [hrest] at hplain
  rcases head_of_outside? hplain with rfl | hc
  · decide
  · exact (hends c hc).2

theorem suffix_join (scope : List (List Char)) (name : List Char) :
    name <:+ join (scope ++ [name]) := by
  by_cases hscope : scope = []
  · have hjoin : join (scope ++ [name]) = name := by
      rw [hscope, List.nil_append, join_singleton]
    exact ⟨[], hjoin.symm⟩
  · rw [join_concat hscope]
    exact ⟨join scope ++ [':', ':'], by simp⟩

/-- Joined segments end as the last of them does. -/
theorem exists_join_eq_concat (scope : List (List Char)) {name : List Char}
    (hname : IsSegment name) : ∃ front c, join (scope ++ [name]) = front ++ [c] ∧
      c ≠ ':' ∧ isEnd c = false ∧ isBlank c = false := by
  obtain ⟨before, hbefore⟩ := suffix_join scope name
  obtain ⟨front, c, rfl⟩ := (List.eq_nil_or_concat' name).resolve_left hname.1
  exact ⟨before ++ front, c, by rw [← hbefore, List.append_assoc], hname.last⟩

theorem join_eq_nil_iff {segments : List (List Char)} (h : ∀ s ∈ segments, IsSegment s) :
    join segments = [] ↔ segments = [] := by
  rcases List.eq_nil_or_concat' segments with rfl | ⟨scope, name, rfl⟩
  · simp [join]
  · obtain ⟨front, c, hend, -⟩ := exists_join_eq_concat scope (h name (by simp))
    simp [hend]

/-! ### Cutting -/

/-- The names of a symbol end where a parameter list or an addend starts. -/
theorem names?_append {depth : Nat} {started : Bool} {cs plain after : List Char}
    (hcs : outside? depth cs = some plain)
    (hplain : ∀ c ∈ plain, isEnd c = false ∧ isBlank c = false)
    (hafter : IsRest after) (hstarted : started = true ∨ cs ≠ []) :
    names? depth started (cs ++ after) = some cs := by
  fun_induction outside? depth cs generalizing plain started with
  | case1 =>
      obtain rfl : started = true := hstarted.resolve_right (by simp)
      cases after with
      | nil => rfl
      | cons c rest =>
          have hend : (c = '(' ∨ c = '+') ∨ c = '-' := by simpa [IsRest, isEnd] using hafter
          rcases hend with (rfl | rfl) | rfl <;> rfl
  | case2 => cases hcs
  | case3 depth rest ih => simp [names?, ih hcs hplain (.inl rfl)]
  | case4 => cases hcs
  | case5 depth rest hdepth _ ih =>
      obtain ⟨outer, rfl⟩ := Nat.exists_eq_succ_of_ne_zero hdepth
      have hrest : names? outer true (rest ++ after) = some rest := ih hcs hplain (.inl rfl)
      simp [names?, hrest]
  | case6 c rest hopen hclose ih =>
      obtain ⟨others, hothers, rfl⟩ := Option.map_eq_some_iff.1 hcs
      obtain ⟨hend, hblank⟩ := hplain c List.mem_cons_self
      have hends : (¬c = '(' ∧ ¬c = '+') ∧ ¬c = '-' := by simpa [isEnd] using hend
      have hrest := ih hothers (fun d hd => hplain d (List.mem_cons_of_mem c hd)) (.inl rfl)
      simp [names?, hopen, hclose, hends, hblank, hrest]
  | case7 depth c rest hopen hclose hdepth ih =>
      simp [names?, hopen, hclose, hdepth, ih hcs hplain (.inl rfl)]

/-- Where no colon stands outside of the brackets there is nothing to cut. -/
theorem cutAtLastColons_eq_none {depth : Nat} {cs plain : List Char}
    (hcs : outside? depth cs = some plain) (hplain : ':' ∉ plain) :
    cutAtLastColons depth cs = none := by
  fun_induction outside? depth cs generalizing plain with
  | case1 => rfl
  | case2 => rfl
  | case3 depth rest ih => simp [cutAtLastColons, ih hcs hplain]
  | case4 => cases hcs
  | case5 depth rest hdepth _ ih => simp [cutAtLastColons, ih hcs hplain]
  | case6 c rest hopen hclose ih =>
      obtain ⟨others, hothers, rfl⟩ := Option.map_eq_some_iff.1 hcs
      rw [List.mem_cons, not_or] at hplain
      simp [cutAtLastColons, hopen, hclose, ih hothers hplain.2, Ne.symm hplain.1]
  | case7 depth c rest hopen hclose hdepth ih =>
      simp [cutAtLastColons, hopen, hclose, hdepth, ih hcs hplain]

theorem cutAtLastColons_colons {name plain : List Char}
    (hname : outside? 0 name = some plain) (hplain : ':' ∉ plain) :
    cutAtLastColons 0 (':' :: ':' :: name) = some ([], name) := by
  have hhead : ∀ rest, name ≠ ':' :: rest := by
    rintro rest rfl
    exact (head_of_outside? hname).elim (by decide) hplain
  have hnone := cutAtLastColons_eq_none hname hplain
  -- The second colon has no third one behind it, so only the first one cuts.
  have hsecond : cutAtLastColons 0 (':' :: name) = none := by
    simp [cutAtLastColons, hnone, hhead]
  rw [cutAtLastColons]
  simp [hsecond]

/-- Names are cut at the double colon behind balanced text, if none follows
outside of the brackets. -/
theorem cutAtLastColons_append {depth : Nat} {scope name plain plain' : List Char}
    (hscope : outside? depth scope = some plain) (hname : outside? 0 name = some plain')
    (hplain : ':' ∉ plain') :
    cutAtLastColons depth (scope ++ ':' :: ':' :: name) = some (scope, name) := by
  fun_induction outside? depth scope generalizing plain with
  | case1 => exact cutAtLastColons_colons hname hplain
  | case2 => cases hscope
  | case3 depth rest ih => simp [cutAtLastColons, ih hscope]
  | case4 => cases hscope
  | case5 depth rest hdepth _ ih => simp [cutAtLastColons, ih hscope]
  | case6 c rest hopen hclose ih =>
      obtain ⟨others, hothers, rfl⟩ := Option.map_eq_some_iff.1 hscope
      simp [cutAtLastColons, hopen, hclose, ih hothers]
  | case7 depth c rest hopen hclose hdepth ih =>
      simp [cutAtLastColons, hopen, hclose, ih hscope]

/-- A symbol is cut in front of its last segment, unless there is a colon in
that segment. -/
theorem split?_join {scope : List (List Char)} {name after : List Char}
    (hscope : ∀ s ∈ scope, IsSegment s) (hname : IsSegment name)
    (hafter : IsRest after) :
    split? (join (scope ++ [name]) ++ after) =
      if ':' ∈ name then none else some (join scope, name) := by
  have hsegments : ∀ s ∈ scope ++ [name], IsSegment s := by
    simpa [or_imp, forall_and] using ⟨hscope, hname⟩
  obtain ⟨plain, hplain, hends⟩ := outside?_join hsegments
  obtain ⟨front, c, hlast, -⟩ := exists_join_eq_concat scope hname
  have hnames : names? 0 false (join (scope ++ [name]) ++ after) =
      some (join (scope ++ [name])) :=
    names?_append hplain hends hafter (.inr (by simp [hlast]))
  obtain ⟨hne, outer, houter, hchars⟩ := hname
  have hcolon : ':' ∉ outer := fun h => (hchars ':' h).1 rfl
  rw [split?, hnames]
  rcases List.eq_nil_or_concat' scope with rfl | ⟨before, last, rfl⟩
  · rw [List.nil_append, join_singleton]
    simp [cutAtLastColons_eq_none houter hcolon, hne, join]
  · obtain ⟨inner, hinner, -⟩ := outside?_join hscope
    obtain ⟨start, d, hend, hd, -⟩ := exists_join_eq_concat before (hscope last (by simp))
    have hcut := cutAtLastColons_append hinner houter hcolon
    rw [join_concat (by simp)]
    simp only [hcut]
    simp [hne, hend, hd]

end Cartridge.Script.Symbol
