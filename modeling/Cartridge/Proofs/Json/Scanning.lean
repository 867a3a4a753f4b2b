import Cartridge.Json.Token
import Cartridge.Json.Writer
import Cartridge.Proofs.Numeral
import Mathlib.Data.List.TakeWhile

/-!
Scanning what the writer writes. Each piece of a written document is scanned
into its own tokens, whatever comes before it and after it, so the tokens of
the pieces make up those of the document: `tokens?_pretty` and `tokens?_render`.
-/

namespace Cartridge.Json

open Cartridge.Text

/-! ### Single characters -/

namespace Scan

theorem step_between (found : List Token) (c : Char) :
    step ⟨.between, found⟩ c = start found c := rfl

theorem step_word (seen : List Char) (found : List Token) (c : Char) :
    step ⟨.word seen, found⟩ c = if isWordChar c then some ⟨.word (c :: seen), found⟩
      else (Token.ofWord? seen.reverse).bind fun token => start (token :: found) c := rfl

theorem step_quoted (seen : List Char) (found : List Token) (c : Char) :
    step ⟨.quoted seen, found⟩ c =
      if c = '"' then
        (Token.ofQuoted? seen.reverse).map fun token => ⟨.between, token :: found⟩
      else if c = '\\' then some ⟨.escape (c :: seen), found⟩
      else if c.toNat < 0x20 then none
      else some ⟨.quoted (c :: seen), found⟩ := rfl

end Scan

/-- The characters are scanned into the tokens, as long as the next character
does not go on with a word. -/
def Scans (cs : List Char) (tokens : List Token) : Prop :=
  ∀ found c rest, isWordChar c = false →
    (cs ++ c :: rest).foldlM Scan.step ⟨.between, found⟩ =
      (c :: rest).foldlM Scan.step ⟨.between, tokens.reverse ++ found⟩

namespace Scans

theorem nil : Scans [] [] := fun _ _ _ _ => rfl

variable {a b cs : List Char} {s t : List Token}

theorem append (ha : Scans a s) (hb : Scans b t)
    (hstart : ∀ c ∈ b.head?, isWordChar c = false) : Scans (a ++ b) (s ++ t) := by
  intro found c rest hc
  rw [List.append_assoc, List.reverse_append, List.append_assoc, ← hb _ c rest hc]
  cases b with
  | nil => exact ha found c rest hc
  | cons d ds => exact ha found d (ds ++ c :: rest) (hstart d rfl)

/-- A character that stands for itself, or for nothing. -/
theorem cons {c : Char} (hc : ∀ found, Scan.start found c = some ⟨.between, s.reverse ++ found⟩)
    (h : Scans cs t) : Scans (c :: cs) (s ++ t) := by
  intro found d rest hd
  rw [List.cons_append, List.foldlM_cons, Scan.step_between, hc, List.reverse_append,
    List.append_assoc]
  exact h _ d rest hd

end Scans

/-! ### Words -/

theorem foldlM_word {word : List Char} (hword : ∀ c ∈ word, isWordChar c = true)
    (seen : List Char) (found : List Token) (rest : List Char) :
    (word ++ rest).foldlM Scan.step ⟨.word seen, found⟩ =
      rest.foldlM Scan.step ⟨.word (word.reverse ++ seen), found⟩ := by
  induction word generalizing seen with
  | nil => rfl
  | cons c cs ih =>
      rw [List.cons_append, List.foldlM_cons, Scan.step_word,
        if_pos (hword c List.mem_cons_self), List.reverse_cons, List.append_assoc]
      exact ih (fun d hd => hword d (List.mem_cons_of_mem c hd)) (c :: seen)

theorem start_of_isWordChar {c : Char} (hc : isWordChar c = true) (found : List Token) :
    Scan.start found c = some ⟨.word [c], found⟩ := by
  have hblank : isJsonBlank c = false := by
    by_contra h
    simp only [Bool.not_eq_false, isJsonBlank, Bool.or_eq_true, beq_iff_eq] at h
    rcases h with ((rfl | rfl) | rfl) | rfl <;> cases hc
  have hquote : c ≠ '"' := by
    rintro rfl
    cases hc
  rw [Scan.start, hblank, if_neg hquote, hc]
  rfl

/-- A word is one token. -/
theorem scans_word {word : List Char} {token : Token} (hne : word ≠ [])
    (hword : ∀ c ∈ word, isWordChar c = true) (htoken : Token.ofWord? word = some token) :
    Scans word [token] := by
  intro found d rest hd
  obtain ⟨c, cs, rfl⟩ := List.exists_cons_of_ne_nil hne
  have hcs := foldlM_word (fun e he => hword e (List.mem_cons_of_mem c he)) [c] found (d :: rest)
  have hreverse : (cs.reverse ++ [c]).reverse = c :: cs := by simp
  rw [List.cons_append, List.foldlM_cons, Scan.step_between,
    start_of_isWordChar (hword c List.mem_cons_self)]
  refine hcs.trans ?_
  rw [List.foldlM_cons, Scan.step_word, hd, hreverse, htoken]
  rfl

theorem scans_null : Scans "null".toList [.scalar .null] :=
  scans_word (by decide) (List.all_eq_true.1 rfl) rfl

theorem scans_bool : ∀ b, Scans (scalar (.bool b)) [.scalar (.bool b)]
  | true => scans_word (by decide) (List.all_eq_true.1 rfl) rfl
  | false => scans_word (by decide) (List.all_eq_true.1 rfl) rfl

/-! ### Integers -/

theorem isDigit_decimalDigit {n : Nat} (h : n < 10) : (decimalDigit n).isDigit = true := by
  interval_cases n <;> decide

theorem isDigit_of_mem_decimal {n : Nat} {c : Char} (h : c ∈ decimal n) :
    c.isDigit = true := by
  fun_induction decimal n with
  | case1 n hn => simpa [List.mem_singleton.1 h] using isDigit_decimalDigit hn
  | case2 n hn ih =>
      rcases List.mem_append.1 h with h | h
      · exact ih h
      · rw [List.mem_singleton.1 h]
        exact isDigit_decimalDigit (Nat.mod_lt n (by decide))

theorem isWordChar_of_isDigit {c : Char} (h : c.isDigit = true) : isWordChar c = true := by
  rw [isWordChar, Char.isAlphanum, h]
  simp

/-- Only zero itself is written with a zero in front. -/
theorem tail_of_decimal_eq_cons {n : Nat} {cs : List Char} (h : decimal n = '0' :: cs) :
    cs = [] := by
  have hzero : n = 0 := by
    fun_induction decimal n generalizing cs with
    | case1 n hn =>
        have hdigit := decimalDigit?_decimalDigit hn
        have hvalue : decimalDigit? '0' = some 0 := by decide
        rw [(List.cons.inj h).1, hvalue] at hdigit
        exact (Option.some.inj hdigit).symm
    | case2 n hn ih =>
        -- The first digit is that of the tenth part, which is not zero.
        obtain ⟨d, ds, hds⟩ := List.exists_cons_of_ne_nil (decimal_ne_nil (n / 10))
        rw [hds, List.cons_append] at h
        rw [(List.cons.inj h).1] at hds
        have := ih hds
        omega
  rw [hzero, decimal, if_pos (by decide)] at h
  exact (List.cons.inj h).2.symm

theorem exists_decimal_eq_cons (n : Nat) :
    ∃ c cs, decimal n = c :: cs ∧ c ≠ '-' ∧ (c = '0' → cs = []) := by
  obtain ⟨c, cs, hcs⟩ := List.exists_cons_of_ne_nil (decimal_ne_nil n)
  refine ⟨c, cs, hcs, ?_, ?_⟩
  · rintro rfl
    cases isDigit_of_mem_decimal (hcs ▸ List.mem_cons_self)
  · rintro rfl
    exact tail_of_decimal_eq_cons hcs

theorem digits?_decimal (n : Nat) : digits? (decimal n) = some (decimal n, []) := by
  have htake : (decimal n).takeWhile Char.isDigit = decimal n :=
    List.takeWhile_eq_self_iff.2 fun c hc => isDigit_of_mem_decimal hc
  have hdrop : (decimal n).dropWhile Char.isDigit = [] :=
    List.dropWhile_eq_nil_iff.2 fun c hc => isDigit_of_mem_decimal hc
  rw [digits?, htake, hdrop, if_neg (by simpa using decimal_ne_nil n)]

theorem number?_decimal (n : Nat) : number? (decimal n) = some (.integer n) := by
  have hdigits := digits?_decimal n
  have hread := readDecimal?_decimal n
  obtain ⟨c, cs, hcs, hminus, hzero⟩ := exists_decimal_eq_cons n
  rw [hcs] at hdigits hread ⊢
  simpa [number?, hminus, hdigits, hread] using hzero

theorem number?_minus_decimal {n : Nat} (hn : n ≠ 0) :
    number? ('-' :: decimal n) = some (.integer (-n)) := by
  have hdigits := digits?_decimal n
  have hread := readDecimal?_decimal n
  obtain ⟨c, cs, hcs, -, hzero⟩ := exists_decimal_eq_cons n
  rw [hcs] at hdigits hread ⊢
  simpa [number?, hdigits, hread, hn] using hzero

theorem number?_decimalInt (i : Int) : number? (decimalInt i) = some (.integer i) := by
  rw [decimalInt]
  split
  · next hi =>
      rw [number?_minus_decimal (by omega)]
      congr 2
      omega
  · next hi =>
      rw [number?_decimal]
      congr 2
      omega

theorem isDigit_of_mem_decimalInt {i : Int} {c : Char} (h : c ∈ decimalInt i) :
    c = '-' ∨ c.isDigit = true := by
  rw [decimalInt] at h
  split at h
  · exact (List.mem_cons.1 h).imp id isDigit_of_mem_decimal
  · exact .inr (isDigit_of_mem_decimal h)

theorem decimalInt_ne_nil (i : Int) : decimalInt i ≠ [] := by
  rw [decimalInt]
  split
  · exact List.cons_ne_nil _ _
  · exact decimal_ne_nil _

/-- A word with a letter in it is no integer. -/
theorem decimalInt_ne {i : Int} {word : List Char} {c : Char} (hc : c ∈ word)
    (hletter : c ≠ '-' ∧ c.isDigit = false) : decimalInt i ≠ word := by
  rintro rfl
  rcases isDigit_of_mem_decimalInt hc with h | h
  · exact hletter.1 h
  · rw [hletter.2] at h
    cases h

/-- An integer is one token. -/
theorem scans_decimalInt (i : Int) : Scans (decimalInt i) [.scalar (.integer i)] := by
  refine scans_word (decimalInt_ne_nil i) (fun c hc => ?_) ?_
  · rcases isDigit_of_mem_decimalInt hc with rfl | hdigit
    · decide
    · exact isWordChar_of_isDigit hdigit
  · have htrue : decimalInt i ≠ "true".toList := decimalInt_ne (c := 'e') (by decide) (by decide)
    have hfalse : decimalInt i ≠ "false".toList := decimalInt_ne (c := 'e') (by decide) (by decide)
    have hnull : decimalInt i ≠ "null".toList := decimalInt_ne (c := 'l') (by decide) (by decide)
    rw [Token.ofWord?, if_neg htrue, if_neg hfalse, if_neg hnull, number?_decimalInt]
    rfl

/-! ### Strings -/

/-- A character that a string may hold as it is. -/
def IsPlain (c : Char) : Prop :=
  c ≠ '"' ∧ c ≠ '\\' ∧ ¬c.toNat < 0x20

instance (c : Char) : Decidable (IsPlain c) :=
  inferInstanceAs (Decidable (_ ∧ _ ∧ _))

/-- The characters are taken into a string as they are. -/
def Quotes (raw : List Char) : Prop :=
  ∀ seen found rest, (raw ++ rest).foldlM Scan.step ⟨.quoted seen, found⟩ =
    rest.foldlM Scan.step ⟨.quoted (raw.reverse ++ seen), found⟩

theorem Quotes.append {a b : List Char} (ha : Quotes a) (hb : Quotes b) : Quotes (a ++ b) := by
  intro seen found rest
  rw [List.append_assoc, ha, hb, List.reverse_append, List.append_assoc]

theorem Quotes.flatMap {α : Type} {f : α → List Char} (h : ∀ a, Quotes (f a)) (as : List α) :
    Quotes (as.flatMap f) := by
  induction as with
  | nil => exact fun _ _ _ => rfl
  | cons a as ih =>
      rw [List.flatMap_cons]
      exact (h a).append ih

theorem quotes_of_isPlain {raw : List Char} (h : ∀ c ∈ raw, IsPlain c) : Quotes raw := by
  intro seen found rest
  induction raw generalizing seen with
  | nil => rfl
  | cons c raw ih =>
      obtain ⟨hquote, hbackslash, hcontrol⟩ := h c List.mem_cons_self
      rw [List.cons_append, List.foldlM_cons, Scan.step_quoted, if_neg hquote,
        if_neg hbackslash, if_neg hcontrol, List.reverse_cons, List.append_assoc]
      exact ih (fun d hd => h d (List.mem_cons_of_mem c hd)) (c :: seen)

theorem quotes_escaped (c : Char) : Quotes ['\\', c] :=
  fun _ _ _ => rfl

/-- What follows a quoted stretch and the quote behind it. -/
theorem scans_quoted {raw : List Char} {token : Token} (hraw : Quotes raw)
    (htoken : Token.ofQuoted? raw = some token) : Scans ('"' :: raw ++ ['"']) [token] := by
  intro found c rest _
  rw [List.cons_append, List.cons_append, List.append_assoc, List.foldlM_cons]
  refine (hraw [] found _).trans ?_
  rw [List.singleton_append, List.foldlM_cons, Scan.step_quoted, if_pos rfl, List.append_nil,
    List.reverse_reverse, htoken]
  rfl

/-- The digits of a control character stand for it, and for themselves in a
string. -/
theorem lowDigits_of_control {n : Nat} (h : n < 0x20) :
    hexValueFrom 0 (lowDigits lowerHexDigit 4 n) = some n ∧
      ∀ c ∈ lowDigits lowerHexDigit 4 n, IsPlain c := by
  have hdigits : ∀ n < 0x20, hexValueFrom 0 (lowDigits lowerHexDigit 4 n) = some n ∧
      (lowDigits lowerHexDigit 4 n).all (fun c => decide (IsPlain c)) = true := by decide
  obtain ⟨hvalue, hplain⟩ := hdigits n h
  exact ⟨hvalue, fun c hc => of_decide_eq_true (List.all_eq_true.1 hplain c hc)⟩

theorem quotes_escape (c : Char) : Quotes (escape c) := by
  unfold escape
  -- Seven characters have an escape of their own, other control characters go by number.
  split_ifs with hquote hbackslash _ _ _ _ _ hcontrol
  iterate 7 exact quotes_escaped _
  · exact (quotes_escaped 'u').append (quotes_of_isPlain (lowDigits_of_control hcontrol).2)
  · exact quotes_of_isPlain (by simpa using ⟨hquote, hbackslash, hcontrol⟩)

theorem pieces?_escaped {c d : Char} (hc : c ≠ 'u') (hd : escaped? c = some d)
    (rest : List Char) : pieces? ('\\' :: c :: rest) = (pieces? rest).map (.char d :: ·) := by
  rw [pieces?, hd]
  · cases pieces? rest <;> rfl
  · exact fun _ _ _ _ _ h _ => hc h

theorem pieces?_control {c : Char} (hc : c.toNat < 0x20) (rest : List Char) :
    pieces? ('\\' :: 'u' :: lowDigits lowerHexDigit 4 c.toNat ++ rest) =
      (pieces? rest).map (.char c :: ·) := by
  obtain ⟨hvalue, -⟩ := lowDigits_of_control hc
  have hunit : Piece.ofUnit c.toNat = .char c := by
    have hhigh : isHighHalf c.toNat = false := by simp [isHighHalf]; omega
    have hlow : isLowHalf c.toNat = false := by simp [isLowHalf]; omega
    rw [Piece.ofUnit, hhigh, hlow, Char.ofNat_toNat]
    rfl
  -- The reader takes exactly four digits, so they have to stand one by one.
  simp only [lowDigits, List.nil_append, List.cons_append] at hvalue ⊢
  rw [pieces?, hvalue]
  cases pieces? rest <;> simp [hunit]

theorem pieces?_escape (c : Char) (rest : List Char) :
    pieces? (escape c ++ rest) = (pieces? rest).map (.char c :: ·) := by
  unfold escape
  split_ifs with hquote hbackslash hbackspace hformFeed hlineFeed hreturn htab hcontrol
  iterate 7 · subst c; exact pieces?_escaped (by decide) rfl rest
  · exact pieces?_control hcontrol rest
  · rw [List.singleton_append, pieces?]
    · exact fun _ _ _ _ _ h _ => hbackslash h
    · exact fun _ _ h _ => hbackslash h
    · exact fun h _ => hbackslash h

theorem pieces?_flatMap_escape (cs : List Char) :
    pieces? (cs.flatMap escape) = some (cs.map .char) := by
  induction cs with
  | nil => rfl
  | cons c cs ih => rw [List.flatMap_cons, pieces?_escape, ih, Option.map_some, List.map_cons]

theorem joinPieces_map_char (cs : List Char) : joinPieces (cs.map .char) = some cs := by
  induction cs with
  | nil => rfl
  | cons c cs ih => rw [List.map_cons, joinPieces, ih, Option.map_some]

/-- A string is one token. -/
theorem scans_quote (t : Text) : Scans (quote t) [.text t] := by
  cases t with
  | none =>
      have hraw : Quotes ['\\', 'u', 'd', '8', '0', '0'] :=
        (quotes_escaped 'u').append (quotes_of_isPlain (by simp [IsPlain]))
      exact scans_quoted hraw rfl
  | some s =>
      refine scans_quoted (Quotes.flatMap quotes_escape s.toList) ?_
      rw [Token.ofQuoted?, pieces?_flatMap_escape, Option.map_some, joinPieces_map_char,
        Option.map_some, String.ofList_toList]

/-! ### Documents -/

/-- All numbers of the value are integers. -/
inductive Value.Whole : Value → Prop where
  | null : Whole .null
  | bool (b : Bool) : Whole (.bool b)
  | integer (i : Int) : Whole (.integer i)
  | string (t : Text) : Whole (.string t)
  | array {items : List Value} (h : ∀ v ∈ items, v.Whole) : Whole (.array items)
  | object {members : List (Text × Value)} (h : ∀ m ∈ members, m.2.Whole) :
      Whole (.object members)

mutual

/-- The tokens of a document. -/
def Value.tokens : Value → List Token
  | .array items => .openArray :: Value.itemTokens items ++ [.closeArray]
  | .object members => .openObject :: Value.memberTokens members ++ [.closeObject]
  | .string t => [.text t]
  | v => [.scalar v]

def Value.itemTokens : List Value → List Token
  | [] => []
  | [v] => Value.tokens v
  | v :: others => Value.tokens v ++ .comma :: Value.itemTokens others

def Value.memberTokens : List (Text × Value) → List Token
  | [] => []
  | [(key, v)] => .text key :: .colon :: Value.tokens v
  | (key, v) :: others =>
    .text key :: .colon :: Value.tokens v ++ .comma :: Value.memberTokens others

end

theorem Scans.indent {cs : List Char} {tokens : List Token} (level : Nat)
    (h : Scans cs tokens) : Scans (indent level ++ cs) tokens := by
  have hblanks : ∀ n, Scans (List.replicate n ' ' ++ cs) tokens := by
    intro n
    induction n with
    | zero => exact h
    | succ n ih => exact Scans.cons (s := []) (fun _ => rfl) ih
  exact Scans.cons (s := []) (fun _ => rfl) (hblanks (2 * level))

/-- One piece of a document, and the others behind a comma. -/
theorem Scans.comma {a b : List Char} {s t : List Token} (ha : Scans a s) (hb : Scans b t) :
    Scans (a ++ ',' :: b) (s ++ .comma :: t) := by
  refine ha.append (Scans.cons (s := [.comma]) (fun _ => rfl) hb) ?_
  rintro _ ⟨⟩
  rfl

/-- A key, and what stands behind its colon. -/
theorem Scans.member {cs : List Char} {tokens : List Token} (key : Text) (h : Scans cs tokens) :
    Scans (quote key ++ ':' :: cs) (.text key :: .colon :: tokens) := by
  refine (scans_quote key).append (Scans.cons (s := [.colon]) (fun _ => rfl) h) ?_
  rintro _ ⟨⟩
  rfl

/-- What stands between two brackets. -/
theorem Scans.bracket {opening closing : Char} {s t : Token} {cs : List Char}
    {tokens : List Token} (h : Scans cs tokens)
    (hopening : ∀ found, Scan.start found opening = some ⟨.between, s :: found⟩)
    (hclosing : ∀ found, Scan.start found closing = some ⟨.between, t :: found⟩)
    (hword : isWordChar closing = false) :
    Scans (opening :: cs ++ [closing]) (s :: tokens ++ [t]) := by
  refine Scans.append (Scans.cons (s := [s]) hopening h) (Scans.cons (s := [t]) hclosing .nil) ?_
  rintro _ ⟨⟩
  exact hword

/-- What stands between two brackets, the second one on a line of its own. -/
theorem Scans.enclose {opening closing : Char} {s t : Token} {cs : List Char}
    {tokens : List Token} (h : Scans cs tokens) (level : Nat)
    (hopening : ∀ found, Scan.start found opening = some ⟨.between, s :: found⟩)
    (hclosing : ∀ found, Scan.start found closing = some ⟨.between, t :: found⟩) :
    Scans (opening :: cs ++ Json.indent level ++ [closing]) (s :: tokens ++ [t]) := by
  have hend : Scans (Json.indent level ++ [closing]) [t] :=
    (Scans.cons (s := [t]) hclosing .nil).indent level
  rw [List.append_assoc]
  refine Scans.append (Scans.cons (s := [s]) hopening h) hend ?_
  rintro _ ⟨⟩
  rfl

theorem scans_indentedItems {items : List Value} {level : Nat}
    (h : ∀ v ∈ items, Scans (v.indented level) v.tokens) :
    Scans (Value.indentedItems level items) (Value.itemTokens items) := by
  induction items with
  | nil => exact .nil
  | cons v others ih =>
      have hv := (h v List.mem_cons_self).indent level
      have hothers := ih fun w hw => h w (List.mem_cons_of_mem v hw)
      cases others with
      | nil => exact hv
      | cons w others => exact hv.comma hothers

theorem scans_indentedMembers {members : List (Text × Value)} {level : Nat}
    (h : ∀ m ∈ members, Scans (m.2.indented level) m.2.tokens) :
    Scans (Value.indentedMembers level members) (Value.memberTokens members) := by
  induction members with
  | nil => exact .nil
  | cons m others ih =>
      obtain ⟨key, v⟩ := m
      have hblank : Scans (' ' :: v.indented level) v.tokens :=
        Scans.cons (s := []) (fun _ => rfl) (h (key, v) List.mem_cons_self)
      have hv : Scans (indent level ++ quote key ++ ':' :: ' ' :: v.indented level)
          (.text key :: .colon :: v.tokens) := by
        rw [List.append_assoc]
        exact (hblank.member key).indent level
      have hothers := ih fun w hw => h w (List.mem_cons_of_mem _ hw)
      cases others with
      | nil => exact hv
      | cons w others => exact hv.comma hothers

/-- A written document is scanned into its tokens. -/
theorem scans_indented {v : Value} (h : v.Whole) (level : Nat) :
    Scans (v.indented level) v.tokens := by
  induction h generalizing level with
  | null => exact scans_null
  | bool b => exact scans_bool b
  | integer i => exact scans_decimalInt i
  | string t => exact scans_quote t
  | @array items _ ih =>
      have hitems := scans_indentedItems fun v hv => ih v hv (level + 1)
      cases items with
      | nil => exact fun _ _ _ _ => rfl
      | cons v others => exact hitems.enclose level (fun _ => rfl) fun _ => rfl
  | @object members _ ih =>
      have hmembers := scans_indentedMembers fun m hm => ih m hm (level + 1)
      cases members with
      | nil => exact fun _ _ _ _ => rfl
      | cons m others => exact hmembers.enclose level (fun _ => rfl) fun _ => rfl

/-! On one line nothing stands between the pieces but the commas and colons. -/

theorem scans_compactItems {items : List Value} (h : ∀ v ∈ items, Scans v.compact v.tokens) :
    Scans (Value.compactItems items) (Value.itemTokens items) := by
  induction items with
  | nil => exact .nil
  | cons v others ih =>
      have hv := h v List.mem_cons_self
      have hothers := ih fun w hw => h w (List.mem_cons_of_mem v hw)
      cases others with
      | nil => exact hv
      | cons w others => exact hv.comma hothers

theorem scans_compactMembers {members : List (Text × Value)}
    (h : ∀ m ∈ members, Scans m.2.compact m.2.tokens) :
    Scans (Value.compactMembers members) (Value.memberTokens members) := by
  induction members with
  | nil => exact .nil
  | cons m others ih =>
      obtain ⟨key, v⟩ := m
      have hv := (h (key, v) List.mem_cons_self).member key
      have hothers := ih fun w hw => h w (List.mem_cons_of_mem _ hw)
      cases others with
      | nil => exact hv
      | cons w others => exact hv.comma hothers

theorem scans_compact {v : Value} (h : v.Whole) : Scans v.compact v.tokens := by
  induction h with
  | null => exact scans_null
  | bool b => exact scans_bool b
  | integer i => exact scans_decimalInt i
  | string t => exact scans_quote t
  | array _ ih => exact (scans_compactItems ih).bracket (fun _ => rfl) (fun _ => rfl) rfl
  | object _ ih => exact (scans_compactMembers ih).bracket (fun _ => rfl) (fun _ => rfl) rfl

theorem Scan.finish?_eq (s : Scan) : s.finish? = (s.step ' ').bind Scan.finish? := by
  obtain ⟨mode, found⟩ := s
  cases mode with
  | between => rfl
  | word seen =>
      change (Token.ofWord? seen.reverse).map (fun token => (token :: found).reverse) = _
      rw [step_word, if_neg (by decide)]
      cases Token.ofWord? seen.reverse <;> rfl
  | quoted seen => rfl
  | escape seen => rfl

theorem tokens?_of_scans {cs : List Char} {tokens : List Token} (h : Scans cs tokens) :
    tokens? cs = some tokens := by
  -- A blank behind the text ends a word that is still under way.
  have hblank : tokens? cs = tokens? (cs ++ [' ']) := by
    rw [tokens?, tokens?, List.foldlM_append]
    cases cs.foldlM Scan.step ⟨.between, []⟩ with
    | none => rfl
    | some s =>
        rw [Option.bind_eq_bind, Option.bind_some, Option.bind_some, List.foldlM_cons,
          s.finish?_eq]
        cases s.step ' ' <;> rfl
  rw [hblank, tokens?, h [] ' ' [] rfl, List.append_nil]
  exact congrArg some tokens.reverse_reverse

/-- The tokens of a written document are those of its value. -/
theorem tokens?_pretty {v : Value} (h : v.Whole) : tokens? v.pretty.toList = some v.tokens := by
  rw [Value.pretty, String.toList_ofList]
  exact tokens?_of_scans (scans_indented h 0)

theorem tokens?_render {v : Value} (h : v.Whole) : tokens? v.render.toList = some v.tokens := by
  rw [Value.render, String.toList_ofList]
  exact tokens?_of_scans (scans_compact h)

end Cartridge.Json
