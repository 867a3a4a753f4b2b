import Cartridge.Proofs.Dump.Columns
import Cartridge.Proofs.Dump.Symbol

/-!
What is read off relocation lines, whether they follow the grammar or not. A
symbol is read as a scope and a name if it can be cut into these and what follows
them, and a line is read as the relocation that its columns describe.
-/

namespace Cartridge.Script.Symbol

open Cartridge.Text

/-! ### Names -/

/-- Each template bracket has its other half. -/
def IsBalanced (text : List Char) : Prop :=
  (outside? 0 text).isSome = true

instance : DecidablePred IsBalanced := fun text =>
  inferInstanceAs (Decidable ((outside? 0 text).isSome = true))

/-- Outside of the brackets, which balance, there is no blank and nothing that starts
a parameter list or an addend; only the first character may be a sign. -/
def IsNames (names : List Char) : Prop :=
  ∃ sign ∈ [[], ['+'], ['-']], ∃ body plain, names = sign ++ body ∧ outside? 0 body = some plain ∧
    ∀ c ∈ plain, isEnd c = false ∧ isBlank c = false

theorem mem_of_mem_outside? {depth : Nat} {cs plain : List Char}
    (h : outside? depth cs = some plain) {c : Char} (hc : c ∈ plain) : c ∈ cs := by
  fun_induction outside? depth cs generalizing plain with
  | case1 =>
      cases h
      exact hc
  | case2 => cases h
  | case3 depth rest ih => exact List.mem_cons_of_mem _ (ih h hc)
  | case4 => cases h
  | case5 depth rest hdepth _ ih => exact List.mem_cons_of_mem _ (ih h hc)
  | case6 d rest hopen hclose ih =>
      obtain ⟨others, hothers, rfl⟩ := Option.map_eq_some_iff.1 h
      rcases List.mem_cons.1 hc with rfl | hc
      · exact List.mem_cons_self
      · exact List.mem_cons_of_mem _ (ih hothers hc)
  | case7 depth d rest hopen hclose hdepth ih => exact List.mem_cons_of_mem _ (ih h hc)

/-- A sign in front is outside of the brackets. -/
theorem outside?_sign_append {sign : List Char} (hsign : sign ∈ [[], ['+'], ['-']])
    (body : List Char) : outside? 0 (sign ++ body) = (outside? 0 body).map (sign ++ ·) := by
  simp only [List.mem_cons, List.not_mem_nil, or_false] at hsign
  rcases hsign with rfl | rfl | rfl
  · simp
  · simp [outside?]
  · simp [outside?]

theorem IsNames.isBalanced {names : List Char} (h : IsNames names) : IsBalanced names := by
  obtain ⟨sign, hsign, body, plain, rfl, hbody, -⟩ := h
  simp [IsBalanced, outside?_sign_append hsign, hbody]

/-- Behind their first character names are balanced, and they run up to what ends
them. -/
theorem names?_sound {depth : Nat} {started : Bool} {cs names : List Char}
    (hstarted : started = true) (h : names? depth started cs = some names) :
    ∃ plain rest, cs = names ++ rest ∧ outside? depth names = some plain ∧
      (∀ c ∈ plain, isEnd c = false ∧ isBlank c = false) ∧ IsRest rest := by
  fun_induction names? depth started cs generalizing names with
  | case1 =>
      cases h
      exact ⟨[], [], rfl, rfl, nofun, rfl⟩
  | case2 => cases h
  | case3 depth started rest ih =>
      obtain ⟨others, hothers, rfl⟩ := Option.map_eq_some_iff.1 h
      obtain ⟨plain, after, rfl, hplain, hends, hafter⟩ := ih rfl hothers
      exact ⟨plain, after, rfl, by simpa [outside?] using hplain, hends, hafter⟩
  | case4 => cases h
  | case5 started rest depth _ ih =>
      obtain ⟨others, hothers, rfl⟩ := Option.map_eq_some_iff.1 h
      obtain ⟨plain, after, rfl, hplain, hends, hafter⟩ := ih rfl hothers
      exact ⟨plain, after, rfl, by simpa [outside?] using hplain, hends, hafter⟩
  | case6 started rest =>
      cases h
      exact ⟨[], '(' :: rest, rfl, rfl, nofun, rfl⟩
  | case7 started c rest hopen hclose hparen hsign =>
      cases h
      refine ⟨[], c :: rest, rfl, rfl, nofun, ?_⟩
      rcases hsign.1 with rfl | rfl <;> rfl
  | case8 => cases h
  | case9 started c rest hopen hclose hparen hsign hblank ih =>
      obtain ⟨others, hothers, rfl⟩ := Option.map_eq_some_iff.1 h
      obtain ⟨plain, after, rfl, hplain, hends, hafter⟩ := ih rfl hothers
      have hend : isEnd c = false ∧ isBlank c = false := by
        simp only [hstarted, and_true, not_or] at hsign
        exact ⟨by simp [isEnd, hparen, hsign], by simpa using hblank⟩
      refine ⟨c :: plain, after, rfl, by simp [outside?, hopen, hclose, hplain], ?_, hafter⟩
      exact List.forall_mem_cons.2 ⟨hend, hends⟩
  | case10 depth started c rest hopen hclose hdepth ih =>
      obtain ⟨others, hothers, rfl⟩ := Option.map_eq_some_iff.1 h
      obtain ⟨plain, after, rfl, hplain, hends, hafter⟩ := ih rfl hothers
      exact ⟨plain, after, rfl, by simpa [outside?, hopen, hclose, hdepth] using hplain, hends,
        hafter⟩

/-- A sign that starts a symbol belongs to its names. -/
theorem names?_sign {c : Char} (hc : c = '+' ∨ c = '-') (cs : List Char) :
    names? 0 false (c :: cs) = (names? 0 true cs).map (c :: ·) := by
  rcases hc with rfl | rfl <;> simp [names?, isBlank]

theorem names?_of_not_sign {c : Char} (hc : ¬(c = '+' ∨ c = '-')) (cs : List Char) :
    names? 0 false (c :: cs) = names? 0 true (c :: cs) := by
  have hstart : ¬((c = '+' ∨ c = '-') ∧ false = true) := fun h => Bool.false_ne_true h.2
  have hlater : ¬((c = '+' ∨ c = '-') ∧ true = true) := fun h => hc h.1
  rw [names?, names?, if_neg hstart, if_neg hlater]

theorem names?_eq_some_iff {symbol names : List Char} (hne : names ≠ []) :
    names? 0 false symbol = some names ↔
      IsNames names ∧ ∃ rest, IsRest rest ∧ symbol = names ++ rest := by
  constructor
  · intro h
    cases symbol with
    | nil => exact absurd (by simpa [names?] using h.symm) hne
    | cons c cs =>
        by_cases hsign : c = '+' ∨ c = '-'
        · rw [names?_sign hsign] at h
          obtain ⟨body, hbody, rfl⟩ := Option.map_eq_some_iff.1 h
          obtain ⟨plain, rest, rfl, hplain, hends, hrest⟩ := names?_sound rfl hbody
          have hmem : [c] ∈ [[], ['+'], ['-']] := by rcases hsign with rfl | rfl <;> decide
          exact ⟨⟨[c], hmem, body, plain, rfl, hplain, hends⟩, rest, hrest, rfl⟩
        · rw [names?_of_not_sign hsign] at h
          obtain ⟨plain, rest, hsymbol, hplain, hends, hrest⟩ := names?_sound rfl h
          exact ⟨⟨[], List.mem_cons_self, names, plain, rfl, hplain, hends⟩, rest, hrest, hsymbol⟩
  · rintro ⟨⟨sign, hsign, body, plain, rfl, hplain, hends⟩, rest, hrest, rfl⟩
    simp only [List.mem_cons, List.not_mem_nil, or_false] at hsign
    have hbody : names? 0 true (body ++ rest) = some body :=
      names?_append hplain hends hrest (.inl rfl)
    rcases hsign with rfl | rfl | rfl
    · exact names?_append hplain hends hrest (.inr hne)
    · exact (names?_sign (.inl rfl) _).trans (congrArg _ hbody)
    · exact (names?_sign (.inr rfl) _).trans (congrArg _ hbody)

/-! ### Scope and name -/

/-- A name in its scope. -/
def qualified (scope name : List Char) : List Char :=
  if scope = [] then name else scope ++ ':' :: ':' :: name

/-- A symbol is read as a scope and a name, with the rest behind them. -/
structure Reads (symbol scope name rest : List Char) : Prop where
  text : symbol = qualified scope name ++ rest
  names : IsNames (qualified scope name)
  scope : IsBalanced scope ∧ scope.getLast? ≠ some ':'
  name : name ≠ [] ∧ IsBalanced name ∧ ':' ∉ name
  rest : IsRest rest

/-- The cut is behind the first character, or at it. -/
theorem cutAtLastColons_cons {depth : Nat} {c : Char} {rest scope name : List Char}
    (h : cutAtLastColons depth (c :: rest) = some (scope, name)) :
    (∃ front, cutAtLastColons (if c = '<' then depth + 1 else if c = '>' then depth - 1 else depth)
        rest = some (front, name) ∧ scope = c :: front) ∨
      c = ':' ∧ depth = 0 ∧ rest = ':' :: name ∧ scope = [] := by
  unfold cutAtLastColons at h
  dsimp only at h
  split at h
  · next hrest =>
      cases h
      exact .inl ⟨_, hrest, rfl⟩
  · split at h
    · cases h
      exact .inr ⟨rfl, rfl, rfl, rfl⟩
    · cases h

/-- Balanced names are cut into balanced parts. -/
theorem cutAtLastColons_sound {depth : Nat} {cs plain scope name : List Char}
    (hcs : outside? depth cs = some plain) (h : cutAtLastColons depth cs = some (scope, name)) :
    cs = scope ++ ':' :: ':' :: name ∧ (outside? depth scope).isSome = true ∧ IsBalanced name := by
  fun_induction outside? depth cs generalizing plain scope with
  | case1 => cases h
  | case2 => cases hcs
  | case3 depth rest ih =>
      obtain ⟨front, hfront, rfl⟩ := (cutAtLastColons_cons h).resolve_right (by simp)
      obtain ⟨rfl, hopen, hname⟩ := ih hcs hfront
      exact ⟨rfl, by simpa [outside?] using hopen, hname⟩
  | case4 => cases hcs
  | case5 depth rest hdepth _ ih =>
      obtain ⟨front, hfront, rfl⟩ := (cutAtLastColons_cons h).resolve_right (by simp)
      obtain ⟨rfl, hopen, hname⟩ := ih hcs hfront
      exact ⟨rfl, by simpa [outside?, hdepth] using hopen, hname⟩
  | case6 c rest hopen hclose ih =>
      obtain ⟨others, hothers, rfl⟩ := Option.map_eq_some_iff.1 hcs
      rcases cutAtLastColons_cons h with ⟨front, hfront, rfl⟩ | ⟨rfl, -, rfl, rfl⟩
      · rw [if_neg hopen, if_neg hclose] at hfront
        obtain ⟨rfl, hfrontOpen, hname⟩ := ih hothers hfront
        exact ⟨rfl, by simpa [outside?, hopen, hclose] using hfrontOpen, hname⟩
      · -- Behind the colons the same brackets are open as in front, none at all.
        obtain ⟨inner, hinner, -⟩ :
            ∃ inner, outside? 0 name = some inner ∧ ':' :: inner = others := by
          simpa [outside?] using hothers
        exact ⟨rfl, rfl, Option.isSome_iff_exists.2 ⟨inner, hinner⟩⟩
  | case7 depth c rest hopen hclose hdepth ih =>
      obtain ⟨front, hfront, rfl⟩ := (cutAtLastColons_cons h).resolve_right (by simp [hdepth])
      rw [if_neg hopen, if_neg hclose] at hfront
      obtain ⟨rfl, hfrontOpen, hname⟩ := ih hcs hfront
      exact ⟨rfl, by simpa [outside?, hopen, hclose, hdepth] using hfrontOpen, hname⟩

theorem cutAtLastColons_qualified {scope name : List Char} (hscope : IsBalanced scope)
    (hname : IsBalanced name) (hcolon : ':' ∉ name) :
    cutAtLastColons 0 (qualified scope name) = if scope = [] then none else some (scope, name) := by
  obtain ⟨plain, hplain⟩ := Option.isSome_iff_exists.1 hscope
  obtain ⟨plain', hplain'⟩ := Option.isSome_iff_exists.1 hname
  have hcolon' : ':' ∉ plain' := fun h => hcolon (mem_of_mem_outside? hplain' h)
  rw [qualified]
  split
  · exact cutAtLastColons_eq_none hplain' hcolon'
  · exact cutAtLastColons_append hplain hplain' hcolon'

theorem Reads.split?_eq {symbol scope name rest : List Char} (h : Reads symbol scope name rest) :
    split? symbol = some (scope, name) := by
  obtain ⟨rfl, hnames, ⟨hscope, hlast⟩, ⟨hne, hname, hcolon⟩, hrest⟩ := h
  have hqualified : qualified scope name ≠ [] := by
    rw [qualified]
    split
    · exact hne
    · simp
  rw [split?, (names?_eq_some_iff hqualified).2 ⟨hnames, rest, hrest, rfl⟩]
  simp only [cutAtLastColons_qualified hscope hname hcolon]
  by_cases hempty : scope = []
  · simp [hempty, qualified, hne, hcolon]
  · simp [hempty, hlast, hne, hcolon]

/-- A symbol is split exactly as it can be read. -/
theorem split?_eq_some_iff {symbol scope name : List Char} :
    split? symbol = some (scope, name) ↔ ∃ rest, Reads symbol scope name rest := by
  refine ⟨fun h => ?_, fun ⟨rest, h⟩ => h.split?_eq⟩
  unfold split? at h
  split at h
  · cases h
  · next names hnames =>
      have hread : names ≠ [] → IsNames names ∧ ∃ rest, IsRest rest ∧ symbol = names ++ rest :=
        fun hne => (names?_eq_some_iff hne).1 hnames
      split at h
      · next front back hcut =>
          have hne : names ≠ [] := by
            rintro rfl
            cases hcut
          obtain ⟨hchars, rest, hrest, hsymbol⟩ := hread hne
          obtain ⟨plain, hplain⟩ := Option.isSome_iff_exists.1 hchars.isBalanced
          obtain ⟨hnamesEq, hfront, hback⟩ := cutAtLastColons_sound hplain hcut
          obtain ⟨hvalid, heq⟩ := Option.ite_none_left_eq_some.1 h
          cases heq
          obtain ⟨hscope, hlast, hname, hcolon⟩ : ¬scope = [] ∧ ¬scope.getLast? = some ':' ∧
              ¬name = [] ∧ ':' ∉ name := by simpa using hvalid
          have hqualified : qualified scope name = names := by
            rw [qualified, if_neg hscope, hnamesEq]
          exact ⟨rest, hqualified ▸ hsymbol, hqualified ▸ hchars, ⟨hfront, hlast⟩,
            ⟨hname, hback, hcolon⟩, hrest⟩
      · obtain ⟨hvalid, heq⟩ := Option.ite_none_left_eq_some.1 h
        cases heq
        obtain ⟨hne, hcolon⟩ : ¬name = [] ∧ ':' ∉ name := by simpa using hvalid
        obtain ⟨hchars, rest, hrest, hsymbol⟩ := hread hne
        exact ⟨rest, hsymbol, hchars, ⟨rfl, nofun⟩, ⟨hne, hchars.isBalanced, hcolon⟩, hrest⟩

end Cartridge.Script.Symbol

namespace Cartridge.Script.Dump

open Cartridge.Text

/-! ### Relocations -/

/-- A line of these columns stands for the relocation. -/
structure Columns.Describes (table : OffsetTable) (c : Columns) (r : Relocation) : Prop where
  cut : c.IsCut
  kind : relocationMark <:+: c.kind
  address : address? c.address = some r.address
  symbol : ∃ rest, Symbol.Reads c.symbol r.scope.toList r.name.toList rest
  /-- Global symbols have no slot, others that of the first routine of their name. -/
  index : r.index = if r.scope = "" then none else
    (table.entries.findIdx? fun e => e.key == (r.scope, r.name)).map UInt64.ofNat

theorem relocation?_eq_some_iff {table : OffsetTable} {line : List Char} {r : Relocation} :
    relocation? table line = some r ↔ ∃ c : Columns, c.text = line ∧ c.Describes table r := by
  constructor
  · intro h
    obtain ⟨⟨address, symbol⟩, hfields, hrest⟩ := Option.bind_eq_some_iff.1 h
    obtain ⟨⟨scope, name⟩, hsplit, hr⟩ := Option.bind_eq_some_iff.1 hrest
    obtain ⟨c, hline, hcut, hkind, haddress, rfl⟩ := fields?_eq_some_iff.1 hfields
    obtain ⟨rest, hreads⟩ := Symbol.split?_eq_some_iff.1 hsplit
    obtain rfl := Option.some.inj hr
    refine ⟨c, hline, hcut, hkind, haddress, ⟨rest, ?_⟩, ?_⟩
    · simpa using hreads
    · simp [OffsetTable.find?]
  · rintro ⟨c, hline, hcut, hkind, haddress, ⟨rest, hreads⟩, hindex⟩
    have hfields := fields?_eq_some_iff.2 ⟨c, hline, hcut, hkind, haddress, rfl⟩
    simp only [relocation?, hfields, hreads.split?_eq, Option.bind_eq_bind, Option.bind_some,
      String.ofList_toList]
    have hr : r = ⟨r.address, r.scope, r.name, r.index⟩ := rfl
    rw [hr, hindex]
    simp [OffsetTable.find?]

/-- Digits of a 32-bit value, with or without a mark and then a plus sign in front. -/
def IsAddress (cs : List Char) : Prop :=
  ∃ mark ∈ [[], ['0', 'x'], ['0', 'X']], ∃ sign ∈ [[], ['+']], ∃ digits value,
    cs = mark ++ (sign ++ digits) ∧ digits ≠ [] ∧ hexValueFrom 0 digits = some value ∧
      value < UInt32.size

theorem isAddress_iff {cs : List Char} : IsAddress cs ↔ ∃ address, address? cs = some address := by
  constructor
  · rintro ⟨mark, hmark, sign, hsign, digits, value, hcs, hne, hvalue, hlt⟩
    refine ⟨UInt32.ofNat value, address?_eq_some_iff.2
      ⟨mark, hmark, sign, hsign, digits, hcs, hne, ?_⟩⟩
    rw [hvalue, UInt32.toNat_ofNat_of_lt' hlt]
  · rintro ⟨address, h⟩
    obtain ⟨mark, hmark, sign, hsign, digits, hcs, hne, hvalue⟩ := address?_eq_some_iff.1 h
    exact ⟨mark, hmark, sign, hsign, digits, address.toNat, hcs, hne, hvalue, address.toNat_lt⟩

/-- A line of these columns is read as some relocation. -/
structure Columns.IsRead (c : Columns) : Prop where
  cut : c.IsCut
  kind : relocationMark <:+: c.kind
  address : IsAddress c.address
  symbol : ∃ scope name rest, Symbol.Reads c.symbol scope name rest

theorem isSome_relocation?_iff {table : OffsetTable} {line : List Char} :
    (relocation? table line).isSome = true ↔ ∃ c : Columns, c.text = line ∧ c.IsRead := by
  rw [Option.isSome_iff_exists]
  constructor
  · rintro ⟨r, h⟩
    obtain ⟨c, hline, hdescribes⟩ := relocation?_eq_some_iff.1 h
    exact ⟨c, hline, hdescribes.cut, hdescribes.kind, isAddress_iff.2 ⟨_, hdescribes.address⟩,
      _, _, hdescribes.symbol⟩
  · rintro ⟨c, hline, hcut, hkind, haddress, scope, name, rest, hreads⟩
    obtain ⟨address, haddress⟩ := isAddress_iff.1 haddress
    let r : Relocation := ⟨address, String.ofList scope, String.ofList name,
      if String.ofList scope = "" then none else
        (table.entries.findIdx? fun e =>
          e.key == (String.ofList scope, String.ofList name)).map UInt64.ofNat⟩
    refine ⟨r, relocation?_eq_some_iff.2 ⟨c, hline, hcut, hkind, haddress, ⟨rest, ?_⟩, rfl⟩⟩
    simpa [r] using hreads

end Cartridge.Script.Dump
