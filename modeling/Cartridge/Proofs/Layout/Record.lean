import Cartridge.Proofs.Assembly.Address
import Cartridge.Proofs.Scene.Record

/-!
Alignment of records. The symbols of a source must be at even addresses, and so must the
first parameter of a component; but no piece of a source says where it will stand. So the
pieces are made to start and to end at even addresses, in any order and number, and
padding behind the parameters of a piece makes up for single bytes.
-/

namespace Cartridge

/-- The text has no quotes in it. -/
def Text.Unquoted (s : String) : Prop :=
  '"' ∉ s.toList

instance (s : String) : Decidable (Text.Unquoted s) :=
  inferInstanceAs (Decidable (¬_))

theorem Text.Unquoted.append {a b : String} (ha : Unquoted a) (hb : Unquoted b) :
    Unquoted (a ++ b) := by
  simpa [Unquoted] using ⟨ha, hb⟩

theorem Text.unquoted_paddedHex (width n : Nat) : Unquoted (paddedHex width n) := by
  have hmark : Unquoted "0x" := by decide
  refine hmark.append fun h => ?_
  rw [String.toList_ofList] at h
  exact absurd (upperHexDigit_mem_of_mem_lowDigits h) (by decide)

/-- A text stands in quotes only where it may take any number of bytes. -/
def Param.Plain (p : Param) : Prop :=
  p.size = .byte ∨ Text.Unquoted p.value

instance (p : Param) : Decidable p.Plain :=
  inferInstanceAs (Decidable (_ ∨ _))

namespace Export

open Cartridge.Assembly
open Cartridge.Text (Unquoted unquoted_paddedHex)

/-- The line lays down the number of an entity in its record. -/
def isNumber (line : String) : Bool :=
  "\t; EntitySpawnData_Id".toList.isSuffixOf line.toList

/-- What the target asks of a source in which the symbols of records start in a certain
way: all symbols are at even addresses, the number of an entity comes a fixed number
of bytes behind the symbol of its record, and what follows the heading of a component
is a value at an even address. -/
structure Aligned (start : String) (nameBytes : Nat) (source : List (Nat × String)) : Prop where
  symbols : ∀ line ∈ source, (definedSymbol? line.2).isSome = true → line.1 % 2 = 0
  numbers : ∀ before line after symbol, source = before ++ line :: after →
    definedSymbol? line.2 = some symbol → start.toList <+: symbol.toList →
      ∃ number, after.find? (fun l => isNumber l.2) = some number ∧
        number.1 = line.1 + nameBytes
  components : ∀ before line after, source = before ++ line :: after →
    isHeading line.2 = true →
      ∃ value, after.head? = some value ∧ isValue value.2 = true ∧ value.1 % 2 = 0

namespace Aligned

variable {start : String} {nameBytes : Nat} {a b source : List (Nat × String)}

theorem nil : Aligned start nameBytes [] :=
  ⟨by simp, by simp, by simp⟩

theorem split_append {a b before after : List (Nat × String)} {line : Nat × String}
    (h : a ++ b = before ++ line :: after) :
    (∃ mid, a = before ++ line :: mid ∧ after = mid ++ b) ∨ ∃ mid, b = mid ++ line :: after := by
  rcases List.append_eq_append_iff.1 h with ⟨mid, -, hb⟩ | ⟨mid, ha, hb⟩
  · exact .inr ⟨mid, hb⟩
  · cases mid with
    | nil => exact .inr ⟨[], hb.symm⟩
    | cons first mid =>
        rw [List.cons_append] at hb
        obtain ⟨rfl, rfl⟩ := List.cons.inj hb
        exact .inl ⟨mid, ha, rfl⟩

theorem append (ha : Aligned start nameBytes a) (hb : Aligned start nameBytes b) :
    Aligned start nameBytes (a ++ b) where
  symbols line hline := by
    rcases List.mem_append.1 hline with hline | hline
    · exact ha.symbols line hline
    · exact hb.symbols line hline
  numbers before line after symbol hsplit hsymbol hstart := by
    rcases split_append hsplit with ⟨mid, ha', rfl⟩ | ⟨mid, hb'⟩
    · obtain ⟨number, hnumber, haddress⟩ := ha.numbers before line mid symbol ha' hsymbol hstart
      exact ⟨number, by rw [List.find?_append, hnumber]; rfl, haddress⟩
    · exact hb.numbers mid line after symbol hb' hsymbol hstart
  components before line after hsplit hheading := by
    rcases split_append hsplit with ⟨mid, ha', rfl⟩ | ⟨mid, hb'⟩
    · obtain ⟨value, hvalue, hvalue'⟩ := ha.components before line mid ha' hheading
      exact ⟨value, by rw [List.head?_append, hvalue]; rfl, hvalue'⟩
    · exact hb.components mid line after hb' hheading

/-- A line that is neither a symbol nor a heading asks for nothing. -/
theorem of_silent (h : ∀ line ∈ source, definedSymbol? line.2 = none ∧ isHeading line.2 = false) :
    Aligned start nameBytes source where
  symbols line hline hsymbol := by
    rw [(h line hline).1] at hsymbol
    cases hsymbol
  numbers before line after symbol hsplit hsymbol _ := by
    rw [(h line (by simp [hsplit])).1] at hsymbol
    cases hsymbol
  components before line after hsplit hheading := by
    rw [(h line (by simp [hsplit])).2] at hheading
    cases hheading

/-- Something in front of silent lines. -/
theorem cons_silent {line : Nat × String}
    (hrest : ∀ line ∈ source, definedSymbol? line.2 = none ∧ isHeading line.2 = false)
    (hsymbol : (definedSymbol? line.2).isSome = true → line.1 % 2 = 0)
    (hnumber : ∀ symbol, definedSymbol? line.2 = some symbol → start.toList <+: symbol.toList →
      ∃ number, source.find? (fun l => isNumber l.2) = some number ∧
        number.1 = line.1 + nameBytes)
    (hcomponent : isHeading line.2 = true →
      ∃ value, source.head? = some value ∧ isValue value.2 = true ∧ value.1 % 2 = 0) :
    Aligned start nameBytes (line :: source) := by
  have hrest' : Aligned start nameBytes source := of_silent hrest
  refine ⟨fun other hother hother' => ?_, fun before other after symbol hsplit => ?_,
    fun before other after hsplit => ?_⟩
  · rcases List.mem_cons.1 hother with rfl | hother
    · exact hsymbol hother'
    · exact hrest'.symbols other hother hother'
  · cases before with
    | nil =>
        obtain ⟨rfl, rfl⟩ := List.cons.inj hsplit
        exact hnumber symbol
    | cons first before =>
        exact hrest'.numbers before other after symbol (List.cons.inj hsplit).2
  · cases before with
    | nil =>
        obtain ⟨rfl, rfl⟩ := List.cons.inj hsplit
        exact hcomponent
    | cons first before => exact hrest'.components before other after (List.cons.inj hsplit).2

end Aligned

/-! ### Pieces of a source -/

/-- Whatever even address the lines start at, they are aligned and end at an even
address. -/
def Sits (start : String) (bytes : Nat) (lines : List Line) : Prop :=
  ∀ address, address % 2 = 0 →
    Aligned start bytes (addressesFrom address (lines.map Line.text)) ∧
      endFrom address (lines.map Line.text) % 2 = 0

/-- The line is neither a symbol nor a heading. -/
def IsSilent (l : Line) : Prop :=
  definedSymbol? l.text = none ∧ isHeading l.text = false

section

variable {start symbol operand remark quoted : String} {bytes address zeros : Nat}
  {width : Width} {a b lines : List Line}

theorem isHeading_of_head? {line : String} (h : line.toList.head? ≠ some '\t') :
    isHeading line = false := by
  rw [isHeading]
  cases hline : line.toList with
  | nil => rfl
  | cons c cs =>
      rw [hline] at h
      have hc : c ≠ '\t' := by simpa using h
      change (if '\t' = c then _ else none).isSome = false
      rw [if_neg hc.symm]
      rfl

theorem definedSymbol?_of_label? {l : Line} (h : l.label? = none) :
    definedSymbol? l.text = none := by
  rw [definedSymbol?_text (by simp [h]), h]

theorem isSilent_data : IsSilent (.data width operand remark) :=
  ⟨definedSymbol?_of_label? rfl, isHeading_data width operand remark⟩

theorem isSilent_name : IsSilent (.name quoted zeros remark) := by
  refine ⟨definedSymbol?_of_label? rfl, ?_⟩
  simp only [isHeading, Line.text, String.toList_append]
  rfl

theorem silent_addressesFrom (h : ∀ l ∈ lines, IsSilent l) :
    ∀ line ∈ addressesFrom address (lines.map Line.text),
      definedSymbol? line.2 = none ∧ isHeading line.2 = false := by
  intro line hline
  obtain ⟨l, hl, htext⟩ := List.mem_map.1 (mem_of_mem_addressesFrom hline)
  rw [← htext]
  exact h l hl

theorem head?_label (hsymbol : symbol.toList.head? ≠ some '\t') :
    (Line.label symbol).text.toList.head? ≠ some '\t' := by
  rw [Line.text, String.toList_append, List.head?_append]
  cases hcs : symbol.toList.head? with
  | none => decide
  | some c => rwa [hcs] at hsymbol

theorem definedSymbol?_label (hsymbol : symbol.toList.head? ≠ some '\t') :
    definedSymbol? (Line.label symbol).text = some symbol :=
  definedSymbol?_text (l := .label symbol) fun _ h => Option.some.inj h ▸ hsymbol

namespace Sits

theorem nil : Sits start bytes [] :=
  fun _ haddress => ⟨.nil, haddress⟩

theorem append (ha : Sits start bytes a) (hb : Sits start bytes b) :
    Sits start bytes (a ++ b) := by
  intro address haddress
  obtain ⟨haligned, hend⟩ := ha address haddress
  obtain ⟨haligned', hend'⟩ := hb _ hend
  rw [List.map_append, addressesFrom_append, endFrom_append]
  exact ⟨haligned.append haligned', hend'⟩

theorem flatMap {α : Type} {f : α → List Line} {xs : List α}
    (h : ∀ x ∈ xs, Sits start bytes (f x)) : Sits start bytes (xs.flatMap f) := by
  induction xs with
  | nil => exact nil
  | cons x xs ih =>
      rw [List.forall_mem_cons] at h
      rw [List.flatMap_cons]
      exact h.1.append (ih h.2)

theorem map {α : Type} {f : α → Line} {xs : List α}
    (h : ∀ x ∈ xs, Sits start bytes [f x]) : Sits start bytes (xs.map f) := by
  rw [List.map_eq_flatMap]
  exact flatMap h

theorem of_silent (hsilent : ∀ l ∈ lines, IsSilent l)
    (hend : ∀ address, address % 2 = 0 → endFrom address (lines.map Line.text) % 2 = 0) :
    Sits start bytes lines := fun address haddress =>
  ⟨.of_silent (silent_addressesFrom hsilent), hend address haddress⟩

theorem of_forall (h : ∀ l ∈ lines, Sits start bytes [l]) : Sits start bytes lines := by
  rw [← List.map_id lines]
  exact map h

theorem blank : Sits start bytes [.blank] :=
  of_silent (by simp [IsSilent, Line.text, definedSymbol?, isHeading, Text.afterStart])
    fun _ haddress => haddress

/-- A word or a long takes an even number of bytes, whatever it says without quotes. -/
theorem data (hwidth : width ≠ .byte) (hoperand : Unquoted operand) :
    Sits start bytes [.data width operand remark] := by
  refine of_silent (fun l hl => ?_) fun address haddress => ?_
  · rw [List.mem_singleton.1 hl]
    exact isSilent_data
  · exact (advance_data_mod_two hwidth hoperand).trans haddress

/-- A symbol that belongs to no record. -/
theorem label (hsymbol : symbol.toList.head? ≠ some '\t')
    (hother : ¬start.toList <+: symbol.toList) : Sits start bytes [.label symbol] := by
  intro address haddress
  refine ⟨.cons_silent (by simp [addressesFrom]) (fun _ => haddress)
    (fun symbol' hsymbol' hstart => ?_) fun hheading => ?_, ?_⟩
  · rw [definedSymbol?_label hsymbol] at hsymbol'
    obtain rfl := Option.some.inj hsymbol'
    exact absurd hstart hother
  · rw [isHeading_of_head? (head?_label hsymbol)] at hheading
    cases hheading
  · exact (congrArg (· % 2) (advance_of_head? (head?_label hsymbol))).trans haddress

/-- Padding makes up for whatever stands in front of it. -/
theorem padded (h : ∀ l ∈ lines, IsSilent l) : Sits start bytes (lines ++ [.even]) := by
  refine of_silent (fun l hl => ?_) fun address _ => ?_
  · rcases List.mem_append.1 hl with hl | hl
    · exact h l hl
    · rw [List.mem_singleton.1 hl]
      exact ⟨by decide, by decide⟩
  · rw [List.map_append, endFrom_append]
    generalize endFrom address (lines.map Line.text) = last
    change advance last Line.even.text % 2 = 0
    rw [advance_even]
    omega

end Sits

/-! ### Parameters and components -/

variable {params : List Param}

theorem isSilent_of_mem_params : ∀ l ∈ params.map paramLine, IsSilent l := by
  intro l hl
  obtain ⟨p, -, rfl⟩ := List.mem_map.1 hl
  exact isSilent_data

theorem unquoted_operand {p : Param} (h : Unquoted p.value) : Unquoted p.operand := by
  rw [Param.operand]
  split
  · decide
  · exact h

/-- The parameters of an entity are padded if one of them is a single byte, and take an
even number of bytes if none is. -/
theorem sits_params (hparams : ∀ p ∈ params, p.Plain) :
    Sits start bytes
      (params.map paramLine ++ if hasByte params then [.even] else []) := by
  by_cases hbyte : hasByte params = true
  · rw [if_pos hbyte]
    exact .padded isSilent_of_mem_params
  · rw [if_neg hbyte, List.append_nil]
    refine .map fun p hp => ?_
    have hsize : p.size ≠ .byte := fun hsize =>
      hbyte (List.any_eq_true.2 ⟨p, hp, by simp [hsize]⟩)
    exact .data hsize (unquoted_operand ((hparams p hp).resolve_left hsize))

theorem sits_component (c : Component) : Sits start bytes (componentLines c) := by
  rw [componentLines]
  split
  · exact .nil
  · next hparams =>
      obtain ⟨p, others, hcons⟩ := List.exists_cons_of_ne_nil (by simpa using hparams)
      have hsilent : ∀ l ∈ c.spawn.params.map paramLine ++ [Line.even], IsSilent l := by
        intro l hl
        rcases List.mem_append.1 hl with hl | hl
        · exact isSilent_of_mem_params l hl
        · rw [List.mem_singleton.1 hl]
          exact ⟨by decide, by decide⟩
      have hpadded : Sits start bytes (c.spawn.params.map paramLine ++ [Line.even]) :=
        .padded isSilent_of_mem_params
      intro address haddress
      rw [List.cons_append, List.map_cons, addressesFrom, endFrom, List.foldl_cons,
        advance_comment]
      -- The heading takes no byte, so the first parameter stands where it does.
      refine ⟨.cons_silent (silent_addressesFrom hsilent) (fun hsymbol => ?_)
        (fun symbol hsymbol => ?_) fun _ => ⟨(address, (paramLine p).text), ?_, ?_, haddress⟩,
        (hpadded address haddress).2⟩
      · rw [definedSymbol?_of_label? rfl] at hsymbol
        cases hsymbol
      · rw [definedSymbol?_of_label? rfl] at hsymbol
        cases hsymbol
      · rw [hcons]
        rfl
      · exact isValue_data p.size p.operand p.name

/-! ### Debug names -/

/-- A name and the zeros behind it take as many bytes as the settings say. -/
theorem length_debugName (name : String) {length : Nat} (h : 1 ≤ length) :
    (debugName name length).1.toList.length + (debugName name length).2 = length := by
  rw [debugName]
  split
  · next hlong =>
      simp only [String.toList_ofList, List.length_take]
      omega
  · next hshort =>
      simp only
      omega

theorem unquoted_debugName {name : String} (h : Unquoted name) (length : Nat) :
    Unquoted (debugName name length).1 := by
  rw [debugName]
  split
  · exact fun hmem => h (List.mem_of_mem_take (by simpa using hmem))
  · exact h

/-- How many bytes a debug name takes. -/
def Settings.nameBytes (settings : Settings) : Nat :=
  if settings.debugNames then settings.debugNameLength else 0

/-- Debug names, if there are any, have room for their terminator and take an even
number of bytes. -/
def Settings.EvenNames (settings : Settings) : Prop :=
  settings.debugNames = true → 2 ≤ settings.debugNameLength ∧ settings.debugNameLength % 2 = 0

instance (settings : Settings) : Decidable settings.EvenNames :=
  inferInstanceAs (Decidable (_ → _))

variable {settings : Settings} {name comment : String} {id : UInt16}

theorem nameBytes_mod_two (hnames : settings.EvenNames) : settings.nameBytes % 2 = 0 := by
  rw [Settings.nameBytes]
  split
  · next h => exact (hnames h).2
  · rfl

theorem isSilent_of_mem_debugNameLines :
    ∀ l ∈ debugNameLines settings name comment, IsSilent l := by
  intro l hl
  rw [debugNameLines] at hl
  split at hl
  · simp only [List.mem_cons, List.not_mem_nil, or_false] at hl
    rcases hl with rfl | rfl | rfl
    · exact ⟨by decide, by decide⟩
    · exact isSilent_name
    · exact ⟨by decide, by decide⟩
  · cases hl

theorem endFrom_debugNameLines (hnames : settings.EvenNames)
    (hname : settings.debugNames = true → Unquoted name) :
    endFrom address ((debugNameLines settings name comment).map Line.text) =
      address + settings.nameBytes := by
  rw [debugNameLines, Settings.nameBytes]
  by_cases h : settings.debugNames = true
  · rw [if_pos h, if_pos h]
    have hbefore : advance address Line.unlessFinal.text = address :=
      advance_of_none (by decide) (by decide)
    have hafter : ∀ last, advance last Line.endCondition.text = last :=
      fun last => advance_of_none (by decide) (by decide)
    have hlength : 1 ≤ settings.debugNameLength := (hnames h).1.trans' (by decide)
    simp only [List.map_cons, List.map_nil, endFrom, List.foldl_cons, List.foldl_nil, hbefore,
      hafter]
    rw [debugNameLine, advance_name (unquoted_debugName (hname h) _), length_debugName name hlength]
  · rw [if_neg h, if_neg h]
    rfl

/-- The remark of a debug name is not that of a number. -/
theorem isNumber_of_mem_debugNameLines :
    ∀ l ∈ debugNameLines settings name "EntitySpawnData_DebugName", isNumber l.text = false := by
  intro l hl
  rw [debugNameLines] at hl
  split at hl
  · simp only [List.mem_cons, List.not_mem_nil, or_false] at hl
    rcases hl with rfl | rfl | rfl
    · decide
    · have hremark : "\t; EntitySpawnData_DebugName".toList <:+
          (debugNameLine name settings.debugNameLength "EntitySpawnData_DebugName").text.toList := by
        rw [debugNameLine, Line.text, String.append_assoc, String.toList_append]
        exact List.suffix_append _ _
      rw [isNumber, ← Bool.not_eq_true, List.isSuffixOf_iff_suffix]
      exact Text.not_suffix_of_suffix hremark (by decide) (by decide)
    · decide
  · cases hl

/-! ### Records -/

theorem isNumber_id (id : UInt16) :
    isNumber (Line.data .word (Text.hex4 id.toNat) "EntitySpawnData_Id").text = true := by
  rw [isNumber, List.isSuffixOf_iff_suffix, Line.text, String.append_assoc, String.toList_append]
  exact List.suffix_append _ _

theorem find?_addressesFrom {line : String} (hlines : ∀ l ∈ lines, isNumber l.text = false)
    (hline : isNumber line = true) :
    (addressesFrom address (lines.map Line.text ++ [line])).find? (fun l => isNumber l.2) =
      some (endFrom address (lines.map Line.text), line) := by
  induction lines generalizing address with
  | nil => simp [addressesFrom, endFrom, hline]
  | cons l lines ih =>
      rw [List.forall_mem_cons] at hlines
      rw [List.map_cons, List.cons_append, addressesFrom, List.find?_cons_of_neg (by simp [hlines.1]),
        ih hlines.2]
      rfl

/-- The symbol of a record, its debug name and the number of its entity. -/
theorem sits_recordHead (hsymbol : symbol.toList.head? ≠ some '\t') (hnames : settings.EvenNames)
    (hname : settings.debugNames = true → Unquoted name) :
    Sits start settings.nameBytes
      (Line.label symbol :: (debugNameLines settings name "EntitySpawnData_DebugName" ++
        [Line.data .word (Text.hex4 id.toNat) "EntitySpawnData_Id"])) := by
  have hsilent : ∀ l ∈ debugNameLines settings name "EntitySpawnData_DebugName" ++
      [Line.data .word (Text.hex4 id.toNat) "EntitySpawnData_Id"], IsSilent l := by
    intro l hl
    rcases List.mem_append.1 hl with hl | hl
    · exact isSilent_of_mem_debugNameLines l hl
    · rw [List.mem_singleton.1 hl]
      exact isSilent_data
  intro address haddress
  have hlast : endFrom address ((debugNameLines settings name "EntitySpawnData_DebugName").map
      Line.text) = address + settings.nameBytes := endFrom_debugNameLines hnames hname
  rw [List.map_cons, addressesFrom, endFrom, List.foldl_cons,
    advance_of_head? (head?_label hsymbol)]
  refine ⟨.cons_silent (silent_addressesFrom hsilent) (fun _ => haddress) (fun _ _ _ => ?_)
    fun hheading => ?_, ?_⟩
  · rw [List.map_append]
    exact ⟨_, find?_addressesFrom isNumber_of_mem_debugNameLines (isNumber_id id), hlast⟩
  · rw [isHeading_of_head? (head?_label hsymbol)] at hheading
    cases hheading
  · change endFrom address _ % 2 = 0
    rw [List.map_append, endFrom_append, hlast]
    have hwidth := nameBytes_mod_two hnames
    have hid : advance (address + settings.nameBytes)
        (Line.data .word (Text.hex4 id.toNat) "EntitySpawnData_Id").text % 2 =
          (address + settings.nameBytes) % 2 :=
      advance_data_mod_two (by decide) (unquoted_paddedHex _ _)
    rw [List.map_singleton, endFrom, List.foldl_cons, List.foldl_nil, hid]
    omega

/-- A spawn record under its symbol. -/
theorem sits_entityRecord {e : Entity} (hsymbol : symbol.toList.head? ≠ some '\t')
    (hnames : settings.EvenNames) (hname : settings.debugNames = true → Unquoted e.spawn.name)
    (hparams : ∀ p ∈ e.spawn.params, p.Plain) :
    Sits start settings.nameBytes (Line.label symbol :: entityRecord settings e) := by
  have hhead : Sits start settings.nameBytes (Line.label symbol ::
      (debugNameLines settings e.spawn.name "EntitySpawnData_DebugName" ++
        [Line.data .word (Text.hex4 e.id.toNat) "EntitySpawnData_Id"])) :=
    sits_recordHead hsymbol hnames hname
  have hcomponents : Sits start settings.nameBytes (e.components.flatMap componentLines) :=
    .flatMap fun c _ => sits_component c
  have hlines := ((hhead.append (sits_params hparams)).append hcomponents).append .blank
  simpa [entityRecord, spawnRecord] using hlines

/-- The block of a static entity. -/
theorem sits_staticBlock {e : Entity} (hnames : settings.EvenNames)
    (htype : Unquoted e.typeName) (hname : settings.debugNames = true → Unquoted e.spawn.name) :
    Sits start settings.nameBytes (staticBlock settings e) := by
  have hdescriptor : Unquoted e.descriptor := htype.append (by decide)
  have hname' : Sits start settings.nameBytes
      (debugNameLines settings e.spawn.name "EntityBlock_DebugName") := by
    refine .of_silent isSilent_of_mem_debugNameLines fun address haddress => ?_
    have hwidth := nameBytes_mod_two hnames
    rw [endFrom_debugNameLines hnames hname]
    omega
  have hparams : Sits start settings.nameBytes (e.spawn.params.map paramLine ++ [Line.even]) :=
    .padded isSilent_of_mem_params
  have hwords : Sits start settings.nameBytes
      [Line.data .word "0x0" "EntityBlock_Flags",
        Line.data .word "0x0" "EntityBlock_Next",
        Line.data .word e.descriptor "Entity_TypeDesc",
        Line.data .word (Text.hex4 e.id.toNat) "Entity_Id",
        Line.data .long (Text.hex8 (e.spawn.centre.x.toInt * 0x10000)) "Entity_PosX",
        Line.data .long (Text.hex8 (e.spawn.centre.y.toInt * 0x10000)) "Entity_PosY",
        Line.data .word (Text.hex4 e.spawn.extents.width.toNat) "Entity_ExtentsX",
        Line.data .word (Text.hex4 e.spawn.extents.height.toNat) "Entity_ExtentsY"] := by
    refine .of_forall fun l hl => ?_
    simp only [List.mem_cons, List.not_mem_nil, or_false] at hl
    rcases hl with rfl | rfl | rfl | rfl | rfl | rfl | rfl | rfl
    · exact .data (by decide) (by decide)
    · exact .data (by decide) (by decide)
    · exact .data (by decide) hdescriptor
    · exact .data (by decide) (unquoted_paddedHex _ _)
    · exact .data (by decide) (unquoted_paddedHex _ _)
    · exact .data (by decide) (unquoted_paddedHex _ _)
    · exact .data (by decide) (unquoted_paddedHex _ _)
    · exact .data (by decide) (unquoted_paddedHex _ _)
  have hlines := ((hname'.append hwords).append hparams).append .blank
  simpa [staticBlock] using hlines

end

end Export

end Cartridge
