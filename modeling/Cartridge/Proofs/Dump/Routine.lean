import Cartridge.Proofs.Dump.Relocations

/-!
Routines looked up in a dump. The search is for the qualified name as a whole,
but anywhere on a line: whatever mentions a routine and is no relocation that
speaks of the offset table is taken for its definition. Where nothing else
mentions it, the answer is the address of its first definition.
-/

namespace Cartridge.Script.Dump

open Cartridge.Text

/-! ### Mentions -/

/-- A symbol stands in a text as a whole: no name or scope leads into it, and its
last identifier ends with it. -/
def Mentions (symbol text : List Char) : Prop :=
  ∃ before after, text = before ++ symbol ++ after ∧
    before.getLast?.any (fun c => isIdentifierChar c || c == ':') = false ∧
    after.head?.any isIdentifierChar = false

instance (symbol text : List Char) : Decidable (Mentions symbol text) :=
  decidable_of_iff
    (∃ before ∈ text.inits, before ++ symbol <+: text ∧
      before.getLast?.any (fun c => isIdentifierChar c || c == ':') = false ∧
      (text.drop (before ++ symbol).length).head?.any isIdentifierChar = false) <| by
    constructor
    · rintro ⟨before, -, ⟨after, rfl⟩, hbefore, hafter⟩
      exact ⟨before, after, rfl, hbefore, by rwa [List.drop_left] at hafter⟩
    · rintro ⟨before, after, rfl, hbefore, hafter⟩
      exact ⟨before, (List.mem_inits _ _).2 ⟨symbol ++ after, by simp⟩, ⟨after, rfl⟩, hbefore,
        by rwa [List.drop_left]⟩

/-- What a search finds is a mention. -/
theorem mentions_of_hasSymbol {symbol before rest : List Char} {skip : Nat}
    (h : hasSymbol symbol before.getLast? skip rest = true) : Mentions symbol (before ++ rest) := by
  induction rest generalizing before skip with
  | nil => simp [hasSymbol] at h
  | cons c rest ih =>
      have hnext : ∀ {skip}, hasSymbol symbol (some c) skip rest = true →
          Mentions symbol (before ++ c :: rest) := by
        intro skip h
        rw [List.append_cons]
        exact ih (by rwa [List.getLast?_concat])
      cases skip with
      | succ skip => exact hnext h
      | zero =>
          rw [hasSymbol] at h
          cases hstart : afterStart symbol (c :: rest) with
          | none => exact hnext (by simpa [hstart] using h)
          | some after =>
              simp only [hstart, Bool.or_eq_true, Bool.and_eq_true, Bool.not_eq_true'] at h
              rcases h with ⟨hbefore, hafter⟩ | h
              · exact ⟨before, after, by simp [afterStart_eq_some_iff.1 hstart], hbefore, hafter⟩
              · exact hnext h

theorem mentions_of_search {symbol text : List Char} (h : hasSymbol symbol none 0 text = true) :
    Mentions symbol text := by
  simpa using mentions_of_hasSymbol (by simpa using h : hasSymbol symbol [].getLast? 0 text = true)

/-- The text before the symbol of a line of a dump: no part of a qualified name
stands there. -/
def IsColumns (front : List Char) : Prop :=
  ∀ c ∈ front, c ≠ ':' ∧ c ≠ '<'

instance : DecidablePred IsColumns := fun front => List.decidableBAll _ front

/-- The qualified name of a routine. -/
def routineName (scope name : String) : List Char :=
  (scope ++ "::" ++ name).toList

/-- A scope starts with a word: there is no blank in front of its first separator
or template bracket. -/
def StartsWithWord (symbol : List Char) : Prop :=
  ' ' ∉ symbol.takeWhile fun c => c ≠ ':' && c ≠ '<'

instance (symbol : List Char) : Decidable (StartsWithWord symbol) :=
  inferInstanceAs (Decidable (¬_))

theorem colon_mem_routineName (scope name : String) : ':' ∈ routineName scope name := by
  simp [routineName]

section Columns

variable {front symbol : List Char}

/-- A qualified name cannot begin among the columns. -/
theorem columns_append_ne {more text rest : List Char} (hmore : IsColumns more)
    (hcolon : ':' ∈ symbol) (hword : StartsWithWord symbol) :
    more ++ ' ' :: text ≠ symbol ++ rest := by
  intro h
  rcases List.append_eq_append_iff.1 h with ⟨end', hsymbol, htext⟩ | ⟨end', rfl, -⟩
  · cases end' with
    | nil =>
        rw [List.append_nil] at hsymbol
        exact (hmore ':' (hsymbol ▸ hcolon)).1 rfl
    | cons c end' =>
        obtain ⟨rfl, -⟩ := List.cons.inj htext
        refine hword ?_
        rw [hsymbol, List.takeWhile_append_of_pos (by simpa [IsColumns] using hmore)]
        simp
  · exact (hmore ':' (by simp [hcolon])).1 rfl

/-- What a line mentions, it mentions behind its columns. -/
theorem Mentions.of_columns {text : List Char} (hfront : IsColumns front) (hcolon : ':' ∈ symbol)
    (hword : StartsWithWord symbol) (h : Mentions symbol (front ++ ' ' :: text)) :
    Mentions symbol text := by
  obtain ⟨before, after, heq, hbefore, hafter⟩ := h
  rw [List.append_assoc] at heq
  rcases List.append_eq_append_iff.1 heq with ⟨more, rfl, htext⟩ | ⟨more, rfl, htext⟩
  · cases more with
    | nil => exact (columns_append_ne (List.forall_mem_nil _) hcolon hword htext).elim
    | cons c more =>
        obtain ⟨rfl, rfl⟩ := List.cons.inj htext
        refine ⟨more, after, by simp, ?_, hafter⟩
        cases hmore : more.getLast? with
        | none => rfl
        | some c =>
            rw [List.getLast?_append, List.getLast?_cons, hmore] at hbefore
            exact hbefore
  · have hmore : IsColumns more := fun c hc => hfront c (by simp [hc])
    exact (columns_append_ne hmore hcolon hword htext.symm).elim

/-- The search gets to a symbol behind the columns. -/
theorem hasSymbol_columns (hfront : IsColumns front) (hcolon : ':' ∈ symbol)
    (hword : StartsWithWord symbol) {after : List Char}
    (hafter : after.head?.any isIdentifierChar = false) (previous : Option Char) :
    hasSymbol symbol previous 0 (front ++ ' ' :: (symbol ++ after)) = true := by
  induction front generalizing previous with
  | nil =>
      have hstart : afterStart symbol (' ' :: (symbol ++ after)) = none := by
        refine Option.eq_none_iff_forall_ne_some.2 fun rest hrest => ?_
        exact columns_append_ne hfront hcolon hword (afterStart_eq_some_iff.1 hrest)
      obtain ⟨c, rest, hsymbol⟩ := List.exists_cons_of_ne_nil (List.ne_nil_of_mem hcolon)
      have hfound : afterStart symbol (c :: (rest ++ after)) = some after :=
        afterStart_eq_some_iff.2 (by simp [hsymbol])
      have hblank : isIdentifierChar ' ' = false := by decide +kernel
      rw [List.nil_append, hasSymbol]
      simp only [hstart]
      rw [hsymbol, List.cons_append, hasSymbol, ← hsymbol]
      simp [hfound, hblank, hafter]
  | cons c front ih =>
      have hstart : afterStart symbol (c :: front ++ ' ' :: (symbol ++ after)) = none := by
        refine Option.eq_none_iff_forall_ne_some.2 fun rest hrest => ?_
        exact columns_append_ne hfront hcolon hword (afterStart_eq_some_iff.1 hrest)
      rw [List.cons_append] at hstart ⊢
      rw [hasSymbol]
      simp only [hstart]
      exact ih (fun d hd => hfront d (List.mem_cons_of_mem c hd)) (some c)

end Columns

/-! ### The lines of a dump -/

/-- A parameter list: its last bracket closes its first. -/
def IsParameters (text : List Char) : Prop :=
  let inner := text.tail.dropLast
  text = '(' :: inner ++ [')'] ∧ inner.count '(' = inner.count ')' ∧
    ∀ front ∈ inner.inits, front.count ')' ≤ front.count '('

instance : DecidablePred IsParameters := fun _ =>
  inferInstanceAs (Decidable (_ ∧ _ ∧ _))

/-- An entry of the symbol table. -/
structure Entry where
  address : UInt32
  digits : List Char
  flags : List Char
  sectionName : List Char
  /-- The size, and the visibility where it is not the default one. -/
  size : List Char
  /-- The demangled name with its scopes. -/
  name : List Char
  parameters : List Char

namespace Entry

def symbol (e : Entry) : List Char :=
  e.name ++ e.parameters

def columns (e : Entry) : List Char :=
  e.digits ++ ' ' :: (e.flags ++ ' ' :: (e.sectionName ++ '\t' :: e.size))

def text (e : Entry) : List Char :=
  e.columns ++ ' ' :: e.symbol

end Entry

/-- A relocation of any kind. -/
structure Record where
  address : UInt32
  digits : List Char
  kind : List Char
  padding : Nat
  symbol : List Char

namespace Record

def columns (r : Record) : List Char :=
  r.digits ++ ' ' :: (r.kind ++ List.replicate r.padding ' ')

def text (r : Record) : List Char :=
  r.columns ++ ' ' :: r.symbol

end Record

/-- A line of a dump. -/
inductive Item where
  | heading (text : List Char)
  | entry (e : Entry)
  | relocation (r : Record)

namespace Item

def text : Item → List Char
  | heading text => text
  | entry e => e.text
  | relocation r => r.text

/-- The line follows the format of dumps. -/
def Printed : Item → Prop
  | heading text => lineAddress? text = none
  | entry e => (e.digits ≠ [] ∧ hexValueFrom 0 e.digits = some e.address.toNat) ∧
      IsColumns e.columns ∧ (e.parameters = [] ∨ IsParameters e.parameters)
  | relocation r => (r.digits ≠ [] ∧ hexValueFrom 0 r.digits = some r.address.toNat) ∧
      IsColumns r.columns

instance : DecidablePred Printed
  | heading _ => inferInstanceAs (Decidable (_ = _))
  | entry _ => inferInstanceAs (Decidable ((_ ∧ _) ∧ _ ∧ (_ ∨ _)))
  | relocation _ => inferInstanceAs (Decidable ((_ ∧ _) ∧ _))

/-- The line is the definition of a symbol. -/
def Defines (symbol : List Char) : Item → Prop
  | entry e => e.sectionName ≠ "*UND*".toList ∧ e.name = symbol
  | _ => False

instance (symbol : List Char) : DecidablePred (Defines symbol)
  | heading _ => inferInstanceAs (Decidable False)
  | entry _ => inferInstanceAs (Decidable (_ ∧ _))
  | relocation _ => inferInstanceAs (Decidable False)

/-- The line mentions a symbol only if it defines it, or refers to it from the
offset table: it is no relocation of another kind, no undefined entry and no
entry of another symbol. -/
def OnlyDefines (symbol : List Char) : Item → Prop
  | heading _ => True
  | entry e => Mentions symbol e.symbol → (entry e).Defines symbol
  | relocation r => Mentions symbol r.symbol → isMarked r.kind = true

instance (symbol : List Char) : DecidablePred (OnlyDefines symbol)
  | heading _ => inferInstanceAs (Decidable True)
  | entry _ => inferInstanceAs (Decidable (_ → _))
  | relocation _ => inferInstanceAs (Decidable (_ → _))

/-- The address that the line defines a symbol at. A definition that speaks of the
offset table is passed over. -/
def definition? (symbol : List Char) : Item → Option UInt32
  | entry e => if e.name = symbol ∧ isMarked e.text = false then some e.address else none
  | _ => none

end Item

theorem lineAddress?_append {digits : List Char} {address : UInt32}
    (hdigits : digits ≠ [] ∧ hexValueFrom 0 digits = some address.toNat) (rest : List Char) :
    lineAddress? (digits ++ ' ' :: rest) = some address := by
  have hblank := isWord_of_hexValueFrom hdigits.2
  have haddress : address? ([] ++ digits) = some address := address?_append (by simp) hdigits
  rw [lineAddress?, wordsList_append hdigits.1 hblank (by decide)]
  exact haddress

theorem Entry.lineAddress?_text (e : Entry)
    (hdigits : e.digits ≠ [] ∧ hexValueFrom 0 e.digits = some e.address.toNat) :
    lineAddress? e.text = some e.address := by
  have happend := lineAddress?_append hdigits
    (e.flags ++ ' ' :: (e.sectionName ++ '\t' :: e.size) ++ ' ' :: e.symbol)
  simpa [Entry.text, Entry.columns] using happend

theorem head_parameters {parameters : List Char} (h : parameters = [] ∨ IsParameters parameters) :
    parameters.head?.any isIdentifierChar = false := by
  have hbracket : isIdentifierChar '(' = false := by decide +kernel
  rcases h with rfl | ⟨hlist, -⟩
  · rfl
  · rw [hlist]
    simpa using hbracket

/-- What a line answers to a lookup of the symbol. -/
def answer? (symbol line : List Char) : Option UInt32 :=
  if !isMarked line && hasSymbol symbol none 0 line then lineAddress? line else none

/-- A lookup goes by the first line that has an answer. -/
theorem routineAddress?_eq_first_answer (dump scope name : String) :
    routineAddress? dump scope name =
      (linesList dump.toList).findSome? (answer? (routineName scope name)) := by
  rw [routineAddress?, findAddress?, ← List.head?_filterMap, ← List.head?_filterMap,
    List.filterMap_filter]
  rfl

theorem Item.Printed.answer?_text {item : Item} {symbol : List Char} (h : item.Printed)
    (hcolon : ':' ∈ symbol) (hword : StartsWithWord symbol) (honly : item.OnlyDefines symbol) :
    answer? symbol item.text = item.definition? symbol := by
  rw [answer?]
  cases item with
  | heading text =>
      have hnone : lineAddress? text = none := h
      simp [Item.text, Item.definition?, hnone]
  | relocation r =>
      obtain ⟨-, hcolumns⟩ := h
      refine if_neg fun hfound => ?_
      obtain ⟨hunmarked, hfound⟩ := Bool.and_eq_true_iff.1 hfound
      have hmarked := honly ((mentions_of_search hfound).of_columns hcolumns hcolon hword)
      have hkind : r.kind <:+: r.text :=
        ⟨r.digits ++ [' '], List.replicate r.padding ' ' ++ ' ' :: r.symbol,
          by simp [Record.text, Record.columns]⟩
      have hline : isMarked r.text = true :=
        containsList_iff.2 ((containsList_iff.1 hmarked).trans hkind)
      rw [Item.text, hline] at hunmarked
      cases hunmarked
  | entry e =>
      obtain ⟨hdigits, hcolumns, hparameters⟩ := h
      have hfound : hasSymbol symbol none 0 e.text = true ↔ e.name = symbol := by
        constructor
        · intro hfound
          exact (honly ((mentions_of_search hfound).of_columns hcolumns hcolon hword)).2
        · rintro rfl
          exact hasSymbol_columns hcolumns hcolon hword (head_parameters hparameters) none
      rw [Item.definition?, Item.text]
      refine if_congr ?_ (e.lineAddress?_text hdigits) rfl
      rw [Bool.and_eq_true_iff, hfound, and_comm, Bool.not_eq_true']

section Lookup

variable {dump scope name : String} {listing : List Item}

/-- The answer is the address of the first definition. -/
theorem routineAddress?_eq_findSome? (hdump : linesList dump.toList = listing.map Item.text)
    (hprinted : ∀ item ∈ listing, item.Printed) (hword : StartsWithWord (routineName scope name))
    (honly : ∀ item ∈ listing, item.OnlyDefines (routineName scope name)) :
    routineAddress? dump scope name =
      listing.findSome? (Item.definition? (routineName scope name)) := by
  rw [routineAddress?_eq_first_answer, hdump, ← List.head?_filterMap, ← List.head?_filterMap,
    List.filterMap_map]
  congr 1
  refine List.filterMap_congr fun item hitem => ?_
  exact (hprinted item hitem).answer?_text (colon_mem_routineName scope name) hword
    (honly item hitem)

/-- A lookup returns definitions only, provided that nothing else mentions the
routine: the line of the address is a defined entry whose symbol is the routine
with at most a parameter list behind it. -/
theorem routineAddress?_eq_some_definition {a : UInt32}
    (hdump : linesList dump.toList = listing.map Item.text)
    (hprinted : ∀ item ∈ listing, item.Printed) (hword : StartsWithWord (routineName scope name))
    (honly : ∀ item ∈ listing, item.OnlyDefines (routineName scope name))
    (hfound : routineAddress? dump scope name = some a) :
    ∃ e, Item.entry e ∈ listing ∧ lineAddress? e.text = some a ∧ isMarked e.text = false ∧
      e.sectionName ≠ "*UND*".toList ∧ e.symbol = routineName scope name ++ e.parameters ∧
      (e.parameters = [] ∨ IsParameters e.parameters) := by
  rw [routineAddress?_eq_findSome? hdump hprinted hword honly] at hfound
  obtain ⟨item, hitem, hdefinition⟩ := List.exists_of_findSome?_eq_some hfound
  cases item with
  | heading text => cases hdefinition
  | relocation r => cases hdefinition
  | entry e =>
      obtain ⟨hdigits, -, hparameters⟩ := hprinted _ hitem
      obtain ⟨⟨hname, hunmarked⟩, haddress⟩ := Option.ite_none_right_eq_some.1 hdefinition
      obtain ⟨rfl⟩ := haddress
      have hmention : Mentions (routineName scope name) e.symbol :=
        ⟨[], e.parameters, by simp [Entry.symbol, hname], by simp, head_parameters hparameters⟩
      have hsymbol : e.symbol = routineName scope name ++ e.parameters := by
        rw [Entry.symbol, hname]
      exact ⟨e, hitem, e.lineAddress?_text hdigits, hunmarked, (honly _ hitem hmention).1,
        hsymbol, hparameters⟩

end Lookup

/-! A unit with two routines of longer names in front of the one looked up. -/

def entryOf (address : UInt32) (digits sectionName name parameters : String) : Item :=
  .entry ⟨address, digits.toList, "g     F".toList, sectionName.toList, "00000010".toList,
    name.toList, parameters.toList⟩

def tickListing : List Item :=
  [.heading "SYMBOL TABLE:".toList,
    entryOf 0x100 "00000100" ".text" "BossFoo::Tick" "()",
    entryOf 0x180 "00000180" ".text" "game::Foo::Tick" "()",
    entryOf 0 "00000000" "*UND*" "_GLOBAL_OFFSET_TABLE_" "",
    entryOf 0x200 "00000200" ".text" "Foo::Tick" "(Engine const&, Scene const&)",
    .heading "OFFSET   TYPE              VALUE".toList,
    .relocation ⟨0x20, "00000020".toList, "R_68K_GOT16O".toList, 5,
      "Foo::Tick(Engine const&, Scene const&)".toList⟩]

/-- The text of a dump with the given lines. -/
def dumpText (listing : List Item) : String :=
  String.ofList (listing.flatMap fun item => item.text ++ ['\n'])

theorem toList_dumpText (listing : List Item) :
    (dumpText listing).toList = listing.flatMap fun item => item.text ++ ['\n'] :=
  String.toList_ofList

theorem tick_definition_found :
    linesList (dumpText tickListing).toList = tickListing.map Item.text ∧
      (∀ item ∈ tickListing, item.Printed) ∧ StartsWithWord (routineName "Foo" "Tick") ∧
      (∀ item ∈ tickListing, item.OnlyDefines (routineName "Foo" "Tick")) ∧
      routineAddress? (dumpText tickListing) "Foo" "Tick" = some 0x200 ∧
      ∃ e, Item.entry e ∈ tickListing ∧ lineAddress? e.text = some 0x200 ∧
        isMarked e.text = false ∧ e.sectionName ≠ "*UND*".toList ∧
        e.symbol = routineName "Foo" "Tick" ++ e.parameters ∧
        (e.parameters = [] ∨ IsParameters e.parameters) := by
  have hdump : linesList (dumpText tickListing).toList = tickListing.map Item.text := by
    rw [toList_dumpText]
    decide +kernel
  have hprinted : ∀ item ∈ tickListing, item.Printed := by decide +kernel
  have hword : StartsWithWord (routineName "Foo" "Tick") := by decide +kernel
  have honly : ∀ item ∈ tickListing, item.OnlyDefines (routineName "Foo" "Tick") := by
    decide +kernel
  have hfound : routineAddress? (dumpText tickListing) "Foo" "Tick" = some 0x200 := by
    rw [routineAddress?_eq_findSome? hdump hprinted hword honly]
    decide +kernel
  exact ⟨hdump, hprinted, hword, honly, hfound,
    routineAddress?_eq_some_definition hdump hprinted hword honly hfound⟩

/-- A relocation of another kind, an undefined routine, a static local and a
routine that takes another one for an argument. -/
def strayItems : List Item :=
  [.relocation ⟨0x20, "00000020".toList, "R_68K_32".toList, 9, "Foo::Tick()".toList⟩,
    entryOf 0x20 "00000020" "*UND*" "Foo::Tick" "()",
    entryOf 0x20 "00000020" ".bss" "Foo::Tick()::count" "",
    entryOf 0x20 "00000020" ".text" "Bar::Call" "(Foo::Tick)"]

/-- None of them defines the routine, and each is taken for its definition. -/
theorem stray_mentions_found :
    strayItems.Forall (fun item => item.Printed ∧ ¬item.Defines (routineName "Foo" "Tick") ∧
        linesList (dumpText [item]).toList = [item.text]) ∧
      strayItems.map (fun item => routineAddress? (dumpText [item]) "Foo" "Tick") =
        List.replicate 4 (some 0x20) := by
  simp only [List.forall_iff_forall_mem, routineAddress?, findAddress?, toList_dumpText]
  constructor
  · decide +kernel
  · decide +kernel

end Cartridge.Script.Dump
