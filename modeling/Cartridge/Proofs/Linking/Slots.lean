import Cartridge.Command.Export
import Cartridge.Command.Link
import Cartridge.Proofs.Command.Run
import Cartridge.Proofs.Cutting
import Cartridge.Proofs.Json.Records
import Cartridge.Proofs.Linking.Table
import Mathlib.Data.List.Induction
import Mathlib.Data.List.Nodup

/-!
The slots of a collected table. They are numbered without gaps and no two of
them have one key, so the lookup of a key, the listing, the encoding and the
document of a table all agree on the slot of a routine, and collecting the
routines of a table again gives the same table.
-/

namespace Cartridge

open Json (Read ReadsBack Value)

theorem Routine.eq_of_unplaced {e f : Routine} (h : e.unplaced = f.unplaced) :
    e = { f with slot := e.slot } := by
  cases e
  cases f
  simpa [Routine.unplaced] using h

namespace Script.OffsetTable

/-- The slots of a table are numbered in order, and no two hold one key. -/
structure Dense (t : OffsetTable) : Prop where
  keys : (t.entries.map Routine.key).Nodup
  slots : ∀ i e, t.entries[i]? = some e → e.slot = some (UInt32.ofNat i)

/-- The table has one slot for each key among the routines, in the order in
which the keys first appear, and a slot holds the first routine of its key. -/
structure Collected (t : OffsetTable) (routines : List Routine) : Prop where
  keys : t.entries.map Routine.key = (routines.map Routine.key).eraseDups
  entry : ∀ i e, t.entries[i]? = some e →
    ∃ f, (routines.find? fun f => f.key == e.key) = some f ∧
      e = { f with slot := some (UInt32.ofNat i) }
  find : ∀ scope name i, t.find? scope name = some i ↔
    ∃ e, t.entries[i]? = some e ∧ e.key = (scope, name)

/-! ### Adding a routine -/

theorem isSome_find?_iff {t : OffsetTable} {scope name : String} :
    (t.find? scope name).isSome = true ↔ (scope, name) ∈ t.entries.map Routine.key := by
  simp [isSome_find?]

theorem add_of_mem {t : OffsetTable} {r : Routine} (h : r.key ∈ t.entries.map Routine.key) :
    t.add r = t := by
  rw [add, if_pos (isSome_find?_iff.2 h)]

theorem add_of_notMem {t : OffsetTable} {r : Routine}
    (h : r.key ∉ t.entries.map Routine.key) :
    t.add r = ⟨t.entries ++ [{ r with slot := some (UInt32.ofNat t.size) }]⟩ := by
  rw [add, if_neg (mt isSome_find?_iff.1 h)]

theorem Dense.add {t : OffsetTable} (h : t.Dense) (r : Routine) : (t.add r).Dense := by
  by_cases hr : r.key ∈ t.entries.map Routine.key
  · rwa [add_of_mem hr]
  · rw [add_of_notMem hr]
    constructor
    · rw [List.map_append, List.nodup_append]
      refine ⟨h.keys, List.nodup_singleton _, ?_⟩
      rintro key hkey _ hsame rfl
      rw [List.map_singleton, List.mem_singleton] at hsame
      exact hr (hsame ▸ hkey)
    · intro i e hi
      rcases Nat.lt_or_ge i t.entries.length with hlt | hge
      · rw [List.getElem?_append_left hlt] at hi
        exact h.slots i e hi
      · obtain ⟨hlt, -⟩ := List.getElem?_eq_some_iff.1 hi
        rw [List.length_append, List.length_singleton] at hlt
        obtain rfl : i = t.size := by rw [size]; omega
        rw [size, List.getElem?_concat_length] at hi
        cases hi
        rfl

/-! ### Collecting routines -/

theorem ofRoutines_concat (routines : List Routine) (r : Routine) :
    ofRoutines (routines ++ [r]) = (ofRoutines routines).add r := by
  rw [ofRoutines, List.foldl_append]
  rfl

theorem dense_ofRoutines (routines : List Routine) : (ofRoutines routines).Dense := by
  induction routines using List.reverseRecOn with
  | nil => exact ⟨List.nodup_nil, fun _ _ h => by cases h⟩
  | append_singleton routines r ih =>
      rw [ofRoutines_concat]
      exact ih.add r

theorem keys_ofRoutines (routines : List Routine) :
    (ofRoutines routines).entries.map Routine.key = (routines.map Routine.key).eraseDups := by
  induction routines using List.reverseRecOn with
  | nil => rfl
  | append_singleton routines r ih =>
      have hmem : r.key ∈ (ofRoutines routines).entries.map Routine.key ↔
          r.key ∈ routines.map Routine.key := by rw [ih, List.mem_eraseDups]
      rw [ofRoutines_concat, List.map_append, List.map_singleton, List.eraseDups_append, ← ih]
      -- The table and the list of keys leave out the same routine, or both take it.
      by_cases hr : r.key ∈ routines.map Routine.key
      · have hremoved : [r.key].removeAll (routines.map Routine.key) = [] := by
          rw [List.removeAll, List.filter_singleton, List.elem_eq_mem, decide_eq_true hr]
          rfl
        rw [add_of_mem (hmem.2 hr), hremoved, List.eraseDups_nil, List.append_nil]
      · have hremoved : [r.key].removeAll (routines.map Routine.key) = [r.key] := by
          rw [List.removeAll, List.filter_singleton, List.elem_eq_mem, decide_eq_false hr]
          rfl
        rw [add_of_notMem (mt hmem.1 hr), List.map_append, hremoved]
        rfl

/-- A key stands in one slot only. -/
theorem Dense.eq_of_key {t : OffsetTable} (h : t.Dense) {i j : Nat} {e f : Routine}
    (hi : t.entries[i]? = some e) (hj : t.entries[j]? = some f) (hkey : e.key = f.key) :
    i = j := by
  obtain ⟨hlt, -⟩ := List.getElem?_eq_some_iff.1 hi
  refine (List.getElem?_inj (by rwa [List.length_map]) h.keys).1 ?_
  rw [List.getElem?_map, List.getElem?_map, hi, hj]
  exact congrArg some hkey

/-- In a dense table a key finds the slot that holds it. -/
theorem Dense.find?_eq_some {t : OffsetTable} (h : t.Dense) {scope name : String} {i : Nat} :
    t.find? scope name = some i ↔ ∃ e, t.entries[i]? = some e ∧ e.key = (scope, name) := by
  constructor
  · intro hi
    obtain ⟨e, he, hfirst⟩ := getElem?_of_find? hi
    exact ⟨e, he, by simpa using List.find?_some hfirst⟩
  · rintro ⟨e, he, hkey⟩
    have hfound : (t.find? scope name).isSome = true :=
      isSome_find?_iff.2 (hkey ▸ List.mem_map_of_mem (List.mem_of_getElem? he))
    obtain ⟨j, hj⟩ := Option.isSome_iff_exists.1 hfound
    obtain ⟨f, hf, hfirst⟩ := getElem?_of_find? hj
    have hsame : f.key = e.key := by
      rw [hkey]
      simpa using List.find?_some hfirst
    -- Two slots with one key are one slot.
    have hij : j = i := h.eq_of_key hf he hsame
    rw [hj, hij]

theorem collected_ofRoutines (routines : List Routine) :
    (ofRoutines routines).Collected routines where
  keys := keys_ofRoutines routines
  entry := by
    intro i e hi
    have hdense := dense_ofRoutines routines
    have hslot : (ofRoutines routines).find? e.scope e.name = some i :=
      hdense.find?_eq_some.2 ⟨e, hi, rfl⟩
    obtain ⟨_, hentry, hfirst⟩ := getElem?_of_find? hslot
    rw [hi] at hentry
    cases hentry
    -- Collecting keeps the first routine of a key but for its slot.
    have hunplaced := find?_ofRoutines routines e.key
    rw [show e.key = (e.scope, e.name) from rfl, hfirst, Option.map_some] at hunplaced
    obtain ⟨f, hf, hsame⟩ := Option.map_eq_some_iff.1 hunplaced.symm
    refine ⟨f, hf, ?_⟩
    rw [← hdense.slots i e hi]
    exact Routine.eq_of_unplaced hsame.symm
  find := fun _ _ _ => (dense_ofRoutines routines).find?_eq_some

theorem Dense.of_concat {entries : List Routine} {e : Routine} (h : Dense ⟨entries ++ [e]⟩) :
    Dense ⟨entries⟩ ∧ e.key ∉ entries.map Routine.key := by
  obtain ⟨hkeys, hslots⟩ := h
  rw [List.map_append, List.nodup_append] at hkeys
  obtain ⟨hkeys, -, hdisjoint⟩ := hkeys
  refine ⟨⟨hkeys, fun i f hi => hslots i f ?_⟩, fun hkey => ?_⟩
  · rw [List.getElem?_append_left (List.getElem?_eq_some_iff.1 hi).1]
    exact hi
  · exact hdisjoint _ hkey _ List.mem_cons_self rfl

/-- The routines of a dense table make up that very table. -/
theorem Dense.ofRoutines_entries {t : OffsetTable} (h : t.Dense) : ofRoutines t.entries = t := by
  obtain ⟨entries⟩ := t
  induction entries using List.reverseRecOn with
  | nil => rfl
  | append_singleton entries e ih =>
      obtain ⟨hentries, hkey⟩ := h.of_concat
      -- The last entry gets the slot that it has.
      have hslot : e.slot = some (UInt32.ofNat entries.length) :=
        h.slots entries.length e List.getElem?_concat_length
      rw [ofRoutines_concat, ih hentries, add_of_notMem hkey, size, ← hslot]

/-! ### The listing -/

/-- A slot in the listing, without the line end behind it. -/
def slotText (r : Routine) : String :=
  "\tdc.l " ++ r.label ++ "\t\t; " ++ r.signature

theorem oneLine_slotText {r : Routine} (hlabel : Text.OneLine r.label)
    (hsignature : Text.OneLine r.signature) : Text.OneLine (slotText r) := by
  have hmark : Text.OneLine "\tdc.l " := by decide
  have hcomment : Text.OneLine "\t\t; " := by decide
  exact ((hmark.append hlabel).append hcomment).append hsignature

theorem getLast?_slotText (r : Routine) : (slotText r).toList.getLast? ≠ some '\r' := by
  have hend : (slotText r).toList = ("\tdc.l " ++ r.label ++ "\t\t; " ++ (r.returnType ++ " " ++
      r.scope ++ "::" ++ r.name ++ "(" ++ r.paramList)).toList ++ [')'] := by
    simp [slotText, Routine.signature]
  rw [hend, List.getLast?_concat]
  decide

theorem getElem?_lines_slots {entries : List Routine} {i : Nat} {e : Routine}
    (hi : entries[i]? = some e)
    (hlines : ∀ f ∈ entries.take (i + 1), Text.OneLine (slotText f)) :
    (Text.linesList ((entries.map slotLine).flatMap String.toList))[i]? =
      some (slotText e).toList := by
  -- Each slot takes one line off the listing, and one off the number of the line.
  induction entries generalizing i with
  | nil => cases hi
  | cons r rest ih =>
      have hr := hlines r (by simp)
      have hline : (slotLine r).toList = (slotText r).toList ++ ['\n'] := String.toList_append
      rw [List.map_cons, List.flatMap_cons, hline, List.append_assoc, List.singleton_append,
        Text.linesList_append_lineFeed hr (getLast?_slotText r)]
      cases i with
      | zero =>
          cases hi
          rfl
      | succ i => exact ih hi fun f hf => hlines f (List.mem_cons_of_mem r hf)

/-- A line of the listing is the slot of its number, as long as no slot before
it has a line feed in it. -/
theorem getElem?_lines_assembly {t : OffsetTable} {i : Nat} {e : Routine}
    (hi : t.entries[i]? = some e)
    (hlines : ∀ f ∈ t.entries.take (i + 1), Text.OneLine f.label ∧ Text.OneLine f.signature) :
    (Text.lines t.assembly)[i]? = some (slotText e) := by
  have hslots := getElem?_lines_slots hi fun f hf =>
    oneLine_slotText (hlines f hf).1 (hlines f hf).2
  rw [Text.lines, List.getElem?_map, assembly, String.toList_join, hslots, Option.map_some,
    String.ofList_toList]

/-! ### The encoding -/

theorem encodeEntries_isOk {address : String → Option UInt32} {entries : List Routine} :
    (∃ bytes, encodeEntries address entries = .ok bytes) ↔
      ∀ e ∈ entries, (address e.label).isSome = true := by
  induction entries with
  | nil => simp [encodeEntries]
  | cons r rest ih =>
      rw [List.forall_mem_cons, ← ih]
      constructor
      · rintro ⟨bytes, h⟩
        obtain ⟨a, others, ha, hothers, -⟩ := encodeEntries_cons h
        exact ⟨by rw [ha]; rfl, others, hothers⟩
      · rintro ⟨hr, others, hothers⟩
        obtain ⟨a, ha⟩ := Option.isSome_iff_exists.1 hr
        exact ⟨_, by rw [encodeEntries, ha, hothers]; rfl⟩

end Script.OffsetTable

/-! ### The document -/

/-- A routine is read from its document as it was. -/
theorem Routine.readsBack : ReadsBack Routine.read Routine.write :=
  .record (fun _ => by simp) fun r =>
    .field r.name .text rfl <| .field r.scope .text rfl <| .field r.returnType .text rfl <|
      .field r.label .text rfl <| .fieldOr r.params (.list (.pair .text .text)) rfl <|
      .fieldOr r.slot (ReadsBack.uint32.option fun _ => nofun) rfl <| .done r

namespace Command

open Script (OffsetTable)

/-- The document of a table is read as the entries of the table. -/
theorem parse?_tableDocument (t : OffsetTable) :
    (Value.parse? (Export.tableDocument t).pretty).bind (Read.list Routine.read) =
      some t.entries := by
  have hlist : ReadsBack (Read.list Routine.read) (.list Routine.write) := Routine.readsBack.list
  rw [Export.tableDocument, (hlist.whole _).parse?_pretty, Option.bind_some]
  exact hlist.read t.entries

/-- A table is loaded by collecting the routines of its document. -/
theorem runIn_loadTable {path text : String} {routines : List Routine} {s : Session}
    (hread : s.files.read path = .ok (Bytes.ofText text))
    (hdocument : (Value.parse? text).bind (Read.list Routine.read) = some routines) :
    runIn (Link.loadTable (some path)) s = (.ok (.ofRoutines routines), s) := by
  have htext : runIn (during ("reading " ++ path) (attempt .file (Host.readText path))) s =
      (.ok text, s) := runIn_during_ok (runIn_attempt_ok (Session.run_readText hread))
  rw [Link.loadTable, runIn_bind_ok htext, hdocument]
  rfl

end Command

namespace Script

open OffsetTable (slotText slotSize)

/-- A collected table has one slot for each key, and everything that is made
of the table goes by these slots: the lookup, the listing, as far as no text
with a line feed has been put into it, the encoding, and the table that is
loaded from the document of this one. -/
theorem slots_of_collected_table (routines : List Routine) :
    let t := OffsetTable.ofRoutines routines
    t.Collected routines ∧
    (∀ i e, t.entries[i]? = some e →
      (∀ f ∈ t.entries.take (i + 1), Text.OneLine f.label ∧ Text.OneLine f.signature) →
      (Text.lines t.assembly)[i]? = some (slotText e)) ∧
    (∀ address, (∃ bytes, t.encode address = .ok bytes) ↔
      ∀ e ∈ t.entries, (address e.label).isSome = true) ∧
    (∀ address bytes, t.encode address = .ok bytes →
      bytes.length = slotSize * t.size ∧
      ∀ i e, t.entries[i]? = some e → ∃ a, address e.label = some a ∧
        bytes.numberAt? (slotSize * i) slotSize = some a.toNat) ∧
    OffsetTable.ofRoutines t.entries = t ∧
    ∀ path s, s.files.read path =
        .ok (Bytes.ofText (Command.Export.tableDocument t).pretty) →
      Command.runIn (Command.Link.loadTable (some path)) s = (.ok t, s) := by
  intro t
  have hdense : t.Dense := OffsetTable.dense_ofRoutines routines
  refine ⟨OffsetTable.collected_ofRoutines routines,
    fun i e hi hlines => OffsetTable.getElem?_lines_assembly hi hlines,
    fun address => OffsetTable.encodeEntries_isOk, ?_, hdense.ofRoutines_entries, ?_⟩
  · intro address bytes h
    exact ⟨OffsetTable.length_encodeEntries h,
      fun i e hi => OffsetTable.numberAt?_encodeEntries h hi⟩
  · intro path s hread
    rw [Command.runIn_loadTable hread (Command.parse?_tableDocument t),
      hdense.ofRoutines_entries]

/-- Routines with slots of another table, one of them given twice. -/
def staleRoutines : List Routine :=
  [⟨"Tick", "Bar", "void", "Bar_Tick", [], some 7⟩,
    ⟨"Init", "Foo", "void", "Foo_Init", [("s16", "x")], none⟩,
    ⟨"Tick", "Bar", "s16", "Bar_Tick2", [], some 0⟩]

theorem stale_routines_renumbered :
    let t := OffsetTable.ofRoutines staleRoutines
    t.size = 2 ∧ t.Collected staleRoutines ∧
      (Text.lines t.assembly)[1]? = some "\tdc.l Foo_Init\t\t; void Foo::Init(s16 x)" ∧
      OffsetTable.ofRoutines t.entries = t := by
  obtain ⟨hcollected, hlines, -, -, hagain, -⟩ := slots_of_collected_table staleRoutines
  exact ⟨by decide +kernel, hcollected, hlines 1 _ rfl (by decide +kernel), hagain⟩

/-- A routine of which the declaration goes over two lines, and another one. -/
def brokenRoutines : List Routine :=
  [⟨"Init", "Foo", "static\nvoid", "Foo_Init", [], none⟩,
    ⟨"Tick", "Foo", "void", "Foo_Tick", [], none⟩]

/-- A line feed in a text is written as it is, so behind it the lines of the
listing no longer have the numbers of their slots. -/
theorem line_feed_moves_listing :
    let t := OffsetTable.ofRoutines brokenRoutines
    t.find? "Foo" "Tick" = some 1 ∧
      ∃ e, t.entries[1]? = some e ∧ e.key = ("Foo", "Tick") ∧
        (Text.lines t.assembly)[1]? = some "void Foo::Init()" ∧
        (Text.lines t.assembly)[1]? ≠ some (slotText e) := by
  refine ⟨by decide +kernel, _, rfl, rfl, by decide +kernel, by decide +kernel⟩

end Script

end Cartridge
