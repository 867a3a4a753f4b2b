import Cartridge.Proofs.Assembly.Source
import Cartridge.Proofs.Layout.Packed
import Cartridge.Proofs.LetterCase
import Cartridge.Script.Header

/-!
Generated headers read back. The fields of a structure stand on lines of their own
behind its opening, and each line starts with the type of its field. So the widths of
the fields are read off the text, in the order of the parameters, with a byte at the
end where the parameters take an odd number of bytes.
-/

namespace Cartridge

open Cartridge.Text (OneLine)

namespace Text

theorem oneLine_lowerFirst {s : String} (h : OneLine s) : OneLine (lowerFirst s) := by
  rw [lowerFirst]
  split
  · decide
  · rename_i c rest hs
    rw [OneLine, hs, List.mem_cons, not_or] at h
    rw [oneLine_ofList, List.mem_cons, not_or]
    exact ⟨fun heq => h.1 ((toLower_eq_iff (by decide)).1 heq.symm).symm, h.2⟩

theorem mem_of_mem_deleteFrom {pattern cs : List Char} {skip : Nat} {c : Char}
    (h : c ∈ deleteFrom pattern skip cs) : c ∈ cs := by
  induction cs generalizing skip with
  | nil => exact h
  | cons d cs ih =>
      cases skip with
      | succ skip => exact List.mem_cons_of_mem d (ih h)
      | zero =>
          rw [deleteFrom] at h
          split at h
          · exact List.mem_cons_of_mem d (ih h)
          · rcases List.mem_cons.1 h with rfl | h
            · exact List.mem_cons_self
            · exact List.mem_cons_of_mem d (ih h)

theorem oneLine_delete (pattern : String) {s : String} (h : OneLine s) :
    OneLine (delete pattern s) :=
  oneLine_ofList.2 fun hmem => h (mem_of_mem_deleteFrom hmem)

theorem exists_fresh_eq (taken : String → Bool) (candidate : Nat → String) (n tries : Nat) :
    ∃ m, fresh taken candidate n tries = candidate m := by
  induction tries generalizing n with
  | zero => exact ⟨n, rfl⟩
  | succ tries ih =>
      rw [fresh]
      split
      · exact ih (n + 1)
      · exact ⟨n, rfl⟩

end Text

/-- The names that reach the structure of a component stay on one line. -/
structure Component.OneLine (c : Component) : Prop where
  name : Text.OneLine c.name
  params : ∀ p ∈ c.spawn.params, Text.OneLine p.name
  routines : ∀ r ∈ c.routines, Text.OneLine r.returnType ∧ Text.OneLine r.name ∧
    Text.OneLine r.paramList

instance Component.decidableOneLine (c : Component) : Decidable c.OneLine :=
  decidable_of_iff
    (Text.OneLine c.name ∧ (∀ p ∈ c.spawn.params, Text.OneLine p.name) ∧
      ∀ r ∈ c.routines, Text.OneLine r.returnType ∧ Text.OneLine r.name ∧
        Text.OneLine r.paramList)
    ⟨fun ⟨name, params, routines⟩ => ⟨name, params, routines⟩,
      fun ⟨name, params, routines⟩ => ⟨name, params, routines⟩⟩

namespace Script

open Cartridge.Assembly (joinLines joinLines_append joinLines_map exists_lines)

/-! ### Reading a structure -/

/-- The line that ends a structure. -/
def structEnd : String := "\x7d;"

/-- The lines of the fields of a structure. They stand two lines below what opens them,
and end at an empty line or with the structure. -/
def fieldsBelow (opening : String) (lines : List String) : List String :=
  ((lines.dropWhile fun line => line ≠ opening).drop 2).takeWhile fun line =>
    line ≠ "" ∧ line ≠ structEnd

/-- The width of a field, by the type that its line starts with. -/
def fieldWidth? (line : String) : Option Width :=
  [("char", Width.byte), ("unsigned char", .byte), ("short", .word), ("int", .long)].findSome?
    fun (type, width) =>
      (Text.afterStart ("\t" ++ type ++ " ").toList line.toList).map fun _ => width

/-! ### Lines of fields -/

def StructField.line (f : StructField) : String :=
  "\t" ++ f.type ++ " " ++ f.name ++ ";"

def fieldLines (owner : String) (params : List Param) : List String :=
  (structFields owner params).map StructField.line

theorem fieldsText_eq (owner : String) (params : List Param) :
    fieldsText owner params = joinLines (fieldLines owner params) := by
  refine joinLines_map (fun f => ?_) _
  simp [StructField.text, StructField.line, ← String.toList_inj]

theorem head?_of_mem_fieldLines {owner line : String} {params : List Param}
    (h : line ∈ fieldLines owner params) : line.toList.head? = some '\t' := by
  obtain ⟨f, -, rfl⟩ := List.mem_map.1 h
  simp only [StructField.line, String.toList_append]
  rfl

theorem oneLine_fieldLines (owner : String) {params : List Param}
    (h : ∀ p ∈ params, OneLine p.name) : ∀ line ∈ fieldLines owner params, OneLine line := by
  have hline : ∀ type name : String, OneLine type → OneLine name →
      OneLine (StructField.line ⟨type, name⟩) := by
    intro type name htype hname
    have htab : OneLine "\t" := by decide
    have hblank : OneLine " " := by decide
    have hend : OneLine ";" := by decide
    exact (((htab.append htype).append hblank).append hname).append hend
  intro line hmem
  obtain ⟨f, hf, rfl⟩ := List.mem_map.1 hmem
  rcases List.mem_append.1 hf with hf | hf
  · obtain ⟨p, hp, rfl⟩ := List.mem_map.1 hf
    have htype : OneLine (fieldType p.size) := by cases p.size <;> decide
    have hname : OneLine (fieldName owner p.name) :=
      Text.oneLine_lowerFirst (Text.oneLine_delete _ (h p hp))
    exact hline (fieldType p.size) (fieldName owner p.name) htype hname
  · split at hf
    · rw [List.mem_singleton.1 hf]
      decide
    · cases hf

/-- Parameters that take an odd number of bytes have a byte of padding behind them. -/
def paddingWidths (params : List Param) : List Width :=
  if totalBytes params % 2 = 1 then [.byte] else []

/-- The types of fields tell the widths of the parameters. -/
theorem fieldWidths_eq (owner : String) (params : List Param) :
    (fieldLines owner params).filterMap fieldWidth? = widths params ++ paddingWidths params := by
  have hparam : ∀ p : Param,
      fieldWidth? (StructField.line ⟨fieldType p.size, fieldName owner p.name⟩) = some p.size := by
    intro p
    simp only [fieldWidth?, StructField.line, String.toList_append]
    cases p.size <;> rfl
  have hparams : ((params.map fun p => StructField.mk (fieldType p.size)
      (fieldName owner p.name)).map StructField.line).filterMap fieldWidth? = widths params := by
    rw [List.map_map, List.filterMap_map, widths, ← List.filterMap_eq_map]
    exact List.filterMap_congr fun p _ => hparam p
  rw [fieldLines, structFields, List.map_append, List.filterMap_append, hparams, paddingWidths]
  split <;> rfl

theorem fieldsBelow_eq {opening second owner : String} {before after : List String}
    {params : List Param} (hbefore : ∀ line ∈ before, line ≠ opening)
    (hafter : after.head? = some "" ∨ after.head? = some structEnd) :
    fieldsBelow opening (before ++ opening :: second :: (fieldLines owner params ++ after)) =
      fieldLines owner params := by
  have hfields : ∀ line ∈ fieldLines owner params,
      decide (line ≠ "" ∧ line ≠ structEnd) = true := by
    intro line hline
    have htab := head?_of_mem_fieldLines hline
    refine decide_eq_true ⟨?_, ?_⟩ <;> rintro rfl <;> exact absurd htab (by decide)
  have hstop : after.takeWhile (fun line => decide (line ≠ "" ∧ line ≠ structEnd)) = [] := by
    cases after with
    | nil => rfl
    | cons line after =>
        refine List.takeWhile_cons_of_neg ?_
        rcases hafter with h | h <;> simp [Option.some.inj h]
  rw [fieldsBelow, List.dropWhile_append_of_pos (by simpa using hbefore),
    List.dropWhile_cons_of_neg (by simp), List.drop_succ_cons, List.drop_succ_cons,
    List.drop_zero, List.takeWhile_append_of_pos hfields, hstop, List.append_nil]

/-! ### Components -/

/-- The line that opens the structure of a component. -/
def structHead (name : String) : String :=
  "struct " ++ name ++ " : ComponentBase"

def routineLine (r : Routine) : String :=
  "\t" ++ r.returnType ++ " " ++ r.name ++ "(" ++ r.paramList ++ ");"

/-- What stands behind the fields of a component. -/
def structRest (c : Component) : List String :=
  (if c.routines.isEmpty then [] else "" :: c.routines.map routineLine) ++ [structEnd, ""]

def structLines (c : Component) : List String :=
  structHead c.name :: "\x7b" :: (fieldLines c.name c.spawn.params ++ structRest c)

theorem componentStruct_eq (c : Component) : componentStruct c = joinLines (structLines c) := by
  have hroutines : String.join (c.routines.map routineText) =
      joinLines (c.routines.map routineLine) := by
    refine joinLines_map (fun r => ?_) _
    simp [routineText, routineLine, ← String.toList_inj]
  -- An equation of the definition would evaluate the texts in it.
  delta componentStruct
  rw [fieldsText_eq, hroutines, structLines, structRest, ← String.toList_inj]
  split <;> simp [joinLines_append, structHead, structEnd]

theorem componentHeader_eq (components : List Component) :
    componentHeader components =
      joinLines ((firstOfNames [] components).flatMap structLines) := by
  rw [componentHeader]
  induction firstOfNames [] components with
  | nil => rfl
  | cons c cs ih =>
      rw [List.map_cons, String.join_cons, ih, componentStruct_eq, List.flatMap_cons,
        joinLines_append]

theorem mem_of_mem_firstOfNames {components : List Component} {seen : List String} {c : Component}
    (h : c ∈ firstOfNames seen components) : c ∈ components := by
  induction components generalizing seen with
  | nil => cases h
  | cons d components ih =>
      rw [firstOfNames] at h
      split at h
      · exact List.mem_cons_of_mem _ (ih h)
      · rcases List.mem_cons.1 h with rfl | h
        · exact List.mem_cons_self
        · exact List.mem_cons_of_mem _ (ih h)

/-- The structure of a name is that of the first component so called, and none before it
is called so. -/
theorem firstOfNames_of_find? {components : List Component} {seen : List String} {name : String}
    {c : Component} (h : components.find? (fun d => d.name = name) = some c)
    (hseen : name ∉ seen) :
    ∃ before after, firstOfNames seen components = before ++ c :: after ∧
      ∀ b ∈ before, b.name ≠ name := by
  induction components generalizing seen with
  | nil => cases h
  | cons d components ih =>
      by_cases hd : d.name = name
      · rw [List.find?_cons_of_pos (by simpa using hd)] at h
        cases h
        refine ⟨[], firstOfNames (c.name :: seen) components, ?_, by simp⟩
        rw [firstOfNames, if_neg (by simpa [hd] using hseen), List.nil_append]
      · rw [List.find?_cons_of_neg (by simpa using hd)] at h
        rw [firstOfNames]
        split
        · exact ih h hseen
        · have hnext : name ∉ d.name :: seen := by
            simpa [hseen] using Ne.symm hd
          obtain ⟨before, after, hsplit, hbefore⟩ := ih h hnext
          refine ⟨d :: before, after, by rw [hsplit, List.cons_append], ?_⟩
          exact List.forall_mem_cons.2 ⟨hd, hbefore⟩

theorem oneLine_structLines {c : Component} (hc : c.OneLine) :
    ∀ line ∈ structLines c, OneLine line := by
  intro line hline
  simp only [structLines, structRest, List.mem_cons, List.mem_append, List.not_mem_nil,
    or_false] at hline
  rcases hline with rfl | rfl | hline | hline | rfl | rfl
  · have hstart : OneLine "struct " := by decide
    have hbase : OneLine " : ComponentBase" := by decide
    exact (hstart.append hc.name).append hbase
  · decide
  · exact oneLine_fieldLines c.name hc.params line hline
  · split at hline
    · cases hline
    · rcases List.mem_cons.1 hline with rfl | hline
      · decide
      · obtain ⟨r, hr, rfl⟩ := List.mem_map.1 hline
        obtain ⟨htype, hname, hparams⟩ := hc.routines r hr
        have htab : OneLine "\t" := by decide
        have hblank : OneLine " " := by decide
        have hopen : OneLine "(" := by decide
        have hclose : OneLine ");" := by decide
        exact (((((htab.append htype).append hblank).append hname).append hopen).append
          hparams).append hclose
  · decide
  · decide

/-- Only the structure of a component is opened by its name. -/
theorem ne_structHead_of_mem {b : Component} {name line : String} (hname : b.name ≠ name)
    (h : line ∈ structLines b) : line ≠ structHead name := by
  have hother : ∀ other : String, other.toList.head? ≠ some 's' → structHead name ≠ other := by
    intro other hne heq
    refine hne ?_
    rw [← heq]
    simp only [structHead, String.toList_append]
    rfl
  rintro rfl
  simp only [structLines, structRest, List.mem_cons, List.mem_append, List.not_mem_nil,
    or_false] at h
  rcases h with h | h | h | h | h | h
  · exact hname (by simpa [structHead] using h.symm)
  · exact hother _ (by decide) h
  · exact hother _ (by rw [head?_of_mem_fieldLines h]; decide) rfl
  · split at h
    · cases h
    · rcases List.mem_cons.1 h with h | h
      · exact hother _ (by decide) h
      · obtain ⟨r, -, hr⟩ := List.mem_map.1 h
        have htab : (routineLine r).toList.head? = some '\t' := by
          simp only [routineLine, String.toList_append]
          rfl
        exact hother _ (by rw [htab]; decide) hr.symm
  · exact hother _ (by decide) h
  · exact hother _ (by decide) h

/-- The lines below the opening of a component's structure are those of its fields. -/
theorem fieldsBelow_componentHeader {components : List Component} {name : String} {c : Component}
    (hcomponents : ∀ d ∈ components, d.OneLine)
    (hc : components.find? (fun d => d.name = name) = some c) :
    fieldsBelow (structHead name) (Assembly.sourceLines (componentHeader components)) =
      fieldLines name c.spawn.params := by
  have hname : c.name = name := by simpa using List.find?_some hc
  obtain ⟨before, after, hfirst, hbefore⟩ := firstOfNames_of_find? hc List.not_mem_nil
  have hlines : ∀ line ∈ (firstOfNames [] components).flatMap structLines, OneLine line := by
    intro line hline
    obtain ⟨d, hd, hline⟩ := List.mem_flatMap.1 hline
    exact oneLine_structLines (hcomponents d (mem_of_mem_firstOfNames hd)) line hline
  have hopening : ∀ line ∈ before.flatMap structLines, line ≠ structHead name := by
    intro line hline
    obtain ⟨b, hb, hline⟩ := List.mem_flatMap.1 hline
    exact ne_structHead_of_mem (hbefore b hb) hline
  have hrest : ∀ rest, (structRest c ++ rest).head? = some "" ∨
      (structRest c ++ rest).head? = some structEnd := by
    intro rest
    rw [structRest]
    split <;> simp
  rw [componentHeader_eq, Assembly.sourceLines_joinLines hlines, hfirst, List.flatMap_append,
    List.flatMap_cons, structLines, List.cons_append, List.cons_append, List.append_assoc, hname,
    fieldsBelow_eq hopening (hrest _)]

/-- The widths of the fields of a component's structure. -/
theorem fieldWidths_componentHeader {components : List Component} {name : String} {c : Component}
    (hcomponents : ∀ d ∈ components, d.OneLine)
    (hc : components.find? (fun d => d.name = name) = some c) :
    (fieldsBelow (structHead name) (Assembly.sourceLines (componentHeader components))).filterMap
      fieldWidth? = widths c.spawn.params ++ paddingWidths c.spawn.params := by
  rw [fieldsBelow_componentHeader hcomponents hc, fieldWidths_eq]

/-! ### Entities -/

theorem oneLine_handleBase {component : String} (h : OneLine component) :
    OneLine (handleBase component) := by
  rw [handleBase]
  split
  · rename_i rest hrest
    rw [Text.afterStart_eq_some_iff] at hrest
    have hmem : '\n' ∉ rest := fun hmem => h (by rw [hrest]; exact List.mem_append_right _ hmem)
    exact Text.oneLine_lowerFirst (Text.oneLine_ofList.2 hmem)
  · exact Text.oneLine_lowerFirst h

theorem oneLine_freeHandle (taken : List String) {base : String} (h : OneLine base) :
    OneLine (freeHandle taken base) := by
  rw [freeHandle]
  split
  · obtain ⟨m, hm⟩ := Text.exists_fresh_eq taken.contains (numberedHandle base) 2 taken.length
    rw [hm]
    exact h.append (Text.oneLine_ofList.2 (Text.lineFeed_not_mem_decimal m))
  · exact h

theorem oneLine_handlesFrom {taken : List String} {components : List Component}
    (h : ∀ c ∈ components, OneLine c.name) :
    ∀ handle ∈ handlesFrom taken components, OneLine handle := by
  induction components generalizing taken with
  | nil => simp [handlesFrom]
  | cons c components ih =>
      rw [List.forall_mem_cons] at h
      exact List.forall_mem_cons.2
        ⟨oneLine_freeHandle taken (oneLine_handleBase h.1), ih h.2⟩

/-- The line that ends the handles of an entity. The fields of the entity follow it. -/
def handlesEnd : String := "\t\x7d;"

def handleLine (handle : String) : String :=
  "\t\tComponentHndl " ++ handle ++ ";"

def includeLines : List String :=
  ["", "", "#include <Common.h>", "#include <Components.h>", ""]

def handlesStart : List String :=
  ["\x7b", "\tstruct Components", "\t\x7b"]

/-- What stands between the banner and the handles of an entity. -/
def entityStart (e : Entity) : List String :=
  includeLines ++ ("struct " ++ e.typeName ++ " : Entity") :: handlesStart

def lifecycleLine (routine : String) : String :=
  "\tvoid " ++ routine ++ "(" ++ lifecycleParams ++ ");"

/-- What stands behind the fields of an entity. -/
def entityRest : List String :=
  "" :: "\tComponents components;" :: "" :: (lifecycle.map lifecycleLine ++ [structEnd])

theorem exists_banner_lines :
    ∃ lines, banner = joinLines lines ∧ ∀ line ∈ lines, OneLine line ∧ '\t' ∉ line.toList := by
  have hend : ∀ c ∈ banner.toList.getLast?, c = '\n' := by
    have hrule : bannerRule.toList.getLast? = some '\n' := by simp [bannerRule]
    simp only [banner, String.toList_append, List.getLast?_append, hrule]
    simp
  have htab : '\t' ∉ banner.toList := by
    have hrule : '\t' ∉ bannerRule.toList := by decide +kernel
    simp only [banner, String.toList_append, List.mem_append, hrule, false_or, or_false]
    decide +kernel
  obtain ⟨lines, htext, hlines⟩ := exists_lines hend
  refine ⟨lines, String.toList_inj.1 htext, fun line hline => ⟨(hlines line hline).1, ?_⟩⟩
  exact fun hmem => htab ((hlines line hline).2 _ hmem)

theorem entityHeader_eq (e : Entity) :
    entityHeader e = banner ++ joinLines (entityStart e ++ (handles e).map handleLine ++
      handlesEnd :: "" :: (fieldLines e.typeName e.spawn.params ++ entityRest)) := by
  have hhandles : String.join ((handles e).map handleText) =
      joinLines ((handles e).map handleLine) := by
    refine joinLines_map (fun handle => ?_) _
    show "\t\tComponentHndl " ++ handle ++ ";\n" = "\t\tComponentHndl " ++ handle ++ ";" ++ "\n"
    simp [← String.toList_inj]
  have hlifecycle : String.join (lifecycle.map fun r =>
      "\tvoid " ++ r ++ "(" ++ lifecycleParams ++ ");\n") =
      joinLines (lifecycle.map lifecycleLine) := by
    refine joinLines_map (fun r => ?_) _
    simp [lifecycleLine, ← String.toList_inj]
  delta entityHeader
  rw [fieldsText_eq, hhandles, hlifecycle, ← String.toList_inj]
  simp [joinLines_append, entityStart, includeLines, handlesStart, entityRest, handlesEnd, structEnd,
    commonHeader, componentsHeader]

theorem oneLine_entityStart {e : Entity} (h : OneLine e.typeName) :
    ∀ line ∈ entityStart e, OneLine line := by
  have hstart : OneLine "struct " := by decide
  have hbase : OneLine " : Entity" := by decide
  rw [entityStart, List.forall_mem_append, List.forall_mem_cons]
  exact ⟨by decide, (hstart.append h).append hbase, by decide⟩

theorem oneLine_entityRest : ∀ line ∈ entityRest, OneLine line := by
  have hlifecycle : ∀ line ∈ lifecycle.map lifecycleLine, OneLine line := by
    have hstart : OneLine "\tvoid " := by decide
    have hopen : OneLine "(" := by decide
    have hparams : OneLine lifecycleParams := by decide
    have hend : OneLine ");" := by decide
    have hroutines : ∀ routine ∈ lifecycle, OneLine routine := by decide
    intro line hline
    obtain ⟨routine, hroutine, rfl⟩ := List.mem_map.1 hline
    exact (((hstart.append (hroutines routine hroutine)).append hopen).append hparams).append hend
  simp only [entityRest, List.forall_mem_cons, List.forall_mem_append]
  exact ⟨by decide, by decide, by decide, hlifecycle, by decide⟩

theorem oneLine_handleLines {e : Entity} (h : ∀ c ∈ e.components, OneLine c.name) :
    ∀ line ∈ (handles e).map handleLine, OneLine line := by
  have hstart : OneLine "\t\tComponentHndl " := by decide
  have hend : OneLine ";" := by decide
  intro line hline
  obtain ⟨handle, hmem, rfl⟩ := List.mem_map.1 hline
  exact (hstart.append (oneLine_handlesFrom h handle hmem)).append hend

/-- Only the end of the handles reads so. -/
theorem ne_handlesEnd {e : Entity} :
    ∀ line ∈ entityStart e ++ (handles e).map handleLine, line ≠ handlesEnd := by
  intro line hline hend
  rw [hend] at hline
  rcases List.mem_append.1 hline with hline | hline
  · rcases List.mem_append.1 hline with hline | hline
    · exact absurd hline (by decide)
    · rcases List.mem_cons.1 hline with hline | hline
      · have hhead := congrArg (fun line => line.toList.head?) hline
        simp only [String.toList_append] at hhead
        cases hhead
      · exact absurd hline (by decide)
  · obtain ⟨handle, -, hhandle⟩ := List.mem_map.1 hline
    have hsecond : ("\t\tComponentHndl " ++ handle ++ ";").toList[1]? = handlesEnd.toList[1]? :=
      congrArg (fun line => line.toList[1]?) hhandle
    simp only [String.toList_append] at hsecond
    cases hsecond

section

variable {e : Entity} (htype : OneLine e.typeName) (hparams : ∀ p ∈ e.spawn.params, OneLine p.name)
  (hcomponents : ∀ c ∈ e.components, OneLine c.name)

include htype hparams hcomponents in
/-- The header of an entity read back line by line. Tabs come after the banner only. -/
theorem exists_sourceLines_entityHeader :
    ∃ start, (∀ line ∈ start, '\t' ∉ line.toList) ∧
      Assembly.sourceLines (entityHeader e) =
        start ++ (entityStart e ++ (handles e).map handleLine) ++
          handlesEnd :: "" :: (fieldLines e.typeName e.spawn.params ++ entityRest) := by
  obtain ⟨start, hstart, hlines⟩ := exists_banner_lines
  have hone : ∀ line ∈ (start ++ (entityStart e ++ (handles e).map handleLine)) ++
      handlesEnd :: "" :: (fieldLines e.typeName e.spawn.params ++ entityRest), OneLine line := by
    simp only [List.forall_mem_append, List.forall_mem_cons]
    exact ⟨⟨fun line hline => (hlines line hline).1, oneLine_entityStart htype,
      oneLine_handleLines hcomponents⟩, by decide, by decide,
      oneLine_fieldLines e.typeName hparams, oneLine_entityRest⟩
  refine ⟨start, fun line hline => (hlines line hline).2, ?_⟩
  rw [entityHeader_eq, hstart, ← joinLines_append, ← List.append_assoc,
    Assembly.sourceLines_joinLines hone]

include htype hparams hcomponents in
/-- The fields follow the first line that reads like the end of the handles. -/
theorem exists_sourceLines_fields :
    ∃ before, (∀ line ∈ before, line ≠ handlesEnd) ∧
      Assembly.sourceLines (entityHeader e) =
        before ++ handlesEnd :: "" :: (fieldLines e.typeName e.spawn.params ++ entityRest) := by
  obtain ⟨start, hstart, hlines⟩ := exists_sourceLines_entityHeader htype hparams hcomponents
  refine ⟨_, ?_, hlines⟩
  rw [List.forall_mem_append]
  refine ⟨fun line hline hend => hstart line hline ?_, ne_handlesEnd⟩
  rw [hend]
  decide

include htype hparams hcomponents in
/-- The lines below the handles of an entity are those of its fields. -/
theorem fieldsBelow_entityHeader :
    fieldsBelow handlesEnd (Assembly.sourceLines (entityHeader e)) =
      fieldLines e.typeName e.spawn.params := by
  obtain ⟨before, hbefore, hlines⟩ := exists_sourceLines_fields htype hparams hcomponents
  rw [hlines, fieldsBelow_eq hbefore (.inl rfl)]

include htype hparams hcomponents in
/-- The widths of the fields of an entity. -/
theorem fieldWidths_entityHeader :
    (fieldsBelow handlesEnd (Assembly.sourceLines (entityHeader e))).filterMap fieldWidth? =
      widths e.spawn.params ++ paddingWidths e.spawn.params := by
  rw [fieldsBelow_entityHeader htype hparams hcomponents, fieldWidths_eq]

end

end Script

end Cartridge
