import Cartridge.Export.Record
import Cartridge.Text.Search
import Mathlib.Data.List.Basic

/-!
Spawn records read back. After its header a record holds values in groups: the
entity's own, and under a heading those of each component that has any. The
groups depend on the shape of the entity only, so they are the same for all
entities that share the record.
-/

namespace Cartridge

/-- A parameter as a line: the directive for its width, its value, or zero if it
has none, and its name. -/
def Param.valueText (p : Param) : String :=
  "\t" ++ p.size.directive ++ " " ++ (if p.value = "" then "0" else p.value) ++ "\t; " ++ p.name

theorem Param.operand_eq (p : Param) : p.operand = if p.value = "" then "0" else p.value := by
  simp [operand]

/-- What a reader of the entity's record finds: the entity's own parameters,
and those of each component that has any. -/
def Entity.valueGroups (e : Entity) : List (List String) :=
  e.spawn.params.map Param.valueText ::
    ((e.components.map fun c => c.spawn.params).filter fun params => params ≠ []).map
      (List.map Param.valueText)

/-- Entities of one shape are read back alike. -/
theorem Entity.valueGroups_of_shape {a b : Entity} (h : a.shape = b.shape) :
    a.valueGroups = b.valueGroups := by
  let line : String × Width × String → String := fun (name, size, value) =>
    (⟨name, size, value, []⟩ : Param).valueText
  have hline : List.map Param.valueText = List.map line ∘ List.map Param.content := by
    funext params
    have hparams : params.map Param.valueText = params.map (line ∘ Param.content) := rfl
    rw [hparams, ← List.map_map, Function.comp_apply]
  have hempty : (fun params : List Param => decide (params ≠ [])) =
      (fun content => decide (content ≠ [])) ∘ List.map Param.content := by
    funext params
    simp
  have hgroups : ∀ e : Entity, e.valueGroups = (e.spawn.content.map line) ::
      ((e.components.map fun c => c.spawn.content).filter fun content =>
        content ≠ []).map (List.map line) := by
    intro e
    rw [valueGroups, hline, hempty, ← List.map_map, ← List.filter_map, List.map_map]
    rfl
  rw [shape, shape, blocks, blocks, List.map_cons, List.map_cons, List.map_map,
    List.map_map] at h
  obtain ⟨hown, hcomponents⟩ := List.cons.inj h
  have hcomponents : (a.components.map fun c => c.spawn.content) =
      b.components.map fun c => c.spawn.content := hcomponents
  rw [hgroups, hgroups, hown, hcomponents]

namespace Export

open Cartridge.Assembly (Line)

/-! ### Reading a record -/

/-- The line lays down values. -/
def isValue (line : String) : Bool :=
  (Text.afterStart "\tdc.".toList line.toList).isSome

/-- The line starts the values of a component. -/
def isHeading (line : String) : Bool :=
  (Text.afterStart "\t; ".toList line.toList).isSome

/-- How many lines stand before the values: the number of the entity, and in a
record with a debug name the name between its conditions. -/
def headerLength (record : List String) : Nat :=
  if record.head? = some "\tIFND FINAL" then 4 else 1

/-- The values of a record, cut at the headings. -/
def readRecord (record : List String) : List (List String) :=
  ((record.drop (headerLength record)).splitOnP isHeading).map (List.filter isValue)

/-! ### Lines of a record -/

theorem text_paramLine (p : Param) : (paramLine p).text = p.valueText := by
  rw [Param.valueText, ← p.operand_eq]
  rfl

theorem map_text_params (params : List Param) :
    (params.map paramLine).map Line.text = params.map Param.valueText := by
  rw [List.map_map]
  exact List.map_congr_left fun p _ => text_paramLine p

theorem isValue_data (size : Width) (operand remark : String) :
    isValue (Line.data size operand remark).text = true := by
  simp only [isValue, Line.text, String.toList_append]
  cases size <;> rfl

theorem isHeading_data (size : Width) (operand remark : String) :
    isHeading (Line.data size operand remark).text = false := by
  simp only [isHeading, Line.text, String.toList_append]
  cases size <;> rfl

theorem isHeading_comment (remark : String) :
    isHeading (Line.comment remark).text = true := by
  simp only [isHeading, Line.text, String.toList_append]
  rfl

/-- The lines of the parameters of one block and what pads them hold no
heading, and only the parameters are values. -/
theorem values_append_padding (params : List Param) {padding : List String}
    (hpadding : padding = [] ∨ padding = [Line.even.text]) :
    (∀ line ∈ (params.map paramLine).map Line.text ++ padding, isHeading line = false) ∧
      ((params.map paramLine).map Line.text ++ padding).filter isValue =
        params.map Param.valueText := by
  have hvalues : (params.map Param.valueText).filter isValue = params.map Param.valueText := by
    refine List.filter_eq_self.2 fun line hline => ?_
    obtain ⟨p, -, rfl⟩ := List.mem_map.1 hline
    rw [← text_paramLine]
    exact isValue_data p.size p.operand p.name
  have hheadings : ∀ line ∈ params.map Param.valueText, isHeading line = false := by
    intro line hline
    obtain ⟨p, -, rfl⟩ := List.mem_map.1 hline
    rw [← text_paramLine]
    exact isHeading_data p.size p.operand p.name
  rw [map_text_params]
  rcases hpadding with rfl | rfl
  · simpa using ⟨by simpa using hheadings, by simpa using hvalues⟩
  · refine ⟨?_, ?_⟩
    · intro line hline
      rcases List.mem_append.1 hline with hline | hline
      · exact hheadings line hline
      · rw [List.mem_singleton.1 hline]
        decide
    · rw [List.filter_append, hvalues]
      exact List.append_nil _

/-- The values of components are cut where the components meet. -/
theorem groups_components (components : List Component) {before : List String}
    (hbefore : ∀ line ∈ before, isHeading line = false) :
    ((before ++ (components.flatMap componentLines).map Line.text).splitOnP isHeading).map
        (List.filter isValue) =
      before.filter isValue ::
        ((components.map fun c => c.spawn.params).filter fun params => params ≠ []).map
          (List.map Param.valueText) := by
  induction components generalizing before with
  | nil => simp [List.splitOnP_eq_singleton hbefore]
  | cons c cs ih =>
      rw [List.flatMap_cons, List.map_append, List.map_cons]
      by_cases hc : c.spawn.params = []
      · have hnone : componentLines c = [] := by simp [componentLines, hc]
        rw [hnone, List.map_nil, List.nil_append, ih hbefore,
          List.filter_cons_of_neg (by simp [hc])]
      · obtain ⟨hheadings, hvalues⟩ := values_append_padding c.spawn.params (.inr rfl)
        have hlines : (componentLines c).map Line.text = (Line.comment c.name).text ::
            ((c.spawn.params.map paramLine).map Line.text ++ [Line.even.text]) := by
          simp [componentLines, hc]
        rw [hlines, List.cons_append,
          List.splitOnP_append_cons_of_forall_mem hbefore _ (isHeading_comment c.name),
          List.map_cons, ih hheadings, hvalues, List.filter_cons_of_pos (by simpa using hc),
          List.map_cons]

/-- A record without the blank line at its end. -/
def recordBody (settings : Settings) (e : Entity) : List Line :=
  debugNameLines settings e.spawn.name "EntitySpawnData_DebugName" ++
    .data .word (Text.hex4 e.id.toNat) "EntitySpawnData_Id" ::
    (e.spawn.params.map paramLine ++
      (if hasByte e.spawn.params then [.even] else []) ++
      e.components.flatMap componentLines)

theorem entityRecord_eq (settings : Settings) (e : Entity) :
    entityRecord settings e = recordBody settings e ++ [.blank] := by
  simp [entityRecord, spawnRecord, recordBody]

/-- The header of a record ends with the number of the entity. -/
theorem headerLength_eq (settings : Settings) (name id : String) (rest : List Line) :
    headerLength ((debugNameLines settings name "EntitySpawnData_DebugName" ++
        Line.data .word id "EntitySpawnData_Id" :: rest).map Line.text) =
      (debugNameLines settings name "EntitySpawnData_DebugName").length + 1 := by
  by_cases h : settings.debugNames = true
  · simp [headerLength, debugNameLines, h, Line.text]
  · -- Without a debug name the record starts with a value, which is no condition.
    have hnone : debugNameLines settings name "EntitySpawnData_DebugName" = [] := by
      rw [debugNameLines, if_neg h]
    rw [hnone]
    refine if_neg fun hhead => ?_
    have hvalue := isValue_data .word id "EntitySpawnData_Id"
    simp only [List.nil_append, List.map_cons, List.head?_cons, Option.some.injEq] at hhead
    rw [hhead] at hvalue
    cases hvalue

theorem drop_header (settings : Settings) (name id : String) (rest : List Line) :
    let record := (debugNameLines settings name "EntitySpawnData_DebugName" ++
      Line.data .word id "EntitySpawnData_Id" :: rest).map Line.text
    record.drop (headerLength record) = rest.map Line.text := by
  intro record
  rw [headerLength_eq, ← List.map_drop, List.drop_append, Nat.add_sub_cancel_left,
    List.drop_eq_nil_of_le (Nat.le_succ _), List.nil_append, List.drop_succ_cons, List.drop_zero]

/-- A record holds the parameters of the entity it was laid down for. -/
theorem readRecord_recordBody (settings : Settings) (e : Entity) :
    readRecord ((recordBody settings e).map Line.text) = e.valueGroups := by
  have hpadding : (if hasByte e.spawn.params then [Line.even] else []).map Line.text = [] ∨
      (if hasByte e.spawn.params then [Line.even] else []).map Line.text =
        [Line.even.text] := by
    split <;> simp
  obtain ⟨hheadings, hvalues⟩ := values_append_padding e.spawn.params hpadding
  rw [readRecord, recordBody, drop_header, List.map_append, List.map_append,
    groups_components e.components hheadings, hvalues]
  rfl

theorem blank_notMem_recordBody (settings : Settings) (e : Entity) :
    .blank ∉ recordBody settings e := by
  have hparams : ∀ params : List Param, .blank ∉ params.map paramLine := by
    simp [paramLine]
  have hcomponent : ∀ c : Component, .blank ∉ componentLines c := by
    intro c
    rw [componentLines]
    split <;> simp [paramLine]
  have hname : .blank ∉ debugNameLines settings e.spawn.name "EntitySpawnData_DebugName" := by
    rw [debugNameLines]
    split <;> simp [debugNameLine]
  have hpadding : .blank ∉ (if hasByte e.spawn.params then [Line.even] else []) := by
    split <;> simp
  simp only [recordBody, List.mem_append, List.mem_cons, List.mem_flatMap, not_or]
  exact ⟨hname, by simp, ⟨hparams _, hpadding⟩, fun ⟨c, _, hc⟩ => hcomponent c hc⟩

end Export

end Cartridge
