import Cartridge.Proofs.Scene.ReadBack

/-!
Records that entities of a scene share. The rows of all dynamic entities of one
shape point at the record that was laid down for the first of them. It holds the
number of that one, which is the only code in it that the others need not have in
common with it: `shared_record_numbered_by_first`.
-/

namespace Cartridge.Export

open Cartridge.Assembly
open Cartridge.Text (OneLine hex4)

/-! ### The entity table -/

/-- The lines that a scene is written as. A name or value with a line end in it
takes its line over several lines of the text. -/
def sceneSource (settings : Settings) (scene : String) (entities : List Entity) : List String :=
  (sceneLines settings scene entities).map Line.text

/-- The rows stand in the entity table, one for each dynamic entity in turn, and
each serves its entity. -/
structure EntityTable (source : List String) (scene : String) (entities : List Entity)
    (rows : List Row) : Prop where
  lines : block ("SceneEntityData_" ++ scene) source = rows.flatMap Row.lines
  serves : List.Forall₂ (fun e row => row.Serves source e) (dynamics entities) rows

/-- The lines of a table determine its rows. -/
theorem rows_eq_of_lines {rows rows' : List Row}
    (h : rows.flatMap Row.lines = rows'.flatMap Row.lines) : rows = rows' := by
  have hlines : ∀ row row' : Row, row.lines = row'.lines → row = row' := by
    rintro ⟨descriptor, record, x, y⟩ ⟨descriptor', record', x', y'⟩ h
    simpa [Row.lines] using h
  induction rows generalizing rows' with
  | nil =>
      cases rows' with
      | nil => rfl
      | cons row' rows' => cases h
  | cons row rows ih =>
      cases rows' with
      | nil => cases h
      | cons row' rows' =>
          rw [List.flatMap_cons, List.flatMap_cons] at h
          obtain ⟨hrow, hrows⟩ := List.append_inj h rfl
          rw [hlines row row' hrow, ih hrows]

section

variable (settings : Settings) (scene : String) (entities : List Entity)

theorem joinLines_sceneSource :
    joinLines (sceneSource settings scene entities) = sceneText settings scene entities := by
  rw [sceneText, render, sceneSource, joinLines, List.map_map]
  rfl

/-- Names and values on one line make the lines of the text those that the scene is
written as. -/
theorem sourceLines_sceneText (hscene : OneLine scene) (hentities : ∀ e ∈ entities, e.OneLine) :
    sourceLines (sceneText settings scene entities) = sceneSource settings scene entities :=
  sourceLines_render (oneLine_sceneLines settings hscene hentities)

/-- What holds of all placed entities holds of the dynamic entities and their rows. -/
theorem forall₂_rows {R : Entity → Row → Prop}
    (h : ∀ p ∈ placeScene scene entities, R p.entity p.row) :
    List.Forall₂ R (dynamics entities) ((placeScene scene entities).map Placed.row) := by
  rw [← @entities_placeScene scene entities, List.forall₂_map_left_iff,
    List.forall₂_map_right_iff, List.forall₂_same]
  exact h

theorem entityTable_sceneSource :
    EntityTable (sceneSource settings scene entities) scene entities
      ((placeScene scene entities).map Placed.row) where
  lines := by
    rw [sceneSource, block_dynamicTable, List.map_flatMap, List.flatMap_map]
    exact List.flatMap_congr fun p _ => text_sceneRow p
  serves := forall₂_rows scene entities fun _ hp => serves_row hp

end

/-! ### The code of a record -/

/-- The line with the number of an entity in its record. -/
def numberText (id : UInt16) : String :=
  "\tdc.w " ++ hex4 id.toNat ++ "\t; EntitySpawnData_Id"

/-- The line of a record that holds a number: the last one of its header. -/
def numberLine? (record : List String) : Option String :=
  record[headerLength record - 1]?

/-- The lines of a record without the headings of components. -/
def uncommented (record : List String) : List String :=
  record.filter fun line => !isHeading line

theorem numberText_inj {a b : UInt16} : numberText a = numberText b ↔ a = b := by
  refine ⟨fun h => ?_, fun h => by rw [h]⟩
  have hhex : hex4 a.toNat = hex4 b.toNat := by simpa [numberText] using h
  have hread := Text.readMarkedHex?_hex4 (a.toNat : Int)
  rw [hhex, Text.readMarkedHex?_hex4, Option.some.injEq] at hread
  have ha := a.toNat_lt
  have hb := b.toNat_lt
  exact UInt16.toNat_inj.1 (by omega)

theorem text_number (id : UInt16) :
    (Line.data .word (hex4 id.toNat) "EntitySpawnData_Id").text = numberText id :=
  text_data rfl rfl

theorem numberLine?_recordBody (settings : Settings) (e : Entity) :
    numberLine? ((recordBody settings e).map Line.text) = some (numberText e.id) := by
  rw [numberLine?, recordBody, headerLength_eq, Nat.add_sub_cancel, List.getElem?_map,
    List.getElem?_append_right le_rfl, Nat.sub_self, List.getElem?_cons_zero, Option.map_some,
    text_number]

theorem hasByte_of_shape {a b : Entity} (h : a.shape = b.shape) :
    hasByte a.spawn.params = hasByte b.spawn.params := by
  have hcontent : ∀ e : Entity, hasByte e.spawn.params =
      (e.shape.headD []).any fun content => content.2.1 == .byte := by
    intro e
    rw [hasByte, Entity.shape, Entity.blocks, List.map_cons, List.headD_cons, SpawnData.content,
      List.any_map]
    rfl
  rw [hcontent, hcontent, h]

theorem uncommented_append (a b : List String) :
    uncommented (a ++ b) = uncommented a ++ uncommented b :=
  List.filter_append a b

theorem uncommented_of_values (params : List Param) {padding : List String}
    (hpadding : padding = [] ∨ padding = [Line.even.text]) :
    uncommented ((params.map paramLine).map Line.text ++ padding) =
      params.map Param.valueText ++ padding := by
  rw [uncommented, List.filter_eq_self.2, map_text_params]
  · intro line hline
    rw [(values_append_padding params hpadding).1 line hline]
    rfl

/-- Without their headings, components are their values, each with its padding. -/
theorem uncommented_components (components : List Component) :
    uncommented ((components.flatMap componentLines).map Line.text) =
      ((components.map fun c => c.spawn.params).filter fun params => params ≠ []).flatMap
        fun params => params.map Param.valueText ++ [Line.even.text] := by
  induction components with
  | nil => rfl
  | cons c cs ih =>
      rw [List.flatMap_cons, List.map_append, uncommented_append, ih, List.map_cons]
      by_cases hc : c.spawn.params = []
      · have hnone : componentLines c = [] := by simp [componentLines, hc]
        rw [hnone, List.filter_cons_of_neg (by simp [hc])]
        rfl
      · have hlines : (componentLines c).map Line.text = (Line.comment c.name).text ::
            ((c.spawn.params.map paramLine).map Line.text ++ [Line.even.text]) := by
          simp [componentLines, hc]
        have hheading : uncommented [(Line.comment c.name).text] = [] := by
          simp [uncommented, isHeading_comment]
        rw [hlines, ← List.singleton_append, uncommented_append, hheading, List.nil_append,
          uncommented_of_values _ (.inr rfl), List.filter_cons_of_pos (by simpa using hc),
          List.flatMap_cons]

/-- Without its headings, a record without a debug name is the number of the entity
and its values, padded. -/
theorem uncommented_recordBody {settings : Settings} (hsettings : settings.debugNames = false)
    (e : Entity) :
    uncommented ((recordBody settings e).map Line.text) = numberText e.id ::
      (e.valueGroups.headD [] ++ (if hasByte e.spawn.params then [Line.even.text] else []) ++
        e.valueGroups.tail.flatMap fun values => values ++ [Line.even.text]) := by
  have hname : debugNameLines settings e.spawn.name "EntitySpawnData_DebugName" = [] := by
    rw [debugNameLines, hsettings, if_neg Bool.false_ne_true]
  have hnumber : uncommented [numberText e.id] = [numberText e.id] := by
    rw [uncommented, ← text_number, List.filter_cons_of_pos (by simp [isHeading_data]),
      List.filter_nil]
  have hpadding : (if hasByte e.spawn.params then [Line.even] else []).map Line.text =
      if hasByte e.spawn.params then [Line.even.text] else [] := by
    split <;> rfl
  rw [recordBody, hname, List.nil_append, List.map_cons, text_number, ← List.singleton_append,
    uncommented_append, hnumber, List.singleton_append, List.map_append, uncommented_append,
    List.map_append, hpadding, uncommented_of_values _ (by split <;> simp),
    uncommented_components, Entity.valueGroups, List.headD_cons, List.tail_cons,
    List.flatMap_map]

/-- Entities of one shape and one number have the same code in their records. -/
theorem uncommented_of_shape {settings : Settings} (hsettings : settings.debugNames = false)
    {a b : Entity} (hid : a.id = b.id) (hshape : a.shape = b.shape) :
    uncommented ((entityRecord settings a).map Line.text) =
      uncommented ((entityRecord settings b).map Line.text) := by
  rw [entityRecord_eq, entityRecord_eq, List.map_append, List.map_append, uncommented_append,
    uncommented_append, uncommented_recordBody hsettings, uncommented_recordBody hsettings, hid,
    Entity.valueGroups_of_shape hshape, hasByte_of_shape hshape]

/-! ### Shared records -/

/-- The record that the row of an entity points at was laid down for the first
of the entities with the same blocks. -/
structure Row.SharesWith (settings : Settings) (source : List String) (entities : List Entity)
    (e : Entity) (row : Row) (owner : Entity) : Prop where
  first : entities.find? (fun a => decide (a.SameBlocks e)) = some owner
  /-- So it has the number of that one. -/
  number : numberLine? (block row.record source) = some (numberText owner.id)
  /-- That is the number of the entity only if the two have one number. -/
  own_number : numberLine? (block row.record source) = some (numberText e.id) ↔ e.id = owner.id
  /-- Nothing else in it is foreign to the entity, unless it has a debug name. -/
  code : settings.debugNames = false → uncommented (block row.record source ++ [""]) =
    uncommented ((entityRecord settings { e with id := owner.id }).map Line.text)

section

variable {settings : Settings} {scene : String} {entities : List Entity}

theorem block_label_of_owned {q : Placed} (hq : q ∈ placeScene scene entities)
    (howned : q.owned = true) :
    block q.label (sceneSource settings scene entities) =
      (recordBody settings q.entity).map Line.text := by
  obtain ⟨rest, hlines⟩ := exists_sceneLines_eq settings scene entities
  exact block_of_owned hlines hq howned (head?_label_of_mem_placeScene hq)
    (count_label_of_mem_placeScene settings hq)

theorem sharesWith_row {p : Placed} (hp : p ∈ placeScene scene entities) :
    ∃ owner, p.row.SharesWith settings (sceneSource settings scene entities)
      (dynamics entities) p.entity owner := by
  obtain ⟨q, hfind, howned, hlabel⟩ :
      ∃ q, (placeScene scene entities).find?
          (fun a => decide (a.entity.SameBlocks p.entity)) = some q ∧
        q.owned = true ∧ q.label = p.label := by
    rw [placeScene_eq_placed] at hp ⊢
    exact Registry.exists_first_of_mem_placed isStatic_of_mem_sceneRequests hp
  have hblock : block p.row.record (sceneSource settings scene entities) =
      (recordBody settings q.entity).map Line.text := by
    rw [← block_label_of_owned (List.mem_of_find?_eq_some hfind) howned, hlabel]
    rfl
  have hnumber : numberLine? (block p.row.record (sceneSource settings scene entities)) =
      some (numberText q.entity.id) := by
    rw [hblock, numberLine?_recordBody]
  refine ⟨q.entity, ?_, hnumber, ?_, fun hsettings => ?_⟩
  · rw [← @entities_placeScene scene entities, List.find?_map, Function.comp_def, hfind,
      Option.map_some]
  · rw [hnumber, Option.some.injEq, numberText_inj, eq_comm]
  · have hrecord : block p.row.record (sceneSource settings scene entities) ++ [""] =
        (entityRecord settings q.entity).map Line.text := by
      rw [hblock, entityRecord_eq, List.map_append]
      rfl
    have hshape : q.entity.shape = p.entity.shape :=
      Entity.sameBlocks_iff.1 (by simpa using List.find?_some hfind)
    rw [hrecord]
    exact uncommented_of_shape hsettings rfl hshape

/-- Sharing changes the number of an entity and nothing else in the code of its
record: the record that its row points at has the number of the first dynamic
entity with the same blocks. -/
theorem shared_record_numbered_by_first (settings : Settings) (scene : String)
    (entities : List Entity) :
    let source := sceneSource settings scene entities
    joinLines source = sceneText settings scene entities ∧
      (OneLine scene → (∀ e ∈ entities, e.OneLine) →
        sourceLines (sceneText settings scene entities) = source) ∧
      ∃ rows, EntityTable source scene entities rows ∧
        List.Forall₂ (fun e row => ∃ owner,
          row.SharesWith settings source (dynamics entities) e owner) (dynamics entities) rows :=
  ⟨joinLines_sceneSource settings scene entities, sourceLines_sceneText settings scene entities,
    _, entityTable_sceneSource settings scene entities,
    forall₂_rows scene entities fun _ hp => sharesWith_row hp⟩

end

/-! Two bats that are alike but for their numbers. -/

def numberedBat (id : UInt16) (name : String) : Entity :=
  ⟨"EBat", id, ⟨name, .zero, .zero, [⟨"Speed", .word, "4", []⟩]⟩, [], [], false⟩

def numberedBats : List Entity :=
  [numberedBat 5 "Left", numberedBat 7 "Right"]

def numberedSource : List String :=
  sceneSource { Settings.default with debugNames := false } "L1" numberedBats

/-- They share a record. -/
theorem bats_numbered_by_first :
    let settings := { Settings.default with debugNames := false }
    sourceLines (sceneText settings "L1" numberedBats) = numberedSource ∧
      ∃ rows, EntityTable numberedSource "L1" numberedBats rows ∧
        List.Forall₂ (fun e row => ∃ owner,
          row.SharesWith settings numberedSource (dynamics numberedBats) e owner)
            (dynamics numberedBats) rows := by
  intro settings
  obtain ⟨-, hsource, hrows⟩ := shared_record_numbered_by_first settings "L1" numberedBats
  exact ⟨hsource (by decide) (by decide), hrows⟩

/-- The number in it is not that of the second one. -/
theorem second_bat_numbered_as_first :
    joinLines numberedSource =
        sceneText { Settings.default with debugNames := false } "L1" numberedBats ∧
      ¬∃ rows, EntityTable numberedSource "L1" numberedBats rows ∧
        List.Forall₂ (fun e row =>
          numberLine? (block row.record numberedSource) = some (numberText e.id))
            (dynamics numberedBats) rows := by
  refine ⟨joinLines_sceneSource _ _ _, ?_⟩
  rintro ⟨rows, htable, hnumbers⟩
  have hrows : rows = (placeScene "L1" numberedBats).map Placed.row :=
    rows_eq_of_lines (htable.lines.symm.trans (entityTable_sceneSource _ _ _).lines)
  have hplaced : (placeScene "L1" numberedBats).map Placed.label =
      ["SceneEntitySpawnData_L1_Left", "SceneEntitySpawnData_L1_Left"] := by
    decide +kernel
  have hlabels : List.Forall₂ (fun e label =>
      numberLine? (block label numberedSource) = some (numberText e.id))
        (dynamics numberedBats) ((placeScene "L1" numberedBats).map Placed.label) := by
    rw [hrows, List.forall₂_map_right_iff] at hnumbers
    exact List.forall₂_map_right_iff.2 hnumbers
  rw [hplaced] at hlabels
  obtain _ | ⟨-, _ | ⟨hsecond, -⟩⟩ := hlabels
  exact absurd hsecond (by decide +kernel)

end Cartridge.Export
