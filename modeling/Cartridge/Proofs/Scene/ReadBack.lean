import Cartridge.Proofs.Scene.Lines
import Cartridge.Proofs.Scene.Record
import Mathlib.Data.List.Forall2

/-!
Scenes read back from their text. The rows, the records and the header of a
scene are laid down by separate passes; they agree because every pass goes
through the same placed entities, and because the symbol in a row is defined
once, above a record for the shape of the entity in that row.
-/

namespace Cartridge.Export

open Cartridge.Assembly
open Cartridge.Text (OneLine hex4)

/-- The operands in a row of the entity table. -/
structure Row where
  descriptor : String
  record : String
  x : String
  y : String

def Row.lines (row : Row) : List String :=
  ["\tdc.l " ++ row.descriptor ++ "\t; Entity descriptor",
    "\tdc.l " ++ row.record ++ "\t; Entity spawn data",
    "\tdc.w " ++ row.x ++ "\t; Position X",
    "\tdc.w " ++ row.y ++ "\t; Position Y"]

/-- A row is that of the entity: it has its descriptor and the low half of each
coordinate, and the only record that its symbol can stand for holds the values
of the entity. -/
structure Row.Serves (source : List String) (row : Row) (e : Entity) : Prop where
  descriptor : row.descriptor = e.typeName ++ "_Typedesc"
  x : Text.readMarkedHex? 0x10000 row.x.toList =
    some (e.spawn.position.x.toInt % 0x10000).toNat
  y : Text.readMarkedHex? 0x10000 row.y.toList =
    some (e.spawn.position.y.toInt % 0x10000).toNat
  defined_once : source.count (row.record ++ ":") = 1
  values : readRecord (block row.record source) = e.valueGroups

/-- Nothing of the scene is lost or mixed up in its source. -/
structure SceneReadsBack (source : List String) (scene : String)
    (entities : List Entity) : Prop where
  tables_defined_once : ∀ table ∈ tables,
    source.count (table ++ scene ++ ":") = 1
  /-- The table of static entities has a row for each of them. -/
  static_rows : block ("SceneStaticEntityData_" ++ scene) source =
    (entities.filter fun e => e.isStatic).map fun e =>
      "\tdc.l " ++ ("SceneStaticEntity_" ++ scene ++ "_" ++ e.spawn.name) ++
        "\t; Static entity"
  /-- The table of the others has a row for each of them, and the header has
  the number of rows in either table. -/
  rows : ∃ rows : List Row, ∃ dynamicCount staticCount : String,
    block ("SceneEntityData_" ++ scene) source = rows.flatMap Row.lines ∧
    List.Forall₂ (fun e row => row.Serves source e)
      (entities.filter fun e => !e.isStatic) rows ∧
    block ("SceneData_" ++ scene) source =
      ["\tdc.w " ++ dynamicCount ++ "\t; Entity count",
        "\tdc.l " ++ ("SceneEntityData_" ++ scene) ++ "\t; Entity table",
        "\tdc.w " ++ staticCount ++ "\t; Static entity count",
        "\tdc.l " ++ ("SceneStaticEntityData_" ++ scene) ++ "\t; Static entity table"] ∧
    Text.readDecimal? dynamicCount.toList = some rows.length ∧
    Text.readDecimal? staticCount.toList =
      some (block ("SceneStaticEntityData_" ++ scene) source).length

/-! ### Records -/

/-- A record stands under the label of the entity that it was laid down for. -/
theorem block_of_owned {settings : Settings} {lines start rest : List Line}
    {placed : List Placed}
    (hlines : lines = start ++ placed.flatMap (Placed.recordLines settings) ++ rest) {q : Placed}
    (hq : q ∈ placed) (howned : q.owned = true) (hhead : q.label.toList.head? ≠ some '\t')
    (hcount : (labels lines).count q.label = 1) :
    block q.label (lines.map Line.text) = (recordBody settings q.entity).map Line.text := by
  obtain ⟨before, after, rfl⟩ : ∃ before after, placed = before ++ q :: after :=
    List.append_of_mem hq
  have hrecord : q.recordLines settings =
      Line.label q.label :: (recordBody settings q.entity ++ [Line.blank]) := by
    rw [Placed.recordLines, if_pos howned, entityRecord_eq]
  have hblock : lines = (start ++ before.flatMap (Placed.recordLines settings)) ++
      Line.label q.label :: (recordBody settings q.entity ++
        Line.blank :: (after.flatMap (Placed.recordLines settings) ++ rest)) := by
    rw [hlines, List.flatMap_append, List.flatMap_cons, hrecord]
    simp only [List.append_assoc, List.cons_append, List.nil_append]
  exact block_of_count hhead hblock hcount (blank_notMem_recordBody settings q.entity) rfl

/-- The record under the label of a placed entity holds the values of that
entity, whichever entity it was laid down for. -/
theorem readRecord_block_of_owner {settings : Settings} {lines start rest : List Line}
    {placed : List Placed}
    (hlines : lines = start ++ placed.flatMap (Placed.recordLines settings) ++ rest) {p : Placed}
    (howner : ∃ q ∈ placed, q.owned = true ∧ q.label = p.label ∧ q.entity.shape = p.entity.shape)
    (hhead : p.label.toList.head? ≠ some '\t') (hcount : (labels lines).count p.label = 1) :
    readRecord (block p.label (lines.map Line.text)) = p.entity.valueGroups := by
  obtain ⟨q, hq, howned, hlabel, hshape⟩ := howner
  rw [← hlabel] at hhead hcount ⊢
  rw [block_of_owned hlines hq howned hhead hcount, readRecord_recordBody,
    Entity.valueGroups_of_shape hshape]

/-! ### Where the tables stand -/

/-- What stands before the tables. -/
def bodyLines (settings : Settings) (scene : String) (entities : List Entity) : List Line :=
  (placeScene scene entities).flatMap (Placed.recordLines settings) ++ [.blank] ++
    (statics entities).flatMap fun e => .label (staticLabel scene e) :: staticBlock settings e

def staticRows (scene : String) (entities : List Entity) : List Line :=
  (statics entities).map fun e => .data .long (staticLabel scene e) "Static entity"

theorem text_data {size : Width} {operand remark start rest : String}
    (hstart : "\t" ++ size.directive ++ " " = start) (hrest : "\t; " ++ remark = rest) :
    (Line.data size operand remark).text = start ++ operand ++ rest := by
  rw [← hstart, ← hrest, Line.text]
  ac_rfl

section

variable {settings : Settings} {scene : String} {entities : List Entity}

theorem head?_table {table : String} (h : table ∈ tables) :
    (table ++ scene).toList.head? ≠ some '\t' := by
  have hhead : ∀ table ∈ tables, table.toList.head?.any (· ≠ '\t') = true := by decide
  exact head?_of_starts (start_append table scene) (hhead table h)

theorem count_labels_table {table : String} (h : table ∈ tables) :
    (labels (sceneLines settings scene entities)).count (table ++ scene) = 1 := by
  have hstarts : ∀ table ∈ tables, ∀ start ∈ ["SceneEntitySpawnData_", "SceneStaticEntity_"],
        ¬start.toList <+: table.toList ∧ ¬table.toList <+: start.toList := by
    decide
  have htables : ∀ table ∈ tables, tables.count table = 1 := by decide
  have hrecords : (((placeScene scene entities).filter Placed.owned).map
      Placed.label).count (table ++ scene) = 0 := by
    refine List.count_eq_zero.2 fun hmem => ?_
    obtain ⟨p, hp, hlabel⟩ := List.mem_map.1 hmem
    exact ne_of_starts (start_label_of_mem_placeScene (List.mem_filter.1 hp).1)
      (start_append table scene) (hstarts table h _ (by simp)) hlabel
  have hstatics : ((statics entities).map (staticLabel scene)).count (table ++ scene) = 0 := by
    refine List.count_eq_zero.2 fun hmem => ?_
    obtain ⟨e, -, hlabel⟩ := List.mem_map.1 hmem
    exact ne_of_starts (start_staticLabel e) (start_append table scene)
      (hstarts table h _ (by simp)) hlabel
  have hinj : Function.Injective fun table : String => table ++ scene := by
    intro a b hab
    simpa using hab
  have hmap := List.count_map_of_injective tables _ hinj table
  rw [labels_sceneLines, List.count_append, List.count_append, hrecords, hstatics,
    hmap, htables table h]

theorem sceneLines_eq (settings : Settings) (scene : String) (entities : List Entity) :
    sceneLines settings scene entities = bodyLines settings scene entities ++
      Line.label ("SceneEntityData_" ++ scene) ::
        ((placeScene scene entities).flatMap sceneRow ++
          Line.blank :: Line.label ("SceneStaticEntityData_" ++ scene) ::
            (staticRows scene entities ++
              Line.blank :: sceneHeader scene (dynamics entities).length
                (statics entities).length)) := by
  simp [sceneLines, bodyLines, staticRows]

/-- The records stand at the start. -/
theorem exists_sceneLines_eq (settings : Settings) (scene : String) (entities : List Entity) :
    ∃ rest, sceneLines settings scene entities =
      [] ++ (placeScene scene entities).flatMap (Placed.recordLines settings) ++ rest := by
  rw [sceneLines_eq, bodyLines]
  simp only [List.append_assoc, List.nil_append]
  exact ⟨_, rfl⟩

theorem block_dynamicTable :
    block ("SceneEntityData_" ++ scene) ((sceneLines settings scene entities).map Line.text) =
      ((placeScene scene entities).flatMap sceneRow).map Line.text := by
  refine block_of_count (head?_table (by decide)) (sceneLines_eq settings scene entities)
    (count_labels_table (by decide)) ?_ rfl
  simp [sceneRow]

theorem block_staticTable :
    block ("SceneStaticEntityData_" ++ scene)
        ((sceneLines settings scene entities).map Line.text) =
      (statics entities).map fun e =>
        "\tdc.l " ++ staticLabel scene e ++ "\t; Static entity" := by
  have hlines : sceneLines settings scene entities =
      (bodyLines settings scene entities ++ Line.label ("SceneEntityData_" ++ scene) ::
        ((placeScene scene entities).flatMap sceneRow ++ [Line.blank])) ++
      Line.label ("SceneStaticEntityData_" ++ scene) :: (staticRows scene entities ++
        Line.blank :: sceneHeader scene (dynamics entities).length (statics entities).length) := by
    simp [sceneLines_eq]
  rw [block_of_count (head?_table (by decide)) hlines (count_labels_table (by decide))]
  · rw [staticRows, List.map_map]
    exact List.map_congr_left fun e _ => text_data rfl rfl
  · simp [staticRows]
  · rfl

theorem block_header :
    block ("SceneData_" ++ scene) ((sceneLines settings scene entities).map Line.text) =
      ["\tdc.w " ++ countOperand (dynamics entities).length ++ "\t; Entity count",
        "\tdc.l " ++ ("SceneEntityData_" ++ scene) ++ "\t; Entity table",
        "\tdc.w " ++ countOperand (statics entities).length ++ "\t; Static entity count",
        "\tdc.l " ++ ("SceneStaticEntityData_" ++ scene) ++ "\t; Static entity table"] := by
  -- The header ends the source, so nothing follows its lines.
  have hlines : sceneLines settings scene entities =
      (bodyLines settings scene entities ++ Line.label ("SceneEntityData_" ++ scene) ::
        ((placeScene scene entities).flatMap sceneRow ++
          Line.blank :: Line.label ("SceneStaticEntityData_" ++ scene) ::
            (staticRows scene entities ++ [Line.blank]))) ++
      Line.label ("SceneData_" ++ scene) ::
        ((sceneHeader scene (dynamics entities).length (statics entities).length).tail ++
          []) := by
    simp [sceneLines_eq, sceneHeader]
  rw [block_of_count (head?_table (by decide)) hlines (count_labels_table (by decide))]
  · simp only [sceneHeader, List.tail_cons, List.map_cons, List.map_nil]
    rw [text_data rfl rfl, text_data rfl rfl, text_data rfl rfl, text_data rfl rfl]
    rfl
  · simp [sceneHeader]
  · rfl

/-! ### Rows -/

theorem readRecord_block_label {p : Placed} (hp : p ∈ placeScene scene entities) :
    readRecord (block p.label ((sceneLines settings scene entities).map Line.text)) =
      p.entity.valueGroups := by
  obtain ⟨rest, hlines⟩ := exists_sceneLines_eq settings scene entities
  refine readRecord_block_of_owner hlines ?_ (head?_label_of_mem_placeScene hp)
    (count_label_of_mem_placeScene settings hp)
  rw [placeScene_eq_placed] at hp ⊢
  exact Registry.exists_owned_of_mem_placed isStatic_of_mem_sceneRequests hp

def Placed.row (p : Placed) : Row :=
  ⟨p.entity.descriptor, p.label, hex4 p.entity.spawn.position.x.toInt,
    hex4 p.entity.spawn.position.y.toInt⟩

theorem text_sceneRow (p : Placed) : (sceneRow p).map Line.text = p.row.lines := by
  simp only [sceneRow, List.map_cons, List.map_nil]
  rw [text_data rfl rfl, text_data rfl rfl, text_data rfl rfl, text_data rfl rfl]
  rfl

theorem serves_row {p : Placed} (hp : p ∈ placeScene scene entities) :
    p.row.Serves ((sceneLines settings scene entities).map Line.text) p.entity where
  descriptor := rfl
  x := Text.readMarkedHex?_hex4 _
  y := Text.readMarkedHex?_hex4 _
  defined_once := by
    rw [← count_label_of_mem_placeScene settings hp]
    exact count_text_label (head?_label_of_mem_placeScene hp) _
  values := readRecord_block_label hp

/-- The text of a scene holds a row for every entity, in order and with its own
descriptor and position, and what the row of a dynamic entity points to are the
values of that entity, even if another entity's record is shared. -/
theorem sceneText_reads_back (settings : Settings) (hscene : OneLine scene)
    (hentities : ∀ e ∈ entities, e.OneLine) :
    SceneReadsBack (sourceLines (sceneText settings scene entities)) scene entities := by
  rw [sceneText, sourceLines_render (oneLine_sceneLines settings hscene hentities)]
  constructor
  · intro table htable
    rw [count_text_label (head?_table htable), count_labels_table htable]
  · rw [block_staticTable]
    rfl
  · refine ⟨(placeScene scene entities).map Placed.row,
      countOperand (dynamics entities).length, countOperand (statics entities).length,
      ?_, ?_, block_header, ?_, ?_⟩
    · rw [block_dynamicTable, List.map_flatMap, List.flatMap_map]
      exact List.flatMap_congr fun p _ => text_sceneRow p
    · have hdynamics : (entities.filter fun e => !e.isStatic) =
          (placeScene scene entities).map Placed.entity := entities_placeScene.symm
      rw [hdynamics, List.forall₂_map_left_iff, List.forall₂_map_right_iff,
        List.forall₂_same]
      exact fun p hp => serves_row hp
    · rw [countOperand, String.toList_ofList, Text.readDecimal?_decimal, List.length_map,
        ← @entities_placeScene scene entities, List.length_map]
    · rw [block_staticTable, countOperand, String.toList_ofList,
        Text.readDecimal?_decimal, List.length_map]

end

/-- Two bats that share a record, in a cave with a gate that has none. -/
theorem bats_read_back :
    let bat : UInt16 → Entity := fun id =>
      ⟨"Bat", id, ⟨"Bat", .zero, .zero, [⟨"Speed", .word, "4", []⟩]⟩,
        [⟨"Wings", ⟨"Wings", .zero, .zero, [⟨"Span", .byte, "", []⟩]⟩, []⟩], [], false⟩
    let gate : Entity := ⟨"Gate", 7, .named "Gate", [], [], true⟩
    SceneReadsBack (sourceLines (sceneText .default "Cave" [bat 1, gate, bat 2])) "Cave"
      [bat 1, gate, bat 2] :=
  sceneText_reads_back .default (by decide) (by decide)

end Cartridge.Export
