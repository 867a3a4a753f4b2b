import Cartridge.Export.Scene
import Cartridge.Proofs.Assembly.Source
import Cartridge.Proofs.Registry.Sharing

/-!
The lines of a scene. Names and values that stay on one line leave every line
of the scene whole. Records, blocks of static entities and tables are told
apart by how their symbols start, so every record and every table is defined
once, whatever the scene and its entities are called.
-/

namespace Cartridge

open Cartridge.Text (OneLine)

/-- The names and values of an entity that reach the source of a scene stay on
one line. -/
structure Entity.OneLine (e : Entity) : Prop where
  typeName : Text.OneLine e.typeName
  name : Text.OneLine e.spawn.name
  params : ∀ p ∈ e.spawn.params, Text.OneLine p.name ∧ Text.OneLine p.value
  components : ∀ c ∈ e.components, Text.OneLine c.name ∧
    ∀ p ∈ c.spawn.params, Text.OneLine p.name ∧ Text.OneLine p.value

instance (e : Entity) : Decidable e.OneLine :=
  decidable_of_iff
    (Text.OneLine e.typeName ∧ Text.OneLine e.spawn.name ∧
      (∀ p ∈ e.spawn.params, Text.OneLine p.name ∧ Text.OneLine p.value) ∧
      ∀ c ∈ e.components, Text.OneLine c.name ∧
        ∀ p ∈ c.spawn.params, Text.OneLine p.name ∧ Text.OneLine p.value)
    ⟨fun ⟨typeName, name, params, components⟩ => ⟨typeName, name, params, components⟩,
      fun ⟨typeName, name, params, components⟩ => ⟨typeName, name, params, components⟩⟩

namespace Assembly

theorem oneLine_label {symbol : String} (h : OneLine symbol) :
    OneLine (Line.label symbol).text := by
  have hcolon : OneLine ":" := by decide
  exact h.append hcolon

theorem oneLine_data {size : Width} {operand remark : String} (hoperand : OneLine operand)
    (hremark : OneLine remark) : OneLine (Line.data size operand remark).text := by
  have hdirective : OneLine ("\t" ++ size.directive ++ " ") := by cases size <;> decide
  have hmark : OneLine "\t; " := by decide
  exact ((hdirective.append hoperand).append hmark).append hremark

theorem oneLine_name {quoted remark : String} (zeros : Nat) (hquoted : OneLine quoted)
    (hremark : OneLine remark) : OneLine (Line.name quoted zeros remark).text := by
  have hzero : OneLine ",0" := by decide
  have hzeros : OneLine (String.join (List.replicate zeros ",0")) := by
    induction zeros with
    | zero => decide
    | succ n ih =>
        rw [List.replicate_succ, String.join_cons]
        exact hzero.append ih
  have hdirective : OneLine ("\t" ++ Width.byte.directive ++ " ") := by decide
  have hquote : OneLine "\"" := by decide
  have hmark : OneLine "\t; " := by decide
  have hoperands := ((hquote.append hquoted).append hquote).append hzeros
  exact ((hdirective.append hoperands).append hmark).append hremark

theorem oneLine_comment {remark : String} (h : OneLine remark) :
    OneLine (Line.comment remark).text := by
  have hmark : OneLine "\t; " := by decide
  exact hmark.append h

end Assembly

namespace Export

open Cartridge.Assembly

/-! ### Lines -/

theorem oneLine_paramLine {p : Param} (h : OneLine p.name ∧ OneLine p.value) :
    OneLine (paramLine p).text := by
  refine oneLine_data ?_ h.1
  rw [Param.operand]
  split
  · decide
  · exact h.2

theorem oneLine_debugNameLines (settings : Settings) {name comment : String}
    (hname : OneLine name) (hcomment : OneLine comment) :
    ∀ l ∈ debugNameLines settings name comment, OneLine l.text := by
  intro l hl
  rw [debugNameLines] at hl
  split at hl
  · simp only [List.mem_cons, List.not_mem_nil, or_false] at hl
    rcases hl with rfl | rfl | rfl
    · decide
    · refine oneLine_name _ ?_ hcomment
      rw [debugName]
      split
      · exact Text.oneLine_ofList.2 fun h => hname (List.mem_of_mem_take h)
      · exact hname
    · decide
  · cases hl

theorem oneLine_entityRecord (settings : Settings) {e : Entity} (he : e.OneLine) :
    ∀ l ∈ entityRecord settings e, OneLine l.text := by
  intro l hl
  simp only [entityRecord, spawnRecord, List.mem_append, List.mem_cons, List.mem_map,
    List.mem_flatMap, List.not_mem_nil, or_false] at hl
  rcases hl with (((hl | rfl | ⟨p, hp, rfl⟩) | hl) | ⟨c, hc, hl⟩) | rfl
  · exact oneLine_debugNameLines settings he.name (by decide) l hl
  · exact oneLine_data (Text.oneLine_paddedHex _ _) (by decide)
  · exact oneLine_paramLine (he.params p hp)
  · split at hl
    · rw [List.mem_singleton.1 hl]
      decide
    · cases hl
  · rw [componentLines] at hl
    split at hl
    · cases hl
    · simp only [List.cons_append, List.mem_cons, List.mem_append, List.mem_map,
        List.not_mem_nil, or_false] at hl
      rcases hl with rfl | ⟨p, hp, rfl⟩ | rfl
      · exact oneLine_comment (he.components c hc).1
      · exact oneLine_paramLine ((he.components c hc).2 p hp)
      · decide
  · decide

theorem oneLine_recordLines (settings : Settings) {p : Placed} (hlabel : OneLine p.label)
    (he : p.entity.OneLine) : ∀ l ∈ p.recordLines settings, OneLine l.text := by
  intro l hl
  rw [Placed.recordLines] at hl
  split at hl
  · rcases List.mem_cons.1 hl with rfl | hl
    · exact oneLine_label hlabel
    · exact oneLine_entityRecord settings he l hl
  · cases hl

theorem oneLine_descriptor {e : Entity} (he : e.OneLine) : OneLine e.descriptor := by
  have hend : OneLine "_Typedesc" := by decide
  exact he.typeName.append hend

theorem oneLine_staticBlock (settings : Settings) {e : Entity} (he : e.OneLine) :
    ∀ l ∈ staticBlock settings e, OneLine l.text := by
  have hdescriptor := oneLine_descriptor he
  intro l hl
  simp only [staticBlock, List.mem_append, List.mem_cons, List.mem_map,
    List.not_mem_nil, or_false] at hl
  rcases hl with ((hl | rfl | rfl | rfl | rfl | rfl | rfl | rfl | rfl) | ⟨p, hp, rfl⟩) | rfl | rfl
  · exact oneLine_debugNameLines settings he.name (by decide) l hl
  · decide
  · decide
  · exact oneLine_data hdescriptor (by decide)
  · exact oneLine_data (Text.oneLine_paddedHex _ _) (by decide)
  · exact oneLine_data (Text.oneLine_paddedHex _ _) (by decide)
  · exact oneLine_data (Text.oneLine_paddedHex _ _) (by decide)
  · exact oneLine_data (Text.oneLine_paddedHex _ _) (by decide)
  · exact oneLine_data (Text.oneLine_paddedHex _ _) (by decide)
  · exact oneLine_paramLine (he.params p hp)
  · decide
  · decide

/-! ### Placed entities -/

section

variable {scene : String} {entities : List Entity}

theorem isStatic_of_mem_dynamics {e : Entity} (he : e ∈ dynamics entities) :
    e.isStatic = false := by
  simpa using (List.mem_filter.1 he).2

theorem entities_placeScene :
    (placeScene scene entities).map Placed.entity = dynamics entities :=
  Registry.entities_placeAll _

/-- What is asked of the registry for a scene. -/
def sceneRequests (scene : String) (entities : List Entity) : List (String × Entity) :=
  (dynamics entities).map fun e => (recordLabel scene e, e)

theorem placeScene_eq_placed :
    placeScene scene entities = Registry.placed (sceneRequests scene entities) :=
  Registry.placeAll_eq_placed

theorem isStatic_of_mem_sceneRequests :
    ∀ request ∈ sceneRequests scene entities, request.2.isStatic = false :=
  List.forall_mem_map.2 fun _ => isStatic_of_mem_dynamics

theorem entity_mem_of_mem_placeScene {p : Placed} (hp : p ∈ placeScene scene entities) :
    p.entity ∈ entities := by
  have hmem : p.entity ∈ dynamics entities := by
    rw [← @entities_placeScene scene entities]
    exact List.mem_map_of_mem hp
  exact (List.mem_filter.1 hmem).1

/-- The label of a placed entity starts like those of all records. -/
theorem label_of_mem_placeScene {p : Placed} (hp : p ∈ placeScene scene entities) :
    ∃ e ∈ entities, p.label = recordLabel scene e ∨
      ∃ n, p.label = Registry.numbered (recordLabel scene e) n := by
  rw [placeScene_eq_placed] at hp
  obtain ⟨request, hrequest, hlabel⟩ := Registry.label_of_mem_placed hp
  obtain ⟨e, he, rfl⟩ := List.mem_map.1 hrequest
  exact ⟨e, (List.mem_filter.1 he).1, hlabel⟩

theorem oneLine_recordLabel {e : Entity} (hscene : OneLine scene) (he : e.OneLine) :
    OneLine (recordLabel scene e) := by
  have hstart : OneLine "SceneEntitySpawnData_" := by decide
  have hjoin : OneLine "_" := by decide
  exact ((hstart.append hscene).append hjoin).append he.name

theorem oneLine_staticLabel {e : Entity} (hscene : OneLine scene) (he : e.OneLine) :
    OneLine (staticLabel scene e) := by
  have hstart : OneLine "SceneStaticEntity_" := by decide
  have hjoin : OneLine "_" := by decide
  exact ((hstart.append hscene).append hjoin).append he.name

theorem oneLine_countOperand (n : Nat) : OneLine (countOperand n) :=
  Text.oneLine_ofList.2 (Text.lineFeed_not_mem_decimal n)

theorem oneLine_label_of_mem_placeScene (hscene : OneLine scene)
    (hentities : ∀ e ∈ entities, e.OneLine) {p : Placed}
    (hp : p ∈ placeScene scene entities) : OneLine p.label := by
  obtain ⟨e, he, hlabel | ⟨n, hlabel⟩⟩ := label_of_mem_placeScene hp
  · rw [hlabel]
    exact oneLine_recordLabel hscene (hentities e he)
  · have hjoin : OneLine "_" := by decide
    rw [hlabel]
    exact ((oneLine_recordLabel hscene (hentities e he)).append hjoin).append
      (oneLine_countOperand n)

theorem oneLine_sceneHeader (hscene : OneLine scene) (dynamicCount staticCount : Nat) :
    ∀ l ∈ sceneHeader scene dynamicCount staticCount, OneLine l.text := by
  have hheader : OneLine "SceneData_" := by decide
  have hdynamic : OneLine "SceneEntityData_" := by decide
  have hstatic : OneLine "SceneStaticEntityData_" := by decide
  intro l hl
  simp only [sceneHeader, List.mem_cons, List.not_mem_nil, or_false] at hl
  rcases hl with rfl | rfl | rfl | rfl | rfl
  · exact oneLine_label (hheader.append hscene)
  · exact oneLine_data (oneLine_countOperand _) (by decide)
  · exact oneLine_data (hdynamic.append hscene) (by decide)
  · exact oneLine_data (oneLine_countOperand _) (by decide)
  · exact oneLine_data (hstatic.append hscene) (by decide)

theorem oneLine_sceneRow {p : Placed} (hlabel : OneLine p.label) (he : p.entity.OneLine) :
    ∀ l ∈ sceneRow p, OneLine l.text := by
  have hdescriptor := oneLine_descriptor he
  intro l hl
  simp only [sceneRow, List.mem_cons, List.not_mem_nil, or_false] at hl
  rcases hl with rfl | rfl | rfl | rfl
  · exact oneLine_data hdescriptor (by decide)
  · exact oneLine_data hlabel (by decide)
  · exact oneLine_data (Text.oneLine_paddedHex _ _) (by decide)
  · exact oneLine_data (Text.oneLine_paddedHex _ _) (by decide)

/-- Names and values on one line leave every line of the scene whole. -/
theorem oneLine_sceneLines (settings : Settings) (hscene : OneLine scene)
    (hentities : ∀ e ∈ entities, e.OneLine) :
    ∀ l ∈ sceneLines settings scene entities, OneLine l.text := by
  have hdynamicTable : OneLine "SceneEntityData_" := by decide
  have hstaticTable : OneLine "SceneStaticEntityData_" := by decide
  have hplaced : ∀ p ∈ placeScene scene entities, OneLine p.label ∧ p.entity.OneLine :=
    fun p hp => ⟨oneLine_label_of_mem_placeScene hscene hentities hp,
      hentities _ (entity_mem_of_mem_placeScene hp)⟩
  have hstatic : ∀ e ∈ statics entities, e.OneLine := fun e he =>
    hentities e (List.mem_filter.1 he).1
  intro l hl
  simp only [sceneLines, List.mem_append, List.mem_flatMap, List.mem_cons, List.mem_map,
    List.not_mem_nil, or_false] at hl
  rcases hl with ((((((((⟨p, hp, hl⟩ | rfl) | ⟨e, he, rfl | hl⟩) | rfl) | ⟨p, hp, hl⟩) |
    rfl | rfl) | ⟨e, he, rfl⟩) | rfl) | hl)
  · exact oneLine_recordLines settings (hplaced p hp).1 (hplaced p hp).2 l hl
  · decide
  · exact oneLine_label (oneLine_staticLabel hscene (hstatic e he))
  · exact oneLine_staticBlock settings (hstatic e he) l hl
  · exact oneLine_label (hdynamicTable.append hscene)
  · exact oneLine_sceneRow (hplaced p hp).1 (hplaced p hp).2 l hl
  · decide
  · exact oneLine_label (hstaticTable.append hscene)
  · exact oneLine_data (oneLine_staticLabel hscene (hstatic e he)) (by decide)
  · decide
  · exact oneLine_sceneHeader hscene _ _ l hl

end

/-! ### Symbols -/

theorem labels_paramLines (params : List Param) : labels (params.map paramLine) = [] := by
  rw [labels, List.filterMap_map]
  exact List.filterMap_eq_nil_iff.2 fun p _ => rfl

theorem labels_debugNameLines (settings : Settings) (name comment : String) :
    labels (debugNameLines settings name comment) = [] := by
  rw [debugNameLines]
  split <;> rfl

theorem labels_componentLines (c : Component) : labels (componentLines c) = [] := by
  rw [componentLines]
  split
  · rfl
  · simp [Line.label?, labels_paramLines]

theorem labels_entityRecord (settings : Settings) (e : Entity) :
    labels (entityRecord settings e) = [] := by
  have hpadding : labels (if hasByte e.spawn.params then [Line.even] else []) = [] := by
    split <;> rfl
  simp [entityRecord, spawnRecord, labels_debugNameLines, labels_paramLines,
    labels_flatMap, labels_componentLines, hpadding, Line.label?]

theorem labels_staticBlock (settings : Settings) (e : Entity) :
    labels (staticBlock settings e) = [] := by
  simp [staticBlock, labels_debugNameLines, labels_paramLines, Line.label?]

/-- The records that are laid down have the labels of those who own them. -/
theorem labels_recordLines (settings : Settings) (placed : List Placed) :
    labels (placed.flatMap (Placed.recordLines settings)) =
      (placed.filter Placed.owned).map Placed.label := by
  rw [labels_flatMap]
  induction placed with
  | nil => rfl
  | cons p ps ih =>
      rw [List.flatMap_cons, ih, Placed.recordLines]
      cases howned : p.owned with
      | true => simp [howned, labels_entityRecord, Line.label?]
      | false => simp [howned]

/-- What the symbols of the two tables and of the header start with. -/
def tables : List String :=
  ["SceneEntityData_", "SceneStaticEntityData_", "SceneData_"]

/-- A scene defines the records that are laid down, the blocks of the static
entities, the tables and the header. -/
theorem labels_sceneLines (settings : Settings) (scene : String) (entities : List Entity) :
    labels (sceneLines settings scene entities) =
      ((placeScene scene entities).filter Placed.owned).map Placed.label ++
        (statics entities).map (staticLabel scene) ++
        tables.map (· ++ scene) := by
  have hrows : labels ((placeScene scene entities).flatMap sceneRow) = [] := by
    simp [labels_flatMap, sceneRow, Line.label?]
  have hstatics : labels ((statics entities).flatMap fun e =>
      .label (staticLabel scene e) :: staticBlock settings e) =
        (statics entities).map (staticLabel scene) := by
    refine labels_flatMap_eq_map (fun e => ?_) (statics entities)
    rw [labels_cons, labels_staticBlock]
    rfl
  have htable : labels ((statics entities).map fun e =>
      .data .long (staticLabel scene e) "Static entity") = [] := by
    rw [labels, List.filterMap_map]
    exact List.filterMap_eq_nil_iff.2 fun e _ => rfl
  rw [sceneLines]
  simp only [labels_append, labels_recordLines, hrows, hstatics, htable]
  simp [sceneHeader, tables, Line.label?]

theorem ne_of_starts {start start' symbol symbol' : String}
    (h : start.toList <+: symbol.toList) (h' : start'.toList <+: symbol'.toList)
    (hstarts : ¬start.toList <+: start'.toList ∧ ¬start'.toList <+: start.toList) :
    symbol ≠ symbol' := by
  rintro rfl
  rcases List.prefix_or_prefix_of_prefix h h' with h | h
  · exact hstarts.1 h
  · exact hstarts.2 h

section

variable {scene : String} {entities : List Entity}

theorem head?_of_starts {start symbol : String} (h : start.toList <+: symbol.toList)
    (hstart : start.toList.head?.any (· ≠ '\t') = true) : symbol.toList.head? ≠ some '\t' := by
  obtain ⟨rest, hrest⟩ := h
  rw [← hrest, List.head?_append]
  cases hc : start.toList.head? with
  | none =>
      rw [hc] at hstart
      cases hstart
  | some c => simpa [hc] using hstart

theorem start_append (start rest : String) : start.toList <+: (start ++ rest).toList := by
  rw [String.toList_append]
  exact List.prefix_append _ _

theorem start_recordLabel (e : Entity) :
    "SceneEntitySpawnData_".toList <+: (recordLabel scene e).toList :=
  ((start_append _ scene).trans (start_append _ "_")).trans (start_append _ e.spawn.name)

theorem start_staticLabel (e : Entity) :
    "SceneStaticEntity_".toList <+: (staticLabel scene e).toList :=
  ((start_append _ scene).trans (start_append _ "_")).trans (start_append _ e.spawn.name)

theorem start_label_of_mem_placeScene {p : Placed} (hp : p ∈ placeScene scene entities) :
    "SceneEntitySpawnData_".toList <+: p.label.toList := by
  obtain ⟨e, -, hlabel | ⟨n, hlabel⟩⟩ := label_of_mem_placeScene hp
  · rw [hlabel]
    exact start_recordLabel e
  · rw [hlabel]
    exact ((start_recordLabel e).trans (start_append _ "_")).trans (start_append _ _)

theorem head?_label_of_mem_placeScene {p : Placed} (hp : p ∈ placeScene scene entities) :
    p.label.toList.head? ≠ some '\t' :=
  head?_of_starts (start_label_of_mem_placeScene hp) (by decide)

/-- Wherever an entity is placed, the symbol there is defined once. -/
theorem count_label_of_mem_placeScene (settings : Settings) {p : Placed}
    (hp : p ∈ placeScene scene entities) :
    (labels (sceneLines settings scene entities)).count p.label = 1 := by
  have hstart := start_label_of_mem_placeScene hp
  have hrecords : (((placeScene scene entities).filter Placed.owned).map Placed.label).count
      p.label = 1 := by
    rw [placeScene_eq_placed] at hp ⊢
    exact List.count_eq_one_of_mem
      (Registry.nodup_owned_labels_placed isStatic_of_mem_sceneRequests)
      (Registry.owned_label_mem_of_mem_placed isStatic_of_mem_sceneRequests hp)
  have hstatics : ((statics entities).map (staticLabel scene)).count p.label = 0 := by
    refine List.count_eq_zero.2 fun hmem => ?_
    obtain ⟨e, -, he⟩ := List.mem_map.1 hmem
    exact ne_of_starts (start_staticLabel e) hstart (by decide) he
  -- The kinds of symbols part ways within their fixed starts.
  have htables : (tables.map (· ++ scene)).count p.label = 0 := by
    have hstarts : ∀ table ∈ tables, ¬"SceneEntitySpawnData_".toList <+: table.toList ∧
        ¬table.toList <+: "SceneEntitySpawnData_".toList := by decide
    refine List.count_eq_zero.2 fun hmem => ?_
    obtain ⟨table, htable, hlabel⟩ := List.mem_map.1 hmem
    exact ne_of_starts hstart (start_append table scene) (hstarts table htable) hlabel.symm
  rw [labels_sceneLines, List.count_append, List.count_append, hstatics, htables]
  exact hrecords

end

end Export

end Cartridge
