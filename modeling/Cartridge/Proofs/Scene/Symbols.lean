import Cartridge.Proofs.Scene.ReadBack

/-!
The symbols of a scene. Records take part in a registry that keeps their labels
apart; blocks of static entities go by the names of the entities alone, so they
are told apart exactly if these names are. Whatever the two tables of a scene
refer to is defined beside them.
-/

namespace Cartridge.Export

open Cartridge.Assembly
open Cartridge.Text (OneLine)

section

variable {settings : Settings} {scene : String} {entities : List Entity}

/-! ### Symbols that differ -/

theorem nodup_staticLabels :
    ((statics entities).map (staticLabel scene)).Nodup ↔
      ((statics entities).map fun e => e.spawn.name).Nodup := by
  have hinj : Function.Injective fun name => "SceneStaticEntity_" ++ scene ++ "_" ++ name := by
    intro a b h
    simpa using h
  have hlabels : (statics entities).map (staticLabel scene) =
      ((statics entities).map fun e => e.spawn.name).map
        fun name => "SceneStaticEntity_" ++ scene ++ "_" ++ name := by
    rw [List.map_map]
    rfl
  rw [hlabels, List.nodup_map_iff hinj]

/-- The symbols of a scene differ if the names of its static entities do, and
only then. -/
theorem nodup_labels_sceneLines :
    (labels (sceneLines settings scene entities)).Nodup ↔
      ((statics entities).map fun e => e.spawn.name).Nodup := by
  have hrecords : (((placeScene scene entities).filter Placed.owned).map Placed.label).Nodup := by
    rw [placeScene_eq_placed]
    exact Registry.nodup_owned_labels_placed isStatic_of_mem_sceneRequests
  have htables : (tables.map (· ++ scene)).Nodup :=
    (List.nodup_map_iff fun a b h => by simpa using h).2 (by decide)
  have hstarts : ∀ table ∈ tables, ∀ start ∈ ["SceneEntitySpawnData_", "SceneStaticEntity_"],
      ¬start.toList <+: table.toList ∧ ¬table.toList <+: start.toList := by
    decide
  rw [labels_sceneLines, List.nodup_append, List.nodup_append, nodup_staticLabels]
  constructor
  · rintro ⟨⟨-, hnames, -⟩, -⟩
    exact hnames
  · intro hnames
    refine ⟨⟨hrecords, hnames, ?_⟩, htables, ?_⟩
    · simp only [List.mem_map, List.mem_filter]
      rintro _ ⟨p, ⟨hp, -⟩, rfl⟩ _ ⟨e, -, rfl⟩
      exact ne_of_starts (start_label_of_mem_placeScene hp) (start_staticLabel e) (by decide)
    · simp only [List.mem_append, List.mem_map, List.mem_filter]
      rintro _ (⟨p, ⟨hp, -⟩, rfl⟩ | ⟨e, -, rfl⟩) _ ⟨table, htable, rfl⟩
      · exact ne_of_starts (start_label_of_mem_placeScene hp) (start_append table scene)
          (hstarts table htable _ (by simp))
      · exact ne_of_starts (start_staticLabel e) (start_append table scene)
          (hstarts table htable _ (by simp))

theorem head?_of_mem_labels {symbol : String}
    (h : symbol ∈ labels (sceneLines settings scene entities)) :
    symbol.toList.head? ≠ some '\t' := by
  rw [labels_sceneLines] at h
  simp only [List.mem_append, List.mem_map, List.mem_filter] at h
  rcases h with (⟨p, ⟨hp, -⟩, rfl⟩ | ⟨e, -, rfl⟩) | ⟨table, htable, rfl⟩
  · exact head?_label_of_mem_placeScene hp
  · exact head?_of_starts (start_staticLabel e) (by decide)
  · exact head?_table htable

/-- The symbols that the text of a scene defines are those of its lines. -/
theorem definedSymbols_sceneText (settings : Settings) (hscene : OneLine scene)
    (hentities : ∀ e ∈ entities, e.OneLine) :
    definedSymbols (sourceLines (sceneText settings scene entities)) =
      labels (sceneLines settings scene entities) := by
  rw [sceneText, sourceLines_render (oneLine_sceneLines settings hscene hentities)]
  exact definedSymbols_text fun _ => head?_of_mem_labels

/-! ### Symbols that the tables refer to -/

theorem append_ne_of_ends {a b rest rest' : String}
    (h : ∃ c c', rest.toList.getLast? = some c ∧ rest'.toList.getLast? = some c' ∧ c ≠ c') :
    a ++ rest ≠ b ++ rest' := by
  obtain ⟨c, c', hrest, hrest', hne⟩ := h
  intro heq
  have hends := congrArg (fun s => s.toList.getLast?) heq
  simp only [String.toList_append, List.getLast?_append, hrest, hrest', Option.some_or,
    Option.some.injEq] at hends
  exact hne hends

/-- The record that a row of the entity table refers to. -/
theorem eq_label_of_mem_sceneRow {p : Placed} {symbol : String}
    (h : "\tdc.l " ++ symbol ++ "\t; Entity spawn data" ∈ (sceneRow p).map Line.text) :
    symbol = p.label := by
  rw [text_sceneRow, Row.lines] at h
  simp only [List.mem_cons, List.not_mem_nil, or_false] at h
  rcases h with h | h | h | h
  · exact absurd h (append_ne_of_ends ⟨'a', 'r', by decide⟩)
  · simpa [Placed.row] using h
  · exact absurd h (append_ne_of_ends ⟨'a', 'X', by decide⟩)
  · exact absurd h (append_ne_of_ends ⟨'a', 'Y', by decide⟩)

theorem mem_labels_of_entityTable {symbol : String}
    (h : "\tdc.l " ++ symbol ++ "\t; Entity spawn data" ∈
      block ("SceneEntityData_" ++ scene) ((sceneLines settings scene entities).map Line.text)) :
    symbol ∈ labels (sceneLines settings scene entities) := by
  rw [block_dynamicTable, List.map_flatMap, List.mem_flatMap] at h
  obtain ⟨p, hp, hrow⟩ := h
  rw [eq_label_of_mem_sceneRow hrow]
  refine List.count_pos_iff.1 ?_
  rw [count_label_of_mem_placeScene settings hp]
  decide

theorem mem_labels_of_staticTable {symbol : String}
    (h : "\tdc.l " ++ symbol ++ "\t; Static entity" ∈
      block ("SceneStaticEntityData_" ++ scene)
        ((sceneLines settings scene entities).map Line.text)) :
    symbol ∈ labels (sceneLines settings scene entities) := by
  rw [block_staticTable, List.mem_map] at h
  obtain ⟨e, he, hrow⟩ := h
  have hsymbol : staticLabel scene e = symbol := by simpa using hrow
  rw [labels_sceneLines, ← hsymbol]
  exact List.mem_append_left _ (List.mem_append_right _ (List.mem_map_of_mem he))

/-- The text of a scene defines whatever its tables refer to, and no symbol
twice, provided that no two static entities have one name; the dynamic ones may
be called whatever they like. -/
theorem sceneText_defines_symbols (settings : Settings) (hscene : OneLine scene)
    (hentities : ∀ e ∈ entities, e.OneLine) :
    let source := sourceLines (sceneText settings scene entities)
    ((definedSymbols source).Nodup ↔
        ((entities.filter Entity.isStatic).map fun e => e.spawn.name).Nodup) ∧
      (∀ symbol, "\tdc.l " ++ symbol ++ "\t; Entity spawn data" ∈
          block ("SceneEntityData_" ++ scene) source → symbol ∈ definedSymbols source) ∧
      ∀ symbol, "\tdc.l " ++ symbol ++ "\t; Static entity" ∈
          block ("SceneStaticEntityData_" ++ scene) source → symbol ∈ definedSymbols source := by
  intro source
  have hsource : source = (sceneLines settings scene entities).map Line.text :=
    sourceLines_render (oneLine_sceneLines settings hscene hentities)
  rw [definedSymbols_sceneText settings hscene hentities, hsource]
  exact ⟨nodup_labels_sceneLines, fun _ => mem_labels_of_entityTable,
    fun _ => mem_labels_of_staticTable⟩

end

/-! Entities of one name. -/

def lamp (id : UInt16) (speed : String) (isStatic : Bool) : Entity :=
  ⟨"ELamp", id, ⟨"Lamp", .zero, .zero, [⟨"Speed", .word, speed, []⟩]⟩, [], [], isStatic⟩

/-- Dynamic entities of one name get symbols of their own. -/
theorem dynamic_lamps_differ :
    (definedSymbols (sourceLines (sceneText .default "L1"
      [lamp 1 "1" false, lamp 2 "2" false, lamp 3 "3" true]))).Nodup :=
  (sceneText_defines_symbols .default (by decide) (by decide)).1.2 (by decide)

/-- Static ones do not. -/
theorem static_lamps_collide :
    OneLine "L1" ∧ (∀ e ∈ [lamp 1 "1" true, lamp 2 "2" true], e.OneLine) ∧
      ¬(definedSymbols (sourceLines (sceneText .default "L1"
        [lamp 1 "1" true, lamp 2 "2" true]))).Nodup := by
  have hscene : OneLine "L1" := by decide
  have hentities : ∀ e ∈ [lamp 1 "1" true, lamp 2 "2" true], e.OneLine := by decide
  refine ⟨hscene, hentities, ?_⟩
  rw [definedSymbols_sceneText .default hscene hentities, nodup_labels_sceneLines]
  decide

end Cartridge.Export
