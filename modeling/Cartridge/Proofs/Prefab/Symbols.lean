import Cartridge.Proofs.Prefab.Lines

/-!
The symbols of a file of prefabs. The registry keeps the labels of dynamic
children apart, also across prefabs. A static child goes by its name and that of
its prefab alone, which is told neither to the registry nor to the static
children after it.
-/

namespace Cartridge

/-- The prefab without its static children. -/
def Prefab.dynamicPart (p : Prefab) : Prefab :=
  { p with children := p.children.filter fun e => !e.isStatic }

theorem Prefab.OneLine.dynamicPart {p : Prefab} (h : p.OneLine) : p.dynamicPart.OneLine where
  name := h.name
  children e he := h.children e (List.mem_filter.1 he).1

namespace Export

open Cartridge.Assembly

/-- The labels that the static children of prefabs are laid down under. -/
def staticLabels (prefabs : List Prefab) : List String :=
  prefabs.flatMap fun p => (p.children.filter Entity.isStatic).map (childLabel p.name)

/-! ### Requests for static and dynamic children -/

theorem requests_dynamicPart (prefabs : List Prefab) :
    (prefabs.map Prefab.dynamicPart).flatMap requests =
      (prefabs.flatMap requests).filter fun request => !request.2.isStatic := by
  rw [List.filter_flatMap, List.flatMap_map]
  refine List.flatMap_congr fun p _ => ?_
  rw [requests, requests, List.filter_map]
  rfl

theorem labels_static_requests (prefabs : List Prefab) :
    ((prefabs.flatMap requests).filter fun request => request.2.isStatic).map Prod.fst =
      staticLabels prefabs := by
  rw [List.filter_flatMap, List.map_flatMap, staticLabels]
  refine List.flatMap_congr fun p _ => ?_
  rw [requests, List.filter_map, List.map_map]
  rfl

section

variable {prefabs : List Prefab}

/-- Static children add their labels to the symbols of the file and change
nothing else about these. -/
theorem labels_prefabLines_perm (settings : Settings) (prefabs : List Prefab) :
    (labels (prefabLines settings prefabs)).Perm
      (labels (prefabLines settings (prefabs.map Prefab.dynamicPart)) ++ staticLabels prefabs) := by
  have hnames : (prefabs.map Prefab.dynamicPart).map Prefab.name = prefabs.map Prefab.name := by
    rw [List.map_map]
    rfl
  have hrecords : (((placedChildren prefabs).filter Placed.owned).map Placed.label).Perm
      (((placedChildren (prefabs.map Prefab.dynamicPart)).filter Placed.owned).map Placed.label ++
        staticLabels prefabs) := by
    rw [placedChildren, placedChildren, requests_dynamicPart, ← labels_static_requests]
    exact Registry.owned_labels_perm _
  rw [labels_prefabLines, labels_prefabLines, hnames]
  generalize (prefabs.map Prefab.name).map ("prefabdata_" ++ ·) = roots
  generalize (prefabs.map Prefab.name).map ("prefabspawntable_" ++ ·) = tables
  refine ((hrecords.append_left roots).append_right tables).trans ?_
  simp only [List.append_assoc]
  exact ((List.perm_append_comm).append_left _).append_left _

/-- Prefabs of different names define no symbol twice if all their children are
dynamic. -/
theorem nodup_labels_prefabLines (settings : Settings) (hnames : (prefabs.map Prefab.name).Nodup)
    (hdynamic : ∀ p ∈ prefabs, ∀ e ∈ p.children, e.isStatic = false) :
    (labels (prefabLines settings prefabs)).Nodup := by
  have hrecords := Registry.nodup_owned_labels_placed (isStatic_of_mem_flatMap_requests hdynamic)
  have hstart : ∀ start : String, ((prefabs.map Prefab.name).map (start ++ ·)).Nodup :=
    fun start => hnames.map fun a b h => by simpa using h
  rw [labels_prefabLines, List.nodup_append, List.nodup_append]
  refine ⟨⟨hstart _, hrecords, ?_⟩, hstart _, ?_⟩
  · rintro root hroot _ hrecord rfl
    obtain ⟨name, -, rfl⟩ := List.mem_map.1 hroot
    exact List.count_eq_zero.1 (count_records_of_starts (start_append _ name) (by decide)) hrecord
  · rintro symbol hsymbol _ htable rfl
    obtain ⟨name, -, rfl⟩ := List.mem_map.1 htable
    rcases List.mem_append.1 hsymbol with hroot | hrecord
    · exact List.count_eq_zero.1
        (count_map_append_of_starts _ (start_append _ name) (by decide)) hroot
    · exact List.count_eq_zero.1 (count_records_of_starts (start_append _ name) (by decide)) hrecord

theorem head?_of_mem_labels_prefabLines {settings : Settings} {symbol : String}
    (h : symbol ∈ labels (prefabLines settings prefabs)) : symbol.toList.head? ≠ some '\t' := by
  rw [labels_prefabLines] at h
  simp only [List.mem_append, List.mem_map, List.mem_filter] at h
  rcases h with (⟨name, -, rfl⟩ | ⟨c, ⟨hc, -⟩, rfl⟩) | ⟨name, -, rfl⟩
  · exact head?_of_starts (start_append _ name) (by decide)
  · exact head?_of_starts (start_label_of_mem_placedChildren hc) (by decide)
  · exact head?_of_starts (start_append _ name) (by decide)

/-- The symbols that the text of prefabs defines are those of its lines. -/
theorem definedSymbols_prefabsText (settings : Settings) (hprefabs : ∀ p ∈ prefabs, p.OneLine) :
    definedSymbols (sourceLines (prefabsText settings prefabs)) =
      labels (prefabLines settings prefabs) := by
  rw [prefabsText, sourceLines_render (oneLine_prefabLines settings hprefabs)]
  exact definedSymbols_text fun _ => head?_of_mem_labels_prefabLines

/-- The text of prefabs defines the symbols that it would define without the
static children, which are all different, and one for each static child. So it
defines no symbol twice exactly if the static children have labels of their own:
none is that of another static child or of the record of a dynamic one. -/
theorem prefabsText_defines_symbols (settings : Settings)
    (hnames : (prefabs.map Prefab.name).Nodup) (hprefabs : ∀ p ∈ prefabs, p.OneLine) :
    let symbols := definedSymbols (sourceLines (prefabsText settings prefabs))
    let dynamics :=
      definedSymbols (sourceLines (prefabsText settings (prefabs.map Prefab.dynamicPart)))
    let statics := staticLabels prefabs
    symbols.Perm (dynamics ++ statics) ∧ dynamics.Nodup ∧
      (symbols.Nodup ↔ statics.Nodup ∧ ∀ symbol ∈ statics, symbol ∉ dynamics) := by
  intro symbols dynamics statics
  have hparts : ∀ p ∈ prefabs.map Prefab.dynamicPart, p.OneLine :=
    List.forall_mem_map.2 fun p hp => (hprefabs p hp).dynamicPart
  have hsymbols : symbols = labels (prefabLines settings prefabs) :=
    definedSymbols_prefabsText settings hprefabs
  have hdynamics : dynamics = labels (prefabLines settings (prefabs.map Prefab.dynamicPart)) :=
    definedSymbols_prefabsText settings hparts
  have hperm : symbols.Perm (dynamics ++ statics) := by
    rw [hsymbols, hdynamics]
    exact labels_prefabLines_perm settings prefabs
  have hnodup : dynamics.Nodup := by
    rw [hdynamics]
    refine nodup_labels_prefabLines settings ?_ ?_
    · rwa [List.map_map]
    · refine List.forall_mem_map.2 fun p _ e he => ?_
      simpa using (List.mem_filter.1 he).2
  refine ⟨hperm, hnodup, ?_⟩
  rw [hperm.nodup_iff, List.nodup_append]
  constructor
  · rintro ⟨-, hstatics, hne⟩
    exact ⟨hstatics, fun symbol hstatic hdynamic => hne symbol hdynamic symbol hstatic rfl⟩
  · rintro ⟨hstatics, hnot⟩
    refine ⟨hnodup, hstatics, ?_⟩
    rintro symbol hdynamic _ hstatic rfl
    exact hnot symbol hstatic hdynamic

end

/-- A child of its name and speed. -/
def torch (name speed : String) (isStatic : Bool) : Entity :=
  ⟨"ETorch", 1, ⟨name, .zero, .zero, [⟨"Speed", .word, speed, []⟩]⟩, [], [], isStatic⟩

/-- Dynamic children get symbols of their own whatever they are called, and a
static child of another name stays out of their way. -/
theorem dynamic_torches_differ :
    (definedSymbols (sourceLines (prefabsText .default
      [⟨"A", 1, [torch "B_C" "1" false, torch "D" "2" true, torch "B_C" "3" false]⟩,
        ⟨"A_B", 2, [torch "C" "4" false]⟩]))).Nodup := by
  refine (prefabsText_defines_symbols .default (by decide) (by decide)).2.2.2 ⟨by decide, ?_⟩
  rw [definedSymbols_prefabsText .default (by decide)]
  decide +kernel

/-- Static children of one name do not. -/
theorem static_torches_collide :
    let prefabs : List Prefab := [⟨"Pair", 5, [torch "Left" "1" true, torch "Left" "2" true]⟩]
    (prefabs.map Prefab.name).Nodup ∧ (∀ p ∈ prefabs, p.OneLine) ∧
      ¬(definedSymbols (sourceLines (prefabsText .default prefabs))).Nodup := by
  intro prefabs
  have hprefabs : ∀ p ∈ prefabs, p.OneLine := by decide
  refine ⟨by decide, hprefabs, ?_⟩
  rw [definedSymbols_prefabsText .default hprefabs]
  decide +kernel

end Export

end Cartridge
