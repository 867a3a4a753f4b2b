import Cartridge.Export.Prefab
import Cartridge.Proofs.Scene.Lines

/-!
The lines of a file of prefabs. All children are placed by one registry, in the
order of the prefabs, so a record is found for each of them under a symbol that
is defined once, however the names of prefabs and children run together.
-/

namespace Cartridge

open Cartridge.Text (OneLine)

/-- The names and values of a prefab that reach its source stay on one line. -/
structure Prefab.OneLine (p : Prefab) : Prop where
  name : Text.OneLine p.name
  children : ∀ e ∈ p.children, e.OneLine

instance (p : Prefab) : Decidable p.OneLine :=
  decidable_of_iff (Text.OneLine p.name ∧ ∀ e ∈ p.children, e.OneLine)
    ⟨fun ⟨name, children⟩ => ⟨name, children⟩, fun ⟨name, children⟩ => ⟨name, children⟩⟩

namespace Export

open Cartridge.Assembly

/-! ### Placed children -/

/-- What is asked of the registry for a prefab. -/
def requests (p : Prefab) : List (String × Entity) :=
  p.children.map fun e => (childLabel p.name e, e)

/-- The children of prefabs, placed. -/
def placedChildren (prefabs : List Prefab) : List Placed :=
  Registry.placed (prefabs.flatMap requests)

theorem fst_placePrefabs (r : Registry) (prefabs : List Prefab) :
    (placePrefabs r prefabs).map Prod.fst = prefabs := by
  induction prefabs generalizing r with
  | nil => rfl
  | cons p rest ih => rw [placePrefabs, List.map_cons, ih]

/-- Every prefab comes with its own children, in order. -/
theorem entities_of_mem_placePrefabs {r : Registry} {prefabs : List Prefab}
    {placed : Prefab × List Placed} (h : placed ∈ placePrefabs r prefabs) :
    placed.2.map Placed.entity = placed.1.children := by
  induction prefabs generalizing r with
  | nil => cases h
  | cons p rest ih =>
      rw [placePrefabs] at h
      rcases List.mem_cons.1 h with rfl | h
      · exact Registry.entities_placeAll r
      · exact ih h

/-- Placing prefab by prefab is registering all children in one run. -/
theorem flatMap_placePrefabs (r : Registry) (prefabs : List Prefab) :
    (placePrefabs r prefabs).flatMap Prod.snd =
      (r.serve (prefabs.flatMap requests)).1.map Call.placed := by
  induction prefabs generalizing r with
  | nil => rfl
  | cons p rest ih =>
      rw [placePrefabs, List.flatMap_cons, List.flatMap_cons, Registry.serve_append,
        List.map_append]
      simp only [Registry.placeAll_eq_serve, ih]
      rfl

theorem flatMap_placePrefabs_empty (prefabs : List Prefab) :
    (placePrefabs .empty prefabs).flatMap Prod.snd = placedChildren prefabs :=
  flatMap_placePrefabs .empty prefabs

section

variable {prefabs : List Prefab}

theorem entity_mem_of_mem_placedChildren {c : Placed} (hc : c ∈ placedChildren prefabs) :
    ∃ p ∈ prefabs, c.entity ∈ p.children := by
  rw [← flatMap_placePrefabs_empty] at hc
  obtain ⟨placed, hplaced, hc⟩ := List.mem_flatMap.1 hc
  refine ⟨placed.1, ?_, ?_⟩
  · rw [← fst_placePrefabs .empty prefabs]
    exact List.mem_map_of_mem hplaced
  · rw [← entities_of_mem_placePrefabs hplaced]
    exact List.mem_map_of_mem hc

theorem isStatic_of_mem_flatMap_requests
    (hdynamic : ∀ p ∈ prefabs, ∀ e ∈ p.children, e.isStatic = false) :
    ∀ request ∈ prefabs.flatMap requests, request.2.isStatic = false := by
  intro request hrequest
  obtain ⟨p, hp, hrequest⟩ := List.mem_flatMap.1 hrequest
  obtain ⟨e, he, rfl⟩ := List.mem_map.1 hrequest
  exact hdynamic p hp e he

/-- The label of a placed child starts like those of all records. -/
theorem label_of_mem_placedChildren {c : Placed} (hc : c ∈ placedChildren prefabs) :
    ∃ p ∈ prefabs, ∃ e ∈ p.children, c.label = childLabel p.name e ∨
      ∃ n, c.label = Registry.numbered (childLabel p.name e) n := by
  obtain ⟨request, hrequest, hlabel⟩ := Registry.label_of_mem_placed hc
  obtain ⟨p, hp, hrequest⟩ := List.mem_flatMap.1 hrequest
  obtain ⟨e, he, rfl⟩ := List.mem_map.1 hrequest
  exact ⟨p, hp, e, he, hlabel⟩

/-! ### Lines -/

/-- The tables of prefabs. -/
def tableLines (prefabs : List Prefab) : List Line :=
  (placePrefabs .empty prefabs).flatMap fun placed => prefabTable placed.1.name placed.2

theorem prefabLines_eq (settings : Settings) (prefabs : List Prefab) :
    prefabLines settings prefabs =
      (prefabs.flatMap prefabRoot ++ [Line.blank]) ++
        (placedChildren prefabs).flatMap (Placed.recordLines settings) ++
          ([Line.blank] ++ tableLines prefabs) := by
  have hrecords : (placedChildren prefabs).flatMap (Placed.recordLines settings) =
      (placePrefabs .empty prefabs).flatMap
        fun placed => placed.2.flatMap (Placed.recordLines settings) := by
    rw [← flatMap_placePrefabs_empty, List.flatMap_assoc]
  rw [hrecords, prefabLines, tableLines]
  simp only [List.append_assoc]

theorem oneLine_childLabel {p : Prefab} {e : Entity} (hp : OneLine p.name) (he : e.OneLine) :
    OneLine (childLabel p.name e) := by
  have hstart : OneLine "prefabchildspawndata_" := by decide
  have hjoin : OneLine "_" := by decide
  exact ((hstart.append hp).append hjoin).append he.name

theorem oneLine_placedChild (hprefabs : ∀ p ∈ prefabs, p.OneLine) {c : Placed}
    (hc : c ∈ placedChildren prefabs) : OneLine c.label ∧ c.entity.OneLine := by
  constructor
  · obtain ⟨p, hp, e, he, hlabel⟩ := label_of_mem_placedChildren hc
    have hasked := oneLine_childLabel (hprefabs p hp).name ((hprefabs p hp).children e he)
    rcases hlabel with hlabel | ⟨n, hlabel⟩
    · rwa [hlabel]
    · have hjoin : OneLine "_" := by decide
      rw [hlabel]
      exact (hasked.append hjoin).append (oneLine_countOperand n)
  · obtain ⟨p, hp, he⟩ := entity_mem_of_mem_placedChildren hc
    exact (hprefabs p hp).children c.entity he

theorem oneLine_prefabRoot {p : Prefab} (hp : OneLine p.name) :
    ∀ l ∈ prefabRoot p, OneLine l.text := by
  have hroot : OneLine "prefabdata_" := by decide
  have htable : OneLine "prefabspawntable_" := by decide
  intro l hl
  simp only [prefabRoot, List.mem_cons, List.not_mem_nil, or_false] at hl
  rcases hl with rfl | rfl | rfl | rfl | rfl
  · exact oneLine_label (hroot.append hp)
  · exact oneLine_data (Text.oneLine_paddedHex _ _) (by decide)
  · exact oneLine_data (Text.oneLine_paddedHex _ _) (by decide)
  · exact oneLine_data (htable.append hp) (by decide)
  · decide

theorem oneLine_childRow {c : Placed} (hlabel : OneLine c.label) (he : c.entity.OneLine) :
    ∀ l ∈ childRow c, OneLine l.text := by
  have hdescriptor := oneLine_descriptor he
  intro l hl
  simp only [childRow, List.mem_cons, List.not_mem_nil, or_false] at hl
  rcases hl with rfl | rfl | rfl | rfl | rfl | rfl | rfl
  · exact oneLine_data hdescriptor (by decide)
  · exact oneLine_data hlabel (by decide)
  · exact oneLine_data (Text.oneLine_paddedHex _ _) (by decide)
  · exact oneLine_data (Text.oneLine_paddedHex _ _) (by decide)
  · exact oneLine_data (Text.oneLine_paddedHex _ _) (by decide)
  · exact oneLine_data (Text.oneLine_paddedHex _ _) (by decide)
  · decide

/-- Names and values on one line leave every line of the file whole. -/
theorem oneLine_prefabLines (settings : Settings) (hprefabs : ∀ p ∈ prefabs, p.OneLine) :
    ∀ l ∈ prefabLines settings prefabs, OneLine l.text := by
  have hplaced : ∀ c ∈ placedChildren prefabs, OneLine c.label ∧ c.entity.OneLine :=
    fun c hc => oneLine_placedChild hprefabs hc
  have htable : OneLine "prefabspawntable_" := by decide
  intro l hl
  simp only [prefabLines_eq, tableLines, prefabTable, List.mem_append, List.mem_flatMap,
    List.mem_cons, List.not_mem_nil, or_false] at hl
  rcases hl with ((⟨p, hp, hl⟩ | rfl) | ⟨c, hc, hl⟩) | rfl | ⟨placed, hplacing, hl⟩
  · exact oneLine_prefabRoot (hprefabs p hp).name l hl
  · decide
  · exact oneLine_recordLines settings (hplaced c hc).1 (hplaced c hc).2 l hl
  · decide
  · have hprefab : placed.1 ∈ prefabs := by
      rw [← fst_placePrefabs .empty prefabs]
      exact List.mem_map_of_mem hplacing
    rcases hl with (rfl | ⟨c, hc, hl⟩) | rfl
    · exact oneLine_label (htable.append (hprefabs _ hprefab).name)
    · have hchild : c ∈ placedChildren prefabs := by
        rw [← flatMap_placePrefabs_empty]
        exact List.mem_flatMap.2 ⟨placed, hplacing, hc⟩
      exact oneLine_childRow (hplaced c hchild).1 (hplaced c hchild).2 l hl
    · decide

/-! ### Symbols -/

/-- A file of prefabs defines their root records, the records that are laid down
and the tables. -/
theorem labels_prefabLines (settings : Settings) (prefabs : List Prefab) :
    labels (prefabLines settings prefabs) =
      (prefabs.map Prefab.name).map ("prefabdata_" ++ ·) ++
        ((placedChildren prefabs).filter Placed.owned).map Placed.label ++
          (prefabs.map Prefab.name).map ("prefabspawntable_" ++ ·) := by
  have hroots : labels (prefabs.flatMap prefabRoot) =
      (prefabs.map Prefab.name).map ("prefabdata_" ++ ·) := by
    rw [List.map_map]
    exact labels_flatMap_eq_map (fun p => rfl) prefabs
  have hrows : ∀ children : List Placed, labels (children.flatMap childRow) = [] := by
    simp [labels_flatMap, childRow, Line.label?]
  have htables : labels (tableLines prefabs) =
      (prefabs.map Prefab.name).map ("prefabspawntable_" ++ ·) := by
    conv_rhs => rw [← fst_placePrefabs .empty prefabs, List.map_map, List.map_map]
    refine labels_flatMap_eq_map (fun placed => ?_) (placePrefabs .empty prefabs)
    simp only [prefabTable, labels_append, labels_cons, hrows]
    rfl
  rw [prefabLines_eq]
  simp only [labels_append, labels_recordLines, hroots, htables]
  simp [Line.label?]

theorem start_childLabel (name : String) (e : Entity) :
    "prefabchildspawndata_".toList <+: (childLabel name e).toList :=
  ((start_append _ name).trans (start_append _ "_")).trans (start_append _ e.spawn.name)

theorem start_label_of_mem_placedChildren {c : Placed} (hc : c ∈ placedChildren prefabs) :
    "prefabchildspawndata_".toList <+: c.label.toList := by
  obtain ⟨p, -, e, -, hlabel | ⟨n, hlabel⟩⟩ := label_of_mem_placedChildren hc
  · rw [hlabel]
    exact start_childLabel p.name e
  · rw [hlabel]
    exact ((start_childLabel p.name e).trans (start_append _ "_")).trans (start_append _ _)

theorem count_map_append_of_starts {start start' symbol : String} (names : List String)
    (hsymbol : start'.toList <+: symbol.toList)
    (hstarts : ¬start.toList <+: start'.toList ∧ ¬start'.toList <+: start.toList) :
    (names.map (start ++ ·)).count symbol = 0 := by
  refine List.count_eq_zero.2 fun hmem => ?_
  obtain ⟨name, -, hname⟩ := List.mem_map.1 hmem
  exact ne_of_starts (start_append start name) hsymbol hstarts hname

theorem count_map_append {start name : String} {names : List String} (hnames : names.Nodup)
    (hname : name ∈ names) : (names.map (start ++ ·)).count (start ++ name) = 1 := by
  have hinj : Function.Injective (start ++ ·) := by
    intro a b h
    simpa using h
  rw [List.count_map_of_injective names _ hinj, List.count_eq_one_of_mem hnames hname]

theorem count_records_of_starts {start symbol : String} (hsymbol : start.toList <+: symbol.toList)
    (hstarts : ¬"prefabchildspawndata_".toList <+: start.toList ∧
      ¬start.toList <+: "prefabchildspawndata_".toList) :
    (((placedChildren prefabs).filter Placed.owned).map Placed.label).count symbol = 0 := by
  refine List.count_eq_zero.2 fun hmem => ?_
  obtain ⟨c, hc, hlabel⟩ := List.mem_map.1 hmem
  exact ne_of_starts (start_label_of_mem_placedChildren (List.mem_filter.1 hc).1) hsymbol hstarts
    hlabel

/-- Wherever a child is placed, the symbol there is defined once. -/
theorem count_label_of_mem_placedChildren (settings : Settings)
    (hdynamic : ∀ p ∈ prefabs, ∀ e ∈ p.children, e.isStatic = false) {c : Placed}
    (hc : c ∈ placedChildren prefabs) :
    (labels (prefabLines settings prefabs)).count c.label = 1 := by
  have hstart := start_label_of_mem_placedChildren hc
  have hrequests := isStatic_of_mem_flatMap_requests hdynamic
  have hrecords : (((placedChildren prefabs).filter Placed.owned).map Placed.label).count
      c.label = 1 :=
    List.count_eq_one_of_mem (Registry.nodup_owned_labels_placed hrequests)
      (Registry.owned_label_mem_of_mem_placed hrequests hc)
  rw [labels_prefabLines, List.count_append, List.count_append, hrecords,
    count_map_append_of_starts _ hstart (by decide),
    count_map_append_of_starts _ hstart (by decide)]

section

variable (settings : Settings) (hnames : (prefabs.map Prefab.name).Nodup) {p : Prefab}
  (hp : p ∈ prefabs)

include hnames hp

theorem count_rootLabel : (labels (prefabLines settings prefabs)).count (rootLabel p.name) = 1 := by
  have hstart : "prefabdata_".toList <+: (rootLabel p.name).toList := start_append _ _
  have hroot : ((prefabs.map Prefab.name).map ("prefabdata_" ++ ·)).count (rootLabel p.name) = 1 :=
    count_map_append hnames (List.mem_map_of_mem hp)
  rw [labels_prefabLines, List.count_append, List.count_append, hroot,
    count_records_of_starts hstart (by decide),
    count_map_append_of_starts _ hstart (by decide)]

theorem count_tableLabel :
    (labels (prefabLines settings prefabs)).count (tableLabel p.name) = 1 := by
  have hstart : "prefabspawntable_".toList <+: (tableLabel p.name).toList := start_append _ _
  have htable : ((prefabs.map Prefab.name).map ("prefabspawntable_" ++ ·)).count
      (tableLabel p.name) = 1 :=
    count_map_append hnames (List.mem_map_of_mem hp)
  rw [labels_prefabLines, List.count_append, List.count_append, htable,
    count_records_of_starts hstart (by decide),
    count_map_append_of_starts _ hstart (by decide)]

end

end

end Export

end Cartridge
