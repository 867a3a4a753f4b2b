import Cartridge.Export.Archetype
import Cartridge.Proofs.Layout.Record
import Cartridge.Proofs.Prefab.Lines

/-!
Alignment of whole sources. Scenes, files of prefabs and files of archetypes are put
together from pieces that start and end at even addresses. The names in them are laid
down as they are, so they must neither end a line nor open a quote.
-/

namespace Cartridge

/-- The names of an entity stand in operands without quotes. -/
structure Entity.Unquoted (e : Entity) : Prop where
  typeName : Text.Unquoted e.typeName
  name : Text.Unquoted e.spawn.name
  params : ∀ p ∈ e.spawn.params, p.Plain

instance (e : Entity) : Decidable e.Unquoted :=
  decidable_of_iff
    (Text.Unquoted e.typeName ∧ Text.Unquoted e.spawn.name ∧ ∀ p ∈ e.spawn.params, p.Plain)
    ⟨fun ⟨typeName, name, params⟩ => ⟨typeName, name, params⟩,
      fun ⟨typeName, name, params⟩ => ⟨typeName, name, params⟩⟩

/-- The entity that the record of an archetype describes. -/
def Archetype.owner (a : Archetype) : Entity :=
  ⟨a.typeName, 0, ⟨a.name, .zero, .zero, a.params⟩, a.components, [], false⟩

namespace Export

open Cartridge.Assembly
open Cartridge.Text (OneLine Unquoted unquoted_paddedHex)

/-! ### Labels and operands -/

theorem unquoted_countOperand (n : Nat) : Unquoted (countOperand n) := by
  intro h
  rw [countOperand, String.toList_ofList] at h
  exact absurd (Text.mem_digits_of_mem_decimal h) (by decide)

theorem unquoted_numbered {symbol : String} (h : Unquoted symbol) (n : Nat) :
    Unquoted (Registry.numbered symbol n) :=
  (h.append (by decide)).append (unquoted_countOperand n)

theorem unquoted_descriptor {e : Entity} (he : e.Unquoted) : Unquoted e.descriptor :=
  he.typeName.append (by decide)

theorem not_start_of_start {start start' symbol : String} (h : start'.toList <+: symbol.toList)
    (hstarts : ¬start.toList <+: start'.toList ∧ ¬start'.toList <+: start.toList) :
    ¬start.toList <+: symbol.toList := fun h' => ne_of_starts h' h hstarts rfl

section

variable {settings : Settings} {start : String}

/-- A symbol that starts unlike those of records. -/
theorem Sits.start_label {bytes : Nat} {start' symbol : String}
    (h : start'.toList <+: symbol.toList) (hhead : start'.toList.head?.any (· ≠ '\t') = true)
    (hstarts : ¬start.toList <+: start'.toList ∧ ¬start'.toList <+: start.toList) :
    Sits start bytes [.label symbol] :=
  .label (head?_of_starts h hhead) (not_start_of_start h hstarts)

theorem sits_recordLines {p : Placed} (hnames : settings.EvenNames)
    (hlabel : p.label.toList.head? ≠ some '\t') (he : p.entity.Unquoted) :
    Sits start settings.nameBytes (p.recordLines settings) := by
  rw [Placed.recordLines]
  split
  · exact sits_entityRecord hlabel hnames (fun _ => he.name) he.params
  · exact .nil

end

/-! ### Scenes -/

section

variable {settings : Settings} {scene : String} {entities : List Entity} {bytes : Nat}

theorem unquoted_label_of_mem_placeScene (hscene : Unquoted scene)
    (hentities : ∀ e ∈ entities, e.Unquoted) {p : Placed} (hp : p ∈ placeScene scene entities) :
    Unquoted p.label := by
  have hrecord : ∀ e ∈ entities, Unquoted (recordLabel scene e) := fun e he => by
    have hstart : Unquoted "SceneEntitySpawnData_" := by decide
    have hjoin : Unquoted "_" := by decide
    exact ((hstart.append hscene).append hjoin).append (hentities e he).name
  obtain ⟨e, he, hlabel | ⟨n, hlabel⟩⟩ := label_of_mem_placeScene hp
  · rw [hlabel]
    exact hrecord e he
  · rw [hlabel]
    exact unquoted_numbered (hrecord e he) n

theorem sits_sceneRow {p : Placed} (hlabel : Unquoted p.label) (he : p.entity.Unquoted) :
    Sits "SceneEntitySpawnData_" bytes (sceneRow p) := by
  refine .of_forall fun l hl => ?_
  simp only [sceneRow, List.mem_cons, List.not_mem_nil, or_false] at hl
  rcases hl with rfl | rfl | rfl | rfl
  · exact .data (by decide) (unquoted_descriptor he)
  · exact .data (by decide) hlabel
  · exact .data (by decide) (unquoted_paddedHex _ _)
  · exact .data (by decide) (unquoted_paddedHex _ _)

theorem sits_sceneHeader (hscene : Unquoted scene) (dynamicCount staticCount : Nat) :
    Sits "SceneEntitySpawnData_" bytes (sceneHeader scene dynamicCount staticCount) := by
  have hdynamic : Unquoted "SceneEntityData_" := by decide
  have hstatic : Unquoted "SceneStaticEntityData_" := by decide
  refine .of_forall fun l hl => ?_
  simp only [sceneHeader, List.mem_cons, List.not_mem_nil, or_false] at hl
  rcases hl with rfl | rfl | rfl | rfl | rfl
  · exact .start_label (start_append "SceneData_" scene) (by decide) (by decide)
  · exact .data (by decide) (unquoted_countOperand _)
  · exact .data (by decide) (hdynamic.append hscene)
  · exact .data (by decide) (unquoted_countOperand _)
  · exact .data (by decide) (hstatic.append hscene)

theorem sits_sceneLines (hnames : settings.EvenNames) (hscene : Unquoted scene)
    (hentities : ∀ e ∈ entities, e.Unquoted) :
    Sits "SceneEntitySpawnData_" settings.nameBytes (sceneLines settings scene entities) := by
  have hplaced : ∀ p ∈ placeScene scene entities, Unquoted p.label ∧ p.entity.Unquoted :=
    fun p hp => ⟨unquoted_label_of_mem_placeScene hscene hentities hp,
      hentities _ (entity_mem_of_mem_placeScene hp)⟩
  have hstatics : ∀ e ∈ statics entities, e.Unquoted := fun e he =>
    hentities e (List.mem_filter.1 he).1
  have hstaticLabel : ∀ e ∈ statics entities, Unquoted (staticLabel scene e) := fun e he => by
    have hstart : Unquoted "SceneStaticEntity_" := by decide
    have hjoin : Unquoted "_" := by decide
    exact ((hstart.append hscene).append hjoin).append (hstatics e he).name
  have hrecords : Sits "SceneEntitySpawnData_" settings.nameBytes
      ((placeScene scene entities).flatMap (Placed.recordLines settings)) :=
    .flatMap fun p hp =>
      sits_recordLines hnames (head?_label_of_mem_placeScene hp) (hplaced p hp).2
  have hblocks : Sits "SceneEntitySpawnData_" settings.nameBytes
      ((statics entities).flatMap fun e =>
        .label (staticLabel scene e) :: staticBlock settings e) := by
    refine .flatMap fun e he => ?_
    have hsymbol : Sits "SceneEntitySpawnData_" settings.nameBytes [.label (staticLabel scene e)] :=
      .start_label (start_staticLabel e) (by decide) (by decide)
    exact hsymbol.append (sits_staticBlock hnames (hstatics e he).typeName fun _ =>
      (hstatics e he).name)
  have hdynamicTable : Sits "SceneEntitySpawnData_" settings.nameBytes
      [.label ("SceneEntityData_" ++ scene)] :=
    .start_label (start_append _ scene) (by decide) (by decide)
  have hstaticTable : Sits "SceneEntitySpawnData_" settings.nameBytes
      [.blank, .label ("SceneStaticEntityData_" ++ scene)] :=
    Sits.blank.append (.start_label (start_append _ scene) (by decide) (by decide))
  have hrows : Sits "SceneEntitySpawnData_" settings.nameBytes
      ((placeScene scene entities).flatMap sceneRow) :=
    .flatMap fun p hp => sits_sceneRow (hplaced p hp).1 (hplaced p hp).2
  have hstaticRows : Sits "SceneEntitySpawnData_" settings.nameBytes
      ((statics entities).map fun e => .data .long (staticLabel scene e) "Static entity") :=
    .map fun e he => .data (by decide) (hstaticLabel e he)
  exact (((((((hrecords.append .blank).append hblocks).append hdynamicTable).append hrows).append
    hstaticTable).append hstaticRows).append .blank).append (sits_sceneHeader hscene _ _)

end

/-! ### Prefabs -/

section

variable {settings : Settings} {prefabs : List Prefab} {bytes : Nat}

theorem unquoted_label_of_mem_placedChildren
    (hprefabs : ∀ p ∈ prefabs, Unquoted p.name ∧ ∀ e ∈ p.children, e.Unquoted) {c : Placed}
    (hc : c ∈ placedChildren prefabs) : Unquoted c.label := by
  obtain ⟨p, hp, e, he, hlabel⟩ := label_of_mem_placedChildren hc
  have hstart : Unquoted "prefabchildspawndata_" := by decide
  have hjoin : Unquoted "_" := by decide
  have hasked : Unquoted (childLabel p.name e) :=
    ((hstart.append (hprefabs p hp).1).append hjoin).append ((hprefabs p hp).2 e he).name
  rcases hlabel with hlabel | ⟨n, hlabel⟩
  · rwa [hlabel]
  · rw [hlabel]
    exact unquoted_numbered hasked n

theorem sits_prefabRoot {p : Prefab} (hp : Unquoted p.name) :
    Sits "prefabchildspawndata_" bytes (prefabRoot p) := by
  have htable : Unquoted "prefabspawntable_" := by decide
  refine .of_forall fun l hl => ?_
  simp only [prefabRoot, List.mem_cons, List.not_mem_nil, or_false] at hl
  rcases hl with rfl | rfl | rfl | rfl | rfl
  · exact .start_label (start_append "prefabdata_" p.name) (by decide) (by decide)
  · exact .data (by decide) (unquoted_paddedHex _ _)
  · exact .data (by decide) (unquoted_paddedHex _ _)
  · exact .data (by decide) (htable.append hp)
  · exact .blank

theorem sits_childRow {c : Placed} (hlabel : Unquoted c.label) (he : c.entity.Unquoted) :
    Sits "prefabchildspawndata_" bytes (childRow c) := by
  refine .of_forall fun l hl => ?_
  simp only [childRow, List.mem_cons, List.not_mem_nil, or_false] at hl
  rcases hl with rfl | rfl | rfl | rfl | rfl | rfl | rfl
  · exact .data (by decide) (unquoted_descriptor he)
  · exact .data (by decide) hlabel
  · exact .data (by decide) (unquoted_paddedHex _ _)
  · exact .data (by decide) (unquoted_paddedHex _ _)
  · exact .data (by decide) (unquoted_paddedHex _ _)
  · exact .data (by decide) (unquoted_paddedHex _ _)
  · exact .blank

theorem sits_prefabLines (hnames : settings.EvenNames)
    (hprefabs : ∀ p ∈ prefabs, Unquoted p.name ∧ ∀ e ∈ p.children, e.Unquoted) :
    Sits "prefabchildspawndata_" settings.nameBytes (prefabLines settings prefabs) := by
  have hplaced : ∀ c ∈ placedChildren prefabs, Unquoted c.label ∧ c.entity.Unquoted := by
    intro c hc
    obtain ⟨p, hp, he⟩ := entity_mem_of_mem_placedChildren hc
    exact ⟨unquoted_label_of_mem_placedChildren hprefabs hc, (hprefabs p hp).2 _ he⟩
  have hroots : Sits "prefabchildspawndata_" settings.nameBytes (prefabs.flatMap prefabRoot) :=
    .flatMap fun p hp => sits_prefabRoot (hprefabs p hp).1
  have hrecords : Sits "prefabchildspawndata_" settings.nameBytes
      ((placedChildren prefabs).flatMap (Placed.recordLines settings)) :=
    .flatMap fun c hc => sits_recordLines hnames
      (head?_of_starts (start_label_of_mem_placedChildren hc) (by decide)) (hplaced c hc).2
  have htables : Sits "prefabchildspawndata_" settings.nameBytes (tableLines prefabs) := by
    refine .flatMap fun placed hplacing => ?_
    have hrows : Sits "prefabchildspawndata_" settings.nameBytes (placed.2.flatMap childRow) := by
      refine .flatMap fun c hc => ?_
      have hchild : c ∈ placedChildren prefabs := by
        rw [← flatMap_placePrefabs_empty]
        exact List.mem_flatMap.2 ⟨placed, hplacing, hc⟩
      exact sits_childRow (hplaced c hchild).1 (hplaced c hchild).2
    have hsymbol : Sits "prefabchildspawndata_" settings.nameBytes
        [.label (tableLabel placed.1.name)] :=
      .start_label (start_append "prefabspawntable_" _) (by decide) (by decide)
    exact (hsymbol.append hrows).append .blank
  rw [prefabLines_eq]
  exact ((hroots.append .blank).append hrecords).append (Sits.blank.append htables)

end

/-! ### Archetypes -/

section

variable {settings : Settings} {archetypes : List Archetype}

theorem archetypeRecord_eq (settings : Settings) (a : Archetype) :
    archetypeRecord settings a = .label a.label :: entityRecord settings a.owner := rfl

theorem oneLine_archetypeLines (h : ∀ a ∈ archetypes, a.owner.OneLine) :
    ∀ l ∈ archetypeLines settings archetypes, OneLine l.text := by
  intro l hl
  obtain ⟨a, ha, hl⟩ := List.mem_flatMap.1 hl
  rw [archetypeRecord_eq] at hl
  rcases List.mem_cons.1 hl with rfl | hl
  · have hstart : OneLine "Archetype_" := by decide
    have hjoin : OneLine "_" := by decide
    exact oneLine_label (((hstart.append (h a ha).typeName).append hjoin).append (h a ha).name)
  · exact oneLine_entityRecord settings (h a ha) l hl

theorem sits_archetypeLines (hnames : settings.EvenNames)
    (h : ∀ a ∈ archetypes, (settings.debugNames = true → Unquoted a.name) ∧
      ∀ p ∈ a.params, p.Plain) :
    Sits "Archetype_" settings.nameBytes (archetypeLines settings archetypes) := by
  refine .flatMap fun a ha => ?_
  have hstart : "Archetype_".toList <+: a.label.toList :=
    ((start_append _ a.typeName).trans (start_append _ "_")).trans (start_append _ a.name)
  rw [archetypeRecord_eq]
  exact sits_entityRecord (head?_of_starts hstart (by decide)) hnames (h a ha).1 (h a ha).2

end

/-! ### Texts -/

/-- What is exported is aligned, from any even address on: scenes, prefabs and
archetypes, with or without debug names, whatever bytes, words and longs their
parameters mix. -/
theorem exported_sources_aligned {settings : Settings} (hnames : settings.EvenNames)
    {address : Nat} (haddress : address % 2 = 0) :
    (∀ scene entities, OneLine scene → Unquoted scene →
      (∀ e ∈ entities, e.OneLine ∧ e.Unquoted) →
      Aligned "SceneEntitySpawnData_" settings.nameBytes
        (addressesFrom address (sourceLines (sceneText settings scene entities)))) ∧
    (∀ prefabs : List Prefab,
      (∀ p ∈ prefabs, p.OneLine ∧ Unquoted p.name ∧ ∀ e ∈ p.children, e.Unquoted) →
      Aligned "prefabchildspawndata_" settings.nameBytes
        (addressesFrom address (sourceLines (prefabsText settings prefabs)))) ∧
    ∀ archetypes : List Archetype,
      (∀ a ∈ archetypes, a.owner.OneLine ∧ (settings.debugNames = true → Unquoted a.name) ∧
        ∀ p ∈ a.params, p.Plain) →
      Aligned "Archetype_" settings.nameBytes
        (addressesFrom address (sourceLines (archetypesText settings archetypes))) := by
  refine ⟨fun scene entities hline hscene hentities => ?_, fun prefabs hprefabs => ?_,
    fun archetypes harchetypes => ?_⟩
  · rw [sceneText, sourceLines_render
      (oneLine_sceneLines settings hline fun e he => (hentities e he).1)]
    exact (sits_sceneLines hnames hscene (fun e he => (hentities e he).2) address haddress).1
  · rw [prefabsText, sourceLines_render
      (oneLine_prefabLines settings fun p hp => (hprefabs p hp).1)]
    exact (sits_prefabLines hnames (fun p hp => (hprefabs p hp).2) address haddress).1
  · rw [archetypesText, sourceLines_render
      (oneLine_archetypeLines fun a ha => (harchetypes a ha).1)]
    exact (sits_archetypeLines hnames (fun a ha => (harchetypes a ha).2) address haddress).1

/-! A bat of every width, and names and values that are laid down as they are. -/

def mixedBat : Entity :=
  ⟨"EBat", 5, ⟨"Bat", .zero, .zero, [⟨"Lives", .byte, "3", []⟩, ⟨"Speed", .word, "12", []⟩,
    ⟨"Rank", .byte, "1", []⟩, ⟨"Nest", .long, "Cave", []⟩, ⟨"Cry", .byte, "\"eek\",0", []⟩]⟩,
    [⟨"ECSprite", ⟨"ECSprite", .zero, .zero, [⟨"Frame", .byte, "0", []⟩]⟩, []⟩,
      ⟨"ECFlight", ⟨"ECFlight", .zero, .zero, [⟨"Height", .long, "100", []⟩]⟩, []⟩], [], false⟩

def mixedArchetype : Archetype :=
  ⟨"Fast", "EBat", mixedBat.spawn.params, mixedBat.components⟩

theorem mixed_bats_aligned :
    Aligned "SceneEntitySpawnData_" 16 (addressesFrom 0x200 (sourceLines (sceneText .default "L1"
        [mixedBat, { mixedBat with isStatic := true }]))) ∧
      Aligned "prefabchildspawndata_" 16 (addressesFrom 0x200 (sourceLines (prefabsText .default
        [⟨"Swarm", 1, [mixedBat, mixedBat]⟩]))) ∧
      Aligned "Archetype_" 16 (addressesFrom 0x200 (sourceLines (archetypesText .default
        [mixedArchetype, mixedArchetype]))) := by
  have hnames : Settings.EvenNames .default := by decide
  have haddress : 0x200 % 2 = 0 := rfl
  obtain ⟨hscenes, hprefabs, harchetypes⟩ := exported_sources_aligned hnames haddress
  exact ⟨hscenes _ _ (by decide) (by decide) (by decide), hprefabs _ (by decide),
    harchetypes _ (by decide)⟩

def bareSettings : Settings :=
  ⟨.zero, 16, false⟩

def archetypeWith (param : Param) : Archetype :=
  ⟨"Fast", "EBat", [param], []⟩

def slowArchetype : Archetype :=
  ⟨"Slow", "EBat", [], []⟩

/-- A name that ends its line lays down bytes of its own; so does one that opens quotes,
and so does a quoted value of a word. -/
theorem verbatim_names_misalign :
    ¬Aligned "Archetype_" 0 (addressesFrom 0 (sourceLines (archetypesText bareSettings
        [archetypeWith ⟨"Speed\n\tdc.b 1", .word, "1", []⟩, slowArchetype]))) ∧
      ¬Aligned "SceneEntitySpawnData_" 0 (addressesFrom 0 (sourceLines (sceneText bareSettings "L1"
        [⟨"A,\"b\",C", 5, .named "Bat", [], [], false⟩]))) ∧
      ¬Aligned "Archetype_" 0 (addressesFrom 0 (sourceLines (archetypesText bareSettings
        [archetypeWith ⟨"Speed", .word, "\"abc\"", []⟩, slowArchetype]))) := by
  have hscene : sourceLines (sceneText bareSettings "L1"
      [⟨"A,\"b\",C", 5, .named "Bat", [], [], false⟩]) =
        (sceneLines bareSettings "L1" [⟨"A,\"b\",C", 5, .named "Bat", [], [], false⟩]).map
          Line.text :=
    sourceLines_render (oneLine_sceneLines _ (by decide) (by decide))
  rw [hscene]
  refine ⟨fun h => ?_, fun h => ?_, fun h => ?_⟩
  · exact absurd (h.symbols (5, "Archetype_EBat_Slow:") (by decide +kernel) (by decide +kernel))
      (by decide)
  · exact absurd (h.symbols (19, "SceneStaticEntityData_L1:") (by decide +kernel)
      (by decide +kernel)) (by decide)
  · exact absurd (h.symbols (5, "Archetype_EBat_Slow:") (by decide +kernel) (by decide +kernel))
      (by decide)

end Export

end Cartridge
