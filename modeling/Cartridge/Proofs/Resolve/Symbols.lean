import Cartridge.Export.Archetype
import Cartridge.Export.Build
import Cartridge.Export.Prefab

/-!
References and what they refer to. A parameter refers to an archetype or to a prefab by the
symbol that it is exported under. To the descriptor of a type parameters refer in one
spelling, and rows and blocks in another, which is the same name but for a letter's case:
`symbols_of_references`.
-/

namespace Cartridge.Export

open Cartridge.Assembly

/-- One of the lines that the source is made of defines the symbol. -/
def Defines (source symbol : String) : Prop :=
  ∃ before after, source = render (before ++ .label symbol :: after)

theorem defines_of_mem {lines : List Line} {symbol : String} (h : Line.label symbol ∈ lines) :
    Defines (render lines) symbol := by
  obtain ⟨before, after, rfl⟩ := List.append_of_mem h
  exact ⟨before, after, rfl⟩

/-! ### Descriptors -/

/-- The operand of a line that is remarked as the descriptor of an entity. -/
def descriptorOf? : Line → Option String
  | .data _ operand remark =>
    if remark ∈ ["Entity descriptor", "Entity_TypeDesc"] then some operand else none
  | _ => none

/-- The symbol that lines give as the descriptor of an entity. -/
def descriptorIn? (lines : List Line) : Option String :=
  lines.findSome? descriptorOf?

@[simp] theorem descriptorIn?_sceneRow (p : Placed) :
    descriptorIn? (sceneRow p) = some p.entity.descriptor := rfl

@[simp] theorem descriptorIn?_childRow (p : Placed) :
    descriptorIn? (childRow p) = some p.entity.descriptor := rfl

@[simp] theorem descriptorIn?_staticBlock (settings : Settings) (e : Entity) :
    descriptorIn? (staticBlock settings e) = some e.descriptor := by
  have hnames : descriptorIn? (debugNameLines settings e.spawn.name "EntityBlock_DebugName") =
      none := by
    rw [debugNameLines]
    split <;> rfl
  rw [descriptorIn?] at hnames
  simp only [descriptorIn?, staticBlock, List.append_assoc, List.findSome?_append, hnames,
    Option.none_or]
  rfl

/-- The two spellings of descriptors are of one name, and still differ. -/
theorem descriptor_spellings (typeName : String) :
    Text.sameName (typeName ++ "_TypeDesc") (typeName ++ "_Typedesc") = true ∧
      typeName ++ "_TypeDesc" ≠ typeName ++ "_Typedesc" := by
  have hfold : "_TypeDesc".toList.map Char.toLower = "_Typedesc".toList.map Char.toLower := by
    decide
  constructor
  · rw [Text.sameName_iff, Text.foldCase, Text.foldCase, String.toList_append,
      String.toList_append, List.map_append, List.map_append, hfold]
  · simp

/-! ### Archetypes and prefabs -/

namespace Context

variable {c : Context} {decl : Variable}

theorem resolve_of_entityDesc (h : decidingRole? decl.tags = some .entityDesc) :
    (c.resolve decl).value = c.valueOf decl ++ "_TypeDesc" := by
  simp only [resolve, resolvedValue, h]

theorem resolve_of_prefabData (h : decidingRole? decl.tags = some .prefabData) :
    (c.resolve decl).value = rootLabel c.type.prefabLabel := by
  simp only [resolve, resolvedValue, h]
  rfl

theorem resolve_of_entityArchetype (h : decidingRole? decl.tags = some .entityArchetype) :
    (c.resolve decl).value = c.archetypeReference decl := by
  simp only [resolve, resolvedValue, h]

/-- If no level describes the entity, an archetype is looked up for the type itself. -/
theorem archetypeReference_of_undescribed
    (h : ∀ level ∈ c.overrides, level.vars.tagged? .entityDesc decl.slot = none) :
    c.archetypeReference decl =
      if c.valueOf decl = "" ∨ c.valueOf decl = "0" then "0"
      else archetypeSymbol c.type.name (c.valueOf decl) := by
  have harchetype : (c.archetype.bind fun a => a.vars.tagged? .entityDesc decl.slot) = none := by
    refine Option.bind_eq_none_iff.2 fun a ha => h a.level ?_
    simp [overrides, ha]
  have hplacement : (c.placement.bind fun i => i.vars.tagged? .entityDesc decl.slot) = none := by
    refine Option.bind_eq_none_iff.2 fun i hi => h i.level ?_
    simp [overrides, hi]
  simp only [archetypeReference, harchetype, hplacement, Option.or_none, Option.map_none,
    Option.getD_none, Bool.or_eq_true, String.isEmpty_iff, beq_iff_eq]

end Context

namespace Builder

variable {b : Builder}

/-- An archetype of a known type is built, and exported under its label. -/
theorem archetype_defined {a : ArchetypeDef} {type : EntityType} (ha : a ∈ b.project.archetypes)
    (htype : b.project.typeWithId? a.typeId = some type) :
    ∃ built ∈ b.archetypes.value, b.archetype a = .ok built ∧
      built.label = archetypeSymbol type.name a.name ∧
      Defines (archetypesText b.settings b.archetypes.value) built.label := by
  obtain ⟨built, hbuilt, hlabel⟩ : ∃ built, b.archetype a = .ok built ∧
      built.label = archetypeSymbol type.name a.name := by
    rw [archetype, htype]
    exact ⟨_, rfl, rfl⟩
  have hmem : built ∈ b.archetypes.value := by
    rw [archetypes, Logged.value_bind, Logged.value_pure]
    refine List.mem_filterMap.2 ⟨some built, List.mem_map.2 ⟨a, ha, ?_⟩, rfl⟩
    simp only [hbuilt]
  refine ⟨built, hmem, hbuilt, hlabel, defines_of_mem ?_⟩
  exact List.mem_flatMap.2 ⟨built, hmem, List.mem_cons_self⟩

/-- The prefab of a type is exported under its label. -/
theorem prefab_defined {type : EntityType} (htype : type ∈ b.project.prefabTypes) :
    (b.prefabOf type).value ∈ b.prefabs.value ∧
      Defines (prefabsText b.settings b.prefabs.value) (rootLabel type.prefabLabel) := by
  have hmem : (b.prefabOf type).value ∈ b.prefabs.value := List.mem_map_of_mem htype
  refine ⟨hmem, defines_of_mem ?_⟩
  have hroot : Line.label (rootLabel type.prefabLabel) ∈ b.prefabs.value.flatMap prefabRoot :=
    List.mem_flatMap.2 ⟨_, hmem, List.mem_cons_self⟩
  simp only [prefabLines, List.append_assoc]
  exact List.mem_append_left _ hroot

end Builder

/-- What a parameter refers to. A descriptor has another spelling in the rows and blocks. An
archetype, as long as its name is not one of an unset reference, and a prefab are defined
under the symbol of the parameter. -/
theorem symbols_of_references (b : Builder) {c : Context} (hproject : c.project = b.project)
    (decl : Variable) :
    (∀ u ∈ c.project.types, decidingRole? decl.tags = some .entityDesc →
      c.valueOf decl = u.name →
      (c.resolve decl).value = u.name ++ "_TypeDesc" ∧
      ∀ p : Placed, p.entity.typeName = u.name →
        ∀ lines ∈ [sceneRow p, childRow p, staticBlock b.settings p.entity],
          ∃ symbol, descriptorIn? lines = some symbol ∧ symbol = u.name ++ "_Typedesc" ∧
            Text.sameName (c.resolve decl).value symbol = true ∧
            (c.resolve decl).value ≠ symbol) ∧
    (∀ a ∈ c.project.archetypes, c.project.typeWithId? a.typeId = some c.type →
      decidingRole? decl.tags = some .entityArchetype → c.valueOf decl = a.name →
      (∀ level ∈ c.overrides, level.vars.tagged? .entityDesc decl.slot = none) →
      ∃ built ∈ b.archetypes.value, b.archetype a = .ok built ∧
        Defines (archetypesText b.settings b.archetypes.value) built.label ∧
        (c.resolve decl).value = if a.name = "" ∨ a.name = "0" then "0" else built.label) ∧
    (c.type ∈ c.project.types → c.type.isPrefab = true →
      decidingRole? decl.tags = some .prefabData →
      ∃ p ∈ b.prefabs.value, p = (b.prefabOf c.type).value ∧
        (c.resolve decl).value = rootLabel p.name ∧
        Defines (prefabsText b.settings b.prefabs.value) (c.resolve decl).value) := by
  refine ⟨fun u _ hrole hvalue => ?_, fun a ha htype hrole hvalue hlevels => ?_,
    fun htype hprefab hrole => ?_⟩
  · rw [Context.resolve_of_entityDesc hrole, hvalue]
    refine ⟨rfl, fun p hp lines hlines => ?_⟩
    have hsymbol : descriptorIn? lines = some (u.name ++ "_Typedesc") := by
      simp only [List.mem_cons, List.not_mem_nil, or_false] at hlines
      rcases hlines with rfl | rfl | rfl <;> simp [Entity.descriptor, hp]
    exact ⟨_, hsymbol, rfl, descriptor_spellings u.name⟩
  · rw [hproject] at ha htype
    obtain ⟨built, hmem, hbuilt, hlabel, hdefines⟩ := b.archetype_defined ha htype
    refine ⟨built, hmem, hbuilt, hdefines, ?_⟩
    rw [Context.resolve_of_entityArchetype hrole,
      Context.archetypeReference_of_undescribed hlevels, hvalue, hlabel]
  · rw [hproject] at htype
    obtain ⟨hmem, hdefines⟩ := b.prefab_defined (List.mem_filter.2 ⟨htype, hprefab⟩)
    have hvalue := Context.resolve_of_prefabData (c := c) hrole
    exact ⟨_, hmem, rfl, hvalue, hvalue ▸ hdefines⟩

/-! A bat that refers to its own type, to an archetype and to a prefab. -/

def nestBat : EntityType :=
  ⟨1, "EBat", .zero, none, [], [], none, [], false⟩

def nestBuilder : Builder :=
  ⟨⟨[nestBat, prefabSpawner 2 "Flock"], [⟨"Fast", 1, none, []⟩], [], []⟩, .empty, .default⟩

def reference (role : Role) (value : String) : Variable :=
  ⟨"SDBat_Reference", .word, value, [role.tag], entitySlot, ""⟩

/-- References to archetypes and prefabs are to symbols of the exported sources. -/
theorem nest_references_defined :
    let fast := (nestBuilder.context nestBat).resolve (reference .entityArchetype "Fast")
    let flock := (nestBuilder.context (prefabSpawner 2 "Flock")).resolve (reference .prefabData "")
    fast.value = "Archetype_EBat_Fast" ∧
      Defines (archetypesText .default nestBuilder.archetypes.value) fast.value ∧
      flock.value = "prefabdata_Flock" ∧
      Defines (prefabsText .default nestBuilder.prefabs.value) flock.value := by
  intro fast flock
  obtain ⟨-, harchetype, -⟩ := symbols_of_references nestBuilder
    (c := nestBuilder.context nestBat) rfl (reference .entityArchetype "Fast")
  obtain ⟨-, -, hprefab⟩ := symbols_of_references nestBuilder
    (c := nestBuilder.context (prefabSpawner 2 "Flock")) rfl (reference .prefabData "")
  obtain ⟨built, -, hbuilt, hdefines, hfast⟩ := harchetype ⟨"Fast", 1, none, []⟩
    List.mem_cons_self (by decide +kernel) (by decide +kernel) (by decide +kernel) (by decide)
  obtain ⟨p, -, hp, hflock, hdefined⟩ := hprefab (by decide) rfl (by decide +kernel)
  have hlabel : fast.value = built.label := hfast
  refine ⟨by decide +kernel, ?_, by decide +kernel, hdefined⟩
  rw [hlabel]
  exact hdefines

/-- The reference of a bat to the descriptor of its type is to a symbol that no row or block
of a bat has. -/
theorem bat_descriptor_misspelled :
    let c := nestBuilder.context nestBat
    let decl := reference .entityDesc "EBat"
    let bat := nestBuilder.instanceEntity nestBat ⟨5, "", 1, .zero, .zero, none, []⟩
    nestBat ∈ c.project.types ∧ decidingRole? decl.tags = some .entityDesc ∧
      c.valueOf decl = nestBat.name ∧ (c.resolve decl).value = "EBat_TypeDesc" ∧
      bat.typeName = nestBat.name ∧
      descriptorIn? (sceneRow ⟨bat, "SceneEntitySpawnData_L1_EBat5", true⟩) =
        some "EBat_Typedesc" ∧
      descriptorIn? (staticBlock .default bat) = some "EBat_Typedesc" ∧
      (c.resolve decl).value ≠ bat.descriptor := by
  refine ⟨by decide, by decide +kernel, by decide +kernel, by decide +kernel, rfl,
    by decide +kernel, by decide +kernel, by decide +kernel⟩

end Cartridge.Export
