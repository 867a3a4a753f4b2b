import Cartridge.Proofs.Build.Parts
import Cartridge.Proofs.Command.Scenes
import Cartridge.Proofs.Linking.Slots

/-!
The routines of a project in its offset table. On their way into the table routines pass
through the entities of their types and the components of these. In the end the table has
the first declaration of each routine that has an owner: `table_lists_declared_routines`.
-/

namespace Cartridge

/-! ### Components -/

namespace VariableTable

/-- The first variable of each component slot, apart from the slots seen before. -/
def leadsFrom (seen : List Int32) : VariableTable → VariableTable
  | [] => []
  | v :: rest =>
    if v.ofEntity ∨ v.slot ∈ seen then leadsFrom seen rest
    else v :: leadsFrom (v.slot :: seen) rest

/-- The variables that components are named by: the first of each component slot. -/
def leads (table : VariableTable) : VariableTable :=
  leadsFrom [] table

variable {table : VariableTable} {seen : List Int32} {v : Variable}

theorem mem_leadsFrom : v ∈ leadsFrom seen table ↔
    table.find? (·.slot == v.slot) = some v ∧ v.ofEntity = false ∧ v.slot ∉ seen := by
  induction table generalizing seen with
  | nil => simp [leadsFrom]
  | cons w rest ih =>
      rw [leadsFrom]
      by_cases hslot : w.slot = v.slot
      · rw [List.find?_cons_of_pos (by simpa using hslot)]
        have hofEntity : w.ofEntity = v.ofEntity := by rw [Variable.ofEntity, hslot]; rfl
        rw [hofEntity, hslot]
        split
        · -- A slot that is passed over has no lead at all.
          rw [ih]
          grind
        · rw [List.mem_cons, ih]
          grind
      · have hne : v ≠ w := fun h => hslot (h ▸ rfl)
        rw [List.find?_cons_of_neg (by simpa using hslot)]
        split
        · exact ih
        · rw [List.mem_cons, or_iff_right hne, ih, List.mem_cons, or_iff_right (Ne.symm hslot)]

/-- The slots of the leads are those of the variables, each where it appears first. -/
theorem map_slot_leadsFrom (seen : List Int32) (table : VariableTable) :
    (leadsFrom seen table).map Variable.slot =
      (((table.filter fun v => !v.ofEntity).map Variable.slot).filter
        (!seen.contains ·)).eraseDups := by
  induction table generalizing seen with
  | nil => rfl
  | cons v rest ih =>
      rw [leadsFrom]
      by_cases hv : v.ofEntity = true
      · rw [if_pos (.inl hv), ih, List.filter_cons_of_neg (by simpa using hv)]
      · rw [List.filter_cons_of_pos (by simpa using hv), List.map_cons]
        by_cases hslot : v.slot ∈ seen
        · rw [if_pos (.inr hslot), ih, List.filter_cons_of_neg (by simpa using hslot)]
        · -- The lead's own slot is seen from here on, and erased from the other list.
          rw [if_neg (not_or.2 ⟨hv, hslot⟩), List.filter_cons_of_pos (by simpa using hslot),
            List.eraseDups_cons, List.map_cons, ih, List.filter_filter]
          congr 3
          funext slot
          rw [List.contains_cons, Bool.not_or]

theorem mem_leads : v ∈ table.leads ↔
    table.find? (·.slot == v.slot) = some v ∧ v.ofEntity = false := by
  simp [leads, mem_leadsFrom]

theorem slots_eq_leads (table : VariableTable) : table.slots = table.leads.map Variable.slot := by
  rw [leads, map_slot_leadsFrom]
  simp [slots]

theorem componentName_of_mem_leads (hv : v ∈ table.leads) :
    table.componentName v.slot = v.componentName := by
  rw [componentName, inSlot, List.head?_filter, (mem_leads.1 hv).1]
  rfl

end VariableTable

namespace EntityType


/-! ### Declarations -/

/-- The type declares a routine of that name for itself. -/
def DeclaresOwn (t : EntityType) (scope name : String) : Prop :=
  t.name = scope ∧ ∃ r ∈ t.routines, r.slot < 0 ∧ r.name = name

/-- The type declares a routine of that name for a component, which the first variable in
its slot names. -/
def DeclaresForComponent (t : EntityType) (scope name : String) : Prop :=
  ∃ r ∈ t.routines, 0 ≤ r.slot ∧ r.name = name ∧
    ∃ v, t.vars.find? (·.slot == r.slot) = some v ∧ v.componentName = scope

/-- The routines that the type declares for itself, with their labels. -/
def ownDeclarations (t : EntityType) : List ((String × String) × String) :=
  (t.routines.filter (·.slot < 0)).map fun r => ((t.name, r.name), r.label)

/-- The routines that the type declares for its components, one component after the other. -/
def componentDeclarations (t : EntityType) : List ((String × String) × String) :=
  t.vars.leads.flatMap fun v =>
    (t.routines.filter (·.slot == v.slot)).map fun r => ((v.componentName, r.name), r.label)

variable {t : EntityType} {scope name : String}

theorem mem_ownDeclarations :
    (scope, name) ∈ t.ownDeclarations.map (·.1) ↔ t.DeclaresOwn scope name := by
  simp only [ownDeclarations, DeclaresOwn, List.map_map, List.mem_map, List.mem_filter,
    decide_eq_true_eq, Function.comp_apply, Prod.mk.injEq]
  constructor
  · rintro ⟨r, ⟨hr, hslot⟩, hscope, hname⟩
    exact ⟨hscope, r, hr, hslot, hname⟩
  · rintro ⟨hscope, r, hr, hslot, hname⟩
    exact ⟨r, ⟨hr, hslot⟩, hscope, hname⟩

theorem mem_componentDeclarations :
    (scope, name) ∈ t.componentDeclarations.map (·.1) ↔ t.DeclaresForComponent scope name := by
  simp only [componentDeclarations, DeclaresForComponent, List.map_flatMap, List.map_map,
    List.mem_flatMap, List.mem_map, List.mem_filter, beq_iff_eq, Function.comp_apply,
    Prod.mk.injEq]
  constructor
  · rintro ⟨v, hv, r, ⟨hr, hslot⟩, hscope, hname⟩
    obtain ⟨hfirst, hcomponent⟩ := VariableTable.mem_leads.1 hv
    refine ⟨r, hr, ?_, hname, v, by rw [hslot]; exact hfirst, hscope⟩
    rw [hslot]
    exact Int32.not_lt.1 (of_decide_eq_false hcomponent)
  · rintro ⟨r, hr, hcomponent, hname, v, hfirst, hscope⟩
    have hslot : v.slot = r.slot := by simpa using List.find?_some hfirst
    refine ⟨v, VariableTable.mem_leads.2 ⟨by rw [hslot]; exact hfirst, ?_⟩, r,
      ⟨hr, hslot.symm⟩, hscope, hname⟩
    rw [Variable.ofEntity, hslot]
    exact decide_eq_false (Int32.not_lt.2 hcomponent)

end EntityType

/-- The types of which scripts can be attached to the entities. -/
def Project.scriptedTypes (p : Project) : List EntityType :=
  p.types.filter fun t => !t.isPrefab

/-- The routines that the types declare, with their labels: first those of the types
themselves and then those of their components. -/
def Project.declarations (p : Project) : List ((String × String) × String) :=
  p.scriptedTypes.flatMap EntityType.ownDeclarations ++
    p.scriptedTypes.flatMap EntityType.componentDeclarations

/-! ### Routines on their way into the table -/

/-- A routine as it is declared: its key and its label. -/
def Routine.declared (r : Routine) : (String × String) × String :=
  (r.key, r.label)

namespace EntityType

theorem declared_ownRoutines (t : EntityType) :
    t.ownRoutines.map Routine.declared = t.ownDeclarations := by
  rw [ownRoutines, List.map_map]
  rfl

theorem declared_routinesIn (t : EntityType) :
    (t.vars.slots.flatMap t.routinesIn).map Routine.declared = t.componentDeclarations := by
  rw [VariableTable.slots_eq_leads, List.flatMap_map, List.map_flatMap, componentDeclarations]
  refine List.flatMap_congr fun v hv => ?_
  rw [routinesIn, VariableTable.componentName_of_mem_leads hv, List.map_map]
  rfl

end EntityType

namespace Command.Export

open Cartridge.Export
open Script (OffsetTable)
open Json (Read Value)

/-- The routines of the entities that scripts can be attached to, and of their components. -/
def scriptedRoutines (b : Builder) : List Routine :=
  b.project.scriptedTypes.flatMap EntityType.ownRoutines ++
    b.project.scriptedTypes.flatMap fun t => t.vars.slots.flatMap t.routinesIn

theorem tableOf_scriptedEntities (b : Builder) :
    tableOf (scriptedEntities b).value = .ofRoutines (scriptedRoutines b) := by
  have hentities : (scriptedEntities b).value = b.project.scriptedTypes.map b.typeEntity := rfl
  have hown (t : EntityType) : (b.typeEntity t).routines = t.ownRoutines := by
    rw [Builder.typeEntity, Context.entity_eq]
    rfl
  have hcomponents (t : EntityType) : (b.typeEntity t).components.flatMap Component.routines =
      t.vars.slots.flatMap t.routinesIn := by
    rw [Builder.typeEntity, Context.entity_eq, List.flatMap_map]
    rfl
  simp only [tableOf, OffsetTable.build, scriptedRoutines, hentities, List.flatMap_map,
    List.flatMap_assoc, hown, hcomponents]

theorem declared_scriptedRoutines (b : Builder) :
    (scriptedRoutines b).map Routine.declared = b.project.declarations := by
  simp only [scriptedRoutines, Project.declarations, List.map_append, List.map_flatMap,
    EntityType.declared_ownRoutines]
  congr 2
  funext t
  rw [← EntityType.declared_routinesIn, List.map_flatMap]

/-- The keys of the table are those of the declarations, each where it stands first. -/
theorem keys_tableOf (b : Builder) :
    (tableOf (scriptedEntities b).value).entries.map Routine.key =
      (b.project.declarations.map (·.1)).eraseDups := by
  rw [tableOf_scriptedEntities, OffsetTable.keys_ofRoutines, ← declared_scriptedRoutines,
    List.map_map]
  rfl

/-- An entry has the label of the first declaration of its routine. -/
theorem lookup_declarations {b : Builder} {e : Routine}
    (he : e ∈ (tableOf (scriptedEntities b).value).entries) :
    b.project.declarations.lookup e.key = some e.label := by
  have hlookup (routines : List Routine) :
      (routines.map Routine.declared).lookup e.key =
        (routines.find? fun r => r.key == e.key).map Routine.label := by
    induction routines with
    | nil => rfl
    | cons r rest ih =>
        rw [List.map_cons, Routine.declared, List.lookup_cons, List.find?_cons, Bool.beq_comm, ih]
        cases r.key == e.key <;> rfl
  rw [tableOf_scriptedEntities] at he
  obtain ⟨i, hi⟩ := List.mem_iff_getElem?.1 he
  obtain ⟨first, hfirst, hsame⟩ :=
    (OffsetTable.collected_ofRoutines (scriptedRoutines b)).entry i e hi
  rw [← declared_scriptedRoutines, hlookup, hfirst, hsame]
  rfl

/-- The document that is exported is that of the table. -/
theorem exportScripts_eq_ok {b : Builder} {args : Args} {s after : Session}
    (h : runIn (exportScripts b args) s = (.ok (), after)) :
    after.files.read (args.outPath tableDocumentFile) =
      .ok (Bytes.ofText (tableDocument (tableOf (scriptedEntities b).value)).pretty) := by
  obtain ⟨entities, s₁, hbuild, h⟩ := runIn_bind_eq_ok.1 h
  obtain ⟨events, hreported⟩ := run_reported (scriptedEntities b) s
  rw [runIn_lift, hreported] at hbuild
  cases hbuild
  -- The directory, the sources and the listing come first, and the document last.
  obtain ⟨-, s₂, -, h⟩ := runIn_bind_eq_ok.1 h
  obtain ⟨-, s₃, -, h⟩ := runIn_bind_eq_ok.1 h
  obtain ⟨-, s₄, -, h⟩ := runIn_bind_eq_ok.1 h
  exact (writeOutput_eq_ok h).2

/-- The exported table has a slot for each routine that a type declares for itself, or for a
component that it has. No two slots are of one routine, those of the types come first, and a
slot refers to the first declaration of its routine. -/
theorem table_lists_declared_routines (b : Builder) :
    let table := tableOf (scriptedEntities b).value
    let types := b.project.scriptedTypes
    (∀ scope name, (scope, name) ∈ table.entries.map Routine.key ↔
      ∃ t ∈ types, t.DeclaresOwn scope name ∨ t.DeclaresForComponent scope name) ∧
    (table.entries.map Routine.key).Nodup ∧
    (∃ own others, table.entries = own ++ others ∧
      (∀ e ∈ own, ∃ t ∈ types, t.DeclaresOwn e.scope e.name) ∧
      ∀ e ∈ others, ¬∃ t ∈ types, t.DeclaresOwn e.scope e.name) ∧
    (∀ e ∈ table.entries, b.project.declarations.lookup e.key = some e.label) ∧
    ∀ args s after, runIn (exportScripts b args) s = (.ok (), after) →
      ∃ text, after.files.read (args.outPath tableDocumentFile) = .ok (Bytes.ofText text) ∧
        (Value.parse? text).bind (Read.list Routine.read) = some table.entries := by
  intro table types
  have hkeys : table.entries.map Routine.key = (b.project.declarations.map (·.1)).eraseDups :=
    keys_tableOf b
  have hown (scope name : String) :
      (scope, name) ∈ (types.flatMap EntityType.ownDeclarations).map (·.1) ↔
        ∃ t ∈ types, t.DeclaresOwn scope name := by
    simp only [List.map_flatMap, List.mem_flatMap, EntityType.mem_ownDeclarations]
  have hcomponents (scope name : String) :
      (scope, name) ∈ (types.flatMap EntityType.componentDeclarations).map (·.1) ↔
        ∃ t ∈ types, t.DeclaresForComponent scope name := by
    simp only [List.map_flatMap, List.mem_flatMap, EntityType.mem_componentDeclarations]
  have hdeclarations : b.project.declarations.map (·.1) =
      (types.flatMap EntityType.ownDeclarations).map (·.1) ++
        (types.flatMap EntityType.componentDeclarations).map (·.1) := List.map_append
  refine ⟨fun scope name => ?_, ?_, ?_, fun e he => lookup_declarations he,
    fun args s after h => ⟨_, exportScripts_eq_ok h, parse?_tableDocument _⟩⟩
  · rw [hkeys, List.mem_eraseDups, hdeclarations, List.mem_append, hown, hcomponents]
    simp only [← exists_or, ← and_or_left]
  · exact (tableOf_scriptedEntities b ▸ OffsetTable.dense_ofRoutines (scriptedRoutines b)).keys
  · -- The entries follow their keys, which are erased in the second part if they are in the first.
    rw [hdeclarations, List.eraseDups_append, List.map_eq_append_iff] at hkeys
    obtain ⟨own, others, hentries, hfirst, hrest⟩ := hkeys
    refine ⟨own, others, hentries, fun e he => ?_, fun e he => ?_⟩
    · have hkey := List.mem_map_of_mem (f := Routine.key) he
      rw [hfirst, List.mem_eraseDups] at hkey
      exact (hown e.scope e.name).1 hkey
    · have hkey := List.mem_map_of_mem (f := Routine.key) he
      rw [hrest, List.mem_eraseDups, List.removeAll, List.mem_filter] at hkey
      intro h
      have hgone := List.elem_eq_true_of_mem ((hown e.scope e.name).2 h)
      rw [show (e.scope, e.name) = e.key from rfl] at hgone
      rw [hgone] at hkey
      cases hkey.2

/-! A type that declares a routine of its component twice, and a prefab. -/

def flockProject : Project :=
  let frame : Variable := ⟨"ECSprite_Frame", .word, "0", [], 0, "ECSprite"⟩
  let layer : Variable := ⟨"ECLayer_Depth", .word, "0", [], 0, "ECLayer"⟩
  ⟨[⟨1, "EBat", .zero, none, [frame, layer],
      [⟨"Draw", "void", "Sprite_Draw", [], 0⟩, ⟨"Fly", "void", "Bat_Fly", [], -1⟩,
        ⟨"Draw", "void", "Sprite_Draw2", [], 0⟩, ⟨"Sink", "void", "Bat_Sink", [], 3⟩],
      none, [], false⟩,
    ⟨2, "EFlock", .zero, none, [], [⟨"Fly", "void", "Flock_Fly", [], -1⟩], some "Flock", [],
      false⟩], [], [], []⟩

def flockBuilder : Builder :=
  ⟨flockProject, .empty, .default⟩

def flockSession : Session :=
  .start ⟨[(["out"], .directory)], [], []⟩

/-- What exporting the scripts comes to, and the session it leaves. -/
def flockRun : Except Failure Unit × Session :=
  runIn (exportScripts flockBuilder batArgs) flockSession

theorem flock_routines_listed :
    (tableOf (scriptedEntities flockBuilder).value).entries.map Routine.declared =
        [(("EBat", "Fly"), "Bat_Fly"), (("ECSprite", "Draw"), "Sprite_Draw")] ∧
      (∃ t ∈ flockProject.scriptedTypes, t.DeclaresForComponent "ECSprite" "Draw") ∧
      ∃ after text, runIn (exportScripts flockBuilder batArgs) flockSession = (.ok (), after) ∧
        after.files.read (batArgs.outPath tableDocumentFile) = .ok (Bytes.ofText text) ∧
        (Value.parse? text).bind (Read.list Routine.read) =
          some (tableOf (scriptedEntities flockBuilder).value).entries := by
  obtain ⟨hlisted, -, -, -, hdocument⟩ := table_lists_declared_routines flockBuilder
  have hdone : flockRun.1 = .ok () := by decide +kernel
  have hrun : flockRun = (.ok (), flockRun.2) := by rw [← hdone]
  obtain ⟨text, hread, hparse⟩ := hdocument batArgs flockSession _ hrun
  refine ⟨by decide +kernel, ?_, _, text, hrun, hread, hparse⟩
  have hmem : ("ECSprite", "Draw") ∈
      (tableOf (scriptedEntities flockBuilder).value).entries.map Routine.key := by
    decide +kernel
  have hnames : ∀ t ∈ flockProject.scriptedTypes, t.name ≠ "ECSprite" := by decide +kernel
  obtain ⟨t, ht, hown | hcomponent⟩ := (hlisted "ECSprite" "Draw").1 hmem
  · exact absurd hown.1 (hnames t ht)
  · exact ⟨t, ht, hcomponent⟩

end Command.Export

end Cartridge
