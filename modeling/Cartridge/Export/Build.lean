import Cartridge.Export.Resolve
import Cartridge.Export.Settings
import Cartridge.Report

/-!
Building entities, archetypes and prefabs from what a project declares. The variables of a type are
taken in turn: what each resolves to goes to the entity, or to the component in its slot, which is
made for the first variable that asks for it. Then the routines are handed out among the components
that there are.
-/

namespace Cartridge

def RoutineDecl.ownedBy (r : RoutineDecl) (scope : String) : Routine :=
  ⟨r.name, scope, r.returnType, r.label, r.params, none⟩

namespace Component

def addParam (c : Component) (p : Param) : Component :=
  { c with spawn := { c.spawn with params := c.spawn.params ++ [p] } }

def addRoutine (c : Component) (r : RoutineDecl) : Component :=
  { c with routines := c.routines ++ [r.ownedBy c.name] }

end Component

end Cartridge

namespace Cartridge.Export

inductive BuildError where
  | unknownType (id : UInt32)
  deriving DecidableEq, Repr

def BuildError.message : BuildError → String
  | .unknownType id => "unknown entity type id " ++ String.ofList (Text.decimal id.toNat)

/-- What the entity has so far, and its components in the order in which they were made, each with
its slot. -/
structure Parts where
  params : List Param
  routines : List Routine
  components : List (Int32 × Component)
  deriving DecidableEq, Repr

namespace Parts

def empty : Parts := ⟨[], [], []⟩

def alter? (slot : Int32) (change : Component → Component) :
    List (Int32 × Component) → Option (List (Int32 × Component))
  | [] => none
  | (s, c) :: rest =>
    if s == slot then some ((s, change c) :: rest)
    else (alter? slot change rest).map ((s, c) :: ·)

/-- Add what a variable resolves to. A component that is made for it has the name that the variable
gives. -/
def addParam (parts : Parts) (v : Variable) (p : Param) : Parts :=
  if v.ofEntity then { parts with params := parts.params ++ [p] }
  else
    match alter? v.slot (·.addParam p) parts.components with
    | some components => { parts with components := components }
    | none =>
      let made := (Component.named v.componentName).addParam p
      { parts with components := parts.components ++ [(v.slot, made)] }

/-- Add a routine of a type. If there is no component in its slot it is left out and reported. -/
def addRoutine (typeName : String) (parts : Parts) (r : RoutineDecl) : Logged Parts :=
  if r.slot < 0 then pure { parts with routines := parts.routines ++ [r.ownedBy typeName] }
  else
    match alter? r.slot (·.addRoutine r) parts.components with
    | some components => pure { parts with components := components }
    | none => ⟨parts, [.warning "script function targets a component with no parameters"
        [("entity", .own typeName), ("func", .own r.name),
          ("component_idx", .ofInt r.slot.toInt)]]⟩

def addRoutines (typeName : String) (parts : Parts) : List RoutineDecl → Logged Parts
  | [] => pure parts
  | r :: rest => do addRoutines typeName (← parts.addRoutine typeName r) rest

end Parts

namespace Context

def parts (c : Context) : Parts :=
  c.type.vars.foldl (fun parts v => parts.addParam v (c.resolve v)) .empty

def scriptedParts (c : Context) : Logged Parts :=
  c.parts.addRoutines c.type.name c.type.routines

def entity (c : Context) (id : UInt16) (name : String) (position : Point)
    (dimensions : Dimensions) : Entity :=
  let parts := c.scriptedParts.value
  { typeName := c.type.name
    id := id
    spawn := ⟨name, position, dimensions, parts.params⟩
    components := parts.components.map Prod.snd
    routines := parts.routines
    isStatic := c.type.isStatic }

def reports (c : Context) : List Event :=
  c.scriptedParts.events

end Context

/-- What game objects are built from. -/
structure Builder where
  project : Project
  addresses : AddressMap
  settings : Settings
  deriving Repr

namespace Builder

def context (b : Builder) (type : EntityType) : Context :=
  ⟨b.project, type, none, none, none, b.addresses, b.settings.border⟩

def typeEntity (b : Builder) (type : EntityType) : Entity :=
  (b.context type).entity type.id.toUInt16 (type.prefabName.getD type.name) .zero type.dimensions

def instanceDimensions (type : EntityType) (i : Instance) : Dimensions :=
  ⟨if i.dimensions.width > 0 then i.dimensions.width else type.dimensions.width,
    if i.dimensions.height > 0 then i.dimensions.height else type.dimensions.height⟩

/-- The name of an instance; one without a name is called by its type and id. -/
def instanceName (type : EntityType) (i : Instance) : String :=
  if i.name.isEmpty then type.name ++ String.ofList (Text.decimal i.id.toNat) else i.name

def instanceEntity (b : Builder) (type : EntityType) (i : Instance) : Entity :=
  { b.context type with placement := some i }.entity i.id.toUInt16 (instanceName type i)
    (i.position + b.settings.border) (instanceDimensions type i)

def childEntity (b : Builder) (type : EntityType) (child : PrefabChild) : Entity :=
  { b.context type with child := some child }.entity child.instanceId child.name child.position
    type.dimensions

def archetype (b : Builder) (a : ArchetypeDef) : Except BuildError Archetype :=
  match b.project.typeWithId? a.typeId with
  | none => .error (.unknownType a.typeId)
  | some type =>
    let parts := { b.context type with archetype := some a }.parts
    .ok ⟨a.name, type.name, parts.params, parts.components.map Prod.snd⟩

/-! The routines for which an entity has no component are reported with it. -/

def reportedType (b : Builder) (type : EntityType) : Logged Entity :=
  ⟨b.typeEntity type, (b.context type).reports⟩

def reportedInstance (b : Builder) (type : EntityType) (i : Instance) : Logged Entity :=
  ⟨b.instanceEntity type i, { b.context type with placement := some i }.reports⟩

def reportedChild (b : Builder) (type : EntityType) (child : PrefabChild) : Logged Entity :=
  ⟨b.childEntity type child, { b.context type with child := some child }.reports⟩

def types (b : Builder) : Logged (List Entity) :=
  .each b.project.types b.reportedType

def instances (b : Builder) : List Instance → Logged (Except BuildError (List Entity))
  | [] => ⟨.ok [], []⟩
  | i :: rest =>
    match b.project.typeWithId? i.typeId with
    | none => ⟨.error (.unknownType i.typeId), []⟩
    | some type => do
      let e ← b.reportedInstance type i
      let others ← instances b rest
      return others.map (e :: ·)

def scene (b : Builder) (s : Scene) : Logged (Except BuildError (List Entity)) :=
  b.instances s.instances

/-- The archetypes of the project. Those of unknown types are left out and reported. -/
def archetypes (b : Builder) : Logged (List Archetype) := do
  let built ← Logged.each b.project.archetypes fun a =>
    match b.archetype a with
    | .ok archetype => ⟨some archetype, []⟩
    | .error e => ⟨none, [.warning "archetype skipped"
        [("archetype", .own a.name), ("error", .own e.message)]]⟩
  return built.filterMap id

/-- The prefab that a type expands to. Children of unknown types are left out and reported. -/
def prefabOf (b : Builder) (type : EntityType) : Logged Prefab := do
  let children ← Logged.each type.prefabChildren fun child =>
    match b.project.typeWithId? child.typeId with
    | some childType => do return some (← b.reportedChild childType child)
    | none => ⟨none, [.warning "prefab child has unknown type"
        [("prefab", .own type.prefabLabel), ("child", .own child.name),
          ("type_id", .ofNat child.typeId.toNat)]]⟩
  return ⟨type.prefabLabel, type.id.toUInt16, children.filterMap id⟩

def prefabs (b : Builder) : Logged (List Prefab) :=
  .each b.project.prefabTypes b.prefabOf

end Builder

/-- The type of the entity that a prefab is spawned as: its one parameter points at the prefab. -/
def prefabSpawner (id : UInt32) (prefabName : String) : EntityType where
  id := id
  name := "EPrefab"
  dimensions := .zero
  spriteActor := none
  vars := [⟨"SDPrefab_Data", .long, "prefabdata_" ++ prefabName, [Role.prefabData.tag],
    entitySlot, ""⟩]
  routines := []
  prefabName := some prefabName
  prefabChildren := []
  isStatic := false

end Cartridge.Export
