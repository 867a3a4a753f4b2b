import Cartridge.Entity.Document
import Cartridge.Json.Reader
import Cartridge.Json.Writer
import Cartridge.Project.Basic

/-!
The JSON form of editor projects, and loading a project from it. The ids of its types must be
distinct.
-/

namespace Cartridge

open Json (Value Read field fieldOr)

def Variable.read : Read Variable := Read.record do
  let name ← field "name" Read.text
  let size ← field "size" Width.read
  let value ← fieldOr "value" Read.text "0"
  let tags ← fieldOr "tags" (Read.list Read.text) []
  let slot ← fieldOr "component_idx" Read.int32 entitySlot
  let componentName ← fieldOr "component_name" Read.text ""
  return { name, size, value, tags, slot, componentName }

def Variable.write (v : Variable) : Value :=
  .record [("name", .text v.name), ("size", v.size.write), ("value", .text v.value),
    ("tags", .list .text v.tags), ("component_idx", .integer v.slot.toInt),
    ("component_name", .text v.componentName)]

def VariableTable.read : Read VariableTable :=
  Read.list Variable.read

def VariableTable.write (table : VariableTable) : Value :=
  .list Variable.write table

def RoutineDecl.read : Read RoutineDecl := Read.record do
  let name ← field "name" Read.text
  let returnType ← field "return_type" Read.text
  let label ← field "routine" Read.text
  let params ← fieldOr "params" (Read.list (Read.pair Read.text Read.text)) []
  let slot ← fieldOr "component_idx" Read.int32 entitySlot
  return { name, returnType, label, params, slot }

def RoutineDecl.write (r : RoutineDecl) : Value :=
  .record [("name", .text r.name), ("return_type", .text r.returnType), ("routine", .text r.label),
    ("params", .list (fun (type, name) => .array [.text type, .text name]) r.params),
    ("component_idx", .integer r.slot.toInt)]

def PrefabChild.read : Read PrefabChild := Read.record do
  let instanceId ← field "instance_id" Read.uint16
  let name ← field "name" Read.text
  let typeId ← field "type_id" Read.uint32
  let position ← fieldOr "relative_position" Point.read .zero
  let spriteActor ← fieldOr "sprite_actor" (Read.option Read.text) none
  let vars ← fieldOr "variables" VariableTable.read []
  return { instanceId, name, typeId, position, spriteActor, vars }

def PrefabChild.write (c : PrefabChild) : Value :=
  .record [("instance_id", .integer c.instanceId.toNat), ("name", .text c.name),
    ("type_id", .integer c.typeId.toNat), ("relative_position", c.position.write),
    ("sprite_actor", .option .text c.spriteActor), ("variables", c.vars.write)]

def EntityType.read : Read EntityType := Read.record do
  let id ← field "id" Read.uint32
  let name ← field "name" Read.text
  let dimensions ← fieldOr "dimensions" Dimensions.read .zero
  let spriteActor ← fieldOr "sprite_actor" (Read.option Read.text) none
  let vars ← fieldOr "variables" VariableTable.read []
  let routines ← fieldOr "script_funcs" (Read.list RoutineDecl.read) []
  let prefabName ← fieldOr "prefab_name" (Read.option Read.text) none
  let prefabChildren ← fieldOr "prefab_children" (Read.list PrefabChild.read) []
  let isStatic ← fieldOr "is_static" Read.bool false
  return ⟨id, name, dimensions, spriteActor, vars, routines, prefabName, prefabChildren,
    isStatic⟩

def EntityType.write (t : EntityType) : Value :=
  .record [("id", .integer t.id.toNat), ("name", .text t.name), ("dimensions", t.dimensions.write),
    ("sprite_actor", .option .text t.spriteActor), ("variables", t.vars.write),
    ("script_funcs", .list RoutineDecl.write t.routines),
    ("prefab_name", .option .text t.prefabName),
    ("prefab_children", .list PrefabChild.write t.prefabChildren), ("is_static", .bool t.isStatic)]

def ArchetypeDef.read : Read ArchetypeDef := Read.record do
  let name ← field "name" Read.text
  let typeId ← field "type_id" Read.uint32
  let spriteActor ← fieldOr "sprite_actor" (Read.option Read.text) none
  let vars ← fieldOr "variables" VariableTable.read []
  return { name, typeId, spriteActor, vars }

def ArchetypeDef.write (a : ArchetypeDef) : Value :=
  .record [("name", .text a.name), ("type_id", .integer a.typeId.toNat),
    ("sprite_actor", .option .text a.spriteActor), ("variables", a.vars.write)]

def Instance.read : Read Instance := Read.record do
  let id ← field "id" Read.uint32
  let name ← fieldOr "name" Read.text ""
  let typeId ← field "type_id" Read.uint32
  let position ← fieldOr "position" Point.read .zero
  let dimensions ← fieldOr "dimensions" Dimensions.read .zero
  let spriteActor ← fieldOr "sprite_actor" (Read.option Read.text) none
  let vars ← fieldOr "variables" VariableTable.read []
  return { id, name, typeId, position, dimensions, spriteActor, vars }

def Instance.write (i : Instance) : Value :=
  .record [("id", .integer i.id.toNat), ("name", .text i.name),
    ("type_id", .integer i.typeId.toNat), ("position", i.position.write),
    ("dimensions", i.dimensions.write), ("sprite_actor", .option .text i.spriteActor),
    ("variables", i.vars.write)]

def Scene.read : Read Scene := Read.record do
  let name ← field "name" Read.text
  let instances ← fieldOr "instances" (Read.list Instance.read) []
  return { name, instances }

def Scene.write (s : Scene) : Value :=
  .record [("name", .text s.name), ("instances", .list Instance.write s.instances)]

def SpriteAnimation.read : Read SpriteAnimation := Read.record do
  let name ← field "name" Read.text
  return { name }

def SpriteAnimation.write (a : SpriteAnimation) : Value :=
  .record [("name", .text a.name)]

def SpriteSheet.read : Read SpriteSheet := Read.record do
  let name ← field "name" Read.text
  let animations ← fieldOr "animations" (Read.list SpriteAnimation.read) []
  return { name, animations }

def SpriteSheet.write (s : SpriteSheet) : Value :=
  .record [("name", .text s.name), ("animations", .list SpriteAnimation.write s.animations)]

def Actor.read : Read Actor := Read.record do
  let name ← field "name" Read.text
  let sheets ← fieldOr "sprite_sheets" (Read.list SpriteSheet.read) []
  return { name, sheets }

def Actor.write (a : Actor) : Value :=
  .record [("name", .text a.name), ("sprite_sheets", .list SpriteSheet.write a.sheets)]

def Project.read : Read Project := Read.record do
  let types ← fieldOr "entity_types" (Read.list EntityType.read) []
  let archetypes ← fieldOr "archetypes" (Read.list ArchetypeDef.read) []
  let actors ← fieldOr "actors" (Read.list Actor.read) []
  let scenes ← fieldOr "scenes" (Read.list Scene.read) []
  return { types, archetypes, actors, scenes }

def Project.write (p : Project) : Value :=
  .record [("entity_types", .list EntityType.write p.types),
    ("archetypes", .list ArchetypeDef.write p.archetypes), ("actors", .list Actor.write p.actors),
    ("scenes", .list Scene.write p.scenes)]

inductive ProjectError where
  | malformed
  | duplicateTypeId (id : UInt32)
  deriving DecidableEq, Repr

def ProjectError.message : ProjectError → String
  | .malformed => "invalid project json"
  | .duplicateTypeId id =>
    "duplicate entity type id " ++ String.ofList (Text.decimal id.toNat)

def firstRepeated? (seen : List UInt32) : List UInt32 → Option UInt32
  | [] => none
  | id :: rest => if seen.contains id then some id else firstRepeated? (id :: seen) rest

namespace Project

/-- Refuse a project in which two types have one id. -/
def validated (p : Project) : Except ProjectError Project :=
  match firstRepeated? [] (p.types.map EntityType.id) with
  | some id => .error (.duplicateTypeId id)
  | none => .ok p

def ofDocument (document : Value) : Except ProjectError Project :=
  match Project.read document with
  | none => .error .malformed
  | some p => p.validated

/-- Load a project from the text of its document. -/
def load (text : String) : Except ProjectError Project :=
  match Value.parse? text with
  | none => .error .malformed
  | some document => ofDocument document

/-- The text of a project's document. -/
def save (p : Project) : String :=
  p.write.render

end Project

end Cartridge
