import Cartridge.Entity.Basic
import Cartridge.Entity.Role
import Cartridge.Json.Record
import Cartridge.Script.AddressMap
import Cartridge.Script.Relocation

/-!
The JSON form of entities and of what scripts say about them.
-/

namespace Cartridge

open Json (Value Read field fieldOr fieldOption)

def Width.ofName? : String → Option Width
  | "Byte" => some .byte
  | "Word" => some .word
  | "Long" => some .long
  | _ => none

def Width.read : Read Width :=
  Read.choice Width.ofName?

def Width.write : Width → Value
  | .byte => .text "Byte"
  | .word => .text "Word"
  | .long => .text "Long"

def Role.name : Role → String
  | .positionX => "PositionX"
  | .positionY => "PositionY"
  | .spriteActor => "SpriteActor"
  | .spriteSheet => "SpriteSheet"
  | .spriteAnimation => "SpriteAnimation"
  | .entityDesc => "EntityDesc"
  | .entityArchetype => "EntityArchetype"
  | .scriptData => "ScriptData"
  | .prefabData => "PrefabData"

def Role.read : Read Role :=
  Read.choice fun name => Role.all.find? fun role => role.name == name

def Role.write (role : Role) : Value :=
  .text role.name

def Point.read : Read Point := fun v => do
  let (x, y) ← Read.pair Read.int32 Read.int32 v
  return ⟨x, y⟩

def Point.write (p : Point) : Value :=
  .array [.integer p.x.toInt, .integer p.y.toInt]

def Dimensions.read : Read Dimensions := fun v => do
  let (width, height) ← Read.pair Read.uint32 Read.uint32 v
  return ⟨width, height⟩

def Dimensions.write (d : Dimensions) : Value :=
  .array [.integer d.width.toNat, .integer d.height.toNat]

def Param.read : Read Param := Read.record do
  let name ← field "name" Read.text
  let size ← field "size" Width.read
  let value ← field "value" Read.text
  let tags ← fieldOr "tags" (Read.list Read.text) []
  return { name, size, value, tags }

def Param.write (p : Param) : Value :=
  .record [("name", .text p.name), ("size", p.size.write), ("value", .text p.value),
    ("tags", .list .text p.tags)]

def SpawnData.read : Read SpawnData := Read.record do
  let name ← field "name" Read.text
  let position ← field "position" Point.read
  let dimensions ← field "dimensions" Dimensions.read
  let params ← field "params" (Read.list Param.read)
  return { name, position, dimensions, params }

def SpawnData.write (s : SpawnData) : Value :=
  .record [("name", .text s.name), ("position", s.position.write),
    ("dimensions", s.dimensions.write), ("params", .list Param.write s.params)]

def Routine.read : Read Routine := Read.record do
  let name ← field "name" Read.text
  let scope ← field "scope" Read.text
  let returnType ← field "return_type" Read.text
  let label ← field "routine" Read.text
  let params ← fieldOr "params" (Read.list (Read.pair Read.text Read.text)) []
  let slot ← fieldOr "table_offset" (Read.option Read.uint32) none
  return { name, scope, returnType, label, params, slot }

def Routine.write (r : Routine) : Value :=
  .record [("name", .text r.name), ("scope", .text r.scope), ("return_type", .text r.returnType),
    ("routine", .text r.label),
    ("params", .list (fun (type, name) => .array [.text type, .text name]) r.params),
    ("table_offset", .option (fun slot => .integer slot.toNat) r.slot)]

def Component.read : Read Component := Read.record do
  let name ← field "name" Read.text
  let spawn ← field "spawn_data" SpawnData.read
  let routines ← fieldOr "script_funcs" (Read.list Routine.read) []
  return { name, spawn, routines }

def Component.write (c : Component) : Value :=
  .record [("name", .text c.name), ("spawn_data", c.spawn.write),
    ("script_funcs", .list Routine.write c.routines)]

def Entity.read : Read Entity := Read.record do
  let typeName ← field "type_name" Read.text
  let id ← field "id" Read.uint16
  let spawn ← field "spawn_data" SpawnData.read
  let components ← fieldOr "components" (Read.list Component.read) []
  let routines ← fieldOr "script_funcs" (Read.list Routine.read) []
  let isStatic ← fieldOr "is_static" Read.bool false
  return { typeName, id, spawn, components, routines, isStatic }

def Entity.write (e : Entity) : Value :=
  .record [("type_name", .text e.typeName), ("id", .integer e.id.toNat),
    ("spawn_data", e.spawn.write), ("components", .list Component.write e.components),
    ("script_funcs", .list Routine.write e.routines), ("is_static", .bool e.isStatic)]

def Archetype.read : Read Archetype := Read.record do
  let name ← field "name" Read.text
  let typeName ← field "entity_type_name" Read.text
  let params ← field "params" (Read.list Param.read)
  let components ← field "components" (Read.list Component.read)
  return { name, typeName, params, components }

def Archetype.write (a : Archetype) : Value :=
  .record [("name", .text a.name), ("entity_type_name", .text a.typeName),
    ("params", .list Param.write a.params), ("components", .list Component.write a.components)]

def Prefab.read : Read Prefab := Read.record do
  let name ← field "name" Read.text
  let id ← field "id" Read.uint16
  let children ← field "children" (Read.list Entity.read)
  return { name, id, children }

def Prefab.write (p : Prefab) : Value :=
  .record [("name", .text p.name), ("id", .integer p.id.toNat),
    ("children", .list Entity.write p.children)]

def Relocation.read : Read Relocation := Read.record do
  let address ← field "address" Read.uint32
  let scope ← field "scope" Read.text
  let name ← field "name" Read.text
  let index ← fieldOption "table_index" Read.uint64
  return { address, scope, name, index }

def Relocation.write (r : Relocation) : Value :=
  .record [("address", .integer r.address.toNat), ("scope", .text r.scope), ("name", .text r.name),
    ("table_index", .option (fun index => .integer index.toNat) r.index)]

def Placement.read : Read Placement := Read.record do
  let name ← field "name" Read.text
  let address ← field "address" Read.uint32
  return { name, address }

def Placement.write (p : Placement) : Value :=
  .record [("name", .text p.name), ("address", .integer p.address.toNat)]

def AddressMap.read : Read AddressMap := Read.record do
  let types ← field "types" (Read.members (Read.list Placement.read))
  return .ofTypes types

def AddressMap.write (m : AddressMap) : Value :=
  .record [("types", .record (m.types.map fun (type, placements) =>
    (type, .list Placement.write placements)))]

end Cartridge
