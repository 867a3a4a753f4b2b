import Cartridge.Entity.Basic
import Cartridge.Project.Actor
import Cartridge.Project.Variable

/-!
Editor projects: entity types, archetypes, sprite actors and scenes, as they were authored.
-/

namespace Cartridge

structure RoutineDecl where
  name : String
  returnType : String
  label : String
  params : List (String × String)
  /-- The component slot it belongs to, negative for the entity itself. -/
  slot : Int32
  deriving DecidableEq, Repr, Inhabited

structure PrefabChild where
  instanceId : UInt16
  name : String
  typeId : UInt32
  position : Point
  spriteActor : Option String
  vars : VariableTable
  deriving DecidableEq, Repr, Inhabited

/-- An entity type. A type with a prefab name stands for the children it expands to. -/
structure EntityType where
  id : UInt32
  name : String
  dimensions : Dimensions
  spriteActor : Option String
  vars : VariableTable
  routines : List RoutineDecl
  prefabName : Option String
  prefabChildren : List PrefabChild
  isStatic : Bool
  deriving DecidableEq, Repr, Inhabited

namespace EntityType

def isPrefab (t : EntityType) : Bool :=
  t.prefabName.isSome

def prefabLabel (t : EntityType) : String :=
  t.prefabName.getD ""

end EntityType

structure ArchetypeDef where
  name : String
  typeId : UInt32
  spriteActor : Option String
  vars : VariableTable
  deriving DecidableEq, Repr, Inhabited

/-- An entity placed in a scene. A dimension of zero stands for that of its type. -/
structure Instance where
  id : UInt32
  name : String
  typeId : UInt32
  position : Point
  dimensions : Dimensions
  spriteActor : Option String
  vars : VariableTable
  deriving DecidableEq, Repr, Inhabited

structure Scene where
  name : String
  instances : List Instance
  deriving DecidableEq, Repr, Inhabited

structure Project where
  types : List EntityType
  archetypes : List ArchetypeDef
  actors : List Actor
  scenes : List Scene
  deriving DecidableEq, Repr, Inhabited

namespace Project

def empty : Project := ⟨[], [], [], []⟩

def typeWithId? (p : Project) (id : UInt32) : Option EntityType :=
  p.types.find? fun t => t.id == id

/-! Names are looked up in either letter case and the first match counts. -/

def typeNamed? (p : Project) (name : String) : Option EntityType :=
  p.types.find? fun t => Text.sameName t.name name

def actor? (p : Project) (name : String) : Option Actor :=
  p.actors.find? fun a => Text.sameName a.name name

def scene? (p : Project) (name : String) : Option Scene :=
  p.scenes.find? fun s => Text.sameName s.name name

def prefabTypes (p : Project) : List EntityType :=
  p.types.filter EntityType.isPrefab

end Project

end Cartridge
