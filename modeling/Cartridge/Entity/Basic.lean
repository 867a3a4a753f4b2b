import Cartridge.Entity.Param
import Cartridge.Script.Routine

/-!
Assembled game objects: entities with their components, archetypes and prefabs. They are what the
exporters lay down.
-/

namespace Cartridge

/-- A place on the map, in pixels. -/
structure Point where
  x : Int32
  y : Int32
  deriving DecidableEq, Repr, Inhabited

instance : Add Point := ⟨fun a b => ⟨a.x + b.x, a.y + b.y⟩⟩

def Point.zero : Point := ⟨0, 0⟩

structure Dimensions where
  width : UInt32
  height : UInt32
  deriving DecidableEq, Repr, Inhabited

def Dimensions.zero : Dimensions := ⟨0, 0⟩

def Dimensions.half (d : Dimensions) : Dimensions :=
  ⟨d.width / 2, d.height / 2⟩

/-- The block of parameters that an entity or component is spawned from. -/
structure SpawnData where
  name : String
  position : Point
  dimensions : Dimensions
  params : List Param
  deriving DecidableEq, Repr, Inhabited

namespace SpawnData

def named (name : String) : SpawnData :=
  ⟨name, .zero, .zero, []⟩

def extents (s : SpawnData) : Dimensions :=
  s.dimensions.half

/-- What makes two blocks interchangeable, wherever their owners stand. -/
def content (s : SpawnData) : List (String × Width × String) :=
  s.params.map Param.content

def sameShape (a b : SpawnData) : Bool :=
  a.content == b.content

def centre (s : SpawnData) : Point :=
  s.position + ⟨s.extents.width.toInt32, s.extents.height.toInt32⟩

end SpawnData

structure Component where
  name : String
  spawn : SpawnData
  routines : List Routine
  deriving DecidableEq, Repr, Inhabited

def Component.named (name : String) : Component :=
  ⟨name, .named name, []⟩

/-- An entity with all its parameters resolved. The parameters of a static entity are laid down
where it is placed; the others are reached through a pointer and can be shared. -/
structure Entity where
  typeName : String
  id : UInt16
  spawn : SpawnData
  components : List Component
  routines : List Routine
  isStatic : Bool
  deriving DecidableEq, Repr, Inhabited

namespace Entity

def named (typeName : String) (id : UInt16) : Entity :=
  ⟨typeName, id, .named typeName, [], [], false⟩

def blocks (e : Entity) : List SpawnData :=
  e.spawn :: e.components.map Component.spawn

/-- What makes two entities interchangeable to the reader of their spawn records. -/
def shape (e : Entity) : List (List (String × Width × String)) :=
  e.blocks.map SpawnData.content

def descriptor (e : Entity) : String :=
  e.typeName ++ "_Typedesc"

end Entity

def archetypeSymbol (typeName name : String) : String :=
  "Archetype_" ++ typeName ++ "_" ++ name

structure Archetype where
  name : String
  typeName : String
  params : List Param
  components : List Component
  deriving DecidableEq, Repr, Inhabited

def Archetype.label (a : Archetype) : String :=
  archetypeSymbol a.typeName a.name

structure Prefab where
  name : String
  id : UInt16
  children : List Entity
  deriving DecidableEq, Repr, Inhabited

end Cartridge
