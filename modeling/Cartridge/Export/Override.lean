import Cartridge.Project.Basic
import Cartridge.Script.AddressMap

/-!
Override levels. What an instance says about a variable counts before what a prefab child says,
that before an archetype, and the type comes last.
-/

namespace Cartridge.Export

/-- What an override level says: its variables, and the sprite actor it names. -/
structure Level where
  vars : VariableTable
  spriteActor : Option String
  deriving DecidableEq, Repr

end Cartridge.Export

namespace Cartridge

def Instance.level (i : Instance) : Export.Level := ⟨i.vars, i.spriteActor⟩

def PrefabChild.level (c : PrefabChild) : Export.Level := ⟨c.vars, c.spriteActor⟩

def ArchetypeDef.level (a : ArchetypeDef) : Export.Level := ⟨a.vars, a.spriteActor⟩

def EntityType.level (t : EntityType) : Export.Level := ⟨t.vars, t.spriteActor⟩

end Cartridge

namespace Cartridge.Export

/-- All that decides what the parameters of an entity resolve to. -/
structure Context where
  project : Project
  type : EntityType
  placement : Option Instance
  child : Option PrefabChild
  archetype : Option ArchetypeDef
  addresses : AddressMap
  border : Point
  deriving Repr

namespace Context

def overrides (c : Context) : List Level :=
  (c.placement.map Instance.level).toList ++ (c.child.map PrefabChild.level).toList ++
    (c.archetype.map ArchetypeDef.level).toList

def levels (c : Context) : List Level :=
  c.overrides ++ [c.type.level]

/-- The value of a declaration, taken from the strongest level that overrides it. -/
def valueOf (c : Context) (decl : Variable) : String :=
  match c.overrides.findSome? fun level => level.vars.named? decl.name decl.slot with
  | some v => v.value
  | none => decl.value

def tagged? (c : Context) (role : Role) (slot : Int32) : Option Variable :=
  c.levels.findSome? fun level => level.vars.tagged? role slot

/-- The sprite actor for a slot: the one that the strongest variable with that role names, or else
the first known one that a level names. -/
def actor? (c : Context) (slot : Int32) : Option Actor :=
  match (c.tagged? .spriteActor slot).bind fun v => c.project.actor? v.value with
  | some actor => some actor
  | none => c.levels.findSome? fun level => level.spriteActor.bind c.project.actor?

end Context

end Cartridge.Export
