import Cartridge.Entity.Param
import Cartridge.Entity.Role

/-!
Authored variables: the parameters a type declares, and the values that instances, prefab children
and archetypes put in their place.
-/

namespace Cartridge

/-- The slot of a variable that belongs to the entity itself. As a slot to search it stands for
every slot. -/
def entitySlot : Int32 := -1

/-- A parameter declaration or an override of one. -/
structure Variable where
  name : String
  size : Width
  value : String
  tags : List String
  slot : Int32
  componentName : String
  deriving DecidableEq, Repr, Inhabited

namespace Variable

def ofEntity (v : Variable) : Bool :=
  v.slot < 0

/-- A search of the given slot reaches the variable. -/
def inSlot (slot : Int32) (v : Variable) : Bool :=
  slot == entitySlot || slot == v.slot

/-- A declaration with this name and slot is the one the variable overrides. -/
def overrides (name : String) (slot : Int32) (v : Variable) : Bool :=
  v.inSlot slot && Text.sameName v.name name

def plays (role : Role) (slot : Int32) (v : Variable) : Bool :=
  v.inSlot slot && hasRole v.tags role

end Variable

abbrev VariableTable := List Variable

namespace VariableTable

def named? (table : VariableTable) (name : String) (slot : Int32) : Option Variable :=
  table.find? (Variable.overrides name slot)

def tagged? (table : VariableTable) (role : Role) (slot : Int32) : Option Variable :=
  table.find? (Variable.plays role slot)

end VariableTable

end Cartridge
