/-!
Relocations: the places in compiled script code that refer to the offset table.
-/

namespace Cartridge

/-- A reference to the offset table in a compiled binary. -/
structure Relocation where
  address : UInt32
  /-- Empty for a global symbol such as the base of the table. -/
  scope : String
  name : String
  index : Option UInt64
  deriving DecidableEq, Repr, Inhabited

namespace Relocation

def baseSymbol : String := "_GLOBAL_OFFSET_TABLE_"

def isBase (r : Relocation) : Bool :=
  r.scope.isEmpty && r.name == baseSymbol

end Relocation

end Cartridge
