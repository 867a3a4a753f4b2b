/-!
Script routines, which are compiled apart from the game and called through an offset table.
-/

namespace Cartridge

/-- A compiled script routine that an entity type or a component declares. -/
structure Routine where
  name : String
  scope : String
  returnType : String
  label : String
  params : List (String × String)
  /-- Slot in an offset table, once there is one. -/
  slot : Option UInt32
  deriving DecidableEq, Repr, Inhabited

namespace Routine

def key (r : Routine) : String × String :=
  (r.scope, r.name)

def paramList (r : Routine) : String :=
  ", ".intercalate (r.params.map fun (type, name) => type ++ " " ++ name)

def signature (r : Routine) : String :=
  r.returnType ++ " " ++ r.scope ++ "::" ++ r.name ++ "(" ++ r.paramList ++ ")"

end Routine

end Cartridge
