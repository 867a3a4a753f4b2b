import Cartridge.Text.Case

/-!
Addresses of compiled routines and globals, by the entity type they belong to.
-/

namespace Cartridge

structure Placement where
  name : String
  address : UInt32
  deriving DecidableEq, Repr, Inhabited

/-- The placements of each entity type. Types are in ascending order of their names, and a type's
placements in the order they were made. -/
structure AddressMap where
  types : List (String × List Placement)
  deriving DecidableEq, Repr, Inhabited

namespace AddressMap

def empty : AddressMap := ⟨[]⟩

def isEmpty (m : AddressMap) : Bool :=
  m.types.isEmpty

/-- Change what an ascending table holds for a key; a key that it lacks starts out as `fresh`. -/
def alter {α : Type} (key : String) (fresh : α) (change : α → α) :
    List (String × α) → List (String × α)
  | [] => [(key, change fresh)]
  | (k, a) :: rest =>
    if k = key then (k, change a) :: rest
    else if key < k then (key, change fresh) :: (k, a) :: rest
    else (k, a) :: alter key fresh change rest

/-- Place `name` for a type, after what that type holds already. -/
def insert (m : AddressMap) (type name : String) (address : UInt32) : AddressMap :=
  ⟨alter type [] (· ++ [⟨name, address⟩]) m.types⟩

/-- The address of `name` in the first type of that name, both in either letter case. -/
def find? (m : AddressMap) (type name : String) : Option UInt32 :=
  match m.types.find? fun t => Text.sameName t.1 type with
  | none => none
  | some (_, placements) =>
    (placements.find? fun p => Text.sameName p.name name).map Placement.address

def ofTypes (types : List (String × List Placement)) : AddressMap :=
  ⟨types.foldl (fun table (type, placements) => alter type [] (fun _ => placements) table) []⟩

end AddressMap

end Cartridge
