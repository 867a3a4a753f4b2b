import Cartridge.Entity.Basic
import Cartridge.Text.Decimal
import Cartridge.Text.Fresh

/-!
Sharing of spawn records. Entities of equal shape share the record of the first of them. Static
entities are laid down in full wherever they stand and take no part.
-/

namespace Cartridge.Export

abbrev Shape := List (List (String × Width × String))

inductive Registration where
  | owner (label : String)
  | alias (label : String)
  | unshared
  deriving DecidableEq, Repr

namespace Registration

def label? : Registration → Option String
  | .owner label => some label
  | .alias label => some label
  | .unshared => none

def isOwner : Registration → Bool
  | .owner _ => true
  | _ => false

end Registration

/-- A registered entity. Only the owner of a record has a shape. -/
structure Entry where
  key : String
  label : String
  shape : Option Shape
  deriving DecidableEq, Repr

/-- The entities registered so far, in order. -/
structure Registry where
  entries : List Entry
  deriving DecidableEq, Repr

namespace Registry

def empty : Registry := ⟨[]⟩

def owner? (r : Registry) (shape : Shape) : Option Entry :=
  r.entries.find? fun e => e.shape == some shape

def isTaken (r : Registry) (label : String) : Bool :=
  r.entries.any fun e => e.label == label

def numbered (label : String) (n : Nat) : String :=
  label ++ "_" ++ String.ofList (Text.decimal n)

/-- The label itself if it is free, else the first free one of `label_2`, `label_3` and so on. -/
def freeLabel (r : Registry) (label : String) : String :=
  if r.isTaken label then Text.fresh r.isTaken (numbered label) 2 r.entries.length else label

/-- Register an entity under a label. -/
def register (r : Registry) (label : String) (e : Entity) : Registration × Registry :=
  if e.isStatic then (.unshared, r)
  else
    match r.owner? e.shape with
    | some owner => (.alias owner.label, ⟨r.entries ++ [⟨e.spawn.name, owner.label, none⟩]⟩)
    | none =>
      (.owner (r.freeLabel label),
        ⟨r.entries ++ [⟨e.spawn.name, r.freeLabel label, some e.shape⟩]⟩)

def labelOf? (r : Registry) (key : String) : Option String :=
  (r.entries.find? fun e => e.key == key).map Entry.label

def size (r : Registry) : Nat :=
  r.entries.length

def owners (r : Registry) : Nat :=
  r.entries.countP fun e => e.shape.isSome

def aliases (r : Registry) : Nat :=
  r.size - r.owners

end Registry

/-- An entity with the label of its record; `owned` if the record is laid down for it. -/
structure Placed where
  entity : Entity
  label : String
  owned : Bool
  deriving DecidableEq, Repr

/-- Find a record for an entity. A static entity has one of its own under the requested label. -/
def Registry.place (r : Registry) (label : String) (e : Entity) : Placed × Registry :=
  match r.register label e with
  | (.owner label, r) => (⟨e, label, true⟩, r)
  | (.alias label, r) => (⟨e, label, false⟩, r)
  | (.unshared, r) => (⟨e, label, true⟩, r)

def Registry.placeAll (label : Entity → String) (r : Registry) :
    List Entity → List Placed × Registry
  | [] => ([], r)
  | e :: rest =>
    let (placed, r) := r.place (label e) e
    let (others, r) := Registry.placeAll label r rest
    (placed :: others, r)

end Cartridge.Export
