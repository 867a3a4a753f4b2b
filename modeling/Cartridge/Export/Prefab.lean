import Cartridge.Export.Scene

/-!
Prefabs as assembly source: a root record for each prefab, the spawn records of the children,
which prefabs share, and for each prefab a table of its children.
-/

namespace Cartridge.Export

open Cartridge.Assembly (Line)
open Cartridge.Text (hex4)

def prefabsFile : String := "prefabs.asm"

def childLabel (parent : String) (e : Entity) : String :=
  "prefabchildspawndata_" ++ parent ++ "_" ++ e.spawn.name

def rootLabel (name : String) : String :=
  "prefabdata_" ++ name

def tableLabel (name : String) : String :=
  "prefabspawntable_" ++ name

def prefabRoot (p : Prefab) : List Line :=
  [.label (rootLabel p.name),
    .data .word (hex4 p.id.toNat) "Prefab_TypeId",
    .data .word (hex4 p.children.length) "Prefab_ChildCount",
    .data .long (tableLabel p.name) "Prefab_SpawnTable",
    .blank]

def placePrefabs (r : Registry) : List Prefab → List (Prefab × List Placed)
  | [] => []
  | p :: rest =>
    let (children, r) := r.placeAll (childLabel p.name) p.children
    (p, children) :: placePrefabs r rest

/-- The row of a child in the table of its prefab, with the place of its middle. -/
def childRow (p : Placed) : List Line :=
  [.data .word p.entity.descriptor "Entity descriptor",
    .data .long p.label "Entity spawn data",
    .data .word (hex4 p.entity.spawn.centre.x.toInt) "Position X",
    .data .word (hex4 p.entity.spawn.centre.y.toInt) "Position Y",
    .data .word (hex4 p.entity.spawn.extents.width.toNat) "ExtentsX",
    .data .word (hex4 p.entity.spawn.extents.height.toNat) "ExtentsY",
    .blank]

def prefabTable (name : String) (children : List Placed) : List Line :=
  .label (tableLabel name) :: children.flatMap childRow ++ [.blank]

def prefabLines (settings : Settings) (prefabs : List Prefab) : List Line :=
  prefabs.flatMap prefabRoot ++
    [.blank] ++
    (placePrefabs .empty prefabs).flatMap
      (fun (_, children) => children.flatMap (Placed.recordLines settings)) ++
    [.blank] ++
    (placePrefabs .empty prefabs).flatMap fun (p, children) => prefabTable p.name children

/-- Prefabs as assembly source. -/
def prefabsText (settings : Settings) (prefabs : List Prefab) : String :=
  Assembly.render (prefabLines settings prefabs)

end Cartridge.Export
