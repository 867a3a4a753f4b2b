import Cartridge.Export.Record
import Cartridge.Export.Registry
import Cartridge.Text.Case

/-!
Scenes as assembly source: the spawn records of the dynamic entities, the blocks of the static
ones, a table of each, and a header with the sizes of the tables.
-/

namespace Cartridge.Export

open Cartridge.Assembly (Line)
open Cartridge.Text (hex4)

def sceneFile (scene : String) : String :=
  "scene_" ++ Text.foldCase scene ++ ".asm"

def recordLabel (scene : String) (e : Entity) : String :=
  "SceneEntitySpawnData_" ++ scene ++ "_" ++ e.spawn.name

def staticLabel (scene : String) (e : Entity) : String :=
  "SceneStaticEntity_" ++ scene ++ "_" ++ e.spawn.name

/-- The record of an entity under its label, if it is laid down for this entity. -/
def Placed.recordLines (settings : Settings) (p : Placed) : List Line :=
  if p.owned then .label p.label :: entityRecord settings p.entity else []

def sceneRow (p : Placed) : List Line :=
  [.data .long p.entity.descriptor "Entity descriptor",
    .data .long p.label "Entity spawn data",
    .data .word (hex4 p.entity.spawn.position.x.toInt) "Position X",
    .data .word (hex4 p.entity.spawn.position.y.toInt) "Position Y"]

def dynamics (entities : List Entity) : List Entity :=
  entities.filter fun e => !e.isStatic

def statics (entities : List Entity) : List Entity :=
  entities.filter Entity.isStatic

def placeScene (scene : String) (entities : List Entity) : List Placed :=
  (Registry.empty.placeAll (recordLabel scene) (dynamics entities)).1

def countOperand (n : Nat) : String :=
  String.ofList (Text.decimal n)

def sceneHeader (scene : String) (dynamicCount staticCount : Nat) : List Line :=
  [.label ("SceneData_" ++ scene),
    .data .word (countOperand dynamicCount) "Entity count",
    .data .long ("SceneEntityData_" ++ scene) "Entity table",
    .data .word (countOperand staticCount) "Static entity count",
    .data .long ("SceneStaticEntityData_" ++ scene) "Static entity table"]

def sceneLines (settings : Settings) (scene : String) (entities : List Entity) : List Line :=
  (placeScene scene entities).flatMap (Placed.recordLines settings) ++
    [.blank] ++
    (statics entities).flatMap (fun e => .label (staticLabel scene e) :: staticBlock settings e) ++
    [.label ("SceneEntityData_" ++ scene)] ++
    (placeScene scene entities).flatMap sceneRow ++
    [.blank, .label ("SceneStaticEntityData_" ++ scene)] ++
    (statics entities).map (fun e => .data .long (staticLabel scene e) "Static entity") ++
    [.blank] ++
    sceneHeader scene (dynamics entities).length (statics entities).length

/-- A scene as assembly source. -/
def sceneText (settings : Settings) (scene : String) (entities : List Entity) : String :=
  Assembly.render (sceneLines settings scene entities)

end Cartridge.Export
