import Cartridge.Text.Blank
import Cartridge.Text.Case
import Cartridge.Text.Search

/-!
Tags. A tag either gives a parameter a role, by naming it, or carries a payload after an equals
sign, as in `SCRIPTFUNC=OnHit`. Names compare in either letter case.
-/

namespace Cartridge

/-- The role a tag gives to a parameter. -/
inductive Role where
  | positionX
  | positionY
  | spriteActor
  | spriteSheet
  | spriteAnimation
  | entityDesc
  | entityArchetype
  | scriptData
  | prefabData
  deriving DecidableEq, Repr, Inhabited

namespace Role

def all : List Role :=
  [.positionX, .positionY, .spriteActor, .spriteSheet, .spriteAnimation, .entityDesc,
    .entityArchetype, .scriptData, .prefabData]

def tag : Role → String
  | .positionX => "POSITION_X"
  | .positionY => "POSITION_Y"
  | .spriteActor => "SPRITE_ACTOR"
  | .spriteSheet => "SPRITE_SHEET"
  | .spriteAnimation => "SPRITE_ANIM"
  | .entityDesc => "ENTITY_DESC"
  | .entityArchetype => "ENTITY_ARCHETYPE"
  | .scriptData => "SCRIPT_DATA"
  | .prefabData => "PREFAB_DATA"

def ofTag? (tag : String) : Option Role :=
  all.find? fun role => Text.sameName role.tag tag

end Role

def hasRole (tags : List String) (role : Role) : Bool :=
  tags.any fun tag => Role.ofTag? tag == some role

/-- The payload of a tag whose key, blanks around it apart, is `key`. -/
def payload? (key tag : String) : Option String :=
  match Text.cutAtChar '=' tag.toList with
  | none => none
  | some (name, value) =>
    if Text.sameName (String.ofList (Text.trimList name)) key then
      some (String.ofList (Text.trimList value))
    else none

def findPayload? (tags : List String) (key : String) : Option String :=
  tags.findSome? (payload? key)

def routineKey : String := "SCRIPTFUNC"

def globalKey : String := "SCRIPTGLOBAL"

end Cartridge
