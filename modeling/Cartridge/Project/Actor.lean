import Cartridge.Text.Case

/-!
Sprite actors with their sheets and animations. Names are looked up in either letter case and the
first match counts.
-/

namespace Cartridge

structure SpriteAnimation where
  name : String
  deriving DecidableEq, Repr, Inhabited

structure SpriteSheet where
  name : String
  animations : List SpriteAnimation
  deriving DecidableEq, Repr, Inhabited

def SpriteSheet.animation? (sheet : SpriteSheet) (name : String) : Option SpriteAnimation :=
  sheet.animations.find? fun a => Text.sameName a.name name

structure Actor where
  name : String
  sheets : List SpriteSheet
  deriving DecidableEq, Repr, Inhabited

def Actor.sheet? (actor : Actor) (name : String) : Option SpriteSheet :=
  actor.sheets.find? fun s => Text.sameName s.name name

end Cartridge
