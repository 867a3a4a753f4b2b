import Cartridge.Entity.Basic

/-!
The settings of an export.
-/

namespace Cartridge.Export

structure Settings where
  /-- Where on the sprite plane of the target the origin of the editor lies. -/
  border : Point
  /-- How many bytes a debug name takes, its terminator included. -/
  debugNameLength : Nat
  debugNames : Bool
  deriving DecidableEq, Repr

def Settings.default : Settings :=
  ⟨⟨128, 128⟩, 16, true⟩

end Cartridge.Export
