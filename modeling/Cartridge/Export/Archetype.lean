import Cartridge.Export.Record

/-!
Archetypes as assembly source: a labelled spawn record each.
-/

namespace Cartridge.Export

open Cartridge.Assembly (Line)

def archetypesFile : String := "archetypes.asm"

def archetypeRecord (settings : Settings) (a : Archetype) : List Line :=
  .label a.label :: spawnRecord settings a.name 0 a.params a.components

def archetypeLines (settings : Settings) (archetypes : List Archetype) : List Line :=
  archetypes.flatMap (archetypeRecord settings)

/-- Archetypes as assembly source. -/
def archetypesText (settings : Settings) (archetypes : List Archetype) : String :=
  Assembly.render (archetypeLines settings archetypes)

end Cartridge.Export
