import Cartridge.Entity.Document
import Cartridge.Source.Definition

/-!
The JSON form of definitions.
-/

namespace Cartridge.Source

open Json (Value)

def ComponentDef.write (c : ComponentDef) : Value :=
  .record [("name", .text c.name), ("params", .list Param.write c.params),
    ("spawn_data", c.spawn.write)]

def EntityDef.write (e : EntityDef) : Value :=
  .record [("name", .text e.name), ("is_static", .bool e.isStatic),
    ("params", .list Param.write e.params), ("components", .list .text e.components),
    ("spawn_data", e.spawn.write)]

def Definitions.write (d : Definitions) : Value :=
  .record [("components", .list ComponentDef.write d.components),
    ("entities", .list EntityDef.write d.entities)]

end Cartridge.Source
