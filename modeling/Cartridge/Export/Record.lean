import Cartridge.Assembly.Line
import Cartridge.Export.Settings
import Cartridge.Text.Hexadecimal

/-!
The records that entities are laid down as: the spawn record, which holds the parameters of an
entity and of its components, and the block of a static entity, which holds the whole entity.
-/

namespace Cartridge.Export

open Cartridge.Assembly (Line)
open Cartridge.Text (hex4 hex8)

/-- The part of a debug name that leaves room for its terminator, and the number of zero bytes
that follow it. -/
def debugName (name : String) (length : Nat) : String × Nat :=
  let size := name.toList.length
  if length - 1 < size then (String.ofList (name.toList.take (length - 1)), 1)
  else (name, length - size)

def debugNameLine (name : String) (length : Nat) (comment : String) : Line :=
  .name (debugName name length).1 (debugName name length).2 comment

def debugNameLines (settings : Settings) (name comment : String) : List Line :=
  if settings.debugNames then
    [.unlessFinal, debugNameLine name settings.debugNameLength comment, .endCondition]
  else []

def paramLine (p : Param) : Line :=
  .data p.size p.operand p.name

def componentLines (c : Component) : List Line :=
  if c.spawn.params.isEmpty then []
  else .comment c.name :: c.spawn.params.map paramLine ++ [.even]

/-- Some parameter is a single byte, so the next one may lie at an odd address. -/
def hasByte (params : List Param) : Bool :=
  params.any fun p => p.size == .byte

/-- The record that an entity is spawned from. -/
def spawnRecord (settings : Settings) (name : String) (id : UInt16) (params : List Param)
    (components : List Component) : List Line :=
  debugNameLines settings name "EntitySpawnData_DebugName" ++
    .data .word (hex4 id.toNat) "EntitySpawnData_Id" ::
    params.map paramLine ++
    (if hasByte params then [.even] else []) ++
    components.flatMap componentLines ++
    [.blank]

def entityRecord (settings : Settings) (e : Entity) : List Line :=
  spawnRecord settings e.spawn.name e.id e.spawn.params e.components

/-- The block of an entity that is not spawned through a record. Its position is that of its
middle, in 16.16 fixed point. -/
def staticBlock (settings : Settings) (e : Entity) : List Line :=
  debugNameLines settings e.spawn.name "EntityBlock_DebugName" ++
    [.data .word "0x0" "EntityBlock_Flags",
      .data .word "0x0" "EntityBlock_Next",
      .data .word e.descriptor "Entity_TypeDesc",
      .data .word (hex4 e.id.toNat) "Entity_Id",
      .data .long (hex8 (e.spawn.centre.x.toInt * 0x10000)) "Entity_PosX",
      .data .long (hex8 (e.spawn.centre.y.toInt * 0x10000)) "Entity_PosY",
      .data .word (hex4 e.spawn.extents.width.toNat) "Entity_ExtentsX",
      .data .word (hex4 e.spawn.extents.height.toNat) "Entity_ExtentsY"] ++
    e.spawn.params.map paramLine ++
    [.even, .blank]

end Cartridge.Export
