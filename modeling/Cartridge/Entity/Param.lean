import Cartridge.Text.Case

/-!
Spawn parameters: named values of a fixed width. The value is text, either a literal or a symbol
that the assembler resolves.
-/

namespace Cartridge

/-- Width of a parameter in the memory of the target. -/
inductive Width where
  | byte
  | word
  | long
  deriving DecidableEq, Repr, Inhabited

namespace Width

def bytes : Width → Nat
  | .byte => 1
  | .word => 2
  | .long => 4

def directive : Width → String
  | .byte => "dc.b"
  | .word => "dc.w"
  | .long => "dc.l"

def ofReserve? (directive : String) : Option Width :=
  if Text.sameName directive "rs.b" then some .byte
  else if Text.sameName directive "rs.w" then some .word
  else if Text.sameName directive "rs.l" then some .long
  else none

end Width

/-- A spawn parameter. The tags say how its value came about. -/
structure Param where
  name : String
  size : Width
  value : String
  tags : List String
  deriving DecidableEq, Repr, Inhabited

namespace Param

/-- What decides whether two parameters are interchangeable: everything but the tags. -/
def content (p : Param) : String × Width × String :=
  (p.name, p.size, p.value)

/-- The operand that is laid down for a parameter. A blank value is laid down as zero. -/
def operand (p : Param) : String :=
  if p.value.isEmpty then "0" else p.value

end Param

end Cartridge
