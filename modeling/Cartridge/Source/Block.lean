import Cartridge.Entity.Param
import Cartridge.Source.Scan

/-!
The contents of blocks: parameter declarations such as `Health rs.w 1 [TAGS=A,B]` and component
references such as `ENT_COMPONENT ECSprite`. All other lines say nothing.
-/

namespace Cartridge.Source

open Cartridge.Text

inductive Item where
  | param (p : Param)
  | component (name : String)
  deriving DecidableEq, Repr

structure Block where
  kind : BlockKind
  name : String
  line : Nat
  items : List Item
  deriving DecidableEq, Repr

namespace Block

def params (b : Block) : List Param :=
  b.items.filterMap fun
    | .param p => some p
    | .component _ => none

def components (b : Block) : List String :=
  b.items.filterMap fun
    | .param _ => none
    | .component name => some name

end Block

def splitTags (body : List Char) : List String :=
  ((splitAtChar ',' body).map trimList).filterMap fun tag =>
    if tag.isEmpty then none else some (String.ofList tag)

/-- The tags of a line; a line without a tag list has none. -/
def Line.tags (l : Line) : Except Fault (List String) :=
  match before? "[TAGS=" l.text with
  | none => .ok []
  | some before =>
    match cutAtChar ']' (l.text.toList.drop (before.length + 6)) with
    | none => .error ⟨l.number, byteLength before + 1, .unclosedTags⟩
    | some (body, _) => .ok (splitTags body)

def Line.item? (l : Line) : Except Fault (Option Item) :=
  match l.words with
  | [] => .ok none
  | first :: rest =>
    if sameName first "ENT_COMPONENT" then
      match rest with
      | [] => .error ⟨l.number, 1, .unnamedComponent⟩
      | name :: _ => .ok (some (.component name))
    else
      match rest.head?.bind Width.ofReserve? with
      | none => .ok none
      | some size => l.tags.map fun tags => some (.param ⟨first, size, "0", tags⟩)

/-- What the lines of a block declare. -/
def itemsOf : List Line → Except Fault (List Item)
  | [] => .ok []
  | l :: rest => do
    let item ← l.item?
    let others ← itemsOf rest
    return item.toList ++ others

def TextBlock.parse (b : TextBlock) : Except Fault Block := do
  return ⟨b.kind, b.name, b.line, ← itemsOf b.lines⟩

def parse (source : String) : Except Fault (List Block) := do
  (← scan source).mapM TextBlock.parse

end Cartridge.Source
