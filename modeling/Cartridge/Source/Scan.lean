import Cartridge.Text.Blank
import Cartridge.Text.Case
import Cartridge.Text.Decimal
import Cartridge.Text.Lines
import Cartridge.Text.Search

/-!
Blocks of annotated assembly source: the lines between a begin marker and the end marker of its
kind. A semicolon starts a comment. The bodies of macro definitions mention markers themselves and
are passed over whole.
-/

namespace Cartridge.Source

open Cartridge.Text

inductive BlockKind where
  | entity
  | staticEntity
  | component
  | entitySpawnData
  | componentSpawnData
  deriving DecidableEq, Repr, Inhabited

namespace BlockKind

def beginMarker : BlockKind → String
  | .entity => "ENTITY_BEGIN"
  | .staticEntity => "STATIC_ENTITY_BEGIN"
  | .component => "ENTITY_COMPONENT_BEGIN"
  | .entitySpawnData => "ENTITY_SPAWN_DATA_BEGIN"
  | .componentSpawnData => "COMPONENT_SPAWN_DATA_BEGIN"

def endMarker : BlockKind → String
  | .entity => "ENTITY_END"
  | .staticEntity => "STATIC_ENTITY_END"
  | .component => "ENTITY_COMPONENT_END"
  | .entitySpawnData => "ENTITY_SPAWN_DATA_END"
  | .componentSpawnData => "COMPONENT_SPAWN_DATA_END"

/-- The kinds in the order in which a line is searched for their begin markers. -/
def all : List BlockKind :=
  [.entitySpawnData, .componentSpawnData, .staticEntity, .entity, .component]

end BlockKind

inductive Cause where
  | unnamedBlock (kind : BlockKind)
  | unclosedBlock (kind : BlockKind) (name : String)
  | unnamedComponent
  | unclosedTags
  deriving DecidableEq, Repr

namespace Cause

def message : Cause → String
  | .unnamedBlock kind => kind.beginMarker ++ " without a name"
  | .unclosedBlock kind name =>
    kind.beginMarker ++ " '" ++ name ++ "' is missing " ++ kind.endMarker
  | .unnamedComponent => "ENT_COMPONENT without a component name"
  | .unclosedTags => "unclosed tag block, expected ']'"

end Cause

/-- What is wrong with a source, and where. Lines count from one, and columns are byte positions
that count from one. -/
structure Fault where
  line : Nat
  column : Nat
  cause : Cause
  deriving DecidableEq, Repr

def Fault.message (f : Fault) : String :=
  String.ofList (decimal f.line) ++ ":" ++ String.ofList (decimal f.column) ++ ": " ++
    f.cause.message

structure Line where
  number : Nat
  raw : String
  deriving DecidableEq, Repr, Inhabited

namespace Line

def text (l : Line) : String :=
  String.ofList (l.raw.toList.takeWhile (· != ';'))

def words (l : Line) : List String :=
  Text.words l.text

def mentions (l : Line) (word : String) : Bool :=
  l.words.any (sameName · word)

end Line

def byteLength : List Char → Nat
  | [] => 0
  | c :: rest => c.utf8Size + byteLength rest

def before? (pattern s : String) : Option (List Char) :=
  (cutAt (pattern.toList.map Char.toUpper) (s.toList.map Char.toUpper)).map fun (before, _) =>
    s.toList.take before.length

def columnOf (pattern s : String) : Nat :=
  match before? pattern s with
  | some before => byteLength before + 1
  | none => 1

def numberLines (number : Nat) : List String → List Line
  | [] => []
  | raw :: rest => ⟨number, raw⟩ :: numberLines (number + 1) rest

/-- A block as it was cut out of a source; `line` is the line of its begin marker. -/
structure TextBlock where
  kind : BlockKind
  name : String
  line : Nat
  lines : List Line
  deriving DecidableEq, Repr, Inhabited

def wordAfter? (marker : String) : List String → Option (Option String)
  | [] => none
  | word :: rest => if sameName word marker then some rest.head? else wordAfter? marker rest

def Line.begins? (l : Line) : Option (BlockKind × Option String) :=
  BlockKind.all.findSome? fun kind => (wordAfter? kind.beginMarker l.words).map fun name =>
    (kind, name)

/-- The blocks of the remaining lines, given whether these start inside a macro definition and
which block is open. -/
def blocksFrom (inMacro : Bool) (current : Option TextBlock) :
    List Line → Except Fault (List TextBlock)
  | [] =>
    match current with
    | none => .ok []
    | some block => .error ⟨block.line, 1, .unclosedBlock block.kind block.name⟩
  | l :: rest =>
    if l.words.isEmpty then blocksFrom inMacro current rest
    else if inMacro then blocksFrom (!l.mentions "endm") current rest
    else if l.mentions "macro" then blocksFrom true current rest
    else
      match current with
      | some block =>
        if l.mentions block.kind.endMarker then
          (blocksFrom false none rest).map (block :: ·)
        else blocksFrom false (some { block with lines := block.lines ++ [l] }) rest
      | none =>
        match l.begins? with
        | none => blocksFrom false none rest
        | some (kind, none) =>
          .error ⟨l.number, columnOf kind.beginMarker l.raw, .unnamedBlock kind⟩
        | some (kind, some name) => blocksFrom false (some ⟨kind, name, l.number, []⟩) rest

/-- The blocks of a source. -/
def scan (source : String) : Except Fault (List TextBlock) :=
  blocksFrom false none (numberLines 1 (lines source))

end Cartridge.Source
