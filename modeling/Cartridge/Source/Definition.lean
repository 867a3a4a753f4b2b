import Cartridge.Entity.Basic
import Cartridge.Report
import Cartridge.Source.Block

/-!
Definitions: the components and entities that a set of sources declares, each paired with its
spawn data, which may stand in another source. Names compare in either letter case, and the first
block of a name counts.
-/

namespace Cartridge.Source

open Cartridge.Text

structure ComponentDef where
  name : String
  params : List Param
  spawn : SpawnData
  deriving DecidableEq, Repr

structure EntityDef where
  name : String
  isStatic : Bool
  params : List Param
  components : List String
  spawn : SpawnData
  deriving DecidableEq, Repr

structure Definitions where
  components : List ComponentDef
  entities : List EntityDef
  deriving DecidableEq, Repr

namespace Definitions

def component? (d : Definitions) (name : String) : Option ComponentDef :=
  d.components.find? fun c => sameName c.name name

def entity? (d : Definitions) (name : String) : Option EntityDef :=
  d.entities.find? fun e => sameName e.name name

end Definitions

/-- The blocks of the sources loaded so far, and how many sources these were. -/
structure SourceSet where
  blocks : List Block
  sources : Nat
  deriving DecidableEq, Repr

namespace SourceSet

def empty : SourceSet := ⟨[], 0⟩

/-- Add a source; one that is at fault changes nothing. -/
def load (s : SourceSet) (source : String) : Except Fault SourceSet :=
  (parse source).map fun blocks => ⟨s.blocks ++ blocks, s.sources + 1⟩

/-- Each block with whether a block of its name stands earlier in the list or among the earlier
names. -/
def markRepeats (earlier : List String) : List Block → List (Block × Bool)
  | [] => []
  | b :: rest =>
    (b, earlier.any fun name => sameName name b.name) :: markRepeats (b.name :: earlier) rest

def componentBlocks (s : SourceSet) : List (Block × Bool) :=
  markRepeats [] (s.blocks.filter fun b => b.kind == .component)

def entityBlocks (s : SourceSet) : List (Block × Bool) :=
  markRepeats [] (s.blocks.filter fun b => b.kind == .entity || b.kind == .staticEntity)

/-- The spawn data that the first block of the given kind declares for an owner. -/
def spawnOf (s : SourceSet) (kind : BlockKind) (owner : String) : SpawnData :=
  match s.blocks.find? fun b => b.kind == kind && sameName b.name owner with
  | some b => { SpawnData.named owner with params := b.params }
  | none => .named owner

def componentDef (s : SourceSet) (b : Block) : ComponentDef :=
  ⟨b.name, b.params, s.spawnOf .componentSpawnData b.name⟩

def componentDefs (s : SourceSet) : List ComponentDef :=
  s.componentBlocks.filterMap fun (b, repeated) =>
    if repeated then none else some (s.componentDef b)

def componentName? (s : SourceSet) (name : String) : Option String :=
  (s.componentDefs.find? fun c => sameName c.name name).map ComponentDef.name

def entityDef (s : SourceSet) (b : Block) : EntityDef :=
  ⟨b.name, b.kind == .staticEntity, b.params, b.components.filterMap s.componentName?,
    s.spawnOf .entitySpawnData b.name⟩

def definitions (s : SourceSet) : Definitions where
  components := s.componentDefs
  entities := s.entityBlocks.filterMap fun (b, repeated) =>
    if repeated then none else some (s.entityDef b)

/-! What is left out of the definitions is reported. -/

def repeatedComponents (s : SourceSet) : List Event :=
  s.componentBlocks.filterMap fun (b, repeated) =>
    if repeated then
      some (.warning "duplicate component ignored"
        [("component", .own b.name), ("line", .ofNat b.line)])
    else none

def unknownComponents (s : SourceSet) (b : Block) : List Event :=
  b.components.filterMap fun name =>
    if (s.componentName? name).isSome then none
    else some (.warning "unknown component" [("entity", .own b.name), ("component", .own name)])

def entityReports (s : SourceSet) : List Event :=
  s.entityBlocks.flatMap fun (b, repeated) =>
    if repeated then
      [.warning "duplicate entity ignored" [("entity", .own b.name), ("line", .ofNat b.line)]]
    else s.unknownComponents b

def isOrphan (d : Definitions) (b : Block) : Bool :=
  match b.kind with
  | .entitySpawnData => (d.entity? b.name).isNone
  | .componentSpawnData => (d.component? b.name).isNone
  | _ => false

def orphanReports (s : SourceSet) : List Event :=
  (s.blocks.filter (isOrphan s.definitions)).map fun b =>
    .warning "spawn data has no owner" [("kind", .own b.kind.beginMarker), ("name", .own b.name)]

/-- The definitions, with a report of what was left out. -/
def resolve (s : SourceSet) : Logged Definitions :=
  ⟨s.definitions, s.repeatedComponents ++ s.entityReports ++ s.orphanReports⟩

end SourceSet

end Cartridge.Source
