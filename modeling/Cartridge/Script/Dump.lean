import Cartridge.Entity.Role
import Cartridge.Script.AddressMap
import Cartridge.Script.OffsetTable
import Cartridge.Script.Relocation
import Cartridge.Script.Symbol
import Cartridge.Text.Alphanumeric
import Cartridge.Text.Lines

/-!
Symbol dumps of compiled script code. A dump lists symbols with their addresses, and relocations
as lines of an address, a kind and a symbol.
-/

namespace Cartridge.Script.Dump

open Cartridge.Text

def relocationMark : List Char := "R_68K_GOT".toList

def isMarked (line : List Char) : Bool :=
  containsList relocationMark line

def address? (digits : List Char) : Option UInt32 :=
  (readMarkedHex? UInt32.size digits).map UInt32.ofNat

/-! Relocations. -/

def fields? (line : List Char) : Option (UInt32 × List Char) := do
  let (digits, rest) ← cutAtBlank (trimList line)
  let (kind, symbol) ← cutAtBlank (trimStartList rest)
  if isMarked kind then return (← address? digits, trimList symbol) else none

/-- The relocation that a line describes. -/
def relocation? (table : OffsetTable) (line : List Char) : Option Relocation := do
  let (address, symbol) ← fields? line
  let (scope, name) ← Symbol.split? symbol
  let scope := String.ofList scope
  let name := String.ofList name
  let index := if scope.isEmpty then none else (table.find? scope name).map UInt64.ofNat
  return ⟨address, scope, name, index⟩

def relocationsFrom (table : OffsetTable) (number : Nat) :
    List (List Char) → Except LinkError (List Relocation)
  | [] => .ok []
  | line :: rest =>
    if isMarked line then
      match relocation? table line with
      | none => .error (.malformedRelocation number (String.ofList (trimList line)))
      | some r => (relocationsFrom table (number + 1) rest).map (r :: ·)
    else relocationsFrom table (number + 1) rest

/-- The relocations of a dump, in order. Every line that speaks of the offset table has to be
one. -/
def relocations (table : OffsetTable) (dump : String) : Except LinkError (List Relocation) :=
  relocationsFrom table 1 (linesList dump.toList)

def startsWithBase (relocations : List Relocation) : Bool :=
  match relocations.head? with
  | none => false
  | some r => r.isBase

/-- The relocations of a dump, or none at all if the first is not that of the base. -/
def checkedRelocations (table : OffsetTable) (dump : String) :
    Logged (Except LinkError (List Relocation)) :=
  match relocations table dump with
  | .error e => ⟨.error e, []⟩
  | .ok [] => ⟨.ok [], []⟩
  | .ok (first :: others) =>
    if first.isBase then ⟨.ok (first :: others), []⟩
    else ⟨.ok [], [.warning "relocation table rejected"
      [("first", .own first.name), ("count", .ofNat (others.length + 1))]]⟩

/-! Symbols. -/

def lineAddress? (line : List Char) : Option UInt32 :=
  (wordsList line).head?.bind address?

/-- `pattern` stands in a line as a whole qualified name. Occurrences are tried from the left
without overlap; `previous` is the character before the rest of the line, and `skip` counts the
characters of an occurrence that was refused. -/
def hasSymbol (pattern : List Char) (previous : Option Char) (skip : Nat) : List Char → Bool
  | [] => false
  | c :: rest =>
    match skip with
    | skip + 1 => hasSymbol pattern (some c) skip rest
    | 0 =>
      match afterStart pattern (c :: rest) with
      | none => hasSymbol pattern (some c) 0 rest
      | some after =>
        (!previous.any (fun p => isIdentifierChar p || p == ':') &&
            !after.head?.any isIdentifierChar) ||
          hasSymbol pattern (some c) (pattern.length - 1) rest

/-- The address on the first line that satisfies a test and starts with an address; lines that
speak of the offset table are passed over. -/
def findAddress? (test : List Char → Bool) (dump : String) : Option UInt32 :=
  ((linesList dump.toList).filter fun line => !isMarked line && test line).findSome? lineAddress?

def routineAddress? (dump scope name : String) : Option UInt32 :=
  findAddress? (hasSymbol (scope ++ "::" ++ name).toList none 0) dump

/-- The address of the accessor that is generated for a script global of the given type. -/
def globalAddress? (dump type : String) : Option UInt32 :=
  findAddress?
    (fun line => containsList ("static const " ++ type ++ "&").toList line ||
      containsList ("static const " ++ type ++ "*").toList line)
    dump

/-! Address maps. -/

def globals (e : Entity) : List String :=
  (e.blocks.flatMap SpawnData.params).filterMap fun p => findPayload? p.tags globalKey

def placements (dump : String) (e : Entity) : List Placement :=
  e.routines.filterMap (fun r =>
      (routineAddress? dump r.scope r.name).map fun a => ⟨r.name, a⟩) ++
    (globals e).filterMap fun type => (globalAddress? dump type).map fun a => ⟨type, a⟩

def firstOfTypes (seen : List String) : List Entity → List Entity
  | [] => []
  | e :: rest =>
    if seen.contains e.typeName then firstOfTypes seen rest
    else e :: firstOfTypes (e.typeName :: seen) rest

/-- The addresses that a dump has for the routines and globals of entities, one entity of each
type. -/
def addresses (dump : String) (entities : List Entity) : AddressMap :=
  (firstOfTypes [] entities).foldl
    (fun m e => (placements dump e).foldl (fun m p => m.insert e.typeName p.name p.address) m)
    .empty

end Cartridge.Script.Dump
