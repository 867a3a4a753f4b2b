import Cartridge.Json.Value

/-!
Reading typed data from a JSON document.

A record is written as an object with a member for each field, or as an array of its fields in
the order they are declared. In an object, members that are no field are ignored and a field given
twice is an error. A field with a default may be left out of an object, or off the end of an
array. A choice without data is written as its name, or as an object with that name for its only
key and `null` for its value.
-/

namespace Cartridge.Json

abbrev Read (α : Type) := Value → Option α

namespace Read

def text : Read String
  | .string t => t
  | _ => none

def bool : Read Bool
  | .bool b => some b
  | _ => none

def integer (low high : Int) : Read Int
  | .integer i => if low ≤ i ∧ i ≤ high then some i else none
  | _ => none

def natural (bound : Nat) : Read Nat
  | .integer i => if 0 ≤ i ∧ i < bound then some i.toNat else none
  | _ => none

def uint16 : Read UInt16 := fun v =>
  (natural UInt16.size v).map UInt16.ofNat

def uint32 : Read UInt32 := fun v =>
  (natural UInt32.size v).map UInt32.ofNat

def uint64 : Read UInt64 := fun v =>
  (natural UInt64.size v).map UInt64.ofNat

def int32 : Read Int32 := fun v =>
  (integer (-0x80000000) 0x7fffffff v).map Int32.ofInt

def list {α : Type} (item : Read α) : Read (List α)
  | .array items => items.mapM item
  | _ => none

def pair {α β : Type} (first : Read α) (second : Read β) : Read (α × β)
  | .array [a, b] => do return (← first a, ← second b)
  | _ => none

def option {α : Type} (read : Read α) : Read (Option α)
  | .null => some none
  | v => (read v).map some

def choice {α : Type} (named : String → Option α) : Read α
  | .string (some name) => named name
  | .object [(some name, .null)] => named name
  | _ => none

/-- An object read as a finite map; of a repeated key the last value counts, but every value must
be readable. -/
def members {α : Type} (read : Read α) : Read (List (String × α))
  | .object members => members.mapM fun (key, v) => do return (← key, ← read v)
  | _ => none

end Read

/-! Records. -/

inductive Fields where
  | named (members : List (Text × Value))
  | listed (items : List Value)

abbrev FieldsM := StateT Fields Option

/-- A field as it was found: present, left out of an object, or off the end of an array. -/
inductive Found where
  | present (v : Value)
  | omitted
  | beyond

def find (name : String) : FieldsM Found := fun fields =>
  match fields with
  | .named members =>
    match members.filter fun m => m.1 == some name with
    | [] => some (.omitted, fields)
    | [(_, v)] => some (.present v, fields)
    | _ => none
  | .listed [] => some (.beyond, fields)
  | .listed (v :: others) => some (.present v, .listed others)

def field {α : Type} (name : String) (read : Read α) : FieldsM α := do
  match ← find name with
  | .present v => read v
  | _ => failure

def fieldOr {α : Type} (name : String) (read : Read α) (default : α) : FieldsM α := do
  match ← find name with
  | .present v => read v
  | _ => pure default

/-- A field that may be left out of an object, but not off the end of an array. -/
def fieldOption {α : Type} (name : String) (read : Read α) : FieldsM (Option α) := do
  match ← find name with
  | .present v => Read.option read v
  | .omitted => pure none
  | .beyond => failure

def Read.record {α : Type} (fields : FieldsM α) : Read α
  | .object members =>
    if members.all fun m => m.1.isSome then (fields.run (.named members)).map (·.1) else none
  | .array items =>
    match fields.run (.listed items) with
    | some (a, .listed []) => some a
    | _ => none
  | _ => none

end Cartridge.Json
