/-!
JSON documents. Members keep the order and the repetitions they were written with, and a number
keeps whether it was spelled as an integer, so that a reader of records can insist on both.
-/

namespace Cartridge.Json

/-- What a JSON string says. It is `none` when the escapes of the string leave half of a surrogate
pair: the grammar allows that, but no text contains it. -/
abbrev Text := Option String

inductive Value where
  | null
  | bool (b : Bool)
  /-- A number spelled without fraction or exponent, and not as minus zero. -/
  | integer (i : Int)
  | real (spelling : String)
  | string (text : Text)
  | array (items : List Value)
  | object (members : List (Text × Value))
  deriving Inhabited, Repr

namespace Value

def text (s : String) : Value :=
  .string (some s)

def record (members : List (String × Value)) : Value :=
  .object (members.map fun (key, value) => (some key, value))

/-- The last member of an object with the given key. -/
def member? (v : Value) (key : String) : Option Value :=
  match v with
  | .object members => (members.reverse.find? fun m => m.1 == some key).map (·.2)
  | _ => none

def list {α : Type} (write : α → Value) (items : List α) : Value :=
  .array (items.map write)

def option {α : Type} (write : α → Value) : Option α → Value
  | none => .null
  | some a => write a

end Value

end Cartridge.Json
