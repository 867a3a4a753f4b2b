import Cartridge.Json.Value
import Cartridge.Text.Decimal
import Cartridge.Text.Hexadecimal

/-!
Writing JSON documents, on one line or with one member to a line and an indent of two spaces for
each level.
-/

namespace Cartridge.Json

open Cartridge.Text

/-- A character as it is written between quotes. Only quotes, backslashes and control characters
are escaped. -/
def escape (c : Char) : List Char :=
  if c = '"' then ['\\', '"']
  else if c = '\\' then ['\\', '\\']
  else if c = '\x08' then ['\\', 'b']
  else if c = '\x0c' then ['\\', 'f']
  else if c = '\n' then ['\\', 'n']
  else if c = '\r' then ['\\', 'r']
  else if c = '\t' then ['\\', 't']
  else if c.toNat < 0x20 then '\\' :: 'u' :: lowDigits lowerHexDigit 4 c.toNat
  else [c]

/-- A string in quotes. A string that no text equals is written as a lone half of a pair. -/
def quote : Text → List Char
  | some s => '"' :: s.toList.flatMap escape ++ ['"']
  | none => ['"', '\\', 'u', 'd', '8', '0', '0', '"']

def scalar : Value → List Char
  | .bool true => "true".toList
  | .bool false => "false".toList
  | .integer i => decimalInt i
  | .real spelling => spelling.toList
  | .string t => quote t
  | _ => "null".toList

mutual

def Value.compact : Value → List Char
  | .array items => '[' :: Value.compactItems items ++ [']']
  | .object members => '\x7b' :: Value.compactMembers members ++ ['\x7d']
  | v => scalar v

def Value.compactItems : List Value → List Char
  | [] => []
  | [v] => Value.compact v
  | v :: others => Value.compact v ++ ',' :: Value.compactItems others

def Value.compactMembers : List (Text × Value) → List Char
  | [] => []
  | [(key, v)] => quote key ++ ':' :: Value.compact v
  | (key, v) :: others => quote key ++ ':' :: Value.compact v ++ ',' :: Value.compactMembers others

end

def indent (level : Nat) : List Char :=
  '\n' :: List.replicate (2 * level) ' '

mutual

/-- A document with one item or member to a line; `level` counts the arrays and objects around
it. -/
def Value.indented (level : Nat) : Value → List Char
  | .array [] => ['[', ']']
  | .array items => '[' :: Value.indentedItems (level + 1) items ++ indent level ++ [']']
  | .object [] => ['\x7b', '\x7d']
  | .object members =>
    '\x7b' :: Value.indentedMembers (level + 1) members ++ indent level ++ ['\x7d']
  | v => scalar v

def Value.indentedItems (level : Nat) : List Value → List Char
  | [] => []
  | [v] => indent level ++ Value.indented level v
  | v :: others =>
    indent level ++ Value.indented level v ++ ',' :: Value.indentedItems level others

def Value.indentedMembers (level : Nat) : List (Text × Value) → List Char
  | [] => []
  | [(key, v)] => indent level ++ quote key ++ ':' :: ' ' :: Value.indented level v
  | (key, v) :: others =>
    indent level ++ quote key ++ ':' :: ' ' :: Value.indented level v ++
      ',' :: Value.indentedMembers level others

end

def Value.render (v : Value) : String :=
  String.ofList v.compact

def Value.pretty (v : Value) : String :=
  String.ofList (v.indented 0)

end Cartridge.Json
