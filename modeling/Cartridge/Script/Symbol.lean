import Cartridge.Text.Blank
import Cartridge.Text.Search

/-!
Demangled symbols such as `Foo<int>::Bar(char)+4`: names joined by double colons, of which the
last one names a routine or global and the others its scope. A parameter list or an addend may
follow. Nothing inside template brackets separates or ends names.
-/

namespace Cartridge.Script.Symbol

open Cartridge.Text

/-- The names of a symbol, up to its parameter list or addend, with the brackets open so far.
`none` if the brackets do not balance or a blank stands outside them. `started` tells a sign that
starts the symbol from one that starts an addend. -/
def names? (depth : Nat) (started : Bool) : List Char → Option (List Char)
  | [] => if depth = 0 then some [] else none
  | c :: rest =>
    if c = '<' then (names? (depth + 1) true rest).map (c :: ·)
    else if c = '>' then
      match depth with
      | 0 => none
      | depth + 1 => (names? depth true rest).map (c :: ·)
    else if depth = 0 then
      if c = '(' then some []
      else if (c = '+' ∨ c = '-') ∧ started then some []
      else if isBlank c then none
      else (names? 0 true rest).map (c :: ·)
    else (names? depth true rest).map (c :: ·)

def cutAtLastColons (depth : Nat) : List Char → Option (List Char × List Char)
  | [] => none
  | c :: rest =>
    let inner := if c = '<' then depth + 1 else if c = '>' then depth - 1 else depth
    match cutAtLastColons inner rest with
    | some (before, after) => some (c :: before, after)
    | none =>
      match c, depth, rest with
      | ':', 0, ':' :: after => some ([], after)
      | _, _, _ => none

/-- The scope and the name that a symbol consists of. The scope of a global symbol is empty. -/
def split? (symbol : List Char) : Option (List Char × List Char) :=
  match names? 0 false symbol with
  | none => none
  | some names =>
    match cutAtLastColons 0 names with
    | some (scope, name) =>
      if scope = [] ∨ scope.getLast? = some ':' ∨ name = [] ∨ name.contains ':' then none
      else some (scope, name)
    | none => if names = [] ∨ names.contains ':' then none else some ([], names)

end Cartridge.Script.Symbol
