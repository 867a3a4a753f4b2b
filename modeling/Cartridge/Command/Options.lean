import Cartridge.Text.Search

/-!
Command lines. An option is written as `--name=value` or `--name value`, or by its letter as
`-nvalue`, `-n=value` or `-n value`. A value that is an argument of its own does not start with a
dash, unless it is nothing but a dash. Two dashes may end the line. There are no other arguments,
and only some options may be repeated.
-/

namespace Cartridge.Command

open Cartridge.Text

inductive Arity where
  | flag
  | single
  | repeated
  deriving DecidableEq, Repr

structure OptionSpec where
  name : String
  letter : Option Char
  arity : Arity
  deriving DecidableEq, Repr

structure Given where
  name : String
  value : String
  deriving DecidableEq, Repr

def attachedValue : List Char → Option String
  | [] => none
  | '=' :: value => some (String.ofList value)
  | value => some (String.ofList value)

/-- The option that an argument names, and the value that is attached to it. -/
def recognise? (specs : List OptionSpec) (arg : String) : Option (OptionSpec × Option String) :=
  match arg.toList with
  | '-' :: '-' :: body =>
    let (name, value) := match cutAtChar '=' body with
      | some (name, value) => (name, some (String.ofList value))
      | none => (body, none)
    (specs.find? fun s => s.name.toList == name).map fun s => (s, value)
  | '-' :: letter :: rest =>
    (specs.find? fun s => s.letter == some letter).map fun s => (s, attachedValue rest)
  | _ => none

def isValue (arg : String) : Bool :=
  arg.toList.head? != some '-' || arg == "-"

def givenIn? (specs : List OptionSpec) : List String → Option (List Given)
  | [] => some []
  | ["--"] => some []
  | arg :: rest =>
    match recognise? specs arg with
    | none => none
    | some (spec, some value) =>
      if spec.arity = .flag then none else (givenIn? specs rest).map (⟨spec.name, value⟩ :: ·)
    | some (spec, none) =>
      if spec.arity = .flag then (givenIn? specs rest).map (⟨spec.name, ""⟩ :: ·)
      else
        match rest with
        | [] => none
        | value :: rest =>
          if isValue value then (givenIn? specs rest).map (⟨spec.name, value⟩ :: ·) else none

def OptionSpec.values (spec : OptionSpec) (given : List Given) : List String :=
  (given.filter fun g => g.name == spec.name).map Given.value

/-- The options of a command line, if none is given too often. -/
def parse? (specs : List OptionSpec) (args : List String) : Option (List Given) :=
  (givenIn? specs args).filter fun given =>
    specs.all fun s => s.arity == .repeated || (s.values given).length ≤ 1

namespace OptionSpec

def isGiven (spec : OptionSpec) (given : List Given) : Bool :=
  !(spec.values given).isEmpty

def required {α : Type} (spec : OptionSpec) (read : String → Option α) (given : List Given) :
    Option α :=
  (spec.values given).head?.bind read

/-- The value of an option that may be left out; a value that cannot be read is none of an
option's. -/
def optional {α : Type} (spec : OptionSpec) (read : String → Option α) (given : List Given) :
    Option (Option α) :=
  match (spec.values given).head? with
  | none => some none
  | some value => (read value).map some

def valueOr {α : Type} (spec : OptionSpec) (read : String → Option α) (default : α)
    (given : List Given) : Option α :=
  (spec.optional read given).map (·.getD default)

end OptionSpec

/-! Values. -/

def readPath? (value : String) : Option String :=
  if value.isEmpty then none else some value

end Cartridge.Command
