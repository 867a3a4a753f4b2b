import Cartridge.Shell.Number
import Cartridge.Shell.Stream

/-!
Variables: their values, what changes with them, and putting them back at the end of a function.
-/

namespace Cartridge.Shell

open Cartridge.Text

def illegalNumber {α : Type} (text : Octets) : Act α :=
  fail ("Illegal number: " ++ text)

def naturalNumber (text : Octets) : Act Nat := do
  match smallNatural? text with
  | some n => return n
  | none => illegalNumber text

def Interpreter.variableNamed? (s : Interpreter) (name : String) : Option Variable :=
  s.vars.lookup name

def Interpreter.value? (s : Interpreter) (name : String) : Option Octets :=
  (s.variableNamed? name).bind (·.value)

def Interpreter.withVariable (s : Interpreter) (name : String) (v : Option Variable) :
    Interpreter :=
  { s with vars := (v.map (name, ·)).toList ++ s.vars.filter fun (other, _) => other != name }

def lastingVariables : List String :=
  ["ATTY", "IFS", "MAIL", "MAILPATH", "OPTIND", "PATH", "PS1", "PS2", "PS4", "TERM", "HISTSIZE"]

def noteValue (name : String) (value : Octets) : Act Unit := do
  match name with
  | "OPTIND" =>
    let n ← naturalNumber value
    modify fun s => { s with optionIndex := if n = 0 then 1 else n, optionOffset := none }
  | "PATH" => modify fun s => { s with remembered := [] }
  | _ => return ()

def demandWritable (name : String) : Act Unit := do
  if ((← get).variableNamed? name).any (·.readOnly) then fail (name ++ ": is read only")

def setQuietly (name : String) (value : Octets) : Act Unit := do
  demandWritable name
  modify fun s =>
    let old := (s.variableNamed? name).getD ⟨none, false, false⟩
    let exported := old.exported || s.settings.contains .exportsAll
    let new := { old with value := some value, exported }
    { s with toInterpreter := s.toInterpreter.withVariable name (some new) }

def assign (name : String) (value : Octets) : Act Unit := do
  demandWritable name
  noteValue name value
  setQuietly name value

def badVariableName {α : Type} (name : Octets) : Act α :=
  fail (name ++ ": bad variable name")

def nameIn (arg : Octets) : Octets :=
  String.ofList (arg.toList.takeWhile (· != '='))

def assignNamed (arg value : Octets) : Act Unit :=
  let name := nameIn arg
  if isName name then assign name value else badVariableName name

def unset (arg : Octets) : Act Unit := do
  let name := nameIn arg
  if !isName name then badVariableName name
  else
    demandWritable name
    noteValue name ""
    modify fun s =>
      let rest := ((s.variableNamed? name).filter fun _ => lastingVariables.contains name).map fun v =>
        { v with value := none }
      { s with toInterpreter := s.toInterpreter.withVariable name rest }

def mark (name : String) (change : Variable → Variable) : Act Unit :=
  modify fun s =>
    let old := (s.variableNamed? name).getD ⟨none, false, false⟩
    { s with toInterpreter := s.toInterpreter.withVariable name (some (change old)) }

def exportVariable (name : String) : Act Unit :=
  mark name fun v => { v with exported := true }

/-! Variables of functions. -/

def keep (k : Kept) : Act Unit :=
  modify fun s =>
    match s.kept with
    | [] => s
    | frame :: outer => { s with kept := (k :: frame) :: outer }

def keepVariable (name : String) : Act Unit := do
  keep (.variable name ((← get).variableNamed? name))

def Kept.restore (k : Kept) : Act Unit := do
  match k with
  | .settings old => modify fun s => { s with settings := old }
  | .variable name none =>
    mark name fun v => { v with readOnly := false }
    unset name
  | .variable name (some old) =>
    noteValue name (old.value.getD "")
    modify fun s => { s with toInterpreter := s.toInterpreter.withVariable name (some old) }

/-- End functions until only so many are left, and put back what they have made their own. -/
def unwindTo (depth : Nat) : Act Unit := do
  let s ← get
  let ended := s.kept.take (s.kept.length - depth)
  set { s with kept := s.kept.drop ended.length }
  ended.flatten.forM Kept.restore

/-- Do something, and put back what it has made its own. Nothing is put back before the end of the
script. -/
def framed (go : Act Unit) : Act Unit := do
  let depth := (← get).kept.length
  modify fun s => { s with kept := [] :: s.kept }
  try
    go
    unwindTo depth
  catch j =>
    match j with
    | .back .. | .leave .. => unwindTo depth
    | _ => pure ()
    throw j

/-! Values that matter to the shell itself. -/

def Interpreter.separators (s : Interpreter) : List Char :=
  match s.value? "IFS" with
  | some text => text.toList
  | none => [' ', '\t', '\n']

def directoriesIn (path : Octets) : List Octets :=
  (splitAtChar ':' path.toList).map String.ofList

def reread (text : Octets) : Octets :=
  let quotes := fun n : Nat => String.ofList (['"'] ++ List.replicate n '\'' ++ ['"'])
  go quotes text.length text.toList
where
  go (quotes : Nat → Octets) : Nat → List Char → Octets
    | 0, _ => "''"
    | fuel + 1, cs =>
      let plain := cs.takeWhile (· != '\'')
      let rest := cs.drop plain.length
      let count := (rest.takeWhile (· == '\'')).length
      let start := "'" ++ String.ofList plain ++ "'"
      if count = 0 then start
      else
        let rest := rest.drop count
        start ++ quotes count ++ (if rest.isEmpty then "" else go quotes fuel rest)

end Cartridge.Shell
