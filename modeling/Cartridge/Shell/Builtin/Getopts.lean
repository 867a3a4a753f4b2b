import Cartridge.Shell.Builtin.Option

/-!
Reading the options of scripts one by one.
-/

namespace Cartridge.Shell

/-- What `getopts` finds: the letter, what becomes of the variable for its argument, a complaint, the
number of the next argument and the offset in the one before. -/
structure FoundOption where
  letter : Char
  argument : Option Octets
  complaint : Option Octets
  next : Nat
  offset : Option Nat

/-- Where an option is looked for: the characters at hand, the number of the next argument, and the
offset of the characters in the one before. -/
def optionStart? (args : List Octets) (next : Nat) (offset : Option Nat) :
    Except Nat (List Char × Nat × Nat) :=
  let current := match offset with
    | some offset => if next ≤ 1 then [] else ((args[next - 2]?.getD "").toList).drop offset
    | none => []
  match current, (args[next - 1]?.getD "").toList with
  | c :: cs, _ => .ok (c :: cs, next, offset.getD 0)
  | [], ['-', '-'] => .error (next + 1)
  | [], '-' :: c :: cs => .ok (c :: cs, next + 1, 1)
  | [], _ => .error next

/-- Look for an option. If there is none, the result is the number of the next argument. -/
def findOption (spec : List Char) (args : List Octets) (next : Nat) (offset : Option Nat) :
    Except Nat FoundOption := do
  let (cs, next, offset) ← optionStart? args next offset
  let quiet := spec.head? == some ':'
  let c := cs.headD '?'
  let rest := cs.tail
  let shown := String.ofList [c]
  match afterLetter? c spec with
  | none =>
    if quiet then return ⟨'?', some shown, none, next, some (offset + 1)⟩
    else return ⟨'?', none, some ("Illegal option -" ++ shown ++ "\n"), next, some (offset + 1)⟩
  | some (':' :: _) =>
    if !rest.isEmpty then return ⟨c, some (String.ofList rest), none, next, none⟩
    else
      match args[next - 1]? with
      | some arg => return ⟨c, some arg, none, next + 1, none⟩
      | none =>
        if quiet then return ⟨':', some shown, none, next, none⟩
        else return ⟨'?', none, some ("No arg for -" ++ shown ++ " option\n"), next, none⟩
  | some _ => return ⟨c, some "", none, next, some (offset + 1)⟩

def noteOption (name : Octets) (letter : Char) (next : Nat) (offset : Option Nat) : Act Unit := do
  setQuietly "OPTIND" (numeral next)
  assignNamed name (String.ofList [letter])
  modify fun s => { s with optionIndex := next, optionOffset := offset }

def getoptsBuiltin (args : List Octets) : Act Nat := do
  match args with
  | spec :: name :: given => do
    let s ← get
    let args := if given.isEmpty then s.args else given
    let isPast := args.length + 1 < s.optionIndex || s.optionIndex = 0
    let (next, offset) := if isPast then (1, none) else (s.optionIndex, s.optionOffset)
    set { s with optionIndex := 0 }
    match findOption spec.toList args next offset with
    | .ok found =>
      match found.complaint with
      | some text => write 2 text
      | none => pure ()
      match found.argument with
      | some arg => assign "OPTARG" arg
      | none => unset "OPTARG"
      noteOption name found.letter found.next found.offset
      return 0
    | .error next =>
      noteOption name '?' next none
      return 1
  | _ => fail "Usage: getopts optstring var [arg...]"

end Cartridge.Shell
