import Cartridge.Shell.Builtin.Option

/-!
What new files and processes are allowed.
-/

namespace Cartridge.Shell

open Cartridge.Text

/-! Permissions of files are numbers of three octal digits: for the owner, the group and all others.
Within a digit, bits stand for reading, writing and executing. -/

def allPermissions : Nat := 0o777

def userWeight? (c : Char) : Option Nat :=
  match c with
  | 'u' => some 64
  | 'g' => some 8
  | 'o' => some 1
  | _ => none

def permission? (before : Nat) (c : Char) : Option Nat :=
  match c with
  | 'r' => some 4
  | 'w' => some 2
  | 'x' => some 1
  | 'X' => some (if before &&& 0o111 = 0 then 0 else 1)
  | 's' => some 0
  | c => (userWeight? c).map fun weight => before / weight % 8

/-- Add permissions, take them away or set them, for the users whose digits have these weights. -/
def permissionsAfter (weights : Nat) (operator : Char) (digit now : Nat) : Nat :=
  match operator with
  | '+' => now ||| digit * weights
  | '-' => now &&& (allPermissions - digit * weights)
  | _ => (now &&& (allPermissions - 7 * weights)) ||| digit * weights

def isPermissionOperator (c : Char) : Bool :=
  c == '+' || c == '-' || c == '='

def operatorsApplied? (before weights : Nat) : Nat → Nat → List Char → Option Nat
  | 0, _, _ => none
  | _, now, [] => some now
  | fuel + 1, now, operator :: rest =>
    if !isPermissionOperator operator then none
    else
      let letters := rest.takeWhile fun c => !isPermissionOperator c
      match letters.mapM (permission? before) with
      | none => none
      | some digits =>
        let digit := digits.foldl (· ||| ·) 0
        operatorsApplied? before weights fuel (permissionsAfter weights operator digit now)
          (rest.drop letters.length)

def isUser (c : Char) : Bool :=
  c == 'a' || (userWeight? c).isSome

/-- Change permissions as a clause says: for some users, or for all, one operator or several. -/
def clauseApplied? (before now : Nat) (clause : List Char) : Option Nat :=
  let users := clause.takeWhile isUser
  let rest := clause.drop users.length
  let named := users.foldl (fun n c => n ||| (userWeight? c).getD 0o111) 0
  if rest.isEmpty then none
  else operatorsApplied? before (if users.isEmpty then 0o111 else named) (rest.length + 1) now rest

def clausesApplied? (before now : Nat) : List (List Char) → Option Nat
  | [] => some now
  | [[]] => some now
  | clause :: rest => do clausesApplied? before (← clauseApplied? before now clause) rest

def modeApplied? (before : Nat) (mode : List Char) : Option Nat :=
  if mode.all isUser then some before
  else clausesApplied? before before (splitAtChar ',' mode)

def permissionsText (mask : Nat) : Octets :=
  let digitText := fun (user : String) (weight : Nat) =>
    let digit := 7 - mask / weight % 8
    let letter := fun (bit : Nat) (c : String) => if digit / bit % 2 = 1 then c else ""
    user ++ "=" ++ letter 4 "r" ++ letter 2 "w" ++ letter 1 "x"
  ",".intercalate [digitText "u" 64, digitText "g" 8, digitText "o" 1]

def umaskBuiltin (args : List Octets) : Act Nat := do
  let (options, modes) ← letterOptions ['S'] args
  let mask := (← get).mask
  match modes with
  | [] =>
    let digits := String.ofList ([64, 8, 1].map fun weight => decimalDigit (mask / weight % 8))
    say ((if options.isEmpty then "0" ++ digits else permissionsText mask) ++ "\n")
  | mode :: _ =>
    let cs := mode.toList
    if (cs.headD ' ').isDigit then
      match digitsFrom 8 0 cs with
      | (n, []) => modify fun s => { s with mask := n % 512 }
      | _ => illegalNumber mode
    else
      let before := allPermissions - mask
      match modeApplied? before cs with
      | some now => modify fun s => { s with mask := allPermissions - now }
      | none => fail ("Illegal mode: " ++ mode)
  return 0

/-! Limits of processes. -/

def startLimits : List Limit :=
  [⟨'t', "time(seconds)", none, none⟩, ⟨'f', "file(blocks)", none, none⟩,
    ⟨'d', "data(kbytes)", none, none⟩, ⟨'s', "stack(kbytes)", some 8192, none⟩,
    ⟨'c', "coredump(blocks)", some 0, none⟩, ⟨'m', "memory(kbytes)", none, none⟩,
    ⟨'l', "locked memory(kbytes)", some 8192, some 8192⟩, ⟨'p', "process", none, none⟩,
    ⟨'n', "nofiles", some 1048576, some 1048576⟩, ⟨'v', "vmemory(kbytes)", none, none⟩,
    ⟨'w', "locks", none, none⟩, ⟨'r', "rtprio", some 0, some 0⟩]

def isBelow (a b : Option Nat) : Bool :=
  match a, b with
  | none, _ => false
  | some _, none => true
  | some a, some b => a < b

def limitOf? (text : Octets) : Option (Option Nat) :=
  if text = "unlimited" then some none
  else
    match digitsFrom 10 0 text.toList with
    | (n, []) => some (some n)
    | _ => none

def limitText (ofHard : Bool) (l : Limit) : Octets :=
  (match if ofHard then l.hard else l.soft with
    | some n => numeral n
    | none => "unlimited") ++ "\n"

def setLimit (l : Limit) (soft hard : Option Nat) : Act Unit := do
  if isBelow hard soft then fail "error setting limit (Invalid argument)"
  else if isBelow l.hard hard then fail "error setting limit (Operation not permitted)"
  else
    modify fun s =>
      { s with
        limits := s.limits.map fun other =>
          if other.letter == l.letter then { other with soft, hard } else other }

def ulimitBuiltin (args : List Octets) : Act Nat := do
  let (options, values) ← letterOptions "HSatfdsmcnpvwlr".toList args
  let letters := options.map (·.1)
  let how := letters.reverse.find? fun c => c == 'H' || c == 'S'
  let what := (letters.reverse.find? fun c => c != 'H' && c != 'S' && c != 'a').getD 'f'
  let limits := (← get).limits
  let showsAll := letters.contains 'a'
  match values, limits.find? (·.letter == what) with
  | [], found =>
    if showsAll then
      limits.forM fun l => say (padded 20 l.name ++ " " ++ limitText (how == some 'H') l)
    else found.toList.forM fun l => say (limitText (how == some 'H') l)
    return 0
  | value :: others, found =>
    if showsAll || !others.isEmpty then fail "too many arguments"
    else
      match limitOf? value, found with
      | none, _ => fail "bad number"
      | some n, some l =>
        setLimit l (if how = some 'H' then l.soft else n) (if how = some 'S' then l.hard else n)
        return 0
      | some _, none => return 0

/-- The time that the shell and the processes it has waited for have taken: too little to show. -/
def timesBuiltin (_args : List Octets) : Act Nat := do
  say "0m0.000000s 0m0.000000s\n0m0.000000s 0m0.000000s\n"
  return 0

end Cartridge.Shell
