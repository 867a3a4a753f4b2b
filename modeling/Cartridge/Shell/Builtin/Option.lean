import Cartridge.Shell.Environment

/-!
Options in the arguments of commands, and those of the shell itself.
-/

namespace Cartridge.Shell

/-! Options of commands. -/

/-- What follows a letter among those that are known. A colon belongs to the letter before it. -/
def afterLetter? (c : Char) : List Char → Option (List Char)
  | [] => none
  | d :: ':' :: rest => if d = c then some (':' :: rest) else afterLetter? c rest
  | d :: rest => if d = c then some rest else afterLetter? c rest

/-- The letters of an argument that names options, each with its value. A letter with a colon behind
it in `known` takes what follows it, or the next argument: then it stands alone in the result. -/
def splitLetters (known : List Char) :
    List Char → Except Char (List (Char × Octets) × Option Char)
  | [] => .ok ([], none)
  | c :: cs => do
    match afterLetter? c known with
    | none => .error c
    | some (':' :: _) => .ok (if cs.isEmpty then ([], some c) else ([(c, String.ofList cs)], none))
    | some _ =>
      let (others, last) ← splitLetters known cs
      .ok ((c, "") :: others, last)

def letterOptions (known : List Char) :
    List Octets → Act (List (Char × Octets) × List Octets)
  | [] => return ([], [])
  | "--" :: rest => return ([], rest)
  | arg :: rest => do
    match arg.toList with
    | '-' :: c :: cs =>
      match splitLetters known (c :: cs), rest with
      | .error bad, _ => fail ("Illegal option -" ++ String.ofList [bad])
      | .ok (found, none), rest =>
        let (others, rest) ← letterOptions known rest
        return (found ++ others, rest)
      | .ok (_, some c), [] => fail ("No arg for -" ++ String.ofList [c] ++ " option")
      | .ok (found, some c), value :: rest =>
        let (others, rest) ← letterOptions known rest
        return (found ++ (c, value) :: others, rest)
    | _ => return ([], arg :: rest)

/-- The first option, of which there is only one letter. Without an option the result holds the
arguments. -/
def firstOption (known : Char) (args : List Octets) : Act (Option (List Octets)) := do
  match args.head?.map String.toList with
  | some ['-', '-'] => return some args.tail
  | some ('-' :: c :: _) =>
    if c = known then return none else fail ("Illegal option -" ++ String.ofList [c])
  | _ => return some args

/-! Options of a shell. -/

def settingOf (letter : Char) : Act Setting := do
  match allSettings.find? fun s => s.2.2 == some letter with
  | some (setting, _) => return setting
  | none => fail ("Illegal option -" ++ String.ofList [letter])

def settingNamed (name : Octets) : Act Setting := do
  match allSettings.find? fun s => s.2.1 == name with
  | some (setting, _) => return setting
  | none => fail ("Illegal option -o " ++ name)

def padded (width : Nat) (text : Octets) : Octets :=
  text ++ String.ofList (List.replicate (width - text.length) ' ')

def showSettings (asCommands : Bool) : Act Unit := do
  let on := (← get).settings
  if !asCommands then say "Current option settings\n"
  allSettings.forM fun (setting, name, _) =>
    let isOn := on.contains setting
    if asCommands then say ("set " ++ (if isOn then "-o " else "+o ") ++ name ++ "\n")
    else say (padded 16 name ++ (if isOn then "on" else "off") ++ "\n")

/-- What the first arguments of a shell, or those of `set`, ask for. -/
structure StartOptions where
  isCommand : Bool
  wanted : List Setting
  rest : List Octets
  isMarked : Bool

def StartOptions.apply (s : StartOptions) (setting : Setting) (on : Bool) : Act StartOptions := do
  turn setting on
  return if on then { s with wanted := setting :: s.wanted } else s

def turnOffRival (setting : Setting) : Act Unit :=
  match setting with
  | .editsLikeVi => turn .editsLikeEmacs false
  | .editsLikeEmacs => turn .editsLikeVi false
  | _ => pure ()

/-- Turn on or off what letters stand for; `o` takes a name from the arguments or, without one, shows
what is on. -/
def applyLetters (atStart on : Bool) (s : StartOptions) : List Char → Act StartOptions
  | [] => return s
  | c :: letters => do
    if atStart && c == 'c' then applyLetters atStart on { s with isCommand := true } letters
    else if atStart && c == 'l' then applyLetters atStart on s letters
    else if c = 'o' then
      match s.rest with
      | [] =>
        showSettings (!on)
        applyLetters atStart on s letters
      | name :: rest =>
        let s ← s.apply (← settingNamed name) on
        applyLetters atStart on { s with rest } letters
    else
      let setting ← settingOf c
      if on then turnOffRival setting
      applyLetters atStart on (← s.apply setting on) letters

def applyOptions (atStart : Bool) : Nat → StartOptions → Act StartOptions
  | 0, s => return s
  | fuel + 1, s => do
    match s.rest with
    | [] => return s
    | arg :: rest =>
      match arg.toList with
      | ['-'] =>
        if !atStart then
          turn .traces false
          turn .echoes false
        return { s with rest }
      | ['-', '-'] => return { s with rest, isMarked := true }
      | '-' :: letters => do
        applyOptions atStart fuel (← applyLetters atStart true { s with rest } letters)
      | '+' :: letters => do
        applyOptions atStart fuel (← applyLetters atStart false { s with rest } letters)
      | _ => return s

def applyShellOptions (atStart : Bool) (args : List Octets) : Act StartOptions :=
  applyOptions atStart (args.length + 1) ⟨false, [], args, false⟩

/-- Apply the options of a shell that starts. What they do not mention counts as on until they have
been read. Jobs are monitored if the shell is interactive. -/
def applyStartOptions (args : List Octets) : Act StartOptions := do
  modify fun s => { s with settings := allSettings.map (·.1) }
  let options ← applyShellOptions true args
  let isWanted := fun (setting : Setting) =>
    options.wanted.contains setting ||
      (setting == .monitors && options.wanted.contains .interactive)
  modify fun s => { s with settings := s.settings.filter isWanted }
  return options

def checkTerminal : Act Unit := do
  if ← isOn .monitors then
    warn "can't access tty; job control turned off"
    turn .monitors false

def listVariables (line : String → Option Octets → Octets) (isListed : Variable → Bool) :
    Act Unit := do
  let listed := (← get).vars.filter fun (_, v) => isListed v
  (listed.mergeSort fun a b => decide (a.1 ≤ b.1)).forM fun (name, v) => say (line name v.value)

def setArguments (args : List Octets) : Act Unit :=
  modify fun s => { s with args, optionIndex := 1, optionOffset := none }

def setBuiltin (args : List Octets) : Act Nat := do
  if args.isEmpty then
    listVariables (fun name value => name ++ "=" ++ reread (value.getD "") ++ "\n") (·.value.isSome)
  else
    let options ← applyShellOptions false args
    checkTerminal
    if options.isMarked || !options.rest.isEmpty then setArguments options.rest
  return 0

def shiftBuiltin (args : List Octets) : Act Nat := do
  let n ← match args with
    | [] => pure 1
    | text :: _ => naturalNumber text
  let s ← get
  if s.args.length < n then fail "can't shift that many"
  else
    setArguments (s.args.drop n)
    return 0

end Cartridge.Shell
