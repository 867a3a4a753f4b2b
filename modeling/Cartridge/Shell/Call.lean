import Cartridge.Shell.Lines
import Cartridge.Shell.Program

/-!
Simple commands: assignments, and the call of a function, of a builtin command or of a program. Words
are expanded first, then redirections are carried out, and assignments come last.
-/

namespace Cartridge.Shell

/-! Functions. -/

def functionLimit : Nat := 1000

def callFunction (perform : Performer) (tested : Bool) (body : Command) (args : List Octets) :
    Act Unit := do
  let outer ← get
  if functionLimit ≤ outer.depth then
    fail ("Maximum function recursion depth (" ++ numeral functionLimit ++ ") reached")
  set
    { outer with
      args, loops := 0, optionIndex := 1, optionOffset := none, depth := outer.depth + 1 }
  let go := do
    try
      perform (.commands ⟨tested, false⟩ [body])
    catch
      | .back status _ => setStatus status
      | j => throw j
  ensuring go do
    modify fun s =>
      { s with
        args := outer.args
        loops := outer.loops
        optionIndex := outer.optionIndex
        optionOffset := outer.optionOffset
        depth := outer.depth }

/-! Builtin commands that run others. -/

def scriptPath? (s : State) (name : Octets) : Option Octets :=
  if name.toList.contains '/' then some name
  else
    ((directoriesIn ((s.value? "PATH").getD "/")).map (pathIn · name)).find? fun path =>
      match s.files.locate (Octets.toText path) with
      | .ok place =>
        match s.files.get? place with
        | some (.file _) => place != nullFile
        | _ => false
      | .error _ => false

/-- Run a script that is a part of the current one, which `return` ends. Complaints name its file. -/
def runPart (perform : Performer) (path : Octets) : Act Unit := do
  let stream ← openScript path
  modify fun s => { s with builtin := some path }
  try
    perform (.script false (.stream stream))
  catch
    | .back status _ => setStatus status
    | j => throw j
  connect stream none

def runBuiltin (perform : Performer) (tested : Bool) (name : String) (args : List Octets) :
    Act Nat := do
  match name with
  | "eval" =>
    perform (.script tested (.text (joinArgs args)))
    return (← get).status
  | "." =>
    let (_, args) ← letterOptions [] args
    match args with
    | [] => return 0
    | file :: _ =>
      match scriptPath? (← get) file with
      | none => fail (file ++ ": not found")
      | some path =>
        runPart perform path
        return (← get).status
  | "exec" =>
    match args with
    | [] => return 0
    | name :: args =>
      let path ← programOnPath name
      become perform path name args
      return 0
  | "wait" => waitBuiltin perform args
  | name =>
    match simpleBuiltin? name with
    | some run => run args
    | none => return 0
where
  /-- The path that `exec` takes, which is that of no program if there is none. -/
  programOnPath (name : Octets) : Act Octets := do
    if name.toList.contains '/' then return name
    else
      let s ← get
      let path := (s.value? "PATH").getD "/"
      match searchProgram s.files name "not found" 0 (directoriesIn path) with
      | .ok index => return programPath path (some index) name
      | .error reason =>
        warn (name ++ ": " ++ reason)
        throw (.exit (if reason = "Permission denied" then 126 else 127))

/-- Carry out a builtin command under its name. An error ends the script or, if `isCaught`, only the
command. -/
def callBuiltin (perform : Performer) (tested isCaught : Bool) (name : String)
    (args : List Octets) : Act Unit := do
  let outer ← get
  set { outer with builtin := some name, pieces := [], losesOutput := false }
  let go := do
    try
      let status ← runBuiltin perform tested name args
      passOutput
      if (← get).losesOutput then
        warn (name ++ ": I/O error")
        setStatus (status ||| 1)
      else setStatus status
    catch
      | .failure status =>
        passOutput
        if isCaught then
          unwindTo outer.kept.length
          setStatus status
        else throw (.failure status)
      | j => throw j
  ensuring go do
    modify fun s =>
      { s with builtin := outer.builtin, pieces := outer.pieces, losesOutput := outer.losesOutput }

/-! The words of a command. -/

/-- The words of a command, as far as they have been expanded. -/
structure Phrase where
  passed : List Octets
  fields : List Octets
  rest : List Word
  path : Option Octets

namespace Phrase

def fill (run : List Command → Act Octets) (p : Phrase) : Act Phrase := do
  if p.fields.isEmpty then
    let (fields, rest) ← next p.rest
    return { p with fields, rest }
  else return p
where
  next : List Word → Act (List Octets × List Word)
    | [] => return ([], [])
    | w :: rest => do
      let fields ← expandFields run w
      if fields.isEmpty then next rest else return (fields, rest)

def pass (run : List Command → Act Octets) (p : Phrase) : Act Phrase :=
  fill run { p with passed := p.passed ++ p.fields.take 1, fields := p.fields.drop 1 }

def passOptions (run : List Command → Act Octets) : Nat → Phrase → Act (Phrase × Bool)
  | 0, p => return (p, false)
  | fuel + 1, p => do
    match p.fields.head?.map String.toList with
    | none => return (p, false)
    | some ['-', '-'] =>
      let p ← p.pass run
      return (p, !p.fields.isEmpty)
    | some ('-' :: c :: cs) =>
      if (c :: cs).all (· == 'p') then
        passOptions run fuel (← { p with path := some usualPath }.pass run)
      else return (p, false)
    | some _ => return (p, true)

end Phrase

structure Plan where
  words : List Octets
  fields : List Octets
  found : Option Found
  special : Option Bool
  path : Option Octets

namespace Plan

def isCaught (p : Plan) : Bool :=
  p.special != some true

def isOwn (p : Plan) : Bool :=
  !p.words.isEmpty && p.isCaught

def isExec (p : Plan) : Bool :=
  match p.found with
  | some (.builtin _) => p.fields.head? == some "exec"
  | _ => false

end Plan

def assigningBuiltins : List String := ["export", "local", "readonly"]

def expandRest (run : List Command → Act Octets) (assigns : Bool) :
    List Word → Act (List Octets)
  | [] => return []
  | w :: rest => do
    let fields ← match if assigns then Word.assignment? w else none with
      | some (name, value) => pure [name ++ "=" ++ (← expandAssigned run value)]
      | none => expandFields run w
    return fields ++ (← expandRest run assigns rest)

/-- What a command comes down to, given what its first word leads to if `command` is passed
already. -/
def planFrom (run : List Command → Act Octets) (special : Option Bool) :
    Nat → Phrase → Act Plan
  | 0, p => return ⟨p.passed ++ p.fields, p.fields, none, special, p.path⟩
  | fuel + 1, p => do
    let s ← get
    let functions := if p.passed.isEmpty then s.functions else []
    let found := p.fields.head?.bind (known? functions)
    let settle := fun (special : Option Bool) (start : List Octets) (p : Phrase) => do
      let assigns := found matches some (.builtin _) &&
        assigningBuiltins.contains (start.headD "")
      let rest ← expandRest run assigns p.rest
      return (⟨p.passed ++ p.fields ++ rest, start ++ rest, found, special, p.path⟩ : Plan)
    match found with
    | some (.builtin isSpecial) =>
      let special := special <|> some isSpecial
      if p.fields.head? = some "command" then
        let (q, runs) ← (← p.pass run).passOptions run Source.stepLimit
        if runs then planFrom run special fuel q
        else settle special ((q.passed ++ q.fields).drop p.passed.length) q
      else settle special p.fields p
    | _ => settle special p.fields p

def planOf (run : List Command → Act Octets) (words : List Word) : Act Plan := do
  planFrom run none Source.stepLimit (← Phrase.fill run ⟨[], [], words, none⟩)

/-! The rest of a command. -/

/-- Give variables values, which are put back later if `own`, and pass them on to programs if
`exports`. The results are as they are traced. -/
def assignAll (run : List Command → Act Octets) (own exports : Bool) :
    List Assignment → Act (List Octets)
  | [] => return []
  | .set name value :: rest => do
    let text ← expandAssigned run value
    if own then keepVariable name
    assign name text
    if own || exports then exportVariable name
    return (name ++ "=" ++ text) :: (← assignAll run own exports rest)

/-- The commands in the text before a trace. If the end of the script is read next, it is read there,
and then no more. -/
def traceCommands (s : Interpreter) : Parse (List Command) := do
  if s.endIsNext then
    Parse.putBack .endOfScript
    return []
  else grammar Source.stepLimit .body

def traceStart (run : List Command → Act Octets) : Act Octets := do
  let s ← get
  let text := (s.value? "PS4").getD ""
  if text.toList.any fun c => c == '(' || c.toNat == 0x60 then
    modify fun s => { s with endIsNext := false }
  let source :=
    { Source.start text s.documents with document := some ⟨s.documents.length, "\n", false, true⟩ }
  match (parts (traceCommands s.toInterpreter) Source.stepLimit .document).run source with
  | .error e =>
    modify fun s => { s with line := e.line }
    warn ("Syntax error: " ++ e.text)
    modify fun t => { t with line := s.line }
    return text
  | .ok (w, after) =>
    modify fun s => { s with documents := after.documents, startsTrace := true }
    let result ←
      try
        expandDocument run w
      catch
        | .failure _ => pure text
        | j => throw j
    modify fun s => { s with startsTrace := false }
    return result

def trace (run : List Command → Act Octets) (channel : Option Nat) (texts : List Octets) :
    Act Unit := do
  if (← isOn .traces) && !(← get).startsTrace then
    let start ← traceStart run
    let s ← get
    connect 2 channel
    write 2 (start ++ joinArgs texts ++ "\n")
    modify fun t => { t with streams := s.streams }

def callProgram (perform : Performer) (isLast : Bool) (path name : Octets)
    (args : List Octets) : Act Unit := do
  let go := become perform path name args
  let hasTraps := (← get).hasTraps
  if isLast && !hasTraps then go else setStatus (← fork perform [go])

def callFound (perform : Performer) (isLast : Bool) (path : Option Octets) (name : Octets)
    (args : List Octets) : Act Unit := do
  if name.toList.contains '/' then callProgram perform isLast name name args
  else
    match ← findProgramIn path name with
    | .ok index =>
      let path := path.getD (((← get).value? "PATH").getD "/")
      callProgram perform isLast (programPath path (some index) name) name args
    | .error reason =>
      warn (name ++ ": " ++ reason)
      setStatus 127

def execute (perform : Performer) (flow : Flow) (p : Plan) : Act Unit := do
  match p.fields with
  | [] => setStatus (← get).outputStatus
  | name :: args =>
    match p.found with
    | some (.function body) => callFunction perform flow.tested body args
    | some (.builtin _) => callBuiltin perform flow.tested p.isCaught name args
    | _ => callFound perform flow.isLast p.path name args

def runSimple (perform : Performer) (flow : Flow) (line : Nat) (assignments : List Assignment)
    (words : List Word) (redirects : List Redirect) : Act Unit := do
  let run := outputOf perform
  modify fun s => { s with line, outputStatus := 0 }
  let p ← planOf run words
  let body := do
    let connections ← redirects.mapM (resolve run)
    let complaints := (channelOf? (← get) 2).map (·.1)
    let go := fun (isConnected : Bool) => do
      if !isConnected then
        setStatus 2
        if !p.isCaught then throw (.failure 2)
      else
        let exports := p.isExec && 1 < p.fields.length
        let assigned ← assignAll run p.isOwn exports assignments
        trace run complaints (assigned ++ p.words)
        execute perform flow p
    if p.isExec then go (← connectAll run connections) else connecting run connections go
  if p.isOwn then framed body else body

end Cartridge.Shell
