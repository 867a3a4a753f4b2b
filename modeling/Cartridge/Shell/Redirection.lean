import Cartridge.Shell.Expand

/-!
Redirection: letting streams lead to files, to the text after a command, or to where other streams
lead. The words in redirections are expanded before any of them is carried out.
-/

namespace Cartridge.Shell

def resolve (run : List Command → Act Octets) : Redirect → Act Connection
  | .file stream how path => do return .file stream how (← expandText run path)
  | .document stream number => return .document stream number
  | .duplicate stream source => do
    let bad := do
      modify fun s => { s with line := s.reached }
      fail "Syntax error: Bad fd number"
    match (← expandText run source).toList with
    | ['-'] => return .duplicate stream none
    | [c] =>
      match Cartridge.Text.decimalDigit? c with
      | some n => return .duplicate stream (some n)
      | none => bad
    | _ => bad

/-! Opening files. -/

def openReason (missing : String) : FileError → String
  | .isDirectory => "Is a directory"
  | .alreadyExists => "File exists"
  | .badName => "File name too long"
  | .other text => text
  | _ => missing

def cannotOpen {α : Type} (path : Octets) (e : FileError) : Act α :=
  fail ("cannot open " ++ path ++ ": " ++ openReason "No such file" e)

def cannotCreate {α : Type} (path : Octets) (e : FileError) : Act α :=
  fail ("cannot create " ++ path ++ ": " ++ openReason "Directory nonexistent" e)

def streamPath? (path : Octets) : Option Nat :=
  match path with
  | "/dev/stdin" => some 0
  | "/dev/stdout" => some 1
  | "/dev/stderr" => some 2
  | path =>
    ["/dev/fd/", "/proc/self/fd/"].findSome? fun start =>
      (Cartridge.Text.afterStart start.toList path.toList).bind Cartridge.Text.readDecimal?

def connectInput (stream : Nat) (path : Octets) (place : Place) : Act Unit := do
  if place = nullFile then connectNew stream ⟨.nothing, true, false⟩
  else
    match (← get).files.get? place with
    | none => cannotOpen path .notFound
    | some .directory => connectNew stream ⟨.directory, true, false⟩
    | some (.file _) => connectNew stream ⟨.file place 0 false, true, false⟩

def connectOutput (stream : Nat) (how : Opening) (path : Octets) (place : Place) : Act Unit := do
  let fs := (← get).files
  let protects := how == .write && (← isOn .protectsFiles)
  let reads := how == .readWrite
  if place = nullFile then connectNew stream ⟨.nothing, reads, true⟩
  else
    match fs.get? place with
    | some .directory =>
      if protects then cannotOpen path .isDirectory else cannotCreate path .isDirectory
    | some (.file _) =>
      if protects then cannotCreate path .alreadyExists
      else if how == .write || how == .overwrite then
        modify fun s => { s with files := fs.set place (.file []) }
    | none => modify fun s => { s with files := fs.set place (.file []) }
    connectNew stream ⟨.file place 0 (how == .append), reads, true⟩

/-- The place that is to be opened. Nothing but a directory can be created under a name with a slash
at its end. -/
def openedPlace (fs : Files) (how : Opening) (path : Octets) : Except FileError Place :=
  if how != .read && path.toList.getLast? == some '/' then do
    let cs := (path.toList.reverse.dropWhile (· == '/')).reverse
    let _ ← fs.locate (Octets.toText (if cs.isEmpty then "/" else String.ofList cs))
    throw .isDirectory
  else fs.locate (Octets.toText path)

def reopen (stream source : Nat) (how : Opening) (path : Octets) : Act Unit := do
  let refuse := if how = .read then cannotOpen path .notFound else cannotCreate path .notFound
  match channelOf? (← get) source with
  | none => refuse
  | some (index, c) =>
    match c.target with
    | .file place .. =>
      if how = .read then connectInput stream path place else connectOutput stream how path place
    | .nothing => connectNew stream ⟨.nothing, true, true⟩
    | .directory => if how = .read then connectNew stream c else cannotCreate path .isDirectory
    | _ => connect stream (some index)

def connectFile (stream : Nat) (how : Opening) (path : Octets) : Act Unit := do
  match streamPath? path with
  | some source => reopen stream source how path
  | none =>
    match openedPlace (← get).files how path, how with
    | .error e, .read => cannotOpen path e
    | .error e, _ => cannotCreate path e
    | .ok place, .read => connectInput stream path place
    | .ok place, how => connectOutput stream how path place

/-- Make a connection. What the stream led to before is given up before another stream turns out to be
closed, if it is kept elsewhere. -/
def connectAs (run : List Command → Act Octets) (isKept : Bool) : Connection → Act Unit
  | .file stream how path => connectFile stream how path
  | .duplicate stream none => connect stream none
  | .duplicate stream (some source) => do
    if source ≠ stream then
      match channelOf? (← get) source with
      | some (index, _) => connect stream (some index)
      | none =>
        if isKept then connect stream none
        fail (numeral source ++ ": Bad file descriptor")
  | .document stream number => do
    let w := ((← get).documents.lookup number).getD []
    connectNew stream (.ofText (← expandDocument run w))

def Connection.stream : Connection → Nat
  | .file stream .. | .duplicate stream _ | .document stream _ => stream

def connectForGood (run : List Command → Act Octets) (cs : List Connection) : Act Unit :=
  cs.forM (connectAs run false)

/-- Make connections one after the other. What a stream led to before the first one is kept. -/
def connectEach (run : List Command → Act Octets) (streams : List Nat) :
    List Connection → Act Unit
  | [] => return ()
  | c :: rest => do
    connectAs run (!streams.contains c.stream) c
    connectEach run (c.stream :: streams) rest

def connectAll (run : List Command → Act Octets) (cs : List Connection) : Act Bool := do
  try
    connectEach run [] cs
    return true
  catch
    | .failure _ => return false
    | j => throw j

def connecting (run : List Command → Act Octets) (cs : List Connection) (go : Bool → Act Unit) :
    Act Unit := do
  if cs.isEmpty then go true
  else
    let s ← get
    ensuring (do go (← connectAll run cs)) do
      cs.forM fun c => connect c.stream (s.streams.lookup c.stream)
      releaseChannels s.channels.length

end Cartridge.Shell
