import Cartridge.Shell.Machine
import Cartridge.Shell.State

/-!
Reading from streams and writing to them. Every open stream of a process leads to a channel, which
other streams and other processes may share.
-/

namespace Cartridge.Shell

open Cartridge.Text

namespace Channel

def ofText (text : Octets) : Channel :=
  ⟨.source (Octets.toBytes text) true, true, false⟩

def collector (limit : Option Nat) : Channel :=
  ⟨.sink [] 0 limit, false, true⟩

end Channel

def Target.taken : Target → Bytes
  | .sink pieces .. => pieces.reverse.flatten
  | _ => []

def World.takenBy (w : World) (index : Nat) : Bytes :=
  ((w.channels[index]?).map fun c => c.target.taken).getD []

def retarget (index : Nat) (target : Target) : Act Unit :=
  modify fun s => { s with channels := s.channels.modify index fun c => { c with target } }

def openChannel (c : Channel) : Act Nat := do
  let s ← get
  set { s with channels := s.channels ++ [c] }
  return s.channels.length

def releaseChannels (index : Nat) : Act Unit :=
  modify fun s =>
    if s.pending.isEmpty then
      let used := s.streams.foldl (fun n (_, i) => max n (i + 1)) index
      { s with channels := s.channels.take used }
    else s

def channelOf? (s : State) (stream : Nat) : Option (Nat × Channel) := do
  let index ← s.streams.lookup stream
  return (index, ← s.channels[index]?)

def targetOf? (s : State) (stream : Nat) : Option Target :=
  (channelOf? s stream).map fun (_, c) => c.target

def connect (stream : Nat) (index : Option Nat) : Act Unit :=
  modify fun s =>
    { s with
      streams := (index.map (stream, ·)).toList ++ s.streams.filter fun (n, _) => n != stream }

def connectNew (stream : Nat) (c : Channel) : Act Unit := do
  connect stream (some (← openChannel c))

def contentAt (fs : Files) (place : Place) : Bytes :=
  match fs.get? place with
  | some (.file content) => content
  | _ => []

def overwritten (content : Bytes) (offset : Nat) (bytes : Bytes) : Bytes :=
  let front := content.take offset
  front ++ List.replicate (offset - front.length) 0 ++ bytes ++ content.drop (offset + bytes.length)

def writeChannel (index : Nat) (target : Target) (bytes : Bytes) : Act Unit := do
  match target with
  | .sink pieces size limit =>
    let size := size + bytes.length
    retarget index (.sink (bytes :: pieces) size limit)
    if limit.any (· < size) then throw (.full index)
  | .file place offset appends =>
    let s ← get
    let content := contentAt s.files place
    let length := content.length
    let offset := if appends then length else offset
    let content := if offset = length then content ++ bytes else overwritten content offset bytes
    set { s with files := s.files.set place (.file content) }
    retarget index (.file place (offset + bytes.length) appends)
  | _ => return ()

def writeBytes (stream : Nat) (bytes : Bytes) : Act Bool := do
  match channelOf? (← get) stream with
  | none => return false
  | some (index, c) =>
    if c.writes && c.target != .directory then
      if !bytes.isEmpty then writeChannel index c.target bytes
      return true
    else return bytes.isEmpty

def write (stream : Nat) (text : Octets) : Act Unit := do
  discard (writeBytes stream (Octets.toBytes text))

/-- Write to the output of the running builtin command, which goes on when the command has ended. -/
def say (text : Octets) : Act Unit :=
  modify fun s => { s with pieces := text :: s.pieces }

def passOutput : Act Unit := do
  let s ← get
  if !s.pieces.isEmpty then
    set { s with pieces := [] }
    let bytes := s.pieces.reverse.flatMap Octets.toBytes
    if !(← writeBytes 1 bytes) then modify fun s => { s with losesOutput := true }

/-- Why nothing can be read from a stream. -/
inductive ReadError where
  | isClosed
  | isDirectory
  deriving DecidableEq, Repr

def Channel.available (fs : Files) (c : Channel) : Except ReadError Bytes :=
  if !c.reads then .error .isClosed
  else
    match c.target with
    | .nothing | .sink .. => .ok []
    | .source left _ => .ok left
    | .file place offset _ => .ok ((contentAt fs place).drop offset)
    | .directory => .error .isDirectory

def advance (index : Nat) (c : Channel) (count : Nat) : Act Unit :=
  match c.target with
  | .source left isComplete => retarget index (.source (left.drop count) isComplete)
  | .file place offset appends => retarget index (.file place (offset + count) appends)
  | _ => return ()

/-- Read from a stream what `part` takes of the bytes that are available. That is shown only if it
does not depend on bytes that nobody knows. -/
def readPart (stream : Nat) (part : Bytes → Nat × Bool) : Act (Except ReadError Bytes) := do
  let s ← get
  match channelOf? s stream with
  | none => return .error .isClosed
  | some (index, c) =>
    match c.available s.files with
    | .error e => return .error e
    | .ok bytes =>
      let (count, isSure) := part bytes
      match c.target with
      | .source _ false => if !isSure then throw (.drained index)
      | _ => pure ()
      advance index c count
      return .ok (bytes.take count)

def readPortion (stream limit : Nat) : Act (Except ReadError Bytes) :=
  readPart stream fun bytes => (min limit bytes.length, !bytes.isEmpty)

def readAvailable (stream : Nat) : Act (Except ReadError Bytes) :=
  readPart stream fun bytes => (bytes.length, !bytes.isEmpty)

/-! Complaints. -/

def warn (text : Octets) : Act Unit := do
  let s ← get
  let who := match s.builtin with
    | some name => name ++ ": "
    | none => ""
  write 2 (s.name ++ ": " ++ numeral s.line ++ ": " ++ who ++ text ++ "\n")

def fail {α : Type} (text : Octets) : Act α := do
  warn text
  throw (.failure 2)

end Cartridge.Shell
