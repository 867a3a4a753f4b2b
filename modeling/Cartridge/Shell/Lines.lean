import Cartridge.Shell.Grammar
import Cartridge.Shell.Process

/-!
Running a script one line at a time. What a line needs of the texts after it is read only then, so
that commands can read what comes after them.
-/

namespace Cartridge.Shell

def Origin.available (o : Origin) (s : State) : Bytes :=
  match o with
  | .text _ => []
  | .stream n =>
    match channelOf? s n with
    | some (_, c) => (c.available s.files).toOption.getD []
    | none => []

def Origin.source : Origin → Source
  | .text script => .start script []
  | .stream _ => .start "" []

def Origin.advance (o : Origin) (count : Nat) : Act Unit := do
  match o with
  | .text _ => return ()
  | .stream n =>
    if count ≠ 0 then discard (readPart n fun bytes => (count, count < bytes.length))

def touchedLines (text : List Char) (count : Nat) : List Char :=
  let read := text.take count
  let isWhole := read.getLast?.all (· == '\n')
  let rest := if isWhole then [] else text.drop count
  let further := rest.takeWhile (· != '\n')
  read ++ further ++ (rest.drop further.length).take 1

def echoRead (o : Origin) (text : List Char) (left : Nat) : Act Unit := do
  match o with
  | .text _ => return ()
  | .stream _ =>
    if ← isOn .echoes then write 2 (String.ofList (touchedLines text (text.length - left)))

def readCommands (o : Origin) (source : Source) : Act Line := do
  let s ← get
  let beyond := (Octets.ofBytes (o.available s)).toList
  let source :=
    { source with documents := s.documents, aliases := s.aliases, beyond, fetched := 0 }
  match nextLine source with
  | .error e =>
    echoRead o source.remaining e.left
    modify fun s => { s with line := e.line, reached := e.line }
    fail ("Syntax error: " ++ e.text)
  | .ok line =>
    o.advance line.source.fetched
    echoRead o source.remaining line.source.left
    let endIsNext := !line.isEnd && line.source.again matches some .endOfScript
    modify fun s =>
      { s with documents := line.source.documents, reached := line.source.line, endIsNext }
    return line

def runLines (run : List Command → Act Unit) (o : Origin) (ran : Bool) : Nat → Source → Act Unit
  | 0, _ => throw .exhausted
  | fuel + 1, source => do
    let line ← readCommands o source
    if line.isEnd then
      if !ran then setStatus 0
    else
      run line.commands
      runLines run o (ran || !line.commands.isEmpty) fuel line.source

def runScript (run : List Command → Act Unit) (o : Origin) : Act Unit := do
  let reached := (← get).reached
  ensuring (runLines run o false Source.stepLimit o.source) do
    modify fun s => { s with reached }

end Cartridge.Shell
