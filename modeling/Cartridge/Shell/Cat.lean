import Cartridge.Shell.Echo
import Cartridge.Shell.Redirection

/-!
The program `cat`: it writes files one after the other, if asked with numbered lines and with
characters made visible.
-/

namespace Cartridge.Shell

open Cartridge.Text

/-! Names in complaints are quoted where a shell would need that. -/

def isOrdinary (c : Char) : Bool :=
  c.isAlphanum || "%+,-./]_@".toList.contains c

def isPrintable (c : Char) : Bool :=
  32 ≤ c.toNat && c.toNat < 127

/-- A text that needs no quotes, given whether its first character is among the given ones. -/
def needsNoQuotes (text : List Char) : Bool :=
  match text with
  | [] => false
  | ['\x7b'] | ['\x7d'] => false
  | c :: rest =>
    (isOrdinary c || c == '\x7b' || c == '\x7d') &&
      rest.all fun c => isOrdinary c || c == '#' || c == '~' || c == '\x7b' || c == '\x7d'

def visibleEscape (c : Char) : List Char :=
  let named := [('\x07', 'a'), ('\x08', 'b'), ('\x0c', 'f'), ('\n', 'n'), ('\r', 'r'), ('\t', 't'),
    ('\x0b', 'v')]
  match named.lookup c with
  | some letter => ['\\', letter]
  | none =>
    let n := c.toNat
    '\\' :: [n / 64, n / 8 % 8, n % 8].map decimalDigit

/-- A text inside single quotes. `escaping` says that the last characters were escapes, which stand
outside of them. -/
def inSingleQuotes (escaping : Bool) : List Char → List Char
  | [] => ['\'']
  | c :: rest =>
    if isPrintable c then
      let opening := if escaping then ['\'', '\''] else []
      let shown := if c = '\'' then ['\'', '\\', '\'', '\''] else [c]
      opening ++ shown ++ inSingleQuotes false rest
    else
      let opening := if escaping then [] else ['\'', '$', '\'']
      opening ++ visibleEscape c ++ inSingleQuotes true rest

def fitsDoubleQuotes (c : Char) : Bool :=
  isOrdinary c || c == '\'' || c == ' ' || c == '#' || c == '~' || c == ':'

def quotedName (name : Octets) : Octets :=
  let cs := name.toList
  if needsNoQuotes cs then name
  else if cs.contains '\'' && cs.all fitsDoubleQuotes then "\"" ++ name ++ "\""
  else String.ofList ('\'' :: inSingleQuotes false cs)

/-! Options. -/

structure CatOptions where
  number : Bool
  numberNonblank : Bool
  squeeze : Bool
  showEnds : Bool
  showTabs : Bool
  showAll : Bool
  deriving DecidableEq, Repr

namespace CatOptions

def plain : CatOptions := ⟨false, false, false, false, false, false⟩

def letter? (o : CatOptions) (c : Char) : Option CatOptions :=
  match c with
  | 'A' => some { o with showAll := true, showEnds := true, showTabs := true }
  | 'b' => some { o with number := true, numberNonblank := true }
  | 'e' => some { o with showAll := true, showEnds := true }
  | 'E' => some { o with showEnds := true }
  | 'n' => some { o with number := true }
  | 's' => some { o with squeeze := true }
  | 't' => some { o with showAll := true, showTabs := true }
  | 'T' => some { o with showTabs := true }
  | 'u' => some o
  | 'v' => some { o with showAll := true }
  | _ => none

def longNames : List (String × Char) :=
  [("number-nonblank", 'b'), ("number", 'n'), ("squeeze-blank", 's'), ("show-nonprinting", 'v'),
    ("show-ends", 'E'), ("show-tabs", 'T'), ("show-all", 'A'), ("help", 'h'), ("version", 'V')]

inductive Request where
  | write (o : CatOptions) (files : List Octets)
  | refuse (reason : Octets)
  | describe
  deriving DecidableEq, Repr

def longOption (o : CatOptions) (text : Octets) : Except Request CatOptions :=
  let name := text.toList.takeWhile (· != '=')
  let given := longNames.filter fun l => l.1.toList == name
  match if given.isEmpty then longNames.filter (fun l => name.isPrefixOf l.1.toList) else given with
  | [] => .error (.refuse ("unrecognized option '--" ++ text ++ "'"))
  | [(full, letter)] =>
    if name.length < text.length then
      .error (.refuse ("option '--" ++ full ++ "' doesn't allow an argument"))
    else
      match o.letter? letter with
      | some o => .ok o
      | none => .error .describe
  | several =>
    let names := several.map fun l => " '--" ++ l.1 ++ "'"
    .error (.refuse ("option '--" ++ text ++ "' is ambiguous; possibilities:" ++ String.join names))

def letters (o : CatOptions) : List Char → Except Request CatOptions
  | [] => .ok o
  | c :: rest =>
    match o.letter? c with
    | some o => letters o rest
    | none => .error (.refuse ("invalid option -- '" ++ String.ofList [c] ++ "'"))

def request (o : CatOptions) (files : List Octets) : List Octets → Request
  | [] => .write o files
  | "--" :: rest => .write o (files ++ rest)
  | arg :: rest =>
    let effect : Except Request (Option CatOptions) :=
      match arg.toList with
      | '-' :: '-' :: name => (longOption o (String.ofList name)).map some
      | '-' :: c :: cs => (letters o (c :: cs)).map some
      | _ => .ok none
    match effect with
    | .error r => r
    | .ok (some o) => request o files rest
    | .ok none => request o (files ++ [arg]) rest

end CatOptions

/-! What is written. -/

/-- How far the lines have been written. -/
structure CatLines where
  line : Nat
  /-- How many line ends came last, less one if another character came before them. -/
  ends : Int
  waits : Bool
  deriving DecidableEq, Repr

def visible (c : Char) : List Char :=
  let n := c.toNat
  let low := fun (n : Nat) =>
    if n < 32 then ['^', Char.ofNat (n + 64)]
    else if n < 127 then [Char.ofNat n]
    else ['^', '?']
  if n < 128 then low n else ['M', '-'] ++ low (n - 128)

def CatOptions.shown (o : CatOptions) (c : Char) : List Char :=
  if c = '\t' then (if o.showTabs then ['^', 'I'] else [c])
  else if o.showAll then visible c
  else [c]

def lineNumber (n : Nat) : List Char :=
  let digits := decimal n
  List.replicate (6 - digits.length) ' ' ++ digits ++ ['\t']

def CatOptions.apply (o : CatOptions) (l : CatLines) : List Char → List Char × CatLines
  | [] => ([], l)
  | '\n' :: rest =>
    let waiting := if l.waits then ['^', 'M'] else []
    let ends := min 2 (l.ends + 1)
    if o.squeeze && ends == 2 then CatOptions.apply o { l with ends } rest
    else
      let numbered := ends > 0 && o.number && !o.numberNonblank
      let line := if numbered then l.line + 1 else l.line
      let (others, l) := CatOptions.apply o ⟨line, ends, false⟩ rest
      (waiting ++ (if numbered then lineNumber line else []) ++
        (if o.showEnds then ['$', '\n'] else ['\n']) ++ others, l)
  | c :: rest =>
    let waiting := if l.waits then ['\r'] else []
    let numbered := decide (0 ≤ l.ends) && o.number
    let line := if numbered then l.line + 1 else l.line
    let waits := c == '\r' && o.showEnds && !o.showAll
    let (others, l) := CatOptions.apply o ⟨line, -1, waits⟩ rest
    (waiting ++ (if numbered then lineNumber line else []) ++ (if waits then [] else o.shown c) ++
      others, l)

/-! The program. -/

def fileReason : FileError → String
  | .isDirectory => "Is a directory"
  | .notDirectory => "Not a directory"
  | .badName => "File name too long"
  | _ => "No such file or directory"

def readReason : ReadError → String
  | .isClosed => "Bad file descriptor"
  | .isDirectory => "Is a directory"

def isOwnOutput (s : State) (place : Place) (offset : Nat) : Bool :=
  match targetOf? s 1 with
  | some (.file out written appends) =>
    out == place && offset < (if appends then (contentAt s.files place).length else written)
  | _ => false

/-- Write a text in the way that the options ask for. The result says also whether it could be
written. -/
def catText (o : CatOptions) (l : CatLines) (bytes : Bytes) : Act (CatLines × Bool) := do
  if o = .plain then return (l, ← writeBytes 1 bytes)
  else
    let (cs, l) := o.apply l (Octets.ofBytes bytes).toList
    return (l, ← writeBytes 1 (Octets.toBytes (String.ofList cs)))

inductive CatEnd where
  | done
  | refused (reason : String)
  | broken
  deriving DecidableEq, Repr

def catStream (o : CatOptions) (stream : Nat) : Nat → CatLines → Act (CatLines × CatEnd)
  | 0, l => return (l, .done)
  | fuel + 1, l => do
    match ← readAvailable stream with
    | .error e => return (l, .refused (readReason e))
    | .ok [] => return (l, .done)
    | .ok bytes =>
      let (l, isWritten) ← catText o l bytes
      if isWritten then catStream o stream fuel l else return (l, .broken)

def catFile (o : CatOptions) (l : CatLines) (place : Place) : Act (CatLines × CatEnd) := do
  let s ← get
  match s.files.get? place with
  | none => return (l, .refused (fileReason .notFound))
  | some .directory => return (l, .refused (fileReason .isDirectory))
  | some (.file content) =>
    if isOwnOutput s place 0 then return (l, .refused "input file is output file")
    else
      let (l, isWritten) ← catText o l (if place = nullFile then [] else content)
      return (l, if isWritten then .done else .broken)

def catNamed (o : CatOptions) (l : CatLines) (name : Octets) : Act (CatLines × CatEnd) := do
  let s ← get
  let stream? := if name = "-" then some 0 else streamPath? name
  match stream? with
  | none =>
    match s.files.locate (Octets.toText name) with
    | .error e => return (l, .refused (fileReason e))
    | .ok place => catFile o l place
  | some stream =>
    match targetOf? s stream with
    | some (.file place offset _) =>
      if name = "-" then
        if isOwnOutput s place offset then return (l, .refused "input file is output file")
        else catStream o stream Source.stepLimit l
      else catFile o l place
    | none =>
      return (l, .refused (if name = "-" then readReason .isClosed else fileReason .notFound))
    | _ => catStream o stream Source.stepLimit l

def catFiles (name : Octets) (o : CatOptions) : CatLines → List Octets → Act (CatLines × Nat)
  | l, [] => return (l, 0)
  | l, file :: rest => do
    match ← catNamed o l file with
    | (l, .done) => catFiles name o l rest
    | (l, .refused reason) =>
      write 2 (name ++ ": " ++ quotedName file ++ ": " ++ reason ++ "\n")
      let (l, _) ← catFiles name o l rest
      return (l, 1)
    | (l, .broken) =>
      write 2 (name ++ ": write error: Bad file descriptor\n")
      return (l, 1)

def cat (name : Octets) (args : List Octets) : Act Nat := do
  match CatOptions.plain.request [] args with
  | .describe => return 0
  | .refuse reason =>
    write 2 (name ++ ": " ++ reason ++ "\nTry '" ++ name ++ " --help' for more information.\n")
    return 1
  | .write o files =>
    let files := if files.isEmpty then ["-"] else files
    if (channelOf? (← get) 1).isNone then
      write 2 (name ++ ": standard output: Bad file descriptor\n")
      return 1
    else
      let (l, status) ← catFiles name o ⟨0, 0, false⟩ files
      if l.waits then write 1 "\r"
      if files.contains "-" && (channelOf? (← get) 0).isNone then
        write 2 (name ++ ": closing standard input: Bad file descriptor\n")
        return 1
      return status

end Cartridge.Shell
