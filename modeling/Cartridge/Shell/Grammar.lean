import Cartridge.Shell.Lexer

/-!
Commands. A script is read one line at a time: what is wrong with a later line matters only after
the earlier ones have been run.
-/

namespace Cartridge.Shell

open Parse

inductive Goal where
  | line
  | block
  | body
  | single
  deriving DecidableEq, Repr

/-- The builtin commands that end a script if they fail. No function can have such a name. -/
def specialBuiltins : List String :=
  [".", ":", "break", "continue", "eval", "exec", "exit", "export", "local", "readonly", "return",
    "set", "shift", "times", "trap", "unset"]

abbrev Grammar := Goal → Parse (List Command)

namespace Grammar

variable (g : Grammar)

def next (r : Reading) : Parse Token :=
  token (g .body) r

def keyword (r : Reading) (text : String) : Parse Unit := do
  let t ← next g r
  if t.isKeyword text then return () else expected t (.keyword text)

def redirect (stream : Nat) (d : Direction) : Parse Redirect := do
  let marker := match d with
    | .document _ => true
    | _ => false
  modify fun s => { s with isMarker := marker }
  let t ← next g anywhere
  modify fun s => { s with isMarker := false }
  match t with
  | .word w =>
    match d with
    | .file how => return .file stream how w
    | .duplicate => return .duplicate stream w
    | .document stripsTabs =>
      let s ← get
      let number := s.documents.length + s.announced.length
      let a : Announced := ⟨number, Word.literal w, stripsTabs, !w.any Part.isQuote⟩
      set { s with announced := s.announced ++ [a] }
      return .document stream number
  | t => unexpected t

def redirects : Nat → Parse (List Redirect)
  | 0 => return []
  | fuel + 1 => do
    match ← next g atEnd with
    | .redirect stream d =>
      let r ← redirect g stream d
      return r :: (← redirects fuel)
    | t =>
      putBack t
      return []

/-- A command that has been read so far: its parts in reverse. -/
structure Simple where
  assignments : List Assignment
  words : List Word
  redirects : List Redirect

/-- Read the parts of a command, or the body of the function that it turns out to define. The words
up to the name of the command can be aliases. -/
def simple (line : Nat) (c : Simple) : Nat → Parse Command
  | 0 => refuse "word unexpected"
  | fuel + 1 => do
    let finish : Command :=
      .simple line c.assignments.reverse c.words.reverse c.redirects.reverse
    match ← next g { anywhere with aliases := c.words.isEmpty } with
    | .word w =>
      match Word.assignment? w, c.words with
      | some (name, value), [] =>
        simple line { c with assignments := .set name value :: c.assignments } fuel
      | _, words => simple line { c with words := w :: words } fuel
    | .redirect stream d =>
      let r ← redirect g stream d
      simple line { c with redirects := r :: c.redirects } fuel
    | .openParen =>
      match c.words, c.assignments, c.redirects with
      | [w], [], [] =>
        match ← next g anywhere with
        | .closeParen =>
          let name := (Word.plain? w).getD ""
          if !isName name || specialBuiltins.contains name then refuse "Bad function name"
          else
            match ← g .single with
            | [body] => return .define name body
            | _ => refuse "Bad function name"
        | t => expected t .closeParen
      | _, _, _ =>
        putBack .openParen
        return finish
    | t =>
      putBack t
      return finish

def words : Nat → Parse (List Word)
  | 0 => return []
  | fuel + 1 => do
    match ← next g anywhere with
    | .word w => return w :: (← words fuel)
    | .lineEnd | .semicolon => return []
    | t => unexpected t

/-- Read the patterns of a choice after the first one. What is no word stands for the last word
before it. -/
def patterns : Nat → Parse (List Word)
  | 0 => return []
  | fuel + 1 => do
    let w := (← get).lastWord
    match ← next g anywhere with
    | .pipe =>
      let _ ← next g anywhere
      return w :: (← patterns fuel)
    | .closeParen => return [w]
    | t => expected t .closeParen

def choices : Nat → Parse (List Choice)
  | 0 => return []
  | fuel + 1 => do
    let t ← next g atChoice
    if t.isKeyword "esac" then return []
    else
      match t with
      | .openParen => discard (next g anywhere)
      | _ => pure ()
      let patterns ← patterns g Source.stepLimit
      let body ← g .body
      match ← next g atChoice with
      | .endChoice => return .choice patterns body :: (← choices fuel)
      | t =>
        if t.isKeyword "esac" then return [.choice patterns body]
        else expected t .endChoice

def branch : Nat → Parse Command
  | 0 => refuse "\"if\" unexpected"
  | fuel + 1 => do
    let condition ← g .block
    keyword g anywhere "then"
    let yes ← g .block
    let t ← next g anywhere
    if t.isKeyword "elif" then return .branch condition yes [← branch fuel]
    else if t.isKeyword "else" then return .branch condition yes (← g .block)
    else
      putBack t
      return .branch condition yes []

def each (line : Nat) : Parse Command := do
  match ← next g anywhere with
  | .word w =>
    let name := (Word.plain? w).getD ""
    if !isName name then refuse "Bad for loop variable"
    else
      let t ← next g atStart
      let list ←
        if t.isKeyword "in" then words g Source.stepLimit
        else
          match t with
          | .semicolon => pure ()
          | t => putBack t
          pure [[.parameter "@" .value [] true]]
      keyword g atStart "do"
      return .each line name list (← g .block)
  | _ => refuse "Bad for loop variable"

def select (line : Nat) : Parse Command := do
  match ← next g anywhere with
  | .word subject =>
    keyword g atStart "in"
    return .select line subject (← choices g Source.stepLimit)
  | t => expected t (.word [])

/-- Read a command that starts with a keyword or a parenthesis, up to the token that ends it. -/
def compound (line : Nat) : Token → Parse Command
  | .openParen => do
    let body ← g .block
    match ← next g anywhere with
    | .closeParen => return .subshell line body []
    | t => expected t .closeParen
  | .keyword "if" => do
    let c ← branch g Source.stepLimit
    keyword g anywhere "fi"
    return c
  | .keyword "while" => loop false
  | .keyword "until" => loop true
  | .keyword "for" => do
    let c ← each g line
    keyword g anywhere "done"
    return c
  | .keyword "case" => select g line
  | .keyword "\x7b" => do
    let body ← g .block
    keyword g anywhere "\x7d"
    return .group body
  | t => unexpected t
where
  loop (inverted : Bool) : Parse Command := do
    let condition ← g .block
    keyword g anywhere "do"
    let body ← g .block
    keyword g anywhere "done"
    return .loop inverted condition body

/-- Read a command that starts with a token. Unless it is a simple one, `line` is its line. -/
def command (line : Nat) (t : Token) : Parse Command := do
  match t with
  | .word _ | .redirect .. =>
    let line := (← get).line
    putBack t
    simple g line ⟨[], [], []⟩ Source.stepLimit
  | t =>
    let c ← compound g line t
    match c, ← redirects g Source.stepLimit with
    | c, [] => return c
    | .subshell line body _, rs => return .subshell line body rs
    | c, rs => return .redirected line c rs

def stages : Nat → Parse (List Command)
  | 0 => return []
  | fuel + 1 => do
    match ← next g anywhere with
    | .pipe =>
      let line := (← get).line
      let c ← command g line (← next g atStart)
      return c :: (← stages fuel)
    | t =>
      putBack t
      return []

def pipeline (t : Token) : Parse Command := do
  let negated := t.isKeyword "!"
  let line := (← get).line
  let first ← command g line (← if negated then next g atEnd else pure t)
  let all ← match ← stages g Source.stepLimit with
    | [] => pure first
    | others => pure (.pipeline (first :: others))
  return if negated then .negate all else all

def andOr (before : Command) : Nat → Parse Command
  | 0 => return before
  | fuel + 1 => do
    match ← next g anywhere with
    | .and => andOr (.both before (← pipeline g (← next g atStart))) fuel
    | .or => andOr (.either before (← pipeline g (← next g atStart))) fuel
    | t =>
      putBack t
      return before

/-- A command that nothing waits for. Its redirections are those of the part of the script that runs
by itself. -/
def inBackground : Command → Command
  | .redirected line body redirects => .background line body redirects
  | c => .background 0 c []

def list (goal : Goal) (first : Bool) : Nat → Parse (List Command)
  | 0 => return []
  | fuel + 1 => do
    match ← next g { atEnd with skipsLineEnds := goal ≠ .line } with
    | .lineEnd =>
      readDocuments (g .body)
      return []
    | .endOfScript =>
      readDocuments (g .body)
      putBack .endOfScript
      return []
    | t =>
      if t.endsList && (goal = .body || (goal = .block && !first)) then
        putBack t
        return []
      else
        let c ← andOr g (← pipeline g t) Source.stepLimit
        match ← next g anywhere with
        | .background => return inBackground c :: (← list goal false fuel)
        | .semicolon => return c :: (← list goal false fuel)
        | .lineEnd =>
          putBack .lineEnd
          return c :: (← list goal false fuel)
        | .endOfScript =>
          readDocuments (g .body)
          putBack .endOfScript
          return [c]
        | t =>
          if goal = .line then unexpected t
          else
            putBack t
            return [c]

end Grammar

def grammar : Nat → Grammar
  | 0, _ => refuse "end of file unexpected"
  | depth + 1, goal => do
    match goal with
    | .single => do
      let line := (← get).line
      return [← (grammar depth).command line (← (grammar depth).next atStart)]
    | goal => (grammar depth).list goal true Source.stepLimit

structure Line where
  commands : List Command
  isEnd : Bool
  source : Source

def nextLine (s : Source) : Except SyntaxError Line := do
  let fresh := { s with again := none, announced := [], aliasNext := false }
  let (commands, source) ← (grammar Source.stepLimit .line).run fresh
  let isEnd := match source.again with
    | some .endOfScript => commands.isEmpty
    | _ => false
  return ⟨commands, isEnd, source⟩

end Cartridge.Shell
