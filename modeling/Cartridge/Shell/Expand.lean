import Cartridge.Shell.Arithmetic
import Cartridge.Shell.Field
import Cartridge.Shell.Glob
import Cartridge.Shell.Signal
import Cartridge.Shell.Trim

/-!
Expansion of words: parameters, output of commands and arithmetic expressions are put in, the
results fall apart into fields, and fields that are patterns become the names of files.
-/

namespace Cartridge.Shell

/-! Parameters. -/

/-- The value of a parameter: one text or, for all arguments, several. -/
inductive Value where
  | text (s : Octets)
  | all (texts : List Octets)
  deriving DecidableEq, Repr

def argumentNumber (digits : Nat) : Int :=
  Int.bmod (min digits 0x7fffffffffffffff) 0x100000000

def Interpreter.parameter? (s : Interpreter) (name : String) : Option Value :=
  match name with
  | "@" | "*" => some (.all s.args)
  | "#" => some (.text (numeral s.args.length))
  | "?" => some (.text (numeral s.status))
  | "-" => some (.text (lettersOf s.settings))
  | "$" => some (.text (numeral s.mainPid))
  | "!" => s.lastJob.map fun pid => .text (numeral pid)
  | name =>
    match Cartridge.Text.readDecimal? name.toList with
    | some n =>
      match argumentNumber n with
      | .ofNat 0 => some (.text s.name)
      | .ofNat (n + 1) => s.args[n]?.map .text
      | _ => none
    | none => (s.value? name).map .text

structure Style where
  fields : Bool
  escapes : Bool
  tildes : Bool
  deriving DecidableEq, Repr

namespace Style

def fieldwise : Style := ⟨true, true, false⟩

def pattern : Style := ⟨false, true, false⟩

def text : Style := ⟨false, false, false⟩

def assigned : Style := ⟨false, false, true⟩

def items (st : Style) (quoted : Bool) (text : Octets) : List Item :=
  Item.ofText (st.escapes && quoted) (fun c => isMeaningful c || c == '\\') text

def valueItems (s : Interpreter) (st : Style) (name : String) (quoted : Bool) : Value → List Item
  | .text t => st.items quoted t
  | .all texts =>
    let ifs := s.value? "IFS"
    let between :=
      if st.fields && (if quoted then name == "@" else ifs.isSome) then [.gap]
      else
        match ifs with
        | none => st.items quoted " "
        | some separators =>
          if quoted || !st.fields then st.items quoted (String.ofList (separators.toList.take 1))
          else [.plain ' ']
    ((texts.map (st.items quoted)).intersperse between).flatten

end Style

def demand (name : String) : Act (Option Value) := do
  let s ← get
  match s.parameter? name with
  | some v => return some v
  | none =>
    if s.settings.contains .demandsValues then fail (name ++ ": parameter not set")
    else return none

def numberOf (name : String) : Act Int64 := do
  let text := ((← get).value? name).getD ""
  if text.toList.all isNumberBlank then return 0
  else
    match wholeInteger? integer? text with
    | some n => return Int64.ofInt n
    | none => illegalNumber text

/-- An arithmetic expression as it is read: one byte in it counts as an escape of the next one and
another as a mark of quotes, and both vanish. -/
def readExpression : List Char → List Char
  | '\x81' :: c :: rest => c :: readExpression rest
  | '\x81' :: [] => []
  | '\x88' :: rest => readExpression rest
  | c :: rest => c :: readExpression rest
  | [] => []

def arithmetic (text : Octets) : Act Octets := do
  let text := String.ofList (readExpression text.toList)
  let complain := fun (reason : String) =>
    (fail ("arithmetic expression: " ++ reason ++ ": \"" ++ text ++ "\"") : Act Int64)
  let μ : Expr.Meaning Act :=
    { get := numberOf
      set := fun name n => assign name (intNumeral n.toInt)
      refuse := fun f =>
        match f with
        | .mistake reason => complain reason
        | .divisionByZero => complain "division by zero"
        | .overflow => throw (.killed divisionError) }
  return intNumeral (← (Expr.ofText text).eval μ true).toInt

def homeOf? (s : Interpreter) (user : List Char) : Option Octets :=
  match user with
  | [] => s.value? "HOME"
  | user => if user = "root".toList then some "/root" else none

def userName? (st : Style) : List Part → Option (List Char)
  | [] => some []
  | .char c .none :: rest =>
    if c = '/' ∨ (c = ':' ∧ st.tildes) then some []
    else (userName? st rest).map (c :: ·)
  | _ => none

/-! Words. -/

/-- A word that has been expanded so far. -/
structure Draft where
  done : List Stretch
  items : List Item
  splitting : Splitting
  mayBeTilde : Bool
  skips : Nat

namespace Draft

def start (mayBeTilde : Bool) : Draft :=
  ⟨[], [], .nowhere, mayBeTilde, 0⟩

def close (d : Draft) : Draft :=
  if d.items.isEmpty then { d with splitting := .nowhere }
  else
    { d with
      done := ⟨d.items.reverse, d.splitting⟩ :: d.done
      items := []
      splitting := .nowhere }

def add (d : Draft) (splitting : Splitting) (i : Item) : Draft :=
  let d := if d.splitting = splitting then d else { d.close with splitting }
  { d with items := i :: d.items, mayBeTilde := false }

def append (d : Draft) (stretches : List Stretch) : Draft :=
  let d := d.close
  { d with done := stretches.reverse ++ d.done, mayBeTilde := false }

def stretches (d : Draft) : List Stretch :=
  d.close.done.reverse

end Draft

def addChar (s : Interpreter) (st : Style) (inWord : Bool) (d : Draft) (c : Char) (cover : Cover)
    (rest : List Part) : Draft :=
  if 0 < d.skips then { d with skips := d.skips - 1, mayBeTilde := false }
  else
    let home? := if d.mayBeTilde && c == '~' && cover == .none then userName? st rest else none
    match home?.bind fun user => (homeOf? s user).map (user.length, ·) with
    | some (skips, home) =>
      { (st.items true home).foldl (Draft.add · .nowhere) d with skips, mayBeTilde := false }
    | none =>
      match cover with
      | .none =>
        { d.add (if inWord then .atSeparators else .nowhere) (.plain c) with
          mayBeTilde := st.tildes && c == ':' }
      | .quotes => d.add .nowhere (.plain c)
      | .escape => d.add .nowhere (if st.escapes then .escaped c else .plain c)

mutual

def expandPart (run : List Command → Act Octets) (st : Style) : Part → Act (List Stretch)
  | .char .. | .mark => return []
  | .output body quoted => do
    let items := st.items quoted (← run body)
    return [⟨items, if quoted then .nowhere else .atSeparators⟩]
  | .arithmetic e quoted => do
    let text := Item.text (itemsOf (← expandParts run .text false (.start false) e))
    let items := st.items quoted (← arithmetic text)
    return [⟨items, if quoted then .nowhere else .atSeparators⟩]
  | .parameter name use word quoted => do
    let stretch := fun (items : List Item) => do
      let hasGaps := name == "@" && !(← get).args.isEmpty
      let splitting : Splitting :=
        if !quoted then .atSeparators else if hasGaps then .atGaps else .nowhere
      return [⟨items, splitting⟩]
    let itemsNow := fun (st : Style) => do
      let s := (← get).toInterpreter
      return (s.parameter? name).map (st.valueItems s name quoted)
    let isThere := fun (nonempty : Bool) (items : Option (List Item)) =>
      match items with
      | none => false
      | some items => !(nonempty && items.isEmpty)
    let other := expandParts run st (!quoted) (.start true) word
    let text := do return Item.text (itemsOf (← expandParts run .text false (.start true) word))
    let trimmed := fun (remains : Trim → List Item) => do
      match ← demand name with
      | none => return []
      | some v =>
        let items := st.valueItems (← get).toInterpreter name quoted v
        let pattern := itemsOf (← expandParts run .pattern false (.start true) word)
        stretch (remains ⟨pattern, items⟩)
    match use with
    | .malformed => fail "Bad substitution"
    | .value =>
      match ← demand name with
      | some v => stretch (st.valueItems (← get).toInterpreter name quoted v)
      | none => return []
    | .length =>
      match ← demand name with
      | some v =>
        stretch (st.items quoted
          (numeral (Style.text.valueItems (← get).toInterpreter name quoted v).length))
      | none => stretch (st.items quoted "0")
    | .orElse nonempty =>
      let items ← itemsNow st
      if isThere nonempty items then stretch (items.getD []) else other
    | .ifSet nonempty =>
      if isThere nonempty (← itemsNow .text) then other else stretch []
    | .orAssign nonempty =>
      if !isThere nonempty (← itemsNow st) then assignNamed name (← text)
      stretch ((← itemsNow st).getD [])
    | .orFail nonempty =>
      let items ← itemsNow st
      if isThere nonempty items then stretch (items.getD [])
      else
        let reason ← text
        let usual := "parameter not set" ++ if nonempty then " or null" else ""
        fail (name ++ ": " ++ if word.isEmpty then usual else reason)
    | .cutFront longest => trimmed fun t => t.front longest
    | .cutBack longest => trimmed fun t => t.back longest

/-- What the pieces of a word become. In a word of a parameter that is not quoted, `inWord`, plain
characters can separate fields. -/
def expandParts (run : List Command → Act Octets) (st : Style) (inWord : Bool) (d : Draft) :
    List Part → Act (List Stretch)
  | [] => return d.stretches
  | .char c cover :: rest => do
    expandParts run st inWord (addChar (← get).toInterpreter st inWord d c cover rest) rest
  | .mark :: rest =>
    expandParts run st inWord
      (if st.escapes then d.add .nowhere .mark else { d with mayBeTilde := false }) rest
  | p :: rest => do
    expandParts run st inWord (d.append (← expandPart run st p)) rest

end

def expandText (run : List Command → Act Octets) (w : Word) : Act Octets := do
  return Item.text (itemsOf (← expandParts run .text false (.start true) w))

def expandAssigned (run : List Command → Act Octets) (w : Word) : Act Octets := do
  return Item.text (itemsOf (← expandParts run .assigned false (.start true) w))

def expandPattern (run : List Command → Act Octets) (w : Word) : Act (List Pattern) := do
  return Pattern.read (Item.pattern (itemsOf (← expandParts run .pattern false (.start true) w)))

def expandDocument (run : List Command → Act Octets) (w : Word) : Act Octets := do
  return Item.text (itemsOf (← expandParts run .text false (.start false) w))

def globField (fs : Files) (field : List Item) : List Octets :=
  let text := Item.text field
  if text.toList.any fun c => c == '*' || c == '?' || c == '[' then
    match globbed fs (Item.pattern field) with
    | [] => [text]
    | paths => paths
  else [text]

def expandFields (run : List Command → Act Octets) (w : Word) : Act (List Octets) := do
  let word ← expandParts run .fieldwise false (.start true) w
  let s ← get
  let fields := fieldsOf s.separators none word
  if s.settings.contains .keepsPatterns then return fields.map Item.text
  else return fields.flatMap (globField s.files)

def expandAll (run : List Command → Act Octets) : List Word → Act (List Octets)
  | [] => return []
  | w :: rest => do
    let fields ← expandFields run w
    return fields ++ (← expandAll run rest)

end Cartridge.Shell
