import Cartridge.Shell.Machine
import Cartridge.Shell.Number
import Cartridge.Shell.Octets

/-!
Conditions on files, texts and numbers, as the builtin commands `test` and `[` are asked about.
-/

namespace Cartridge.Shell

inductive Role where
  | unary
  | binary
  | negation
  | and
  | or
  | openParen
  | closeParen
  | operand
  | missing
  deriving DecidableEq, Repr

def unaryTests : List String :=
  ["-r", "-w", "-x", "-e", "-f", "-d", "-c", "-b", "-p", "-u", "-g", "-k", "-s", "-t", "-z", "-n",
    "-h", "-L", "-O", "-G", "-S"]

def binaryTests : List String :=
  ["=", "!=", "<", ">", "-eq", "-ne", "-ge", "-gt", "-le", "-lt", "-nt", "-ot", "-ef"]

def operatorRole? (word : Octets) : Option Role :=
  if unaryTests.contains word then some .unary
  else if binaryTests.contains word then some .binary
  else
    match word with
    | "!" => some .negation
    | "-a" => some .and
    | "-o" => some .or
    | "(" => some .openParen
    | ")" => some .closeParen
    | _ => none

/-- The first word is an operand, given the words after it, although it looks like an operator. -/
def isOperand : List Octets → Bool
  | [] => true
  | [_] => false
  | next :: _ => operatorRole? next == some .binary

def role : List Octets → Role
  | [] => .missing
  | word :: rest =>
    match operatorRole? word with
    | none => .operand
    | some .unary => if isOperand rest then .operand else .unary
    | some .openParen => if rest.isEmpty then .operand else .openParen
    | some r => r

structure Facts where
  files : Files

namespace Facts

def node? (f : Facts) (path : Octets) : Option (Place × Node) :=
  match f.files.locate (Octets.toText path) with
  | .ok place => (f.files.get? place).map (place, ·)
  | .error _ => none

def ofFile (f : Facts) (test : String) (path : Octets) : Bool :=
  match node? f path with
  | none => false
  | some (place, node) =>
    match test with
    | "-e" | "-r" | "-w" | "-O" | "-G" => true
    | "-f" => node != .directory && place != nullFile
    | "-d" => node == .directory
    | "-x" => node == .directory || (programAt? place).isSome
    | "-c" => place == nullFile
    | "-s" => node != .file []
    | _ => false

def areSame (f : Facts) (a b : Octets) : Bool :=
  match node? f a, node? f b with
  | some (p, _), some (q, _) => p == q
  | _, _ => false

end Facts

def operandNumber (word : Octets) : Except Octets Int :=
  match wholeInteger? decimalInteger? word with
  | some n => .ok n
  | none => .error ("Illegal number: " ++ word)

def unaryHolds (f : Facts) (test : String) (word : Octets) : Except Octets Bool :=
  match test with
  | "-z" => .ok word.isEmpty
  | "-n" => .ok (!word.isEmpty)
  | "-t" => (operandNumber word).map fun _ => false
  | test => .ok (f.ofFile test word)

def binaryHolds (f : Facts) (test : String) (a b : Octets) : Except Octets Bool :=
  let compare := fun (holds : Int → Int → Bool) => do
    return holds (← operandNumber a) (← operandNumber b)
  match test with
  | "=" => .ok (a == b)
  | "!=" => .ok (a != b)
  | "<" => .ok (decide (a < b))
  | ">" => .ok (decide (b < a))
  | "-eq" => compare fun m n => m == n
  | "-ne" => compare fun m n => m != n
  | "-ge" => compare fun m n => decide (n ≤ m)
  | "-gt" => compare fun m n => decide (n < m)
  | "-le" => compare fun m n => decide (m ≤ n)
  | "-lt" => compare fun m n => decide (m < n)
  | "-ef" => .ok (f.areSame a b)
  | _ => .ok false

/-! Reading a condition. The readers get the words from the current one on, with its role, and give
back the words from the last one on that they have used. -/

abbrev ConditionReader := Role → List Octets → Except Octets (Bool × List Octets)

def simpleCondition (f : Facts) (whole : ConditionReader) : ConditionReader := fun r ws =>
  match r, ws with
  | .missing, ws => .ok (false, ws)
  | .openParen, _ :: rest =>
    if role rest = .closeParen then .ok (false, rest)
    else do
      let (holds, last) ← whole (role rest) rest
      match last.tail with
      | close :: after =>
        if role (close :: after) = .closeParen then .ok (holds, close :: after)
        else .error "closing paren expected"
      | [] => .error "closing paren expected"
  | .unary, op :: rest =>
    match rest with
    | [] => .error (op ++ ": argument expected")
    | word :: _ => do return (← unaryHolds f op word, rest)
  | _, a :: rest =>
    match role rest, rest with
    | .binary, [op] => .error (op ++ ": argument expected")
    | .binary, op :: b :: after => do return (← binaryHolds f op a b, b :: after)
    | _, _ => .ok (!a.isEmpty, a :: rest)
  | _, [] => .ok (false, [])

def negatedCondition (f : Facts) (whole : ConditionReader) : Nat → ConditionReader
  | 0, r, ws => simpleCondition f whole r ws
  | fuel + 1, r, ws =>
    if r = .negation then do
      let next := role ws.tail
      let (holds, last) ←
        negatedCondition f whole fuel next (if next = .missing then ws else ws.tail)
      return (!holds, last)
    else simpleCondition f whole r ws

def joinedConditions (one : ConditionReader) (joint : Role) (join : Bool → Bool → Bool) :
    Nat → ConditionReader
  | 0, r, ws => one r ws
  | fuel + 1, r, ws => do
    let (holds, last) ← one r ws
    if role last.tail = joint then
      let next := last.drop 2
      let (others, last) ← joinedConditions one joint join fuel (role next) next
      return (join holds others, last)
    else return (holds, last)

def wholeCondition (f : Facts) : Nat → ConditionReader
  | 0, _, ws => .ok (false, ws)
  | depth + 1, r, ws =>
    let one := negatedCondition f (wholeCondition f depth) ws.length
    let conjunction := joinedConditions one .and (· && ·) ws.length
    joinedConditions conjunction .or (· || ·) ws.length r ws

def evaluate (f : Facts) (r : Role) (ws : List Octets) : Except Octets Bool := do
  let (holds, last) ← wholeCondition f (ws.length + 1) r ws
  match last with
  | "" :: _ :: _ => .error "unexpected operator"
  | word :: _ :: _ => .error (word ++ ": unexpected operator")
  | _ => return holds

def conditionHolds (f : Facts) : Nat → List Octets → Except Octets Bool
  | 0, _ => .ok false
  | fuel + 1, ws =>
    let negation := fun (_ : Unit) => do return !(← conditionHolds f fuel ws.tail)
    let inner := ws.tail.dropLast
    match ws with
    | [] => .ok false
    | [a, op, b] =>
      if operatorRole? op = some .binary then evaluate f .operand ws
      else if a = "(" ∧ b = ")" then evaluate f (role inner) inner
      else if a = "!" then negation ()
      else evaluate f (role ws) ws
    | [a, _, _, d] =>
      if a = "(" ∧ d = ")" then evaluate f (role inner) inner
      else if a = "!" then negation ()
      else evaluate f (role ws) ws
    | ws => evaluate f (role ws) ws

end Cartridge.Shell
