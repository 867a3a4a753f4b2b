import Cartridge.Shell.Number
import Cartridge.Shell.Octets
import Cartridge.Shell.Syntax

/-!
Arithmetic expressions: reading them, and their values in 64 bits. An expression is worked out while
it is read, so that what comes before a mistake still takes effect; the mistake is a part of the
expression.
-/

namespace Cartridge.Shell

open Cartridge.Text

/-! Reading. -/

inductive Lexeme where
  | number (n : Int64)
  | name (text : String)
  | operator (text : String)
  | bad
  deriving DecidableEq, Repr

def operators : List String :=
  ["<<=", ">>=", "<<", ">>", "<=", ">=", "==", "!=", "&&", "||", "+=", "-=", "*=", "/=", "%=",
    "&=", "^=", "|=", "+", "-", "*", "/", "%", "&", "^", "|", "<", ">", "=", "!", "~", "?", ":",
    "(", ")"]

def lexemes : Nat → List Char → List Lexeme
  | 0, _ => []
  | _, [] => []
  | fuel + 1, c :: rest =>
    if c = ' ' ∨ c = '\t' ∨ c = '\n' then lexemes fuel rest
    else if c.isDigit then
      match magnitude? (c :: rest) with
      | some (n, after) => .number (saturated n) :: lexemes fuel after
      | none => [.bad]
    else if isNameStart c then
      let name := (c :: rest).takeWhile isNameChar
      .name (String.ofList name) :: lexemes fuel ((c :: rest).drop name.length)
    else
      match operators.find? fun op => op.toList.isPrefixOf (c :: rest) with
      | some op => .operator op :: lexemes fuel ((c :: rest).drop op.length)
      | none => [.bad]

inductive Expr where
  | number (n : Int64)
  | name (text : String)
  | unary (operator : String) (e : Expr)
  | binary (operator : String) (left right : Expr)
  | both (left right : Expr)
  | either (left right : Expr)
  | choose (condition yes no : Expr)
  | assign (name : String) (operator : Option String) (value : Expr)
  | broken (e : Expr) (reason : String)
  deriving DecidableEq, Repr

namespace Expr

abbrev Reader := List Lexeme → Expr × List Lexeme

def wrong (e : Expr) (reason : String) : Expr × List Lexeme :=
  (.broken e reason, [])

def levels : List (List String) :=
  [["|"], ["^"], ["&"], ["==", "!="], ["<", "<=", ">", ">="], ["<<", ">>"], ["+", "-"],
    ["*", "/", "%"]]

/-- Read an operand that can start with signs. `whole` reads what stands in parentheses. -/
def primary (whole : Reader) : Reader
  | .number n :: rest => (.number n, rest)
  | .name text :: rest => (.name text, rest)
  | .operator "(" :: rest =>
    match whole rest with
    | (e, .operator ")" :: rest) => (e, rest)
    | (e, _) => wrong e "expecting ')'"
  | .operator op :: rest =>
    if op = "+" then primary whole rest
    else if op = "-" ∨ op = "!" ∨ op = "~" then
      let (e, rest) := primary whole rest
      (.unary op e, rest)
    else wrong (.number 0) "expecting primary"
  | _ => wrong (.number 0) "expecting primary"

def joined (operand : Reader) (ops : List String) : Nat → Expr → Reader
  | 0, left, ls => (left, ls)
  | fuel + 1, left, ls =>
    match ls with
    | .operator op :: rest =>
      if ops.contains op then
        let (right, rest) := operand rest
        joined operand ops fuel (.binary op left right) rest
      else (left, ls)
    | _ => (left, ls)

def binaries (operand : Reader) : List (List String) → Reader
  | [] => operand
  | ops :: tighter => fun ls =>
    let (left, rest) := binaries operand tighter ls
    joined (binaries operand tighter) ops rest.length left rest

def conjunction (operand : Reader) : Nat → Reader
  | 0, ls => operand ls
  | fuel + 1, ls =>
    match operand ls with
    | (left, .operator "&&" :: rest) =>
      let (right, rest) := conjunction operand fuel rest
      (.both left right, rest)
    | found => found

def disjunction (operand : Reader) : Nat → Reader
  | 0, ls => conjunction operand ls.length ls
  | fuel + 1, ls =>
    match conjunction operand ls.length ls with
    | (left, .operator "||" :: rest) =>
      let (right, rest) := disjunction operand fuel rest
      (.either left right, rest)
    | found => found

def assignment? (op : String) : Option (Option String) :=
  if op = "=" then some none
  else if ["<<=", ">>=", "+=", "-=", "*=", "/=", "%=", "&=", "^=", "|="].contains op then
    some (some (String.ofList op.toList.dropLast))
  else none

def read : Nat → (assigns : Bool) → Reader
  | 0, _, _ => wrong (.number 0) "expecting primary"
  | fuel + 1, assigns, ls =>
    let other : Expr × List Lexeme :=
      let operand := binaries (primary (read fuel true)) levels
      match disjunction operand ls.length ls with
      | (condition, .operator "?" :: rest) =>
        match read fuel true rest with
        | (yes, .operator ":" :: rest) =>
          let (no, rest) := read fuel false rest
          (.choose condition yes no, rest)
        | (yes, _) => (.choose condition (.broken yes "expecting ':'") (.number 0), [])
      | found => found
    match assigns, ls with
    | true, .name text :: .operator op :: rest =>
      match assignment? op with
      | some op =>
        let (value, rest) := read fuel true rest
        (.assign text op value, rest)
      | none => other
    | _, _ => other

def ofText (text : Octets) : Expr :=
  let ls := lexemes text.length text.toList
  match read (ls.length + 1) true ls with
  | (e, []) => e
  | (e, _) => .broken e "expecting EOF"

/-! Values. -/

def truth (b : Bool) : Int64 :=
  if b then 1 else 0

inductive Fault where
  | mistake (reason : String)
  | divisionByZero
  | overflow
  deriving DecidableEq, Repr

def divided (a b result : Int64) : Except Fault Int64 :=
  if b = 0 then .error .divisionByZero
  else if b = -1 ∧ a.toInt = minNumber then .error .overflow
  else .ok result

def resultOf (op : String) (a b : Int64) : Except Fault Int64 :=
  match op with
  | "|" => .ok (a ||| b)
  | "^" => .ok (a ^^^ b)
  | "&" => .ok (a &&& b)
  | "==" => .ok (truth (a == b))
  | "!=" => .ok (truth (a != b))
  | "<" => .ok (truth (a < b))
  | "<=" => .ok (truth (a ≤ b))
  | ">" => .ok (truth (b < a))
  | ">=" => .ok (truth (b ≤ a))
  | "<<" => .ok (a <<< b)
  | ">>" => .ok (a >>> b)
  | "+" => .ok (a + b)
  | "-" => .ok (a - b)
  | "*" => .ok (a * b)
  | "/" => divided a b (a / b)
  | "%" => divided a b (a % b)
  | _ => .ok 0

def applyUnary (op : String) (a : Int64) : Int64 :=
  match op with
  | "-" => -a
  | "!" => truth (a == 0)
  | _ => ~~~a

/-- What names mean, and what becomes of a fault. -/
structure Meaning (m : Type → Type) where
  get : String → m Int64
  set : String → Int64 → m Unit
  refuse : Fault → m Int64

variable {m : Type → Type} [Monad m]

def combine (μ : Meaning m) (op : String) (a b : Int64) : m Int64 :=
  match resultOf op a b with
  | .ok n => pure n
  | .error f => μ.refuse f

/-- The value of an expression. A part that does not count is only searched for mistakes. -/
def eval (μ : Meaning m) (counts : Bool) : Expr → m Int64
  | .number n => pure n
  | .name text => if counts then μ.get text else pure 0
  | .unary op e => do return applyUnary op (← eval μ counts e)
  | .binary op left right => do
    let a ← eval μ counts left
    let b ← eval μ counts right
    if counts then combine μ op a b else return 0
  | .both left right => do
    let a ← eval μ counts left
    let b ← eval μ (counts && a != 0) right
    return truth (a != 0 && b != 0)
  | .either left right => do
    let a ← eval μ counts left
    let b ← eval μ (counts && a == 0) right
    return truth (a != 0 || b != 0)
  | .choose condition yes no => do
    let c ← eval μ counts condition
    let a ← eval μ (counts && c != 0) yes
    let b ← eval μ (counts && c == 0) no
    return if c != 0 then a else b
  | .assign text op value => do
    let b ← eval μ counts value
    if counts then
      let n ← match op with
        | none => pure b
        | some op => do combine μ op (← μ.get text) b
      μ.set text n
      return n
    else return b
  | .broken e reason => do
    let _ ← eval μ counts e
    μ.refuse (.mistake reason)

end Expr

end Cartridge.Shell
