import Cartridge.Shell.Octets
import Cartridge.Text.Decimal
import Cartridge.Text.Hexadecimal

/-!
Writing arguments, with the escapes in them replaced.
-/

namespace Cartridge.Shell

open Cartridge.Text

def octalDigit? (c : Char) : Option Nat :=
  (decimalDigit? c).filter (· < 8)

def digitsUpTo (digit? : Char → Option Nat) (base value : Nat) :
    (width : Nat) → List Char → Nat × List Char
  | 0, cs => (value, cs)
  | _, [] => (value, [])
  | width + 1, c :: rest =>
    match digit? c with
    | some digit => digitsUpTo digit? base (base * value + digit) width rest
    | none => (value, c :: rest)

def byteChar (n : Nat) : Char :=
  Char.ofNat (n % 256)

def control? (c : Char) : Option Char :=
  match c with
  | 'a' => some '\x07'
  | 'b' => some '\x08'
  | 'e' => some '\x1b'
  | 'f' => some '\x0c'
  | 'n' => some '\n'
  | 'r' => some '\r'
  | 't' => some '\t'
  | 'v' => some '\x0b'
  | '\\' => some '\\'
  | _ => none

/-- What an escape stands for, given what follows its backslash, and the text after it. An escape
that has no meaning is left as it is. -/
def escape : List Char → Char × List Char
  | [] => ('\\', [])
  | c :: rest =>
    match control? c, octalDigit? c with
    | some control, _ => (control, rest)
    | none, some digit =>
      let (code, after) := digitsUpTo octalDigit? 8 digit 2 rest
      (byteChar code, after)
    | none, none => ('\\', c :: rest)

/-- The same where a zero can come before the digits and, if allowed, `x` before hexadecimal
ones. -/
def echoEscape (hexadecimal : Bool) : List Char → Char × List Char
  | '0' :: c :: rest =>
    if (octalDigit? c).isSome then escape (c :: rest) else escape ('0' :: c :: rest)
  | 'x' :: c :: rest =>
    match if hexadecimal then hexDigit? c else none with
    | some digit =>
      let (code, after) := digitsUpTo hexDigit? 16 digit 1 rest
      (byteChar code, after)
    | none => ('\\', 'x' :: c :: rest)
  | cs => escape cs

/-- A text with its escapes replaced, and whether `\c` asks for nothing more to be written. `fuel`
is at least the length of the text. -/
def unescape (hexadecimal : Bool) : Nat → List Char → List Char × Bool
  | 0, _ => ([], false)
  | _, [] => ([], false)
  | _, '\\' :: 'c' :: _ => ([], true)
  | fuel + 1, '\\' :: rest =>
    let (c, after) := echoEscape hexadecimal rest
    let (others, ends) := unescape hexadecimal fuel after
    (c :: others, ends)
  | fuel + 1, c :: rest =>
    let (others, ends) := unescape hexadecimal fuel rest
    (c :: others, ends)

def joinArgs (args : List Octets) : Octets :=
  " ".intercalate args

structure EchoStyle where
  escapes : Bool
  hexadecimal : Bool
  lineEnd : Bool

def EchoStyle.text (style : EchoStyle) (args : List Octets) : Octets :=
  let text := joinArgs args
  let (cs, ends) :=
    if style.escapes then unescape style.hexadecimal text.length text.toList
    else (text.toList, false)
  String.ofList (if style.lineEnd && !ends then cs ++ ['\n'] else cs)

def echoLetters? (arg : Octets) : Option (List Char) :=
  match arg.toList with
  | '-' :: c :: rest =>
    if (c :: rest).all fun c => c == 'n' || c == 'e' || c == 'E' then some (c :: rest) else none
  | _ => none

def echoProgram (style : EchoStyle) : List Octets → Octets
  | [] => style.text []
  | arg :: rest =>
    match echoLetters? arg with
    | none => style.text (arg :: rest)
    | some letters =>
      let escapes := letters.foldl
        (fun e c => if c = 'e' then true else if c = 'E' then false else e) style.escapes
      echoProgram { style with escapes, lineEnd := style.lineEnd && !letters.contains 'n' } rest

def echoBuiltin : List Octets → Octets
  | "-n" :: rest => EchoStyle.text ⟨true, false, false⟩ rest
  | args => EchoStyle.text ⟨true, false, true⟩ args

end Cartridge.Shell
