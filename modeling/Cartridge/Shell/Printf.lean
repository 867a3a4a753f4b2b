import Cartridge.Shell.Binary64
import Cartridge.Shell.Echo
import Cartridge.Shell.Number

/-!
Writing arguments in a given format.
-/

namespace Cartridge.Shell

open Cartridge.Text

/-- What `printf` writes to its two streams, whether all arguments could be read, and whether a
complaint has ended it. -/
structure Printed where
  output : List Char
  complaints : List Octets
  isBroken : Bool
  deriving DecidableEq, Repr

namespace Printed

def nothing : Printed := ⟨[], [], false⟩

def ofChars (cs : List Char) : Printed := ⟨cs, [], false⟩

def append (a b : Printed) : Printed :=
  if a.isBroken then a
  else ⟨a.output ++ b.output, a.complaints ++ b.complaints, b.isBroken⟩

end Printed

/-- How a conversion writes its argument. -/
structure Layout where
  left : Bool
  plus : Bool
  blank : Bool
  alternate : Bool
  zeros : Bool
  width : Nat
  precision : Option Nat
  deriving DecidableEq, Repr

namespace Layout

def pad (l : Layout) (cs : List Char) : List Char :=
  let filling := List.replicate (l.width - cs.length) ' '
  if l.left then cs ++ filling else filling ++ cs

/-- A number with its sign and the mark of its base. Zeros fill it up between these and its
digits. -/
def number (l : Layout) (sign : List Char) (digits : List Char) : List Char :=
  let digits := match l.precision with
    | some p => List.replicate (p - digits.length) '0' ++ (if p = 0 ∧ digits = ['0'] then [] else digits)
    | none => digits
  let zeros :=
    if l.zeros && !l.left && l.precision.isNone then l.width - sign.length - digits.length else 0
  l.pad (sign ++ List.replicate zeros '0' ++ digits)

end Layout

/-- Read a numeric argument: the value, and what is wrong with it. After a quote it is the code of
the next character. -/
def numericArgument (arg : Octets) : Int × Option Octets :=
  match arg.toList with
  | '"' :: rest | '\'' :: rest => (((rest.head?.map Char.toNat).getD 0 : Nat), none)
  | cs =>
    match integer? cs with
    | none => (0, if cs.isEmpty then none else some (arg ++ ": expected numeric value"))
    | some (n, []) => (n, none)
    | some (n, _ :: _) => (n, some (arg ++ ": not completely converted"))

def bounded (low high : Int) (arg : Octets) (n : Int) (complaint : Option Octets) :
    Int × Option Octets :=
  if n < low then (low, complaint <|> some (arg ++ ": Numerical result out of range"))
  else if high < n then (high, complaint <|> some (arg ++ ": Numerical result out of range"))
  else (n, complaint)

def signedText (l : Layout) (arg : Octets) : List Char × Option Octets :=
  let (n, complaint) := numericArgument arg
  let (n, complaint) := bounded minNumber maxNumber arg n complaint
  let sign := if n < 0 then ['-'] else if l.plus then ['+'] else if l.blank then [' '] else []
  (l.number sign (decimal n.natAbs), complaint)

def unsignedText (l : Layout) (conversion : Char) (arg : Octets) : List Char × Option Octets :=
  let (n, complaint) := numericArgument arg
  let (n, complaint) := bounded (-0xffffffffffffffff) 0xffffffffffffffff arg n complaint
  let n := (n % 0x10000000000000000).toNat
  match conversion with
  | 'o' =>
    let digits := digitsIn 8 decimalDigit n
    (l.number [] (if l.alternate ∧ n ≠ 0 then '0' :: digits else digits), complaint)
  | 'x' =>
    (l.number (if l.alternate ∧ n ≠ 0 then ['0', 'x'] else []) (digitsIn 16 lowerHexDigit n),
      complaint)
  | 'X' =>
    (l.number (if l.alternate ∧ n ≠ 0 then ['0', 'X'] else []) (digitsIn 16 upperHexDigit n),
      complaint)
  | _ => (l.number [] (decimal n), complaint)

def realArgument (arg : Octets) : Real × Option Octets :=
  let whole := fun (n : Nat) => ⟨false, (Magnitude.ofQuotient n 1).1, false⟩
  match arg.toList with
  | '"' :: rest | '\'' :: rest => (whole ((rest.head?.map Char.toNat).getD 0), none)
  | cs =>
    match real? cs with
    | none => (whole 0, if cs.isEmpty then none else some (arg ++ ": expected numeric value"))
    | some (x, []) =>
      (x, if x.outOfRange then some (arg ++ ": Numerical result out of range") else none)
    | some (x, _ :: _) => (x, some (arg ++ ": not completely converted"))

def realText (l : Layout) (conversion : Char) (arg : Octets) : List Char × Option Octets :=
  let (x, complaint) := realArgument arg
  let sign := if x.negative then ['-'] else if l.plus then ['+'] else if l.blank then [' '] else []
  let cased := fun (cs : List Char) => if conversion.isUpper then cs.map Char.toUpper else cs
  let places := l.precision.getD 6
  let filled := fun (mark digits : List Char) =>
    { l with precision := none }.number (sign ++ cased mark) (cased digits)
  let text := match x.magnitude with
    | .infinite => l.pad (sign ++ cased "inf".toList)
    | .undefined => l.pad (sign ++ cased "nan".toList)
    | .finite m e =>
      match conversion.toLower with
      | 'f' => filled [] (fixedForm places l.alternate m e)
      | 'e' => filled [] (powerForm places l.alternate m e)
      | 'g' => filled [] (generalForm places l.alternate m e)
      | _ => filled ['0', 'x'] (binaryForm l.precision l.alternate m e)
  (text, complaint)

def Layout.text (l : Layout) (cs : List Char) : List Char :=
  l.pad (match l.precision with
    | some p => cs.take p
    | none => cs)

/-- Write an argument as a conversion asks, and say whether nothing more is to be written. -/
def convert (l : Layout) (conversion : Char) (arg : Option Octets) :
    Option (Printed × Bool) :=
  let given := arg.getD ""
  let numeric := fun (cs, complaint) =>
    some ((⟨cs, (complaint : Option Octets).toList, false⟩ : Printed), false)
  match conversion with
  | 's' => some (.ofChars (l.text given.toList), false)
  | 'c' => some (.ofChars (l.pad [given.toList.headD '\x00']), false)
  | 'b' =>
    let (cs, ends) := unescape false given.length given.toList
    some (.ofChars (l.text cs), ends)
  | 'd' | 'i' => numeric (match arg with
    | some arg => signedText l arg
    | none => signedText l "0")
  | 'o' | 'u' | 'x' | 'X' => numeric (match arg with
    | some arg => unsignedText l conversion arg
    | none => unsignedText l conversion "0")
  | 'e' | 'E' | 'f' | 'F' | 'g' | 'G' | 'a' | 'A' =>
    numeric (realText l conversion (arg.getD "0"))
  | _ => none

def flags (l : Layout) : List Char → Layout × List Char
  | '-' :: rest => flags { l with left := true } rest
  | '+' :: rest => flags { l with plus := true } rest
  | ' ' :: rest => flags { l with blank := true } rest
  | '#' :: rest => flags { l with alternate := true } rest
  | '0' :: rest => flags { l with zeros := true } rest
  | cs => (l, cs)

/-- What is left of a conversion and of the arguments, and what is wrong with them so far. -/
structure Directive where
  rest : List Char
  args : List Octets
  complaints : List Octets

def measure (d : Directive) : Int × Directive :=
  match d.rest with
  | '*' :: rest =>
    let (n, complaint) := numericArgument (d.args.headD "0")
    (n, ⟨rest, d.args.tail, d.complaints ++ complaint.toList⟩)
  | cs =>
    let (n, rest) := digitsFrom 10 0 cs
    ((n : Nat), { d with rest })

def layout (cs : List Char) (args : List Octets) : Layout × Directive :=
  let (l, cs) := flags ⟨false, false, false, false, false, 0, none⟩ cs
  let (width, d) := measure ⟨cs, args, []⟩
  let l := { l with left := l.left || width < 0, width := width.natAbs }
  match d.rest with
  | '.' :: rest =>
    let (precision, d) := measure { d with rest }
    ({ l with precision := if precision < 0 then none else some precision.toNat }, d)
  | _ => (l, d)

/-- Write a format once. The results say what arguments are left and whether nothing more is to be
written. -/
def formatOnce : Nat → List Char → List Octets → Printed × List Octets × Bool
  | 0, _, args => (.nothing, args, false)
  | _, [], args => (.nothing, args, false)
  | fuel + 1, '\\' :: rest, args =>
    let (c, after) := escape rest
    let (others, left, ends) := formatOnce fuel after args
    ((Printed.ofChars [c]).append others, left, ends)
  | fuel + 1, '%' :: '%' :: rest, args =>
    let (others, left, ends) := formatOnce fuel rest args
    ((Printed.ofChars ['%']).append others, left, ends)
  | fuel + 1, '%' :: cs, args =>
    let (l, d) := layout cs args
    match d.rest with
    | [] => (⟨[], d.complaints ++ ["missing format character"], true⟩, d.args, true)
    | conversion :: rest =>
      match convert l conversion d.args.head? with
      | none =>
        let directive := '%' :: cs.take (cs.length - rest.length)
        let complaint := String.ofList directive ++ ": invalid directive"
        (⟨[], d.complaints ++ [complaint], true⟩, d.args, true)
      | some (printed, ends) =>
        let printed := (⟨[], d.complaints, false⟩ : Printed).append printed
        if ends then (printed, d.args.tail, true)
        else
          let (others, left, ends) := formatOnce fuel rest d.args.tail
          (printed.append others, left, ends)
  | fuel + 1, c :: rest, args =>
    let (others, left, ends) := formatOnce fuel rest args
    ((Printed.ofChars [c]).append others, left, ends)

def format (cs : List Char) : Nat → List Octets → Printed
  | 0, _ => .nothing
  | fuel + 1, args =>
    let (printed, left, ends) := formatOnce cs.length cs args
    if ends || left.isEmpty || left.length = args.length then printed
    else printed.append (format cs fuel left)

def printf (text : Octets) (args : List Octets) : Printed :=
  format text.toList (args.length + 1) args

end Cartridge.Shell
