import Cartridge.Shell.Octets

/-!
Patterns that texts are matched against. A star stands for any text, a question mark for any
character, and brackets for one out of a set. A character after a backslash stands for itself.
-/

namespace Cartridge.Shell

inductive Member where
  | range (first last : Char)
  | kind (name : String)
  deriving DecidableEq, Repr

inductive Pattern where
  | char (c : Char)
  | any
  | many
  | oneOf (inverted : Bool) (members : List Member)
  deriving DecidableEq, Repr

def kinds : List (String × (Char → Bool)) :=
  let isSpace := fun c : Char => c == ' ' || (9 ≤ c.toNat && c.toNat ≤ 13)
  let isGraphic := fun c : Char => 32 < c.toNat && c.toNat < 127
  [("alnum", Char.isAlphanum), ("alpha", Char.isAlpha), ("blank", fun c => c == ' ' || c == '\t'),
    ("cntrl", fun c => c.toNat < 32 || c.toNat == 127), ("digit", Char.isDigit),
    ("graph", isGraphic), ("lower", Char.isLower), ("print", fun c => c == ' ' || isGraphic c),
    ("punct", fun c => isGraphic c && !c.isAlphanum), ("space", isSpace), ("upper", Char.isUpper),
    ("xdigit", fun c => c.isDigit || ('a' ≤ c && c ≤ 'f') || ('A' ≤ c && c ≤ 'F'))]

def rank (c : Char) : Nat :=
  (c.toNat + 128) % 256

namespace Member

def contains (m : Member) (c : Char) : Bool :=
  match m with
  | .range first last => rank first ≤ rank c && rank c ≤ rank last
  | .kind name => ((kinds.lookup name).map (· c)).getD false

def kind? : List Char → Option (Member × List Char)
  | ':' :: rest =>
    let name := String.ofList (rest.takeWhile Char.isAlpha)
    match (kinds.lookup name), rest.drop name.length with
    | some _, ':' :: ']' :: after => some (.kind name, after)
    | _, _ => none
  | _ => none

def rangeFrom (first : Char) : List Char → Option (Member × List Char)
  | '-' :: ']' :: rest => some (.range first first, '-' :: ']' :: rest)
  | '-' :: '\\' :: last :: rest => some (.range first last, rest)
  | '-' :: last :: rest => some (.range first last, rest)
  | ['-'] => none
  | rest => some (.range first first, rest)

def one? (c : Char) (rest : List Char) : Option (Member × List Char) :=
  match if c = '[' then kind? rest else none with
  | some found => some found
  | none =>
    match c, rest with
    | '\\', [] => none
    | '\\', c :: rest => rangeFrom c rest
    | c, rest => rangeFrom c rest

def read? (isFirst : Bool) : Nat → List Char → Option (List Member × List Char)
  | 0, _ => none
  | _, [] => none
  | fuel + 1, c :: rest =>
    if c = ']' ∧ !isFirst then some ([], rest)
    else do
      let (m, rest) ← one? c rest
      let (members, after) ← read? false fuel rest
      return (m :: members, after)

end Member

namespace Pattern

/-- The pattern that a text is. A bracket that is not closed stands for itself, and so does a
backslash at the end. `fuel` is at least the length of the text. -/
def readFuel : Nat → List Char → List Pattern
  | 0, _ => []
  | _, [] => []
  | fuel + 1, '\\' :: c :: rest => .char c :: readFuel fuel rest
  | fuel + 1, '*' :: rest => .many :: readFuel fuel rest
  | fuel + 1, '?' :: rest => .any :: readFuel fuel rest
  | fuel + 1, '[' :: rest =>
    let (inverted, set) := match rest with
      | '!' :: others => (true, others)
      | _ => (false, rest)
    match Member.read? true (set.length + 1) set with
    | some (members, after) => .oneOf inverted members :: readFuel fuel after
    | none => .char '[' :: readFuel fuel rest
  | fuel + 1, c :: rest => .char c :: readFuel fuel rest

def read (text : List Char) : List Pattern :=
  readFuel text.length text

def matchesChar (p : Pattern) (c : Char) : Bool :=
  match p with
  | .char d => c == d
  | .any | .many => true
  | .oneOf inverted members => (members.any fun m => m.contains c) != inverted

def ends : List Char → List (List Char)
  | [] => [[]]
  | c :: rest => (c :: rest) :: ends rest

def isMatch : List Pattern → List Char → Bool
  | [], cs => cs.isEmpty
  | .many :: ps, cs => (ends cs).any (isMatch ps)
  | _ :: _, [] => false
  | p :: ps, c :: cs => p.matchesChar c && isMatch ps cs

end Pattern

end Cartridge.Shell
