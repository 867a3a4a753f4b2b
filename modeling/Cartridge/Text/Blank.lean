/-!
Blanks: the characters of the Unicode property White_Space, and the two ways text is cut at them,
trimming and splitting into words.
-/

namespace Cartridge.Text

def isBlank (c : Char) : Bool :=
  let code := c.toNat
  (0x09 ≤ code && code ≤ 0x0D) || code == 0x20 || code == 0x85 || code == 0xA0 ||
    code == 0x1680 || (0x2000 ≤ code && code ≤ 0x200A) || code == 0x2028 || code == 0x2029 ||
    code == 0x202F || code == 0x205F || code == 0x3000

def trimStartList (cs : List Char) : List Char :=
  cs.dropWhile isBlank

def trimList (cs : List Char) : List Char :=
  ((trimStartList cs).reverse.dropWhile isBlank).reverse

def trim (s : String) : String :=
  String.ofList (trimList s.toList)

/-- Cut a text at its blanks. `word` holds, in reverse, the characters since the last blank. -/
def wordsFrom (word : List Char) : List Char → List (List Char)
  | [] => if word.isEmpty then [] else [word.reverse]
  | c :: rest =>
    if isBlank c then
      if word.isEmpty then wordsFrom [] rest else word.reverse :: wordsFrom [] rest
    else wordsFrom (c :: word) rest

def wordsList (cs : List Char) : List (List Char) :=
  wordsFrom [] cs

def words (s : String) : List String :=
  (wordsList s.toList).map String.ofList

/-- Cut a text at its first blank, which is dropped; `none` if it has no blank. -/
def cutAtBlank : List Char → Option (List Char × List Char)
  | [] => none
  | c :: rest =>
    if isBlank c then some ([], rest)
    else (cutAtBlank rest).map fun (before, after) => (c :: before, after)

end Cartridge.Text
