import Cartridge.Files.Tree
import Cartridge.Shell.Pattern

/-!
Patterns of file names. Every piece of a path is matched by itself against the names in a directory.
-/

namespace Cartridge.Shell

def closesBracket : List Char → Bool
  | [] => false
  | '\\' :: _ :: rest => rest.head? == some ']' || closesBracket rest
  | _ :: rest => rest.head? == some ']' || closesBracket rest

def isOpenPiece : List Char → Bool
  | [] => false
  | '\\' :: _ :: rest => isOpenPiece rest
  | '*' :: _ | '?' :: _ => true
  | '[' :: rest =>
    closesBracket (if rest.head? = some '!' then rest.tail else rest) || isOpenPiece rest
  | _ :: rest => isOpenPiece rest

def pathPieces : List Char → List (List Char)
  | [] => [[]]
  | '\\' :: '/' :: rest => [] :: pathPieces rest
  | '\\' :: c :: rest => extend ['\\', c] (pathPieces rest)
  | '/' :: rest => [] :: pathPieces rest
  | c :: rest => extend [c] (pathPieces rest)
where
  extend (cs : List Char) : List (List Char) → List (List Char)
    | [] => [cs]
    | piece :: others => (cs ++ piece) :: others

def unprotected : List Char → List Char
  | '\\' :: c :: rest => c :: unprotected rest
  | c :: rest => c :: unprotected rest
  | [] => []

def Files.namesIn (fs : Files) (directory : Octets) : List Octets :=
  match fs.list (if directory.isEmpty then "." else Octets.toText directory) with
  | .error _ => []
  | .ok names => "." :: ".." :: names.map Octets.ofText

/-- The paths that continue `done` and match further pieces, in no particular order. A path in which
nothing is open counts only if there is such a file, except when it is all of the pattern. -/
def matchingPaths (fs : Files) (done : Octets) : List (List Char) → List Octets
  | [] => if done.isEmpty || fs.exists? (Octets.toText done) then [done] else []
  | piece :: rest =>
    if isOpenPiece piece then
      let pattern := Pattern.read piece
      let showsHidden := (unprotected piece).head? == some '.'
      let names := (Files.namesIn fs done).filter fun name =>
        (showsHidden || name.toList.head? != some '.') && Pattern.isMatch pattern name.toList
      if rest.isEmpty then names.map (done ++ ·)
      else names.flatMap fun name => matchingPaths fs (done ++ name ++ "/") rest
    else
      let done := done ++ String.ofList (unprotected piece)
      matchingPaths fs (if rest.isEmpty then done else done ++ "/") rest

/-- The paths of the files that match a pattern, in ascending order. There are none if nothing is open
in it. -/
def globbed (fs : Files) (pattern : List Char) : List Octets :=
  let pieces := pathPieces pattern
  if pieces.any isOpenPiece then
    (matchingPaths fs "" pieces).mergeSort fun a b => decide (a ≤ b)
  else []

end Cartridge.Shell
