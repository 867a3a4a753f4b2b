import Cartridge.Bytes
import Cartridge.Files.Error
import Cartridge.Text.Search

/-!
A tree of files and directories, and the operations of a file system on it. A place in the tree is
given by the names on the way to it; the root is a directory, and so is the place where relative
paths start. A failed operation changes nothing.
-/

namespace Cartridge

open Cartridge.Text

inductive Node where
  | directory
  | file (content : Bytes)
  deriving DecidableEq, Repr

abbrev Place := List String

structure Files where
  nodes : List (Place × Node)
  /-- Second names of directories, and where these are. -/
  links : List (Place × Place)
  current : Place
  deriving DecidableEq, Repr

namespace Files

def empty : Files := ⟨[], [], []⟩

def get? (fs : Files) (place : Place) : Option Node :=
  if place = [] then some .directory
  else (fs.nodes.find? fun n => n.1 == place).map (·.2)

def set (fs : Files) (place : Place) (node : Node) : Files :=
  { fs with nodes := (place, node) :: fs.nodes.filter fun n => n.1 != place }

def erase (fs : Files) (place : Place) : Files :=
  { fs with nodes := fs.nodes.filter fun n => n.1 != place }

theorem get?_set_self (fs : Files) {place : Place} (node : Node) (h : place ≠ []) :
    (fs.set place node).get? place = some node := by
  simp [get?, set, h]

theorem get?_set_of_ne (fs : Files) {place other : Place} (node : Node) (h : other ≠ place) :
    (fs.set place node).get? other = fs.get? other := by
  unfold get? set
  split
  · rfl
  · have hp : (place == other) = false := by simpa using h.symm
    rw [List.find?_cons, hp, List.find?_filter]
    have he : (fun n : Place × Node => decide ((n.1 != place) = true ∧ (n.1 == other) = true)) =
        fun n => n.1 == other := by
      funext n
      by_cases hn : n.1 = other
      · simp [hn, h]
      · simp [hn]
    simp only [he]

theorem get?_erase_self (fs : Files) {place : Place} (h : place ≠ []) :
    (fs.erase place).get? place = none := by
  simp [get?, erase, h]

def follow (fs : Files) (place : Place) : Place :=
  ((fs.links.find? fun l => l.1 == place).map (·.2)).getD place

/-! Paths lead to a place, from the root if they are absolute. Every name on the way but the last
must be that of a directory. -/

def nameLimit : Nat := 255

def pathLimit : Nat := 4095

/-- Go on from a place along the pieces of a path. A missing directory on the way is an error. -/
def walk (fs : Files) (place : Place) : List String → Except FileError Place
  | [] => .ok place
  | piece :: rest =>
    match fs.get? place with
    | none => .error .notFound
    | some (.file _) => .error .notDirectory
    | some .directory =>
      if piece = "" ∨ piece = "." then walk fs place rest
      else if piece = ".." then walk fs place.dropLast rest
      else if nameLimit < piece.utf8ByteSize then .error .badName
      else walk fs (fs.follow (place ++ [piece])) rest

def route (fs : Files) (path : String) : Except FileError (Place × List String) :=
  if path.isEmpty then .error .notFound
  else if path.toList.contains '\x00' ∨ pathLimit < path.utf8ByteSize then .error .badName
  else
    let pieces := (splitAtChar '/' path.toList).map String.ofList
    match pieces with
    | "" :: rest => .ok ([], rest)
    | _ => .ok (fs.current, pieces)

/-- The place that a path leads to, whether or not there is anything. -/
def locate (fs : Files) (path : String) : Except FileError Place := do
  let (start, pieces) ← fs.route path
  fs.walk start pieces

def node (fs : Files) (path : String) : Except FileError Node := do
  match fs.get? (← fs.locate path) with
  | some node => .ok node
  | none => .error .notFound

def exists? (fs : Files) (path : String) : Bool :=
  match fs.node path with
  | .ok _ => true
  | .error _ => false

def isDirectory (fs : Files) (path : String) : Bool :=
  match fs.node path with
  | .ok .directory => true
  | _ => false

def read (fs : Files) (path : String) : Except FileError Bytes := do
  match ← fs.node path with
  | .file content => .ok content
  | .directory => .error .isDirectory

/-- Write a file, in place of the one that may be there. -/
def write (fs : Files) (path : String) (content : Bytes) : Except FileError Files := do
  let place ← fs.locate path
  match fs.get? place with
  | some .directory => .error .isDirectory
  | _ => .ok (fs.set place (.file content))

def rename (fs : Files) (source target : String) : Except FileError Files := do
  let content ← fs.read source
  let source ← fs.locate source
  let target ← fs.locate target
  match fs.get? target with
  | some .directory => .error .isDirectory
  | _ => .ok ((fs.erase source).set target (.file content))

def remove (fs : Files) (path : String) : Except FileError Files := do
  let _ ← fs.read path
  let place ← fs.locate path
  return fs.erase place

/-- Nothing but single dots is left of a path. A directory that is missing cannot be made by such a
path. -/
def onlyDots (pieces : List String) : Bool :=
  pieces.contains "." && pieces.all fun piece => piece == "" || piece == "."

/-- Go along the pieces of a path and make the directories that are missing. The directories that
were made remain if a later one cannot be. -/
def makeDirectories (fs : Files) (place : Place) : List String → Files × Except FileError Unit
  | [] => (fs, .ok ())
  | piece :: rest =>
    if piece = "" ∨ piece = "." then makeDirectories fs place rest
    else if piece = ".." then makeDirectories fs place.dropLast rest
    else if nameLimit < piece.utf8ByteSize then (fs, .error .badName)
    else
      let next := fs.follow (place ++ [piece])
      match fs.get? next with
      | some .directory => makeDirectories fs next rest
      | some (.file _) => (fs, .error .alreadyExists)
      | none =>
        if onlyDots rest then (fs, .error .notFound)
        else makeDirectories (fs.set next .directory) next rest

def createDirectories (fs : Files) (path : String) : Files × Except FileError Unit :=
  if path.isEmpty then (fs, .ok ())
  else
    match fs.route path with
    | .error e => (fs, .error e)
    | .ok (start, pieces) => fs.makeDirectories start pieces

def list (fs : Files) (path : String) : Except FileError (List String) := do
  let place ← fs.locate path
  match fs.get? place with
  | none => .error .notFound
  | some (.file _) => .error .notDirectory
  | some .directory =>
    let places := fs.nodes.map (·.1) ++ fs.links.map (·.1)
    let names := places.filterMap fun p =>
      if p ≠ [] ∧ p.dropLast = place then p.getLast? else none
    .ok (names.mergeSort fun a b => decide (a ≤ b))

end Files

end Cartridge
