import Cartridge.Shell.Builtin.Option

/-!
The current directory. A shell keeps the path by which it was reached.
-/

namespace Cartridge.Shell

open Cartridge.Text

def placeText (place : Place) : Octets :=
  Octets.ofText ("/" ++ "/".intercalate place)

/-- The path that leads from one path along another, without dots. Two slashes at the start of a path
mean something of their own. -/
def resolvedPath (directory path : Octets) : Octets :=
  let isAbsolute := path.toList.head? == some '/'
  let start := if isAbsolute then path.toList else directory.toList
  let root := match start with
    | '/' :: '/' :: '/' :: _ => "/"
    | '/' :: '/' :: _ => "//"
    | _ => "/"
  let pieces := splitAtChar '/' start ++ if isAbsolute then [] else splitAtChar '/' path.toList
  let names := pieces.foldl
    (fun names piece =>
      if piece = [] ∨ piece = ['.'] then names
      else if piece = ['.', '.'] then names.dropLast
      else names ++ [String.ofList piece])
    []
  root ++ "/".intercalate names

def startsWithDots (path : Octets) : Bool :=
  match path.toList.takeWhile (· != '/') with
  | ['.'] | ['.', '.'] => true
  | _ => false

/-- Go to a directory, by a path as it is or as it reads. The result is whether there is one. -/
def goTo (physical : Bool) (path : Octets) : Act Bool := do
  let s ← get
  let target := if physical then path else resolvedPath s.directory path
  match s.files.locate (Octets.toText target) with
  | .error _ => return false
  | .ok place =>
    if s.files.get? place != some .directory then return false
    else
      modify fun s =>
        { s with
          files := { s.files with current := place }
          remembered := s.remembered.map fun r => { r with isStale := true } }
      let directory := if physical then placeText place else target
      assign "OLDPWD" s.directory
      exportVariable "OLDPWD"
      modify fun s => { s with directory }
      assign "PWD" directory
      exportVariable "PWD"
      return true

def searchedPaths (searched : Option Octets) (path : Octets) : List (Octets × Bool) :=
  match searched with
  | none => []
  | some searched =>
    (splitAtChar ':' searched.toList).map fun directory =>
      let directory := String.ofList directory
      if directory.isEmpty then (path, false) else (directory ++ "/" ++ path, true)

def isPhysical (options : List (Char × Octets)) : Bool :=
  options.getLast?.any fun (c, _) => c == 'P'

def cdBuiltin (args : List Octets) : Act Nat := do
  let (options, names) ← letterOptions ['L', 'P'] args
  let s ← get
  let isBack := names.head? == some "-"
  let target := (match names with
    | [] => s.value? "HOME"
    | name :: _ => if isBack then s.value? "OLDPWD" else some name).getD ""
  let isDirect := target.toList.head? == some '/' || startsWithDots target
  let path := if target.isEmpty then "." else target
  let isDirectory := fun (p : Octets × Bool) => s.files.isDirectory (Octets.toText p.1)
  let (path, isShown) :=
    match if isDirect then none else (searchedPaths (s.value? "CDPATH") path).find? isDirectory with
    | some found => found
    | none => (path, false)
  if ← goTo (isPhysical options) path then
    if isBack || isShown then say ((← get).directory ++ "\n")
    return 0
  else fail ("can't cd to " ++ path)

def pwdBuiltin (args : List Octets) : Act Nat := do
  let (options, _) ← letterOptions ['L', 'P'] args
  let s ← get
  say ((if isPhysical options then placeText s.files.current else s.directory) ++ "\n")
  return 0

end Cartridge.Shell
