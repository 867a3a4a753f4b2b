import Cartridge.Shell.Builtin.Option
import Cartridge.Shell.Lookup

/-!
The builtin commands that tell what names lead to, and the one that gives names to texts.
-/

namespace Cartridge.Shell

open Cartridge.Text

/-! Aliases. -/

def aliasLine (a : Alias) : Octets :=
  a.name ++ "=" ++ reread a.text ++ "\n"

def setAlias (a : Alias) : Act Unit :=
  modify fun s =>
    let aliases :=
      if s.aliases.any (·.name == a.name) then
        s.aliases.map fun b => if b.name == a.name then a else b
      else s.aliases ++ [a]
    { s with aliases }

/-- The alias that an argument defines. An equals sign at its start belongs to the name. -/
def definedAlias? (arg : Octets) : Option Alias :=
  match arg.toList with
  | [] => none
  | c :: cs => (cutAtChar '=' cs).map fun (name, text) =>
    ⟨String.ofList (c :: name), String.ofList text⟩

def aliasEach : List Octets → Act Nat
  | [] => return 0
  | arg :: rest => do
    match definedAlias? arg with
    | some a =>
      setAlias a
      aliasEach rest
    | none =>
      match (← get).aliases.find? (·.name == arg) with
      | some a =>
        say (aliasLine a)
        aliasEach rest
      | none =>
        write 2 ("alias: " ++ arg ++ " not found\n")
        let _ ← aliasEach rest
        return 1

def aliasBuiltin (args : List Octets) : Act Nat := do
  if args.isEmpty then
    (orderedByName 39 Alias.name (← get).aliases).forM fun a => say (aliasLine a)
    return 0
  else aliasEach args

def unaliasEach : List Octets → Act Nat
  | [] => return 0
  | name :: rest => do
    let s ← get
    if s.aliases.any (·.name == name) then
      set { s with aliases := s.aliases.filter (·.name != name) }
      unaliasEach rest
    else
      write 2 ("unalias: " ++ name ++ " not found\n")
      let _ ← unaliasEach rest
      return 1

def unaliasBuiltin (args : List Octets) : Act Nat := do
  match ← firstOption 'a' args with
  | some names => unaliasEach names
  | none =>
    modify fun s => { s with aliases := [] }
    return 0

/-! What names lead to. -/

def usualPath : Octets :=
  ":".intercalate usualDirectories

def describe (brief : Bool) (path : Option Octets) (name : Octets) : Act Nat := do
  let s ← get
  let tell := fun (text : Octets) => do
    say ((if brief then name else name ++ text) ++ "\n")
    return 0
  if keywords.contains name then tell " is a shell keyword"
  else
    match s.aliases.find? (·.name == name) with
    | some a =>
      if brief then
        say ("alias " ++ aliasLine a)
        return 0
      else tell (" is an alias for " ++ a.text)
    | none =>
      let known := if path.isNone then s.remembered.find? (·.name == name) else none
      let tracked := if known.isSome then " is a tracked alias for " else " is "
      let missing := do
        if !brief then say (name ++ ": not found\n")
        return 127
      let program := fun (index : Option Nat) => do
        let path := programPath (path.getD ((s.value? "PATH").getD "/")) index name
        say ((if brief then path else name ++ tracked ++ path) ++ "\n")
        return 0
      match known with
      | some r => program (some r.index)
      | none =>
        match ← find path name with
        | .function _ => tell " is a shell function"
        | .builtin true => tell " is a special shell builtin"
        | .builtin false => tell " is a shell builtin"
        | .nothing _ => missing
        | .program (some index) => program (some index)
        | .program none =>
          if s.files.exists? (Octets.toText name) then program none else missing

def typeBuiltin : List Octets → Act Nat
  | [] => return 0
  | name :: rest => do
    let status ← describe false none name
    let others ← typeBuiltin rest
    return if others = 0 then status else others

def commandBuiltin (args : List Octets) : Act Nat := do
  let (options, names) ← letterOptions ['p', 'v', 'V'] args
  let letters := options.map (·.1)
  let path := if letters.contains 'p' then some usualPath else none
  match names with
  | [] => return 0
  | name :: _ =>
    if letters.contains 'V' then describe false path name
    else if letters.contains 'v' then describe true path name
    else return 0

def hashEach : List Octets → Act Nat
  | [] => return 0
  | name :: rest => do
    modify fun s => { s with remembered := s.remembered.filter (·.name != name) }
    match ← find none name with
    | .nothing reason =>
      warn (name ++ ": " ++ reason)
      let _ ← hashEach rest
      return 1
    | _ => hashEach rest

def hashBuiltin (args : List Octets) : Act Nat := do
  let (options, names) ← letterOptions ['r'] args
  if !options.isEmpty then
    modify fun s => { s with remembered := [] }
    return 0
  else if names.isEmpty then
    let s ← get
    (orderedByName 31 Remembered.name s.remembered).forM fun r =>
      let path := programPath ((s.value? "PATH").getD "/") (some r.index) r.name
      say (path ++ (if r.isStale then "*\n" else "\n"))
    return 0
  else hashEach names

end Cartridge.Shell
