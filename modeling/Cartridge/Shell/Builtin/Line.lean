import Cartridge.Shell.Builtin.Option
import Cartridge.Shell.Echo
import Cartridge.Shell.Field

/-!
Reading a line into variables. A character after a backslash separates no fields, and a line end
after one is dropped.
-/

namespace Cartridge.Shell

structure LineDraft where
  done : List Stretch
  items : List Item
  count : Nat

namespace LineDraft

def close (d : LineDraft) (literal : List Item) : LineDraft :=
  { d with
    done := ⟨literal, .nowhere⟩ :: ⟨d.items.reverse, .atSeparators⟩ :: d.done
    items := [] }

def stretches (d : LineDraft) : List Stretch :=
  (d.close []).done.reverse

def read (raw : Bool) (escaping : Bool) (d : LineDraft) : Bytes → LineDraft × Bool
  | [] => (d, false)
  | b :: rest =>
    let c := byteChar b.toNat
    let d := { d with count := d.count + 1 }
    if c = '\x00' then read raw escaping d rest
    else if escaping then
      read raw false (d.close (if c = '\n' then [] else [.plain c])) rest
    else if c = '\\' ∧ !raw then read raw true d rest
    else if c = '\n' then (d, true)
    else read raw false { d with items := .plain c :: d.items } rest

end LineDraft

def assignFields : List Octets → List Octets → Act Unit
  | [], _ => return ()
  | name :: names, fields => do
    assignNamed name (fields.headD "")
    assignFields names fields.tail

def readBuiltin (args : List Octets) : Act Nat := do
  let (options, names) ← letterOptions ['p', ':', 'r'] args
  let raw := options.any fun (c, _) => c == 'r'
  if names.isEmpty then fail "arg count"
  else
    let read := LineDraft.read raw false ⟨[], [], 0⟩
    let result ← readPart 0 fun bytes => let (d, ended) := read bytes; (d.count, ended)
    let (line, ended) := read (result.toOption.getD [])
    let fields := fieldsOf (← get).separators (some names.length) line.stretches
    assignFields names (fields.map Item.text)
    return if ended then 0 else 1

end Cartridge.Shell
