import Cartridge.Entity.Basic
import Cartridge.Text.Decimal
import Cartridge.Text.Fresh
import Cartridge.Text.Search

/-!
The declarations that entity scripts are written against, in C++: a structure for each component
and each entity, with a field for every spawn parameter, and a source with empty routine bodies to
start from.
-/

namespace Cartridge.Script

open Cartridge.Text

/-! Fields. -/

def fieldType : Width → String
  | .byte => "char"
  | .word => "short"
  | .long => "int"

/-- The name of a field: that of its parameter without the owner's name in it. -/
def fieldName (owner param : String) : String :=
  lowerFirst (delete (owner ++ "_") param)

structure StructField where
  type : String
  name : String
  deriving DecidableEq, Repr

def StructField.text (f : StructField) : String :=
  "\t" ++ f.type ++ " " ++ f.name ++ ";\n"

def totalBytes : List Param → Nat
  | [] => 0
  | p :: rest => p.size.bytes + totalBytes rest

/-- A field for each parameter, and a last one for the padding of an odd total. -/
def structFields (owner : String) (params : List Param) : List StructField :=
  params.map (fun p => ⟨fieldType p.size, fieldName owner p.name⟩) ++
    if totalBytes params % 2 = 1 then [⟨"unsigned char", "padding"⟩] else []

def fieldsText (owner : String) (params : List Param) : String :=
  String.join ((structFields owner params).map StructField.text)

/-! Components. -/

def routineText (r : Routine) : String :=
  "\t" ++ r.returnType ++ " " ++ r.name ++ "(" ++ r.paramList ++ ");\n"

def componentStruct (c : Component) : String :=
  "struct " ++ c.name ++ " : ComponentBase\n" ++
    "\x7b\n" ++
    fieldsText c.name c.spawn.params ++
    (if c.routines.isEmpty then "" else "\n" ++ String.join (c.routines.map routineText)) ++
    "\x7d;\n\n"

def firstOfNames (seen : List String) : List Component → List Component
  | [] => []
  | c :: rest =>
    if seen.contains c.name then firstOfNames seen rest
    else c :: firstOfNames (c.name :: seen) rest

/-- The header with the structures of components, one for each name. -/
def componentHeader (components : List Component) : String :=
  String.join ((firstOfNames [] components).map componentStruct)

/-! Entities. -/

def commonHeader : String := "Common.h"

def componentsHeader : String := "Components.h"

def bannerRule : String :=
  "// ============================================================================================\n"

def banner : String :=
  bannerRule ++
    "//   AUTOGENERATED WITH BEEHIVE - DO NOT EDIT MANUALLY\n" ++
    bannerRule ++
    "//   http://www.bigevilcorporation.co.uk\n" ++
    bannerRule ++
    "//   Beehive and LUMINARY Engine (c) Matt Phillips 2020\n" ++
    bannerRule

def lifecycle : List String :=
  ["OnStart", "OnShutdown", "OnUpdate"]

def lifecycleParams : String :=
  "const Engine& engine, const Scene& scene"

def handleBase (component : String) : String :=
  match afterStart "EC".toList component.toList with
  | some rest => lowerFirst (String.ofList rest)
  | none => lowerFirst component

def numberedHandle (base : String) (n : Nat) : String :=
  base ++ String.ofList (decimal n)

/-- The handle of a component among those that are taken: its own name, or else that name with the
least number from two on that makes it free. -/
def freeHandle (taken : List String) (base : String) : String :=
  if taken.contains base then fresh taken.contains (numberedHandle base) 2 taken.length else base

def handlesFrom (taken : List String) : List Component → List String
  | [] => []
  | c :: rest =>
    let handle := freeHandle taken (handleBase c.name)
    handle :: handlesFrom (handle :: taken) rest

/-- The handles of an entity's components. -/
def handles (e : Entity) : List String :=
  handlesFrom [] e.components

def handleText (handle : String) : String :=
  "\t\tComponentHndl " ++ handle ++ ";\n"

/-- The header of an entity type. -/
def entityHeader (e : Entity) : String :=
  banner ++ "\n\n" ++
    "#include <" ++ commonHeader ++ ">\n" ++
    "#include <" ++ componentsHeader ++ ">\n\n" ++
    "struct " ++ e.typeName ++ " : Entity\n" ++
    "\x7b\n" ++
    "\tstruct Components\n" ++
    "\t\x7b\n" ++
    String.join ((handles e).map handleText) ++
    "\t\x7d;\n\n" ++
    fieldsText e.typeName e.spawn.params ++
    "\n\tComponents components;\n\n" ++
    String.join (lifecycle.map fun r => "\tvoid " ++ r ++ "(" ++ lifecycleParams ++ ");\n") ++
    "\x7d;\n"

def boilerplate (e : Entity) : String :=
  "#include \"" ++ e.typeName ++ ".h\"\n\n" ++
    String.join (lifecycle.map fun r =>
      "void " ++ e.typeName ++ "::" ++ r ++ "(" ++ lifecycleParams ++ ")\n\x7b\n\n\x7d\n\n")

end Cartridge.Script
