import Cartridge.Export.Override
import Cartridge.Text.Decimal
import Cartridge.Text.Hexadecimal

/-!
Resolution of declared parameters. A role makes a symbol out of the value, a script tag an
address, and any other parameter takes the value itself. What cannot be found is zero, so every
declaration resolves.
-/

namespace Cartridge.Export

def rolePriority : List Role :=
  [.entityDesc, .entityArchetype, .positionX, .positionY, .spriteActor, .spriteSheet,
    .spriteAnimation, .scriptData, .prefabData]

/-- The role that decides how a declaration with these tags resolves. -/
def decidingRole? (tags : List String) : Option Role :=
  rolePriority.find? (hasRole tags)

namespace Context

/-- The label of the archetype that a declaration refers to. The type it is looked up for can be
overridden by the archetype or else by the instance. -/
def archetypeReference (c : Context) (decl : Variable) : String :=
  let name := c.valueOf decl
  if name.isEmpty || name == "0" then "0"
  else
    let described (table : VariableTable) := table.tagged? .entityDesc decl.slot
    let override := (c.archetype.bind fun a => described a.vars).or
      (c.placement.bind fun i => described i.vars)
    archetypeSymbol ((override.map Variable.value).getD c.type.name) name

def coordinate (c : Context) (axis : Point → Int32) : String :=
  match c.placement with
  | some i => String.ofList (Text.decimalInt (axis (i.position + c.border)).toInt)
  | none => "0"

def sheetSymbol (c : Context) (decl : Variable) : String :=
  let symbol := do
    let actor ← c.actor? decl.slot
    let sheet ← actor.sheet? (c.valueOf decl)
    return "actor_" ++ actor.name ++ "_spritesheet_" ++ sheet.name
  symbol.getD "0"

/-- The symbol of the animation that a declaration names, on the sheet of its slot. -/
def animationSymbol (c : Context) (decl : Variable) : String :=
  let symbol := do
    let actor ← c.actor? decl.slot
    let sheetVariable ← c.tagged? .spriteSheet decl.slot
    let sheet ← actor.sheet? sheetVariable.value
    let animation ← sheet.animation? (c.valueOf decl)
    return "actor_" ++ actor.name ++ "_sheet_" ++ sheet.name ++ "_anim_" ++ animation.name
  symbol.getD "0"

def scriptTarget? (decl : Variable) : Option String :=
  (findPayload? decl.tags routineKey).or (findPayload? decl.tags globalKey)

def scriptAddress (c : Context) (target : String) : String :=
  match c.addresses.find? c.type.name target with
  | some address => Text.paddedHex 4 address.toNat
  | none => "0"

/-- What a declaration resolves to. -/
def resolvedValue (c : Context) (decl : Variable) : String :=
  match decidingRole? decl.tags with
  | some .entityDesc => c.valueOf decl ++ "_TypeDesc"
  | some .entityArchetype => c.archetypeReference decl
  | some .positionX => c.coordinate Point.x
  | some .positionY => c.coordinate Point.y
  | some .spriteActor => "0"
  | some .spriteSheet => c.sheetSymbol decl
  | some .spriteAnimation => c.animationSymbol decl
  | some .scriptData => "scriptdata_" ++ c.type.name
  | some .prefabData => "prefabdata_" ++ c.type.prefabLabel
  | none =>
    match scriptTarget? decl with
    | some target => c.scriptAddress target
    | none => c.valueOf decl

/-- The parameter a declaration resolves to. It keeps the name, width and tags of the
declaration. -/
def resolve (c : Context) (decl : Variable) : Param :=
  ⟨decl.name, decl.size, c.resolvedValue decl, decl.tags⟩

end Context

end Cartridge.Export
