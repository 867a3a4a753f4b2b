import Cartridge.Export.Resolve
import Mathlib.Data.List.Basic

/-!
What a declaration looks up. The levels that override it are searched one after the
other, and each from the start of its table, so every lookup sees one long table, the
strongest level first. What a declaration resolves to is decided by its role and by
the few lookups that the role asks for.
-/

namespace Cartridge

namespace VariableTable

variable {a b : VariableTable} {name : String} {role : Role} {slot : Int32}

theorem named?_append : named? (a ++ b) name slot = (a.named? name slot).or (b.named? name slot) :=
  List.find?_append

theorem tagged?_append :
    tagged? (a ++ b) role slot = (a.tagged? role slot).or (b.tagged? role slot) :=
  List.find?_append

end VariableTable

namespace Export.Context

/-- The variables of all overriding levels, in the order in which they are searched. -/
def overridingVars (c : Context) : VariableTable :=
  c.overrides.flatMap Level.vars

theorem valueOf_eq (c : Context) (decl : Variable) :
    c.valueOf decl =
      ((c.overridingVars.named? decl.name decl.slot).map Variable.value).getD decl.value := by
  have hfind : c.overridingVars.named? decl.name decl.slot =
      c.overrides.findSome? fun level => level.vars.named? decl.name decl.slot :=
    List.find?_flatMap
  rw [valueOf, hfind]
  split
  · next h => rw [h]; rfl
  · next h => rw [h]; rfl

theorem tagged?_eq (c : Context) (role : Role) (slot : Int32) :
    c.tagged? role slot =
      (c.overridingVars.tagged? role slot).or (c.type.vars.tagged? role slot) := by
  have hfind : c.overridingVars.tagged? role slot =
      c.overrides.findSome? fun level => level.vars.tagged? role slot :=
    List.find?_flatMap
  rw [tagged?, levels, List.findSome?_append, hfind, List.findSome?_singleton]
  rfl

/-! ### What decides a parameter -/

section

variable {c d : Context} {decl decl' : Variable}

theorem sheetSymbol_congr (hactor : d.actor? decl'.slot = c.actor? decl.slot)
    (hsheet : ∀ actor : Actor, actor.sheet? (d.valueOf decl') = actor.sheet? (c.valueOf decl)) :
    d.sheetSymbol decl' = c.sheetSymbol decl := by
  simp only [sheetSymbol, hactor, hsheet]

theorem animationSymbol_congr (hactor : d.actor? decl'.slot = c.actor? decl.slot)
    (hsheet : ∀ actor : Actor,
      (d.tagged? .spriteSheet decl'.slot).bind (fun v => actor.sheet? v.value) =
        (c.tagged? .spriteSheet decl.slot).bind fun v => actor.sheet? v.value)
    (hanimation : ∀ sheet : SpriteSheet,
      sheet.animation? (d.valueOf decl') = sheet.animation? (c.valueOf decl)) :
    d.animationSymbol decl' = c.animationSymbol decl := by
  simp only [animationSymbol, Option.bind_eq_bind, ← Option.bind_assoc, hactor, hsheet, hanimation]

/-- Declarations of one role resolve alike if what their role looks up is the same. -/
theorem resolvedValue_congr (hrole : decidingRole? decl'.tags = decidingRole? decl.tags)
    (hname : d.type.name = c.type.name) (hlabel : d.type.prefabLabel = c.type.prefabLabel)
    (hvalue : decidingRole? decl.tags = some .entityDesc ∨ decidingRole? decl.tags = none →
      d.valueOf decl' = c.valueOf decl)
    (hreference : decidingRole? decl.tags = some .entityArchetype →
      d.archetypeReference decl' = c.archetypeReference decl)
    (hcoordinate : decidingRole? decl.tags = some .positionX ∨
      decidingRole? decl.tags = some .positionY → d.coordinate = c.coordinate)
    (hsheet : decidingRole? decl.tags = some .spriteSheet →
      d.sheetSymbol decl' = c.sheetSymbol decl)
    (hanimation : decidingRole? decl.tags = some .spriteAnimation →
      d.animationSymbol decl' = c.animationSymbol decl)
    (hscript : decidingRole? decl.tags = none →
      (scriptTarget? decl').map d.scriptAddress = (scriptTarget? decl).map c.scriptAddress) :
    d.resolvedValue decl' = c.resolvedValue decl := by
  rw [resolvedValue, resolvedValue, hrole]
  cases h : decidingRole? decl.tags with
  | none =>
      have hscript := hscript h
      have hvalue := hvalue (.inr h)
      cases htarget : scriptTarget? decl with
      | none =>
          rw [htarget, Option.map_none, Option.map_eq_none_iff] at hscript
          simp only [hscript, hvalue]
      | some target =>
          rw [htarget, Option.map_some, Option.map_eq_some_iff] at hscript
          obtain ⟨target', htarget', haddress⟩ := hscript
          simp only [htarget', haddress]
  | some role =>
      cases role with
      | entityDesc => simp only [hvalue (.inl h)]
      | entityArchetype => exact hreference h
      | positionX => simp only [hcoordinate (.inl h)]
      | positionY => simp only [hcoordinate (.inr h)]
      | spriteActor => rfl
      | spriteSheet => exact hsheet h
      | spriteAnimation => exact hanimation h
      | scriptData => simp only [hname]
      | prefabData => simp only [hlabel]

/-- A declaration resolves alike wherever its lookups come to the same. -/
theorem resolve_congr (htype : d.type = c.type) (haddresses : d.addresses = c.addresses)
    (hvalue : d.valueOf decl = c.valueOf decl) (hactor : d.actor? decl.slot = c.actor? decl.slot)
    (hsheet : d.tagged? .spriteSheet decl.slot = c.tagged? .spriteSheet decl.slot)
    (hreference : decidingRole? decl.tags = some .entityArchetype →
      d.archetypeReference decl = c.archetypeReference decl)
    (hcoordinate : decidingRole? decl.tags = some .positionX ∨
      decidingRole? decl.tags = some .positionY → d.coordinate = c.coordinate) :
    d.resolve decl = c.resolve decl := by
  have haddress : d.scriptAddress = c.scriptAddress := by
    funext target
    rw [scriptAddress, scriptAddress, htype, haddresses]
  have hresolved : d.resolvedValue decl = c.resolvedValue decl :=
    resolvedValue_congr rfl (by rw [htype]) (by rw [htype]) (fun _ => hvalue) hreference
      hcoordinate (fun _ => sheetSymbol_congr hactor fun actor => by rw [hvalue])
      (fun _ => animationSymbol_congr hactor (fun actor => by rw [hsheet])
        fun sheet => by rw [hvalue])
      fun _ => by rw [haddress]
  rw [resolve, hresolved, resolve]

end

end Export.Context

end Cartridge
