import Cartridge.Proofs.Resolve.Actor
import Cartridge.Proofs.Resolve.Lookup

/-!
Stacked levels. An instance, a prefab child and an archetype of one entity come to the
same as any one of them with the variables of all three, those of the instance first:
`stacked_levels_resolve_as_one`. Left out are the actors that the levels name by a
field, which are searched behind the variables, and the roles that ask for a certain
level: coordinates are those of the instance, and the type that an archetype is
referred to by is looked up in the archetype before the instance.
-/

namespace Cartridge.Export.Context

/-- If no overriding level names an actor by its field, variables come first and then the
field of the type. -/
theorem actor?_of_no_fields {c : Context} (h : ∀ level ∈ c.overrides, level.spriteActor = none)
    (slot : Int32) :
    c.actor? slot = ((c.tagged? .spriteActor slot).bind fun v => c.project.actor? v.value).or
      (c.type.spriteActor.bind c.project.actor?) := by
  have hfields : c.overrides.findSome? (fun level => level.spriteActor.bind c.project.actor?) =
      none := by
    refine List.findSome?_eq_none_iff.2 fun level hlevel => ?_
    rw [h level hlevel, Option.bind_none]
  rw [actor?, levels, List.findSome?_append, hfields, Option.none_or, List.findSome?_singleton]
  split
  · next actor hactor => rw [hactor, Option.some_or]
  · next hactor => rw [hactor, Option.none_or]; rfl

theorem hasRole_of_decidingRole? {tags : List String} {role : Role}
    (h : decidingRole? tags = some role) : hasRole tags role = true :=
  List.find?_some h

/-- How variables are spread over levels makes no difference to a declaration. -/
theorem resolve_congr_of_overridingVars {c d : Context} {decl : Variable}
    (hproject : d.project = c.project) (htype : d.type = c.type)
    (haddresses : d.addresses = c.addresses) (hvars : d.overridingVars = c.overridingVars)
    (hc : ∀ level ∈ c.overrides, level.spriteActor = none)
    (hd : ∀ level ∈ d.overrides, level.spriteActor = none)
    (hrole : ∀ role ∈ [Role.entityArchetype, .positionX, .positionY],
      hasRole decl.tags role = false) :
    d.resolve decl = c.resolve decl := by
  have htagged : ∀ role slot, d.tagged? role slot = c.tagged? role slot := by
    intro role slot
    rw [tagged?_eq, tagged?_eq, hvars, htype]
  have hnot : ∀ role ∈ [Role.entityArchetype, .positionX, .positionY],
      decidingRole? decl.tags ≠ some role := by
    intro role hmem h
    exact absurd (hrole role hmem) (by rw [hasRole_of_decidingRole? h]; decide)
  refine resolve_congr htype haddresses ?_ ?_ (htagged _ _) ?_ ?_
  · rw [valueOf_eq, valueOf_eq, hvars]
  · rw [actor?_of_no_fields hc, actor?_of_no_fields hd, htagged, hproject, htype]
  · exact fun h => absurd h (hnot _ (by decide))
  · rintro (h | h)
    · exact absurd h (hnot _ (by decide))
    · exact absurd h (hnot _ (by decide))

/-- Three levels come to the same as a single one, of any kind, with the variables of all
three. So what an instance says counts before what a prefab child says, that before an
archetype, and the type comes last, in the search by name as in the search by role. -/
theorem stacked_levels_resolve_as_one (c : Context) {i : Instance} {child : PrefabChild}
    {a : ArchetypeDef} {placedVars childVars namedVars : VariableTable}
    (hi : i.level = ⟨placedVars, none⟩) (hchild : child.level = ⟨childVars, none⟩)
    (ha : a.level = ⟨namedVars, none⟩) {decl : Variable}
    (hrole : ∀ role ∈ [Role.entityArchetype, .positionX, .positionY],
      hasRole decl.tags role = false) :
    let table := placedVars ++ childVars ++ namedVars
    let stacked := { c with placement := some i, child := some child, archetype := some a }
    (∀ j : Instance, j.level = ⟨table, none⟩ →
      { c with placement := some j, child := none, archetype := none }.resolve decl =
        stacked.resolve decl) ∧
    (∀ k : PrefabChild, k.level = ⟨table, none⟩ →
      { c with placement := none, child := some k, archetype := none }.resolve decl =
        stacked.resolve decl) ∧
    (∀ b : ArchetypeDef, b.level = ⟨table, none⟩ →
      { c with placement := none, child := none, archetype := some b }.resolve decl =
        stacked.resolve decl) ∧
    stacked.valueOf decl =
      (((placedVars.named? decl.name decl.slot).or ((childVars.named? decl.name decl.slot).or
        (namedVars.named? decl.name decl.slot))).map Variable.value).getD decl.value ∧
    ∀ role slot, stacked.tagged? role slot =
      (placedVars.tagged? role slot).or ((childVars.tagged? role slot).or
        ((namedVars.tagged? role slot).or (c.type.vars.tagged? role slot))) := by
  intro table stacked
  have hoverrides : stacked.overrides =
      [⟨placedVars, none⟩, ⟨childVars, none⟩, ⟨namedVars, none⟩] := by
    simp [stacked, overrides, hi, hchild, ha]
  have hvars : stacked.overridingVars = table := by
    simp [overridingVars, hoverrides, table]
  have hfields : ∀ level ∈ stacked.overrides, level.spriteActor = none := by
    simp [hoverrides]
  have hsingle : ∀ d : Context, d.overrides = [⟨table, none⟩] → d.project = c.project →
      d.type = c.type → d.addresses = c.addresses → d.resolve decl = stacked.resolve decl := by
    intro d hd hproject htype haddresses
    refine resolve_congr_of_overridingVars hproject htype haddresses ?_ hfields ?_ hrole
    · rw [hvars, overridingVars, hd, List.flatMap_singleton]
    · simp [hd]
  refine ⟨fun j hj => ?_, fun k hk => ?_, fun b hb => ?_, ?_, fun role slot => ?_⟩
  · exact hsingle _ (by simp [overrides, hj]) rfl rfl rfl
  · exact hsingle _ (by simp [overrides, hk]) rfl rfl rfl
  · exact hsingle _ (by simp [overrides, hb]) rfl rfl rfl
  · rw [valueOf_eq, hvars, VariableTable.named?_append, VariableTable.named?_append,
      Option.or_assoc]
  · rw [tagged?_eq, hvars, VariableTable.tagged?_append, VariableTable.tagged?_append,
      Option.or_assoc, Option.or_assoc]

/-- The sheet of the enemy is overridden by the prefab child, its actor by the archetype;
the variable of the instance belongs to another slot. -/
theorem stacked_enemy_drawn_as_boss :
    let i := placedEnemy none [⟨"SDSprite_Sheet", .long, "Run", [], 1, "ECShadow"⟩]
    let child : PrefabChild := ⟨3, "Guard", 1, .zero, none,
      [spriteVariable "sdsprite_sheet" .spriteSheet "WALK"]⟩
    let a : ArchetypeDef := ⟨"Tough", 1, none,
      [spriteVariable "SDSprite_Sheet" .spriteSheet "Run",
        spriteVariable "SDSprite_Actor" .spriteActor "boss"]⟩
    let c := enemyContext []
    let stacked := { c with placement := some i, child := some child, archetype := some a }
    (∀ role ∈ [Role.entityArchetype, .positionX, .positionY],
      hasRole sheetVariable.tags role = false) ∧
    { c with child := some { child with vars := i.vars ++ child.vars ++ a.vars } }.resolve
      sheetVariable = stacked.resolve sheetVariable ∧
    (stacked.resolve sheetVariable).value = "actor_Boss_spritesheet_Walk" := by
  intro i child a c stacked
  have hrole : ∀ role ∈ [Role.entityArchetype, .positionX, .positionY],
      hasRole sheetVariable.tags role = false := by decide +kernel
  have hi : i.level = ⟨i.vars, none⟩ := rfl
  have hchild : child.level = ⟨child.vars, none⟩ := rfl
  have ha : a.level = ⟨a.vars, none⟩ := rfl
  obtain ⟨-, hone, -⟩ := stacked_levels_resolve_as_one c hi hchild ha hrole
  exact ⟨hrole, hone _ rfl, by decide +kernel⟩

end Cartridge.Export.Context
