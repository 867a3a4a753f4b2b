import Cartridge.Proofs.Build.Override
import Cartridge.Proofs.Resolve.Stack
import Cartridge.Proofs.Scene.Sharing

/-!
Instances that are moved or renamed. Where an instance stands, how large it is and what
it is called reach its parameters through coordinates only. So instances of a type
without coordinates share a record if they override the same variables and name the
same actor, whatever stands between them in the scene: `placement_keeps_record`.
-/

namespace Cartridge

open Cartridge.Assembly (joinLines)

theorem EntityType.mem_vars_of_mem_declarations {t : EntityType} {block : List Variable}
    (hblock : block ∈ t.declarations) {decl : Variable} (hdecl : decl ∈ block) :
    decl ∈ t.vars :=
  t.flatten_declarations.subset (List.mem_flatten_of_mem hblock hdecl)

namespace Export.Context

/-- The shape of an entity is what its declarations resolve to, block by block. -/
theorem shape_entity (c : Context) (id : UInt16) (name : String) (position : Point)
    (dimensions : Dimensions) :
    (c.entity id name position dimensions).shape =
      c.type.declarations.map (List.map fun decl => (c.resolve decl).content) := by
  simp [entity_eq, Entity.shape, Entity.blocks, EntityType.declarations, ownParams,
    scriptedComponent, Parts.record, SpawnData.content, Function.comp_def]

/-- A declaration that is no coordinate sees nothing of an instance but its level. -/
theorem resolve_placed_of_level (c : Context) {i j : Instance} (hlevel : i.level = j.level)
    {decl : Variable} (hx : hasRole decl.tags .positionX = false)
    (hy : hasRole decl.tags .positionY = false) :
    { c with placement := some i }.resolve decl =
      { c with placement := some j }.resolve decl := by
  have hoverrides : { c with placement := some i }.overrides =
      { c with placement := some j }.overrides := by
    simp only [overrides, Option.map_some, hlevel]
  have hvars : i.vars = j.vars := congrArg Level.vars hlevel
  have hvalue : { c with placement := some i }.valueOf decl =
      { c with placement := some j }.valueOf decl := by
    simp only [valueOf, hoverrides]
  have htagged : ∀ role, { c with placement := some i }.tagged? role decl.slot =
      { c with placement := some j }.tagged? role decl.slot := by
    intro role
    simp only [tagged?, levels, hoverrides]
  refine resolve_congr rfl rfl hvalue ?_ (htagged _) (fun _ => ?_) ?_
  · simp only [actor?, htagged, levels, hoverrides]
  · simp only [archetypeReference, hvalue, Option.bind_some, hvars]
  · rintro (h | h)
    · rw [hasRole_of_decidingRole? h] at hx
      cases hx
    · rw [hasRole_of_decidingRole? h] at hy
      cases hy

end Export.Context

namespace Export.Builder

section

variable (b : Builder) {t : EntityType} {i j : Instance}
  (hcoordinates : ∀ v ∈ t.vars, hasRole v.tags .positionX = false ∧
    hasRole v.tags .positionY = false)

include hcoordinates in
theorem shape_instanceEntity (hlevel : i.level = j.level) :
    (b.instanceEntity t i).shape = (b.instanceEntity t j).shape := by
  rw [instanceEntity, instanceEntity, Context.shape_entity, Context.shape_entity]
  refine List.map_congr_left fun block hblock => List.map_congr_left fun decl hdecl => ?_
  obtain ⟨hx, hy⟩ := hcoordinates decl (EntityType.mem_vars_of_mem_declarations hblock hdecl)
  rw [(b.context t).resolve_placed_of_level hlevel hx hy]

include hcoordinates in
/-- Instances of one type with the same variables and the same actor share a record in
any scene, unless they are static or have coordinates among their parameters. -/
theorem placement_keeps_record (hdynamic : t.isStatic = false) (hvars : i.vars = j.vars)
    (hactor : i.spriteActor = j.spriteActor) (settings : Settings) (scene : String)
    {entities : List Entity} (hi : b.instanceEntity t i ∈ entities)
    (hj : b.instanceEntity t j ∈ entities) :
    let source := sceneSource settings scene entities
    joinLines source = sceneText settings scene entities ∧
      b.instanceEntity t i ∈ dynamics entities ∧ b.instanceEntity t j ∈ dynamics entities ∧
      ∃ rows : List Row, EntityTable source scene entities rows ∧
        ∀ m n : Nat, (dynamics entities)[m]? = some (b.instanceEntity t i) →
          (dynamics entities)[n]? = some (b.instanceEntity t j) →
            ∃ row row', rows[m]? = some row ∧ rows[n]? = some row' ∧
              row.record = row'.record := by
  have hshape : (b.instanceEntity t i).shape = (b.instanceEntity t j).shape :=
    b.shape_instanceEntity hcoordinates (by rw [Instance.level, Instance.level, hvars, hactor])
  have hmem : ∀ e ∈ entities, e.isStatic = false → e ∈ dynamics entities :=
    fun e he hstatic => List.mem_filter.2 ⟨he, by rw [hstatic]; rfl⟩
  refine ⟨joinLines_sceneSource settings scene entities, hmem _ hi hdynamic, hmem _ hj hdynamic,
    _, entityTable_sceneSource settings scene entities, fun m n hm hn => ?_⟩
  rw [← @entities_placeScene scene entities, List.getElem?_map, Option.map_eq_some_iff] at hm hn
  obtain ⟨p, hp, hpi⟩ := hm
  obtain ⟨q, hq, hqj⟩ := hn
  refine ⟨p.row, q.row, by rw [List.getElem?_map, hp, Option.map_some],
    by rw [List.getElem?_map, hq, Option.map_some], ?_⟩
  have hp := List.mem_of_getElem? hp
  have hq := List.mem_of_getElem? hq
  rw [placeScene_eq_placed] at hp hq
  exact Registry.label_eq_of_shape isStatic_of_mem_sceneRequests hp hq (by rw [hpi, hqj, hshape])

end

/-- Two guards in different places share the record of the first one, past a lamp. -/
theorem moved_guard_keeps_record :
    let health : Variable := ⟨"Health", .word, "10", [], -1, ""⟩
    let t : EntityType := ⟨1, "EGuard", .zero, none, [health], [], none, [], false⟩
    let i : Instance := ⟨5, "Left", 1, ⟨8, 8⟩, .zero, none, [{ health with value := "40" }]⟩
    let j : Instance := { i with id := 9, name := "", position := ⟨64, 24⟩ }
    let b : Builder := ⟨⟨[t], [], [], []⟩, .empty, .default⟩
    let entities := [b.instanceEntity t i, Entity.named "ELamp" 7, b.instanceEntity t j]
    ∃ rows : List Row,
      EntityTable (sceneSource .default "Gate" entities) "Gate" entities rows ∧
      ∃ row row', rows[0]? = some row ∧ rows[2]? = some row' ∧ row.record = row'.record := by
  intro health t i j b entities
  have hcoordinates : ∀ v ∈ t.vars, hasRole v.tags .positionX = false ∧
      hasRole v.tags .positionY = false := by
    decide
  have hvars : i.vars = j.vars := rfl
  have hactor : i.spriteActor = j.spriteActor := rfl
  have hi : b.instanceEntity t i ∈ entities := by simp [entities]
  have hj : b.instanceEntity t j ∈ entities := by simp [entities]
  obtain ⟨-, -, -, rows, htable, hrecords⟩ :=
    b.placement_keeps_record hcoordinates rfl hvars hactor .default "Gate" hi hj
  exact ⟨rows, htable, hrecords 0 2 rfl rfl⟩

end Export.Builder

end Cartridge
