import Cartridge.Proofs.Build.Grouping
import Cartridge.Proofs.Resolve.Actor
import Cartridge.Proofs.Resolve.Lookup

/-!
One more override. A variable that is added behind those of an instance is found by its
name only, unless it is tagged with a role. So it reaches the declarations of that name
in its slot, or in no slot, and of these the ones that no variable in front of it
overrides; all else of the entity is built as before: `override_touches_own_parameters`.
-/

namespace Cartridge

/-! ### Places of parameters -/

/-- The declarations of a type, laid out as the blocks of its entities are. -/
def EntityType.declarations (t : EntityType) : List (List Variable) :=
  t.vars.filter Variable.ofEntity :: t.vars.slots.map t.vars.inSlot

/-- The declaration at a place of some block. -/
def EntityType.declaration? (t : EntityType) (block index : Nat) : Option Variable :=
  t.declarations[block]?.bind (·[index]?)

/-- Every variable of the type has a place in the blocks. -/
theorem EntityType.flatten_declarations (t : EntityType) : t.declarations.flatten.Perm t.vars := by
  rw [declarations, List.flatten_cons, ← List.flatMap_def]
  exact t.hasSlots_slots.dealt_vars

/-- The parameter at a place of some block. -/
def Entity.param? (e : Entity) (block index : Nat) : Option Param :=
  e.blocks[block]?.bind (·.params[index]?)

/-- A block whose parameters have lost their values. -/
def SpawnData.outline (s : SpawnData) : SpawnData :=
  { s with params := s.params.map fun p => { p with value := "" } }

/-- All of an entity but the values of its parameters. -/
def Entity.outline (e : Entity) : Entity :=
  { e with
    spawn := e.spawn.outline
    components := e.components.map fun c => { c with spawn := c.spawn.outline } }

namespace Export.Context

section

variable {id : UInt16} {name : String} {position : Point} {dimensions : Dimensions}

/-- Every parameter is what the declaration at its place resolves to. -/
theorem param?_entity (c : Context) (block index : Nat) :
    (c.entity id name position dimensions).param? block index =
      (c.type.declaration? block index).map c.resolve := by
  rw [entity_eq]
  cases block with
  | zero => simp [Entity.param?, Entity.blocks, ownParams, EntityType.declaration?,
      EntityType.declarations]
  | succ block =>
      simp only [Entity.param?, Entity.blocks, EntityType.declaration?, EntityType.declarations,
        List.getElem?_cons_succ, List.getElem?_map, Option.map_map]
      cases c.type.vars.slots[block]? with
      | none => rfl
      | some slot => simp [scriptedComponent, Parts.record]

/-- The type of an entity decides its outline. -/
theorem outline_entity {c d : Context} (htype : d.type = c.type) :
    (d.entity id name position dimensions).outline =
      (c.entity id name position dimensions).outline := by
  simp [Entity.outline, SpawnData.outline, entity_eq, ownParams, scriptedComponent, Parts.record,
    resolve, htype, Function.comp_def]

end

/-! ### One more variable of an instance -/

theorem valueOf_plain {c : Context} {decl : Variable}
    (hrole : ∀ role, hasRole decl.tags role = false)
    (hscript : scriptTarget? decl = none) : (c.resolve decl).value = c.valueOf decl := by
  have hnone : decidingRole? decl.tags = none :=
    List.find?_eq_none.2 fun role _ => by rw [hrole role]; exact Bool.false_ne_true
  simp only [resolve, resolvedValue, hnone, hscript]

section

variable {v : Variable} (hv : ∀ role, hasRole v.tags role = false)

include hv in
/-- A variable without a role is not found by one. -/
theorem tagged?_concat (table : VariableTable) (role : Role) (slot : Int32) :
    VariableTable.tagged? (table ++ [v]) role slot = table.tagged? role slot := by
  have hnone : VariableTable.tagged? [v] role slot = none := by
    simp [VariableTable.tagged?, Variable.plays, hv]
  rw [VariableTable.tagged?_append, hnone, Option.or_none]

variable {c : Context} (hchild : c.child = none) (harchetype : c.archetype = none) (i : Instance)

include hchild harchetype in
theorem overridingVars_placed : { c with placement := some i }.overridingVars = i.vars := by
  simp [overridingVars, overrides, hchild, harchetype, Instance.level]

include hv hchild harchetype in
theorem tagged?_placed_concat (role : Role) (slot : Int32) :
    { c with placement := some { i with vars := i.vars ++ [v] } }.tagged? role slot =
      { c with placement := some i }.tagged? role slot := by
  rw [tagged?_eq, tagged?_eq, overridingVars_placed hchild harchetype,
    overridingVars_placed hchild harchetype, tagged?_concat hv]

include hv hchild harchetype in
/-- A declaration that the variable does not override resolves as before, whatever its
role. -/
theorem resolve_placed_concat {decl : Variable} (hdecl : v.overrides decl.name decl.slot = false) :
    { c with placement := some { i with vars := i.vars ++ [v] } }.resolve decl =
      { c with placement := some i }.resolve decl := by
  have htagged := tagged?_placed_concat hv hchild harchetype i
  have hvalue : { c with placement := some { i with vars := i.vars ++ [v] } }.valueOf decl =
      { c with placement := some i }.valueOf decl := by
    have hnone : VariableTable.named? [v] decl.name decl.slot = none := by
      simp [VariableTable.named?, hdecl]
    rw [valueOf_eq, valueOf_eq, overridingVars_placed hchild harchetype,
      overridingVars_placed hchild harchetype, VariableTable.named?_append, hnone,
      Option.or_none]
  refine resolve_congr rfl rfl hvalue ?_ (htagged _ _) (fun _ => ?_) fun _ => rfl
  · -- The levels name the same actors by their fields.
    rw [actor?, actor?, htagged]
    simp only [levels, overrides, hchild, harchetype, Option.map_some, Option.map_none,
      Option.toList_some, Option.toList_none, Instance.level, List.append_nil, List.cons_append,
      List.nil_append, List.findSome?_cons]
  · simp only [archetypeReference, hvalue, Option.bind_some, tagged?_concat hv]

include hchild harchetype in
/-- A plain declaration that the variable overrides takes its value, unless a variable in
front of it overrides the declaration as well. -/
theorem value_placed_concat {decl : Variable} (hrole : ∀ role, hasRole decl.tags role = false)
    (hscript : scriptTarget? decl = none) (hdecl : v.overrides decl.name decl.slot = true) :
    ({ c with placement := some { i with vars := i.vars ++ [v] } }.resolve decl).value =
      if ∃ w ∈ i.vars, w.overrides decl.name decl.slot = true then
        ({ c with placement := some i }.resolve decl).value
      else v.value := by
  have hlast : VariableTable.named? [v] decl.name decl.slot = some v := by
    simp [VariableTable.named?, hdecl]
  rw [valueOf_plain hrole hscript, valueOf_plain hrole hscript, valueOf_eq, valueOf_eq,
    overridingVars_placed hchild harchetype, overridingVars_placed hchild harchetype,
    VariableTable.named?_append, hlast]
  cases hfirst : i.vars.named? decl.name decl.slot with
  | none =>
      rw [if_neg (by simpa [VariableTable.named?] using hfirst)]
      rfl
  | some w =>
      rw [if_pos ⟨w, List.mem_of_find?_eq_some hfirst, List.find?_some hfirst⟩]
      rfl

end

end Export.Context

namespace Export.Builder

/-- One more variable of an instance, if it is tagged with no role, leaves all of its
entity as it was but for the values of the parameters whose declarations it overrides.
Every declaration of the type has its parameter. That of a plain one which is overridden
takes the value of the variable if no earlier variable of the instance overrides the
declaration, and else it keeps its own. -/
theorem override_touches_own_parameters (b : Builder) (t : EntityType) (i : Instance)
    {v : Variable} (hv : ∀ role, hasRole v.tags role = false) :
    let e := b.instanceEntity t i
    let e' := b.instanceEntity t { i with vars := i.vars ++ [v] }
    e'.outline = e.outline ∧ t.declarations.flatten.Perm t.vars ∧
    (∀ block index, e.param? block index = none ↔ t.declaration? block index = none) ∧
    ∀ block index decl, t.declaration? block index = some decl →
      ∃ p p', e.param? block index = some p ∧ e'.param? block index = some p' ∧
        p.name = decl.name ∧ p.size = decl.size ∧ p.tags = decl.tags ∧
        (v.overrides decl.name decl.slot = false → p' = p) ∧
        ((∀ role, hasRole decl.tags role = false) → Context.scriptTarget? decl = none →
          v.overrides decl.name decl.slot = true →
            ((∀ w ∈ i.vars, w.overrides decl.name decl.slot = false) → p'.value = v.value) ∧
            ((∃ w ∈ i.vars, w.overrides decl.name decl.slot = true) → p'.value = p.value)) := by
  intro e e'
  have hparam (block index : Nat) : e.param? block index = (t.declaration? block index).map
      { b.context t with placement := some i }.resolve := Context.param?_entity _ block index
  have hparam' (block index : Nat) : e'.param? block index = (t.declaration? block index).map
      { b.context t with placement := some { i with vars := i.vars ++ [v] } }.resolve :=
    Context.param?_entity _ block index
  refine ⟨Context.outline_entity rfl, t.flatten_declarations, fun block index => ?_,
    fun block index decl hdecl => ?_⟩
  · rw [hparam, Option.map_eq_none_iff]
  refine ⟨_, _, by rw [hparam, hdecl]; rfl, by rw [hparam', hdecl]; rfl, rfl, rfl, rfl,
    Context.resolve_placed_concat hv rfl rfl i, fun hrole hscript hover => ?_⟩
  have hvalue := Context.value_placed_concat (c := b.context t) rfl rfl i hrole hscript hover
  refine ⟨fun hnone => ?_, fun hsome => ?_⟩
  · rw [hvalue, if_neg]
    rintro ⟨w, hw, hwover⟩
    rw [hnone w hw] at hwover
    cases hwover
  · rw [hvalue, if_pos hsome]

/-- A bat whose health is overridden gets another speed of flight as well, which does not
reach the speed of the same name in another slot. -/
theorem faster_bat_keeps_health :
    let health : Variable := ⟨"Health", .word, "10", [], -1, ""⟩
    let flight : Variable := ⟨"Speed", .word, "2", [], 3, "ECFlight"⟩
    let glide : Variable := ⟨"Speed", .byte, "5", [], 1, "ECGlide"⟩
    let t : EntityType :=
      ⟨1, "EBat", .zero, none, [flight, health, glide], [], none, [], false⟩
    let i : Instance := ⟨5, "Bat", 1, ⟨8, 8⟩, .zero, none, [{ health with value := "40" }]⟩
    let v : Variable := ⟨"SPEED", .word, "9", ["fast"], 3, "ECFlight"⟩
    let b : Builder := ⟨⟨[t], [], [], []⟩, .empty, .default⟩
    let e := b.instanceEntity t i
    let e' := b.instanceEntity t { i with vars := i.vars ++ [v] }
    (∀ role, hasRole v.tags role = false) ∧ e'.outline = e.outline ∧
    e'.components.map Component.name = ["ECFlight", "ECGlide"] ∧
    e'.param? 0 0 = some ⟨"Health", .word, "40", []⟩ ∧
    (∃ p, e'.param? 1 0 = some p ∧ p.value = "9") ∧
    e'.param? 2 0 = some ⟨"Speed", .byte, "5", []⟩ := by
  intro health flight glide t i v b e e'
  have hv : ∀ role, hasRole v.tags role = false := by
    have htag : Role.ofTag? "fast" = none := by decide +kernel
    intro role
    simp [hasRole, v, htag]
  obtain ⟨houtline, -, -, hparams⟩ := b.override_touches_own_parameters t i hv
  obtain ⟨p, p', hp, hp', -, -, -, hkept, -⟩ := hparams 0 0 health (by decide +kernel)
  obtain ⟨_, q', -, hq', -, -, -, -, htaken⟩ := hparams 1 0 flight (by decide +kernel)
  obtain ⟨r, r', hr, hr', -, -, -, hother, -⟩ := hparams 2 0 glide (by decide +kernel)
  cases (by decide +kernel : e.param? 0 0 = some ⟨"Health", .word, "40", []⟩).symm.trans hp
  cases (by decide +kernel : e.param? 2 0 = some ⟨"Speed", .byte, "5", []⟩).symm.trans hr
  refine ⟨hv, houtline, by decide +kernel, ?_, ⟨q', hq', ?_⟩, ?_⟩
  · rw [hp', hkept (by decide +kernel)]
  · exact (htaken (fun _ => rfl) rfl (by decide +kernel)).1 (by decide +kernel)
  · rw [hr', hother (by decide +kernel)]

end Export.Builder

end Cartridge
