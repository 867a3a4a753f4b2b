import Cartridge.Export.Build
import Cartridge.Proofs.Addresses.Map
import Cartridge.Proofs.Build.Grouping
import Cartridge.Proofs.Numeral
import Cartridge.Script.Dump
import Mathlib.Data.List.Pairwise

/-!
Addresses on their way from a dump to the parameters that ask for them. The
addresses are collected for the entities of all types, under the names that
their routines and the tags of their parameters give; a declaration is resolved
by the tags that its parameter will have, so it asks for a name under which an
address was collected.
-/

namespace Cartridge

open Cartridge.Text (sameName)

namespace EntityType

/-- The names of the routines of the entity itself. -/
def routineNames (t : EntityType) : List String :=
  (t.routines.filter fun r => r.slot < 0).map RoutineDecl.name

/-- The script globals that variables of the type refer to. -/
def globalNames (t : EntityType) : List String :=
  t.vars.filterMap fun v => findPayload? v.tags globalKey

/-- Routines that are spelled alike are one, and so are globals; and none of the
routines is spelled like a global. -/
structure DistinctScripts (t : EntityType) : Prop where
  routines : ∀ f ∈ t.routineNames, ∀ g ∈ t.routineNames, sameName f g = true → f = g
  globals : ∀ f ∈ t.globalNames, ∀ g ∈ t.globalNames, sameName f g = true → f = g
  apart : ∀ f ∈ t.routineNames, ∀ g ∈ t.globalNames, sameName f g = false

instance (t : EntityType) : Decidable t.DistinctScripts :=
  decidable_of_iff
    ((∀ f ∈ t.routineNames, ∀ g ∈ t.routineNames, sameName f g = true → f = g) ∧
      (∀ f ∈ t.globalNames, ∀ g ∈ t.globalNames, sameName f g = true → f = g) ∧
      ∀ f ∈ t.routineNames, ∀ g ∈ t.globalNames, sameName f g = false)
    ⟨fun ⟨routines, globals, apart⟩ => ⟨routines, globals, apart⟩,
      fun ⟨routines, globals, apart⟩ => ⟨routines, globals, apart⟩⟩

end EntityType

namespace Export.Context

/-- The parameters of an entity, its components included, are what the variables
of its type resolve to. -/
theorem mem_params_entity {c : Context} {id : UInt16} {name : String} {position : Point}
    {dimensions : Dimensions} {p : Param} :
    p ∈ (c.entity id name position dimensions).blocks.flatMap SpawnData.params ↔
      ∃ v ∈ c.type.vars, c.resolve v = p := by
  rw [Entity.blocks, List.flatMap_cons, List.flatMap_map,
    (c.groups_entity id name position dimensions).complete.mem_iff, List.mem_map]

end Export.Context

namespace Script.Dump

/-! ### What is placed for a type -/

section

variable {dump : String} {entities : List Entity}

theorem firstOfTypes_of_nodup {seen : List String} (h : (entities.map Entity.typeName).Nodup)
    (hseen : ∀ e ∈ entities, e.typeName ∉ seen) : firstOfTypes seen entities = entities := by
  induction entities generalizing seen with
  | nil => rfl
  | cons e rest ih =>
      rw [List.map_cons, List.nodup_cons] at h
      rw [List.forall_mem_cons] at hseen
      rw [firstOfTypes, if_neg (by simpa using hseen.1)]
      refine congrArg _ (ih h.2 fun e' he' hmem => ?_)
      rcases List.mem_cons.1 hmem with hname | hmem
      · exact h.1 (hname ▸ List.mem_map_of_mem he')
      · exact hseen.2 e' he' hmem

/-- Place what the dump has for entities in turn. -/
def placeEntities (dump : String) (m : AddressMap) (entities : List Entity) : AddressMap :=
  entities.foldl (fun m e => m.place e.typeName (placements dump e)) m

theorem placementsOf_placeEntities {m : AddressMap} (h : m.Ascending) (type : String) :
    (placeEntities dump m entities).placementsOf type = m.placementsOf type ++
      entities.flatMap fun e => if e.typeName = type then placements dump e else [] := by
  induction entities generalizing m with
  | nil => simp [placeEntities]
  | cons e rest ih =>
      have hrest := ih (AddressMap.ascending_place h e.typeName (placements dump e))
      rw [AddressMap.placementsOf_place h, List.append_assoc] at hrest
      exact hrest

theorem mem_keys_placeEntities {m : AddressMap} {key : String}
    (hkey : key ∈ (placeEntities dump m entities).types.map Prod.fst) :
    key ∈ entities.map Entity.typeName ∨ key ∈ m.types.map Prod.fst := by
  induction entities generalizing m with
  | nil => exact .inr hkey
  | cons e rest ih =>
      rcases ih hkey with hkey | hkey
      · exact .inl (List.mem_cons_of_mem _ hkey)
      · rcases AddressMap.mem_keys_place hkey with rfl | hkey
        · exact .inl List.mem_cons_self
        · exact .inr hkey

theorem placementsOf_of_nodup (h : (entities.map Entity.typeName).Nodup) {e : Entity}
    (he : e ∈ entities) :
    (placeEntities dump .empty entities).placementsOf e.typeName = placements dump e := by
  have hothers : ∀ others : List Entity, (∀ a ∈ others, a.typeName ≠ e.typeName) →
      (others.flatMap fun a => if a.typeName = e.typeName then placements dump a else []) = [] :=
    fun others hne => List.flatMap_eq_nil_iff.2 fun a ha => if_neg (hne a ha)
  obtain ⟨before, after, rfl⟩ := List.append_of_mem he
  rw [List.map_append, List.map_cons, List.nodup_append, List.nodup_cons] at h
  obtain ⟨-, ⟨hafter, -⟩, hbefore⟩ := h
  rw [placementsOf_placeEntities AddressMap.ascending_empty, List.flatMap_append,
    List.flatMap_cons, hothers before, hothers after, if_pos rfl, List.append_nil]
  · rfl
  · exact fun a ha heq => hafter (heq ▸ List.mem_map_of_mem ha)
  · exact fun a ha => hbefore _ (List.mem_map_of_mem ha) _ List.mem_cons_self

/-- If no two types are spelled alike, a lookup for a type sees what the dump has
for its entity. -/
theorem find?_addresses
    (hnames : entities.Pairwise fun a b => sameName a.typeName b.typeName = false) {e : Entity}
    (he : e ∈ entities) (name : String) :
    (addresses dump entities).find? e.typeName name =
      ((placements dump e).find? fun p => sameName p.name name).map Placement.address := by
  have hnodup : (entities.map Entity.typeName).Nodup := by
    rw [List.nodup_iff_pairwise_ne, List.pairwise_map]
    refine hnames.imp fun hab heq => ?_
    rw [heq, Text.sameName_refl] at hab
    cases hab
  have hsymm : Std.Symm fun a b : Entity => sameName a.typeName b.typeName = false :=
    ⟨fun a b hab => by rwa [Text.sameName_comm]⟩
  have haddresses : addresses dump entities = placeEntities dump .empty entities := by
    rw [addresses, firstOfTypes_of_nodup hnodup (by simp)]
    rfl
  rw [haddresses, AddressMap.find?_eq_of_keys ?_ name, placementsOf_of_nodup hnodup he]
  intro key hkey hsame
  rcases mem_keys_placeEntities hkey with hkey | hkey
  · obtain ⟨a, ha, rfl⟩ := List.mem_map.1 hkey
    by_contra hne
    rw [hnames.forall ha he fun heq => hne (heq ▸ rfl)] at hsame
    cases hsame
  · cases hkey

end

/-! ### Routines and globals of a type -/

/-- A search comes to a value if all that it accepts has that value, and if it
accepts something whenever there is a value. -/
theorem find?_map_eq {α β : Type} {ps : List α} {test : α → Bool} {g : α → β} {value? : Option β}
    (hvalue : ∀ p ∈ ps, test p = true → value? = some (g p))
    (hfound : ∀ b, value? = some b → ∃ p ∈ ps, test p = true) :
    (ps.find? test).map g = value? := by
  cases hfind : ps.find? test with
  | some p => exact (hvalue p (List.mem_of_find?_eq_some hfind) (List.find?_some hfind)).symm
  | none =>
      cases hvalue? : value? with
      | none => rfl
      | some b =>
          obtain ⟨p, hp, htest⟩ := hfound b hvalue?
          rw [List.find?_eq_none] at hfind
          exact absurd htest (hfind p hp)

section

variable {dump : String} {b : Export.Builder} {t : EntityType}

theorem mem_globals_typeEntity {g : String} :
    g ∈ globals (b.typeEntity t) ↔ g ∈ t.globalNames := by
  rw [globals, List.mem_filterMap, EntityType.globalNames, List.mem_filterMap]
  constructor
  · rintro ⟨p, hp, hg⟩
    obtain ⟨v, hv, rfl⟩ := Export.Context.mem_params_entity.1 hp
    exact ⟨v, hv, hg⟩
  · rintro ⟨v, hv, hg⟩
    exact ⟨_, Export.Context.mem_params_entity.2 ⟨v, hv, rfl⟩, hg⟩

/-- What is placed for a type: its own routines and the globals that its variables
refer to, as far as the dump has them. -/
theorem mem_placements_typeEntity {p : Placement} :
    p ∈ placements dump (b.typeEntity t) ↔
      (p.name ∈ t.routineNames ∧ routineAddress? dump t.name p.name = some p.address) ∨
        (p.name ∈ t.globalNames ∧ globalAddress? dump p.name = some p.address) := by
  obtain ⟨name, address⟩ := p
  have howned : (b.typeEntity t).routines = _ := ((b.context t).attaches_entity ..).own_eq
  rw [placements, List.mem_append, List.mem_filterMap, List.mem_filterMap, howned]
  refine or_congr ?_ ?_
  · simp only [EntityType.routineNames, List.mem_map]
    constructor
    · rintro ⟨_, ⟨r, hr, rfl⟩, hplaced⟩
      obtain ⟨a, ha, hp⟩ := Option.map_eq_some_iff.1 hplaced
      cases hp
      exact ⟨⟨r, hr, rfl⟩, ha⟩
    · rintro ⟨⟨r, hr, rfl⟩, ha⟩
      refine ⟨_, ⟨r, hr, rfl⟩, ?_⟩
      exact Option.map_eq_some_iff.2 ⟨address, ha, rfl⟩
  · constructor
    · rintro ⟨g, hg, hplaced⟩
      obtain ⟨a, ha, hp⟩ := Option.map_eq_some_iff.1 hplaced
      cases hp
      exact ⟨mem_globals_typeEntity.1 hg, ha⟩
    · rintro ⟨hg, ha⟩
      exact ⟨name, mem_globals_typeEntity.2 hg, by rw [ha, Option.map_some]⟩

theorem find?_placements_routine (ht : t.DistinctScripts) {f : String}
    (hf : f ∈ t.routineNames) :
    ((placements dump (b.typeEntity t)).find? fun p => sameName p.name f).map Placement.address =
      routineAddress? dump t.name f := by
  refine find?_map_eq (fun p hp hsame => ?_) fun a ha => ?_
  · rcases mem_placements_typeEntity.1 hp with ⟨hname, haddress⟩ | ⟨hname, -⟩
    · rw [← ht.routines _ hname _ hf hsame, haddress]
    · rw [Text.sameName_comm, ht.apart _ hf _ hname] at hsame
      cases hsame
  · exact ⟨⟨f, a⟩, mem_placements_typeEntity.2 (.inl ⟨hf, ha⟩), Text.sameName_refl f⟩

theorem find?_placements_global (ht : t.DistinctScripts) {g : String}
    (hg : g ∈ t.globalNames) :
    ((placements dump (b.typeEntity t)).find? fun p => sameName p.name g).map Placement.address =
      globalAddress? dump g := by
  refine find?_map_eq (fun p hp hsame => ?_) fun a ha => ?_
  · rcases mem_placements_typeEntity.1 hp with ⟨hname, -⟩ | ⟨hname, haddress⟩
    · rw [ht.apart _ hname _ hg] at hsame
      cases hsame
    · rw [← ht.globals _ hname _ hg hsame, haddress]
  · exact ⟨⟨g, a⟩, mem_placements_typeEntity.2 (.inr ⟨hg, ha⟩), Text.sameName_refl g⟩

end

end Script.Dump

/-! ### References -/

namespace Export

open Script.Dump (addresses routineAddress? globalAddress?)

/-- The text of a parameter that holds an address: a marked numeral of four or more
upper-case digits, or zero for want of an address. -/
def IsAddressText : Option UInt32 → String → Prop
  | some address, text => Text.IsPaddedHex 4 address.toNat text
  | none, text => text = "0"

namespace Context

theorem isAddressText_scriptAddress (c : Context) (target : String) :
    IsAddressText (c.addresses.find? c.type.name target) (c.scriptAddress target) := by
  rw [scriptAddress]
  cases c.addresses.find? c.type.name target with
  | none => rfl
  | some address => exact Text.isPaddedHex_paddedHex (by decide) address.toNat

/-- A declaration without a role resolves to the address that its tags ask for. -/
theorem resolvedValue_of_target {c : Context} {decl : Variable} {target : String}
    (hrole : ∀ role, hasRole decl.tags role = false) (htarget : scriptTarget? decl = some target) :
    c.resolvedValue decl = c.scriptAddress target := by
  have hnone : decidingRole? decl.tags = none :=
    List.find?_eq_none.2 fun role _ => by rw [hrole role]; exact Bool.false_ne_true
  rw [resolvedValue, hnone]
  simp only [htarget]

end Context

/-- The addresses that are collected for the entities of all types reach the
declarations that ask for them. A declaration whose tag names a routine of its
type gets the address of that routine, and one that refers to a global alone gets
that of the global, whatever the levels of overrides say. -/
theorem script_reference_resolves (b : Builder) (dump : String)
    (htypes : b.project.types.Pairwise fun s t => sameName s.name t.name = false)
    {c : Context} (htype : c.type ∈ b.project.types)
    (haddresses : c.addresses = addresses dump b.types.value) (hscripts : c.type.DistinctScripts)
    {decl : Variable} (hdecl : decl ∈ c.type.vars)
    (hrole : ∀ role, hasRole decl.tags role = false) :
    (∀ f ∈ c.type.routineNames, findPayload? decl.tags routineKey = some f →
      IsAddressText (routineAddress? dump c.type.name f) (c.resolve decl).value) ∧
    ∀ g, findPayload? decl.tags routineKey = none → findPayload? decl.tags globalKey = some g →
      IsAddressText (globalAddress? dump g) (c.resolve decl).value := by
  have hnames : b.types.value.Pairwise fun s t => sameName s.typeName t.typeName = false :=
    List.pairwise_map.2 htypes
  have hentity : b.typeEntity c.type ∈ b.types.value := List.mem_map_of_mem htype
  have hlookup : ∀ target, c.addresses.find? c.type.name target =
      ((Script.Dump.placements dump (b.typeEntity c.type)).find? fun p =>
        sameName p.name target).map Placement.address := by
    intro target
    rw [haddresses]
    exact Script.Dump.find?_addresses hnames hentity target
  constructor
  · intro f hf htag
    have htarget : Context.scriptTarget? decl = some f := by
      rw [Context.scriptTarget?, htag, Option.some_or]
    have htext := c.isAddressText_scriptAddress f
    rw [hlookup, Script.Dump.find?_placements_routine hscripts hf] at htext
    rwa [Context.resolve, Context.resolvedValue_of_target hrole htarget]
  · intro g hnone htag
    have htarget : Context.scriptTarget? decl = some g := by
      rw [Context.scriptTarget?, hnone, htag, Option.none_or]
    have hg : g ∈ c.type.globalNames := List.mem_filterMap.2 ⟨decl, hdecl, htag⟩
    have htext := c.isAddressText_scriptAddress g
    rw [hlookup, Script.Dump.find?_placements_global hscripts hg] at htext
    rwa [Context.resolve, Context.resolvedValue_of_target hrole htarget]

/-! A torch with a routine, a parameter that holds its address, and a component with
one that holds the address of a global. -/

def flicker : Variable :=
  ⟨"SDFlicker", .long, "7", ["scriptfunc = OnFlicker"], -1, ""⟩

def score : Variable :=
  ⟨"SDScore_Total", .long, "7", ["SCRIPTGLOBAL=Score"], 0, "ECScore"⟩

def torchType : EntityType :=
  ⟨1, "ETorch", .zero, none, [flicker, score], [⟨"OnFlicker", "void", "ETorch_OnFlicker", [], -1⟩],
    none, [], false⟩

/-- The routine is in the dump and the global is not. -/
theorem torch_addresses_resolve :
    let dump := "0000001c g     F .text\t00000030 ETorch::OnFlicker(Scene const&)\n"
    let types := [{ torchType with name := "ELamp" }, torchType]
    let b : Builder := ⟨⟨types, [], [], []⟩, .empty, .default⟩
    let c := { b.context torchType with addresses := addresses dump b.types.value }
    (b.project.types.Pairwise (fun s t => sameName s.name t.name = false) ∧
      c.type ∈ b.project.types ∧ c.type.DistinctScripts ∧
      ∀ decl ∈ c.type.vars, ∀ role, hasRole decl.tags role = false) ∧
    Text.IsPaddedHex 4 0x1C (c.resolve flicker).value ∧ (c.resolve score).value = "0" := by
  intro dump types b c
  have htypes : b.project.types.Pairwise fun s t => sameName s.name t.name = false := by decide
  have htype : c.type ∈ b.project.types := List.mem_cons_of_mem _ List.mem_cons_self
  have hscripts : c.type.DistinctScripts := by decide +kernel
  have hroles : ∀ decl ∈ c.type.vars, ∀ role, hasRole decl.tags role = false := by
    have hall : ∀ decl ∈ c.type.vars, ∀ role ∈ Role.all, hasRole decl.tags role = false := by
      decide +kernel
    exact fun decl hdecl role => hall decl hdecl role (by cases role <;> decide)
  have hflicker : flicker ∈ c.type.vars := List.mem_cons_self
  have hscore : score ∈ c.type.vars := List.mem_cons_of_mem _ List.mem_cons_self
  have hroutine : routineAddress? dump c.type.name "OnFlicker" = some 0x1C := by decide +kernel
  have hglobal : globalAddress? dump "Score" = none := by decide +kernel
  refine ⟨⟨htypes, htype, hscripts, hroles⟩, ?_, ?_⟩
  · have htext := (script_reference_resolves b dump htypes htype rfl hscripts hflicker
      (hroles flicker hflicker)).1 "OnFlicker" (by decide) (by decide +kernel)
    rwa [hroutine] at htext
  · have htext := (script_reference_resolves b dump htypes htype rfl hscripts hscore
      (hroles score hscore)).2 "Score" (by decide +kernel) (by decide +kernel)
    rwa [hglobal] at htext

end Export

end Cartridge
