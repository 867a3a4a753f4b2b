import Cartridge.Source.Definition
import Mathlib.Data.List.Forall2
import Mathlib.Data.List.Induction

/-!
Definitions over a history of loads. A source that is at fault leaves no trace. The
blocks of all others are told apart by kind and name, and the first of a name counts,
whether it was loaded before or after what refers to it. So the order of the loads
chooses between blocks of one name and decides nothing else:
`definitions_of_history`.
-/

namespace Cartridge.Source

open Cartridge.Text
open SourceSet (markRepeats)

/-! ### Histories -/

/-- What is loaded after a source was offered; one that is at fault is turned away. -/
def SourceSet.offer (s : SourceSet) (source : String) : SourceSet :=
  match s.load source with
  | .ok loaded => loaded
  | .error _ => s

/-- What is loaded after sources were offered in turn. -/
def SourceSet.ofHistory (sources : List String) : SourceSet :=
  sources.foldl SourceSet.offer .empty

/-- The blocks of a source; one that is at fault has none. -/
def blocksOf (source : String) : List Block :=
  (parse source).toOption.getD []

/-- The source is not at fault. -/
def isSound (source : String) : Bool :=
  (parse source).isOk

theorem offer_eq (s : SourceSet) (source : String) :
    s.offer source =
      ⟨s.blocks ++ blocksOf source, s.sources + if isSound source then 1 else 0⟩ := by
  rw [SourceSet.offer, SourceSet.load, blocksOf, isSound]
  cases parse source with
  | error fault =>
      show s = ⟨s.blocks ++ [], s.sources + 0⟩
      rw [List.append_nil, Nat.add_zero]
  | ok blocks => rfl

theorem foldl_offer (sources : List String) (s : SourceSet) :
    sources.foldl SourceSet.offer s =
      ⟨s.blocks ++ sources.flatMap blocksOf, s.sources + sources.countP isSound⟩ := by
  induction sources generalizing s with
  | nil => simp
  | cons source rest ih =>
      rw [List.foldl_cons, ih, offer_eq, List.flatMap_cons, List.append_assoc, List.countP_cons,
        Nat.add_assoc, Nat.add_comm (rest.countP isSound)]

/-- A history leaves the blocks of the sources that are not at fault, one source after
the other, and their number. -/
theorem ofHistory_eq (sources : List String) :
    SourceSet.ofHistory sources = ⟨sources.flatMap blocksOf, sources.countP isSound⟩ := by
  rw [SourceSet.ofHistory, foldl_offer]
  simp [SourceSet.empty]

/-! ### The first block of each name -/

/-- The second list has the blocks of the first that no block of their name stands
before, in the same order. -/
inductive FirstOfNames : List Block → List Block → Prop
  | none : FirstOfNames [] []
  | first {blocks firsts : List Block} {b : Block} (h : FirstOfNames blocks firsts)
      (hnew : ∀ a ∈ blocks, sameName a.name b.name = false) :
      FirstOfNames (blocks ++ [b]) (firsts ++ [b])
  | repeated {blocks firsts : List Block} {b : Block} (h : FirstOfNames blocks firsts)
      (hold : ∃ a ∈ blocks, sameName a.name b.name = true) :
      FirstOfNames (blocks ++ [b]) firsts

/-- The blocks that are not marked as repeats. -/
def unrepeated (blocks : List Block) : List Block :=
  (markRepeats [] blocks).filterMap fun (b, repeated) => if repeated then none else some b

theorem map_unrepeated {α : Type} (f : Block → α) (blocks : List Block) :
    (unrepeated blocks).map f = (markRepeats [] blocks).filterMap fun (b, repeated) =>
      if repeated then none else some (f b) := by
  rw [unrepeated, List.map_filterMap]
  refine List.filterMap_congr ?_
  rintro ⟨b, repeated⟩ -
  cases repeated <;> rfl

theorem markRepeats_concat (earlier : List String) (blocks : List Block) (b : Block) :
    markRepeats earlier (blocks ++ [b]) = markRepeats earlier blocks ++
      [(b, (blocks.any fun a => sameName a.name b.name) ||
        earlier.any fun name => sameName name b.name)] := by
  induction blocks generalizing earlier with
  | nil => simp [markRepeats]
  | cons a rest ih =>
      rw [List.cons_append, markRepeats, ih, markRepeats, List.cons_append, List.any_cons,
        List.any_cons, Bool.or_assoc, Bool.or_left_comm]

theorem firstOfNames_unrepeated (blocks : List Block) :
    FirstOfNames blocks (unrepeated blocks) := by
  induction blocks using List.reverseRecOn with
  | nil => exact .none
  | append_singleton blocks b ih =>
      have hlast : unrepeated (blocks ++ [b]) = unrepeated blocks ++
          if blocks.any fun a => sameName a.name b.name then [] else [b] := by
        rw [unrepeated, markRepeats_concat, List.filterMap_append, unrepeated]
        cases blocks.any fun a => sameName a.name b.name <;> simp
      rw [hlast]
      cases hany : blocks.any fun a => sameName a.name b.name with
      | true =>
          rw [if_pos rfl, List.append_nil]
          exact .repeated ih (List.any_eq_true.1 hany)
      | false =>
          rw [if_neg Bool.false_ne_true]
          refine .first ih fun a ha => ?_
          simpa using List.any_eq_false.1 hany a ha

namespace FirstOfNames

variable {blocks firsts : List Block}

theorem subset (h : FirstOfNames blocks firsts) : firsts ⊆ blocks := by
  induction h with
  | none => exact List.Subset.refl []
  | first _ _ ih =>
      rw [List.append_subset]
      exact ⟨List.subset_append_of_subset_left _ ih, List.subset_append_right _ _⟩
  | repeated _ _ ih => exact List.subset_append_of_subset_left _ ih

/-- No two of them share a name. -/
theorem differ (h : FirstOfNames blocks firsts) :
    firsts.Pairwise fun a b => sameName a.name b.name = false := by
  induction h with
  | none => exact .nil
  | first h hnew ih =>
      rw [List.pairwise_append]
      refine ⟨ih, List.pairwise_singleton _ _, ?_⟩
      rintro a ha b hb
      rw [List.mem_singleton.1 hb]
      exact hnew a (h.subset ha)
  | repeated _ _ ih => exact ih

/-- Every name has one of them. -/
theorem exists_of_mem (h : FirstOfNames blocks firsts) {b : Block} (hb : b ∈ blocks) :
    ∃ a ∈ firsts, sameName a.name b.name = true := by
  induction h generalizing b with
  | none => cases hb
  | @first _ _ last _ _ ih =>
      rcases List.mem_append.1 hb with hb | hb
      · obtain ⟨a, ha, hname⟩ := ih hb
        exact ⟨a, List.mem_append_left _ ha, hname⟩
      · rw [List.mem_singleton.1 hb]
        exact ⟨last, by simp, sameName_refl _⟩
  | repeated _ hold ih =>
      rcases List.mem_append.1 hb with hb | hb
      · exact ih hb
      · obtain ⟨a, ha, hname⟩ := hold
        obtain ⟨a', ha', hname'⟩ := ih ha
        rw [List.mem_singleton.1 hb]
        exact ⟨a', ha', sameName_trans hname' hname⟩

/-- If all names differ, all blocks are first. -/
theorem eq_of_differ (h : FirstOfNames blocks firsts)
    (hdiffer : blocks.Pairwise fun a b => sameName a.name b.name = false) : firsts = blocks := by
  induction h with
  | none => rfl
  | first _ _ ih =>
      rw [List.pairwise_append] at hdiffer
      rw [ih hdiffer.1]
  | repeated _ hold _ =>
      rw [List.pairwise_append] at hdiffer
      obtain ⟨a, ha, hname⟩ := hold
      rw [hdiffer.2.2 a ha _ (List.mem_singleton_self _)] at hname
      cases hname

end FirstOfNames

/-! ### What a block is resolved to -/

/-- The parameters are those of the first block of spawn data, of this kind and for this
owner; without such a block there are none. -/
def DeclaresSpawn (blocks : List Block) (kind : BlockKind) (owner : String)
    (params : List Param) : Prop :=
  (∃ before b after, blocks = before ++ b :: after ∧
      (b.kind = kind ∧ sameName b.name owner = true) ∧
      (∀ a ∈ before, ¬(a.kind = kind ∧ sameName a.name owner = true)) ∧ params = b.params) ∨
    ((∀ b ∈ blocks, ¬(b.kind = kind ∧ sameName b.name owner = true)) ∧ params = [])

/-- The component that a block defines among the blocks. -/
structure ComponentOf (blocks : List Block) (b : Block) (c : ComponentDef) : Prop where
  name : c.name = b.name
  params : c.params = b.params
  spawn : ∃ params, DeclaresSpawn blocks .componentSpawnData b.name params ∧
    c.spawn = { SpawnData.named b.name with params := params }

/-- A component block, loaded before or after, has the name. -/
def isComponentName (blocks : List Block) (name : String) : Bool :=
  blocks.any fun b => b.kind == .component && sameName b.name name

/-- The entity that a block defines among the blocks. Its components are those that it
names and that there are, in order and by the names they have in their definitions. -/
structure EntityOf (blocks : List Block) (components : List ComponentDef) (b : Block)
    (e : EntityDef) : Prop where
  name : e.name = b.name
  isStatic : e.isStatic = true ↔ b.kind = .staticEntity
  params : e.params = b.params
  components : List.Forall₂
    (fun named name => sameName named name = true ∧ ∃ c ∈ components, c.name = name)
    (b.components.filter (isComponentName blocks)) e.components
  spawn : ∃ params, DeclaresSpawn blocks .entitySpawnData b.name params ∧
    e.spawn = { SpawnData.named b.name with params := params }

/-- The kinds of blocks that entities are defined by. -/
def BlockKind.ofEntity : BlockKind → Bool
  | .entity | .staticEntity => true
  | _ => false

/-- The definitions are those of the first block of each name, one for each, and no two
of them share a name. -/
structure Resolves (blocks : List Block) (d : Definitions) : Prop where
  components : ∃ firsts, FirstOfNames (blocks.filter fun b => b.kind = .component) firsts ∧
    List.Forall₂ (ComponentOf blocks) firsts d.components
  entities : ∃ firsts, FirstOfNames (blocks.filter fun b => b.kind.ofEntity) firsts ∧
    List.Forall₂ (EntityOf blocks d.components) firsts d.entities
  components_differ : d.components.Pairwise fun a b => sameName a.name b.name = false
  entities_differ : d.entities.Pairwise fun a b => sameName a.name b.name = false

section

variable (s : SourceSet)

theorem spawnOf_eq (kind : BlockKind) (owner : String) :
    ∃ params, DeclaresSpawn s.blocks kind owner params ∧
      s.spawnOf kind owner = { SpawnData.named owner with params := params } := by
  rw [SourceSet.spawnOf]
  cases hfind : s.blocks.find? fun b => b.kind == kind && sameName b.name owner with
  | none => exact ⟨[], .inr ⟨by simpa using hfind, rfl⟩, rfl⟩
  | some b =>
      obtain ⟨hb, before, after, hblocks, hbefore⟩ := List.find?_eq_some_iff_append.1 hfind
      refine ⟨b.params, .inl ⟨before, b, after, hblocks, by simpa using hb, ?_, rfl⟩, rfl⟩
      intro a ha
      have hother := hbefore a ha
      simp only [Bool.not_eq_true', Bool.and_eq_false_iff, beq_eq_false_iff_ne] at hother
      rintro ⟨hkind, hname⟩
      rcases hother with hother | hother
      · exact hother hkind
      · rw [hname] at hother
        cases hother

theorem componentOf_componentDef (b : Block) : ComponentOf s.blocks b (s.componentDef b) :=
  ⟨rfl, rfl, spawnOf_eq s .componentSpawnData b.name⟩

theorem componentBlocks_eq :
    (s.blocks.filter fun b => b.kind == .component) =
      s.blocks.filter fun b => b.kind = .component := by
  congr 1

theorem entityBlocks_eq :
    (s.blocks.filter fun b => b.kind == .entity || b.kind == .staticEntity) =
      s.blocks.filter fun b => b.kind.ofEntity := by
  congr 1
  funext b
  cases b.kind <;> rfl

theorem componentDefs_eq :
    s.componentDefs =
      (unrepeated (s.blocks.filter fun b => b.kind = .component)).map s.componentDef := by
  rw [SourceSet.componentDefs, SourceSet.componentBlocks, componentBlocks_eq, map_unrepeated]

theorem entities_eq :
    s.definitions.entities =
      (unrepeated (s.blocks.filter fun b => b.kind.ofEntity)).map s.entityDef := by
  rw [SourceSet.definitions, SourceSet.entityBlocks, entityBlocks_eq, map_unrepeated]

/-- A name is found among the components exactly if a component block has it. -/
theorem isSome_componentName? (name : String) :
    (s.componentName? name).isSome = isComponentName s.blocks name := by
  have hfirsts := firstOfNames_unrepeated (s.blocks.filter fun b => b.kind = .component)
  rw [Bool.eq_iff_iff, SourceSet.componentName?, Option.isSome_map, List.find?_isSome,
    isComponentName, List.any_eq_true, componentDefs_eq]
  constructor
  · rintro ⟨c, hc, hname⟩
    obtain ⟨b, hb, rfl⟩ := List.mem_map.1 hc
    obtain ⟨hblock, hkind⟩ := List.mem_filter.1 (hfirsts.subset hb)
    exact ⟨b, hblock, by simpa using ⟨by simpa using hkind, hname⟩⟩
  · rintro ⟨b, hb, hname⟩
    rw [Bool.and_eq_true, beq_iff_eq] at hname
    obtain ⟨a, ha, hsame⟩ :=
      hfirsts.exists_of_mem (List.mem_filter.2 ⟨hb, by simpa using hname.1⟩)
    exact ⟨s.componentDef a, List.mem_map_of_mem ha, sameName_trans hsame hname.2⟩

theorem forall₂_filterMap {α β : Type} (f : α → Option β) (l : List α) :
    List.Forall₂ (fun a b => f a = some b) (l.filter fun a => (f a).isSome) (l.filterMap f) := by
  induction l with
  | nil => exact .nil
  | cons a l ih =>
      cases hfa : f a with
      | none => simpa [hfa] using ih
      | some b => simpa [hfa] using ih

theorem entityOf_entityDef (b : Block) :
    EntityOf s.blocks s.componentDefs b (s.entityDef b) where
  name := rfl
  isStatic := by simp [SourceSet.entityDef]
  params := rfl
  components := by
    have hfound := forall₂_filterMap s.componentName? b.components
    rw [funext (isSome_componentName? s)] at hfound
    refine List.Forall₂.imp (fun named name hname => ?_) hfound
    obtain ⟨c, hfind, rfl⟩ := Option.map_eq_some_iff.1 hname
    have hsame := List.find?_some hfind
    refine ⟨?_, c, List.mem_of_find?_eq_some hfind, rfl⟩
    rw [sameName_comm]
    exact hsame
  spawn := spawnOf_eq s .entitySpawnData b.name

theorem resolves_definitions : Resolves s.blocks s.definitions where
  components := by
    refine ⟨_, firstOfNames_unrepeated _, ?_⟩
    show List.Forall₂ _ _ s.componentDefs
    rw [componentDefs_eq, List.forall₂_map_right_iff, List.forall₂_same]
    exact fun b _ => componentOf_componentDef s b
  entities := by
    refine ⟨_, firstOfNames_unrepeated _, ?_⟩
    rw [entities_eq, List.forall₂_map_right_iff, List.forall₂_same]
    exact fun b _ => entityOf_entityDef s b
  components_differ := by
    show s.componentDefs.Pairwise _
    rw [componentDefs_eq, List.pairwise_map]
    exact (firstOfNames_unrepeated _).differ
  entities_differ := by
    rw [entities_eq, List.pairwise_map]
    exact (firstOfNames_unrepeated _).differ

end

/-! ### Other orders of the loads -/

/-- Blocks of these two kinds must not share a name: entities of both kinds have one
namespace, and each of the other kinds has its own. -/
def BlockKind.sharesNames (a b : BlockKind) : Bool :=
  a == b || (a.ofEntity && b.ofEntity)

/-- The blocks do not share a name in one namespace. -/
def NamesApart (a b : Block) : Prop :=
  a.kind.sharesNames b.kind = true → sameName a.name b.name = false

instance : DecidableRel NamesApart := fun a b =>
  inferInstanceAs (Decidable (a.kind.sharesNames b.kind = true → sameName a.name b.name = false))

theorem NamesApart.symm {a b : Block} (h : NamesApart a b) : NamesApart b a := by
  have hcomm : ∀ kind kind' : BlockKind, kind.sharesNames kind' = kind'.sharesNames kind := by
    intro kind kind'
    cases kind <;> cases kind' <;> rfl
  intro hkinds
  rw [sameName_comm]
  exact h (hcomm b.kind a.kind ▸ hkinds)

/-- A search comes to the same in any order of a list that has at most one element to
find. -/
theorem find?_perm {α : Type} {p : α → Bool} {l l' : List α} (h : l.Perm l')
    (hone : l.Pairwise fun a b => ¬(p a = true ∧ p b = true)) : l.find? p = l'.find? p := by
  induction h with
  | nil => rfl
  | cons a _ ih =>
      rw [List.find?_cons, List.find?_cons, ih hone.tail]
  | swap a b l =>
      have hab := (List.pairwise_cons.1 hone).1 a List.mem_cons_self
      simp only [List.find?_cons]
      cases ha : p a <;> cases hb : p b <;> simp_all
  | trans hperm _ ih ih' =>
      rw [ih hone, ih' (hone.perm hperm fun hne => fun hboth => hne hboth.symm)]

theorem unrepeated_of_apart {blocks : List Block} (hapart : blocks.Pairwise NamesApart)
    {p : Block → Bool}
    (hkinds : ∀ a b, p a = true → p b = true → a.kind.sharesNames b.kind = true) :
    unrepeated (blocks.filter p) = blocks.filter p := by
  refine (firstOfNames_unrepeated _).eq_of_differ ?_
  rw [List.pairwise_filter]
  exact hapart.imp fun {a b} hab ha hb => hab (hkinds a b ha hb)

section

variable {s s' : SourceSet} (hperm : s.blocks.Perm s'.blocks)
  (hapart : s.blocks.Pairwise NamesApart)

include hperm hapart

/-- The same blocks count in any order of the loads. -/
theorem unrepeated_perm {p : Block → Bool}
    (hkinds : ∀ a b, p a = true → p b = true → a.kind.sharesNames b.kind = true) :
    (unrepeated (s.blocks.filter p)).Perm (unrepeated (s'.blocks.filter p)) := by
  rw [unrepeated_of_apart hapart hkinds,
    unrepeated_of_apart (hapart.perm hperm NamesApart.symm) hkinds]
  exact hperm.filter p

theorem spawnOf_perm (kind : BlockKind) (owner : String) :
    s.spawnOf kind owner = s'.spawnOf kind owner := by
  have hone : s.blocks.Pairwise fun a b =>
      ¬((a.kind == kind && sameName a.name owner) = true ∧
        (b.kind == kind && sameName b.name owner) = true) := by
    refine hapart.imp fun {a b} hab => ?_
    simp only [Bool.and_eq_true, beq_iff_eq]
    rintro ⟨⟨rfl, ha⟩, hkind, hb⟩
    have hdiffer := hab (by simp [BlockKind.sharesNames, hkind])
    rw [sameName_comm] at hb
    rw [sameName_trans ha hb] at hdiffer
    cases hdiffer
  rw [SourceSet.spawnOf, SourceSet.spawnOf, find?_perm hperm hone]

theorem componentDefs_perm : s.componentDefs.Perm s'.componentDefs := by
  have hdef : s.componentDef = s'.componentDef := by
    funext b
    rw [SourceSet.componentDef, SourceSet.componentDef, spawnOf_perm hperm hapart]
  have hkinds : ∀ a b : Block, decide (a.kind = .component) = true →
      decide (b.kind = .component) = true → a.kind.sharesNames b.kind = true := by
    intro a b ha hb
    rw [of_decide_eq_true ha, of_decide_eq_true hb]
    rfl
  rw [componentDefs_eq, componentDefs_eq, hdef]
  exact (unrepeated_perm hperm hapart hkinds).map _

theorem componentName?_perm (name : String) : s.componentName? name = s'.componentName? name := by
  have hone : s.componentDefs.Pairwise fun a b =>
      ¬(sameName a.name name = true ∧ sameName b.name name = true) := by
    refine (resolves_definitions s).components_differ.imp fun {a b} hab => ?_
    rintro ⟨ha, hb⟩
    rw [sameName_comm] at hb
    rw [sameName_trans ha hb] at hab
    cases hab
  rw [SourceSet.componentName?, SourceSet.componentName?,
    find?_perm (componentDefs_perm hperm hapart) hone]

theorem entities_perm : s.definitions.entities.Perm s'.definitions.entities := by
  have hdef : s.entityDef = s'.entityDef := by
    funext b
    rw [SourceSet.entityDef, SourceSet.entityDef, spawnOf_perm hperm hapart,
      funext (componentName?_perm hperm hapart)]
  have hkinds : ∀ a b : Block, a.kind.ofEntity = true → b.kind.ofEntity = true →
      a.kind.sharesNames b.kind = true := by
    intro a b ha hb
    rw [BlockKind.sharesNames, ha, hb]
    simp
  rw [entities_eq, entities_eq, hdef]
  exact (unrepeated_perm hperm hapart hkinds).map _

end

/-- Sources that are at fault leave the history as it is, and all others add their
blocks. These blocks, wherever they come from, are resolved to one definition for each
name, that of its first block. If no two blocks share a name in one namespace then every
other order of the loads gives the same definitions. -/
theorem definitions_of_history (sources : List String) :
    (∀ source fault, (SourceSet.ofHistory sources).load source = .error fault →
      SourceSet.ofHistory (sources ++ [source]) = SourceSet.ofHistory sources) ∧
    SourceSet.ofHistory sources = ⟨sources.flatMap blocksOf, sources.countP isSound⟩ ∧
    Resolves (SourceSet.ofHistory sources).blocks (SourceSet.ofHistory sources).resolve.value ∧
    ((SourceSet.ofHistory sources).blocks.Pairwise NamesApart → ∀ order, order.Perm sources →
      (SourceSet.ofHistory order).resolve.value.components.Perm
        (SourceSet.ofHistory sources).resolve.value.components ∧
      (SourceSet.ofHistory order).resolve.value.entities.Perm
        (SourceSet.ofHistory sources).resolve.value.entities) := by
  refine ⟨fun source fault hfault => ?_, ofHistory_eq sources, resolves_definitions _,
    fun hapart order horder => ?_⟩
  · rw [SourceSet.ofHistory, List.foldl_append, List.foldl_cons, List.foldl_nil]
    show (SourceSet.ofHistory sources).offer source = SourceSet.ofHistory sources
    rw [SourceSet.offer, hfault]
  · have hblocks :
        (SourceSet.ofHistory sources).blocks.Perm (SourceSet.ofHistory order).blocks := by
      rw [ofHistory_eq order, ofHistory_eq sources]
      exact (horder.flatMap_right blocksOf).symm
    exact ⟨(componentDefs_perm hblocks hapart).symm, (entities_perm hblocks hapart).symm⟩

/-- A player whose sprite and spawn data are declared in another source, spelled
differently, is the same whichever source comes first. -/
theorem player_defined_in_any_order :
    let player := "ENTITY_BEGIN EPlayer\nENT_COMPONENT ecsprite\nENTITY_END\n"
    let sprite := "ENTITY_COMPONENT_BEGIN ECSprite\nENTITY_COMPONENT_END\n" ++
      "ENTITY_SPAWN_DATA_BEGIN eplayer\nHealth rs.w 1\nENTITY_SPAWN_DATA_END\n"
    SourceSet.ofHistory ([player, sprite] ++ ["ENTITY_BEGIN EBroken\n"]) =
        SourceSet.ofHistory [player, sprite] ∧
      (SourceSet.ofHistory [player, sprite]).blocks.Pairwise NamesApart ∧
      (SourceSet.ofHistory [sprite, player]).resolve.value.entities.Perm
        (SourceSet.ofHistory [player, sprite]).resolve.value.entities ∧
      (SourceSet.ofHistory [player, sprite]).resolve.value.entities =
        [⟨"EPlayer", false, [], ["ECSprite"],
          { SpawnData.named "EPlayer" with params := [⟨"Health", .word, "0", []⟩] }⟩] := by
  intro player sprite
  have hapart : (SourceSet.ofHistory [player, sprite]).blocks.Pairwise NamesApart := by
    decide +kernel
  obtain ⟨hfault, -, -, horders⟩ := definitions_of_history [player, sprite]
  exact ⟨hfault "ENTITY_BEGIN EBroken\n" ⟨1, 1, .unclosedBlock .entity "EBroken"⟩ rfl, hapart,
    (horders hapart [sprite, player] (List.Perm.swap _ _ _)).2, by decide +kernel⟩

end Cartridge.Source
