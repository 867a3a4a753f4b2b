import Cartridge.Project.Document
import Cartridge.Proofs.Json.Records
import Mathlib.Data.List.Nodup

/-!
Projects saved and loaded. Every part of a project is read from its document as it was
written, so a saved project is loaded as it was, unless two of its types have one id:
then the load fails with the first id that stands there for a second time.
-/

namespace Cartridge

open Json

/-! ### Documents of the parts -/

theorem Width.readsBack : ReadsBack Width.read Width.write := by
  refine ⟨fun w => ?_, fun w => ?_⟩
  · cases w <;> rfl
  · cases w <;> exact .string _

theorem Point.readsBack : ReadsBack Point.read Point.write := by
  have hpair := ReadsBack.int32.pair ReadsBack.int32
  refine ⟨fun p => ?_, fun p => hpair.whole (p.x, p.y)⟩
  rw [Point.read, Point.write, hpair.read (p.x, p.y)]
  rfl

theorem Dimensions.readsBack : ReadsBack Dimensions.read Dimensions.write := by
  have hpair := ReadsBack.uint32.pair ReadsBack.uint32
  refine ⟨fun d => ?_, fun d => hpair.whole (d.width, d.height)⟩
  rw [Dimensions.read, Dimensions.write, hpair.read (d.width, d.height)]
  rfl

theorem readsBack_optionalText : ReadsBack (Read.option Read.text) (.option .text) :=
  ReadsBack.text.option fun _ => nofun

theorem Variable.readsBack : ReadsBack Variable.read Variable.write :=
  .record (fun _ => by simp) fun v =>
    .field v.name .text rfl <| .field v.size Width.readsBack rfl <|
      .fieldOr v.value .text rfl <| .fieldOr v.tags (.list .text) rfl <|
      .fieldOr v.slot .int32 rfl <| .fieldOr v.componentName .text rfl <| .done v

theorem VariableTable.readsBack : ReadsBack VariableTable.read VariableTable.write :=
  Variable.readsBack.list

theorem RoutineDecl.readsBack : ReadsBack RoutineDecl.read RoutineDecl.write :=
  .record (fun _ => by simp) fun r =>
    .field r.name .text rfl <| .field r.returnType .text rfl <| .field r.label .text rfl <|
      .fieldOr r.params (.list (.pair .text .text)) rfl <| .fieldOr r.slot .int32 rfl <| .done r

theorem PrefabChild.readsBack : ReadsBack PrefabChild.read PrefabChild.write :=
  .record (fun _ => by simp) fun c =>
    .field c.instanceId .uint16 rfl <| .field c.name .text rfl <| .field c.typeId .uint32 rfl <|
      .fieldOr c.position Point.readsBack rfl <|
      .fieldOr c.spriteActor readsBack_optionalText rfl <|
      .fieldOr c.vars VariableTable.readsBack rfl <| .done c

theorem EntityType.readsBack : ReadsBack EntityType.read EntityType.write :=
  .record (fun _ => by simp) fun t =>
    .field t.id .uint32 rfl <| .field t.name .text rfl <|
      .fieldOr t.dimensions Dimensions.readsBack rfl <|
      .fieldOr t.spriteActor readsBack_optionalText rfl <|
      .fieldOr t.vars VariableTable.readsBack rfl <|
      .fieldOr t.routines RoutineDecl.readsBack.list rfl <|
      .fieldOr t.prefabName readsBack_optionalText rfl <|
      .fieldOr t.prefabChildren PrefabChild.readsBack.list rfl <|
      .fieldOr t.isStatic .bool rfl <| .done t

theorem ArchetypeDef.readsBack : ReadsBack ArchetypeDef.read ArchetypeDef.write :=
  .record (fun _ => by simp) fun a =>
    .field a.name .text rfl <| .field a.typeId .uint32 rfl <|
      .fieldOr a.spriteActor readsBack_optionalText rfl <|
      .fieldOr a.vars VariableTable.readsBack rfl <| .done a

theorem Instance.readsBack : ReadsBack Instance.read Instance.write :=
  .record (fun _ => by simp) fun i =>
    .field i.id .uint32 rfl <| .fieldOr i.name .text rfl <| .field i.typeId .uint32 rfl <|
      .fieldOr i.position Point.readsBack rfl <|
      .fieldOr i.dimensions Dimensions.readsBack rfl <|
      .fieldOr i.spriteActor readsBack_optionalText rfl <|
      .fieldOr i.vars VariableTable.readsBack rfl <| .done i

theorem Scene.readsBack : ReadsBack Scene.read Scene.write :=
  .record (fun _ => by simp) fun s =>
    .field s.name .text rfl <| .fieldOr s.instances Instance.readsBack.list rfl <| .done s

theorem SpriteAnimation.readsBack : ReadsBack SpriteAnimation.read SpriteAnimation.write :=
  .record (fun _ => by simp) fun a => .field a.name .text rfl <| .done a

theorem SpriteSheet.readsBack : ReadsBack SpriteSheet.read SpriteSheet.write :=
  .record (fun _ => by simp) fun s =>
    .field s.name .text rfl <| .fieldOr s.animations SpriteAnimation.readsBack.list rfl <| .done s

theorem Actor.readsBack : ReadsBack Actor.read Actor.write :=
  .record (fun _ => by simp) fun a =>
    .field a.name .text rfl <| .fieldOr a.sheets SpriteSheet.readsBack.list rfl <| .done a

theorem Project.readsBack : ReadsBack Project.read Project.write :=
  .record (fun _ => by simp) fun p =>
    .fieldOr p.types EntityType.readsBack.list rfl <|
      .fieldOr p.archetypes ArchetypeDef.readsBack.list rfl <|
      .fieldOr p.actors Actor.readsBack.list rfl <|
      .fieldOr p.scenes Scene.readsBack.list rfl <| .done p

/-! ### Ids -/

/-- What is answered is the first id that stands in the list once more, or among those
that were seen before. -/
theorem firstRepeated?_eq_some_iff {seen ids : List UInt32} {id : UInt32} :
    firstRepeated? seen ids = some id ↔ ∃ before after, ids = before ++ id :: after ∧
      (before.Nodup ∧ ∀ i ∈ before, i ∉ seen) ∧ (id ∈ before ∨ id ∈ seen) := by
  induction ids generalizing seen with
  | nil => simp [firstRepeated?]
  | cons first rest ih =>
      rw [firstRepeated?]
      by_cases hseen : first ∈ seen
      · rw [if_pos (List.contains_iff_mem.2 hseen), Option.some.injEq]
        constructor
        · rintro rfl
          exact ⟨[], rest, rfl, by simp, .inr hseen⟩
        · rintro ⟨_ | ⟨i, before⟩, after, heq, ⟨-, hunseen⟩, -⟩
          · exact (List.cons.inj heq).1
          · exact absurd ((List.cons.inj heq).1 ▸ hseen) (hunseen i List.mem_cons_self)
      · rw [if_neg (by simpa using hseen), ih]
        constructor
        · rintro ⟨before, after, rfl, ⟨hnodup, hunseen⟩, hid⟩
          refine ⟨first :: before, after, rfl, ⟨List.nodup_cons.2 ⟨?_, hnodup⟩, ?_⟩, ?_⟩
          · exact fun hmem => hunseen first hmem List.mem_cons_self
          · exact List.forall_mem_cons.2
              ⟨hseen, fun i hi hmem => hunseen i hi (List.mem_cons_of_mem _ hmem)⟩
          · grind
        · rintro ⟨_ | ⟨i, before⟩, after, heq, ⟨hnodup, hunseen⟩, hid⟩
          · grind
          · obtain ⟨rfl, rfl⟩ := List.cons.inj heq
            rw [List.nodup_cons] at hnodup
            exact ⟨before, after, rfl, ⟨hnodup.2, by grind⟩, by grind⟩

theorem firstRepeated?_eq_none_iff {seen ids : List UInt32} :
    firstRepeated? seen ids = none ↔ ids.Nodup ∧ ∀ i ∈ ids, i ∉ seen := by
  induction ids generalizing seen with
  | nil => simp [firstRepeated?]
  | cons first rest ih =>
      rw [firstRepeated?]
      by_cases hseen : first ∈ seen
      · simp [hseen]
      · rw [if_neg (by simpa using hseen), ih]
        simp only [List.nodup_cons, List.mem_cons, not_or]
        grind

namespace Project

variable {p : Project}

theorem validated_of_nodup (h : (p.types.map EntityType.id).Nodup) : p.validated = .ok p := by
  rw [validated, firstRepeated?_eq_none_iff.2 ⟨h, fun i _ => List.not_mem_nil⟩]

theorem validated_of_repeated (h : ¬(p.types.map EntityType.id).Nodup) :
    ∃ before t after, p.types = before ++ t :: after ∧ (before.map EntityType.id).Nodup ∧
      t.id ∈ before.map EntityType.id ∧ p.validated = .error (.duplicateTypeId t.id) := by
  rw [validated]
  cases hrepeated : firstRepeated? [] (p.types.map EntityType.id) with
  | none => exact absurd (firstRepeated?_eq_none_iff.1 hrepeated).1 h
  | some id =>
      obtain ⟨ids, others, hids, ⟨hnodup, -⟩, hid⟩ := firstRepeated?_eq_some_iff.1 hrepeated
      obtain ⟨before, back, htypes, rfl, hback⟩ := List.map_eq_append_iff.1 hids
      obtain ⟨t, after, rfl, rfl, -⟩ := List.map_eq_cons_iff.1 hback
      exact ⟨before, t, after, htypes, hnodup, hid.resolve_right List.not_mem_nil, rfl⟩

theorem typeWithId?_of_nodup (h : (p.types.map EntityType.id).Nodup) {t : EntityType}
    (ht : t ∈ p.types) : p.typeWithId? t.id = some t := by
  have hfound : (p.typeWithId? t.id).isSome := List.find?_isSome.2 ⟨t, ht, by simp⟩
  obtain ⟨found, hfound⟩ := Option.isSome_iff_exists.1 hfound
  have hid : found.id = t.id := by simpa using List.find?_some hfound
  rw [hfound, List.inj_on_of_nodup_map h (List.mem_of_find?_eq_some hfound) ht hid]

theorem load_eq_validated {text : String} (htext : text = p.save ∨ text = p.write.pretty) :
    load text = p.validated := by
  have hwhole := readsBack.whole p
  have hparse : Value.parse? text = some p.write := by
    rcases htext with rfl | rfl
    · exact hwhole.parse?_render
    · exact hwhole.parse?_pretty
  rw [load, hparse]
  simp only [ofDocument, readsBack.read p]

/-- A saved project is loaded as it was if no two of its types have one id, and then each
of its types is found by its id. Otherwise the load fails with the id of the first type
whose id stands in front of it already. It is all the same whether the document is on one
line or laid out over several. -/
theorem load_of_saved {text : String} (htext : text = p.save ∨ text = p.write.pretty) :
    ((p.types.map EntityType.id).Nodup →
      load text = .ok p ∧ ∀ t ∈ p.types, p.typeWithId? t.id = some t) ∧
    (¬(p.types.map EntityType.id).Nodup →
      ∃ before t after, p.types = before ++ t :: after ∧ (before.map EntityType.id).Nodup ∧
        t.id ∈ before.map EntityType.id ∧ load text = .error (.duplicateTypeId t.id)) := by
  rw [load_eq_validated htext]
  exact ⟨fun h => ⟨validated_of_nodup h, fun _ => typeWithId?_of_nodup h⟩, validated_of_repeated⟩

/-! A project with every kind of part, whose fields are away from their defaults. -/

def squadVariable : Variable :=
  ⟨"SD\"\u00e9\n", .word, "-1", ["POSITION_X", "\\"], -0x80000000, "EC\u0001"⟩

def squadType (id : UInt32) (name : String) : EntityType :=
  ⟨id, name, ⟨0xffffffff, 0⟩, some "", [squadVariable],
    [⟨"OnHit", "void", "ESquad_OnHit", [("int", "damage")], 0x7fffffff⟩], some name,
    [⟨0xffff, "Left", 1, ⟨-8, 8⟩, none, [squadVariable]⟩], true⟩

def squadProject (second : UInt32) : Project :=
  ⟨[squadType 1 "ESquad", squadType second "EBat"], [⟨"Fast", 1, none, [squadVariable]⟩],
    [⟨"Bat", [⟨"Fly", [⟨"Loop"⟩]⟩]⟩],
    [⟨"Cave", [⟨5, "", 1, ⟨-1, 1⟩, ⟨0, 16⟩, some "Bat", []⟩]⟩]⟩

theorem squads_loaded_unless_of_one_id :
    load (squadProject 2).save = .ok (squadProject 2) ∧
      load (squadProject 2).write.pretty = .ok (squadProject 2) ∧
      (squadProject 2).typeWithId? 2 = some (squadType 2 "EBat") ∧
      load (squadProject 1).save = .error (.duplicateTypeId 1) := by
  have hnodup : ((squadProject 2).types.map EntityType.id).Nodup := by decide
  have hrepeated : ¬((squadProject 1).types.map EntityType.id).Nodup := by decide
  obtain ⟨hsave, htypes⟩ := (load_of_saved (.inl rfl)).1 hnodup
  obtain ⟨hpretty, -⟩ := (load_of_saved (.inr rfl)).1 hnodup
  obtain ⟨before, t, after, hsplit, -, -, hload⟩ := (load_of_saved (.inl rfl)).2 hrepeated
  have hid : t.id = 1 := by
    have hall : ∀ t ∈ (squadProject 1).types, t.id = 1 := by decide
    exact hall t (by simp [hsplit])
  rw [hid] at hload
  exact ⟨hsave, hpretty, htypes (squadType 2 "EBat") (by decide), hload⟩

end Project

end Cartridge
