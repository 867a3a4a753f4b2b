import Cartridge.Proofs.Layout.Header

/-!
Members of structures. A field is called like its parameter without the owner's name in
it, with a small first letter, and it stands beside members that are there anyway: the
padding, and the handles of an entity. Nothing keeps these names apart but the names of
the parameters: `members_distinct_iff`. Two parameters whose names differ leave one field
if one of them carries the owner's name in front and the other does not.
-/

namespace Cartridge

namespace Text

/-! ### Deleting -/

theorem deleteFrom_length_append (pattern before cs : List Char) :
    deleteFrom pattern before.length (before ++ cs) = deleteFrom pattern 0 cs := by
  induction before with
  | nil => rfl
  | cons c before ih => exact ih

theorem delete_append {pattern : String} (h : pattern.toList ≠ []) (s : String) :
    delete pattern (pattern ++ s) = delete pattern s := by
  obtain ⟨p, ps, hpattern⟩ := List.exists_cons_of_ne_nil h
  have hstart : (afterStart (p :: ps) (p :: (ps ++ s.toList))).isSome = true :=
    isSome_afterStart_iff.2 ⟨s.toList, rfl⟩
  rw [delete, delete, String.toList_append, hpattern, List.cons_append, deleteFrom,
    if_pos ⟨List.cons_ne_nil p ps, hstart⟩, List.length_cons, Nat.add_sub_cancel,
    deleteFrom_length_append]

theorem deleteFrom_of_not_infix {pattern cs : List Char} (h : ¬pattern <:+: cs) :
    deleteFrom pattern 0 cs = cs := by
  induction cs with
  | nil => rfl
  | cons c cs ih =>
      rw [List.infix_cons_iff, not_or, ← isSome_afterStart_iff] at h
      rw [deleteFrom, if_neg fun hstart => h.1 hstart.2, ih h.2]

theorem delete_of_not_infix {pattern s : String} (h : ¬pattern.toList <:+: s.toList) :
    delete pattern s = s := by
  rw [delete, deleteFrom_of_not_infix h, String.ofList_toList]

theorem foldCase_lowerFirst (s : String) : foldCase (lowerFirst s) = foldCase s := by
  rw [lowerFirst]
  split <;> simp_all [foldCase]

theorem foldCase_append (a b : String) : foldCase (a ++ b) = foldCase a ++ foldCase b := by
  simp [foldCase]

end Text

namespace Script

open Cartridge.Text (OneLine afterStart lowerFirst sameName)
open Cartridge.Assembly (sourceLines)

/-! ### Names of fields -/

/-- A name that is `rest` behind the name of its owner, or without it. -/
structure Leaves (owner name rest : String) : Prop where
  name_eq : name = owner ++ "_" ++ rest ∨ name = rest
  plain : ¬(owner ++ "_").toList <:+: rest.toList

section

variable {owner a b ra rb : String}

theorem Leaves.fieldName_eq (h : Leaves owner a ra) : fieldName owner a = lowerFirst ra := by
  have hplain := Text.delete_of_not_infix h.plain
  rcases h.name_eq with rfl | rfl
  · rw [fieldName, Text.delete_append (by simp), hplain]
  · rw [fieldName, hplain]

/-- Different names leave one field only if one of them has the owner's name in front and
the other does not. -/
theorem fieldName_eq_iff (ha : Leaves owner a ra) (hb : Leaves owner b rb)
    (hdiffer : sameName a b = false) :
    fieldName owner a = fieldName owner b ↔ lowerFirst ra = lowerFirst rb ∧
      ((a = owner ++ "_" ++ ra ∧ b = rb) ∨ (a = ra ∧ b = owner ++ "_" ++ rb)) := by
  rw [ha.fieldName_eq, hb.fieldName_eq]
  refine ⟨fun h => ⟨h, ?_⟩, And.left⟩
  have hrest : Text.foldCase ra = Text.foldCase rb := by
    rw [← Text.foldCase_lowerFirst ra, h, Text.foldCase_lowerFirst]
  have hfold : ¬Text.foldCase a = Text.foldCase b := by
    rw [← Text.sameName_iff, hdiffer]
    exact Bool.false_ne_true
  rcases ha.name_eq with hown | hbare <;> rcases hb.name_eq with hown' | hbare'
  · refine absurd ?_ hfold
    rw [hown, hown', Text.foldCase_append, hrest, ← Text.foldCase_append]
  · exact .inl ⟨hown, hbare'⟩
  · exact .inr ⟨hbare, hown'⟩
  · refine absurd ?_ hfold
    rw [hbare, hbare', hrest]

end

/-! ### Members -/

/-- The names of the members of a component's structure. -/
def componentMembers (c : Component) : List String :=
  (structFields c.name c.spawn.params).map StructField.name

/-- The names of the members of an entity's structure: its fields and the handles. -/
def entityMembers (e : Entity) : List String :=
  (structFields e.typeName e.spawn.params).map StructField.name ++ ["components"]

def paddingNames (params : List Param) : List String :=
  if totalBytes params % 2 = 1 then ["padding"] else []

/-- Fields that are called differently, and not like the members that are there anyway. -/
structure FieldsApart (owner : String) (params : List Param) (fixed : List String) : Prop where
  apart : params.Pairwise fun p q => fieldName owner p.name ≠ fieldName owner q.name
  free : ∀ p ∈ params, fieldName owner p.name ∉ fixed

section

variable {owner : String} {params : List Param} {fixed : List String}

theorem map_name_structFields (owner : String) (params : List Param) :
    (structFields owner params).map StructField.name =
      params.map (fun p => fieldName owner p.name) ++ paddingNames params := by
  rw [structFields, List.map_append, List.map_map, paddingNames]
  congr 1
  split <;> rfl

theorem nodup_fields_append_iff (hfixed : fixed.Nodup) :
    (params.map (fun p => fieldName owner p.name) ++ fixed).Nodup ↔
      FieldsApart owner params fixed := by
  rw [List.nodup_append, List.nodup_iff_pairwise_ne, List.pairwise_map]
  constructor
  · rintro ⟨hapart, -, hfree⟩
    exact ⟨hapart, fun p hp hmem => hfree _ (List.mem_map_of_mem hp) _ hmem rfl⟩
  · rintro ⟨hapart, hfree⟩
    refine ⟨hapart, hfixed, fun name hname other hother heq => ?_⟩
    obtain ⟨p, hp, rfl⟩ := List.mem_map.1 hname
    exact hfree p hp (heq ▸ hother)

theorem nodup_paddingNames (params : List Param) : (paddingNames params).Nodup := by
  rw [paddingNames]
  split <;> decide

theorem nodup_paddingNames_append (params : List Param) :
    (paddingNames params ++ ["components"]).Nodup := by
  rw [paddingNames]
  split <;> decide

end

/-! ### Reading members -/

/-- The member that a line declares. -/
def memberName? (line : String) : Option String :=
  ["char", "unsigned char", "short", "int", "Components"].findSome? fun type =>
    (afterStart ("\t" ++ type ++ " ").toList line.toList).map fun rest =>
      String.ofList rest.dropLast

theorem memberName?_line {type : String} (name : String)
    (htype : type ∈ ["char", "unsigned char", "short", "int"]) :
    memberName? (StructField.line ⟨type, name⟩) = some name := by
  have hread : memberName? (StructField.line ⟨type, name⟩) =
      some (String.ofList (name.toList ++ [';']).dropLast) := by
    simp only [memberName?, StructField.line, String.toList_append]
    simp only [List.mem_cons, List.not_mem_nil, or_false] at htype
    rcases htype with rfl | rfl | rfl | rfl <;> rfl
  rw [hread, List.dropLast_concat, String.ofList_toList]

/-- Each line of a field declares the field. -/
theorem filterMap_memberName?_fieldLines (owner : String) (params : List Param) :
    (fieldLines owner params).filterMap memberName? =
      (structFields owner params).map StructField.name := by
  have htypes : ∀ f ∈ structFields owner params,
      f.type ∈ ["char", "unsigned char", "short", "int"] := by
    intro f hf
    rcases List.mem_append.1 hf with hf | hf
    · obtain ⟨p, -, rfl⟩ := List.mem_map.1 hf
      have hwidth : ∀ width, fieldType width ∈ ["char", "unsigned char", "short", "int"] := by
        rintro ⟨⟩ <;> decide
      exact hwidth p.size
    · split at hf
      · rw [List.mem_singleton.1 hf]
        decide
      · cases hf
  rw [fieldLines, List.filterMap_map, ← List.filterMap_eq_map]
  exact List.filterMap_congr fun f hf => memberName?_line f.name (htypes f hf)

/-- The members that a header declares in the structure of a component. -/
def declaredComponentMembers (name header : String) : List String :=
  (fieldsBelow (structHead name) (sourceLines header)).filterMap memberName?

/-- The members that a header declares behind the handles of an entity. -/
def declaredEntityMembers (header : String) : List String :=
  (((sourceLines header).dropWhile (· ≠ handlesEnd)).takeWhile (· ≠ structEnd)).filterMap
    memberName?

/-- What stands behind the fields of an entity, up to the end of its structure. -/
def fieldsRest : List String :=
  "" :: "\tComponents components;" :: "" :: lifecycle.map lifecycleLine

theorem entityRest_eq : entityRest = fieldsRest ++ [structEnd] := rfl

theorem declaredMembers_componentHeader {components : List Component} {c : Component}
    (hcomponents : ∀ d ∈ components, d.OneLine)
    (hc : components.find? (fun d => d.name = c.name) = some c) :
    declaredComponentMembers c.name (componentHeader components) = componentMembers c := by
  rw [declaredComponentMembers, fieldsBelow_componentHeader hcomponents hc,
    filterMap_memberName?_fieldLines, componentMembers]

theorem declaredMembers_entityHeader {e : Entity} (htype : OneLine e.typeName)
    (hparams : ∀ p ∈ e.spawn.params, OneLine p.name)
    (hcomponents : ∀ c ∈ e.components, OneLine c.name) :
    declaredEntityMembers (entityHeader e) = entityMembers e := by
  obtain ⟨before, hbefore, hlines⟩ := exists_sourceLines_fields htype hparams hcomponents
  have hsplit : sourceLines (entityHeader e) = before ++ ((handlesEnd :: "" ::
      (fieldLines e.typeName e.spawn.params ++ fieldsRest)) ++ [structEnd]) := by
    rw [hlines, entityRest_eq, List.cons_append, List.cons_append, List.append_assoc]
  have hinner : ∀ line ∈ handlesEnd :: "" ::
      (fieldLines e.typeName e.spawn.params ++ fieldsRest),
        decide (line ≠ structEnd) = true := by
    simp only [List.forall_mem_cons, List.forall_mem_append, decide_eq_true_eq]
    refine ⟨by decide, by decide, fun line hline hend => ?_, by decide +kernel⟩
    have htab := head?_of_mem_fieldLines hline
    rw [hend] at htab
    exact absurd htab (by decide)
  have hnone : memberName? handlesEnd = none := by decide
  have hempty : memberName? "" = none := by decide
  have hcomponents : fieldsRest.filterMap memberName? = ["components"] := by decide +kernel
  have hstart : ∀ line ∈ before, decide (line ≠ handlesEnd) = true := fun line hline =>
    decide_eq_true (hbefore line hline)
  rw [declaredEntityMembers, hsplit, List.dropWhile_append_of_pos hstart, List.cons_append,
    List.dropWhile_cons_of_neg (by simp), ← List.cons_append,
    List.takeWhile_append_of_pos hinner, List.takeWhile_cons_of_neg (by simp), List.append_nil,
    List.filterMap_cons_none hnone, List.filterMap_cons_none hempty, List.filterMap_append,
    filterMap_memberName?_fieldLines, hcomponents, entityMembers]

/-- The members of a structure are called differently just if the fields are: they differ
from each other and from the members that are there anyway. Parameters that carry the name
of their owner in front, if at all, leave one field if they are alike but for that name
and the first letter's case. -/
theorem members_distinct_iff (c : Component) (e : Entity) :
    ((componentMembers c).Nodup ↔
      FieldsApart c.name c.spawn.params (paddingNames c.spawn.params)) ∧
    ((entityMembers e).Nodup ↔
      FieldsApart e.typeName e.spawn.params (paddingNames e.spawn.params ++ ["components"])) ∧
    (∀ owner a b ra rb, Leaves owner a ra → Leaves owner b rb → sameName a b = false →
      (fieldName owner a = fieldName owner b ↔ lowerFirst ra = lowerFirst rb ∧
        ((a = owner ++ "_" ++ ra ∧ b = rb) ∨ (a = ra ∧ b = owner ++ "_" ++ rb)))) ∧
    (∀ components : List Component, (∀ d ∈ components, d.OneLine) →
      components.find? (fun d => d.name = c.name) = some c →
        declaredComponentMembers c.name (componentHeader components) = componentMembers c) ∧
    (OneLine e.typeName → (∀ p ∈ e.spawn.params, OneLine p.name) →
      (∀ d ∈ e.components, OneLine d.name) →
        declaredEntityMembers (entityHeader e) = entityMembers e) := by
  refine ⟨?_, ?_, fun owner a b ra rb => fieldName_eq_iff,
    fun components => declaredMembers_componentHeader, declaredMembers_entityHeader⟩
  · rw [componentMembers, map_name_structFields,
      nodup_fields_append_iff (nodup_paddingNames c.spawn.params)]
  · rw [entityMembers, map_name_structFields, List.append_assoc,
      nodup_fields_append_iff (nodup_paddingNames_append e.spawn.params)]

/-- A component with the given parameters, a byte each. -/
def byteComponent (name : String) (params : List String) : Component :=
  { Component.named name with
    spawn := { SpawnData.named name with params := params.map fun p => ⟨p, .byte, "0", []⟩ } }

/-- An entity with the given parameters, a word each. -/
def wordEntity (name : String) (params : List String) : Entity :=
  { Entity.named name 5 with
    spawn := { SpawnData.named name with params := params.map fun p => ⟨p, .word, "0", []⟩ } }

/-- The padding and the handles stand beside fields of other names. -/
theorem sprite_and_bat_members_distinct :
    let sprite := byteComponent "ECSprite" ["ECSprite_Layer", "ECSprite_Frame", "Palette"]
    let bat := wordEntity "EBat" ["EBat_Speed", "EBat_Health"]
    declaredComponentMembers "ECSprite" (componentHeader [sprite]) =
        ["layer", "frame", "palette", "padding"] ∧
      (componentMembers sprite).Nodup ∧
      declaredEntityMembers (entityHeader bat) = ["speed", "health", "components"] ∧
      (entityMembers bat).Nodup ∧
      fieldName "ECSprite" "ECSprite_Layer" = fieldName "ECSprite" "layer" := by
  intro sprite bat
  obtain ⟨hsprite, hbat, hnames, hcomponent, hentity⟩ := members_distinct_iff sprite bat
  have hlayer : Leaves "ECSprite" "ECSprite_Layer" "Layer" := ⟨.inl rfl, by decide⟩
  have hbare : Leaves "ECSprite" "layer" "layer" := ⟨.inr rfl, by decide⟩
  exact ⟨(hcomponent [sprite] (by decide) rfl).trans (by decide),
    hsprite.2 ⟨by decide, by decide⟩,
    (hentity (by decide) (by decide) (by decide)).trans (by decide),
    hbat.2 ⟨by decide, by decide⟩,
    (hnames _ _ _ _ _ hlayer hbare (by decide)).2 ⟨by decide, .inl ⟨rfl, rfl⟩⟩⟩

/-- Parameters whose names differ leave one field, the field of the padding, and the
handles. -/
theorem layers_share_a_member :
    let sprite := byteComponent "ECSprite" ["ECSprite_Layer", "Layer"]
    let flag := byteComponent "ECFlag" ["ECFlag_Padding"]
    let bat := wordEntity "EBat" ["EBat_Components"]
    (∀ params ∈ [sprite.spawn.params, flag.spawn.params, bat.spawn.params],
        params.Pairwise fun p q => sameName p.name q.name = false) ∧
      componentMembers sprite = ["layer", "layer"] ∧ ¬(componentMembers sprite).Nodup ∧
      componentMembers flag = ["padding", "padding"] ∧ ¬(componentMembers flag).Nodup ∧
      entityMembers bat = ["components", "components"] ∧ ¬(entityMembers bat).Nodup := by
  decide

end Script

end Cartridge
