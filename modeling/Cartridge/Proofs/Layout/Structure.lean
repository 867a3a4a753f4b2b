import Cartridge.Proofs.Layout.Header
import Cartridge.Proofs.Layout.Packed
import Cartridge.Proofs.Scene.Lines

/-!
Structures against records. A compiler puts a field that is wider than a byte at an
even offset, whereas the values of a record stand one right behind the other. So a
structure mirrors its record just if no word or long follows an odd number of bytes.
-/

namespace Cartridge

open Cartridge.Text (OneLine)

/-- What the offset of a field is a multiple of. -/
def Width.alignment : Width → Nat
  | .byte => 1
  | .word => 2
  | .long => 2

/-- The next offset that is a multiple. -/
def alignUp (alignment offset : Nat) : Nat :=
  (offset + alignment - 1) / alignment * alignment

/-- Where the compiler puts the fields of a structure. -/
def offsetsFrom (offset : Nat) : List Width → List Nat
  | [] => []
  | width :: rest =>
    alignUp width.alignment offset ::
      offsetsFrom (alignUp width.alignment offset + width.bytes) rest

/-- No word or long follows an odd number of bytes. -/
def InStep (params : List Param) : Prop :=
  ∀ before p after, params = before ++ p :: after →
    p.size = .byte ∨ Script.totalBytes before % 2 = 0

/-- Every parameter is as far behind the first in the structure as it is in the record. -/
def Mirrors (params : List Param) (addresses offsets : List Nat) : Prop :=
  ∀ i < params.length, ∃ distance, (relative addresses)[i]? = some distance ∧
    (relative offsets)[i]? = some distance

/-! ### Offsets -/

theorem alignUp_byte (offset : Nat) : alignUp Width.byte.alignment offset = offset := by
  rw [alignUp, Width.alignment]
  omega

theorem alignUp_of_ne_byte {width : Width} (h : width ≠ .byte) (offset : Nat) :
    alignUp width.alignment offset = offset + offset % 2 := by
  have halignment : width.alignment = 2 := by cases width <;> simp_all [Width.alignment]
  rw [alignUp, halignment]
  omega

theorem alignUp_eq_self_iff {width : Width} {offset : Nat} :
    alignUp width.alignment offset = offset ↔ width = .byte ∨ offset % 2 = 0 := by
  by_cases h : width = .byte
  · simp [h, alignUp_byte]
  · rw [alignUp_of_ne_byte h]
    simp [h]

/-- Offsets that are moved by an even number stay aligned. -/
theorem alignUp_add {start : Nat} (h : start % 2 = 0) (width : Width) (offset : Nat) :
    alignUp width.alignment (start + offset) = start + alignUp width.alignment offset := by
  by_cases hwidth : width = .byte
  · simp [hwidth, alignUp_byte]
  · rw [alignUp_of_ne_byte hwidth, alignUp_of_ne_byte hwidth]
    omega

theorem offsetsFrom_add {start : Nat} (h : start % 2 = 0) (offset : Nat) (ws : List Width) :
    offsetsFrom (start + offset) ws = (offsetsFrom offset ws).map (start + ·) := by
  induction ws generalizing offset with
  | nil => rfl
  | cons w ws ih => rw [offsetsFrom, alignUp_add h, Nat.add_assoc, ih, offsetsFrom, List.map_cons]

theorem relative_offsetsFrom {start : Nat} (h : start % 2 = 0) (ws : List Width) :
    relative (offsetsFrom start ws) = offsetsFrom 0 ws := by
  have hfirst : (offsetsFrom 0 ws).headD 0 = 0 := by
    cases ws with
    | nil => rfl
    | cons w ws => exact alignUp_eq_self_iff.2 (.inr rfl)
  rw [← Nat.add_zero start, offsetsFrom_add h, relative_map_add hfirst]

theorem length_offsetsFrom (offset : Nat) (ws : List Width) :
    (offsetsFrom offset ws).length = ws.length := by
  induction ws generalizing offset with
  | nil => rfl
  | cons w ws ih => rw [offsetsFrom, List.length_cons, ih, List.length_cons]

theorem length_packedFrom (offset : Nat) (ws : List Width) :
    (packedFrom offset ws).length = ws.length := by
  induction ws generalizing offset with
  | nil => rfl
  | cons w ws ih => rw [packedFrom, List.length_cons, ih, List.length_cons]

/-- What comes behind a field does not move it. -/
theorem offsetsFrom_prefix_append (offset : Nat) (ws more : List Width) :
    offsetsFrom offset ws <+: offsetsFrom offset (ws ++ more) := by
  induction ws generalizing offset with
  | nil => exact List.nil_prefix
  | cons w ws ih =>
      rw [List.cons_append, offsetsFrom, offsetsFrom]
      exact (List.prefix_cons_inj _).2 (ih _)

/-! ### Parameters in step -/

theorem totalBytes_append (a b : List Param) :
    Script.totalBytes (a ++ b) = Script.totalBytes a + Script.totalBytes b := by
  induction a with
  | nil => simp [Script.totalBytes]
  | cons p a ih => rw [List.cons_append, Script.totalBytes, ih, Script.totalBytes, Nat.add_assoc]

/-- Fields that follow parameters stand right behind them just if all are in step. -/
theorem offsetsFrom_eq_packedFrom_iff (before params : List Param) :
    offsetsFrom (Script.totalBytes before) (widths params) =
        packedFrom (Script.totalBytes before) (widths params) ↔
      ∀ mid p after, params = mid ++ p :: after →
        p.size = .byte ∨ Script.totalBytes (before ++ mid) % 2 = 0 := by
  -- Each step moves a parameter over to those before, whose bytes are the offset.
  induction params generalizing before with
  | nil => simp [widths, offsetsFrom, packedFrom]
  | cons p params ih =>
      have hnext : Script.totalBytes (before ++ [p]) = Script.totalBytes before + p.size.bytes := by
        rw [totalBytes_append]
        rfl
      have hrest := ih (before ++ [p])
      rw [hnext] at hrest
      rw [widths, List.map_cons, offsetsFrom, packedFrom, List.cons.injEq, alignUp_eq_self_iff]
      constructor
      · rintro ⟨hfirst, hothers⟩ mid q after hsplit
        rw [alignUp_eq_self_iff.2 hfirst] at hothers
        cases mid with
        | nil =>
            obtain ⟨rfl, rfl⟩ := List.cons.inj hsplit
            rwa [List.append_nil]
        | cons first mid =>
            obtain ⟨rfl, rfl⟩ := List.cons.inj hsplit
            have hq := hrest.1 hothers mid q after rfl
            rwa [List.append_assoc] at hq
      · intro h
        have hfirst := h [] p params rfl
        rw [List.append_nil] at hfirst
        refine ⟨hfirst, ?_⟩
        rw [alignUp_eq_self_iff.2 hfirst]
        refine hrest.2 fun mid q after hsplit => ?_
        have hq := h (p :: mid) q after (by rw [hsplit, List.cons_append])
        rwa [List.append_assoc]

theorem inStep_iff (params : List Param) :
    InStep params ↔ offsetsFrom 0 (widths params) = packedFrom 0 (widths params) :=
  (offsetsFrom_eq_packedFrom_iff [] params).symm

instance (params : List Param) : Decidable (InStep params) :=
  decidable_of_iff _ (inStep_iff params).symm

/-- A structure whose fields are those of the parameters and some more mirrors the packed
parameters just if they are in step. -/
theorem mirrors_iff_inStep {params : List Param} {addresses : List Nat} {start : Nat}
    (hstart : start % 2 = 0) (haddresses : Export.IsPacked addresses params)
    (more : List Width) :
    Mirrors params addresses (offsetsFrom start (widths params ++ more)) ↔ InStep params := by
  obtain ⟨address, rfl⟩ := haddresses
  have hpacked : (packedFrom 0 (widths params)).length = params.length := by
    rw [length_packedFrom, widths, List.length_map]
  have hoffsets : (offsetsFrom 0 (widths params)).length = params.length := by
    rw [length_offsetsFrom, widths, List.length_map]
  have hfields : ∀ i < params.length,
      (offsetsFrom 0 (widths params ++ more))[i]? = (offsetsFrom 0 (widths params))[i]? := by
    intro i hi
    obtain ⟨others, hothers⟩ := offsetsFrom_prefix_append 0 (widths params) more
    rw [← hothers, List.getElem?_append_left (by omega)]
  rw [inStep_iff, Mirrors, relative_packedFrom, relative_offsetsFrom hstart]
  constructor
  · intro h
    refine List.ext_getElem? fun i => ?_
    by_cases hi : i < params.length
    · obtain ⟨distance, haddress, hoffset⟩ := h i hi
      rw [haddress, ← hfields i hi, hoffset]
    · rw [List.getElem?_eq_none (by omega), List.getElem?_eq_none (by omega)]
  · intro h i hi
    refine ⟨(packedFrom 0 (widths params))[i], List.getElem?_eq_getElem _, ?_⟩
    rw [hfields i hi, h, List.getElem?_eq_getElem]

/-! ### Structures and records -/

open Cartridge.Assembly Cartridge.Script

/-- Where the compiler puts the fields that a header declares below a line. -/
def fieldOffsets (start : Nat) (opening header : String) : List Nat :=
  offsetsFrom start ((fieldsBelow opening (sourceLines header)).filterMap fieldWidth?)

/-- A header that is generated for the components has a structure for this one: the first
component of its name has parameters of the same widths. -/
def HasStructure (components : List Component) (c : Component) : Prop :=
  ∃ d, components.find? (fun d => d.name = c.name) = some d ∧
    widths d.spawn.params = widths c.spawn.params

/-- The structures of an entity and of its components mirror its record just if the
parameters of each are in step: then the field of every parameter is as far behind the
first field as the value of the parameter is behind the first value. -/
theorem structures_mirror_records (settings : Export.Settings) {e : Entity}
    {components : List Component} (he : e.OneLine) (hcomponents : ∀ c ∈ components, c.OneLine)
    (hvalues : ∀ block ∈ e.blocks, ∀ p ∈ block.params, IsOperand p.operand)
    (hstructures : ∀ c ∈ e.components, HasStructure components c) {start : Nat}
    (hstart : start % 2 = 0) (address : Nat) :
    ∃ own groups,
      Export.valueAddresses
        (addressesFrom address (sourceLines (render (Export.entityRecord settings e)))) =
          own :: groups ∧
      (Mirrors e.spawn.params own (fieldOffsets start handlesEnd (entityHeader e)) ↔
        InStep e.spawn.params) ∧
      List.Forall₂ (fun addresses c =>
          Mirrors c.spawn.params addresses
            (fieldOffsets start (structHead c.name) (componentHeader components)) ↔
          InStep c.spawn.params)
        groups (e.components.filter fun c => c.spawn.params ≠ []) := by
  obtain ⟨own, groups, hrecord, hown, hgroups⟩ :=
    Export.valueAddresses_entityRecord settings hvalues address
  rw [sourceLines_render (Export.oneLine_entityRecord settings he)]
  refine ⟨own, groups, hrecord, ?_, ?_⟩
  · rw [fieldOffsets, fieldWidths_entityHeader he.typeName (fun p hp => (he.params p hp).1)
      fun c hc => (he.components c hc).1]
    exact mirrors_iff_inStep hstart hown _
  · rw [List.forall₂_iff_zip] at hgroups ⊢
    refine ⟨hgroups.1, fun {addresses c} hmem => ?_⟩
    have hc : c ∈ e.components := (List.mem_filter.1 (List.of_mem_zip hmem).2).1
    obtain ⟨d, hd, hwidths⟩ := hstructures c hc
    rw [fieldOffsets, fieldWidths_componentHeader hcomponents hd, hwidths]
    exact mirrors_iff_inStep hstart (hgroups.2 hmem) _

/-- A component with a word behind a single byte. -/
def spriteComponent : Component :=
  ⟨"ECSprite", ⟨"ECSprite", .zero, .zero,
    [⟨"ECSprite_Layer", .byte, "1", []⟩, ⟨"ECSprite_Frame", .word, "12", []⟩]⟩, []⟩

def pairedBat : Entity :=
  ⟨"EBat", 5, ⟨"Bat", .zero, .zero, [⟨"EBat_Lives", .byte, "3", []⟩, ⟨"EBat_Rank", .byte, "1", []⟩,
    ⟨"EBat_Speed", .word, "", []⟩]⟩, [.named "ECFlight", spriteComponent], [], false⟩

theorem paired_bat_mirrored :
    ∃ own sprite, Export.valueAddresses (addressesFrom 0x200 (sourceLines (render
        (Export.entityRecord .default pairedBat)))) = [own, sprite] ∧
      Mirrors pairedBat.spawn.params own (fieldOffsets 8 handlesEnd (entityHeader pairedBat)) ∧
      ¬Mirrors spriteComponent.spawn.params sprite (fieldOffsets 8 (structHead "ECSprite")
        (componentHeader pairedBat.components)) := by
  have hstructures : ∀ c ∈ pairedBat.components, HasStructure pairedBat.components c := by
    intro c hc
    simp only [pairedBat, List.mem_cons, List.not_mem_nil, or_false] at hc
    rcases hc with rfl | rfl
    · exact ⟨.named "ECFlight", by decide, rfl⟩
    · exact ⟨spriteComponent, by decide, rfl⟩
  have hone : pairedBat.OneLine := by decide +kernel
  have hcomponents : ∀ c ∈ pairedBat.components, c.OneLine := by decide +kernel
  have hvalues : ∀ block ∈ pairedBat.blocks, ∀ p ∈ block.params, IsOperand p.operand := by
    decide +kernel
  obtain ⟨own, groups, hrecord, hown, hgroups⟩ :=
    structures_mirror_records .default hone hcomponents hvalues hstructures
      (by decide : 8 % 2 = 0) 0x200
  have hfilter : (pairedBat.components.filter fun c => c.spawn.params ≠ []) = [spriteComponent] := by
    decide
  rw [hfilter] at hgroups
  cases hgroups with
  | cons hsprite hnone =>
      cases hnone
      exact ⟨own, _, hrecord, hown.2 (by decide), fun h => absurd (hsprite.1 h) (by decide)⟩

/-- The word is two bytes behind the single byte in the structure, and one byte behind it in
the record. -/
theorem sprite_frame_apart :
    fieldOffsets 0 (structHead "ECSprite") (componentHeader [spriteComponent]) = [0, 2, 4] ∧
      Export.valueAddresses (addressesFrom 0 (sourceLines (render
        (Export.spawnRecord ⟨.zero, 16, false⟩ "Bat" 5 [] [spriteComponent])))) = [[], [2, 3]] ∧
      ¬Mirrors spriteComponent.spawn.params [2, 3] [0, 2, 4] := by
  have hcomponents : ∀ c ∈ [spriteComponent], c.OneLine := by decide
  have hfirst : [spriteComponent].find? (fun d => d.name = "ECSprite") = some spriteComponent := by
    decide
  have hlines : ∀ l ∈ Export.spawnRecord ⟨.zero, 16, false⟩ "Bat" 5 [] [spriteComponent],
      OneLine l.text := by decide +kernel
  refine ⟨?_, ?_, fun h => ?_⟩
  · rw [fieldOffsets, fieldWidths_componentHeader hcomponents hfirst]
    decide
  · rw [sourceLines_render hlines]
    decide +kernel
  · obtain ⟨distance, haddress, hoffset⟩ := h 1 (by decide)
    rw [← haddress] at hoffset
    exact absurd hoffset (by decide)

end Cartridge
