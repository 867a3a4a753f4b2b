import Cartridge.Proofs.Assembly.Address
import Cartridge.Proofs.Scene.Record

/-!
Where parameters stand in a record. Within a block they are packed: each stands right
behind the one before it, whatever their widths. Padding comes behind the last.
-/

namespace Cartridge

/-- The widths of parameters. -/
def widths (params : List Param) : List Width :=
  params.map Param.size

/-- Where values stand, one right behind the other. -/
def packedFrom (address : Nat) : List Width → List Nat
  | [] => []
  | width :: rest => address :: packedFrom (address + width.bytes) rest

/-- How far each address is from the first. -/
def relative (addresses : List Nat) : List Nat :=
  addresses.map (· - addresses.headD 0)

theorem packedFrom_add (address offset : Nat) (ws : List Width) :
    packedFrom (address + offset) ws = (packedFrom offset ws).map (address + ·) := by
  induction ws generalizing offset with
  | nil => rfl
  | cons w ws ih => rw [packedFrom, Nat.add_assoc, ih, packedFrom, List.map_cons]

/-- Addresses that start at zero are as far from the first wherever they are moved. -/
theorem relative_map_add {offsets : List Nat} (h : offsets.headD 0 = 0) (address : Nat) :
    relative (offsets.map (address + ·)) = offsets := by
  cases offsets with
  | nil => rfl
  | cons first offsets =>
      have hfirst : first = 0 := h
      simp [relative, hfirst, Function.comp_def]

theorem relative_packedFrom (address : Nat) (ws : List Width) :
    relative (packedFrom address ws) = packedFrom 0 ws := by
  have hfirst : (packedFrom 0 ws).headD 0 = 0 := by cases ws <;> rfl
  rw [← Nat.add_zero address, packedFrom_add, relative_map_add hfirst]

namespace Export

open Cartridge.Assembly

/-- The addresses of the values among some lines. -/
def addressesOf (lines : List (Nat × String)) : List Nat :=
  (lines.filter fun line => isValue line.2).map Prod.fst

/-- The addresses of the values of a record, cut at the headings. -/
def valueAddresses (record : List (Nat × String)) : List (List Nat) :=
  ((record.drop (headerLength (record.map Prod.snd))).splitOnP fun line => isHeading line.2).map
    addressesOf

/-- The parameters stand one right behind the other. -/
def IsPacked (addresses : List Nat) (params : List Param) : Prop :=
  ∃ address, addresses = packedFrom address (widths params)

theorem isHeading_addressesFrom {address : Nat} {lines : List String}
    (h : ∀ line ∈ lines, isHeading line = false) :
    ∀ line ∈ addressesFrom address lines, isHeading line.2 = false :=
  fun line hline => h line.2 (mem_of_mem_addressesFrom hline)

theorem addressesOf_append (a b : List (Nat × String)) :
    addressesOf (a ++ b) = addressesOf a ++ addressesOf b := by
  simp [addressesOf]

theorem addressesOf_eq_nil {address : Nat} {lines : List String}
    (h : ∀ line ∈ lines, isValue line = false) :
    addressesOf (addressesFrom address lines) = [] := by
  rw [addressesOf, List.map_eq_nil_iff, List.filter_eq_nil_iff]
  intro line hline
  simp [h line.2 (mem_of_mem_addressesFrom hline)]

section

variable {params : List Param} {padding : List String} {address : Nat}

/-- A block of parameters is packed, and padding behind it holds no value. -/
theorem addressesOf_params (hparams : ∀ p ∈ params, IsOperand p.operand)
    (hpadding : ∀ line ∈ padding, isValue line = false) :
    addressesOf (addressesFrom address ((params.map paramLine).map Line.text ++ padding)) =
      packedFrom address (widths params) := by
  induction params generalizing address with
  | nil => exact addressesOf_eq_nil hpadding
  | cons p params ih =>
      rw [List.forall_mem_cons] at hparams
      have hnext : advance address (paramLine p).text = address + p.size.bytes :=
        advance_data_operand hparams.1
      have hvalue : isValue (paramLine p).text = true := isValue_data p.size p.operand p.name
      have hfirst : ∀ rest, addressesOf ((address, (paramLine p).text) :: rest) =
          address :: addressesOf rest := fun rest => by simp [addressesOf, hvalue]
      rw [List.map_cons, List.map_cons, List.cons_append, addressesFrom, hnext, hfirst,
        ih hparams.2]
      rfl

/-- The addresses of the values of components are cut where the components meet. -/
theorem addresses_components {components : List Component}
    (hcomponents : ∀ c ∈ components, ∀ p ∈ c.spawn.params, IsOperand p.operand)
    {before : List (Nat × String)} (hbefore : ∀ line ∈ before, isHeading line.2 = false)
    (address : Nat) :
    ∃ groups,
      ((before ++ addressesFrom address
          ((components.flatMap componentLines ++ [Line.blank]).map Line.text)).splitOnP
        fun line => isHeading line.2).map addressesOf = addressesOf before :: groups ∧
      List.Forall₂ (fun addresses c => IsPacked addresses c.spawn.params) groups
        (components.filter fun c => c.spawn.params ≠ []) := by
  induction components generalizing before address with
  | nil =>
      have hblank : ∀ line ∈ before ++ addressesFrom address [Line.blank.text],
          isHeading line.2 = false :=
        List.forall_mem_append.2 ⟨hbefore, isHeading_addressesFrom (by decide)⟩
      refine ⟨[], ?_, .nil⟩
      rw [List.flatMap_nil, List.nil_append, List.map_singleton,
        List.splitOnP_eq_singleton hblank, List.map_singleton, addressesOf_append,
        addressesOf_eq_nil (by decide), List.append_nil]
  | cons c cs ih =>
      rw [List.forall_mem_cons] at hcomponents
      by_cases hc : c.spawn.params = []
      · have hnone : componentLines c = [] := by simp [componentLines, hc]
        rw [List.flatMap_cons, hnone, List.nil_append, List.filter_cons_of_neg (by simp [hc])]
        exact ih hcomponents.2 hbefore address
      · obtain ⟨hheadings, -⟩ := values_append_padding c.spawn.params (.inr rfl)
        have hlines : ((c :: cs).flatMap componentLines ++ [Line.blank]).map Line.text =
            (Line.comment c.name).text ::
              (((c.spawn.params.map paramLine).map Line.text ++ [Line.even.text]) ++
                (cs.flatMap componentLines ++ [Line.blank]).map Line.text) := by
          simp [componentLines, hc]
        obtain ⟨groups, hgroups, hpacked⟩ := ih hcomponents.2
          (isHeading_addressesFrom hheadings)
          (endFrom address ((c.spawn.params.map paramLine).map Line.text ++ [Line.even.text]))
        have hheading : isHeading (address, (Line.comment c.name).text).2 = true :=
          isHeading_comment c.name
        rw [hlines, addressesFrom, advance_comment, addressesFrom_append,
          List.splitOnP_append_cons_of_forall_mem hbefore _ hheading, List.map_cons,
          hgroups, List.filter_cons_of_pos (by simpa using hc)]
        exact ⟨_, rfl, .cons ⟨address, addressesOf_params hcomponents.1 (by decide)⟩ hpacked⟩

end

/-- The addresses of a record: those of the entity's own parameters, and those of each
component that has any. -/
theorem valueAddresses_entityRecord (settings : Settings) {e : Entity}
    (hvalues : ∀ block ∈ e.blocks, ∀ p ∈ block.params, IsOperand p.operand) (address : Nat) :
    ∃ own groups,
      valueAddresses (addressesFrom address ((entityRecord settings e).map Line.text)) =
        own :: groups ∧
      IsPacked own e.spawn.params ∧
      List.Forall₂ (fun addresses c => IsPacked addresses c.spawn.params) groups
        (e.components.filter fun c => c.spawn.params ≠ []) := by
  rw [Entity.blocks, List.forall_mem_cons, List.forall_mem_map] at hvalues
  obtain ⟨hown, hcomponents⟩ := hvalues
  let padding := (if hasByte e.spawn.params then [Line.even] else []).map Line.text
  have hpadding : padding = [] ∨ padding = [Line.even.text] := by
    dsimp only [padding]
    split <;> simp
  have hvalueless : ∀ line ∈ padding, isValue line = false := by
    rcases hpadding with h | h <;> rw [h] <;> decide
  obtain ⟨hheadings, -⟩ := values_append_padding e.spawn.params hpadding
  have hrecord : entityRecord settings e =
      debugNameLines settings e.spawn.name "EntitySpawnData_DebugName" ++
        Line.data .word (Text.hex4 e.id.toNat) "EntitySpawnData_Id" ::
        (e.spawn.params.map paramLine ++ (if hasByte e.spawn.params then [Line.even] else []) ++
          (e.components.flatMap componentLines ++ [Line.blank])) := by
    simp [entityRecord, spawnRecord]
  have hdrop := drop_header settings e.spawn.name (Text.hex4 e.id.toNat)
    (e.spawn.params.map paramLine ++ (if hasByte e.spawn.params then [Line.even] else []) ++
      (e.components.flatMap componentLines ++ [Line.blank]))
  rw [← hrecord] at hdrop
  -- Behind its header the record starts with the entity's own parameters.
  rw [valueAddresses, map_snd_addressesFrom, drop_addressesFrom, hdrop, List.map_append,
    List.map_append, addressesFrom_append]
  obtain ⟨groups, hgroups, hpacked⟩ :=
    addresses_components hcomponents (isHeading_addressesFrom hheadings) _
  exact ⟨_, groups, hgroups, ⟨_, addressesOf_params hown hvalueless⟩, hpacked⟩

end Export

end Cartridge
