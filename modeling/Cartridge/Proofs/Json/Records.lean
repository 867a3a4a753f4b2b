import Cartridge.Json.Record
import Cartridge.Proofs.Json.RoundTrip

/-!
Typed data read back. A reader of one kind of data agrees with its writer if it takes
what was written for what it was; so do readers and writers of lists and records of
such data. A record is written in the order in which its fields are read, and the
agreement goes on from one field to the next.
-/

namespace Cartridge.Json

/-- What is written is read as what it was, also from its text. -/
structure ReadsBack {α : Type} (read : Read α) (write : α → Value) : Prop where
  read : ∀ a, read (write a) = some a
  whole : ∀ a, (write a).Whole

namespace ReadsBack

variable {α β : Type} {read : Read α} {write : α → Value} {other : Read β} {writeOther : β → Value}

theorem text : ReadsBack Read.text .text :=
  ⟨fun _ => rfl, fun s => .string s⟩

theorem bool : ReadsBack Read.bool .bool :=
  ⟨fun _ => rfl, fun b => .bool b⟩

theorem uint16 : ReadsBack Read.uint16 fun n => .integer n.toNat := by
  refine ⟨fun n => ?_, fun n => .integer n.toNat⟩
  have hlt := n.toNat_lt
  simp [Read.uint16, Read.natural, hlt]

theorem uint32 : ReadsBack Read.uint32 fun n => .integer n.toNat := by
  refine ⟨fun n => ?_, fun n => .integer n.toNat⟩
  have hlt := n.toNat_lt
  simp [Read.uint32, Read.natural, hlt]

theorem int32 : ReadsBack Read.int32 fun i => .integer i.toInt := by
  refine ⟨fun i => ?_, fun i => .integer i.toInt⟩
  have hlow := i.le_toInt
  have hhigh := i.toInt_lt
  have hrange : -0x80000000 ≤ i.toInt ∧ i.toInt ≤ 0x7fffffff := by omega
  rw [Read.int32, Read.integer, if_pos hrange, Option.map_some, Int32.ofInt_toInt]

theorem list (h : ReadsBack read write) : ReadsBack (Read.list read) (.list write) := by
  refine ⟨fun items => ?_, fun items => .array fun v hv => ?_⟩
  · have hread : read ∘ write = pure := funext h.read
    rw [Value.list, Read.list, List.mapM_map, hread, List.mapM_pure, List.map_id']
    rfl
  · obtain ⟨a, -, rfl⟩ := List.mem_map.1 hv
    exact h.whole a

theorem pair (h : ReadsBack read write) (hother : ReadsBack other writeOther) :
    ReadsBack (Read.pair read other) fun p => .array [write p.1, writeOther p.2] := by
  refine ⟨fun p => ?_, fun p => .array ?_⟩
  · rw [Read.pair, h.read, hother.read]
    rfl
  · simpa using ⟨h.whole p.1, hother.whole p.2⟩

/-- Nothing is written as `null`, so `null` must not stand for anything else. -/
theorem option (h : ReadsBack read write) (hnull : ∀ a, write a ≠ .null) :
    ReadsBack (Read.option read) (.option write) where
  read
    | none => rfl
    | some a => by
      rw [Value.option, Read.option, h.read, Option.map_some]
      exact hnull a
  whole
    | none => .null
    | some a => h.whole a

end ReadsBack

/-! ### Records -/

/-- What a written record offers to a reader of its fields. -/
def Fields.ofRecord (members : List (String × Value)) : Fields :=
  .named (members.map fun (key, v) => (some key, v))

section

variable {α β : Type} {name : String} {members rest : List (String × Value)} {v : Value}
  {read : Read α} {write : α → Value} {a : α} {b : β}

theorem run_find (hkeys : (members.map (·.1)).Nodup) (hv : (name, v) ∈ members) :
    (find name).run (.ofRecord members) = some (.present v, .ofRecord members) := by
  have hfilter : (members.map fun (key, v) => (some key, v)).filter
      (fun m : Text × Value => m.1 == some name) = [(some name, v)] := by
    induction members with
    | nil => cases hv
    | cons m rest ih =>
        rw [List.map_cons, List.nodup_cons] at hkeys
        rcases List.mem_cons.1 hv with rfl | hv
        · -- No later member has the key once more.
          have hrest : (rest.map fun (key, v) => (some key, v)).filter
              (fun m : Text × Value => m.1 == some name) = [] := by
            simp only [List.filter_eq_nil_iff, List.mem_map]
            rintro _ ⟨n, hn, rfl⟩
            have hne : n.1 ≠ name := fun h => hkeys.1 (List.mem_map.2 ⟨n, hn, h⟩)
            simpa using hne
          rw [List.map_cons, List.filter_cons_of_pos (by simp), hrest]
        · have hne : m.1 ≠ name := fun h => hkeys.1 (List.mem_map.2 ⟨_, hv, h.symm⟩)
          simpa [hne] using ih hkeys.2 hv
  simp [find, StateT.run, Fields.ofRecord, hfilter]

/-- A reader of fields takes the last members of any record for `a`. -/
structure Takes (rest : List (String × Value)) (fields : FieldsM α) (a : α) : Prop where
  run : ∀ members, rest <:+ members → (members.map (·.1)).Nodup →
    fields.run (.ofRecord members) = some (a, .ofRecord members)
  whole : ∀ m ∈ rest, m.2.Whole

namespace Takes

theorem done (a : α) : Takes [] (pure a) a :=
  ⟨fun _ _ _ => rfl, List.forall_mem_nil _⟩

theorem cons {x : FieldsM α} {f : α → FieldsM β} (hwhole : v.Whole)
    (hx : ∀ members, (name, v) ∈ members → (members.map (·.1)).Nodup →
      x.run (.ofRecord members) = some (a, .ofRecord members))
    (hrest : Takes rest (f a) b) : Takes ((name, v) :: rest) (x >>= f) b where
  run members hsuffix hkeys := by
    rw [StateT.run_bind, hx members (hsuffix.subset List.mem_cons_self) hkeys]
    exact hrest.run members ((List.suffix_cons _ _).trans hsuffix) hkeys
  whole := List.forall_mem_cons.2 ⟨hwhole, hrest.whole⟩

/-- The next field is read, and then the others. -/
theorem field (a : α) {f : α → FieldsM β} (h : ReadsBack read write) (hv : v = write a)
    (hrest : Takes rest (f a) b) : Takes ((name, v) :: rest) (Json.field name read >>= f) b := by
  subst hv
  refine cons (h.whole a) (fun members hmem hkeys => ?_) hrest
  rw [Json.field, StateT.run_bind, run_find hkeys hmem]
  simp [h.read]

theorem fieldOr (a : α) {default : α} {f : α → FieldsM β} (h : ReadsBack read write)
    (hv : v = write a) (hrest : Takes rest (f a) b) :
    Takes ((name, v) :: rest) (Json.fieldOr name read default >>= f) b := by
  subst hv
  refine cons (h.whole a) (fun members hmem hkeys => ?_) hrest
  rw [Json.fieldOr, StateT.run_bind, run_find hkeys hmem]
  simp [h.read]

end Takes

/-- A record is read as it was written, if each of its keys is there once. -/
theorem ReadsBack.record {fields : FieldsM α} {members : α → List (String × Value)}
    (hkeys : ∀ a, ((members a).map (·.1)).Nodup) (h : ∀ a, Takes (members a) fields a) :
    ReadsBack (Read.record fields) fun a => .record (members a) := by
  refine ⟨fun a => ?_, fun a => .object fun n hn => ?_⟩
  · have hread := (h a).run (members a) List.suffix_rfl (hkeys a)
    rw [Value.record, Read.record, if_pos (by simp)]
    exact congrArg (Option.map (·.1)) hread
  · obtain ⟨m, hm, rfl⟩ := List.mem_map.1 hn
    exact (h a).whole m hm

end

end Cartridge.Json
