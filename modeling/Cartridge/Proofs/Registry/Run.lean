import Cartridge.Proofs.Registry.FreeLabel
import Mathlib.Data.List.Find
import Mathlib.Data.List.Forall2
import Mathlib.Data.List.Induction

/-!
Runs of a registry. The registry keeps of each call on a dynamic entity the
label that came of it, so whatever it answers can be read off the calls that
were made: the owner of a shape is the first entity of that shape, and no two
owners have one label.
-/

namespace Cartridge

/-- The entities have equally many blocks, and block for block parameters of
the same names, sizes and values. -/
def Entity.SameBlocks (a b : Entity) : Prop :=
  List.Forall₂ (fun s t => s.params.map Param.content = t.params.map Param.content)
    a.blocks b.blocks

theorem Entity.sameBlocks_iff {a b : Entity} : a.SameBlocks b ↔ a.shape = b.shape := by
  rw [shape, shape, ← List.forall₂_eq_eq_eq, List.forall₂_map_left_iff,
    List.forall₂_map_right_iff]
  rfl

instance (a b : Entity) : Decidable (a.SameBlocks b) :=
  decidable_of_iff _ Entity.sameBlocks_iff.symm

namespace Export

/-- A call of a registry, and what came of it. -/
structure Call where
  label : String
  entity : Entity
  outcome : Registration
  deriving DecidableEq, Repr

namespace Call

/-- A dynamic entity with the blocks of `e` was registered. -/
def serves (e : Entity) (c : Call) : Bool :=
  !c.entity.isStatic && decide (c.entity.SameBlocks e)

/-- What the registry keeps of the call. -/
def entry? (c : Call) : Option Entry :=
  match c.outcome with
  | .owner label => some ⟨c.entity.spawn.name, label, some c.entity.shape⟩
  | .alias label => some ⟨c.entity.spawn.name, label, none⟩
  | .unshared => none

@[simp] theorem map_label_entry? (c : Call) :
    c.entry?.map Entry.label = c.outcome.label? := by
  unfold entry? Registration.label?
  cases c.outcome <;> rfl

end Call

namespace Registry

/-- Register entities under labels in turn. -/
def serve (r : Registry) : List (String × Entity) → List Call × Registry
  | [] => ([], r)
  | (label, e) :: rest =>
    let (outcome, r) := r.register label e
    let (calls, r) := serve r rest
    (⟨label, e, outcome⟩ :: calls, r)

theorem serve_cons (r : Registry) (label : String) (e : Entity)
    (rest : List (String × Entity)) :
    r.serve ((label, e) :: rest) =
      (⟨label, e, (r.register label e).1⟩ :: ((r.register label e).2.serve rest).1,
        ((r.register label e).2.serve rest).2) := rfl

theorem serve_append (r : Registry) (first second : List (String × Entity)) :
    r.serve (first ++ second) =
      ((r.serve first).1 ++ ((r.serve first).2.serve second).1,
        ((r.serve first).2.serve second).2) := by
  induction first generalizing r with
  | nil => rfl
  | cons request rest ih =>
      obtain ⟨label, e⟩ := request
      rw [List.cons_append, serve_cons, serve_cons, ih]
      rfl

theorem serve_concat (r : Registry) (requests : List (String × Entity))
    (label : String) (e : Entity) :
    r.serve (requests ++ [(label, e)]) =
      ((r.serve requests).1 ++ [⟨label, e, ((r.serve requests).2.register label e).1⟩],
        ((r.serve requests).2.register label e).2) :=
  serve_append r requests [(label, e)]

/-! ### One call -/

theorem register_static (r : Registry) (label : String) {e : Entity}
    (he : e.isStatic = true) : r.register label e = (.unshared, r) := by
  rw [register, if_pos he]

theorem register_shared {r : Registry} (label : String) {e : Entity} {owner : Entry}
    (he : e.isStatic = false) (howner : r.owner? e.shape = some owner) :
    r.register label e =
      (.alias owner.label, ⟨r.entries ++ [⟨e.spawn.name, owner.label, none⟩]⟩) := by
  simp [register, he, howner]

theorem register_first {r : Registry} (label : String) {e : Entity}
    (he : e.isStatic = false) (howner : r.owner? e.shape = none) :
    r.register label e = (.owner (r.freeLabel label),
      ⟨r.entries ++ [⟨e.spawn.name, r.freeLabel label, some e.shape⟩]⟩) := by
  simp [register, he, howner]

/-- A call passes a static entity over, uses the record of the owner of the shape, or
makes the entity the owner of its shape. -/
theorem register_cases (r : Registry) (label : String) (e : Entity) :
    (e.isStatic = true ∧ r.register label e = (.unshared, r)) ∨
    (e.isStatic = false ∧ ∃ owner, r.owner? e.shape = some owner ∧
      r.register label e =
        (.alias owner.label, ⟨r.entries ++ [⟨e.spawn.name, owner.label, none⟩]⟩)) ∨
    (e.isStatic = false ∧ r.owner? e.shape = none ∧
      r.register label e = (.owner (r.freeLabel label),
        ⟨r.entries ++ [⟨e.spawn.name, r.freeLabel label, some e.shape⟩]⟩)) := by
  cases he : e.isStatic with
  | true => exact .inl ⟨rfl, r.register_static label he⟩
  | false =>
      cases howner : r.owner? e.shape with
      | some owner => exact .inr (.inl ⟨rfl, owner, rfl, register_shared label he howner⟩)
      | none => exact .inr (.inr ⟨rfl, rfl, register_first label he howner⟩)

/-- A call leaves the registry with what it keeps of that call. -/
theorem entries_register (r : Registry) (label : String) (e : Entity) :
    (r.register label e).2.entries =
      r.entries ++ (Call.entry? ⟨label, e, (r.register label e).1⟩).toList := by
  rcases r.register_cases label e with ⟨-, hcall⟩ | ⟨-, owner, -, hcall⟩ | ⟨-, -, hcall⟩
  · rw [hcall]
    simp [Call.entry?]
  · rw [hcall]
    rfl
  · rw [hcall]
    rfl

/-- Only static entities get no label. -/
theorem label?_register_eq_none {r : Registry} {label : String} {e : Entity} :
    (r.register label e).1.label? = none ↔ e.isStatic = true := by
  rcases r.register_cases label e with ⟨he, hcall⟩ | ⟨he, owner, -, hcall⟩ | ⟨he, -, hcall⟩ <;>
    simp [hcall, he, Registration.label?]

/-- Only the first entity of a shape becomes its owner. -/
theorem owner?_register (r : Registry) (label : String) (a : Entity) (shape : Shape) :
    ((r.register label a).2.owner? shape).map Entry.label =
      ((r.owner? shape).map Entry.label).or
        (if a.isStatic = false ∧ a.shape = shape then (r.register label a).1.label?
          else none) := by
  rcases r.register_cases label a with
    ⟨ha, hcall⟩ | ⟨-, owner, howner, hcall⟩ | ⟨ha, howner, hcall⟩
  · simp [hcall, ha]
  · rw [hcall]
    by_cases hshape : a.shape = shape
    · rw [hshape] at howner
      simp only [owner?] at howner ⊢
      simp [List.find?_append, howner]
    · simp [owner?, List.find?_append, hshape]
  · rw [hcall]
    by_cases hshape : a.shape = shape
    · rw [hshape] at howner ⊢
      simp only [owner?] at howner ⊢
      simp [List.find?_append, howner, ha, Registration.label?]
    · simp [owner?, List.find?_append, hshape]

/-! ### All calls -/

section

variable (requests : List (String × Entity))

theorem entries_serve :
    (empty.serve requests).2.entries = (empty.serve requests).1.filterMap Call.entry? := by
  induction requests using List.reverseRecOn with
  | nil => rfl
  | append_singleton requests request ih =>
      obtain ⟨label, e⟩ := request
      rw [serve_concat, entries_register, List.filterMap_append, ih]
      rfl

theorem requests_serve :
    (empty.serve requests).1.map (fun c => (c.label, c.entity)) = requests := by
  induction requests using List.reverseRecOn with
  | nil => rfl
  | append_singleton requests request ih =>
      obtain ⟨label, e⟩ := request
      rw [serve_concat, List.map_append, ih]
      rfl

variable {requests}

theorem label?_of_mem_serve {c : Call} (hc : c ∈ (empty.serve requests).1) :
    c.outcome.label? = none ↔ c.entity.isStatic = true := by
  induction requests using List.reverseRecOn with
  | nil => cases hc
  | append_singleton requests request ih =>
      obtain ⟨label, e⟩ := request
      rw [serve_concat] at hc
      rcases List.mem_append.1 hc with hc | hc
      · exact ih hc
      · rw [List.mem_singleton] at hc
        rw [hc]
        exact label?_register_eq_none

theorem isTaken_serve {label : String} :
    (empty.serve requests).2.isTaken label = true ↔
      ∃ c ∈ (empty.serve requests).1, c.outcome.label? = some label := by
  rw [isTaken_iff, entries_serve, List.map_filterMap, List.mem_filterMap]
  simp only [Call.map_label_entry?]

theorem serves_eq_true {e : Entity} {c : Call} :
    c.serves e = true ↔ c.entity.isStatic = false ∧ c.entity.shape = e.shape := by
  simp [Call.serves, Entity.sameBlocks_iff]

/-- Every entity that was registered with a record has received a label. -/
theorem label?_of_find?_serves {e : Entity} {c : Call}
    (hc : (empty.serve requests).1.find? (Call.serves e) = some c) :
    ∃ label, c.outcome.label? = some label := by
  rw [← Option.ne_none_iff_exists', ne_eq, label?_of_mem_serve (List.mem_of_find?_eq_some hc)]
  have hserves := List.find?_some hc
  rw [serves_eq_true] at hserves
  rw [hserves.1]
  exact Bool.false_ne_true

/-- The owner of a shape is the first dynamic entity that had it, and its
record goes under the label that this one received. -/
theorem owner?_serve (e : Entity) :
    ((empty.serve requests).2.owner? e.shape).map Entry.label =
      ((empty.serve requests).1.find? (Call.serves e)).bind fun c => c.outcome.label? := by
  induction requests using List.reverseRecOn with
  | nil => rfl
  | append_singleton requests request ih =>
      obtain ⟨label, a⟩ := request
      rw [serve_concat, owner?_register, ih, List.find?_append]
      cases hfind : (empty.serve requests).1.find? (Call.serves e) with
      | some c =>
          obtain ⟨l, hl⟩ := label?_of_find?_serves hfind
          simp [hl]
      | none =>
          rw [Option.bind_none, Option.none_or, Option.none_or]
          split
          · next hserves =>
              rw [List.find?_cons_of_pos (serves_eq_true.2 hserves), Option.bind_some]
          · next hserves =>
              rw [List.find?_cons_of_neg (fun h => hserves (serves_eq_true.1 h))]
              rfl

theorem owner?_serve_eq_none {e : Entity} :
    (empty.serve requests).2.owner? e.shape = none ↔
      ∀ c ∈ (empty.serve requests).1, c.serves e = false := by
  have hfirst := @owner?_serve requests e
  cases hfind : (empty.serve requests).1.find? (Call.serves e) with
  | none =>
      rw [hfind, Option.bind_none, Option.map_eq_none_iff] at hfirst
      simpa [hfirst] using hfind
  | some c =>
      obtain ⟨label, hlabel⟩ := label?_of_find?_serves hfind
      rw [hfind, Option.bind_some, hlabel] at hfirst
      have howner : (empty.serve requests).2.owner? e.shape ≠ none := by
        intro h
        rw [h] at hfirst
        cases hfirst
      have hc := List.find?_some hfind
      simp only [howner, false_iff, not_forall]
      exact ⟨c, List.mem_of_find?_eq_some hfind, by simp [hc]⟩

theorem isSome_entry?_of_mem_serve {c : Call} (hc : c ∈ (empty.serve requests).1) :
    c.entry?.isSome = !c.entity.isStatic := by
  have hlabel := label?_of_mem_serve hc
  rw [← c.map_label_entry?, Option.map_eq_none_iff] at hlabel
  cases hentry : c.entry? <;> simp_all

theorem labelOf?_serve (key : String) :
    (empty.serve requests).2.labelOf? key =
      ((empty.serve requests).1.find? fun c =>
        !c.entity.isStatic && c.entity.spawn.name == key).bind
          fun c => c.outcome.label? := by
  have hkept : ∀ c ∈ (empty.serve requests).1, c.entry?.any (fun e => e.key == key) =
      (!c.entity.isStatic && c.entity.spawn.name == key) := by
    intro c hc
    rw [← isSome_entry?_of_mem_serve hc]
    unfold Call.entry?
    cases c.outcome <;> rfl
  rw [labelOf?, entries_serve, List.find?_filterMap, List.find?_congr hkept,
    Option.map_bind]
  exact congrArg _ (funext Call.map_label_entry?)

theorem size_serve :
    (empty.serve requests).2.size =
      ((empty.serve requests).1.filter fun c => !c.entity.isStatic).length := by
  rw [size, entries_serve, List.length_filterMap_eq_countP, ← List.countP_eq_length_filter]
  exact List.countP_congr fun c hc => by rw [isSome_entry?_of_mem_serve hc]

/-- A shape has an owner exactly if a dynamic entity had it. -/
theorem owner?_serve_eq_none_iff_notMem {e : Entity} :
    (empty.serve requests).2.owner? e.shape = none ↔
      e.shape ∉ ((empty.serve requests).1.filter fun c => !c.entity.isStatic).map
        fun c => c.entity.shape := by
  rw [owner?_serve_eq_none]
  simp only [List.mem_map, List.mem_filter, Bool.not_eq_true', not_exists, not_and, and_imp]
  refine forall₂_congr fun c hc => ?_
  rw [← Bool.not_eq_true, serves_eq_true, not_and]

/-- There are as many owners as there are shapes of dynamic entities. -/
theorem owners_serve :
    (empty.serve requests).2.owners =
      (((empty.serve requests).1.filter fun c => !c.entity.isStatic).map
        fun c => c.entity.shape).toFinset.card := by
  induction requests using List.reverseRecOn with
  | nil => rfl
  | append_singleton requests request ih =>
      obtain ⟨label, a⟩ := request
      rw [serve_concat, List.filter_append, List.map_append, List.toFinset_append]
      rcases register_cases (empty.serve requests).2 label a with
        ⟨ha, hcall⟩ | ⟨ha, owner, howner, hcall⟩ | ⟨ha, howner, hcall⟩
      · simp [hcall, ha, ih]
      · have hmem : a.shape ∈ (((empty.serve requests).1.filter
            fun c => !c.entity.isStatic).map fun c => c.entity.shape) := by
          by_contra hmem
          rw [owner?_serve_eq_none_iff_notMem.2 hmem] at howner
          cases howner
        have hset := Finset.union_eq_left.2
          (Finset.singleton_subset_iff.2 (List.mem_toFinset.2 hmem))
        simp [hcall, ha, hset, ← ih, owners, List.countP_append]
      · have hnew := owner?_serve_eq_none_iff_notMem.1 howner
        rw [← List.mem_toFinset] at hnew
        simp [hcall, ha, ← ih, owners, List.countP_append, hnew, Finset.union_comm _ {a.shape}]

theorem owners_add_aliases (r : Registry) : r.owners + r.aliases = r.size := by
  have hle : r.owners ≤ r.size := List.countP_le_length
  rw [aliases]
  omega

/-- An entity whose blocks were registered before gets the label of the first
entity that had them. -/
theorem register_served (label : String) {e : Entity} (he : e.isStatic = false)
    (hserved : ∃ c ∈ (empty.serve requests).1, c.serves e = true) :
    ∃ c l, (empty.serve requests).1.find? (Call.serves e) = some c ∧
      c.outcome.label? = some l ∧
      ((empty.serve requests).2.register label e).1 = .alias l := by
  cases howner : (empty.serve requests).2.owner? e.shape with
  | none =>
      obtain ⟨c, hc, hserves⟩ := hserved
      rw [owner?_serve_eq_none.1 howner c hc] at hserves
      cases hserves
  | some owner =>
      have hfirst := @owner?_serve requests e
      rw [howner, Option.map_some] at hfirst
      obtain ⟨c, hc, hlabel⟩ := Option.bind_eq_some_iff.1 hfirst.symm
      exact ⟨c, owner.label, hc, hlabel, by rw [register_shared label he howner]⟩

/-- An entity whose blocks are new gets a label that is not in use. -/
theorem register_unserved (label : String) {e : Entity} (he : e.isStatic = false)
    (hserved : ¬∃ c ∈ (empty.serve requests).1, c.serves e = true) :
    ((empty.serve requests).2.register label e).1 =
      .owner ((empty.serve requests).2.freeLabel label) := by
  have howner : (empty.serve requests).2.owner? e.shape = none := by
    refine owner?_serve_eq_none.2 fun c hc => ?_
    rw [← Bool.not_eq_true]
    exact fun hserves => hserved ⟨c, hc, hserves⟩
  rw [register_first label he howner]

/-- An entity uses an earlier record exactly if its blocks were registered before. -/
theorem exists_register_eq_alias_iff (label : String) {e : Entity} (he : e.isStatic = false) :
    (∃ l, ((empty.serve requests).2.register label e).1 = .alias l) ↔
      ∃ c ∈ (empty.serve requests).1, c.serves e = true := by
  constructor
  · rintro ⟨l, hl⟩
    by_contra hserved
    rw [register_unserved label he hserved] at hl
    cases hl
  · intro hserved
    obtain ⟨c, l, -, -, houtcome⟩ := register_served label he hserved
    exact ⟨l, houtcome⟩

theorem label?_of_register_eq_alias {label l : String} {e : Entity} (he : e.isStatic = false)
    (hl : ((empty.serve requests).2.register label e).1 = .alias l) :
    ∃ c, (empty.serve requests).1.find? (Call.serves e) = some c ∧
      c.outcome.label? = some l := by
  obtain ⟨c, l', hc, hlabel, houtcome⟩ :=
    register_served label he ((exists_register_eq_alias_iff label he).1 ⟨l, hl⟩)
  rw [hl, Registration.alias.injEq] at houtcome
  exact ⟨c, hc, houtcome ▸ hlabel⟩

/-- A label that is not in use is kept as it is, and any other gets the least number that
makes it one. -/
theorem freeLabel_serve (requests : List (String × Entity)) (label : String) :
    let used := fun l => ∃ c ∈ (empty.serve requests).1, c.outcome.label? = some l
    let free := (empty.serve requests).2.freeLabel label
    ¬used free ∧
      (¬used label ∧ free = label ∨
        used label ∧ ∃ n, 2 ≤ n ∧ free = numbered label n ∧
          ∀ m, 2 ≤ m → m < n → used (numbered label m)) := by
  intro used free
  have hused : ∀ l, (empty.serve requests).2.isTaken l = true ↔ used l := fun l => isTaken_serve
  constructor
  · rw [← hused, isTaken_freeLabel]
    exact Bool.false_ne_true
  · by_cases htaken : (empty.serve requests).2.isTaken label = true
    · obtain ⟨n, hn, hlabel, -, hbelow⟩ := freeLabel_of_taken htaken
      exact .inr ⟨(hused label).1 htaken, n, hn, hlabel,
        fun m hm hmn => (hused _).1 (hbelow m hm hmn)⟩
    · exact .inl ⟨fun h => htaken ((hused label).2 h), freeLabel_of_free (by simpa using htaken)⟩

theorem getElem?_serve (before after : List (String × Entity)) (label : String) (e : Entity) :
    (empty.serve (before ++ (label, e) :: after)).1[before.length]? =
      some ⟨label, e, ((empty.serve before).2.register label e).1⟩ := by
  have hlength : before.length = (empty.serve before).1.length := by
    rw [← congrArg List.length (requests_serve before), List.length_map]
  rw [serve_append, serve_cons, hlength, List.getElem?_append_right le_rfl, Nat.sub_self]
  rfl

end

/-- What a registry answers in the course of a run. An entity gets the record
of the first entity with the same blocks; only if there is none does it get
one of its own, under the label it asked for or the least numbered form of it
that is not in use. Static entities take no part. -/
theorem serve_outcomes (requests : List (String × Entity)) :
    (∀ before label e after, requests = before ++ (label, e) :: after →
      let calls := (empty.serve before).1
      let r := (empty.serve before).2
      let outcome := (r.register label e).1
      let used := fun l => ∃ c ∈ calls, c.outcome.label? = some l
      (empty.serve requests).1[before.length]? = some ⟨label, e, outcome⟩ ∧
      (e.isStatic = true → r.register label e = (.unshared, r)) ∧
      (e.isStatic = false →
        ((∃ l, outcome = .alias l) ↔ ∃ c ∈ calls, c.serves e = true) ∧
        (∀ l, outcome = .alias l →
          ∃ c, calls.find? (Call.serves e) = some c ∧ c.outcome.label? = some l) ∧
        ((¬∃ c ∈ calls, c.serves e = true) →
          ∃ l, outcome = .owner l ∧ ¬used l ∧
            (¬used label ∧ l = label ∨
              used label ∧ ∃ n, 2 ≤ n ∧ l = numbered label n ∧
                ∀ m, 2 ≤ m → m < n → used (numbered label m))))) ∧
    let calls := (empty.serve requests).1
    let r := (empty.serve requests).2
    let dynamics := calls.filter fun c => !c.entity.isStatic
    calls.map (fun c => (c.label, c.entity)) = requests ∧
    r.owners = (dynamics.map fun c => c.entity.shape).toFinset.card ∧
    r.owners + r.aliases = r.size ∧ r.size = dynamics.length ∧
    ∀ key, r.labelOf? key =
      (dynamics.find? fun c => c.entity.spawn.name == key).bind
        fun c => c.outcome.label? := by
  refine ⟨?_, requests_serve requests, owners_serve, owners_add_aliases _, size_serve, ?_⟩
  · rintro before label e after rfl calls r outcome used
    refine ⟨getElem?_serve before after label e, r.register_static label, fun he => ⟨?_, ?_, ?_⟩⟩
    · exact exists_register_eq_alias_iff label he
    · exact fun l hl => label?_of_register_eq_alias he hl
    · exact fun hserved =>
        ⟨r.freeLabel label, register_unserved label he hserved, freeLabel_serve before label⟩
  · intro key
    rw [labelOf?_serve, List.find?_filter]
    simp only [Bool.decide_and, Bool.decide_eq_true]

/-- A numbered form is passed over if it was asked for before. -/
example :
    let bat : String → Entity := fun speed =>
      ⟨"Bat", 1, ⟨"Bat", .zero, .zero, [⟨"Speed", .word, speed, []⟩]⟩, [], [], false⟩
    let requests := [("Bat", bat "1"), ("Bat_2", bat "2"), ("Bat", bat "3"), ("Bat", bat "2")]
    (empty.serve requests).1.map Call.outcome =
      [.owner "Bat", .owner "Bat_2", .owner "Bat_3", .alias "Bat_2"] := by
  decide +kernel

end Registry

end Export

end Cartridge
