import Cartridge.Proofs.Registry.Run

/-!
Entities placed in turn. Placing is registering, so each dynamic entity is
placed under the label of a record that was laid down for an entity of the same
shape, and no two of these records have one label.
-/

namespace Cartridge.Export

/-- Where the entity of a call is placed. -/
def Call.placed (c : Call) : Placed :=
  match c.outcome with
  | .owner label => ⟨c.entity, label, true⟩
  | .alias label => ⟨c.entity, label, false⟩
  | .unshared => ⟨c.entity, c.label, true⟩

@[simp] theorem Call.entity_placed (c : Call) : c.placed.entity = c.entity := by
  unfold placed
  cases c.outcome <;> rfl

namespace Registration

/-- The label of a record that is laid down for the entity itself. -/
def owned? : Registration → Option String
  | .owner label => some label
  | _ => none

@[simp] theorem owned?_eq_some {o : Registration} {label : String} :
    o.owned? = some label ↔ o = .owner label := by
  cases o <;> simp [owned?]

end Registration

namespace Registry

theorem place_eq_register (r : Registry) (label : String) (e : Entity) :
    r.place label e =
      (Call.placed ⟨label, e, (r.register label e).1⟩, (r.register label e).2) := by
  rw [place]
  obtain ⟨outcome, r⟩ := r.register label e
  cases outcome <;> rfl

/-- Entities are placed as the calls that register them come out. -/
theorem placeAll_eq_serve (label : Entity → String) (r : Registry) (es : List Entity) :
    r.placeAll label es =
      ((r.serve (es.map fun e => (label e, e))).1.map Call.placed,
        (r.serve (es.map fun e => (label e, e))).2) := by
  induction es generalizing r with
  | nil => rfl
  | cons e rest ih =>
      rw [placeAll, place_eq_register]
      simp only [ih, List.map_cons, serve_cons]

/-! ### Records of a run -/

section

variable {requests : List (String × Entity)}

theorem serves_of_shape {a b : Entity} (h : a.shape = b.shape) : Call.serves a = Call.serves b := by
  funext c
  rw [Bool.eq_iff_iff, serves_eq_true, serves_eq_true, h]

/-- A dynamic entity goes by the label of the first one of its shape, which owns
the record under that label. -/
theorem exists_first_of_mem_serve {c : Call} (hc : c ∈ (empty.serve requests).1)
    (hdynamic : c.entity.isStatic = false) :
    ∃ d label, (empty.serve requests).1.find? (Call.serves c.entity) = some d ∧
      d.outcome = .owner label ∧ c.outcome.label? = some label := by
  induction requests using List.reverseRecOn generalizing c with
  | nil => cases hc
  | append_singleton requests request ih =>
      obtain ⟨requested, e⟩ := request
      rw [serve_concat] at hc ⊢
      rcases List.mem_append.1 hc with hc | hc
      · obtain ⟨d, label, hfind, hlabels⟩ := ih hc hdynamic
        exact ⟨d, label, by rw [List.find?_append, hfind, Option.some_or], hlabels⟩
      · rw [List.mem_singleton] at hc
        subst hc
        have hdynamic : e.isStatic = false := hdynamic
        by_cases hserved : ∃ d ∈ (empty.serve requests).1, d.serves e = true
        · obtain ⟨d, label, hfind, hlabel, houtcome⟩ := register_served requested hdynamic hserved
          obtain ⟨hd, hshape⟩ := serves_eq_true.1 (List.find?_some hfind)
          -- The first of a shape is also the first of its own shape, so it is an owner.
          obtain ⟨d', label', hfind', howner, hlabel'⟩ := ih (List.mem_of_find?_eq_some hfind) hd
          rw [serves_of_shape hshape, hfind] at hfind'
          cases hfind'
          rw [hlabel] at hlabel'
          cases hlabel'
          exact ⟨d, label, by rw [List.find?_append, hfind, Option.some_or], howner,
            by rw [houtcome]; rfl⟩
        · have houtcome := register_unserved requested hdynamic hserved
          have hnone : (empty.serve requests).1.find? (Call.serves e) = none := by
            simpa using hserved
          refine ⟨⟨requested, e, _⟩, _, ?_, houtcome, congrArg Registration.label? houtcome⟩
          rw [List.find?_append, hnone, Option.none_or,
            List.find?_cons_of_pos (serves_eq_true.2 ⟨hdynamic, rfl⟩)]

/-- A call that needs no record of its own uses that of an earlier entity of
the same shape. -/
theorem exists_owner_of_alias {c : Call} {label : String}
    (hc : c ∈ (empty.serve requests).1) (hlabel : c.outcome = .alias label) :
    ∃ d ∈ (empty.serve requests).1, d.outcome = .owner label ∧
      d.entity.shape = c.entity.shape := by
  have hdynamic : c.entity.isStatic = false := by
    rw [← Bool.not_eq_true, ← label?_of_mem_serve hc, hlabel]
    exact Option.some_ne_none label
  obtain ⟨d, l, hfind, howner, hl⟩ := exists_first_of_mem_serve hc hdynamic
  rw [hlabel] at hl
  cases hl
  exact ⟨d, List.mem_of_find?_eq_some hfind, howner,
    (serves_eq_true.1 (List.find?_some hfind)).2⟩

/-- No two records are laid down under one label. -/
theorem nodup_owned_labels :
    ((empty.serve requests).1.filterMap fun c => c.outcome.owned?).Nodup := by
  induction requests using List.reverseRecOn with
  | nil => exact List.nodup_nil
  | append_singleton requests request ih =>
      obtain ⟨label, e⟩ := request
      rw [serve_concat, List.filterMap_append, List.nodup_append]
      refine ⟨ih, ?_, ?_⟩
      · rw [List.filterMap_cons]
        split <;> simp
      · intro a ha b hb hab
        obtain ⟨c, hc, hca⟩ := List.mem_filterMap.1 ha
        simp only [List.mem_filterMap, List.mem_singleton, exists_eq_left] at hb
        rw [Registration.owned?_eq_some] at hca hb
        -- Earlier records hold their labels, and a new one gets a label that is free.
        have htaken : (empty.serve requests).2.isTaken a = true :=
          isTaken_serve.2 ⟨c, hc, by rw [hca]; rfl⟩
        rcases register_cases (empty.serve requests).2 label e with
          ⟨-, hcall⟩ | ⟨-, owner, -, hcall⟩ | ⟨-, -, hcall⟩ <;> rw [hcall] at hb <;> cases hb
        rw [hab, isTaken_freeLabel] at htaken
        cases htaken

/-- A record goes under the label that was asked for it or a numbered form of
that label. -/
theorem owned_label_of_mem {c : Call} {label : String}
    (hc : c ∈ (empty.serve requests).1) (hlabel : c.outcome = .owner label) :
    label = c.label ∨ ∃ n, label = numbered c.label n := by
  induction requests using List.reverseRecOn with
  | nil => cases hc
  | append_singleton requests request ih =>
      obtain ⟨requested, e⟩ := request
      rw [serve_concat] at hc
      rcases List.mem_append.1 hc with hc | hc
      · exact ih hc
      · rw [List.mem_singleton] at hc
        subst hc
        rcases register_cases (empty.serve requests).2 requested e with
          ⟨-, hcall⟩ | ⟨-, owner, -, hcall⟩ | ⟨-, -, hcall⟩ <;>
          simp only [hcall] at hlabel <;> cases hlabel
        cases htaken : (empty.serve requests).2.isTaken requested with
        | false => exact .inl (freeLabel_of_free htaken)
        | true =>
            obtain ⟨n, -, hn, -⟩ := freeLabel_of_taken htaken
            exact .inr ⟨n, hn⟩

end

/-! ### Placed entities -/

theorem request_mem_of_mem_serve {requests : List (String × Entity)} {c : Call}
    (hc : c ∈ (empty.serve requests).1) : (c.label, c.entity) ∈ requests := by
  rw [← requests_serve requests]
  exact List.mem_map.2 ⟨c, hc, rfl⟩

/-- Where the entities of requests are placed. -/
def placed (requests : List (String × Entity)) : List Placed :=
  (empty.serve requests).1.map Call.placed

section

variable {requests : List (String × Entity)}

/-- The calls that register dynamic entities make each of them the owner of a
record or the user of one. -/
theorem owner_or_alias_of_mem_serve (hdynamic : ∀ request ∈ requests, request.2.isStatic = false)
    {c : Call} (hc : c ∈ (empty.serve requests).1) :
    (∃ l, c.outcome = .owner l) ∨ ∃ l, c.outcome = .alias l := by
  have hlabel := label?_of_mem_serve hc
  rw [hdynamic _ (request_mem_of_mem_serve hc)] at hlabel
  rcases houtcome : c.outcome with l | l | _
  · exact .inl ⟨l, rfl⟩
  · exact .inr ⟨l, rfl⟩
  · rw [houtcome] at hlabel
    cases hlabel.1 rfl

/-- Every dynamic entity is placed at a record that is laid down for an entity
of the same shape. -/
theorem exists_owned_of_mem_placed (hdynamic : ∀ request ∈ requests, request.2.isStatic = false)
    {p : Placed} (hp : p ∈ placed requests) :
    ∃ q ∈ placed requests, q.owned = true ∧ q.label = p.label ∧
      q.entity.shape = p.entity.shape := by
  obtain ⟨c, hc, rfl⟩ := List.mem_map.1 hp
  rcases owner_or_alias_of_mem_serve hdynamic hc with ⟨l, hl⟩ | ⟨l, hl⟩
  · exact ⟨c.placed, hp, by rw [Call.placed, hl], rfl, rfl⟩
  · obtain ⟨d, hd, howner, hshape⟩ := exists_owner_of_alias hc hl
    refine ⟨d.placed, List.mem_map_of_mem hd, ?_, ?_, ?_⟩
    · rw [Call.placed, howner]
    · rw [Call.placed, Call.placed, howner, hl]
    · rw [d.entity_placed, c.entity_placed, hshape]

/-- The record of a dynamic entity is the one that was laid down for the first
entity of its shape. -/
theorem exists_first_of_mem_placed (hdynamic : ∀ request ∈ requests, request.2.isStatic = false)
    {p : Placed} (hp : p ∈ placed requests) :
    ∃ q, (placed requests).find? (fun a => decide (a.entity.SameBlocks p.entity)) = some q ∧
      q.owned = true ∧ q.label = p.label := by
  obtain ⟨c, hc, rfl⟩ := List.mem_map.1 hp
  have hcalls : ∀ d ∈ (empty.serve requests).1,
      d.serves c.entity = decide (d.placed.entity.SameBlocks c.placed.entity) := by
    intro d hd
    have hd : d.entity.isStatic = false := hdynamic _ (request_mem_of_mem_serve hd)
    rw [Call.serves, hd, d.entity_placed, c.entity_placed, Bool.not_false, Bool.true_and]
  obtain ⟨d, label, hfind, howner, hlabel⟩ :=
    exists_first_of_mem_serve hc (hdynamic _ (request_mem_of_mem_serve hc))
  rw [List.find?_congr hcalls] at hfind
  refine ⟨d.placed, ?_, by rw [Call.placed, howner], ?_⟩
  · rw [placed, List.find?_map, Function.comp_def, hfind, Option.map_some]
  · rw [Call.placed, howner]
    rcases owner_or_alias_of_mem_serve hdynamic hc with ⟨l, hl⟩ | ⟨l, hl⟩
    · rw [Call.placed, hl]
      rw [hl] at hlabel
      exact (Option.some.inj hlabel).symm
    · rw [Call.placed, hl]
      rw [hl] at hlabel
      exact (Option.some.inj hlabel).symm

/-- Dynamic entities of one shape share a record. -/
theorem label_eq_of_shape (hdynamic : ∀ request ∈ requests, request.2.isStatic = false)
    {p q : Placed} (hp : p ∈ placed requests) (hq : q ∈ placed requests)
    (hshape : p.entity.shape = q.entity.shape) : p.label = q.label := by
  obtain ⟨first, hfirst, -, hplabel⟩ := exists_first_of_mem_placed hdynamic hp
  obtain ⟨first', hfirst', -, hqlabel⟩ := exists_first_of_mem_placed hdynamic hq
  simp only [Entity.sameBlocks_iff, hshape] at hfirst hfirst'
  rw [hfirst] at hfirst'
  cases hfirst'
  rw [← hplabel, hqlabel]

theorem owned_labels_placed (hdynamic : ∀ request ∈ requests, request.2.isStatic = false) :
    ((placed requests).filter Placed.owned).map Placed.label =
      (empty.serve requests).1.filterMap fun c => c.outcome.owned? := by
  have hcalls : ∀ c ∈ (empty.serve requests).1,
      (Option.guard Placed.owned c.placed).map Placed.label = c.outcome.owned? := by
    intro c hc
    rcases owner_or_alias_of_mem_serve hdynamic hc with ⟨l, hl⟩ | ⟨l, hl⟩
    · simp [Call.placed, hl, Registration.owned?]
    · simp [Call.placed, hl, Registration.owned?]
  rw [placed, ← List.filterMap_eq_filter, List.map_filterMap, List.filterMap_map]
  exact List.filterMap_congr hcalls

theorem nodup_owned_labels_placed (hdynamic : ∀ request ∈ requests, request.2.isStatic = false) :
    (((placed requests).filter Placed.owned).map Placed.label).Nodup := by
  rw [owned_labels_placed hdynamic]
  exact nodup_owned_labels

theorem owned_label_mem_of_mem_placed
    (hdynamic : ∀ request ∈ requests, request.2.isStatic = false) {p : Placed}
    (hp : p ∈ placed requests) :
    p.label ∈ ((placed requests).filter Placed.owned).map Placed.label := by
  obtain ⟨q, hq, howned, hlabel, -⟩ := exists_owned_of_mem_placed hdynamic hp
  rw [← hlabel]
  exact List.mem_map_of_mem (List.mem_filter.2 ⟨hq, howned⟩)

/-- The label of a placed entity is one that was asked for or a numbered form
of it. -/
theorem label_of_mem_placed {p : Placed} (hp : p ∈ placed requests) :
    ∃ request ∈ requests, p.label = request.1 ∨ ∃ n, p.label = numbered request.1 n := by
  obtain ⟨c, hc, rfl⟩ := List.mem_map.1 hp
  rcases houtcome : c.outcome with l | l | _
  · rw [Call.placed, houtcome]
    exact ⟨_, request_mem_of_mem_serve hc, owned_label_of_mem hc houtcome⟩
  · obtain ⟨d, hd, howner, -⟩ := exists_owner_of_alias hc houtcome
    rw [Call.placed, houtcome]
    exact ⟨_, request_mem_of_mem_serve hd, owned_label_of_mem hd howner⟩
  · rw [Call.placed, houtcome]
    exact ⟨_, request_mem_of_mem_serve hc, .inl rfl⟩

end

/-! ### Static entities beside dynamic ones -/

/-- Static entities leave no trace: the dynamic ones are registered as they would
be without them. -/
theorem serve_filter (r : Registry) (requests : List (String × Entity)) :
    r.serve (requests.filter fun request => !request.2.isStatic) =
      ((r.serve requests).1.filter fun c => !c.entity.isStatic, (r.serve requests).2) := by
  induction requests generalizing r with
  | nil => rfl
  | cons request rest ih =>
      obtain ⟨label, e⟩ := request
      cases he : e.isStatic with
      | true =>
          rw [List.filter_cons_of_neg (by simp [he]), ih, serve_cons,
            List.filter_cons_of_neg (by simp [he]), r.register_static label he]
      | false =>
          rw [List.filter_cons_of_pos (by simp [he]), serve_cons, ih, serve_cons,
            List.filter_cons_of_pos (by simp [he])]

theorem filter_dynamic_placed (requests : List (String × Entity)) :
    (placed requests).filter (fun p => !p.entity.isStatic) =
      placed (requests.filter fun request => !request.2.isStatic) := by
  have hentity : (fun p : Placed => !p.entity.isStatic) ∘ Call.placed =
      fun c => !c.entity.isStatic := by
    funext c
    simp
  rw [placed, placed, serve_filter, List.filter_map, hentity]

/-- A static entity gets what it asked for. -/
theorem placed_of_static {requests : List (String × Entity)} {c : Call}
    (hc : c ∈ (empty.serve requests).1) (hstatic : c.entity.isStatic = true) :
    c.placed = ⟨c.entity, c.label, true⟩ := by
  have hlabel := (label?_of_mem_serve hc).2 hstatic
  rcases houtcome : c.outcome with l | l | _
  · rw [houtcome] at hlabel
    cases hlabel
  · rw [houtcome] at hlabel
    cases hlabel
  · rw [Call.placed, houtcome]

theorem owned_static_labels_placed (requests : List (String × Entity)) :
    (((placed requests).filter Placed.owned).filter fun p => p.entity.isStatic).map Placed.label =
      (requests.filter fun request => request.2.isStatic).map Prod.fst := by
  have hcalls : ∀ c ∈ (empty.serve requests).1.filter fun c => c.entity.isStatic,
      c.placed = ⟨c.entity, c.label, true⟩ := by
    intro c hc
    rw [List.mem_filter] at hc
    exact placed_of_static hc.1 hc.2
  have hentity : (fun p : Placed => p.entity.isStatic) ∘ Call.placed =
      fun c => c.entity.isStatic := by
    funext c
    simp
  have howned : ∀ c ∈ (empty.serve requests).1.filter fun c => c.entity.isStatic,
      (Placed.owned ∘ Call.placed) c = true := by
    intro c hc
    rw [Function.comp_apply, hcalls c hc]
  have hlabels : ∀ c ∈ (empty.serve requests).1.filter fun c => c.entity.isStatic,
      (Placed.label ∘ Call.placed) c = c.label := by
    intro c hc
    rw [Function.comp_apply, hcalls c hc]
  conv_rhs => rw [← requests_serve requests, List.filter_map, List.map_map]
  rw [List.filter_comm, placed, List.filter_map, hentity, List.filter_map,
    List.filter_eq_self.2 howned, List.map_map, List.map_congr_left hlabels]
  rfl

/-- Records are laid down for the dynamic entities as if they were alone, and for
each static one under the label that it asked for. -/
theorem owned_labels_perm (requests : List (String × Entity)) :
    (((placed requests).filter Placed.owned).map Placed.label).Perm
      (((placed (requests.filter fun request => !request.2.isStatic)).filter Placed.owned).map
          Placed.label ++
        (requests.filter fun request => request.2.isStatic).map Prod.fst) := by
  have hsplit := List.filter_append_perm (fun p => !p.entity.isStatic)
    ((placed requests).filter Placed.owned)
  simp only [Bool.not_not] at hsplit
  rw [List.filter_comm, filter_dynamic_placed] at hsplit
  have hlabels := hsplit.symm.map Placed.label
  rwa [List.map_append, owned_static_labels_placed] at hlabels

/-! ### Entities placed in turn -/

section

variable {label : Entity → String} {es : List Entity}

theorem entities_placeAll (r : Registry) : (r.placeAll label es).1.map Placed.entity = es := by
  induction es generalizing r with
  | nil => rfl
  | cons e rest ih =>
      rw [placeAll, place_eq_register, List.map_cons, ih, Call.entity_placed]

theorem placeAll_eq_placed :
    (empty.placeAll label es).1 = placed (es.map fun e => (label e, e)) := by
  rw [placeAll_eq_serve, placed]

end

end Registry

end Cartridge.Export
