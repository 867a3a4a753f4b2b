import Cartridge.Proofs.Registry.Run

/-!
The order of requests. If no two requests ask for one label, no label is ever
numbered, and what comes of a request can be read off the list it stands in: it
owns the record if it is the first of its shape, and else it uses the record of
the first. So the order of requests of different shapes makes no difference:
`serve_perm`.
-/

namespace Cartridge.Export

/-! ### What stands first -/

section

variable {α : Type} {p : α → Bool} {xs ys : List α} {a b : α}

/-- The first item with a property stands before all others that have it. -/
theorem pair_sublist_of_find? (ha : xs.find? p = some a) (hb : b ∈ xs) (hpb : p b = true)
    (hne : a ≠ b) : [a, b].Sublist xs := by
  obtain ⟨-, before, after, rfl, hbefore⟩ := List.find?_eq_some_iff_append.1 ha
  have hafter : b ∈ after := by
    rcases List.mem_append.1 hb with hb | hb
    · have := hbefore b hb
      rw [hpb] at this
      cases this
    · exact (List.mem_cons.1 hb).resolve_left hne.symm
  exact ((List.singleton_sublist.2 hafter).cons_cons a).trans (List.sublist_append_right _ _)

theorem not_pair_sublist_swap (hnodup : xs.Nodup) (hab : [a, b].Sublist xs) :
    ¬[b, a].Sublist xs := by
  intro hba
  induction xs with
  | nil => cases hab
  | cons x xs ih =>
      obtain ⟨hx, hnodup⟩ := List.nodup_cons.1 hnodup
      cases hab with
      | cons _ hab =>
          cases hba with
          | cons _ hba => exact ih hnodup hab hba
          | cons_cons => exact hx (hab.subset (by simp))
      | cons_cons _ hb =>
          cases hba with
          | cons _ hba => exact hx (hba.subset (by simp))
          | cons_cons => exact hx (hb.subset (by simp))

/-- Of the same items in another order, the same one stands first if those with the
property keep their order. -/
theorem find?_eq_of_perm (hnodup : ys.Nodup) (hperm : xs.Perm ys)
    (horder : ∀ a b, p a = true → p b = true → [a, b].Sublist xs → [a, b].Sublist ys) :
    xs.find? p = ys.find? p := by
  cases hx : xs.find? p with
  | none =>
      rw [List.find?_eq_none] at hx
      exact (List.find?_eq_none.2 fun b hb => hx b (hperm.mem_iff.2 hb)).symm
  | some a =>
      have ha := List.find?_some hx
      have hmem := hperm.mem_iff.1 (List.mem_of_find?_eq_some hx)
      cases hy : ys.find? p with
      | none => exact absurd ha (List.find?_eq_none.1 hy a hmem)
      | some b =>
          have hb := List.find?_some hy
          rw [Option.some.injEq]
          by_contra hne
          have hab := pair_sublist_of_find? hx
            (hperm.mem_iff.2 (List.mem_of_find?_eq_some hy)) hb hne
          exact not_pair_sublist_swap hnodup (horder a b ha hb hab)
            (pair_sublist_of_find? hy hmem ha (Ne.symm hne))

end

namespace Registry

/-- A request for a dynamic entity with the blocks of `e`. -/
def asksFor (e : Entity) (request : String × Entity) : Bool :=
  !request.2.isStatic && decide (request.2.SameBlocks e)

theorem asksFor_eq_true {e : Entity} {request : String × Entity} :
    asksFor e request = true ↔ request.2.isStatic = false ∧ request.2.shape = e.shape := by
  simp [asksFor, Entity.sameBlocks_iff]

theorem asksFor_of_shape {a b : Entity} (h : a.shape = b.shape) : asksFor a = asksFor b := by
  funext request
  rw [Bool.eq_iff_iff, asksFor_eq_true, asksFor_eq_true, h]

/-- What comes of a request among requests for different labels. -/
def outcomeAmong (requests : List (String × Entity)) (request : String × Entity) :
    Registration :=
  if request.2.isStatic then .unshared
  else
    match requests.find? (asksFor request.2) with
    | some first => if first.1 = request.1 then .owner first.1 else .alias first.1
    | none => .owner request.1

section

variable {requests : List (String × Entity)} {request : String × Entity}

theorem exists_find?_asksFor (hmem : request ∈ requests) (hdynamic : request.2.isStatic = false) :
    ∃ first, requests.find? (asksFor request.2) = some first := by
  rw [← Option.isSome_iff_exists, List.find?_isSome]
  exact ⟨request, hmem, asksFor_eq_true.2 ⟨hdynamic, rfl⟩⟩

/-- Later requests make no difference to earlier ones. -/
theorem outcomeAmong_append (later : List (String × Entity)) (hmem : request ∈ requests) :
    outcomeAmong (requests ++ later) request = outcomeAmong requests request := by
  rw [outcomeAmong, outcomeAmong]
  by_cases hstatic : request.2.isStatic = true
  · rw [if_pos hstatic, if_pos hstatic]
  · rw [Bool.not_eq_true] at hstatic
    obtain ⟨first, hfirst⟩ := exists_find?_asksFor hmem hstatic
    rw [List.find?_append, hfirst, Option.some_or]

/-- The first request of a shape owns its record. -/
theorem outcomeAmong_first {e : Entity} {first : String × Entity}
    (hfirst : requests.find? (asksFor e) = some first) :
    outcomeAmong requests first = .owner first.1 := by
  obtain ⟨hdynamic, hshape⟩ := asksFor_eq_true.1 (List.find?_some hfirst)
  simp [outcomeAmong, hdynamic, asksFor_of_shape hshape, hfirst]

theorem label?_outcomeAmong_mem {label : String} (hmem : request ∈ requests)
    (hlabel : (outcomeAmong requests request).label? = some label) :
    label ∈ requests.map Prod.fst := by
  rw [outcomeAmong] at hlabel
  by_cases hstatic : request.2.isStatic = true
  · rw [if_pos hstatic] at hlabel
    cases hlabel
  · rw [if_neg hstatic] at hlabel
    rw [Bool.not_eq_true] at hstatic
    obtain ⟨first, hfirst⟩ := exists_find?_asksFor hmem hstatic
    obtain rfl : first.1 = label := by
      rw [hfirst] at hlabel
      dsimp only at hlabel
      split at hlabel
      · exact Option.some.inj hlabel
      · exact Option.some.inj hlabel
    exact List.mem_map_of_mem (List.mem_of_find?_eq_some hfirst)

end

section

variable {requests : List (String × Entity)} {label : String} {e : Entity}

/-- What comes of the last request, if its label is new. -/
theorem outcomeAmong_concat (hnew : label ∉ requests.map Prod.fst) :
    outcomeAmong (requests ++ [(label, e)]) (label, e) =
      if e.isStatic then .unshared
      else ((requests.find? (asksFor e)).map fun first => Registration.alias first.1).getD
        (.owner label) := by
  cases he : e.isStatic with
  | true => simp [outcomeAmong, he]
  | false =>
      cases hfirst : requests.find? (asksFor e) with
      | none =>
          have hself : asksFor e (label, e) = true := asksFor_eq_true.2 ⟨he, rfl⟩
          simp [outcomeAmong, he, List.find?_append, hfirst, hself]
      | some first =>
          have hne : first.1 ≠ label := fun h =>
            hnew (h ▸ List.mem_map_of_mem (List.mem_of_find?_eq_some hfirst))
          simp [outcomeAmong, he, List.find?_append, hfirst, hne]

/-- After requests that came out as the list says, so does one for a new label. -/
theorem register_of_notMem
    (hserve : (empty.serve requests).1 =
      requests.map fun request => ⟨request.1, request.2, outcomeAmong requests request⟩)
    (hnew : label ∉ requests.map Prod.fst) :
    ((empty.serve requests).2.register label e).1 =
      outcomeAmong (requests ++ [(label, e)]) (label, e) := by
  have hfind : (empty.serve requests).1.find? (Call.serves e) =
      (requests.find? (asksFor e)).map fun request =>
        ⟨request.1, request.2, outcomeAmong requests request⟩ := by
    rw [hserve, List.find?_map]
    rfl
  rw [outcomeAmong_concat hnew]
  cases he : e.isStatic with
  | true => rw [register_static _ _ he, if_pos rfl]
  | false =>
      cases hfirst : requests.find? (asksFor e) with
      | none =>
          rw [hfirst, Option.map_none] at hfind
          have hfree : (empty.serve requests).2.isTaken label = false := by
            rw [← Bool.not_eq_true, isTaken_serve, hserve]
            rintro ⟨c, hc, hlabel⟩
            obtain ⟨request, hmem, rfl⟩ := List.mem_map.1 hc
            exact hnew (label?_outcomeAmong_mem hmem hlabel)
          rw [register_unserved label he (by simpa using hfind), freeLabel_of_free hfree]
          rfl
      | some first =>
          rw [hfirst, Option.map_some] at hfind
          obtain ⟨c, l, hc, hlabel, houtcome⟩ := register_served label he
            ⟨_, List.mem_of_find?_eq_some hfind, List.find?_some hfind⟩
          rw [hfind, Option.some.injEq] at hc
          rw [← hc, outcomeAmong_first hfirst] at hlabel
          obtain rfl : first.1 = l := Option.some.inj hlabel
          exact houtcome

end

/-- Requests for different labels come out as the list says. -/
theorem serve_of_nodup {requests : List (String × Entity)}
    (hlabels : (requests.map Prod.fst).Nodup) :
    (empty.serve requests).1 =
      requests.map fun request => ⟨request.1, request.2, outcomeAmong requests request⟩ := by
  induction requests using List.reverseRecOn with
  | nil => rfl
  | append_singleton requests request ih =>
      obtain ⟨label, e⟩ := request
      rw [List.map_append, List.map_singleton, List.nodup_append] at hlabels
      obtain ⟨hlabels, -, hnew⟩ := hlabels
      have hnew : label ∉ requests.map Prod.fst := fun hmem =>
        hnew label hmem label (List.mem_singleton_self label) rfl
      have hearlier : (empty.serve requests).1 = requests.map fun request =>
          ⟨request.1, request.2, outcomeAmong (requests ++ [(label, e)]) request⟩ := by
        rw [ih hlabels]
        exact List.map_congr_left fun request hmem => by rw [outcomeAmong_append _ hmem]
      rw [serve_concat, register_of_notMem (ih hlabels) hnew, List.map_append, ← hearlier,
        List.map_singleton]

/-- Requests for different labels come out the same in any order that keeps the
order of the dynamic entities of each shape. -/
theorem serve_perm {first second : List (String × Entity)} (hlabels : (first.map Prod.fst).Nodup)
    (hperm : first.Perm second)
    (horder : ∀ a b : String × Entity, a.2.isStatic = false → b.2.isStatic = false →
      a.2.SameBlocks b.2 → [a, b].Sublist first → [a, b].Sublist second) :
    (empty.serve first).1.Perm (empty.serve second).1 := by
  have hsecond : (second.map Prod.fst).Nodup := (hperm.map Prod.fst).nodup_iff.1 hlabels
  have hfind : ∀ e : Entity, first.find? (asksFor e) = second.find? (asksFor e) := by
    intro e
    refine find?_eq_of_perm hsecond.of_map hperm fun a b ha hb => ?_
    obtain ⟨ha, hashape⟩ := asksFor_eq_true.1 ha
    obtain ⟨hb, hbshape⟩ := asksFor_eq_true.1 hb
    exact horder a b ha hb (Entity.sameBlocks_iff.2 (hashape.trans hbshape.symm))
  have houtcome : outcomeAmong first = outcomeAmong second := by
    funext request
    rw [outcomeAmong, outcomeAmong, hfind]
  rw [serve_of_nodup hlabels, serve_of_nodup hsecond, houtcome]
  exact hperm.map _

/-- Two crates of one shape keep their order, and what stands between them moves. -/
theorem crates_served_in_any_order :
    let crate : String → Bool → Entity := fun weight isStatic =>
      ⟨"Crate", 1, ⟨"Crate", .zero, .zero, [⟨"Weight", .word, weight, []⟩]⟩, [], [], isStatic⟩
    let first := [("Heavy", crate "9" false), ("Left", crate "1" false),
      ("Lamp", crate "1" true), ("Right", crate "1" false)]
    let second := [("Left", crate "1" false), ("Right", crate "1" false),
      ("Heavy", crate "9" false), ("Lamp", crate "1" true)]
    (first.map Prod.fst).Nodup ∧ first.Perm second ∧
      (empty.serve second).1.map Call.outcome =
        [.owner "Left", .alias "Left", .owner "Heavy", .unshared] ∧
      (empty.serve first).1.Perm (empty.serve second).1 := by
  intro crate first second
  have hlabels : (first.map Prod.fst).Nodup := by decide
  have hperm : first.Perm second := by decide +kernel
  have horder : ∀ a ∈ first, ∀ b ∈ first, a.2.isStatic = false → b.2.isStatic = false →
      a.2.SameBlocks b.2 → [a, b].Sublist first → [a, b].Sublist second := by
    decide +kernel
  refine ⟨hlabels, hperm, by decide +kernel, serve_perm hlabels hperm fun a b ha hb hsame hab => ?_⟩
  exact horder a (hab.subset (by simp)) b (hab.subset (by simp)) ha hb hsame hab

end Registry

end Cartridge.Export
