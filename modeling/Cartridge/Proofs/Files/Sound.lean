import Cartridge.Files.Path
import Cartridge.Proofs.Cutting
import Cartridge.Proofs.Files.Frame

/-!
Trees in good order: whatever there is lies in a directory, and second names belong
to directories only. All operations keep a tree in order. In such a tree a path that
leads to anything but a directory ends in the name of what it leads to, so files
with different names are never taken for each other, whatever the ways to them.
-/

namespace Cartridge.Files

open Cartridge.Text (splitAtChar splitAtChar_ne_nil)

structure Sound (fs : Files) : Prop where
  current : fs.get? fs.current = some .directory
  parents : ∀ place, fs.get? place ≠ none → fs.get? place.dropLast = some .directory
  links : ∀ link ∈ fs.links, fs.get? link.2 = some .directory

theorem get?_ne_none_iff {fs : Files} {place : Place} :
    fs.get? place ≠ none ↔ place = [] ∨ ∃ node ∈ fs.nodes, node.1 = place := by
  rw [get?]
  split
  · next hroot => simp [hroot]
  · next hroot => simp [hroot]

theorem sound_iff {fs : Files} :
    fs.Sound ↔ fs.get? fs.current = some .directory ∧
      (∀ node ∈ fs.nodes, fs.get? node.1.dropLast = some .directory) ∧
      ∀ link ∈ fs.links, fs.get? link.2 = some .directory := by
  constructor
  · rintro ⟨current, parents, links⟩
    exact ⟨current, fun node hnode =>
      parents _ (get?_ne_none_iff.2 (.inr ⟨node, hnode, rfl⟩)), links⟩
  · rintro ⟨current, nodes, links⟩
    refine ⟨current, fun place hplace => ?_, links⟩
    rcases get?_ne_none_iff.1 hplace with rfl | ⟨node, hnode, rfl⟩
    · rfl
    · exact nodes node hnode

instance (fs : Files) : Decidable fs.Sound :=
  decidable_of_iff _ sound_iff.symm

namespace Sound

variable {fs : Files} {start next place : Place} {piece : String} {pieces : List String}

theorem parent_of_directory (h : fs.Sound) (hplace : fs.get? place = some .directory) :
    fs.get? place.dropLast = some .directory :=
  h.parents place (by rw [hplace]; simp)

/-- A second name leads to a directory; any other name stands for its place. -/
theorem follow_cases (h : fs.Sound) (place : Place) :
    fs.get? (fs.follow place) = some .directory ∨ fs.follow place = place := by
  rw [follow]
  cases hfind : fs.links.find? fun link => link.1 == place with
  | none => exact .inr rfl
  | some link => exact .inl (h.links link (List.mem_of_find?_eq_some hfind))

theorem parent_of_step (h : fs.Sound) (hdirectory : fs.get? start = some .directory)
    (hstep : fs.Step start piece next) : fs.get? next.dropLast = some .directory := by
  cases hstep with
  | stay hdot => exact h.parent_of_directory hdirectory
  | up => exact h.parent_of_directory (h.parent_of_directory hdirectory)
  | name hname hlength =>
      rcases h.follow_cases (start ++ [piece]) with hlink | hplace
      · exact h.parent_of_directory hlink
      · rwa [hplace, List.dropLast_concat]

/-- A step from a directory ends at a directory or at what it names. -/
theorem last_of_step (h : fs.Sound) (hdirectory : fs.get? start = some .directory)
    (hstep : fs.Step start piece next) (hnext : fs.get? next ≠ some .directory) :
    next.getLast? = some piece ∧ piece ∉ ["", ".", ".."] := by
  cases hstep with
  | stay hdot => exact absurd hdirectory hnext
  | up => exact absurd (h.parent_of_directory hdirectory) hnext
  | name hname hlength =>
      rcases h.follow_cases (start ++ [piece]) with hlink | hplace
      · exact absurd hlink hnext
      · exact ⟨by rw [hplace, List.getLast?_concat], hname⟩

theorem parent_of_walk (h : fs.Sound) (hstart : fs.get? start.dropLast = some .directory)
    (hwalk : fs.walk start pieces = .ok place) : fs.get? place.dropLast = some .directory := by
  induction pieces generalizing start with
  | nil =>
      cases hwalk
      exact hstart
  | cons piece rest ih =>
      obtain ⟨hdirectory, next, hstep, hrest⟩ := walk_cons_eq_ok.1 hwalk
      exact ih (h.parent_of_step hdirectory hstep) hrest

/-- A way ends at a directory or in the name of what is there. -/
theorem last_of_walk (h : fs.Sound) (hne : pieces ≠ [])
    (hwalk : fs.walk start pieces = .ok place) (hplace : fs.get? place ≠ some .directory) :
    ∃ name, pieces.getLast? = some name ∧ place.getLast? = some name ∧
      name ∉ ["", ".", ".."] := by
  induction pieces generalizing start with
  | nil => exact absurd rfl hne
  | cons piece rest ih =>
      obtain ⟨hdirectory, next, hstep, hrest⟩ := walk_cons_eq_ok.1 hwalk
      cases rest with
      | nil =>
          cases hrest
          obtain ⟨hlast, hname⟩ := h.last_of_step hdirectory hstep hplace
          exact ⟨piece, rfl, hlast, hname⟩
      | cons piece' others =>
          rw [List.getLast?_cons_cons]
          exact ih (by simp) hrest

end Sound

/-! ### Paths -/

theorem locate_eq_ok_iff {fs : Files} {path : String} {place : Place} :
    fs.locate path = .ok place ↔
      ∃ start pieces, fs.route path = .ok (start, pieces) ∧ fs.walk start pieces = .ok place := by
  rw [locate]
  cases fs.route path with
  | error e => simp [bind, Except.bind]
  | ok route =>
      obtain ⟨start, pieces⟩ := route
      simp [bind, Except.bind]

theorem eq_nil_of_splitAtChar {separator : Char} {cs : List Char}
    (h : splitAtChar separator cs = [[]]) : cs = [] := by
  cases cs with
  | nil => rfl
  | cons c cs =>
      rw [splitAtChar] at h
      split at h
      · exact absurd (List.cons.inj h).2 (splitAtChar_ne_nil _ _)
      · split at h <;> cases h

/-- A route starts at the root or at the current directory, and goes on along the pieces
of the path. -/
theorem route_eq_ok {fs : Files} {path : String} {start : Place} {pieces : List String}
    (h : fs.route path = .ok (start, pieces)) :
    (start = [] ∧ (Path.pieces path).map String.ofList = "" :: pieces ∨
      start = fs.current ∧ (Path.pieces path).map String.ofList = pieces) ∧ pieces ≠ [] := by
  rw [route] at h
  split at h
  · cases h
  next hempty =>
  split at h
  · cases h
  have hsplit : Path.pieces path ≠ [] := splitAtChar_ne_nil _ _
  simp only at h
  split at h
  · next rest hpieces =>
      cases h
      refine ⟨.inl ⟨rfl, hpieces⟩, ?_⟩
      rintro rfl
      -- A path of one empty piece is empty.
      obtain ⟨piece, hpiece, hnil⟩ := List.map_eq_singleton_iff.1 hpieces
      rw [String.ofList_eq_empty_iff.1 hnil] at hpiece
      exact hempty (by simpa using eq_nil_of_splitAtChar hpiece)
  · cases h
    exact ⟨.inr ⟨rfl, rfl⟩, fun hnil => hsplit (List.map_eq_nil_iff.1 hnil)⟩

namespace Sound

variable {fs after : Files} {path : String} {start place : Place}

theorem parent_of_locate (h : fs.Sound) (hlocate : fs.locate path = .ok place) :
    fs.get? place.dropLast = some .directory := by
  obtain ⟨start, pieces, hroute, hwalk⟩ := locate_eq_ok_iff.1 hlocate
  refine h.parent_of_walk ?_ hwalk
  rcases (route_eq_ok hroute).1 with ⟨rfl, -⟩ | ⟨rfl, -⟩
  · rfl
  · exact h.parent_of_directory h.current

/-- What a path leads to, if it is no directory, has the last name of the path. -/
theorem last_of_locate (h : fs.Sound) (hlocate : fs.locate path = .ok place)
    (hplace : fs.get? place ≠ some .directory) :
    ∃ name, (Path.pieces path).getLast? = some name ∧
      place.getLast? = some (String.ofList name) ∧
      String.ofList name ∉ ["", ".", ".."] := by
  obtain ⟨start, pieces, hroute, hwalk⟩ := locate_eq_ok_iff.1 hlocate
  obtain ⟨hpieces, hne⟩ := route_eq_ok hroute
  obtain ⟨last, hlast, hplace, hname⟩ := h.last_of_walk hne hwalk hplace
  have hmap : ((Path.pieces path).map String.ofList).getLast? = some last := by
    rcases hpieces with ⟨-, hpieces⟩ | ⟨-, hpieces⟩
    · rw [hpieces, List.getLast?_cons_of_ne_nil hne, hlast]
    · rw [hpieces, hlast]
  rw [List.getLast?_map] at hmap
  obtain ⟨name, hname', rfl⟩ := Option.map_eq_some_iff.1 hmap
  exact ⟨name, hname', hplace, hname⟩

/-! ### Operations -/

theorem of_frame {paths : List String} (h : fs.Sound)
    (hframe : Frame (fs.places paths) fs after) : after.Sound where
  current := by
    rw [hframe.current, hframe.directories]
    exact h.current
  parents place hplace := by
    rw [hframe.directories]
    by_cases hchanged : place ∈ fs.places paths
    · obtain ⟨path, -, hlocate⟩ := hchanged
      exact h.parent_of_locate hlocate
    · rw [hframe.others place hchanged] at hplace
      exact h.parents place hplace
  links link hlink := by
    rw [hframe.links] at hlink
    rw [hframe.directories]
    exact h.links link hlink

end Sound

/-- Nothing of what was there is gone or changed. -/
structure Grown (before after : Files) : Prop where
  current : after.current = before.current
  links : after.links = before.links
  kept : ∀ place, before.get? place ≠ none → after.get? place = before.get? place

namespace Grown

variable {a b c : Files}

theorem refl (a : Files) : Grown a a :=
  ⟨rfl, rfl, fun _ _ => rfl⟩

theorem trans (hab : Grown a b) (hbc : Grown b c) : Grown a c := by
  refine ⟨hbc.current.trans hab.current, hbc.links.trans hab.links, fun place hplace => ?_⟩
  have hkept := hab.kept place hplace
  rw [hbc.kept place (by rwa [hkept]), hkept]

theorem locate_eq_ok (h : Grown a b) {path : String} {place : Place}
    (hlocate : a.locate path = .ok place) : b.locate path = .ok place := by
  obtain ⟨start, pieces, hroute, hwalk⟩ := locate_eq_ok_iff.1 hlocate
  refine locate_eq_ok_iff.2 ⟨start, pieces, by rwa [route, h.current, ← route], ?_⟩
  refine walk_of_directories h.links (fun place hplace => ?_) hwalk
  rw [h.kept place (by rw [hplace]; simp), hplace]

end Grown

section

variable {fs : Files} {place : Place}

/-- A directory that is made in another one leaves the tree in order. -/
theorem Sound.set_directory (h : fs.Sound) {piece : String}
    (hparent : fs.get? place = some .directory) (hnone : fs.get? (place ++ [piece]) = none) :
    (fs.set (place ++ [piece]) .directory).Sound ∧
      Grown fs (fs.set (place ++ [piece]) .directory) := by
  have hkept : ∀ other, fs.get? other ≠ none →
      (fs.set (place ++ [piece]) .directory).get? other = fs.get? other := by
    intro other hother
    refine get?_set_of_ne fs _ ?_
    rintro rfl
    exact hother hnone
  have hdirectory : ∀ other, fs.get? other = some .directory →
      (fs.set (place ++ [piece]) .directory).get? other = some .directory := by
    intro other hother
    rw [hkept other (by rw [hother]; simp), hother]
  refine ⟨⟨hdirectory _ h.current, fun other hother => ?_, fun link hlink => ?_⟩,
    ⟨rfl, rfl, hkept⟩⟩
  · by_cases hnew : other = place ++ [piece]
    · rw [hnew, List.dropLast_concat]
      exact hdirectory _ hparent
    · rw [get?_set_of_ne fs _ hnew] at hother
      exact hdirectory _ (h.parents other hother)
  · exact hdirectory _ (h.links link hlink)

theorem Sound.makeDirectories (h : fs.Sound) (hplace : fs.get? place = some .directory)
    (pieces : List String) :
    (fs.makeDirectories place pieces).1.Sound ∧ Grown fs (fs.makeDirectories place pieces).1 := by
  induction pieces generalizing fs place with
  | nil => exact ⟨h, .refl fs⟩
  | cons piece rest ih =>
      rw [Files.makeDirectories]
      split
      · exact ih h hplace
      split
      · exact ih h (h.parent_of_directory hplace)
      split
      · exact ⟨h, .refl fs⟩
      rcases hnext : fs.get? (fs.follow (place ++ [piece])) with _ | _ | content
      · simp only [hnext]
        split
        · exact ⟨h, .refl fs⟩
        -- Only a name without a second meaning can be missing.
        rcases h.follow_cases (place ++ [piece]) with hlink | hname
        · rw [hlink] at hnext
          cases hnext
        · rw [hname] at hnext ⊢
          obtain ⟨hsound, hgrown⟩ := h.set_directory hplace hnext
          obtain ⟨hsound', hgrown'⟩ := ih hsound (get?_set_self fs _ (by simp))
          exact ⟨hsound', hgrown.trans hgrown'⟩
      · simp only [hnext]
        exact ih h hnext
      · simp only [hnext]
        exact ⟨h, .refl fs⟩

theorem Sound.createDirectories (h : fs.Sound) (path : String) :
    (fs.createDirectories path).1.Sound ∧ Grown fs (fs.createDirectories path).1 := by
  rw [Files.createDirectories]
  split
  · exact ⟨h, .refl fs⟩
  cases hroute : fs.route path with
  | error e => exact ⟨h, .refl fs⟩
  | ok route =>
      obtain ⟨start, pieces⟩ := route
      refine h.makeDirectories ?_ pieces
      rcases (route_eq_ok hroute).1 with ⟨rfl, -⟩ | ⟨rfl, -⟩
      · rfl
      · exact h.current

/-- A step to a directory that is there makes none. -/
theorem makeDirectories_of_step {start next : Place} {piece : String}
    (hstep : fs.Step start piece next) (hnext : fs.get? next = some .directory)
    (rest : List String) :
    fs.makeDirectories start (piece :: rest) = fs.makeDirectories next rest := by
  rw [makeDirectories]
  cases hstep with
  | stay hdot => rw [if_pos hdot]
  | up => rw [if_neg (by decide), if_pos rfl]
  | name hname hlength =>
      simp only [List.mem_cons, List.not_mem_nil, or_false, not_or] at hname
      rw [if_neg (not_or.2 ⟨hname.1, hname.2.1⟩), if_neg hname.2.2, if_neg hlength]
      simp only [hnext]

/-- There is nothing to make on the way to a directory that is there. -/
theorem makeDirectories_of_walk {start : Place} {pieces : List String}
    (hwalk : fs.walk start pieces = .ok place) (hplace : fs.get? place = some .directory) :
    fs.makeDirectories start pieces = (fs, .ok ()) := by
  induction pieces generalizing start with
  | nil => rfl
  | cons piece rest ih =>
      obtain ⟨-, next, hstep, hrest⟩ := walk_cons_eq_ok.1 hwalk
      have hnext : fs.get? next = some .directory := by
        cases rest with
        | nil =>
            cases hrest
            exact hplace
        | cons piece' others => exact directory_of_walk (by simp) hrest
      rw [makeDirectories_of_step hstep hnext, ih hrest]

theorem createDirectories_of_directory {path : String} (hlocate : fs.locate path = .ok place)
    (hplace : fs.get? place = some .directory) :
    fs.createDirectories path = (fs, .ok ()) := by
  obtain ⟨start, pieces, hroute, hwalk⟩ := locate_eq_ok_iff.1 hlocate
  rw [createDirectories, hroute]
  split
  · rfl
  · exact makeDirectories_of_walk hwalk hplace

end

end Cartridge.Files
