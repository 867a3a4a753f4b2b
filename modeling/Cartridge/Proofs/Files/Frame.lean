import Cartridge.Files.Tree
import Mathlib.Data.Set.Basic

/-!
What an operation on files leaves alone. Writing, renaming and removing files
keep the directories as they are, so a path that leads somewhere before the
operation leads to the same place after it, and the operation changes what is
at the places its paths lead to and nothing else.
-/

namespace Cartridge.Files

/-- The places that paths lead to. -/
def places (fs : Files) (paths : List String) : Set Place :=
  {place | ∃ path ∈ paths, fs.locate path = .ok place}

theorem places_subset {fs : Files} {few many : List String} (h : few ⊆ many) :
    fs.places few ⊆ fs.places many := by
  rintro place ⟨path, hpath, hplace⟩
  exact ⟨path, h hpath, hplace⟩

theorem singleton_subset_places {fs : Files} {paths : List String} {path : String} {place : Place}
    (hpath : path ∈ paths) (hplace : fs.locate path = .ok place) : {place} ⊆ fs.places paths := by
  rintro other rfl
  exact ⟨path, hpath, hplace⟩

/-! ### Ways -/

/-- One step of a way from a directory: it stays there, goes up, or follows a name. -/
inductive Step (fs : Files) (start : Place) : String → Place → Prop
  | stay {piece : String} (hdot : piece = "" ∨ piece = ".") : Step fs start piece start
  | up : Step fs start ".." start.dropLast
  | name {piece : String} (hname : piece ∉ ["", ".", ".."])
      (hlength : ¬nameLimit < piece.utf8ByteSize) :
      Step fs start piece (fs.follow (start ++ [piece]))

theorem Step.eq_follow {fs : Files} {start next : Place} {piece : String}
    (hstep : fs.Step start piece next) (hname : piece ∉ ["", ".", ".."]) :
    next = fs.follow (start ++ [piece]) := by
  cases hstep with
  | stay hdot => rcases hdot with rfl | rfl <;> simp at hname
  | up => simp at hname
  | name => rfl

/-- A way can be gone exactly if all of its steps are made from directories. -/
theorem walk_cons_eq_ok {fs : Files} {start place : Place} {piece : String}
    {rest : List String} :
    fs.walk start (piece :: rest) = .ok place ↔
      fs.get? start = some .directory ∧
        ∃ next, fs.Step start piece next ∧ fs.walk next rest = .ok place := by
  rw [walk]
  constructor
  · intro h
    split at h
    · cases h
    · cases h
    next hdirectory =>
    refine ⟨hdirectory, ?_⟩
    split at h
    · next hdot => exact ⟨start, .stay hdot, h⟩
    next hdot =>
    split at h
    · next hup =>
        subst hup
        exact ⟨start.dropLast, .up, h⟩
    next hup =>
    split at h
    · cases h
    next hlength =>
    rw [not_or] at hdot
    exact ⟨fs.follow (start ++ [piece]), .name (by simp [hdot, hup]) hlength, h⟩
  · rintro ⟨hdirectory, next, hstep, hrest⟩
    simp only [hdirectory]
    cases hstep with
    | stay hdot => rwa [if_pos hdot]
    | up => rwa [if_neg (by decide), if_pos rfl]
    | name hname hlength =>
        simp only [List.mem_cons, List.not_mem_nil, or_false, not_or] at hname
        rwa [if_neg (not_or.2 ⟨hname.1, hname.2.1⟩), if_neg hname.2.2, if_neg hlength]

/-- A way leaves a directory, unless it ends where it starts. -/
theorem directory_of_walk {fs : Files} {start place : Place} {pieces : List String}
    (hne : pieces ≠ []) (hwalk : fs.walk start pieces = .ok place) :
    fs.get? start = some .directory := by
  obtain ⟨piece, rest, rfl⟩ := List.exists_cons_of_ne_nil hne
  exact (walk_cons_eq_ok.1 hwalk).1

/-- A way goes on from directories only, so it can still be gone where these are still
there. -/
theorem walk_of_directories {a b : Files} (hlinks : b.links = a.links)
    (hdirectories : ∀ place, a.get? place = some .directory → b.get? place = some .directory)
    {start place : Place} {pieces : List String} (hwalk : a.walk start pieces = .ok place) :
    b.walk start pieces = .ok place := by
  have hstep : ∀ {start next : Place} {piece : String},
      a.Step start piece next → b.Step start piece next := by
    intro start next piece hstep
    cases hstep with
    | stay hdot => exact .stay hdot
    | up => exact .up
    | name hname hlength =>
        rw [show a.follow = b.follow by funext place; rw [follow, follow, hlinks]]
        exact .name hname hlength
  induction pieces generalizing start with
  | nil => exact hwalk
  | cons piece rest ih =>
      obtain ⟨hdirectory, next, hnext, hrest⟩ := walk_cons_eq_ok.1 hwalk
      exact walk_cons_eq_ok.2 ⟨hdirectories start hdirectory, next, hstep hnext, ih hrest⟩

/-! ### Frames -/

/-- The trees have the same directories, and the same files but for those at
the given places. -/
structure Frame (changed : Set Place) (before after : Files) : Prop where
  current : after.current = before.current
  links : after.links = before.links
  directories : ∀ place,
    after.get? place = some .directory ↔ before.get? place = some .directory
  others : ∀ place ∉ changed, after.get? place = before.get? place

namespace Frame

variable {changed : Set Place} {a b c : Files}

theorem refl (changed : Set Place) (a : Files) : Frame changed a a :=
  ⟨rfl, rfl, fun _ => Iff.rfl, fun _ _ => rfl⟩

theorem symm (h : Frame changed a b) : Frame changed b a :=
  ⟨h.current.symm, h.links.symm, fun place => (h.directories place).symm,
    fun place hplace => (h.others place hplace).symm⟩

theorem trans (hab : Frame changed a b) (hbc : Frame changed b c) : Frame changed a c :=
  ⟨hbc.current.trans hab.current, hbc.links.trans hab.links,
    fun place => (hbc.directories place).trans (hab.directories place),
    fun place hplace => (hbc.others place hplace).trans (hab.others place hplace)⟩

theorem mono {larger : Set Place} (h : Frame changed a b) (hsub : changed ⊆ larger) :
    Frame larger a b :=
  ⟨h.current, h.links, h.directories, fun place hplace =>
    h.others place fun hchanged => hplace (hsub hchanged)⟩

/-- A way that can be gone before the operation can be gone after it. -/
theorem walk_eq_ok (h : Frame changed a b) {start place : Place} {pieces : List String}
    (hwalk : a.walk start pieces = .ok place) : b.walk start pieces = .ok place :=
  walk_of_directories h.links (fun place => (h.directories place).2) hwalk

theorem locate_eq_ok (h : Frame changed a b) {path : String} {place : Place} :
    b.locate path = .ok place ↔ a.locate path = .ok place := by
  have hroute : b.route path = a.route path := by
    rw [route, route, h.current]
  rw [locate, locate, hroute]
  cases a.route path with
  | error e => rfl
  | ok start => exact ⟨h.symm.walk_eq_ok, h.walk_eq_ok⟩

theorem places_eq (h : Frame changed a b) (paths : List String) :
    b.places paths = a.places paths := by
  ext place
  exact exists_congr fun path => and_congr_right fun _ => h.locate_eq_ok

end Frame

/-! ### Single files -/

theorem get?_erase_of_ne (fs : Files) {place other : Place} (h : other ≠ place) :
    (fs.erase place).get? other = fs.get? other := by
  have hset := get?_set_of_ne fs .directory h
  have hne : (place == other) = false := by simpa using h.symm
  unfold get? set at hset
  rw [List.find?_cons, hne] at hset
  exact hset

theorem get?_erase_self_ne (fs : Files) {place : Place} (h : fs.get? place ≠ some .directory) :
    (fs.erase place).get? place = none := by
  refine get?_erase_self fs fun hroot => h ?_
  rw [hroot]
  rfl

theorem get?_set_file (fs : Files) {place : Place} (content : Bytes)
    (h : fs.get? place ≠ some .directory) :
    (fs.set place (.file content)).get? place = some (.file content) := by
  refine get?_set_self fs _ fun hroot => h ?_
  rw [hroot]
  rfl

/-- A change at one place keeps all directories, if there is none before and none after. -/
theorem frame_of_others {a b : Files} {place : Place} (hcurrent : b.current = a.current)
    (hlinks : b.links = a.links) (hbefore : a.get? place ≠ some .directory)
    (hafter : b.get? place ≠ some .directory)
    (hothers : ∀ other ≠ place, b.get? other = a.get? other) : Frame {place} a b := by
  refine ⟨hcurrent, hlinks, fun other => ?_, hothers⟩
  by_cases hother : other = place
  · rw [hother]
    exact iff_of_false hafter hbefore
  · rw [hothers other hother]

theorem frame_set (fs : Files) {place : Place} (content : Bytes)
    (h : fs.get? place ≠ some .directory) : Frame {place} fs (fs.set place (.file content)) :=
  frame_of_others rfl rfl h (by simp [get?_set_file fs content h])
    fun _ hother => get?_set_of_ne fs _ hother

theorem frame_erase (fs : Files) {place : Place} (h : fs.get? place ≠ some .directory) :
    Frame {place} fs (fs.erase place) :=
  frame_of_others rfl rfl h (by simp [get?_erase_self_ne fs h])
    fun _ hother => get?_erase_of_ne fs hother

/-! ### Operations on paths -/

variable {fs after : Files} {path source target : String} {content : Bytes}

theorem read_eq_ok :
    fs.read path = .ok content ↔
      ∃ place, fs.locate path = .ok place ∧ fs.get? place = some (.file content) := by
  rw [read, node]
  cases hplace : fs.locate path with
  | error e => simp [bind, Except.bind]
  | ok place =>
      cases hnode : fs.get? place with
      | none => simp [bind, Except.bind, hnode]
      | some node => cases node <;> simp [bind, Except.bind, hnode]

theorem write_eq_ok :
    fs.write path content = .ok after ↔
      ∃ place, fs.locate path = .ok place ∧ fs.get? place ≠ some .directory ∧
        after = fs.set place (.file content) := by
  rw [write]
  cases hplace : fs.locate path with
  | error e => simp [bind, Except.bind]
  | ok place =>
      rcases hnode : fs.get? place with _ | _ | _ <;>
        simp [bind, Except.bind, hnode, eq_comm]

theorem rename_eq_ok :
    fs.rename source target = .ok after ↔
      ∃ content old new, fs.locate source = .ok old ∧
        fs.get? old = some (.file content) ∧ fs.locate target = .ok new ∧
        fs.get? new ≠ some .directory ∧
        after = (fs.erase old).set new (.file content) := by
  have hsource := fun content => @read_eq_ok fs source content
  rw [rename]
  cases hread : fs.read source with
  | error e =>
      simp only [hread, reduceCtorEq, false_iff, not_exists, not_and] at hsource
      simp only [bind, Except.bind, reduceCtorEq, false_iff, not_exists, not_and]
      intro content old new hold hfile
      exact absurd hfile (hsource content old hold)
  | ok content =>
      obtain ⟨old, hold, hfile⟩ := (hsource content).1 hread
      cases hnew : fs.locate target with
      | error e => simp [bind, Except.bind, hold]
      | ok new =>
          rcases hnode : fs.get? new with _ | _ | _ <;>
            simp [bind, Except.bind, hold, hfile, hnode, eq_comm]

/-- A file can be written at the path, whatever its content. -/
def Writable (fs : Files) (path : String) : Prop :=
  ∃ place, fs.locate path = .ok place ∧ fs.get? place ≠ some .directory

theorem Writable.exists_write (h : fs.Writable path) (content : Bytes) :
    ∃ after, fs.write path content = .ok after := by
  obtain ⟨place, hplace, hnode⟩ := h
  exact ⟨_, write_eq_ok.2 ⟨place, hplace, hnode, rfl⟩⟩

/-- A path that cannot be written leads to nothing that can be removed. -/
theorem remove_of_write_error {e : FileError} (h : fs.write path content = .error e) :
    ∃ e, fs.remove path = .error e := by
  rw [write] at h
  rw [remove, read, node]
  cases hplace : fs.locate path with
  | error e => exact ⟨e, rfl⟩
  | ok place =>
      rw [hplace] at h
      simp only [bind, Except.bind] at h ⊢
      split at h
      · next hnode => exact ⟨.isDirectory, by simp [hnode]⟩
      · cases h

theorem frame_write (h : fs.write path content = .ok after) :
    Frame (fs.places [path]) fs after := by
  obtain ⟨place, hplace, hnode, rfl⟩ := write_eq_ok.1 h
  exact (frame_set fs content hnode).mono
    (singleton_subset_places (List.mem_singleton_self path) hplace)

theorem read_of_write (h : fs.write path content = .ok after) : after.read path = .ok content := by
  have hframe := frame_write h
  obtain ⟨place, hplace, hfree, rfl⟩ := write_eq_ok.1 h
  exact read_eq_ok.2 ⟨place, hframe.locate_eq_ok.2 hplace, get?_set_file fs content hfree⟩

/-- A file that was moved holds at its new place what it held at the old one. -/
theorem frame_rename (h : fs.rename source target = .ok after) :
    Frame (fs.places [target, source]) fs after ∧
      ∀ content, fs.read source = .ok content → after.read target = .ok content := by
  obtain ⟨content, old, new, hold, hfile, hnew, hfree, rfl⟩ := rename_eq_ok.1 h
  have herase := @frame_erase fs old (by rw [hfile]; simp)
  have hfree' : (fs.erase old).get? new ≠ some .directory := by
    rwa [ne_eq, herase.directories]
  have hset := frame_set (fs.erase old) content hfree'
  have holdMem : {old} ⊆ fs.places [target, source] :=
    singleton_subset_places (by simp) hold
  have hnewMem : {new} ⊆ fs.places [target, source] :=
    singleton_subset_places (by simp) hnew
  refine ⟨(herase.mono holdMem).trans (hset.mono hnewMem), fun content' hread => ?_⟩
  obtain ⟨old', hold', hfile'⟩ := read_eq_ok.1 hread
  obtain rfl : old = old' := by simpa [hold] using hold'
  obtain rfl : content = content' := by simpa [hfile] using hfile'
  exact read_eq_ok.2 ⟨new, hset.locate_eq_ok.2 (herase.locate_eq_ok.2 hnew),
    get?_set_file _ content hfree'⟩

theorem frame_remove (h : fs.remove path = .ok after) : Frame (fs.places [path]) fs after := by
  rw [remove] at h
  cases hread : fs.read path with
  | error e => simp [hread, bind, Except.bind] at h
  | ok content =>
      obtain ⟨place, hplace, hfile⟩ := read_eq_ok.1 hread
      obtain rfl : fs.erase place = after := by
        simpa [hread, hplace, bind, Except.bind, pure, Except.pure] using h
      exact (frame_erase fs (by rw [hfile]; simp)).mono
        (singleton_subset_places (List.mem_singleton_self path) hplace)

/-- A file that was written can take the place of one that could be read before
it was written. -/
theorem rename_of_write {old : Bytes} {staged : Files} (hread : fs.read path = .ok old)
    (hwrite : fs.write source content = .ok staged) :
    ∃ after, staged.rename source path = .ok after ∧ after.read path = .ok content ∧
      Frame (fs.places [path, source]) fs after := by
  have hstaged := frame_write hwrite
  have hcontent := read_of_write hwrite
  obtain ⟨staging, hstaging, hfile⟩ := read_eq_ok.1 hcontent
  obtain ⟨target, htarget, hold⟩ := read_eq_ok.1 hread
  have hfree : staged.get? target ≠ some .directory := by
    rw [ne_eq, hstaged.directories, hold]
    simp
  obtain ⟨after, hrename⟩ : ∃ after, staged.rename source path = .ok after :=
    ⟨_, rename_eq_ok.2 ⟨content, staging, target, hstaging, hfile,
      hstaged.locate_eq_ok.2 htarget, hfree, rfl⟩⟩
  obtain ⟨hframe, hmoved⟩ := frame_rename hrename
  rw [hstaged.places_eq] at hframe
  exact ⟨after, hrename, hmoved content hcontent,
    (hstaged.mono (places_subset (by simp))).trans hframe⟩

end Cartridge.Files
