import Cartridge.Proofs.Files.Join
import Cartridge.Proofs.Files.Replace

/-!
Files written one after the other. Which paths can be given new content is known
beforehand, as no replacement makes or removes a directory. Two paths are apart if
no file is behind both of them, and what is behind a path stays as it is while files
apart from it are replaced.
-/

namespace Cartridge.Files

/-! ### Paths apart -/

/-- What both paths lead to, if anything, is a directory. -/
def Apart (fs : Files) (path other : String) : Prop :=
  ∀ place, fs.locate path = .ok place → fs.locate other = .ok place →
    fs.get? place = some .directory

section

variable {fs a b : Files} {path other : String} {paths : List String} {content : Bytes}

theorem exists?_eq_true_iff :
    fs.exists? path = true ↔ ∃ place, fs.locate path = .ok place ∧ fs.get? place ≠ none := by
  rw [exists?, node]
  cases hplace : fs.locate path with
  | error e => simp [bind, Except.bind]
  | ok place =>
      cases hnode : fs.get? place <;> simp [bind, Except.bind, hnode]

theorem exists?_of_read (h : fs.read path = .ok content) : fs.exists? path = true := by
  obtain ⟨place, hplace, hfile⟩ := read_eq_ok.1 h
  exact exists?_eq_true_iff.2 ⟨place, hplace, by rw [hfile]; simp⟩

/-- Nothing that is there is behind a path with nothing behind it. -/
theorem apart_of_absent (hpath : fs.exists? path = false) (hother : fs.exists? other = true) :
    fs.Apart path other := by
  intro place hplace hsame
  obtain ⟨place', hplace', hnode⟩ := exists?_eq_true_iff.1 hother
  obtain rfl : place = place' := by simpa [hsame] using hplace'
  exact absurd (exists?_eq_true_iff.2 ⟨place, hplace, hnode⟩) (by simp [hpath])

namespace Sound

/-- Files of different names are never the same one. -/
theorem apart_of_names (h : fs.Sound)
    (hnames : (Path.pieces path).getLast? ≠ (Path.pieces other).getLast?) :
    fs.Apart path other := by
  intro place hpath hother
  by_contra hplace
  obtain ⟨name, hname, hlast, -⟩ := h.last_of_locate hpath hplace
  obtain ⟨name', hname', hlast', -⟩ := h.last_of_locate hother hplace
  obtain rfl : name = name' := String.ofList_inj.1 (by simpa [hlast] using hlast')
  exact hnames (hname.trans hname'.symm)

/-- Names with different endings are different. -/
theorem apart_of_endings (h : fs.Sound) {ending ending' : List Char}
    (hpath : ending <:+ path.toList) (hother : ending' <:+ other.toList)
    (hslash : '/' ∉ ending ∧ '/' ∉ ending') (hendings : ¬ending <:+ ending' ∧ ¬ending' <:+ ending) :
    fs.Apart path other := by
  refine h.apart_of_names fun hsame => ?_
  obtain ⟨name, hname, hsuffix⟩ := Path.suffix_last_piece hpath hslash.1
  obtain ⟨name', hname', hsuffix'⟩ := Path.suffix_last_piece hother hslash.2
  obtain rfl : name = name' := by simpa [hname, hname'] using hsame
  exact (List.suffix_or_suffix_of_suffix hsuffix hsuffix').elim hendings.1 hendings.2

/-- A file with an ending of its own is not taken for a staging file. -/
theorem apart_staging (h : fs.Sound) {ending : List Char} (hother : ending <:+ other.toList)
    (hslash : '/' ∉ ending) (hendings : ¬ending <:+ ".tmp".toList ∧ ¬".tmp".toList <:+ ending) :
    fs.Apart (Host.stagingPath path) other := by
  intro place hpath hsame
  by_contra hplace
  obtain ⟨name, hname, hstaging⟩ := h.suffix_of_locate_staging hpath hplace
  obtain ⟨name', hname', hsuffix⟩ := h.suffix_of_locate hsame hplace hother hslash
  obtain rfl : name = name' := by simpa [hname] using hname'
  exact (List.suffix_or_suffix_of_suffix hsuffix hstaging).elim hendings.1 hendings.2

/-- Different names in a directory, neither of which goes on into another one. -/
theorem apart_join (h : fs.Sound) (directory : String) {name name' : String}
    (hslash : '/' ∉ name.toList ∧ '/' ∉ name'.toList) (hne : name ≠ name') :
    fs.Apart (Path.join directory name) (Path.join directory name') := by
  refine h.apart_of_names ?_
  rw [Path.last_piece_join_name directory hslash.1, Path.last_piece_join_name directory hslash.2]
  simpa [String.toList_inj] using hne

end Sound

namespace Frame

theorem get?_of_apart (h : Frame (a.places paths) a b) {place : Place}
    (hplace : a.locate other = .ok place) (hapart : ∀ p ∈ paths, a.Apart p other) :
    b.get? place = a.get? place := by
  by_cases hdirectory : a.get? place = some .directory
  · rw [hdirectory, h.directories, hdirectory]
  · refine h.others place ?_
    rintro ⟨p, hp, hsame⟩
    exact hdirectory (hapart p hp place hsame hplace)

/-- A file keeps its content while files apart from it are replaced. -/
theorem read_of_apart (h : Frame (a.places paths) a b) (hapart : ∀ p ∈ paths, a.Apart p other)
    (hread : a.read other = .ok content) : b.read other = .ok content := by
  obtain ⟨place, hplace, hfile⟩ := read_eq_ok.1 hread
  exact read_eq_ok.2 ⟨place, h.locate_eq_ok.2 hplace, by rw [h.get?_of_apart hplace hapart, hfile]⟩

theorem exists?_of_apart (h : Frame (a.places paths) a b)
    (hapart : ∀ p ∈ paths, a.Apart p other) : b.exists? other = a.exists? other := by
  rw [Bool.eq_iff_iff, exists?_eq_true_iff, exists?_eq_true_iff]
  refine exists_congr fun place => ?_
  rw [h.locate_eq_ok]
  exact and_congr_right fun hplace => by rw [h.get?_of_apart hplace hapart]

variable {changed : Set Place}

theorem apart_iff (h : Frame changed a b) : b.Apart path other ↔ a.Apart path other := by
  refine forall_congr' fun place => ?_
  rw [h.locate_eq_ok, h.locate_eq_ok, h.directories]

theorem writable_iff (h : Frame changed a b) : b.Writable path ↔ a.Writable path := by
  refine exists_congr fun place => ?_
  rw [h.locate_eq_ok, ne_eq, h.directories]

end Frame

/-! ### Replacements -/

/-- To replace the other file, by way of its staging file, changes nothing at the path. -/
structure ClearOf (fs : Files) (path other : String) : Prop where
  file : fs.Apart other path
  staging : fs.Apart (Host.stagingPath other) path

theorem Frame.clearOf_iff {changed : Set Place} (h : Frame changed a b) :
    b.ClearOf path other ↔ a.ClearOf path other :=
  ⟨fun ⟨file, staging⟩ => ⟨h.apart_iff.1 file, h.apart_iff.1 staging⟩,
    fun ⟨file, staging⟩ => ⟨h.apart_iff.2 file, h.apart_iff.2 staging⟩⟩

theorem Writable.iff_exists_write (content : Bytes) :
    fs.Writable path ↔ ∃ after, fs.write path content = .ok after := by
  refine ⟨fun h => h.exists_write content, fun ⟨after, h⟩ => ?_⟩
  obtain ⟨place, hplace, hfree, -⟩ := write_eq_ok.1 h
  exact ⟨place, hplace, hfree⟩

instance (fs : Files) (path : String) : Decidable (fs.Writable path) :=
  match hlocate : fs.locate path with
  | .ok place => decidable_of_iff (fs.get? place ≠ some .directory) (by simp [Writable, hlocate])
  | .error _ => isFalse (by simp [Writable, hlocate])

/-- New content can be put at the path by way of its staging file. -/
structure Replaceable (fs : Files) (path : String) : Prop where
  file : fs.Writable path
  staging : fs.Writable (Host.stagingPath path)

instance (fs : Files) (path : String) : Decidable (fs.Replaceable path) :=
  decidable_of_iff (fs.Writable path ∧ fs.Writable (Host.stagingPath path))
    ⟨fun ⟨file, staging⟩ => ⟨file, staging⟩, fun ⟨file, staging⟩ => ⟨file, staging⟩⟩

theorem Frame.replaceable_iff {changed : Set Place} (h : Frame changed a b) :
    b.Replaceable path ↔ a.Replaceable path :=
  ⟨fun ⟨file, staging⟩ => ⟨h.writable_iff.1 file, h.writable_iff.1 staging⟩,
    fun ⟨file, staging⟩ => ⟨h.writable_iff.2 file, h.writable_iff.2 staging⟩⟩

end

end Cartridge.Files

namespace Cartridge.Session

theorem replace_eq_ok_iff {path : String} {content : Bytes} {s : Session} :
    ((Host.replace path content : StateM Session (Except FileError Unit)) s).1 = .ok () ↔
      s.files.Replaceable path := by
  cases hwrite : s.files.write (Host.stagingPath path) content with
  | error e =>
      simp only [Host.replace, run_bind, run_write, hwrite, run_pure, reduceCtorEq, false_iff]
      rintro ⟨-, hstaging⟩
      obtain ⟨after, hok⟩ := hstaging.exists_write content
      simp [hwrite] at hok
  | ok staged =>
      have hframe := Files.frame_write hwrite
      have hstaged := Files.read_of_write hwrite
      have hstaging := (Files.Writable.iff_exists_write content).2 ⟨staged, hwrite⟩
      cases hrename : staged.rename (Host.stagingPath path) path with
      | ok files =>
          simp only [Host.replace, run_bind, run_write, hwrite, run_rename, hrename, run_pure,
            true_iff]
          obtain ⟨-, -, place, -, -, hplace, hfree, -⟩ := Files.rename_eq_ok.1 hrename
          exact ⟨hframe.writable_iff.1 ⟨place, hplace, hfree⟩, hstaging⟩
      | error e =>
          simp only [Host.replace, run_bind, run_write, hwrite, run_rename, hrename, run_pure,
            reduceCtorEq, false_iff]
          rintro ⟨hpath, -⟩
          obtain ⟨old, hold, hfile⟩ := Files.read_eq_ok.1 hstaged
          obtain ⟨new, hnew, hfree⟩ := hframe.writable_iff.2 hpath
          simp [Files.rename_eq_ok.2 ⟨content, old, new, hold, hfile, hnew, hfree, rfl⟩] at hrename

end Cartridge.Session
