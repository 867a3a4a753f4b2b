import Cartridge.Proofs.Files.Session
import Cartridge.Proofs.Files.Sound

/-!
Files that others do not get in the way of. A file is replaced through a staging
file beside it, and whatever comes of it nothing else is touched. A staging file
ends in an extension of its own, so files of other extensions keep what they hold
while their neighbours are replaced.
-/

namespace Cartridge.Session

section

variable {s : Session} {path : String} {content : Bytes}

/-- What is replaced and its staging file are all that a replacement touches. -/
theorem replace_frame (path : String) (content : Bytes) (s : Session) :
    ∃ result files,
      (Host.replace path content : StateM Session (Except FileError Unit)) s =
        (result, { s with files := files }) ∧
      Files.Frame (s.files.places [path, Host.stagingPath path]) s.files files ∧
      (result = .ok () → files.read path = .ok content) := by
  have hstaging : s.files.places [Host.stagingPath path] ⊆
      s.files.places [path, Host.stagingPath path] := Files.places_subset (by simp)
  cases hwrite : s.files.write (Host.stagingPath path) content with
  | error e =>
      obtain ⟨e', hremove⟩ := Files.remove_of_write_error hwrite
      refine ⟨.error e, s.files, ?_, .refl _ _, by simp⟩
      simp only [Host.replace, run_bind, run_write, hwrite, run_remove, hremove, run_pure]
  | ok staged =>
      have hstaged := Files.frame_write hwrite
      cases hrename : staged.rename (Host.stagingPath path) path with
      | ok files =>
          obtain ⟨hframe, hfile⟩ := Files.frame_rename hrename
          rw [hstaged.places_eq] at hframe
          refine ⟨.ok (), files, ?_, (hstaged.mono hstaging).trans hframe,
            fun _ => hfile content (Files.read_of_write hwrite)⟩
          simp only [Host.replace, run_bind, run_write, hwrite, run_rename, hrename, run_pure]
      | error e =>
          cases hremove : staged.remove (Host.stagingPath path) with
          | error e' =>
              refine ⟨.error e, staged, ?_, hstaged.mono hstaging, by simp⟩
              simp only [Host.replace, run_bind, run_write, hwrite, run_rename, hrename,
                run_remove, hremove, run_pure]
          | ok files =>
              have hframe := Files.frame_remove hremove
              rw [hstaged.places_eq] at hframe
              refine ⟨.error e, files, ?_, (hstaged.trans hframe).mono hstaging, by simp⟩
              simp only [Host.replace, run_bind, run_write, hwrite, run_rename, hrename,
                run_remove, hremove, run_pure]

end

end Cartridge.Session

namespace Cartridge

/-! ### Names of files -/

namespace Path

open Cartridge.Text

/-- The characters at the end of a path are those at the end of its last piece. -/
theorem suffix_last_piece {path : String} {ending : List Char} (h : ending <:+ path.toList)
    (hslash : '/' ∉ ending) :
    ∃ name, (pieces path).getLast? = some name ∧ ending <:+ name := by
  obtain ⟨front, hpath⟩ := h
  rw [pieces, ← hpath]
  generalize path.toList = text at hpath
  clear hpath
  induction front with
  | nil => exact ⟨ending, by rw [List.nil_append, splitAtChar_of_notMem hslash]; rfl,
      List.suffix_rfl⟩
  | cons c front ih =>
      obtain ⟨name, hname, hending⟩ := ih
      rw [List.cons_append, splitAtChar]
      split
      · refine ⟨name, ?_, hending⟩
        rw [List.getLast?_cons, hname]
        rfl
      · cases hsplit : splitAtChar '/' (front ++ ending) with
        | nil => exact absurd hsplit (splitAtChar_ne_nil _ _)
        | cons piece others =>
            rw [hsplit] at hname
            cases others with
            | nil =>
                obtain rfl : piece = name := by simpa using hname
                exact ⟨c :: piece, rfl, hending.trans (List.suffix_cons c piece)⟩
            | cons next others =>
                refine ⟨name, ?_, hending⟩
                simpa [List.getLast?_cons_cons] using hname

/-- Only a path that ends in dots, or in no name at all, has no last name. -/
theorem last_piece_of_lastName?_eq_none {path : String} {name : List Char}
    (h : lastName? path = none) (hname : (pieces path).getLast? = some name) :
    String.ofList name ∈ ["", ".", ".."] := by
  obtain ⟨front, hpieces⟩ := List.getLast?_eq_some_iff.1 hname
  rw [lastName?, hpieces, List.reverse_append, List.reverse_singleton, List.singleton_append,
    List.dropWhile_cons] at h
  by_cases hempty : isEmptyPiece name = true
  · simp only [isEmptyPiece, Bool.or_eq_true, beq_iff_eq] at hempty
    rcases hempty with rfl | rfl <;> simp
  · rw [if_neg hempty] at h
    simp only [ite_eq_left_iff, reduceCtorEq, imp_false, not_not] at h
    rw [h]
    simp

end Path

/-- The path of a staging file ends in an extension of its own, unless it is none that a
file could have. -/
theorem stagingPath_cases (path : String) :
    ".tmp".toList <:+ (Host.stagingPath path).toList ∨
      Path.lastName? (Host.stagingPath path) = none := by
  have hput : ∀ p, ".tmp".toList <:+ (Path.putExtension p "tmp").toList ∨
      Path.lastName? (Path.putExtension p "tmp") = none := by
    intro p
    rw [Path.putExtension]
    split
    · exact .inr ‹_›
    · refine .inl ?_
      rw [String.append_assoc, String.toList_append]
      exact List.suffix_append _ _
  rw [Host.stagingPath, Path.withExtension]
  split <;> exact hput _

namespace Files.Sound

variable {fs : Files} {path : String} {place : Place}

/-- A file has the ending of every path that leads to it. -/
theorem suffix_of_locate (h : fs.Sound) (hlocate : fs.locate path = .ok place)
    (hplace : fs.get? place ≠ some .directory) {ending : List Char}
    (hending : ending <:+ path.toList) (hslash : '/' ∉ ending) :
    ∃ name, place.getLast? = some name ∧ ending <:+ name.toList := by
  obtain ⟨name, hname, hlast, -⟩ := h.last_of_locate hlocate hplace
  obtain ⟨name', hname', hsuffix⟩ := Path.suffix_last_piece hending hslash
  obtain rfl : name = name' := by simpa [hname] using hname'
  exact ⟨_, hlast, by simpa using hsuffix⟩

theorem suffix_of_locate_staging (h : fs.Sound)
    (hlocate : fs.locate (Host.stagingPath path) = .ok place)
    (hplace : fs.get? place ≠ some .directory) :
    ∃ name, place.getLast? = some name ∧ ".tmp".toList <:+ name.toList := by
  rcases stagingPath_cases path with hending | hnone
  · exact h.suffix_of_locate hlocate hplace hending (by decide)
  · obtain ⟨name, hname, -, hproper⟩ := h.last_of_locate hlocate hplace
    exact absurd (Path.last_piece_of_lastName?_eq_none hnone hname) hproper

end Files.Sound

/-! ### Spared files -/

namespace Files

/-- Every way still leads to where it led, and the files of some names hold what they
held. -/
structure Spares (spared : String → Prop) (before after : Files) : Prop where
  sound : after.Sound
  locate : ∀ path place, before.locate path = .ok place → after.locate path = .ok place
  kept : ∀ place name content, place.getLast? = some name → spared name →
    before.get? place = some (.file content) → after.get? place = some (.file content)

namespace Spares

variable {spared : String → Prop} {a b c : Files}

theorem refl (h : a.Sound) : Spares spared a a :=
  ⟨h, fun _ _ => id, fun _ _ _ _ _ => id⟩

theorem trans (hab : Spares spared a b) (hbc : Spares spared b c) : Spares spared a c :=
  ⟨hbc.sound, fun path place h => hbc.locate path place (hab.locate path place h),
    fun place name content hname hspared h =>
      hbc.kept place name content hname hspared (hab.kept place name content hname hspared h)⟩

/-- New directories are in nobody's way. -/
theorem of_grown (hsound : b.Sound) (h : Grown a b) : Spares spared a b where
  sound := hsound
  locate path place := h.locate_eq_ok
  kept place name content _ _ hfile := by
    rw [h.kept place (by rw [hfile]; simp), hfile]

theorem of_frame {paths : List String} (hsound : a.Sound) (hframe : Frame (a.places paths) a b)
    (hothers : ∀ path ∈ paths, ∀ place name, a.locate path = .ok place →
      a.get? place ≠ some .directory → place.getLast? = some name → ¬spared name) :
    Spares spared a b where
  sound := hsound.of_frame hframe
  locate path place := hframe.locate_eq_ok.2
  kept place name content hname hspared hfile := by
    rw [hframe.others, hfile]
    rintro ⟨path, hpath, hlocate⟩
    exact hothers path hpath place name hlocate (by rw [hfile]; simp) hname hspared

/-- A replacement spares the files that have neither the name of what is replaced nor the
ending of a staging file. -/
theorem of_replaced {path : String} (hsound : a.Sound)
    (hframe : Frame (a.places [path, Host.stagingPath path]) a b)
    (hspared : ∀ name, spared name →
      ¬".tmp".toList <:+ name.toList ∧ (Path.pieces path).getLast? ≠ some name.toList) :
    Spares spared a b := by
  refine .of_frame hsound hframe fun path' hpath' place name hlocate hplace hname hname' => ?_
  simp only [List.mem_cons, List.not_mem_nil, or_false] at hpath'
  rcases hpath' with rfl | rfl
  · obtain ⟨last, hlast, hplaceLast, -⟩ := hsound.last_of_locate hlocate hplace
    obtain rfl : String.ofList last = name := by simpa [hname] using hplaceLast.symm
    exact (hspared _ hname').2 (by simpa using hlast)
  · obtain ⟨last, hlast, hending⟩ := hsound.suffix_of_locate_staging hlocate hplace
    obtain rfl : last = name := by simpa [hname] using hlast.symm
    exact (hspared _ hname').1 hending

end Spares

end Files

/-! ### Requests that spare files -/

namespace Session

variable {α β : Type} {spared : String → Prop}

/-- Whatever comes of the request, the files of some names hold what they held. -/
def Spares (spared : String → Prop) (x : StateM Session α) : Prop :=
  ∀ s : Session, s.files.Sound → Files.Spares spared s.files (x s).2.files

namespace Spares

theorem of_files_eq {x : StateM Session α} (h : ∀ s, (x s).2.files = s.files) :
    Spares spared x := fun s hsound => by
  rw [h s]
  exact .refl hsound

theorem pure (a : α) : Spares spared (Pure.pure a : StateM Session α) :=
  of_files_eq fun _ => rfl

theorem bind {x : StateM Session α} {f : α → StateM Session β} (hx : Spares spared x)
    (hf : ∀ a, Spares spared (f a)) : Spares spared (x >>= f) := by
  intro s hsound
  have hfirst := hx s hsound
  exact hfirst.trans (hf (x s).1 (x s).2 hfirst.sound)

theorem replace {path : String} (content : Bytes)
    (hspared : ∀ name, spared name →
      ¬".tmp".toList <:+ name.toList ∧ (Path.pieces path).getLast? ≠ some name.toList) :
    Spares spared (Host.replace path content : StateM Session (Except FileError Unit)) := by
  intro s hsound
  obtain ⟨result, files, hrun, hframe, -⟩ := replace_frame path content s
  rw [hrun]
  exact .of_replaced hsound hframe hspared

theorem createDirectories (path : String) :
    Spares spared
      (Host.createDirectories path : StateM Session (Except FileError Unit)) := by
  intro s hsound
  obtain ⟨hsound', hgrown⟩ := hsound.createDirectories path
  exact .of_grown hsound' hgrown

end Spares

end Session

end Cartridge
