import Cartridge.Proofs.Files.Sound

/-!
Paths into a directory. A path is joined from a directory and what follows, and
leads where the rest leads from there. In an empty directory only a single name
leads anywhere.
-/

namespace Cartridge

namespace Text

theorem splitAtChar_append_separator (separator : Char) (front back : List Char) :
    splitAtChar separator (front ++ separator :: back) =
      splitAtChar separator front ++ splitAtChar separator back := by
  induction front with
  | nil => simp [splitAtChar]
  | cons c front ih =>
      rw [List.cons_append, splitAtChar, splitAtChar, ih]
      split
      · rfl
      · cases hfront : splitAtChar separator front with
        | nil => exact absurd hfront (splitAtChar_ne_nil _ _)
        | cons piece others => rfl

theorem splitAtChar_cons {separator c : Char} (h : c ≠ separator) (cs : List Char) :
    ∃ piece others, splitAtChar separator (c :: cs) = (c :: piece) :: others := by
  rw [splitAtChar, if_neg h]
  cases splitAtChar separator cs with
  | nil => exact ⟨[], [], rfl⟩
  | cons piece others => exact ⟨piece, others, rfl⟩

theorem notMem_of_splitAtChar {separator : Char} {cs piece : List Char}
    (h : splitAtChar separator cs = [piece]) : separator ∉ cs := by
  intro hmem
  obtain ⟨front, back, rfl⟩ := List.append_of_mem hmem
  rw [splitAtChar_append_separator] at h
  have hlength := congrArg List.length h
  have hfront := List.length_pos_iff.2 (splitAtChar_ne_nil separator front)
  have hback := List.length_pos_iff.2 (splitAtChar_ne_nil separator back)
  simp only [List.length_append, List.length_singleton] at hlength
  omega

end Text

open Cartridge.Text

namespace Path

/-- A path joined to a directory goes on behind the pieces of the directory, of which an
empty last one is left out. -/
theorem pieces_join {directory path : String} (hdirectory : directory ≠ "")
    (hpath : path.toList.head? ≠ some '/') :
    ∃ front, front ≠ [] ∧ (pieces directory = front ∨ pieces directory = front ++ [[]]) ∧
      pieces (join directory path) = front ++ pieces path := by
  rw [join, if_neg hpath]
  split
  · next hend =>
      rw [Bool.or_eq_true, decide_eq_true_eq] at hend
      have hslash := hend.resolve_left fun hempty => hdirectory (String.isEmpty_iff.1 hempty)
      obtain ⟨front, hfront⟩ := List.getLast?_eq_some_iff.1 hslash
      refine ⟨splitAtChar '/' front, splitAtChar_ne_nil _ _, .inr ?_, ?_⟩
      · rw [pieces, hfront, splitAtChar_append_separator]
        rfl
      · rw [pieces, String.toList_append, hfront, List.append_assoc, List.singleton_append,
          splitAtChar_append_separator]
        rfl
  · refine ⟨pieces directory, splitAtChar_ne_nil _ _, .inl rfl, ?_⟩
    rw [pieces, String.toList_append, String.toList_append, List.append_assoc]
    exact splitAtChar_append_separator _ _ _

theorem last_piece_join (directory path : String) :
    (pieces (join directory path)).getLast? = (pieces path).getLast? := by
  by_cases hpath : path.toList.head? = some '/'
  · rw [join, if_pos hpath]
  by_cases hdirectory : directory = ""
  · rw [join, if_neg hpath, hdirectory]
    simp
  · obtain ⟨front, -, -, hjoin⟩ := pieces_join hdirectory hpath
    have hne : pieces path ≠ [] := splitAtChar_ne_nil _ _
    rw [hjoin, List.getLast?_append, List.getLast?_eq_some_getLast hne]
    rfl

theorem last_piece_join_name (directory : String) {name : String} (h : '/' ∉ name.toList) :
    (pieces (join directory name)).getLast? = some name.toList := by
  rw [last_piece_join, pieces, splitAtChar_of_notMem h]
  rfl

theorem suffix_join (directory path : String) : path.toList <:+ (join directory path).toList := by
  rw [join]
  split
  · exact List.suffix_rfl
  split
  · rw [String.toList_append]
    exact List.suffix_append _ _
  · rw [String.toList_append]
    exact List.suffix_append _ _

end Path

namespace Files

variable {fs : Files} {directory path : String} {place start : Place} {pieces : List String}

/-! ### Ways -/

theorem walk_append_eq_ok {front back : List String} :
    fs.walk start (front ++ back) = .ok place ↔
      ∃ mid, fs.walk start front = .ok mid ∧ fs.walk mid back = .ok place := by
  induction front generalizing start with
  | nil => simp [walk]
  | cons piece front ih =>
      simp only [List.cons_append, walk_cons_eq_ok, ih]
      constructor
      · rintro ⟨hdirectory, next, hstep, mid, hfront, hback⟩
        exact ⟨mid, ⟨hdirectory, next, hstep, hfront⟩, hback⟩
      · rintro ⟨mid, ⟨hdirectory, next, hstep, hfront⟩, hback⟩
        exact ⟨hdirectory, next, hstep, mid, hfront, hback⟩

/-- Where a way starts, and its pieces: an empty first piece stands for the root. -/
def origin (fs : Files) : List String → Place × List String
  | "" :: rest => ([], rest)
  | pieces => (fs.current, pieces)

theorem origin_append (hne : pieces ≠ []) (back : List String) :
    fs.origin (pieces ++ back) = ((fs.origin pieces).1, (fs.origin pieces).2 ++ back) := by
  obtain ⟨piece, rest, rfl⟩ := List.exists_cons_of_ne_nil hne
  by_cases hempty : piece = ""
  · subst hempty
    rfl
  · simp [origin, hempty]

theorem walk_of_locate (h : fs.locate path = .ok place) :
    fs.walk (fs.origin ((Path.pieces path).map String.ofList)).1
      (fs.origin ((Path.pieces path).map String.ofList)).2 = .ok place := by
  obtain ⟨start, pieces, hroute, hwalk⟩ := locate_eq_ok_iff.1 h
  rw [route] at hroute
  split at hroute
  · cases hroute
  split at hroute
  · cases hroute
  have horigin : fs.origin ((Path.pieces path).map String.ofList) = (start, pieces) := by
    unfold origin
    simp only at hroute
    split at hroute
    · next rest hpieces =>
        cases hroute
        rw [Path.pieces, hpieces]
        rfl
    · next hpieces =>
        cases hroute
        split
        · next rest hrest => exact absurd hrest (hpieces rest)
        · rfl
  rwa [horigin]

theorem ne_empty_of_locate (h : fs.locate path = .ok place) : path ≠ "" := by
  rintro rfl
  cases h

/-- A joined path leads where what follows leads from the directory. -/
theorem walk_of_locate_join (hpath : path.toList.head? ≠ some '/')
    (hdirectory : fs.locate directory = .ok start)
    (h : fs.locate (Path.join directory path) = .ok place) :
    fs.walk start ((Path.pieces path).map String.ofList) = .ok place := by
  obtain ⟨front, hne, hfront, hjoin⟩ := Path.pieces_join (ne_empty_of_locate hdirectory) hpath
  have hne' : front.map String.ofList ≠ [] := by simpa using hne
  have hway := walk_of_locate h
  rw [hjoin, List.map_append, origin_append hne'] at hway
  obtain ⟨mid, hmid, hplace⟩ := walk_append_eq_ok.1 hway
  have hstart := walk_of_locate hdirectory
  rcases hfront with hfront | hfront
  · rw [hfront, hmid] at hstart
    cases hstart
    exact hplace
  · -- A slash at the end of a directory leads no further.
    rw [hfront, List.map_append, origin_append hne'] at hstart
    obtain ⟨mid', hmid', hempty⟩ := walk_append_eq_ok.1 hstart
    obtain rfl : mid = mid' := by simpa [hmid] using hmid'
    have hdirectory := directory_of_walk (by simp) hempty
    obtain rfl : mid = start := by simpa [walk, hdirectory] using hempty
    exact hplace

/-! ### Empty directories -/

/-- A directory in which there is no other one. -/
structure IsFlat (fs : Files) (place : Place) : Prop where
  directory : fs.get? place = some .directory
  inside : ∀ name, fs.get? (place ++ [name]) ≠ some .directory
  links : ∀ name, ∀ link ∈ fs.links, link.1 ≠ place ++ [name]

theorem isFlat_of_list (h : fs.list directory = .ok []) :
    ∃ place, fs.locate directory = .ok place ∧ fs.IsFlat place := by
  rw [list] at h
  cases hplace : fs.locate directory with
  | error e => simp [hplace, bind, Except.bind] at h
  | ok place =>
      rw [hplace] at h
      simp only [bind, Except.bind] at h
      split at h
      · cases h
      · cases h
      next hdirectory =>
      have hnone : ∀ p ∈ fs.nodes.map (·.1) ++ fs.links.map (·.1), ∀ name, p ≠ place ++ [name] := by
        rintro p hp name rfl
        have hnames := List.mergeSort_perm
          ((fs.nodes.map (·.1) ++ fs.links.map (·.1)).filterMap fun p =>
            if p ≠ [] ∧ p.dropLast = place then p.getLast? else none) fun a b => decide (a ≤ b)
        rw [Except.ok.inj h, List.nil_perm, List.filterMap_eq_nil_iff] at hnames
        simpa using hnames _ hp
      refine ⟨place, rfl, hdirectory, fun name hname => ?_, fun name link hlink hplace => ?_⟩
      · rw [get?, if_neg (by simp), Option.map_eq_some_iff] at hname
        obtain ⟨node, hnode, -⟩ := hname
        refine hnone node.1 (List.mem_append_left _ (List.mem_map_of_mem
          (List.mem_of_find?_eq_some hnode))) name ?_
        simpa using List.find?_some hnode
      · exact hnone link.1 (List.mem_append_right _ (List.mem_map_of_mem hlink)) name hplace

theorem IsFlat.of_frame {changed : Set Place} {after : Files} (h : fs.IsFlat place)
    (hframe : Frame changed fs after) : after.IsFlat place where
  directory := (hframe.directories place).2 h.directory
  inside name hname := h.inside name ((hframe.directories _).1 hname)
  links name link hlink := h.links name link (by rwa [← hframe.links])

theorem IsFlat.follow (h : fs.IsFlat start) (name : String) :
    fs.follow (start ++ [name]) = start ++ [name] := by
  rw [Files.follow, List.find?_eq_none.2 fun link hlink => ?_]
  · rfl
  · simpa using h.links name link hlink

/-- Where there are no further directories, only a single name leads anywhere. -/
theorem IsFlat.place_of_locate_join (h : fs.IsFlat start)
    (hdirectory : fs.locate directory = .ok start)
    (hplace : fs.locate (Path.join directory path) = .ok place)
    {c : Char} (hc : path.toList.head? = some c) (hproper : c ≠ '/' ∧ c ≠ '.') :
    '/' ∉ path.toList ∧ place = start ++ [path] := by
  obtain ⟨cs, hpath⟩ := List.head?_eq_some_iff.1 hc
  obtain ⟨piece, others, hpieces⟩ := splitAtChar_cons hproper.1 cs
  have hwalk := walk_of_locate_join (by simp [hc, hproper.1]) hdirectory hplace
  rw [Path.pieces, hpath, hpieces, List.map_cons, walk_cons_eq_ok] at hwalk
  obtain ⟨-, next, hstep, hrest⟩ := hwalk
  obtain rfl : next = start ++ [String.ofList (c :: piece)] := by
    have hname : String.ofList (c :: piece) ∉ ["", ".", ".."] := by
      simp [← String.toList_inj, hproper.2]
    rw [← h.follow, hstep.eq_follow hname]
  cases others with
  | nil =>
      cases hrest
      have hslash := notMem_of_splitAtChar hpieces
      rw [splitAtChar_of_notMem hslash] at hpieces
      have hwhole : String.ofList (c :: piece) = path := by
        rw [← (List.cons.inj hpieces).1, ← hpath, String.ofList_toList]
      exact ⟨by rwa [hpath], by rw [hwhole]⟩
  | cons piece' others =>
      exact absurd (directory_of_walk (by simp) hrest) (h.inside _)

end Files

end Cartridge
