import Cartridge.Proofs.Files.Apart
import Cartridge.Script.Dump
import Cartridge.Script.Sources

/-!
Generated declarations beside authored code. The files to write are known from the
entities and from the sources that are there already: a header for the first entity of
each type, a source where there is none, and one header for all components. Writing the
declarations is writing these files in turn, and they are clear of each other and of
all authored code.
-/

namespace Cartridge.Script

open Cartridge.Files (Frame)
open Cartridge.Session (run_bind run_isPresent run_pure)

/-! ### Files in turn -/

/-- Give files new text in turn, until one cannot be written. The result lists their paths. -/
def writeAll : List (String × String) → StateM Session (Except LinkError (List String))
  | [] => return .ok []
  | (path, text) :: rest => do
    match ← writeText path text with
    | .error e => return .error e
    | .ok path => return (← writeAll rest).map (path :: ·)

/-- The paths that are used to give files new text. -/
def touched (plan : List (String × String)) : List String :=
  plan.flatMap fun f => [f.1, Host.stagingPath f.1]

/-- No file of a plan is lost to a later one. -/
def IsClear (files : Files) (plan : List (String × String)) : Prop :=
  plan.Pairwise fun f g => files.ClearOf f.1 g.1

/-- What comes of writing the files of a plan: all is well if each of them could be replaced at
the start, and whether or not it is, nothing besides them is touched. -/
structure Carried (plan : List (String × String)) (before : Files)
    (result : Except LinkError (List String)) (after : Files) : Prop where
  frame : Frame (before.places (touched plan)) before after
  ok_iff : (∃ written, result = .ok written) ↔ ∀ f ∈ plan, before.Replaceable f.1
  listed : ∀ written, result = .ok written → written = plan.map Prod.fst
  text : ∀ written, result = .ok written → IsClear before plan →
    ∀ f ∈ plan, after.read f.1 = .ok (Bytes.ofText f.2)

section

variable {files : Files} {path : String} {plan : List (String × String)}

theorem apart_of_mem_touched (h : ∀ f ∈ plan, files.ClearOf path f.1) :
    ∀ p ∈ touched plan, files.Apart p path := by
  intro p hp
  obtain ⟨f, hf, hp⟩ := List.mem_flatMap.1 hp
  simp only [List.mem_cons, List.not_mem_nil, or_false] at hp
  rcases hp with rfl | rfl
  · exact (h f hf).file
  · exact (h f hf).staging

namespace Carried

variable {before mid after : Files} {text : String} {rest : List (String × String)}
  {result : Except LinkError (List String)} {e : LinkError}

theorem nil (files : Files) : Carried [] files (.ok []) files where
  frame := .refl _ _
  ok_iff := by simp
  listed written h := by
    cases h
    rfl
  text := by simp

/-- The first file that cannot be replaced ends the run. -/
theorem stop (hframe : Frame (before.places [path, Host.stagingPath path]) before after)
    (hpath : ¬before.Replaceable path) :
    Carried ((path, text) :: rest) before (.error e) after where
  frame := hframe.mono (Files.places_subset (List.subset_append_left _ _))
  ok_iff := by simp [hpath]
  listed := by simp
  text := by simp

/-- What the first file leaves of the others, and they of it. -/
theorem cons (hframe : Frame (before.places [path, Host.stagingPath path]) before mid)
    (hpath : before.Replaceable path) (hread : mid.read path = .ok (Bytes.ofText text))
    (hrest : Carried rest mid result after) :
    Carried ((path, text) :: rest) before (result.map (path :: ·)) after where
  frame := by
    have hlater := hrest.frame
    rw [hframe.places_eq] at hlater
    exact (hframe.mono (Files.places_subset (List.subset_append_left _ _))).trans
      (hlater.mono (Files.places_subset (List.subset_append_right _ _)))
  ok_iff := by
    have hok := hrest.ok_iff
    simp only [hframe.replaceable_iff] at hok
    rw [List.forall_mem_cons, ← hok]
    cases result <;> simp [Except.map, hpath]
  listed written hwritten := by
    cases result with
    | error e => cases hwritten
    | ok later =>
        cases hwritten
        rw [hrest.listed later rfl]
        rfl
  text written hwritten hclear := by
    rw [IsClear, List.pairwise_cons] at hclear
    cases result with
    | error e => cases hwritten
    | ok later =>
        have hlater : IsClear mid rest := hclear.2.imp fun h => hframe.clearOf_iff.2 h
        refine List.forall_mem_cons.2 ⟨?_, hrest.text later rfl hlater⟩
        exact hrest.frame.read_of_apart (apart_of_mem_touched fun g hg =>
          hframe.clearOf_iff.2 (hclear.1 g hg)) hread

end Carried

/-- A file gets its text if it can be replaced. -/
theorem run_writeText (path text : String) (s : Session) :
    ∃ result files,
      (writeText path text : StateM Session _) s = (result, { s with files := files }) ∧
      Frame (s.files.places [path, Host.stagingPath path]) s.files files ∧
      ((∃ e, result = .error e) ∧ ¬s.files.Replaceable path ∨
        result = .ok path ∧ s.files.Replaceable path ∧
          files.read path = .ok (Bytes.ofText text)) := by
  obtain ⟨result, files, hrun, hframe, hread⟩ := Session.replace_frame path (Bytes.ofText text) s
  have hiff := @Session.replace_eq_ok_iff path (Bytes.ofText text) s
  rw [hrun] at hiff
  cases result with
  | error e =>
      refine ⟨.error (.unwritable path e), files, ?_, hframe,
        .inl ⟨⟨_, rfl⟩, fun h => by simpa using hiff.2 h⟩⟩
      simp only [writeText, run_bind, hrun, run_pure]
  | ok _ =>
      refine ⟨.ok path, files, ?_, hframe, .inr ⟨rfl, hiff.1 rfl, hread rfl⟩⟩
      simp only [writeText, run_bind, hrun, run_pure]

theorem run_writeAll (plan : List (String × String)) (s : Session) :
    ∃ result files, writeAll plan s = (result, { s with files := files }) ∧
      Carried plan s.files result files := by
  induction plan generalizing s with
  | nil => exact ⟨.ok [], s.files, rfl, .nil _⟩
  | cons f rest ih =>
      obtain ⟨path, text⟩ := f
      obtain ⟨result, files, hrun, hframe, hcases⟩ := run_writeText path text s
      rcases hcases with ⟨⟨e, rfl⟩, hfailed⟩ | ⟨rfl, hreplaceable, hread⟩
      · refine ⟨.error e, files, ?_, .stop hframe hfailed⟩
        simp only [writeAll, run_bind, hrun, run_pure]
      · obtain ⟨result, files', hrest, hcarried⟩ := ih { s with files := files }
        refine ⟨result.map (path :: ·), files', ?_, .cons hframe hreplaceable hread hcarried⟩
        simp only [writeAll, run_bind, hrun, hrest, run_pure]

/-- A plan can be carried out part by part. -/
theorem run_writeAll_append (front back : List (String × String)) (s : Session) :
    writeAll (front ++ back) s =
      match writeAll front s with
      | (.error e, t) => (.error e, t)
      | (.ok written, t) => ((writeAll back t).1.map (written ++ ·), (writeAll back t).2) := by
  induction front generalizing s with
  | nil =>
      simp only [List.nil_append, writeAll, run_pure]
      cases hback : (writeAll back s).1 <;> simp [Except.map, ← hback]
  | cons f front ih =>
      obtain ⟨path, text⟩ := f
      simp only [List.cons_append, writeAll, run_bind]
      cases hfirst : (writeText path text : StateM Session _) s with
      | mk result t =>
          cases result with
          | error e => rfl
          | ok path =>
              simp only [run_bind, run_pure, ih t]
              cases hfront : writeAll front t with
              | mk result u =>
                  cases result with
                  | error e => rfl
                  | ok written =>
                      cases hback : (writeAll back u).1 <;> simp [Except.map, hback]

end

/-! ### First entities of types -/

section

variable {seen : List String} {entities : List Entity} {e : Entity}

theorem mem_of_mem_firstOfTypes (h : e ∈ Dump.firstOfTypes seen entities) :
    e ∈ entities ∧ e.typeName ∉ seen := by
  induction entities generalizing seen with
  | nil => cases h
  | cons first rest ih =>
      rw [Dump.firstOfTypes] at h
      split at h
      · exact (ih h).imp_left (List.mem_cons_of_mem _)
      · next hfirst =>
          rcases List.mem_cons.1 h with rfl | h
          · exact ⟨List.mem_cons_self, by simpa using hfirst⟩
          · obtain ⟨hmem, hseen⟩ := ih h
            exact ⟨List.mem_cons_of_mem _ hmem, fun hmem' => hseen (List.mem_cons_of_mem _ hmem')⟩

theorem pairwise_firstOfTypes (seen : List String) (entities : List Entity) :
    (Dump.firstOfTypes seen entities).Pairwise fun e e' => e.typeName ≠ e'.typeName := by
  induction entities generalizing seen with
  | nil => exact .nil
  | cons first rest ih =>
      rw [Dump.firstOfTypes]
      split
      · exact ih seen
      · refine List.pairwise_cons.2 ⟨fun e he hsame => ?_, ih _⟩
        exact (mem_of_mem_firstOfTypes he).2 (hsame ▸ List.mem_cons_self)

theorem mem_firstOfTypes_of_find? {type : String} {first : Entity}
    (h : entities.find? (·.typeName == type) = some first) (hseen : type ∉ seen) :
    first ∈ Dump.firstOfTypes seen entities := by
  induction entities generalizing seen with
  | nil => cases h
  | cons e rest ih =>
      rw [Dump.firstOfTypes]
      by_cases htype : e.typeName = type
      · obtain rfl : e = first := by simpa [List.find?_cons, htype] using h
        rw [if_neg (by simpa [htype] using hseen)]
        exact List.mem_cons_self
      · have hrest : rest.find? (·.typeName == type) = some first := by
          simpa [List.find?_cons, htype] using h
        split
        · exact ih hrest hseen
        · exact List.mem_cons_of_mem _ (ih hrest (by simp [hseen, Ne.symm htype]))

end

/-! ### Generated files -/

/-- The files that are written for the first entity of a type. -/
def typeFiles (files : Files) (directory : String) (e : Entity) : List (String × String) :=
  (headerPath directory e.typeName, entityHeader e) ::
    if files.exists? (sourcePath directory e.typeName) then []
    else [(sourcePath directory e.typeName, boilerplate e)]

/-- The files that are written for entities: those of each type, and the header of all
components. -/
def generatedFiles (files : Files) (directory : String) (entities : List Entity) :
    List (String × String) :=
  (Dump.firstOfTypes [] entities).flatMap (typeFiles files directory) ++
    [(Path.join directory componentsHeader, componentHeader (entities.flatMap Entity.components))]

section

variable {files : Files} {directory type type' path : String} {e : Entity}
  {entities : List Entity} {f : String × String}

theorem suffix_join_append (directory type ending : String) :
    ending.toList <:+ (Path.join directory (type ++ ending)).toList := by
  refine List.IsSuffix.trans ?_ (Path.suffix_join _ _)
  rw [String.toList_append]
  exact List.suffix_append _ _

theorem suffix_headerPath (directory type : String) :
    ".h".toList <:+ (headerPath directory type).toList :=
  suffix_join_append _ _ _

theorem suffix_sourcePath (directory type : String) :
    ".cpp".toList <:+ (sourcePath directory type).toList :=
  suffix_join_append _ _ _

theorem join_componentsHeader (directory : String) :
    Path.join directory componentsHeader = headerPath directory "Components" := rfl

theorem mem_typeFiles :
    f ∈ typeFiles files directory e ↔
      f = (headerPath directory e.typeName, entityHeader e) ∨
        files.exists? (sourcePath directory e.typeName) = false ∧
          f = (sourcePath directory e.typeName, boilerplate e) := by
  rw [typeFiles, List.mem_cons]
  cases files.exists? (sourcePath directory e.typeName) <;> simp

/-- A header is never taken for anything that a source is replaced by. -/
theorem clearOf_header_source (h : files.Sound) (directory type type' : String) :
    files.ClearOf (headerPath directory type) (sourcePath directory type') where
  file := h.apart_of_endings (suffix_sourcePath _ _) (suffix_headerPath _ _) (by decide)
    (by decide)
  staging := h.apart_staging (suffix_headerPath _ _) (by decide) (by decide)

/-- Sources are not touched by anything that a header is replaced by. -/
theorem clearOf_header (h : files.Sound) (hpath : ".cpp".toList <:+ path.toList)
    (directory type : String) : files.ClearOf path (headerPath directory type) where
  file := h.apart_of_endings (suffix_headerPath _ _) hpath (by decide) (by decide)
  staging := h.apart_staging hpath (by decide) (by decide)

/-- Files of one kind for different types are not taken for each other. -/
theorem clearOf_of_ending (h : files.Sound) (hslash : '/' ∉ type.toList ∧ '/' ∉ type'.toList)
    (hne : type ≠ type') {ending : String} (hending : ending = ".h" ∨ ending = ".cpp") :
    files.ClearOf (Path.join directory (type ++ ending))
      (Path.join directory (type' ++ ending)) := by
  have hname : '/' ∉ ending.toList ∧
      ¬ending.toList <:+ ".tmp".toList ∧ ¬".tmp".toList <:+ ending.toList := by
    rcases hending with rfl | rfl <;> decide
  constructor
  · exact h.apart_join directory (by simp [hslash, hname.1])
      (by simpa [String.append_left_inj] using hne.symm)
  · exact h.apart_staging (suffix_join_append directory type ending) hname.1 hname.2

/-- The files of different types are clear of each other. -/
theorem clearOf_of_types {e' : Entity} {g : String × String} (h : files.Sound)
    (hslash : '/' ∉ e.typeName.toList ∧ '/' ∉ e'.typeName.toList) (hne : e.typeName ≠ e'.typeName)
    (hf : f ∈ typeFiles files directory e) (hg : g ∈ typeFiles files directory e') :
    files.ClearOf f.1 g.1 := by
  rcases mem_typeFiles.1 hf with rfl | ⟨-, rfl⟩ <;> rcases mem_typeFiles.1 hg with rfl | ⟨-, rfl⟩
  · exact clearOf_of_ending h hslash hne (.inl rfl)
  · exact clearOf_header_source h _ _ _
  · exact clearOf_header h (suffix_sourcePath _ _) _ _
  · exact clearOf_of_ending h hslash hne (.inr rfl)

theorem isClear_typeFiles (h : files.Sound) (directory : String) (e : Entity) :
    IsClear files (typeFiles files directory e) := by
  rw [IsClear, typeFiles, List.pairwise_cons]
  split
  · exact ⟨by simp, .nil⟩
  · exact ⟨by simpa using clearOf_header_source h directory e.typeName e.typeName,
      List.pairwise_singleton _ _⟩

theorem isClear_generatedFiles (h : files.Sound)
    (hnames : ∀ e ∈ entities, '/' ∉ e.typeName.toList ∧ e.typeName ≠ "Components") :
    IsClear files (generatedFiles files directory entities) := by
  have hfirst : ∀ e ∈ Dump.firstOfTypes [] entities, e ∈ entities := fun e he =>
    (mem_of_mem_firstOfTypes he).1
  rw [IsClear, generatedFiles, List.pairwise_append, List.pairwise_flatMap]
  refine ⟨⟨fun e _ => isClear_typeFiles h directory e, ?_⟩, List.pairwise_singleton _ _, ?_⟩
  · refine (pairwise_firstOfTypes [] entities).imp_of_mem fun he he' hne f hf g hg => ?_
    exact clearOf_of_types h ⟨(hnames _ (hfirst _ he)).1, (hnames _ (hfirst _ he')).1⟩ hne hf hg
  · intro f hf g hg
    obtain ⟨e, he, hf⟩ := List.mem_flatMap.1 hf
    obtain rfl := List.mem_singleton.1 hg
    obtain ⟨hslash, hne⟩ := hnames e (hfirst e he)
    rw [join_componentsHeader]
    rcases mem_typeFiles.1 hf with rfl | ⟨-, rfl⟩
    · exact clearOf_of_ending h ⟨hslash, by decide⟩ hne (.inl rfl)
    · exact clearOf_header h (suffix_sourcePath directory e.typeName) directory "Components"

/-- Sources that are there are clear of everything that is written. -/
theorem clearOf_authored (h : files.Sound) (hpath : ".cpp".toList <:+ path.toList)
    (hexists : files.exists? path = true) :
    ∀ f ∈ generatedFiles files directory entities, files.ClearOf path f.1 := by
  intro f hf
  rcases List.mem_append.1 hf with hf | hf
  · obtain ⟨e, -, hf⟩ := List.mem_flatMap.1 hf
    rcases mem_typeFiles.1 hf with rfl | ⟨habsent, rfl⟩
    · exact clearOf_header h hpath _ _
    · exact ⟨Files.apart_of_absent habsent hexists,
        h.apart_staging hpath (by decide) (by decide)⟩
  · obtain rfl := List.mem_singleton.1 hf
    exact clearOf_header h hpath directory "Components"

/-! ### Runs -/

variable {s : Session}

theorem run_writeType (h : s.files.Sound) (directory : String) (e : Entity) :
    (writeType directory e : StateM Session _) s = writeAll (typeFiles s.files directory e) s := by
  obtain ⟨result, files, hrun, hframe, hcases⟩ :=
    run_writeText (headerPath directory e.typeName) (entityHeader e) s
  have hpresent : files.exists? (sourcePath directory e.typeName) =
      s.files.exists? (sourcePath directory e.typeName) := by
    obtain ⟨hfile, hstaging⟩ :=
      clearOf_header h (suffix_sourcePath directory e.typeName) directory e.typeName
    exact hframe.exists?_of_apart (by simp [hfile, hstaging])
  rcases hcases with ⟨⟨error, rfl⟩, -⟩ | ⟨rfl, -, -⟩
  · simp only [writeType, typeFiles, writeAll, run_bind, hrun, run_pure]
  · simp only [writeType, typeFiles, writeAll, run_bind, hrun, run_isPresent, hpresent]
    split
    · rfl
    · simp only [writeAll, run_bind]
      cases (writeText (sourcePath directory e.typeName) (boilerplate e) : StateM Session _)
        { s with files := files } with
      | mk result t => cases result <;> rfl

theorem run_writeTypes (h : s.files.Sound) (hslash : ∀ e ∈ entities, '/' ∉ e.typeName.toList)
    (directory : String) (seen : List String) :
    (writeTypes directory seen entities : StateM Session _) s =
      writeAll ((Dump.firstOfTypes seen entities).flatMap (typeFiles s.files directory)) s := by
  induction entities generalizing seen s with
  | nil => rfl
  | cons e rest ih =>
      rw [List.forall_mem_cons] at hslash
      rw [writeTypes, Dump.firstOfTypes]
      split
      · exact ih h hslash.2 seen
      · obtain ⟨result, files, hrun, hcarried⟩ :=
          run_writeAll (typeFiles s.files directory e) s
        rw [List.flatMap_cons, run_writeAll_append, hrun]
        simp only [run_bind, run_writeType h, hrun]
        cases result with
        | error error => rfl
        | ok written =>
            -- What the later types find is what there was before this one was written.
            have hsame : ∀ e' ∈ Dump.firstOfTypes (e.typeName :: seen) rest,
                typeFiles files directory e' = typeFiles s.files directory e' := by
              intro e' he'
              obtain ⟨hmem, hother⟩ := mem_of_mem_firstOfTypes he'
              rw [List.mem_cons, not_or] at hother
              rw [typeFiles, typeFiles, hcarried.frame.exists?_of_apart]
              refine apart_of_mem_touched fun f hf => ?_
              rcases mem_typeFiles.1 hf with rfl | ⟨-, rfl⟩
              · exact clearOf_header h (suffix_sourcePath _ _) _ _
              · exact clearOf_of_ending h ⟨hslash.2 e' hmem, hslash.1⟩ hother.1 (.inr rfl)
            have hrest := @ih { s with files := files } (h.of_frame hcarried.frame) hslash.2
              (e.typeName :: seen)
            rw [List.flatMap_congr hsame] at hrest
            simp only [run_bind, hrest, run_pure]

theorem run_writeSources (h : s.files.Sound) (hslash : ∀ e ∈ entities, '/' ∉ e.typeName.toList)
    (directory : String) :
    (writeSources directory entities : StateM Session _) s =
      writeAll (generatedFiles s.files directory entities) s := by
  rw [generatedFiles, run_writeAll_append]
  simp only [writeSources, run_bind, run_writeTypes h hslash]
  cases writeAll ((Dump.firstOfTypes [] entities).flatMap (typeFiles s.files directory)) s with
  | mk result t =>
      cases result with
      | error e => rfl
      | ok written =>
          simp only [writeAll, run_bind]
          cases (writeText (Path.join directory componentsHeader)
            (componentHeader (entities.flatMap Entity.components)) : StateM Session _) t with
          | mk result u => cases result <;> rfl

/-- Whatever comes of it, sources that are there keep what they hold. If the generated files can
be replaced, they are: the header of a type is that of its first entity, a type without a source
gets one to start from, and all components of all entities go into one header. -/
theorem writeSources_outcome (directory : String) (entities : List Entity) (s : Session)
    (hsound : s.files.Sound)
    (hnames : ∀ e ∈ entities, '/' ∉ e.typeName.toList ∧ e.typeName ≠ "Components") :
    ∃ result files,
      (writeSources directory entities : StateM Session _) s =
        (result, { s with files := files }) ∧
      ((∃ written, result = .ok written) ↔
        ∀ f ∈ generatedFiles s.files directory entities, s.files.Replaceable f.1) ∧
      (∀ path content, ".cpp".toList <:+ path.toList → s.files.read path = .ok content →
        files.read path = .ok content) ∧
      ∀ written, result = .ok written →
        written = (generatedFiles s.files directory entities).map Prod.fst ∧
        (∀ type first, entities.find? (·.typeName == type) = some first →
          files.read (headerPath directory type) = .ok (Bytes.ofText (entityHeader first)) ∧
          (s.files.exists? (sourcePath directory type) = false →
            files.read (sourcePath directory type) = .ok (Bytes.ofText (boilerplate first)))) ∧
        files.read (Path.join directory componentsHeader) =
          .ok (Bytes.ofText (componentHeader (entities.flatMap Entity.components))) := by
  obtain ⟨result, files, hrun, hcarried⟩ :=
    run_writeAll (generatedFiles s.files directory entities) s
  rw [← run_writeSources hsound fun e he => (hnames e he).1] at hrun
  refine ⟨result, files, hrun, hcarried.ok_iff, fun path content hpath hread => ?_,
    fun written hwritten => ⟨hcarried.listed written hwritten, fun type first hfirst => ?_, ?_⟩⟩
  · exact hcarried.frame.read_of_apart (apart_of_mem_touched
      (clearOf_authored hsound hpath (Files.exists?_of_read hread))) hread
  · have htext := hcarried.text written hwritten (isClear_generatedFiles hsound hnames)
    have hmem : ∀ f ∈ typeFiles s.files directory first,
        f ∈ generatedFiles s.files directory entities := fun f hf =>
      List.mem_append_left _ (List.mem_flatMap.2
        ⟨first, mem_firstOfTypes_of_find? hfirst List.not_mem_nil, hf⟩)
    obtain rfl : first.typeName = type := by simpa using List.find?_some hfirst
    exact ⟨htext (headerPath directory first.typeName, entityHeader first)
        (hmem _ (mem_typeFiles.2 (.inl rfl))),
      fun habsent => htext (sourcePath directory first.typeName, boilerplate first)
        (hmem _ (mem_typeFiles.2 (.inr ⟨habsent, rfl⟩)))⟩
  · exact hcarried.text written hwritten (isClear_generatedFiles hsound hnames)
      (Path.join directory componentsHeader,
        componentHeader (entities.flatMap Entity.components))
      (List.mem_append_right _ (List.mem_singleton_self _))

/-- A bat that is there twice, with other components the second time, and a ghost. -/
def batEntities : List Entity :=
  [{ Entity.named "EBat" 1 with components := [.named "ECSprite"] },
    { Entity.named "EBat" 1 with components := [.named "ECWings"] }, .named "EGhost" 2]

/-- A directory with the source of one type. -/
def batSession : Session :=
  .start ⟨[(["out"], .directory), (["out", "EBat.cpp"], .file (Bytes.ofText "// mine"))], [], []⟩

theorem bat_keeps_its_source :
    ∃ files,
      (writeSources "out" batEntities : StateM Session _) batSession =
        (.ok ["out/EBat.h", "out/EGhost.h", "out/EGhost.cpp", "out/Components.h"],
          { batSession with files := files }) ∧
      files.read "out/EBat.cpp" = .ok (Bytes.ofText "// mine") ∧
      files.read "out/EBat.h" = .ok (Bytes.ofText (entityHeader batEntities[0])) ∧
      files.read "out/EGhost.cpp" = .ok (Bytes.ofText (boilerplate batEntities[2])) ∧
      files.read "out/Components.h" =
        .ok (Bytes.ofText (componentHeader [.named "ECSprite", .named "ECWings"])) := by
  obtain ⟨result, files, hrun, hok, hauthored, hwritten⟩ :=
    writeSources_outcome "out" batEntities batSession (by decide +kernel) (by decide +kernel)
  obtain ⟨written, rfl⟩ := hok.2 (by decide +kernel)
  obtain ⟨rfl, htypes, hcomponents⟩ := hwritten written rfl
  have hlisted : (generatedFiles batSession.files "out" batEntities).map Prod.fst =
      ["out/EBat.h", "out/EGhost.h", "out/EGhost.cpp", "out/Components.h"] := by decide +kernel
  rw [hlisted] at hrun
  exact ⟨files, hrun, hauthored "out/EBat.cpp" _ (by decide) (by decide +kernel),
    (htypes "EBat" _ rfl).1, (htypes "EGhost" _ rfl).2 (by decide +kernel), hcomponents⟩

end

end Cartridge.Script
