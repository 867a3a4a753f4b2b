import Cartridge.Command.Export
import Cartridge.Proofs.Command.Run
import Cartridge.Proofs.Command.Scripts
import Cartridge.Proofs.Files.Join
import Cartridge.Proofs.Files.Replace
import Mathlib.Data.List.Nodup

/-!
What an export leaves of the scenes. Scenes are turned into names and looked up
again by these, and their files are named without regard to letter case, as the
lookup is. So each file holds the first scene of its name, and later scenes of that
name are lost unless their source is the same.
-/

namespace Cartridge

open Cartridge.Export

/-- The source of a scene, if the types of all its instances are known. -/
def Export.Builder.sceneSource (b : Builder) (scene : Scene) : Except BuildError String :=
  (b.scene scene).value.map (sceneText b.settings scene.name)

/-! ### Names of scenes and of their files -/

theorem sceneFile_eq_iff {a b : String} :
    sceneFile a = sceneFile b ↔ Text.sameName a b = true := by
  simp [sceneFile, Text.sameName_iff]

theorem Project.scene?_congr {p : Project} {a b : String} (h : Text.sameName a b = true) :
    p.scene? a = p.scene? b := by
  rw [Text.sameName_iff] at h
  simp only [scene?, Text.sameName, h]

theorem Project.sameName_of_scene? {p : Project} {name : String} {scene : Scene}
    (h : p.scene? name = some scene) : Text.sameName scene.name name = true := by
  simpa using List.find?_some h

theorem suffix_sceneFile (scene : String) : ".asm".toList <:+ (sceneFile scene).toList := by
  rw [sceneFile, String.toList_append]
  exact List.suffix_append _ _

theorem head?_sceneFile (scene : String) : (sceneFile scene).toList.head? = some 's' := by
  rw [sceneFile, String.append_assoc, String.toList_append]
  rfl

/-! ### Steps that spare files -/

namespace Command

open Session (Spares)

section

variable {α β ε : Type} {spared : String → Prop}

theorem spares_bind {x : ExceptT Failure (StateM Session) α}
    {f : α → ExceptT Failure (StateM Session) β} (hx : Spares spared x.run)
    (hf : ∀ a, Spares spared (f a).run) : Spares spared (x >>= f).run := by
  rw [ExceptT.run_bind]
  refine .bind hx fun result => ?_
  cases result with
  | ok a => exact hf a
  | error e => exact .pure _

theorem spares_attempt {failure : ε → Failure} {x : StateM Session (Except ε α)}
    (hx : Spares spared x) : Spares spared (attempt failure x).run :=
  .bind hx fun _ => .pure _

theorem spares_during {activity : String} {x : ExceptT Failure (StateM Session) α}
    (hx : Spares spared x.run) : Spares spared (during activity x).run :=
  .bind hx fun _ => .pure _

end

/-! ### Steps -/

namespace Export

variable {b : Builder} {args : Args} {s after : Session} {path text name : String}
  {directory : Place}

theorem writeOutput_eq_ok (h : runIn (writeOutput path text) s = (.ok (), after)) :
    Files.Frame (s.files.places [path, Host.stagingPath path]) s.files after.files ∧
      after.files.read path = .ok (Bytes.ofText text) := by
  obtain ⟨result, files, hrun, hframe, hread⟩ :=
    Session.replace_frame path (Bytes.ofText text) s
  rw [writeOutput, runIn_attempt_eq_ok, hrun] at h
  cases h
  exact ⟨hframe, hread rfl⟩

/-- A step that writes what has been built changes the files of its output only. -/
theorem frame_of_reported {α : Type} {x : Logged α} {text : α → String}
    (h : runIn (do writeOutput path (text (← ExceptT.lift (Host.reported x)))) s =
      (.ok (), after)) :
    ∃ paths, Files.Frame (s.files.places paths) s.files after.files := by
  obtain ⟨built, mid, hbuild, hwrite⟩ := runIn_bind_eq_ok.1 h
  obtain ⟨events, hreported⟩ := run_reported x s
  rw [runIn_lift, hreported] at hbuild
  cases hbuild
  exact ⟨_, (writeOutput_eq_ok hwrite).1⟩

/-- The file of a scene holds the first scene of that name. -/
def HoldsScene (b : Builder) (args : Args) (files : Files) (name : String) : Prop :=
  ∃ first text, b.project.scene? name = some first ∧ b.sceneSource first = .ok text ∧
    files.read (args.outPath (sceneFile name)) = .ok (Bytes.ofText text)

theorem exportScene_eq_ok (h : runIn (exportScene b args name) s = (.ok (), after)) :
    Files.Frame (s.files.places [args.outPath (sceneFile name),
        Host.stagingPath (args.outPath (sceneFile name))]) s.files after.files ∧
      HoldsScene b args after.files name := by
  rw [exportScene] at h
  cases hscene : b.project.scene? name with
  | none =>
      rw [hscene] at h
      cases h
  | some first =>
      rw [hscene] at h
      obtain ⟨entities, mid, hbuild, hwrite⟩ := runIn_bind_eq_ok.1 h
      obtain ⟨events, hreported⟩ := run_reported (b.scene first) s
      rw [runIn_attempt_eq_ok, hreported] at hbuild
      obtain ⟨hvalue, rfl⟩ := Prod.mk.inj hbuild
      obtain ⟨hframe, hread⟩ := writeOutput_eq_ok hwrite
      rw [sceneFile_eq_iff.2 (Project.sameName_of_scene? hscene)] at hframe hread
      refine ⟨hframe, first, _, hscene, ?_, hread⟩
      rw [Builder.sceneSource, hvalue]
      rfl

/-! ### The files of scenes -/

/-- A scene's file stands right in the directory, under its name. -/
theorem place_of_sceneFile {files : Files} {place : Place} (hflat : files.IsFlat directory)
    (hout : files.locate args.out = .ok directory)
    (hplace : files.locate (args.outPath (sceneFile name)) = .ok place) :
    '/' ∉ (sceneFile name).toList ∧ place = directory ++ [sceneFile name] :=
  hflat.place_of_locate_join hout hplace (head?_sceneFile name) (by decide)

theorem read_of_spares {spared : String → Prop} {files later : Files} {content : Bytes}
    (hflat : files.IsFlat directory) (hout : files.locate args.out = .ok directory)
    (hspares : files.Spares spared later) (hname : spared (sceneFile name))
    (hread : files.read (args.outPath (sceneFile name)) = .ok content) :
    later.read (args.outPath (sceneFile name)) = .ok content := by
  obtain ⟨place, hplace, hfile⟩ := Files.read_eq_ok.1 hread
  obtain ⟨-, rfl⟩ := place_of_sceneFile hflat hout hplace
  exact Files.read_eq_ok.2 ⟨_, hspares.locate _ _ hplace,
    hspares.kept _ _ _ (List.getLast?_concat ..) hname hfile⟩

/-- The directory holds the scenes of the names that were exported so far. -/
structure Exported (b : Builder) (args : Args) (directory : Place) (names : List String)
    (files : Files) : Prop where
  sound : files.Sound
  out : files.locate args.out = .ok directory
  flat : files.IsFlat directory
  scenes : ∀ name ∈ names, HoldsScene b args files name

theorem Exported.of_frame {paths : List String} {files later : Files}
    (h : Exported b args directory [] files)
    (hframe : Files.Frame (files.places paths) files later) :
    Exported b args directory [] later :=
  ⟨h.sound.of_frame hframe, hframe.locate_eq_ok.2 h.out, h.flat.of_frame hframe, by simp⟩

/-- A scene's file gets in the way of no other, unless both are of one name. -/
theorem Exported.exportScene {names : List String} (h : Exported b args directory names s.files)
    (hrun : runIn (exportScene b args name) s = (.ok (), after)) :
    Exported b args directory (names ++ [name]) after.files := by
  obtain ⟨hframe, hnew⟩ := exportScene_eq_ok hrun
  have hout := hframe.locate_eq_ok.2 h.out
  have hflat := h.flat.of_frame hframe
  refine ⟨h.sound.of_frame hframe, hout, hflat, fun other hother => ?_⟩
  rw [List.mem_append, List.mem_singleton] at hother
  rcases hother with hother | rfl
  swap
  · exact hnew
  obtain ⟨first, text, hscene, hsource, hread⟩ := h.scenes other hother
  by_cases hsame : Text.sameName other name = true
  · -- The file was written once more, with the same scene.
    obtain ⟨first', text', hscene', hsource', hread'⟩ := hnew
    rw [← Project.scene?_congr hsame, hscene, Option.some.injEq] at hscene'
    subst hscene'
    refine ⟨first, text', hscene, hsource', ?_⟩
    rw [sceneFile_eq_iff.2 hsame]
    exact hread'
  · refine ⟨first, text, hscene, hsource, ?_⟩
    obtain ⟨_, _, -, -, hread'⟩ := hnew
    obtain ⟨place, hplace, -⟩ := Files.read_eq_ok.1 hread'
    obtain ⟨hslash, -⟩ := place_of_sceneFile hflat hout hplace
    have hspares : s.files.Spares (· = sceneFile other) after.files := by
      refine .of_replaced h.sound hframe ?_
      rintro _ rfl
      refine ⟨Text.not_suffix_of_suffix (suffix_sceneFile other) (by decide) (by decide), ?_⟩
      rw [Args.outPath, Path.last_piece_join_name _ hslash]
      simp only [ne_eq, Option.some.injEq, String.toList_inj]
      exact fun heq => hsame (sceneFile_eq_iff.1 heq.symm)
    exact read_of_spares h.flat h.out hspares rfl hread

/-! ### Runs of steps -/

theorem carryOut_cons_eq_zero {step : ExceptT Failure (StateM Session) Unit}
    {rest : List (String × ExceptT Failure (StateM Session) Unit)} :
    carryOut ((name, step) :: rest) s = (0, after) ↔
      ∃ mid, runIn step s = (.ok (), mid) ∧ carryOut rest mid = (0, after) := by
  rw [carryOut, Session.run_bind]
  rcases hstep : runIn step s with ⟨e | _, mid⟩
  · rw [show step.run s = _ from hstep]
    simp only [Session.run_bind, Session.run_report, Session.run_pure]
    constructor
    · intro h
      cases h
    · rintro ⟨_, ⟨⟩, -⟩
  · rw [show step.run s = _ from hstep]
    simp

theorem carryOut_append_eq_zero
    {first rest : List (String × ExceptT Failure (StateM Session) Unit)} :
    carryOut (first ++ rest) s = (0, after) ↔
      ∃ mid, carryOut first s = (0, mid) ∧ carryOut rest mid = (0, after) := by
  induction first generalizing s with
  | nil =>
      constructor
      · exact fun h => ⟨s, rfl, h⟩
      · rintro ⟨_, ⟨⟩, h⟩
        exact h
  | cons step first ih =>
      obtain ⟨name, step⟩ := step
      rw [List.cons_append, carryOut_cons_eq_zero]
      simp only [ih, carryOut_cons_eq_zero]
      grind

/-- Scenes that are exported one after the other are all there in the end. -/
theorem Exported.of_carryOut {names done : List String} (h : Exported b args directory done s.files)
    (hrun : (carryOut (names.map fun name => ("scene " ++ name, Export.exportScene b args name)) :
      StateM Session Nat) s = (0, after)) :
    Exported b args directory (done ++ names) after.files := by
  induction names generalizing done s with
  | nil =>
      cases hrun
      simpa using h
  | cons name names ih =>
      obtain ⟨mid, hstep, hrest⟩ := carryOut_cons_eq_zero.1 hrun
      simpa using ih (h.exportScene hstep) hrest

/-! ### Scripts -/

/-- The name is that of a source which is not the table of routines. -/
def IsSceneLike (name : String) : Prop :=
  ".asm".toList <:+ name.toList ∧ name ≠ tableSourceFile

theorem isSceneLike_sceneFile (scene : String) : IsSceneLike (sceneFile scene) := by
  refine ⟨suffix_sceneFile scene, fun h => ?_⟩
  have hthird : (sceneFile scene).toList[2]? = some 'e' := by
    rw [sceneFile, String.append_assoc, String.toList_append]
    rfl
  rw [h] at hthird
  exact absurd hthird (by decide)

theorem IsSceneLike.not_staging (h : IsSceneLike name) : ¬".tmp".toList <:+ name.toList :=
  Text.not_suffix_of_suffix h.1 (by decide) (by decide)

theorem spares_writeText (ending : List Char) (text : String)
    (hending : ending <:+ path.toList) (hslash : '/' ∉ ending) (hlength : ending.length ≤ 4)
    (hother : ¬ending <:+ ".asm".toList) :
    Spares IsSceneLike (Script.writeText path text : StateM Session _) := by
  refine .bind (.replace _ fun name hname => ⟨hname.not_staging, fun hlast => ?_⟩) fun result => ?_
  · obtain ⟨last, hlast', hsuffix⟩ := Path.suffix_last_piece hending hslash
    obtain rfl : name.toList = last := by simpa [hlast] using hlast'
    exact Text.not_suffix_of_suffix hname.1 hlength hother hsuffix
  · cases result <;> exact .pure _

theorem spares_writeHeader (directory type text : String) :
    Spares IsSceneLike
      (Script.writeText (Script.headerPath directory type) text : StateM Session _) := by
  exact spares_writeText ".h".toList text (Script.suffix_headerPath _ _) (by decide) (by decide)
    (by decide)

theorem spares_writeSource (directory type text : String) :
    Spares IsSceneLike
      (Script.writeText (Script.sourcePath directory type) text : StateM Session _) := by
  exact spares_writeText ".cpp".toList text (Script.suffix_sourcePath _ _) (by decide) (by decide)
    (by decide)

theorem spares_writeType (directory : String) (e : Entity) :
    Spares IsSceneLike (Script.writeType directory e : StateM Session _) := by
  refine .bind (spares_writeHeader _ _ _) fun result => ?_
  cases result with
  | error e => exact .pure _
  | ok header =>
      refine .bind (.of_files_eq fun _ => rfl) fun present => ?_
      split
      · exact .pure _
      · refine .bind (spares_writeSource _ _ _) fun result => ?_
        cases result <;> exact .pure _

theorem spares_writeTypes (directory : String) (seen : List String) (entities : List Entity) :
    Spares IsSceneLike (Script.writeTypes directory seen entities : StateM Session _) := by
  induction entities generalizing seen with
  | nil => exact .pure _
  | cons e rest ih =>
      rw [Script.writeTypes]
      split
      · exact ih seen
      · refine .bind (spares_writeType directory e) fun result => ?_
        cases result with
        | error e => exact .pure _
        | ok written => exact .bind (ih _) fun _ => .pure _

theorem spares_writeSources (directory : String) (entities : List Entity) :
    Spares IsSceneLike (Script.writeSources directory entities : StateM Session _) := by
  refine .bind (spares_writeTypes directory [] entities) fun result => ?_
  cases result with
  | error e => exact .pure _
  | ok written =>
      exact .bind (spares_writeHeader directory "Components" _) fun _ => .pure _

theorem spares_writeTable {file : String} (args : Args) (text : String)
    (hslash : '/' ∉ file.toList) (hfile : ¬IsSceneLike file) :
    Spares IsSceneLike
      (writeOutput (args.outPath file) text : ExceptT Failure (StateM Session) Unit).run := by
  refine spares_attempt (.replace _ fun name hname => ⟨hname.not_staging, ?_⟩)
  rw [Args.outPath, Path.last_piece_join_name _ hslash]
  simp only [ne_eq, Option.some.injEq, String.toList_inj]
  rintro rfl
  exact hfile hname

/-- The step of the scripts, which comes last, leaves the files of scenes alone. -/
theorem spares_exportScripts (b : Builder) (args : Args) :
    Spares IsSceneLike (exportScripts b args : ExceptT Failure (StateM Session) Unit).run := by
  refine spares_bind (.of_files_eq fun s => ?_) fun entities => ?_
  · obtain ⟨events, hreported⟩ := run_reported (scriptedEntities b) s
    change (runIn (ExceptT.lift (Host.reported (scriptedEntities b))) s).2.files = _
    rw [runIn_lift, hreported]
  refine spares_bind (spares_during (spares_attempt (.createDirectories _))) fun _ => ?_
  refine spares_bind (spares_attempt (spares_writeSources _ _)) fun _ => ?_
  refine spares_bind (spares_writeTable args _ (by decide) ?_) fun _ =>
    spares_writeTable args _ (by decide) ?_
  · exact fun h => h.2 rfl
  · exact fun h => absurd h.1 (by decide)

/-! ### The whole export -/

theorem loadProject_onlyReads (path : String) :
    OnlyReads (loadProject path : ExceptT Failure (StateM Session) Project) :=
  .during (.bind (.readText path) fun _ => .attempt fun _ => rfl)

theorem loadAddresses_onlyReads (path : Option String) :
    OnlyReads (loadAddresses path : ExceptT Failure (StateM Session) AddressMap) := by
  cases path with
  | none => exact .pure _
  | some path =>
      refine .bind (.during (.readText path)) fun text => ?_
      split
      · exact .pure _
      · exact .throw _

theorem create_of_directory {path : String} (hlocate : s.files.locate path = .ok directory)
    (hdirectory : s.files.get? directory = some .directory) :
    runIn (create path) s = (.ok (), s) := by
  refine runIn_during_eq_ok.2 (runIn_attempt_eq_ok.2 ?_)
  rw [Session.run_createDirectories, Files.createDirectories_of_directory hlocate hdirectory]

/-- An export into a directory that is there succeeds if all of its steps do. -/
theorem run_eq_ok_iff {project : Project} {addresses : AddressMap}
    (hlocate : s.files.locate args.out = .ok directory)
    (hdirectory : s.files.get? directory = some .directory)
    (hproject : (runIn (loadProject args.project) s).1 = .ok project)
    (haddresses : (runIn (loadAddresses args.addresses) s).1 = .ok addresses) :
    runIn (run args) s = (.ok (), after) ↔
      (carryOut (steps ⟨project, addresses, args.settings⟩ args) : StateM Session Nat) s =
        (0, after) := by
  have hproject' : runIn (loadProject args.project) s = (.ok project, s) :=
    Prod.ext hproject (loadProject_onlyReads _ s)
  have haddresses' : runIn (loadAddresses args.addresses) s = (.ok addresses, s) :=
    Prod.ext haddresses (loadAddresses_onlyReads _ s)
  rw [run, runIn_bind_ok hproject', runIn_bind_ok haddresses',
    runIn_bind_ok (create_of_directory hlocate hdirectory), runIn_bind_ok (runIn_lift _ _)]
  rcases hsteps : (carryOut (steps ⟨project, addresses, args.settings⟩ args) :
    StateM Session Nat) s with ⟨_ | failures, last⟩
  · constructor <;> rintro ⟨⟩ <;> rfl
  · constructor <;> rintro ⟨⟩

/-- After an export that succeeds the files hold the first scene of each name. -/
theorem holdsScene_of_run {project : Project} {addresses : AddressMap} (hsound : s.files.Sound)
    (hempty : s.files.list args.out = .ok []) (hall : args.scenes = [])
    (hproject : (runIn (loadProject args.project) s).1 = .ok project)
    (haddresses : (runIn (loadAddresses args.addresses) s).1 = .ok addresses)
    (hrun : runIn (run args) s = (.ok (), after)) :
    ∀ scene ∈ project.scenes,
      HoldsScene ⟨project, addresses, args.settings⟩ args after.files scene.name := by
  obtain ⟨directory, hout, hflat⟩ := Files.isFlat_of_list hempty
  have hsteps := (run_eq_ok_iff hout hflat.directory hproject haddresses).1 hrun
  rw [steps, carryOut_append_eq_zero] at hsteps
  obtain ⟨mid, hsteps, hscripts⟩ := hsteps
  obtain ⟨s₁, harchetypes, hsteps⟩ := carryOut_cons_eq_zero.1 hsteps
  obtain ⟨s₂, hprefabs, hscenes⟩ := carryOut_cons_eq_zero.1 hsteps
  obtain ⟨paths₁, hframe₁⟩ := frame_of_reported harchetypes
  obtain ⟨paths₂, hframe₂⟩ := frame_of_reported hprefabs
  have hstart : Exported ⟨project, addresses, args.settings⟩ args directory [] s.files :=
    ⟨hsound, hout, hflat, by simp⟩
  have hexported := ((hstart.of_frame hframe₁).of_frame hframe₂).of_carryOut hscenes
  obtain ⟨last, hstep, hdone⟩ := carryOut_cons_eq_zero.1 hscripts
  obtain rfl : last = after := (Prod.mk.inj hdone).2
  have hspares : mid.files.Spares IsSceneLike (runIn (exportScripts _ args) mid).2.files :=
    spares_exportScripts ⟨project, addresses, args.settings⟩ args mid hexported.sound
  rw [hstep] at hspares
  intro scene hscene
  obtain ⟨first, text, hfirst, hsource, hread⟩ := hexported.scenes scene.name
    (by simpa [Args.sceneNames, hall] using ⟨scene, hscene, rfl⟩)
  exact ⟨first, text, hfirst, hsource, read_of_spares hexported.flat hexported.out hspares
    (isSceneLike_sceneFile _) hread⟩

/-- The file of a scene holds its source. -/
def HoldsSource (b : Builder) (args : Args) (files : Files) (scene : Scene) : Prop :=
  ∃ text, b.sceneSource scene = .ok text ∧
    files.read (args.outPath (sceneFile scene.name)) = .ok (Bytes.ofText text)

theorem holdsSource_iff {scene first : Scene} {files : Files}
    (hfirst : b.project.scene? scene.name = some first)
    (hholds : HoldsScene b args files scene.name) :
    HoldsSource b args files scene ↔ b.sceneSource scene = b.sceneSource first := by
  obtain ⟨first', text, hscene, hsource, hread⟩ := hholds
  obtain rfl : first = first' := by simpa [hfirst] using hscene
  rw [hsource]
  constructor
  · rintro ⟨text', hsource', hread'⟩
    have hbytes := Except.ok.inj (hread.symm.trans hread')
    have htext := congrArg Bytes.text? hbytes
    rw [Bytes.text?_ofText, Bytes.text?_ofText, Option.some.injEq] at htext
    rw [hsource', htext]
  · exact fun hsame => ⟨text, hsame, hread⟩

theorem scene?_of_nodup {p : Project}
    (hnames : (p.scenes.map fun scene => Text.foldCase scene.name).Nodup) {scene first : Scene}
    (hscene : scene ∈ p.scenes) (hfirst : p.scene? scene.name = some first) : first = scene :=
  List.inj_on_of_nodup_map hnames (List.mem_of_find?_eq_some hfirst) hscene
    (Text.sameName_iff.1 (Project.sameName_of_scene? hfirst))

/-- An export of all scenes into an empty directory that reports no failure leaves the
first scene of each name. That is every scene exactly if those of one name, in either
letter case, have the same source; so it is if no two have one name. -/
theorem exported_scenes {project : Project} {addresses : AddressMap} (hsound : s.files.Sound)
    (hempty : s.files.list args.out = .ok []) (hall : args.scenes = [])
    (hproject : (runIn (loadProject args.project) s).1 = .ok project)
    (haddresses : (runIn (loadAddresses args.addresses) s).1 = .ok addresses)
    (hrun : runIn (run args) s = (.ok (), after)) :
    let b : Builder := ⟨project, addresses, args.settings⟩
    (∀ scene ∈ project.scenes, HoldsScene b args after.files scene.name) ∧
      ((∀ scene ∈ project.scenes, HoldsSource b args after.files scene) ↔
        ∀ scene ∈ project.scenes, ∀ first, project.scene? scene.name = some first →
          b.sceneSource scene = b.sceneSource first) ∧
      ((project.scenes.map fun scene => Text.foldCase scene.name).Nodup →
        ∀ scene ∈ project.scenes, HoldsSource b args after.files scene) := by
  intro b
  have hholds := holdsScene_of_run hsound hempty hall hproject haddresses hrun
  have hfirst : ∀ scene ∈ project.scenes, ∃ first, project.scene? scene.name = some first :=
    fun scene hscene => (hholds scene hscene).imp fun _ ⟨_, hfirst, _⟩ => hfirst
  refine ⟨hholds, ⟨fun h scene hscene first hfirst => ?_, fun h scene hscene => ?_⟩,
    fun hnames scene hscene => ?_⟩
  · exact (holdsSource_iff hfirst (hholds scene hscene)).1 (h scene hscene)
  · obtain ⟨first, hfirst⟩ := hfirst scene hscene
    exact (holdsSource_iff hfirst (hholds scene hscene)).2 (h scene hscene first hfirst)
  · obtain ⟨first, hfirst⟩ := hfirst scene hscene
    refine (holdsSource_iff hfirst (hholds scene hscene)).2 ?_
    rw [scene?_of_nodup hnames hscene hfirst]

/-! Scenes of different names, and of one. -/

def batInstance : Instance :=
  ⟨5, "", 1, .zero, .zero, none, []⟩

def batScenes (second : String) : Project :=
  ⟨[⟨1, "EBat", .zero, none, [], [], none, [], false⟩], [], [],
    [⟨"Cave", [batInstance]⟩, ⟨second, []⟩]⟩

def batDocument (second : String) : Json.Value :=
  let bat := .record [("id", .integer 5), ("type_id", .integer 1),
    ("position", .array [.integer 0, .integer 0])]
  .record [("entity_types", .array [.record [("id", .integer 1), ("name", .text "EBat")]]),
    ("scenes", .array [.record [("name", .text "Cave"), ("instances", .array [bat])],
      .record [("name", .text second)]])]

def batSession (second : String) : Session :=
  .start ⟨[(["project.json"], .file (Bytes.ofText (batDocument second).render)),
    (["out"], .directory)], [], []⟩

def batArgs : Args :=
  ⟨"project.json", "out", [], none, none, .default⟩

theorem loadProject_batSession {second : String}
    (hload : Project.load (batDocument second).render = .ok (batScenes second)) :
    (runIn (loadProject batArgs.project) (batSession second)).1 = .ok (batScenes second) := by
  have htext : runIn (readDocument batArgs.project) (batSession second) =
      (.ok (batDocument second).render, batSession second) :=
    runIn_attempt_ok (Session.run_readText rfl)
  rw [loadProject, runIn_during_ok]
  rw [runIn_bind_ok htext]
  exact runIn_attempt_ok (congrArg (·, batSession second) hload)

/-- The failures of the steps of the export, and the session they leave. -/
def batRun (second : String) : Nat × Session :=
  (carryOut (steps ⟨batScenes second, .empty, .default⟩ batArgs) : StateM Session Nat)
    (batSession second)

theorem run_batSession {second : String}
    (hempty : (batSession second).files.list batArgs.out = .ok [])
    (hload : Project.load (batDocument second).render = .ok (batScenes second))
    (hsteps : (batRun second).1 = 0) :
    runIn (run batArgs) (batSession second) = (.ok (), (batRun second).2) := by
  obtain ⟨directory, hout, hflat⟩ := Files.isFlat_of_list hempty
  have haddresses : (runIn (loadAddresses batArgs.addresses) (batSession second)).1 =
      .ok .empty := rfl
  have hrun : batRun second = (0, (batRun second).2) := by rw [← hsteps]
  exact (run_eq_ok_iff hout hflat.directory (loadProject_batSession hload) haddresses).2 hrun

/-- Scenes of different names are all exported. -/
theorem cave_and_hall_exported : ∃ after,
    runIn (run batArgs) (batSession "Hall") = (.ok (), after) ∧
      ∀ scene ∈ (batScenes "Hall").scenes,
        HoldsSource ⟨batScenes "Hall", .empty, .default⟩ batArgs after.files scene := by
  have hsound : (batSession "Hall").files.Sound := by decide +kernel
  have hempty : (batSession "Hall").files.list batArgs.out = .ok [] := by decide +kernel
  have hload : Project.load (batDocument "Hall").render = .ok (batScenes "Hall") := by
    decide +kernel
  have hsteps : (batRun "Hall").1 = 0 := by decide +kernel
  have haddresses : (runIn (loadAddresses batArgs.addresses) (batSession "Hall")).1 =
      .ok .empty := rfl
  have hrun := run_batSession hempty hload hsteps
  exact ⟨_, hrun, (exported_scenes hsound hempty rfl (loadProject_batSession hload) haddresses
    hrun).2.2 (by decide)⟩

/-- Of two scenes of one name the second is lost, and the export reports no failure. -/
theorem second_cave_lost : ∃ after,
    (batSession "cave").files.Sound ∧ (batSession "cave").files.list batArgs.out = .ok [] ∧
      (runIn (loadProject batArgs.project) (batSession "cave")).1 = .ok (batScenes "cave") ∧
      runIn (run batArgs) (batSession "cave") = (.ok (), after) ∧
      ⟨"cave", []⟩ ∈ (batScenes "cave").scenes ∧
      ¬HoldsSource ⟨batScenes "cave", .empty, .default⟩ batArgs after.files ⟨"cave", []⟩ := by
  have hempty : (batSession "cave").files.list batArgs.out = .ok [] := by decide +kernel
  have hload : Project.load (batDocument "cave").render = .ok (batScenes "cave") := by
    decide +kernel
  have hdone : (batRun "cave").1 = 0 ∧
      (batRun "cave").2.files.read (batArgs.outPath (sceneFile "cave")) ≠
        .ok (Bytes.ofText (sceneText .default "cave" [])) := by decide +kernel
  refine ⟨_, by decide +kernel, hempty, loadProject_batSession hload,
    run_batSession hempty hload hdone.1, by decide, ?_⟩
  rintro ⟨text, hsource, hread⟩
  obtain rfl : sceneText .default "cave" [] = text := Except.ok.inj hsource
  exact hdone.2 hread

end Export

end Command

end Cartridge
