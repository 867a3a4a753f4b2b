import Cartridge.Command.Link
import Cartridge.Proofs.Linking.Slots
import Cartridge.Proofs.Linking.Unit

/-!
The two ways to link. The command links code that was compiled elsewhere, with
a table that is loaded from its document; the linker compiles the code itself.
Both come to `linkCode`, and so to the same code or to the same error.
-/

namespace Cartridge

open Session (run_bind run_note run_pure run_read)

namespace Script

/-- The relocations of a dump, the first of which must be that of the base. -/
def dumpRelocations (table : OffsetTable) (dump : String) : Except LinkError (List Relocation) :=
  (Dump.relocations table dump).bind Command.Link.basedRelocations

/-- Code with the fields of its dump filled in, or the first thing that is
wrong with the table, the dump or the fields. -/
def linkCode (table : OffsetTable) (dump : String) (loadOffset : UInt16) (code : Bytes) :
    Except LinkError Bytes := do
  let size ← table.offsetSize
  let relocations ← dumpRelocations table dump
  patch size loadOffset relocations code

theorem linkCode_of_size_error {table : OffsetTable} {dump : String} {loadOffset : UInt16}
    {code : Bytes} {e : LinkError} (h : table.offsetSize = .error e) :
    linkCode table dump loadOffset code = .error e := by
  rw [linkCode, h]
  rfl

theorem linkCode_of_size {table : OffsetTable} {dump : String} {size loadOffset : UInt16}
    {code : Bytes} (h : table.offsetSize = .ok size) :
    linkCode table dump loadOffset code =
      (dumpRelocations table dump).bind fun relocations =>
        patch size loadOffset relocations code := by
  rw [linkCode, h]
  rfl

/-- The tools make the code of a source and its dump, and the code is left in
a file that can be replaced. -/
def Toolchain.Makes (tools : Toolchain (StateM Session)) (source out : String) (code : Bytes)
    (dump : String) (s : Session) : Prop :=
  let object := Path.withExtension out "o"
  let binary := Path.withExtension out "bin"
  ∃ extracted dumped, Linker.makeBinary tools source object binary s = (.ok (), extracted) ∧
    tools.dumpSymbols object { extracted with
      calls := extracted.calls ++ [.dumpSymbols object] } = (.ok dump, dumped) ∧
    dumped.files.read binary = .ok code ∧
    dumped.files.Writable (Host.stagingPath binary)

/-! ### Files -/

section

variable {path : String} {relocations : List Relocation} {tableSize loadOffset : UInt16}
  {s : Session} {code : Bytes}

theorem linkFile_of_patch_error {e : LinkError} (hread : s.files.read path = .ok code)
    (hpatch : patch tableSize loadOffset relocations code = .error e) :
    (linkFile path relocations tableSize loadOffset :
      StateM Session (Except LinkError Nat)) s = (.error e, s) := by
  simp only [linkFile, run_bind, run_read, hread, hpatch, run_pure]

theorem linkFile_of_patch {linked : Bytes} (hread : s.files.read path = .ok code)
    (hstaging : s.files.Writable (Host.stagingPath path))
    (hpatch : patch tableSize loadOffset relocations code = .ok linked) :
    ∃ files, (linkFile path relocations tableSize loadOffset :
        StateM Session (Except LinkError Nat)) s =
          (.ok linked.length, { s with files := files }) ∧
      files.read path = .ok linked := by
  obtain ⟨files, hreplace, hfile⟩ := Session.replace_of_writable linked hread hstaging
  refine ⟨files, ?_, hfile⟩
  simp only [linkFile, run_bind, run_read, hread, hpatch, hreplace, run_pure]

end

/-! ### The linker -/

section

variable {tools : Toolchain (StateM Session)} {table : OffsetTable} {dump object : String}
  {s dumped : Session}

theorem readRelocations_eq
    (hdump : tools.dumpSymbols object { s with calls := s.calls ++ [.dumpSymbols object] } =
      (.ok dump, dumped)) :
    (Linker.readRelocations tools table object s).1 =
      (dumpRelocations table dump).map (fun relocations => (dump, relocations)) ∧
    (Linker.readRelocations tools table object s).2.files = dumped.files := by
  simp only [Linker.readRelocations, dumpRelocations, run_bind, run_note, hdump]
  rcases Dump.relocations table dump with e | _ | ⟨first, others⟩
  · exact ⟨rfl, rfl⟩
  · exact ⟨rfl, rfl⟩
  · by_cases hbase : first.isBase = true
    · simp only [if_pos hbase, Except.bind, Command.Link.basedRelocations]
      exact ⟨rfl, rfl⟩
    · simp only [if_neg hbase, Except.bind, Command.Link.basedRelocations]
      exact ⟨rfl, rfl⟩

/-- Past the size of the table, the linker comes to what its dump and its code
come to. -/
theorem buildUnit_of_makes {source out : String} {code : Bytes} (size loadOffset : UInt16)
    (hmakes : tools.Makes source out code dump s) :
    let binary := Path.withExtension out "bin"
    let linking := (dumpRelocations table dump).bind fun relocations =>
      patch size loadOffset relocations code
    let run := Linker.buildUnit tools table size loadOffset source out s
    (∃ e, linking = .error e ∧ run.1.2 = .error e ∧ run.2.files.read binary = .ok code) ∨
    ∃ linked unit, linking = .ok linked ∧ run.1.2 = .ok unit ∧
      run.2.files.read binary = .ok linked := by
  intro binary linking run
  obtain ⟨extracted, dumped, hmake, hdump, hcode, hstaging⟩ := hmakes
  obtain ⟨hread, hfiles⟩ := @readRelocations_eq tools table _ _ _ _ hdump
  rcases hparse : Linker.readRelocations tools table (Path.withExtension out "o") extracted
    with ⟨parsing, parsed⟩
  rw [hparse] at hread hfiles
  -- The dump leaves the code and its surroundings as they are.
  rw [← show parsed.files = dumped.files from hfiles] at hcode hstaging
  cases hrelocations : dumpRelocations table dump with
  | error e =>
      rw [show parsing = _ from hread, hrelocations] at hparse
      refine .inl ⟨e, by simp only [linking, hrelocations, Except.bind], ?_⟩
      rw [show run = _ from buildUnit_of_unread hmake hparse]
      exact ⟨rfl, hcode⟩
  | ok relocations =>
      rw [show parsing = _ from hread, hrelocations] at hparse
      have hlinking : linking = patch size loadOffset relocations code := by
        simp only [linking, hrelocations, Except.bind]
      cases hpatch : patch size loadOffset relocations code with
      | error e =>
          refine .inl ⟨e, hlinking.trans hpatch, ?_⟩
          rw [show run = _ from
            buildUnit_of_read hmake hparse (linkFile_of_patch_error hcode hpatch)]
          exact ⟨rfl, hcode⟩
      | ok linked =>
          obtain ⟨files, hfile, hlinked⟩ := linkFile_of_patch hcode hstaging hpatch
          rw [show run = _ from buildUnit_of_read hmake hparse hfile]
          exact .inr ⟨linked, _, hlinking.trans hpatch, rfl, hlinked⟩

/-- The linker comes to what linking its code against its table comes to. -/
theorem linkUnit_of_makes {source out : String} {l : Linker} {code : Bytes}
    (htable : l.table = some table) (hmakes : tools.Makes source out code dump s) :
    let binary := Path.withExtension out "bin"
    let run := Linker.linkUnit tools l source out s
    (∃ e, linkCode table dump l.loadOffset code = .error e ∧ run.1.1 = .error e ∧
      (run.2.files.read binary = .ok code ∨
        table.offsetSize = .error e ∧ run.2.files = s.files)) ∨
    ∃ linked unit, linkCode table dump l.loadOffset code = .ok linked ∧
      run.1.1 = .ok unit ∧ run.2.files.read binary = .ok linked := by
  intro binary run
  obtain ⟨hlink, hfinal, -⟩ := Linker.linkUnit_eq tools l source out s
  rw [hlink, hfinal]
  cases hsize : table.offsetSize with
  | error e =>
      have hrun : Linker.attempt tools l source out s = ((l.stage, .error e), s) := by
        simp only [Linker.attempt, htable, hsize, run_pure]
      rw [hrun]
      exact .inl ⟨e, linkCode_of_size_error hsize, rfl, .inr ⟨rfl, rfl⟩⟩
  | ok size =>
      have hrun : Linker.attempt tools l source out s =
          Linker.buildUnit tools table size l.loadOffset source out s := by
        simp only [Linker.attempt, htable, hsize]
      rw [hrun, linkCode_of_size hsize]
      rcases buildUnit_of_makes size l.loadOffset hmakes with
        ⟨e, hlinking, hunit, hcode⟩ | hunit
      · exact .inl ⟨e, hlinking, hunit, .inl hcode⟩
      · exact .inr hunit

end

end Script

namespace Command

open Script (OffsetTable dumpRelocations linkCode linkCode_of_size linkCode_of_size_error)

/-- The error of linking behind a failure. -/
def Failure.linkError? : Failure → Option Script.LinkError
  | link cause => some cause
  | during _ cause => cause.linkError?
  | _ => none

/-- The last activity of the command either fails or replaces the code. -/
theorem runIn_linking {binary : String} {size loadOffset : UInt16} {code : Bytes} {s : Session}
    (hcode : s.files.read binary = .ok code)
    (hstaging : s.files.Writable (Host.stagingPath binary)) (relocations : List Relocation) :
    let linking := (Link.basedRelocations relocations).bind fun based =>
      Script.patch size loadOffset based code
    let run := runIn (during ("linking " ++ binary) do
      let based ← attempt .link (pure (Link.basedRelocations relocations))
      let _ ← attempt .link (Script.linkFile binary based size loadOffset)) s
    (∃ e, linking = .error e ∧ run = (.error (.during ("linking " ++ binary) (.link e)), s)) ∨
    ∃ linked files, linking = .ok linked ∧ run = (.ok (), { s with files := files }) ∧
      files.read binary = .ok linked := by
  intro linking run
  cases hbased : Link.basedRelocations relocations with
  | error e =>
      refine .inl ⟨e, by simp only [linking, hbased, Except.bind], ?_⟩
      exact runIn_during_error (runIn_bind_error (runIn_attempt_error (congrArg (·, s) hbased)))
  | ok based =>
      have hok : runIn (attempt .link (pure (Link.basedRelocations relocations))) s =
          (.ok based, s) := runIn_attempt_ok (congrArg (·, s) hbased)
      have hlinking : linking = Script.patch size loadOffset based code := by
        simp only [linking, hbased, Except.bind]
      cases hpatch : Script.patch size loadOffset based code with
      | error e =>
          refine .inl ⟨e, hlinking.trans hpatch, runIn_during_error ?_⟩
          rw [runIn_bind_ok hok]
          exact runIn_bind_error (runIn_attempt_error
            (Script.linkFile_of_patch_error hcode hpatch))
      | ok linked =>
          obtain ⟨files, hfile, hread⟩ := Script.linkFile_of_patch hcode hstaging hpatch
          refine .inr ⟨linked, files, hlinking.trans hpatch, runIn_during_ok ?_, hread⟩
          rw [runIn_bind_ok hok, runIn_bind_ok (runIn_attempt_ok hfile)]
          rfl

/-- The command comes to what linking its code against its table comes to. -/
theorem runIn_link {args : Link.Args} {table : OffsetTable} {dump tablePath : String}
    {code : Bytes} {s : Session} (hentries : args.entries = none)
    (htable : args.table = some tablePath)
    (hload : runIn (Link.loadTable args.table) s = (.ok table, s))
    (hdump : s.files.read args.dump = .ok (Bytes.ofText dump))
    (hcode : s.files.read args.binary = .ok code)
    (hstaging : s.files.Writable (Host.stagingPath args.binary)) :
    (∃ e f, linkCode table dump args.loadOffset code = .error e ∧
      runIn (Link.run args) s = (.error f, s) ∧ f.linkError? = some e) ∨
    ∃ linked files, linkCode table dump args.loadOffset code = .ok linked ∧
      runIn (Link.run args) s = (.ok (), { s with files := files }) ∧
      files.read args.binary = .ok linked := by
  rw [Link.run, runIn_bind_ok hload]
  have htext : runIn (during ("reading " ++ args.dump) (attempt .file (Host.readText args.dump)))
      s = (.ok dump, s) := runIn_during_ok (runIn_attempt_ok (Session.run_readText hdump))
  have htableSize : Link.tableSize args table = table.offsetSize.mapError .link := by
    rw [Link.tableSize, hentries, htable]
  rw [htableSize]
  -- From here on along the steps of `linkCode`, in its order.
  cases hsize : table.offsetSize with
  | error e =>
      exact .inl ⟨e, .link e, linkCode_of_size_error hsize,
        runIn_bind_error (runIn_attempt_error rfl), rfl⟩
  | ok size =>
      have hok : runIn (attempt id (pure ((Except.ok size).mapError Failure.link))) s =
          (.ok size, s) := runIn_attempt_ok rfl
      rw [linkCode_of_size hsize, runIn_bind_ok hok, runIn_bind_ok htext, dumpRelocations]
      cases Script.Dump.relocations table dump with
      | error e =>
          exact .inl ⟨e, _, rfl,
            runIn_bind_error (runIn_during_error (runIn_attempt_error rfl)), rfl⟩
      | ok relocations =>
          have hparse : runIn (during ("parsing " ++ args.dump) (attempt .link
              (pure (.ok relocations : Except Script.LinkError _)))) s = (.ok relocations, s) :=
            runIn_during_ok (runIn_attempt_ok rfl)
          rw [runIn_bind_ok hparse]
          rcases runIn_linking hcode hstaging relocations with
            ⟨e, hlinking, hrun⟩ | ⟨linked, files, hlinking, hrun, hread⟩
          · exact .inl ⟨e, _, hlinking, hrun, rfl⟩
          · exact .inr ⟨linked, files, hlinking, hrun, hread⟩

/-- The two ways to link agree. Linking a source with tools that make some code
and dump, and running the command on that code, that dump and a document of
the same table, either both succeed with the same linked code, or both fail
with the same error and the code is left as it was. -/
theorem link_agrees_with_linkUnit (routines : List Routine) (args : Link.Args)
    (s start : Session) (stage : Script.Stage) {tablePath tableText dump : String}
    {code : Bytes}
    (hentries : args.entries = none) (htable : args.table = some tablePath)
    (htext : s.files.read tablePath = .ok (Bytes.ofText tableText))
    (hdocument : (Json.Value.parse? tableText).bind (Json.Read.list Routine.read) =
      some (OffsetTable.ofRoutines routines).entries)
    (hdump : s.files.read args.dump = .ok (Bytes.ofText dump))
    (hcode : s.files.read args.binary = .ok code)
    (hstaging : s.files.Writable (Host.stagingPath args.binary))
    {tools : Script.Toolchain (StateM Session)} {source out : String}
    (hmakes : tools.Makes source out code dump start) :
    let table := OffsetTable.ofRoutines routines
    let binary := Path.withExtension out "bin"
    let command := runIn (Link.run args) s
    let unit := Script.Linker.linkUnit tools ⟨some table, args.loadOffset, stage⟩ source out start
    (∃ linked u, command.1 = .ok () ∧ unit.1.1 = .ok u ∧
      command.2.files.read args.binary = .ok linked ∧
      unit.2.files.read binary = .ok linked) ∨
    ∃ f e, command.1 = .error f ∧ f.linkError? = some e ∧ unit.1.1 = .error e ∧
      command.2 = s ∧
      (unit.2.files.read binary = .ok code ∨
        table.offsetSize = .error e ∧ unit.2.files = start.files) := by
  intro table binary command unit
  have hload : runIn (Link.loadTable args.table) s = (.ok table, s) := by
    rw [htable, runIn_loadTable htext hdocument,
      (OffsetTable.dense_ofRoutines routines).ofRoutines_entries]
  -- Both are told by one and the same outcome of `linkCode`.
  rcases Script.linkUnit_of_makes (l := ⟨some table, args.loadOffset, stage⟩) rfl hmakes with
    ⟨e, hlink, hunit, hfiles⟩ | ⟨linked, u, hlink, hunit, hlinked⟩
  · rcases runIn_link hentries htable hload hdump hcode hstaging with
      ⟨e', f, hlink', hcommand, hf⟩ | ⟨linked, files, hlink', -, -⟩
    · rw [hlink] at hlink'
      cases hlink'
      exact .inr ⟨f, e, congrArg Prod.fst hcommand, hf, hunit, congrArg Prod.snd hcommand, hfiles⟩
    · rw [hlink] at hlink'
      cases hlink'
  · rcases runIn_link hentries htable hload hdump hcode hstaging with
      ⟨e, f, hlink', -, -⟩ | ⟨linked', files, hlink', hcommand, hread⟩
    · rw [hlink] at hlink'
      cases hlink'
    · rw [hlink] at hlink'
      cases hlink'
      refine .inl ⟨linked, u, congrArg Prod.fst hcommand, hunit, ?_, hlinked⟩
      rw [show command = _ from hcommand]
      exact hread

/-- The document of a table, a dump and code beside each other. -/
def tickSession : Session :=
  .start ⟨[(["table.json"],
      .file (Bytes.ofText (Export.tableDocument (.ofRoutines Script.tickRoutines)).pretty)),
    (["tick.txt"], .file (Bytes.ofText Script.tickDump)),
    (["tick.bin"], .file [1, 2, 3, 4, 5, 6, 7])], [], []⟩

def tickArgs : Link.Args :=
  ⟨"tick.bin", "tick.txt", none, 0x200, some "table.json"⟩

def tickLinker : Script.Linker :=
  ⟨some (.ofRoutines Script.tickRoutines), tickArgs.loadOffset, .buildingTable⟩

theorem tick_drivers_agree :
    ∃ linked u, (runIn (Link.run tickArgs) tickSession).1 = .ok () ∧
      (Script.Linker.linkUnit Script.tickTools tickLinker "tick.cpp" "tick"
        (.start .empty)).1.1 = .ok u ∧
      (runIn (Link.run tickArgs) tickSession).2.files.read "tick.bin" = .ok linked ∧
      (Script.Linker.linkUnit Script.tickTools tickLinker "tick.cpp" "tick"
        (.start .empty)).2.files.read (Path.withExtension "tick" "bin") = .ok linked ∧
      linked = [0xFD, 0xF8, 3, 4, 0, 4, 7] := by
  have hmakes : Script.tickTools.Makes "tick.cpp" "tick" [1, 2, 3, 4, 5, 6, 7] Script.tickDump
      (.start .empty) := by
    refine ⟨_, _, Prod.ext ?_ rfl, rfl, ?_, ["tick.tmp"], ?_, ?_⟩
    all_goals decide +kernel
  have hstaging : tickSession.files.Writable (Host.stagingPath tickArgs.binary) :=
    ⟨["tick.tmp"], rfl, nofun⟩
  have hunit : (Script.Linker.linkUnit Script.tickTools tickLinker "tick.cpp" "tick"
      (.start .empty)).1.1 = .ok ⟨"tick.bin", 7, Script.tickRelocations, Script.tickDump⟩ := by
    decide +kernel
  have hbytes : (Script.Linker.linkUnit Script.tickTools tickLinker "tick.cpp" "tick"
      (.start .empty)).2.files.read (Path.withExtension "tick" "bin") =
        .ok [0xFD, 0xF8, 3, 4, 0, 4, 7] := by
    decide +kernel
  rcases link_agrees_with_linkUnit Script.tickRoutines tickArgs tickSession (.start .empty)
    .buildingTable rfl rfl rfl (parse?_tableDocument _) rfl rfl hstaging hmakes with
    ⟨linked, u, hcommand, hu, hread, hlinked⟩ | ⟨f, e, -, -, herror, -⟩
  · exact ⟨linked, u, hcommand, hu, hread, hlinked, Except.ok.inj (hlinked.symm.trans hbytes)⟩
  · cases hunit.symm.trans herror

end Command

end Cartridge
