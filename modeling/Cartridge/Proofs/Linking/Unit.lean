import Cartridge.Proofs.Files.Session
import Cartridge.Proofs.Linking.Reach
import Cartridge.Script.Linker

/-!
Linking a unit as a whole. The tools may do as they like with the object file
and the code; past them the linker either leaves every file as it found it, or
replaces the code by the code with all of its fields filled in.
-/

namespace Cartridge.Script

/-- The tools write no files but the object file and the code. They may fail,
write anything there, and dump any text. -/
structure Toolchain.Confined (tools : Toolchain (StateM Session)) : Prop where
  compile : ∀ source object s,
    Files.Frame (s.files.places [object]) s.files (tools.compile source object s).2.files
  extractBinary : ∀ object binary s,
    Files.Frame (s.files.places [object, binary]) s.files
      (tools.extractBinary object binary s).2.files
  dumpSymbols : ∀ object s, (tools.dumpSymbols object s).2.files = s.files

/-- The relocations of the unit are those of its dump, none or the first that
of the base, and the code has the fields of all of them filled in. -/
structure LinkedUnit.Complete (unit : LinkedUnit) (table : OffsetTable)
    (tableSize loadOffset : UInt16) (code linked : Bytes) : Prop where
  relocations : List.Forall₂ (fun line r => Dump.relocation? table line = some r)
    ((Text.linesList unit.symbols.toList).filter Dump.isMarked) unit.relocations
  base : unit.relocations = [] ∨
    ∃ first others, unit.relocations = first :: others ∧ first.isBase = true
  patched : patch tableSize loadOffset unit.relocations code = .ok linked
  size : unit.size = linked.length
  /-- A field that no later one overlaps holds its value. -/
  fields : ∀ before r after, unit.relocations = before ++ r :: after →
    r.address.toNat + 2 ≤ code.length ∧
      ∃ value, fieldValue tableSize loadOffset r = .ok value ∧
        ((∀ later ∈ after, r.Apart later) →
          linked.numberAt? r.address.toNat 2 = some value.toNat)

open Session (run_bind run_note run_pure run_read run_report)

/-! ### Patching a file -/

/-- Patching a file leaves all files as they are or fills in all fields. -/
theorem linkFile_outcome (path : String) (relocations : List Relocation)
    (tableSize loadOffset : UInt16) (s : Session) :
    (∃ e, (linkFile path relocations tableSize loadOffset :
      StateM Session (Except LinkError Nat)) s = (.error e, s)) ∨
    ∃ code linked files, s.files.read path = .ok code ∧
      patch tableSize loadOffset relocations code = .ok linked ∧
      (linkFile path relocations tableSize loadOffset :
        StateM Session (Except LinkError Nat)) s =
          (.ok linked.length, { s with files := files }) ∧
      files.read path = .ok linked ∧
      Files.Frame (s.files.places [path, Host.stagingPath path]) s.files files := by
  cases hread : s.files.read path with
  | error e =>
      refine .inl ⟨.file e, ?_⟩
      simp only [linkFile, run_bind, run_read, hread, run_pure]
  | ok code =>
      cases hpatch : patch tableSize loadOffset relocations code with
      | error e =>
          refine .inl ⟨e, ?_⟩
          simp only [linkFile, run_bind, run_read, hread, hpatch, run_pure]
      | ok linked =>
          rcases Session.replace_outcome linked hread with ⟨e, hreplace⟩ | ⟨files, hreplace, hfiles⟩
          · refine .inl ⟨.unwritable path e, ?_⟩
            simp only [linkFile, run_bind, run_read, hread, hpatch, hreplace, run_pure]
          · refine .inr ⟨code, linked, files, rfl, hpatch, ?_, hfiles⟩
            simp only [linkFile, run_bind, run_read, hread, hpatch, hreplace, run_pure]

/-! ### Relocations -/

theorem field_of_patch {tableSize loadOffset : UInt16} {relocations : List Relocation}
    {r : Relocation} {code linked : Bytes}
    (h : patch tableSize loadOffset relocations code = .ok linked) (hr : r ∈ relocations) :
    r.address.toNat + 2 ≤ code.length ∧
      ∃ value, fieldValue tableSize loadOffset r = .ok value := by
  obtain ⟨fs, hfs, -⟩ := patch_eq_ok h
  obtain ⟨f, -, hfix⟩ := forall₂_exists_of_mem_right hfs.flip hr
  obtain ⟨hroom, -, hvalue⟩ := fix_eq_ok hfix
  exact ⟨hroom, f.value, hvalue⟩

/-- Relocations of a dump that were patched make a complete unit. -/
theorem complete_of_patch {table : OffsetTable} {tableSize loadOffset : UInt16}
    {binary symbols : String} {relocations : List Relocation} {code linked : Bytes}
    (hdump : Dump.relocations table symbols = .ok relocations)
    (hbase : relocations = [] ∨
      ∃ first others, relocations = first :: others ∧ first.isBase = true)
    (hpatch : patch tableSize loadOffset relocations code = .ok linked) :
    LinkedUnit.Complete ⟨binary, linked.length, relocations, symbols⟩ table tableSize
      loadOffset code linked where
  relocations := Dump.relocations_eq_ok hdump
  base := hbase
  patched := hpatch
  size := rfl
  fields := by
    rintro before r after rfl
    obtain ⟨hroom, value, hvalue⟩ := field_of_patch hpatch (r := r) (by simp)
    refine ⟨hroom, value, hvalue, fun hapart => ?_⟩
    obtain ⟨v, hv, hnumber⟩ := patch_field hpatch hapart
    rw [hvalue] at hv
    cases hv
    exact hnumber

section

variable {tools : Toolchain (StateM Session)} {source out object binary : String}
  {s : Session}

/-- Reading relocations changes no file, and those that are read are all the
relocations of the dump. -/
theorem readRelocations_outcome (htools : tools.Confined) (table : OffsetTable) :
    (Linker.readRelocations tools table object s).2.files = s.files ∧
    ∀ symbols relocations,
      (Linker.readRelocations tools table object s).1 = .ok (symbols, relocations) →
      (tools.dumpSymbols object
        { s with calls := s.calls ++ [.dumpSymbols object] }).1 = .ok symbols ∧
      Dump.relocations table symbols = .ok relocations ∧
      (relocations = [] ∨
        ∃ first others, relocations = first :: others ∧ first.isBase = true) := by
  have hfiles := htools.dumpSymbols object
    { s with calls := s.calls ++ [.dumpSymbols object] }
  rcases hdump : tools.dumpSymbols object
    { s with calls := s.calls ++ [.dumpSymbols object] } with ⟨e | symbols, noted⟩
  · rw [hdump] at hfiles
    simp only [Linker.readRelocations, run_bind, run_note, hdump, run_pure]
    exact ⟨hfiles, fun _ _ h => by cases h⟩
  · rw [hdump] at hfiles
    simp only [Linker.readRelocations, run_bind, run_note, hdump]
    rcases hrelocations : Dump.relocations table symbols with e | _ | ⟨first, others⟩
    · exact ⟨hfiles, fun _ _ h => by cases h⟩
    · refine ⟨hfiles, ?_⟩
      rintro _ _ ⟨⟩
      exact ⟨rfl, hrelocations, .inl rfl⟩
    · by_cases hbase : first.isBase = true
      · simp only [if_pos hbase, run_pure]
        refine ⟨hfiles, ?_⟩
        rintro _ _ ⟨⟩
        exact ⟨rfl, hrelocations, .inr ⟨first, others, rfl, hbase⟩⟩
      · simp only [if_neg hbase, run_bind, run_report, run_pure]
        exact ⟨hfiles, fun _ _ h => by cases h⟩

/-! ### Units -/

/-- Up to the code, no file but the object file and the code changes. -/
theorem frame_makeBinary (htools : tools.Confined) :
    Files.Frame (s.files.places [object, binary]) s.files
      (Linker.makeBinary tools source object binary s).2.files := by
  have hcompile := htools.compile source object
    { s with calls := s.calls ++ [.compile source object] }
  have hobject : s.files.places [object] ⊆ s.files.places [object, binary] :=
    Files.places_subset (by simp)
  rcases hrun : tools.compile source object
    { s with calls := s.calls ++ [.compile source object] } with ⟨e | _, compiled⟩
  · rw [hrun] at hcompile
    simp only [Linker.makeBinary, run_bind, run_note, hrun, run_pure]
    exact hcompile.mono hobject
  · rw [hrun] at hcompile
    have hextract := htools.extractBinary object binary
      { compiled with calls := compiled.calls ++ [.extractBinary object binary] }
    rw [hcompile.places_eq] at hextract
    simp only [Linker.makeBinary, run_bind, run_note, hrun]
    exact (hcompile.mono hobject).trans hextract

section

variable {table : OffsetTable} {tableSize loadOffset : UInt16} {extracted parsed : Session}
  (hmake : Linker.makeBinary tools source (Path.withExtension out "o")
    (Path.withExtension out "bin") s = (.ok (), extracted))

include hmake

theorem buildUnit_of_unread {e : LinkError}
    (hread : Linker.readRelocations tools table (Path.withExtension out "o") extracted =
      (.error e, parsed)) :
    Linker.buildUnit tools table tableSize loadOffset source out s =
      ((.parsingRelocations, .error e), parsed) := by
  simp only [Linker.buildUnit, run_bind, hmake, hread, run_pure]

/-- With its code and its relocations at hand, a unit comes to what patching the code does. -/
theorem buildUnit_of_read {symbols : String} {relocations : List Relocation}
    (hread : Linker.readRelocations tools table (Path.withExtension out "o") extracted =
      (.ok (symbols, relocations), parsed)) {result : Except LinkError Nat} {after : Session}
    (hlink : (linkFile (Path.withExtension out "bin") relocations tableSize loadOffset :
      StateM Session _) parsed = (result, after)) :
    Linker.buildUnit tools table tableSize loadOffset source out s =
      ((.patching, result.map fun size =>
        ⟨Path.withExtension out "bin", size, relocations, symbols⟩), after) := by
  simp only [Linker.buildUnit, run_bind, hmake, hread, hlink]
  cases result <;> rfl

/-- Past the code, a unit is built by completing the code or by changing no
file at all. -/
theorem buildUnit_outcome (htools : tools.Confined) (table : OffsetTable)
    (tableSize loadOffset : UInt16) :
    let binary := Path.withExtension out "bin"
    let run := Linker.buildUnit tools table tableSize loadOffset source out s
    (∃ e, run.1.2 = .error e ∧ run.2.files = extracted.files) ∨
    ∃ unit code linked, run.1.2 = .ok unit ∧ unit.binary = binary ∧
      extracted.files.read binary = .ok code ∧
      (tools.dumpSymbols (Path.withExtension out "o") { extracted with
        calls := extracted.calls ++ [.dumpSymbols (Path.withExtension out "o")] }).1 =
          .ok unit.symbols ∧
      unit.Complete table tableSize loadOffset code linked ∧
      run.2.files.read binary = .ok linked ∧
      Files.Frame (extracted.files.places [binary, Host.stagingPath binary])
        extracted.files run.2.files := by
  intro binary run
  obtain ⟨hfiles, hread⟩ := @readRelocations_outcome tools (Path.withExtension out "o")
    extracted htools table
  rcases hrelocations : Linker.readRelocations tools table (Path.withExtension out "o")
    extracted with ⟨e | ⟨symbols, relocations⟩, parsed⟩
  · rw [hrelocations] at hfiles
    rw [show run = _ from buildUnit_of_unread hmake hrelocations]
    exact .inl ⟨e, rfl, hfiles⟩
  · rw [hrelocations] at hfiles hread
    obtain ⟨hsymbols, hdump, hbase⟩ := hread symbols relocations rfl
    have hfiles : parsed.files = extracted.files := hfiles
    rcases linkFile_outcome binary relocations tableSize loadOffset parsed with
      ⟨e, hlink⟩ | ⟨code, linked, files, hcode, hpatch, hlink, hlinked, hframe⟩
    · rw [show run = _ from buildUnit_of_read hmake hrelocations hlink]
      exact .inl ⟨e, rfl, hfiles⟩
    · -- Reading the dump changed no file, so the code is still the extracted one.
      rw [hfiles] at hcode hframe
      rw [show run = _ from buildUnit_of_read hmake hrelocations hlink]
      exact .inr ⟨_, code, linked, rfl, rfl, hcode, hsymbols,
        complete_of_patch hdump hbase hpatch, hlinked, hframe⟩

end

/-- A unit is not begun if the table is too large, and given up if the tools
cannot make its code. -/
theorem attempt_outcome {l : Linker} {table : OffsetTable} (htable : l.table = some table) :
    let run := Linker.attempt tools l source out s
    let made := Linker.makeBinary tools source (Path.withExtension out "o")
      (Path.withExtension out "bin") s
    (∃ e, table.offsetSize = .error e ∧ run = ((l.stage, .error e), s)) ∨
    (∃ e, made.1 = .error e ∧ run = ((.compiling, .error e), made.2)) ∨
    ∃ tableSize, table.offsetSize = .ok tableSize ∧ made.1 = .ok () ∧
      run = Linker.buildUnit tools table tableSize l.loadOffset source out s := by
  intro run made
  cases hsize : table.offsetSize with
  | error e =>
      refine .inl ⟨e, rfl, ?_⟩
      simp only [run, Linker.attempt, htable, hsize, run_pure]
  | ok tableSize =>
      have hrun : run = Linker.buildUnit tools table tableSize l.loadOffset source out s := by
        simp only [run, Linker.attempt, htable, hsize]
      rcases hmake : made with ⟨e | _, after⟩
      · refine .inr (.inl ⟨e, rfl, ?_⟩)
        rw [hrun]
        simp only [Linker.buildUnit, run_bind, show Linker.makeBinary tools source _ _ s = _
          from hmake, run_pure]
      · exact .inr (.inr ⟨tableSize, rfl, rfl, hrun⟩)

end

/-- The stage of a linker after a unit. -/
def Linker.closingStage : Except LinkError LinkedUnit → Stage
  | .ok _ => .done
  | .error _ => .failed

/-- A link is its attempt, after which only the stage of the linker has changed. -/
theorem Linker.linkUnit_eq (tools : Toolchain (StateM Session)) (l : Linker)
    (source out : String) (s : Session) :
    let attempted := attempt tools l source out s
    (linkUnit tools l source out s).1 =
        (attempted.1.2, { l with stage := closingStage attempted.1.2 }) ∧
      (linkUnit tools l source out s).2.files = attempted.2.files ∧
      (linkUnit tools l source out s).2.calls = attempted.2.calls := by
  intro attempted
  rcases hrun : attempted with ⟨⟨stage, e | unit⟩, after⟩
  · simp only [linkUnit, run_bind, attempted, hrun, run_report, run_pure, closingStage, and_self]
  · simp only [linkUnit, run_bind, attempted, hrun, run_pure, closingStage, and_self]

/-- A unit is either linked completely or left as it was extracted. Whatever
the tools do, a failure after the extraction leaves every file as the
extraction left it, and after a success the code has all of its fields filled
in; in either case nothing but the object file, the code and the staging file
of the code is touched. -/
theorem linkUnit_completes_or_keeps {tools : Toolchain (StateM Session)}
    (htools : tools.Confined) {l : Linker} {table : OffsetTable}
    (htable : l.table = some table) (source out : String) (s : Session) :
    let object := Path.withExtension out "o"
    let binary := Path.withExtension out "bin"
    let result := (Linker.linkUnit tools l source out s).1.1
    let final := (Linker.linkUnit tools l source out s).2
    (∀ e tableSize extracted, result = .error e → table.offsetSize = .ok tableSize →
      Linker.makeBinary tools source object binary s = (.ok (), extracted) →
      final.files = extracted.files) ∧
    (∀ unit, result = .ok unit → ∃ tableSize extracted code linked,
      table.offsetSize = .ok tableSize ∧
      Linker.makeBinary tools source object binary s = (.ok (), extracted) ∧
      unit.binary = binary ∧ extracted.files.read binary = .ok code ∧
      (tools.dumpSymbols object { extracted with
        calls := extracted.calls ++ [.dumpSymbols object] }).1 = .ok unit.symbols ∧
      unit.Complete table tableSize l.loadOffset code linked ∧
      final.files.read binary = .ok linked) ∧
    Files.Frame (s.files.places [object, binary, Host.stagingPath binary])
      s.files final.files := by
  intro object binary result final
  obtain ⟨hlink, hfinal, -⟩ := Linker.linkUnit_eq tools l source out s
  have hfinal : final.files = (Linker.attempt tools l source out s).2.files := hfinal
  have hresult : result = (Linker.attempt tools l source out s).1.2 := congrArg Prod.fst hlink
  have hmade : Files.Frame (s.files.places [object, binary, Host.stagingPath binary]) s.files
      (Linker.makeBinary tools source object binary s).2.files :=
    (frame_makeBinary htools).mono (Files.places_subset (by simp))
  rw [hresult, hfinal]
  rcases attempt_outcome htable with
    ⟨e, hsize, hrun⟩ | ⟨e, hmake, hrun⟩ | ⟨tableSize, hsize, hmake, hrun⟩
  · rw [hrun]
    refine ⟨?_, fun unit hunit => (by cases hunit), .refl _ _⟩
    intro _ tableSize _ _ hsize'
    rw [hsize] at hsize'
    cases hsize'
  · rw [hrun]
    refine ⟨?_, fun unit hunit => (by cases hunit), hmade⟩
    intro _ _ extracted _ _ hmake'
    rw [show Linker.makeBinary tools source _ _ s = _ from hmake'] at hmake
    cases hmake
  · obtain ⟨extracted, hmake⟩ : ∃ extracted,
        Linker.makeBinary tools source object binary s = (.ok (), extracted) :=
      ⟨_, Prod.ext hmake rfl⟩
    rw [hmake] at hmade
    rw [hrun, hmake]
    rcases buildUnit_outcome hmake htools table tableSize l.loadOffset with
      ⟨e, he, hfiles⟩ | ⟨unit, code, linked, hunit, hbinary, hcode, hsymbols, hcomplete,
        hlinked, hframe⟩
    · refine ⟨?_, ?_, ?_⟩
      · rintro _ _ _ - - ⟨⟩
        exact hfiles
      · intro unit hunit
        rw [he] at hunit
        cases hunit
      · rwa [hfiles]
    · refine ⟨?_, ?_, ?_⟩
      · intro e _ _ he
        rw [hunit] at he
        cases he
      · intro other hother
        rw [hunit] at hother
        cases hother
        exact ⟨tableSize, extracted, code, linked, hsize, rfl, hbinary, hcode, hsymbols,
          hcomplete, hlinked⟩
      · -- The tools keep the directories, so the paths still lead to the same places.
        rw [hmade.places_eq] at hframe
        exact hmade.trans (hframe.mono
          (Files.places_subset (List.subset_cons_self object _)))

/-! A unit that is built by tools with fixed results. -/

/-- A tool that writes a fixed file. -/
def writeFixed (content : Bytes) (path : String) : StateM Session (Except LinkError Unit) := do
  match ← Host.write path content with
  | .error e => return .error (.file e)
  | .ok () => return .ok ()

theorem frame_writeFixed (content : Bytes) (path : String) (s : Session) :
    Files.Frame (s.files.places [path]) s.files (writeFixed content path s).2.files := by
  cases hwrite : s.files.write path content with
  | error e =>
      simp only [writeFixed, run_bind, Session.run_write, hwrite, run_pure]
      exact .refl _ _
  | ok files =>
      simp only [writeFixed, run_bind, Session.run_write, hwrite, run_pure]
      exact Files.frame_write hwrite

def fixedTools (object code : Bytes) (symbols : String) : Toolchain (StateM Session) where
  compile _ path := writeFixed object path
  extractBinary _ path := writeFixed code path
  dumpSymbols _ := pure (.ok symbols)

theorem confined_fixedTools (object code : Bytes) (symbols : String) :
    (fixedTools object code symbols).Confined where
  compile _ path s := frame_writeFixed object path s
  extractBinary _ path s := (frame_writeFixed code path s).mono (Files.places_subset (by simp))
  dumpSymbols _ _ := rfl

def tickTools : Toolchain (StateM Session) :=
  fixedTools [] [1, 2, 3, 4, 5, 6, 7] tickDump

theorem tick_unit_completes :
    let l : Linker := ⟨some (.ofRoutines tickRoutines), 0x200, .buildingTable⟩
    let s := Session.start .empty
    let run := Linker.linkUnit tickTools l "tick.cpp" "tick" s
    ∃ unit code linked, run.1.1 = .ok unit ∧ unit.relocations = tickRelocations ∧
      unit.Complete (.ofRoutines tickRoutines) 8 0x200 code linked ∧
      linked = [0xFD, 0xF8, 3, 4, 0, 4, 7] ∧
      run.2.files.read "tick.bin" = .ok linked ∧
      Files.Frame (s.files.places ["tick.o", "tick.bin", "tick.tmp"]) s.files run.2.files := by
  intro l s run
  have hobject : Path.withExtension "tick" "o" = "tick.o" := by decide +kernel
  have hbinary : Path.withExtension "tick" "bin" = "tick.bin" := by decide +kernel
  have hstaging : Host.stagingPath "tick.bin" = "tick.tmp" := by decide +kernel
  obtain ⟨-, hok, hframe⟩ := linkUnit_completes_or_keeps
    (confined_fixedTools [] [1, 2, 3, 4, 5, 6, 7] tickDump) (rfl : l.table = _)
    "tick.cpp" "tick" s
  have hunit : run.1.1 = .ok ⟨"tick.bin", 7, tickRelocations, tickDump⟩ := by
    decide +kernel
  obtain ⟨tableSize, extracted, code, linked, hsize, -, -, -, -, hcomplete, hlinked⟩ :=
    hok _ hunit
  rw [show (OffsetTable.ofRoutines tickRoutines).offsetSize = .ok 8 from rfl] at hsize
  cases hsize
  rw [hbinary] at hlinked hframe
  rw [hobject, hstaging] at hframe
  have hread : run.2.files.read "tick.bin" = .ok [0xFD, 0xF8, 3, 4, 0, 4, 7] := by
    decide +kernel
  exact ⟨_, code, linked, hunit, rfl, hcomplete, Except.ok.inj (hlinked.symm.trans hread),
    hlinked, hframe⟩

end Cartridge.Script
