import Cartridge.Proofs.Linking.Unit
import Mathlib.Data.List.Induction

/-!
Linkers that have been used before. A call leaves nothing behind in a linker but the
table that was built last and the stage, and the stage decides nothing. So with tools
that go by the files, the next unit comes out as if the linker were new and only that
table had been built: `linkUnit_forgets_past`.
-/

namespace Cartridge.Script

open Session (ByFiles SameRun)

/-- The tools see nothing but their arguments and the files. -/
structure Toolchain.ByFiles (tools : Toolchain (StateM Session)) : Prop where
  compile : ∀ source object, Session.ByFiles (tools.compile source object)
  extractBinary : ∀ object binary, Session.ByFiles (tools.extractBinary object binary)
  dumpSymbols : ∀ object, Session.ByFiles (tools.dumpSymbols object)

/-! ### Tools -/

/-- Programs that go by the files are tools that do. -/
theorem ToolSettings.byFiles_toolchain (t : ToolSettings) {run : Runner (StateM Session)}
    (hrun : ∀ path args, ByFiles (run path args)) : (t.toolchain run).ByFiles := by
  have htool : ∀ tool args, ByFiles (runTool run t tool args) := by
    intro tool args
    refine (hrun _ _).bind fun finished => ?_
    cases finished with
    | error e => exact .pure _
    | ok finished =>
        dsimp only
        split <;> exact .pure _
  exact ⟨fun _ _ => (htool _ _).bind fun _ => .pure _,
    fun _ _ => (htool _ _).bind fun _ => .pure _, fun _ => htool _ _⟩

/-! ### Units -/

theorem byFiles_linkFile (path : String) (relocations : List Relocation)
    (tableSize loadOffset : UInt16) :
    ByFiles (linkFile path relocations tableSize loadOffset) := by
  refine (Session.byFiles_ask _).bind fun code => ?_
  cases code with
  | error e => exact .pure _
  | ok code =>
      dsimp only
      cases patch tableSize loadOffset relocations code with
      | error e => exact .pure _
      | ok patched =>
          refine (Session.byFiles_replace path patched).bind fun replaced => ?_
          cases replaced with
          | error e => exact .pure _
          | ok _ => exact .pure _

namespace Linker

section

variable {tools : Toolchain (StateM Session)} (htools : tools.ByFiles)

include htools in
theorem byFiles_makeBinary (source object binary : String) :
    ByFiles (makeBinary tools source object binary) := by
  refine (Session.byFiles_note _).bind fun _ => (htools.compile _ _).bind fun compiled => ?_
  cases compiled with
  | error e => exact .pure _
  | ok _ => exact (Session.byFiles_note _).bind fun _ => htools.extractBinary _ _

include htools in
theorem byFiles_readRelocations (table : OffsetTable) (object : String) :
    ByFiles (readRelocations tools table object) := by
  refine (Session.byFiles_note _).bind fun _ => (htools.dumpSymbols _).bind fun symbols => ?_
  cases symbols with
  | error e => exact .pure _
  | ok symbols =>
      dsimp only
      rcases Dump.relocations table symbols with e | _ | ⟨first, others⟩
      · exact .pure _
      · exact .pure _
      · dsimp only
        split
        · exact .pure _
        · exact (Session.byFiles_report _).bind fun _ => .pure _

include htools in
theorem byFiles_buildUnit (table : OffsetTable) (tableSize loadOffset : UInt16)
    (source out : String) : ByFiles (buildUnit tools table tableSize loadOffset source out) := by
  refine (byFiles_makeBinary htools _ _ _).bind fun made => ?_
  cases made with
  | error e => exact .pure _
  | ok _ =>
      refine (byFiles_readRelocations htools _ _).bind fun parsed => ?_
      rcases parsed with e | ⟨symbols, relocations⟩
      · exact .pure _
      · refine (byFiles_linkFile _ _ _ _).bind fun linked => ?_
        cases linked with
        | error e => exact .pure _
        | ok size => exact .pure _

include htools in
/-- Linkers with one table and one load offset link a unit alike, whatever their stages. -/
theorem linkUnit_sameRun {l k : Linker} (htable : l.table = k.table)
    (hoffset : l.loadOffset = k.loadOffset) (source out : String) {s t : Session}
    (hfiles : s.files = t.files) :
    SameRun s t (linkUnit tools l source out s) (linkUnit tools k source out t) := by
  -- What is compared leaves out the stage that the attempt has reached.
  have hattempt : SameRun s t
      ((attempt tools l source out s).1.2, (attempt tools l source out s).2)
      ((attempt tools k source out t).1.2, (attempt tools k source out t).2) := by
    simp only [attempt, htable, hoffset]
    cases k.table with
    | none => exact .of_same_calls rfl hfiles rfl rfl
    | some table =>
        dsimp only
        cases table.offsetSize with
        | error e => exact .of_same_calls rfl hfiles rfl rfl
        | ok tableSize =>
            obtain ⟨hresult, hfiles, hcalls⟩ :=
              byFiles_buildUnit htools table tableSize k.loadOffset source out s t hfiles
            exact ⟨congrArg Prod.snd hresult, hfiles, hcalls⟩
  obtain ⟨hresult, hfiles, made, hs, ht⟩ := hattempt
  obtain ⟨hl, hlfiles, hlcalls⟩ := linkUnit_eq tools l source out s
  obtain ⟨hk, hkfiles, hkcalls⟩ := linkUnit_eq tools k source out t
  refine ⟨?_, hlfiles.trans (hfiles.trans hkfiles.symm), made, hlcalls.trans hs, hkcalls.trans ht⟩
  rw [hl, hk, htable, hoffset]
  exact congrArg (fun result => (result, { k with stage := closingStage result })) hresult

end

end Linker

/-! ### Histories -/

/-- A call of a linker. Between the calls anything can happen to the files, so a unit is
linked in a session of its own. -/
inductive LinkerCall where
  | buildTable (entities : List Entity) (components : List Component)
  | linkUnit (source out : String) (s : Session)

def LinkerCall.buildsTable : LinkerCall → Bool
  | .buildTable _ _ => true
  | .linkUnit _ _ _ => false

/-- The call that has built the table of a linker with this history. -/
def lastTable? (history : List LinkerCall) : Option LinkerCall :=
  (history.filter LinkerCall.buildsTable).getLast?

namespace Linker

variable (tools : Toolchain (StateM Session))

/-- The linker after a call. -/
def after (l : Linker) : LinkerCall → Linker
  | .buildTable entities components => l.buildTable entities components
  | .linkUnit source out s => (linkUnit tools l source out s).1.2

/-- The linker that calls have made of a new one. -/
def afterAll (loadOffset : UInt16) (history : List LinkerCall) : Linker :=
  history.foldl (after tools) (new loadOffset)

/-- A unit leaves the linker as it is but for its stage. -/
theorem after_linkUnit (l : Linker) (source out : String) (s : Session) :
    l.after tools (.linkUnit source out s) =
      { l with stage := closingStage (linkUnit tools l source out s).1.1 } := by
  rw [after, (linkUnit_eq tools l source out s).1]

/-- What calls leave behind in a linker beside its stage. -/
theorem afterAll_keeps (loadOffset : UInt16) (history : List LinkerCall) :
    (afterAll tools loadOffset history).loadOffset = loadOffset ∧
      (afterAll tools loadOffset history).table =
        (afterAll tools loadOffset (lastTable? history).toList).table := by
  induction history using List.reverseRecOn with
  | nil => exact ⟨rfl, rfl⟩
  | append_singleton history call ih =>
      obtain ⟨hoffset, htable⟩ := ih
      rw [afterAll, List.foldl_concat, ← afterAll]
      cases call with
      | buildTable entities components =>
          have hlast : lastTable? (history ++ [.buildTable entities components]) =
              some (.buildTable entities components) := by
            simp [lastTable?, LinkerCall.buildsTable]
          rw [hlast]
          exact ⟨hoffset, rfl⟩
      | linkUnit source out s =>
          have hlast : lastTable? (history ++ [.linkUnit source out s]) = lastTable? history := by
            simp [lastTable?, LinkerCall.buildsTable]
          rw [hlast, after_linkUnit]
          exact ⟨hoffset, htable⟩

/-- Whatever a linker has been through, the next unit comes out as it would from a new
linker with only the table that was built last. -/
theorem linkUnit_forgets_past {tools : Toolchain (StateM Session)} (htools : tools.ByFiles)
    (loadOffset : UInt16) (history : List LinkerCall) (source out : String) {s t : Session}
    (hfiles : s.files = t.files) :
    let l := afterAll tools loadOffset history
    let fresh := afterAll tools loadOffset (lastTable? history).toList
    let run := linkUnit tools l source out s
    SameRun s t run (linkUnit tools fresh source out t) ∧
      (∀ unit, run.1.1 = .ok unit → run.1.2.stage = .done) ∧
      (∀ e, run.1.1 = .error e → run.1.2.stage = .failed) ∧
      run.1.2.table = l.table ∧
      ((∀ call ∈ history, call.buildsTable = false) →
        run.1.1 = .error .tableNotBuilt ∧ run.2.files = s.files ∧ run.2.calls = s.calls) := by
  intro l fresh run
  obtain ⟨hoffset, htable⟩ := afterAll_keeps tools loadOffset history
  obtain ⟨hoffset', -⟩ := afterAll_keeps tools loadOffset (lastTable? history).toList
  have hlinker : run.1.2 = { l with stage := closingStage run.1.1 } :=
    after_linkUnit tools l source out s
  refine ⟨linkUnit_sameRun htools htable (hoffset.trans hoffset'.symm) source out hfiles,
    fun unit hunit => ?_, fun e he => ?_, ?_, fun hnone => ?_⟩
  · rw [hlinker, hunit, closingStage]
  · rw [hlinker, he, closingStage]
  · rw [hlinker]
  · have hlast : lastTable? history = none := by
      rw [lastTable?, List.filter_eq_nil_iff.2 fun call hcall => by simp [hnone call hcall]]
      rfl
    rw [hlast] at htable
    have hattempt : attempt tools l source out s = ((l.stage, .error .tableNotBuilt), s) := by
      rw [attempt, htable]
      rfl
    obtain ⟨hrun, hfiles, hcalls⟩ := linkUnit_eq tools l source out s
    rw [hattempt] at hrun hfiles hcalls
    exact ⟨congrArg Prod.fst hrun, hfiles, hcalls⟩

/-! A unit that is linked after two failures, without a table and with an empty one. -/

theorem byFiles_fixedTools (object code : Bytes) (symbols : String) :
    (fixedTools object code symbols).ByFiles := by
  have hwrite : ∀ content path, ByFiles (writeFixed content path) := by
    intro content path
    refine (Session.byFiles_change _).bind fun written => ?_
    cases written with
    | error e => exact .pure _
    | ok _ => exact .pure _
  exact ⟨fun _ => hwrite object, fun _ => hwrite code, fun _ => .pure _⟩

theorem used_linker_links_tick :
    let tick : Entity := { Entity.named "ETick" 1 with routines := tickRoutines }
    let calls : List ToolCall := [.compile "tick.cpp" "tick.o", .extractBinary "tick.o" "tick.bin",
      .dumpSymbols "tick.o"]
    let s : Session := { Session.start .empty with calls := calls }
    let history : List LinkerCall := [.linkUnit "tick.cpp" "tick" (.start .empty),
      .buildTable [] [], .linkUnit "tick.cpp" "tick" s, .buildTable [tick] []]
    let run := linkUnit tickTools (afterAll tickTools 0x200 history) "tick.cpp" "tick" s
    run.1.1 = .ok ⟨"tick.bin", 7, tickRelocations, tickDump⟩ ∧ run.1.2.stage = .done ∧
      run.2.calls = calls ++ calls := by
  intro tick calls s history run
  have htools : tickTools.ByFiles := byFiles_fixedTools [] [1, 2, 3, 4, 5, 6, 7] tickDump
  have hfiles : s.files = (Session.start .empty).files := rfl
  obtain ⟨⟨hresult, -, made, hs, ht⟩, hdone, -⟩ := linkUnit_forgets_past htools 0x200 history
    "tick.cpp" "tick" hfiles
  have hfresh : afterAll tickTools 0x200 (lastTable? history).toList =
      (new 0x200).buildTable [tick] [] := rfl
  rw [hfresh] at hresult ht
  have hrun : (linkUnit tickTools ((new 0x200).buildTable [tick] []) "tick.cpp" "tick"
        (.start .empty)).1.1 = .ok ⟨"tick.bin", 7, tickRelocations, tickDump⟩ ∧
      (linkUnit tickTools ((new 0x200).buildTable [tick] []) "tick.cpp" "tick"
        (.start .empty)).2.calls = calls := by
    decide +kernel
  obtain ⟨hunit, hcalls⟩ := hrun
  rw [← hresult] at hunit
  rw [hcalls] at ht
  have hmade : calls = made := ht
  rw [← hmade] at hs
  with_reducible exact ⟨hunit, hdone _ hunit, hs⟩

end Linker

end Cartridge.Script
