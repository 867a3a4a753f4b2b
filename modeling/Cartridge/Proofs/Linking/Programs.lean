import Cartridge.Proofs.Linking.Unit
import Cartridge.Shell.Run

/-!
Programs as tools. A tool that is run as a program on the files of a session changes nothing else
in it, and nothing at all if the program only writes to its streams. A compiler that cannot be
started ends the building of a unit before any other tool is called.
-/

namespace Cartridge

namespace Shell

/-! ### Programs that write no files -/

section

variable {α β : Type} (s : State)

theorem Act.run_bind (x : Act α) (f : α → Act β) : (x >>= f) s =
    match x s with
    | (.ok a, s') => f a s'
    | (.error j, s') => (.error j, s') := by
  show ExceptT.bindCont f (x s).1 (x s).2 = _
  rcases x s with ⟨_ | _, s'⟩ <;> rfl

theorem Act.run_get : (get : Act State) s = (.ok s, s) := rfl

theorem Act.run_pure (a : α) : (pure a : Act α) s = (.ok a, s) := rfl

theorem Act.run_modify (f : State → State) : (modify f : Act Unit) s = (.ok (), f s) := rfl

theorem Act.run_tryCatch (x : Act α) (handler : Jump → Act α) : tryCatch x handler s =
    match x s with
    | (.ok a, s') => (.ok a, s')
    | (.error j, s') => handler j s' := by
  change (ExceptT.tryCatch x handler : Act α) s = _
  simp only [ExceptT.tryCatch, ExceptT.mk, bind, StateT.bind]
  rcases x s with ⟨_ | _, s'⟩ <;> rfl

end

/-- The process is one that is started from outside: what it writes is collected, and nothing runs
in the background. -/
structure IsOutside (fs : Files) (s : State) : Prop where
  files : s.files = fs
  pending : s.pending = []
  streams : s.streams = [(0, 0), (1, 1), (2, 2)]
  sinks : ∀ stream, stream = 1 ∨ stream = 2 → ∃ pieces size,
    s.channels[stream]? = some ⟨.sink pieces size none, false, true⟩

theorem isOutside_outside (fs : Files) : IsOutside fs (State.outside fs) where
  files := rfl
  pending := rfl
  streams := rfl
  sinks := by
    rintro _ (rfl | rfl) <;> exact ⟨_, _, rfl⟩

namespace IsOutside

variable {fs : Files} {s : State}

theorem writeBytes (h : IsOutside fs s) {stream : Nat} (hstream : stream = 1 ∨ stream = 2)
    (bytes : Bytes) : ∃ after, Shell.writeBytes stream bytes s = (.ok true, after) ∧
      IsOutside fs after := by
  obtain ⟨pieces, size, hchannel⟩ := h.sinks stream hstream
  have hlookup : s.streams.lookup stream = some stream := by
    rw [h.streams]
    rcases hstream with rfl | rfl <;> rfl
  have hfound : channelOf? s stream = some (stream, ⟨.sink pieces size none, false, true⟩) := by
    simp [channelOf?, hlookup, hchannel]
  cases bytes with
  | nil =>
      refine ⟨s, ?_, h⟩
      simp only [Shell.writeBytes, Act.run_bind, Act.run_get, hfound]
      rfl
  | cons b bytes =>
      refine ⟨{ s with channels := s.channels.modify stream fun c =>
        { c with target := .sink ((b :: bytes) :: pieces) (size + (b :: bytes).length) none } },
        ?_, h.files, h.pending, h.streams, fun other hother => ?_⟩
      · simp only [Shell.writeBytes, Act.run_bind, Act.run_get, hfound]
        rfl
      · obtain ⟨pieces', size', hother⟩ := h.sinks other hother
        rw [List.getElem?_modify]
        by_cases heq : stream = other
        · simp [heq, hother]
        · simp [heq, hother]

theorem finishHolders (h : IsOutside fs s) (perform : Performer) (channel : Nat) :
    Shell.finishHolders perform channel s = (.ok (), s) := by
  rw [Shell.finishHolders, Source.stepLimit, finishHoldersFuel]
  simp only [Act.run_bind, Act.run_get, h.pending]
  rfl

end IsOutside

/-- The program only writes to its streams. -/
def isPlain (program : String) : Bool :=
  ["true", "false", "echo"].contains program

section

variable {fs : Files} {program : String}

theorem runTool_of_isPlain (hplain : isPlain program) {s : State} (h : IsOutside fs s)
    (name : String) (args : List Octets) :
    ∃ status after, runTool program name args s = (.ok status, after) ∧ IsOutside fs after := by
  simp only [isPlain, List.contains_eq_mem, List.mem_cons, List.not_mem_nil, or_false,
    decide_eq_true_eq] at hplain
  rcases hplain with rfl | rfl | rfl
  · exact ⟨0, s, rfl, h⟩
  · exact ⟨1, s, rfl, h⟩
  · obtain ⟨after, hwrite, hafter⟩ := h.writeBytes (.inl rfl)
      (Octets.toBytes (echoProgram ⟨false, true, true⟩ args))
    refine ⟨0, after, ?_, hafter⟩
    simp only [runTool, Act.run_bind, hwrite]
    rfl

theorem runProgram_of_isPlain (hplain : isPlain program) {s : State} (h : IsOutside fs s)
    (perform : Performer) (name : String) (args : List Octets) :
    ∃ ending after, runProgram perform program name args s = (.ok ending, after) ∧
      IsOutside fs after := by
  obtain ⟨status, after, hrun, hafter⟩ := runTool_of_isPlain hplain h name args
  have hshell : ¬(program = "sh" ∨ program = "dash") := by
    rintro (rfl | rfl) <;> exact absurd hplain (by decide)
  refine ⟨.exited status, after, ?_, hafter⟩
  rw [runProgram, if_neg hshell, Act.run_bind, hrun]
  rfl

theorem runOutside_of_isPlain (hplain : isPlain program) {s : State} (h : IsOutside fs s)
    (perform : Performer) (name : String) (args : List Octets) :
    ∃ ending after, runOutside perform program name args s = (.ok ending, after) ∧
      IsOutside fs after := by
  obtain ⟨ending, after, hrun, hafter⟩ := runProgram_of_isPlain hplain h perform name args
  -- Nothing is left in the background that could still write to the streams.
  have hpatient : IsOutside fs { after with patience := some patienceLimit } := ⟨hafter.files,
    hafter.pending, hafter.streams, hafter.sinks⟩
  refine ⟨ending, _, ?_, hpatient⟩
  simp only [runOutside, Act.run_bind, hrun, Act.run_modify, Act.run_tryCatch,
    hpatient.finishHolders, Act.run_pure]

/-- Such a program leaves all files as they are. -/
theorem files_of_isPlain {path : String} {args : List String} {finished : Script.Finished}
    {files : Files} (hfind : findProgram fs usualDirectories path = .ok program)
    (hplain : isPlain program) (h : run fs path args = .ok (finished, files)) : files = fs := by
  obtain ⟨ending, after, hrun, hafter⟩ := runOutside_of_isPlain hplain (isOutside_outside fs)
    (performAt depthLimit) (Octets.ofText path) (args.map Octets.ofText)
  rw [run] at h
  split at h
  · cases h
  · simp only [hfind, bind, Except.bind, hrun] at h
    cases h
    rw [hafter.files]

end

end Shell

namespace Script

open Session (run_bind run_note run_pure run_report)

/-! ### Tools -/

/-- Whatever a tool does to the files, and whether it can be started at all, the rest of the
session stays as it is. -/
theorem runTool_outcome (t : ToolSettings) (tool : String) (args : List String) (s : Session) :
    (∃ e, Shell.run s.files (t.toolPath tool) args = .error e ∧
      runTool Shell.runner t tool args s = (.error (.unstartable tool e), s)) ∨
    ∃ finished files, Shell.run s.files (t.toolPath tool) args = .ok (finished, files) ∧
      runTool Shell.runner t tool args s =
        (if finished.ending.isSuccess then .ok finished.output.lossyText
          else .error (.toolFailed tool finished.ending.text
            (Text.trim finished.complaints.lossyText)), { s with files }) := by
  cases hrun : Shell.run s.files (t.toolPath tool) args with
  | error e =>
      refine .inl ⟨e, rfl, ?_⟩
      simp only [runTool, run_bind, Shell.runner, hrun, run_pure]
  | ok result =>
      refine .inr ⟨result.1, result.2, rfl, ?_⟩
      simp only [runTool, run_bind, Shell.runner, hrun]
      split <;> rfl

/-- A tool that only writes to its streams leaves the session as it is. -/
theorem session_of_isPlain {t : ToolSettings} {tool program : String} {s : Session}
    (hfind : Shell.findProgram s.files Shell.usualDirectories (t.toolPath tool) = .ok program)
    (hplain : Shell.isPlain program) (args : List String) :
    (runTool Shell.runner t tool args s).2 = s := by
  rcases runTool_outcome t tool args s with ⟨e, -, htool⟩ | ⟨finished, files, hrun, htool⟩
  · rw [htool]
  · rw [htool, Shell.files_of_isPlain hfind hplain hrun]

/-- Without its compiler a unit is not built: the failure is reported, all files stay as they are,
and no other tool is called. -/
theorem linkUnit_of_unstartable {t : ToolSettings} {l : Linker} {table : OffsetTable}
    {tableSize : UInt16} {e : FileError} {source out : String} {s : Session}
    (htable : l.table = some table) (hsize : table.offsetSize = .ok tableSize)
    (hrun : Shell.run s.files (t.toolPath t.compiler)
      (t.compileArgs source (Path.withExtension out "o")) = .error e) :
    let result := Linker.linkUnit (t.toolchain Shell.runner) l source out s
    result.1 = (.error (.unstartable t.compiler e), { l with stage := .failed }) ∧
      result.2.files = s.files ∧
      result.2.calls = s.calls ++ [.compile source (Path.withExtension out "o")] := by
  intro result
  have hcompile : (t.toolchain Shell.runner).compile source (Path.withExtension out "o")
      { s with calls := s.calls ++ [.compile source (Path.withExtension out "o")] } =
      (.error (.unstartable t.compiler e),
        { s with calls := s.calls ++ [.compile source (Path.withExtension out "o")] }) := by
    simp only [ToolSettings.toolchain, runTool, run_bind, Shell.runner, hrun, run_pure]
    rfl
  have hresult : result = Linker.linkUnit (t.toolchain Shell.runner) l source out s := rfl
  simp only [Linker.linkUnit, Linker.attempt, htable, hsize, Linker.buildUnit, Linker.makeBinary,
    run_bind, run_note, hcompile, run_pure, run_report] at hresult
  rw [hresult, htable]
  exact ⟨rfl, rfl, rfl⟩

end Script

end Cartridge
