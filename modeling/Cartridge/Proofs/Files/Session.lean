import Cartridge.Files.Session
import Cartridge.Proofs.Files.Frame

/-!
Steps of a session. Each request of a command is a step from one session to
the next; `replace_outcome` says that a file gets its new content at once or
not at all. What a step comes to depends on the files only, and that carries over
to computations made of such steps: `ByFiles.bind`.
-/

namespace Cartridge.Session

section

variable {α β : Type} (s : Session)

theorem run_pure (a : α) : (pure a : StateM Session α) s = (a, s) := rfl

theorem run_bind (x : StateM Session α) (f : α → StateM Session β) :
    (x >>= f) s = f (x s).1 (x s).2 := rfl

theorem run_read (path : String) :
    (Host.read path : StateM Session _) s = (s.files.read path, s) := rfl

theorem run_isPresent (path : String) :
    (Host.isPresent path : StateM Session Bool) s = (s.files.exists? path, s) := rfl

theorem run_note (call : ToolCall) :
    (Host.note call : StateM Session Unit) s =
      ((), { s with calls := s.calls ++ [call] }) := rfl

theorem run_report (e : Event) :
    (Host.report e : StateM Session Unit) s =
      ((), { s with events := s.events ++ [e] }) := rfl

theorem run_write (path : String) (content : Bytes) :
    (Host.write path content : StateM Session (Except FileError Unit)) s =
      match s.files.write path content with
      | .ok files => (.ok (), { s with files := files })
      | .error e => (.error e, s) := rfl

theorem run_rename (source target : String) :
    (Host.rename source target : StateM Session (Except FileError Unit)) s =
      match s.files.rename source target with
      | .ok files => (.ok (), { s with files := files })
      | .error e => (.error e, s) := rfl

theorem run_remove (path : String) :
    (Host.remove path : StateM Session (Except FileError Unit)) s =
      match s.files.remove path with
      | .ok files => (.ok (), { s with files := files })
      | .error e => (.error e, s) := rfl

theorem run_createDirectories (path : String) :
    (Host.createDirectories path : StateM Session (Except FileError Unit)) s =
      ((s.files.createDirectories path).2,
        { s with files := (s.files.createDirectories path).1 }) := rfl

end

/-- A file that holds text is read as that text. -/
theorem run_readText {path text : String} {s : Session}
    (h : s.files.read path = .ok (Bytes.ofText text)) :
    (Host.readText path : StateM Session (Except FileError String)) s = (.ok text, s) := by
  simp only [Host.readText, run_bind, run_read, h, Bytes.text?_ofText, run_pure]

/-- A file that can be read is replaced if the staging file can be written. -/
theorem replace_of_writable {path : String} (content : Bytes) {s : Session} {old : Bytes}
    (hread : s.files.read path = .ok old) (hstaging : s.files.Writable (Host.stagingPath path)) :
    ∃ files, (Host.replace path content : StateM Session (Except FileError Unit)) s =
        (.ok (), { s with files := files }) ∧
      files.read path = .ok content := by
  obtain ⟨staged, hwrite⟩ := hstaging.exists_write content
  obtain ⟨files, hrename, hfile, -⟩ := Files.rename_of_write hread hwrite
  refine ⟨files, ?_, hfile⟩
  simp only [Host.replace, run_bind, run_write, hwrite, run_rename, hrename, run_pure]

/-- A file that can be read is replaced at once or not at all. -/
theorem replace_outcome {path : String} (content : Bytes) {s : Session} {old : Bytes}
    (hread : s.files.read path = .ok old) :
    (∃ e, (Host.replace path content : StateM Session (Except FileError Unit)) s =
      (.error e, s)) ∨
    ∃ files, (Host.replace path content : StateM Session (Except FileError Unit)) s =
        (.ok (), { s with files := files }) ∧
      files.read path = .ok content ∧
      Files.Frame (s.files.places [path, Host.stagingPath path]) s.files files := by
  cases hwrite : s.files.write (Host.stagingPath path) content with
  | error e =>
      obtain ⟨e', hremove⟩ := Files.remove_of_write_error hwrite
      refine .inl ⟨e, ?_⟩
      simp only [Host.replace, run_bind, run_write, hwrite, run_remove, hremove, run_pure]
  | ok staged =>
      obtain ⟨files, hrename, hfiles⟩ := Files.rename_of_write hread hwrite
      refine .inr ⟨files, ?_, hfiles⟩
      simp only [Host.replace, run_bind, run_write, hwrite, run_rename, hrename, run_pure]

/-! ### Runs that go by the files -/

/-- Two runs that come to the same result, leave the same files and call the same
tools. -/
structure SameRun {α : Type} (s t : Session) (p q : α × Session) : Prop where
  result : p.1 = q.1
  files : p.2.files = q.2.files
  calls : ∃ made, p.2.calls = s.calls ++ made ∧ q.2.calls = t.calls ++ made

/-- A computation that sees nothing of its session but the files. -/
def ByFiles {α : Type} (x : StateM Session α) : Prop :=
  ∀ s t : Session, s.files = t.files → SameRun s t (x s) (x t)

section

variable {α β : Type}

theorem SameRun.of_same_calls {s t : Session} {p q : α × Session} (hresult : p.1 = q.1)
    (hfiles : p.2.files = q.2.files) (hs : p.2.calls = s.calls) (ht : q.2.calls = t.calls) :
    SameRun s t p q :=
  ⟨hresult, hfiles, [], by rw [hs, List.append_nil], by rw [ht, List.append_nil]⟩

theorem ByFiles.pure (a : α) : ByFiles (pure a : StateM Session α) :=
  fun _ _ hfiles => .of_same_calls rfl hfiles rfl rfl

theorem ByFiles.bind {x : StateM Session α} {f : α → StateM Session β} (hx : ByFiles x)
    (hf : ∀ a, ByFiles (f a)) : ByFiles (x >>= f) := by
  intro s t hfiles
  obtain ⟨hresult, hfiles, first, hs, ht⟩ := hx s t hfiles
  rw [run_bind, run_bind, hresult]
  obtain ⟨hresult, hfiles, later, hs', ht'⟩ := hf (x t).1 _ _ hfiles
  exact ⟨hresult, hfiles, first ++ later, by rw [hs', hs, List.append_assoc],
    by rw [ht', ht, List.append_assoc]⟩

theorem byFiles_ask (question : Files → α) : ByFiles (ask question) :=
  fun _ _ hfiles => .of_same_calls (congrArg question hfiles) hfiles rfl rfl

theorem byFiles_change (action : Files → Except FileError Files) : ByFiles (change action) := by
  intro s t hfiles
  rw [change, change, hfiles]
  cases action t.files with
  | error e => exact .of_same_calls rfl hfiles rfl rfl
  | ok files => exact .of_same_calls rfl rfl rfl rfl

theorem byFiles_report (e : Event) : ByFiles (Host.report e) :=
  fun _ _ hfiles => .of_same_calls rfl hfiles rfl rfl

theorem byFiles_note (call : ToolCall) : ByFiles (Host.note call) :=
  fun _ _ hfiles => ⟨rfl, hfiles, [call], rfl, rfl⟩

theorem byFiles_replace (path : String) (content : Bytes) :
    ByFiles (Host.replace path content : StateM Session (Except FileError Unit)) := by
  have hremove : ∀ e : FileError, ByFiles (do
      let _ ← Host.remove (Host.stagingPath path)
      return .error e : StateM Session (Except FileError Unit)) :=
    fun e => (byFiles_change _).bind fun _ => .pure (Except.error e)
  refine (byFiles_change _).bind fun written => ?_
  cases written with
  | error e => exact hremove e
  | ok _ =>
      refine (byFiles_change _).bind fun renamed => ?_
      cases renamed with
      | error e => exact hremove e
      | ok _ => exact .pure _

end

end Cartridge.Session
