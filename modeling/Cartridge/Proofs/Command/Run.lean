import Cartridge.Command.Failure
import Cartridge.Proofs.Files.Session

/-!
Commands in a session. A command goes on as long as its steps succeed, and
stops in the session that its first failing step leaves. Reports are only added to
the session, and what is read leaves it as it is.
-/

namespace Cartridge.Command

section

variable {α β ε : Type} {s after : Session}

/-- What a command comes to, and the session it leaves. -/
def runIn (x : ExceptT Failure (StateM Session) α) (s : Session) : Except Failure α × Session :=
  x.run s

section

variable {failure : ε → Failure} {x : StateM Session (Except ε α)}

theorem runIn_attempt_ok {a : α} (h : x s = (.ok a, after)) :
    runIn (attempt failure x) s = (.ok a, after) := by
  change ((x s).1.mapError failure, (x s).2) = _
  rw [h]
  rfl

theorem runIn_attempt_error {e : ε} (h : x s = (.error e, after)) :
    runIn (attempt failure x) s = (.error (failure e), after) := by
  change ((x s).1.mapError failure, (x s).2) = _
  rw [h]
  rfl

end

variable {x : ExceptT Failure (StateM Session) α}
  {f : α → ExceptT Failure (StateM Session) β} {activity : String} {a : α} {e : Failure}

theorem runIn_during_ok (h : runIn x s = (.ok a, after)) :
    runIn (during activity x) s = (.ok a, after) := by
  change ((runIn x s).1.mapError (Failure.during activity), (runIn x s).2) = _
  rw [h]
  rfl

theorem runIn_during_error (h : runIn x s = (.error e, after)) :
    runIn (during activity x) s = (.error (.during activity e), after) := by
  change ((runIn x s).1.mapError (Failure.during activity), (runIn x s).2) = _
  rw [h]
  rfl

theorem runIn_bind_ok (h : runIn x s = (.ok a, after)) :
    runIn (x >>= f) s = runIn (f a) after := by
  rw [runIn, ExceptT.run_bind, Session.run_bind, show x.run s = _ from h]
  rfl

theorem runIn_bind_error (h : runIn x s = (.error e, after)) :
    runIn (x >>= f) s = (.error e, after) := by
  rw [runIn, ExceptT.run_bind, Session.run_bind, show x.run s = _ from h]
  rfl

theorem runIn_lift (x : StateM Session α) (s : Session) :
    runIn (ExceptT.lift x) s = (.ok (x s).1, (x s).2) := rfl

/-! ### Commands that succeed -/

theorem runIn_bind_eq_ok {b : β} :
    runIn (x >>= f) s = (.ok b, after) ↔
      ∃ a mid, runIn x s = (.ok a, mid) ∧ runIn (f a) mid = (.ok b, after) := by
  rcases hx : runIn x s with ⟨_ | a, mid⟩
  · simp [runIn_bind_error hx]
  · simp [runIn_bind_ok hx, and_assoc]

theorem runIn_attempt_eq_ok {failure : ε → Failure} {x : StateM Session (Except ε α)} :
    runIn (attempt failure x) s = (.ok a, after) ↔ x s = (.ok a, after) := by
  rcases hx : x s with ⟨_ | a', mid⟩
  · rw [runIn_attempt_error hx]
    constructor <;> rintro ⟨⟩
  · rw [runIn_attempt_ok hx]
    constructor <;> rintro ⟨⟩ <;> rfl

theorem runIn_during_eq_ok :
    runIn (during activity x) s = (.ok a, after) ↔ runIn x s = (.ok a, after) := by
  rcases hx : runIn x s with ⟨_ | a', mid⟩
  · simp [runIn_during_error hx]
  · simp [runIn_during_ok hx]

end

/-! ### Reports and reads -/

theorem run_reported {α : Type} (x : Logged α) (s : Session) :
    ∃ events, (Host.reported x : StateM Session α) s =
      (x.value, { s with events := events }) := by
  have hevents : ∀ (events : List Event) (s : Session), ∃ events',
      (Host.reportAll events : StateM Session Unit) s = ((), { s with events := events' }) := by
    intro events
    induction events with
    | nil => exact fun s => ⟨s.events, rfl⟩
    | cons e rest ih =>
        intro s
        obtain ⟨events', hrest⟩ := ih { s with events := s.events ++ [e] }
        exact ⟨events', by rw [Host.reportAll, Session.run_bind, Session.run_report, hrest]⟩
  obtain ⟨events, hrun⟩ := hevents x.events s
  exact ⟨events, by rw [Host.reported, Session.run_bind, hrun, Session.run_pure]⟩

/-- The command changes nothing. -/
def OnlyReads {α : Type} (x : ExceptT Failure (StateM Session) α) : Prop :=
  ∀ s, (runIn x s).2 = s

namespace OnlyReads

variable {α β ε : Type}

theorem pure (a : α) : OnlyReads (Pure.pure a) := fun _ => rfl

theorem throw (e : Failure) : OnlyReads (MonadExcept.throw e : ExceptT _ _ α) := fun _ => rfl

theorem attempt {failure : ε → Failure} {x : StateM Session (Except ε α)}
    (hx : ∀ s, (x s).2 = s) : OnlyReads (attempt failure x) := hx

theorem during {activity : String} {x : ExceptT Failure (StateM Session) α}
    (hx : OnlyReads x) : OnlyReads (during activity x) := hx

theorem bind {x : ExceptT Failure (StateM Session) α}
    {f : α → ExceptT Failure (StateM Session) β} (hx : OnlyReads x)
    (hf : ∀ a, OnlyReads (f a)) : OnlyReads (x >>= f) := by
  intro s
  have hfirst := hx s
  rcases hrun : runIn x s with ⟨e | a, mid⟩
  · rw [runIn_bind_error hrun]
    rwa [hrun] at hfirst
  · rw [runIn_bind_ok hrun, hf a mid]
    rwa [hrun] at hfirst

theorem eq_of_run {x : ExceptT Failure (StateM Session) α} (hx : OnlyReads x) {s after : Session}
    {result : Except Failure α} (h : runIn x s = (result, after)) : s = after := by
  rw [← hx s, h]

theorem readText (path : String) {failure : FileError → Failure} :
    OnlyReads (Command.attempt failure (Host.readText path)) := by
  refine attempt fun s => ?_
  rw [Host.readText, Session.run_bind, Session.run_read]
  cases s.files.read path with
  | error e => rfl
  | ok content => cases hcontent : Bytes.text? content <;> simp only [hcontent] <;> rfl

end OnlyReads

end Cartridge.Command
