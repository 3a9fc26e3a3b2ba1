/-
The camera of `iOS/AVFoundation/FZVideoSource.m`: its session is run by the
client (`startVideoCapture`, `stopVideoCapture`) and by the application,
which pauses it in the background and resumes it in the foreground.

Resuming does not ask whether anything was paused, so the session runs after
every `didBecomeActive`; it should only where the capture is started
(`running_only_started_iff`). The lock screen, which only the client
switches, follows the capture exactly (`idleTimerDisabled_iff`).
-/
import Mathlib.Data.List.Induction
import Mathlib.Tactic.Common

namespace LearningDemo

/-- What the methods change: whether the session runs, and whether the
application keeps the screen from locking. -/
structure FZVideoSource where
  running : Bool
  idleTimerDisabled : Bool
  deriving DecidableEq, Repr

namespace FZVideoSource

/-- `init`: a session that does not run yet, and the observers of the two
notifications. -/
def init : FZVideoSource := { running := false, idleTimerDisabled := false }

def startVideoCapture (source : FZVideoSource) : FZVideoSource :=
  { source with running := true, idleTimerDisabled := true }

def stopVideoCapture (source : FZVideoSource) : FZVideoSource :=
  { source with running := false, idleTimerDisabled := false }

def pauseCameraCapture (source : FZVideoSource) : FZVideoSource := { source with running := false }

def resumeCameraCapture (source : FZVideoSource) : FZVideoSource := { source with running := true }

/-- A call of the client, or a notification of the application. -/
inductive Event where
  | startVideoCapture
  | stopVideoCapture
  | willResignActive
  | didBecomeActive
  deriving DecidableEq, Repr

/-- The method an event leads to. -/
def handle (source : FZVideoSource) : Event → FZVideoSource
  | .startVideoCapture => source.startVideoCapture
  | .stopVideoCapture => source.stopVideoCapture
  | .willResignActive => source.pauseCameraCapture
  | .didBecomeActive => source.resumeCameraCapture

/-- The source after these events. -/
def after (events : List Event) : FZVideoSource := events.foldl handle init

/-- `startVideoCapture` has been called, and `stopVideoCapture` not since. -/
def Started (events : List Event) : Prop :=
  ∃ before since, events = before ++ .startVideoCapture :: since ∧ .stopVideoCapture ∉ since

variable {events past rest : List Event} {e : Event}

/-! ## One event more -/

theorem after_concat (past : List Event) (e : Event) : after (past ++ [e]) = handle (after past) e := by
  simp [after]

theorem not_started_nil : ¬ Started [] := by
  rintro ⟨before, since, h, -⟩
  simp at h

theorem started_concat : Started (past ++ [e]) ↔
    e = .startVideoCapture ∨ (e ≠ .stopVideoCapture ∧ Started past) := by
  refine ⟨?_, ?_⟩
  · rintro ⟨before, since, h, hstop⟩
    rcases List.eq_nil_or_concat since with rfl | ⟨since, e', rfl⟩
    · exact .inl (List.singleton_inj.mp (List.append_inj' h rfl).2)
    · rw [List.concat_eq_append] at h hstop
      rw [← List.cons_append, ← List.append_assoc] at h
      obtain ⟨rfl, he⟩ := List.append_inj' h rfl
      obtain rfl := List.singleton_inj.mp he
      exact .inr ⟨fun hs => hstop (by simp [hs]), before, since, rfl, fun hmem => hstop (by simp [hmem])⟩
  · rintro (rfl | ⟨hne, before, since, rfl, hstop⟩)
    · exact ⟨past, [], rfl, List.not_mem_nil⟩
    · refine ⟨before, since ++ [e], by simp, ?_⟩
      simpa [hstop] using hne.symm

/-- Only the last event decides whether the session runs. -/
theorem running_concat : (after (past ++ [e])).running = true ↔
    e = .startVideoCapture ∨ e = .didBecomeActive := by
  rw [after_concat]
  cases e <;> simp [handle, startVideoCapture, stopVideoCapture, pauseCameraCapture, resumeCameraCapture]

theorem idleTimerDisabled_iff (events : List Event) : (after events).idleTimerDisabled = true ↔ Started events := by
  induction events using List.reverseRecOn with
  | nil => exact iff_of_false Bool.false_ne_true not_started_nil
  | append_singleton past e ih =>
    rw [after_concat, started_concat, ← ih]
    cases e <;> simp [handle, startVideoCapture, stopVideoCapture, pauseCameraCapture, resumeCameraCapture]

/-! ## Whole runs -/

/-- **The camera runs only when started, as long as the application becomes
active only then.** In every state of a run the session is running only if
the capture is started, exactly when every `didBecomeActive` of the run comes
while it is. -/
theorem running_only_started_iff (events : List Event) :
    (∀ past rest, events = past ++ rest → (after past).running = true → Started past) ↔
      ∀ past rest, events = past ++ .didBecomeActive :: rest → Started past := by
  refine ⟨fun h past rest hevents => ?_, fun h past rest hevents hrun => ?_⟩
  · have hstarted := h (past ++ [.didBecomeActive]) rest (by simp [hevents]) (running_concat.mpr (.inr rfl))
    exact (started_concat.mp hstarted).resolve_left (by decide) |>.2
  · rcases List.eq_nil_or_concat past with rfl | ⟨past, e, rfl⟩
    · exact absurd hrun (by decide)
    · rw [List.concat_eq_append] at hevents hrun ⊢
      rcases running_concat.mp hrun with rfl | rfl
      · exact started_concat.mpr (.inl rfl)
      · exact started_concat.mpr (.inr ⟨by decide, h past rest (by simp [hevents])⟩)

/-- A capture that was stopped before the application went to the background
runs when it comes back. -/
theorem runs_after_stop : ¬ ∀ events : List Event, (after events).running = true → Started events := by
  intro h
  have hstarted := h [.startVideoCapture, .stopVideoCapture, .willResignActive, .didBecomeActive] rfl
  exact absurd ((idleTimerDisabled_iff _).mpr hstarted) (by decide)

end FZVideoSource

end LearningDemo
