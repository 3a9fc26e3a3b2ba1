/-
`cancel`, in every interleaving with the network queue, the session and the
main queue.

A request is `Silenced` when nothing on its way can invoke the response block
any more. A `cancel` silences it unless the outcome is already on its way to
the caller (`Pending`): neither the completion handler nor the block on the
main queue looks at `shouldCancel`.
-/
import LearningDemo.NetworkDeliveryFacts

namespace LearningDemo.NetworkRequest

open Lts

variable {Data Obj URL Resp : Type} {F : Foundation Data Obj URL} {w w' : World Data Resp Obj URL}
  {label : Label Data Resp}

/-- An outcome is on its way to the caller: the task has finished with it, and
its callback has not run. -/
def Pending (F : Foundation Data Obj URL) (w : World Data Resp Obj URL) : Prop :=
  ∃ request outcome, w.sessionTask = some { request, state := .finished outcome } ∧
    suppressed F false outcome = false ∧ (w.handler = .held ∨ w.mainQueue ≠ [])

/-- `cancel` sends its message while there is still something to cancel. -/
def CancelInTime (F : Foundation Data Obj URL) (w : World Data Resp Obj URL) : Label Data Resp → Prop
  | .cancelTask => ¬ Pending F w
  | _ => True

/-- After each `cancel` that returns, the response block is not invoked any more. -/
def StaysSilent (F : Foundation Data Obj URL) (w : World Data Resp Obj URL)
    (labels : List (Label Data Resp)) : Prop :=
  ∀ before after w₁ w₂, labels = before ++ .cancelTask :: after →
    run (step F) w (before ++ [.cancelTask]) = some w₁ → run (step F) w₁ after = some w₂ →
    w₂.invoked = w₁.invoked

/-- A request whose response block will not be invoked any more: the handler
has run, or will find a cancelled task, or the task will be cancelled as soon
as it is assigned. -/
structure Silenced (F : Foundation Data Obj URL) (invoked : List (Callback Obj))
    (w : World Data Resp Obj URL) : Prop where
  invoked : w.invoked = invoked
  shouldCancel : w.self.shouldCancel = true
  mainQueue : w.mainQueue = []
  settled : (w.handler = .called ∨ w.handler = .released) ∨
    (∃ request outcome, w.sessionTask = some { request, state := .finished outcome } ∧
      suppressed F false outcome = true) ∨
    w.sessionTask = none ∨
    (w.network = .assigned ∧ ∃ request, w.sessionTask = some { request, state := .suspended })

theorem Silenced.setCancelled {invoked : List (Callback Obj)} (hs : Silenced F invoked w) :
    Silenced F invoked { w with sessionTask := w.sessionTask.map Task.cancel } :=
  { hs with
    settled := by
      rcases hs.settled with hh | ⟨request, outcome, htask, hsup⟩ | hnone | ⟨-, request, htask⟩
      · exact .inl hh
      · exact .inr (.inl ⟨request, outcome, by simp [htask, Task.cancel], hsup⟩)
      · exact .inr (.inr (.inl (by simp [hnone])))
      · exact .inr (.inl ⟨request, cancelledOutcome, by simp [htask, Task.cancel], rfl⟩) }

theorem Silenced.step {invoked : List (Callback Obj)} (hw : Ordered F false w) (hs : Silenced F invoked w)
    (h : step F w label = some w') : Silenced F invoked w' := by
  cases step_took h with
  | response _ hn => exact { hs with settled := .inr (.inr (.inl (hw.early (by rw [hn]; rfl)).1)) }
  | drop | configRaises => exact { hs with }
  | config hn hconfig =>
    have hnone := (hw.early (by rw [hn]; rfl)).1
    exact { hs with
      shouldCancel := (configBeforeRequest_ok hconfig).shouldCancel.trans hs.shouldCancel
      settled := .inr (.inr (.inl hnone)) }
  | createTask => exact { hs with settled := .inr (.inr (.inr ⟨rfl, _, rfl⟩)) }
  | checkCancel =>
    rw [if_pos hs.shouldCancel]
    -- the task that was assigned too late for `cancel` is cancelled here
    have hset := hs.setCancelled
    refine { hset with settled := ?_ }
    rcases hset.settled with hh | htask | hnone | ⟨-, request, htask⟩
    · exact .inl hh
    · exact .inr (.inl htask)
    · exact .inr (.inr (.inl hnone))
    · obtain ⟨⟨_, state⟩, -, hcancel⟩ := Option.map_eq_some_iff.mp htask
      cases state <;> cases hcancel
  | resume hn =>
    refine { hs with settled := ?_ }
    rcases hs.settled with hh | ⟨request, outcome, htask, hsup⟩ | hnone | ⟨hassigned, -⟩
    · exact .inl hh
    · exact .inr (.inl ⟨request, outcome, by simp [htask, Task.resume], hsup⟩)
    · exact .inr (.inr (.inl (by simp [hnone])))
    · rw [hn] at hassigned
      cases hassigned
  | endBlock hn =>
    refine { hs with settled := ?_ }
    rcases hs.settled with hh | htask | hnone | ⟨hassigned, -⟩
    · exact .inl hh
    · exact .inr (.inl htask)
    · exact .inr (.inr (.inl hnone))
    · rw [hn] at hassigned
      cases hassigned
  | finish htask =>
    refine { hs with settled := .inl ?_ }
    rcases hs.settled with hh | ⟨_, _, htask', -⟩ | hnone | ⟨-, _, htask'⟩
    · exact hh
    · simp [htask] at htask'
    · simp [htask] at hnone
    · simp [htask] at htask'
  | @callHandler request outcome hheld htask =>
    have hsup : suppressed F false outcome = true := by
      rcases hs.settled with hh | ⟨_, _, htask', hsup⟩ | hnone | ⟨-, _, htask'⟩
      · rw [hheld] at hh
        rcases hh with hh | hh <;> cases hh
      · obtain ⟨-, rfl⟩ : _ ∧ outcome = _ := by simpa [htask] using htask'
        exact hsup
      · simp [htask] at hnone
      · simp [htask] at htask'
    refine { hs with mainQueue := ?_, settled := .inl (.inl rfl) }
    rw [respond_eq, hw.flag, hsup, hs.mainQueue]
    rfl
  | releaseHandler => exact { hs with settled := .inl (.inr rfl) }
  | cancel => exact { hs with shouldCancel := rfl }
  | cancelTask => exact { hs.setCancelled with }
  | deliver _ hq | deliverNil _ hq =>
    rw [hs.mainQueue] at hq
    cases hq

theorem silenced_of_cancelTask (hw : Ordered F false w) (hg : CancelInTime F w .cancelTask)
    (h : step F w .cancelTask = some w') : Silenced F w'.invoked w' := by
  cases step_took h with
  | cancelTask hcancelling =>
    have hqueue : w.mainQueue = [] := by
      cases hq : w.mainQueue with
      | nil => rfl
      | cons callback rest =>
        obtain ⟨request, outcome, htask, hsup, -⟩ := hw.queued hq
        exact absurd ⟨request, outcome, htask, hsup, .inr (by simp [hq])⟩ hg
    refine ⟨rfl, hw.cancelling hcancelling, hqueue, ?_⟩
    cases htask : w.sessionTask with
    | none => exact .inr (.inr (.inl (by simp)))
    | some task =>
      obtain ⟨request, state⟩ := task
      cases state with
      | suspended | running => exact .inr (.inl ⟨request, cancelledOutcome, rfl, rfl⟩)
      | finished outcome =>
        cases hsup : suppressed F false outcome with
        | true => exact .inr (.inl ⟨request, outcome, rfl, hsup⟩)
        | false =>
          left
          cases hh : w.handler with
          | none => exact absurd hh (hw.late (hw.hasTask htask)).2
          | held => exact absurd ⟨request, outcome, htask, hsup, .inl hh⟩ hg
          | called => exact .inl rfl
          | released => exact .inr rfl

theorem cancelled_silent {calls : List (Call Obj)} {labels : List (Label Data Resp)}
    (hflag : (build calls : NetworkRequest Data Obj URL).callbackWhenCancelled = false)
    (hmeets : Meets (step F) (CancelInTime F) (start calls : World Data Resp Obj URL) labels) :
    StaysSilent F (start calls) labels := by
  intro before after w₁ w₂ hlabels h₁ h₂
  obtain ⟨w, hw, hlast⟩ := run_append.mp h₁
  obtain ⟨w₁', hstep, hend⟩ := run_cons.mp hlast
  obtain rfl := Option.some.inj hend
  rw [hlabels] at hmeets
  have hordered : Ordered F false w := hflag ▸ Ordered.run hw
  have hsilent := silenced_of_cancelTask hordered (meets_append hw hmeets).2.1 hstep
  have hrest := run_invariant
    (fun w a w' (hi : Ordered F false w ∧ Silenced F w₁'.invoked w) hs =>
      (⟨hi.1.step hs, hi.2.step hi.1 hs⟩ : _ ∧ _))
    ⟨hordered.step hstep, hsilent⟩ h₂
  exact hrest.2.invoked

theorem pending_invoked (hw : Ordered F false w) (hc : w.crash = none) (hcancelling : w.cancelling = true)
    (hcaller : w.caller = true) (hp : Pending F w) : ∃ after w₁ w₂,
      step F w .cancelTask = some w₁ ∧ run (step F) w₁ after = some w₂ ∧ w₂.invoked ≠ w₁.invoked := by
  obtain ⟨request, outcome, htask, hsup, hway⟩ := hp
  have hcancel : step F w .cancelTask = some { w with cancelling := false } := by
    simp [step, live, hc, hcancelling, htask, Task.cancel]
  have hw₁ := hw.step hcancel
  rcases hway with hheld | hq
  · obtain ⟨w₂, hrun, hinvoked, -⟩ := handler_invokes hw₁ hc rfl hcaller hheld htask hsup
    exact ⟨[.callHandler, .deliver], _, w₂, hcancel, hrun, by rw [hinvoked]; simp⟩
  · obtain ⟨callback, rest, hq⟩ := List.exists_cons_of_ne_nil hq
    obtain ⟨w₂, hdeliver, hinvoked, -⟩ := deliver_invokes hw₁ hc rfl hcaller hq
    exact ⟨[.deliver], _, w₂, hcancel, run_cons.mpr ⟨_, hdeliver, rfl⟩, by rw [hinvoked]; simp⟩

/-- **Silence after `cancel`.** With `callbackWhenCancelled` off, in a run
whose `cancel`s are all in time the response block is not invoked after any of
them; and after one that is not, it can be, while the caller keeps the request. -/
theorem cancelled_stays_silent (F : Foundation Data Obj URL) (calls : List (Call Obj))
    (labels : List (Label Data Resp)) (w : World Data Resp Obj URL)
    (hflag : (build calls : NetworkRequest Data Obj URL).callbackWhenCancelled = false)
    (hrun : run (step F) (start calls) labels = some w) :
    (Meets (step F) (CancelInTime F) (start calls : World Data Resp Obj URL) labels →
      StaysSilent F (start calls) labels) ∧
    (w.cancelling = true → w.crash = none → w.caller = true → ¬ CancelInTime F w .cancelTask →
      ∃ after, ¬ StaysSilent F (start calls) (labels ++ .cancelTask :: after)) := by
  refine ⟨cancelled_silent hflag, fun hcancelling hc hcaller hlate => ?_⟩
  have hw : Ordered F false w := hflag ▸ Ordered.run hrun
  obtain ⟨after, w₁, w₂, hstep, hafter, hne⟩ :=
    pending_invoked hw hc hcancelling hcaller (Classical.not_not.mp hlate)
  refine ⟨after, fun hsilent => hne (hsilent labels after w₁ w₂ rfl ?_ hafter)⟩
  exact run_append.mpr ⟨w, hrun, run_cons.mpr ⟨w₁, hstep, rfl⟩⟩


/-- `cancel` while the task is running. -/
theorem cancelled_running_silent : StaysSilent emptyArrays (start posted : World String Unit String String)
    [.response, .config, .createTask, .checkCancel, .resume, .cancel, .cancelTask, .callHandler] := by
  refine (cancelled_stays_silent emptyArrays posted _ _ rfl rfl).1 ?_
  iterate 6 refine meets_cons trivial rfl ?_
  refine meets_cons ?_ rfl (meets_cons trivial rfl trivial)
  intro hpending
  obtain ⟨_, _, htask, -⟩ := hpending
  cases htask

/-- `cancel` while the callback waits on the main queue. -/
theorem cancelled_late_invoked : ¬ ∀ (F : Foundation String String String) (calls : List (Call String))
    (labels : List (Label String Unit)) (w : World String Unit String String),
    (build calls : NetworkRequest String String String).callbackWhenCancelled = false →
    run (step F) (start calls) labels = some w →
    StaysSilent F (start calls : World String Unit String String) labels := by
  intro h
  have hsilent := h emptyArrays posted
    (sendAndAnswer ++ [.callHandler, .cancel, .cancelTask, .deliver]) _ rfl rfl
  have hsame := hsilent (sendAndAnswer ++ [.callHandler, .cancel]) [.deliver] _ _ rfl rfl rfl
  cases hsame

end LearningDemo.NetworkRequest
