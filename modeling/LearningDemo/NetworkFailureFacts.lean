/-
What the caller learns of a failure: nothing. The completion handler has the
right error, and `_handleAfterRequestCompletion:response:error:` passes on
`nil` in its place.
-/
import LearningDemo.NetworkDeliveryFacts

namespace LearningDemo.NetworkRequest

open Lts

variable {Data Obj URL Resp : Type} {F : Foundation Data Obj URL} {w : World Data Resp Obj URL}
  {b : Bool} {outcome : Outcome Data Resp}

/-- The error and the object the caller should get for an outcome. -/
def Reported (F : Foundation Data Obj URL) (outcome : Outcome Data Resp) (callback : Callback Obj) : Prop :=
  match outcome.error with
  | some error => callback = { error := some error, responseObj := none }
  | none =>
    match outcome.data with
    | none => callback.error ≠ none ∧ callback.responseObj = none
    | some data =>
      match F.JSONObjectWithData data with
      | .error error => callback = { error := some error, responseObj := none }
      | .ok object => callback = { error := none, responseObj := some object }

/-- The task brought data, and the data were JSON. -/
def Succeeded (F : Foundation Data Obj URL) (outcome : Outcome Data Resp) : Prop :=
  outcome.error = none ∧ ∃ data object, outcome.data = some data ∧ F.JSONObjectWithData data = .ok object

theorem reported_passedOn : Reported F outcome (passedOn F outcome) ↔ Succeeded F outcome := by
  obtain ⟨data, response, error⟩ := outcome
  cases error with
  | some error => simp [Reported, passedOn, Succeeded]
  | none =>
    cases data with
    | none => simp [Reported, passedOn, Succeeded]
    | some data =>
      cases hj : F.JSONObjectWithData data with
      | error error => simp [Reported, passedOn, Succeeded, hj]
      | ok object => simp [Reported, passedOn, Succeeded, taskCompletion, hj]

theorem Ordered.invoked_eq (hw : Ordered F b w) {request : Option (NSMutableURLRequest Data URL)}
    (htask : w.sessionTask = some { request, state := .finished outcome }) {callback : Callback Obj}
    (h : callback ∈ w.invoked) : callback = passedOn F outcome := by
  have hmem : callback ∈ w.mainQueue ++ w.invoked := List.mem_append_right _ h
  obtain ⟨request', outcome', htask', hqueue⟩ := hw.ran (hw.handler_ran hmem)
  obtain ⟨-, rfl⟩ : request = request' ∧ outcome = outcome' := by simpa [htask] using htask'
  rw [hqueue] at hmem
  split at hmem
  · cases hmem
  · exact List.mem_singleton.mp hmem

theorem answered_run (F : Foundation Data Obj URL) (b : Bool) (outcome : Outcome Data Resp) :
    ∃ w : World Data Resp Obj URL,
      run (step F) (start [.URL (some "http://a"), .POST, .setCallbackWhenCancelled b])
        [.response, .config, .createTask, .checkCancel, .resume, .finish outcome] = some w ∧
      w.crash = none ∧ w.cancelling = false ∧ w.caller = true ∧ w.handler = .held ∧
      ∃ request, w.sessionTask = some { request, state := .finished outcome } :=
  ⟨_, rfl, rfl, rfl, rfl, rfl, _, rfl⟩

/-- Every outcome that is not dropped can reach the response block. -/
theorem passedOn_invoked (hsup : suppressed F b outcome = false) :
    ∃ (calls : List (Call Obj)) (labels : List (Label Data Resp)) (w : World Data Resp Obj URL),
      (build calls : NetworkRequest Data Obj URL).callbackWhenCancelled = b ∧
      run (step F) (start calls) labels = some w ∧
      (∃ request, w.sessionTask = some { request, state := .finished outcome }) ∧
      passedOn F outcome ∈ w.invoked := by
  obtain ⟨w, hrun, hc, hcancelling, hcaller, hheld, request, htask⟩ := answered_run F b outcome
  obtain ⟨w', hrest, hinvoked, hsame⟩ :=
    handler_invokes (Ordered.run hrun) hc hcancelling hcaller hheld htask hsup
  refine ⟨_, _, w', rfl, run_append.mpr ⟨w, hrun, hrest⟩, ⟨request, hsame.trans htask⟩, ?_⟩
  rw [hinvoked]
  simp

/-- **Failures do not reach the caller.** For an outcome that is not dropped as
a cancellation, the response block always gets the error and the object that
belong to it exactly when the request succeeded. -/
theorem failures_reach_caller_iff (F : Foundation Data Obj URL) (callbackWhenCancelled : Bool)
    (outcome : Outcome Data Resp) (hsup : suppressed F callbackWhenCancelled outcome = false) :
    (∀ (calls : List (Call Obj)) (labels : List (Label Data Resp)) (w : World Data Resp Obj URL)
      (request : Option (NSMutableURLRequest Data URL)) (callback : Callback Obj),
      (build calls : NetworkRequest Data Obj URL).callbackWhenCancelled = callbackWhenCancelled →
      run (step F) (start calls) labels = some w →
      w.sessionTask = some { request, state := .finished outcome } → callback ∈ w.invoked →
      Reported F outcome callback) ↔ Succeeded F outcome := by
  constructor
  · intro h
    obtain ⟨calls, labels, w, hflag, hrun, ⟨request, htask⟩, hmem⟩ := passedOn_invoked hsup
    exact reported_passedOn.mp (h calls labels w request _ hflag hrun htask hmem)
  · intro hsucceeded calls labels w request callback _ hrun htask hmem
    rw [(Ordered.run hrun).invoked_eq htask hmem]
    exact reported_passedOn.mpr hsucceeded


theorem failures_reach_caller_answer :
    (∀ (calls : List (Call String)) (labels : List (Label String Unit)) (w : World String Unit String String)
      (request : Option (NSMutableURLRequest String String)) (callback : Callback String),
      (build calls : NetworkRequest String String String).callbackWhenCancelled = false →
      run (step emptyArrays) (start calls) labels = some w →
      w.sessionTask = some { request, state := .finished answer } → callback ∈ w.invoked →
      Reported emptyArrays answer callback) ↔ Succeeded emptyArrays answer :=
  failures_reach_caller_iff emptyArrays false answer rfl

/-- A timeout is passed on without its error. -/
theorem timeout_reported_as_success : ¬ ∀ (F : Foundation String String String) (callbackWhenCancelled : Bool)
    (outcome : Outcome String Unit), suppressed F callbackWhenCancelled outcome = false →
    ∀ (calls : List (Call String)) (labels : List (Label String Unit)) (w : World String Unit String String)
      (request : Option (NSMutableURLRequest String String)) (callback : Callback String),
      (build calls : NetworkRequest String String String).callbackWhenCancelled = callbackWhenCancelled →
      run (step F) (start calls) labels = some w →
      w.sessionTask = some { request, state := .finished outcome } → callback ∈ w.invoked →
      Reported F outcome callback := by
  intro h
  let timeout : Outcome String Unit :=
    { data := none, response := none
      error := some { domain := "NSURLErrorDomain", code := -1001, userInfo := [] } }
  have hsup : suppressed emptyArrays false timeout = false := rfl
  obtain ⟨calls, labels, w, hflag, hrun, ⟨request, htask⟩, hmem⟩ := passedOn_invoked hsup
  have hreported := h emptyArrays false timeout hsup calls labels w request _ hflag hrun htask hmem
  cases (reported_passedOn.mp hreported).1

end LearningDemo.NetworkRequest
