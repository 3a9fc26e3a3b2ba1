/-
What holds of a request on its way, in every interleaving.

`Ordered` is the invariant of all runs: how far the network queue, the
session and the main queue have come together, and that what is queued or
was invoked is what the task's outcome is answered with. From it, the
response is delivered exactly once in the runs where somebody still holds the
request when the main queue comes to it (`delivered_once_iff`).
-/
import LearningDemo.NetworkDelivery
import LearningDemo.NetworkRequestFacts

namespace LearningDemo.NetworkRequest

open Lts

variable {Data Obj URL Resp : Type} {F : Foundation Data Obj URL} {w w' : World Data Resp Obj URL}
  {label : Label Data Resp} {b : Bool} {outcome : Outcome Data Resp}

/-! ## What the completion handler does with an outcome -/

/-- The outcome is dropped as a cancellation. -/
def suppressed (F : Foundation Data Obj URL) (callbackWhenCancelled : Bool) (outcome : Outcome Data Resp) :
    Bool := isCancelled (taskCompletion F outcome).2.2 && !callbackWhenCancelled

/-- What the response block gets for an outcome that is not dropped. -/
def passedOn (F : Foundation Data Obj URL) (outcome : Outcome Data Resp) : Callback Obj :=
  { error := none, responseObj := (taskCompletion F outcome).1 }

theorem respond_eq (self : NetworkRequest Data Obj URL) :
    respond F self outcome = if suppressed F self.callbackWhenCancelled outcome then none
      else if self.responseBlock then some (passedOn F outcome) else none := rfl

/-! ## What holds in every state -/

/-- The block of `request` has not made the data task yet. -/
def Stage.early : Stage → Bool
  | .idle | .queued | .configured => true
  | .assigned | .checked | .resumed | .done => false

theorem Stage.ne_idle {stage : Stage} (h : stage.early = false) : stage ≠ .idle := by
  intro hidle
  rw [hidle] at h
  cases h

/-- How far the network queue, the session and the main queue have come together. -/
structure Ordered (F : Foundation Data Obj URL) (b : Bool) (w : World Data Resp Obj URL) : Prop where
  flag : w.self.callbackWhenCancelled = b
  early : w.network.early = true → w.sessionTask = none ∧ w.handler = .none
  late : w.network.early = false → w.sessionTask ≠ none ∧ w.handler ≠ .none
  quiet : w.handler = .none ∨ w.handler = .held → w.mainQueue = [] ∧ w.invoked = []
  ran : w.handler = .called ∨ w.handler = .released → ∃ request outcome,
    w.sessionTask = some { request, state := .finished outcome } ∧
      w.mainQueue ++ w.invoked = if suppressed F b outcome then [] else [passedOn F outcome]
  block : w.network ≠ .idle → w.invoked = [] → w.self.responseBlock = true
  cancelling : w.cancelling = true → w.self.shouldCancel = true

theorem Ordered.start (calls : List (Call Obj)) :
    Ordered F (build calls : NetworkRequest Data Obj URL).callbackWhenCancelled
      (start calls : World Data Resp Obj URL) where
  flag := rfl
  early _ := ⟨rfl, rfl⟩
  late h := by cases h
  quiet _ := ⟨rfl, rfl⟩
  ran h := by rcases h with h | h <;> cases h
  block h := absurd rfl h
  cancelling h := by cases h

/-- What a step can do, with the guard it is taken under. -/
inductive Took (F : Foundation Data Obj URL) (w : World Data Resp Obj URL) :
    Label Data Resp → World Data Resp Obj URL → Prop
  | response (hcaller : w.caller = true) (hn : w.network = .idle) :
    Took F w .response { w with self := { w.self with responseBlock := true }, network := .queued }
  | drop (hcaller : w.caller = true) (hn : w.network ≠ .idle) : Took F w .drop { w with caller := false }
  | config {self : NetworkRequest Data Obj URL} (hn : w.network = .queued)
    (hconfig : configBeforeRequest F w.self = .ok self) :
    Took F w .config { w with self, network := .configured }
  | configRaises {e : NSException} (hn : w.network = .queued)
    (hconfig : configBeforeRequest F w.self = .error e) :
    Took F w .config { w with crash := some (.exception e) }
  | createTask (hn : w.network = .configured) :
    Took F w .createTask { w with
      sessionTask := some { request := w.self.urlRequest, state := .suspended }
      handler := .held, network := .assigned }
  | checkCancel (hn : w.network = .assigned) :
    Took F w .checkCancel { w with
      sessionTask := if w.self.shouldCancel then w.sessionTask.map Task.cancel else w.sessionTask
      network := .checked }
  | resume (hn : w.network = .checked) :
    Took F w .resume { w with sessionTask := w.sessionTask.map Task.resume, network := .resumed }
  | endBlock (hn : w.network = .resumed) : Took F w .endBlock { w with network := .done }
  | finish {request : Option (NSMutableURLRequest Data URL)} {outcome : Outcome Data Resp}
    (htask : w.sessionTask = some { request, state := .running }) :
    Took F w (.finish outcome) { w with sessionTask := some { request, state := .finished outcome } }
  | callHandler {request : Option (NSMutableURLRequest Data URL)} {outcome : Outcome Data Resp}
    (hheld : w.handler = .held) (htask : w.sessionTask = some { request, state := .finished outcome }) :
    Took F w .callHandler { w with
      handler := .called, mainQueue := w.mainQueue ++ (respond F w.self outcome).toList }
  | releaseHandler (hcalled : w.handler = .called) :
    Took F w .releaseHandler { w with handler := .released }
  | cancel (halive : w.alive = true) (hcancelling : w.cancelling = false) :
    Took F w .cancel { w with self := { w.self with shouldCancel := true }, cancelling := true }
  | cancelTask (hcancelling : w.cancelling = true) :
    Took F w .cancelTask { w with sessionTask := w.sessionTask.map Task.cancel, cancelling := false }
  | deliver {callback : Callback Obj} {rest : List (Callback Obj)} (hcancelling : ¬ w.cancelling = true)
    (hq : w.mainQueue = callback :: rest) (hblock : (w.alive && w.self.responseBlock) = true) :
    Took F w .deliver { w with
      self := { w.self with responseBlock := false }
      mainQueue := rest, invoked := w.invoked ++ [callback] }
  | deliverNil {callback : Callback Obj} {rest : List (Callback Obj)} (hcancelling : ¬ w.cancelling = true)
    (hq : w.mainQueue = callback :: rest) (hnil : ¬ (w.alive && w.self.responseBlock) = true) :
    Took F w .deliver { w with crash := some .nilBlock }

theorem step_took (h : step F w label = some w') : Took F w label w' := by
  simp only [step, Option.ite_none_right_eq_some] at h
  replace h := h.2
  cases label <;> simp only [live, Option.ite_none_right_eq_some, Option.ite_none_left_eq_some,
    Option.some.injEq] at h
  case response => obtain ⟨⟨hcaller, hn⟩, rfl⟩ := h; exact .response hcaller hn
  case drop => obtain ⟨⟨hcaller, hn⟩, rfl⟩ := h; exact .drop hcaller hn
  case config =>
    obtain ⟨hn, h⟩ := h
    split at h <;> obtain rfl := Option.some.inj h
    next self hconfig => exact .config hn hconfig
    next e hconfig => exact .configRaises hn hconfig
  case createTask => obtain ⟨hn, rfl⟩ := h; exact .createTask hn
  case checkCancel => obtain ⟨hn, rfl⟩ := h; exact .checkCancel hn
  case resume => obtain ⟨hn, rfl⟩ := h; exact .resume hn
  case endBlock => obtain ⟨hn, rfl⟩ := h; exact .endBlock hn
  case finish outcome =>
    split at h
    next request htask => obtain rfl := Option.some.inj h; exact .finish htask
    next => cases h
  case callHandler =>
    obtain ⟨hheld, h⟩ := h
    split at h
    next request outcome htask => obtain rfl := Option.some.inj h; exact .callHandler hheld htask
    next => cases h
  case releaseHandler => obtain ⟨hcalled, rfl⟩ := h; exact .releaseHandler hcalled
  case cancel => obtain ⟨⟨halive, hcancelling⟩, rfl⟩ := h; exact .cancel halive hcancelling
  case cancelTask => obtain ⟨hcancelling, rfl⟩ := h; exact .cancelTask hcancelling
  case deliver =>
    obtain ⟨hcancelling, h⟩ := h
    split at h
    next => cases h
    next callback rest hq =>
      split at h <;> obtain rfl := Option.some.inj h
      next hblock => exact .deliver hcancelling hq hblock
      next hnil => exact .deliverNil hcancelling hq hnil

theorem Ordered.hasTask (hw : Ordered F b w) {task : Task Data Resp URL} (h : w.sessionTask = some task) :
    w.network.early = false := by
  cases he : w.network.early with
  | false => rfl
  | true => rw [(hw.early he).1] at h; cases h

theorem Ordered.setTask (hw : Ordered F b w) {change : Task Data Resp URL → Task Data Resp URL}
    (hdone : ∀ request outcome, change { request, state := .finished outcome } =
      { request, state := .finished outcome }) :
    Ordered F b { w with sessionTask := w.sessionTask.map change } :=
  { hw with
    early := fun he => ⟨by simp [(hw.early he).1], (hw.early he).2⟩
    late := fun he => ⟨by simpa using (hw.late he).1, (hw.late he).2⟩
    ran := fun hh => by
      obtain ⟨request, outcome, htask, hqueue⟩ := hw.ran hh
      exact ⟨request, outcome, by simp [htask, hdone], hqueue⟩ }

theorem cancel_finished (request : Option (NSMutableURLRequest Data URL)) (outcome : Outcome Data Resp) :
    Task.cancel { request, state := .finished outcome } = { request, state := .finished outcome } := rfl

theorem resume_finished (request : Option (NSMutableURLRequest Data URL)) (outcome : Outcome Data Resp) :
    Task.resume { request, state := .finished outcome } = { request, state := .finished outcome } := rfl

theorem Ordered.handler_ran (hw : Ordered F b w) {callback : Callback Obj}
    (h : callback ∈ w.mainQueue ++ w.invoked) : w.handler = .called ∨ w.handler = .released := by
  cases hh : w.handler with
  | called => exact .inl rfl
  | released => exact .inr rfl
  | none => simp [hw.quiet (.inl hh)] at h
  | held => simp [hw.quiet (.inr hh)] at h

/-- A callback is queued by the completion handler, for an outcome that was not dropped. -/
theorem Ordered.queued (hw : Ordered F b w) {callback : Callback Obj} {rest : List (Callback Obj)}
    (h : w.mainQueue = callback :: rest) : ∃ request outcome,
      w.sessionTask = some { request, state := .finished outcome } ∧ suppressed F b outcome = false ∧
      callback = passedOn F outcome ∧ rest = [] ∧ w.invoked = [] := by
  have hhandler := hw.handler_ran (show callback ∈ w.mainQueue ++ w.invoked by simp [h])
  obtain ⟨request, outcome, htask, hqueue⟩ := hw.ran hhandler
  rw [h] at hqueue
  cases hs : suppressed F b outcome with
  | true => simp [hs] at hqueue
  | false =>
    simp only [hs, List.cons_append, Bool.false_eq_true, if_false, List.cons.injEq, List.append_eq_nil_iff]
      at hqueue
    exact ⟨request, outcome, htask, hs, hqueue.1, hqueue.2.1, hqueue.2.2⟩

/-- And its block is there: it is taken away with the invocation only. -/
theorem Ordered.queued_block (hw : Ordered F b w) {callback : Callback Obj} {rest : List (Callback Obj)}
    (h : w.mainQueue = callback :: rest) : w.self.responseBlock = true := by
  obtain ⟨_, _, htask, -, -, -, hinvoked⟩ := hw.queued h
  exact hw.block (Stage.ne_idle (hw.hasTask htask)) hinvoked

theorem Ordered.step (hw : Ordered F b w) (h : step F w label = some w') : Ordered F b w' := by
  cases step_took h with
  | response _ hn =>
    have hearly := hw.early (by rw [hn]; rfl)
    exact { hw with early := fun _ => hearly, late := nofun, block := fun _ _ => rfl }
  | drop | configRaises | deliverNil => exact { hw with }
  | config hn hconfig =>
    have hearly := hw.early (by rw [hn]; rfl)
    have hconf := configBeforeRequest_ok hconfig
    exact { hw with
      flag := hconf.callbackWhenCancelled.trans hw.flag
      early := fun _ => hearly
      late := nofun
      block := fun _ hi => hconf.responseBlock.trans (hw.block (by simp [hn]) hi)
      cancelling := fun hc => hconf.shouldCancel.trans (hw.cancelling hc) }
  | createTask hn =>
    have hquiet := hw.quiet (.inl (hw.early (by rw [hn]; rfl)).2)
    exact { hw with
      early := nofun
      late := fun _ => ⟨nofun, nofun⟩
      quiet := fun _ => hquiet
      ran := fun h => by rcases h with h | h <;> cases h
      block := fun _ => hw.block (by simp [hn]) }
  | checkCancel hn =>
    have hset := hw.setTask cancel_finished
    have hlate := hw.late (by rw [hn]; rfl)
    split
    · exact { hset with
        early := nofun
        late := fun _ => hset.late (by rw [hn]; rfl)
        block := fun _ => hw.block (by simp [hn]) }
    · exact { hw with early := nofun, late := fun _ => hlate, block := fun _ => hw.block (by simp [hn]) }
  | resume hn =>
    have hset := hw.setTask resume_finished
    exact { hset with
      early := nofun
      late := fun _ => hset.late (by rw [hn]; rfl)
      block := fun _ => hw.block (by simp [hn]) }
  | endBlock hn =>
    have hlate := hw.late (by rw [hn]; rfl)
    exact { hw with early := nofun, late := fun _ => hlate, block := fun _ => hw.block (by simp [hn]) }
  | finish htask =>
    have hlate := hw.hasTask htask
    exact { hw with
      early := fun he => by rw [hlate] at he; cases he
      late := fun _ => ⟨nofun, (hw.late hlate).2⟩
      ran := fun hh => by
        obtain ⟨_, _, hfinished, -⟩ := hw.ran hh
        rw [htask] at hfinished
        cases hfinished }
  | @callHandler request outcome hheld htask =>
    have hlate := hw.hasTask htask
    have hquiet := hw.quiet (.inr hheld)
    have hblock := hw.block (Stage.ne_idle hlate) hquiet.2
    exact { hw with
      early := fun he => by rw [hlate] at he; cases he
      late := fun _ => ⟨(hw.late hlate).1, nofun⟩
      quiet := fun h => by rcases h with h | h <;> cases h
      ran := fun _ => by
        refine ⟨request, outcome, htask, ?_⟩
        rw [hquiet.1, hquiet.2, respond_eq, hw.flag, hblock]
        cases suppressed F b outcome <;> rfl }
  | releaseHandler hcalled =>
    exact { hw with
      early := fun he => by rw [(hw.early he).2] at hcalled; cases hcalled
      late := fun he => ⟨(hw.late he).1, nofun⟩
      quiet := fun h => by rcases h with h | h <;> cases h
      ran := fun _ => hw.ran (.inl hcalled) }
  | cancel => exact { hw with cancelling := fun _ => rfl }
  | cancelTask => exact { hw.setTask cancel_finished with cancelling := nofun }
  | deliver _ hq =>
    obtain ⟨request, outcome, htask, hs, hcb, hrest, hinvoked⟩ := hw.queued hq
    exact { hw with
      quiet := fun hh => by rw [(hw.quiet hh).1] at hq; cases hq
      ran := fun _ => ⟨request, outcome, htask, by simp [hrest, hinvoked, hs, hcb]⟩
      block := fun _ hi => by simp at hi }

theorem Ordered.run {calls : List (Call Obj)} {labels : List (Label Data Resp)}
    (h : run (NetworkRequest.step F) (NetworkRequest.start calls) labels = some w) :
    Ordered F (build calls : NetworkRequest Data Obj URL).callbackWhenCancelled w :=
  run_invariant (fun _ _ _ hw hs => hw.step hs) (Ordered.start calls) h

theorem deliver_invokes (hw : Ordered F b w) (hc : w.crash = none) (hcancelling : w.cancelling = false)
    (hcaller : w.caller = true) {callback : Callback Obj} {rest : List (Callback Obj)}
    (hq : w.mainQueue = callback :: rest) : ∃ w', step F w .deliver = some w' ∧
      w'.invoked = w.invoked ++ [callback] ∧ w'.sessionTask = w.sessionTask := by
  have halive : w.alive = true := by simp [World.alive, hcaller]
  refine ⟨{ w with
    self := { w.self with responseBlock := false }
    mainQueue := rest, invoked := w.invoked ++ [callback] }, ?_, rfl, rfl⟩
  simp only [step, live, if_pos hc, hq]
  rw [if_neg (by simp [hcancelling]), if_pos (by rw [halive, hw.queued_block hq]; rfl)]

theorem handler_invokes (hw : Ordered F b w) (hc : w.crash = none) (hcancelling : w.cancelling = false)
    (hcaller : w.caller = true) (hheld : w.handler = .held) {request : Option (NSMutableURLRequest Data URL)}
    (htask : w.sessionTask = some { request, state := .finished outcome })
    (hsup : suppressed F b outcome = false) : ∃ w', run (step F) w [.callHandler, .deliver] = some w' ∧
      w'.invoked = w.invoked ++ [passedOn F outcome] ∧ w'.sessionTask = w.sessionTask := by
  have hquiet := hw.quiet (.inr hheld)
  have hblock := hw.block (Stage.ne_idle (hw.hasTask htask)) hquiet.2
  have hhandler : step F w .callHandler =
      some { w with handler := .called, mainQueue := [passedOn F outcome] } := by
    simp [step, live, hc, hheld, htask, respond_eq, hw.flag, hsup, hblock, hquiet.1]
  obtain ⟨w', hdeliver, hinvoked, hsame⟩ := deliver_invokes (hw.step hhandler) hc hcancelling hcaller rfl
  exact ⟨w', run_cons.mpr ⟨_, hhandler, run_cons.mpr ⟨w', hdeliver, rfl⟩⟩, hinvoked, hsame⟩

/-! ## Exactly one delivery -/

/-- `NSJSONSerialization` has error codes of its own. -/
def ParserCodes (F : Foundation Data Obj URL) : Prop :=
  ∀ data e, F.JSONObjectWithData data = .error e → e.code ≠ NSURLErrorCancelled

/-- A step of a run in which the task is not cancelled. -/
def Label.uncancelled : Label Data Resp → Prop
  | .cancel => False
  | .finish outcome => isCancelled outcome.error = false
  | _ => True

/-- When the main queue comes to the block, a strong reference is left. -/
def HeldAtDelivery (w : World Data Resp Obj URL) : Label Data Resp → Prop
  | .deliver => w.alive = true
  | _ => True

/-- No `nil` block was invoked and the response block at most once; once when
the completion handler has run and nothing waits on the main queue. -/
structure ExactlyOnce (w : World Data Resp Obj URL) : Prop where
  noNil : w.crash ≠ some .nilBlock
  atMost : w.invoked.length ≤ 1
  delivered : w.handler = .called ∨ w.handler = .released → w.mainQueue = [] → w.invoked.length = 1

theorem suppressed_uncancelled (hF : ParserCodes F) (h : isCancelled outcome.error = false) :
    suppressed F b outcome = false := by
  obtain ⟨data, response, error⟩ := outcome
  have hcode : isCancelled (taskCompletion F { data, response, error }).2.2 = false := by
    cases error with
    | some e => exact h
    | none =>
      cases data with
      | none => rfl
      | some data =>
        cases hj : F.JSONObjectWithData data with
        | ok v => simp [taskCompletion, hj, isCancelled]
        | error e => simpa [taskCompletion, hj, isCancelled] using hF data e hj
  simp [suppressed, hcode]

/-- The state of a task nobody cancels. -/
structure Undisturbed (w : World Data Resp Obj URL) : Prop where
  shouldCancel : w.self.shouldCancel = false
  cancelling : w.cancelling = false
  outcome : ∀ request outcome, w.sessionTask = some { request, state := .finished outcome } →
    isCancelled outcome.error = false

theorem Undisturbed.start (calls : List (Call Obj)) :
    Undisturbed (start calls : World Data Resp Obj URL) where
  shouldCancel := (build_keeps calls).2
  cancelling := rfl
  outcome _ _ h := by cases h

theorem Undisturbed.step (hu : Undisturbed w) (hl : label.uncancelled) (h : step F w label = some w') :
    Undisturbed w' := by
  cases step_took h with
  | response | drop | configRaises | endBlock | callHandler | releaseHandler | deliver | deliverNil =>
    exact { hu with }
  | config _ hconfig =>
    exact { hu with shouldCancel := (configBeforeRequest_ok hconfig).shouldCancel.trans hu.shouldCancel }
  | createTask => exact { hu with outcome := fun _ _ h => by simp at h }
  | checkCancel => exact { hu with outcome := by simpa [hu.shouldCancel] using hu.outcome }
  | resume =>
    refine { hu with outcome := fun request outcome h => ?_ }
    obtain ⟨⟨request', state⟩, htask, hr⟩ := Option.map_eq_some_iff.mp h
    cases state with
    | suspended => cases hr
    | running => cases hr
    | finished outcome' =>
      obtain ⟨-, rfl⟩ : request' = request ∧ outcome' = outcome := by simpa [Task.resume] using hr
      exact hu.outcome _ _ htask
  | @finish request outcome =>
    refine { hu with outcome := fun request' outcome' h => ?_ }
    obtain ⟨-, heq⟩ : request = request' ∧ outcome = outcome' := by simpa using h
    exact heq ▸ hl
  | cancel => cases hl
  | cancelTask hc =>
    rw [hu.cancelling] at hc
    cases hc

/-- The only step that can invoke a `nil` block is a delivery nobody waits for. -/
theorem step_noNil (hw : Ordered F b w) (hn : w.crash ≠ some .nilBlock) (hg : HeldAtDelivery w label)
    (h : step F w label = some w') : w'.crash ≠ some .nilBlock := by
  cases step_took h with
  | configRaises => simp
  | deliverNil _ hq hnil =>
    have hg : w.alive = true := hg
    exact absurd (by rw [hg, hw.queued_block hq]; rfl) hnil
  | _ => exact hn

theorem step_nil (hg : ¬ HeldAtDelivery w label) (h : step F w label = some w') :
    w'.crash = some .nilBlock := by
  cases step_took h with
  | deliver _ _ hblock => exact absurd (Bool.and_eq_true_iff.mp hblock).1 hg
  | deliverNil => rfl
  | _ => exact absurd trivial hg

theorem Ordered.exactlyOnce (hF : ParserCodes F) (hw : Ordered F b w) (hu : Undisturbed w)
    (hn : w.crash ≠ some .nilBlock) : ExactlyOnce w where
  noNil := hn
  atMost := by
    cases hh : w.handler with
    | none => simp [(hw.quiet (.inl hh)).2]
    | held => simp [(hw.quiet (.inr hh)).2]
    | called | released =>
      obtain ⟨request, outcome, -, hqueue⟩ := hw.ran (by simp [hh])
      have hlen := congrArg List.length hqueue
      have hone : (if suppressed F b outcome then [] else [passedOn F outcome]).length ≤ 1 := by
        split <;> simp
      rw [List.length_append] at hlen
      omega
  delivered := by
    intro hh hq
    obtain ⟨request, outcome, htask, hqueue⟩ := hw.ran hh
    rw [suppressed_uncancelled hF (hu.outcome _ _ htask), hq] at hqueue
    simp at hqueue
    simp [hqueue]

/-- **Exactly once.** In a run that cancels nothing the response block is
invoked once and no `nil` block ever, exactly when each delivery on the main
queue still finds the request held by somebody. -/
theorem delivered_once_iff (hF : ParserCodes F) (calls : List (Call Obj)) (labels : List (Label Data Resp))
    (w : World Data Resp Obj URL) (hrun : run (step F) (start calls) labels = some w)
    (hcalm : ∀ label ∈ labels, label.uncancelled) :
    ExactlyOnce w ↔ Meets (step F) HeldAtDelivery (start calls) labels := by
  constructor
  · intro h
    refine meets_of_not_stuck (fun _ _ _ => step_nil) (fun w label hstuck => ?_) hrun h.noNil
    simp [step, hstuck]
  · intro hmeets
    have hw : Ordered F _ w := Ordered.run hrun
    have hcalm : Meets (step F) (fun _ label => label.uncancelled)
        (start calls : World Data Resp Obj URL) labels := meets_of_forall fun _ => hcalm
    have hu : Undisturbed w :=
      run_guarded (fun _ _ _ hu hl hs => hu.step hl hs) (Undisturbed.start calls) hcalm hrun
    have hn := run_guarded
      (fun w a w' (hi : Ordered F (build calls : NetworkRequest Data Obj URL).callbackWhenCancelled w ∧
          w.crash ≠ some .nilBlock) hg hs => (⟨hi.1.step hs, step_noNil hi.1 hi.2 hg hs⟩ : _ ∧ _))
      ⟨Ordered.start calls, by simp [start]⟩ hmeets hrun
    exact hw.exactlyOnce hF hu hn.2

/-! ## A run that loses the request -/

/-- Answers for runs on fixed inputs: the one JSON text is that of the empty array. -/
def emptyArrays : Foundation String String String where
  JSONObjectWithData data :=
    if data = "[]" then .ok "()"
    else .error { domain := "NSCocoaErrorDomain", code := 3840, userInfo := [] }
  dataWithJSONObject object := if object = "()" then .ok (.ok "[]") else .error .invalidArgument
  enumerateKeysAndObjects _ := []
  description object := object
  stringByAppendingPathComponent path component := path ++ "/" ++ component
  stringByAddingPercentEscapes s := some s
  URLWithString s := some s
  bundleIdentifier := some "demo"
  bundleVersion := some "1"
  idfa := "00000000-0000-0000-0000-000000000000"
  timeIntervalSince1970 := "0"
  iphoneType := some "x86_64"

theorem parserCodes_emptyArrays : ParserCodes emptyArrays := by
  intro data e h
  simp only [emptyArrays] at h
  split at h
  · cases h
  · obtain rfl := Except.error.inj h
    decide

/-- `[NetWorkRequest() URL:...].POST`, of a whole URL. -/
def posted : List (Call String) := [.URL (some "http://a"), .POST]

/-- The server answers with the empty array. -/
def answer : Outcome String Unit := { data := some "[]", response := some (), error := none }

/-- The request sent and answered, up to the handler's turn. -/
def sendAndAnswer : List (Label String Unit) :=
  [.response, .config, .createTask, .checkCancel, .resume, .endBlock, .finish answer]

/-- The caller lets go once the block was invoked. -/
theorem delivered_once_held : ∃ w : World String Unit String String,
    run (step emptyArrays) (start posted) (sendAndAnswer ++ [.callHandler, .deliver, .drop]) = some w ∧
      ExactlyOnce w := by
  have hcalm : ∀ label ∈ sendAndAnswer ++ [.callHandler, .deliver, .drop], label.uncancelled := by
    simp [sendAndAnswer, Label.uncancelled, answer, isCancelled]
  refine ⟨_, rfl, (delivered_once_iff parserCodes_emptyArrays posted _ _ rfl hcalm).mpr ?_⟩
  iterate 7 refine meets_cons trivial rfl ?_
  exact meets_cons trivial rfl (meets_cons rfl rfl (meets_cons trivial rfl trivial))

/-- The caller lets go, the session releases its handler, and only then the
main queue comes to the block. -/
theorem delivered_to_nobody : ¬ ∀ (F : Foundation String String String) (calls : List (Call String))
    (labels : List (Label String Unit)) (w : World String Unit String String), ParserCodes F →
    run (step F) (start calls) labels = some w → (∀ label ∈ labels, label.uncancelled) →
    ExactlyOnce w := by
  intro h
  have honce := h emptyArrays posted (sendAndAnswer ++ [.drop, .callHandler, .releaseHandler, .deliver]) _
    parserCodes_emptyArrays rfl (by simp [sendAndAnswer, Label.uncancelled, answer, isCancelled])
  exact honce.noNil rfl

end LearningDemo.NetworkRequest
