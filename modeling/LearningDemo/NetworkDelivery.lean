/-
A request on its way: the caller, the serial network queue, the session and
the main queue, each taking its steps when it likes.

What keeps the request alive is read off the state (`World.alive`): the
caller's reference, the block on the network queue, the completion handler
the session holds, and a `cancel` on its way. The block on the main queue
captured it weakly, so it is not among them.
-/
import LearningDemo.Lib.Lts
import LearningDemo.NetworkRequest

namespace LearningDemo.NetworkRequest

variable {Data Obj URL Resp : Type}

/-- How far the block of `request` has come on the network queue. -/
inductive Stage where
  | idle
  | queued
  | configured
  /-- `_sessionTask` is assigned, `setSessionTask:` has yet to look at `shouldCancel`. -/
  | assigned
  | checked
  | resumed
  | done
  deriving DecidableEq, Repr

/-- Whether the session still has the data task's completion handler. -/
inductive Handler where
  | none
  | held
  | called
  | released
  deriving DecidableEq, Repr

inductive TaskState (Data Resp : Type) where
  | suspended
  | running
  | finished (outcome : Outcome Data Resp)

/-- An `NSURLSessionTask`, with the request it was made for. -/
structure Task (Data Resp URL : Type) where
  request : Option (NSMutableURLRequest Data URL)
  state : TaskState Data Resp

inductive Crash where
  | exception (e : NSException)
  /-- A block that is `nil` was invoked. -/
  | nilBlock
  deriving DecidableEq, Repr

structure World (Data Resp Obj URL : Type) where
  self : NetworkRequest Data Obj URL
  /-- The caller has kept its reference. -/
  caller : Bool := true
  network : Stage := .idle
  sessionTask : Option (Task Data Resp URL) := .none
  handler : Handler := .none
  /-- The main thread is in `cancel`, between its two statements. -/
  cancelling : Bool := false
  mainQueue : List (Callback Obj) := []
  /-- What the response block was invoked with. -/
  invoked : List (Callback Obj) := []
  crash : Option Crash := .none

/-- A request that was built but not sent. -/
def start (calls : List (Call Obj)) : World Data Resp Obj URL := { self := build calls }

/-- A strong reference to the request is left. -/
def World.alive (w : World Data Resp Obj URL) : Bool :=
  w.caller || !(w.network == .idle || w.network == .done) || w.handler == .held || w.handler == .called ||
    w.cancelling

/-- What a cancelled task ends with. -/
def cancelledOutcome : Outcome Data Resp :=
  { data := none, response := none
    error := some { domain := "NSURLErrorDomain", code := NSURLErrorCancelled, userInfo := [] } }

/-- `[task cancel]`: without effect on a task that has finished. -/
def Task.cancel (task : Task Data Resp URL) : Task Data Resp URL :=
  match task.state with
  | .suspended | .running => { task with state := .finished cancelledOutcome }
  | .finished _ => task

/-- `[task resume]`. -/
def Task.resume (task : Task Data Resp URL) : Task Data Resp URL :=
  match task.state with
  | .suspended => { task with state := .running }
  | .running | .finished _ => task

inductive Label (Data Resp : Type) where
  /-- The caller calls `response(block)`, with a block. -/
  | response
  /-- The caller lets go of what `response` returned. -/
  | drop
  /-- The block of `request`: `_configBeforeRequest`. -/
  | config
  /-- The same: the data task is made and `_sessionTask` assigned. -/
  | createTask
  /-- The same: the rest of `setSessionTask:`. -/
  | checkCancel
  /-- The same: `[self.sessionTask resume]`. -/
  | resume
  /-- The same: the block returns and is released. -/
  | endBlock
  /-- The running task finishes. -/
  | finish (outcome : Outcome Data Resp)
  /-- The session calls the completion handler of the finished task. -/
  | callHandler
  /-- The session releases the completion handler. -/
  | releaseHandler
  /-- `cancel` on the main queue: `self.shouldCancel = YES`. -/
  | cancel
  /-- The same: the rest of `cancel`, which returns. -/
  | cancelTask
  /-- The main queue runs its first block. -/
  | deliver

/-- The block the completion handler dispatches for an outcome, if any. -/
def respond (F : Foundation Data Obj URL) (self : NetworkRequest Data Obj URL) (outcome : Outcome Data Resp) :
    Option (Callback Obj) :=
  let (responseObject, response, error) := taskCompletion F outcome
  self.handleAfterRequestCompletion responseObject response error

/-- One step of a program that has not crashed, when it can be taken. -/
def live (F : Foundation Data Obj URL) (w : World Data Resp Obj URL) (label : Label Data Resp) :
    Option (World Data Resp Obj URL) :=
  match label with
  | .response =>
    if w.caller = true ∧ w.network = .idle then
      some { w with self := { w.self with responseBlock := true }, network := .queued }
    else none
  | .drop => if w.caller = true ∧ w.network ≠ .idle then some { w with caller := false } else none
  | .config =>
    if w.network = .queued then
      match configBeforeRequest F w.self with
      | .ok self => some { w with self, network := .configured }
      | .error e => some { w with crash := some (.exception e) }
    else none
  | .createTask =>
    if w.network = .configured then
      some { w with
        sessionTask := some { request := w.self.urlRequest, state := .suspended }
        handler := .held, network := .assigned }
    else none
  | .checkCancel =>
    if w.network = .assigned then
      some { w with
        sessionTask := if w.self.shouldCancel then w.sessionTask.map Task.cancel else w.sessionTask
        network := .checked }
    else none
  | .resume =>
    if w.network = .checked then
      some { w with sessionTask := w.sessionTask.map Task.resume, network := .resumed }
    else none
  | .endBlock => if w.network = .resumed then some { w with network := .done } else none
  | .finish outcome =>
    match w.sessionTask with
    | some { request, state := .running } =>
      some { w with sessionTask := some { request, state := .finished outcome } }
    | _ => none
  | .callHandler =>
    if w.handler = .held then
      match w.sessionTask with
      | some { state := .finished outcome, .. } =>
        some { w with handler := .called, mainQueue := w.mainQueue ++ (respond F w.self outcome).toList }
      | _ => none
    else none
  | .releaseHandler => if w.handler = .called then some { w with handler := .released } else none
  | .cancel =>
    if w.alive = true ∧ w.cancelling = false then
      some { w with self := { w.self with shouldCancel := true }, cancelling := true }
    else none
  | .cancelTask =>
    if w.cancelling = true then
      some { w with sessionTask := w.sessionTask.map Task.cancel, cancelling := false }
    else none
  | .deliver =>
    if w.cancelling = true then none
    else match w.mainQueue with
    | [] => none
    | callback :: mainQueue =>
      -- the weak reference reads `nil` when nobody is left, and so does `responseBlock` of it
      if w.alive && w.self.responseBlock then
        some { w with
          self := { w.self with responseBlock := false }
          mainQueue, invoked := w.invoked ++ [callback] }
      else some { w with crash := some .nilBlock }

/-- One step. Nothing runs after a crash. -/
def step (F : Foundation Data Obj URL) (w : World Data Resp Obj URL) (label : Label Data Resp) :
    Option (World Data Resp Obj URL) :=
  if w.crash = none then live F w label else none

end LearningDemo.NetworkRequest
