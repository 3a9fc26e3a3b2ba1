/-
What the server gets of a POST: its URL and its header. The configuration
writes the body into the `urlRequest` it is about to replace, which is `nil`
in a request that was not sent before.
-/
import LearningDemo.NetworkDeliveryFacts

namespace LearningDemo.NetworkRequest

open Lts

variable {Data Obj URL Resp : Type} {F : Foundation Data Obj URL} {w w' : World Data Resp Obj URL}
  {label : Label Data Resp}

/-- In some interleaving the request handed to the session is a POST with the
JSON of `params` in its body. -/
def SendsParams (Resp : Type) (F : Foundation Data Obj URL) (calls : List (Call Obj)) (params : Obj) : Prop :=
  ∃ (labels : List (Label Data Resp)) (w : World Data Resp Obj URL) (task : Task Data Resp URL)
    (request : NSMutableURLRequest Data URL) (data : Data), run (step F) (start calls) labels = some w ∧
    w.sessionTask = some task ∧ task.request = some request ∧
    F.dataWithJSONObject params = .ok (.ok data) ∧ request.HTTPBody = some data ∧
    request.HTTPMethod = some "POST"

/-- A POST without a body. -/
def Bodiless (request : NSMutableURLRequest Data URL) : Prop :=
  request.HTTPMethod = some "POST" ∧ request.HTTPBody = none

structure Posting (w : World Data Resp Obj URL) : Prop where
  requestType : w.self.requestType = .JSON
  httpMethod : w.self.httpMethod = some "POST"
  made : ∀ request, w.self.urlRequest = some request → Bodiless request
  sent : ∀ task request, w.sessionTask = some task → task.request = some request → Bodiless request

theorem cancel_request (task : Task Data Resp URL) : task.cancel.request = task.request := by
  unfold Task.cancel
  split <;> rfl

theorem resume_request (task : Task Data Resp URL) : task.resume.request = task.request := by
  unfold Task.resume
  split <;> rfl

theorem Posting.setTask (hp : Posting w) {change : Task Data Resp URL → Task Data Resp URL}
    (hsame : ∀ task, (change task).request = task.request) :
    Posting { w with sessionTask := w.sessionTask.map change } :=
  { hp with
    sent := fun task request htask hrequest => by
      obtain ⟨task', htask', rfl⟩ := Option.map_eq_some_iff.mp htask
      exact hp.sent task' request htask' (by rwa [← hsame]) }

theorem Posting.start {calls : List (Call Obj)}
    (htype : (build calls : NetworkRequest Data Obj URL).requestType = .JSON)
    (hmethod : (build calls : NetworkRequest Data Obj URL).httpMethod = some "POST") :
    Posting (start calls : World Data Resp Obj URL) where
  requestType := htype
  httpMethod := hmethod
  made request h := by
    have hnone : (build calls : NetworkRequest Data Obj URL).urlRequest = none := (build_keeps calls).1
    have hmade : (build calls : NetworkRequest Data Obj URL).urlRequest = some request := h
    rw [hnone] at hmade
    cases hmade
  sent task request h := by
    have hnone : (none : Option (Task Data Resp URL)) = some task := h
    cases hnone

theorem Posting.step (hp : Posting w) (h : step F w label = some w') : Posting w' := by
  cases step_took h with
  | response | drop | configRaises | endBlock | callHandler | releaseHandler | cancel | deliver | deliverNil =>
    exact { hp with }
  | config _ hconfig =>
    unfold configBeforeRequest at hconfig
    rw [hp.requestType] at hconfig
    obtain ⟨hconf, request, hmade, hmethod, hbody⟩ := jsonRequestConfig_ok hconfig
    exact { hp with
      requestType := hconf.requestType.trans hp.requestType
      httpMethod := hconf.httpMethod.trans hp.httpMethod
      made := fun request' h => by
        obtain rfl := Option.some.inj (hmade.symm.trans h)
        exact ⟨hmethod.trans hp.httpMethod, hbody⟩ }
  | createTask =>
    exact { hp with
      sent := fun task request htask hrequest => by
        obtain rfl := Option.some.inj htask
        exact hp.made request hrequest }
  | checkCancel =>
    split
    · exact { hp.setTask cancel_request with }
    · exact { hp with }
  | resume => exact { hp.setTask resume_request with }
  | finish htask =>
    exact { hp with
      sent := fun task request' htask' hrequest => by
        obtain rfl := Option.some.inj htask'
        exact hp.sent _ request' htask hrequest }
  | cancelTask => exact { hp.setTask cancel_request with }

/-- In every interleaving, in whatever order the calls came. -/
theorem posting_run {urlString : String} {params : Obj} {calls : List (Call Obj)}
    (hperm : calls.Perm [.URL (some urlString), .params (some params), .POST])
    {labels : List (Label Data Resp)} (h : run (step F) (start calls) labels = some w) : Posting w := by
  have hplain : ∀ c ∈ calls, c.plain = true := by
    intro c hc
    have hmem := hperm.mem_iff.mp hc
    simp only [List.mem_cons, List.not_mem_nil, or_false] at hmem
    rcases hmem with rfl | rfl | rfl <;> rfl
  have hpost : (build calls : NetworkRequest Data Obj URL).requestType = .JSON ∧
      (build calls : NetworkRequest Data Obj URL).httpMethod = some "POST" :=
    build_post hplain (hperm.mem_iff.mpr (by simp))
  exact run_invariant (fun _ _ _ hp hs => hp.step hs) (Posting.start hpost.1 hpost.2) h

/-- **No parameters are sent.** Whatever the order of the calls, no
interleaving hands the session a request with the JSON of the parameters:
every request handed to it is a POST without a body. -/
theorem post_sends_no_body (F : Foundation Data Obj URL) (urlString : String) (params : Obj)
    (calls : List (Call Obj)) (hperm : calls.Perm [.URL (some urlString), .params (some params), .POST]) :
    ¬ SendsParams Resp F calls params ∧
      ∀ (labels : List (Label Data Resp)) (w : World Data Resp Obj URL) (task : Task Data Resp URL)
        (request : NSMutableURLRequest Data URL), run (step F) (start calls) labels = some w →
        w.sessionTask = some task → task.request = some request → Bodiless request := by
  constructor
  · intro hsends
    obtain ⟨labels, w, task, request, data, hrun, htask, hrequest, -, hbody, -⟩ := hsends
    have hnone := ((posting_run hperm hrun).sent task request htask hrequest).2
    rw [hbody] at hnone
    cases hnone
  · intro labels w task request hrun htask hrequest
    exact (posting_run hperm hrun).sent task request htask hrequest

/-- A chain as in `APIRequest`, with parameters JSON has a text for. -/
def postedEmpty : List (Call String) := [.URL (some "http://a/userinfo"), .POST, .params (some "()")]

theorem post_sends_no_body_empty : ¬ SendsParams Unit emptyArrays postedEmpty "()" ∧
    ∀ (labels : List (Label String Unit)) (w : World String Unit String String) (task : Task String Unit String)
      (request : NSMutableURLRequest String String), run (step emptyArrays) (start postedEmpty) labels = some w →
      w.sessionTask = some task → task.request = some request → Bodiless request :=
  post_sends_no_body emptyArrays "http://a/userinfo" "()" postedEmpty (by decide)

/-- The request does go out, without the text of its parameters. -/
theorem post_drops_params :
    (∃ (w : World String Unit String String) (task : Task String Unit String)
      (request : NSMutableURLRequest String String),
      run (step emptyArrays) (start postedEmpty) [.response, .config, .createTask] = some w ∧
      w.sessionTask = some task ∧ task.request = some request ∧ request.HTTPBody = none) ∧
    ¬ ∀ (F : Foundation String String String) (urlString params : String) (calls : List (Call String)),
      (∃ data, F.dataWithJSONObject params = .ok (.ok data)) →
      calls.Perm [.URL (some urlString), .params (some params), .POST] → SendsParams Unit F calls params := by
  have hperm : postedEmpty.Perm [.URL (some "http://a/userinfo"), .params (some "()"), .POST] := by decide
  constructor
  · obtain ⟨w, task, request, hrun, htask, hrequest⟩ : ∃ (w : World String Unit String String)
        (task : Task String Unit String) (request : NSMutableURLRequest String String),
        run (step emptyArrays) (start postedEmpty) [.response, .config, .createTask] = some w ∧
        w.sessionTask = some task ∧ task.request = some request := ⟨_, _, _, rfl, rfl, rfl⟩
    have hbodiless := (posting_run hperm hrun).sent task request htask hrequest
    exact ⟨w, task, request, hrun, htask, hrequest, hbodiless.2⟩
  · intro h
    obtain ⟨labels, w, task, request, data, hrun, htask, hrequest, -, hbody, -⟩ :=
      h emptyArrays "http://a/userinfo" "()" postedEmpty ⟨"[]", rfl⟩ hperm
    have hnone := ((posting_run hperm hrun).sent task request htask hrequest).2
    rw [hbody] at hnone
    cases hnone

end LearningDemo.NetworkRequest
