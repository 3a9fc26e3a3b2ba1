/-
What `_configBeforeRequest` makes of a request: a `urlRequest` of its own,
with the method and without a body.
-/
import LearningDemo.NetworkRequest
import LearningDemo.Lib.Imperative

namespace LearningDemo.NetworkRequest

open Imperative

variable {Data Obj URL : Type} {F : Foundation Data Obj URL} {old new : NetworkRequest Data Obj URL}

/-! ## The URL request -/

theorem setValue_keeps (headers : List (String × String)) (request : NSMutableURLRequest Data URL) :
    (headers.foldl NSMutableURLRequest.setValue request).HTTPMethod = request.HTTPMethod ∧
      (headers.foldl NSMutableURLRequest.setValue request).HTTPBody = request.HTTPBody := by
  induction headers generalizing request with
  | nil => exact ⟨rfl, rfl⟩
  | cons header headers ih => exact ih (request.setValue header)

/-- The getter touches the string it keeps only. -/
theorem getUrlString_keeps (F : Foundation Data Obj URL) (old : NetworkRequest Data Obj URL) :
    ∃ urlString, (old.getUrlString F).1 = { old with urlString } := by
  unfold getUrlString
  split
  · exact ⟨old.urlString, rfl⟩
  · split
    · exact ⟨old.urlString, rfl⟩
    · split
      · exact ⟨old.urlString, rfl⟩
      · exact ⟨_, rfl⟩

/-- What a configuration leaves of a request. -/
structure Configured (old new : NetworkRequest Data Obj URL) : Prop where
  requestType : new.requestType = old.requestType
  httpMethod : new.httpMethod = old.httpMethod
  responseBlock : new.responseBlock = old.responseBlock
  shouldCancel : new.shouldCancel = old.shouldCancel
  callbackWhenCancelled : new.callbackWhenCancelled = old.callbackWhenCancelled

theorem Configured.refl (old : NetworkRequest Data Obj URL) : Configured old old := ⟨rfl, rfl, rfl, rfl, rfl⟩

theorem Configured.trans {mid : NetworkRequest Data Obj URL} (h : Configured old mid)
    (h' : Configured mid new) : Configured old new where
  requestType := h'.requestType.trans h.requestType
  httpMethod := h'.httpMethod.trans h.httpMethod
  responseBlock := h'.responseBlock.trans h.responseBlock
  shouldCancel := h'.shouldCancel.trans h.shouldCancel
  callbackWhenCancelled := h'.callbackWhenCancelled.trans h.callbackWhenCancelled

theorem getUrlString_configured (F : Foundation Data Obj URL) (old : NetworkRequest Data Obj URL) :
    Configured old (old.getUrlString F).1 := by
  obtain ⟨urlString, h⟩ := getUrlString_keeps F old
  rw [h]
  exact ⟨rfl, rfl, rfl, rfl, rfl⟩

theorem addParameters_configured {requestUrl : Option String} {r : NetworkRequest Data Obj URL × Option String}
    (h : addParameters F old requestUrl = .ok r) : Configured old r.1 := by
  unfold addParameters at h
  split at h
  · obtain ⟨requestParams, -, h⟩ := bind_ok.mp h
    obtain rfl := Except.ok.inj h
    exact getUrlString_configured F old
  · split at h
    · obtain rfl := Except.ok.inj h
      exact .refl old
    · obtain ⟨serialized, -, h⟩ := bind_ok.mp h
      split at h
      · obtain rfl := Except.ok.inj h
        exact ⟨rfl, rfl, rfl, rfl, rfl⟩
      · obtain rfl := Except.ok.inj h
        exact .refl old

/-- **The JSON configuration** ends with a new request: the body was put into
the one before. -/
theorem jsonRequestConfig_ok (h : jsonRequestConfig F old = .ok new) :
    Configured old new ∧ ∃ request, new.urlRequest = some request ∧
      request.HTTPMethod = old.httpMethod ∧ request.HTTPBody = none := by
  unfold jsonRequestConfig at h
  obtain ⟨⟨mid, requestUrl⟩, hmid, h⟩ := bind_ok.mp h
  have hconf := (getUrlString_configured F old).trans (addParameters_configured hmid)
  cases requestUrl with
  | none => cases h
  | some requestUrl =>
    obtain rfl := Except.ok.inj h
    have hkeeps := setValue_keeps (commonParams F) (
      { url := F.URLWithString requestUrl, HTTPMethod := mid.httpMethod, HTTPShouldUsePipelining := true } :
        NSMutableURLRequest Data URL)
    refine ⟨hconf.trans ⟨rfl, rfl, rfl, rfl, rfl⟩, _, rfl, ?_, hkeeps.2⟩
    exact hkeeps.1.trans hconf.httpMethod

theorem configBeforeRequest_ok (h : configBeforeRequest F old = .ok new) : Configured old new := by
  unfold configBeforeRequest at h
  split at h
  · exact (jsonRequestConfig_ok h).1
  all_goals
    obtain rfl := Except.ok.inj h
    exact .refl old

/-! ## The chain of calls -/

/-- No call of the chain reaches what `response` and the queues work with. -/
theorem build_keeps (calls : List (Call Obj)) :
    (build calls : NetworkRequest Data Obj URL).urlRequest = none ∧
      (build calls : NetworkRequest Data Obj URL).shouldCancel = false := by
  have h : ∀ old : NetworkRequest Data Obj URL, old.urlRequest = none ∧ old.shouldCancel = false →
      (calls.foldl call old).urlRequest = none ∧ (calls.foldl call old).shouldCancel = false := by
    induction calls with
    | nil => exact fun _ h => h
    | cons c calls ih =>
      intro old hself
      refine ih (call old c) ?_
      cases c <;> simp only [call] <;> (repeat' split) <;> exact hself
  exact h {} ⟨rfl, rfl⟩

/-- The calls a POST with parameters is made of. -/
def Call.plain : Call Obj → Bool
  | .POST | .URL _ | .params _ => true
  | _ => false

theorem call_post {c : Call Obj} (hc : c.plain = true) (old : NetworkRequest Data Obj URL)
    (h : old.requestType = .JSON ∧ old.httpMethod = some "POST") :
    (call old c).requestType = .JSON ∧ (call old c).httpMethod = some "POST" := by
  cases c <;> simp only [Call.plain, Bool.false_eq_true] at hc <;> simp only [call]
  case POST => exact ⟨trivial, trivial⟩
  case URL => split <;> (try split) <;> exact h
  case params => split <;> exact h

theorem foldl_call_post {calls : List (Call Obj)} (hplain : ∀ c ∈ calls, c.plain = true)
    (old : NetworkRequest Data Obj URL) (h : old.requestType = .JSON ∧ old.httpMethod = some "POST") :
    (calls.foldl call old).requestType = .JSON ∧ (calls.foldl call old).httpMethod = some "POST" := by
  induction calls generalizing old with
  | nil => exact h
  | cons c calls ih =>
    exact ih (fun c' hc' => hplain c' (by simp [hc'])) _ (call_post (hplain c (by simp)) old h)

/-- Wherever POST stands among them, it is a POST that is built. -/
theorem build_post {calls : List (Call Obj)} (hplain : ∀ c ∈ calls, c.plain = true) (hpost : .POST ∈ calls) :
    (build calls : NetworkRequest Data Obj URL).requestType = .JSON ∧
      (build calls : NetworkRequest Data Obj URL).httpMethod = some "POST" := by
  obtain ⟨front, rest, rfl⟩ := List.append_of_mem hpost
  unfold build
  rw [List.foldl_append, List.foldl_cons]
  exact foldl_call_post (fun c hc => hplain c (by simp [hc])) _ ⟨rfl, rfl⟩

end LearningDemo.NetworkRequest
