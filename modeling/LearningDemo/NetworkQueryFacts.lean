/-
The query string of a GET.

Every pair is followed by `&`. The call that would cut the last one off drops
its result, and its index, two before the end, is before the beginning when
there are no pairs (`query_ok`). So there is no dictionary for which it is
built as it should be (`query_never_wellFormed`).
-/
import LearningDemo.NetworkDeliveryFacts

namespace LearningDemo.NetworkRequest

variable {Data Obj URL : Type} {F : Foundation Data Obj URL} {params : Option Obj}

/-- The pairs of the dictionary, in the order they are enumerated; `nil` has none. -/
def paramPairs (F : Foundation Data Obj URL) : Option Obj → List (Obj × Obj)
  | none => []
  | some params => F.enumerateKeysAndObjects params

/-- `key=value`. -/
def pairText (F : Foundation Data Obj URL) (pair : Obj × Obj) : String :=
  F.description pair.1 ++ "=" ++ F.description pair.2

/-- The pairs with one `&` between any two of them. -/
def joined (F : Foundation Data Obj URL) (params : Option Obj) : String :=
  "&".intercalate ((paramPairs F params).map (pairText F))

/-- The query is built without an exception, a question mark and the pairs joined. -/
def WellFormed (F : Foundation Data Obj URL) (params : Option Obj) : Prop :=
  buildGetRequestUrlString F params = .ok ("?" ++ joined F params)

theorem length_append (s t : String) : length (s ++ t) = length s + length t := by
  simp [length]

theorem appended_eq {pairs : List (Obj × Obj)} (h : pairs ≠ []) (tempString : String) :
    pairs.foldl (fun tempString pair =>
      tempString ++ F.description pair.1 ++ "=" ++ F.description pair.2 ++ "&") tempString =
      tempString ++ "&".intercalate (pairs.map (pairText F)) ++ "&" := by
  induction pairs generalizing tempString with
  | nil => exact absurd rfl h
  | cons pair rest ih =>
    cases rest with
    | nil => simp [pairText, String.append_assoc]
    | cons pair' rest =>
      rw [List.foldl_cons, ih (by simp)]
      simp only [List.map_cons, String.intercalate_cons_cons, pairText, String.append_assoc]

/-- **What the method does**: it raises without pairs, and leaves a `&` behind
the last one otherwise. -/
theorem query_ok (F : Foundation Data Obj URL) (params : Option Obj) :
    buildGetRequestUrlString F params =
      if paramPairs F params = [] then .error .range else .ok ("?" ++ joined F params ++ "&") := by
  have hbuild : buildGetRequestUrlString F params =
      (let tempString := (paramPairs F params).foldl (fun tempString pair =>
        tempString ++ F.description pair.1 ++ "=" ++ F.description pair.2 ++ "&") "?"
      if (length tempString + 2 ^ 64 - 2) % 2 ^ 64 > length tempString then .error .range
      else .ok tempString) := by
    cases params <;> rfl
  rw [hbuild]
  have hone : length "?" = 1 ∧ length "&" = 1 := by decide
  by_cases hnone : paramPairs F params = []
  · simp only [hnone, List.foldl_nil, hone.1]
    rw [if_pos (by omega), if_pos trivial]
  · simp only [if_neg hnone, appended_eq hnone]
    rw [if_neg]
    · rfl
    · rw [length_append, length_append, hone.1, hone.2]
      omega

/-- **No query is well formed,** for any dictionary in any order. -/
theorem query_never_wellFormed (F : Foundation Data Obj URL) (params : Option Obj) : ¬ WellFormed F params := by
  intro h
  unfold WellFormed at h
  rw [query_ok] at h
  split at h
  · cases h
  · have hlen := congrArg length (Except.ok.inj h)
    have hone : length "&" = 1 := by decide
    rw [length_append, hone] at hlen
    omega

/-- One pair is enumerated, whatever the dictionary. -/
def onePair : Foundation String String String :=
  { emptyArrays with enumerateKeysAndObjects := fun _ => [("lastid", "7")] }

/-- A GET without parameters raises; with one pair it ends in `&`. -/
theorem query_raises_or_trails :
    buildGetRequestUrlString onePair none = .error .range ∧ ¬ WellFormed onePair none ∧
    buildGetRequestUrlString onePair (some "diary") = .ok "?lastid=7&" ∧
    ¬ WellFormed onePair (some "diary") := by
  have hnone : buildGetRequestUrlString onePair none = .error .range := by decide
  have hsome : buildGetRequestUrlString onePair (some "diary") = .ok "?lastid=7&" := by decide
  refine ⟨hnone, fun h => ?_, hsome, fun h => ?_⟩
  · cases hnone.symm.trans h
  · have hjoined : "?" ++ joined onePair (some "diary") = "?lastid=7" := by decide
    unfold WellFormed at h
    rw [hsome, hjoined] at h
    exact absurd (Except.ok.inj h) (by decide)

end LearningDemo.NetworkRequest
