/-
Reading `urlString` again and again.

A string with a scheme is given back as it is. Any other is put behind the
domain as a path component, which makes `http:/` of the domain's `http://`
(`completed_without_scheme`); what was read has no scheme then, and the next
read puts the domain in front of it once more (`urlString_stable_iff`).
-/
import LearningDemo.NetworkDeliveryFacts
import LearningDemo.Lib.Separators

namespace LearningDemo.NetworkRequest

open Separators

variable {Data Obj URL : Type} {F : Foundation Data Obj URL} {self : NetworkRequest Data Obj URL}
  {url s : String}

/-- The string starts with `http://` or `https://`. -/
def hasScheme (s : String) : Bool := hasPrefix s "http://" || hasPrefix s "https://"

/-- The request after so many reads. -/
def afterReads (F : Foundation Data Obj URL) (self : NetworkRequest Data Obj URL) :
    Nat → NetworkRequest Data Obj URL
  | 0 => self
  | k + 1 => ((afterReads F self k).getUrlString F).1

/-- What the next read returns then. -/
def readUrlString (F : Foundation Data Obj URL) (self : NetworkRequest Data Obj URL) (k : Nat) :
    Option String :=
  ((afterReads F self k).getUrlString F).2

/-- Any two reads in a row return one string, and it has a scheme. -/
def Stable (F : Foundation Data Obj URL) (self : NetworkRequest Data Obj URL) : Prop :=
  ∀ k, ∃ s, readUrlString F self k = some s ∧ readUrlString F self (k + 1) = some s ∧ hasScheme s = true

/-- Foundation's path components and percent escapes, as far as they are
documented: slashes are not repeated, and a character stays or is escaped. -/
structure Documented (F : Foundation Data Obj URL) : Prop where
  collapses : ∀ path component, Single '/' (F.stringByAppendingPathComponent path component).toList
  escapes : ∀ s escaped, F.stringByAddingPercentEscapes s = some escaped →
    ∃ escape, Escapes '/' escape ∧ escaped.toList = s.toList.flatMap escape

/-! ## A read -/

theorem hasScheme_not_single (h : hasScheme s = true) : ¬ Single '/' s.toList := by
  have hstart : ∀ start : String, hasPrefix s start = true → ¬ Single '/' start.toList →
      ¬ Single '/' s.toList := by
    intro start hstart hdouble hsingle
    obtain ⟨rest, hrest⟩ := List.isPrefixOf_iff_prefix.mp hstart
    exact hdouble (Single.left_of_append (hrest ▸ hsingle))
  rcases Bool.or_eq_true_iff.mp h with h | h
  · exact hstart "http://" h (by unfold Single; decide)
  · exact hstart "https://" h (by unfold Single; decide)

theorem completed_without_scheme (hF : Documented F) (hurl : self.urlString = some url) (hne : url ≠ "")
    (hscheme : hasScheme url = false) (hread : (self.getUrlString F).2 = some s) : hasScheme s = false := by
  unfold hasScheme at hscheme
  simp only [getUrlString, hurl, if_neg hne, hscheme, Bool.false_eq_true, if_false, apiDomains, List.head?_cons,
    Option.bind_eq_bind, Option.bind_some] at hread
  obtain ⟨escape, hescape, hs⟩ := hF.escapes _ _ hread
  have hsingle : Single '/' s.toList := by
    rw [hs]
    exact (hF.collapses _ _).flatMap hescape
  exact Bool.eq_false_iff.mpr fun h => hasScheme_not_single h hsingle

theorem getUrlString_scheme (F : Foundation Data Obj URL) (hurl : self.urlString = some url)
    (hscheme : hasScheme url = true) : self.getUrlString F = (self, some url) := by
  have hne : url ≠ "" := by
    rintro rfl
    exact absurd hscheme (by decide)
  unfold hasScheme at hscheme
  simp only [getUrlString, hurl, if_neg hne, hscheme, if_true]

theorem readUrlString_scheme (F : Foundation Data Obj URL) (hurl : self.urlString = some url)
    (hscheme : hasScheme url = true) (k : Nat) : readUrlString F self k = some url := by
  have hsame : afterReads F self k = self := by
    induction k with
    | zero => rfl
    | succ k ih => rw [afterReads, ih, getUrlString_scheme F hurl hscheme]
  rw [readUrlString, hsame, getUrlString_scheme F hurl hscheme]

theorem not_stable_relative (hF : Documented F) (hurl : self.urlString = some url) (hne : url ≠ "")
    (hscheme : hasScheme url = false) : ¬ Stable F self := by
  intro h
  obtain ⟨s, hread, -, hs⟩ := h 0
  rw [completed_without_scheme hF hurl hne hscheme hread] at hs
  cases hs

/-- **Reading is stable for the strings with a scheme,** and for no others. -/
theorem urlString_stable_iff (hF : Documented F) (self : NetworkRequest Data Obj URL) (hne : url ≠ "") :
    Stable F (self.call (.URL (some url))) ↔ hasScheme url = true := by
  have hurl : (self.call (.URL (some url))).urlString = some url := by
    simp only [call, ne_eq, hne, not_false_eq_true, if_true]
  refine ⟨fun h => ?_, fun h k => ?_⟩
  · by_contra hscheme
    exact not_stable_relative hF hurl hne (Bool.eq_false_iff.mpr hscheme) h
  · exact ⟨url, readUrlString_scheme F hurl h k, readUrlString_scheme F hurl h (k + 1), h⟩

/-! ## On concrete strings -/

/-- The characters that need no escape in a URL. -/
def legal (c : Char) : Bool := c.isAlphanum || "-_.!~*();/?:@&=+$,".toList.contains c || c.toNat == 39

def hexDigits : List Char := ['0', '1', '2', '3', '4', '5', '6', '7', '8', '9', 'A', 'B', 'C', 'D', 'E', 'F']

def hexDigit (n : Nat) : Char := hexDigits[n]?.getD '0'

/-- The bytes of a character, in hexadecimal. -/
def percentEscape (c : Char) : List Char :=
  if legal c then [c]
  else (String.utf8EncodeChar c).flatMap fun byte =>
    ['%', hexDigit (byte.toNat / 16), hexDigit (byte.toNat % 16)]

theorem hexDigit_ne (n : Nat) : hexDigit n ≠ '/' := by
  unfold hexDigit
  cases hd : hexDigits[n]? with
  | none => decide
  | some d =>
    rintro rfl
    exact absurd (List.mem_of_getElem? hd) (by decide)

theorem percentEscape_escapes : Escapes '/' percentEscape := by
  intro c
  unfold percentEscape
  split
  · exact .inl rfl
  · refine .inr ⟨?_, ?_⟩
    · have hsize : (String.utf8EncodeChar c).length = c.utf8Size := String.length_utf8EncodeChar c
      cases hbytes : String.utf8EncodeChar c with
      | nil =>
        rw [hbytes] at hsize
        exact absurd hsize.symm (Nat.ne_of_gt c.utf8Size_pos)
      | cons byte bytes => simp
    · simp only [List.mem_flatMap, not_exists, not_and]
      intro byte _ hmem
      have h1 := hexDigit_ne (byte.toNat / 16)
      have h2 := hexDigit_ne (byte.toNat % 16)
      simp [h1.symm, h2.symm] at hmem

/-- Paths joined with one slash, runs of slashes collapsed, illegal characters escaped. -/
def documented : Foundation String String String :=
  { emptyArrays with
    stringByAppendingPathComponent := fun path component =>
      String.ofList (collapse '/' (path.toList ++ '/' :: component.toList))
    stringByAddingPercentEscapes := fun s => some (String.ofList (s.toList.flatMap percentEscape)) }

theorem documented_documented : Documented documented where
  collapses path component := by
    show Single '/' (String.ofList _).toList
    rw [String.toList_ofList]
    exact single_collapse '/' _
  escapes s escaped h := by
    obtain rfl := Option.some.inj h
    exact ⟨percentEscape, percentEscape_escapes, String.toList_ofList⟩

theorem urlString_stable_diary : Stable documented (({} : NetworkRequest String String String).call
    (.URL (some "diary/list"))) ↔ hasScheme "diary/list" = true :=
  urlString_stable_iff documented_documented {} (by decide)

/-- The URL of `requestCloudUpdate:`, read twice. -/
theorem urlString_grows :
    let request := ({} : NetworkRequest String String String).call (.URL (some "cloudupdate"))
    readUrlString documented request 0 = some "http:/39.105.20.33:8000/api/v1/cloudupdate" ∧
    readUrlString documented request 1 =
      some "http:/39.105.20.33:8000/api/v1/http:/39.105.20.33:8000/api/v1/cloudupdate" ∧
    ¬ Stable documented request := by
  refine ⟨by decide +kernel, by decide +kernel, ?_⟩
  exact not_stable_relative documented_documented rfl (by decide) (by decide)

end LearningDemo.NetworkRequest
