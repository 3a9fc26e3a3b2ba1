/-
Cells of a store that are overwritten, each keeping what it held in a cell of
its own: `patchAt` for one cell, `patchAll` for a row of them. Nothing is kept
of a cell that already holds its value.

Cells may overlap, as words of a memory of bytes do (`words`, at the end), so a
store says which of them are apart.
-/
import Mathlib.Algebra.Group.Nat.Defs
import Mathlib.Data.List.Pairwise
import Mathlib.Tactic.Common

namespace Overwrite

/-- A store of cells: what is written to a cell is read from it, and not seen
from the cells apart from it. -/
structure Store (σ α β : Type) where
  get : σ → α → β
  put : σ → α → β → σ
  Apart : α → α → Prop
  apart_symm : ∀ {a c}, Apart a c → Apart c a
  get_put : ∀ s a v, get (put s a v) a = v
  get_put_of_apart : ∀ {a c}, Apart a c → ∀ s v, get (put s a v) c = get s c

/-- A value, and the cell that is to keep what was there. -/
structure Patch (α β : Type) where
  value : β
  saved : Option α

variable {σ α β γ : Type} {S : Store σ α β} {s : σ} {a c : α} {p : Patch α β} {ps : List (α × Patch α β)}

/-- The cells that are to be overwritten, and those that keep what was there. -/
def targets (ps : List (α × Patch α β)) : List α := ps.map Prod.fst

def keepers (ps : List (α × Patch α β)) : List α := ps.filterMap fun ap => ap.2.saved

theorem keepers_cons : keepers ps ⊆ keepers ((a, p) :: ps) := by
  intro k hk
  simp only [keepers, List.mem_filterMap, List.mem_cons] at hk ⊢
  obtain ⟨ap, hap, hsaved⟩ := hk
  exact ⟨ap, .inr hap, hsaved⟩

namespace Store

/-- What is read does not see what is written to the cell. -/
def Blind (S : Store σ α β) (f : σ → γ) (a : α) : Prop := ∀ s v, f (S.put s a v) = f s

theorem Blind.of_apart (h : S.Apart a c) : S.Blind (fun s => S.get s c) a := S.get_put_of_apart h

variable [DecidableEq β]

/-- What was there is kept first, unless it is the value. -/
def save (S : Store σ α β) (s : σ) (a : α) (p : Patch α β) : σ :=
  match p.saved with
  | none => s
  | some c => if S.get s a ≠ p.value then S.put s c (S.get s a) else s

def patchAt (S : Store σ α β) (s : σ) (a : α) (p : Patch α β) : σ := S.put (S.save s a p) a p.value

def patchAll (S : Store σ α β) (ps : List (α × Patch α β)) (s : σ) : σ :=
  ps.foldl (fun s ap => S.patchAt s ap.1 ap.2) s

@[simp] theorem patchAll_nil : S.patchAll [] s = s := rfl

@[simp] theorem patchAll_cons : S.patchAll ((a, p) :: ps) s = S.patchAll ps (S.patchAt s a p) := rfl

@[simp] theorem get_patchAt : S.get (S.patchAt s a p) a = p.value := S.get_put _ _ _

variable {f : σ → γ}

theorem Blind.save (h : ∀ k, p.saved = some k → S.Blind f k) : f (S.save s a p) = f s := by
  unfold Store.save
  cases hs : p.saved with
  | none => rfl
  | some k =>
    dsimp only
    split
    · exact h k hs _ _
    · rfl

theorem Blind.patchAt (ha : S.Blind f a) (h : ∀ k, p.saved = some k → S.Blind f k) : f (S.patchAt s a p) = f s :=
  (ha _ _).trans (Blind.save h)

/-- The frame: what sees no cell that is overwritten or keeps anything. -/
theorem Blind.patchAll (ht : ∀ t ∈ targets ps, S.Blind f t) (hk : ∀ k ∈ keepers ps, S.Blind f k) :
    f (S.patchAll ps s) = f s := by
  induction ps generalizing s with
  | nil => rfl
  | cons ap ps ih =>
    obtain ⟨a, p⟩ := ap
    rw [patchAll_cons, ih (fun t hmem => ht t (List.mem_cons_of_mem _ hmem)) fun k hmem => hk k (keepers_cons hmem)]
    exact Blind.patchAt (ht a (by simp [targets])) fun k hs => hk k (by simp [keepers, hs])

/-- What is overwritten next does not change the cells behind it. -/
theorem get_patchAt_target (hpair : (targets ((a, p) :: ps)).Pairwise S.Apart)
    (hsep : ∀ k ∈ keepers ((a, p) :: ps), ∀ t ∈ targets ((a, p) :: ps), S.Apart k t) (hc : c ∈ targets ps) :
    S.get (S.patchAt s a p) c = S.get s c := by
  refine Blind.patchAt (f := fun s => S.get s c) (.of_apart ?_) fun k hs => .of_apart ?_
  · exact (List.pairwise_cons.mp hpair).1 c hc
  · exact hsep k (by simp [keepers, hs]) c (List.mem_cons_of_mem _ hc)

/-- Cells apart from each other and from all that keep anything hold their values afterwards. -/
theorem get_patchAll_target (hpair : (targets ps).Pairwise S.Apart)
    (hsep : ∀ k ∈ keepers ps, ∀ t ∈ targets ps, S.Apart k t) (h : (a, p) ∈ ps) :
    S.get (S.patchAll ps s) a = p.value := by
  induction ps generalizing s with
  | nil => simp at h
  | cons ap ps ih =>
    obtain ⟨b, q⟩ := ap
    obtain ⟨hb, hpair'⟩ := List.pairwise_cons.mp hpair
    rw [patchAll_cons]
    rcases List.mem_cons.mp h with heq | hmem
    · obtain ⟨rfl, rfl⟩ := Prod.mk.inj heq
      have hframe : S.get (S.patchAll ps (S.patchAt s a p)) a = S.get (S.patchAt s a p) a :=
        Blind.patchAll (f := fun s => S.get s a) (fun t ht => .of_apart (S.apart_symm (hb t ht)))
          fun k hk => .of_apart (hsep k (keepers_cons hk) a (by simp [targets]))
      rw [hframe, get_patchAt]
    · exact ih hpair' (fun k hk t ht => hsep k (keepers_cons hk) t (List.mem_cons_of_mem _ ht)) hmem

/-- A keeper holds what it held, or what one of its cells held that was not its value. -/
theorem get_patchAll_keeper (s : σ) (hpair : (targets ps).Pairwise S.Apart)
    (hsep : ∀ k ∈ keepers ps, ∀ t ∈ targets ps, S.Apart k t) (hkeep : ∀ k ∈ keepers ps, k ≠ c → S.Apart k c)
    (hc : ∀ t ∈ targets ps, S.Apart t c) : S.get (S.patchAll ps s) c = S.get s c ∨
      ∃ ap ∈ ps, ap.2.saved = some c ∧ S.get s ap.1 ≠ ap.2.value ∧ S.get (S.patchAll ps s) c = S.get s ap.1 := by
  induction ps generalizing s with
  | nil => exact .inl rfl
  | cons ap ps ih =>
    obtain ⟨b, q⟩ := ap
    rw [patchAll_cons]
    rcases ih (S.patchAt s b q) (List.pairwise_cons.mp hpair).2
      (fun k hk t ht => hsep k (keepers_cons hk) t (List.mem_cons_of_mem _ ht))
      (fun k hk => hkeep k (keepers_cons hk)) (fun t ht => hc t (List.mem_cons_of_mem _ ht))
      with hsame | ⟨ap, hap, hs, hne, heq⟩
    · -- only the first cell may have changed it
      rw [hsame, patchAt, S.get_put_of_apart (hc b (by simp [targets])), save]
      cases hq : q.saved with
      | none => exact .inl rfl
      | some k =>
        by_cases hv : S.get s b ≠ q.value
        · dsimp only
          rw [if_pos hv]
          by_cases hk : k = c
          · subst hk
            exact .inr ⟨(b, q), by simp, hq, hv, S.get_put _ _ _⟩
          · exact .inl (S.get_put_of_apart (hkeep k (by simp [keepers, hq]) hk) _ _)
        · dsimp only
          rw [if_neg hv]
          exact .inl rfl
    · have htarget : S.get (S.patchAt s b q) ap.1 = S.get s ap.1 :=
        get_patchAt_target hpair hsep (List.mem_map_of_mem (f := Prod.fst) hap)
      rw [htarget] at hne heq
      exact .inr ⟨ap, List.mem_cons_of_mem _ hap, hs, hne, heq⟩

end Store

/-! ## Words of eight bytes -/

abbrev Bytes := UInt64 → UInt8

/-- The number that `n` bytes make, the lowest first. -/
def number (mem : Bytes) : Nat → UInt64 → Nat
  | 0, _ => 0
  | n + 1, a => (mem a).toNat + 256 * number mem n (a + 1)

/-- The word at an address. -/
def word (mem : Bytes) (a : UInt64) : UInt64 := .ofNat (number mem 8 a)

/-- Whether a byte is one of the word at an address. -/
def Within (a b : UInt64) : Prop := b - a < 8

instance (a b : UInt64) : Decidable (Within a b) := inferInstanceAs (Decidable (_ < _))

def setWord (mem : Bytes) (a v : UInt64) : Bytes := fun b =>
  if Within a b then .ofNat (v.toNat / 256 ^ (b - a).toNat) else mem b

/-- Words that have no byte in common. -/
def WordsApart (a c : UInt64) : Prop := 8 ≤ c - a ∧ 8 ≤ a - c

instance (a c : UInt64) : Decidable (WordsApart a c) := inferInstanceAs (Decidable (_ ∧ _))

variable {mem mem' : Bytes} {b v : UInt64} {a c : UInt64}

theorem number_congr {n : Nat} {a : UInt64} (h : ∀ i < n, mem (a + i.toUInt64) = mem' (a + i.toUInt64)) :
    number mem n a = number mem' n a := by
  induction n generalizing a with
  | zero => rfl
  | succ n ih =>
    have hfirst : mem a = mem' a := by simpa using h 0 (by omega)
    have hrest : number mem n (a + 1) = number mem' n (a + 1) := ih fun i hi => by
      have := h (i + 1) (by omega)
      rwa [show a + (i + 1).toUInt64 = a + 1 + i.toUInt64 by simp; grind] at this
    rw [number, number, hfirst, hrest]

theorem word_congr (h : ∀ i < 8, mem (a + i.toUInt64) = mem' (a + i.toUInt64)) : word mem a = word mem' a := by
  rw [word, word, number_congr h]

theorem number_digits {n k : Nat} {a : UInt64} (h : ∀ i < n, (mem (a + i.toUInt64)).toNat = k / 256 ^ i % 256) :
    number mem n a = k % 256 ^ n := by
  induction n generalizing a k with
  | zero => simp [number, Nat.mod_one]
  | succ n ih =>
    have hfirst : (mem a).toNat = k % 256 := by simpa using h 0 (by omega)
    have hrest : number mem n (a + 1) = k / 256 % 256 ^ n := ih fun i hi => by
      have := h (i + 1) (by omega)
      rwa [show a + (i + 1).toUInt64 = a + 1 + i.toUInt64 by simp; grind, Nat.pow_succ', ← Nat.div_div_eq_div_mul]
        at this
    rw [number, hfirst, hrest, Nat.pow_succ', Nat.mod_mul]

theorem WordsApart.symm (h : WordsApart a c) : WordsApart c a := ⟨h.2, h.1⟩

instance : Std.Symm WordsApart := ⟨fun _ _ => .symm⟩

theorem WordsApart.ne (h : WordsApart a c) : a ≠ c := by
  rintro rfl
  have := h.1
  simp at this

theorem WordsApart.not_within (h : WordsApart a c) {i : Nat} (hi : i < 8) : ¬ Within a (c + i.toUInt64) := by
  obtain ⟨h1, h2⟩ := h
  have h8 : UInt64.toNat 8 = 8 := rfl
  have ha := a.toNat_lt
  have hc := c.toNat_lt
  unfold Within
  rw [UInt64.le_iff_toNat_le, UInt64.toNat_sub] at h1 h2
  rw [UInt64.lt_iff_toNat_lt, UInt64.toNat_sub, UInt64.toNat_add, Nat.toUInt64_eq, UInt64.toNat_ofNat']
  omega

theorem setWord_of_not_within (h : ¬ Within a b) : setWord mem a v b = mem b := if_neg h

theorem word_setWord (mem : Bytes) (a v : UInt64) : word (setWord mem a v) a = v := by
  have hnumber : number (setWord mem a v) 8 a = v.toNat % 256 ^ 8 := number_digits fun i hi => by
    have hi' : i.toUInt64.toNat = i := by
      rw [Nat.toUInt64_eq, UInt64.toNat_ofNat']
      omega
    have hoffset : a + i.toUInt64 - a = i.toUInt64 := by grind
    have hin : Within a (a + i.toUInt64) := by
      rw [Within, hoffset, UInt64.lt_iff_toNat_lt, hi']
      exact hi
    rw [setWord, if_pos hin, hoffset, hi', UInt8.toNat_ofNat']
  have hv := v.toNat_lt
  rw [word, hnumber, Nat.mod_eq_of_lt (by omega), UInt64.ofNat_toNat]

theorem word_setWord_of_apart (h : WordsApart a c) (mem : Bytes) (v : UInt64) :
    word (setWord mem a v) c = word mem c :=
  word_congr fun _ hi => setWord_of_not_within (h.not_within hi)

/-- A memory of bytes as a store of words. -/
def words : Store Bytes UInt64 UInt64 where
  get := word
  put := setWord
  Apart := WordsApart
  apart_symm := .symm
  get_put := word_setWord
  get_put_of_apart := word_setWord_of_apart

end Overwrite
