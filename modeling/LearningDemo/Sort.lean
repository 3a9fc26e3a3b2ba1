/-
The sorting exercises of `algo/SortViewController.m`, as the code computes
them. An `int a[]` is a list of cells indexed by `int`, `none` where the code
asks for `NULL`; the functions give back the array they wrote through the
pointer.
-/
import LearningDemo.Lib.Cells
import LearningDemo.Lib.Exits

namespace LearningDemo.Sort

open Imperative

/-- `swap(&a[i], &a[j])`. -/
def swap (a : List Int) (i j : Int) : C (List Int) := do
  let temp ← load a i
  let a ← store a i (← load a j)
  store a j temp

/-- One turn of the loop of `partion`. -/
def partionTurn (key : Int) (j : Int) : List Int × Int → C (List Int × Int)
  | (a, i) => do
    if (← load a j) ≤ key then
      let i := i + 1
      pure (← swap a i j, i)
    else pure (a, i)

/-- `partion(a, l0, ln)`: the array after it, and the index it returns. -/
def partion (a : List Int) (l0 ln : Int) : C (List Int × Int) := do
  let key ← load a ln
  let (a, i) ← forRange l0 ln (partionTurn key) (a, l0 - 1)
  pure (← swap a ln i, i)

/-- `quickSort(a, a0, al)`, its recursion cut at a depth. The guard compares
the two end elements, as the source's does, not the two indexes. -/
def quickSort : Nat → List Int → Int → Int → C (List Int)
  | 0, _, _, _ => .error .fuel
  | depth + 1, a, a0, al => do
    if (← load a a0) < (← load a al) then
      let (a, q) ← partion a a0 al
      let a ← quickSort depth a a0 (q - 1)
      quickSort depth a (q + 1) al
    else pure a

/-! ## `sortAges` -/

def oldestAge : Int := 99

/-- `timesOfAges[i] = 0`. -/
def clearTurn (i : Int) (timesOfAges : List Int) : C (List Int) := store timesOfAges i 0

/-- What the loop that counts the ages changes. -/
structure Times where
  smallestAge : Int
  timesOfAges : List Int

/-- One turn: the age may be the smallest so far, and is counted. -/
def countTurn (ages : List Int) (i : Int) (s : Times) : C Times := do
  let age ← load ages i
  let smallestAge := if age < s.smallestAge then age else s.smallestAge
  let timesOfAges ← store s.timesOfAges age ((← load s.timesOfAges age) + 1)
  pure { smallestAge, timesOfAges }

/-- What the two loops that write the ages back change. -/
structure Adjusting where
  ages : List Int
  totalIndex : Int

/-- `ages[totalIndex] = i; totalIndex++`, whatever `j` is. -/
def writeTurn (i : Int) (_j : Int) (s : Adjusting) : C Adjusting := do
  let ages ← store s.ages s.totalIndex i
  pure { ages, totalIndex := s.totalIndex + 1 }

/-- One age, as often as it was counted. -/
def adjustTurn (timesOfAges : List Int) (i : Int) (s : Adjusting) : C Adjusting := do
  if (← load timesOfAges i) = 0 then pure s
  else forRange 0 (← load timesOfAges i) (writeTurn i) s

/-- `sortAges(ages, length)`, the table uninitialised: the array after it, and
the indexes and ages it logs. -/
def sortAges (ages : Option (List Int)) (length : Int) (timesOfAges : List Int) :
    C (Option (List Int) × List (Int × Int)) :=
  match ages with
  | none => pure (none, [])
  | some ages =>
    if length = 0 then pure (some ages, [])
    else do
      let timesOfAges ← forRange 0 oldestAge clearTurn timesOfAges
      let smallestAge ← load ages 0
      let times ← forRange 0 length (countTurn ages) { smallestAge, timesOfAges }
      let s ← forRange times.smallestAge oldestAge (adjustTurn times.timesOfAges) { ages, totalIndex := 0 }
      let logged ← forRange 0 length (fun i logged => do pure (logged ++ [(i, ← load s.ages i)])) []
      pure (some s.ages, logged)

/-! ## `smalletItem` -/

/-- The two ends of the part still searched, and its middle. -/
structure Bisection where
  index1 : Int
  index2 : Int
  mid : Int

/-- `while (1)`. -/
def smalletMore (_s : Bisection) : C Bool := pure true

/-- One turn: with adjacent ends the first is returned; else one of them moves
to the middle, or neither does. -/
def smalletTurn (a : List Int) (s : Bisection) : C (Flow Bisection Int) := do
  if s.index2 - s.index1 = 1 then pure (.ret s.index1)
  else
    let mid := s.index1 + (s.index2 - s.index1).tdiv 2
    if (← load a mid) ≥ (← load a s.index1) then pure (.next { s with index1 := mid, mid })
    else if (← load a mid) ≤ (← load a s.index2) then pure (.next { s with index2 := mid, mid })
    else pure (.next { s with mid })

/-- `smalletItem(a, length)`. -/
def smalletItem (fuel : Nat) (a : Option (List Int)) (length : Int) : C Int :=
  match a with
  | none => pure (-1)
  | some a =>
    if length = 0 then pure (-1)
    else do
      match ← loop smalletMore (smalletTurn a) fuel { index1 := 0, index2 := length - 1, mid := 0 } with
      | .returned index => pure index
      | .left _ => pure 0

/-! ## `Fibonacci` -/

/-- The `long long`s of `Fibonacci`, as words of 64 bits. -/
structure Fibs where
  fibMinusOne : BitVec 64
  fibMinusTwo : BitVec 64
  fibN : BitVec 64

/-- One turn; the index is not used. -/
def fibonacciTurn (_i : Int) (s : Fibs) : C Fibs :=
  let fibN := s.fibMinusOne + s.fibMinusTwo
  pure { fibN, fibMinusTwo := s.fibMinusOne, fibMinusOne := fibN }

/-- `Fibonacci(n)`, for an `n` its `int i` can count to. -/
def fibonacci (n : Nat) : C (BitVec 64) :=
  if n < 2 then load [0, 1] n
  else do
    let s ← forRange 2 n fibonacciTurn { fibMinusOne := 0, fibMinusTwo := 1, fibN := 0 }
    pure s.fibN

end LearningDemo.Sort
