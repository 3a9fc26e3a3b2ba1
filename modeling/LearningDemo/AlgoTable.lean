/-
The two functions of `algo/AlgoTableViewController.m`. The `int`s of
`countDigitOne` are exact integers, with the division of C that rounds
towards zero; those of `singleNumbers`, taken apart by bit, are 32-bit words.
-/
import LearningDemo.Lib.Cells

namespace LearningDemo.AlgoTable

open Imperative

/-! ## `countDigitOne` -/

/-- The locals of `countDigitOne`: the digits of `n` above, at and below the
position reached, and the weight of the position. -/
structure Position where
  count : Int
  high : Int
  cur : Int
  low : Int
  digit : Int

/-- `while (high != 0 || cur != 0)`. -/
def countMore (s : Position) : C Bool := pure (s.high != 0 || s.cur != 0)

/-- One turn: the ones at this position, then on to the next. -/
def countTurn (s : Position) : C Position :=
  let count :=
    if s.cur = 0 then s.count + s.high * s.digit
    else if s.cur = 1 then s.count + (s.high * s.digit + s.low + 1)
    else s.count + (s.high + 1) * s.digit
  let low := s.low + s.cur * s.digit
  let cur := s.high.tmod 10
  let digit := s.digit * 10
  let high := s.high.tdiv 10
  pure { count, high, cur, low, digit }

/-- `countDigitOne(n)`. -/
def countDigitOne (fuel : Nat) (n : Int) : C Int :=
  if n = 0 then pure 0
  else do
    let s ← whileLoop countMore countTurn fuel
      { count := 0, high := n.tdiv 10, cur := n.tmod 10, low := 0, digit := 1 }
    pure s.count

/-- Its locals in front of the loop. -/
def countStart (n : Int) : Position := { count := 0, high := n.tdiv 10, cur := n.tmod 10, low := 0, digit := 1 }

/-- The values of all the locals. -/
def Position.ints (s : Position) : List Int := [s.count, s.high, s.cur, s.low, s.digit]

/-- Every value the arithmetic of a turn comes to: those assigned, and those on
the way to one. -/
def turnInts (s : Position) : List Int :=
  (if s.cur = 0 then [s.high * s.digit, s.count + s.high * s.digit]
   else if s.cur = 1 then
    [s.high * s.digit, s.high * s.digit + s.low, s.high * s.digit + s.low + 1,
      s.count + (s.high * s.digit + s.low + 1)]
   else [s.high + 1, (s.high + 1) * s.digit, s.count + (s.high + 1) * s.digit]) ++
  [s.cur * s.digit, s.low + s.cur * s.digit, s.high.tmod 10, s.digit * 10, s.high.tdiv 10]

/-- A value that an `int` of 32 bits can hold. -/
def InInt (v : Int) : Prop := -2147483648 ≤ v ∧ v ≤ 2147483647

/-- No `int` of `countDigitOne(n)` overflows, in any turn. -/
def CountFits (n : Int) : Prop :=
  (∀ v ∈ (countStart n).ints, InInt v) ∧
    ∀ s, Tested countMore countTurn (countStart n) s → countMore s = .ok true → ∀ v ∈ turnInts s, InInt v

/-! ## `singleNumbers` -/

/-- `k ^= nums[i]`. -/
def xorTurn (nums : List (BitVec 32)) (i : Int) (k : BitVec 32) : C (BitVec 32) := do
  pure (k ^^^ (← load nums i))

/-- `while ((k & mask) == 0)`. -/
def maskMore (k mask : BitVec 32) : C Bool := pure (k &&& mask == 0#32)

/-- `mask <<= 1`; past the top bit nothing is left. -/
def maskTurn (mask : BitVec 32) : C (BitVec 32) := pure (mask <<< 1)

/-- One number put with those that have the bit of `mask` or with those that do not. -/
def splitBy (mask : BitVec 32) (s : BitVec 32 × BitVec 32) (cur : BitVec 32) : BitVec 32 × BitVec 32 :=
  if cur &&& mask = 0#32 then (s.1 ^^^ cur, s.2) else (s.1, s.2 ^^^ cur)

/-- One turn of the second pass. -/
def splitTurn (nums : List (BitVec 32)) (mask : BitVec 32) (i : Int) (s : BitVec 32 × BitVec 32) :
    C (BitVec 32 × BitVec 32) := do
  pure (splitBy mask s (← load nums i))

/-- `singleNumbers(nums, numsSize, returnSize)`: the array of two it
allocates, or `NULL`. `returnSize` is not used. -/
def singleNumbers (fuel : Nat) (nums : Option (List (BitVec 32))) (numsSize : Int) :
    C (Option (List (BitVec 32))) :=
  match nums with
  | none => pure none
  | some nums =>
    if numsSize < 4 then pure none
    else do
      let k ← forRange 0 numsSize (xorTurn nums) 0#32
      let mask ← whileLoop (maskMore k) maskTurn fuel 1#32
      let (a, b) ← forRange 0 numsSize (splitTurn nums mask) (0#32, 0#32)
      pure (some [a, b])

end LearningDemo.AlgoTable
