/-
`strToInt` of `algo/StringViewController.m`: blanks, a sign and decimal
digits, read up to the first character that cannot go on, and clamped to
the range of `int`.

The index is an `int` that can overflow. The arithmetic of the number is that
of the integers; that it never leaves the range is a fact about the code.
-/
import LearningDemo.Lib.CString
import LearningDemo.Lib.Exits

namespace LearningDemo.StringToInt

open Imperative

/-- `INT_MAX / 10`. -/
def boundry : Int := intMax.tdiv 10

/-- `INT_MAX % 10`. -/
def boundryLastValue : Int := intMax.tmod 10

/-- What the loop changes. -/
structure Reading where
  result : Int
  negSign : Int
  hasCount : Bool
  hasSign : Bool
  cIndex : Int
  c : CChar
  deriving DecidableEq

/-- The locals in front of the loop, with the first character read. -/
def start (c : CChar) : Reading :=
  { result := 0, negSign := 1, hasCount := false, hasSign := false, cIndex := 0, c }

/-- `c >= '0' && c <= '9'`. -/
abbrev IsDigit (c : CChar) : Prop := c ≥ chr '0' ∧ c ≤ chr '9'

/-- `c - '0'`. -/
def value (c : CChar) : Int := c.toInt - (chr '0').toInt

/-- The early return, when one more digit would leave the range. -/
def outOfRange (negSign result value : Int) : Option Int :=
  if negSign = -1 then
    if result > boundry then some intMin
    else if result = boundry ∧ value > boundryLastValue then some intMin
    else none
  else
    if result > boundry then some intMax
    else if result = boundry ∧ value ≥ boundryLastValue then some intMax
    else none

/-- `while (c != '\0')`. -/
def readMore (s : Reading) : C Bool := pure (s.c != nul)

/-- `cIndex++; c = str[cIndex];`, the end of every turn. -/
def advance (str : List CChar) (s : Reading) : C (Flow Reading Int) := do
  let cIndex ← int (s.cIndex + 1)
  pure (.next { s with cIndex, c := ← load str cIndex })

/-- One turn. -/
def readTurn (str : List CChar) (s : Reading) : C (Flow Reading Int) :=
  if s.c = chr ' ' then
    if s.hasCount then pure (.brk s) else advance str s
  else if s.c = chr '+' ∨ s.c = chr '-' then
    if s.hasCount ∨ s.hasSign then pure (.brk s)
    else
      let negSign := if s.c = chr '-' then -1 else s.negSign
      advance str { s with negSign, hasSign := true }
  else if IsDigit s.c then
    match outOfRange s.negSign s.result (value s.c) with
    | some limit => pure (.ret limit)
    | none => advance str { s with result := s.result * 10 + value s.c, hasCount := true }
  else pure (.brk s)

/-- `strToInt`. -/
def strToInt (fuel : Nat) (str : List CChar) : C Int := do
  match ← loop readMore (readTurn str) fuel (start (← load str 0)) with
  | .left s => pure (s.negSign * s.result)
  | .returned limit => pure limit

end LearningDemo.StringToInt
