/-
The string and array exercises of `algo/StringArrayViewController.m`, as the
code computes them: every index may be outside its array, and arrays the
code leaves uninitialised hold what a parameter says. The lengths that grow
with a string are `int`s that can overflow.
-/
import LearningDemo.Lib.CString
import LearningDemo.Lib.Exits

namespace LearningDemo.StringArray

open Imperative

/-! ## `_getValueIndexForMetrix:` -/

/-- The corner the search stands in. -/
structure Corner where
  row : Int
  column : Int

/-- `while (row < rows && column > 0)`. -/
def cornerMore (rows : Int) (s : Corner) : C Bool := pure (decide (s.row < rows) && decide (s.column > 0))

/-- One turn: the value is in the corner, or its column is passed over, or its row. -/
def cornerTurn (metrix : List (List Int)) (value : Int) (s : Corner) :
    C (Flow Corner (Option (Int × Int))) := do
  let tempValue ← load (← load metrix s.row) s.column
  if tempValue = value then pure (.ret (some (s.row, s.column)))
  else if value < tempValue then pure (.next { s with column := s.column - 1 })
  else pure (.next { s with row := s.row + 1 })

/-- `_getValueIndexForMetrix:`, on any matrix; without a row the first one has
no count. `none` is `nil`. -/
def getValueIndexForMetrix (fuel : Nat) (metrix : List (List Int)) (value : Int) : C (Option (Int × Int)) := do
  let rows : Int := metrix.length
  let columns : Int := (metrix.head?.map List.length).getD 0
  match ← loop (cornerMore rows) (cornerTurn metrix value) fuel { row := 0, column := columns - 1 } with
  | .returned index => pure index
  | .left _ => pure none

/-! ## `_replaceBlankToANSCIIString:` -/

/-- What the counting loop changes. -/
structure Lengths where
  strLength : Int
  blankNum : Int

/-- `while (string[strLength] != '\0')`. -/
def countMore (string : List CChar) (s : Lengths) : C Bool := do
  pure ((← load string s.strLength) != nul)

/-- One turn: a blank is counted, and every character. -/
def countTurn (string : List CChar) (s : Lengths) : C Lengths := do
  let blankNum ← if (← load string s.strLength) = chr ' ' then int (s.blankNum + 1) else pure s.blankNum
  let strLength ← int (s.strLength + 1)
  pure { strLength, blankNum }

/-- What the moving loop changes: the buffer, and where it reads and writes. -/
structure Moving where
  string : List CChar
  strLength : Int
  newStrLength : Int

/-- `while (strLength > 0 && newStrLength > strLength)`. -/
def moveMore (s : Moving) : C Bool := pure (decide (s.strLength > 0) && decide (s.newStrLength > s.strLength))

/-- One turn, from the back: a character is moved, a blank becomes three. -/
def moveTurn (s : Moving) : C Moving := do
  let strLength := s.strLength - 1
  let newStrLength := s.newStrLength - 1
  if (← load s.string strLength) ≠ chr ' ' then
    let string ← store s.string newStrLength (← load s.string strLength)
    pure { string, strLength, newStrLength }
  else
    let string ← store s.string newStrLength (chr '0')
    let newStrLength := newStrLength - 1
    let string ← store string newStrLength (chr '2')
    let newStrLength := newStrLength - 1
    let string ← store string newStrLength (chr '%')
    pure { string, strLength, newStrLength }

/-- `_replaceBlankToANSCIIString:`: the buffer after it. -/
def replaceBlankToANSCIIString (fuel : Nat) (string : List CChar) : C (List CChar) := do
  let s ← whileLoop (countMore string) (countTurn string) fuel { strLength := 0, blankNum := 0 }
  let newStrLength ← int (s.strLength + (← int (2 * s.blankNum)))
  let s ← whileLoop moveMore moveTurn fuel { string, strLength := s.strLength, newStrLength }
  pure s.string

/-! ## `mergeTwoSortArray` -/

/-- What the loop of `mergeTwoSortArray` changes. -/
structure Merging where
  a1 : List Int
  length1 : Int
  length2 : Int
  totalLength : Int

/-- `while (length1 >= 0 && length2 >= 0)`. -/
def mergeMore (s : Merging) : C Bool := pure (decide (s.length1 ≥ 0) && decide (s.length2 ≥ 0))

/-- One turn, from the back. Of two equal numbers one is written, and its
second place is passed over. -/
def mergeTurn (a2 : List Int) (s : Merging) : C Merging := do
  if (← load s.a1 (s.length1 - 1)) > (← load a2 (s.length2 - 1)) then
    let totalLength := s.totalLength - 1
    let length1 := s.length1 - 1
    let a1 ← store s.a1 totalLength (← load s.a1 length1)
    pure { s with a1, length1, totalLength }
  else if (← load s.a1 (s.length1 - 1)) < (← load a2 (s.length2 - 1)) then
    let totalLength := s.totalLength - 1
    let length2 := s.length2 - 1
    let a1 ← store s.a1 totalLength (← load a2 length2)
    pure { s with a1, length2, totalLength }
  else if (← load s.a1 (s.length1 - 1)) = (← load a2 (s.length2 - 1)) then
    let totalLength := s.totalLength - 1
    let length1 := s.length1 - 1
    let a1 ← store s.a1 totalLength (← load s.a1 length1)
    pure { a1, length1, length2 := s.length2 - 1, totalLength := totalLength - 1 }
  else pure s

/-- `mergeTwoSortArray(a1, length1, a2, length2)`: the array `a1` after it, and
the numbers it logs. -/
def mergeTwoSortArray (fuel : Nat) (a1 : List Int) (length1 : Int) (a2 : List Int) (length2 : Int) :
    C (List Int × List Int) := do
  let totalLength := length1 + length2
  let temp := totalLength
  let s ← whileLoop mergeMore (mergeTurn a2) fuel { a1, length1, length2, totalLength }
  let logged ← forRange 0 temp (fun i logged => do pure (logged ++ [← load s.a1 i])) []
  pure (s.a1, logged)

/-! ## `construct` -/

/-- A `struct BinaryNode *`: `NULL`, or a node with what hangs on it. Nodes are
allocated one by one and shared by nobody. -/
inductive BinaryNode where
  | null
  | node (root : Int) (leftNode rightNode : BinaryNode)
  deriving DecidableEq, Repr

/-- What the four uninitialised arrays of one call hold at first. -/
structure Scratch where
  preLeft : Nat → Int
  preRight : Nat → Int
  midLeft : Nat → Int
  midRight : Nat → Int

/-- A buffer of `length` ints with such contents. -/
def buffer (length : Int) (contents : Nat → Int) : List Int := (List.range length.toNat).map contents

/-- The two recursive calls of a call. -/
inductive Side where
  | left
  | right
  deriving DecidableEq, Repr

/-- What the loop that looks for the root changes. -/
structure Finding where
  i : Int
  rootIndex : Int

/-- `i < length`. -/
def findMore (length : Int) (s : Finding) : C Bool := pure (decide (s.i < length))

/-- `mid[i] == pre[0]`: that is the root. -/
def findTurn (pre mid : List Int) (s : Finding) : C (Flow Finding Empty) := do
  if (← load mid s.i) = (← load pre 0) then pure (.brk { s with rootIndex := s.i })
  else pure (.next { s with i := s.i + 1 })

/-- The index of the root in `mid`, 0 when it is not there. -/
def findRoot (pre mid : List Int) (length : Int) : C Int := do
  match ← loop (findMore length) (findTurn pre mid) (length.toNat + 1) { i := 0, rootIndex := 0 } with
  | .left s => pure s.rootIndex

/-- `pre_left[i] = pre[i+1]; mid_left[i] = mid[i];`. -/
def leftTurn (pre mid : List Int) (i : Int) (s : List Int × List Int) : C (List Int × List Int) := do
  let preLeft ← store s.1 i (← load pre (i + 1))
  let midLeft ← store s.2 i (← load mid i)
  pure (preLeft, midLeft)

/-- `pre_right[j] = pre[i]; mid_right[j] = mid[i];` with `j = 0`, which the loop does not move. -/
def rightTurn (pre mid : List Int) (i : Int) (s : List Int × List Int) : C (List Int × List Int) := do
  let preRight ← store s.1 0 (← load pre i)
  let midRight ← store s.2 0 (← load mid i)
  pure (preRight, midRight)

/-- The contents of the arrays of one of the two calls and those below it. -/
def under (fresh : List Side → Scratch) (side : Side) : List Side → Scratch := fun path => fresh (side :: path)

/-- `construnctCore(pre, mid, length)`, its recursion cut at a depth. `fresh`
gives the contents of the uninitialised arrays of this call and, down the
path of sides, of every call below it. -/
def construnctCore : Nat → (List Side → Scratch) → List Int → List Int → Int → C BinaryNode
  | 0, _, _, _, _ => .error .fuel
  | depth + 1, fresh, pre, mid, length =>
    if length = 0 then pure .null
    else do
      let scratch := fresh []
      let rootIndex ← findRoot pre mid length
      let root ← load pre 0
      let (preLeft, midLeft) ← forRange 0 rootIndex (leftTurn pre mid)
        (buffer length scratch.preLeft, buffer length scratch.midLeft)
      let (preRight, midRight) ← forRange (rootIndex + 1) length (rightTurn pre mid)
        (buffer length scratch.preRight, buffer length scratch.midRight)
      let leftNode ← construnctCore depth (under fresh .left) preLeft midLeft rootIndex
      let rightNode ← construnctCore depth (under fresh .right) preRight midRight (length - rootIndex - 1)
      pure (.node root leftNode rightNode)

/-- `construct(pre, mid, length)`. -/
def construct (depth : Nat) (fresh : List Side → Scratch) (pre mid : Option (List Int)) (length : Int) :
    C BinaryNode :=
  match pre, mid with
  | some pre, some mid => if length = 0 then pure .null else construnctCore depth fresh pre mid length
  | _, _ => pure .null

end LearningDemo.StringArray
