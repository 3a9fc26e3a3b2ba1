/-
The linked-list exercises of `algo/LinkListViewController.m`, as the code
computes them: the locals a loop changes are a structure, and every
`p->next` or `p->value` may fault.
-/
import LearningDemo.Stack
import LearningDemo.Lib.Exits

namespace LearningDemo.LinkList

open Imperative

/-! ## `mergeTwoSortList` -/

/-- What the loop of `mergeTwoSortList` changes. -/
structure Merge where
  heap : Heap
  header1 : Ptr
  header2 : Ptr
  tempNode : Ptr

/-- Before the loop: the first node of the new list, in `tempNode`, and the
headers behind it. With equal values both headers move, the first after its
node's `next` was overwritten. -/
def mergeFirst (heap : Heap) (header1 header2 : Ptr) : C Merge := do
  let value1 ← heap.getValue header1
  let value2 ← heap.getValue header2
  if value1 < value2 then
    pure { heap, header1 := ← heap.getNext header1, header2, tempNode := header1 }
  else if value1 > value2 then
    pure { heap, header1, header2 := ← heap.getNext header2, tempNode := header2 }
  else
    let newHeader := header1
    let heap ← heap.setNext newHeader header2
    pure { heap, header1 := ← heap.getNext header1, header2 := ← heap.getNext header2, tempNode := newHeader }

/-- `header1->next && header2->next`. -/
def mergeMore (s : Merge) : C Bool := do
  if (← s.heap.getNext s.header1).isSome then pure (← s.heap.getNext s.header2).isSome else pure false

/-- One turn of the loop. -/
def mergeTurn (s : Merge) : C Merge := do
  let value1 ← s.heap.getValue s.header1
  let value2 ← s.heap.getValue s.header2
  if value1 < value2 then
    let heap ← s.heap.setNext s.tempNode s.header1
    let tempNode ← heap.getNext s.tempNode
    let header1 ← heap.getNext s.header1
    pure { s with heap, tempNode, header1 }
  else if value1 > value2 then
    let heap ← s.heap.setNext s.tempNode s.header2
    let tempNode ← heap.getNext s.tempNode
    let header2 ← heap.getNext s.header2
    pure { s with heap, tempNode, header2 }
  else
    let heap ← s.heap.setNext s.tempNode s.header1
    let header1 ← heap.getNext s.header1
    let tempNode ← heap.getNext s.tempNode
    let heap ← heap.setNext tempNode s.header2
    let header2 ← heap.getNext s.header2
    let tempNode ← heap.getNext tempNode
    pure { heap, header1, header2, tempNode }

/-- After the loop: the rest of each list is hung behind `tempNode`, the
second over the first. -/
def mergeRest (s : Merge) : C Heap := do
  let heap ← if s.header1.isSome then s.heap.setNext s.tempNode s.header1 else pure s.heap
  if s.header2.isSome then heap.setNext s.tempNode s.header2 else pure heap

/-- `mergeTwoSortList(header1, header2)`: memory after it, and the list it returns. -/
def mergeTwoSortList (fuel : Nat) (heap : Heap) (header1 header2 : Ptr) : C (Heap × Ptr) :=
  if header1 = none then pure (heap, header2)
  else if header2 = none then pure (heap, header1)
  else do
    let first ← mergeFirst heap header1 header2
    let s ← whileLoop mergeMore mergeTurn fuel first
    pure (← mergeRest s, first.tempNode)

/-! ## `printLinkListWithOppositeSort` -/

/-- What the loop that pushes the nodes changes. -/
structure Pushing where
  heap : Heap
  stack : Option DataStructure.Stack
  node : Ptr

/-- What the loop that prints them changes. -/
structure Printing where
  stack : Option DataStructure.Stack
  printed : List Int

/-- `push(stack, node); node = node->next`: the field is read after `push` wrote it. -/
def pushTurn (s : Pushing) : C Pushing := do
  let (heap, stack) ← DataStructure.push s.heap s.stack s.node
  pure { heap, stack, node := ← heap.getNext s.node }

/-- `topNode = pop(stack)`, and its value printed. -/
def printTurn (heap : Heap) (s : Printing) : C Printing := do
  let (stack, topNode) ← DataStructure.pop heap s.stack
  pure { stack, printed := s.printed ++ [← heap.getValue topNode] }

/-- `printLinkListWithOppositeSort(header)`: memory after it, and the values it prints. -/
def printLinkListWithOppositeSort (fuel : Nat) (heap : Heap) (header : Ptr) : C (Heap × List Int) :=
  if header = none then pure (heap, [])
  else do
    let s ← whileLoop (fun s => pure (s.node != none)) pushTurn fuel
      { heap, stack := DataStructure.initStack, node := header }
    let out ← whileLoop (fun s => pure (!DataStructure.empty s.stack)) (printTurn s.heap) fuel
      { stack := s.stack, printed := [] }
    pure (s.heap, out.printed)

/-- `recursivlyprintLinkListWithOppositeSort(header)`: the values it prints. -/
def recursivlyprintLinkListWithOppositeSort : Nat → Heap → Ptr → C (List Int)
  | 0, _, _ => .error .fuel
  | depth + 1, heap, header =>
    if header = none then pure []
    else do
      let next ← heap.getNext header
      let printed ← if next = none then pure []
        else recursivlyprintLinkListWithOppositeSort depth heap next
      pure (printed ++ [← heap.getValue header])

/-! ## `nodeHasCircle` -/

/-- The two pointers of a walk at two speeds. -/
structure Chase where
  before : Ptr
  behind : Ptr

/-- `before` two nodes on, or one when that ends the list; `behind` one. -/
def chaseStep (heap : Heap) (s : Chase) : C Chase := do
  let before ← heap.getNext s.before
  let before ← if before.isSome then heap.getNext before else pure before
  let behind ← heap.getNext s.behind
  pure { before, behind }

/-- `while (before)`. -/
def chaseMore (s : Chase) : C Bool := pure s.before.isSome

/-- One turn of the loop of `nodeHasCircle`: two `NULL` pointers compare equal too. -/
def hasCircleTurn (heap : Heap) (s : Chase) : C (Flow Chase Bool) := do
  let s ← chaseStep heap s
  pure (if s.before = s.behind then .ret true else .next s)

/-- `nodeHasCircle(header)`. -/
def nodeHasCircle (fuel : Nat) (heap : Heap) (header : Ptr) : C Bool :=
  if header = none then pure false
  else do
    match ← loop chaseMore (hasCircleTurn heap) fuel { before := header, behind := header } with
    | .returned found => pure found
    | .left _ => pure false

/-! ## `circleStartNode` -/

/-- What the first loop of `circleStartNode` changes. -/
structure Meeting extends Chase where
  flag : Bool

/-- `while (before)` again. -/
def meetMore (s : Meeting) : C Bool := chaseMore s.toChase

/-- One turn of the first loop. -/
def meetTurn (heap : Heap) (s : Meeting) : C (Flow Meeting Ptr) := do
  let chase ← chaseStep heap s.toChase
  pure (if chase.before = chase.behind then .brk ⟨chase, true⟩ else .next ⟨chase, s.flag⟩)

/-- What the second loop changes. -/
structure Entering where
  startNode : Ptr
  meetNode : Ptr

/-- `while (startNode)`. -/
def enterMore (s : Entering) : C Bool := pure s.startNode.isSome

/-- One turn of the second loop. -/
def enterTurn (heap : Heap) (s : Entering) : C (Flow Entering Ptr) := do
  if s.startNode = s.meetNode then pure (.ret s.startNode)
  else
    let startNode ← heap.getNext s.startNode
    let meetNode ← heap.getNext s.meetNode
    pure (.next { startNode, meetNode })

/-- `circleStartNode(header)`. -/
def circleStartNode (fuel : Nat) (heap : Heap) (header : Ptr) : C Ptr :=
  if header = none then pure none
  else do
    match ← loop meetMore (meetTurn heap) fuel ⟨⟨header, header⟩, false⟩ with
    | .returned node => pure node
    | .left met =>
      if met.flag = false then pure none
      else
        match ← loop enterMore (enterTurn heap) fuel { startNode := header, meetNode := met.before } with
        | .returned node => pure node
        | .left _ => pure none

/-! ## `nodeCross` -/

/-- `while (node->next)`. -/
def lastMore (heap : Heap) (node : Ptr) : C Bool := do pure (← heap.getNext node).isSome

/-- `node = node->next` until its `next` is `NULL`. -/
def lastNode (fuel : Nat) (heap : Heap) (node : Ptr) : C Ptr :=
  whileLoop (lastMore heap) heap.getNext fuel node

/-- `nodeCross(node1, node2)`. -/
def nodeCross (fuel : Nat) (heap : Heap) (node1 node2 : Ptr) : C Bool :=
  if node1 = none ∨ node2 = none then pure false
  else do
    let header1 ← lastNode fuel heap node1
    let header2 ← lastNode fuel heap node2
    pure (header1 == header2)

/-! ## `crossNode` -/

/-- A node a loop moves, and the number that goes with it. -/
structure Counting where
  node : Ptr
  count : Int

/-- `while (header)`. -/
def lengthMore (s : Counting) : C Bool := pure s.node.isSome

/-- `header = header->next; len++`. -/
def lengthTurn (heap : Heap) (s : Counting) : C Counting := do
  pure { node := ← heap.getNext s.node, count := s.count + 1 }

/-- The loop over a list that counts its nodes from `len = 0`. -/
def listLength (fuel : Nat) (heap : Heap) (header : Ptr) : C Int := do
  let s ← whileLoop lengthMore (lengthTurn heap) fuel { node := header, count := 0 }
  pure s.count

/-- `while (k > 0)`. -/
def skipMore (s : Counting) : C Bool := pure (decide (s.count > 0))

/-- `node = node->next; k--`. -/
def skipTurn (heap : Heap) (s : Counting) : C Counting := do
  pure { node := ← heap.getNext s.node, count := s.count - 1 }

/-- The loop that goes on by `k` nodes. -/
def skipNodes (fuel : Nat) (heap : Heap) (node : Ptr) (k : Int) : C Ptr := do
  let s ← whileLoop skipMore (skipTurn heap) fuel { node, count := k }
  pure s.node

/-- The two nodes of a walk in step. -/
structure Pair where
  node1 : Ptr
  node2 : Ptr

/-- `while (node1 && node2)`. -/
def pairMore (s : Pair) : C Bool := pure (s.node1.isSome && s.node2.isSome)

/-- One turn of the walk in step. -/
def pairTurn (heap : Heap) (s : Pair) : C (Flow Pair Ptr) := do
  if s.node1 = s.node2 then pure (.ret s.node1)
  else
    let node2 ← heap.getNext s.node2
    let node1 ← heap.getNext s.node1
    pure (.next { node1, node2 })

/-- The walk in step, and the `return NULL` behind it. Of two equal nodes one
branch of the source returns `node1`, the other `node2`. -/
def walkPair (fuel : Nat) (heap : Heap) (node1 node2 : Ptr) : C Ptr := do
  match ← loop pairMore (pairTurn heap) fuel { node1, node2 } with
  | .returned node => pure node
  | .left _ => pure none

/-- `crossNode(node1, node2)`. -/
def crossNode (fuel : Nat) (heap : Heap) (node1 node2 : Ptr) : C Ptr :=
  if node1 = none ∨ node2 = none then pure none
  else do
    let len1 ← listLength fuel heap node1
    let len2 ← listLength fuel heap node2
    let k := if len2 > len1 then len2 - len1 else len1 - len2
    if len2 > len1 then
      walkPair fuel heap node1 (← skipNodes fuel heap node2 k)
    else
      walkPair fuel heap (← skipNodes fuel heap node1 k) node2

/-! ## `invertListNode` -/

/-- What the loop that prints a list from its header changes. -/
structure Listing where
  headerNode : Ptr
  printed : List Int

/-- `while (headerNode != NULL)`. -/
def listingMore (s : Listing) : C Bool := pure s.headerNode.isSome

/-- A value is printed, and `headerNode = headerNode->next`. -/
def listingTurn (heap : Heap) (s : Listing) : C Listing := do
  let value ← heap.getValue s.headerNode
  pure { headerNode := ← heap.getNext s.headerNode, printed := s.printed ++ [value] }

/-- What the loop of `invertListNode` changes. -/
structure Inverting where
  heap : Heap
  newHeaderNode : Ptr
  currentHeadNode : Ptr
  printed : List Int

/-- `while (currentHeadNode != NULL)`. -/
def invertMore (s : Inverting) : C Bool := pure s.currentHeadNode.isSome

/-- One turn of the loop: `currentHeadNode->next` is read after it was
written. The loop that prints the new list stands inside the body. -/
def invertTurn (fuel : Nat) (s : Inverting) : C Inverting := do
  let tempNode := s.currentHeadNode
  let heap ← s.heap.setNext tempNode s.newHeaderNode
  let currentHeadNode ← heap.getNext s.currentHeadNode
  let newHeaderNode := tempNode
  let out ← whileLoop listingMore (listingTurn heap) fuel { headerNode := newHeaderNode, printed := s.printed }
  pure { heap, newHeaderNode, currentHeadNode, printed := out.printed }

/-- `invertListNode(header)`: memory after it, and the values it prints. -/
def invertListNode (fuel : Nat) (heap : Heap) (header : Ptr) : C (Heap × List Int) := do
  if header = none then pure (heap, [])
  else if (← heap.getNext header) = none then pure (heap, [])
  else
    let s ← whileLoop invertMore (invertTurn fuel) fuel
      { heap, newHeaderNode := none, currentHeadNode := header, printed := [] }
    pure (s.heap, s.printed)

/-! ## `lastKNode` -/

/-- `while (tempHeader && k > 0)`; its body is the one of `skipNodes`. -/
def leadMore (s : Counting) : C Bool := pure (s.node.isSome && decide (s.count > 0))

/-- `while (tempHeader)`. -/
def trailMore (s : Pair) : C Bool := pure s.node1.isSome

/-- `tempHeader = tempHeader->next; tempHeader2 = tempHeader2->next`. -/
def trailTurn (heap : Heap) (s : Pair) : C Pair := do
  pure { node1 := ← heap.getNext s.node1, node2 := ← heap.getNext s.node2 }

/-- `lastKNode(header, k)`. -/
def lastKNode (fuel : Nat) (heap : Heap) (header : Ptr) (k : Int) : C Ptr :=
  if k < 0 ∨ header = none then pure none
  else do
    let lead ← whileLoop leadMore (skipTurn heap) fuel { node := header, count := k }
    if lead.count > 0 then pure none
    else
      let s ← whileLoop trailMore (trailTurn heap) fuel { node1 := lead.node, node2 := header }
      pure s.node2

/-! ## `middleNode` -/

/-- `while (before->next)`: `before` itself is not tested. -/
def middleMore (heap : Heap) (s : Chase) : C Bool := do pure (← heap.getNext s.before).isSome

/-- One turn: `before` by a node, `behind` by a node, `before` by another
unless that ended the list. -/
def middleTurn (heap : Heap) (s : Chase) : C Chase := do
  let before ← heap.getNext s.before
  let behind ← heap.getNext s.behind
  let before ← if before.isSome then heap.getNext before else pure before
  pure { before, behind }

/-- `middleNode(header)`. -/
def middleNode (fuel : Nat) (heap : Heap) (header : Ptr) : C Ptr := do
  if header = none then pure none
  else
    let next ← heap.getNext header
    if next = none then pure header
    else if (← heap.getNext next) = none then pure header
    else
      let s ← whileLoop (middleMore heap) (middleTurn heap) fuel { before := header, behind := header }
      pure s.behind

end LearningDemo.LinkList
