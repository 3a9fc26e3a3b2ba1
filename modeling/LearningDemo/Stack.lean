/-
The pointer-based stack of `algo/dataStructure/Stack.c`, as the code computes
it: a `Stack *` is `none` when `NULL`, else the two pointers it leads to, and
the stack's nodes are threaded through their own `next` fields in the heap.
-/
import LearningDemo.ListNode

namespace LearningDemo.DataStructure

open Imperative

/-- The `Stack` of `Stack.h`. -/
structure Stack where
  top : Ptr
  bottom : Ptr
  deriving DecidableEq, Repr

/-- `initStack(&stack)`: what `stack` then points at. -/
def initStack : Option Stack := some { top := none, bottom := none }

/-- `push(stack, node)`. The first node's `next` is left as it is. -/
def push (heap : Heap) (stack : Option Stack) (node : Ptr) : C (Heap × Option Stack) :=
  if node = none then pure (heap, stack)
  else match stack with
    | none => .error .null
    | some stack => do
      let top := stack.top
      if top = none then pure (heap, some { top := node, bottom := node })
      else pure (← heap.setNext node top, some { stack with top := node })

/-- `pop(stack)`: the stack after it and the node it returns. `top` stays. -/
def pop (heap : Heap) : Option Stack → C (Option Stack × Ptr)
  | none => pure (none, none)
  | some stack => do
    let top := stack.top
    if (← heap.getNext top) = none then pure (some { stack with bottom := none }, top)
    else pure (some stack, top)

/-- `empty(stack)`. -/
def empty : Option Stack → Bool
  | none => true
  | some stack => if stack.top = stack.bottom then true else false

/-- `lenth(stack)`. -/
def lenth (fuel : Nat) (heap : Heap) : Option Stack → C Nat
  | none => pure 0
  | some stack => do
    let (_, length) ← whileLoop (fun (top, _) => pure (top != stack.bottom))
      (fun (top, length) => do pure (← heap.getNext top, length + 1)) fuel (stack.top, 0)
    pure length

/-- What the loop of `clear` changes, every call of `free` kept in `freed`. -/
structure Clearing where
  node : Ptr
  freed : List Addr

/-- `while (node != NULL)`. -/
def clearMore (s : Clearing) : C Bool := pure s.node.isSome

/-- `freeNode = node; node = node->next; free(freeNode)`. A node met again
would be read after it was freed, and freed twice. -/
def clearTurn (heap : Heap) (s : Clearing) : C Clearing := do
  let freeNode := s.node
  let node ← heap.getNext s.node
  pure { node, freed := s.freed ++ freeNode.toList }

/-- `clear(stack)`: the stack after it, and the nodes it frees. -/
def clear (fuel : Nat) (heap : Heap) : Option Stack → C (Option Stack × List Addr)
  | none => pure (none, [])
  | some stack => do
    let s ← whileLoop clearMore (clearTurn heap) fuel { node := stack.top, freed := [] }
    pure (some stack, s.freed)

/-! ## Runs of operations -/

/-- A caller's operations; the stack is the one `initStack` made. -/
inductive Op where
  | push (node : Addr)
  | pop
  | empty
  | lenth
  deriving DecidableEq, Repr

/-- What an operation returns. -/
inductive Answer where
  | unit
  | node (p : Ptr)
  | bool (b : Bool)
  | int (n : Nat)
  deriving DecidableEq, Repr

/-- One operation: memory and the stack after it, and its answer. -/
def perform (fuel : Nat) (heap : Heap) (stack : Option Stack) : Op → C ((Heap × Option Stack) × Answer)
  | .push node => do pure (← push heap stack (some node), .unit)
  | .pop => do
    let (stack, node) ← pop heap stack
    pure ((heap, stack), .node node)
  | .empty => pure ((heap, stack), .bool (empty stack))
  | .lenth => do pure ((heap, stack), .int (← lenth fuel heap stack))

/-- The answers to a run of operations. -/
def performAll (fuel : Nat) (heap : Heap) (stack : Option Stack) : List Op → C (List Answer)
  | [] => pure []
  | op :: ops => do
    let ((heap, stack), answer) ← perform fuel heap stack op
    pure (answer :: (← performAll fuel heap stack ops))

end LearningDemo.DataStructure
