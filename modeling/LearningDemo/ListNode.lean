/-
The memory of the linked-list exercises: the `Node` of `ListNode.h`, its two
fields kept as two maps over addresses, so that a write to `next` visibly
leaves every `value` alone.
-/
import LearningDemo.Lib.Imperative
import LearningDemo.Lib.Linked

namespace LearningDemo

open Imperative

/-- The address of a node. -/
abbrev Addr := Nat

/-- A `Node *`; `none` is `NULL`. -/
abbrev Ptr := Option Addr

/-- The nodes in memory, field by field. -/
structure Heap where
  value : Addr → Int
  next : Addr → Ptr

namespace Heap

/-- Nodes at the addresses from 0 on, given as their fields. -/
def ofList (nodes : List (Int × Ptr)) : Heap where
  value a := (nodes[a]?.getD (0, none)).1
  next a := (nodes[a]?.getD (0, none)).2

/-- `a->next = q`, for a node at `a`. -/
def link (h : Heap) (a : Addr) (q : Ptr) : Heap := { h with next := Function.update h.next a q }

@[simp] theorem link_value (h : Heap) (a : Addr) (q : Ptr) : (h.link a q).value = h.value := rfl

@[simp] theorem link_next (h : Heap) (a : Addr) (q : Ptr) :
    (h.link a q).next = Function.update h.next a q := rfl

/-- `p->value`, read. -/
def getValue (h : Heap) : Ptr → C Int
  | none => .error .null
  | some a => .ok (h.value a)

/-- `p->next`, read. -/
def getNext (h : Heap) : Ptr → C Ptr
  | none => .error .null
  | some a => .ok (h.next a)

/-- `p->next = q`. -/
def setNext (h : Heap) : Ptr → Ptr → C Heap
  | none, _ => .error .null
  | some a, q => .ok (h.link a q)

@[simp] theorem getValue_some (h : Heap) (a : Addr) : h.getValue (some a) = .ok (h.value a) := rfl
@[simp] theorem getNext_some (h : Heap) (a : Addr) : h.getNext (some a) = .ok (h.next a) := rfl
@[simp] theorem getNext_none (h : Heap) : h.getNext none = .error .null := rfl
@[simp] theorem setNext_some (h : Heap) (a : Addr) (q : Ptr) : h.setNext (some a) q = .ok (h.link a q) := rfl

end Heap

end LearningDemo
