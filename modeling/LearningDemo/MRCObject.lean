/-
`MRCObject`, under manual retain and release: its two variables, the methods
that touch them, and a caller who uses the object between `init` and
`dealloc` while pools come and go.

The code keeps no record of whose a reference is. `held`, `retained`,
`released` and `initial` are that record, for the proofs only: no method
reads them.
-/
import LearningDemo.Lib.Lts
import LearningDemo.Lib.RetainCount

namespace LearningDemo.MRCObject

open RetainCount

/-- Where the `MRCObject` is in its life. -/
inductive Phase where
  | unborn
  | live
  | dead
  deriving DecidableEq, Repr

structure World where
  memory : Memory
  phase : Phase
  /-- `_data`. -/
  data : Option Nat
  /-- `_property`. -/
  property : Option Nat
  /-- The references the caller owns. -/
  held : Nat → Nat
  /-- The `retain`s made for `_data`. -/
  retained : Nat → Nat
  /-- The `release`s made for `_data`. -/
  released : Nat → Nat
  /-- What `init` stored in `_data`. -/
  initial : Option Nat

/-- No object but the run loop's pool. -/
def start : World where
  memory := { count := fun _ => 0, pool := [], outer := [], fresh := 0, unborn := fun _ _ => rfl }
  phase := .unborn
  data := none
  property := none
  held := fun _ => 0
  retained := fun _ => 0
  released := fun _ => 0
  initial := none

/-- One more for the object a variable points at. -/
def note (made : Nat → Nat) (slot : Option Nat) : Nat → Nat := fun o => made o + refs slot o

/-- `[NSData data]`: a new object, autoreleased. -/
def nsData (memory : Memory) : Option (Nat × Memory) := do
  let data := memory.alloc
  let memory ← data.2.autorelease data.1
  some (data.1, memory)

/-! ## The methods -/

/-- `init`. -/
def init (w : World) : Option World := do
  let (data, memory) ← nsData w.memory
  some { w with memory, phase := .live, data := some data, initial := some data }

/-- `data`: what it returns, retained and autoreleased. -/
def data (w : World) : Option (Option Nat × World) := do
  let memory ← send Memory.retain w.memory w.data
  let memory ← send Memory.autorelease memory w.data
  some (w.data, { w with memory })

/-- `setData:`. -/
def setData (w : World) (data : Option Nat) : Option World :=
  if w.data ≠ data then do
    let memory ← send Memory.release w.memory w.data
    let memory ← send Memory.retain memory data
    some { w with memory, data, retained := note w.retained data, released := note w.released w.data }
  else some w

/-- `setProperty:`, synthesized for a `retain` property. -/
def setProperty (w : World) (property : Option Nat) : Option World :=
  if w.property ≠ property then do
    let memory ← send Memory.release w.memory w.property
    let memory ← send Memory.retain memory property
    some { w with memory, property }
  else some w

/-- `dealloc`: `_data` is cleared in front of the setter that would release it. -/
def dealloc (w : World) : Option World := do
  let w := { w with data := none }
  let w ← setData w none
  let memory ← send Memory.release w.memory w.property
  some { w with memory, property := none, phase := .dead }

/-! ## What can happen -/

inductive Label where
  /-- The caller makes an object and owns it. -/
  | create
  /-- The caller retains an object. -/
  | keep (o : Nat)
  /-- The caller releases a reference it owns. -/
  | drop (o : Nat)
  /-- The caller hands a reference it owns to the pool. -/
  | autorelease (o : Nat)
  | newPool
  | drain
  | init
  | data
  | setData (data : Option Nat)
  | setProperty (property : Option Nat)
  | dealloc
  deriving DecidableEq, Repr

/-- One step, when it can be taken: a message reaches no freed object, the
caller gives up only what it owns, and the methods are called between `init`
and `dealloc`. -/
def step (w : World) : Label → Option World
  | .create =>
    let object := w.memory.alloc
    some { w with memory := object.2, held := note w.held (some object.1) }
  | .keep o => do
    let memory ← w.memory.retain o
    some { w with memory, held := note w.held (some o) }
  | .drop o =>
    if 0 < w.held o then do
      let memory ← w.memory.release o
      some { w with memory, held := fun x => w.held x - refs (some o) x }
    else none
  | .autorelease o =>
    if 0 < w.held o then do
      let memory ← w.memory.autorelease o
      some { w with memory, held := fun x => w.held x - refs (some o) x }
    else none
  | .newPool => some { w with memory := w.memory.push }
  | .drain => do
    let memory ← w.memory.drain
    some { w with memory }
  | .init => if w.phase = .unborn then init w else none
  | .data => if w.phase = .live then (MRCObject.data w).map Prod.snd else none
  | .setData data => if w.phase = .live then setData w data else none
  | .setProperty property => if w.phase = .live then setProperty w property else none
  | .dealloc => if w.phase = .live then dealloc w else none

end LearningDemo.MRCObject
