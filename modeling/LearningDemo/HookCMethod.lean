/-
Rebinding of symbols, `HookCMethod.c`: the list of rebindings, the pass over
the pointers of an image, and what makes a pass happen (a call, or an image
that dyld adds). Addresses are 64 bits wide; a pointer is a word of eight bytes.

`prepend_rebindings` and `_rebind_symbols_for_image` are called but not in the
file, so they are parameters; `Supplied` says what is relied on. The walk over
the load commands reads them as a list, in the order of their addresses.
-/
import LearningDemo.Lib.Overwrite

namespace LearningDemo.HookCMethod

open Overwrite

/-- A string of C, without its terminator. -/
abbrev CStr := List UInt8

abbrev Mem := Overwrite.Bytes

structure Rebinding where
  name : CStr
  replacement : UInt64
  /-- Where the original goes; `none` is the null pointer. -/
  replaced : Option UInt64
  deriving DecidableEq

/-- `struct rebindings_entry`; `next` is the rest of the list it stands in. -/
abbrev RebindingsEntry := List Rebinding

/-! ## Images -/

/-- A section; one of 32 GiB or more would be beyond the counter of the loop. -/
structure Section where
  flags : UInt32
  addr : UInt64
  size : Nat
  size_lt : size / 8 < 0x100000000
  reserved1 : UInt32

inductive LoadCommand where
  | segment (segname : String) (vmaddr fileoff : UInt64) (sections : List Section)
  | symtab (symoff stroff : UInt32)
  | dysymtab (indirectsymoff nindirectsyms : UInt32)
  | other

structure Image where
  /-- Whether `dladdr` finds the header. -/
  known : Bool
  slide : UInt64
  cmds : List LoadCommand
  /-- The tables of the image, read as a `uint32_t` and as a string. -/
  word32 : UInt64 → UInt32
  cstring : UInt64 → CStr
  /-- The memory the image is mapped to, and what it holds when it is added. -/
  maps : UInt64 → Bool
  contents : Mem

def SECTION_TYPE : UInt32 := 0xff
def S_NON_LAZY_SYMBOL_POINTERS : UInt32 := 6
def S_LAZY_SYMBOL_POINTERS : UInt32 := 7
def INDIRECT_SYMBOL_LOCAL : UInt32 := 0x80000000
def INDIRECT_SYMBOL_ABS : UInt32 := 0x40000000

/-- The three tables, by their addresses. -/
structure Tables where
  symtab : UInt64
  strtab : UInt64
  indirectSymtab : UInt64

/-- The last of the commands of each kind. -/
structure Commands where
  linkeditSegment : Option (UInt64 × UInt64) := none
  symtabCmd : Option (UInt32 × UInt32) := none
  dysymtabCmd : Option (UInt32 × UInt32) := none

def Commands.read (found : Commands) : LoadCommand → Commands
  | .segment segname vmaddr fileoff _ =>
    if segname = "__LINKEDIT" then { found with linkeditSegment := some (vmaddr, fileoff) } else found
  | .symtab symoff stroff => { found with symtabCmd := some (symoff, stroff) }
  | .dysymtab indirectsymoff nindirectsyms =>
    { found with dysymtabCmd := some (indirectsymoff, nindirectsyms) }
  | .other => found

def Image.tables (image : Image) : Option Tables :=
  let found := image.cmds.foldl Commands.read {}
  match found.linkeditSegment, found.symtabCmd, found.dysymtabCmd with
  | some (vmaddr, fileoff), some (symoff, stroff), some (indirectsymoff, nindirectsyms) =>
    if nindirectsyms = 0 then none
    else
      let linkeditBase := image.slide + vmaddr - fileoff
      some { symtab := linkeditBase + symoff.toUInt64
             strtab := linkeditBase + stroff.toUInt64
             indirectSymtab := linkeditBase + indirectsymoff.toUInt64 }
  | _, _, _ => none

/-! ## The pass over an image -/

/-- The search of `perform_rebinding_with_section`: the newest entry first, in
an entry from its start. -/
def findRebinding (rebindings : List RebindingsEntry) (name : CStr) : Option Rebinding :=
  rebindings.findSome? fun cur => cur.find? fun r => r.name = name

/-- What is done to a pointer whose symbol is found. -/
def bindSymbol (mem : Mem) (binding : UInt64) (r : Rebinding) : Mem :=
  let mem' := match r.replaced with
    | none => mem
    | some replaced =>
      if word mem binding ≠ r.replacement then setWord mem replaced (word mem binding) else mem
  setWord mem' binding r.replacement

def performRebindingWithSection (rebindings : List RebindingsEntry) (image : Image) (sect : Section)
    (tables : Tables) (mem : Mem) : Mem :=
  let indirectSymbolIndices := tables.indirectSymtab + 4 * sect.reserved1.toUInt64
  let indirectSymbolBindings := image.slide + sect.addr
  (List.range (sect.size / 8)).foldl (fun mem i =>
    let symtabIndex := image.word32 (indirectSymbolIndices + 4 * i.toUInt64)
    if symtabIndex = INDIRECT_SYMBOL_ABS ∨ symtabIndex = INDIRECT_SYMBOL_LOCAL ∨
        symtabIndex = INDIRECT_SYMBOL_LOCAL ||| INDIRECT_SYMBOL_ABS then mem
    else
      let strtabOffset := image.word32 (tables.symtab + 16 * symtabIndex.toUInt64)
      let symbolName := image.cstring (tables.strtab + strtabOffset.toUInt64)
      if symbolName.length < 2 then mem
      else
        match findRebinding rebindings symbolName.tail with
        | none => mem
        | some r => bindSymbol mem (indirectSymbolBindings + 8 * i.toUInt64) r) mem

def rebindSymbolsForImage (rebindings : List RebindingsEntry) (image : Image) (mem : Mem) : Mem :=
  if image.known = false then mem
  else
    match image.tables with
    | none => mem
    | some tables =>
      image.cmds.foldl (fun mem cmd =>
        match cmd with
        | .segment segname _ _ sections =>
          if segname ≠ "__DATA" ∧ segname ≠ "__DATA_CONST" then mem
          else
            sections.foldl (fun mem sect =>
              let mem :=
                if sect.flags &&& SECTION_TYPE = S_LAZY_SYMBOL_POINTERS then
                  performRebindingWithSection rebindings image sect tables mem
                else mem
              if sect.flags &&& SECTION_TYPE = S_NON_LAZY_SYMBOL_POINTERS then
                performRebindingWithSection rebindings image sect tables mem
              else mem) mem
        | _ => mem) mem

/-! ## Calls and images -/

/-- The process: the rebindings, the images dyld has added in their order,
whether it calls back for the next ones, and the memory. -/
structure State where
  rebindingsHead : List RebindingsEntry := []
  images : List Image := []
  registered : Bool := false
  mem : Mem

/-- The functions that are called but not in the file. -/
structure Calls where
  prependRebindings : List RebindingsEntry → RebindingsEntry → Int × List RebindingsEntry
  rebindSymbolsForImage : List RebindingsEntry → Image → Mem → Mem

/-- What the file relies on: an entry is put in front or nothing happens, and
an image that is added is passed over with the rebindings there are. -/
structure Supplied (calls : Calls) : Prop where
  prepend_neg : ∀ head entry, (calls.prependRebindings head entry).1 < 0 →
    (calls.prependRebindings head entry).2 = head
  prepend_ok : ∀ head entry, 0 ≤ (calls.prependRebindings head entry).1 →
    (calls.prependRebindings head entry).2 = entry :: head
  image : ∀ head image mem, calls.rebindSymbolsForImage head image mem = rebindSymbolsForImage head image mem

/-- The loop over the images. -/
def rebindImages (calls : Calls) (head : List RebindingsEntry) (images : List Image) (mem : Mem) : Mem :=
  images.foldl (fun mem image => calls.rebindSymbolsForImage head image mem) mem

def fishRebindSymbols (calls : Calls) (s : State) (rebindings : RebindingsEntry) : Int × State :=
  let (retval, head) := calls.prependRebindings s.rebindingsHead rebindings
  if retval < 0 then (retval, { s with rebindingsHead := head })
  else if head.tail = [] then
    -- the first call asks dyld to call back, which it does at once for the images it has
    (retval, { s with rebindingsHead := head, registered := true, mem := rebindImages calls head s.images s.mem })
  else (retval, { s with rebindingsHead := head, mem := rebindImages calls head s.images s.mem })

/-- What happens to a process that matters here. -/
inductive Event where
  | rebind (rebindings : RebindingsEntry)
  | addImage (image : Image)

/-- The memory when an image is mapped. -/
def mapImage (image : Image) (mem : Mem) : Mem := fun a => if image.maps a then image.contents a else mem a

/-- One event; dyld calls back for a new image once it has been asked to. -/
def step (calls : Calls) (s : State) : Event → State
  | .rebind rebindings => (fishRebindSymbols calls s rebindings).2
  | .addImage image =>
    let mem := mapImage image s.mem
    { s with
      images := s.images ++ [image]
      mem := if s.registered then calls.rebindSymbolsForImage s.rebindingsHead image mem else mem }

def run (calls : Calls) (s : State) (events : List Event) : State := events.foldl (step calls) s

end LearningDemo.HookCMethod
