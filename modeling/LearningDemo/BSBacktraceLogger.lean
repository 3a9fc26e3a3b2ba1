/-
Backtraces, `BSBacktraceLogger.m`: the frames of a thread, the symbol of an
address, and the text of both. Words are as wide as the architecture's.

What the kernel and dyld answer is a `Process`. The threads go on running, so
two readings of one address may differ: a reading is known by its number. The
walk over the load commands of an image reads them as a list.
-/
import Mathlib.Tactic.Common

namespace LearningDemo.BSBacktraceLogger

inductive Arch where
  | arm64
  | arm
  | x86_64
  | i386
  deriving DecidableEq

def Arch.width : Arch → Nat
  | .arm64 => 64
  | .arm => 32
  | .x86_64 => 64
  | .i386 => 32

abbrev Word (arch : Arch) := BitVec arch.width

variable {arch : Arch}

def DETAG_INSTRUCTION_ADDRESS : {arch : Arch} → Word arch → Word arch
  | .arm64, address => address &&& ~~~3
  | .arm, address => address &&& ~~~1
  | .x86_64, address => address
  | .i386, address => address

def CALL_INSTRUCTION_FROM_RETURN_ADDRESS (address : Word arch) : Word arch :=
  DETAG_INSTRUCTION_ADDRESS address - 1

structure BSStackFrameEntry (arch : Arch) where
  previous : Word arch
  returnAddress : Word arch

structure MachineContext (arch : Arch) where
  framePointer : Word arch
  linkRegister : Word arch
  instructionAddress : Word arch

/-- `bs_mach_linkRegister`: half of the architectures have none. -/
def bsMachLinkRegister : {arch : Arch} → MachineContext arch → Word arch
  | .arm64, machineContext => machineContext.linkRegister
  | .arm, machineContext => machineContext.linkRegister
  | .x86_64, _ => 0
  | .i386, _ => 0

/-- An entry of a symbol table, `BS_NLIST`. -/
structure Nlist (arch : Arch) where
  strx : UInt32
  type : UInt8
  value : Word arch

inductive LoadCommand where
  | segment (segname : String) (vmaddr vmsize fileoff : UInt32)
  | segment64 (segname : String) (vmaddr vmsize fileoff : UInt64)
  | symtab (symoff stroff nsyms : UInt32)
  | other

structure MachHeader (arch : Arch) where
  address : Word arch
  magic : UInt32
  cmds : List LoadCommand

/-- An image of dyld's list; `header` may be the null pointer. -/
structure Image (arch : Arch) where
  name : Option String
  slide : Word arch
  header : Option (MachHeader arch)

structure Process (arch : Arch) where
  threads : Option (List UInt32)
  /-- `thread_get_state`. -/
  state : UInt32 → Option (MachineContext arch)
  /-- What the reading of a frame finds, by the thread and the number of the reading. -/
  copyMem : UInt32 → Nat → Word arch → Option (BSStackFrameEntry arch)
  images : List (Image arch)
  nlist : Word arch → Nlist arch
  cstring : Word arch → String

/-! ## The symbol of an address -/

/-- `Dl_info`; the strings are `none` where their pointers are null. -/
structure DlInfo (arch : Arch) where
  fname : Option String := none
  fbase : Word arch := 0
  sname : Option String := none
  saddr : Word arch := 0
  deriving DecidableEq

def MH_MAGIC : UInt32 := 0xfeedface
def MH_CIGAM : UInt32 := 0xcefaedfe
def MH_MAGIC_64 : UInt32 := 0xfeedfacf
def MH_CIGAM_64 : UInt32 := 0xcffaedfe

/-- The commands behind a header, unless it is corrupt. -/
def bsFirstCmdAfterHeader (header : MachHeader arch) : Option (List LoadCommand) :=
  if header.magic = MH_MAGIC ∨ header.magic = MH_CIGAM ∨ header.magic = MH_MAGIC_64 ∨
      header.magic = MH_CIGAM_64 then some header.cmds
  else none

/-- Whether a command is a segment with the address; ends are computed in the width of the command. -/
def LoadCommand.contains (cmd : LoadCommand) (addressWSlide : Word arch) : Bool :=
  match cmd with
  | .segment _ vmaddr vmsize _ =>
    decide (vmaddr.toNat ≤ addressWSlide.toNat ∧ addressWSlide.toNat < (vmaddr + vmsize).toNat)
  | .segment64 _ vmaddr vmsize _ =>
    decide (vmaddr.toNat ≤ addressWSlide.toNat ∧ addressWSlide.toNat < (vmaddr + vmsize).toNat)
  | _ => false

def Image.contains (image : Image arch) (address : Word arch) : Bool :=
  match image.header.bind bsFirstCmdAfterHeader with
  | none => false
  | some cmds => cmds.any fun cmd => cmd.contains (address - image.slide)

/-- The image itself rather than its index; `none` is `UINT_MAX`. -/
def bsImageIndexContainingAddress (images : List (Image arch)) (address : Word arch) : Option (Image arch) :=
  images.find? fun image => image.contains address

def LoadCommand.linkedit (arch : Arch) : LoadCommand → Option (Word arch)
  | .segment segname vmaddr _ fileoff =>
    if segname = "__LINKEDIT" then some ((vmaddr - fileoff).toBitVec.setWidth _) else none
  | .segment64 segname vmaddr _ fileoff =>
    if segname = "__LINKEDIT" then some ((vmaddr - fileoff).toBitVec.setWidth _) else none
  | _ => none

def bsSegmentBaseOfImageIndex (image : Image arch) : Word arch :=
  match image.header.bind bsFirstCmdAfterHeader with
  | none => 0
  | some cmds => (cmds.findSome? (LoadCommand.linkedit arch)).getD 0

/-- `sizeof(BS_NLIST)`. -/
def nlistSize (arch : Arch) : Nat := if arch.width = 64 then 16 else 12

/-- The entries of a symbol table, in order. -/
def symbols (process : Process arch) (segmentBase : Word arch) (symoff nsyms : UInt32) : List (Nlist arch) :=
  let symbolTable := segmentBase + symoff.toBitVec.setWidth _
  (List.range nsyms.toNat).map fun iSym => process.nlist (symbolTable + BitVec.ofNat _ (nlistSize arch * iSym))

/-- `bestMatch` and `bestDistance` after one more symbol. -/
def closer (addressWithSlide : Word arch) (best : Option (Nlist arch) × Word arch) (symbol : Nlist arch) :
    Option (Nlist arch) × Word arch :=
  if symbol.value ≠ 0 then
    let currentDistance := addressWithSlide - symbol.value
    if symbol.value ≤ addressWithSlide ∧ currentDistance ≤ best.2 then (some symbol, currentDistance) else best
  else best

/-- The loop over the commands: the match, and the string table it goes with. -/
def bestMatch (process : Process arch) (segmentBase addressWithSlide : Word arch) :
    List LoadCommand → Option (Nlist arch) × Word arch → Option (Nlist arch × Word arch)
  | [], _ => none
  | .symtab symoff stroff nsyms :: cmds, best =>
    let best := (symbols process segmentBase symoff nsyms).foldl (closer addressWithSlide) best
    match best.1 with
    | some symbol => some (symbol, segmentBase + stroff.toBitVec.setWidth _)
    | none => bestMatch process segmentBase addressWithSlide cmds best
  | _ :: cmds, best => bestMatch process segmentBase addressWithSlide cmds best

/-- A C string behind its first character, if that is an underscore. -/
def dropUnderscore (name : String) : String :=
  match name.toList with
  | '_' :: rest => String.ofList rest
  | _ => name

def bsDladdr (process : Process arch) (address : Word arch) : Bool × DlInfo arch :=
  match bsImageIndexContainingAddress process.images address with
  | none => (false, {})
  | some image =>
    let addressWithSlide := address - image.slide
    let segmentBase := bsSegmentBaseOfImageIndex image + image.slide
    if segmentBase = 0 then (false, {})
    else
      match image.header with
      | none => (false, { fname := image.name })
      | some header =>
        let info : DlInfo arch := { fname := image.name, fbase := header.address }
        match bsFirstCmdAfterHeader header with
        | none => (false, info)
        | some cmds =>
          match bestMatch process segmentBase addressWithSlide cmds (none, BitVec.allOnes _) with
          | none => (true, info)
          | some (symbol, stringTable) =>
            let saddr := symbol.value + image.slide
            let sname := dropUnderscore (process.cstring (stringTable + symbol.strx.toBitVec.setWidth _))
            -- this happens if all symbols have been stripped
            if saddr = info.fbase ∧ symbol.type = 3 then (true, { info with saddr })
            else (true, { info with saddr, sname := some sname })

/-- `bs_symbolicate` with no entries skipped: all addresses but the first are returned to. -/
def bsSymbolicate (process : Process arch) (backtraceBuffer : List (Word arch)) : List (DlInfo arch) :=
  backtraceBuffer.mapIdx fun i address =>
    (bsDladdr process (if i = 0 then address else CALL_INSTRUCTION_FROM_RETURN_ADDRESS address)).2

/-! ## The text -/

/-- `%0<width>lx`. -/
def hex (width : Nat) (word : Word arch) : String :=
  let digits := Nat.toDigits 16 word.toNat
  String.ofList (List.replicate (width - digits.length) '0' ++ digits)

/-- `%-30s`. -/
def padded (text : String) : String := text ++ String.ofList (List.replicate (30 - text.length) ' ')

/-- `POINTER_FMT`. -/
def pointerText (word : Word arch) : String := "0x" ++ hex (if arch.width = 64 then 16 else 8) word

/-- `POINTER_SHORT_FMT`. -/
def pointerShortText (word : Word arch) : String := "0x" ++ hex 0 word

/-- What stands behind the last slash. -/
def bsLastPathEntry (path : String) : String :=
  String.ofList (path.toList.reverse.takeWhile fun c => c ≠ '/').reverse

/-- The number of the entry is not in its text. -/
def bsLogBacktraceEntry (_entryNum : Nat) (address : Word arch) (dlInfo : DlInfo arch) : String :=
  let fname := (dlInfo.fname.map bsLastPathEntry).getD (pointerText dlInfo.fbase)
  let (sname, offset) := match dlInfo.sname with
    | some sname => (sname, address - dlInfo.saddr)
    | none => (pointerShortText dlInfo.fbase, address - dlInfo.fbase)
  padded fname ++ "  0x" ++ hex 8 address ++ " " ++ sname ++ " + " ++ toString offset.toNat ++ "\n"

/-! ## The frames of a thread -/

/-- The loop over the frames, with the room left in the buffer and the number
of the next reading. The address of a frame is stored before it is known that
another follows, but counted after. -/
def unwind (copyMem : Nat → Word arch → Option (BSStackFrameEntry arch)) :
    (room : Nat) → Nat → BSStackFrameEntry arch → List (Word arch)
  | 0, _, _ => []
  | room + 1, reading, frame =>
    if frame.returnAddress = 0 ∨ frame.previous = 0 then []
    else
      match copyMem reading frame.previous with
      | none => []
      | some next => frame.returnAddress :: unwind copyMem room (reading + 1) next

/-- `_bs_backtraceOfThread` up to the counted part of its buffer, or what it returns instead. -/
def backtraceBuffer (process : Process arch) (thread : UInt32) : Except String (List (Word arch)) :=
  match process.state thread with
  | none => .error ("Fail to get information about thread: " ++ toString thread.toNat)
  | some machineContext =>
    let linkRegister := bsMachLinkRegister machineContext
    let front := machineContext.instructionAddress :: if linkRegister ≠ 0 then [linkRegister] else []
    if machineContext.instructionAddress = 0 then .error "Fail to get instruction address"
    else if machineContext.framePointer = 0 then .error "Fail to get frame pointer"
    else
      match process.copyMem thread 0 machineContext.framePointer with
      | none => .error "Fail to get frame pointer"
      | some frame => .ok (front ++ unwind (process.copyMem thread) (50 - front.length) 1 frame)

def bsBacktraceOfThread (process : Process arch) (thread : UInt32) : String :=
  match backtraceBuffer process thread with
  | .error text => text
  | .ok buffer =>
    let lines := (buffer.zip (bsSymbolicate process buffer)).mapIdx fun i entry =>
      bsLogBacktraceEntry i entry.1 entry.2
    "Backtrace of Thread " ++ toString thread.toNat ++ ":\n" ++ String.join lines ++ "\n"

def bsBacktraceOfAllThread (process : Process arch) : String :=
  match process.threads with
  | none => "Fail to get information of all threads"
  | some threads => "Call Backtrace of " ++ toString threads.length ++ " threads:\n" ++
      String.join (threads.map (bsBacktraceOfThread process))

/-! ## The Mach thread of an `NSThread` -/

structure NSThread where
  port : UInt32
  name : Option String
  isMainThread : Bool
  deriving DecidableEq

/-- The name of the pthread of a Mach thread; `none` where it has no pthread. -/
abbrev PthreadNames := UInt32 → Option String

/-- Naming a thread names its pthread; no name is the empty one. -/
def NSThread.setName (nsthread : NSThread) (names : PthreadNames) (name : Option String) :
    NSThread × PthreadNames :=
  ({ nsthread with name }, fun port =>
    if port = nsthread.port ∧ (names port).isSome then some (name.getD "") else names port)

/-- The thread is given the time as its name and looked for by that; the name
is given back, but not to the main thread. -/
def bsMachThreadFromNSThread (mainThreadId self : UInt32) (list : List UInt32) (currentTimestamp : String)
    (nsthread : NSThread) (names : PthreadNames) : UInt32 × NSThread × PthreadNames :=
  let originName := nsthread.name
  let (nsthread, names) := nsthread.setName names (some currentTimestamp)
  if nsthread.isMainThread then (mainThreadId, nsthread, names)
  else
    match list.find? fun port => names port = nsthread.name with
    | some port => (port, nsthread.setName names originName)
    | none => (self, nsthread.setName names originName)

end LearningDemo.BSBacktraceLogger
