/-
What a backtrace shows, whatever the threads do meanwhile: the frames that
another frame follows, fifty at most (`Backtrace`), each by the image that is
the first to have its address in a segment, and the highest entry at or below
it in the first symbol table of the image that has one (`Symbolized`).
-/
import LearningDemo.BSBacktraceLogger
import LearningDemo.Lib.Nearest
import LearningDemo.Lib.Hex
import Mathlib.Data.List.Forall2

namespace LearningDemo.BSBacktraceLogger

open Nearest

variable {arch : Arch} {process : Process arch}

/-! ## Images -/

/-- Where a segment begins and ends; the end is computed in the width of the command. -/
def LoadCommand.extent : LoadCommand → Option (Nat × Nat)
  | .segment _ vmaddr vmsize _ => some (vmaddr.toNat, (vmaddr.toNat + vmsize.toNat) % 2 ^ 32)
  | .segment64 _ vmaddr vmsize _ => some (vmaddr.toNat, (vmaddr.toNat + vmsize.toNat) % 2 ^ 64)
  | _ => none

/-- A header of 32 or 64 bits, in either order of bytes. -/
def MachHeader.Sound (header : MachHeader arch) : Prop :=
  header.magic ∈ [0xfeedface, 0xcefaedfe, 0xfeedfacf, 0xcffaedfe]

/-- An address in a segment of an image. -/
def Image.Covers (image : Image arch) (address : Word arch) : Prop :=
  ∃ header, image.header = some header ∧ header.Sound ∧ ∃ cmd ∈ header.cmds, ∃ start stop,
    cmd.extent = some (start, stop) ∧ start ≤ (address - image.slide).toNat ∧ (address - image.slide).toNat < stop

/-- The first image of the list with the address in a segment. -/
structure FirstImage (process : Process arch) (address : Word arch) (image : Image arch)
    (header : MachHeader arch) : Prop where
  covers : image.Covers address
  header_eq : image.header = some header
  split : ∃ before after, process.images = before ++ image :: after ∧
    ∀ other ∈ before, ¬ other.Covers address

/-- How far a link-edit segment is mapped from its place in the file. -/
def LoadCommand.shift : LoadCommand → Option Nat
  | .segment segname vmaddr _ fileoff =>
    if segname = "__LINKEDIT" then some ((2 ^ 32 - fileoff.toNat + vmaddr.toNat) % 2 ^ 32) else none
  | .segment64 segname vmaddr _ fileoff =>
    if segname = "__LINKEDIT" then some ((2 ^ 64 - fileoff.toNat + vmaddr.toNat) % 2 ^ 64) else none
  | _ => none

/-- Where the file of an image would begin, by its first link-edit segment. -/
def linkeditBase (image : Image arch) (header : MachHeader arch) : Word arch :=
  .ofNat _ ((header.cmds.findSome? LoadCommand.shift).getD 0) + image.slide

theorem bsFirstCmdAfterHeader_eq_some {header : MachHeader arch} {cmds : List LoadCommand} :
    bsFirstCmdAfterHeader header = some cmds ↔ header.Sound ∧ header.cmds = cmds := by
  have hsound : header.Sound ↔ header.magic = MH_MAGIC ∨ header.magic = MH_CIGAM ∨ header.magic = MH_MAGIC_64 ∨
      header.magic = MH_CIGAM_64 := by
    simp [MachHeader.Sound, MH_MAGIC, MH_CIGAM, MH_MAGIC_64, MH_CIGAM_64]
  unfold bsFirstCmdAfterHeader
  by_cases h : header.Sound
  · rw [if_pos (hsound.mp h)]
    simp [h]
  · rw [if_neg fun hmagic => h (hsound.mpr hmagic)]
    simp [h]

theorem cmd_contains_iff {cmd : LoadCommand} {addressWSlide : Word arch} : cmd.contains addressWSlide = true ↔
    ∃ start stop, cmd.extent = some (start, stop) ∧ start ≤ addressWSlide.toNat ∧ addressWSlide.toNat < stop := by
  cases cmd <;> simp [LoadCommand.contains, LoadCommand.extent]

theorem contains_iff {image : Image arch} {address : Word arch} :
    image.contains address = true ↔ image.Covers address := by
  unfold Image.contains Image.Covers
  cases hheader : image.header with
  | none => simp
  | some header =>
    rw [Option.bind_some]
    cases hcmds : bsFirstCmdAfterHeader header with
    | none =>
      have hcorrupt : ¬ header.Sound := fun h => by
        rw [bsFirstCmdAfterHeader_eq_some.mpr ⟨h, rfl⟩] at hcmds
        cases hcmds
      simp [hcorrupt]
    | some cmds =>
      obtain ⟨hsound, rfl⟩ := bsFirstCmdAfterHeader_eq_some.mp hcmds
      simp [hsound, cmd_contains_iff]

theorem firstImage_of_some {address : Word arch} {image : Image arch}
    (h : bsImageIndexContainingAddress process.images address = some image) :
    ∃ header, header.Sound ∧ FirstImage process address image header := by
  obtain ⟨hcontains, before, after, hsplit, hbefore⟩ := List.find?_eq_some_iff_append.mp h
  have hcovers := contains_iff.mp hcontains
  have ⟨header, hheader, hsound, _⟩ := hcovers
  exact ⟨header, hsound, hcovers, hheader, before, after, hsplit, fun other hother hother' => by
    simpa [contains_iff.mpr hother'] using hbefore other hother⟩

theorem linkedit_eq (cmd : LoadCommand) : cmd.linkedit arch = cmd.shift.map (BitVec.ofNat arch.width) := by
  cases cmd with
  | segment segname vmaddr vmsize fileoff =>
    simp only [LoadCommand.linkedit, LoadCommand.shift]
    split
    · refine congrArg some (BitVec.eq_of_toNat_eq ?_)
      simp
    · rfl
  | segment64 segname vmaddr vmsize fileoff =>
    simp only [LoadCommand.linkedit, LoadCommand.shift]
    split
    · refine congrArg some (BitVec.eq_of_toNat_eq ?_)
      simp
    · rfl
  | _ => rfl

theorem segmentBase_eq {image : Image arch} {header : MachHeader arch} (hheader : image.header = some header)
    (hsound : header.Sound) : bsSegmentBaseOfImageIndex image + image.slide = linkeditBase image header := by
  have hfind : header.cmds.findSome? (LoadCommand.linkedit arch) =
      (header.cmds.findSome? LoadCommand.shift).map (BitVec.ofNat arch.width) := by
    rw [funext linkedit_eq]
    induction header.cmds with
    | nil => rfl
    | cons cmd cmds ih =>
      rw [List.findSome?_cons, List.findSome?_cons, ih]
      cases cmd.shift <;> rfl
  rw [bsSegmentBaseOfImageIndex, hheader, Option.bind_some, bsFirstCmdAfterHeader_eq_some.mpr ⟨hsound, rfl⟩,
    linkeditBase]
  dsimp only
  rw [hfind]
  cases header.cmds.findSome? LoadCommand.shift <;> rfl

/-! ## The symbol of an address -/

/-- The entry at an index of a symbol table. -/
def entryAt (process : Process arch) (table : Word arch) (i : Nat) : Nlist arch :=
  process.nlist (table + .ofNat _ ((if arch.width = 64 then 16 else 12) * i))

/-- A symbol of the image at or below an offset. -/
def Below (offset : Word arch) (symbol : Nlist arch) : Prop :=
  symbol.value ≠ 0 ∧ symbol.value.toNat ≤ offset.toNat

/-- The `i`-th of `n` entries is the highest at or below the offset, the last of these. -/
structure Highest (entry : Nat → Nlist arch) (n : Nat) (offset : Word arch) (i : Nat) : Prop where
  lt : i < n
  below : Below offset (entry i)
  le : ∀ j < n, Below offset (entry j) → (entry j).value.toNat ≤ (entry i).value.toNat
  last : ∀ j < n, i < j → Below offset (entry j) → (entry j).value.toNat < (entry i).value.toNat

/-- A symbol table with a symbol at or below the offset. -/
def HasBelow (process : Process arch) (base offset : Word arch) : LoadCommand → Prop
  | .symtab symoff _ nsyms => ∃ i < nsyms.toNat, Below offset (entryAt process (base + symoff.toBitVec.setWidth _) i)
  | _ => False

/-- The symbol for an offset, with its string table: the highest entry of the
first symbol table with one at or below the offset. -/
def Found (process : Process arch) (base offset : Word arch) (cmds : List LoadCommand) (symbol : Nlist arch)
    (stringTable : Word arch) : Prop :=
  ∃ before symoff stroff nsyms after i, cmds = before ++ .symtab symoff stroff nsyms :: after ∧
    (∀ cmd ∈ before, ¬ HasBelow process base offset cmd) ∧
    Highest (entryAt process (base + symoff.toBitVec.setWidth _)) nsyms.toNat offset i ∧
    symbol = entryAt process (base + symoff.toBitVec.setWidth _) i ∧
    stringTable = base + stroff.toBitVec.setWidth _

/-- A name without the underscore that stands in front of it. -/
def Unmarked (name text : String) : Prop :=
  name.toList = '_' :: text.toList ∨ name = text ∧ name.toList.head? ≠ some '_'

theorem dropUnderscore_unmarked (name : String) : Unmarked name (dropUnderscore name) := by
  unfold dropUnderscore
  split
  · rename_i rest hname
    exact .inl (by rw [hname, String.toList_ofList])
  · rename_i hname
    refine .inr ⟨rfl, fun hhead => ?_⟩
    cases hlist : name.toList with
    | nil => simp [hlist] at hhead
    | cons c rest =>
      rw [hlist, List.head?_cons, Option.some.injEq] at hhead
      subst hhead
      exact hname rest hlist

/-- How far a symbol is below an address; a symbol of another image has no address. -/
def distance (addressWithSlide : Word arch) (symbol : Nlist arch) : Option Nat :=
  if symbol.value ≠ 0 ∧ symbol.value ≤ addressWithSlide then
    some (addressWithSlide.toNat - symbol.value.toNat)
  else none

theorem distance_le {addressWithSlide : Word arch} {symbol : Nlist arch} {d : Nat}
    (h : distance addressWithSlide symbol = some d) : d ≤ (BitVec.allOnes arch.width).toNat := by
  unfold distance at h
  split at h
  · obtain rfl := Option.some.inj h
    have hlt := addressWithSlide.isLt
    rw [BitVec.toNat_allOnes]
    omega
  · cases h

theorem distance_of_le {addressWithSlide : Word arch} {symbol : Nlist arch} (hvalue : symbol.value ≠ 0)
    (hle : symbol.value ≤ addressWithSlide) :
    distance addressWithSlide symbol = some (addressWithSlide - symbol.value).toNat := by
  rw [distance, if_pos ⟨hvalue, hle⟩, BitVec.toNat_sub_of_le hle]

/-- The code's words are the distances of the pass. -/
theorem closer_toNat (addressWithSlide : Word arch) (best : Option (Nlist arch) × Word arch) (symbol : Nlist arch) :
    (closer addressWithSlide best symbol).map id BitVec.toNat =
      step (distance addressWithSlide) (best.map id BitVec.toNat) symbol := by
  by_cases hcand : symbol.value ≠ 0 ∧ symbol.value ≤ addressWithSlide
  · obtain ⟨hvalue, hle⟩ := hcand
    rw [closer, step, distance_of_le hvalue hle, if_pos hvalue]
    by_cases hbest : addressWithSlide - symbol.value ≤ best.2
    · rw [if_pos ⟨hle, hbest⟩]
      exact (if_pos (BitVec.le_def.mp hbest)).symm
    · rw [if_neg fun h => hbest h.2]
      exact (if_neg fun h => hbest (BitVec.le_def.mpr h)).symm
  · rw [closer, step, distance, if_neg hcand]
    by_cases hvalue : symbol.value ≠ 0
    · rw [if_pos hvalue, if_neg fun h => hcand ⟨hvalue, h.1⟩]
    · rw [if_neg hvalue]

theorem foldl_closer (addressWithSlide : Word arch) (syms : List (Nlist arch))
    (best : Option (Nlist arch) × Word arch) :
    (syms.foldl (closer addressWithSlide) best).map id BitVec.toNat =
      syms.foldl (step (distance addressWithSlide)) (best.map id BitVec.toNat) := by
  induction syms generalizing best with
  | nil => rfl
  | cons symbol syms ih => rw [List.foldl_cons, List.foldl_cons, ih, closer_toNat]

theorem distance_eq_none {addressWithSlide : Word arch} {symbol : Nlist arch} :
    distance addressWithSlide symbol = none ↔ ¬ Below addressWithSlide symbol := by
  unfold distance Below
  rw [← BitVec.le_def]
  split <;> simp_all

theorem symbols_getElem? (process : Process arch) (segmentBase : Word arch) (symoff nsyms : UInt32) {i : Nat}
    (hi : i < nsyms.toNat) : (symbols process segmentBase symoff nsyms)[i]? =
      some (entryAt process (segmentBase + symoff.toBitVec.setWidth _) i) := by
  simp [symbols, entryAt, nlistSize, hi]

/-- The entries of a table by their indices. -/
theorem mem_symbols {segmentBase : Word arch} {symoff nsyms : UInt32} {symbol : Nlist arch} :
    symbol ∈ symbols process segmentBase symoff nsyms ↔
      ∃ i < nsyms.toNat, entryAt process (segmentBase + symoff.toBitVec.setWidth _) i = symbol := by
  simp [symbols, entryAt, nlistSize]

theorem highest_of_lastNearest {segmentBase addressWithSlide : Word arch} {symoff nsyms : UInt32}
    {symbol : Nlist arch} {d : Nat}
    (h : LastNearest (distance addressWithSlide) (symbols process segmentBase symoff nsyms) symbol d) :
    ∃ i, Highest (entryAt process (segmentBase + symoff.toBitVec.setWidth _)) nsyms.toNat addressWithSlide i ∧
      symbol = entryAt process (segmentBase + symoff.toBitVec.setWidth _) i := by
  obtain ⟨front, back, hsplit, hfront, hback⟩ := h.split
  have hlength : (symbols process segmentBase symoff nsyms).length = nsyms.toNat := by simp [symbols]
  have hlt : front.length < nsyms.toNat := by
    rw [← hlength, hsplit]
    simp
  have hsymbol : symbol = entryAt process (segmentBase + symoff.toBitVec.setWidth _) front.length := by
    have hget := symbols_getElem? process segmentBase symoff nsyms hlt
    rw [hsplit] at hget
    simpa using hget
  -- a distance says how high the symbol is
  have hdist : ∀ s : Nlist arch, Below addressWithSlide s →
      distance addressWithSlide s = some (addressWithSlide.toNat - s.value.toNat) :=
    fun s hs => if_pos ⟨hs.1, BitVec.le_def.mpr hs.2⟩
  have hbelow : Below addressWithSlide symbol := by
    by_contra hnot
    cases (distance_eq_none.mpr hnot).symm.trans h.dist_eq
  obtain rfl : addressWithSlide.toNat - symbol.value.toNat = d :=
    Option.some.inj ((hdist symbol hbelow).symm.trans h.dist_eq)
  refine ⟨front.length, ⟨hlt, hsymbol ▸ hbelow, fun j hj hjb => ?_, fun j hj hij hjb => ?_⟩, hsymbol⟩
  · have hle := h.le (mem_symbols.mpr ⟨j, hj, rfl⟩) (hdist _ hjb)
    have := hbelow.2
    have := hjb.2
    rw [← hsymbol]
    omega
  · have hmem : entryAt process (segmentBase + symoff.toBitVec.setWidth _) j ∈ back := by
      have hget := symbols_getElem? process segmentBase symoff nsyms hj
      rw [hsplit, List.getElem?_append_right (by omega), show j - front.length = (j - front.length - 1) + 1 by omega,
        List.getElem?_cons_succ] at hget
      exact List.mem_of_getElem? hget
    have hlt' := hback _ hmem _ (hdist _ hjb)
    have := hbelow.2
    have := hjb.2
    rw [← hsymbol]
    omega

theorem foldl_symbols (addressWithSlide : Word arch) (syms : List (Nlist arch)) :
    let best := syms.foldl (closer addressWithSlide) (none, BitVec.allOnes _)
    (best = (none, BitVec.allOnes _) ∧ ∀ symbol ∈ syms, distance addressWithSlide symbol = none) ∨
      ∃ symbol d, best.1 = some symbol ∧ LastNearest (distance addressWithSlide) syms symbol d := by
  have hkept : Kept (distance addressWithSlide) (BitVec.allOnes arch.width).toNat syms
      (scan (distance addressWithSlide) (BitVec.allOnes arch.width).toNat syms) :=
    scan_kept fun symbol _ d h => distance_le h
  have hscan := foldl_closer addressWithSlide syms (none, BitVec.allOnes _)
  change _ = scan (distance addressWithSlide) (BitVec.allOnes arch.width).toNat syms at hscan
  rw [← hscan] at hkept
  intro best
  change Kept _ _ _ (best.map id BitVec.toNat) at hkept
  rcases hbest : best with ⟨_ | symbol, d⟩
  · rw [hbest] at hkept
    exact .inl ⟨by rw [BitVec.toNat_inj.mp hkept.1], hkept.2⟩
  · rw [hbest] at hkept
    exact .inr ⟨symbol, d.toNat, rfl, hkept⟩

/-- What the search of the commands finds. -/
def Searched (process : Process arch) (segmentBase addressWithSlide : Word arch) (cmds : List LoadCommand) :
    Option (Nlist arch × Word arch) → Prop
  | none => ∀ cmd ∈ cmds, ¬ HasBelow process segmentBase addressWithSlide cmd
  | some (symbol, stringTable) => Found process segmentBase addressWithSlide cmds symbol stringTable

theorem Searched.cons {segmentBase addressWithSlide : Word arch} {cmd : LoadCommand} {cmds : List LoadCommand}
    {found : Option (Nlist arch × Word arch)} (h : Searched process segmentBase addressWithSlide cmds found)
    (hcmd : ¬ HasBelow process segmentBase addressWithSlide cmd) :
    Searched process segmentBase addressWithSlide (cmd :: cmds) found := by
  cases found with
  | none => exact List.forall_mem_cons.mpr ⟨hcmd, h⟩
  | some found =>
    obtain ⟨before, symoff, stroff, nsyms, after, i, rfl, hbefore, hrest⟩ := h
    exact ⟨cmd :: before, symoff, stroff, nsyms, after, i, rfl, List.forall_mem_cons.mpr ⟨hcmd, hbefore⟩, hrest⟩

theorem bestMatch_searched (process : Process arch) (segmentBase addressWithSlide : Word arch)
    (cmds : List LoadCommand) : Searched process segmentBase addressWithSlide cmds
      (bestMatch process segmentBase addressWithSlide cmds (none, BitVec.allOnes _)) := by
  induction cmds with
  | nil => simp [bestMatch, Searched]
  | cons cmd cmds ih =>
    cases cmd with
    | symtab symoff stroff nsyms =>
      unfold bestMatch
      rcases foldl_symbols addressWithSlide (symbols process segmentBase symoff nsyms) with
        ⟨hnone, hpassed⟩ | ⟨symbol, d, hsome, hnear⟩
      · simp only [hnone]
        refine ih.cons ?_
        rintro ⟨i, hi, hbelow⟩
        exact distance_eq_none.mp (hpassed _ (mem_symbols.mpr ⟨i, hi, rfl⟩)) hbelow
      · simp only [hsome]
        obtain ⟨i, hhighest, hsymbol⟩ := highest_of_lastNearest hnear
        exact ⟨[], symoff, stroff, nsyms, cmds, i, rfl, by simp, hhighest, hsymbol, rfl⟩
    | segment => exact ih.cons id
    | segment64 => exact ih.cons id
    | other => exact ih.cons id

/-- What `bs_dladdr` answers for an address. -/
inductive Symbolized (process : Process arch) (address : Word arch) : Bool × DlInfo arch → Prop
  | noImage (hnone : ∀ image ∈ process.images, ¬ image.Covers address) :
      Symbolized process address (false, {})
  | noBase {image : Image arch} {header : MachHeader arch} (hfirst : FirstImage process address image header)
      (hbase : linkeditBase image header = 0) : Symbolized process address (false, {})
  | noSymbol {image : Image arch} {header : MachHeader arch} (hfirst : FirstImage process address image header)
      (hbase : linkeditBase image header ≠ 0)
      (hnone : ∀ cmd ∈ header.cmds, ¬ HasBelow process (linkeditBase image header) (address - image.slide) cmd) :
      Symbolized process address (true, { fname := image.name, fbase := header.address })
  | stripped {image : Image arch} {header : MachHeader arch} {symbol : Nlist arch} {stringTable : Word arch}
      (hfirst : FirstImage process address image header) (hbase : linkeditBase image header ≠ 0)
      (hfound : Found process (linkeditBase image header) (address - image.slide) header.cmds symbol stringTable)
      (hstripped : symbol.value + image.slide = header.address ∧ symbol.type = 3) :
      Symbolized process address
        (true, { fname := image.name, fbase := header.address, saddr := symbol.value + image.slide })
  | symbol {image : Image arch} {header : MachHeader arch} {symbol : Nlist arch} {stringTable : Word arch}
      {sname : String} (hfirst : FirstImage process address image header) (hbase : linkeditBase image header ≠ 0)
      (hfound : Found process (linkeditBase image header) (address - image.slide) header.cmds symbol stringTable)
      (hsymbol : ¬ (symbol.value + image.slide = header.address ∧ symbol.type = 3))
      (hsname : Unmarked (process.cstring (stringTable + symbol.strx.toBitVec.setWidth _)) sname) :
      Symbolized process address
        (true, { fname := image.name, fbase := header.address, saddr := symbol.value + image.slide
                 sname := some sname })

/-- **The nearest symbol is found.** An address has the image that is first
to have it in a segment, and the highest of its symbols that is not above it. -/
theorem bsDladdr_symbolized (process : Process arch) (address : Word arch) :
    Symbolized process address (bsDladdr process address) := by
  unfold bsDladdr
  cases hindex : bsImageIndexContainingAddress process.images address with
  | none =>
    refine .noImage fun image himage hcovers => ?_
    simpa [contains_iff.mpr hcovers] using List.find?_eq_none.mp hindex image himage
  | some image =>
    obtain ⟨header, hsound, hfirst⟩ := firstImage_of_some hindex
    have hheader := hfirst.header_eq
    have hcmds := bsFirstCmdAfterHeader_eq_some.mpr ⟨hsound, rfl⟩
    dsimp only
    rw [segmentBase_eq hheader hsound]
    by_cases hbase : linkeditBase image header = 0
    · rw [if_pos hbase]
      exact .noBase hfirst hbase
    · rw [if_neg hbase, hheader]
      dsimp only
      rw [hcmds]
      have hsearch := bestMatch_searched process (linkeditBase image header) (address - image.slide) header.cmds
      dsimp only
      cases hmatch : bestMatch process (linkeditBase image header) (address - image.slide) header.cmds
          (none, BitVec.allOnes _) with
      | none =>
        rw [hmatch] at hsearch
        exact .noSymbol hfirst hbase hsearch
      | some found =>
        obtain ⟨symbol, stringTable⟩ := found
        rw [hmatch] at hsearch
        dsimp only
        split
        · rename_i hstripped
          exact .stripped hfirst hbase hsearch hstripped
        · rename_i hsymbol
          exact .symbol hfirst hbase hsearch hsymbol (dropUnderscore_unmarked _)

/-- One image with two symbols, and a thread whose last frame but one is in front of both. -/
def sampleProcess : Process .arm64 where
  threads := some [7]
  state thread :=
    if thread = 7 then some { framePointer := 0x100, linkRegister := 0x1025, instructionAddress := 0x1014 } else none
  copyMem _ _ address :=
    if address = 0x100 then some { previous := 0x200, returnAddress := 0x1012 }
    else if address = 0x200 then some { previous := 0, returnAddress := 0x1033 }
    else none
  images := [{
    name := some "/bin/demo"
    slide := 0x1000
    header := some {
      address := 0x1000
      magic := 0xfeedfacf
      cmds := [.segment64 "__TEXT" 0 0x100 0, .segment64 "__LINKEDIT" 0x100 0x100 0, .symtab 0x10 0x80 2] } }]
  nlist address :=
    if address = 0x1110 then { strx := 1, type := 15, value := 0x10 } else { strx := 7, type := 15, value := 0x20 }
  cstring address := if address = 0x1181 then "_main" else "_run"

theorem bsDladdr_symbolized_sample : Symbolized sampleProcess 0x1014
    (true, { fname := some "/bin/demo", fbase := 0x1000, saddr := 0x1010, sname := some "main" }) :=
  have heq : bsDladdr sampleProcess 0x1014 =
      (true, { fname := some "/bin/demo", fbase := 0x1000, saddr := 0x1010, sname := some "main" }) := by decide
  heq ▸ bsDladdr_symbolized sampleProcess 0x1014

/-! ## The frames of a thread -/

/-- From a frame to a frame that follows it, and the return addresses of the
frames before; readings are numbered. -/
inductive Unwinds (copyMem : Nat → Word arch → Option (BSStackFrameEntry arch)) :
    Nat → BSStackFrameEntry arch → List (Word arch) → Nat → BSStackFrameEntry arch → Prop
  | stay {reading : Nat} {frame : BSStackFrameEntry arch} : Unwinds copyMem reading frame [] reading frame
  | step {reading stop : Nat} {frame next last : BSStackFrameEntry arch} {addresses : List (Word arch)}
      (hreturn : frame.returnAddress ≠ 0) (hprevious : frame.previous ≠ 0)
      (hread : copyMem reading frame.previous = some next)
      (hrest : Unwinds copyMem (reading + 1) next addresses stop last) :
      Unwinds copyMem reading frame (frame.returnAddress :: addresses) stop last

/-- A frame that no frame follows. -/
def Ends (copyMem : Nat → Word arch → Option (BSStackFrameEntry arch)) (reading : Nat)
    (frame : BSStackFrameEntry arch) : Prop :=
  frame.returnAddress = 0 ∨ frame.previous = 0 ∨ copyMem reading frame.previous = none

theorem unwind_spec (copyMem : Nat → Word arch → Option (BSStackFrameEntry arch)) (room reading : Nat)
    (frame : BSStackFrameEntry arch) : ∃ stop last,
      Unwinds copyMem reading frame (unwind copyMem room reading frame) stop last ∧
      (unwind copyMem room reading frame).length ≤ room ∧
      ((unwind copyMem room reading frame).length < room → Ends copyMem stop last) := by
  induction room generalizing reading frame with
  | zero => exact ⟨reading, frame, .stay, by simp [unwind]⟩
  | succ room ih =>
    unfold unwind
    split
    · rename_i hstop
      exact ⟨reading, frame, .stay, by simp, fun _ => hstop.imp_right .inl⟩
    · rename_i hgo
      rw [not_or] at hgo
      cases hread : copyMem reading frame.previous with
      | none => exact ⟨reading, frame, .stay, by simp, fun _ => .inr (.inr hread)⟩
      | some next =>
        obtain ⟨stop, last, hrest, hlength, hends⟩ := ih (reading + 1) next
        exact ⟨stop, last, .step hgo.1 hgo.2 hread hrest, by simpa using hlength, fun h => hends (by simpa using h)⟩

/-- The processors with a register for the address to return to. -/
def Arch.Links : Arch → Prop
  | .arm64 | .arm => True
  | .x86_64 | .i386 => False

/-- The addresses that the registers hold: that of the instruction, and where
there is one and it is not 0 that of the link register. -/
inductive Registers (machineContext : MachineContext arch) : List (Word arch) → Prop
  | linked (hlinks : arch.Links) (hlink : machineContext.linkRegister ≠ 0) :
      Registers machineContext [machineContext.instructionAddress, machineContext.linkRegister]
  | plain (hnone : ¬ arch.Links ∨ machineContext.linkRegister = 0) :
      Registers machineContext [machineContext.instructionAddress]

theorem registers_front (machineContext : MachineContext arch) : Registers machineContext
    (machineContext.instructionAddress ::
      if bsMachLinkRegister machineContext ≠ 0 then [bsMachLinkRegister machineContext] else []) := by
  by_cases hlinks : arch.Links
  · have heq : bsMachLinkRegister machineContext = machineContext.linkRegister := by
      cases arch with
      | arm64 | arm => rfl
      | x86_64 | i386 => exact hlinks.elim
    rw [heq]
    by_cases hlink : machineContext.linkRegister = 0
    · rw [if_neg (not_not.mpr hlink)]
      exact .plain (.inr hlink)
    · rw [if_pos hlink]
      exact .linked hlinks hlink
  · have heq : bsMachLinkRegister machineContext = 0 := by
      cases arch with
      | arm64 | arm => exact (hlinks trivial).elim
      | x86_64 | i386 => rfl
    rw [heq, if_neg (not_not.mpr rfl)]
    exact .plain (.inl hlinks)

theorem Registers.length_le {machineContext : MachineContext arch} {front : List (Word arch)}
    (h : Registers machineContext front) : front.length ≤ 50 := by
  cases h <;> simp

/-- The addresses of a backtrace: the registers, then the return addresses of
the frames that another follows, to the last such frame or to fifty in all. -/
inductive Backtrace (process : Process arch) (thread : UInt32) : List (Word arch) → Prop
  | intro {machineContext : MachineContext arch} {frame last : BSStackFrameEntry arch} {stop : Nat}
      {front addresses : List (Word arch)} (hstate : process.state thread = some machineContext)
      (hregisters : Registers machineContext front) (hinstruction : machineContext.instructionAddress ≠ 0)
      (hframe : machineContext.framePointer ≠ 0)
      (hread : process.copyMem thread 0 machineContext.framePointer = some frame)
      (hunwinds : Unwinds (process.copyMem thread) 1 frame addresses stop last)
      (hlength : (front ++ addresses).length ≤ 50)
      (hends : (front ++ addresses).length < 50 → Ends (process.copyMem thread) stop last) :
      Backtrace process thread (front ++ addresses)

/-- What is returned where there is no first frame. -/
inductive Failure (process : Process arch) (thread : UInt32) : String → Prop
  | state (hstate : process.state thread = none) :
      Failure process thread ("Fail to get information about thread: " ++ toString thread.toNat)
  | instruction {machineContext : MachineContext arch} (hstate : process.state thread = some machineContext)
      (hinstruction : machineContext.instructionAddress = 0) :
      Failure process thread "Fail to get instruction address"
  | frame {machineContext : MachineContext arch} (hstate : process.state thread = some machineContext)
      (hinstruction : machineContext.instructionAddress ≠ 0)
      (hframe : machineContext.framePointer = 0 ∨ process.copyMem thread 0 machineContext.framePointer = none) :
      Failure process thread "Fail to get frame pointer"

variable {thread : UInt32}

theorem backtraceBuffer_spec (process : Process arch) (thread : UInt32) :
    (∃ text, backtraceBuffer process thread = .error text ∧ Failure process thread text) ∨
      ∃ buffer, backtraceBuffer process thread = .ok buffer ∧ Backtrace process thread buffer := by
  unfold backtraceBuffer
  cases hstate : process.state thread with
  | none => exact .inl ⟨_, rfl, .state hstate⟩
  | some machineContext =>
    dsimp only
    by_cases hinstruction : machineContext.instructionAddress = 0
    · rw [if_pos hinstruction]
      exact .inl ⟨_, rfl, .instruction hstate hinstruction⟩
    · rw [if_neg hinstruction]
      by_cases hframe : machineContext.framePointer = 0
      · rw [if_pos hframe]
        exact .inl ⟨_, rfl, .frame hstate hinstruction (.inl hframe)⟩
      · rw [if_neg hframe]
        cases hread : process.copyMem thread 0 machineContext.framePointer with
        | none => exact .inl ⟨_, rfl, .frame hstate hinstruction (.inr hread)⟩
        | some frame =>
          have hregisters := registers_front machineContext
          obtain ⟨front, hfront⟩ : ∃ front, (machineContext.instructionAddress ::
            if bsMachLinkRegister machineContext ≠ 0 then [bsMachLinkRegister machineContext] else []) = front :=
            ⟨_, rfl⟩
          rw [hfront] at hregisters
          obtain ⟨stop, last, hunwinds, hlength, hends⟩ :=
            unwind_spec (process.copyMem thread) (50 - front.length) 1 frame
          have hle := hregisters.length_le
          refine .inr ⟨front ++ unwind (process.copyMem thread) (50 - front.length) 1 frame, by rw [← hfront],
            .intro hstate hregisters hinstruction hframe hread hunwinds ?_ fun hlt => hends ?_⟩
          · rw [List.length_append]
            omega
          · rw [List.length_append] at hlt
            omega

/-! ## The lines -/

/-- What an address to return to is a multiple of, below its tags. -/
def Arch.instructionSize : Arch → Nat
  | .arm64 => 4
  | .arm => 2
  | .x86_64 | .i386 => 1

/-- The address whose symbol is shown: the others but the first return to behind a call. -/
def lookedUp (i : Nat) (address : Word arch) : Word arch :=
  if i = 0 then address
  else .ofNat _ (address.toNat / arch.instructionSize * arch.instructionSize) - 1

/-- Without its lowest bits a word is a multiple. -/
theorem and_not_eq {w : Nat} (k : Nat) (x : BitVec w) :
    x &&& ~~~BitVec.ofNat w (2 ^ k - 1) = BitVec.ofNat w (x.toNat / 2 ^ k * 2 ^ k) := by
  refine BitVec.eq_of_getLsbD_eq fun i hi => ?_
  have hhigh : (x.toNat / 2 ^ k * 2 ^ k).testBit i = (decide (k ≤ i) && x.toNat.testBit i) := by
    rw [Nat.testBit_mul_two_pow, Nat.testBit_div_two_pow]
    by_cases hk : k ≤ i
    · rw [Nat.sub_add_cancel hk]
    · simp [hk]
  rw [BitVec.getLsbD_and, BitVec.getLsbD_not, BitVec.getLsbD_ofNat, BitVec.getLsbD_ofNat, hhigh,
    Nat.testBit_two_pow_sub_one, ← BitVec.testBit_toNat]
  by_cases hk : k ≤ i
  · simp [hi, hk]
  · simp [hi, hk, Nat.not_le.mp hk]

theorem callInstruction_eq (address : Word arch) : CALL_INSTRUCTION_FROM_RETURN_ADDRESS address =
    .ofNat _ (address.toNat / arch.instructionSize * arch.instructionSize) - 1 := by
  rw [CALL_INSTRUCTION_FROM_RETURN_ADDRESS]
  cases arch with
  | arm64 => exact congrArg (· - 1) (and_not_eq 2 address)
  | arm => exact congrArg (· - 1) (and_not_eq 1 address)
  | x86_64 | i386 => simp [DETAG_INSTRUCTION_ADDRESS, Arch.instructionSize]

/-- The file of a line: what stands behind the last slash, or else where the image is. -/
def File (info : DlInfo arch) (file : List Char) : Prop :=
  match info.fname with
  | some path => ∃ directory, path.toList = directory ++ file ∧ '/' ∉ file ∧
      (directory = [] ∨ directory.getLast? = some '/')
  | none => ∃ digits, file = '0' :: 'x' :: digits ∧ Hex.Numeral (arch.width / 4) info.fbase.toNat digits

/-- The symbol of a line, or else where the image is, and how far behind that the address is. -/
def Place (address : Word arch) (info : DlInfo arch) (name : List Char) (offset : Word arch) : Prop :=
  match info.sname with
  | some sname => name = sname.toList ∧ offset = address - info.saddr
  | none => ∃ digits, name = '0' :: 'x' :: digits ∧ Hex.Numeral 0 info.fbase.toNat digits ∧
      offset = address - info.fbase

/-- The line of an address and what is known of it: the file in a column of
thirty characters, the address in at least eight digits, and the place. -/
def Line (address : Word arch) (info : DlInfo arch) (line : String) : Prop :=
  ∃ file digits name offset, File info file ∧ Hex.Numeral 8 address.toNat digits ∧ Place address info name offset ∧
    line = String.ofList (file ++ List.replicate (30 - file.length) ' ') ++ "  0x" ++ String.ofList digits ++ " " ++
      String.ofList name ++ " + " ++ toString offset.toNat ++ "\n"

theorem hex_numeral (width : Nat) (word : Word arch) : Hex.Numeral width word.toNat (hex width word).toList := by
  rw [hex, String.toList_ofList]
  exact Hex.numeral_toDigits width word.toNat

theorem bsLastPathEntry_file (path : String) : ∃ directory, path.toList = directory ++ (bsLastPathEntry path).toList ∧
    '/' ∉ (bsLastPathEntry path).toList ∧ (directory = [] ∨ directory.getLast? = some '/') := by
  obtain ⟨back, hback⟩ : ∃ back, path.toList.reverse = back := ⟨_, rfl⟩
  have hpath : path.toList = back.reverse := by rw [← hback, List.reverse_reverse]
  refine ⟨(back.dropWhile fun c => c ≠ '/').reverse, ?_, ?_, ?_⟩
  · rw [bsLastPathEntry, String.toList_ofList, hback, ← List.reverse_append, List.takeWhile_append_dropWhile, hpath]
  · rw [bsLastPathEntry, String.toList_ofList, hback, List.mem_reverse]
    intro hslash
    simpa using List.all_eq_true.mp (List.all_takeWhile (l := back) (p := fun c => c ≠ '/')) _ hslash
  · rw [List.getLast?_reverse]
    cases hrest : back.dropWhile fun c => c ≠ '/' with
    | nil => exact .inl rfl
    | cons c rest =>
      have hc := List.head?_dropWhile_not (fun c => c ≠ '/') back
      rw [hrest] at hc
      exact .inr (congrArg some (by simpa using hc))

theorem bsLogBacktraceEntry_line (i : Nat) (address : Word arch) (info : DlInfo arch) :
    Line address info (bsLogBacktraceEntry i address info) := by
  have hfile : File info ((info.fname.map bsLastPathEntry).getD (pointerText info.fbase)).toList := by
    unfold File
    cases info.fname with
    | some path => exact bsLastPathEntry_file path
    | none =>
      have hwidth : (if arch.width = 64 then 16 else 8) = arch.width / 4 := by cases arch <;> rfl
      refine ⟨_, ?_, hex_numeral (arch.width / 4) info.fbase⟩
      rw [Option.map_none, Option.getD_none, pointerText, hwidth, String.toList_append]
      rfl
  have hpadded : ∀ text : String, padded text =
      String.ofList (text.toList ++ List.replicate (30 - text.toList.length) ' ') := by
    intro text
    rw [padded, String.ofList_append, String.ofList_toList, String.length_toList]
  unfold Line bsLogBacktraceEntry
  cases hsname : info.sname with
  | some sname =>
    refine ⟨_, _, sname.toList, address - info.saddr, hfile, hex_numeral 8 address, ?_, ?_⟩
    · simp only [Place, hsname, and_self]
    · rw [← hpadded, String.ofList_toList, String.ofList_toList]
  | none =>
    refine ⟨_, _, (pointerShortText info.fbase).toList, address - info.fbase, hfile, hex_numeral 8 address, ?_, ?_⟩
    · simp only [Place, hsname, and_true]
      refine ⟨_, ?_, hex_numeral 0 info.fbase⟩
      rw [pointerShortText, String.toList_append]
      rfl
    · rw [← hpadded, String.ofList_toList, String.ofList_toList]

/-- The lines of addresses, the first of which has the number `i`. -/
inductive Lines (process : Process arch) : Nat → List (Word arch) → List String → Prop
  | nil {i : Nat} : Lines process i [] []
  | cons {i : Nat} {address : Word arch} {answer : Bool × DlInfo arch} {line : String} {addresses : List (Word arch)}
      {lines : List String} (hsymbol : Symbolized process (lookedUp i address) answer)
      (hline : Line address answer.2 line) (hrest : Lines process (i + 1) addresses lines) :
      Lines process i (address :: addresses) (line :: lines)

theorem lines_mapIdx (process : Process arch) (i : Nat) (buffer : List (Word arch)) :
    Lines process i buffer (buffer.mapIdx fun j address =>
      bsLogBacktraceEntry (i + j) address (bsDladdr process (lookedUp (i + j) address)).2) := by
  induction buffer generalizing i with
  | nil => exact .nil
  | cons address buffer ih =>
    rw [List.mapIdx_cons]
    refine .cons (bsDladdr_symbolized process _) (bsLogBacktraceEntry_line _ address _) ?_
    simpa only [Nat.add_assoc, Nat.add_comm 1] using ih (i + 1)

theorem lines_symbolicate (process : Process arch) (buffer : List (Word arch)) : Lines process 0 buffer
    ((buffer.zip (bsSymbolicate process buffer)).mapIdx fun i entry => bsLogBacktraceEntry i entry.1 entry.2) := by
  have heq : ((buffer.zip (bsSymbolicate process buffer)).mapIdx fun i entry =>
      bsLogBacktraceEntry i entry.1 entry.2) = buffer.mapIdx fun i address =>
        bsLogBacktraceEntry (0 + i) address (bsDladdr process (lookedUp (0 + i) address)).2 := by
    refine List.ext_getElem (by simp [bsSymbolicate]) fun i hi hi' => ?_
    simp [bsSymbolicate, lookedUp, callInstruction_eq]
  rw [heq]
  exact lines_mapIdx process 0 buffer

/-- What is said of a thread: that it failed, or its addresses, a line each. -/
def Shown (process : Process arch) (thread : UInt32) (text : String) : Prop :=
  Failure process thread text ∨ ∃ buffer lines, Backtrace process thread buffer ∧ Lines process 0 buffer lines ∧
    text = "Backtrace of Thread " ++ toString thread.toNat ++ ":\n" ++ String.join lines ++ "\n"

/-- **Every frame is shown.** Whatever the other threads do, a backtrace is one
of the failures, or shows the registers and the frames that another follows,
fifty addresses at most, in order. -/
theorem bsBacktraceOfThread_shows (process : Process arch) (thread : UInt32) :
    Shown process thread (bsBacktraceOfThread process thread) := by
  unfold bsBacktraceOfThread
  rcases backtraceBuffer_spec process thread with ⟨text, heq, hfailure⟩ | ⟨buffer, heq, hbacktrace⟩
  · rw [heq]
    exact .inl hfailure
  · rw [heq]
    exact .inr ⟨buffer, _, hbacktrace, lines_symbolicate process buffer, rfl⟩

theorem bsBacktraceOfThread_shows_sample : Shown sampleProcess 7
    ("Backtrace of Thread 7:\n" ++
      "demo                            0x00001014 main + 4\n" ++
      "demo                            0x00001025 run + 5\n" ++
      "demo                            0x00001012 0x1000 + 18\n\n") :=
  have heq : bsBacktraceOfThread sampleProcess 7 = "Backtrace of Thread 7:\n" ++
      "demo                            0x00001014 main + 4\n" ++
      "demo                            0x00001025 run + 5\n" ++
      "demo                            0x00001012 0x1000 + 18\n\n" := by decide +kernel
  heq ▸ bsBacktraceOfThread_shows sampleProcess 7

/-- All threads are shown, one after another. -/
theorem bsBacktraceOfAllThread_shows {threads : List UInt32} (h : process.threads = some threads) :
    ∃ texts, List.Forall₂ (Shown process) threads texts ∧ bsBacktraceOfAllThread process =
      "Call Backtrace of " ++ toString threads.length ++ " threads:\n" ++ String.join texts := by
  refine ⟨threads.map (bsBacktraceOfThread process), ?_, by rw [bsBacktraceOfAllThread, h]⟩
  rw [List.forall₂_map_right_iff]
  exact List.forall₂_same.mpr fun thread _ => bsBacktraceOfThread_shows process thread

/-! ## The Mach thread of an `NSThread` -/

section NSThread

variable {mainThreadId self : UInt32} {list : List UInt32} {currentTimestamp : String} {nsthread : NSThread}
  {names : PthreadNames}

@[simp] theorem setName_port (name : Option String) : (nsthread.setName names name).1.port = nsthread.port := rfl

@[simp] theorem setName_name (name : Option String) : (nsthread.setName names name).1.name = name := rfl

@[simp] theorem setName_isMainThread (name : Option String) :
    (nsthread.setName names name).1.isMainThread = nsthread.isMainThread := rfl

theorem setName_names_self (h : (names nsthread.port).isSome) (name : Option String) :
    (nsthread.setName names name).2 nsthread.port = some (name.getD "") := if_pos ⟨rfl, h⟩

theorem setName_names_of_ne {port : UInt32} (h : port ≠ nsthread.port) (name : Option String) :
    (nsthread.setName names name).2 port = names port := if_neg fun hport => h hport.1

theorem setName_setName (hname : names nsthread.port = some (nsthread.name.getD "")) (name : Option String) :
    (nsthread.setName names name).1.setName (nsthread.setName names name).2 nsthread.name = (nsthread, names) := by
  refine Prod.ext rfl (funext fun port => ?_)
  by_cases hport : port = nsthread.port
  · subst hport
    have hsome : (names nsthread.port).isSome := by rw [hname]; rfl
    exact (if_pos ⟨rfl, by rw [setName_names_self hsome]; rfl⟩).trans hname.symm
  · have hother : port ≠ (nsthread.setName names name).1.port := hport
    exact (setName_names_of_ne hother _).trans (setName_names_of_ne hport _)

/-- **The thread is found by its name.** Where no thread has the time as its
name, the Mach thread of a thread is its own, and all names are what they were
if and only if it is not the main thread. -/
theorem bsMachThreadFromNSThread_found (hname : names nsthread.port = some (nsthread.name.getD ""))
    (hfresh : ∀ port ∈ list, names port ≠ some currentTimestamp) (hmem : nsthread.port ∈ list)
    (hmain : nsthread.isMainThread → mainThreadId = nsthread.port) :
    (bsMachThreadFromNSThread mainThreadId self list currentTimestamp nsthread names).1 = nsthread.port ∧
      ((bsMachThreadFromNSThread mainThreadId self list currentTimestamp nsthread names).2 = (nsthread, names) ↔
        nsthread.isMainThread = false) := by
  have hsome : (names nsthread.port).isSome := by rw [hname]; rfl
  have hself := setName_names_self hsome (some currentTimestamp)
  cases hcase : nsthread.isMainThread with
  | true =>
    have heq : bsMachThreadFromNSThread mainThreadId self list currentTimestamp nsthread names =
        (mainThreadId, nsthread.setName names (some currentTimestamp)) := if_pos hcase
    rw [heq]
    refine ⟨hmain hcase, fun h => ?_, fun h => by cases h⟩
    -- its pthread still has the time as its name
    have hnames : (nsthread.setName names (some currentTimestamp)).2 = names := congrArg Prod.snd h
    rw [hnames] at hself
    exact absurd hself (hfresh nsthread.port hmem)
  | false =>
    have hfind : (list.find? fun port => (nsthread.setName names (some currentTimestamp)).2 port =
        (nsthread.setName names (some currentTimestamp)).1.name) = some nsthread.port := by
      cases hfound : list.find? fun port => (nsthread.setName names (some currentTimestamp)).2 port =
          (nsthread.setName names (some currentTimestamp)).1.name with
      | none => exact absurd (decide_eq_true hself) (List.find?_eq_none.mp hfound nsthread.port hmem)
      | some port =>
        have hport := List.find?_some hfound
        by_cases hne : port = nsthread.port
        · rw [hne]
        · rw [setName_names_of_ne hne] at hport
          exact absurd (of_decide_eq_true hport) (hfresh port (List.mem_of_find?_eq_some hfound))
    have heq : bsMachThreadFromNSThread mainThreadId self list currentTimestamp nsthread names =
        (nsthread.port, nsthread, names) := by
      unfold bsMachThreadFromNSThread
      dsimp only
      rw [setName_isMainThread, hcase, if_neg Bool.false_ne_true, hfind]
      exact congrArg (Prod.mk nsthread.port) (setName_setName hname _)
    rw [heq]
    exact ⟨rfl, by simp⟩

def worker : NSThread := { port := 5, name := some "worker", isMainThread := false }

def workerNames : PthreadNames := fun port => if port = 5 then some "worker" else some ""

theorem bsMachThreadFromNSThread_worker :
    (bsMachThreadFromNSThread 3 3 [3, 5] "1.5" worker workerNames).1 = 5 ∧
      ((bsMachThreadFromNSThread 3 3 [3, 5] "1.5" worker workerNames).2 = (worker, workerNames) ↔
        worker.isMainThread = false) :=
  bsMachThreadFromNSThread_found rfl (by simp [workerNames]) (by decide) (by decide)

end NSThread

end LearningDemo.BSBacktraceLogger
