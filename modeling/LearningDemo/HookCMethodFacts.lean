/-
What a process's memory is after any run of calls and images: every pointer
whose symbol is rebound holds the newest rebinding's replacement, a cell that
was to keep the original holds it or an older replacement, and the rest is
what it would be without the calls.

The loops of the source are one walk over the pointers of an image (`slots`),
and the walk is the library's `patchAll`.
-/
import LearningDemo.HookCMethod
import Mathlib.Data.List.Nodup

namespace LearningDemo.HookCMethod

open Overwrite

/-- A pointer of an image with the name of its symbol, the first character left out. -/
structure Slot where
  address : UInt64
  name : CStr

/-! ## The pointers of an image -/

/-- The pointer at an index of a section, unless it has no symbol. -/
def slotAt (image : Image) (sect : Section) (tables : Tables) (i : Nat) : Option Slot :=
  let symtabIndex := image.word32 (tables.indirectSymtab + 4 * sect.reserved1.toUInt64 + 4 * i.toUInt64)
  if symtabIndex = INDIRECT_SYMBOL_ABS ∨ symtabIndex = INDIRECT_SYMBOL_LOCAL ∨
      symtabIndex = INDIRECT_SYMBOL_LOCAL ||| INDIRECT_SYMBOL_ABS then none
  else
    let strtabOffset := image.word32 (tables.symtab + 16 * symtabIndex.toUInt64)
    let symbolName := image.cstring (tables.strtab + strtabOffset.toUInt64)
    if symbolName.length < 2 then none
    else some { address := image.slide + sect.addr + 8 * i.toUInt64, name := symbolName.tail }

def sectionSlots (image : Image) (tables : Tables) (sect : Section) : List Slot :=
  if sect.flags &&& SECTION_TYPE = S_LAZY_SYMBOL_POINTERS ∨
      sect.flags &&& SECTION_TYPE = S_NON_LAZY_SYMBOL_POINTERS then
    (List.range (sect.size / 8)).filterMap (slotAt image sect tables)
  else []

def cmdSlots (image : Image) (tables : Tables) : LoadCommand → List Slot
  | .segment segname _ _ sections =>
    if segname ≠ "__DATA" ∧ segname ≠ "__DATA_CONST" then [] else sections.flatMap (sectionSlots image tables)
  | _ => []

def Image.slots (image : Image) : List Slot :=
  if image.known = false then []
  else
    match image.tables with
    | none => []
    | some tables => image.cmds.flatMap (cmdSlots image tables)

/-- What a pass is to do to a pointer. -/
def patchOf (head : List RebindingsEntry) (slot : Slot) : Option (UInt64 × Patch UInt64 UInt64) :=
  (findRebinding head slot.name).map fun r => (slot.address, { value := r.replacement, saved := r.replaced })

variable {head : List RebindingsEntry} {image : Image} {mem : Mem} {ps : List Slot} {calls : Calls}

theorem bindSymbol_eq (mem : Mem) (binding : UInt64) (r : Rebinding) :
    bindSymbol mem binding r = words.patchAt mem binding { value := r.replacement, saved := r.replaced } := by
  unfold bindSymbol Store.patchAt Store.save
  cases r.replaced <;> rfl

theorem performRebindingWithSection_eq (head : List RebindingsEntry) (image : Image) (sect : Section)
    (tables : Tables) (mem : Mem) : performRebindingWithSection head image sect tables mem =
      words.patchAll (((List.range (sect.size / 8)).filterMap (slotAt image sect tables)).filterMap (patchOf head)) mem := by
  rw [performRebindingWithSection, Store.patchAll, List.filterMap_filterMap, List.foldl_filterMap]
  congr 1
  funext mem i
  dsimp only [slotAt]
  split
  · rfl
  · split
    · rfl
    · dsimp only [patchOf, Option.bind_some]
      cases findRebinding head _ with
      | none => rfl
      | some r => exact bindSymbol_eq mem _ r

/-- A section is of one type at most, so it is passed over once. -/
theorem rebindSection_eq (head : List RebindingsEntry) (image : Image) (tables : Tables) (sect : Section) (mem : Mem) :
    (let mem := if sect.flags &&& SECTION_TYPE = S_LAZY_SYMBOL_POINTERS then
        performRebindingWithSection head image sect tables mem else mem
      if sect.flags &&& SECTION_TYPE = S_NON_LAZY_SYMBOL_POINTERS then
        performRebindingWithSection head image sect tables mem else mem) =
      words.patchAll ((sectionSlots image tables sect).filterMap (patchOf head)) mem := by
  dsimp only [sectionSlots]
  by_cases hlazy : sect.flags &&& SECTION_TYPE = S_LAZY_SYMBOL_POINTERS
  · rw [if_pos hlazy, if_neg (by rw [hlazy]; decide), if_pos (.inl hlazy), performRebindingWithSection_eq]
  · rw [if_neg hlazy]
    by_cases hnon : sect.flags &&& SECTION_TYPE = S_NON_LAZY_SYMBOL_POINTERS
    · rw [if_pos hnon, if_pos (.inr hnon), performRebindingWithSection_eq]
    · rw [if_neg hnon, if_neg (fun h => h.elim hlazy hnon)]
      rfl

/-- The pass over an image is one walk over its pointers. -/
theorem rebindSymbolsForImage_eq (head : List RebindingsEntry) (image : Image) (mem : Mem) :
    rebindSymbolsForImage head image mem = words.patchAll (image.slots.filterMap (patchOf head)) mem := by
  unfold rebindSymbolsForImage Image.slots
  by_cases hknown : image.known = false
  · rw [if_pos hknown, if_pos hknown]
    rfl
  · rw [if_neg hknown, if_neg hknown]
    cases image.tables with
    | none => rfl
    | some tables =>
      dsimp only
      rw [Store.patchAll, List.filterMap_flatMap, List.foldl_flatMap]
      congr 1
      funext mem cmd
      cases cmd with
      | segment segname vmaddr fileoff sections =>
        dsimp only [cmdSlots]
        split
        · rfl
        · rw [List.filterMap_flatMap, List.foldl_flatMap]
          congr 1
          funext mem sect
          exact rebindSection_eq head image tables sect mem
      | _ => rfl

/-! ## A pass over pointers -/

/-- The addresses of pointers, and the cells of rebindings. -/
def addresses (ps : List Slot) : List UInt64 := ps.map Slot.address

def cells (head : List RebindingsEntry) : List UInt64 := head.flatten.filterMap Rebinding.replaced

/-- What a pointer that held `held` is to hold: the replacement of the first
rebinding of its name, the newest entry read first. -/
def bound (head : List RebindingsEntry) (slot : Slot) (held : UInt64) : UInt64 :=
  match head.flatten.find? fun r => r.name = slot.name with
  | none => held
  | some r => r.replacement

theorem findRebinding_eq (head : List RebindingsEntry) (name : CStr) :
    findRebinding head name = head.flatten.find? fun r => r.name = name := by
  rw [findRebinding, List.find?_flatten]

theorem findRebinding_spec {name : CStr} {r : Rebinding} (h : findRebinding head name = some r) :
    r ∈ head.flatten ∧ r.name = name := by
  rw [findRebinding_eq] at h
  exact ⟨List.mem_of_find?_eq_some h, by simpa using List.find?_some h⟩

theorem mem_patches {ap : UInt64 × Patch UInt64 UInt64} (h : ap ∈ ps.filterMap (patchOf head)) :
    ∃ slot ∈ ps, ∃ r, findRebinding head slot.name = some r ∧
      ap = (slot.address, { value := r.replacement, saved := r.replaced }) := by
  obtain ⟨slot, hslot, hap⟩ := List.mem_filterMap.mp h
  obtain ⟨r, hr, rfl⟩ := Option.map_eq_some_iff.mp hap
  exact ⟨slot, hslot, r, hr, rfl⟩

theorem targets_sublist (head : List RebindingsEntry) (ps : List Slot) :
    (targets (ps.filterMap (patchOf head))).Sublist (addresses ps) := by
  induction ps with
  | nil => exact .slnil
  | cons slot ps ih =>
    rw [List.filterMap_cons]
    cases hp : patchOf head slot with
    | none => exact ih.cons _
    | some ap =>
      obtain ⟨r, -, rfl⟩ := Option.map_eq_some_iff.mp hp
      exact ih.cons_cons _

theorem keepers_subset (head : List RebindingsEntry) (ps : List Slot) :
    keepers (ps.filterMap (patchOf head)) ⊆ cells head := by
  intro c hc
  obtain ⟨ap, hap, hsaved⟩ := List.mem_filterMap.mp hc
  obtain ⟨slot, -, r, hr, rfl⟩ := mem_patches hap
  exact List.mem_filterMap.mpr ⟨r, (findRebinding_spec hr).1, hsaved⟩

/-- Every cell of one list is apart from every cell of the other. -/
def AllApart (cs as : List UInt64) : Prop := ∀ c ∈ cs, ∀ a ∈ as, WordsApart c a

/-- Pointers that a pass may be made over: they and the cells are words apart. -/
structure Apart (head : List RebindingsEntry) (ps : List Slot) : Prop where
  pointers : (addresses ps).Pairwise WordsApart
  keep : (cells head).Pairwise WordsApart
  free : AllApart (cells head) (addresses ps)

theorem Apart.targets (h : Apart head ps) :
    (targets (ps.filterMap (patchOf head))).Pairwise WordsApart ∧
      AllApart (keepers (ps.filterMap (patchOf head))) (Overwrite.targets (ps.filterMap (patchOf head))) :=
  ⟨h.pointers.sublist (targets_sublist head ps), fun c hc t ht =>
    h.free c (keepers_subset head ps hc) t ((targets_sublist head ps).subset ht)⟩

theorem Apart.cells_apart (h : Apart head ps) {c c' : UInt64} (hc : c ∈ cells head) (hc' : c' ∈ cells head)
    (hne : c ≠ c') : WordsApart c c' :=
  h.keep.forall hc hc' hne

/-- What sees neither pointers nor cells does not see a pass. -/
theorem pass_frame {γ : Type} {f : Mem → γ} (ha : ∀ a ∈ addresses ps, words.Blind f a)
    (hc : ∀ c ∈ cells head, words.Blind f c) : f (words.patchAll (ps.filterMap (patchOf head)) mem) = f mem :=
  Store.Blind.patchAll (fun t ht => ha t ((targets_sublist head ps).subset ht))
    fun k hk => hc k (keepers_subset head ps hk)

/-- A pass makes each pointer hold what it is to hold. -/
theorem Apart.pass_slot (h : Apart head ps) {slot : Slot} (hslot : slot ∈ ps) :
    word (words.patchAll (ps.filterMap (patchOf head)) mem) slot.address =
      bound head slot (word mem slot.address) := by
  obtain ⟨hpair, hsep⟩ := h.targets
  unfold bound
  rw [← findRebinding_eq]
  cases hr : findRebinding head slot.name with
  | some r =>
    exact Store.get_patchAll_target (S := words) (p := { value := r.replacement, saved := r.replaced }) hpair hsep
      (List.mem_filterMap.mpr ⟨slot, hslot, by rw [patchOf, hr]; rfl⟩)
  | none =>
    refine Store.Blind.patchAll (S := words) (f := fun m => word m slot.address) (fun t ht => ?_) fun k hk => ?_
    · obtain ⟨ap, hap, rfl⟩ := List.mem_map.mp ht
      obtain ⟨slot', hslot', r, hr', rfl⟩ := mem_patches hap
      refine .of_apart (h.pointers.forall (List.mem_map_of_mem hslot') (List.mem_map_of_mem hslot) fun heq => ?_)
      have hnodup : (addresses ps).Nodup := h.pointers.imp WordsApart.ne
      obtain rfl := List.inj_on_of_nodup_map hnodup hslot' hslot heq
      rw [hr] at hr'
      cases hr'
    · exact .of_apart (h.free k (keepers_subset head ps hk) _ (List.mem_map_of_mem hslot))

/-- A cell keeps what it held, or gets what a pointer held that was rebound. -/
theorem Apart.pass_cell (h : Apart head ps) (mem : Mem) {c : UInt64} (hc : c ∈ cells head) :
    word (words.patchAll (ps.filterMap (patchOf head)) mem) c = word mem c ∨
      ∃ slot ∈ ps, ∃ r, findRebinding head slot.name = some r ∧ r.replaced = some c ∧
        word mem slot.address ≠ r.replacement ∧
        word (words.patchAll (ps.filterMap (patchOf head)) mem) c = word mem slot.address := by
  obtain ⟨hpair, hsep⟩ := h.targets
  have hkeep : ∀ k ∈ keepers (ps.filterMap (patchOf head)), k ≠ c → WordsApart k c :=
    fun k hk hne => h.cells_apart (keepers_subset head ps hk) hc hne
  have hfree : ∀ t ∈ Overwrite.targets (ps.filterMap (patchOf head)), WordsApart t c :=
    fun t ht => (h.free c hc t ((targets_sublist head ps).subset ht)).symm
  rcases Store.get_patchAll_keeper (S := words) mem hpair hsep hkeep hfree with hsame | ⟨ap, hap, hs, hne, heq⟩
  · exact .inl hsame
  · obtain ⟨slot, hslot, r, hr, rfl⟩ := mem_patches hap
    exact .inr ⟨slot, hslot, r, hr, hs, hne, heq⟩

/-! ## The invariant -/

def State.slots (s : State) : List Slot := s.images.flatMap Image.slots

/-- The memory as it would be without rebindings. -/
def plainStep (plain : Mem) : Event → Mem
  | .rebind _ => plain
  | .addImage image => mapImage image plain

/-- `r'` was registered before `r`. -/
def Older (head : List RebindingsEntry) (r r' : Rebinding) : Prop :=
  ∃ newer older, head.flatten = newer ++ r :: older ∧ r' ∈ older

/-- A byte that is in none of these words. -/
def Outside (as : List UInt64) (b : UInt64) : Prop := ∀ a ∈ as, ¬ Within a b

structure Inv (s : State) (plain : Mem) : Prop where
  apart : Apart s.rebindingsHead s.slots
  registered : s.registered = true ↔ s.rebindingsHead ≠ []
  slot : ∀ slot ∈ s.slots, word s.mem slot.address = bound s.rebindingsHead slot (word plain slot.address)
  frame : ∀ b, Outside (addresses s.slots) b → Outside (cells s.rebindingsHead) b → s.mem b = plain b
  cell : ∀ r ∈ s.rebindingsHead.flatten, ∀ c, r.replaced = some c →
    word s.mem c = word plain c ∨
      (∃ slot ∈ s.slots, slot.name = r.name ∧ word s.mem c = word plain slot.address) ∨
      ∃ r', Older s.rebindingsHead r r' ∧ r'.name = r.name ∧ word s.mem c = r'.replacement

/-- Whether an image is mapped beside a word. -/
def Image.spares (image : Image) (a : UInt64) : Bool := (List.range 8).all fun i => !image.maps (a + i.toUInt64)

/-- What keeps pointers, cells and images apart when something happens: no two
of the words share a byte, and images are mapped beside the words there are. -/
def Allowed (s : State) : Event → Prop
  | .rebind rebindings => (cells (rebindings :: s.rebindingsHead)).Pairwise WordsApart ∧
      AllApart (cells [rebindings]) (addresses s.slots)
  | .addImage image => (addresses (s.slots ++ image.slots)).Pairwise WordsApart ∧
      AllApart (cells s.rebindingsHead) (addresses image.slots) ∧
      ∀ a ∈ cells s.rebindingsHead ++ addresses s.slots, image.spares a = true

def Layout (calls : Calls) : State → List Event → Prop
  | _, [] => True
  | s, event :: events => Allowed s event ∧ Layout calls (step calls s event) events

-- by their lists: addresses are finitely many, and an instance would try them all
instance (cs as : List UInt64) : Decidable (AllApart cs as) :=
  @List.decidableBAll _ _ (fun _ => List.decidableBAll _ _) cs

instance (as : List UInt64) (b : UInt64) : Decidable (Outside as b) := List.decidableBAll _ _

instance (s : State) : (event : Event) → Decidable (Allowed s event)
  | .rebind _ => inferInstanceAs (Decidable (_ ∧ _))
  | .addImage _ => @instDecidableAnd _ _ _ (@instDecidableAnd _ _ _ (List.decidableBAll _ _))

instance (calls : Calls) : (s : State) → (events : List Event) → Decidable (Layout calls s events)
  | _, [] => .isTrue trivial
  | s, event :: events =>
    have := instDecidableLayout calls (step calls s event) events
    inferInstanceAs (Decidable (_ ∧ _))

variable {s : State} {plain : Mem} {rebindings : RebindingsEntry} {r r' : Rebinding} {c : UInt64}

theorem cells_cons : cells (rebindings :: head) = cells [rebindings] ++ cells head := by
  simp [cells]

theorem addresses_append (ps qs : List Slot) : addresses (ps ++ qs) = addresses ps ++ addresses qs :=
  List.map_append

theorem eq_of_replaced {rs : List Rebinding} (h : (rs.filterMap Rebinding.replaced).Nodup) (hr : r ∈ rs)
    (hr' : r' ∈ rs) (hc : r.replaced = some c) (hc' : r'.replaced = some c) : r = r' := by
  induction rs with
  | nil => simp at hr
  | cons b rs ih =>
    have hmem : ∀ q ∈ rs, q.replaced = some c → c ∈ rs.filterMap Rebinding.replaced :=
      fun q hq hqc => List.mem_filterMap.mpr ⟨q, hq, hqc⟩
    cases hb : b.replaced with
    | none =>
      rw [List.filterMap_cons_none hb] at h
      have hne : ∀ q, q.replaced = some c → q ≠ b := by
        rintro q hq rfl
        rw [hq] at hb
        cases hb
      exact ih h ((List.mem_cons.mp hr).resolve_left (hne r hc)) ((List.mem_cons.mp hr').resolve_left (hne r' hc'))
    | some k =>
      rw [List.filterMap_cons_some hb] at h
      obtain ⟨hk, hnodup⟩ := List.nodup_cons.mp h
      have hfirst : ∀ q ∈ rs, q.replaced = some c → b.replaced ≠ some c := by
        intro q hq hqc hbc
        obtain rfl := Option.some.inj (hb.symm.trans hbc)
        exact hk (hmem q hq hqc)
      rcases List.mem_cons.mp hr with rfl | hin <;> rcases List.mem_cons.mp hr' with rfl | hin'
      · rfl
      · exact absurd hc (hfirst _ hin' hc')
      · exact absurd hc' (hfirst _ hin hc)
      · exact ih hnodup hin hin'

theorem Older.cons (h : Older head r r') : Older (rebindings :: head) r r' := by
  obtain ⟨newer, older, heq, hmem⟩ := h
  exact ⟨rebindings ++ newer, older, by rw [List.flatten_cons, heq, List.append_assoc], hmem⟩

theorem Older.of_new (hr : r ∈ rebindings) (hr' : r' ∈ head.flatten) : Older (rebindings :: head) r r' := by
  obtain ⟨front, back, rfl⟩ := List.append_of_mem hr
  exact ⟨front, back ++ head.flatten, by simp, List.mem_append_right _ hr'⟩

theorem findRebinding_cons (name : CStr) : findRebinding (rebindings :: head) name =
    (rebindings.find? fun r => r.name = name).or (findRebinding head name) := by
  rw [findRebinding_eq, findRebinding_eq, List.flatten_cons, List.find?_append]

/-- A newer pass does not see what an older one did. -/
theorem bound_cons (slot : Slot) (held : UInt64) :
    bound (rebindings :: head) slot (bound head slot held) = bound (rebindings :: head) slot held := by
  simp only [bound, List.flatten_cons, List.find?_append]
  cases rebindings.find? fun r => r.name = slot.name with
  | some r => rfl
  | none => cases head.flatten.find? fun r => r.name = slot.name <;> rfl

theorem rebindImages_eq (hsup : Supplied calls) (head : List RebindingsEntry) (images : List Image) (mem : Mem) :
    rebindImages calls head images mem = words.patchAll ((images.flatMap Image.slots).filterMap (patchOf head)) mem := by
  rw [Store.patchAll, List.filterMap_flatMap, List.foldl_flatMap, rebindImages]
  congr 1
  funext mem image
  rw [hsup.image, rebindSymbolsForImage_eq, Store.patchAll]

theorem outside_of_apart {as : List UInt64} (h : ∀ a ∈ as, WordsApart a c) {i : Nat} (hi : i < 8) :
    Outside as (c + i.toUInt64) := fun a ha => (h a ha).not_within hi

theorem blind_of_outside {as : List UInt64} {b : UInt64} (h : Outside as b) :
    ∀ a ∈ as, words.Blind (fun m : Mem => m b) a := fun a ha _ _ => setWord_of_not_within (h a ha)

theorem Inv.word_frame (h : Inv s plain) (ha : ∀ a ∈ addresses s.slots, WordsApart a c)
    (hc : ∀ k ∈ cells s.rebindingsHead, WordsApart k c) : word s.mem c = word plain c :=
  word_congr fun _ hi => h.frame _ (outside_of_apart ha hi) (outside_of_apart hc hi)

theorem Inv.pass (h : Inv s plain) (hkeep : (cells (rebindings :: s.rebindingsHead)).Pairwise WordsApart)
    (hfree : AllApart (cells [rebindings]) (addresses s.slots)) :
    Inv { s with
          rebindingsHead := rebindings :: s.rebindingsHead
          registered := true
          mem := words.patchAll (s.slots.filterMap (patchOf (rebindings :: s.rebindingsHead))) s.mem } plain := by
  have hold : ∀ c ∈ cells s.rebindingsHead, c ∈ cells (rebindings :: s.rebindingsHead) := by
    intro c hc
    rw [cells_cons]
    exact List.mem_append_right _ hc
  have hapart : Apart (rebindings :: s.rebindingsHead) s.slots := by
    refine ⟨h.apart.pointers, hkeep, fun c hc => ?_⟩
    rw [cells_cons] at hc
    exact (List.mem_append.mp hc).elim (hfree c) (h.apart.free c)
  refine ⟨hapart, by simp, fun slot hslot => ?_, fun b ha hc => ?_, fun r hr c hc => ?_⟩
  · dsimp only
    rw [hapart.pass_slot hslot, h.slot slot hslot, bound_cons]
  · exact (pass_frame (f := fun m => m b) (blind_of_outside ha) (blind_of_outside hc)).trans
      (h.frame b ha fun k hk => hc k (hold k hk))
  · dsimp only at hr ⊢
    have hcell : c ∈ cells (rebindings :: s.rebindingsHead) := List.mem_filterMap.mpr ⟨r, hr, hc⟩
    rcases hapart.pass_cell s.mem hcell with hsame | ⟨slot, hslot, r', hfind, hr', hne, heq⟩
    · rw [hsame]
      rw [List.flatten_cons] at hr
      rcases List.mem_append.mp hr with hnew | hmem
      · -- a new cell holds what it always held
        have hin : c ∈ cells [rebindings] := List.mem_filterMap.mpr ⟨r, by simpa using hnew, hc⟩
        rw [cells_cons] at hkeep
        exact .inl (h.word_frame (fun a ha => (hfree c hin a ha).symm)
          fun k hk => ((List.pairwise_append.mp hkeep).2.2 c hin k hk).symm)
      · rcases h.cell r hmem c hc with hplain | hslot | ⟨r', holder, hname, hval⟩
        · exact .inl hplain
        · exact .inr (.inl hslot)
        · exact .inr (.inr ⟨r', holder.cons, hname, hval⟩)
    · obtain ⟨hmem', hname⟩ := findRebinding_spec hfind
      obtain rfl := eq_of_replaced (hkeep.imp WordsApart.ne) hr hmem' hc hr'
      rw [heq]
      have hheld := h.slot slot hslot
      unfold bound at hheld
      rw [← findRebinding_eq] at hheld
      cases hbefore : findRebinding s.rebindingsHead slot.name with
      | none =>
        rw [hbefore] at hheld
        exact .inr (.inl ⟨slot, hslot, hname.symm, hheld⟩)
      | some r' =>
        rw [hbefore] at hheld
        obtain ⟨hr'mem, hr'name⟩ := findRebinding_spec hbefore
        rw [findRebinding_cons] at hfind
        cases hnew : rebindings.find? fun q => q.name = slot.name with
        | none =>
          -- the pointer would hold the rebinding's own replacement
          rw [hnew, hbefore, Option.none_or, Option.some.injEq] at hfind
          subst hfind
          exact absurd hheld hne
        | some q =>
          rw [hnew, Option.some_or, Option.some.injEq] at hfind
          subst hfind
          exact .inr (.inr ⟨r', .of_new (List.mem_of_find?_eq_some hnew) hr'mem, hr'name.trans hname.symm, hheld⟩)

/-- A word that an image spares is what it was. -/
theorem word_mapImage (h : image.spares c = true) (mem : Mem) : word (mapImage image mem) c = word mem c := by
  refine word_congr fun i hi => ?_
  have hbyte := List.all_eq_true.mp h i (List.mem_range.mpr hi)
  rw [Bool.not_eq_true'] at hbyte
  rw [mapImage, hbyte]
  rfl

theorem Inv.mapImage_frame (h : Inv s plain) {b : UInt64} (ha : Outside (addresses s.slots) b)
    (hc : Outside (cells s.rebindingsHead) b) : mapImage image s.mem b = mapImage image plain b := by
  unfold mapImage
  rw [h.frame b ha hc]

theorem Inv.word_mapImage_frame (h : Inv s plain) (ha : ∀ a ∈ addresses s.slots, WordsApart a c)
    (hc : ∀ k ∈ cells s.rebindingsHead, WordsApart k c) :
    word (mapImage image s.mem) c = word (mapImage image plain) c :=
  word_congr fun _ hi => h.mapImage_frame (outside_of_apart ha hi) (outside_of_apart hc hi)

theorem Inv.addImage (h : Inv s plain) (hallowed : Allowed s (.addImage image)) :
    Inv { s with
          images := s.images ++ [image]
          mem := words.patchAll (image.slots.filterMap (patchOf s.rebindingsHead)) (mapImage image s.mem) }
      (mapImage image plain) := by
  obtain ⟨hpointers, hcells, hspares⟩ := hallowed
  have hslots : State.slots { s with
      images := s.images ++ [image]
      mem := words.patchAll (image.slots.filterMap (patchOf s.rebindingsHead)) (mapImage image s.mem) } =
      s.slots ++ image.slots := by
    simp [State.slots]
  have hpair := hpointers
  rw [addresses_append] at hpair
  obtain ⟨-, hpair', hdisjoint⟩ := List.pairwise_append.mp hpair
  have hapart : Apart s.rebindingsHead image.slots := ⟨hpair', h.apart.keep, hcells⟩
  -- where no pointer was before, the memory is the plain one
  have hnew : ∀ slot ∈ image.slots,
      word (mapImage image s.mem) slot.address = word (mapImage image plain) slot.address := by
    intro slot hslot
    have hmem : slot.address ∈ addresses image.slots := List.mem_map_of_mem hslot
    exact h.word_mapImage_frame (fun a ha => hdisjoint a ha _ hmem) fun k hk => hcells k hk _ hmem
  have hkept : ∀ slot ∈ s.slots, ∀ m : Mem, word (mapImage image m) slot.address = word m slot.address :=
    fun slot hslot => word_mapImage (hspares _ (List.mem_append_right _ (List.mem_map_of_mem hslot)))
  have hcell : ∀ c ∈ cells s.rebindingsHead, ∀ m : Mem, word (mapImage image m) c = word m c :=
    fun c hc => word_mapImage (hspares c (List.mem_append_left _ hc))
  refine ⟨⟨?_, h.apart.keep, fun c hc a ha => ?_⟩, h.registered, fun slot hslot => ?_, fun b ha hc => ?_,
    fun r hr c hc => ?_⟩
  · rw [hslots]
    exact hpointers
  · rw [hslots, addresses_append] at ha
    exact (List.mem_append.mp ha).elim (h.apart.free c hc a) (hcells c hc a)
  · rw [hslots] at hslot
    rcases List.mem_append.mp hslot with hold | hin
    · have hmem : slot.address ∈ addresses s.slots := List.mem_map_of_mem hold
      have hframe : word (words.patchAll (image.slots.filterMap (patchOf s.rebindingsHead)) (mapImage image s.mem))
          slot.address = word (mapImage image s.mem) slot.address :=
        pass_frame (f := fun m => word m slot.address) (fun a ha => .of_apart (hdisjoint _ hmem a ha).symm)
          fun c hc => .of_apart (h.apart.free c hc _ hmem)
      dsimp only
      rw [hframe, hkept slot hold, hkept slot hold]
      exact h.slot slot hold
    · dsimp only
      rw [hapart.pass_slot hin, hnew slot hin]
  · rw [hslots, addresses_append] at ha
    exact (pass_frame (f := fun m => m b) (blind_of_outside fun a hin => ha a (List.mem_append_right _ hin))
      (blind_of_outside hc)).trans (h.mapImage_frame (fun a hin => ha a (List.mem_append_left _ hin)) hc)
  · dsimp only at hr ⊢
    have hmem : c ∈ cells s.rebindingsHead := List.mem_filterMap.mpr ⟨r, hr, hc⟩
    rw [hslots, hcell c hmem]
    rcases hapart.pass_cell (mapImage image s.mem) hmem with hsame | ⟨slot, hslot, r', hfind, hr', -, heq⟩
    · rw [hsame, hcell c hmem]
      rcases h.cell r hr c hc with hplain | ⟨slot, hslot, hname, hval⟩ | holder
      · exact .inl hplain
      · exact .inr (.inl ⟨slot, List.mem_append_left _ hslot, hname, by rw [hkept slot hslot]; exact hval⟩)
      · exact .inr (.inr holder)
    · obtain ⟨hmem', hname⟩ := findRebinding_spec hfind
      obtain rfl := eq_of_replaced (h.apart.keep.imp WordsApart.ne) hr hmem' hc hr'
      exact .inr (.inl ⟨slot, List.mem_append_right _ hslot, hname.symm, by rw [heq]; exact hnew slot hslot⟩)

theorem Inv.step (hsup : Supplied calls) (h : Inv s plain) {event : Event} (hallowed : Allowed s event) :
    Inv (step calls s event) (plainStep plain event) := by
  cases event with
  | rebind rebindings =>
    obtain ⟨retval, entries, hcall⟩ : ∃ retval entries,
        calls.prependRebindings s.rebindingsHead rebindings = (retval, entries) := ⟨_, _, rfl⟩
    have hneg := hsup.prepend_neg s.rebindingsHead rebindings
    have hok := hsup.prepend_ok s.rebindingsHead rebindings
    simp only [HookCMethod.step, fishRebindSymbols, plainStep, hcall] at hneg hok ⊢
    by_cases hfail : retval < 0
    · rw [if_pos hfail, hneg hfail]
      exact h
    · have hentries := hok (by omega)
      have hpass := h.pass hallowed.1 hallowed.2
      rw [if_neg hfail, hentries, List.tail_cons, rebindImages_eq hsup]
      by_cases hfirst : s.rebindingsHead = []
      · rw [if_pos hfirst]
        exact hpass
      · have hreg := h.registered.mpr hfirst
        rw [if_neg hfirst]
        rw [← hreg] at hpass
        exact hpass
  | addImage image =>
    have hadd := h.addImage hallowed
    simp only [HookCMethod.step, plainStep]
    by_cases hreg : s.registered = true
    · rw [if_pos hreg, hsup.image, rebindSymbolsForImage_eq]
      exact hadd
    · -- without rebindings a pass would change nothing
      have hempty : s.rebindingsHead = [] := not_not.mp fun hne => hreg (h.registered.mpr hne)
      have hnone : image.slots.filterMap (patchOf s.rebindingsHead) = [] := by
        rw [List.filterMap_eq_nil_iff, hempty]
        exact fun slot _ => rfl
      rw [if_neg hreg]
      rw [hnone, Store.patchAll_nil] at hadd
      exact hadd

theorem Inv.run (hsup : Supplied calls) {events : List Event} (h : Inv s plain) (hlayout : Layout calls s events) :
    Inv (run calls s events) (events.foldl plainStep plain) := by
  induction events generalizing s plain with
  | nil => exact h
  | cons event events ih => exact ih (h.step hsup hlayout.1) hlayout.2

/-- A process before its first call. -/
structure Fresh (s : State) : Prop where
  head : s.rebindingsHead = []
  registered : s.registered = false
  pointers : (addresses s.slots).Pairwise WordsApart

theorem Fresh.inv (h : Fresh s) : Inv s s.mem where
  apart := ⟨h.pointers, by simp [h.head, cells], by simp [h.head, cells, AllApart]⟩
  registered := by simp [h.head, h.registered]
  slot := fun slot _ => by simp [h.head, bound]
  frame := fun _ _ _ => rfl
  cell := fun r hr => by simp [h.head] at hr

/-! ## Runs -/

def sampleCalls : Calls where
  prependRebindings head entry := (0, entry :: head)
  rebindSymbolsForImage := rebindSymbolsForImage

def sampleImage : Image where
  known := true
  slide := 0
  cmds := [.segment "__LINKEDIT" 0 0 [], .symtab 0 0, .dysymtab 0 1,
    .segment "__DATA" 0 0 [{ flags := 7, addr := 4096, size := 8, size_lt := by decide, reserved1 := 0 }]]
  word32 _ := 1
  cstring _ := [95, 102]
  maps a := decide (Within 4096 a)
  contents _ := 5

/-- `f` is rebound, an image that calls `f` is added, and `f` is rebound once more. -/
def sampleEvents : List Event :=
  [.rebind [{ name := [102], replacement := 7, replaced := some 8 }], .addImage sampleImage,
    .rebind [{ name := [102], replacement := 9, replaced := some 16 }]]

def sampleState : State := { mem := fun _ => 0 }

theorem supplied_sample : Supplied sampleCalls := ⟨by simp [sampleCalls], by simp [sampleCalls], fun _ _ _ => rfl⟩

theorem fresh_sample : Fresh sampleState := ⟨rfl, rfl, .nil⟩

theorem layout_sample : Layout sampleCalls sampleState sampleEvents := by decide

variable {events : List Event} {slot : Slot} {a : UInt64}

/-- **The rest is untouched.** After any run of calls and images, a byte that is
in no pointer of an image and in no cell of a rebinding is what the images
alone would have left there. -/
theorem rest_of_run (hsup : Supplied calls) (hfresh : Fresh s) (hlayout : Layout calls s events)
    (ha : Outside (addresses (run calls s events).slots) a)
    (hc : Outside (cells (run calls s events).rebindingsHead) a) :
    (run calls s events).mem a = events.foldl plainStep s.mem a :=
  (hfresh.inv.run hsup hlayout).frame a ha hc

theorem rest_of_sample : (run sampleCalls sampleState sampleEvents).mem 4104 = 0 :=
  (rest_of_run supplied_sample fresh_sample layout_sample (by decide) (by decide)).trans rfl

/-- **What a cell keeps.** After any run the cell of a rebinding holds what the
images alone would have left there or in a pointer of the rebinding's name, or
the replacement of an older rebinding of the name. -/
theorem cells_of_run (hsup : Supplied calls) (hfresh : Fresh s) (hlayout : Layout calls s events)
    (hr : r ∈ (run calls s events).rebindingsHead.flatten) (hc : r.replaced = some c) :
    word (run calls s events).mem c = word (events.foldl plainStep s.mem) c ∨
      (∃ slot ∈ (run calls s events).slots, slot.name = r.name ∧
        word (run calls s events).mem c = word (events.foldl plainStep s.mem) slot.address) ∨
      ∃ r', Older (run calls s events).rebindingsHead r r' ∧ r'.name = r.name ∧
        word (run calls s events).mem c = r'.replacement :=
  (hfresh.inv.run hsup hlayout).cell r hr c hc

/-- The newest rebinding of `f`. -/
def sampleRebinding : Rebinding := { name := [102], replacement := 9, replaced := some 16 }

theorem cells_of_sample :
    word (run sampleCalls sampleState sampleEvents).mem 16 = word (sampleEvents.foldl plainStep sampleState.mem) 16 ∨
      (∃ slot ∈ (run sampleCalls sampleState sampleEvents).slots, slot.name = sampleRebinding.name ∧
        word (run sampleCalls sampleState sampleEvents).mem 16 =
          word (sampleEvents.foldl plainStep sampleState.mem) slot.address) ∨
      ∃ r', Older (run sampleCalls sampleState sampleEvents).rebindingsHead sampleRebinding r' ∧
        r'.name = sampleRebinding.name ∧
        word (run sampleCalls sampleState sampleEvents).mem 16 = r'.replacement :=
  cells_of_run supplied_sample fresh_sample layout_sample (by decide) rfl

end LearningDemo.HookCMethod
