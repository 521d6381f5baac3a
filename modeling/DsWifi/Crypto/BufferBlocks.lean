import DsWifi.Crypto.BufferAlloc
import Mathlib.Data.List.Chain
import Mathlib.Data.List.Perm.Subperm

/-!
# The blocks of the allocator (TWL)

The blocks fill the buffer one behind the other. One list goes through all of them in their order,
and another through the free ones in any order; no two free blocks are neighbours.

* `BufferAlloc.Inv` — the invariant
* `Inv.exists_free` — free memory is not cut into pieces
* `Inv.calloc` — what `buffer_alloc_calloc` makes of the blocks
-/

namespace Wifi.BufferAlloc

open Infra

/-! ## Invariants -/

/-- The headers of the blocks are right, and those in the free list are free. -/
structure Sound (s : BufferAlloc) (b : Nat) (blocks free : List Nat) : Prop where
  tiles : Tiles (fun a => 32 + s.size a) b blocks (b + s.len)
  aligned : ∀ a ∈ blocks, a % 4 = 0
  pos : ∀ a ∈ blocks, 0 < s.size a
  chain : s.chain.Holds blocks
  freeList : s.freeList.Holds free
  header : ∀ a ∈ blocks, s.magic1 a = memoryMagic1 ∧ s.magic2 a = memoryMagic2 ∧ s.alloc a ≤ 1
  free_mem : ∀ a ∈ free, a ∈ blocks ∧ s.alloc a = 0
  unlinked : ∀ a ∈ blocks, a ∉ free → s.freeList.prev a = none ∧ s.freeList.next a = none

/-- No two neighbours are free. -/
def Apart (alloc : Nat → Nat) (blocks : List Nat) : Prop :=
  blocks.IsChain fun a c => ¬(alloc a = 0 ∧ alloc c = 0)

/-- All free blocks are in the free list, and they are not neighbours. -/
structure Inv (s : BufferAlloc) (b : Nat) (blocks free : List Nat) : Prop
    extends Sound s b blocks free where
  buf : s.buf = some b
  nonempty : blocks ≠ []
  all_free : ∀ a ∈ blocks, s.alloc a = 0 → a ∈ free
  apart : Apart s.alloc blocks

/-- A block that is in use. -/
def Used (s : BufferAlloc) (blocks : List Nat) (a : Nat) : Prop := a ∈ blocks ∧ s.alloc a = 1

/-- What is in use stays as it is. -/
structure Keeps (s : BufferAlloc) (blocks : List Nat) (s' : BufferAlloc) (blocks' : List Nat) :
    Prop where
  used : ∀ a, Used s' blocks' a ↔ Used s blocks a
  size : ∀ a, Used s blocks a → s'.size a = s.size a
  buf : s'.buf = s.buf
  len : s'.len = s.len
  verify : s'.verify = s.verify
  bytes : s'.bytes = s.bytes

variable {s s' s'' : BufferAlloc} {b : Nat} {blocks blocks' blocks'' free : List Nat}

theorem Keeps.refl (s : BufferAlloc) (blocks : List Nat) : Keeps s blocks s blocks where
  used _ := Iff.rfl
  size _ _ := rfl
  buf := rfl
  len := rfl
  verify := rfl
  bytes := rfl

theorem Keeps.trans (h : Keeps s blocks s' blocks') (h' : Keeps s' blocks' s'' blocks'') :
    Keeps s blocks s'' blocks'' where
  used a := (h'.used a).trans (h.used a)
  size a ha := (h'.size a ((h.used a).mpr ha)).trans (h.size a ha)
  buf := h'.buf.trans h.buf
  len := h'.len.trans h.len
  verify := h'.verify.trans h.verify
  bytes := h'.bytes.trans h.bytes

section

variable {alloc alloc' : Nat → Nat} {x : Nat} {l l₁ l₂ : List Nat}

theorem Apart.congr (h : Apart alloc l) (heq : ∀ a ∈ l, alloc' a = alloc a) : Apart alloc' l := by
  refine List.IsChain.imp_of_mem_imp ?_ h
  intro a c ha hc hR
  rwa [heq a ha, heq c hc]

theorem apart_of_used (hx : alloc x ≠ 0) :
    Apart alloc (l₁ ++ x :: l₂) ↔ Apart alloc l₁ ∧ Apart alloc l₂ := by
  simp [Apart, List.isChain_append, List.isChain_cons, hx]

theorem apart_of_free (hx : alloc x = 0) : Apart alloc (l₁ ++ x :: l₂) ↔
    (Apart alloc l₁ ∧ ∀ p ∈ l₁.getLast?, alloc p ≠ 0) ∧
      (Apart alloc l₂ ∧ ∀ q ∈ l₂.head?, alloc q ≠ 0) := by
  simp [Apart, List.isChain_append, List.isChain_cons, hx]
  tauto

end

/-! ## Checks -/

theorem Sound.verifyHeader (h : Sound s b blocks free) {a : Nat} (ha : a ∈ blocks) :
    s.verifyHeader a = 0 := by
  obtain ⟨hmagic1, hmagic2, halloc⟩ := h.header a ha
  have hchain : ¬(s.chain.prev a ≠ none ∧ s.chain.prev a = s.chain.next a) :=
    h.chain.prev_ne_next ha
  have hfree : ¬(s.freeList.prev a ≠ none ∧ s.freeList.prev a = s.freeList.next a) := by
    by_cases hmem : a ∈ free
    · exact h.freeList.prev_ne_next hmem
    · obtain ⟨hprev, -⟩ := h.unlinked a ha hmem
      exact fun hne => hne.1 hprev
  unfold BufferAlloc.verifyHeader
  rw [if_neg (not_not.mpr hmagic1), if_neg (not_not.mpr hmagic2), if_neg (by omega),
    if_neg hchain, if_neg hfree]

/-- A header is 32 bytes long. -/
theorem Sound.length_blocks (h : Sound s b blocks free) : 32 * blocks.length ≤ s.len := by
  have hle := h.tiles.length_le (n := 32) fun a _ => Nat.le_add_right 32 _
  omega

theorem Sound.length_free (h : Sound s b blocks free) : free.length ≤ blocks.length := by
  have hsub : free ⊆ blocks := fun a ha => (h.free_mem a ha).1
  exact (List.subperm_of_subset h.freeList.1 hsub).length_le

theorem Sound.verifyLoop (h : Sound s b blocks free) {l₁ l₂ : List Nat} {prv fuel : Nat}
    (hblocks : blocks = l₁ ++ prv :: l₂) (hfuel : l₂.length ≤ fuel) :
    s.verifyLoop fuel prv (s.chain.next prv) = some 0 := by
  induction l₂ generalizing l₁ prv fuel with
  | nil =>
    have hnext : s.chain.next prv = none := (hblocks ▸ h.chain).split.2.2.2.1
    rw [hnext, BufferAlloc.verifyLoop]
  | cons cur l₂ ih =>
    have hnext : s.chain.next prv = some cur := (hblocks ▸ h.chain).split.2.2.2.1
    have hblocks' : blocks = (l₁ ++ [prv]) ++ cur :: l₂ := by simp [hblocks]
    have hprev : s.chain.prev cur = some prv :=
      (hblocks' ▸ h.chain).split.2.2.1.trans Links.lastOf_concat
    have hmem : cur ∈ blocks := by simp [hblocks]
    cases fuel with
    | zero => simp at hfuel
    | succ fuel =>
      rw [hnext, BufferAlloc.verifyLoop, if_neg (not_not.mpr (h.verifyHeader hmem)),
        if_neg (not_not.mpr hprev)]
      exact ih hblocks' (Nat.le_of_succ_le_succ hfuel)

/-- **The allocator finds nothing wrong with itself.** -/
theorem Sound.verifyChain (h : Sound s b blocks free) (hne : blocks ≠ []) :
    s.verifyChain = some 0 := by
  obtain ⟨a, l, rfl⟩ := List.exists_cons_of_ne_nil hne
  have hfirst : s.chain.first = some a := h.chain.first_eq
  have hprev : s.chain.prev a = none := h.chain.2.2.1
  have hlen := h.length_blocks
  rw [List.length_cons] at hlen
  unfold BufferAlloc.verifyChain
  rw [hfirst]
  dsimp only
  rw [if_neg (not_not.mpr (h.verifyHeader List.mem_cons_self)), if_neg (not_not.mpr hprev)]
  have hblocks : a :: l = [] ++ a :: l := rfl
  exact h.verifyLoop hblocks (by omega)

theorem Sound.verified (h : Sound s b blocks free) (hne : blocks ≠ []) (flag : Nat) :
    s.verified flag = some s := by
  rw [BufferAlloc.verified, if_neg fun hbad => hbad.2 (h.verifyChain hne)]

/-! ## Parts of `buffer_alloc_calloc` -/

variable {cur len : Nat} {l₁ l₂ f₁ f₂ : List Nat}

/-- The first block of the free list that fits. -/
theorem Sound.findFit (h : Sound s b blocks free) (len : Nat) {fuel : Nat}
    (hfree : free = f₁ ++ f₂) (hfuel : f₂.length ≤ fuel) :
    s.findFit len fuel f₂.head? = some (f₂.find? fun a => len ≤ s.size a) := by
  induction f₂ generalizing f₁ fuel with
  | nil => rw [List.head?_nil, BufferAlloc.findFit, List.find?_nil]
  | cons a f₂ ih =>
    have hnext : s.freeList.next a = f₂.head? := (hfree ▸ h.freeList).split.2.2.2.1
    have hfree' : free = (f₁ ++ [a]) ++ f₂ := by simp [hfree]
    cases fuel with
    | zero => simp at hfuel
    | succ fuel =>
      rw [List.head?_cons, BufferAlloc.findFit]
      by_cases hfits : len ≤ s.size a
      · simp [hfits]
      · rw [if_neg hfits, hnext, ih hfree' (Nat.le_of_succ_le_succ hfuel)]
        simp [hfits]

/-- A block is taken out of the free list. -/
theorem Sound.takeBlock (h : Sound s b blocks (f₁ ++ cur :: f₂)) :
    Sound (s.takeBlock cur) b blocks (f₁ ++ f₂) := by
  have hunlinked := h.freeList.unlink
  have hcur : cur ∉ f₁ ++ f₂ := h.freeList.split.2.2.2.2.2
  refine ⟨h.tiles, h.aligned, h.pos, h.chain, hunlinked.clear hcur, ?_, ?_, ?_⟩
  · intro a ha
    obtain ⟨hmagic1, hmagic2, halloc⟩ := h.header a ha
    refine ⟨hmagic1, hmagic2, ?_⟩
    show Function.update s.alloc cur 1 a ≤ 1
    rw [Function.update_apply]
    split <;> omega
  · intro a ha
    obtain ⟨hmem, hne⟩ := h.freeList.mem_rest.mp ha
    obtain ⟨hblock, halloc⟩ := h.free_mem a hmem
    exact ⟨hblock, (Function.update_of_ne hne ..).trans halloc⟩
  · intro a ha hnot
    show ((s.freeList.unlink cur).clear cur).prev a = none ∧
      ((s.freeList.unlink cur).clear cur).next a = none
    by_cases hself : a = cur
    · simp [hself, Links.clear]
    · have hnot' : a ∉ f₁ ++ cur :: f₂ := fun hmem =>
        hnot (h.freeList.mem_rest.mpr ⟨hmem, hself⟩)
      have hmem : cur ∈ f₁ ++ cur :: f₂ := by simp
      obtain ⟨hprev, hnext⟩ := h.freeList.unlink_frame hmem hnot'
      obtain ⟨hprev', hnext'⟩ := h.unlinked a ha hnot'
      have hne : cur ≠ a := Ne.symm hself
      simp only [Links.clear, Links.prev_setAfter, Links.prev_setBefore, Links.next_setAfter,
        Links.next_setBefore, Option.some.injEq, hne, if_false]
      exact ⟨hprev.trans hprev', hnext.trans hnext'⟩

/-- No block begins inside another. -/
theorem Sound.notMem_inside (h : Sound s b blocks free) (hcur : cur ∈ blocks) {a : Nat}
    (hlt : cur < a) (hin : a < cur + (32 + s.size cur)) : a ∉ blocks := by
  intro ha
  rcases h.tiles.apart hcur ha (Nat.ne_of_lt hlt) with hle | hle <;> omega

/-- A block is cut in two, and its rest takes its place in the free list. -/
theorem Sound.splitBlock {new : Nat} (h : Sound s b (l₁ ++ cur :: l₂) (f₁ ++ cur :: f₂))
    (hnew : new = cur + 32 + len) (hlen : len + 36 ≤ s.size cur) (haligned : len % 4 = 0)
    (hpos : 0 < len) :
    Sound (s.splitBlock cur new len) b (l₁ ++ cur :: new :: l₂) (f₁ ++ new :: f₂) := by
  have hcur : cur ∈ l₁ ++ cur :: l₂ := by simp
  have hfresh : new ∉ l₁ ++ cur :: l₂ := h.notMem_inside hcur (by omega) (by omega)
  have hne : cur ≠ new := by omega
  have hcurFree : cur ∈ f₁ ++ cur :: f₂ := by simp
  have hfreshFree : new ∉ f₁ ++ cur :: f₂ := fun hmem => hfresh (h.free_mem _ hmem).1
  obtain ⟨-, -, -, -, -, hrestFree⟩ := h.freeList.split
  have hmem {a : Nat} (ha : a ∈ l₁ ++ cur :: new :: l₂) : a = cur ∨ a = new ∨ a ∈ l₁ ++ l₂ := by
    rwa [Links.mem_middle, Links.mem_middle] at ha
  have hold {a : Nat} (ha : a ∈ l₁ ++ l₂) : a ∈ l₁ ++ cur :: l₂ ∧ a ≠ cur ∧ a ≠ new := by
    obtain ⟨hblock, hcur'⟩ := h.chain.mem_rest.mp ha
    refine ⟨hblock, hcur', ?_⟩
    rintro rfl
    exact hfresh hblock
  have hfree : (s.freeList.replace cur new).Holds (f₁ ++ new :: f₂) := h.freeList.replace hfreshFree
  have hcurGone : cur ∉ f₁ ++ new :: f₂ := by
    rw [Links.mem_middle, not_or]
    exact ⟨hne, hrestFree⟩
  refine ⟨?_, ?_, ?_, h.chain.insertAfter hfresh, hfree.clear hcurGone, ?_, ?_, ?_⟩
  · refine h.tiles.cut ?_ ?_ ?_
    · simp [BufferAlloc.splitBlock]
      omega
    · simp [BufferAlloc.splitBlock, hne.symm]
      omega
    · intro a ha
      obtain ⟨-, hcur', hnew'⟩ := hold ha
      simp [BufferAlloc.splitBlock, hcur', hnew']
  · intro a ha
    have hcur4 := h.aligned cur hcur
    rcases hmem ha with rfl | rfl | ha
    · exact hcur4
    · omega
    · exact h.aligned a (hold ha).1
  · intro a ha
    show 0 < Function.update (Function.update s.size new (s.size cur - len - 32)) cur len a
    rcases hmem ha with rfl | rfl | ha
    · simpa using hpos
    · simp [hne.symm]
      omega
    · obtain ⟨hblock, hcur', hnew'⟩ := hold ha
      simpa [hcur', hnew'] using h.pos a hblock
  · intro a ha
    show Function.update s.magic1 new memoryMagic1 a = memoryMagic1 ∧
      Function.update s.magic2 new memoryMagic2 a = memoryMagic2 ∧
      Function.update (Function.update s.alloc new 0) cur 1 a ≤ 1
    rcases hmem ha with rfl | rfl | ha
    · obtain ⟨hmagic1, hmagic2, -⟩ := h.header a hcur
      simp [hne, hmagic1, hmagic2]
    · simp [hne.symm]
    · obtain ⟨hblock, hcur', hnew'⟩ := hold ha
      simpa [hcur', hnew'] using h.header a hblock
  · intro a ha
    show a ∈ l₁ ++ cur :: new :: l₂ ∧ Function.update (Function.update s.alloc new 0) cur 1 a = 0
    by_cases hself : a = new
    · subst hself
      simp [hne.symm]
    · have hold' : a ∈ f₁ ++ cur :: f₂ :=
        Links.mem_middle.mpr (.inr ((Links.mem_middle.mp ha).resolve_left hself))
      have hcur' : a ≠ cur := by
        rintro rfl
        exact hcurGone ha
      obtain ⟨hblock, halloc⟩ := h.free_mem a hold'
      refine ⟨?_, by simp [hself, hcur', halloc]⟩
      rw [Links.mem_middle, Links.mem_middle]
      exact .inr (.inr ((Links.mem_middle.mp hblock).resolve_left hcur'))
  · intro a ha hnot
    show ((s.freeList.replace cur new).clear cur).prev a = none ∧
      ((s.freeList.replace cur new).clear cur).next a = none
    rcases hmem ha with rfl | rfl | ha
    · simp [Links.clear]
    · exact absurd (by simp) hnot
    · -- links of blocks in use are not touched
      obtain ⟨hblock, hcur', hnew'⟩ := hold ha
      have hnot' : a ∉ f₁ ++ cur :: f₂ := by
        rw [Links.mem_middle, not_or] at hnot ⊢
        exact ⟨hcur', hnot.2⟩
      obtain ⟨hprev, hnext⟩ := h.freeList.replace_frame hcurFree hnot' hnew' hfreshFree
      obtain ⟨hprev', hnext'⟩ := h.unlinked a hblock hnot'
      simp only [Links.clear, Links.prev_setAfter, Links.prev_setBefore, Links.next_setAfter,
        Links.next_setBefore, Option.some.injEq, hcur'.symm, if_false]
      exact ⟨hprev.trans hprev', hnext.trans hnext'⟩

/-! ## `buffer_alloc_calloc` -/

/-- One more block is in use, and this many bytes fit into it. -/
structure Adds (s : BufferAlloc) (blocks : List Nat) (s' : BufferAlloc) (blocks' : List Nat)
    (cur n : Nat) : Prop where
  fresh : ¬Used s blocks cur
  used : ∀ a, Used s' blocks' a ↔ a = cur ∨ Used s blocks a
  size : ∀ a, Used s blocks a → s'.size a = s.size a
  room : n ≤ s'.size cur
  len : s'.len = s.len

theorem Inv.takeBlock (h : Inv s b blocks (f₁ ++ cur :: f₂)) :
    Inv (s.takeBlock cur) b blocks (f₁ ++ f₂) ∧
      Adds s blocks (s.takeBlock cur) blocks cur (s.size cur) := by
  have hmem : cur ∈ f₁ ++ cur :: f₂ := by simp
  obtain ⟨hblock, hfree⟩ := h.free_mem cur hmem
  have hself : (s.takeBlock cur).alloc cur = 1 := Function.update_self ..
  have hother {a : Nat} (ha : a ≠ cur) : (s.takeBlock cur).alloc a = s.alloc a :=
    Function.update_of_ne ha ..
  refine ⟨⟨h.toSound.takeBlock, h.buf, h.nonempty, ?_, ?_⟩, ?_, ?_, ?_, Nat.le_refl _, rfl⟩
  · intro a ha halloc
    have hne : a ≠ cur := by
      rintro rfl
      omega
    rw [hother hne] at halloc
    exact h.freeList.mem_rest.mpr ⟨h.all_free a ha halloc, hne⟩
  · obtain ⟨l₁, l₂, rfl⟩ := List.append_of_mem hblock
    have hrest := h.chain.split.2.2.2.2.2
    simp only [List.mem_append, not_or] at hrest
    obtain ⟨⟨hfront, -⟩, hback, -⟩ := (apart_of_free hfree).mp h.apart
    refine (apart_of_used (by omega)).mpr ⟨hfront.congr ?_, hback.congr ?_⟩
    · rintro a ha
      exact hother fun heq => hrest.1 (heq ▸ ha)
    · rintro a ha
      exact hother fun heq => hrest.2 (heq ▸ ha)
  · rintro ⟨-, hused⟩
    omega
  · intro a
    by_cases ha : a = cur
    · subst ha
      simp [Used, hblock, hself]
    · simp [Used, ha, hother ha]
  · intro a _
    rfl

theorem size_splitBlock_self {new : Nat} : (s.splitBlock cur new len).size cur = len :=
  Function.update_self ..

theorem size_splitBlock {new : Nat} (hne : new ≠ cur) :
    (s.splitBlock cur new len).size new = s.size cur - len - 32 := by
  simp [BufferAlloc.splitBlock, hne]

theorem Inv.splitBlock {new : Nat} (h : Inv s b (l₁ ++ cur :: l₂) (f₁ ++ cur :: f₂))
    (hnew : new = cur + 32 + len) (hlen : len + 36 ≤ s.size cur) (haligned : len % 4 = 0)
    (hpos : 0 < len) :
    Inv (s.splitBlock cur new len) b (l₁ ++ cur :: new :: l₂) (f₁ ++ new :: f₂) ∧
      Adds s (l₁ ++ cur :: l₂) (s.splitBlock cur new len) (l₁ ++ cur :: new :: l₂) cur len := by
  have hcur : cur ∈ f₁ ++ cur :: f₂ := by simp
  obtain ⟨hblock, hfree⟩ := h.free_mem cur hcur
  have hfresh : new ∉ l₁ ++ cur :: l₂ := h.notMem_inside hblock (by omega) (by omega)
  have hne : cur ≠ new := by omega
  have hself : (s.splitBlock cur new len).alloc cur = 1 := Function.update_self ..
  have hnewFree : (s.splitBlock cur new len).alloc new = 0 := by
    simp [BufferAlloc.splitBlock, hne.symm]
  have hother {a : Nat} (ha : a ≠ cur) (ha' : a ≠ new) :
      (s.splitBlock cur new len).alloc a = s.alloc a := by
    simp [BufferAlloc.splitBlock, ha, ha']
  have hsize {a : Nat} (ha : a ≠ cur) (ha' : a ≠ new) :
      (s.splitBlock cur new len).size a = s.size a := by
    simp [BufferAlloc.splitBlock, ha, ha']
  have hrest := h.chain.split.2.2.2.2.2
  simp only [List.mem_append, List.mem_cons, not_or] at hrest hfresh
  have hkept₁ : ∀ a ∈ l₁, (s.splitBlock cur new len).alloc a = s.alloc a := by
    intro a ha
    exact hother (fun heq => hrest.1 (heq ▸ ha)) fun heq => hfresh.1 (heq ▸ ha)
  have hkept₂ : ∀ a ∈ l₂, (s.splitBlock cur new len).alloc a = s.alloc a := by
    intro a ha
    exact hother (fun heq => hrest.2 (heq ▸ ha)) fun heq => hfresh.2.2 (heq ▸ ha)
  refine ⟨⟨h.toSound.splitBlock hnew hlen haligned hpos, h.buf, by simp, ?_, ?_⟩,
    ?_, ?_, ?_, ?_, rfl⟩
  · intro a ha halloc
    have hnotCur : a ≠ cur := by
      rintro rfl
      omega
    by_cases hnotNew : a = new
    · simp [hnotNew]
    · rw [hother hnotCur hnotNew] at halloc
      rw [Links.mem_middle, Links.mem_middle] at ha
      have hold : a ∈ l₁ ++ cur :: l₂ := Links.mem_middle.mpr (.inr (by tauto))
      have hlist := Links.mem_middle.mp (h.all_free a hold halloc)
      exact Links.mem_middle.mpr (.inr (hlist.resolve_left hnotCur))
  · obtain ⟨⟨hfront, -⟩, hback, hhead⟩ := (apart_of_free hfree).mp h.apart
    refine (apart_of_used (by omega)).mpr ⟨hfront.congr hkept₁, ?_⟩
    -- `cur` was free, so neither neighbour of it is
    rw [← List.nil_append (new :: l₂), apart_of_free hnewFree]
    refine ⟨by simp [Apart], hback.congr hkept₂, ?_⟩
    intro q hq
    rw [hkept₂ q (List.mem_of_head? hq)]
    exact hhead q hq
  · rintro ⟨-, hused⟩
    omega
  · intro a
    by_cases ha : a = cur
    · subst ha
      simp [Used, hself]
    · by_cases ha' : a = new
      · subst ha'
        simp [Used, hnewFree, ha, hfresh.1, hfresh.2.2]
      · simp [Used, ha, ha', hother ha ha']
  · rintro a ⟨ha, hused⟩
    refine hsize ?_ ?_
    · rintro rfl
      omega
    · rintro rfl
      simp only [List.mem_append, List.mem_cons] at ha
      tauto
  · simp [BufferAlloc.splitBlock]

theorem alignLen_spec (n : Nat) : n ≤ alignLen n ∧ alignLen n % 4 = 0 := by
  unfold alignLen
  split <;> omega

/-- A request that a buffer can meet. -/
def Request (n size : UInt32) : Prop :=
  n ≠ 0 ∧ size ≠ 0 ∧ n * size / n = size ∧ (n * size).toNat ≤ 2 ^ 32 - 4

instance (n size : UInt32) : Decidable (Request n size) :=
  inferInstanceAs (Decidable (_ ∧ _ ∧ _ ∧ _))

theorem Request.pos {n size : UInt32} (h : Request n size) : 0 < (n * size).toNat := by
  obtain ⟨-, hsize, hmul, -⟩ := h
  refine Nat.pos_of_ne_zero fun hzero => hsize ?_
  have hproduct : n * size = 0 := UInt32.toNat_inj.mp hzero
  rw [← hmul, hproduct, UInt32.zero_div]

/-- The bytes of a block are cleared when it is handed out. -/
def handOut (s : BufferAlloc) (cur n : Nat) : BufferAlloc :=
  { s with bytes := s.bytes.storeBytes (cur + 32) (List.replicate n 0) }

/-- The blocks are the same, whatever is in them. -/
theorem Inv.setBytes (h : Inv s b blocks free) (verify : Nat) (bytes : Infra.Mem) :
    Inv { s with verify, bytes } b blocks free :=
  ⟨⟨h.tiles, h.aligned, h.pos, h.chain, h.freeList, h.header, h.free_mem, h.unlinked⟩, h.buf,
    h.nonempty, h.all_free, h.apart⟩

theorem Inv.handOut (h : Inv s b blocks free) (cur n : Nat) : Inv (s.handOut cur n) b blocks free :=
  h.setBytes s.verify _

theorem Adds.handOut {n m : Nat} (h : Adds s blocks s' blocks' cur n) (hle : m ≤ n) :
    Adds s blocks (s'.handOut cur m) blocks' cur m :=
  ⟨h.fresh, h.used, h.size, Nat.le_trans hle h.room, h.len⟩

/-- The end of `buffer_alloc_calloc`. -/
theorem Inv.verified (h : Inv s b blocks free) (flag : Nat) : s.verified flag = some s :=
  h.toSound.verified h.nonempty flag

/-- **What `buffer_alloc_calloc` does**: it finds nothing when no free block is large enough, and
otherwise one more block is in use, and cleared, which is not much larger than it has to be. The
rest of a large block stays free. -/
theorem Inv.calloc (h : Inv s b blocks free) (n size : UInt32) :
    (s.calloc n size = some (none, s) ∧
      (Request n size → ∀ a ∈ free, s.size a < alignLen (n * size).toNat)) ∨
    ∃ cur s' blocks' free', s.calloc n size = some (some (cur + 32), s') ∧
      Inv s' b blocks' free' ∧ Adds s blocks s' blocks' cur (n * size).toNat ∧
      s'.bytes = s.bytes.storeBytes (cur + 32) (List.replicate (n * size).toNat 0) ∧
      s'.size cur < alignLen (n * size).toNat + 36 ∧
      ∃ x ∈ free, alignLen (n * size).toNat + 36 ≤ s.size x →
        ∃ y ∈ free', s'.size y + alignLen (n * size).toNat + 32 = s.size x := by
  have hfirst : s.chain.first ≠ none := by
    rw [h.chain.first_eq, ne_eq, List.head?_eq_none_iff]
    exact h.nonempty
  have hready : ¬(s.buf = none ∨ s.chain.first = none) := by
    rw [h.buf]
    simpa using hfirst
  obtain ⟨hlen, haligned⟩ := alignLen_spec (n * size).toNat
  unfold BufferAlloc.calloc
  rw [if_neg hready]
  by_cases hrequest : n = 0 ∨ size = 0 ∨ n * size / n ≠ size
  · rw [if_pos hrequest]
    refine .inl ⟨rfl, ?_⟩
    rintro ⟨hn, hsize, hmul, -⟩
    tauto
  rw [if_neg hrequest]
  by_cases hbig : 2 ^ 32 - 4 < (n * size).toNat
  · rw [if_pos hbig]
    refine .inl ⟨rfl, ?_⟩
    rintro ⟨-, -, -, hsmall⟩
    omega
  rw [if_neg hbig]
  have hpos : 0 < (n * size).toNat := by
    simp only [not_or, not_not] at hrequest
    exact Request.pos ⟨hrequest.1, hrequest.2.1, hrequest.2.2, by omega⟩
  -- the search ends before its iterations do
  have hfuel : free.length ≤ s.len := by
    have hle := h.length_free
    have hblocks := h.length_blocks
    omega
  have hfind := h.toSound.findFit (alignLen (n * size).toNat) (List.nil_append free).symm hfuel
  rw [← h.freeList.first_eq] at hfind
  dsimp only
  rw [hfind]
  cases hfit : free.find? fun a => alignLen (n * size).toNat ≤ s.size a with
  | none =>
    refine .inl ⟨rfl, ?_⟩
    intro _ a ha
    simpa using List.find?_eq_none.mp hfit a ha
  | some cur =>
    right
    have hroom : alignLen (n * size).toNat ≤ s.size cur := by simpa using List.find?_some hfit
    have hmem : cur ∈ free := List.mem_of_find?_eq_some hfit
    obtain ⟨f₁, f₂, rfl⟩ := List.append_of_mem hmem
    obtain ⟨hblock, halloc⟩ := h.free_mem cur hmem
    dsimp only
    rw [if_neg (not_not.mpr halloc)]
    by_cases hsmall : s.size cur - alignLen (n * size).toNat < 32 + 4
    · -- no room for another header: the block is used as it is
      obtain ⟨hinv, hadds⟩ := h.takeBlock
      rw [if_pos hsmall, hinv.verified]
      have htight : s.size cur < alignLen (n * size).toNat + 36 := by omega
      refine ⟨cur, _, _, _, rfl, hinv.handOut .., hadds.handOut (Nat.le_trans hlen hroom), rfl,
        htight, cur, hmem, ?_⟩
      intro hlarge
      omega
    · obtain ⟨l₁, l₂, rfl⟩ := List.append_of_mem hblock
      obtain ⟨hinv, hadds⟩ := h.splitBlock rfl (by omega) haligned (by omega)
      rw [if_neg hsmall, hinv.verified]
      have htight := @size_splitBlock_self s cur (alignLen (n * size).toNat)
        (cur + 32 + alignLen (n * size).toNat)
      refine ⟨cur, _, _, _, rfl, hinv.handOut .., hadds.handOut hlen, rfl,
        htight.trans_lt (by omega), cur, hmem, ?_⟩
      intro hlarge
      have hne : cur + 32 + alignLen (n * size).toNat ≠ cur := by omega
      refine ⟨cur + 32 + alignLen (n * size).toNat, by simp, ?_⟩
      have hrest := @size_splitBlock s cur (alignLen (n * size).toNat) _ hne
      simp only [hrest]
      omega

/-- **Free memory is not cut into pieces**: a gap between the blocks in use is in one free block. -/
theorem Inv.exists_free (h : Inv s b blocks free) {x w : Nat} (hlo : b ≤ x)
    (hhi : x + w ≤ b + s.len) (hw : 0 < w)
    (hgap : ∀ a, Used s blocks a → a + 32 + s.size a ≤ x ∨ x + w ≤ a) :
    ∃ a ∈ free, w ≤ 32 + s.size a := by
  obtain ⟨l₁, a, l₂, rfl, hle, hlt⟩ := h.tiles.exists_at hlo (by omega)
  have hused {c : Nat} (hc : c ∈ l₁ ++ a :: l₂) (hne : s.alloc c ≠ 0) :
      c + 32 + s.size c ≤ x ∨ x + w ≤ c := by
    have halloc := (h.header c hc).2.2
    exact hgap c ⟨hc, by omega⟩
  have hmem : a ∈ l₁ ++ a :: l₂ := by simp
  have ha : s.alloc a = 0 := by
    by_contra hne
    have hout := hused hmem hne
    omega
  refine ⟨a, h.all_free a hmem ha, ?_⟩
  obtain ⟨-, hrest⟩ := tiles_append.mp h.tiles
  by_contra hshort
  cases l₂ with
  | nil =>
    have hend : a + (32 + s.size a) = b + s.len := hrest
    omega
  | cons c l₃ =>
    -- the next block is not free, so it is in the gap
    obtain ⟨-, -, hnext⟩ := (apart_of_free ha).mp h.apart
    have hout := hused (by simp) (hnext c rfl)
    have hc : c = a + (32 + s.size a) := hrest.1
    omega

end Wifi.BufferAlloc
