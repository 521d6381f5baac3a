import DsWifi.Crypto.BufferBlocks

/-!
# Blocks become free (TWL)

`buffer_alloc_free` joins a block to its neighbours if they are free, and a free block that is new
is put in front of the free list.

* `Inv.freeBlock` — what `buffer_alloc_free` makes of the blocks
-/

namespace Wifi.BufferAlloc

open Infra

variable {s s' s'' : BufferAlloc} {b hdr : Nat} {blocks blocks' blocks'' free l₁ l₂ : List Nat}

/-! ## Parts of `buffer_alloc_free` -/

/-- A block is marked as free. -/
def release (s : BufferAlloc) (hdr : Nat) : BufferAlloc :=
  { s with alloc := Function.update s.alloc hdr 0 }

/-- The block behind becomes a part of this one. -/
def join (s : BufferAlloc) (hdr n : Nat) : BufferAlloc :=
  let merged := { s with
    size := Function.update s.size hdr (s.size hdr + (32 + s.size n))
    chain := s.chain.removeAfter hdr n }
  merged.clear n

theorem Sound.release (h : Sound s b blocks free) (hdr : Nat) :
    Sound (s.release hdr) b blocks free := by
  have halloc (a : Nat) : (s.release hdr).alloc a ≤ s.alloc a := by
    show Function.update s.alloc hdr 0 a ≤ s.alloc a
    rw [Function.update_apply]
    split <;> omega
  refine ⟨h.tiles, h.aligned, h.pos, h.chain, h.freeList, ?_, ?_, h.unlinked⟩
  · intro a ha
    obtain ⟨hmagic1, hmagic2, hle⟩ := h.header a ha
    exact ⟨hmagic1, hmagic2, Nat.le_trans (halloc a) hle⟩
  · intro a ha
    obtain ⟨hblock, hzero⟩ := h.free_mem a ha
    have hle := halloc a
    exact ⟨hblock, by omega⟩

/-- A block that is not in the free list is joined to the one before it. -/
theorem Sound.join {n : Nat} (h : Sound s b (l₁ ++ hdr :: n :: l₂) free) (hn : n ∉ free) :
    Sound (s.join hdr n) b (l₁ ++ hdr :: l₂) free := by
  have hsplit : l₁ ++ hdr :: n :: l₂ = (l₁ ++ [hdr]) ++ n :: l₂ := by simp
  have hgone : n ∉ l₁ ++ hdr :: l₂ := by
    have hrest := (hsplit ▸ h.chain).split.2.2.2.2.2
    simpa using hrest
  have hold {a : Nat} (ha : a ∈ l₁ ++ hdr :: l₂) : a ∈ l₁ ++ hdr :: n :: l₂ ∧ a ≠ n := by
    refine ⟨?_, fun heq => hgone (heq ▸ ha)⟩
    rw [hsplit, Links.mem_middle]
    exact .inr (by simpa using ha)
  have hhdr : hdr ≠ n := (hold (by simp)).2
  have hlist := h.freeList.clear hn
  refine ⟨h.tiles.join ?_ ?_, ?_, ?_, h.chain.removeAfter.clear hgone, hlist, ?_, ?_, ?_⟩
  · simp [BufferAlloc.join, BufferAlloc.clear, hhdr]
    omega
  · intro a ha
    have hblock : a ∈ l₁ ++ hdr :: l₂ := Links.mem_middle.mpr (.inr ha)
    have hne : a ≠ hdr := by
      rintro rfl
      exact h.chain.split.2.2.2.2.2 (Links.mem_middle.mpr (.inr ha))
    simp [BufferAlloc.join, BufferAlloc.clear, (hold hblock).2, hne]
  · intro a ha
    exact h.aligned a (hold ha).1
  · intro a ha
    obtain ⟨hblock, hne⟩ := hold ha
    have hpos := h.pos a hblock
    by_cases hself : a = hdr
    · subst hself
      simp [BufferAlloc.join, BufferAlloc.clear, hne, hpos]
    · simpa [BufferAlloc.join, BufferAlloc.clear, hne, hself] using hpos
  · intro a ha
    obtain ⟨hblock, hne⟩ := hold ha
    simpa [BufferAlloc.join, BufferAlloc.clear, hne] using h.header a hblock
  · intro a ha
    have hne : a ≠ n := fun heq => hn (heq ▸ ha)
    obtain ⟨hblock, halloc⟩ := h.free_mem a ha
    refine ⟨?_, by simpa [BufferAlloc.join, BufferAlloc.clear, hne] using halloc⟩
    rw [hsplit, Links.mem_middle] at hblock
    simpa using hblock.resolve_left hne
  · intro a ha hnot
    obtain ⟨hblock, hne⟩ := hold ha
    obtain ⟨hprev, hnext⟩ := h.unlinked a hblock hnot
    simp [BufferAlloc.join, BufferAlloc.clear, Links.clear, hne.symm, hprev, hnext]

/-- The free list without this block. -/
def withoutFree (s : BufferAlloc) (hdr : Nat) : Links Nat :=
  if s.freeList.prev hdr ≠ none ∨ s.freeList.next hdr ≠ none then s.freeList.unlink hdr
  else s.freeList

/-- It is not in the list any more, and that is all. -/
theorem Sound.withoutFree {n : Nat} (h : Sound s b blocks free) (hhdr : hdr ∈ blocks)
    (hn : n ∈ free) (hne : hdr ≠ n) :
    ∃ rest, (s.withoutFree hdr).Holds rest ∧ (∀ a, a ∈ rest ↔ a ∈ free ∧ a ≠ hdr) ∧
      ∀ a, a ∉ free → (s.withoutFree hdr).prev a = s.freeList.prev a ∧
        (s.withoutFree hdr).next a = s.freeList.next a := by
  unfold BufferAlloc.withoutFree
  by_cases hmem : hdr ∈ free
  · -- `n` is in the list too, so one of the pointers is set
    rw [if_pos (h.freeList.linked hmem hn hne)]
    obtain ⟨f₁, f₂, rfl⟩ := List.append_of_mem hmem
    exact ⟨f₁ ++ f₂, h.freeList.unlink, fun a => h.freeList.mem_rest,
      fun a ha => h.freeList.unlink_frame hmem ha⟩
  · obtain ⟨hprev, hnext⟩ := h.unlinked hdr hhdr hmem
    rw [if_neg (by simp [hprev, hnext])]
    refine ⟨free, h.freeList, ?_, fun a _ => ⟨rfl, rfl⟩⟩
    intro a
    constructor
    · intro ha
      exact ⟨ha, fun heq => hmem (heq ▸ ha)⟩
    · exact And.left

/-- A block takes the place of another in the free list. -/
def takePlace (s : BufferAlloc) (hdr n : Nat) : BufferAlloc :=
  { s with freeList := ((s.withoutFree hdr).replace n hdr).clear n }

theorem Sound.takePlace {n : Nat} (h : Sound s b blocks free) (hhdr : hdr ∈ blocks)
    (halloc : s.alloc hdr = 0) (hn : n ∈ free) (hne : hdr ≠ n) :
    ∃ free', Sound (s.takePlace hdr n) b blocks free' ∧
      ∀ a, a ∈ free' ↔ a = hdr ∨ a ∈ free ∧ a ≠ n := by
  obtain ⟨rest, hrest, hmem, hframe⟩ := h.withoutFree hhdr hn hne
  have hnRest : n ∈ rest := (hmem n).mpr ⟨hn, hne.symm⟩
  have hhdrRest : hdr ∉ rest := fun ha => ((hmem hdr).mp ha).2 rfl
  obtain ⟨g₁, g₂, rfl⟩ := List.append_of_mem hnRest
  have hfree' (a : Nat) : a ∈ g₁ ++ hdr :: g₂ ↔ a = hdr ∨ a ∈ free ∧ a ≠ n := by
    have hold : a ∈ g₁ ++ g₂ ↔ a ∈ free ∧ a ≠ hdr ∧ a ≠ n := by
      rw [← and_assoc, ← hmem]
      exact hrest.mem_rest
    rw [Links.mem_middle, hold]
    by_cases ha : a = hdr <;> simp [ha]
  have hnGone : n ∉ g₁ ++ hdr :: g₂ := by
    rw [hfree']
    simp [hne.symm]
  have hlist := (hrest.replace hhdrRest).clear hnGone
  refine ⟨g₁ ++ hdr :: g₂, ⟨h.tiles, h.aligned, h.pos, h.chain, hlist, h.header, ?_, ?_⟩, hfree'⟩
  · intro a ha
    rcases (hfree' a).mp ha with rfl | ⟨ha', -⟩
    · exact ⟨hhdr, halloc⟩
    · exact h.free_mem a ha'
  · intro a ha hnot
    rw [hfree', not_or, not_and_not_right] at hnot
    obtain ⟨hne', honly⟩ := hnot
    show (((s.withoutFree hdr).replace n hdr).clear n).prev a = none ∧
      (((s.withoutFree hdr).replace n hdr).clear n).next a = none
    by_cases hself : a = n
    · simp [hself, Links.clear]
    · have hnotFree : a ∉ free := fun ha' => hself (honly ha')
      have hnotRest : a ∉ g₁ ++ n :: g₂ := fun ha' => hnotFree ((hmem a).mp ha').1
      obtain ⟨hprev, hnext⟩ := hrest.replace_frame hnRest hnotRest hne' hhdrRest
      obtain ⟨hprev', hnext'⟩ := hframe a hnotFree
      obtain ⟨hprev'', hnext''⟩ := h.unlinked a ha hnotFree
      have hne'' : n ≠ a := Ne.symm hself
      simp only [Links.clear, Links.prev_setAfter, Links.prev_setBefore, Links.next_setAfter,
        Links.next_setBefore, Option.some.injEq, hne'', if_false]
      exact ⟨hprev.trans (hprev'.trans hprev''), hnext.trans (hnext'.trans hnext'')⟩

/-- A block is put in front of the free list. -/
theorem Sound.pushFree (h : Sound s b blocks free) (hhdr : hdr ∈ blocks) (hnot : hdr ∉ free)
    (halloc : s.alloc hdr = 0) :
    Sound { s with freeList := s.freeList.pushFront hdr } b blocks (hdr :: free) := by
  obtain ⟨hprev, -⟩ := h.unlinked hdr hhdr hnot
  refine ⟨h.tiles, h.aligned, h.pos, h.chain, h.freeList.pushFront hnot hprev, h.header, ?_, ?_⟩
  · intro a ha
    rcases List.mem_cons.mp ha with rfl | ha
    · exact ⟨hhdr, halloc⟩
    · exact h.free_mem a ha
  · intro a ha hnot'
    rw [List.mem_cons, not_or] at hnot'
    obtain ⟨hprev', hnext'⟩ := h.freeList.pushFront_frame hnot'.2 hnot'.1
    obtain ⟨hprev'', hnext''⟩ := h.unlinked a ha hnot'.2
    exact ⟨hprev'.trans hprev'', hnext'.trans hnext''⟩

/-! ## `buffer_alloc_free` -/

/-- Within `buffer_alloc_free`: a block is free, and perhaps its neighbours are. -/
structure Freeing (s : BufferAlloc) (b : Nat) (l₁ : List Nat) (x : Nat) (l₂ free : List Nat) :
    Prop where
  sound : Sound s b (l₁ ++ x :: l₂) free
  buf : s.buf = some b
  alloc : s.alloc x = 0
  all_free : ∀ a ∈ l₁ ++ l₂, s.alloc a = 0 → a ∈ free
  front : Apart s.alloc l₁
  back : Apart s.alloc l₂

/-- What is in use is left alone when two free blocks are joined. -/
theorem keeps_join {n : Nat} (hhdr : s.alloc hdr = 0) (hn : s.alloc n = 0) (hne : hdr ≠ n) :
    Keeps s (l₁ ++ hdr :: n :: l₂) (s.join hdr n) (l₁ ++ hdr :: l₂) := by
  refine ⟨?_, ?_, rfl, rfl, rfl, rfl⟩
  · intro a
    by_cases ha : a = n
    · subst ha
      simp [Used, BufferAlloc.join, BufferAlloc.clear, hn]
    · simp [Used, BufferAlloc.join, BufferAlloc.clear, ha]
  · rintro a ⟨-, hused⟩
    have ha : a ≠ n := by
      rintro rfl
      omega
    have ha' : a ≠ hdr := by
      rintro rfl
      omega
    simp [BufferAlloc.join, BufferAlloc.clear, ha, ha']

theorem alloc_join {n : Nat} (hn : s.alloc n = 0) : (s.join hdr n).alloc = s.alloc := by
  show Function.update s.alloc n 0 = s.alloc
  rw [← hn, Function.update_eq_self]

/-- **The block before.** -/
theorem Freeing.mergeBefore (h : Freeing s b l₁ hdr l₂ free) (hnot : hdr ∉ free) :
    ∃ s' l₁' x old, s.mergeBefore hdr = (s', x, old) ∧ Freeing s' b l₁' x l₂ free ∧
      (∀ p ∈ l₁'.getLast?, s'.alloc p ≠ 0) ∧ (old = none ↔ x ∉ free) ∧
      Keeps s (l₁ ++ hdr :: l₂) s' (l₁' ++ x :: l₂) := by
  have hprev : s.chain.prev hdr = Links.lastOf none l₁ := h.sound.chain.split.2.2.1
  unfold BufferAlloc.mergeBefore
  rcases l₁.eq_nil_or_concat with rfl | ⟨l₀, p, rfl⟩
  · rw [hprev]
    exact ⟨s, [], hdr, none, rfl, h, by simp, by simpa using hnot, .refl _ _⟩
  · rw [List.concat_eq_append] at h hprev ⊢
    rw [hprev, Links.lastOf_concat]
    dsimp only
    by_cases hp : s.alloc p = 0
    · rw [if_pos hp]
      have hsplit : l₀ ++ [p] ++ hdr :: l₂ = l₀ ++ p :: hdr :: l₂ := by simp
      have hsound := h.sound
      rw [hsplit] at hsound
      have hne : p ≠ hdr := by
        rintro rfl
        simpa using h.sound.chain.split.2.2.2.2.2
      have hkept : (s.join p hdr).alloc = s.alloc := alloc_join h.alloc
      have hfrontAll : Apart s.alloc (l₀ ++ p :: []) := h.front
      obtain ⟨⟨hfront, hlast⟩, -⟩ := (apart_of_free hp).mp hfrontAll
      have hpFree : p ∈ free := h.all_free p (by simp) hp
      refine ⟨s.join p hdr, l₀, p, some hdr, rfl, ⟨hsound.join hnot, h.buf, ?_, ?_, ?_, ?_⟩, ?_,
        by simpa using hpFree, ?_⟩
      · rw [hkept, hp]
      · intro a ha halloc
        rw [hkept] at halloc
        refine h.all_free a ?_ halloc
        rw [List.append_assoc, List.singleton_append]
        exact Links.mem_middle.mpr (.inr ha)
      · rwa [hkept]
      · rw [hkept]
        exact h.back
      · rwa [hkept]
      · rw [hsplit]
        exact keeps_join hp h.alloc hne
    · rw [if_neg hp]
      exact ⟨s, l₀ ++ [p], hdr, none, rfl, h, by simpa using hp, by simpa using hnot, .refl _ _⟩

/-- **The block after.** -/
theorem Freeing.mergeAfter {old : Option Nat} (h : Freeing s b l₁ hdr l₂ free)
    (hold : old = none ↔ hdr ∉ free) :
    ∃ s' l₂' free' old', s.mergeAfter hdr old = (s', old') ∧ Freeing s' b l₁ hdr l₂' free' ∧
      (∀ q ∈ l₂'.head?, s'.alloc q ≠ 0) ∧ s'.alloc = s.alloc ∧ (old' = none ↔ hdr ∉ free') ∧
      Keeps s (l₁ ++ hdr :: l₂) s' (l₁ ++ hdr :: l₂') := by
  have hnext : s.chain.next hdr = l₂.head? := h.sound.chain.split.2.2.2.1
  unfold BufferAlloc.mergeAfter
  rw [hnext]
  cases l₂ with
  | nil => exact ⟨s, [], free, old, rfl, h, by simp, rfl, hold, .refl _ _⟩
  | cons n l₃ =>
    rw [List.head?_cons]
    dsimp only
    by_cases hn : s.alloc n = 0
    · rw [if_pos hn]
      have hhdr : hdr ∈ l₁ ++ hdr :: n :: l₃ := by simp
      have hne : hdr ≠ n := by
        rintro rfl
        simpa using h.sound.chain.split.2.2.2.2.2
      have hnFree : n ∈ free := h.all_free n (by simp) hn
      -- the free list changes first, while all blocks are still there
      obtain ⟨free', hsound, hfree'⟩ := h.sound.takePlace hhdr h.alloc hnFree hne
      have hnGone : n ∉ free' := by
        rw [hfree']
        simp [hne.symm]
      have hhdrFree : hdr ∈ free' := (hfree' hdr).mpr (.inl rfl)
      have hkept : ((s.takePlace hdr n).join hdr n).alloc = s.alloc := alloc_join hn
      have hbackAll : Apart s.alloc ([] ++ n :: l₃) := h.back
      obtain ⟨-, hback, hhead⟩ := (apart_of_free hn).mp hbackAll
      refine ⟨(s.takePlace hdr n).join hdr n, l₃, free', some n, ?_, ⟨hsound.join hnGone, h.buf,
        ?_, ?_, ?_, ?_⟩, ?_, hkept, by simpa using hhdrFree, ?_⟩
      · -- the pointers in the cleared header are cleared once only
        have hcleared := Links.clear_clear ((s.withoutFree hdr).replace n hdr) n
        simp only [BufferAlloc.join, BufferAlloc.takePlace, BufferAlloc.clear, hcleared]
        rfl
      · rw [hkept, h.alloc]
      · intro a ha halloc
        rw [hkept] at halloc
        have hblock : a ∈ l₁ ++ n :: l₃ := Links.mem_middle.mpr (.inr ha)
        refine (hfree' a).mpr (.inr ⟨h.all_free a hblock halloc, ?_⟩)
        have hsplit : l₁ ++ hdr :: n :: l₃ = (l₁ ++ [hdr]) ++ n :: l₃ := by simp
        refine ((hsplit ▸ h.sound.chain).mem_rest.mp ?_).2
        rw [List.append_assoc, List.singleton_append]
        exact Links.mem_middle.mpr (.inr ha)
      · rw [hkept]
        exact h.front
      · rwa [hkept]
      · rwa [hkept]
      · have hplace : Keeps s (l₁ ++ hdr :: n :: l₃) (s.takePlace hdr n) (l₁ ++ hdr :: n :: l₃) :=
          ⟨fun _ => Iff.rfl, fun _ _ => rfl, rfl, rfl, rfl, rfl⟩
        exact hplace.trans (keeps_join h.alloc hn hne)
    · rw [if_neg hn]
      exact ⟨s, n :: l₃, free, old, rfl, h, by simpa using hn, rfl, hold, .refl _ _⟩

/-- A block is not in use any more. -/
structure Removes (s : BufferAlloc) (blocks : List Nat) (s' : BufferAlloc) (blocks' : List Nat)
    (hdr : Nat) : Prop where
  used : ∀ a, Used s' blocks' a ↔ Used s blocks a ∧ a ≠ hdr
  size : ∀ a, Used s blocks a → a ≠ hdr → s'.size a = s.size a
  len : s'.len = s.len
  bytes : s'.bytes = s.bytes

theorem removes_release : Removes s blocks (s.release hdr) blocks hdr := by
  refine ⟨?_, fun _ _ _ => rfl, rfl, rfl⟩
  intro a
  by_cases ha : a = hdr
  · subst ha
    simp [Used, BufferAlloc.release]
  · simp [Used, BufferAlloc.release, ha]

theorem Removes.keeps (h : Removes s blocks s' blocks' hdr)
    (hkeeps : Keeps s' blocks' s'' blocks'') : Removes s blocks s'' blocks'' hdr where
  used a := (hkeeps.used a).trans (h.used a)
  size a ha hne := (hkeeps.size a ((h.used a).mpr ⟨ha, hne⟩)).trans (h.size a ha hne)
  len := hkeeps.len.trans h.len
  bytes := hkeeps.bytes.trans h.bytes

/-- The free blocks are all in the list again. -/
theorem Freeing.inv (h : Freeing s b l₁ hdr l₂ free) (hmem : hdr ∈ free)
    (hlast : ∀ p ∈ l₁.getLast?, s.alloc p ≠ 0) (hhead : ∀ q ∈ l₂.head?, s.alloc q ≠ 0) :
    Inv s b (l₁ ++ hdr :: l₂) free := by
  refine ⟨h.sound, h.buf, by simp, ?_, ?_⟩
  · intro a ha halloc
    by_cases hself : a = hdr
    · exact hself ▸ hmem
    · exact h.all_free a ((Links.mem_middle.mp ha).resolve_left hself) halloc
  · exact (apart_of_free h.alloc).mpr ⟨⟨h.front, hlast⟩, h.back, hhead⟩

/-- The end of `buffer_alloc_free`, for a block that is not in use any more. -/
def regroup (s : BufferAlloc) (hdr : Nat) : Option BufferAlloc :=
  let (s, hdr, old) := s.mergeBefore hdr
  let (s, old) := s.mergeAfter hdr old
  let s := if old = none then { s with freeList := s.freeList.pushFront hdr } else s
  s.verified 2

theorem free_eq_regroup (hbuf : s.buf = some b) (hfirst : s.chain.first ≠ none)
    (hinside : ¬(hdr + 32 < b ∨ b + s.len ≤ hdr + 32)) (hverify : s.verifyHeader hdr = 0)
    (halloc : s.alloc hdr = 1) :
    s.free (some (hdr + 32)) = (s.release hdr).regroup hdr := by
  cases s
  cases hbuf
  unfold BufferAlloc.free
  dsimp only
  rw [if_neg hfirst, if_neg hinside, Nat.add_sub_cancel, if_neg (not_not.mpr hverify),
    if_neg (not_not.mpr halloc)]
  rfl

theorem Freeing.regroup (h : Freeing s b l₁ hdr l₂ free) (hnot : hdr ∉ free) :
    ∃ s' blocks' free', s.regroup hdr = some s' ∧ Inv s' b blocks' free' ∧
      Keeps s (l₁ ++ hdr :: l₂) s' blocks' := by
  obtain ⟨s₁, l₁', x, old, hbefore, hfreeing₁, hlast, hold, hkeeps₁⟩ := h.mergeBefore hnot
  obtain ⟨s₂, l₂', free', old', hafter, hfreeing₂, hhead, hsame, hold', hkeeps₂⟩ :=
    hfreeing₁.mergeAfter hold
  have hlast' : ∀ p ∈ l₁'.getLast?, s₂.alloc p ≠ 0 := by rwa [hsame]
  have hkeeps := hkeeps₁.trans hkeeps₂
  unfold BufferAlloc.regroup
  rw [hbefore]
  dsimp only
  rw [hafter]
  dsimp only
  by_cases hnone : old' = none
  · -- nothing has been merged, and the block is not in the free list
    rw [if_pos hnone]
    have hx : x ∈ l₁' ++ x :: l₂' := by simp
    have hsound := hfreeing₂.sound.pushFree hx (hold'.mp hnone) hfreeing₂.alloc
    have hfreeing₃ : Freeing { s₂ with freeList := s₂.freeList.pushFront x } b l₁' x l₂'
        (x :: free') := by
      refine ⟨hsound, hfreeing₂.buf, hfreeing₂.alloc, ?_, hfreeing₂.front, hfreeing₂.back⟩
      intro a ha hzero
      exact List.mem_cons_of_mem _ (hfreeing₂.all_free a ha hzero)
    have hinv := hfreeing₃.inv List.mem_cons_self hlast' hhead
    rw [hinv.verified]
    exact ⟨_, _, _, rfl, hinv, hkeeps.used, hkeeps.size, hkeeps.buf, hkeeps.len, hkeeps.verify,
      hkeeps.bytes⟩
  · rw [if_neg hnone]
    have hmem : x ∈ free' := by
      by_contra hnotMem
      exact hnone (hold'.mpr hnotMem)
    have hinv := hfreeing₂.inv hmem hlast' hhead
    rw [hinv.verified]
    exact ⟨_, _, _, rfl, hinv, hkeeps⟩

/-- **What `buffer_alloc_free` does**: a block that is in use can be freed, and then the others are
in use as before. -/
theorem Inv.freeBlock (h : Inv s b blocks free) (hused : Used s blocks hdr) :
    ∃ s' blocks' free', s.free (some (hdr + 32)) = some s' ∧ Inv s' b blocks' free' ∧
      Removes s blocks s' blocks' hdr := by
  obtain ⟨hblock, halloc⟩ := hused
  have hfirst : s.chain.first ≠ none := by
    rw [h.chain.first_eq, ne_eq, List.head?_eq_none_iff]
    exact h.nonempty
  have hinside : ¬(hdr + 32 < b ∨ b + s.len ≤ hdr + 32) := by
    have hbounds := h.tiles.bounds hblock
    have hpos := h.pos hdr hblock
    omega
  have hnot : hdr ∉ free := by
    intro hmem
    have hzero := (h.free_mem hdr hmem).2
    omega
  rw [free_eq_regroup h.buf hfirst hinside (h.verifyHeader hblock) halloc]
  obtain ⟨l₁, l₂, rfl⟩ := List.append_of_mem hblock
  have hgone := h.chain.split.2.2.2.2.2
  rw [List.mem_append, not_or] at hgone
  have hkept {a : Nat} (ha : a ≠ hdr) : (s.release hdr).alloc a = s.alloc a :=
    Function.update_of_ne ha ..
  have hfreeing : Freeing (s.release hdr) b l₁ hdr l₂ free := by
    obtain ⟨hfront, hback⟩ := (apart_of_used (by omega)).mp h.apart
    refine ⟨h.toSound.release hdr, h.buf, Function.update_self .., ?_, hfront.congr ?_,
      hback.congr ?_⟩
    · intro a ha hzero
      have hne : a ≠ hdr := by
        rintro rfl
        exact absurd ha (by simp [hgone])
      rw [hkept hne] at hzero
      exact h.all_free a (Links.mem_middle.mpr (.inr ha)) hzero
    · intro a ha
      exact hkept fun heq => hgone.1 (heq ▸ ha)
    · intro a ha
      exact hkept fun heq => hgone.2 (heq ▸ ha)
  obtain ⟨s', blocks', free', hregroup, hinv, hkeeps⟩ := hfreeing.regroup hnot
  exact ⟨s', blocks', free', hregroup, hinv, removes_release.keeps hkeeps⟩

end Wifi.BufferAlloc
