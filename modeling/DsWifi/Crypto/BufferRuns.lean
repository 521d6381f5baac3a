import DsWifi.Crypto.BufferFree
import DsWifi.Infra.Run

/-!
# Arrays in the buffer of the allocator (TWL)

`mbedtls_calloc` and `mbedtls_free` are `buffer_alloc_calloc` and `buffer_alloc_free` once
`mbedtls_memory_buffer_alloc_init` has been called. A program that uses them sees arrays: it gets
one, reads and writes its bytes, and frees it.

* `Heap.arrays_held` — in every run, the buffer holds the arrays of the program
-/

namespace Wifi

open Infra Infra.Mem

/-- The allocator, if it has not exited, and the arrays of a program: where they are, and the bytes
that should be there. -/
structure Heap where
  allocator : Option BufferAlloc
  arrays : List (Nat × List UInt8)

/-- What a program does. -/
inductive HeapEvent
  /-- `mbedtls_calloc`. -/
  | calloc (n size : UInt32)
  /-- `mbedtls_free`. -/
  | free (ptr : Option Nat)
  /-- A byte of an array is written. -/
  | write (p i : Nat) (b : UInt8)
  /-- `mbedtls_memory_buffer_set_verify`. -/
  | setVerify (verify : Nat)

namespace Heap

open BufferAlloc

/-- After `mbedtls_memory_buffer_alloc_init`. -/
def start (bytes : Mem) (buf len : Nat) : Heap where
  allocator := some (BufferAlloc.init bytes buf len)
  arrays := []

def step (h : Heap) : HeapEvent → Heap
  | .calloc n size =>
    match h.allocator.bind fun s => s.calloc n size with
    | none => { h with allocator := none }
    | some (none, s) => { h with allocator := some s }
    | some (some p, s) =>
      { allocator := some s, arrays := (p, List.replicate (n * size).toNat 0) :: h.arrays }
  | .free ptr =>
    { allocator := h.allocator.bind fun s => s.free ptr
      arrays := h.arrays.filter fun x => some x.1 ≠ ptr }
  | .write p i b =>
    { allocator := h.allocator.map fun s => { s with bytes := s.bytes.storeByte (p + i) b }
      arrays := h.arrays.map fun x => (x.1, if x.1 = p then x.2.set i b else x.2) }
  | .setVerify verify => { h with allocator := h.allocator.map fun s => { s with verify } }

/-- What the interface asks of a program: it frees what it has got, once, and it writes inside its
arrays. -/
def Legal (h : Heap) : HeapEvent → Prop
  | .calloc _ _ => True
  | .free ptr => ∀ p ∈ ptr, ∃ x ∈ h.arrays, x.1 = p
  | .write p i _ => ∃ x ∈ h.arrays, x.1 = p ∧ i < x.2.length
  | .setVerify _ => True

instance (h : Heap) : ∀ e, Decidable (h.Legal e)
  | .calloc _ _ => .isTrue trivial
  | .free ptr => inferInstanceAs (Decidable (∀ p ∈ ptr, ∃ x ∈ h.arrays, x.1 = p))
  | .write p i _ => inferInstanceAs (Decidable (∃ x ∈ h.arrays, x.1 = p ∧ i < x.2.length))
  | .setVerify _ => .isTrue trivial

/-- What a program can rely on, for a buffer from `lo` to `hi`. -/
structure Held (s : BufferAlloc) (arrays : List (Nat × List UInt8)) (lo hi : Nat) : Prop where
  bytes : ∀ p bs, (p, bs) ∈ arrays → s.bytes.loadBytes p bs.length = bs
  inside : ∀ p bs, (p, bs) ∈ arrays → p % 4 = 0 ∧ lo + 32 ≤ p ∧ p + bs.length ≤ hi
  apart : arrays.Pairwise fun x y => x.1 + x.2.length ≤ y.1 ∨ y.1 + y.2.length ≤ x.1
  /-- No array is where the headers of the allocator are. -/
  headers : ∃ blocks, s.chain.Holds blocks ∧ ∀ hdr ∈ blocks, lo ≤ hdr ∧ hdr + 32 ≤ hi ∧
    ∀ p bs, (p, bs) ∈ arrays → hdr + 32 ≤ p ∨ p + bs.length ≤ hdr
  verified : s.verifyChain = some 0
  /-- Where there is room between the arrays for another one and the headers, it can be had. -/
  served : ∀ n size, Request n size → ∀ x, lo ≤ x → x + 32 + alignLen (n * size).toNat ≤ hi →
    (∀ p bs, (p, bs) ∈ arrays →
      p + alignLen bs.length + 35 ≤ x ∨ x + 64 + alignLen (n * size).toNat ≤ p) →
    ∃ p s', s.calloc n size = some (some p, s')

/-! ## The arrays are the blocks in use -/

/-- An array is what a block has been handed out for. -/
structure Stored (s : BufferAlloc) (blocks : List Nat) (arrays : List (Nat × List UInt8)) :
    Prop where
  used : ∀ a, Used s blocks a ↔ ∃ bs, (a + 32, bs) ∈ arrays
  array : ∀ p bs, (p, bs) ∈ arrays →
    ∃ a, p = a + 32 ∧ bs.length ≤ s.size a ∧ s.size a < alignLen bs.length + 36 ∧
      s.bytes.loadBytes p bs.length = bs
  nodup : (arrays.map Prod.fst).Nodup

/-- The invariant. -/
def Inv (lo hi : Nat) (s : BufferAlloc) (arrays : List (Nat × List UInt8)) : Prop :=
  ∃ blocks free, BufferAlloc.Inv s lo blocks free ∧ lo + s.len = hi ∧ Stored s blocks arrays

variable {s s' : BufferAlloc} {lo hi : Nat} {blocks blocks' free : List Nat}
  {arrays : List (Nat × List UInt8)} {p a : Nat} {bs : List UInt8}

theorem Stored.block (h : Stored s blocks arrays) (hmem : (p, bs) ∈ arrays) :
    ∃ a, p = a + 32 ∧ Used s blocks a ∧ bs.length ≤ s.size a ∧ s.size a < alignLen bs.length + 36 ∧
      s.bytes.loadBytes p bs.length = bs := by
  obtain ⟨a, rfl, harray⟩ := h.array p bs hmem
  exact ⟨a, rfl, (h.used a).mpr ⟨bs, hmem⟩, harray⟩

theorem Stored.calloc {n : Nat} (h : Stored s blocks arrays)
    (hinv : BufferAlloc.Inv s' lo blocks' free) (hadds : Adds s blocks s' blocks' a n)
    (hbytes : s'.bytes = s.bytes.storeBytes (a + 32) (List.replicate n 0))
    (htight : s'.size a < alignLen n + 36) :
    Stored s' blocks' ((a + 32, List.replicate n 0) :: arrays) := by
  have hnew : ∀ bs, (a + 32, bs) ∉ arrays := fun bs hmem =>
    hadds.fresh ((h.used a).mpr ⟨bs, hmem⟩)
  refine ⟨?_, ?_, ?_⟩
  · intro c
    rw [hadds.used, h.used]
    simp only [List.mem_cons, Prod.mk.injEq, Nat.add_right_cancel_iff, exists_or,
      exists_and_left, exists_eq, and_true]
  · intro p bs hmem
    rcases List.mem_cons.mp hmem with heq | hold
    · obtain ⟨rfl, rfl⟩ := Prod.mk.inj heq
      refine ⟨a, rfl, by simpa using hadds.room, by simpa using htight, ?_⟩
      rw [hbytes]
      exact Mem.loadBytes_storeBytes ..
    · obtain ⟨c, rfl, hused, hlen, hmax, hloaded⟩ := h.block hold
      have hsize := hadds.size c hused
      refine ⟨c, rfl, by omega, by omega, ?_⟩
      rw [hbytes]
      -- the bytes that are cleared are in another block
      refine (loadBytes_congr (eqOn_storeBytes ?_)).trans hloaded
      have hc := (hadds.used c).mpr (.inr hused)
      have ha := (hadds.used a).mpr (.inl rfl)
      have hne : c ≠ a := by
        rintro rfl
        exact hnew bs hold
      have hroom := hadds.room
      have hapart := hinv.tiles.apart hc.1 ha.1 hne
      rintro x ⟨hle, hlt⟩
      rw [List.length_replicate]
      omega
  · rw [List.map_cons, List.nodup_cons]
    refine ⟨?_, h.nodup⟩
    rintro hmem
    obtain ⟨⟨_, bs⟩, hmem, rfl⟩ := List.mem_map.mp hmem
    exact hnew bs hmem

theorem Stored.freeBlock (h : Stored s blocks arrays) (hremoves : Removes s blocks s' blocks' a) :
    Stored s' blocks' (arrays.filter fun x => some x.1 ≠ some (a + 32)) := by
  have hmem {p : Nat} {bs : List UInt8} :
      (p, bs) ∈ arrays.filter (fun x => some x.1 ≠ some (a + 32)) ↔
        (p, bs) ∈ arrays ∧ p ≠ a + 32 := by
    simp
  refine ⟨?_, ?_, ?_⟩
  · intro c
    rw [hremoves.used, h.used]
    simp only [hmem, ne_eq, Nat.add_right_cancel_iff, exists_and_right]
  · intro p bs hfiltered
    obtain ⟨hold, hne⟩ := hmem.mp hfiltered
    obtain ⟨c, rfl, hused, hlen, hmax, hbytes⟩ := h.block hold
    have hsize := hremoves.size c hused (by omega)
    exact ⟨c, rfl, by omega, by omega, hremoves.bytes ▸ hbytes⟩
  · exact h.nodup.sublist (List.filter_sublist.map _)

theorem Stored.write (h : Stored s blocks arrays) (hinv : BufferAlloc.Inv s lo blocks free)
    (hmem : (p, bs) ∈ arrays) {i : Nat} (hi : i < bs.length) (b : UInt8) :
    Stored { s with bytes := s.bytes.storeByte (p + i) b } blocks
      (arrays.map fun x => (x.1, if x.1 = p then x.2.set i b else x.2)) := by
  obtain ⟨a, rfl, hused, hlen, -⟩ := h.block hmem
  refine ⟨?_, ?_, ?_⟩
  · intro c
    refine (h.used c).trans ⟨?_, ?_⟩
    · rintro ⟨old, hold⟩
      exact ⟨_, List.mem_map_of_mem hold⟩
    · rintro ⟨new, hnew⟩
      obtain ⟨⟨q, old⟩, hold, heq⟩ := List.mem_map.mp hnew
      obtain rfl : q = c + 32 := (Prod.mk.inj heq).1
      exact ⟨old, hold⟩
  · rintro p' new hnew
    obtain ⟨⟨q, old⟩, hold, heq⟩ := List.mem_map.mp hnew
    obtain ⟨rfl, rfl⟩ := Prod.mk.inj heq
    obtain ⟨c, rfl, hused', hlen', hmax, hbytes⟩ := h.block hold
    dsimp only
    -- an address has one array, so this is the one that is written or it is in another block
    by_cases hc : c = a
    · subst hc
      rw [if_pos rfl, List.length_set]
      refine ⟨c, rfl, hlen', hmax, ?_⟩
      rw [loadBytes_storeByte, hbytes]
    · rw [if_neg (by omega)]
      refine ⟨c, rfl, hlen', hmax, ?_⟩
      refine (loadBytes_congr (eqOn_storeByte ?_)).trans hbytes
      have hapart := hinv.tiles.apart hused.1 hused'.1 (Ne.symm hc)
      rintro ⟨hle, hlt⟩
      omega
  · rw [List.map_map]
    exact h.nodup

/-! ## One step -/

theorem Inv.calloc (h : Inv lo hi s arrays) (n size : UInt32) :
    s.calloc n size = some (none, s) ∨ ∃ p s', s.calloc n size = some (some p, s') ∧
      Inv lo hi s' ((p, List.replicate (n * size).toNat 0) :: arrays) := by
  obtain ⟨blocks, free, hinv, hlen, hstored⟩ := h
  rcases hinv.calloc n size with
    ⟨hnone, -⟩ | ⟨cur, s', blocks', free', hsome, hinv', hadds, hbytes, htight, -⟩
  · exact .inl hnone
  · refine .inr ⟨cur + 32, s', hsome, blocks', free', hinv', ?_,
      hstored.calloc hinv' hadds hbytes htight⟩
    rw [hadds.len, hlen]

theorem Inv.freeBlock (h : Inv lo hi s arrays) (hmem : (p, bs) ∈ arrays) :
    ∃ s', s.free (some p) = some s' ∧
      Inv lo hi s' (arrays.filter fun x => some x.1 ≠ some p) := by
  obtain ⟨blocks, free, hinv, hlen, hstored⟩ := h
  obtain ⟨a, rfl, hused, -⟩ := hstored.block hmem
  obtain ⟨s', blocks', free', hfree, hinv', hremoves⟩ := hinv.freeBlock hused
  refine ⟨s', hfree, blocks', free', hinv', ?_, hstored.freeBlock hremoves⟩
  rw [hremoves.len, hlen]

/-- **What a program does keeps the invariant.** -/
theorem Inv.step {h : Heap} {e : HeapEvent} (hs : h.allocator = some s)
    (hinv : Inv lo hi s h.arrays) (hlegal : h.Legal e) :
    ∃ s', (h.step e).allocator = some s' ∧ Inv lo hi s' (h.step e).arrays := by
  cases e with
  | calloc n size =>
    rcases hinv.calloc n size with hnone | ⟨p, s', hsome, hinv'⟩
    · refine ⟨s, ?_⟩
      simpa [Heap.step, hs, hnone] using hinv
    · refine ⟨s', ?_⟩
      simpa [Heap.step, hs, hsome] using hinv'
  | free ptr =>
    cases ptr with
    | none =>
      refine ⟨s, ?_⟩
      simpa [Heap.step, hs, BufferAlloc.free] using hinv
    | some q =>
      obtain ⟨⟨p, bs⟩, hmem, rfl⟩ := hlegal q rfl
      obtain ⟨s', hfree, hinv'⟩ := hinv.freeBlock hmem
      exact ⟨s', by simpa [Heap.step, hs] using hfree, hinv'⟩
  | write q i b =>
    obtain ⟨⟨p, bs⟩, hmem, rfl, hi⟩ := hlegal
    obtain ⟨blocks, free, hblocks, hlen, hstored⟩ := hinv
    refine ⟨{ s with bytes := s.bytes.storeByte (p + i) b }, by simp [Heap.step, hs], ?_⟩
    exact ⟨blocks, free, hblocks.setBytes .., hlen, hstored.write hblocks hmem hi b⟩
  | setVerify verify =>
    obtain ⟨blocks, free, hblocks, hlen, hused, harray, hnodup⟩ := hinv
    refine ⟨{ s with verify }, by simp [Heap.step, hs], ?_⟩
    exact ⟨blocks, free, hblocks.setBytes .., hlen, hused, harray, hnodup⟩

/-! ## The first state -/

/-- Where the buffer begins, for a block. -/
def alignBuf (buf : Nat) : Nat := if buf % 4 ≠ 0 then buf + (4 - buf % 4) else buf

theorem inv_oneBlock (bytes : Mem) {buf len : Nat} (haligned : buf % 4 = 0) (hlen : 32 < len) :
    Inv buf (buf + len) (oneBlock bytes buf len) [] := by
  refine ⟨[buf], [buf], ⟨⟨?_, ?_, ?_, ?_, ?_, ?_, ?_, ?_⟩, rfl, ?_, ?_, ?_⟩, rfl, ?_, ?_, ?_⟩
  · refine ⟨rfl, ?_⟩
    show buf + (32 + Function.update (fun _ => 0) buf (len - 32) buf) = buf + len
    rw [Function.update_self]
    omega
  · simpa using haligned
  · simp [oneBlock]
    omega
  · exact ⟨List.nodup_singleton _, rfl, rfl, rfl⟩
  · exact ⟨List.nodup_singleton _, rfl, rfl, rfl⟩
  · simp [oneBlock, zero]
  · simp [oneBlock, zero]
  · simp
  · simp
  · simp
  · simp [Apart]
  · simp [Used, oneBlock, zero]
  · simp
  · simp

theorem inv_init (bytes : Mem) {buf len : Nat} (hlen : 36 ≤ len) :
    Inv (alignBuf buf) (buf + len) (BufferAlloc.init bytes buf len) [] := by
  unfold BufferAlloc.init alignBuf
  rw [if_neg (show ¬len < 32 + 4 by omega)]
  by_cases hmod : buf % 4 ≠ 0
  · rw [if_pos hmod, if_pos hmod]
    have hinv := inv_oneBlock bytes (show (buf + (4 - buf % 4)) % 4 = 0 by omega)
      (show 32 < len - (4 - buf % 4) by omega)
    have hend : buf + (4 - buf % 4) + (len - (4 - buf % 4)) = buf + len := by omega
    rwa [hend] at hinv
  · rw [if_neg hmod, if_neg hmod]
    exact inv_oneBlock bytes (not_not.mp hmod) (by omega)

/-! ## A buffer with nothing in it -/

/-- When nothing is in use, there is one block. -/
theorem eq_singleton_of_unused (h : BufferAlloc.Inv s lo blocks free)
    (hunused : ∀ a, ¬Used s blocks a) : blocks = [lo] ∧ lo ∈ free ∧ 32 + s.size lo = s.len := by
  have hfree : ∀ a ∈ blocks, s.alloc a = 0 := by
    intro a ha
    have hle := (h.header a ha).2.2
    have hne : s.alloc a ≠ 1 := fun hone => hunused a ⟨ha, hone⟩
    omega
  obtain ⟨a, l, rfl⟩ := List.exists_cons_of_ne_nil h.nonempty
  cases l with
  | nil =>
    obtain ⟨rfl, hend⟩ := h.tiles
    have hend : a + (32 + s.size a) = a + s.len := hend
    exact ⟨rfl, h.all_free a List.mem_cons_self (hfree a List.mem_cons_self), by omega⟩
  | cons c l =>
    have hapart := (List.isChain_cons_cons.mp h.apart).1
    exact absurd ⟨hfree a (by simp), hfree c (by simp)⟩ hapart

/-- All of the buffer can be had at once, or in two pieces. -/
theorem Inv.calloc_first (h : Inv lo hi s []) {n size : UInt32} (hrequest : Request n size)
    (hfits : lo + 32 + alignLen (n * size).toNat ≤ hi) :
    ∃ p s', s.calloc n size = some (some p, s') ∧
      Inv lo hi s' [(p, List.replicate (n * size).toNat 0)] ∧
      ∀ n' size', Request n' size' →
        lo + 64 + alignLen (n * size).toNat + alignLen (n' * size').toNat ≤ hi →
        ∃ p' s'', s'.calloc n' size' = some (some p', s'') ∧
          Inv lo hi s'' [(p', List.replicate (n' * size').toNat 0),
            (p, List.replicate (n * size).toNat 0)] := by
  obtain ⟨blocks, free, hinv, hlen, hstored⟩ := h
  have hunused (a : Nat) : ¬Used s blocks a := by
    rw [hstored.used]
    simp
  obtain ⟨rfl, hlo, hsize⟩ := eq_singleton_of_unused hinv hunused
  have honly : ∀ x ∈ free, x = lo := fun x hx => List.mem_singleton.mp (hinv.free_mem x hx).1
  rcases hinv.calloc n size with
    ⟨-, hsmall⟩ | ⟨cur, s', blocks', free', hsome, hinv', hadds, hbytes, htight, x, hx, hrest⟩
  · have hlt := hsmall hrequest lo hlo
    omega
  obtain rfl := honly x hx
  have hinv₁ : Inv x hi s' [(cur + 32, List.replicate (n * size).toNat 0)] :=
    ⟨blocks', free', hinv', by rw [hadds.len, hlen], hstored.calloc hinv' hadds hbytes htight⟩
  refine ⟨cur + 32, s', hsome, hinv₁, ?_⟩
  intro n' size' hrequest' hfits'
  have hpos := hrequest'.pos
  have hle := (alignLen_spec (n' * size').toNat).1
  have haligned := (alignLen_spec (n' * size').toNat).2
  rcases hinv₁.calloc n' size' with hnone | hsome'
  · -- the rest of the buffer is large enough
    rcases hinv'.calloc n' size' with ⟨-, hsmall⟩ | ⟨_, _, _, _, hsome', -⟩
    · obtain ⟨y, hy, hysize⟩ := hrest (by omega)
      have hlt := hsmall hrequest' y hy
      omega
    · rw [hnone] at hsome'
      cases hsome'
  · exact hsome'

/-! ## Runs -/

theorem Inv.held (h : Inv lo hi s arrays) : Held s arrays lo hi := by
  obtain ⟨blocks, free, hinv, hlen, hstored⟩ := h
  refine ⟨?_, ?_, ?_, ⟨blocks, hinv.chain, ?_⟩, hinv.verifyChain hinv.nonempty, ?_⟩
  · intro p bs hmem
    obtain ⟨a, -, -, -, -, hbytes⟩ := hstored.block hmem
    exact hbytes
  · intro p bs hmem
    obtain ⟨a, rfl, hused, hle, -⟩ := hstored.block hmem
    have haligned := hinv.aligned a hused.1
    have hbounds := hinv.tiles.bounds hused.1
    omega
  · refine (List.pairwise_map.mp hstored.nodup).imp_of_mem ?_
    rintro ⟨p, bs⟩ ⟨p', bs'⟩ hmem hmem' hne
    obtain ⟨a, rfl, hused, hle, -⟩ := hstored.block hmem
    obtain ⟨a', rfl, hused', hle', -⟩ := hstored.block hmem'
    dsimp only at hne ⊢
    have hapart := hinv.tiles.apart hused.1 hused'.1 (by omega)
    omega
  · intro hdr hmem
    have hbounds := hinv.tiles.bounds hmem
    refine ⟨hbounds.1, by omega, ?_⟩
    intro p bs harray
    obtain ⟨a, rfl, hused, hle, -⟩ := hstored.block harray
    by_cases hself : a = hdr
    · omega
    · have hapart := hinv.tiles.apart hused.1 hmem hself
      omega
  · intro n size hrequest x hlo hhi hgap
    have hgap' : ∀ a, Used s blocks a →
        a + 32 + s.size a ≤ x ∨ x + (32 + alignLen (n * size).toNat) ≤ a := by
      intro a hused
      obtain ⟨bs, hmem⟩ := (hstored.used a).mp hused
      obtain ⟨a', heq, -, -, hmax, -⟩ := hstored.block hmem
      obtain rfl : a = a' := by omega
      have hout := hgap _ _ hmem
      omega
    rcases hinv.calloc n size with ⟨-, hsmall⟩ | ⟨cur, s', _, _, hsome, -⟩
    · obtain ⟨a, ha, hroom⟩ := hinv.exists_free hlo (by omega) (by omega) hgap'
      have hlt := hsmall hrequest a ha
      omega
    · exact ⟨cur + 32, s', hsome⟩

/-- **The buffer holds the arrays of a program**, whatever it allocates, writes and frees: no array
is inside another or where a header is, their bytes are what the program has left there, the
allocator does not exit and finds nothing wrong, and the memory between the arrays can be had. -/
theorem arrays_held (bytes : Mem) {buf len : Nat} (hlen : 36 ≤ len) {es : List HeapEvent}
    (hlegal : Along step Legal (start bytes buf len) es) :
    ∃ s, (run step (start bytes buf len) es).allocator = some s ∧
      Held s (run step (start bytes buf len) es).arrays (alignBuf buf) (buf + len) := by
  have hrun := hlegal.inv
    (fun h => ∃ s, h.allocator = some s ∧ Inv (alignBuf buf) (buf + len) s h.arrays)
    (fun _ _ ⟨_, hs, hinv⟩ hlegal => hinv.step hs hlegal) ⟨_, rfl, inv_init bytes hlen⟩
  obtain ⟨s, hs, hinv⟩ := hrun
  exact ⟨s, hs, hinv.held⟩

/-- An array is written and freed while there is another one, and a third one takes its place. -/
def threeArrays : List HeapEvent :=
  [.setVerify 3, .calloc 1 3, .calloc 2 4, .write 0x2024 2 7, .free (some 0x2024), .calloc 1 1,
    .free none]

theorem arrays_held_three : ∃ s,
    (run step (start (fun _ => 0xFF) 0x2001 128) threeArrays).allocator = some s ∧
      Held s (run step (start (fun _ => 0xFF) 0x2001 128) threeArrays).arrays (alignBuf 0x2001)
        (0x2001 + 128) :=
  arrays_held _ (by decide) (by decide)

end Heap

end Wifi
