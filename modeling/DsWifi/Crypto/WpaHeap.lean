import DsWifi.Crypto.BufferRuns

/-!
# The heap of the driver (TWL)

`wpa_mbedtls_init` of `source/arm7/twl/ieee/wpa.twl.c` gives a buffer to mbedtls. `sha1_hmac` and
`PBKDF2_HMAC_SHA_1` have a context of `mbedtls/library/md.twl.c` in it, and `wpa_decrypt_gtk` has
one of `mbedtls/library/cipher_wrap.twl.c`. What they write there is left out, because the allocator
does not read it.

* `wpa_heap_suffices` — the buffer is large enough
* `heap_suffices_iff` — how large it has to be
-/

namespace Wifi

open Infra Infra.Mem

/-- `MBEDTLS_ERR_MD_ALLOC_FAILED`. -/
def mbedtlsErrMdAllocFailed : Int := -0x5180

/-- `MBEDTLS_ERR_CIPHER_ALLOC_FAILED`. -/
def mbedtlsErrCipherAllocFailed : Int := -0x6180

/-- The pointers of `mbedtls_md_context_t`. -/
structure MdPointers where
  mdCtx : Option Nat
  hmacCtx : Option Nat

namespace BufferAlloc

/-- `mbedtls_md_free`. -/
def mdFree (s : BufferAlloc) (ctx : MdPointers) : Option BufferAlloc :=
  (if ctx.mdCtx ≠ none then s.free ctx.mdCtx else some s).bind fun s =>
    if ctx.hmacCtx ≠ none then s.free ctx.hmacCtx else some s

/-- `mbedtls_md_setup` for SHA-1, with `hmac`. A `mbedtls_sha1_context` is 92 bytes long, and a
block 64 bytes. -/
def mdSetup (s : BufferAlloc) : Option (Int × MdPointers × BufferAlloc) :=
  (s.calloc 1 92).bind fun (mdCtx, s) =>
    if mdCtx = none then some (mbedtlsErrMdAllocFailed, ⟨none, none⟩, s)
    else (s.calloc 2 64).bind fun (hmacCtx, s) =>
      if hmacCtx = none then
        (s.mdFree ⟨mdCtx, none⟩).map fun s => (mbedtlsErrMdAllocFailed, ⟨none, none⟩, s)
      else some (0, ⟨mdCtx, hmacCtx⟩, s)

/-- `sha1_hmac` and `PBKDF2_HMAC_SHA_1`. -/
def useMd (s : BufferAlloc) : Option (Int × BufferAlloc) :=
  s.mdSetup.bind fun (ret, ctx, s) => (s.mdFree ctx).map fun s => (ret, s)

/-- `wpa_decrypt_gtk`, with `aes_ctx_alloc` and `aes_ctx_free`. A `mbedtls_aes_context` is 280 bytes
long. -/
def useAes (s : BufferAlloc) : Option (Int × BufferAlloc) :=
  (s.calloc 1 280).bind fun (cipherCtx, s) =>
    if cipherCtx = none then some (mbedtlsErrCipherAllocFailed, s)
    else (s.free cipherCtx).map fun s => (0, s)

/-- `wpa_mbedtls_init`, with `mbedtls_heap` at this address. -/
def wpaMbedtlsInit (bytes : Mem) (mbedtlsHeap : Nat) : BufferAlloc := .init bytes mbedtlsHeap 1024

end BufferAlloc

/-- What the driver does with mbedtls. -/
inductive HeapUse
  | md
  | aes

namespace HeapUse

def exec (s : BufferAlloc) : HeapUse → Option (Int × BufferAlloc)
  | .md => s.useMd
  | .aes => s.useAes

def step (s : Option BufferAlloc) (u : HeapUse) : Option BufferAlloc :=
  (s.bind fun s => exec s u).map Prod.snd

/-- The allocator does not exit, and it has found memory. -/
def Succeeds (s : Option BufferAlloc) (u : HeapUse) : Prop :=
  ∃ s', (s.bind fun s => exec s u) = some (0, s')

end HeapUse

open BufferAlloc

variable {s : BufferAlloc} {lo hi : Nat}

/-- The last array is freed. -/
theorem Heap.Inv.freeLast {p : Nat} {bs : List UInt8} (h : Heap.Inv lo hi s [(p, bs)]) :
    ∃ s', s.free (some p) = some s' ∧ Heap.Inv lo hi s' [] := by
  have hnone : [(p, bs)].filter (fun x => some x.1 ≠ some p) = [] := by simp
  obtain ⟨s', hfree, hinv⟩ := h.freeBlock List.mem_cons_self
  exact ⟨s', hfree, hnone ▸ hinv⟩

/-- Two arrays are freed, the older one first. -/
theorem Heap.Inv.mdFree {p q : Nat} {bs cs : List UInt8} (h : Heap.Inv lo hi s [(q, cs), (p, bs)]) :
    ∃ s', s.mdFree ⟨some p, some q⟩ = some s' ∧ Heap.Inv lo hi s' [] := by
  have hne : q ≠ p := by
    obtain ⟨blocks, free, hinv, hlen, hstored⟩ := h
    simpa using hstored.nodup
  have hone : [(q, cs), (p, bs)].filter (fun x => some x.1 ≠ some p) = [(q, cs)] := by
    simp [hne]
  obtain ⟨s₁, hfree, hinv₁⟩ := h.freeBlock (List.mem_cons_of_mem _ List.mem_cons_self)
  rw [hone] at hinv₁
  obtain ⟨s₂, hfree', hinv₂⟩ := hinv₁.freeLast
  refine ⟨s₂, ?_, hinv₂⟩
  simp [BufferAlloc.mdFree, hfree, hfree']

theorem Heap.Inv.useMd (h : Heap.Inv lo hi s []) (hsize : lo + 284 ≤ hi) :
    ∃ s', s.useMd = some (0, s') ∧ Heap.Inv lo hi s' [] := by
  have hfirst : alignLen (1 * 92 : UInt32).toNat = 92 := by decide
  have hsecond : alignLen (2 * 64 : UInt32).toNat = 128 := by decide
  have hrequest : Request 1 92 := by decide
  have hrequest' : Request 2 64 := by decide
  obtain ⟨p, s₁, hcalloc, -, hnext⟩ := h.calloc_first hrequest (by omega)
  obtain ⟨q, s₂, hcalloc', hinv₂⟩ := hnext 2 64 hrequest' (by omega)
  obtain ⟨s₃, hfree, hinv₃⟩ := hinv₂.mdFree
  refine ⟨s₃, ?_, hinv₃⟩
  simp [BufferAlloc.useMd, BufferAlloc.mdSetup, hcalloc, hcalloc', hfree]

theorem Heap.Inv.useAes (h : Heap.Inv lo hi s []) (hsize : lo + 312 ≤ hi) :
    ∃ s', s.useAes = some (0, s') ∧ Heap.Inv lo hi s' [] := by
  have hlen : alignLen (1 * 280 : UInt32).toNat = 280 := by decide
  have hrequest : Request 1 280 := by decide
  obtain ⟨p, s₁, hcalloc, hinv₁, -⟩ := h.calloc_first hrequest (by omega)
  obtain ⟨s₂, hfree, hinv₂⟩ := hinv₁.freeLast
  refine ⟨s₂, ?_, hinv₂⟩
  simp [BufferAlloc.useAes, hcalloc, hfree]

theorem Heap.Inv.exec (h : Heap.Inv lo hi s []) (hsize : lo + 312 ≤ hi) (u : HeapUse) :
    ∃ s', u.exec s = some (0, s') ∧ Heap.Inv lo hi s' [] := by
  cases u with
  | md => exact h.useMd (by omega)
  | aes => exact h.useAes hsize

/-- In a buffer that is smaller, there is no room for the context of AES. -/
theorem Heap.Inv.of_useAes {s' : BufferAlloc} (h : Heap.Inv lo hi s [])
    (huse : s.useAes = some (0, s')) : lo + 312 ≤ hi := by
  rcases h.calloc 1 280 with hnone | ⟨p, s₁, -, hinv₁⟩
  · simp [BufferAlloc.useAes, hnone, mbedtlsErrCipherAllocFailed] at huse
  · obtain ⟨-, hlo, hhi⟩ := hinv₁.held.inside _ _ List.mem_cons_self
    rw [List.length_replicate] at hhi
    have hlen : (1 * 280 : UInt32).toNat = 280 := by decide
    omega

theorem le_alignBuf (buf : Nat) : buf ≤ Heap.alignBuf buf ∧ Heap.alignBuf buf < buf + 4 := by
  unfold Heap.alignBuf
  split <;> omega

theorem along_succeeds (bytes : Mem) {buf len : Nat} (hsize : Heap.alignBuf buf + 312 ≤ buf + len)
    (us : List HeapUse) :
    Along HeapUse.step HeapUse.Succeeds (some (BufferAlloc.init bytes buf len)) us := by
  have hlen : 36 ≤ len := by
    have hle := (le_alignBuf buf).1
    omega
  refine along_of_inv
    (fun s => ∃ s', s = some s' ∧ Heap.Inv (Heap.alignBuf buf) (buf + len) s' []) ?_ ?_
    ⟨_, rfl, Heap.inv_init bytes hlen⟩ us
  · rintro _ u ⟨s, rfl, hinv⟩
    obtain ⟨s', hexec, hinv'⟩ := hinv.exec hsize u
    exact ⟨s', by simp [HeapUse.step, hexec], hinv'⟩
  · rintro _ u ⟨s, rfl, hinv⟩
    obtain ⟨s', hexec, -⟩ := hinv.exec hsize u
    exact ⟨s', hexec⟩

/-- **The heap of the driver is large enough**, wherever it is. -/
theorem wpa_heap_suffices (bytes : Mem) (mbedtlsHeap : Nat) (us : List HeapUse) :
    Along HeapUse.step HeapUse.Succeeds (some (wpaMbedtlsInit bytes mbedtlsHeap)) us := by
  have halign := (le_alignBuf mbedtlsHeap).2
  exact along_succeeds bytes (by omega) us

/-- **How large the buffer has to be**: 312 bytes behind the first multiple of 4 are enough for all
that the driver does, as often as it likes and in any order, and fewer bytes are not. -/
theorem heap_suffices_iff (bytes : Mem) (buf len : Nat) :
    (∀ us, Along HeapUse.step HeapUse.Succeeds (some (BufferAlloc.init bytes buf len)) us) ↔
      Heap.alignBuf buf + 312 ≤ buf + len := by
  constructor
  · intro h
    -- the context of AES is the largest
    obtain ⟨⟨s', huse⟩, -⟩ := h [.aes]
    by_cases hlen : 36 ≤ len
    · exact (Heap.inv_init bytes hlen).of_useAes huse
    · have hzero : BufferAlloc.init bytes buf len = zero bytes := if_pos (by omega)
      rw [hzero] at huse
      cases huse
  · exact fun hsize us => along_succeeds bytes hsize us

end Wifi
