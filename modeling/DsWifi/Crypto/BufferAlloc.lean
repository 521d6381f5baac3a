import DsWifi.Infra.LinkedList
import DsWifi.Infra.Memory
import DsWifi.Infra.Tiles

/-!
# The allocator of mbedtls (TWL)

`mbedtls/library/memory_buffer_alloc.twl.c`. A `memory_header` is 32 bytes long, and
`MBEDTLS_MEMORY_ALIGN_MULTIPLE` is 4. Headers are given by a function for each of their fields, and
pointers are addresses. What calls `mbedtls_exit` or does not come back has no result.

* `BufferAlloc.init`, `BufferAlloc.calloc`, `BufferAlloc.free` — the functions
* `BufferAlloc.verifyChain` — its check of itself
-/

namespace Wifi

open Infra Infra.Mem

/-- `buffer_alloc_ctx`, the headers of the blocks, and the bytes of the buffer. -/
structure BufferAlloc where
  buf : Option Nat
  len : Nat
  verify : Nat
  magic1 : Nat → Nat
  size : Nat → Nat
  alloc : Nat → Nat
  magic2 : Nat → Nat
  /-- `first`, and `next` and `prev` of the headers. -/
  chain : Links Nat
  /-- `first_free`, and `next_free` and `prev_free` of the headers. -/
  freeList : Links Nat
  bytes : Mem

/-- `MAGIC1`. -/
def memoryMagic1 : Nat := 0xFF00AA55

/-- `MAGIC2`. -/
def memoryMagic2 : Nat := 0xEE119966

namespace BufferAlloc

/-- `memset` on a header. -/
def clear (s : BufferAlloc) (hdr : Nat) : BufferAlloc :=
  { s with
    magic1 := Function.update s.magic1 hdr 0
    size := Function.update s.size hdr 0
    alloc := Function.update s.alloc hdr 0
    magic2 := Function.update s.magic2 hdr 0
    chain := s.chain.clear hdr
    freeList := s.freeList.clear hdr }

/-! ## Checks -/

/-- `verify_header`. -/
def verifyHeader (s : BufferAlloc) (hdr : Nat) : Nat :=
  if s.magic1 hdr ≠ memoryMagic1 then 1
  else if s.magic2 hdr ≠ memoryMagic2 then 1
  else if 1 < s.alloc hdr then 1
  else if s.chain.prev hdr ≠ none ∧ s.chain.prev hdr = s.chain.next hdr then 1
  else if s.freeList.prev hdr ≠ none ∧ s.freeList.prev hdr = s.freeList.next hdr then 1
  else 0

/-- The loop of `verify_chain`, with at most so many iterations. -/
def verifyLoop (s : BufferAlloc) : Nat → Nat → Option Nat → Option Nat
  | _, _, none => some 0
  | 0, _, some _ => none
  | fuel + 1, prv, some cur =>
    if s.verifyHeader cur ≠ 0 then some 1
    else if s.chain.prev cur ≠ some prv then some 1
    else s.verifyLoop fuel cur (s.chain.next cur)

/-- `verify_chain`. There are fewer headers than bytes. -/
def verifyChain (s : BufferAlloc) : Option Nat :=
  match s.chain.first with
  | none => some 1
  | some prv =>
    if s.verifyHeader prv ≠ 0 then some 1
    else if s.chain.prev prv ≠ none then some 1
    else s.verifyLoop s.len prv (s.chain.next prv)

/-- The check at the end of a function, for its bit of `verify`. -/
def verified (s : BufferAlloc) (flag : Nat) : Option BufferAlloc :=
  if s.verify &&& flag ≠ 0 ∧ s.verifyChain ≠ some 0 then none else some s

/-! ## `buffer_alloc_calloc` -/

/-- The length in whole multiples. -/
def alignLen (len : Nat) : Nat := if len % 4 ≠ 0 then len - len % 4 + 4 else len

/-- Find a block that fits, in at most so many iterations. -/
def findFit (s : BufferAlloc) (len : Nat) : Nat → Option Nat → Option (Option Nat)
  | _, none => some none
  | 0, some _ => none
  | fuel + 1, some cur =>
    if len ≤ s.size cur then some (some cur) else s.findFit len fuel (s.freeList.next cur)

/-- Use a block as it is. -/
def takeBlock (s : BufferAlloc) (cur : Nat) : BufferAlloc :=
  { s with
    alloc := Function.update s.alloc cur 1
    freeList := (s.freeList.unlink cur).clear cur }

/-- Use the front of a block, with a new header behind it that takes its place in the free list. -/
def splitBlock (s : BufferAlloc) (cur new len : Nat) : BufferAlloc :=
  { s with
    magic1 := Function.update s.magic1 new memoryMagic1
    size := Function.update (Function.update s.size new (s.size cur - len - 32)) cur len
    alloc := Function.update (Function.update s.alloc new 0) cur 1
    magic2 := Function.update s.magic2 new memoryMagic2
    chain := s.chain.insertAfter cur new
    freeList := (s.freeList.replace cur new).clear cur }

/-- `buffer_alloc_calloc`. -/
def calloc (s : BufferAlloc) (n size : UInt32) : Option (Option Nat × BufferAlloc) :=
  if s.buf = none ∨ s.chain.first = none then some (none, s)
  else if n = 0 ∨ size = 0 ∨ n * size / n ≠ size then some (none, s)
  else if 2 ^ 32 - 4 < (n * size).toNat then some (none, s)
  else
    let len := alignLen (n * size).toNat
    match s.findFit len s.len s.freeList.first with
    | none => none
    | some none => some (none, s)
    | some (some cur) =>
      if s.alloc cur ≠ 0 then none
      else
        let s :=
          if s.size cur - len < 32 + 4 then s.takeBlock cur
          else s.splitBlock cur (cur + 32 + len) len
        (s.verified 1).map fun s =>
          (some (cur + 32), { s with
            bytes := s.bytes.storeBytes (cur + 32) (List.replicate (n * size).toNat 0) })

/-! ## `buffer_alloc_free` -/

/-- Regroup with the block before: the header of the block then, and what has been cleared. -/
def mergeBefore (s : BufferAlloc) (hdr : Nat) : BufferAlloc × Nat × Option Nat :=
  match s.chain.prev hdr with
  | none => (s, hdr, none)
  | some p =>
    if s.alloc p = 0 then
      let merged := { s with
        size := Function.update s.size p (s.size p + (32 + s.size hdr))
        chain := s.chain.removeAfter p hdr }
      (merged.clear hdr, p, some hdr)
    else (s, hdr, none)

/-- Regroup with the block after. -/
def mergeAfter (s : BufferAlloc) (hdr : Nat) (old : Option Nat) : BufferAlloc × Option Nat :=
  match s.chain.next hdr with
  | none => (s, old)
  | some n =>
    if s.alloc n = 0 then
      let freeList :=
        if s.freeList.prev hdr ≠ none ∨ s.freeList.next hdr ≠ none then s.freeList.unlink hdr
        else s.freeList
      let merged := { s with
        size := Function.update s.size hdr (s.size hdr + (32 + s.size n))
        chain := s.chain.removeAfter hdr n
        freeList := freeList.replace n hdr }
      (merged.clear n, some n)
    else (s, old)

/-- `buffer_alloc_free`. -/
def free (s : BufferAlloc) (ptr : Option Nat) : Option BufferAlloc :=
  match ptr, s.buf with
  | some p, some buf =>
    if s.chain.first = none then some s
    else if p < buf ∨ buf + s.len ≤ p then none
    else
      let hdr := p - 32
      if s.verifyHeader hdr ≠ 0 then none
      else if s.alloc hdr ≠ 1 then none
      else
        let s := { s with alloc := Function.update s.alloc hdr 0 }
        let (s, hdr, old) := s.mergeBefore hdr
        let (s, old) := s.mergeAfter hdr old
        let s := if old = none then { s with freeList := s.freeList.pushFront hdr } else s
        s.verified 2
  | _, _ => some s

/-- A context of zeros. -/
def zero (bytes : Mem) : BufferAlloc where
  buf := none
  len := 0
  verify := 0
  magic1 _ := 0
  size _ := 0
  alloc _ := 0
  magic2 _ := 0
  chain := ⟨none, fun _ => none, fun _ => none⟩
  freeList := ⟨none, fun _ => none, fun _ => none⟩
  bytes

/-- A buffer with one block in it. -/
def oneBlock (bytes : Mem) (buf len : Nat) : BufferAlloc :=
  { zero bytes with
    buf := some buf
    len
    magic1 := Function.update (fun _ => 0) buf memoryMagic1
    size := Function.update (fun _ => 0) buf (len - 32)
    magic2 := Function.update (fun _ => 0) buf memoryMagic2
    chain := ⟨some buf, fun _ => none, fun _ => none⟩
    freeList := ⟨some buf, fun _ => none, fun _ => none⟩
    bytes := bytes.storeBytes buf (List.replicate len 0) }

/-- `mbedtls_memory_buffer_alloc_init`. -/
def init (bytes : Mem) (buf len : Nat) : BufferAlloc :=
  if len < 32 + 4 then zero bytes
  else if buf % 4 ≠ 0 then oneBlock bytes (buf + (4 - buf % 4)) (len - (4 - buf % 4))
  else oneBlock bytes buf len

end BufferAlloc

end Wifi
