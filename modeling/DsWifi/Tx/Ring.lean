import DsWifi.Common.Ieee

/-!
# The TX ring on the ARM9

`Wifi_TxBufferAllocBuffer`, and the body that all functions that queue a frame share: allocate,
write the frame after the place of its size tag, write the tag that ends the queue, move
`txbufWrite`, and write the size tag last. The tag holds the size of the frame and, in its upper
bits, how the ARM7 has to send it.

The functions run in a critical section and are atomic here.
-/

namespace Wifi

open Infra Infra.Mem Infra.TaggedRing

/-- The fields of `Wifi_MainStruct` behind the TX ring. -/
structure TxRing where
  txbufWrite : Nat
  txbufRead : Nat
  txbufData : Mem
  /-- `stats[WSTAT_TXQUEUEDREJECTED]`. -/
  txQueuedRejected : Nat
  /-- The frames of all calls that have returned `0`: type bits and bytes in the ring. -/
  queued : List (Nat × List UInt8)

/-- The zeroed `Wifi_MainStruct`. -/
def TxRing.init : TxRing where
  txbufWrite := 0
  txbufRead := 0
  txbufData := fun _ => 0
  txQueuedRejected := 0
  queued := []

/-- `Wifi_TxBufferAllocBuffer`. It returns the ring that it leaves, and the index if it succeeds. -/
def txBufferAllocBuffer (ring : TxRing) (totalSize : Nat) : TxRing × Option Nat :=
  if ring.txbufRead ≤ ring.txbufWrite then
    if wifiTxBufferSize ≤ u32 (ring.txbufWrite + totalSize) then
      -- The packet doesn't fit at the end, try to fit it at the beginning.
      if ring.txbufRead ≤ totalSize then (ring, none)
      else
        let txbufData := (ring.txbufData.store32 0 0).store32 ring.txbufWrite wifiSizeWrap
        ({ ring with txbufData }, some 0)
    else (ring, some ring.txbufWrite)
  else
    if ring.txbufRead ≤ u32 (ring.txbufWrite + totalSize) then (ring, none)
    else (ring, some ring.txbufWrite)

/-- An allocation that fails changes nothing. -/
theorem eq_of_txBufferAllocBuffer_eq_none {ring ring' : TxRing} {totalSize : Nat}
    (h : txBufferAllocBuffer ring totalSize = (ring', none)) : ring' = ring := by
  unfold txBufferAllocBuffer at h
  split_ifs at h <;> cases h <;> rfl

/-- A piece of a frame: bytes that are copied, or space that is left for the ARM7 and the
hardware. -/
inductive TxPart
  | copy (bytes : List UInt8)
  | skip (size : Nat)

def TxPart.length : TxPart → Nat
  | copy bytes => bytes.length
  | skip size => size

/-- Write the pieces of a frame from `writeIdx` on. -/
def writeParts (m : Mem) (writeIdx : Nat) : List TxPart → Mem × Nat
  | [] => (m, writeIdx)
  | .copy bytes :: parts =>
    writeParts (m.storeBytes writeIdx bytes) (u32 (writeIdx + bytes.length)) parts
  | .skip size :: parts => writeParts m (u32 (writeIdx + size)) parts

/-- A frame on its way into the ring. -/
structure TxRequest where
  frameSize : Nat
  parts : List TxPart
  flags : Nat

/-- The body that the TX functions share. It returns whether they return `0` and not `-1`. -/
def txEnqueue (ring : TxRing) (req : TxRequest) : TxRing × Bool :=
  let totalSize := u32 (4 + roundUp32 req.frameSize + 4)
  match txBufferAllocBuffer ring totalSize with
  | (ring, none) => ({ ring with txQueuedRejected := u32 (ring.txQueuedRejected + 1) }, false)
  | (ring, some sizeIdx) =>
    let (txbufData, writeIdx) := writeParts ring.txbufData (u32 (sizeIdx + 4)) req.parts
    let writeIdx := roundUp32 writeIdx
    let txbufData := (txbufData.store32 writeIdx 0).store32 sizeIdx (req.frameSize ||| req.flags)
    ({ ring with
      txbufData
      txbufWrite := writeIdx
      queued := ring.queued ++
        [(req.flags, loadBytes txbufData (sizeIdx + 4) req.frameSize)] }, true)

end Wifi
