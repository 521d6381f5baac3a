import DsWifi.Common.Shared

/-!
# The RX ring between the two CPUs

`Wifi_RxBufferAllocBuffer`, `Wifi_RxArm9QueueAdd` and `Wifi_TWL_RxAddPacketToQueue` on the ARM7,
the loop of `Wifi_NTR_Update` and `Wifi_TWL_Update` on the ARM9.

The CPUs share memory, so the model goes down to the single access. An enqueue is the list of its
writes in program order (`RxWrite`), a drain is a program counter (`Drain`) that moves by one read
or one write. The handlers of a received packet read its bytes one by one.
-/

namespace Wifi

open Infra Infra.Mem

/-! ## Enqueueing on the ARM7 -/

/-- One access of an enqueue, in program order. -/
inductive RxWrite
  | store32 (idx value : Nat)
  | storeByte (idx : Nat) (value : UInt8)
  | setRxbufWrite (idx : Nat)
  | assert (holds : Bool)

/-- The received packet that an enqueue copies to the ring. -/
inductive RxSource
  /-- `Wifi_RxArm9QueueAdd`: `size` bytes of MAC RAM, in the order in which the hardware returns
  them. -/
  | ntr (macRam : Mem) (size : Nat)
  /-- `Wifi_TWL_RxAddPacketToQueue`: a buffer of the card driver. -/
  | twl (src : List UInt8)

namespace RxSource

/-- The `size` argument. -/
def size : RxSource → Nat
  | ntr _ size => size
  | twl src => src.length

/-- The bytes copied. `Wifi_MACRead` copies `(length + 1) >> 1` halfwords, `memcpy` copies bytes. -/
def copied : RxSource → List UInt8
  | ntr macRam size => loadBytes macRam 0 (2 * ((size + 1) / 2))
  | twl src => src

/-- The packet, without the byte that `Wifi_MACRead` may add. -/
def packet : RxSource → List UInt8
  | ntr macRam size => loadBytes macRam 0 size
  | twl src => src

end RxSource

/-- `Wifi_RxBufferAllocBuffer`. The accesses it makes and the index it returns, if any. -/
def rxBufferAllocBuffer (writeIdx readIdx totalSize : Nat) : List RxWrite × Option Nat :=
  let asserts := [.assert (readIdx % 4 = 0), .assert (writeIdx % 4 = 0)]
  if readIdx ≤ writeIdx then
    if wifiRxBufferSize ≤ u32 (writeIdx + totalSize) then
      -- The packet doesn't fit at the end, try to fit it at the beginning.
      if readIdx ≤ totalSize then (asserts, none)
      else (asserts ++ [.store32 0 0, .store32 writeIdx wifiSizeWrap], some 0)
    else (asserts, some writeIdx)
  else
    if readIdx ≤ u32 (writeIdx + totalSize) then (asserts, none)
    else (asserts, some writeIdx)

/-- A copy to the ring, byte by byte. -/
def copyWrites (idx : Nat) : List UInt8 → List RxWrite
  | [] => []
  | b :: bs => .storeByte idx b :: copyWrites (idx + 1) bs

/-- The accesses after the copy: the tag that ends the queue, the write index, the size tag. -/
def publishWrites (sizeIdx size : Nat) : List RxWrite :=
  let writeIdx := roundUp32 (u32 (u32 (sizeIdx + 4) + size))
  [.store32 writeIdx 0, .assert (writeIdx ≤ wifiRxBufferSize - 4), .setRxbufWrite writeIdx,
    .store32 sizeIdx size]

/-- The body that `Wifi_RxArm9QueueAdd` and `Wifi_TWL_RxAddPacketToQueue` share. The accesses it
makes, and whether it returns `0` and not `-1`. -/
def rxEnqueue (writeIdx readIdx : Nat) (src : RxSource) : List RxWrite × Bool :=
  let totalSize := u32 (4 + roundUp32 src.size + 4)
  match rxBufferAllocBuffer writeIdx readIdx totalSize with
  | (ws, none) => (ws, false)
  | (ws, some allocIdx) =>
    (ws ++ copyWrites (u32 (allocIdx + 4)) src.copied ++ publishWrites allocIdx src.size, true)

/-- `Wifi_RxArm9QueueAdd`. -/
def rxArm9QueueAdd (writeIdx readIdx : Nat) (macRam : Mem) (size : Nat) : List RxWrite × Bool :=
  rxEnqueue writeIdx readIdx (.ntr macRam size)

/-- `Wifi_TWL_RxAddPacketToQueue`. -/
def twlRxAddPacketToQueue (writeIdx readIdx : Nat) (src : List UInt8) : List RxWrite × Bool :=
  rxEnqueue writeIdx readIdx (.twl src)

/-! ## Draining on the ARM9 -/

/-- Where the ARM9 is in `Wifi_NTR_Update` or `Wifi_TWL_Update`. -/
inductive Drain
  /-- Not draining. -/
  | idle
  /-- About to read the size at `readIdx`. -/
  | size (readIdx cnt : Nat)
  /-- About to read the size at `0`, after a wrap marker. -/
  | sizeAtStart (cnt : Nat)
  /-- The handlers have read the bytes `got` of the `size` bytes at `readIdx`. -/
  | handle (readIdx size : Nat) (got : List UInt8) (cnt : Nat)
  /-- About to write `WifiData->rxbufRead`. -/
  | advance (readIdx cnt : Nat)

/-- The fields of `Wifi_MainStruct` behind the RX ring, with what each CPU is doing. -/
structure RxState where
  rxbufWrite : Nat
  rxbufRead : Nat
  rxbufData : Mem
  /-- The accesses that the running enqueue has not made yet. -/
  pending : List RxWrite
  /-- The packet of the running enqueue, if it is going to return `0`. -/
  adding : Option (List UInt8)
  drain : Drain
  /-- Whether all asserts evaluated so far hold. -/
  assertsHold : Bool
  /-- The packets whose enqueue has returned `0`. -/
  accepted : List (List UInt8)
  /-- The packets handed to the handlers. -/
  delivered : List (List UInt8)

/-- The zeroed `Wifi_MainStruct`. -/
def RxState.init : RxState where
  rxbufWrite := 0
  rxbufRead := 0
  rxbufData := fun _ => 0
  pending := []
  adding := none
  drain := .idle
  assertsHold := true
  accepted := []
  delivered := []

namespace RxState

/-- Perform one access. -/
def access (s : RxState) : RxWrite → RxState
  | .store32 idx value => { s with rxbufData := s.rxbufData.store32 idx value }
  | .storeByte idx value => { s with rxbufData := s.rxbufData.storeByte idx value }
  | .setRxbufWrite idx => { s with rxbufWrite := idx }
  | .assert holds => { s with assertsHold := s.assertsHold && holds }

/-- The ARM7 enters an enqueue. Only the ARM7 writes `rxbufWrite`, so the indices are read at one
point. -/
def startEnqueue (s : RxState) (src : RxSource) : RxState :=
  let r := rxEnqueue s.rxbufWrite s.rxbufRead src
  { s with pending := r.1, adding := if r.2 then some src.packet else none }

/-- The enqueue returns. -/
def finishEnqueue (s : RxState) : RxState :=
  { s with accepted := s.accepted ++ s.adding.toList, adding := none }

/-- The ARM7 performs the next access of the running enqueue. -/
def arm7Step (s : RxState) : RxState :=
  match s.pending with
  | [] => s
  | [w] => ({ s with pending := [] }.access w).finishEnqueue
  | w :: ws => { s with pending := ws }.access w

/-- The ARM9 performs the next access of its drain, or starts one. -/
def arm9Step (s : RxState) : RxState :=
  match s.drain with
  | .idle =>
    { s with drain := .size s.rxbufRead 0, assertsHold := s.assertsHold && s.rxbufRead % 4 = 0 }
  | .size readIdx cnt =>
    let size := s.rxbufData.load32 readIdx
    if size = 0 then { s with drain := .idle }
    else if size = wifiSizeWrap then { s with drain := .sizeAtStart cnt }
    else { s with drain := .handle (u32 (readIdx + 4)) size [] cnt }
  | .sizeAtStart cnt =>
    let size := s.rxbufData.load32 0
    if size = 0 then { s with drain := .idle }
    else { s with drain := .handle 4 size [] cnt }
  | .handle readIdx size got cnt =>
    if got.length < size then
      { s with drain := .handle readIdx size (got ++ [s.rxbufData (readIdx + got.length)]) cnt }
    else
      let readIdx' := u32 (readIdx + roundUp32 size)
      { s with
        delivered := s.delivered ++ [got]
        drain := .advance readIdx' cnt
        assertsHold := s.assertsHold && readIdx' ≤ wifiRxBufferSize - 4 }
  | .advance readIdx cnt =>
    -- Exit if we have already handled a lot of packets.
    { s with
      rxbufRead := readIdx
      drain := if 20 < cnt then .idle else .size readIdx (cnt + 1) }

end RxState

/-- One access of either CPU. The ARM7 enqueues packets whose size is `allowed`, one at a time. -/
inductive RxStep (allowed : Nat → Prop) : RxState → RxState → Prop
  | enqueue {s : RxState} (src : RxSource) (hidle : s.pending = []) (hsize : allowed src.size) :
      RxStep allowed s (s.startEnqueue src)
  | arm7 {s : RxState} : RxStep allowed s s.arm7Step
  | arm9 {s : RxState} : RxStep allowed s s.arm9Step

/-- The states that some interleaving of enqueues and drains reaches. -/
def RxReachable (allowed : Nat → Prop) : RxState → Prop :=
  Relation.ReflTransGen (RxStep allowed) .init

end Wifi
