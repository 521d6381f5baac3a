import DsWifi.Common.Shared
import DsWifi.Infra.Circular

/-!
# The RX ring of the hardware (NTR)

The hardware writes the frames that it receives to a ring in MAC RAM. `Wifi_RxQueueFlush` of
`source/arm7/ntr/rx_queue.c` goes through them, with `Wifi_MACReadHWord` and `Wifi_MACRead` of
`mac.c` and `Wifi_ProcessReceivedFrame` of `ieee_802_11/process.c`. The two cursors of the ring
count halfwords, and everything else counts bytes.

A frame of the hardware may come between any two steps of a flush.
-/

namespace Wifi

open Infra Infra.Mem Infra.TaggedRing

/-! ## Registers -/

/-- `MAC_RXBUF_START_ADDRESS`, the value of `W_RXBUF_BEGIN`. -/
def macRxbufStartAddress : Nat := 0x4000 + 0x0C00

/-- `MAC_RXBUF_END_ADDRESS`, the value of `W_RXBUF_END`. -/
def macRxbufEndAddress : Nat := 0x4000 + 0x1F60

/-- `W_RXBUF_BEGIN & 0x1FFE`. -/
def rxbufBegin : Nat := macRxbufStartAddress &&& 0x1FFE

/-- `W_RXBUF_END & 0x1FFE`. -/
def rxbufEnd : Nat := macRxbufEndAddress &&& 0x1FFE

/-- `HDR_RX_IEEE_FRAME_SIZE`. -/
def hdrRxIeeeFrameSize : Nat := 0x8

/-- `HDR_RX_SIZE`. -/
def hdrRxSize : Nat := 0xC

def wifiRxPacketsPerInterrupt : Nat := 5

/-- An address behind the end of the ring is one behind its start. -/
def macWrap (macBase : Nat) : Nat :=
  if rxbufEnd ≤ macBase then macBase - (rxbufEnd - rxbufBegin) else macBase

/-- `Wifi_MACReadHWord`. -/
def macReadHWord (m : Mem) (macBase macOffset : Nat) : Nat :=
  load16 m (macWrap (macBase + macOffset))

/-- Halfwords from `W_RXBUF_RD_DATA`. At the end of the ring the hardware goes on at its start. -/
def rxbufRead (m : Mem) : Nat → Nat → List UInt8
  | _, 0 => []
  | addr, count + 1 =>
    m addr :: m (addr + 1) ::
      rxbufRead m (if addr + 2 = rxbufEnd then rxbufBegin else addr + 2) count

/-- `Wifi_MACRead`. It copies `(length + 1) >> 1` halfwords. -/
def macRead (m : Mem) (macBase macOffset length : Nat) : List UInt8 :=
  rxbufRead m (macWrap (macBase + macOffset)) ((length + 1) / 2)

/-! ## Frames of the hardware -/

/-- A frame as the hardware writes it: a header that has the length of the payload, the payload, and
whatever is between its end and the next frame. -/
structure RxMacFrame where
  /-- The header in front of the length. -/
  head : Vector UInt8 8
  /-- The header behind it. -/
  tail : Vector UInt8 2
  payload : List UInt8
  pad : List UInt8
  length_pad : payload.length + pad.length = roundUp payload.length
  size_lt : hdrRxSize + roundUp payload.length < rxbufEnd - rxbufBegin

namespace RxMacFrame

def header (f : RxMacFrame) : List UInt8 :=
  f.head.toList ++ halfBytes f.payload.length ++ f.tail.toList

/-- The payload and what fills the last word. -/
def body (f : RxMacFrame) : List UInt8 := f.payload ++ f.pad

def bytes (f : RxMacFrame) : List UInt8 := f.header ++ f.body

/-- The bytes in the ring. -/
def size (f : RxMacFrame) : Nat := hdrRxSize + roundUp f.payload.length

end RxMacFrame

/-! ## State -/

/-- A call of `Wifi_ProcessReceivedFrame`, with what it reads. -/
structure RxCall where
  macbase : Nat
  packetheader : List UInt8
  control802 : Nat

/-- Where `Wifi_RxQueueFlush` is. -/
inductive RxFlush
  /-- It is not running. -/
  | idle
  /-- At the condition of the loop. -/
  | loop (cut : Nat)
  /-- Behind the call of `Wifi_ProcessReceivedFrame`. -/
  | handling (base packetlen cut : Nat)

structure RxMac where
  ram : Mem
  /-- `W_RXBUF_READCSR`. -/
  readcsr : Nat
  /-- `W_RXBUF_WRCSR`. -/
  wrcsr : Nat
  flush : RxFlush
  /-- The calls of `Wifi_ProcessReceivedFrame` so far. -/
  calls : List RxCall
  /-- The frames that the hardware has written so far, and where. -/
  appended : List (RxMacFrame × Nat)
  /-- The number of frames that `W_RXBUF_READCSR` has passed. -/
  passed : Nat

/-- `Wifi_NTR_RxSetup`. -/
def RxMac.init : RxMac where
  ram := fun _ => 0
  readcsr := (macRxbufStartAddress &&& 0x3FFF) >>> 1
  wrcsr := 0x0C00 >>> 1
  flush := .idle
  calls := []
  appended := []
  passed := 0

namespace RxMac

/-- The frames that have not been read yet. -/
def unread (s : RxMac) : List (RxMacFrame × Nat) := s.appended.drop s.passed

/-- The bytes in the ring that are in use. -/
def unreadSize (s : RxMac) : Nat := (s.unread.map (·.1.size)).sum

/-! ## The hardware -/

/-- The hardware writes bytes, and returns where it stands afterwards. -/
def rxbufWrite : Mem → Nat → List UInt8 → Mem × Nat
  | m, addr, [] => (m, addr)
  | m, addr, b :: bs =>
    rxbufWrite (m.storeByte addr b) (if addr + 1 = rxbufEnd then rxbufBegin else addr + 1) bs

/-- The hardware receives a frame. It does not overwrite frames that have not been read. -/
def append (s : RxMac) (f : RxMacFrame) : RxMac :=
  if s.unreadSize + f.size ≤ rxbufEnd - rxbufBegin then
    let (ram, addr) := rxbufWrite s.ram (s.wrcsr <<< 1) f.bytes
    { s with ram, wrcsr := addr >>> 1, appended := s.appended ++ [(f, s.wrcsr <<< 1)] }
  else s

/-! ## The ARM7 -/

/-- `Wifi_ProcessReceivedFrame`, up to the frame type. -/
def processReceivedFrame (s : RxMac) (macbase : Nat) : RxCall where
  macbase
  packetheader := macRead s.ram macbase 0 hdrRxSize
  control802 := macReadHWord s.ram macbase (hdrRxSize + 0)

/-- The loop of `Wifi_RxQueueFlush`: its condition, and the first half of its body. -/
def rxQueueTurn (s : RxMac) (cut : Nat) : RxMac :=
  if s.wrcsr ≠ s.readcsr then
    let base := s.readcsr <<< 1
    let packetlen := macReadHWord s.ram base hdrRxIeeeFrameSize
    { s with
      calls := s.calls ++ [s.processReceivedFrame base]
      flush := .handling base packetlen cut }
  else { s with flush := .idle }

/-- The second half of the body. The ARM9 may have been given the payload before. -/
def rxQueueNext (s : RxMac) (base packetlen cut : Nat) : RxMac :=
  let fullPacketlen := hdrRxSize + roundUp32 packetlen
  let base := base + fullPacketlen
  let base := if rxbufEnd ≤ base then base - (rxbufEnd - rxbufBegin) else base
  { s with
    readcsr := u16 (base >>> 1)
    passed := s.passed + 1
    -- Don't handle too many packets in one go.
    flush := if wifiRxPacketsPerInterrupt < cut then .idle else .loop (cut + 1) }

end RxMac

/-! ## Runs -/

/-- What can happen. -/
inductive RxMacEvent
  | append (f : RxMacFrame)
  /-- `Wifi_RxQueueFlush` is called. -/
  | rxQueueFlush
  /-- The flush that is running goes on. -/
  | turn

def rxMacStep (s : RxMac) : RxMacEvent → RxMac
  | .append f => s.append f
  | .rxQueueFlush =>
    match s.flush with
    | .idle => { s with flush := .loop 0 }
    | _ => s
  | .turn =>
    match s.flush with
    | .idle => s
    | .loop cut => s.rxQueueTurn cut
    | .handling base packetlen cut => s.rxQueueNext base packetlen cut

end Wifi
