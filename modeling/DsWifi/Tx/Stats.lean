import DsWifi.Infra.Counters
import DsWifi.Rx.Mac
import DsWifi.Rx.Queue
import DsWifi.Tx.Queue
import Mathlib.Data.UInt

/-!
# Statistics

`WifiData->stats` has counters for the traffic. Both CPUs add to them: the ARM7 when it passes a
frame to the hardware (`source/arm7/ntr/tx_queue.c`, `source/arm7/twl/tx_queue.twl.c`) or takes one
from it (`source/arm7/ntr/rx_queue.c`), the ARM9 in `Wifi_NTR_Update` and `Wifi_TWL_Update`
(`source/arm9/wifi_arm9.c`). What the ARM9 has received counts as transmitted, and what the ARM7
takes from the card of a DSi isn't counted.

* `traffic_counted_iff` — the counters are right in the runs in which nothing is received that way
-/

namespace Wifi

open Infra Infra.Counters Infra.Mem

/-! ## Counters -/

/-- `enum WIFI_STATS`, without the counters of the TX ring (`TxRing`), `WSTAT_ARM7_UPDATES` and
`WSTAT_DEBUG`. -/
inductive WifiStat
  | rxQueuedPackets
  | rxQueuedBytes
  | rxQueuedLost
  | rxPackets
  | rxBytes
  | rxDataBytes
  | txPackets
  | txBytes
  | txDataBytes
  /-- The counters from `WSTAT_HW_1B0` on. -/
  | hw (k : Fin 36)
  deriving DecidableEq

/-- The counters of transmissions. -/
def WifiStat.IsTx (c : WifiStat) : Prop := c = .txPackets ∨ c = .txBytes ∨ c = .txDataBytes

/-- What is added to which counter. -/
abbrev StatAdds : Type := List (WifiStat × UInt32)

/-- What `Wifi_TxRaw` adds. -/
def rawAdds (datalen : Nat) : StatAdds :=
  let datalen := UInt32.ofNat (roundUp32 datalen)
  [(.txPackets, 1), (.txBytes, datalen), (.txDataBytes, datalen - UInt32.ofNat hdrTxSize)]

/-- What `Wifi_TxArm9QueueCopyFirstData` and `Wifi_TWL_TxArm9QueueFlush` add for a frame, and the
updates of the ARM9 for a packet. -/
def packetAdds (size : Nat) : StatAdds :=
  [(.txPackets, 1), (.txBytes, UInt32.ofNat size), (.txDataBytes, UInt32.ofNat size)]

/-- What `Wifi_RxQueueFlush` adds for a frame. -/
def receivedAdds (packetlen : Nat) : StatAdds :=
  let fullPacketlen := UInt32.ofNat (hdrRxSize + roundUp32 packetlen)
  [(.rxPackets, 1), (.rxBytes, fullPacketlen),
    (.rxDataBytes, fullPacketlen - UInt32.ofNat hdrRxSize)]

/-- What `Wifi_Intr_CntOverflow` adds for the registers it reads. -/
def cntOverflowAdds (regs : Fin 18 → UInt32) : StatAdds :=
  (List.finRange 18).flatMap fun i : Fin 18 =>
    [(.hw ⟨2 * i.val, by omega⟩, regs i &&& 0xFF),
      (.hw ⟨2 * i.val + 1, by omega⟩, regs i >>> 8 &&& 0xFF)]

/-! ## What passes -/

/-- The frame has been passed to the hardware. -/
def TxHandled.handedOver : TxHandled → Bool
  | .copied _ _ => true
  | .sent _ => true
  | .rejected => false

namespace Arm7Tx

/-- The lengths that `Wifi_TxArm7QueueAdd` calls `Wifi_TxRaw` with. -/
def txArm7QueueAddRaw (s : Arm7Tx) (datalen : Nat) : List Nat :=
  if !s.loc3Busy then
    if s.txArm7QueueIsEmpty then [datalen] else [s.txQueueLen]
  else []

/-- The size of the frame that `Wifi_TxArm9QueueCopyFirstData` copies, if it does. -/
def copiedSizes (s : Arm7Tx) (bufferEnd : Nat) : List Nat :=
  let size := load32 s.ring.txbufData s.ring.txbufRead &&& wflagSendSizeMask
  if size ≤ bufferEnd then [size] else []

/-- The size of the frame that `Wifi_TxArm9QueueFlush` has copied. -/
def txArm9QueueFlushSizes (s : Arm7Tx) : List Nat :=
  if load32 s.ring.txbufData s.ring.txbufRead = 0 then []
  else
    let s := s.skipWrap
    let status := load32 s.ring.txbufData s.ring.txbufRead
    if status = 0 then [] else s.copiedSizes (s.target status).2

/-- The length that `Wifi_TxAllQueueFlush` calls `Wifi_TxRaw` with. -/
def txAllQueueFlushRaw (s : Arm7Tx) : List Nat :=
  if s.loc3Busy || s.cmdBusy then []
  else if !s.txArm7QueueIsEmpty then [s.txQueueLen]
  else []

/-- The size of the frame of the ARM9 that `Wifi_TxAllQueueFlush` has copied. -/
def txAllQueueFlushSizes (s : Arm7Tx) : List Nat :=
  if s.loc3Busy || s.cmdBusy then []
  else if !s.txArm7QueueIsEmpty then []
  else s.txArm9QueueFlushSizes

/-- The sizes of the frames that the loop of `Wifi_TWL_TxArm9QueueFlush` sends. -/
def twlFlushLoopSizes : Nat → Arm7Tx → Option (List Nat)
  | 0, _ => none
  | fuel + 1, s =>
    let s := s.touch s.ring.txbufRead 4
    let size := load32 s.ring.txbufData s.ring.txbufRead
    if size = 0 then some []
    else if size = wifiSizeWrap then
      let s := s.touch 0 4
      let size := load32 s.ring.txbufData 0
      if size = 0 then some [] else (twlFlushLoopSizes fuel (s.dataSendPkt 0 size)).map (size :: ·)
    else (twlFlushLoopSizes fuel (s.dataSendPkt s.ring.txbufRead size)).map (size :: ·)

end Arm7Tx

/-- The length of the frame that `Wifi_RxQueueFlush` takes from the hardware. -/
def RxMac.takenLengths (s : RxMac) : RxMacEvent → List Nat
  | .turn =>
    match s.flush with
    | .loop _ =>
      if s.wrcsr ≠ s.readcsr then [macReadHWord s.ram (s.readcsr <<< 1) hdrRxIeeeFrameSize] else []
    | _ => []
  | _ => []

namespace RxState

/-- A packet for the ARM9. The ARM7 adds one at a time. -/
def addPacket (s : RxState) (src : RxSource) : RxState :=
  match s.pending with
  | [] => s.startEnqueue src
  | _ => s

/-- What is added if there is no space. -/
def addPacketAdds (s : RxState) (src : RxSource) : StatAdds :=
  match s.pending with
  | [] => if (rxEnqueue s.rxbufWrite s.rxbufRead src).2 then [] else [(.rxQueuedLost, 1)]
  | _ => []

/-- What is added at the end, if there has been space. -/
def addedAdds (s : RxState) : StatAdds :=
  match s.pending, s.adding with
  | [_], some packet =>
    [(.rxQueuedPackets, 1), (.rxQueuedBytes, UInt32.ofNat packet.length)]
  | _, _ => []

/-- The size of the packet that the update of the ARM9 has handled with this access. -/
def handledSizes (s : RxState) : List Nat :=
  match s.drain with
  | .handle _ size got _ => if got.length < size then [] else [size]
  | _ => []

end RxState

/-! ## Runs -/

/-- The parts of the driver that frames pass. -/
structure Traffic where
  tx : Arm7Tx
  mac : RxMac
  rx : RxState
  stats : WifiStat → UInt32
  /-- The number of packets that `data_send_pkt` has passed to the card. -/
  own : Nat
  /-- The number of packets that `data_handle_pkt` has got from the card. -/
  fromCard : Nat

/-- What can happen, in both driver modes. -/
inductive TrafficEvent
  /-- The ARM9 calls one of its functions. -/
  | call (env : TxEnv) (call : TxCall)
  /-- `Wifi_TxArm7QueueAdd`. -/
  | arm7QueueAdd (data : Mem) (datalen : Nat)
  /-- `Wifi_TxAllQueueFlush`. -/
  | allQueueFlush (env : Arm7Env)
  /-- `Wifi_Intr_MultiplayCmdDone`. -/
  | cmdDone (env : Arm7Env)
  /-- The hardware ends a LOC3 transfer. -/
  | loc3Completes (ok : Bool)
  /-- The hardware ends a CMD transfer. -/
  | cmdCompletes (ok : Bool)
  /-- The hardware takes the other reply buffer into use. -/
  | replySwap
  /-- `Wifi_TWL_TxArm9QueueFlush`. -/
  | twlFlush
  /-- `data_send_pkt`, for the ARM7 itself. -/
  | dataSendPkt
  /-- The hardware, or the next step of `Wifi_RxQueueFlush`. -/
  | mac (e : RxMacEvent)
  /-- `Wifi_RxArm9QueueAdd`. -/
  | rxArm9QueueAdd (macRam : Mem) (size : Nat)
  /-- `data_handle_pkt`. -/
  | dataHandlePkt (pkt : List UInt8)
  /-- The next access of the ARM7 to the RX ring. -/
  | arm7Access
  /-- The next access of the ARM9 to the RX ring, in one of its updates. -/
  | arm9Access
  /-- `Wifi_Intr_CntOverflow`. -/
  | cntOverflow (regs : Fin 18 → UInt32)

namespace Traffic

/-- Everything zeroed. -/
def init : Traffic where
  tx := .init
  mac := .init
  rx := .init
  stats := fun _ => 0
  own := 0
  fromCard := 0

/-- `type_be` of a data packet of the card. -/
def typeBe (pkt : List UInt8) : Nat := 2 ^ 8 * (pkt.getD 22 0).toNat + (pkt.getD 23 0).toNat

def nextTx (s : Traffic) : TrafficEvent → Arm7Tx
  | .call env call => { s.tx with ring := (call.run env s.tx.ring).1 }
  | .arm7QueueAdd data datalen => (s.tx.txArm7QueueAdd data datalen).1
  | .allQueueFlush env => s.tx.txAllQueueFlush env
  | .cmdDone env => s.tx.intrMultiplayCmdDone env
  | .loc3Completes ok => s.tx.loc3Completes ok
  | .cmdCompletes ok => s.tx.cmdCompletes ok
  | .replySwap => s.tx.replySwap
  | .twlFlush => s.tx.twlTxArm9QueueFlush.getD s.tx
  | _ => s.tx

def nextMac (s : Traffic) : TrafficEvent → RxMac
  | .mac e => rxMacStep s.mac e
  | _ => s.mac

/-- The frames of a handshake aren't for the ARM9. -/
def nextRx (s : Traffic) : TrafficEvent → RxState
  | .rxArm9QueueAdd macRam size => s.rx.addPacket (.ntr macRam size)
  | .dataHandlePkt pkt => if typeBe pkt = 0x888E then s.rx else s.rx.addPacket (.twl pkt)
  | .arm7Access => s.rx.arm7Step
  | .arm9Access => s.rx.arm9Step
  | _ => s.rx

/-- The lengths of the frames that `Wifi_TxRaw` passes to the hardware. -/
def rawLengths (s : Traffic) : TrafficEvent → List Nat
  | .arm7QueueAdd _ datalen => s.tx.txArm7QueueAddRaw datalen
  | .allQueueFlush _ => s.tx.txAllQueueFlushRaw
  | _ => []

/-- The sizes of the frames of the ARM9 that are passed to the hardware. -/
def sentSizes (s : Traffic) : TrafficEvent → List Nat
  | .allQueueFlush _ => s.tx.txAllQueueFlushSizes
  | .twlFlush => (s.tx.twlFlushLoopSizes wifiTxBufferSize).getD []
  | _ => []

/-- The lengths of the frames that are taken from the hardware in NTR mode. -/
def takenLengths (s : Traffic) : TrafficEvent → List Nat
  | .mac e => s.mac.takenLengths e
  | _ => []

/-- The sizes of the packets that the ARM9 has handled. -/
def handledSizes (s : Traffic) : TrafficEvent → List Nat
  | .arm9Access => s.rx.handledSizes
  | _ => []

/-- The other counters. -/
def otherAdds (s : Traffic) : TrafficEvent → StatAdds
  | .rxArm9QueueAdd macRam size => s.rx.addPacketAdds (.ntr macRam size)
  | .dataHandlePkt pkt => if typeBe pkt = 0x888E then [] else s.rx.addPacketAdds (.twl pkt)
  | .arm7Access => s.rx.addedAdds
  | .cntOverflow regs => cntOverflowAdds regs
  | _ => []

/-- What an event adds. -/
def adds (s : Traffic) (e : TrafficEvent) : StatAdds :=
  (s.rawLengths e).flatMap rawAdds ++ (s.sentSizes e).flatMap packetAdds ++
    (s.takenLengths e).flatMap receivedAdds ++ (s.handledSizes e).flatMap packetAdds ++
    s.otherAdds e

def step (s : Traffic) (e : TrafficEvent) : Traffic where
  tx := s.nextTx e
  mac := s.nextMac e
  rx := s.nextRx e
  stats := addAll s.stats (s.adds e)
  own := match e with
    | .dataSendPkt => s.own + 1
    | _ => s.own
  fromCard := match e with
    | .dataHandlePkt _ => s.fromCard + 1
    | _ => s.fromCard

/-! ## What is expected -/

/-- The number of frames that have been handed to the hardware. Whether the packets that the ARM7
sends on its own in DSi mode are among them is left open. -/
def handedOver (countOwn : Bool) (s : Traffic) : Nat :=
  s.tx.started.length + s.tx.handled.countP TxHandled.handedOver + if countOwn then s.own else 0

/-- The number of frames that have been taken from the hardware. -/
def taken (s : Traffic) : Nat := s.mac.calls.length + s.fromCard

/-- Something is received. -/
def Receives : TrafficEvent → Prop
  | .mac _ | .rxArm9QueueAdd _ _ | .dataHandlePkt _ | .arm7Access | .arm9Access => True
  | _ => False

/-- Transmissions are counted when a frame is handed to the hardware, and only then. -/
structure Accounts (countOwn : Bool) (s : Traffic) (e : TrafficEvent) : Prop where
  changed : ∀ c : WifiStat, c.IsTx → (s.step e).stats c ≠ s.stats c →
    s.handedOver false < (s.step e).handedOver false
  received : Receives e → ∀ c : WifiStat, c.IsTx → (s.step e).stats c = s.stats c
  txPackets : (s.step e).stats .txPackets = UInt32.ofNat ((s.step e).handedOver countOwn)
  rxPackets : (s.step e).stats .rxPackets = UInt32.ofNat (s.step e).taken

/-- The ARM9 doesn't handle a packet with this access, and none is taken from the card. -/
structure NothingReceived (countOwn : Bool) (s : Traffic) (e : TrafficEvent) : Prop where
  arm9 : e = .arm9Access → s.rx.handledSizes = []
  card : ∀ pkt, e ≠ .dataHandlePkt pkt
  own : countOwn = true → e ≠ .dataSendPkt

end Traffic

/-- Each of the elements adds 1. -/
theorem sumAt_flatMap_one {c : WifiStat} {f : Nat → StatAdds} (h : ∀ n, sumAt c (f n) = 1)
    (ns : List Nat) : sumAt c (ns.flatMap f) = UInt32.ofNat ns.length := by
  rw [sumAt_flatMap h]
  induction ns.length with
  | zero => exact zero_nsmul (1 : UInt32)
  | succ n ih =>
    rw [succ_nsmul, ih, UInt32.ofNat_add]
    rfl

/-- None of the elements adds anything. -/
theorem sumAt_flatMap_zero {c : WifiStat} {f : Nat → StatAdds} (h : ∀ n, sumAt c (f n) = 0)
    (ns : List Nat) : sumAt c (ns.flatMap f) = 0 := by
  rw [sumAt_flatMap h, nsmul_zero]

/-! ## Frames of the ARM9 -/

namespace Arm7Tx

/-- The number of frames of the ARM9 that have been passed to the hardware. -/
def passed (s : Arm7Tx) : Nat := s.handled.countP TxHandled.handedOver

theorem passed_of_handled {s s' : Arm7Tx} (h : s'.handled = s.handled) : s'.passed = s.passed :=
  congrArg (List.countP TxHandled.handedOver) h

theorem txRaw_handled (s : Arm7Tx) (data : Mem) (datalen : Nat) :
    (s.txRaw data datalen).handled = s.handled := (macWrite_ring data 0 _ _).2.1

theorem txArm7QueueSetEnqueuedData_handled (s : Arm7Tx) (data : Mem) (datalen : Nat) :
    (s.txArm7QueueSetEnqueuedData data datalen).1.handled = s.handled := by
  unfold txArm7QueueSetEnqueuedData
  dsimp only
  split <;> rfl

/-- The frames of the ARM7 aren't the ones of the ARM9. -/
theorem txArm7QueueAdd_handled (s : Arm7Tx) (data : Mem) (datalen : Nat) :
    (s.txArm7QueueAdd data datalen).1.handled = s.handled := by
  unfold txArm7QueueAdd
  split
  · split
    · exact s.txRaw_handled data datalen
    · rw [txArm7QueueSetEnqueuedData_handled]
      exact s.txRaw_handled _ _
  · split
    · exact s.txArm7QueueSetEnqueuedData_handled data datalen
    · rfl

/-- The lengths of the frames of the ARM7 that have been started. -/
def startedLengths (s : Arm7Tx) : List Nat := s.started.map List.length

theorem startedLengths_of_started {s s' : Arm7Tx} (h : s'.started = s.started) :
    s'.startedLengths = s.startedLengths :=
  congrArg (List.map List.length) h

theorem macWrite_started (s : Arm7Tx) (src : Mem) (i base size : Nat) :
    (s.macWrite src i base size).started = s.started := by
  unfold macWrite
  split <;> rfl

theorem startedLengths_txRaw (s : Arm7Tx) (data : Mem) (datalen : Nat) :
    (s.txRaw data datalen).startedLengths = s.startedLengths ++ [datalen] := by
  have hstarted := s.macWrite_started data 0 macTxbufStartOffset (roundUp32 datalen)
  unfold txRaw startLoc3 startedLengths
  simp [hstarted]

theorem txArm7QueueSetEnqueuedData_started (s : Arm7Tx) (data : Mem) (datalen : Nat) :
    (s.txArm7QueueSetEnqueuedData data datalen).1.started = s.started := by
  unfold txArm7QueueSetEnqueuedData
  dsimp only
  split <;> rfl

/-- **The lengths are the ones of the frames that the ARM7 starts.** -/
theorem startedLengths_txArm7QueueAdd (s : Arm7Tx) (data : Mem) (datalen : Nat) :
    (s.txArm7QueueAdd data datalen).1.startedLengths =
      s.startedLengths ++ s.txArm7QueueAddRaw datalen := by
  have hset (t : Arm7Tx) := startedLengths_of_started
    (t.txArm7QueueSetEnqueuedData_started data datalen)
  unfold txArm7QueueAdd txArm7QueueAddRaw
  split
  · split
    · exact s.startedLengths_txRaw data datalen
    · exact (hset _).trans (s.startedLengths_txRaw _ _)
  · split
    · exact (hset s).trans (List.append_nil _).symm
    · exact (List.append_nil _).symm

theorem copyFirstData_started (s : Arm7Tx) (macbase bufferEnd : Nat) :
    (s.txArm9QueueCopyFirstData macbase bufferEnd).1.started = s.started := by
  unfold txArm9QueueCopyFirstData
  dsimp only
  split
  · exact macWrite_started ..
  · rfl

/-- The flush of a frame of the ARM9 starts none of the ARM7. -/
theorem txArm9QueueFlush_started (env : Arm7Env) (s : Arm7Tx) :
    (s.txArm9QueueFlush env).1.started = s.started := by
  have hskip (t : Arm7Tx) : t.skipWrap.started = t.started := by
    unfold skipWrap
    split <;> rfl
  unfold txArm9QueueFlush
  dsimp only
  split
  · rfl
  · split
    · exact hskip _
    · exact (txArm9QueueSend_keeps env _ _).started.trans
        ((copyFirstData_started ..).trans (hskip _))

theorem startedLengths_txAllQueueFlush (env : Arm7Env) (s : Arm7Tx) :
    (s.txAllQueueFlush env).startedLengths = s.startedLengths ++ s.txAllQueueFlushRaw := by
  unfold txAllQueueFlush txAllQueueFlushRaw
  split
  · exact (List.append_nil _).symm
  · split
    · exact s.startedLengths_txRaw _ _
    · exact (startedLengths_of_started (s.txArm9QueueFlush_started env)).trans
        (List.append_nil _).symm

theorem twlTxArm9QueueFlushLoop_started {fuel : Nat} {s s' : Arm7Tx}
    (h : s.twlTxArm9QueueFlushLoop fuel = some s') : s'.started = s.started := by
  induction fuel generalizing s with
  | zero => cases h
  | succ fuel ih =>
    unfold twlTxArm9QueueFlushLoop at h
    dsimp only at h
    split at h
    · cases h
      rfl
    · split at h
      · split at h
        · cases h
          rfl
        · exact (ih h :)
      · exact (ih h :)

/-- A frame is passed on if it is copied. -/
theorem passed_copyFirstData (s : Arm7Tx) (macbase bufferEnd : Nat) :
    (s.txArm9QueueCopyFirstData macbase bufferEnd).1.passed =
      s.passed + (s.copiedSizes bufferEnd).length := by
  unfold txArm9QueueCopyFirstData
  dsimp only
  split
  · rename_i hsize
    have hsize' : load32 s.ring.txbufData s.ring.txbufRead &&& wflagSendSizeMask ≤ bufferEnd :=
      hsize
    rw [copiedSizes, if_pos hsize', passed, List.countP_append, (macWrite_ring ..).2.1]
    rfl
  · rename_i hsize
    have hsize' : ¬ load32 s.ring.txbufData s.ring.txbufRead &&& wflagSendSizeMask ≤ bufferEnd :=
      hsize
    rw [copiedSizes, if_neg hsize']
    exact List.countP_append

/-- What is sent is what is copied. -/
theorem passed_send (env : Arm7Env) (s : Arm7Tx) (status : Nat) :
    (s.txArm9QueueSend env status).1.passed =
      s.passed + (s.copiedSizes (s.target status).2).length := by
  rw [passed_of_handled (txArm9QueueSend_keeps env s status).handled]
  exact passed_copyFirstData s _ _

section

variable (s : Arm7Tx) (idx size : Nat)

@[simp] theorem touch_ring : (s.touch idx size).ring = s.ring := rfl

@[simp] theorem passed_touch : (s.touch idx size).passed = s.passed := rfl

@[simp] theorem copiedSizes_touch (bufferEnd : Nat) :
    (s.touch idx size).copiedSizes bufferEnd = s.copiedSizes bufferEnd := rfl

@[simp] theorem target_touch (status : Nat) :
    (s.touch idx size).target status = s.target status := rfl

end

theorem skipWrap_touch (s : Arm7Tx) (idx size : Nat) :
    (s.touch idx size).skipWrap = s.skipWrap.touch idx size := by
  unfold skipWrap
  split
  · rename_i h
    rw [if_pos (show load32 s.ring.txbufData s.ring.txbufRead = wifiSizeWrap from h)]
    rfl
  · rename_i h
    rw [if_neg (show load32 s.ring.txbufData s.ring.txbufRead ≠ wifiSizeWrap from h)]

/-- What the flush of a frame of the ARM9 passes on. -/
theorem passed_flush (env : Arm7Env) (s : Arm7Tx) :
    (s.txArm9QueueFlush env).1.passed = s.passed + s.txArm9QueueFlushSizes.length := by
  have hskip : s.skipWrap.passed = s.passed := by
    unfold skipWrap
    split <;> rfl
  unfold txArm9QueueFlush
  dsimp only
  split
  · rename_i h0
    have h0' : load32 s.ring.txbufData s.ring.txbufRead = 0 := h0
    rw [txArm9QueueFlushSizes, if_pos h0']
    rfl
  · rename_i h0
    have h0' : load32 s.ring.txbufData s.ring.txbufRead ≠ 0 := h0
    rw [txArm9QueueFlushSizes, if_neg h0', skipWrap_touch]
    dsimp only
    split
    · rename_i hstatus
      have hstatus' : load32 s.skipWrap.ring.txbufData s.skipWrap.ring.txbufRead = 0 := hstatus
      rw [if_pos hstatus']
      simp only [passed_touch, hskip]
      rfl
    · rename_i hstatus
      have hstatus' : load32 s.skipWrap.ring.txbufData s.skipWrap.ring.txbufRead ≠ 0 := hstatus
      rw [if_neg hstatus', ← hskip, passed_send]
      simp only [passed_touch, copiedSizes_touch, target_touch, touch_ring]

/-- What `Wifi_TxAllQueueFlush` passes on. -/
theorem passed_allQueueFlush (env : Arm7Env) (s : Arm7Tx) :
    (s.txAllQueueFlush env).passed = s.passed + s.txAllQueueFlushSizes.length := by
  unfold txAllQueueFlush txAllQueueFlushSizes
  split
  · rfl
  · split
    · exact passed_of_handled (s.txRaw_handled _ _)
    · exact passed_flush env s

/-- The loop sends what its sizes say, and ends if they do. -/
theorem passed_twlFlushLoop (fuel : Nat) (s : Arm7Tx) :
    (s.twlTxArm9QueueFlushLoop fuel = none ∧ s.twlFlushLoopSizes fuel = none) ∨
      ∃ s' sizes, s.twlTxArm9QueueFlushLoop fuel = some s' ∧
        s.twlFlushLoopSizes fuel = some sizes ∧ s'.passed = s.passed + sizes.length := by
  induction fuel generalizing s with
  | zero => exact .inl ⟨rfl, rfl⟩
  | succ fuel ih =>
    have hsend (t : Arm7Tx) (sizeIdx size : Nat) (ht : t.passed = s.passed) :
        ((t.dataSendPkt sizeIdx size).twlTxArm9QueueFlushLoop fuel = none ∧
          ((t.dataSendPkt sizeIdx size).twlFlushLoopSizes fuel).map (size :: ·) = none) ∨
        ∃ s' sizes, (t.dataSendPkt sizeIdx size).twlTxArm9QueueFlushLoop fuel = some s' ∧
          ((t.dataSendPkt sizeIdx size).twlFlushLoopSizes fuel).map (size :: ·) = some sizes ∧
          s'.passed = s.passed + sizes.length := by
      rcases ih (t.dataSendPkt sizeIdx size) with
        ⟨hloop, hsizes⟩ | ⟨s', sizes, hloop, hsizes, hpassed⟩
      · exact .inl ⟨hloop, congrArg (Option.map (size :: ·)) hsizes⟩
      · refine .inr ⟨s', size :: sizes, hloop, congrArg (Option.map (size :: ·)) hsizes, ?_⟩
        have hone : (t.dataSendPkt sizeIdx size).passed = t.passed + 1 := List.countP_append
        rw [hpassed, hone, ht, List.length_cons]
        omega
    unfold twlTxArm9QueueFlushLoop twlFlushLoopSizes
    dsimp only
    split
    · exact .inr ⟨_, [], rfl, rfl, rfl⟩
    · split
      · split
        · exact .inr ⟨_, [], rfl, rfl, rfl⟩
        · exact hsend _ _ _ rfl
      · exact hsend _ _ _ rfl

end Arm7Tx

/-! ## Events -/

/-- The ARM9 handles one packet at a time. -/
theorem RxState.handledSizes_cases (s : RxState) :
    s.handledSizes = [] ∨ ∃ size, s.handledSizes = [size] := by
  unfold RxState.handledSizes
  split
  · split
    · exact .inl rfl
    · exact .inr ⟨_, rfl⟩
  · exact .inl rfl

namespace Traffic

/-- What an event passes on of the frames of the ARM9. -/
theorem passed_nextTx (s : Traffic) (e : TrafficEvent) :
    (s.nextTx e).passed = s.tx.passed + (s.sentSizes e).length := by
  cases e with
  | arm7QueueAdd data datalen =>
    exact Arm7Tx.passed_of_handled (s.tx.txArm7QueueAdd_handled data datalen)
  | allQueueFlush env => exact s.tx.passed_allQueueFlush env
  | cmdDone env =>
    exact Arm7Tx.passed_of_handled (KeepsQueue.intrMultiplayCmdDone s.tx env).handled
  | loc3Completes ok =>
    refine Arm7Tx.passed_of_handled ?_
    unfold nextTx Arm7Tx.loc3Completes
    dsimp only
    split <;> rfl
  | cmdCompletes ok => exact Arm7Tx.passed_of_handled (KeepsQueue.cmdCompletes s.tx ok).handled
  | twlFlush =>
    unfold nextTx sentSizes Arm7Tx.twlTxArm9QueueFlush
    generalize wifiTxBufferSize = fuel
    dsimp only
    rcases s.tx.passed_twlFlushLoop fuel with ⟨hloop, hsizes⟩ | ⟨s', sizes, hloop, hsizes, hpassed⟩
    · rw [hloop, hsizes]
      rfl
    · rw [hloop, hsizes]
      exact hpassed
  | _ => rfl

/-- What an event starts of the frames of the ARM7. -/
theorem startedLengths_nextTx (s : Traffic) (e : TrafficEvent) :
    (s.nextTx e).startedLengths = s.tx.startedLengths ++ s.rawLengths e := by
  have hsame {tx : Arm7Tx} (h : tx.started = s.tx.started) :
      tx.startedLengths = s.tx.startedLengths ++ [] := by
    rw [Arm7Tx.startedLengths_of_started h, List.append_nil]
  cases e with
  | arm7QueueAdd data datalen => exact s.tx.startedLengths_txArm7QueueAdd data datalen
  | allQueueFlush env => exact s.tx.startedLengths_txAllQueueFlush env
  | cmdDone env => exact hsame (KeepsQueue.intrMultiplayCmdDone s.tx env).started
  | loc3Completes ok =>
    refine hsame ?_
    unfold nextTx Arm7Tx.loc3Completes
    dsimp only
    split <;> rfl
  | cmdCompletes ok => exact hsame (KeepsQueue.cmdCompletes s.tx ok).started
  | twlFlush =>
    refine hsame ?_
    unfold nextTx
    dsimp only
    cases hflush : s.tx.twlTxArm9QueueFlush with
    | none => rfl
    | some tx => exact Arm7Tx.twlTxArm9QueueFlushLoop_started hflush
  | _ => exact hsame rfl

theorem started_nextTx (s : Traffic) (e : TrafficEvent) :
    (s.nextTx e).started.length = s.tx.started.length + (s.rawLengths e).length := by
  have h := congrArg List.length (s.startedLengths_nextTx e)
  rwa [List.length_append, Arm7Tx.startedLengths, Arm7Tx.startedLengths, List.length_map,
    List.length_map] at h

/-- What an event takes from the hardware in NTR mode. -/
theorem calls_nextMac (s : Traffic) (e : TrafficEvent) :
    (s.nextMac e).calls.length = s.mac.calls.length + (s.takenLengths e).length := by
  cases e with
  | mac e =>
    cases e with
    | append f =>
      unfold nextMac rxMacStep RxMac.append
      dsimp only
      split <;> rfl
    | rxQueueFlush =>
      unfold nextMac rxMacStep
      dsimp only
      split <;> rfl
    | turn =>
      unfold nextMac takenLengths rxMacStep RxMac.takenLengths
      dsimp only
      cases s.mac.flush with
      | idle => rfl
      | handling base packetlen cut => rfl
      | loop cut =>
        unfold RxMac.rxQueueTurn
        dsimp only
        split
        · exact List.length_append
        · rfl
  | _ => rfl

/-- The counters of frames are different from the other ones. -/
theorem otherAdds_ne (s : Traffic) (e : TrafficEvent) {c : WifiStat}
    (hc : c.IsTx ∨ c = .rxPackets) : ∀ a ∈ s.otherAdds e, a.1 ≠ c := by
  have hlost (src : RxSource) : ∀ a ∈ s.rx.addPacketAdds src, a.1 ≠ c := by
    unfold RxState.addPacketAdds
    rcases hc with (rfl | rfl | rfl) | rfl <;> split <;> simp
  cases e with
  | rxArm9QueueAdd macRam size => exact hlost _
  | dataHandlePkt pkt =>
    unfold otherAdds
    dsimp only
    split
    · simp
    · exact hlost _
  | arm7Access =>
    unfold otherAdds RxState.addedAdds
    dsimp only
    rcases hc with (rfl | rfl | rfl) | rfl <;> split <;> simp
  | cntOverflow regs =>
    intro a ha
    obtain ⟨i, -, hi⟩ := List.mem_flatMap.mp ha
    simp only [List.mem_cons, List.not_mem_nil, or_false] at hi
    rcases hi with rfl | rfl <;> rcases hc with (rfl | rfl | rfl) | rfl <;> nofun
  | _ => simp [otherAdds]

theorem stats_step (s : Traffic) (e : TrafficEvent) (c : WifiStat) :
    (s.step e).stats c = s.stats c + (sumAt c ((s.rawLengths e).flatMap rawAdds) +
      sumAt c ((s.sentSizes e).flatMap packetAdds) +
      sumAt c ((s.takenLengths e).flatMap receivedAdds) +
      sumAt c ((s.handledSizes e).flatMap packetAdds) + sumAt c (s.otherAdds e)) := by
  rw [← sumAt_append, ← sumAt_append, ← sumAt_append, ← sumAt_append]
  exact addAll_apply _ _ c

/-- The number of packets that are counted as sent, by one CPU or the other. -/
theorem txPackets_step (s : Traffic) (e : TrafficEvent) :
    (s.step e).stats .txPackets = s.stats .txPackets + UInt32.ofNat ((s.rawLengths e).length +
      (s.sentSizes e).length + (s.handledSizes e).length) := by
  have hraw (n : Nat) : sumAt .txPackets (rawAdds n) = 1 := by simp [rawAdds]
  have hpacket (n : Nat) : sumAt .txPackets (packetAdds n) = 1 := by simp [packetAdds]
  have htaken (n : Nat) : sumAt .txPackets (receivedAdds n) = 0 := by
    simp [receivedAdds]
  rw [stats_step, sumAt_flatMap_one hraw, sumAt_flatMap_one hpacket,
    sumAt_flatMap_one hpacket, sumAt_flatMap_zero htaken,
    sumAt_eq_zero (s.otherAdds_ne e (.inl (.inl rfl))), add_zero, add_zero,
    UInt32.ofNat_add, UInt32.ofNat_add]

/-- What is counted as received. -/
theorem rxPackets_step (s : Traffic) (e : TrafficEvent) :
    (s.step e).stats .rxPackets =
      s.stats .rxPackets + UInt32.ofNat (s.takenLengths e).length := by
  have hraw (n : Nat) : sumAt .rxPackets (rawAdds n) = 0 := by simp [rawAdds]
  have hpacket (n : Nat) : sumAt .rxPackets (packetAdds n) = 0 := by simp [packetAdds]
  have htaken (n : Nat) : sumAt .rxPackets (receivedAdds n) = 1 := by
    simp [receivedAdds]
  rw [stats_step, sumAt_flatMap_zero hraw, sumAt_flatMap_zero hpacket,
    sumAt_flatMap_zero hpacket, sumAt_flatMap_one htaken,
    sumAt_eq_zero (s.otherAdds_ne e (.inr rfl)), add_zero, add_zero,
    zero_add, zero_add]

/-- Without a frame no counter of transmissions changes. -/
theorem tx_step (s : Traffic) (e : TrafficEvent) {c : WifiStat} (hc : c.IsTx)
    (hraw : s.rawLengths e = []) (hsent : s.sentSizes e = []) (hhandled : s.handledSizes e = []) :
    (s.step e).stats c = s.stats c := by
  have htaken (n : Nat) : sumAt c (receivedAdds n) = 0 := by
    rcases hc with rfl | rfl | rfl <;> simp [receivedAdds]
  rw [stats_step, hraw, hsent, hhandled, sumAt_flatMap_zero htaken,
    sumAt_eq_zero (s.otherAdds_ne e (.inl hc))]
  exact add_zero _

/-- The number of frames that an event hands to the hardware. -/
theorem handedOver_step (countOwn : Bool) (s : Traffic) (e : TrafficEvent) :
    (s.step e).handedOver countOwn = s.handedOver countOwn + (s.rawLengths e).length +
      (s.sentSizes e).length + if countOwn then (s.step e).own - s.own else 0 := by
  have hpassed := s.passed_nextTx e
  have hown : s.own ≤ (s.step e).own := by
    cases e <;> first | exact Nat.le_refl _ | exact Nat.le_succ _
  have hraw := s.started_nextTx e
  have htx : (s.step e).tx = s.nextTx e := rfl
  unfold Arm7Tx.passed at hpassed
  unfold handedOver
  rw [htx, hpassed, hraw]
  split <;> omega

theorem taken_step (s : Traffic) (e : TrafficEvent) :
    (s.step e).taken =
      s.taken + (s.takenLengths e).length + ((s.step e).fromCard - s.fromCard) := by
  have hcalls := s.calls_nextMac e
  have hcard : s.fromCard ≤ (s.step e).fromCard := by
    cases e <;> first | exact Nat.le_refl _ | exact Nat.le_succ _
  have hmac : (s.step e).mac = s.nextMac e := rfl
  unfold taken
  rw [hmac, hcalls]
  omega

/-- The counters agree with what has passed. -/
structure Counted (countOwn : Bool) (s : Traffic) : Prop where
  txPackets : s.stats .txPackets = UInt32.ofNat (s.handedOver countOwn)
  rxPackets : s.stats .rxPackets = UInt32.ofNat s.taken

theorem counted_init (countOwn : Bool) : Counted countOwn init := by
  cases countOwn <;> exact ⟨rfl, rfl⟩

theorem NothingReceived.handledSizes {countOwn : Bool} {s : Traffic} {e : TrafficEvent}
    (h : NothingReceived countOwn s e) : s.handledSizes e = [] := by
  cases e with
  | arm9Access => exact h.arm9 rfl
  | _ => rfl

/-- **Without anything received the counters are right.** -/
theorem Counted.accounts {countOwn : Bool} {s : Traffic} {e : TrafficEvent}
    (h : Counted countOwn s) (hnothing : NothingReceived countOwn s e) : Accounts countOwn s e := by
  have hhandled := hnothing.handledSizes
  refine ⟨fun c hc hne => ?_, fun hreceives c hc => ?_, ?_, ?_⟩
  · rw [handedOver_step]
    by_contra hnot
    refine hne (s.tx_step e hc (List.length_eq_zero_iff.mp ?_) (List.length_eq_zero_iff.mp ?_)
      hhandled) <;> omega
  · have hraw : s.rawLengths e = [] := by
      cases e <;> first | rfl | exact absurd hreceives id
    have hsent : s.sentSizes e = [] := by
      cases e <;> first | rfl | exact absurd hreceives id
    exact s.tx_step e hc hraw hsent hhandled
  · have hown : (if countOwn then (s.step e).own - s.own else 0) = 0 := by
      cases countOwn with
      | false => rfl
      | true =>
        have hne := hnothing.own rfl
        cases e with
        | dataSendPkt => exact absurd rfl hne
        | _ => exact Nat.sub_self s.own
    rw [txPackets_step, h.txPackets, handedOver_step, hown, hhandled, ← UInt32.ofNat_add,
      List.length_nil, Nat.add_zero, Nat.add_zero, Nat.add_assoc]
  · have hcard : (s.step e).fromCard - s.fromCard = 0 := by
      cases e with
      | dataHandlePkt pkt => exact absurd rfl (hnothing.card pkt)
      | _ => exact Nat.sub_self s.fromCard
    rw [rxPackets_step, h.rxPackets, taken_step, hcard, Nat.add_zero, UInt32.ofNat_add]

theorem succ_ne_self (n : UInt32) : n + 1 ≠ n := by
  intro h
  simp at h

/-- **A packet that is received is counted as sent, or not at all.** -/
theorem Counted.nothingReceived {countOwn : Bool} {s : Traffic} {e : TrafficEvent}
    (h : Counted countOwn s) (haccounts : Accounts countOwn s e) :
    NothingReceived countOwn s e := by
  refine ⟨?_, ?_, ?_⟩
  · rintro rfl
    rcases s.rx.handledSizes_cases with hnone | ⟨size, hsize⟩
    · exact hnone
    · have hsame := haccounts.received trivial .txPackets (.inl rfl)
      have hhandled : s.handledSizes .arm9Access = [size] := hsize
      rw [txPackets_step, hhandled] at hsame
      exact absurd hsame (succ_ne_self _)
  · rintro pkt rfl
    have heq := haccounts.rxPackets
    have htaken : (s.step (.dataHandlePkt pkt)).taken = s.taken + 1 := rfl
    rw [rxPackets_step, h.rxPackets, htaken, UInt32.ofNat_add] at heq
    exact absurd heq.symm (by simp [takenLengths])
  · rintro rfl rfl
    have heq := haccounts.txPackets
    have hover : (s.step .dataSendPkt).handedOver true = s.handedOver true + 1 := rfl
    rw [txPackets_step, h.txPackets, hover, UInt32.ofNat_add] at heq
    exact absurd heq.symm (by simp [rawLengths, sentSizes, handledSizes])

/-- Transmissions are counted when a frame is handed to the hardware and only then, and all that is
taken from it is counted, exactly in the runs in which the ARM9 doesn't handle a packet and none
comes from the card. The packets that the ARM7 sends on its own in DSi mode aren't counted, so there
are none if they should be. -/
theorem traffic_counted_iff (countOwn : Bool) (es : List TrafficEvent) :
    Along step (Accounts countOwn) init es ↔ Along step (NothingReceived countOwn) init es :=
  along_iff (Counted countOwn)
    (fun _ _ h hq => ⟨(h.accounts hq).txPackets, (h.accounts hq).rxPackets⟩)
    (fun _ _ h => ⟨h.nothingReceived, h.accounts⟩) es (counted_init countOwn)

/-- A data frame with a payload of 28 bytes. -/
def dataFrame : RxMacFrame where
  head := .replicate 8 0
  tail := .replicate 2 0
  payload := .replicate 28 8
  pad := []
  length_pad := rfl
  size_lt := by decide

/-- A frame is received in NTR mode, and the ARM9 reads the last byte of it. -/
def frameReceived : List TrafficEvent :=
  [.mac (.append dataFrame), .mac .rxQueueFlush, .mac .turn, .rxArm9QueueAdd (fun _ => 8) 28] ++
    List.replicate 34 .arm7Access ++ List.replicate 30 .arm9Access

/-- The frame is counted as sent. -/
theorem frameReceived_countedAsSent :
    (run step init (frameReceived ++ [.arm9Access])).stats .txPackets = 1 ∧
      (run step init (frameReceived ++ [.arm9Access])).handedOver true = 0 ∧
      ¬ Along step (Accounts false) init (frameReceived ++ [.arm9Access]) := by
  have hbefore : (run step init frameReceived).stats .txPackets = 0 := by decide +kernel
  have hafter : ((run step init frameReceived).step .arm9Access).stats .txPackets = 1 := by
    decide +kernel
  refine ⟨by decide +kernel, by decide +kernel, fun h => ?_⟩
  have hlast := ((along_append _ _).mp h).2.1.received trivial .txPackets (.inl rfl)
  rw [hbefore, hafter] at hlast
  exact absurd hlast (by decide)

end Traffic

end Wifi
