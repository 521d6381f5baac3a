import DsWifi.Tx.Ring

/-!
# Transmission on the ARM7 (NTR)

`source/arm7/ntr/tx_queue.c`, with `Wifi_MACWrite` and `Wifi_MacWriteByte` of `mac.c` and
`Wifi_BeaconSetup` of `beacon.c`. Regular frames, CMD frames and frames of the ARM7 itself go to the
TX buffer at the start of MAC RAM, beacons and replies to the two buffers of 256 bytes after it.

A transfer of the TX buffer is busy from the write to `W_TXREQ_SET` that starts it to a completion
step of the hardware. The hardware reports in the status halfword of the frame.
-/

namespace Wifi

open Infra Infra.Mem

/-! ## MAC RAM -/

def macTxbufStartOffset : Nat := 0x0000

def macTxbufEndOffset : Nat := 0x0A00

def macClientRx1StartOffset : Nat := 0x0A00

def macClientRx1EndOffset : Nat := 0x0B00

def macClientRx2StartOffset : Nat := 0x0B00

def macClientRx2EndOffset : Nat := 0x0C00

def macBeaconStartOffset : Nat := 0x0A00

def macBeaconEndOffset : Nat := 0x0C00

/-- `HDR_TX_STATUS`. -/
def hdrTxStatus : Nat := 0x0

/-- `HDR_TX_CLIENT_BITS`. -/
def hdrTxClientBits : Nat := 0x2

/-- `HDR_TX_TRANSFER_RATE`. -/
def hdrTxTransferRate : Nat := 0x8

/-- `HDR_TX_IEEE_FRAME_SIZE`. -/
def hdrTxIeeeFrameSize : Nat := 0xA

/-- `HDR_TX_SIZE`. -/
def hdrTxSize : Nat := 0xC

/-- `HDR_DATA_FRAME_CONTROL`. -/
def hdrDataFrameControl : Nat := 0

/-- `HDR_DATA_DURATION`. -/
def hdrDataDuration : Nat := 2

/-- `HDR_DATA_MAC_SIZE` and `HDR_MGT_MAC_SIZE`. -/
def hdrDataMacSize : Nat := 24

/-- `TXBUF_LOCN_ENABLE`, `TXBUF_CMD_ENABLE`, `TXBUF_REPLY_ENABLE` and `TXBUF_BEACON_ENABLE`. -/
def txbufEnable : Nat := 2 ^ 15

/-! ## State -/

/-- What became of a frame of the ARM9. -/
inductive TxHandled
  /-- Copied to MAC RAM, where these bytes are afterwards. -/
  | copied (macbase : Nat) (bytes : List UInt8)
  /-- Passed to the card driver of the DSi. -/
  | sent (bytes : List UInt8)
  | rejected

/-- What is observed of the TX buffer. -/
structure TxMonitor where
  /-- The number of frames copied to the TX buffer. The last one is in it. -/
  frames : Nat
  /-- Whether the frame in the TX buffer is one of the ARM7's own. -/
  fromArm7 : Bool
  /-- The length of the last frame of the ARM7 that was copied to the TX buffer. -/
  arm7Len : Nat
  /-- The frame of the last CMD transfer that failed. -/
  failedCmd : Option Nat
  /-- The TX buffer was written during a transfer. -/
  rewritten : Bool
  /-- A CMD transfer was cancelled by a LOC3 transfer. -/
  cancelled : Bool
  /-- A frame was sent as the retry of another one. -/
  retriedOther : Bool

/-- The state of the ARM7 side. -/
structure Arm7Tx where
  ring : TxRing
  /-- MAC RAM. -/
  ram : Mem
  /-- `W_TXBUSY & TXBIT_LOC3`. -/
  loc3Busy : Bool
  /-- `W_TXBUSY & TXBIT_CMD`. -/
  cmdBusy : Bool
  txRetrylimit : Nat
  txbufLoc3 : Nat
  txbufCmd : Nat
  txbufReply1 : Nat
  txbufReply2 : Nat
  txbufBeacon : Nat
  txbufTim : Nat
  listenint : Nat
  listencount : Nat
  beaconint : Nat
  cmdTotaltime : Nat
  cmdReplytime : Nat
  cmdCount : Nat
  beaconChannelAddr : Nat
  dswifiInformationAddr : Nat
  /-- `wifi_tx_queue`. -/
  txQueue : Mem
  /-- `wifi_tx_queue_len`, which holds bytes. -/
  txQueueLen : Nat
  /-- What became of the frames of the ARM9 so far. -/
  handled : List TxHandled
  /-- The frames of the ARM7 that have been in the TX buffer when a LOC3 transfer was started. -/
  started : List (List UInt8)
  /-- The ranges of MAC RAM that `Wifi_MACWrite` has written: offset and length. -/
  copies : List (Nat × Nat)
  /-- Whether all reads of `txbufData` so far are inside it. -/
  inBounds : Bool
  monitor : TxMonitor

/-- Everything zeroed. -/
def Arm7Tx.init : Arm7Tx where
  ring := .init
  ram := fun _ => 0
  loc3Busy := false
  cmdBusy := false
  txRetrylimit := 0
  txbufLoc3 := 0
  txbufCmd := 0
  txbufReply1 := 0
  txbufReply2 := 0
  txbufBeacon := 0
  txbufTim := 0
  listenint := 0
  listencount := 0
  beaconint := 0
  cmdTotaltime := 0
  cmdReplytime := 0
  cmdCount := 0
  beaconChannelAddr := 0
  dswifiInformationAddr := 0
  txQueue := fun _ => 0
  txQueueLen := 0
  handled := []
  started := []
  copies := []
  inBounds := true
  monitor := {
    frames := 0
    fromArm7 := false
    arm7Len := 0
    failedCmd := none
    rewritten := false
    cancelled := false
    retriedOther := false }

/-- What else the ARM7 reads: fields of `Wifi_MainStruct`, and the next `Wifi_Random`. -/
structure Arm7Env where
  maxrate7 : Nat
  curCmdDataSize : Nat
  curReplyDataSize : Nat
  /-- `clients.num_connected`. -/
  numConnected : Nat
  /-- `clients.aid_mask`. -/
  aidMask : Nat
  curChannel : Nat
  random : Nat

def Arm7Env.zero : Arm7Env where
  maxrate7 := 0
  curCmdDataSize := 0
  curReplyDataSize := 0
  numConnected := 0
  aidMask := 0
  curChannel := 0
  random := 0

namespace Arm7Tx

/-- `Wifi_TxLoc3IsBusy() || Wifi_TxCmdIsBusy()`. -/
def busy (s : Arm7Tx) : Bool := s.loc3Busy || s.cmdBusy

/-- Observe a read of `size` bytes of `txbufData`. -/
def touch (s : Arm7Tx) (idx size : Nat) : Arm7Tx :=
  { s with inBounds := s.inBounds && decide (idx + size ≤ wifiTxBufferSize) }

/-- Observe a write to `[base, ..)`. -/
def observe (s : Arm7Tx) (base : Nat) : TxMonitor :=
  { s.monitor with
    rewritten := s.monitor.rewritten || (decide (base < macTxbufEndOffset) && s.busy) }

/-- `W_MACMEM(addr) = value`. -/
def poke (s : Arm7Tx) (addr value : Nat) : Arm7Tx :=
  { s with ram := s.ram.store16 addr value, monitor := s.observe addr }

/-- `Wifi_MACWrite`. It copies `(length + 1) >> 1` halfwords. -/
def macWrite (s : Arm7Tx) (src : Mem) (srcIdx macBase length : Nat) : Arm7Tx :=
  if 0x2000 < u32 (macBase + length) then s
  else
    let size := 2 * ((length + 1) / 2)
    { s with
      ram := s.ram.storeBytes macBase (loadBytes src srcIdx size)
      copies := s.copies ++ [(macBase, size)]
      monitor := s.observe macBase }

/-- `Wifi_MacWriteByte`. -/
def macWriteByte (s : Arm7Tx) (address value : Nat) : Arm7Tx :=
  let addr := u16 (address / 2 * 2)
  if address % 2 = 1 then s.poke addr (load16 s.ram addr &&& 0x00FF ||| value <<< 8)
  else s.poke addr (load16 s.ram addr &&& 0xFF00 ||| value)

/-! ## Frames of the ARM7 -/

/-- The registers that start a LOC3 transfer, in `Wifi_TxRaw` and `Wifi_TxArm9QueueFlushByLoc3`. -/
def startLoc3 (s : Arm7Tx) : Arm7Tx :=
  { s with
    txRetrylimit := 0x0707
    txbufLoc3 := txbufEnable ||| macTxbufStartOffset >>> 1
    cmdBusy := false
    loc3Busy := true
    started :=
      if s.monitor.fromArm7 then
        s.started ++ [loadBytes s.ram macTxbufStartOffset s.monitor.arm7Len]
      else s.started
    monitor := { s.monitor with cancelled := s.monitor.cancelled || s.cmdBusy } }

/-- `Wifi_TxRaw`. -/
def txRaw (s : Arm7Tx) (data : Mem) (datalen : Nat) : Arm7Tx :=
  let s := s.macWrite data 0 macTxbufStartOffset (roundUp32 datalen)
  let s := { s with
    monitor := { s.monitor with
      frames := s.monitor.frames + 1
      fromArm7 := true
      arm7Len := datalen } }
  s.startLoc3

/-- `Wifi_TxArm7QueueFlush`. -/
def txArm7QueueFlush (s : Arm7Tx) : Arm7Tx :=
  { s.txRaw s.txQueue s.txQueueLen with txQueueLen := 0 }

/-- `Wifi_TxArm7QueueIsEmpty`. -/
def txArm7QueueIsEmpty (s : Arm7Tx) : Bool := s.txQueueLen == 0

/-- `Wifi_TxArm7QueueSetEnqueuedData`. The check compares halfwords with `sizeof(wifi_tx_queue)`. -/
def txArm7QueueSetEnqueuedData (s : Arm7Tx) (data : Mem) (datalen : Nat) : Arm7Tx × Bool :=
  let hwords := u32 (datalen + 1) / 2
  if 2048 < hwords then (s, false)
  else
    ({ s with
      txQueue := s.txQueue.storeBytes 0 (loadBytes data 0 (2 * hwords))
      txQueueLen := u16 datalen }, true)

/-- `Wifi_TxArm7QueueAdd`. -/
def txArm7QueueAdd (s : Arm7Tx) (data : Mem) (datalen : Nat) : Arm7Tx × Bool :=
  if !s.loc3Busy then
    if s.txArm7QueueIsEmpty then (s.txRaw data datalen, true)
    else s.txArm7QueueFlush.txArm7QueueSetEnqueuedData data datalen
  else
    if s.txArm7QueueIsEmpty then s.txArm7QueueSetEnqueuedData data datalen
    else (s, false)

/-! ## Frames of the ARM9 -/

/-- `Wifi_TxArm9QueueCopyFirstData`. It returns the size of the frame, or `0`. -/
def txArm9QueueCopyFirstData (s : Arm7Tx) (macbase bufferEnd : Nat) : Arm7Tx × Nat :=
  let txbufData := s.ring.txbufData
  let s := s.touch s.ring.txbufRead 4
  let size := load32 txbufData s.ring.txbufRead &&& wflagSendSizeMask
  let readIdx := u32 (s.ring.txbufRead + 4)
  if size ≤ bufferEnd then
    let s := (s.touch readIdx (2 * ((size + 1) / 2))).macWrite txbufData readIdx macbase size
    ({ s with
      ring := { s.ring with txbufRead := u32 (readIdx + roundUp32 size) }
      handled := s.handled ++ [.copied macbase (loadBytes s.ram macbase size)] }, size)
  else
    ({ s with
      ring := { s.ring with
        txbufRead := readIdx
        txQueuedRejected := u32 (s.ring.txQueuedRejected + 1) }
      handled := s.handled ++ [.rejected] }, 0)

/-- A copy to the TX buffer puts a frame of the ARM9 there. -/
def nextFrame (s : Arm7Tx) : Arm7Tx :=
  { s with monitor := { s.monitor with frames := s.monitor.frames + 1, fromArm7 := false } }

/-- Set the number of retries. -/
def setRetries (s : Arm7Tx) : Arm7Tx := { s with txRetrylimit := 0x0707 }

/-- `Wifi_TxArm9QueueFlushByLoc3`. -/
def txArm9QueueFlushByLoc3 (env : Arm7Env) (s : Arm7Tx) : Arm7Tx :=
  let txBase := macTxbufStartOffset
  let ieeeBase := macTxbufStartOffset + hdrTxSize
  -- If the transfer rate isn't set, fill it in now.
  let s := if load16 s.ram (txBase + hdrTxTransferRate) = 0 then
    s.poke (txBase + hdrTxTransferRate) env.maxrate7 else s
  -- Add WEP IV and key ID if required.
  let s := if load16 s.ram (ieeeBase + hdrDataFrameControl) &&& fcProtectedFrame ≠ 0 then
    let ivBase := ieeeBase + hdrDataMacSize
    (s.poke ivBase (env.random &&& 0xFFFF)).poke (ivBase + 2) (env.random >>> 16 &&& 0xFF) else s
  s.startLoc3

/-- `Wifi_TxArm9QueueFlushByCmd`. -/
def txArm9QueueFlushByCmd (env : Arm7Env) (s : Arm7Tx) : Arm7Tx :=
  let txBase := macTxbufStartOffset
  let ieeeBase := macTxbufStartOffset + hdrTxSize
  let hostTime := u16 (env.curCmdDataSize * 4 + 0x60)
  let clientTime := u16 (env.curReplyDataSize * 4 + 0xD2)
  let allClientTime := u16 (0xF0 + (clientTime + 0xA) * env.numConnected)
  let s := s.poke (txBase + hdrTxClientBits) env.aidMask
  let s := s.poke (ieeeBase + hdrDataDuration) allClientTime
  let s := s.poke (ieeeBase + hdrDataMacSize + 0) clientTime
  let s := s.poke (ieeeBase + hdrDataMacSize + 2) env.aidMask
  let count := u16 ((0x388 + env.numConnected * clientTime + hostTime + 0x32) >>> 3)
  { s with
    cmdTotaltime := allClientTime
    cmdReplytime := clientTime
    cmdCount := u16 (0x180 + count)
    loc3Busy := false
    txbufCmd := txbufEnable ||| macTxbufStartOffset >>> 1
    cmdBusy := true }

/-- `Wifi_Intr_MultiplayCmdDone`. -/
def intrMultiplayCmdDone (env : Arm7Env) (s : Arm7Tx) : Arm7Tx :=
  if load16 s.ram (macTxbufStartOffset + hdrTxStatus) = 5 then
    let retriesLeft := s.txRetrylimit &&& 0xFF
    if 0 < retriesLeft then
      let s := { s with
        txRetrylimit := u16 (s.txRetrylimit + 0xFFFF)
        monitor := { s.monitor with
          retriedOther := s.monitor.retriedOther ||
            decide (s.monitor.failedCmd ≠ some s.monitor.frames) } }
      let s := s.poke (macTxbufStartOffset + hdrTxStatus) 0
      s.txArm9QueueFlushByCmd env
    else s
  else s

/-- The buffer that `Wifi_TxArm9QueueFlushByReply` selects, and its end. -/
def replyDestination (s : Arm7Tx) : Nat × Nat :=
  let oldDestination := (s.txbufReply2 % txbufEnable) <<< 1
  if oldDestination = macClientRx1StartOffset then (macClientRx2StartOffset, macClientRx2EndOffset)
  else (macClientRx1StartOffset, macClientRx1EndOffset)

/-- `Wifi_TxArm9QueueFlushByReply`. -/
def txArm9QueueFlushByReply (s : Arm7Tx) : Arm7Tx × Bool :=
  let (destination, bufferEnd) := s.replyDestination
  let (s, ret) := s.txArm9QueueCopyFirstData destination bufferEnd
  if ret = 0 then (s, false)
  else
    ({ s with txRetrylimit := 0x0707, txbufReply1 := txbufEnable ||| destination >>> 1 }, true)

/-! ## Beacons -/

/-- `Wifi_BeaconStop`. -/
def beaconStop (s : Arm7Tx) : Arm7Tx :=
  { s with txbufBeacon := s.txbufBeacon % txbufEnable, beaconint := 0x64 }

/-- `Wifi_SetBeaconChannel`. -/
def setBeaconChannel (s : Arm7Tx) (channel : Nat) : Arm7Tx :=
  if s.beaconChannelAddr = 0 then s
  else if s.txbufBeacon &&& txbufEnable ≠ 0 then s.macWriteByte s.beaconChannelAddr channel
  else s

/-- `Wifi_MacReadByte`. -/
def macReadByte (s : Arm7Tx) (address : Nat) : Nat :=
  let addr := u16 (address / 2 * 2)
  if address % 2 = 1 then load16 s.ram addr >>> 8 else load16 s.ram addr &&& 0xFF

/-- `Wifi_SetBeaconCurrentPlayers`. -/
def setBeaconCurrentPlayers (s : Arm7Tx) (num : Nat) : Arm7Tx :=
  if s.dswifiInformationAddr = 0 then s
  else if s.txbufBeacon &&& txbufEnable ≠ 0 then s.macWriteByte (s.dswifiInformationAddr + 1) num
  else s

/-- `Wifi_SetBeaconAllowsConnections`. -/
def setBeaconAllowsConnections (s : Arm7Tx) (allows : Nat) : Arm7Tx :=
  if s.dswifiInformationAddr = 0 then s
  else if s.txbufBeacon &&& txbufEnable ≠ 0 then s.macWriteByte (s.dswifiInformationAddr + 2) allows
  else s

/-- `Wifi_GetBeaconAllowsConnections`. -/
def getBeaconAllowsConnections (s : Arm7Tx) : Nat :=
  if s.dswifiInformationAddr = 0 then 0
  else if s.txbufBeacon &&& txbufEnable ≠ 0 then s.macReadByte (s.dswifiInformationAddr + 2)
  else 0

/-- The information elements from `i` on. Every turn of the loop moves at least two bytes. -/
def beaconElements (data : List UInt8) (len : Nat) : Nat → Nat → Arm7Tx → Arm7Tx
  | 0, _, s => s
  | fuel + 1, i, s =>
    if len ≤ i then s
    else
      let byte (k : Nat) : Nat := (data.getD k 0).toNat
      let seglen := byte (i + 1)
      let j := i + 2
      let s := match byte i with
        | 3 => { s with beaconChannelAddr := u16 (macBeaconStartOffset + j) }
        | 5 =>
          { s with
            txbufTim := u16 (j - hdrTxSize - hdrDataMacSize)
            listenint := byte (j + 1)
            listencount := if byte (j + 1) ≤ s.listencount then 0 else s.listencount }
        | 221 =>
          if 48 ≤ seglen ∧ byte j = 0x00 ∧ byte (j + 1) = 0x09 ∧ byte (j + 2) = 0xBF ∧
              byte (j + 3) = 0x00 then
            { s with dswifiInformationAddr := u16 (macBeaconStartOffset + j + (48 - 24)) }
          else s
        | _ => s
      beaconElements data len fuel (j + seglen) s

/-- Enable beacon transmission, at the interval that the frame announces. -/
def enableBeacon (s : Arm7Tx) : Arm7Tx :=
  { s with
    txbufBeacon := txbufEnable ||| macBeaconStartOffset >>> 1
    beaconint := load16 s.ram (macBeaconStartOffset + hdrTxSize + hdrDataMacSize + 8) }

/-- `Wifi_BeaconSetup`. -/
def beaconSetup (env : Arm7Env) (s : Arm7Tx) : Arm7Tx :=
  let packetlen := load16 s.ram (macBeaconStartOffset + hdrTxIeeeFrameSize)
  let len := hdrTxSize + packetlen - 4
  let i := hdrTxSize + hdrDataMacSize + 8 + 2 + 2
  if len ≤ i then s.beaconStop
  else
    let data := loadBytes s.ram macBeaconStartOffset (2 * ((len + 1) / 2))
    (beaconElements data len len i s).enableBeacon.setBeaconChannel env.curChannel

/-! ## Flushes -/

/-- The part of `Wifi_TxArm9QueueFlush` that sends the frame at `txbufRead`. -/
def txArm9QueueSend (env : Arm7Env) (s : Arm7Tx) (status : Nat) : Arm7Tx × Bool :=
  if status &&& wflagSendAsReply ≠ 0 then s.txArm9QueueFlushByReply
  else if status &&& wflagSendAsBeacon ≠ 0 then
    let (s, ret) := s.txArm9QueueCopyFirstData macBeaconStartOffset macBeaconEndOffset
    if ret = 0 then (s, false) else (s.beaconSetup env, true)
  else
    let (s, ret) := s.txArm9QueueCopyFirstData macTxbufStartOffset macTxbufEndOffset
    if ret = 0 then (s, false)
    else if status &&& wflagSendAsCmd ≠ 0 then
      (s.nextFrame.setRetries.txArm9QueueFlushByCmd env, true)
    else (s.nextFrame.txArm9QueueFlushByLoc3 env, true)

/-- A wrap marker moves `txbufRead` to the start of the buffer. -/
def skipWrap (s : Arm7Tx) : Arm7Tx :=
  if load32 s.ring.txbufData s.ring.txbufRead = wifiSizeWrap then
    { s with ring := { s.ring with txbufRead := 0 } }
  else s

/-- `Wifi_TxArm9QueueFlush`. -/
def txArm9QueueFlush (env : Arm7Env) (s : Arm7Tx) : Arm7Tx × Bool :=
  let s := s.touch s.ring.txbufRead 4
  if load32 s.ring.txbufData s.ring.txbufRead = 0 then (s, false)
  else
    let s := s.skipWrap
    let s := s.touch s.ring.txbufRead 4
    let status := load32 s.ring.txbufData s.ring.txbufRead
    if status = 0 then (s, false) else s.txArm9QueueSend env status

/-- `Wifi_TxAllQueueFlush`. -/
def txAllQueueFlush (env : Arm7Env) (s : Arm7Tx) : Arm7Tx :=
  if s.loc3Busy || s.cmdBusy then s
  else if !s.txArm7QueueIsEmpty then s.txArm7QueueFlush
  else (s.txArm9QueueFlush env).1

/-! ## The hardware -/

/-- The LOC3 transfer ends, with success (1) or without (3). -/
def loc3Completes (s : Arm7Tx) (ok : Bool) : Arm7Tx :=
  if s.loc3Busy then
    { s with
      loc3Busy := false
      ram := s.ram.store16 (macTxbufStartOffset + hdrTxStatus) (if ok then 1 else 3) }
  else s

/-- The CMD transfer ends, with success (1) or without (5). -/
def cmdCompletes (s : Arm7Tx) (ok : Bool) : Arm7Tx :=
  if s.cmdBusy then
    { s with
      cmdBusy := false
      ram := s.ram.store16 (macTxbufStartOffset + hdrTxStatus) (if ok then 1 else 5)
      monitor := if ok then s.monitor else
        { s.monitor with failedCmd := some s.monitor.frames } }
  else s

/-- A reply is sent, and the other buffer becomes the one in use. -/
def replySwap (s : Arm7Tx) : Arm7Tx :=
  { s with txbufReply2 := s.txbufReply1, txbufReply1 := 0 }

end Arm7Tx

end Wifi
