import DsWifi.Tx.Regions

/-!
# Transfers from the TX buffer

The frames of the ARM7 and those of the ARM9 share the TX buffer. `Wifi_TxAllQueueFlush` waits for
both kinds of transfers, `Wifi_TxArm7QueueAdd` only for LOC3 transfers, and
`Wifi_Intr_MultiplayCmdDone` looks at the status halfword of whatever frame is there.

* `tx_transfers_clean_iff` — no transfer is disturbed and every retry is one of the CMD frame that
  failed, exactly in the runs in which the ARM7 adds no frame during a CMD transfer and no frame of
  the ARM7 looks like a failed CMD frame to the interrupt
-/

namespace Wifi

open Infra Infra.Mem Infra.TaggedRing

/-! ## Runs -/

/-- What can happen. No caller passes more than the queue of the ARM7 holds. -/
inductive TransferEvent
  /-- The ARM9 calls one of its functions. -/
  | call (env : TxEnv) (call : TxCall) (hmode : env.dsiMode = false) (hobject : call.IsObject)
  /-- `Wifi_TxArm7QueueAdd`. -/
  | arm7QueueAdd (data : Mem) (datalen : Nat) (hlen : datalen ≤ 2048)
  /-- `Wifi_TxAllQueueFlush`. -/
  | allQueueFlush (env : Arm7Env)
  /-- `Wifi_Intr_MultiplayCmdDone`. -/
  | cmdDone (env : Arm7Env)
  /-- The hardware ends a LOC3 transfer. -/
  | loc3Completes (ok : Bool)
  /-- The hardware ends a CMD transfer. -/
  | cmdCompletes (ok : Bool)
  /-- The hardware takes the other reply buffer into use. -/
  | replySwap

def transferStep (s : Arm7Tx) : TransferEvent → Arm7Tx
  | .call env call _ _ => { s with ring := (call.run env s.ring).1 }
  | .arm7QueueAdd data datalen _ => (s.txArm7QueueAdd data datalen).1
  | .allQueueFlush env => s.txAllQueueFlush env
  | .cmdDone env => s.intrMultiplayCmdDone env
  | .loc3Completes ok => s.loc3Completes ok
  | .cmdCompletes ok => s.cmdCompletes ok
  | .replySwap => s.replySwap

/-- Nothing that must not happen has happened. -/
structure TxMonitor.Clean (m : TxMonitor) : Prop where
  rewritten : m.rewritten = false
  cancelled : m.cancelled = false
  retriedOther : m.retriedOther = false

namespace Arm7Tx

/-- The status halfword of the frame in the TX buffer. -/
def txStatus (s : Arm7Tx) : Nat := load16 s.ram (macTxbufStartOffset + hdrTxStatus)

/-- The retries that `Wifi_Intr_MultiplayCmdDone` finds. -/
def retriesLeft (s : Arm7Tx) : Nat := s.txRetrylimit &&& 0xFF

/-- The frame in the buffer is one of the ARM7 that the interrupt takes for a failed CMD frame. -/
def LooksFailed (s : Arm7Tx) : Prop :=
  s.monitor.fromArm7 = true ∧ s.txStatus = 5 ∧ 0 < s.retriesLeft

/-- The address of the channel is inside a beacon. -/
def BeaconAddr (s : Arm7Tx) : Prop :=
  s.beaconChannelAddr = 0 ∨ macBeaconStartOffset ≤ s.beaconChannelAddr ∧
    s.beaconChannelAddr < 2 ^ 16

theorem busy_eq_false {s : Arm7Tx} (hb : s.busy = false) :
    s.loc3Busy = false ∧ s.cmdBusy = false :=
  Bool.or_eq_false_iff.mp hb

/-- Without a transfer every write is allowed. -/
theorem observe_of_not_busy {s : Arm7Tx} (hb : s.busy = false) (base : Nat) :
    s.observe base = s.monitor := by
  rw [observe, hb, Bool.and_false, Bool.or_false]

end Arm7Tx

/-! ## What leaves the transfers alone -/

/-- The step starts no transfer and does not touch the status halfword. -/
structure KeepsTransfer (s s' : Arm7Tx) : Prop where
  loc3Busy : s'.loc3Busy = s.loc3Busy
  cmdBusy : s'.cmdBusy = s.cmdBusy
  monitor : s'.monitor = s.monitor
  txStatus : s'.txStatus = s.txStatus
  beacon : s.BeaconAddr → s'.BeaconAddr

namespace KeepsTransfer

variable {s s' s'' : Arm7Tx}

theorem refl (s : Arm7Tx) : KeepsTransfer s s := ⟨rfl, rfl, rfl, rfl, id⟩

theorem trans (h : KeepsTransfer s s') (h' : KeepsTransfer s' s'') : KeepsTransfer s s'' :=
  ⟨h'.loc3Busy.trans h.loc3Busy, h'.cmdBusy.trans h.cmdBusy, h'.monitor.trans h.monitor,
    h'.txStatus.trans h.txStatus, h'.beacon ∘ h.beacon⟩

theorem busy (h : KeepsTransfer s s') (hb : s.busy = false) : s'.busy = false := by
  rwa [Arm7Tx.busy, h.loc3Busy, h.cmdBusy]

theorem poke (addr : Nat) (hb : s.busy = false) (value : Nat) (h : 2 ≤ addr) :
    KeepsTransfer s (s.poke addr value) where
  loc3Busy := rfl
  cmdBusy := rfl
  monitor := Arm7Tx.observe_of_not_busy hb addr
  txStatus := load16_congr (eqOn_storeBytes fun _ hx => .inl (hx.2.trans_le h))
  beacon := id

theorem macWrite (hb : s.busy = false) (src : Mem) (i : Nat) {base : Nat} (length : Nat)
    (h : 2 ≤ base) : KeepsTransfer s (s.macWrite src i base length) := by
  unfold Arm7Tx.macWrite
  split
  · exact refl s
  · exact ⟨rfl, rfl, Arm7Tx.observe_of_not_busy hb base,
      load16_congr (eqOn_storeBytes fun _ hx => .inl (hx.2.trans_le h)), id⟩

theorem macWriteByte (hb : s.busy = false) {address : Nat} (value : Nat) (h : 2 ≤ address)
    (hlt : address < 2 ^ 16) : KeepsTransfer s (s.macWriteByte address value) := by
  have haddr : 2 ≤ u16 (address / 2 * 2) := by unfold u16; omega
  unfold Arm7Tx.macWriteByte
  dsimp only
  split <;> exact poke _ hb _ haddr

theorem setBeaconChannel (hb : s.busy = false) (haddr : s.BeaconAddr) (channel : Nat) :
    KeepsTransfer s (s.setBeaconChannel channel) := by
  unfold Arm7Tx.setBeaconChannel
  split
  · exact refl s
  · rename_i hne
    obtain ⟨hle, hlt⟩ := haddr.resolve_left hne
    unfold macBeaconStartOffset at hle
    split
    · exact macWriteByte hb channel (by omega) hlt
    · exact refl s

/-- The loop leaves the beacon before it could wrap around. -/
theorem beaconElements (data : List UInt8) {len : Nat} (hlen : len ≤ 0x1000) (fuel i : Nat)
    (s : Arm7Tx) : KeepsTransfer s (s.beaconElements data len fuel i) := by
  refine Arm7Tx.beaconElements_rel refl (fun _ _ _ => trans) (fun s s' h => ?_) data fuel i s
  cases h with
  | channel j hj =>
    refine ⟨rfl, rfl, rfl, rfl, fun _ => .inr ?_⟩
    simp only [u16, macBeaconStartOffset]
    omega
  | tim => exact ⟨rfl, rfl, rfl, rfl, id⟩
  | dswifi => exact ⟨rfl, rfl, rfl, rfl, id⟩
  | other => exact refl s

theorem beaconSetup (hb : s.busy = false) (haddr : s.BeaconAddr) (env : Arm7Env)
    (hlen : load16 s.ram (macBeaconStartOffset + hdrTxIeeeFrameSize) ≤ 500) :
    KeepsTransfer s (s.beaconSetup env) := by
  unfold Arm7Tx.beaconSetup
  dsimp only
  split
  · exact ⟨rfl, rfl, rfl, rfl, id⟩
  · have hle :
        hdrTxSize + load16 s.ram (macBeaconStartOffset + hdrTxIeeeFrameSize) - 4 ≤ 0x1000 := by
      unfold hdrTxSize
      omega
    generalize hdrTxSize + load16 s.ram (macBeaconStartOffset + hdrTxIeeeFrameSize) - 4 = len at hle
    generalize ht : s.beaconElements _ len len _ = t
    have helements : KeepsTransfer s t := ht ▸ beaconElements _ hle _ _ s
    have henable : KeepsTransfer s t.enableBeacon := helements.trans ⟨rfl, rfl, rfl, rfl, id⟩
    exact henable.trans (setBeaconChannel (henable.busy hb) (henable.beacon haddr) _)

end KeepsTransfer

/-! ## Starting a transfer -/

/-- A transfer has been started, and the buffer is as it was. -/
structure StartsTransfer (s s' : Arm7Tx) : Prop where
  busy : s'.busy = true
  one : s'.loc3Busy = false ∨ s'.cmdBusy = false
  monitor : s'.monitor = s.monitor
  txStatus : s'.txStatus = s.txStatus
  beacon : s.BeaconAddr → s'.BeaconAddr

section

variable {s s' s'' : Arm7Tx}

theorem KeepsTransfer.starts (h : KeepsTransfer s s') (h' : StartsTransfer s' s'') :
    StartsTransfer s s'' :=
  ⟨h'.busy, h'.one, h'.monitor.trans h.monitor, h'.txStatus.trans h.txStatus, h'.beacon ∘ h.beacon⟩

theorem StartsTransfer.startLoc3 (hb : s.busy = false) : StartsTransfer s s.startLoc3 where
  busy := rfl
  one := .inr rfl
  monitor := by rw [Arm7Tx.startLoc3, (Arm7Tx.busy_eq_false hb).2, Bool.or_false]
  txStatus := rfl
  beacon := id

theorem StartsTransfer.byLoc3 (hb : s.busy = false) (env : Arm7Env) :
    StartsTransfer s (s.txArm9QueueFlushByLoc3 env) := by
  unfold Arm7Tx.txArm9QueueFlushByLoc3
  dsimp only
  -- The fields that are filled in come after the status.
  generalize hs1 : (if load16 s.ram (macTxbufStartOffset + hdrTxTransferRate) = 0 then
    s.poke (macTxbufStartOffset + hdrTxTransferRate) env.maxrate7 else s) = s1
  have h1 : KeepsTransfer s s1 := by
    rw [← hs1]
    split
    · exact .poke _ hb _ (by decide)
    · exact .refl s
  have hb1 := h1.busy hb
  split
  · have h2 : KeepsTransfer s1 (s1.poke (macTxbufStartOffset + hdrTxSize + hdrDataMacSize)
        (env.random &&& 0xFFFF)) := .poke _ hb1 _ (by decide)
    have h3 := h2.trans (.poke (macTxbufStartOffset + hdrTxSize + hdrDataMacSize + 2)
      (h2.busy hb1) (env.random >>> 16 &&& 0xFF) (by decide))
    exact (h1.trans h3).starts (.startLoc3 (h3.busy hb1))
  · exact h1.starts (.startLoc3 hb1)

theorem StartsTransfer.byCmd (hb : s.busy = false) (env : Arm7Env) :
    StartsTransfer s (s.txArm9QueueFlushByCmd env) := by
  unfold Arm7Tx.txArm9QueueFlushByCmd
  dsimp only
  generalize u16 (0xF0 + _ * env.numConnected) = allClientTime
  generalize u16 (env.curReplyDataSize * 4 + 0xD2) = clientTime
  have h1 := KeepsTransfer.poke (macTxbufStartOffset + hdrTxClientBits) hb env.aidMask
    (by decide)
  have h2 := h1.trans (.poke (macTxbufStartOffset + hdrTxSize + hdrDataDuration)
    (h1.busy hb) allClientTime (by decide))
  have h3 := h2.trans (.poke (macTxbufStartOffset + hdrTxSize + hdrDataMacSize + 0)
    (h2.busy hb) clientTime (by decide))
  have h4 := h3.trans (.poke (macTxbufStartOffset + hdrTxSize + hdrDataMacSize + 2)
    (h3.busy hb) env.aidMask (by decide))
  exact h4.starts ⟨rfl, .inl rfl, rfl, rfl, id⟩

end

/-! ## A flush of the ARM9's frames -/

/-- What a flush does that finds no transfer. -/
inductive FlushStarts (s s' : Arm7Tx) : Prop
  /-- It starts none. -/
  | none (h : KeepsTransfer s s')
  /-- It starts the transfer of a new frame. -/
  | next (hbusy : s'.busy = true) (hone : s'.loc3Busy = false ∨ s'.cmdBusy = false)
      (hmonitor : s'.monitor = s.nextFrame.monitor) (hstatus : s'.txStatus = 0)
      (hbeacon : s'.BeaconAddr)

section

variable {s : Arm7Tx} {e base bufferEnd : Nat} {f : Frame txGeometry} {fs : List (Frame txGeometry)}

/-- Behind the TX buffer, copying a frame does not touch the transfer. -/
theorem KeepsTransfer.copyFirst (bufferEnd : Nat) (hb : s.busy = false) (hbase : 2 ≤ base) :
    KeepsTransfer s (s.txArm9QueueCopyFirstData base bufferEnd).1 := by
  unfold Arm7Tx.txArm9QueueCopyFirstData
  dsimp only
  split
  · have h := KeepsTransfer.macWrite (s := (s.touch s.ring.txbufRead 4).touch
      (u32 (s.ring.txbufRead + 4))
      (2 * (((load32 s.ring.txbufData s.ring.txbufRead &&& wflagSendSizeMask) + 1) / 2))) hb
      s.ring.txbufData (u32 (s.ring.txbufRead + 4))
      (load32 s.ring.txbufData s.ring.txbufRead &&& wflagSendSizeMask) hbase
    exact ⟨h.loc3Busy, h.cmdBusy, h.monitor, h.txStatus, h.beacon⟩
  · exact ⟨rfl, rfl, rfl, rfl, id⟩

/-- What is in MAC RAM after a frame has been copied. -/
theorem TxInv.copyFirst_ram (h : TxInv s.ring e (f :: fs)) (base bufferEnd : Nat)
    (hi : View.HeadAt txGeometry s.ring.txbufData s.ring.txbufRead f s.ring.txbufRead)
    (hb : s.busy = false) (hbase : base ≤ 0xB00) (hend : bufferEnd ≤ 0xC00)
    (hfits : f.body.length ≤ bufferEnd) {r : Arm7Tx × Nat}
    (hr : r = s.txArm9QueueCopyFirstData base bufferEnd) :
    r.2 ≠ 0 ∧ loadBytes r.1.ram base f.body.length = f.body ∧ r.1.busy = false ∧
    r.1.monitor = s.monitor ∧ (s.BeaconAddr → r.1.BeaconAddr) := by
  have hlen := (h.queued f (List.mem_cons_self ..)).le_size
  have hbytes := (loadBytes_macWrite (s := s) s.ring.txbufData (s.ring.txbufRead + 4)
    (show base + f.body.length ≤ 0x2000 by omega)).1
  have hguard : ¬ 0x2000 < u32 (base + f.body.length) := by
    rw [u32_of_lt (by omega)]
    omega
  have hmonitor := Arm7Tx.observe_of_not_busy hb base
  rw [h.copyFirst_eq hi hbase hend hfits] at hr
  simp only [Arm7Tx.macWrite, if_neg hguard] at hbytes hr
  subst hr
  exact ⟨by dsimp only; omega, hbytes.trans hi.stored.2, hb, hmonitor, id⟩

/-- A frame that does not fit leaves the transfer alone. -/
theorem KeepsTransfer.copyFirst_rejected (base : Nat)
    (hi : View.HeadAt txGeometry s.ring.txbufData s.ring.txbufRead f s.ring.txbufRead)
    (hbig : ¬ f.body.length ≤ bufferEnd) :
    KeepsTransfer s (s.txArm9QueueCopyFirstData base bufferEnd).1 ∧
    (s.txArm9QueueCopyFirstData base bufferEnd).2 = 0 := by
  unfold Arm7Tx.txArm9QueueCopyFirstData
  simp only [Arm7Tx.touch, head_size hi, if_neg hbig]
  exact ⟨⟨rfl, rfl, rfl, rfl, id⟩, trivial⟩

/-- Sending starts a transfer of the frame, whose status is `0`. -/
theorem TxInv.send_starts (h : TxInv s.ring e (f :: fs))
    (hi : View.HeadAt txGeometry s.ring.txbufData s.ring.txbufRead f s.ring.txbufRead)
    (hflag : f.tag ≠ f.body.length) (hb : s.busy = false) (haddr : s.BeaconAddr)
    (env : Arm7Env) : FlushStarts s (s.txArm9QueueSend env f.tag).1 := by
  have hq := h.queued f (List.mem_cons_self ..)
  have hhead := hq.headed hflag
  unfold Arm7Tx.txArm9QueueSend
  split
  · have hdest : 2 ≤ s.replyDestination.1 := by
      unfold Arm7Tx.replyDestination
      dsimp only
      split <;> decide
    have hk := KeepsTransfer.copyFirst s.replyDestination.2 hb hdest
    unfold Arm7Tx.txArm9QueueFlushByReply
    dsimp only
    split
    · exact .none hk
    · exact .none (hk.trans ⟨rfl, rfl, rfl, rfl, id⟩)
  · split
    · rename_i hbeacon
      have hlen := hq.le_of_beacon hbeacon
      have hk : KeepsTransfer s
          (s.txArm9QueueCopyFirstData macBeaconStartOffset macBeaconEndOffset).1 :=
        .copyFirst _ hb (by decide)
      obtain ⟨-, hbytes, hb', -, haddr'⟩ := h.copyFirst_ram macBeaconStartOffset
        macBeaconEndOffset hi hb (by decide) (by decide)
        (by unfold macBeaconEndOffset; omega) rfl
      have hpacket := (hhead.loads hbytes).2.2
      dsimp only
      split
      · exact .none hk
      · refine .none (hk.trans (.beaconSetup hb' (haddr' haddr) env ?_))
        rw [hpacket]
        unfold u16 sizeofTxHeader
        omega
    · by_cases hfits : f.body.length ≤ macTxbufEndOffset
      · obtain ⟨hret, hbytes, hb', hmonitor, haddr'⟩ := h.copyFirst_ram
          macTxbufStartOffset macTxbufEndOffset hi hb (by decide)
          (by decide) hfits rfl
        have hstatus := (hhead.loads hbytes).1
        generalize s.txArm9QueueCopyFirstData macTxbufStartOffset macTxbufEndOffset = r at *
        simp only [if_neg hret]
        have hm : r.1.nextFrame.monitor = s.nextFrame.monitor := by
          rw [Arm7Tx.nextFrame, Arm7Tx.nextFrame, hmonitor]
        split
        · have hs := StartsTransfer.byCmd (s := r.1.nextFrame.setRetries) hb' env
          exact .next hs.busy hs.one (hs.monitor.trans hm) (hs.txStatus.trans hstatus)
            (hs.beacon (haddr' haddr))
        · have hs := StartsTransfer.byLoc3 (s := r.1.nextFrame) hb' env
          exact .next hs.busy hs.one (hs.monitor.trans hm) (hs.txStatus.trans hstatus)
            (hs.beacon (haddr' haddr))
      · obtain ⟨hk, hret⟩ := KeepsTransfer.copyFirst_rejected macTxbufStartOffset hi hfits
        simp only [hret, if_true]
        exact .none hk

end

variable {s : Arm7Tx} {e : Nat} {q : List (Frame txGeometry)}

theorem KeepsTransfer.touch (s : Arm7Tx) (idx size : Nat) : KeepsTransfer s (s.touch idx size) :=
  ⟨rfl, rfl, rfl, rfl, id⟩

theorem KeepsTransfer.skipWrap (s : Arm7Tx) : KeepsTransfer s s.skipWrap := by
  unfold Arm7Tx.skipWrap
  split
  · exact ⟨rfl, rfl, rfl, rfl, id⟩
  · exact .refl s

theorem KeepsTransfer.flushStarts {s' s'' : Arm7Tx} (h : KeepsTransfer s s')
    (h' : FlushStarts s' s'') : FlushStarts s s'' := by
  cases h' with
  | none h' => exact .none (h.trans h')
  | next hbusy hone hmonitor hstatus hbeacon =>
    refine .next hbusy hone ?_ hstatus hbeacon
    rw [hmonitor, Arm7Tx.nextFrame, Arm7Tx.nextFrame, h.monitor]

/-- **A flush starts at most one transfer**, of a frame whose status is `0`. -/
theorem Flagged.flushStarts (h : Flagged s.ring e q) (hb : s.busy = false) (haddr : s.BeaconAddr)
    (env : Arm7Env) : FlushStarts s (s.txArm9QueueFlush env).1 := by
  have hcap := h.ring.view.reader_le
  have hcap' := h.ring.skipWrap.view.reader_le
  rw [txGeometry_cap] at hcap hcap'
  unfold Arm7Tx.txArm9QueueFlush
  simp only [Arm7Tx.touch_of_le hcap, Arm7Tx.touch_of_le hcap']
  split
  · exact .none (.refl s)
  · have hskip := KeepsTransfer.skipWrap s
    refine hskip.flushStarts ?_
    rcases h.ring.headStatus_cases with ⟨h0, -⟩ | ⟨f, fs, rfl, htag, hi⟩
    · have h0' : load32 s.skipWrap.ring.txbufData s.skipWrap.ring.txbufRead = 0 := h0
      simp only [h0', if_true]
      exact .none (.refl _)
    · have htag' : load32 s.skipWrap.ring.txbufData s.skipWrap.ring.txbufRead = f.tag := htag
      simp only [htag', if_neg f.tag_ne_zero]
      exact h.ring.skipWrap.send_starts hi (h.flagged f (List.mem_cons_self ..)) (hskip.busy hb)
        (hskip.beacon haddr) env

/-! ## The invariant -/

/-- What holds as long as nothing that must not happen has happened. -/
structure TransferInv (s : Arm7Tx) : Prop where
  clean : s.monitor.Clean
  ring : RingFlagged s.ring
  beacon : s.BeaconAddr
  one : s.loc3Busy = false ∨ s.cmdBusy = false
  cmd_arm9 : s.cmdBusy = true → s.monitor.fromArm7 = false
  busy_status : s.busy = true → s.monitor.fromArm7 = false → s.txStatus ≠ 5
  failed_status : s.txStatus = 5 → s.monitor.fromArm7 = false →
    s.monitor.failedCmd = some s.monitor.frames
  failed_le : ∀ n, s.monitor.failedCmd = some n → n ≤ s.monitor.frames
  failed_lt : s.monitor.fromArm7 = true → s.monitor.failedCmd ≠ some s.monitor.frames

theorem TransferInv.init : TransferInv .init where
  clean := ⟨rfl, rfl, rfl⟩
  ring := .init
  beacon := .inl rfl
  one := .inl rfl
  cmd_arm9 h := nomatch h
  busy_status h := nomatch h
  failed_status h := nomatch h
  failed_le _ h := nomatch h
  failed_lt h := nomatch h

namespace TransferInv

/-- Without a LOC3 transfer, a frame of the ARM7 does no harm exactly when no CMD transfer is
busy. -/
theorem txRaw_clean_iff (h : TransferInv s) (hloc3 : s.loc3Busy = false) (data : Mem)
    (datalen : Nat) : (s.txRaw data datalen).monitor.Clean ↔ s.cmdBusy = false := by
  constructor
  · intro hclean
    have hc := hclean.cancelled
    simp only [Arm7Tx.txRaw, Arm7Tx.startLoc3, Arm7Tx.macWrite] at hc
    split at hc <;> exact (Bool.or_eq_false_iff.mp hc).2
  · intro hcmd
    have hb : s.busy = false := Bool.or_eq_false_iff.mpr ⟨hloc3, hcmd⟩
    obtain ⟨h1, h2, h3⟩ := h.clean
    simp only [Arm7Tx.txRaw, Arm7Tx.startLoc3, Arm7Tx.macWrite, Arm7Tx.observe_of_not_busy hb]
    split <;> exact ⟨h1, by dsimp only; rw [h2, hcmd]; rfl, h3⟩

theorem txRaw (h : TransferInv s) (hb : s.busy = false) (data : Mem) (datalen : Nat) :
    TransferInv (s.txRaw data datalen) := by
  obtain ⟨hloc3, hcmd⟩ := Arm7Tx.busy_eq_false hb
  have hclean := (h.txRaw_clean_iff hloc3 data datalen).mpr hcmd
  have hle := h.failed_le
  have hmonitor : (s.txRaw data datalen).monitor.failedCmd = s.monitor.failedCmd ∧
      (s.txRaw data datalen).monitor.frames = s.monitor.frames + 1 ∧
      (s.txRaw data datalen).monitor.fromArm7 = true ∧
      (s.txRaw data datalen).ring = s.ring ∧
      (s.txRaw data datalen).beaconChannelAddr = s.beaconChannelAddr := by
    unfold Arm7Tx.txRaw Arm7Tx.startLoc3 Arm7Tx.macWrite
    dsimp only
    split <;> exact ⟨rfl, rfl, rfl, rfl, rfl⟩
  obtain ⟨hfailed, hframes, hfrom, hr, haddr⟩ := hmonitor
  refine ⟨hclean, hr ▸ h.ring, ?_, .inr rfl, nofun, ?_, ?_, ?_, ?_⟩
  · rw [Arm7Tx.BeaconAddr, haddr]
    exact h.beacon
  · intro _ hf
    rw [hfrom] at hf
    cases hf
  · intro _ hf
    rw [hfrom] at hf
    cases hf
  · intro n hn
    rw [hframes]
    exact (hle n (hfailed ▸ hn)).trans (Nat.le_succ _)
  · intro _ hf
    rw [hfailed, hframes] at hf
    exact absurd (hle _ hf) (Nat.not_succ_le_self _)

/-- The queue of the ARM7 is not part of the invariant. -/
theorem setTxQueue (h : TransferInv s) (txQueue : Mem) (txQueueLen : Nat) :
    TransferInv { s with txQueue, txQueueLen } :=
  ⟨h.clean, h.ring, h.beacon, h.one, h.cmd_arm9, h.busy_status, h.failed_status, h.failed_le,
    h.failed_lt⟩

theorem txArm7QueueFlush (h : TransferInv s) (hb : s.busy = false) :
    TransferInv s.txArm7QueueFlush :=
  (h.txRaw hb s.txQueue s.txQueueLen).setTxQueue _ 0

theorem txArm7QueueSetEnqueuedData (h : TransferInv s) (data : Mem) (datalen : Nat) :
    TransferInv (s.txArm7QueueSetEnqueuedData data datalen).1 := by
  unfold Arm7Tx.txArm7QueueSetEnqueuedData
  dsimp only
  split
  · exact h
  · exact h.setTxQueue _ _

theorem txArm7QueueAdd (h : TransferInv s) (hcmd : s.cmdBusy = false) (data : Mem)
    (datalen : Nat) : TransferInv (s.txArm7QueueAdd data datalen).1 := by
  unfold Arm7Tx.txArm7QueueAdd
  split
  · rename_i hloc3
    have hb : s.busy = false :=
      Bool.or_eq_false_iff.mpr ⟨(Bool.not_eq_true' _).mp hloc3, hcmd⟩
    split
    · exact h.txRaw hb data datalen
    · exact (h.txArm7QueueFlush hb).txArm7QueueSetEnqueuedData data datalen
  · split
    · exact h.txArm7QueueSetEnqueuedData data datalen
    · exact h

/-- A frame added during a CMD transfer cancels it. -/
theorem not_clean_txArm7QueueAdd (h : TransferInv s) (hcmd : s.cmdBusy = true) (data : Mem)
    (datalen : Nat) : ¬ (s.txArm7QueueAdd data datalen).1.monitor.Clean := by
  have hloc3 : s.loc3Busy = false := h.one.resolve_right (by rw [hcmd]; decide)
  have hraw (d : Mem) (n : Nat) : ¬ (s.txRaw d n).monitor.Clean := by
    rw [h.txRaw_clean_iff hloc3, hcmd]
    decide
  have hadd : ¬ (s.txArm7QueueFlush.txArm7QueueSetEnqueuedData data datalen).1.monitor.Clean := by
    unfold Arm7Tx.txArm7QueueSetEnqueuedData
    dsimp only
    split <;> exact hraw _ _
  simp only [Arm7Tx.txArm7QueueAdd, hloc3, Bool.not_false, if_true]
  split
  · exact hraw data datalen
  · exact hadd

theorem txAllQueueFlush (h : TransferInv s) (env : Arm7Env) :
    TransferInv (s.txAllQueueFlush env) := by
  unfold Arm7Tx.txAllQueueFlush
  split
  · exact h
  · rename_i hb
    have hb : s.busy = false := (Bool.not_eq_true _).mp hb
    split
    · exact h.txArm7QueueFlush hb
    · obtain ⟨e, q, hring⟩ := h.ring
      have hring' := h.ring.flush env
      cases hring.flushStarts hb h.beacon env with
      | none hk =>
        have hb' := Arm7Tx.busy_eq_false (hk.busy hb)
        refine ⟨hk.monitor ▸ h.clean, hring', hk.beacon h.beacon, .inl hb'.1, ?_, ?_, ?_, ?_, ?_⟩
        · exact fun hc => absurd (hc.symm.trans hb'.2) (by decide)
        · exact fun hc => absurd (hc.symm.trans (hk.busy hb)) (by decide)
        · rw [hk.monitor, hk.txStatus]
          exact h.failed_status
        · rw [hk.monitor]
          exact h.failed_le
        · rw [hk.monitor]
          exact h.failed_lt
      | next hbusy hone hmonitor hstatus hbeacon =>
        refine ⟨?_, hring', hbeacon, hone, ?_, ?_, ?_, ?_, ?_⟩
        · rw [hmonitor]
          exact ⟨h.clean.rewritten, h.clean.cancelled, h.clean.retriedOther⟩
        · exact fun _ => by rw [hmonitor]; rfl
        · exact fun _ _ => by rw [hstatus]; decide
        · intro hs
          rw [hstatus] at hs
          cases hs
        · intro n hn
          rw [hmonitor] at hn ⊢
          exact (h.failed_le n hn).trans (Nat.le_succ _)
        · intro hf
          rw [hmonitor] at hf
          cases hf

/-! ## The interrupt -/

/-- A retry leaves the buffer to a CMD transfer. -/
theorem retry (h : TransferInv s) (hstatus : s.txStatus = 5) (hfrom : s.monitor.fromArm7 = false)
    (env : Arm7Env) (txRetrylimit : Nat) {monitor : TxMonitor} (hm : monitor = s.monitor) :
    TransferInv ((({ s with txRetrylimit, monitor }).poke
      (macTxbufStartOffset + hdrTxStatus) 0).txArm9QueueFlushByCmd env) := by
  subst hm
  have hb : s.busy = false :=
    (Bool.not_eq_true _).mp fun hbusy => h.busy_status hbusy hfrom hstatus
  generalize ht : ({ s with txRetrylimit }).poke (macTxbufStartOffset + hdrTxStatus) 0 = t
  have hmonitor : t.monitor = s.monitor := by
    rw [← ht]
    exact Arm7Tx.observe_of_not_busy (s := { s with txRetrylimit }) hb _
  have htstatus : t.txStatus = 0 := by
    rw [← ht]
    exact load16_store16 (by decide)
  have hs := StartsTransfer.byCmd (s := t) (by rw [← ht]; exact hb) env
  have hr : (t.txArm9QueueFlushByCmd env).ring = s.ring := by
    rw [(KeepsQueue.txArm9QueueFlushByCmd env t).ring, ← ht]
    rfl
  refine ⟨?_, hr ▸ h.ring, hs.beacon (by rw [← ht]; exact h.beacon), hs.one, ?_, ?_, ?_, ?_, ?_⟩
  · rw [hs.monitor, hmonitor]
    exact h.clean
  · exact fun _ => by rw [hs.monitor, hmonitor, hfrom]
  · exact fun _ _ => by rw [hs.txStatus, htstatus]; decide
  · intro hc
    rw [hs.txStatus, htstatus] at hc
    cases hc
  · rw [hs.monitor, hmonitor]
    exact h.failed_le
  · rw [hs.monitor, hmonitor]
    exact h.failed_lt

theorem intrMultiplayCmdDone (h : TransferInv s) (hev : ¬ s.LooksFailed) (env : Arm7Env) :
    TransferInv (s.intrMultiplayCmdDone env) := by
  unfold Arm7Tx.intrMultiplayCmdDone
  split
  · rename_i hstatus
    dsimp only
    split
    · rename_i hretries
      have hfrom : s.monitor.fromArm7 = false :=
        (Bool.not_eq_true _).mp fun hf => hev ⟨hf, hstatus, hretries⟩
      have hsame : decide (s.monitor.failedCmd ≠ some s.monitor.frames) = false :=
        decide_eq_false (not_not_intro (h.failed_status hstatus hfrom))
      exact h.retry hstatus hfrom env _ (by rw [hsame, Bool.or_false])
    · exact h
  · exact h

/-- The retry of a frame of the ARM7 is not one of the CMD frame that failed. -/
theorem not_clean_intrMultiplayCmdDone (h : TransferInv s) (hev : s.LooksFailed) (env : Arm7Env) :
    ¬ (s.intrMultiplayCmdDone env).monitor.Clean := by
  obtain ⟨hfrom, hstatus, hretries⟩ := hev
  have hother : decide (s.monitor.failedCmd ≠ some s.monitor.frames) = true :=
    decide_eq_true (h.failed_lt hfrom)
  intro hclean
  have hr := hclean.retriedOther
  unfold Arm7Tx.intrMultiplayCmdDone at hr
  simp only [show load16 s.ram (macTxbufStartOffset + hdrTxStatus) = 5 from hstatus, if_true,
    if_pos (show 0 < s.txRetrylimit &&& 0xFF from hretries)] at hr
  have hr : (s.monitor.retriedOther || decide (s.monitor.failedCmd ≠ some s.monitor.frames)) =
    false := hr
  rw [hother, Bool.or_true] at hr
  cases hr

/-! ## The hardware -/

theorem loc3Completes (h : TransferInv s) (ok : Bool) : TransferInv (s.loc3Completes ok) := by
  unfold Arm7Tx.loc3Completes
  split
  · rename_i hloc3
    have hcmd : s.cmdBusy = false := h.one.resolve_left (by rw [hloc3]; decide)
    have hstatus : load16 (s.ram.store16 (macTxbufStartOffset + hdrTxStatus) (if ok then 1 else 3))
        (macTxbufStartOffset + hdrTxStatus) = if ok then 1 else 3 :=
      load16_store16 (by split <;> decide)
    refine ⟨h.clean, h.ring, h.beacon, .inl rfl, h.cmd_arm9, ?_, ?_, h.failed_le, h.failed_lt⟩
    · exact fun hb => absurd (hb.symm.trans hcmd) (by decide)
    · intro h5
      have h5 : (if ok then 1 else 3) = 5 := hstatus.symm.trans h5
      cases ok <;> cases h5
  · exact h

theorem cmdCompletes (h : TransferInv s) (ok : Bool) : TransferInv (s.cmdCompletes ok) := by
  unfold Arm7Tx.cmdCompletes
  split
  · rename_i hcmd
    have hfrom := h.cmd_arm9 hcmd
    have hloc3 : s.loc3Busy = false := h.one.resolve_right (by rw [hcmd]; decide)
    have hidle : ({ s with cmdBusy := false }).busy = false := Bool.or_eq_false_iff.mpr ⟨hloc3, rfl⟩
    cases ok with
    | true =>
      have hstatus : load16 (s.ram.store16 (macTxbufStartOffset + hdrTxStatus) 1)
          (macTxbufStartOffset + hdrTxStatus) = 1 := load16_store16 (by decide)
      refine ⟨h.clean, h.ring, h.beacon, .inr rfl, nofun, ?_, ?_, h.failed_le, h.failed_lt⟩
      · exact fun hb => absurd (hb.symm.trans hidle) (by decide)
      · exact fun h5 => absurd (hstatus.symm.trans h5) (by decide)
    | false =>
      refine ⟨⟨h.clean.rewritten, h.clean.cancelled, h.clean.retriedOther⟩, h.ring, h.beacon,
        .inr rfl, nofun, ?_, fun _ _ => rfl, ?_, ?_⟩
      · exact fun hb => absurd (hb.symm.trans hidle) (by decide)
      · exact fun n hn => (Option.some.inj hn).symm.le
      · exact fun hf => absurd (hf.symm.trans hfrom) (by decide)
  · exact h

end TransferInv

/-! ## The exact condition -/

/-- Nothing that must not happen happens in the step. -/
def StepClean (s : Arm7Tx) (ev : TransferEvent) : Prop := (transferStep s ev).monitor.Clean

/-- The ARM7 stays out of the CMD exchange. -/
def StepApart (s : Arm7Tx) : TransferEvent → Prop
  | .arm7QueueAdd _ _ _ => s.cmdBusy = false
  | .cmdDone _ => ¬ s.LooksFailed
  | _ => True

theorem TransferInv.step (h : TransferInv s) {ev : TransferEvent} (hev : StepApart s ev) :
    TransferInv (transferStep s ev) := by
  cases ev with
  | call env call hmode hobject =>
    exact ⟨h.clean, h.ring.call hmode hobject, h.beacon, h.one, h.cmd_arm9, h.busy_status,
      h.failed_status, h.failed_le, h.failed_lt⟩
  | arm7QueueAdd data datalen _ => exact h.txArm7QueueAdd hev data datalen
  | allQueueFlush env => exact h.txAllQueueFlush env
  | cmdDone env => exact h.intrMultiplayCmdDone hev env
  | loc3Completes ok => exact h.loc3Completes ok
  | cmdCompletes ok => exact h.cmdCompletes ok
  | replySwap =>
    exact ⟨h.clean, h.ring, h.beacon, h.one, h.cmd_arm9, h.busy_status, h.failed_status,
      h.failed_le, h.failed_lt⟩

theorem TransferInv.stepClean_iff (h : TransferInv s) (ev : TransferEvent) :
    StepClean s ev ↔ StepApart s ev := by
  refine ⟨fun hclean => ?_, fun hev => (h.step hev).clean⟩
  cases ev with
  | arm7QueueAdd data datalen hlen =>
    by_contra hcmd
    exact h.not_clean_txArm7QueueAdd ((Bool.not_eq_false _).mp hcmd) data datalen hclean
  | cmdDone env => exact fun hev => h.not_clean_intrMultiplayCmdDone hev env hclean
  | _ => trivial

/-- **The transfers are left alone exactly in the runs in which the ARM7 stays out of the CMD
exchange.** -/
theorem tx_transfers_clean_iff (evs : List TransferEvent) :
    Along transferStep StepClean .init evs ↔ Along transferStep StepApart .init evs :=
  along_iff TransferInv (fun _ _ h hev => h.step hev) (fun _ ev h => h.stepClean_iff ev)
    evs .init

/-- A CMD transfer is started, and the ARM7 adds a frame of 28 bytes meanwhile. -/
def txCmdInterrupted : List TransferEvent :=
  [.call (.zero 0) (.multiplayerHostCmdTxFrame [1, 2]) TxEnv.dsiMode_zero (by decide),
    .allQueueFlush .zero, .arm7QueueAdd (fun _ => 0) 28 (by decide)]

/-- The frame is written over the CMD frame, and the transfer is cancelled. -/
theorem txCmdInterrupted_disturbed : ¬ Along transferStep StepClean .init txCmdInterrupted ∧
    (run transferStep .init txCmdInterrupted).monitor.rewritten = true ∧
    (run transferStep .init txCmdInterrupted).monitor.cancelled = true := by
  have hrewritten : (run transferStep .init txCmdInterrupted).monitor.rewritten = true := by
    decide +kernel
  refine ⟨fun halong => ?_, hrewritten, by decide +kernel⟩
  have hclean : (run transferStep .init txCmdInterrupted).monitor.Clean := halong.2.2.1
  exact absurd (hrewritten.symm.trans hclean.rewritten) (by decide)

end Wifi
