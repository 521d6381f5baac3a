import DsWifi.Host.Update
import DsWifi.Infra.Run
import DsWifi.Tx.MacByte
import DsWifi.Tx.Transfers

/-!
# The beacon of a host

The information for clients is found in the beacon by its address in MAC RAM, which a beacon set-up
discovers. It is behind the TX buffer, so the frames of the ARM7 do not touch it, and the number of
players can be changed without the flag next to it.

* `KeepsBeacon` — what leaves the beacon and the flag in it alone
* `TxSound` — what holds of the transmitter in every run
-/

namespace Wifi

open Infra Infra.Mem

namespace Arm7Tx

/-- The information in the beacon, if there is one, is behind the TX buffer. -/
def InfoAddr (s : Arm7Tx) : Prop :=
  s.dswifiInformationAddr = 0 ∨
    macTxbufEndOffset ≤ s.dswifiInformationAddr ∧ s.dswifiInformationAddr + 2 < 2 ^ 16

/-- The frames of the ARM7 are no larger than its queue. -/
def QueueFits (s : Arm7Tx) : Prop := s.txQueueLen ≤ 2048

variable {s : Arm7Tx}

/-- The flag is a byte of MAC RAM. -/
theorem getBeaconAllowsConnections_eq (h : s.InfoAddr) :
    s.getBeaconAllowsConnections =
      if s.dswifiInformationAddr ≠ 0 ∧ s.txbufBeacon &&& txbufEnable ≠ 0 then
        (s.ram (s.dswifiInformationAddr + 2)).toNat
      else 0 := by
  unfold getBeaconAllowsConnections
  rcases h with h0 | ⟨-, hlt⟩
  · simp [h0]
  · by_cases h0 : s.dswifiInformationAddr = 0
    · simp [h0]
    · rw [macReadByte_eq hlt]
      simp [h0]

end Arm7Tx

/-! ## What leaves the beacon alone -/

/-- The step does not touch the beacon, up to the number of players in it. -/
structure KeepsBeacon (s s' : Arm7Tx) : Prop where
  ring : s'.ring = s.ring
  addr : s'.dswifiInformationAddr = s.dswifiInformationAddr
  txbufBeacon : s'.txbufBeacon = s.txbufBeacon
  queueFits : s.QueueFits → s'.QueueFits
  allows : macTxbufEndOffset ≤ s.dswifiInformationAddr → s.dswifiInformationAddr + 2 < 2 ^ 16 →
    s.QueueFits → s'.ram (s.dswifiInformationAddr + 2) = s.ram (s.dswifiInformationAddr + 2)

namespace KeepsBeacon

variable {s s' s'' : Arm7Tx}

theorem refl (s : Arm7Tx) : KeepsBeacon s s := ⟨rfl, rfl, rfl, id, fun _ _ _ => rfl⟩

theorem infoAddr (h : KeepsBeacon s s') (hs : s.InfoAddr) : s'.InfoAddr := by
  rw [Arm7Tx.InfoAddr, h.addr]
  exact hs

theorem trans (h : KeepsBeacon s s') (h' : KeepsBeacon s' s'') : KeepsBeacon s s'' where
  ring := h'.ring.trans h.ring
  addr := h'.addr.trans h.addr
  txbufBeacon := h'.txbufBeacon.trans h.txbufBeacon
  queueFits := h'.queueFits ∘ h.queueFits
  allows hle hlt hq := by
    have h2 := h'.allows (h.addr ▸ hle) (h.addr ▸ hlt) (h.queueFits hq)
    rw [h.addr] at h2
    exact h2.trans (h.allows hle hlt hq)

/-- The flag in the beacon is the same. -/
theorem getBeaconAllowsConnections (h : KeepsBeacon s s') (hi : s.InfoAddr) (hq : s.QueueFits) :
    s'.getBeaconAllowsConnections = s.getBeaconAllowsConnections := by
  rw [Arm7Tx.getBeaconAllowsConnections_eq (h.infoAddr hi),
    Arm7Tx.getBeaconAllowsConnections_eq hi, h.addr, h.txbufBeacon]
  rcases hi with h0 | ⟨hle, hlt⟩
  · simp [h0]
  · rw [h.allows hle hlt hq]

/-- A frame written to the TX buffer. -/
theorem macWrite (src : Mem) {length : Nat} (hlen : length ≤ 2048) :
    KeepsBeacon s (s.macWrite src 0 macTxbufStartOffset length) := by
  unfold Arm7Tx.macWrite
  split
  · exact refl s
  · refine ⟨rfl, rfl, rfl, id, fun hle _ _ => ?_⟩
    show s.ram.storeBytes macTxbufStartOffset _ (s.dswifiInformationAddr + 2) = _
    refine storeBytes_of_le ?_
    rw [length_loadBytes]
    unfold macTxbufStartOffset
    unfold macTxbufEndOffset at hle
    omega

theorem txRaw (data : Mem) {datalen : Nat} (hlen : datalen ≤ 2048) :
    KeepsBeacon s (s.txRaw data datalen) := by
  have hround : roundUp32 datalen ≤ 2048 := by
    rw [roundUp32_eq (by omega)]
    unfold TaggedRing.roundUp
    omega
  obtain ⟨h1, h2, h3, h4, h5⟩ := macWrite (s := s) data hround
  exact ⟨h1, h2, h3, h4, h5⟩

theorem loc3Completes (s : Arm7Tx) (ok : Bool) : KeepsBeacon s (s.loc3Completes ok) := by
  unfold Arm7Tx.loc3Completes
  split
  · refine ⟨rfl, rfl, rfl, id, fun hle _ _ => ?_⟩
    show s.ram.store16 (macTxbufStartOffset + hdrTxStatus) (if ok then 1 else 3)
      (s.dswifiInformationAddr + 2) = _
    rw [store16]
    refine storeBytes_of_le ?_
    rw [length_halfBytes]
    unfold macTxbufStartOffset hdrTxStatus
    unfold macTxbufEndOffset at hle
    omega
  · exact refl s

theorem mayComplete (s : Arm7Tx) (ended : Option Bool) : KeepsBeacon s (s.mayComplete ended) := by
  cases ended with
  | none => exact refl s
  | some ok => exact loc3Completes s ok

theorem txArm7QueueFlush (hq : s.QueueFits) : KeepsBeacon s s.txArm7QueueFlush := by
  obtain ⟨h1, h2, h3, -, h5⟩ := txRaw (s := s) s.txQueue hq
  exact ⟨h1, h2, h3, fun _ => Nat.zero_le _, h5⟩

theorem txArm7QueueSetEnqueuedData (data : Mem) {datalen : Nat} (hlen : datalen ≤ 2048) :
    KeepsBeacon s (s.txArm7QueueSetEnqueuedData data datalen).1 := by
  unfold Arm7Tx.txArm7QueueSetEnqueuedData
  dsimp only
  split
  · exact refl s
  · refine ⟨rfl, rfl, rfl, fun _ => ?_, fun _ _ _ => rfl⟩
    show datalen % 2 ^ 16 ≤ 2048
    omega

theorem txArm7QueueAdd (data : Mem) {datalen : Nat} (hlen : datalen ≤ 2048) (hq : s.QueueFits) :
    KeepsBeacon s (s.txArm7QueueAdd data datalen).1 := by
  unfold Arm7Tx.txArm7QueueAdd
  split
  · split
    · exact txRaw data hlen
    · exact (txArm7QueueFlush hq).trans (txArm7QueueSetEnqueuedData data hlen)
  · split
    · exact txArm7QueueSetEnqueuedData data hlen
    · exact refl s

/-- The number of players is another byte. -/
theorem setBeaconCurrentPlayers (hi : s.InfoAddr) {num : Nat} (hnum : num < 2 ^ 8) :
    KeepsBeacon s (s.setBeaconCurrentPlayers num) := by
  unfold Arm7Tx.setBeaconCurrentPlayers
  split
  · exact refl s
  · rename_i h0
    split
    · have hlt := (hi.resolve_left h0).2
      rw [Arm7Tx.macWriteByte_eq (by omega) hnum]
      refine ⟨rfl, rfl, rfl, id, fun _ _ _ => ?_⟩
      exact Function.update_of_ne (by omega) _ s.ram
    · exact refl s

end KeepsBeacon

/-! ## Where the information is -/

/-- The step keeps the information inside the beacon, and the queue of the ARM7 as it is. It starts
no frame of the ARM7. -/
structure KeepsInfo (s s' : Arm7Tx) : Prop where
  txQueue : s'.txQueue = s.txQueue
  txQueueLen : s'.txQueueLen = s.txQueueLen
  started : s'.started = s.started
  infoAddr : s.InfoAddr → s'.InfoAddr

namespace KeepsInfo

variable {s s' s'' : Arm7Tx}

theorem refl (s : Arm7Tx) : KeepsInfo s s := ⟨rfl, rfl, rfl, id⟩

theorem trans (h : KeepsInfo s s') (h' : KeepsInfo s' s'') : KeepsInfo s s'' :=
  ⟨h'.txQueue.trans h.txQueue, h'.txQueueLen.trans h.txQueueLen, h'.started.trans h.started,
    h'.infoAddr ∘ h.infoAddr⟩

theorem macWriteByte (s : Arm7Tx) (address value : Nat) :
    KeepsInfo s (s.macWriteByte address value) := by
  unfold Arm7Tx.macWriteByte
  dsimp only
  split <;> exact ⟨rfl, rfl, rfl, id⟩

theorem setBeaconChannel (s : Arm7Tx) (channel : Nat) :
    KeepsInfo s (s.setBeaconChannel channel) := by
  unfold Arm7Tx.setBeaconChannel
  split
  · exact refl s
  · split
    · exact macWriteByte _ _ _
    · exact refl s

theorem setBeaconCurrentPlayers (s : Arm7Tx) (num : Nat) :
    KeepsInfo s (s.setBeaconCurrentPlayers num) := by
  unfold Arm7Tx.setBeaconCurrentPlayers
  split
  · exact refl s
  · split
    · exact macWriteByte _ _ _
    · exact refl s

theorem setBeaconAllowsConnections (s : Arm7Tx) (allows : Nat) :
    KeepsInfo s (s.setBeaconAllowsConnections allows) := by
  unfold Arm7Tx.setBeaconAllowsConnections
  split
  · exact refl s
  · split
    · exact macWriteByte _ _ _
    · exact refl s

/-- The elements of a beacon that fits in its buffer. -/
theorem beaconElements (data : List UInt8) {len : Nat} (hlen : len ≤ 0x1000) (fuel i : Nat)
    (s : Arm7Tx) : KeepsInfo s (s.beaconElements data len fuel i) := by
  refine Arm7Tx.beaconElements_rel refl (fun _ _ _ => trans) (fun s s' h => ?_) data fuel i s
  cases h with
  | channel => exact ⟨rfl, rfl, rfl, id⟩
  | tim => exact ⟨rfl, rfl, rfl, id⟩
  | dswifi j hj =>
    refine ⟨rfl, rfl, rfl, fun _ => .inr ?_⟩
    simp only [u16, macBeaconStartOffset, macTxbufEndOffset]
    omega
  | other => exact refl s

theorem beaconSetup (s : Arm7Tx) (env : Arm7Env)
    (hlen : load16 s.ram (macBeaconStartOffset + hdrTxIeeeFrameSize) ≤ 500) :
    KeepsInfo s (s.beaconSetup env) := by
  unfold Arm7Tx.beaconSetup
  dsimp only
  split
  · exact ⟨rfl, rfl, rfl, id⟩
  · have hle :
        hdrTxSize + load16 s.ram (macBeaconStartOffset + hdrTxIeeeFrameSize) - 4 ≤ 0x1000 := by
      unfold hdrTxSize
      omega
    have hlast (t : Arm7Tx) : KeepsInfo t (t.enableBeacon.setBeaconChannel env.curChannel) :=
      (show KeepsInfo t t.enableBeacon from ⟨rfl, rfl, rfl, id⟩).trans (setBeaconChannel _ _)
    exact (beaconElements _ hle _ _ s).trans (hlast _)

theorem macWrite (s : Arm7Tx) (src : Mem) (i base length : Nat) :
    KeepsInfo s (s.macWrite src i base length) := by
  unfold Arm7Tx.macWrite
  split <;> exact ⟨rfl, rfl, rfl, id⟩

theorem copyFirst (s : Arm7Tx) (base bufferEnd : Nat) :
    KeepsInfo s (s.txArm9QueueCopyFirstData base bufferEnd).1 := by
  unfold Arm7Tx.txArm9QueueCopyFirstData
  dsimp only
  split
  · obtain ⟨h1, h2, h3, h4⟩ := macWrite
      ((s.touch s.ring.txbufRead 4).touch (u32 (s.ring.txbufRead + 4))
        (2 * (((load32 s.ring.txbufData s.ring.txbufRead &&& wflagSendSizeMask) + 1) / 2)))
      s.ring.txbufData (u32 (s.ring.txbufRead + 4)) base
      (load32 s.ring.txbufData s.ring.txbufRead &&& wflagSendSizeMask)
    exact ⟨h1, h2, h3, h4⟩
  · exact ⟨rfl, rfl, rfl, id⟩

/-- The transfer is one of a frame of the ARM9. -/
theorem startLoc3 (hframe : s.monitor.fromArm7 = false) : KeepsInfo s s.startLoc3 where
  txQueue := rfl
  txQueueLen := rfl
  started := by
    rw [Arm7Tx.startLoc3, hframe]
    rfl
  infoAddr := id

theorem poke (s : Arm7Tx) (addr value : Nat) : KeepsInfo s (s.poke addr value) :=
  ⟨rfl, rfl, rfl, id⟩

theorem txArm9QueueFlushByLoc3 (hframe : s.monitor.fromArm7 = false) (env : Arm7Env) :
    KeepsInfo s (s.txArm9QueueFlushByLoc3 env) := by
  unfold Arm7Tx.txArm9QueueFlushByLoc3
  dsimp only
  split <;> split
  · exact (((poke s _ _).trans (poke _ _ _)).trans (poke _ _ _)).trans (startLoc3 hframe)
  · exact (poke s _ _).trans (startLoc3 hframe)
  · exact ((poke s _ _).trans (poke _ _ _)).trans (startLoc3 hframe)
  · exact startLoc3 hframe

theorem intrMultiplayCmdDone (s : Arm7Tx) (env : Arm7Env) :
    KeepsInfo s (s.intrMultiplayCmdDone env) := by
  unfold Arm7Tx.intrMultiplayCmdDone
  split
  · dsimp only
    split <;> exact ⟨rfl, rfl, rfl, id⟩
  · exact refl s

theorem cmdCompletes (s : Arm7Tx) (ok : Bool) : KeepsInfo s (s.cmdCompletes ok) := by
  unfold Arm7Tx.cmdCompletes
  split <;> exact ⟨rfl, rfl, rfl, id⟩

variable {e : Nat} {q fs : List (TaggedRing.Frame txGeometry)} {f : TaggedRing.Frame txGeometry}

/-- Only a beacon moves the information. -/
theorem send (h : TxInv s.ring e (f :: fs))
    (hi : TaggedRing.View.HeadAt txGeometry s.ring.txbufData s.ring.txbufRead f s.ring.txbufRead)
    (hflag : f.tag ≠ f.body.length) (hb : s.busy = false) (env : Arm7Env) :
    KeepsInfo s (s.txArm9QueueSend env f.tag).1 := by
  have hq := h.queued f (List.mem_cons_self ..)
  unfold Arm7Tx.txArm9QueueSend
  split
  · unfold Arm7Tx.txArm9QueueFlushByReply
    dsimp only
    split
    · exact copyFirst s _ _
    · exact (copyFirst s _ _).trans ⟨rfl, rfl, rfl, id⟩
  · split
    · rename_i hbeacon
      have hlen := hq.le_of_beacon hbeacon
      obtain ⟨-, hbytes, -, -, -⟩ := h.copyFirst_ram macBeaconStartOffset macBeaconEndOffset hi hb
        (by decide) (by decide) (by unfold macBeaconEndOffset; omega) rfl
      have hpacket := ((hq.headed hflag).loads hbytes).2.2
      dsimp only
      split
      · exact copyFirst s _ _
      · refine (copyFirst s _ _).trans (beaconSetup _ env ?_)
        rw [hpacket]
        unfold u16 sizeofTxHeader
        omega
    · dsimp only
      split
      · exact copyFirst s _ _
      · split
        · have hnext (t : Arm7Tx) :
              KeepsInfo t (t.nextFrame.setRetries.txArm9QueueFlushByCmd env) := ⟨rfl, rfl, rfl, id⟩
          exact (copyFirst s _ _).trans (hnext _)
        · have hnext (t : Arm7Tx) : KeepsInfo t (t.nextFrame.txArm9QueueFlushByLoc3 env) :=
            (show KeepsInfo t t.nextFrame from ⟨rfl, rfl, rfl, id⟩).trans
              (txArm9QueueFlushByLoc3 rfl env)
          exact (copyFirst s _ _).trans (hnext _)

theorem flush (h : Flagged s.ring e q) (hb : s.busy = false) (env : Arm7Env) :
    KeepsInfo s (s.txArm9QueueFlush env).1 := by
  have hcap := h.ring.view.reader_le
  have hcap' := h.ring.skipWrap.view.reader_le
  rw [txGeometry_cap] at hcap hcap'
  have hskip : KeepsInfo s s.skipWrap := by
    unfold Arm7Tx.skipWrap
    split <;> exact ⟨rfl, rfl, rfl, id⟩
  have hbskip : s.skipWrap.busy = false := by
    unfold Arm7Tx.skipWrap
    split <;> exact hb
  unfold Arm7Tx.txArm9QueueFlush
  simp only [Arm7Tx.touch_of_le hcap, Arm7Tx.touch_of_le hcap']
  split
  · exact refl s
  · rcases h.ring.headStatus_cases with ⟨h0, -⟩ | ⟨f, fs, rfl, htag, hi⟩
    · have h0' : load32 s.skipWrap.ring.txbufData s.skipWrap.ring.txbufRead = 0 := h0
      simp only [h0', if_true]
      exact hskip
    · have htag' : load32 s.skipWrap.ring.txbufData s.skipWrap.ring.txbufRead = f.tag := htag
      simp only [htag', if_neg f.tag_ne_zero]
      exact hskip.trans (send h.ring.skipWrap hi (h.flagged f (List.mem_cons_self ..)) hbskip env)

end KeepsInfo

/-! ## The transmitter of a host -/

theorem KeepsQueue.setBeaconCurrentPlayers (s : Arm7Tx) (num : Nat) :
    KeepsQueue s (s.setBeaconCurrentPlayers num) := by
  unfold Arm7Tx.setBeaconCurrentPlayers
  split
  · exact refl s
  · split
    · exact macWriteByte _ _ _
    · exact refl s

theorem KeepsQueue.setBeaconAllowsConnections (s : Arm7Tx) (allows : Nat) :
    KeepsQueue s (s.setBeaconAllowsConnections allows) := by
  unfold Arm7Tx.setBeaconAllowsConnections
  split
  · exact refl s
  · split
    · exact macWriteByte _ _ _
    · exact refl s

/-- The ring, the beacon and the queue of the ARM7 are in order. -/
structure TxSound (s : Arm7Tx) : Prop where
  ring : RingFlagged s.ring
  infoAddr : s.InfoAddr
  queueFits : s.QueueFits

namespace TxSound

variable {s s' : Arm7Tx}

theorem init : TxSound .init := ⟨.init, .inl rfl, Nat.zero_le _⟩

theorem keepsBeacon (h : TxSound s) (hk : KeepsBeacon s s') : TxSound s' :=
  ⟨hk.ring ▸ h.ring, hk.infoAddr h.infoAddr, hk.queueFits h.queueFits⟩

theorem keepsInfo (h : TxSound s) (hk : KeepsInfo s s') (hring : s'.ring = s.ring) : TxSound s' :=
  ⟨hring ▸ h.ring, hk.infoAddr h.infoAddr, by
    rw [Arm7Tx.QueueFits, hk.txQueueLen]
    exact h.queueFits⟩

theorem setBeaconCurrentPlayers (h : TxSound s) (num : Nat) :
    TxSound (s.setBeaconCurrentPlayers num) :=
  h.keepsInfo (.setBeaconCurrentPlayers s num) (KeepsQueue.setBeaconCurrentPlayers s num).ring

theorem setBeaconAllowsConnections (h : TxSound s) (allows : Nat) :
    TxSound (s.setBeaconAllowsConnections allows) :=
  h.keepsInfo (.setBeaconAllowsConnections s allows)
    (KeepsQueue.setBeaconAllowsConnections s allows).ring

theorem setBeaconChannel (h : TxSound s) (channel : Nat) : TxSound (s.setBeaconChannel channel) :=
  h.keepsInfo (.setBeaconChannel s channel) (KeepsQueue.setBeaconChannel s channel).ring

theorem intrMultiplayCmdDone (h : TxSound s) (env : Arm7Env) :
    TxSound (s.intrMultiplayCmdDone env) :=
  h.keepsInfo (.intrMultiplayCmdDone s env) (KeepsQueue.intrMultiplayCmdDone s env).ring

theorem txAllQueueFlush (h : TxSound s) (env : Arm7Env) : TxSound (s.txAllQueueFlush env) := by
  unfold Arm7Tx.txAllQueueFlush
  split
  · exact h
  · rename_i hb
    split
    · exact h.keepsBeacon (.txArm7QueueFlush h.queueFits)
    · obtain ⟨e, q, hring⟩ := h.ring
      have hk := KeepsInfo.flush hring ((Bool.not_eq_true _).mp hb) env
      refine ⟨h.ring.flush env, hk.infoAddr h.infoAddr, ?_⟩
      rw [Arm7Tx.QueueFits, hk.txQueueLen]
      exact h.queueFits

theorem cmdCompletes (h : TxSound s) (ok : Bool) : TxSound (s.cmdCompletes ok) :=
  h.keepsInfo (.cmdCompletes s ok) (KeepsQueue.cmdCompletes s ok).ring

end TxSound

end Wifi
