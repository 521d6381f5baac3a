import DsWifi.Beacon.RoundTrip

/-!
# What is on the air

A beacon that has been set up stays in its buffer until the next set-up. The frames of the TX buffer
are in front of it, so nothing but the functions of the beacon changes what is on the air.

* `Announces.keepsAir` — what keeps the buffer keeps the beacon
* `HostRing.flush` — a flush keeps the buffer, or puts a new beacon there
-/

namespace Wifi

open Infra Infra.Mem Infra.TaggedRing

/-! ## What keeps the buffer of the beacon -/

/-- The step changes neither the buffer of the beacon nor what is known about it. -/
structure KeepsAir (s s' : Arm7Tx) : Prop where
  channelAddr : s'.beaconChannelAddr = s.beaconChannelAddr
  informationAddr : s'.dswifiInformationAddr = s.dswifiInformationAddr
  txbufBeacon : s'.txbufBeacon = s.txbufBeacon
  ram : Set.EqOn s'.ram s.ram (Set.Ico macBeaconStartOffset macBeaconEndOffset)

variable {env : TxEnv} {ssid : List UInt8} {gameId : Nat} {b : BeaconFields}
  {s s' s'' : Arm7Tx}

/-- A beacon stays on the air. -/
theorem Announces.keepsAir (h : Announces env ssid gameId s b) (hssid : ssid.length ≤ 32)
    (hk : KeepsAir s s') : Announces env ssid gameId s' b := by
  have hle := length_ssidBytes_le ssid hssid
  have hlen := length_beaconBytes env ssid gameId b
  have hsize : load16 s'.ram (macBeaconStartOffset + hdrTxIeeeFrameSize) =
      load16 s.ram (macBeaconStartOffset + hdrTxIeeeFrameSize) :=
    load16_congr (hk.ram.mono (Set.Ico_subset_Ico (by decide) (by decide)))
  have hbytes : loadBytes s'.ram (macBeaconStartOffset + hdrTxSize)
      (beaconBytes env ssid gameId b).length = loadBytes s.ram (macBeaconStartOffset + hdrTxSize)
      (beaconBytes env ssid gameId b).length := by
    refine loadBytes_congr (hk.ram.mono (Set.Ico_subset_Ico (by decide) ?_))
    unfold macBeaconStartOffset hdrTxSize macBeaconEndOffset
    omega
  exact ⟨hk.channelAddr.trans h.channelAddr, (congrArg (· + 1) hk.informationAddr).trans
    h.informationAddr, hk.txbufBeacon.trans h.enabled, hsize.trans h.size, hbytes.trans h.bytes⟩

namespace KeepsAir

theorem refl (s : Arm7Tx) : KeepsAir s s := ⟨rfl, rfl, rfl, fun _ _ => rfl⟩

theorem trans (h : KeepsAir s s') (h' : KeepsAir s' s'') : KeepsAir s s'' where
  channelAddr := h'.channelAddr.trans h.channelAddr
  informationAddr := h'.informationAddr.trans h.informationAddr
  txbufBeacon := h'.txbufBeacon.trans h.txbufBeacon
  ram := h'.ram.trans h.ram

/-- Bytes in front of the buffer are written. -/
theorem eqOn_front {m : Mem} {a : Nat} {bs : List UInt8}
    (h : a + bs.length ≤ macBeaconStartOffset) :
    Set.EqOn (m.storeBytes a bs) m (Set.Ico macBeaconStartOffset macBeaconEndOffset) :=
  eqOn_storeBytes fun _ hx => .inr (h.trans hx.1)

/-- A halfword in the TX buffer. -/
theorem poke (s : Arm7Tx) {addr : Nat} (value : Nat) (h : addr + 2 ≤ macBeaconStartOffset) :
    KeepsAir s (s.poke addr value) :=
  ⟨rfl, rfl, rfl, eqOn_front h⟩

/-- The status of the frame in the TX buffer. -/
theorem eqOn_status (m : Mem) (status : Nat) :
    Set.EqOn (m.store16 (macTxbufStartOffset + hdrTxStatus) status) m
      (Set.Ico macBeaconStartOffset macBeaconEndOffset) :=
  eqOn_front (show 0 + 0 + 2 ≤ macBeaconStartOffset by decide)

/-- A frame in the TX buffer. -/
theorem macWrite (s : Arm7Tx) (src : Mem) (i : Nat) {length : Nat}
    (h : length ≤ macTxbufEndOffset) :
    KeepsAir s (s.macWrite src i macTxbufStartOffset length) := by
  unfold Arm7Tx.macWrite
  split
  · exact refl s
  · have hle : macTxbufStartOffset + (loadBytes src i (2 * ((length + 1) / 2))).length ≤
        macBeaconStartOffset := by
      rw [length_loadBytes]
      unfold macTxbufEndOffset at h
      unfold macTxbufStartOffset macBeaconStartOffset
      omega
    exact ⟨rfl, rfl, rfl, eqOn_front hle⟩

theorem txRaw (s : Arm7Tx) (data : Mem) {datalen : Nat} (hlen : datalen ≤ 2048) :
    KeepsAir s (s.txRaw data datalen) := by
  have hround : roundUp32 datalen ≤ macTxbufEndOffset := by
    rw [roundUp32_eq (by omega)]
    unfold roundUp macTxbufEndOffset
    omega
  obtain ⟨h1, h2, h3, h4⟩ := macWrite s data 0 hround
  exact ⟨h1, h2, h3, h4⟩

theorem txArm7QueueFlush (hq : s.QueueFits) : KeepsAir s s.txArm7QueueFlush := by
  obtain ⟨h1, h2, h3, h4⟩ := txRaw s s.txQueue hq
  exact ⟨h1, h2, h3, h4⟩

theorem txArm7QueueSetEnqueuedData (s : Arm7Tx) (data : Mem) (datalen : Nat) :
    KeepsAir s (s.txArm7QueueSetEnqueuedData data datalen).1 := by
  unfold Arm7Tx.txArm7QueueSetEnqueuedData
  dsimp only
  split
  · exact refl s
  · exact ⟨rfl, rfl, rfl, fun _ _ => rfl⟩

theorem txArm7QueueAdd (data : Mem) {datalen : Nat} (hlen : datalen ≤ 2048) (hq : s.QueueFits) :
    KeepsAir s (s.txArm7QueueAdd data datalen).1 := by
  unfold Arm7Tx.txArm7QueueAdd
  split
  · split
    · exact txRaw s data hlen
    · exact (txArm7QueueFlush hq).trans (txArm7QueueSetEnqueuedData _ data _)
  · split
    · exact txArm7QueueSetEnqueuedData s data _
    · exact refl s

theorem loc3Completes (s : Arm7Tx) (ok : Bool) : KeepsAir s (s.loc3Completes ok) := by
  unfold Arm7Tx.loc3Completes
  split
  · exact ⟨rfl, rfl, rfl, eqOn_status _ _⟩
  · exact refl s

theorem mayComplete (s : Arm7Tx) (ended : Option Bool) : KeepsAir s (s.mayComplete ended) := by
  cases ended with
  | none => exact refl s
  | some ok => exact loc3Completes s ok

theorem cmdCompletes (s : Arm7Tx) (ok : Bool) : KeepsAir s (s.cmdCompletes ok) := by
  unfold Arm7Tx.cmdCompletes
  split
  · exact ⟨rfl, rfl, rfl, eqOn_status _ _⟩
  · exact refl s

theorem txArm9QueueFlushByLoc3 (env : Arm7Env) (s : Arm7Tx) :
    KeepsAir s (s.txArm9QueueFlushByLoc3 env) := by
  have hstart (t : Arm7Tx) : KeepsAir t t.startLoc3 := ⟨rfl, rfl, rfl, fun _ _ => rfl⟩
  unfold Arm7Tx.txArm9QueueFlushByLoc3
  dsimp only
  -- The transfer rate and the IV are fields of the frame.
  generalize hrate : (if load16 s.ram (macTxbufStartOffset + hdrTxTransferRate) = 0 then
    s.poke (macTxbufStartOffset + hdrTxTransferRate) env.maxrate7 else s) = t
  have ht : KeepsAir s t := by
    rw [← hrate]
    split
    · exact poke s _ (by decide)
    · exact refl s
  refine ht.trans ?_
  split
  · exact ((poke t _ (by decide)).trans (poke _ _ (by decide))).trans (hstart _)
  · exact hstart t

theorem txArm9QueueFlushByCmd (env : Arm7Env) (s : Arm7Tx) :
    KeepsAir s (s.txArm9QueueFlushByCmd env) := by
  unfold Arm7Tx.txArm9QueueFlushByCmd
  dsimp only
  generalize u16 (0xF0 + _ * env.numConnected) = allClientTime
  generalize u16 (env.curReplyDataSize * 4 + 0xD2) = clientTime
  have hclientBits : macTxbufStartOffset + hdrTxClientBits + 2 ≤ macBeaconStartOffset := by decide
  have hduration : macTxbufStartOffset + hdrTxSize + hdrDataDuration + 2 ≤
      macBeaconStartOffset := by decide
  have htime : macTxbufStartOffset + hdrTxSize + hdrDataMacSize + 0 + 2 ≤
      macBeaconStartOffset := by decide
  have hmask : macTxbufStartOffset + hdrTxSize + hdrDataMacSize + 2 + 2 ≤
      macBeaconStartOffset := by decide
  have h1 := poke s env.aidMask hclientBits
  have h2 := h1.trans (poke _ allClientTime hduration)
  have h3 := h2.trans (poke _ clientTime htime)
  have h4 := h3.trans (poke _ env.aidMask hmask)
  exact ⟨h4.channelAddr, h4.informationAddr, h4.txbufBeacon, h4.ram⟩

theorem intrMultiplayCmdDone (env : Arm7Env) (s : Arm7Tx) :
    KeepsAir s (s.intrMultiplayCmdDone env) := by
  unfold Arm7Tx.intrMultiplayCmdDone
  split
  · dsimp only
    split
    · have hretry : KeepsAir s { s with
          txRetrylimit := u16 (s.txRetrylimit + 0xFFFF)
          monitor := { s.monitor with
            retriedOther := s.monitor.retriedOther ||
              decide (s.monitor.failedCmd ≠ some s.monitor.frames) } } :=
        ⟨rfl, rfl, rfl, fun _ _ => rfl⟩
      exact (hretry.trans (poke _ 0 (by decide))).trans (txArm9QueueFlushByCmd env _)
    · exact refl s
  · exact refl s

/-- The TX buffer gets the first frame of the queue, if it is not too large. -/
theorem copyFirst (s : Arm7Tx) :
    KeepsAir s (s.txArm9QueueCopyFirstData macTxbufStartOffset macTxbufEndOffset).1 := by
  unfold Arm7Tx.txArm9QueueCopyFirstData
  dsimp only
  split
  · rename_i hle
    obtain ⟨h1, h2, h3, h4⟩ := macWrite ((s.touch s.ring.txbufRead 4).touch
      (u32 (s.ring.txbufRead + 4))
      (2 * (((load32 s.ring.txbufData s.ring.txbufRead &&& wflagSendSizeMask) + 1) / 2)))
      s.ring.txbufData (u32 (s.ring.txbufRead + 4)) hle
    exact ⟨h1, h2, h3, h4⟩
  · exact ⟨rfl, rfl, rfl, fun _ _ => rfl⟩

/-- A frame that is neither a reply nor a beacon. -/
theorem send (s : Arm7Tx) (env : Arm7Env) {status : Nat} (hreply : status &&& wflagSendAsReply = 0)
    (hbeacon : status &&& wflagSendAsBeacon = 0) :
    KeepsAir s (s.txArm9QueueSend env status).1 := by
  have hnext (t : Arm7Tx) : KeepsAir t t.nextFrame := ⟨rfl, rfl, rfl, fun _ _ => rfl⟩
  have hretries (t : Arm7Tx) : KeepsAir t t.setRetries := ⟨rfl, rfl, rfl, fun _ _ => rfl⟩
  unfold Arm7Tx.txArm9QueueSend
  rw [if_neg (by rw [hreply]; exact not_not.mpr rfl),
    if_neg (by rw [hbeacon]; exact not_not.mpr rfl)]
  dsimp only
  split
  · exact copyFirst s
  · refine (copyFirst s).trans ?_
    split
    · exact ((hnext _).trans (hretries _)).trans (txArm9QueueFlushByCmd env _)
    · exact (hnext _).trans (txArm9QueueFlushByLoc3 env _)

end KeepsAir

/-! ## The frames of a host -/

/-- A frame that is not a reply, and if it is a beacon, then one of `Wifi_BeaconStart`. -/
structure HostFrame (f : Frame txGeometry) : Prop where
  noReply : f.tag &&& wflagSendAsReply = 0
  beacon : f.tag &&& wflagSendAsBeacon ≠ 0 → f.tag = f.body.length ||| wflagSendAsBeacon ∧
    ∃ (env : TxEnv) (ssid : List UInt8) (gameId : Nat) (gap : List UInt8), ssid.length ≤ 32 ∧
      f.body = (beaconTxHeader ssid).bytes ++ beaconBytes env ssid gameId (.start env) ++ gap

/-- The ring is in order, and its frames are those of a host. -/
def HostRing (ring : TxRing) : Prop :=
  ∃ e q, Flagged ring e q ∧ ∀ f ∈ q, HostFrame f

/-- The call queues no reply. -/
def TxCall.NoReply : TxCall → Prop
  | .multiplayerClientReplyTxFrame _ => False
  | _ => True

/-- The flush would send a beacon. -/
def Arm7Tx.BeaconAhead (s : Arm7Tx) : Prop := s.headStatus &&& wflagSendAsBeacon ≠ 0

instance (s : Arm7Tx) : Decidable s.BeaconAhead := inferInstanceAs (Decidable (_ ≠ _))

/-- A flush of all queues would set up a beacon. -/
def Arm7Tx.SetsUpBeacon (s : Arm7Tx) : Prop :=
  s.busy = false ∧ s.txArm7QueueIsEmpty = true ∧ s.BeaconAhead

instance (s : Arm7Tx) : Decidable s.SetsUpBeacon := inferInstanceAs (Decidable (_ ∧ _))

namespace HostRing

theorem init : HostRing .init := ⟨0, [], ⟨.init, by simp⟩, by simp⟩

/-- The type bits of a call. -/
theorem tag_bits {f : Frame txGeometry} (hf : QueuedFrame f) {flags : Nat}
    (htag : f.tag = f.body.length ||| flags) :
    f.tag &&& wflagSendAsReply = flags &&& wflagSendAsReply ∧
      f.tag &&& wflagSendAsBeacon = flags &&& wflagSendAsBeacon := by
  rw [htag, show wflagSendAsReply = 2 ^ 30 from rfl, show wflagSendAsBeacon = 2 ^ 29 from rfl]
  exact ⟨tag_and_two_pow hf.size_lt (by decide), tag_and_two_pow hf.size_lt (by decide)⟩

/-- A frame of data. -/
theorem hostFrame_of_data {f : Frame txGeometry} (hf : QueuedFrame f)
    (htag : f.tag = f.body.length ||| wflagSendAsData) : HostFrame f := by
  obtain ⟨h1, h2⟩ := tag_bits hf htag
  exact ⟨h1.trans (by decide), fun hne => absurd (h2.trans (by decide)) hne⟩

theorem hostFrame_of_cmd {f : Frame txGeometry} (hf : QueuedFrame f)
    (htag : f.tag = f.body.length ||| wflagSendAsCmd) : HostFrame f := by
  obtain ⟨h1, h2⟩ := tag_bits hf htag
  exact ⟨h1.trans (by decide), fun hne => absurd (h2.trans (by decide)) hne⟩

theorem hostFrame_of_beacon {f : Frame txGeometry} (hf : QueuedFrame f)
    (htag : f.tag = f.body.length ||| wflagSendAsBeacon) (hssid : ssid.length ≤ 32)
    {gap : List UInt8}
    (hbody : f.body = (beaconTxHeader ssid).bytes ++ beaconBytes env ssid gameId (.start env) ++
      gap) : HostFrame f :=
  ⟨(tag_bits hf htag).1.trans (by decide), fun _ => ⟨htag, env, ssid, gameId, gap, hssid, hbody⟩⟩

/-- A call that queues no reply. -/
theorem call {ring : TxRing} (h : HostRing ring) {env : TxEnv} {call : TxCall}
    (hmode : env.dsiMode = false) (hobject : call.IsObject) (hreply : call.NoReply) :
    HostRing (call.run env ring).1 := by
  obtain ⟨e, q, h, hframes⟩ := h
  have hring : RingFlagged ring := ⟨e, q, h⟩
  have henq := h.ring.call env call hobject
  generalize hr : call.run env ring = r at henq ⊢
  cases henq with
  | refused _ _ hinv => exact ⟨e, q, ⟨hinv, h.flagged⟩, hframes⟩
  | stopped _ _ hinv => exact ⟨e, [], ⟨hinv, by simp⟩, by simp⟩
  | @queued ring' f hf htag hqueued _ hinv =>
    -- The flags of the call say what kind of frame it has stored.
    have hframe : HostFrame f := by
      cases call with
      | multiplayerClientReplyTxFrame data => exact hreply.elim
      | beaconStart ssid gameId =>
        have hok : (beaconStart env ring ssid gameId).2 = true := congrArg Prod.snd hr
        obtain ⟨hssid, gap, -, hstored⟩ := beaconStart_stored hring hok
        have hring' : (beaconStart env ring ssid gameId).1 = ring' := congrArg Prod.fst hr
        rw [hring', hqueued, List.getLast?_concat] at hstored
        exact hostFrame_of_beacon hf htag hssid (congrArg Prod.snd (Option.some.inj hstored))
      | transmitFunctionLink src =>
        have hlink : (TxCall.transmitFunctionLink src).flags env = wflagSendAsData :=
          if_neg (of_decide_eq_false hmode)
        exact hostFrame_of_data hf (hlink ▸ htag)
      | multiplayerHostCmdTxFrame data => exact hostFrame_of_cmd hf htag
      | _ => exact hostFrame_of_data hf htag
    refine ⟨ring'.txbufWrite, q ++ [f], ⟨hinv, fun g hg => ?_⟩, fun g hg => ?_⟩
    · rcases List.mem_append.mp hg with hg | hg
      · exact h.flagged g hg
      · rw [List.mem_singleton.mp hg]
        exact call.tag_ne_size hmode hf htag
    · rcases List.mem_append.mp hg with hg | hg
      · exact hframes g hg
      · rwa [List.mem_singleton.mp hg]

theorem flush_ring (h : HostRing s.ring) (env : Arm7Env) :
    HostRing (s.txArm9QueueFlush env).1.ring := by
  obtain ⟨e, q, h, hframes⟩ := h
  obtain ⟨e', q', h', hsub⟩ := h.flush_subset env
  exact ⟨e', q', h', fun f hf => hframes f (hsub hf)⟩

/-- A flush that finds no beacon keeps what is on the air. -/
theorem flush_keepsAir (h : HostRing s.ring) (hahead : ¬ s.BeaconAhead) (env : Arm7Env) :
    KeepsAir s (s.txArm9QueueFlush env).1 := by
  obtain ⟨e, q, h, hframes⟩ := h
  have hskip : KeepsAir s s.skipWrap := by
    unfold Arm7Tx.skipWrap
    split <;> exact ⟨rfl, rfl, rfl, fun _ _ => rfl⟩
  have htouch (t : Arm7Tx) (idx size : Nat) : KeepsAir t (t.touch idx size) :=
    ⟨rfl, rfl, rfl, fun _ _ => rfl⟩
  have hcap := h.ring.view.reader_le
  rw [txGeometry_cap] at hcap
  unfold Arm7Tx.txArm9QueueFlush
  simp only [Arm7Tx.touch_of_le hcap]
  split
  · exact .refl s
  · refine hskip.trans ?_
    split
    · exact htouch _ _ _
    · refine (htouch _ _ _).trans (.send _ env ?_ (not_not.mp hahead))
      rcases h.ring.headStatus_cases with ⟨h0, -⟩ | ⟨f, fs, rfl, htag, -⟩
      · rename_i hne
        exact absurd h0 hne
      · exact (congrArg (· &&& wflagSendAsReply) htag).trans
          (hframes f (List.mem_cons_self ..)).noReply

/-- **A flush that finds a beacon puts it on the air**, with one player. -/
theorem flush_announces (h : HostRing s.ring) (hahead : s.BeaconAhead) {arm7 : Arm7Env}
    (hchannel : arm7.curChannel < 2 ^ 8) :
    ∃ (env : TxEnv) (ssid : List UInt8) (gameId : Nat), ssid.length ≤ 32 ∧
      Announces env ssid gameId (s.txArm9QueueFlush arm7).1
        { BeaconFields.start env with channel := UInt8.ofNat arm7.curChannel } := by
  obtain ⟨e, q, h, hframes⟩ := h
  rcases h.ring.headStatus_cases with ⟨h0, -⟩ | ⟨f, fs, rfl, htag, -⟩
  · rw [Arm7Tx.BeaconAhead, h0, Nat.zero_and] at hahead
    exact absurd rfl hahead
  · rw [Arm7Tx.BeaconAhead, htag] at hahead
    obtain ⟨hbeacon, env, ssid, gameId, gap, hssid, hbody⟩ :=
      (hframes f (List.mem_cons_self ..)).beacon hahead
    obtain ⟨t, ht, hram⟩ := h.ring.flush_beacon hbeacon arm7
    rw [hbody] at hram
    obtain ⟨hram, -⟩ := loadBytes_append.mp hram
    obtain ⟨hheader, hframe⟩ := loadBytes_append.mp hram
    exact ⟨env, ssid, gameId, hssid, ht ▸ Arm7Tx.beaconSetup_announces hssid hheader hframe
      hchannel⟩

/-! ## All queues -/

/-- The queues stay in order. -/
theorem txAllQueueFlush (h : HostRing s.ring) (hq : s.QueueFits) (env : Arm7Env) :
    HostRing (s.txAllQueueFlush env).ring ∧ (s.txAllQueueFlush env).QueueFits := by
  unfold Arm7Tx.txAllQueueFlush
  split
  · exact ⟨h, hq⟩
  · rename_i hb
    split
    · have hk := KeepsBeacon.txArm7QueueFlush hq
      exact ⟨hk.ring ▸ h, hk.queueFits hq⟩
    · refine ⟨h.flush_ring env, ?_⟩
      obtain ⟨e, q, h, -⟩ := h
      exact (KeepsInfo.flush h ((Bool.not_eq_true _).mp hb) env).txQueueLen.trans_le hq

theorem txAllQueueFlush_keepsAir (h : HostRing s.ring) (hq : s.QueueFits)
    (hbeacon : ¬ s.SetsUpBeacon) (env : Arm7Env) : KeepsAir s (s.txAllQueueFlush env) := by
  unfold Arm7Tx.txAllQueueFlush
  split
  · exact .refl s
  · rename_i hb
    split
    · exact .txArm7QueueFlush hq
    · rename_i hempty
      refine h.flush_keepsAir (fun hahead => hbeacon ⟨(Bool.not_eq_true _).mp hb, ?_, hahead⟩) env
      simpa using hempty

theorem txAllQueueFlush_announces (h : HostRing s.ring) (hbeacon : s.SetsUpBeacon)
    {arm7 : Arm7Env} (hchannel : arm7.curChannel < 2 ^ 8) :
    ∃ (env : TxEnv) (ssid : List UInt8) (gameId : Nat), ssid.length ≤ 32 ∧
      Announces env ssid gameId (s.txAllQueueFlush arm7)
        { BeaconFields.start env with channel := UInt8.ofNat arm7.curChannel } := by
  obtain ⟨hb, hempty, hahead⟩ := hbeacon
  have hflush : s.txAllQueueFlush arm7 = (s.txArm9QueueFlush arm7).1 := by
    unfold Arm7Tx.txAllQueueFlush
    have hb' : (s.loc3Busy || s.cmdBusy) = false := hb
    rw [if_neg (by rw [hb']; decide), if_neg (by rw [hempty]; decide)]
  rw [hflush]
  exact h.flush_announces hahead hchannel

end HostRing

end Wifi
