import DsWifi.Tx.Arm7
import DsWifi.Tx.Enqueue

/-!
# What a flush does to the TX ring

`Wifi_TxArm9QueueFlush` takes one frame. What it does afterwards, in MAC RAM and in the registers,
no longer concerns the ring (`KeepsQueue`), so its effect is that of
`Wifi_TxArm9QueueCopyFirstData`:

* `Flushes.copied` — a frame that fits below the end offset is copied whole and the reader moves to
  the next tag
* `Flushes.rejected` — a larger one is counted, and the reader moves to the word after its size tag.
  This is the zeroed start of the frame's own header, an end tag where the reader stays.
-/

namespace Wifi

open Infra Infra.Mem Infra.TaggedRing

/-! ## Headers in memory -/

theorem apply_of_loadBytes {m : Mem} {a k : Nat} {bs : List UInt8} {b : UInt8}
    (h : loadBytes m a bs.length = bs) (hk : bs[k]? = some b) : m (a + k) = b := by
  have hlt : k < bs.length := (List.getElem?_eq_some_iff.mp hk).1
  rw [← h, getElem?_loadBytes hlt] at hk
  exact Option.some.inj hk

/-- What the ARM7 reads from the hardware header of a queued frame. -/
theorem HasTxHeader.loads {m : Mem} {a size : Nat} {bs : List UInt8} (h : HasTxHeader size bs)
    (hb : loadBytes m a bs.length = bs) : load16 m a = 0 ∧ load32 m a = 0 ∧
    load16 m (a + hdrTxIeeeFrameSize) = u16 (size - sizeofTxHeader) := by
  obtain ⟨tx, h1, h2, h3, rest, rfl⟩ := h
  have hget (k : Nat) (b : UInt8) (hk : tx.bytes[k]? = some b) : m (a + k) = b :=
    apply_of_loadBytes hb (by
      rw [List.getElem?_append_left (List.getElem?_eq_some_iff.mp hk).1, hk])
  have h0 : m a = UInt8.ofNat tx.enableFlags := hget 0 _ rfl
  have h1' := hget 1 (UInt8.ofNat (tx.enableFlags / 2 ^ 8)) rfl
  have h2' := hget 2 (UInt8.ofNat tx.clientBits) rfl
  have h3' : m (a + 2 + 1) = _ := hget 3 (UInt8.ofNat (tx.clientBits / 2 ^ 8)) rfl
  have h10 := hget 10 (UInt8.ofNat tx.txLength) rfl
  have h11 : m (a + 10 + 1) = _ := hget 11 (UInt8.ofNat (tx.txLength / 2 ^ 8)) rfl
  refine ⟨?_, ?_, ?_⟩
  · simp [load16, h0, h1', h1]
  · simp [load32, load16, h0, h1', h2', h3', h1, h2]
  · simp only [load16, hdrTxIeeeFrameSize, h10, h11, h3, UInt8.toNat_ofNat', u16]
    omega

/-! ## Elements of a beacon -/

/-- What the loop of `Wifi_BeaconSetup` remembers of an element in front of `len`. -/
inductive Arm7Tx.BeaconElement (len : Nat) (s : Arm7Tx) : Arm7Tx → Prop
  | channel (j : Nat) (hj : j < len + 2) :
    BeaconElement len s { s with beaconChannelAddr := u16 (macBeaconStartOffset + j) }
  | tim (txbufTim listenint listencount : Nat) :
    BeaconElement len s { s with txbufTim, listenint, listencount }
  | dswifi (j : Nat) (hj : j < len + 2) : BeaconElement len s
    { s with dswifiInformationAddr := u16 (macBeaconStartOffset + j + (48 - 24)) }
  | other : BeaconElement len s s

/-- What each element keeps is kept by the loop. -/
theorem Arm7Tx.beaconElements_rel {R : Arm7Tx → Arm7Tx → Prop} (hrefl : ∀ s, R s s)
    (htrans : ∀ s s' s'', R s s' → R s' s'' → R s s'') {len : Nat}
    (helement : ∀ s s', s.BeaconElement len s' → R s s') (data : List UInt8) (fuel i : Nat)
    (s : Arm7Tx) : R s (s.beaconElements data len fuel i) := by
  induction fuel generalizing i s with
  | zero => exact hrefl s
  | succ fuel ih =>
    rw [beaconElements]
    split
    · exact hrefl s
    · refine htrans _ _ _ (helement _ _ ?_) (ih _ _)
      split
      · exact .channel _ (by omega)
      · exact .tim _ _ _
      · split
        · exact .dswifi _ (by omega)
        · exact .other
      · exact .other

/-! ## What leaves the queue alone -/

/-- The step does not touch the ring, nor the records of what became of its frames. It starts no
frame of the ARM7. -/
structure KeepsQueue (s s' : Arm7Tx) : Prop where
  ring : s'.ring = s.ring
  handled : s'.handled = s.handled
  copies : s'.copies = s.copies
  inBounds : s'.inBounds = s.inBounds
  started : s'.started = s.started

namespace KeepsQueue

variable {s s' s'' : Arm7Tx}

theorem refl (s : Arm7Tx) : KeepsQueue s s := ⟨rfl, rfl, rfl, rfl, rfl⟩

theorem trans (h : KeepsQueue s s') (h' : KeepsQueue s' s'') : KeepsQueue s s'' :=
  ⟨h'.ring.trans h.ring, h'.handled.trans h.handled, h'.copies.trans h.copies,
    h'.inBounds.trans h.inBounds, h'.started.trans h.started⟩

theorem poke (s : Arm7Tx) (addr value : Nat) : KeepsQueue s (s.poke addr value) :=
  ⟨rfl, rfl, rfl, rfl, rfl⟩

/-- The transfer is one of a frame of the ARM9. -/
theorem startLoc3 (hframe : s.monitor.fromArm7 = false) : KeepsQueue s s.startLoc3 := by
  refine ⟨rfl, rfl, rfl, rfl, ?_⟩
  rw [Arm7Tx.startLoc3, hframe]
  rfl

theorem txArm9QueueFlushByLoc3 (hframe : s.monitor.fromArm7 = false) (env : Arm7Env) :
    KeepsQueue s (s.txArm9QueueFlushByLoc3 env) := by
  unfold Arm7Tx.txArm9QueueFlushByLoc3
  dsimp only
  split <;> split
  · exact (((poke s _ _).trans (poke _ _ _)).trans (poke _ _ _)).trans (startLoc3 hframe)
  · exact (poke s _ _).trans (startLoc3 hframe)
  · exact ((poke s _ _).trans (poke _ _ _)).trans (startLoc3 hframe)
  · exact startLoc3 hframe

theorem txArm9QueueFlushByCmd (env : Arm7Env) (s : Arm7Tx) :
    KeepsQueue s (s.txArm9QueueFlushByCmd env) := ⟨rfl, rfl, rfl, rfl, rfl⟩

theorem beaconElements (data : List UInt8) (len fuel i : Nat) (s : Arm7Tx) :
    KeepsQueue s (s.beaconElements data len fuel i) := by
  refine Arm7Tx.beaconElements_rel refl (fun _ _ _ => trans) (fun s s' h => ?_) data fuel i s
  cases h <;> exact ⟨rfl, rfl, rfl, rfl, rfl⟩

theorem macWriteByte (s : Arm7Tx) (address value : Nat) :
    KeepsQueue s (s.macWriteByte address value) := by
  unfold Arm7Tx.macWriteByte
  dsimp only
  split <;> exact poke _ _ _

theorem setBeaconChannel (s : Arm7Tx) (channel : Nat) :
    KeepsQueue s (s.setBeaconChannel channel) := by
  unfold Arm7Tx.setBeaconChannel
  split
  · exact refl s
  · split
    · exact macWriteByte _ _ _
    · exact refl s

theorem beaconSetup (env : Arm7Env) (s : Arm7Tx) : KeepsQueue s (s.beaconSetup env) := by
  unfold Arm7Tx.beaconSetup
  dsimp only
  split
  · exact ⟨rfl, rfl, rfl, rfl, rfl⟩
  · have henable (t : Arm7Tx) : KeepsQueue t t.enableBeacon := ⟨rfl, rfl, rfl, rfl, rfl⟩
    exact ((beaconElements _ _ _ _ s).trans (henable _)).trans (setBeaconChannel _ _)

theorem nextFrame (s : Arm7Tx) : KeepsQueue s s.nextFrame := ⟨rfl, rfl, rfl, rfl, rfl⟩

theorem setRetries (s : Arm7Tx) : KeepsQueue s s.setRetries := ⟨rfl, rfl, rfl, rfl, rfl⟩

theorem intrMultiplayCmdDone (s : Arm7Tx) (env : Arm7Env) :
    KeepsQueue s (s.intrMultiplayCmdDone env) := by
  unfold Arm7Tx.intrMultiplayCmdDone
  split
  · dsimp only
    split
    · refine trans ?_ (txArm9QueueFlushByCmd env _)
      exact ⟨rfl, rfl, rfl, rfl, rfl⟩
    · exact refl s
  · exact refl s

theorem cmdCompletes (s : Arm7Tx) (ok : Bool) : KeepsQueue s (s.cmdCompletes ok) := by
  unfold Arm7Tx.cmdCompletes
  split <;> exact ⟨rfl, rfl, rfl, rfl, rfl⟩

end KeepsQueue

/-! ## The frame at the reader -/

namespace Arm7Tx

/-- The size tag that the flush decides upon. -/
def headStatus (s : Arm7Tx) : Nat :=
  load32 s.skipWrap.ring.txbufData s.skipWrap.ring.txbufRead

theorem touch_of_le {s : Arm7Tx} {idx size : Nat} (h : idx + size ≤ 24576) :
    s.touch idx size = s := by
  have hd : decide (idx + size ≤ wifiTxBufferSize) = true := decide_eq_true h
  rw [touch, hd, Bool.and_true]

/-- Where a frame goes in MAC RAM, and the end offset its size is compared with. -/
def target (s : Arm7Tx) (status : Nat) : Nat × Nat :=
  if status &&& wflagSendAsReply ≠ 0 then s.replyDestination
  else if status &&& wflagSendAsBeacon ≠ 0 then (macBeaconStartOffset, macBeaconEndOffset)
  else (macTxbufStartOffset, macTxbufEndOffset)

/-- The frame at the reader is not larger than the end offset. -/
def HeadFits (s : Arm7Tx) : Prop :=
  s.headStatus &&& wflagSendSizeMask ≤ (s.target s.headStatus).2

instance (s : Arm7Tx) : Decidable s.HeadFits := inferInstanceAs (Decidable (_ ≤ _))

theorem target_le (s : Arm7Tx) (status : Nat) :
    (s.target status).1 ≤ 0xB00 ∧ (s.target status).2 ≤ 0xC00 := by
  unfold target replyDestination
  split
  · dsimp only
    split <;> decide
  · split <;> decide

@[simp] theorem skipWrap_target (s : Arm7Tx) (status : Nat) :
    s.skipWrap.target status = s.target status := by
  unfold skipWrap
  split <;> rfl

@[simp] theorem skipWrap_replyDestination (s : Arm7Tx) :
    s.skipWrap.replyDestination = s.replyDestination := by
  unfold skipWrap
  split <;> rfl

@[simp] theorem skipWrap_txbufReply1 (s : Arm7Tx) : s.skipWrap.txbufReply1 = s.txbufReply1 := by
  unfold skipWrap
  split <;> rfl

@[simp] theorem skipWrap_txbufReply2 (s : Arm7Tx) : s.skipWrap.txbufReply2 = s.txbufReply2 := by
  unfold skipWrap
  split <;> rfl

/-- Sending is copying, as far as the queue is concerned. -/
theorem txArm9QueueSend_keeps (env : Arm7Env) (s : Arm7Tx) (status : Nat) :
    KeepsQueue (s.txArm9QueueCopyFirstData (s.target status).1 (s.target status).2).1
      (s.txArm9QueueSend env status).1 := by
  unfold txArm9QueueSend target
  split
  · unfold txArm9QueueFlushByReply
    dsimp only
    split <;> exact ⟨rfl, rfl, rfl, rfl, rfl⟩
  · split
    · dsimp only
      split
      · exact .refl _
      · exact .beaconSetup env _
    · dsimp only
      split
      · exact .refl _
      · split
        · exact ((KeepsQueue.nextFrame _).trans (.setRetries _)).trans
            (.txArm9QueueFlushByCmd env _)
        · exact (KeepsQueue.nextFrame _).trans (.txArm9QueueFlushByLoc3 rfl env)

end Arm7Tx

variable {s : Arm7Tx} {e : Nat} {q : List (Frame txGeometry)}

/-- Skipping the wrap marker keeps the invariant. -/
theorem TxInv.skipWrap (h : TxInv s.ring e q) : TxInv s.skipWrap.ring e q := by
  unfold Arm7Tx.skipWrap
  split
  · rename_i hw
    have he : e = s.ring.txbufWrite := by
      rcases h.ends with he | ⟨-, he, -⟩
      · exact he
      · exact absurd (hw.symm.trans (he ▸ h.view.end_zero)) (by decide)
    exact ⟨(h.view.jump hw (by decide)).2, .inl he, h.queued, ⟨0, rfl⟩, h.four_dvd_write,
      h.write_le⟩
  · exact h

/-- After the wrap marker the reader stands at the head frame or at the end. -/
theorem TxInv.headStatus_cases (h : TxInv s.ring e q) : (s.headStatus = 0 ∧ q = []) ∨
    ∃ f fs, q = f :: fs ∧ s.headStatus = f.tag ∧
      View.HeadAt txGeometry s.skipWrap.ring.txbufData s.skipWrap.ring.txbufRead f
        s.skipWrap.ring.txbufRead := by
  have hv := h.skipWrap.view
  have hw : s.headStatus ≠ wifiSizeWrap := by
    unfold Arm7Tx.headStatus Arm7Tx.skipWrap
    split
    · rename_i hw
      have hchain := (h.view.jump hw (by decide)).1
      cases q with
      | nil =>
        obtain rfl : 0 = e := hchain
        show load32 s.ring.txbufData 0 ≠ wifiSizeWrap
        rw [h.view.end_zero]
        decide
      | cons f fs =>
        show load32 s.ring.txbufData 0 ≠ wifiSizeWrap
        rw [hchain.1.1]
        exact f.tag_ne_wrap
    · assumption
  by_cases h0 : s.headStatus = 0
  · exact .inl ⟨h0, hv.eq_nil_of_load32 (by decide) h0⟩
  · obtain ⟨f, fs, hq, hs⟩ := hv.exists_head h0 hw
    exact .inr ⟨f, fs, hq, hs.1, .here hs⟩

/-! ## Copying the first frame -/

/-- A flush leaves the ARM9's part of the ring alone, and reads nothing outside of `txbufData`. -/
structure KeepsWriter (s s' : Arm7Tx) : Prop where
  write : s'.ring.txbufWrite = s.ring.txbufWrite
  queued : s'.ring.queued = s.ring.queued
  inBounds : s'.inBounds = s.inBounds

theorem KeepsWriter.trans {s s' s'' : Arm7Tx} (h : KeepsWriter s s') (h' : KeepsWriter s' s'') :
    KeepsWriter s s'' :=
  ⟨h'.write.trans h.write, h'.queued.trans h.queued, h'.inBounds.trans h.inBounds⟩

/-- What a flush can do to the queue. -/
inductive Flushes (s : Arm7Tx) (e : Nat) (q : List (Frame txGeometry)) (s' : Arm7Tx) : Prop
  | nothing (hq : q = []) (hw : KeepsWriter s s') (h : TxInv s'.ring e [])
      (hrejected : s'.ring.txQueuedRejected = s.ring.txQueuedRejected)
      (hhandled : s'.handled = s.handled) (hcopies : s'.copies = s.copies)
  | copied {f : Frame txGeometry} {fs : List (Frame txGeometry)} (hq : q = f :: fs)
      (htag : s.headStatus = f.tag) (hfits : s.HeadFits) (hw : KeepsWriter s s')
      (h : TxInv s'.ring e fs)
      (hrejected : s'.ring.txQueuedRejected = s.ring.txQueuedRejected)
      (hhandled : s'.handled = s.handled ++ [.copied (s.target f.tag).1 f.body])
      (hcopies : s'.copies =
        s.copies ++ [((s.target f.tag).1, 2 * ((f.body.length + 1) / 2))])
  | rejected {f : Frame txGeometry} {fs : List (Frame txGeometry)} (hq : q = f :: fs)
      (htag : s.headStatus = f.tag) (hfits : ¬ s.HeadFits) (hw : KeepsWriter s s')
      (h : TxInv s'.ring s'.ring.txbufRead [])
      (hread : s'.ring.txbufRead ≠ s'.ring.txbufWrite)
      (hrejected : s'.ring.txQueuedRejected = u32 (s.ring.txQueuedRejected + 1))
      (hhandled : s'.handled = s.handled ++ [.rejected]) (hcopies : s'.copies = s.copies)

/-- What the queue sees is the same after the rest of a flush. -/
theorem Flushes.keep {s' s'' : Arm7Tx} (h : Flushes s e q s') (hk : KeepsQueue s' s'') :
    Flushes s e q s'' := by
  obtain ⟨hring, hhandled, hcopies, hbounds, -⟩ := hk
  have hkeep (hw : KeepsWriter s s') : KeepsWriter s s'' :=
    hw.trans ⟨by rw [hring], by rw [hring], hbounds⟩
  cases h with
  | nothing hq hw h hrej hh hc =>
    exact .nothing hq (hkeep hw) (hring ▸ h) (hring ▸ hrej) (hhandled ▸ hh) (hcopies ▸ hc)
  | copied hq htag hfits hw h hrej hh hc =>
    exact .copied hq htag hfits (hkeep hw) (hring ▸ h) (hring ▸ hrej) (hhandled ▸ hh)
      (hcopies ▸ hc)
  | rejected hq htag hfits hw h hread hrej hh hc =>
    exact .rejected hq htag hfits (hkeep hw) (hring ▸ h) (hring ▸ hread) (hring ▸ hrej)
      (hhandled ▸ hh) (hcopies ▸ hc)

/-- The frame that is copied is in MAC RAM afterwards. -/
theorem loadBytes_macWrite (src : Mem) (i : Nat) {base size : Nat} (h : base + size ≤ 0x2000) :
    loadBytes (s.macWrite src i base size).ram base size = loadBytes src i size ∧
    (s.macWrite src i base size).copies = s.copies ++ [(base, 2 * ((size + 1) / 2))] := by
  have hguard : ¬ 0x2000 < u32 (base + size) := by rw [u32_of_lt (by omega)]; omega
  have hle : size ≤ 2 * ((size + 1) / 2) := by omega
  simp only [Arm7Tx.macWrite, if_neg hguard]
  refine ⟨?_, trivial⟩
  generalize hbs : loadBytes src i (2 * ((size + 1) / 2)) = bs
  have hlen : bs.length = 2 * ((size + 1) / 2) := by rw [← hbs, length_loadBytes]
  calc loadBytes (s.ram.storeBytes base bs) base size
      = (loadBytes (s.ram.storeBytes base bs) base bs.length).take size :=
        (take_loadBytes _ _ (by omega)).symm
    _ = bs.take size := by rw [loadBytes_storeBytes]
    _ = loadBytes src i size := by rw [← hbs, take_loadBytes _ _ hle]

theorem macWrite_ring (src : Mem) (i base size : Nat) :
    (s.macWrite src i base size).ring = s.ring ∧
    (s.macWrite src i base size).handled = s.handled ∧
    (s.macWrite src i base size).inBounds = s.inBounds := by
  unfold Arm7Tx.macWrite
  split <;> exact ⟨rfl, rfl, rfl⟩

section

variable {f : Frame txGeometry} {fs : List (Frame txGeometry)} {base bufferEnd : Nat}

/-- The next tag, as the ARM7 computes it. -/
theorem TxInv.next_eq (h : TxInv s.ring e (f :: fs))
    (hi : View.HeadAt txGeometry s.ring.txbufData s.ring.txbufRead f s.ring.txbufRead) :
    u32 (u32 (s.ring.txbufRead + 4) + roundUp32 f.body.length) = f.next s.ring.txbufRead := by
  have hcap := (h.view.pop hi).1.reader_le
  have hle := le_roundUp f.body.length
  rw [txGeometry_cap] at hcap
  unfold Frame.next at hcap ⊢
  rw [roundUp32_eq (by omega), u32_of_lt (n := s.ring.txbufRead + 4) (by omega),
    u32_of_lt (by omega)]

/-- The reader goes on behind the head frame. -/
theorem TxInv.pop {ring : TxRing} (h : TxInv ring e (f :: fs))
    (hi : View.HeadAt txGeometry ring.txbufData ring.txbufRead f ring.txbufRead) :
    TxInv { ring with txbufRead := f.next ring.txbufRead } e fs where
  view := (h.view.pop hi).1
  ends := .inl (h.ends.resolve_right fun hs => nomatch hs.1)
  queued g hg := h.queued g (List.mem_cons_of_mem f hg)
  four_dvd_read := f.four_dvd_next h.four_dvd_read
  four_dvd_write := h.four_dvd_write
  write_le := h.write_le

theorem head_size (hi : View.HeadAt txGeometry s.ring.txbufData s.ring.txbufRead f
    s.ring.txbufRead) :
    load32 s.ring.txbufData s.ring.txbufRead &&& wflagSendSizeMask = f.body.length := by
  rw [hi.stored.1]
  exact f.len_tag

/-- A frame that fits is copied whole. -/
theorem TxInv.copyFirst_eq (h : TxInv s.ring e (f :: fs))
    (hi : View.HeadAt txGeometry s.ring.txbufData s.ring.txbufRead f s.ring.txbufRead)
    (hb : base ≤ 0xB00) (hend : bufferEnd ≤ 0xC00) (hfits : f.body.length ≤ bufferEnd) :
    s.txArm9QueueCopyFirstData base bufferEnd =
      ({ s.macWrite s.ring.txbufData (s.ring.txbufRead + 4) base f.body.length with
        ring := { s.ring with txbufRead := f.next s.ring.txbufRead }
        handled := s.handled ++ [.copied base f.body] }, f.body.length) := by
  have hcap := (h.view.pop hi).1.reader_le
  have hlt := f.lt_next s.ring.txbufRead
  rw [txGeometry_cap] at hcap
  have hbody : s.ring.txbufRead + 4 + 2 * ((f.body.length + 1) / 2) ≤ 24576 := by
    unfold Frame.next roundUp at hcap
    omega
  have hread : u32 (s.ring.txbufRead + 4) = s.ring.txbufRead + 4 := u32_of_lt (by omega)
  have hnext := h.next_eq hi
  rw [hread] at hnext
  obtain ⟨hbytes, -⟩ := loadBytes_macWrite (s := s) s.ring.txbufData (s.ring.txbufRead + 4)
    (show base + f.body.length ≤ 0x2000 by omega)
  obtain ⟨hring, hhandled, -⟩ := macWrite_ring (s := s) s.ring.txbufData
    (s.ring.txbufRead + 4) base f.body.length
  simp only [Arm7Tx.txArm9QueueCopyFirstData, Arm7Tx.touch_of_le (show s.ring.txbufRead + 4 ≤ 24576
    by omega), Arm7Tx.touch_of_le hbody, head_size hi, if_pos hfits, hread, hnext, hring, hhandled,
    hbytes, hi.stored.2]

theorem TxInv.copied (h : TxInv s.ring e (f :: fs))
    (hi : View.HeadAt txGeometry s.ring.txbufData s.ring.txbufRead f s.ring.txbufRead)
    (hb : base ≤ 0xB00) (hend : bufferEnd ≤ 0xC00) (hfits : f.body.length ≤ bufferEnd) {s' : Arm7Tx}
    (hs' : s' = (s.txArm9QueueCopyFirstData base bufferEnd).1) :
    TxInv s'.ring e fs ∧ KeepsWriter s s' ∧
    s'.ring.txQueuedRejected = s.ring.txQueuedRejected ∧
    s'.handled = s.handled ++ [.copied base f.body] ∧
    s'.copies = s.copies ++ [(base, 2 * ((f.body.length + 1) / 2))] := by
  obtain ⟨-, hcopies⟩ := loadBytes_macWrite (s := s) s.ring.txbufData (s.ring.txbufRead + 4)
    (show base + f.body.length ≤ 0x2000 by omega)
  obtain ⟨-, -, hbounds⟩ := macWrite_ring (s := s) s.ring.txbufData (s.ring.txbufRead + 4) base
    f.body.length
  rw [h.copyFirst_eq hi hb hend hfits] at hs'
  subst hs'
  exact ⟨h.pop hi, ⟨rfl, rfl, hbounds⟩, rfl, rfl, hcopies⟩

theorem TxInv.rejected (h : TxInv s.ring e (f :: fs)) (base : Nat)
    (hi : View.HeadAt txGeometry s.ring.txbufData s.ring.txbufRead f s.ring.txbufRead)
    (hflag : f.tag ≠ f.body.length) (hfits : ¬ f.body.length ≤ bufferEnd) {s' : Arm7Tx}
    (hs' : s' = (s.txArm9QueueCopyFirstData base bufferEnd).1) :
    TxInv s'.ring s'.ring.txbufRead [] ∧ s'.ring.txbufRead ≠ s'.ring.txbufWrite ∧
    KeepsWriter s s' ∧ s'.ring.txQueuedRejected = u32 (s.ring.txQueuedRejected + 1) ∧
    s'.handled = s.handled ++ [.rejected] ∧ s'.copies = s.copies := by
  have hcap := (h.view.pop hi).1.reader_le
  have hapart := h.view.pop_apart hi
  have hq := h.queued f (List.mem_cons_self ..)
  have hlen := hq.le_size
  have hpad := le_roundUp f.body.length
  rw [txGeometry_cap] at hcap
  unfold Frame.next at hcap hapart
  have hread : u32 (s.ring.txbufRead + 4) = s.ring.txbufRead + 4 := u32_of_lt (by omega)
  have he : e = s.ring.txbufWrite := h.ends.resolve_right fun hs => nomatch hs.1
  simp only [Arm7Tx.txArm9QueueCopyFirstData, Arm7Tx.touch_of_le (show s.ring.txbufRead + 4 ≤ 24576
    by omega), head_size hi, if_neg hfits, hread] at hs'
  subst hs'
  -- The word after the size tag is the start of the hardware header.
  have hzero := ((hq.headed hflag).loads hi.stored.2).2.1
  have hroom : s.ring.txbufRead + 4 + 4 ≤ txGeometry.cap := by rw [txGeometry_cap]; omega
  refine ⟨⟨.linear rfl hzero hroom, .inr ⟨rfl, rfl, ?_⟩, by simp, ?_, h.four_dvd_write,
    h.write_le⟩, ?_, ⟨rfl, rfl, rfl⟩, rfl, rfl, rfl⟩
  · unfold View.Ahead
    dsimp only
    omega
  · have := h.four_dvd_read
    dsimp only
    omega
  · dsimp only
    omega

end

/-! ## The flush -/

/-- **A flush takes the head frame**, whole or not at all. -/
theorem TxInv.flush (h : TxInv s.ring e q) (hflag : ∀ f ∈ q, f.tag ≠ f.body.length)
    (env : Arm7Env) : Flushes s e q (s.txArm9QueueFlush env).1 := by
  have hskip : s.skipWrap.handled = s.handled ∧ s.skipWrap.copies = s.copies ∧
      KeepsWriter s s.skipWrap ∧
      s.skipWrap.ring.txQueuedRejected = s.ring.txQueuedRejected := by
    unfold Arm7Tx.skipWrap
    split <;> exact ⟨rfl, rfl, ⟨rfl, rfl, rfl⟩, rfl⟩
  obtain ⟨hhandled, hcopies, hw, hrej⟩ := hskip
  have hcap := h.view.reader_le
  have hcap' := h.skipWrap.view.reader_le
  rw [txGeometry_cap] at hcap hcap'
  unfold Arm7Tx.txArm9QueueFlush
  simp only [Arm7Tx.touch_of_le hcap, Arm7Tx.touch_of_le hcap']
  split
  · rename_i h0
    have hq : q = [] := h.view.eq_nil_of_load32 (by decide) h0
    exact .nothing hq ⟨rfl, rfl, rfl⟩ (hq ▸ h) rfl rfl rfl
  · have hinv := h.skipWrap
    rcases h.headStatus_cases with ⟨h0, hq⟩ | ⟨f, fs, hq, htag, hi⟩
    · have h0' : load32 s.skipWrap.ring.txbufData s.skipWrap.ring.txbufRead = 0 := h0
      simp only [h0', if_true]
      exact .nothing hq hw (hq ▸ hinv) hrej hhandled hcopies
    · have htag' : load32 s.skipWrap.ring.txbufData s.skipWrap.ring.txbufRead = f.tag := htag
      simp only [htag', if_neg f.tag_ne_zero]
      refine Flushes.keep ?_ (Arm7Tx.txArm9QueueSend_keeps env s.skipWrap f.tag)
      subst hq
      obtain ⟨hbase, hend⟩ := s.target_le f.tag
      have hsize : s.HeadFits ↔ f.body.length ≤ (s.target f.tag).2 := by
        unfold Arm7Tx.HeadFits
        rw [htag, show f.tag &&& wflagSendSizeMask = f.body.length from f.len_tag]
      rw [Arm7Tx.skipWrap_target]
      by_cases hfits : f.body.length ≤ (s.target f.tag).2
      · obtain ⟨h1, h2, h3, h4, h5⟩ := hinv.copied hi hbase hend hfits rfl
        exact .copied rfl htag (hsize.mpr hfits) (hw.trans h2) h1 (h3.trans hrej) (hhandled ▸ h4)
          (hcopies ▸ h5)
      · obtain ⟨h1, h2, h3, h4, h5, h6⟩ := hinv.rejected (s.target f.tag).1 hi
          (hflag f (List.mem_cons_self ..)) hfits rfl
        exact .rejected rfl htag (fun hc => hfits (hsize.mp hc)) (hw.trans h3) h1 h2 (hrej ▸ h4)
          (hhandled ▸ h5) (h6.trans hcopies)

end Wifi
