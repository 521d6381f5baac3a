import DsWifi.Tx.Queue

/-!
# Regions of MAC RAM

Every kind of frame has its region of MAC RAM. The size of a frame is compared with an end offset,
which is the size of the region only where the region starts at `0`.

* `tx_regions_iff` — every flush copies inside the region of the frame's kind if and only if no
  flush meets a reply of more than 256 bytes that is not larger than the end offset either
-/

namespace Wifi

open Infra Infra.Mem Infra.TaggedRing

/-! ## Type bits -/

theorem and_two_pow_of_lt {size k : Nat} (h : size < 2 ^ k) : size &&& 2 ^ k = 0 := by
  refine Nat.eq_of_testBit_eq fun i => ?_
  rw [Nat.testBit_and, Nat.testBit_two_pow, Nat.zero_testBit]
  by_cases hi : k = i
  · rw [← hi, Nat.testBit_lt_two_pow h, Bool.false_and]
  · rw [decide_eq_false hi, Bool.and_false]

/-- The type bits of a size tag are those it was written with. -/
theorem tag_and_two_pow {size flags k : Nat} (hs : size < 2 ^ 28) (hk : 28 ≤ k) :
    (size ||| flags) &&& 2 ^ k = flags &&& 2 ^ k := by
  have hlt : size < 2 ^ k := hs.trans_le (Nat.pow_le_pow_right (by decide) hk)
  rw [Nat.and_or_distrib_right, and_two_pow_of_lt hlt, Nat.zero_or]

/-- Beacons are the frames with the type bit of beacons. -/
theorem QueuedFrame.le_of_beacon {f : Frame txGeometry} (hf : QueuedFrame f)
    (hb : f.tag &&& wflagSendAsBeacon ≠ 0) : f.body.length ≤ 512 := by
  obtain ⟨flags, hflags, htag⟩ := List.mem_map.mp hf.tag_mem
  have hbit : flags &&& wflagSendAsBeacon ≠ 0 := by
    rwa [← htag, show wflagSendAsBeacon = 2 ^ 29 from rfl,
      tag_and_two_pow hf.size_lt (by decide)] at hb
  have hbeacon : flags = wflagSendAsBeacon := by
    clear htag
    revert flags
    decide
  exact hf.beacon_le (by rw [← htag, hbeacon])

/-! ## Regions -/

namespace Arm7Tx

/-- The region of MAC RAM for a frame with this size tag: its start and its end. -/
def region (s : Arm7Tx) (status : Nat) : Nat × Nat :=
  if status &&& wflagSendAsReply ≠ 0 then (s.replyDestination.1, s.replyDestination.1 + 256)
  else if status &&& wflagSendAsBeacon ≠ 0 then (macBeaconStartOffset, macBeaconEndOffset)
  else (macTxbufStartOffset, macTxbufEndOffset)

/-- The reply at the reader fits in the selected buffer, or is rejected. -/
def ReplyFits (s : Arm7Tx) : Prop :=
  s.headStatus &&& wflagSendAsReply ≠ 0 →
    s.headStatus &&& wflagSendSizeMask ≤ 256 ∨
      s.replyDestination.2 < s.headStatus &&& wflagSendSizeMask

instance (s : Arm7Tx) : Decidable s.ReplyFits := inferInstanceAs (Decidable (_ → _))

end Arm7Tx

/-- The flush copies inside the region of the frame at the reader. -/
def FlushedInside (s s' : Arm7Tx) : Prop :=
  ∃ new, s'.copies = s.copies ++ new ∧ ∀ copy ∈ new,
    (s.region s.headStatus).1 ≤ copy.1 ∧ copy.1 + copy.2 ≤ (s.region s.headStatus).2

variable {s : Arm7Tx} {e : Nat} {q : List (Frame txGeometry)}

/-- A frame is copied to the start of its region. -/
theorem target_eq_region (s : Arm7Tx) (status : Nat) :
    (s.target status).1 = (s.region status).1 := by
  unfold Arm7Tx.target Arm7Tx.region
  split
  · rfl
  · split <;> rfl

/-- A frame that passes the check lies in its region, unless it is a large reply. -/
theorem copied_inside_iff {f : Frame txGeometry} (hf : QueuedFrame f) (htag : s.headStatus = f.tag)
    (hfits : s.HeadFits) :
    (s.region f.tag).1 + 2 * ((f.body.length + 1) / 2) ≤ (s.region f.tag).2 ↔ s.ReplyFits := by
  have hsize : f.tag &&& wflagSendSizeMask = f.body.length := f.len_tag
  unfold Arm7Tx.HeadFits at hfits
  unfold Arm7Tx.ReplyFits
  rw [htag, hsize] at hfits ⊢
  unfold Arm7Tx.target at hfits
  unfold Arm7Tx.region
  by_cases hreply : f.tag &&& wflagSendAsReply ≠ 0
  · simp only [if_pos hreply] at hfits ⊢
    simp only [ne_eq, hreply, not_false_eq_true, forall_const]
    omega
  · simp only [if_neg hreply] at hfits ⊢
    refine iff_of_true ?_ (fun hr => absurd hr hreply)
    by_cases hbeacon : f.tag &&& wflagSendAsBeacon ≠ 0
    · have := hf.le_of_beacon hbeacon
      simp only [if_pos hbeacon, macBeaconStartOffset, macBeaconEndOffset]
      omega
    · simp only [if_neg hbeacon, macTxbufStartOffset, macTxbufEndOffset] at hfits ⊢
      omega

theorem FlushedInside.of_copies_eq {s' : Arm7Tx} (h : s'.copies = s.copies) : FlushedInside s s' :=
  ⟨[], by rw [h, List.append_nil], by simp⟩

/-- Only replies that are rejected are larger than the end offset. -/
theorem replyFits_of_not_headFits (h : ¬ s.HeadFits) : s.ReplyFits := by
  intro hreply
  right
  unfold Arm7Tx.HeadFits Arm7Tx.target at h
  rw [if_pos hreply] at h
  omega

theorem TxInv.replyFits_of_nil (h : TxInv s.ring e []) : s.ReplyFits := by
  intro hreply
  rcases h.headStatus_cases with ⟨h0, -⟩ | ⟨f, fs, hq, -⟩
  · rw [h0, Nat.zero_and] at hreply
    exact absurd rfl hreply
  · cases hq

/-- **A flush copies inside the region exactly when the reply fits.** -/
theorem TxInv.flushedInside_iff (h : TxInv s.ring e q) (hflag : ∀ f ∈ q, f.tag ≠ f.body.length)
    (env : Arm7Env) : FlushedInside s (s.txArm9QueueFlush env).1 ↔ s.ReplyFits := by
  cases h.flush hflag env with
  | nothing hq _ _ _ _ hcopies =>
    subst hq
    exact iff_of_true (.of_copies_eq hcopies) h.replyFits_of_nil
  | rejected _ _ hbig _ _ _ _ _ hcopies =>
    exact iff_of_true (.of_copies_eq hcopies) (replyFits_of_not_headFits hbig)
  | @copied f fs hq htag hfits _ _ _ _ hcopies =>
    have hf := h.queued f (by rw [hq]; exact List.mem_cons_self ..)
    rw [← copied_inside_iff hf htag hfits, FlushedInside, hcopies, htag, target_eq_region]
    constructor
    · rintro ⟨new, hnew, hin⟩
      rw [← List.append_cancel_left hnew] at hin
      exact (hin _ (List.mem_singleton_self _)).2
    · intro hin
      refine ⟨_, rfl, fun copy hcopy => ?_⟩
      rw [List.mem_singleton.mp hcopy]
      exact ⟨Nat.le_refl _, hin⟩

/-! ## Runs -/

/-- The ring is intact, the reader may have stopped, and all frames have type bits. -/
structure Flagged (ring : TxRing) (e : Nat) (q : List (Frame txGeometry)) : Prop where
  ring : TxInv ring e q
  flagged : ∀ f ∈ q, f.tag ≠ f.body.length

/-- The invariant of NTR mode for all runs. -/
def RingFlagged (ring : TxRing) : Prop := ∃ e q, Flagged ring e q

theorem RingFlagged.init : RingFlagged .init := ⟨0, [], .init, by simp⟩

theorem RingFlagged.call {ring : TxRing} (h : RingFlagged ring) {env : TxEnv} {call : TxCall}
    (hmode : env.dsiMode = false) (hobject : call.IsObject) :
    RingFlagged (call.run env ring).1 := by
  obtain ⟨e, q, h⟩ := h
  have henq := h.ring.call env call hobject
  generalize call.run env ring = r at henq ⊢
  cases henq with
  | refused _ _ hinv => exact ⟨e, q, hinv, h.flagged⟩
  | @queued ring' f hf htag _ _ hinv =>
    refine ⟨ring'.txbufWrite, q ++ [f], hinv, fun g hg => ?_⟩
    rcases List.mem_append.mp hg with hg | hg
    · exact h.flagged g hg
    · rw [List.mem_singleton.mp hg]
      exact call.tag_ne_size hmode hf htag
  | stopped _ _ hinv => exact ⟨e, [], hinv, by simp⟩

/-- A flush leaves frames that have been there. -/
theorem Flagged.flush_subset {e : Nat} {q : List (Frame txGeometry)} (h : Flagged s.ring e q)
    (env : Arm7Env) : ∃ e' q', Flagged (s.txArm9QueueFlush env).1.ring e' q' ∧ q' ⊆ q := by
  cases h.ring.flush h.flagged env with
  | nothing _ _ hinv => exact ⟨e, [], ⟨hinv, by simp⟩, List.nil_subset q⟩
  | copied hq _ _ _ hinv =>
    subst hq
    exact ⟨e, _, ⟨hinv, fun f hf => h.flagged f (List.mem_cons_of_mem _ hf)⟩,
      List.subset_cons_self _ _⟩
  | rejected _ _ _ _ hinv => exact ⟨_, [], ⟨hinv, by simp⟩, List.nil_subset q⟩

theorem RingFlagged.flush (h : RingFlagged s.ring) (env : Arm7Env) :
    RingFlagged (s.txArm9QueueFlush env).1.ring := by
  obtain ⟨e, q, h⟩ := h
  obtain ⟨e', q', h', -⟩ := h.flush_subset env
  exact ⟨e', q', h'⟩

theorem RingFlagged.step (h : RingFlagged s.ring) (ev : TxEvent false) :
    RingFlagged (txStep false s ev).ring := by
  cases ev with
  | call env call hmode hobject => exact h.call hmode hobject
  | flush env => exact h.flush env
  | replySwap => exact h

theorem RingFlagged.run (h : RingFlagged s.ring) (evs : List (TxEvent false)) :
    RingFlagged (run (txStep false) s evs).ring :=
  run_inv (fun s : Arm7Tx => RingFlagged s.ring) (fun _ => True) (fun _ ev hs _ => hs.step ev) h
    fun _ _ => trivial

/-- What each flush does to MAC RAM. -/
def StepInside (s : Arm7Tx) (ev : TxEvent false) : Prop :=
  match ev with
  | .flush _ => FlushedInside s (txStep false s ev)
  | _ => (txStep false s ev).copies = s.copies

/-- No flush meets a reply that is too large for its buffer and small enough for the check. -/
def StepReplyFits (s : Arm7Tx) : TxEvent false → Prop
  | .flush _ => s.ReplyFits
  | _ => True

instance (s : Arm7Tx) (ev : TxEvent false) : Decidable (StepReplyFits s ev) := by
  cases ev <;> unfold StepReplyFits <;> infer_instance

/-- **The regions are respected exactly in the runs whose flushes meet only replies that fit.** -/
theorem tx_regions_iff (evs : List (TxEvent false)) :
    Along (txStep false) StepInside .init evs ↔ Along (txStep false) StepReplyFits .init evs := by
  refine along_iff (fun s => RingFlagged s.ring) (fun _ ev h _ => h.step ev) (fun s ev h => ?_)
    evs .init
  obtain ⟨e, q, h⟩ := h
  cases ev with
  | call env call hmode hobject => exact iff_of_true rfl trivial
  | flush env => exact h.ring.flushedInside_iff h.flagged env
  | replySwap => exact iff_of_true rfl trivial

/-- `Wifi_MultiplayerClientReplyTxFrame` with 256 bytes. -/
def txLongReplyCall : TxEvent false :=
  .call (.zero 0) (.multiplayerClientReplyTxFrame (List.replicate 256 0)) TxEnv.dsiMode_zero
    (by rw [TxCall.IsObject, TxCall.data, List.length_replicate]; decide)

/-- The reply of 298 bytes is copied to the first buffer and the start of the second. -/
theorem txLongReplyCall_outside :
    ¬ Along (txStep false) StepInside .init [txLongReplyCall, .flush .zero] ∧
    (txStep false (txStep false .init txLongReplyCall) (.flush .zero)).copies = [(0xA00, 298)] := by
  obtain ⟨e, q, h⟩ := RingFlagged.step (s := .init) .init txLongReplyCall
  refine ⟨fun halong => ?_, by decide +kernel⟩
  have hfits := (h.ring.flushedInside_iff h.flagged .zero).mp halong.2.1
  exact absurd hfits (by decide +kernel)

end Wifi
