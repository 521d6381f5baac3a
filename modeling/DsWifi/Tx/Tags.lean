import DsWifi.Tx.Queue

/-!
# Writers and readers of size tags

The functions of the ARM9 put type bits into the size tag, all but `Wifi_TWL_TransmitFunctionLink`.
The flush of NTR mode masks them off, the flush of DSi mode does not.

* `tx_tags_agree_iff` — every flush reads the tags right if and only if, in DSi mode, no frame with
  type bits is waiting and, in NTR mode, the first frame fits
-/

namespace Wifi

open Infra Infra.Mem Infra.TaggedRing

variable {dsi : Bool} {s : Arm7Tx} {done : List (Nat × List UInt8)} {q : List (Frame txGeometry)}

/-- The flush ends, every size it decodes is that of the stored frame, the reader is at the next
tag, and nothing outside of `txbufData` is read. -/
def FlushedDecoding (dsi : Bool) (env : Arm7Env) (s : Arm7Tx) : Prop :=
  ∃ s', s.txFlush dsi env = some s' ∧ TxRefines s' ∧ s'.inBounds = true

/-- What holds after each step. -/
def StepDecodes (dsi : Bool) (s : Arm7Tx) (ev : TxEvent dsi) : Prop :=
  match ev with
  | .flush env => FlushedDecoding dsi env s
  | _ => TxRefines (txStep dsi s ev)

/-- The queued frames that have not been dealt with. -/
def Arm7Tx.waiting (s : Arm7Tx) : List (Nat × List UInt8) := s.ring.queued.drop s.handled.length

/-- The flush meets only frames that it understands. -/
def StepUnderstood (dsi : Bool) (s : Arm7Tx) : TxEvent dsi → Prop
  | .flush _ => if dsi then ∀ f ∈ s.waiting, f.1 = 0 else s.HeadFits
  | _ => True

theorem Flowing.waiting (h : Flowing dsi s done q) : s.waiting = q.map asQueued := by
  rw [Arm7Tx.waiting, h.queued, ← h.whole.length_eq, List.drop_left]

/-- No type bits are waiting when the tags are the sizes. -/
theorem Flowing.plain_iff (h : Flowing dsi s done q) :
    (∀ f ∈ s.waiting, f.1 = 0) ↔ ∀ f ∈ q, f.tag = f.body.length := by
  rw [h.waiting, List.forall_mem_map]
  refine forall₂_congr fun f hf => ?_
  have hle : f.body.length ≤ f.tag := by
    obtain ⟨flags, -, htag⟩ := List.mem_map.mp (h.ring.queued f hf).tag_mem
    rw [← htag]
    exact Nat.left_le_or
  rw [asQueued]
  omega

/-- Frames without type bits are all sent. -/
theorem Flowing.twlFlush (h : Flowing true s done q) (hplain : ∀ f ∈ q, f.tag = f.body.length) :
    ∃ s', s.twlTxArm9QueueFlush = some s' ∧ Flowing true s' s.ring.queued [] := by
  have hlen := h.ring.view.length_le
  rw [txGeometry_cap] at hlen
  obtain ⟨s', hs', hinv, hw, hhandled⟩ := h.ring.flushLoop hplain
    (show q.length < wifiTxBufferSize by unfold wifiTxBufferSize; omega)
  refine ⟨s', hs', ?_, ?_, ?_, by simp, hw.inBounds.trans h.inBounds⟩
  · rwa [hw.write]
  · rw [hw.queued, List.map_nil, List.append_nil]
  · rw [hhandled, h.queued]
    refine List.rel_append h.whole ?_
    rw [List.forall₂_map_left_iff, List.forall₂_map_right_iff]
    exact List.forall₂_same.mpr fun _ _ => rfl

theorem Flowing.flush_step (h : Flowing dsi s done q) (env : Arm7Env)
    (hev : StepUnderstood dsi s (.flush env)) :
    ∃ s' done' q', s.txFlush dsi env = some s' ∧ Flowing dsi s' done' q' := by
  cases dsi with
  | false =>
    obtain ⟨done', q', h'⟩ := h.flush env hev
    exact ⟨_, done', q', rfl, h'⟩
  | true =>
    obtain ⟨s', hs', h'⟩ := h.twlFlush (h.plain_iff.mp hev)
    exact ⟨s', _, [], hs', h'⟩

theorem Flowing.flushedDecoding_iff (h : Flowing dsi s done q) (env : Arm7Env) :
    FlushedDecoding dsi env s ↔ StepUnderstood dsi s (.flush env) := by
  constructor
  · rintro ⟨s', hs', href, hb⟩
    cases dsi with
    | false =>
      obtain rfl := Option.some.inj hs'
      cases h.ring.flush (h.flagged rfl) env with
      | nothing hq => subst hq; exact h.headFits_of_nil
      | copied _ _ hfits => exact hfits
      | rejected _ _ _ _ hinv hread => exact absurd href (not_refines hinv hread rfl)
    | true =>
      refine h.plain_iff.mpr ?_
      by_contra hflag
      push Not at hflag
      rw [h.ring.flushLoop_of_flags hflag hs'] at hb
      cases hb
  · intro hev
    obtain ⟨s', done', q', hs', h'⟩ := h.flush_step env hev
    exact ⟨s', hs', h'.refines, h'.inBounds⟩

theorem Flowing.stepDecodes_iff (h : Flowing dsi s done q) (ev : TxEvent dsi) :
    StepDecodes dsi s ev ↔ StepUnderstood dsi s ev := by
  cases ev with
  | call env call hmode hobject =>
    obtain ⟨q', h'⟩ := h.call hmode hobject
    exact iff_of_true h'.refines trivial
  | flush env => exact h.flushedDecoding_iff env
  | replySwap => exact iff_of_true h.refines trivial

theorem Flowing.step_understood (h : Flowing dsi s done q) {ev : TxEvent dsi}
    (hev : StepUnderstood dsi s ev) : ∃ done' q', Flowing dsi (txStep dsi s ev) done' q' := by
  cases ev with
  | call env call hmode hobject =>
    obtain ⟨q', h'⟩ := h.call hmode hobject
    exact ⟨done, q', h'⟩
  | flush env =>
    obtain ⟨s', done', q', hs', h'⟩ := h.flush_step env hev
    refine ⟨done', q', ?_⟩
    rwa [txStep, hs']
  | replySwap => exact ⟨done, q, { h with }⟩

/-- **The readers decode the tags exactly in the runs that bring them frames they understand.** -/
theorem tx_tags_agree_iff (dsi : Bool) (evs : List (TxEvent dsi)) :
    Along (txStep dsi) (StepDecodes dsi) .init evs ↔
      Along (txStep dsi) (StepUnderstood dsi) .init evs :=
  along_iff (fun s => ∃ done q, Flowing dsi s done q)
    (fun _ _ ⟨_, _, h⟩ hev => h.step_understood hev)
    (fun _ ev ⟨_, _, h⟩ => h.stepDecodes_iff ev) evs ⟨_, _, .init dsi⟩

/-- `Wifi_RawTxFrame` in DSi mode. -/
def txDsiRawCall : TxEvent true :=
  .call (.zero wflagReqDsiMode) (.rawTxFrame 0 [1, 2]) rfl (show 2 < 2 ^ 31 by decide)

/-- The flush takes the frame of 18 bytes for one of more than `2 ^ 28`. -/
theorem txDsiRawCall_misread : ¬ Along (txStep true) (StepDecodes true) .init
    [txDsiRawCall, .flush .zero] := by
  obtain ⟨_, q, h⟩ : ∃ done q, Flowing true (txStep true .init txDsiRawCall) done q :=
    (Flowing.init true).step_understood trivial
  intro halong
  have hplain := (h.flushedDecoding_iff .zero).mp halong.2.1
  rw [StepUnderstood, if_pos rfl] at hplain
  exact absurd hplain (by decide +kernel)

end Wifi
