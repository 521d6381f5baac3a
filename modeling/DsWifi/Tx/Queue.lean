import DsWifi.Infra.Run
import DsWifi.Tx.Card

/-!
# The TX ring is a queue

The ARM9 calls its TX functions, the ARM7 flushes. Seen from outside (`TxRefines`), the frames whose
call has returned `0` are the ones the ARM7 has dealt with, each whole, followed by the ones that a
reader at `txbufRead` finds up to the tag at `txbufWrite`.

* `tx_flush_whole_iff` — in NTR mode every flush keeps the picture if and only if no flush meets a
  frame larger than the end offset of the MAC RAM region it goes to
-/

namespace Wifi

open Infra Infra.Mem Infra.TaggedRing

/-! ## Runs -/

/-- Whether `WFLAG_REQ_DSI_MODE` is set. -/
def TxEnv.dsiMode (env : TxEnv) : Bool := decide (env.reqFlags &&& wflagReqDsiMode ≠ 0)

@[simp] theorem TxEnv.dsiMode_zero : (TxEnv.zero 0).dsiMode = false := rfl

/-- What can happen, in one of the two driver modes. -/
inductive TxEvent (dsi : Bool)
  /-- The ARM9 calls one of its functions. -/
  | call (env : TxEnv) (call : TxCall) (hmode : env.dsiMode = dsi) (hobject : call.IsObject)
  /-- The ARM7 runs the flush of the mode. -/
  | flush (env : Arm7Env)
  /-- The hardware takes the other reply buffer into use. -/
  | replySwap

/-- The flush of the mode, if it ends. -/
def Arm7Tx.txFlush (dsi : Bool) (env : Arm7Env) (s : Arm7Tx) : Option Arm7Tx :=
  if dsi then s.twlTxArm9QueueFlush else some (s.txArm9QueueFlush env).1

def txStep (dsi : Bool) (s : Arm7Tx) : TxEvent dsi → Arm7Tx
  | .call env call _ _ => { s with ring := (call.run env s.ring).1 }
  | .flush env => (s.txFlush dsi env).getD s
  | .replySwap => s.replySwap

/-! ## The queue -/

/-- The type bits and the bytes of a frame in the ring. -/
def asQueued (f : Frame txGeometry) : Nat × List UInt8 := (f.tag - f.body.length, f.body)

/-- The frame was copied whole, sent whole or dropped whole. -/
def Whole (f : Nat × List UInt8) : TxHandled → Prop
  | .copied _ bytes => bytes = f.2
  | .sent bytes => bytes = f.2
  | .rejected => True

/-- The ring holds the queued frames that have not been dealt with yet. -/
def TxRefines (s : Arm7Tx) : Prop :=
  ∃ done q, View txGeometry s.ring.txbufData s.ring.txbufRead s.ring.txbufWrite q ∧
    s.ring.queued = done ++ q.map asQueued ∧ List.Forall₂ Whole done s.handled

/-- The invariant as long as every flush has taken whole frames. -/
structure Flowing (dsi : Bool) (s : Arm7Tx) (done : List (Nat × List UInt8))
    (q : List (Frame txGeometry)) : Prop where
  ring : TxInv s.ring s.ring.txbufWrite q
  queued : s.ring.queued = done ++ q.map asQueued
  whole : List.Forall₂ Whole done s.handled
  flagged : dsi = false → ∀ f ∈ q, f.tag ≠ f.body.length
  inBounds : s.inBounds = true

theorem Flowing.init (dsi : Bool) : Flowing dsi .init [] [] where
  ring := .init
  queued := rfl
  whole := .nil
  flagged _ := by simp
  inBounds := rfl

variable {dsi : Bool} {s : Arm7Tx} {done : List (Nat × List UInt8)} {q : List (Frame txGeometry)}

theorem Flowing.refines (h : Flowing dsi s done q) : TxRefines s :=
  ⟨done, q, h.ring.view, h.queued, h.whole⟩

theorem asQueued_eq {f : Frame txGeometry} {flags : Nat} (hf : QueuedFrame f)
    (hflags : flags ∈ txFlags) (htag : f.tag = f.body.length ||| flags) :
    asQueued f = (flags, f.body) := by
  rw [asQueued, htag, or_eq_add hf.size_lt hflags, Nat.add_sub_cancel_left]

theorem TxCall.flags_ne_zero {env : TxEnv} (h : env.dsiMode = false) (call : TxCall) :
    call.flags env ≠ 0 := by
  have hmode : ¬ (env.reqFlags &&& wflagReqDsiMode ≠ 0) := of_decide_eq_false h
  cases call with
  | transmitFunctionLink src => simp only [flags, if_neg hmode]; decide
  | _ => exact Nat.succ_ne_zero _

/-- In NTR mode every queued frame has type bits. -/
theorem TxCall.tag_ne_size {env : TxEnv} (h : env.dsiMode = false) (call : TxCall)
    {f : Frame txGeometry} (hf : QueuedFrame f) (htag : f.tag = f.body.length ||| call.flags env) :
    f.tag ≠ f.body.length := by
  have hflags := TxCall.flags_ne_zero h call
  rw [htag, or_eq_add hf.size_lt (call.flags_mem env)]
  omega

/-- A call leaves a queue. -/
theorem Flowing.call (h : Flowing dsi s done q) {env : TxEnv} {call : TxCall}
    (hmode : env.dsiMode = dsi) (hobject : call.IsObject) :
    ∃ q', Flowing dsi { s with ring := (call.run env s.ring).1 } done q' := by
  have henq := h.ring.call env call hobject
  generalize call.run env s.ring = r at henq ⊢
  cases henq with
  | refused hwrite hqueued hinv =>
    refine ⟨q, ?_, hqueued.trans h.queued, h.whole, h.flagged, h.inBounds⟩
    dsimp only
    rwa [hwrite]
  | queued hf htag hqueued he hinv =>
    rename_i ring' f
    refine ⟨q ++ [f], hinv, ?_, h.whole, ?_, h.inBounds⟩
    · dsimp only
      rw [hqueued, h.queued, List.map_append, List.map_singleton, List.append_assoc,
        asQueued_eq hf (call.flags_mem env) htag]
    · intro hd g hg
      rcases List.mem_append.mp hg with hg | hg
      · exact h.flagged hd g hg
      · rw [List.mem_singleton.mp hg]
        exact call.tag_ne_size (hmode.trans hd) hf htag
  | stopped hne hq hinv => exact absurd rfl hne

/-! ## NTR mode -/

/-- The reader stands at an end tag that is not the writer's. -/
theorem not_refines {ring : TxRing} (h : TxInv ring ring.txbufRead [])
    (hne : ring.txbufRead ≠ ring.txbufWrite) (hs : s.ring = ring) : ¬ TxRefines s := by
  rintro ⟨done, q, hview, -⟩
  rw [hs] at hview
  have hz := h.view.end_zero
  cases q with
  | nil =>
    rcases hview.nil with hre | ⟨hw, -⟩
    · exact hne hre
    · exact absurd (hw.symm.trans hz) (by decide)
  | cons f fs => exact hview.load32_ne_zero (by decide) hz

/-- The flush dealt with the first frame of the queue as a whole, and counted it if it was
rejected. -/
def FlushedWhole (s s' : Arm7Tx) : Prop :=
  TxRefines s' ∧ ∃ new, s'.handled = s.handled ++ new ∧
    (.rejected ∈ new → s'.ring.txQueuedRejected = u32 (s.ring.txQueuedRejected + 1))

theorem Flowing.headFits_of_nil (h : Flowing dsi s done []) : s.HeadFits := by
  rcases h.ring.headStatus_cases with ⟨h0, -⟩ | ⟨f, fs, hq, -⟩
  · rw [Arm7Tx.HeadFits, h0, Nat.zero_and]
    exact Nat.zero_le _
  · cases hq

/-- A flush that fits takes the first frame of the queue. -/
theorem Flowing.flush (h : Flowing false s done q) (env : Arm7Env) (hfits : s.HeadFits) :
    ∃ done' q', Flowing false (s.txArm9QueueFlush env).1 done' q' := by
  cases h.ring.flush (h.flagged rfl) env with
  | nothing hq hw hinv hrej hhandled hcopies =>
    refine ⟨done, [], ?_, ?_, hhandled ▸ h.whole, by simp, hw.inBounds.trans h.inBounds⟩
    · rwa [hw.write]
    · rw [hw.queued, h.queued, hq]
  | copied hq htag hfits' hw hinv hrej hhandled hcopies =>
    rename_i f fs
    subst hq
    refine ⟨done ++ [asQueued f], fs, ?_, ?_, ?_, ?_, hw.inBounds.trans h.inBounds⟩
    · rwa [hw.write]
    · rw [hw.queued, h.queued, List.map_cons, List.append_assoc, List.singleton_append]
    · rw [hhandled]
      exact List.rel_append h.whole (.cons rfl .nil)
    · exact fun _ g hg => h.flagged rfl g (List.mem_cons_of_mem f hg)
  | rejected hq htag hbig => exact absurd hfits hbig

/-- **A flush deals with whole frames exactly when the first one fits.** -/
theorem Flowing.flushedWhole_iff (h : Flowing false s done q) (env : Arm7Env) :
    FlushedWhole s (s.txArm9QueueFlush env).1 ↔ s.HeadFits := by
  constructor
  · rintro ⟨href, -⟩
    cases h.ring.flush (h.flagged rfl) env with
    | nothing hq => subst hq; exact h.headFits_of_nil
    | copied _ _ hfits => exact hfits
    | rejected _ _ _ _ hinv hread => exact absurd href (not_refines hinv hread rfl)
  · intro hfits
    obtain ⟨done', q', hflow⟩ := h.flush env hfits
    refine ⟨hflow.refines, ?_⟩
    cases h.ring.flush (h.flagged rfl) env with
    | nothing _ _ _ _ hhandled => exact ⟨[], by rw [hhandled, List.append_nil], by simp⟩
    | copied _ _ _ _ _ _ hhandled => exact ⟨_, hhandled, by simp⟩
    | rejected _ _ hbig => exact absurd hfits hbig

/-- What holds after each step: the picture of the queue, and for a flush that it took a whole
frame. -/
def StepWhole (s : Arm7Tx) (ev : TxEvent false) : Prop :=
  match ev with
  | .flush _ => FlushedWhole s (txStep false s ev)
  | _ => TxRefines (txStep false s ev)

/-- No flush meets a frame that is too large for its region's end offset. -/
def StepFits (s : Arm7Tx) : TxEvent false → Prop
  | .flush _ => s.HeadFits
  | _ => True

theorem Flowing.stepWhole_iff (h : Flowing false s done q) (ev : TxEvent false) :
    StepWhole s ev ↔ StepFits s ev := by
  cases ev with
  | call env call hmode hobject =>
    obtain ⟨q', h'⟩ := h.call hmode hobject
    exact iff_of_true h'.refines trivial
  | flush env => exact h.flushedWhole_iff env
  | replySwap => exact iff_of_true h.refines trivial

theorem Flowing.step (h : Flowing false s done q) {ev : TxEvent false} (hev : StepFits s ev) :
    ∃ done' q', Flowing false (txStep false s ev) done' q' := by
  cases ev with
  | call env call hmode hobject =>
    obtain ⟨q', h'⟩ := h.call hmode hobject
    exact ⟨done, q', h'⟩
  | flush env => exact h.flush env hev
  | replySwap => exact ⟨done, q, { h with }⟩

/-- **Frames stay whole exactly in the runs whose flushes never meet a frame that is too large.** -/
theorem tx_flush_whole_iff (evs : List (TxEvent false)) :
    Along (txStep false) StepWhole .init evs ↔ Along (txStep false) StepFits .init evs :=
  along_iff (fun s => ∃ done q, Flowing false s done q)
    (fun _ _ ⟨_, _, h⟩ hev => h.step hev) (fun _ ev ⟨_, _, h⟩ => h.stepWhole_iff ev) evs
    ⟨_, _, .init false⟩

/-- With an empty view no flush does anything any more. -/
theorem TxInv.iterate_flush {e : Nat} (h : TxInv s.ring e []) (env : Arm7Env) (n : Nat) :
    TxInv ((fun s => (Arm7Tx.txArm9QueueFlush env s).1)^[n] s).ring e [] ∧
    ((fun s => (Arm7Tx.txArm9QueueFlush env s).1)^[n] s).handled = s.handled := by
  induction n with
  | zero => exact ⟨h, rfl⟩
  | succ n ih =>
    rw [Function.iterate_succ_apply']
    cases ih.1.flush (by simp) env with
    | nothing _ _ hinv _ hhandled => exact ⟨hinv, hhandled.trans ih.2⟩
    | copied hq => cases hq
    | rejected hq => cases hq

/-- `Wifi_RawTxFrame` with a frame of 2561 bytes, one more than the TX buffer has. -/
def txLargeCall : TxEvent false :=
  .call (.zero 0) (.rawTxFrame 0 (List.replicate 2545 0)) TxEnv.dsiMode_zero
    (by rw [TxCall.IsObject, TxCall.data, List.length_replicate]; decide)

/-- `Wifi_RawTxFrame` with two bytes. -/
def txSmallCall : TxEvent false :=
  .call (.zero 0) (.rawTxFrame 0 [1, 2]) TxEnv.dsiMode_zero (by decide)

/-- The large frame and the small one are queued. -/
def txAfterCalls : Arm7Tx := txStep false (txStep false .init txLargeCall) txSmallCall

/-- The first flush rejects the large frame, and the small one is never sent. -/
theorem txAfterCalls_stuck :
    ¬ Along (txStep false) StepWhole .init [txLargeCall, txSmallCall, .flush .zero] ∧
    txAfterCalls.ring.queued.length = 2 ∧
    ∀ n, ((fun s => (Arm7Tx.txArm9QueueFlush .zero s).1)^[n]
      (txStep false txAfterCalls (.flush .zero))).handled = [.rejected] := by
  obtain ⟨_, q, h⟩ : ∃ done q, Flowing false txAfterCalls done q := by
    obtain ⟨_, _, h⟩ : ∃ done q, Flowing false (txStep false .init txLargeCall) done q :=
      (Flowing.init false).step trivial
    exact h.step trivial
  have hbig : ¬ txAfterCalls.HeadFits := by decide +kernel
  refine ⟨fun halong => ?_, by decide +kernel, fun n => ?_⟩
  · exact hbig ((h.flushedWhole_iff .zero).mp halong.2.2.1)
  · cases h.ring.flush (h.flagged rfl) .zero with
    | nothing hq => subst hq; exact absurd h.headFits_of_nil hbig
    | copied _ _ hfits => exact absurd hfits hbig
    | rejected _ _ _ _ hinv _ _ hhandled => exact (hinv.iterate_flush .zero n).2.trans hhandled

end Wifi
