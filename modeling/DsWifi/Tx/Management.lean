import DsWifi.Host.Beacon
import DsWifi.Infra.Outbox

/-!
# Management frames

Authentication, association and NULL frames go through `wifi_tx_queue`
(`source/arm7/ntr/tx_queue.c`), which has room for one. The frames of the ARM9 use the same TX
buffer, and have to wait for them.

* `Arm7Tx.outbox_txArm7QueueAdd` — the queue is an outbox
* `mgtStep_outbox` — all events are events of the outbox
* `mgt_sent_in_order` — the frames that are accepted are started once each and in order, up to the
  last one
-/

namespace Wifi

open Infra Infra.Mem

theorem loadBytes_storeBytes_loadBytes (m src : Mem) (a b : Nat) {n size : Nat} (h : n ≤ size) :
    loadBytes (m.storeBytes a (loadBytes src b size)) a n = loadBytes src b n := by
  have hall := loadBytes_storeBytes m a (loadBytes src b size)
  rw [length_loadBytes] at hall
  rw [← take_loadBytes _ a h, hall, take_loadBytes src b h]

/-! ## The queue as an outbox -/

namespace Arm7Tx

variable {s : Arm7Tx}

/-- The frame is in the TX buffer. -/
theorem loadBytes_txRaw (data : Mem) {datalen : Nat} (hlen : datalen ≤ 2048) :
    loadBytes (s.txRaw data datalen).ram macTxbufStartOffset datalen =
      loadBytes data 0 datalen := by
  have hround : datalen ≤ roundUp32 datalen ∧ roundUp32 datalen ≤ 2048 := by
    rw [roundUp32_eq (by omega)]
    unfold TaggedRing.roundUp
    omega
  have hsmall : ¬ 0x2000 < u32 (macTxbufStartOffset + roundUp32 datalen) := by
    unfold macTxbufStartOffset u32
    omega
  have hsize : datalen ≤ 2 * ((roundUp32 datalen + 1) / 2) := by omega
  show loadBytes (s.macWrite data 0 macTxbufStartOffset (roundUp32 datalen)).ram _ _ = _
  rw [macWrite, if_neg hsmall]
  exact loadBytes_storeBytes_loadBytes s.ram data macTxbufStartOffset 0 hsize

/-- The frame is the last one that has been started. -/
theorem started_txRaw (data : Mem) {datalen : Nat} (hlen : datalen ≤ 2048) :
    (s.txRaw data datalen).started = s.started ++ [loadBytes data 0 datalen] := by
  have hload := loadBytes_txRaw (s := s) data hlen
  have hkeeps : (s.macWrite data 0 macTxbufStartOffset (roundUp32 datalen)).started =
      s.started := by
    unfold macWrite
    split <;> rfl
  rw [← hload, ← hkeeps]
  rfl

theorem txRaw_loc3Busy (data : Mem) (datalen : Nat) : (s.txRaw data datalen).loc3Busy = true := rfl

theorem txRaw_txQueueLen (data : Mem) (datalen : Nat) :
    (s.txRaw data datalen).txQueueLen = s.txQueueLen := by
  show (s.macWrite data 0 macTxbufStartOffset (roundUp32 datalen)).txQueueLen = _
  unfold macWrite
  split <;> rfl

/-- The frame is in the queue. -/
theorem txArm7QueueSetEnqueuedData_eq (s : Arm7Tx) (data : Mem) {datalen : Nat}
    (hlen : datalen ≤ 2048) : ∃ txQueue : Mem,
      s.txArm7QueueSetEnqueuedData data datalen =
        ({ s with txQueue, txQueueLen := datalen }, true) ∧
      loadBytes txQueue 0 datalen = loadBytes data 0 datalen := by
  have hu : u32 (datalen + 1) = datalen + 1 := u32_of_lt (by omega)
  have hsize : datalen ≤ 2 * ((datalen + 1) / 2) := by omega
  have hlen16 : u16 datalen = datalen := Nat.mod_eq_of_lt (by omega)
  rw [txArm7QueueSetEnqueuedData, hu, if_neg (by omega), hlen16]
  exact ⟨_, rfl, loadBytes_storeBytes_loadBytes s.txQueue data 0 0 hsize⟩

/-- The frames of the ARM7. -/
def outbox (s : Arm7Tx) : Outbox (List UInt8) where
  busy := s.loc3Busy
  waiting := if s.txArm7QueueIsEmpty then none else some (loadBytes s.txQueue 0 s.txQueueLen)
  started := s.started

/-- **The queue of the ARM7 is an outbox.** -/
theorem outbox_txArm7QueueAdd (hq : s.QueueFits) (data : Mem) {datalen : Nat}
    (hlen : datalen ≤ 2048) (hpos : datalen ≠ 0) :
    (s.txArm7QueueAdd data datalen).1.outbox = s.outbox.add (loadBytes data 0 datalen) ∧
      (s.txArm7QueueAdd data datalen).2 = s.outbox.accepts := by
  have hset (tx : Arm7Tx) := tx.txArm7QueueSetEnqueuedData_eq data hlen
  have hraw := started_txRaw (s := s) data hlen
  have hflush := started_txRaw (s := s) s.txQueue hq
  by_cases hb : s.loc3Busy = true <;> by_cases h0 : s.txQueueLen = 0
  · -- The frame waits.
    obtain ⟨txQueue, heq, hload⟩ := hset s
    simp [txArm7QueueAdd, outbox, txArm7QueueIsEmpty, hb, h0, heq, hload, hpos, Outbox.add,
      Outbox.accepts]
  · -- There is no room.
    simp [txArm7QueueAdd, outbox, txArm7QueueIsEmpty, hb, h0, Outbox.add, Outbox.accepts]
  · -- The frame is started.
    simp [txArm7QueueAdd, outbox, txArm7QueueIsEmpty, hb, h0, Outbox.add, Outbox.accepts, hraw,
      txRaw_loc3Busy, txRaw_txQueueLen]
  · -- The waiting frame is started, and this one waits.
    obtain ⟨txQueue, heq, hload⟩ := hset s.txArm7QueueFlush
    simp [txArm7QueueAdd, outbox, txArm7QueueIsEmpty, hb, h0, Outbox.add, Outbox.accepts, heq,
      hload, hpos]
    exact ⟨rfl, hflush⟩

/-- A flush starts the waiting frame, or one of the ARM9. -/
theorem outbox_txAllQueueFlush (h : TxSound s) (env : Arm7Env) :
    ∃ oe, (s.txAllQueueFlush env).outbox = s.outbox.step oe ∧ s.outbox.accepted oe = [] := by
  unfold txAllQueueFlush
  rw [← busy]
  by_cases hb : s.busy = true
  · refine ⟨.transfer s.loc3Busy, ?_, rfl⟩
    simp [hb, outbox, Outbox.step]
  rw [Bool.not_eq_true] at hb
  by_cases h0 : s.txQueueLen = 0
  · obtain ⟨e, q, hring⟩ := h.ring
    have hk := KeepsInfo.flush hring hb env
    refine ⟨.transfer (s.txArm9QueueFlush env).1.loc3Busy, ?_, rfl⟩
    simp [hb, outbox, txArm7QueueIsEmpty, hk.txQueueLen, hk.started, h0, Outbox.step]
  · have hstarted := started_txRaw (s := s) s.txQueue h.queueFits
    have hloc3 := (busy_eq_false hb).1
    refine ⟨.flush, ?_, rfl⟩
    simp [hb, hloc3, outbox, txArm7QueueIsEmpty, h0, Outbox.step, Outbox.flush]
    exact ⟨rfl, rfl, hstarted⟩

/-- Everything else leaves the queue alone. -/
theorem outbox_of_keeps {s' : Arm7Tx} (h : KeepsInfo s s') :
    s'.outbox = s.outbox.step (.transfer s'.loc3Busy) := by
  simp [outbox, txArm7QueueIsEmpty, h.txQueue, h.txQueueLen, h.started, Outbox.step]

end Arm7Tx

/-! ## Runs -/

/-- The ARM7, with its frames so far. -/
structure MgtTx where
  tx : Arm7Tx
  /-- The frames for which `Wifi_TxArm7QueueAdd` has returned 1. -/
  accepted : List (List UInt8)

def MgtTx.init : MgtTx := ⟨.init, []⟩

def mgtStep (s : MgtTx) (e : TransferEvent) : MgtTx where
  tx := transferStep s.tx e
  accepted := s.accepted ++
    match e with
    | .arm7QueueAdd data datalen _ =>
      if (s.tx.txArm7QueueAdd data datalen).2 then [loadBytes data 0 datalen] else []
    | _ => []

/-- Nobody adds an empty frame. -/
def TransferEvent.NotEmpty : TransferEvent → Prop
  | .arm7QueueAdd _ datalen _ => datalen ≠ 0
  | _ => True

theorem KeepsInfo.loc3Completes (s : Arm7Tx) (ok : Bool) : KeepsInfo s (s.loc3Completes ok) := by
  unfold Arm7Tx.loc3Completes
  split
  · exact ⟨rfl, rfl, rfl, id⟩
  · exact refl s

theorem TxSound.transferStep {s : Arm7Tx} (h : TxSound s) (e : TransferEvent) :
    TxSound (transferStep s e) := by
  cases e with
  | call env call hmode hobject => exact ⟨h.ring.call hmode hobject, h.infoAddr, h.queueFits⟩
  | arm7QueueAdd data datalen hlen => exact h.keepsBeacon (.txArm7QueueAdd data hlen h.queueFits)
  | allQueueFlush env => exact h.txAllQueueFlush env
  | cmdDone env => exact h.intrMultiplayCmdDone env
  | loc3Completes ok => exact h.keepsBeacon (.loc3Completes s ok)
  | cmdCompletes ok => exact h.cmdCompletes ok
  | replySwap => exact ⟨h.ring, h.infoAddr, h.queueFits⟩

/-- **Every event is one of the outbox**, which accepts the same frame. -/
theorem mgtStep_outbox {s : MgtTx} (h : TxSound s.tx) {e : TransferEvent} (he : e.NotEmpty) :
    ∃ oe, (mgtStep s e).tx.outbox = s.tx.outbox.step oe ∧
      (mgtStep s e).accepted = s.accepted ++ s.tx.outbox.accepted oe := by
  have hkeeps {tx : Arm7Tx} (hk : KeepsInfo s.tx tx) : ∃ oe,
      tx.outbox = s.tx.outbox.step oe ∧
        s.accepted ++ [] = s.accepted ++ s.tx.outbox.accepted oe :=
    ⟨_, Arm7Tx.outbox_of_keeps hk, rfl⟩
  cases e with
  | call env call hmode hobject => exact hkeeps ⟨rfl, rfl, rfl, id⟩
  | arm7QueueAdd data datalen hlen =>
    obtain ⟨hadd, haccepts⟩ := Arm7Tx.outbox_txArm7QueueAdd h.queueFits data hlen he
    refine ⟨.add (loadBytes data 0 datalen), hadd, ?_⟩
    show s.accepted ++ (if _ then _ else _) = _
    rw [haccepts]
    rfl
  | allQueueFlush env =>
    obtain ⟨oe, hflush, haccepted⟩ := Arm7Tx.outbox_txAllQueueFlush h env
    exact ⟨oe, hflush, by rw [haccepted]; rfl⟩
  | cmdDone env => exact hkeeps (.intrMultiplayCmdDone s.tx env)
  | loc3Completes ok => exact hkeeps (.loc3Completes s.tx ok)
  | cmdCompletes ok => exact hkeeps (.cmdCompletes s.tx ok)
  | replySwap => exact hkeeps ⟨rfl, rfl, rfl, id⟩

/-- **Every frame that is accepted is started once and in order**, with its own bytes. At most the
last one still waits. -/
theorem mgt_sent_in_order (es : List TransferEvent) (hes : ∀ e ∈ es, e.NotEmpty) :
    let s := run mgtStep .init es
    s.accepted = s.tx.started ++
      if s.tx.txArm7QueueIsEmpty then [] else [loadBytes s.tx.txQueue 0 s.tx.txQueueLen] := by
  intro s
  have hinv : TxSound s.tx ∧ s.accepted = s.tx.outbox.held := by
    refine run_inv (fun s : MgtTx => TxSound s.tx ∧ s.accepted = s.tx.outbox.held)
      TransferEvent.NotEmpty ?_ ⟨.init, rfl⟩ hes
    rintro s e ⟨hsound, heq⟩ he
    obtain ⟨oe, hout, haccepted⟩ := mgtStep_outbox hsound he
    refine ⟨hsound.transferStep e, ?_⟩
    rw [haccepted, hout, Outbox.held_step, heq]
  rw [hinv.2, Outbox.held, Arm7Tx.outbox]
  dsimp only
  split <;> rfl

/-- Three frames while one is being sent: the second one waits, the third one is refused. -/
def mgtThreeFrames : List TransferEvent :=
  [.arm7QueueAdd (fun _ => 1) 36 (by decide), .arm7QueueAdd (fun _ => 2) 301 (by decide),
    .arm7QueueAdd (fun _ => 3) 40 (by decide), .loc3Completes true, .allQueueFlush .zero]

theorem mgt_sent_in_order_three :
    let s := run mgtStep .init mgtThreeFrames
    s.accepted = s.tx.started ++
      if s.tx.txArm7QueueIsEmpty then [] else [loadBytes s.tx.txQueue 0 s.tx.txQueueLen] :=
  mgt_sent_in_order mgtThreeFrames (by simp [mgtThreeFrames, TransferEvent.NotEmpty])

end Wifi
