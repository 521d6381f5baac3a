import DsWifi.Tx.Management

/-!
# The queue of one frame

`wifi_tx_queue` (`source/arm7/ntr/tx_queue.c`) is an array of halfwords, the frames have their
lengths in bytes, and what is copied is counted in halfwords again. The check of
`Wifi_TxArm7QueueSetEnqueuedData` compares the halfwords with the size of the array in bytes.

* `txArm7QueueSetEnqueuedData_whole_iff` — the lengths that are kept out or sent as they are
-/

namespace Wifi

open Infra Infra.Mem

namespace Arm7Tx

/-- `sizeof(wifi_tx_queue)`. -/
def sizeofTxQueue : Nat := 2 * 1024

/-- How many bytes the loop of `Wifi_TxArm7QueueSetEnqueuedData` writes. -/
def enqueuedSize (datalen : Nat) : Nat := 2 * (u32 (datalen + 1) / 2)

/-- `Wifi_TxArm7QueueFlush` passes this frame on, and `Wifi_TxRaw` copies it to its part of MAC
RAM. -/
structure FlushesFrame (s : Arm7Tx) (frame : List UInt8) : Prop where
  length : s.txQueueLen = frame.length
  queue : loadBytes s.txQueue 0 s.txQueueLen = frame
  inside : ∃ size, s.txArm7QueueFlush.copies = s.copies ++ [(macTxbufStartOffset, size)] ∧
    frame.length ≤ size ∧ macTxbufStartOffset + size ≤ macTxbufEndOffset
  copied : loadBytes s.txArm7QueueFlush.ram macTxbufStartOffset frame.length = frame

/-- A frame that is refused leaves the queue alone. One that is accepted is written to the array,
and the next flush passes it on, whatever has happened to the rest of the state. -/
structure QueuesWhole (s : Arm7Tx) (data : Mem) (datalen : Nat) : Prop where
  refused : (s.txArm7QueueSetEnqueuedData data datalen).2 = false →
    (s.txArm7QueueSetEnqueuedData data datalen).1.txQueue = s.txQueue ∧
      (s.txArm7QueueSetEnqueuedData data datalen).1.txQueueLen = s.txQueueLen
  inside : (s.txArm7QueueSetEnqueuedData data datalen).2 = true →
    enqueuedSize datalen ≤ sizeofTxQueue
  flushed : (s.txArm7QueueSetEnqueuedData data datalen).2 = true → ∀ t : Arm7Tx,
    t.txQueue = (s.txArm7QueueSetEnqueuedData data datalen).1.txQueue →
    t.txQueueLen = (s.txArm7QueueSetEnqueuedData data datalen).1.txQueueLen →
      t.FlushesFrame (loadBytes data 0 datalen)

variable {s : Arm7Tx} {data : Mem} {datalen : Nat}

/-- What is refused. -/
theorem txArm7QueueSetEnqueuedData_of_lt (s : Arm7Tx) (data : Mem)
    (h : sizeofTxQueue < u32 (datalen + 1) / 2) :
    s.txArm7QueueSetEnqueuedData data datalen = (s, false) :=
  if_pos h

/-- What is accepted. -/
theorem txArm7QueueSetEnqueuedData_of_le (s : Arm7Tx) (data : Mem)
    (h : ¬ sizeofTxQueue < u32 (datalen + 1) / 2) :
    s.txArm7QueueSetEnqueuedData data datalen =
      ({ s with
        txQueue := s.txQueue.storeBytes 0 (loadBytes data 0 (enqueuedSize datalen))
        txQueueLen := u16 datalen }, true) :=
  if_neg h

/-- `Wifi_TxRaw` copies up to three bytes behind the frame. -/
theorem txRaw_copies (data : Mem) (hlen : datalen ≤ sizeofTxQueue) :
    ∃ size, (s.txRaw data datalen).copies = s.copies ++ [(macTxbufStartOffset, size)] ∧
      datalen ≤ size ∧ macTxbufStartOffset + size ≤ macTxbufEndOffset := by
  unfold sizeofTxQueue at hlen
  have hround : datalen ≤ roundUp32 datalen ∧ roundUp32 datalen ≤ 2048 := by
    rw [roundUp32_eq (by omega)]
    unfold TaggedRing.roundUp
    omega
  have hcopies := (loadBytes_macWrite (s := s) data 0
    (show macTxbufStartOffset + roundUp32 datalen ≤ 0x2000 by unfold macTxbufStartOffset; omega)).2
  refine ⟨_, hcopies, by omega, ?_⟩
  unfold macTxbufStartOffset macTxbufEndOffset
  omega

/-- A frame that fits is passed on. -/
theorem flushesFrame_of_le (hlen : datalen ≤ sizeofTxQueue) (hqueueLen : s.txQueueLen = datalen)
    (hqueue : loadBytes s.txQueue 0 datalen = loadBytes data 0 datalen) :
    s.FlushesFrame (loadBytes data 0 datalen) := by
  have hcopied : loadBytes (s.txRaw s.txQueue datalen).ram macTxbufStartOffset datalen =
      loadBytes s.txQueue 0 datalen := loadBytes_txRaw s.txQueue hlen
  subst hqueueLen
  refine ⟨(length_loadBytes ..).symm, hqueue, ?_, ?_⟩
  · rw [length_loadBytes]
    exact txRaw_copies s.txQueue hlen
  · rw [length_loadBytes, ← hqueue]
    exact hcopied

/-- Lengths that the check lets through although the array is too small for them, or that have
wrapped before the check. -/
theorem queuesWhole_iff (s : Arm7Tx) (data : Mem) (hsize : datalen < 2 ^ 32) :
    s.QueuesWhole data datalen ↔
      datalen ≤ sizeofTxQueue ∨
        2 * sizeofTxQueue < datalen ∧ datalen ≠ 2 ^ 32 - 1 := by
  by_cases hcheck : sizeofTxQueue < u32 (datalen + 1) / 2
  · have hlarge : 2 * sizeofTxQueue < datalen ∧ datalen ≠ 2 ^ 32 - 1 := by
      unfold sizeofTxQueue u32 at hcheck
      unfold sizeofTxQueue
      omega
    refine iff_of_true ?_ (.inr hlarge)
    have hset := txArm7QueueSetEnqueuedData_of_lt s data hcheck
    refine ⟨fun _ => ?_, fun haccepted => ?_, fun haccepted => ?_⟩
    · rw [hset]
      exact ⟨rfl, rfl⟩
    · rw [hset] at haccepted
      exact absurd haccepted Bool.false_ne_true
    · rw [hset] at haccepted
      exact absurd haccepted Bool.false_ne_true
  · have hset := txArm7QueueSetEnqueuedData_of_le s data hcheck
    constructor
    · intro h
      obtain ⟨-, hinside, hflushed⟩ := h
      rw [hset] at hinside hflushed
      have hwritten := hinside rfl
      have hlength := (hflushed rfl _ rfl rfl).length
      rw [length_loadBytes] at hlength
      unfold enqueuedSize sizeofTxQueue u32 at hwritten
      unfold u16 at hlength
      unfold sizeofTxQueue
      dsimp only at hlength
      omega
    · intro hfits
      have hle : datalen ≤ sizeofTxQueue := by
        unfold sizeofTxQueue u32 at hcheck
        unfold sizeofTxQueue at hfits ⊢
        omega
      obtain ⟨txQueue, heq, hload⟩ := s.txArm7QueueSetEnqueuedData_eq data hle
      refine ⟨fun hrefused => ?_, fun _ => ?_, fun _ t hqueue hqueueLen => ?_⟩
      · rw [hset] at hrefused
        exact absurd hrefused.symm Bool.false_ne_true
      · unfold enqueuedSize sizeofTxQueue u32
        unfold sizeofTxQueue at hle
        omega
      · rw [heq] at hqueue hqueueLen
        refine flushesFrame_of_le hle hqueueLen ?_
        rw [hqueue]
        exact hload

end Arm7Tx

/-- **The lengths that are kept out or sent as they are**: up to the size of the array, and from
twice its size on, but for the one that wraps when it is rounded up. -/
theorem txArm7QueueSetEnqueuedData_whole_iff (s : Arm7Tx) (data : Mem) (datalen : UInt32) :
    s.QueuesWhole data datalen.toNat ↔
      datalen.toNat ≤ 2048 ∨ 4096 < datalen.toNat ∧ datalen.toNat ≠ 2 ^ 32 - 1 :=
  s.queuesWhole_iff data datalen.toNat_lt

/-- A frame of 2049 bytes is accepted, and the loop writes behind the array. -/
theorem txArm7QueueSetEnqueuedData_overrun :
    ¬ Arm7Tx.init.QueuesWhole (fun _ => 0) 2049 := by
  intro h
  have hinside := h.inside (by decide)
  revert hinside
  decide

end Wifi
