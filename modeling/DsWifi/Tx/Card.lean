import DsWifi.Tx.Flush

/-!
# Transmission on the ARM7 (TWL)

`Wifi_TWL_TxArm9QueueFlush` passes everything in the TX ring to the card driver. It takes the whole
size tag for the size, so it only understands frames without type bits.
-/

namespace Wifi

open Infra Infra.Mem Infra.TaggedRing

namespace Arm7Tx

/-- One turn of the loop, for the frame whose size tag is at `sizeIdx`. -/
def dataSendPkt (s : Arm7Tx) (sizeIdx size : Nat) : Arm7Tx :=
  let readIdx := u32 (sizeIdx + 4)
  let s := s.touch readIdx size
  { s with
    handled := s.handled ++ [.sent (loadBytes s.ring.txbufData readIdx size)]
    ring := { s.ring with txbufRead := u32 (readIdx + roundUp32 size) } }

/-- The loop of `Wifi_TWL_TxArm9QueueFlush`, from its head. There `read_idx` is `txbufRead`. -/
def twlTxArm9QueueFlushLoop : Nat → Arm7Tx → Option Arm7Tx
  | 0, _ => none
  | fuel + 1, s =>
    let s := s.touch s.ring.txbufRead 4
    let size := load32 s.ring.txbufData s.ring.txbufRead
    if size = 0 then some s
    else if size = wifiSizeWrap then
      let s := s.touch 0 4
      let size := load32 s.ring.txbufData 0
      if size = 0 then some s else twlTxArm9QueueFlushLoop fuel (s.dataSendPkt 0 size)
    else twlTxArm9QueueFlushLoop fuel (s.dataSendPkt s.ring.txbufRead size)

/-- `Wifi_TWL_TxArm9QueueFlush`, with more turns than the ring has words. -/
def twlTxArm9QueueFlush (s : Arm7Tx) : Option Arm7Tx :=
  s.twlTxArm9QueueFlushLoop wifiTxBufferSize

/-- Once outside of `txbufData`, always outside. -/
theorem twlTxArm9QueueFlushLoop_inBounds {fuel : Nat} {s s' : Arm7Tx}
    (h : s.twlTxArm9QueueFlushLoop fuel = some s') (hb : s'.inBounds = true) :
    s.inBounds = true := by
  induction fuel generalizing s with
  | zero => cases h
  | succ fuel ih =>
    unfold twlTxArm9QueueFlushLoop at h
    dsimp only at h
    split at h
    · cases h
      exact (Bool.and_eq_true_iff.mp hb).1
    · split at h
      · split at h
        · cases h
          exact (Bool.and_eq_true_iff.mp (Bool.and_eq_true_iff.mp hb).1).1
        · exact (Bool.and_eq_true_iff.mp
            (Bool.and_eq_true_iff.mp (Bool.and_eq_true_iff.mp (ih h)).1).1).1
      · exact (Bool.and_eq_true_iff.mp (Bool.and_eq_true_iff.mp (ih h)).1).1

end Arm7Tx

variable {s : Arm7Tx} {e i : Nat} {q : List (Frame txGeometry)} {f : Frame txGeometry}

/-- A frame without type bits is sent whole. -/
theorem TxInv.dataSendPkt (h : TxInv s.ring e (f :: q))
    (hi : View.HeadAt txGeometry s.ring.txbufData s.ring.txbufRead f i)
    (hplain : f.tag = f.body.length) {s' : Arm7Tx} (hs' : s' = s.dataSendPkt i f.tag) :
    TxInv s'.ring e q ∧ KeepsWriter s s' ∧ s'.handled = s.handled ++ [.sent f.body] := by
  have hcap := (h.view.pop hi).1.reader_le
  have hpad := le_roundUp f.body.length
  rw [txGeometry_cap] at hcap
  have hnext : f.next i = i + 4 + roundUp f.body.length := rfl
  have hread : u32 (i + 4) = i + 4 := u32_of_lt (by omega)
  have hidx : u32 (i + 4 + roundUp32 f.body.length) = f.next i := by
    rw [roundUp32_eq (by omega), u32_of_lt (by omega), hnext]
  have htouch : s.touch (i + 4) f.body.length = s := Arm7Tx.touch_of_le (by omega)
  simp only [Arm7Tx.dataSendPkt, hplain, hread, htouch, hidx, hi.stored.2] at hs'
  subst hs'
  refine ⟨⟨(h.view.pop hi).1, .inl (h.ends.resolve_right fun hs => nomatch hs.1),
    fun g hg => h.queued g (List.mem_cons_of_mem f hg), f.four_dvd_next ?_, h.four_dvd_write,
    h.write_le⟩, ⟨rfl, rfl, rfl⟩, rfl⟩
  cases hi with
  | here => exact h.four_dvd_read
  | wrapped => exact ⟨0, rfl⟩

/-- The type bits of a frame are taken for a part of its size. -/
theorem dataSendPkt_of_flags (hf : QueuedFrame f) (hflag : f.tag ≠ f.body.length) :
    (s.dataSendPkt i f.tag).inBounds = false := by
  have hbig : 2 ^ 28 ≤ f.tag := by
    obtain ⟨flags, hflags, htag⟩ := List.mem_map.mp hf.tag_mem
    obtain ⟨k, -, rfl⟩ := exists_txFlags hflags
    have hle : 2 ^ 28 * k ≤ f.tag := htag ▸ Nat.right_le_or
    cases k with
    | zero => exact absurd (by simpa using htag.symm) hflag
    | succ k => omega
  have hout : ¬ u32 (i + 4) + f.tag ≤ wifiTxBufferSize := by
    unfold wifiTxBufferSize
    omega
  simp only [Arm7Tx.dataSendPkt, Arm7Tx.touch, decide_eq_false hout, Bool.and_false]

/-- What the head of the loop sees. -/
theorem TxInv.loop_head (h : TxInv s.ring e q) (fuel : Nat) :
    (q = [] ∧ s.twlTxArm9QueueFlushLoop (fuel + 1) = some s) ∨
    ∃ f fs i, q = f :: fs ∧ View.HeadAt txGeometry s.ring.txbufData s.ring.txbufRead f i ∧
      s.twlTxArm9QueueFlushLoop (fuel + 1) =
        (s.dataSendPkt i f.tag).twlTxArm9QueueFlushLoop fuel := by
  have hcap := h.view.reader_le
  rw [txGeometry_cap] at hcap
  have h0 : s.touch 0 4 = s := Arm7Tx.touch_of_le (by omega)
  simp only [Arm7Tx.twlTxArm9QueueFlushLoop, Arm7Tx.touch_of_le hcap, h0]
  cases q with
  | nil =>
    refine .inl ⟨rfl, ?_⟩
    rcases h.view.nil with hre | ⟨hw, he⟩
    · rw [if_pos (hre ▸ h.view.end_zero)]
    · rw [txGeometry_wrap] at hw
      rw [if_neg (by rw [hw]; decide), if_pos hw, if_pos (he ▸ h.view.end_zero)]
  | cons f fs =>
    obtain ⟨i, hi, -⟩ := h.view.head
    refine .inr ⟨f, fs, i, rfl, hi, ?_⟩
    cases hi with
    | here hs =>
      have hw : f.tag ≠ wifiSizeWrap := f.tag_ne_wrap
      rw [hs.1, if_neg f.tag_ne_zero, if_neg hw]
    | wrapped hw hs =>
      rw [txGeometry_wrap] at hw
      rw [if_neg (by rw [hw]; decide), if_pos hw, hs.1, if_neg f.tag_ne_zero]

/-- **Frames without type bits are all sent**, and the loop ends. -/
theorem TxInv.flushLoop (h : TxInv s.ring e q) (hplain : ∀ f ∈ q, f.tag = f.body.length)
    {fuel : Nat} (hfuel : q.length < fuel) : ∃ s', s.twlTxArm9QueueFlushLoop fuel = some s' ∧
      TxInv s'.ring e [] ∧ KeepsWriter s s' ∧
      s'.handled = s.handled ++ q.map (fun f => .sent f.body) := by
  induction q generalizing s fuel with
  | nil =>
    obtain ⟨fuel, rfl⟩ : ∃ k, fuel = k + 1 := ⟨fuel - 1, by simp at hfuel; omega⟩
    rcases h.loop_head fuel with ⟨-, hs⟩ | ⟨f, fs, i, hq, -⟩
    · exact ⟨s, hs, h, ⟨rfl, rfl, rfl⟩, by simp⟩
    · cases hq
  | cons f fs ih =>
    rw [List.length_cons] at hfuel
    obtain ⟨fuel, rfl⟩ : ∃ k, fuel = k + 1 := ⟨fuel - 1, by omega⟩
    rcases h.loop_head fuel with ⟨hq, -⟩ | ⟨f', fs', i, hq, hi, hs⟩
    · cases hq
    · cases hq
      obtain ⟨h1, h2, h3⟩ := h.dataSendPkt hi (hplain f (List.mem_cons_self ..)) rfl
      obtain ⟨s', hs', g1, g2, g3⟩ := ih h1
        (fun g hg => hplain g (List.mem_cons_of_mem f hg)) (show fs.length < fuel by omega)
      refine ⟨s', hs.trans hs', g1, h2.trans g2, ?_⟩
      rw [g3, h3, List.map_cons, List.append_assoc, List.singleton_append]

/-- A frame with type bits takes the reader out of `txbufData`. -/
theorem TxInv.flushLoop_of_flags (h : TxInv s.ring e q) (hflag : ∃ f ∈ q, f.tag ≠ f.body.length)
    {fuel : Nat} {s' : Arm7Tx} (hs' : s.twlTxArm9QueueFlushLoop fuel = some s') :
    s'.inBounds = false := by
  induction q generalizing s fuel with
  | nil => simp at hflag
  | cons f fs ih =>
    cases fuel with
    | zero => cases hs'
    | succ fuel =>
      rcases h.loop_head fuel with ⟨hq, -⟩ | ⟨f', fs', i, hq, hi, hs⟩
      · cases hq
      · cases hq
        rw [hs] at hs'
        by_cases hf : f.tag = f.body.length
        · obtain ⟨g, hg, hne⟩ := hflag
          have hgs : g ∈ fs := by
            rcases List.mem_cons.mp hg with rfl | hg
            · exact absurd hf hne
            · exact hg
          exact ih (h.dataSendPkt hi hf rfl).1 ⟨g, hgs, hne⟩ hs'
        · have hout := dataSendPkt_of_flags (s := s) (i := i)
            (h.queued f (List.mem_cons_self ..)) hf
          by_contra hb
          rw [Bool.not_eq_false] at hb
          rw [Arm7Tx.twlTxArm9QueueFlushLoop_inBounds hs' hb] at hout
          cases hout

end Wifi
