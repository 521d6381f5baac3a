import DsWifi.Tx.Regions

/-!
# What a call stores

The frame of a successful call consists of the pieces that the call has given, one behind the other,
with space for the hardware between them.

* `TxInv.laidOut` — the last frame of the queue after a call that has returned `0`
* `TxInv.stored` — how it starts
-/

namespace Wifi

open Infra Infra.Mem Infra.TaggedRing

/-- The bytes consist of the pieces, with anything in the gaps. -/
def LaidOut : List TxPart → List UInt8 → Prop
  | [], bytes => bytes = []
  | .copy piece :: parts, bytes => ∃ rest, bytes = piece ++ rest ∧ LaidOut parts rest
  | .skip size :: parts, bytes =>
    ∃ gap rest : List UInt8, gap.length = size ∧ bytes = gap ++ rest ∧ LaidOut parts rest

/-- The bytes before the first gap. -/
def leadBytes : List TxPart → List UInt8
  | .copy bytes :: parts => bytes ++ leadBytes parts
  | _ => []

theorem LaidOut.lead {parts : List TxPart} {bytes : List UInt8} (h : LaidOut parts bytes) :
    ∃ gap, bytes = leadBytes parts ++ gap := by
  induction parts generalizing bytes with
  | nil => exact ⟨bytes, rfl⟩
  | cons part parts ih =>
    cases part with
    | copy piece =>
      obtain ⟨rest, rfl, hrest⟩ := h
      obtain ⟨gap, rfl⟩ := ih hrest
      exact ⟨gap, (List.append_assoc ..).symm⟩
    | skip size => exact ⟨bytes, rfl⟩

/-- The pieces are where they have been written. -/
theorem laidOut_writeParts (m : Mem) {i : Nat} (parts : List TxPart)
    (h : i + (parts.map TxPart.length).sum < 2 ^ 32) :
    LaidOut parts (loadBytes (writeParts m i parts).1 i (parts.map TxPart.length).sum) := by
  induction parts generalizing m i with
  | nil => rfl
  | cons part parts ih =>
    rw [List.map_cons, List.sum_cons] at h
    cases part with
    | copy bytes =>
      rw [TxPart.length] at h
      have hhead := writeParts_head m (i := i) bytes parts (by omega)
      have htail := ih (m.storeBytes i bytes) (i := i + bytes.length) (by omega)
      have hidx : u32 (i + bytes.length) = i + bytes.length := u32_of_lt (by omega)
      rw [writeParts, hidx] at hhead
      rw [List.map_cons, List.sum_cons, TxPart.length, loadBytes_add, writeParts, hidx, hhead]
      exact ⟨_, rfl, htail⟩
    | skip size =>
      rw [TxPart.length] at h
      have htail := ih m (i := i + size) (by omega)
      have hidx : u32 (i + size) = i + size := u32_of_lt (by omega)
      rw [List.map_cons, List.sum_cons, TxPart.length, loadBytes_add, writeParts, hidx]
      exact ⟨_, _, length_loadBytes _ _ _, rfl, htail⟩

/-- A frame in the TX buffer, behind its size tag. -/
def StoredAt (m : Mem) (w : Nat) (flags : Nat) (bytes : List UInt8) : Prop :=
  load32 m w = bytes.length ||| flags ∧ loadBytes m (w + 4) bytes.length = bytes ∧
    w + 4 + bytes.length ≤ wifiTxBufferSize

/-- The last frame of the queue after a call that has returned `0`. -/
theorem TxInv.laidOut {ring : TxRing} {e : Nat} {q : List (Frame txGeometry)} (h : TxInv ring e q)
    {req : TxRequest} (hreq : req.Valid) (hok : (txEnqueue ring req).2 = true) :
    ∃ w bytes, bytes.length = req.frameSize ∧ LaidOut req.parts bytes ∧
      StoredAt (txEnqueue ring req).1.txbufData w req.flags bytes ∧
      (txEnqueue ring req).1.queued = ring.queued ++ [(req.flags, bytes)] := by
  rcases h.txEnqueue_cases hreq with heq | ⟨ring', w, -, ha, heq⟩
  · rw [heq] at hok
    cases hok
  · have hle := ha.le
    have hlow := le_roundUp req.frameSize
    have hlaid := laidOut_writeParts ring'.txbufData (i := w + 4) req.parts
      (by rw [hreq.size_eq]; omega)
    -- The tags are written beside the frame.
    have hbeside : Set.EqOn ((req.fill ring'.txbufData w).store32 w (req.frameSize ||| req.flags))
        (writeParts ring'.txbufData (w + 4) req.parts).1
        (Set.Ico (w + 4) (w + 4 + req.frameSize)) := by
      refine (eqOn_store32 fun x hx => .inr hx.1).trans (eqOn_store32 fun x hx => .inl ?_)
      have := hx.2
      omega
    have htag : req.frameSize ||| req.flags < 2 ^ 32 := (tag_lt (by omega) hreq.flags_mem).1
    rw [hreq.size_eq, ← loadBytes_congr hbeside] at hlaid
    have hlen := length_loadBytes ((req.fill ring'.txbufData w).store32 w
      (req.frameSize ||| req.flags)) (w + 4) req.frameSize
    rw [heq]
    refine ⟨w, _, hlen, hlaid, ?_, ?_⟩
    · rw [StoredAt, hlen]
      refine ⟨load32_store32 htag, rfl, ?_⟩
      unfold wifiTxBufferSize
      omega
    · rw [← ha.queued]
      rfl

/-- **The last frame of the queue** starts with the pieces before the first gap. -/
theorem TxInv.stored {ring : TxRing} {e : Nat} {q : List (Frame txGeometry)} (h : TxInv ring e q)
    {req : TxRequest} (hreq : req.Valid) (hok : (txEnqueue ring req).2 = true) :
    ∃ gap : List UInt8, gap.length = req.frameSize - (leadBytes req.parts).length ∧
      (txEnqueue ring req).1.queued =
        ring.queued ++ [(req.flags, leadBytes req.parts ++ gap)] := by
  obtain ⟨w, bytes, hlen, hlaid, -, hqueued⟩ := h.laidOut hreq hok
  obtain ⟨gap, rfl⟩ := hlaid.lead
  rw [List.length_append] at hlen
  exact ⟨gap, by omega, hqueued⟩

end Wifi
