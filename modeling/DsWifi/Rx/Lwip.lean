import DsWifi.Common.Ieee
import DsWifi.Rx.Reader

/-!
# Delivering a received packet to lwIP

`Wifi_SendPacketToLwip` makes the Ethernet header that lwIP wants out of the 802.11 header (NTR) or
of the mailbox header (TWL), and writes it over the end of the old header, in the RX ring itself.
The offset is the same for every packet, short ones included.

* `sendPacketToLwip_keeps_ring_iff` — the header stays in the slot of its packet if and only if the
  packet is long enough, or an NTR packet that the checks turn away
-/

namespace Wifi

open Infra Infra.Mem Infra.TaggedRing

/-! ## The two variants -/

/-- What is passed to lwIP: a header that is written at `buffer`, and the size of the buffer. -/
structure LwipBuffer where
  buffer : Nat
  eth : EthernetFrameHeader
  size : Nat

/-- The size argument of `dswifi_send_data_to_lwip`. -/
def lwipBufferSize (size headers : Nat) : Nat :=
  u32 (sizeofEthernetFrameHeader + u32 (size + 2 ^ 32 - headers))

/-- The checks of `Wifi_NTR_SendPacketToLwip`. They read the 802.11 and LLC/SNAP headers, whatever
the size of the packet. -/
def ntrPacketIsForLwip (macAddr : List UInt8) (m : Mem) (packet : Nat) : Bool :=
  let snap := packet + sizeofIeeeDataFrameHeader
  load16 m packet &&& (fcToDs ||| fcTypeSubtypeMask) == typeData &&
  (loadBytes m (packet + 4) 6 == macAddr || m (packet + 4) &&& 1 != 0) &&
  (m snap == 0xAA && m (snap + 1) == 0xAA && m (snap + 2) == 0x03 &&
    m (snap + 3) == 0 && m (snap + 4) == 0 && m (snap + 5) == 0)

/-- `Wifi_NTR_SendPacketToLwip`. -/
def ntrSendPacketToLwip (macAddr : List UInt8) (m : Mem) (packet size : Nat) :
    Option LwipBuffer :=
  if ntrPacketIsForLwip macAddr m packet then
    some {
      buffer := packet + sizeofIeeeDataFrameHeader + sizeofLlcSnapHeader -
        sizeofEthernetFrameHeader
      eth := {
        destMac := loadBytes m (packet + 4) 6
        srcMac := if load16 m packet &&& fcFromDs ≠ 0 then loadBytes m (packet + 16) 6
          else loadBytes m (packet + 10) 6
        etherType := loadBytes m (packet + sizeofIeeeDataFrameHeader + 6) 2 }
      size := lwipBufferSize size (sizeofIeeeDataFrameHeader + sizeofLlcSnapHeader) }
  else none

/-- `Wifi_TWL_SendPacketToLwip`. -/
def twlSendPacketToLwip (m : Mem) (packet size : Nat) : LwipBuffer where
  buffer := packet + sizeofMboxHdrRxDataPacket - sizeofEthernetFrameHeader
  eth := {
    destMac := loadBytes m (packet + 2) 6
    srcMac := loadBytes m (packet + 8) 6
    etherType := loadBytes m (packet + 22) 2 }
  size := lwipBufferSize size sizeofMboxHdrRxDataPacket

/-- `Wifi_SendPacketToLwip`. -/
def sendPacketToLwip (reqFlags : Nat) (macAddr : List UInt8) (m : Mem) (packet size : Nat) :
    Option LwipBuffer :=
  if reqFlags &&& wflagReqDsiMode ≠ 0 then some (twlSendPacketToLwip m packet size)
  else ntrSendPacketToLwip macAddr m packet size

/-- The ring after the header has been written. -/
def rxbufAfter (m : Mem) : Option LwipBuffer → Mem
  | none => m
  | some b => m.storeBytes b.buffer b.eth.bytes

/-- The addresses that are written, whether or not their bytes change. -/
def lwipWrites : Option LwipBuffer → Set Nat
  | none => ∅
  | some b => Set.Ico b.buffer (b.buffer + b.eth.bytes.length)

/-! ## Where the header is written -/

/-- The header ends `k` bytes into the packet, where `k` is the length of the old headers. -/
def HeaderEnds (packet k : Nat) (b : LwipBuffer) : Prop :=
  b.buffer + sizeofEthernetFrameHeader = packet + k ∧
  b.eth.bytes.length = sizeofEthernetFrameHeader

theorem headerEnds_ntr {macAddr : List UInt8} {m : Mem} {packet size : Nat} {b : LwipBuffer}
    (h : ntrSendPacketToLwip macAddr m packet size = some b) : HeaderEnds packet 32 b := by
  unfold ntrSendPacketToLwip at h
  split at h
  · cases h
    refine ⟨by simp only [sizeofIeeeDataFrameHeader, sizeofLlcSnapHeader,
      sizeofEthernetFrameHeader]; omega, ?_⟩
    simp only [EthernetFrameHeader.bytes, List.length_append, length_loadBytes,
      sizeofEthernetFrameHeader]
    split <;> simp only [length_loadBytes]
  · cases h

theorem headerEnds_twl (m : Mem) (packet size : Nat) :
    HeaderEnds packet 24 (twlSendPacketToLwip m packet size) := by
  refine ⟨?_, ?_⟩
  · simp only [twlSendPacketToLwip, sizeofMboxHdrRxDataPacket, sizeofEthernetFrameHeader]
    omega
  · simp only [twlSendPacketToLwip, EthernetFrameHeader.bytes, List.length_append,
      length_loadBytes, sizeofEthernetFrameHeader]

section

variable {m : Mem} {r e i k : Nat} {f : Frame rxGeometry} {fs : List (Frame rxGeometry)}
  {b : LwipBuffer}

/-- The bytes that `d` writes belong to the slot of `f`, and the drain goes on behind it. -/
def KeepsRing (m : Mem) (i e : Nat) (f : Frame rxGeometry) (fs : List (Frame rxGeometry))
    (d : Option LwipBuffer) : Prop :=
  lwipWrites d ⊆ Set.Ico (i + 4) (f.next i) ∧
  View rxGeometry (rxbufAfter m d) (u32 (u32 (i + 4) + roundUp32 f.tag)) e fs

theorem length_body (f : Frame rxGeometry) : f.body.length = f.tag := f.len_tag.symm

/-- The read index that the loop computes is the next tag. -/
theorem nextIdx_eq (h : View rxGeometry m r e (f :: fs)) (hi : View.HeadAt rxGeometry m r f i) :
    u32 (u32 (i + 4) + roundUp32 f.tag) = f.next i := by
  have hcap := (h.pop hi).1.reader_le
  have hnext : f.next i = i + 4 + roundUp f.tag := by rw [Frame.next, length_body]
  have hle := le_roundUp f.tag
  rw [rxGeometry_cap] at hcap
  rw [roundUp32_eq (by omega), u32_of_lt (n := i + 4) (by omega), u32_of_lt (by omega), hnext]

/-- A header that ends `k` bytes into the packet fits if and only if the slot has `k` bytes. -/
theorem keepsRing_some_iff (h : View rxGeometry m r e (f :: fs))
    (hi : View.HeadAt rxGeometry m r f i) (hb : HeaderEnds (i + 4) k b) (hk : 14 ≤ k) :
    KeepsRing m i e f fs (some b) ↔ k ≤ roundUp f.tag := by
  obtain ⟨hend, hlen⟩ := hb
  have hnext : f.next i = i + 4 + roundUp f.tag := by rw [Frame.next, length_body]
  rw [sizeofEthernetFrameHeader] at hend hlen
  rw [KeepsRing, nextIdx_eq h hi]
  constructor
  · rintro ⟨hsub, -⟩
    have hlast : b.buffer + 13 ∈ lwipWrites (some b) := by
      simp only [lwipWrites, hlen, Set.mem_Ico]
      omega
    have := (hsub hlast).2
    omega
  · intro hle
    refine ⟨fun x hx => ?_, h.pop_storeBytes hi (by omega) (by omega)⟩
    simp only [lwipWrites, hlen, Set.mem_Ico] at hx
    exact ⟨by omega, by omega⟩

theorem keepsRing_none (h : View rxGeometry m r e (f :: fs))
    (hi : View.HeadAt rxGeometry m r f i) : KeepsRing m i e f fs none := by
  rw [KeepsRing, nextIdx_eq h hi]
  exact ⟨Set.empty_subset _, (h.pop hi).1⟩

/-- The packets that are long enough for the header that is written over them. -/
def LongEnough (reqFlags : Nat) (macAddr : List UInt8) (m : Mem) (packet size : Nat) : Prop :=
  if reqFlags &&& wflagReqDsiMode ≠ 0 then 21 ≤ size
  else ntrPacketIsForLwip macAddr m packet = true → 29 ≤ size

/-- **Delivering the head packet keeps the ring if and only if the packet is long enough.** -/
theorem sendPacketToLwip_keeps_ring_iff (h : View rxGeometry m r e (f :: fs))
    (hi : View.HeadAt rxGeometry m r f i) (reqFlags : Nat) (macAddr : List UInt8) :
    KeepsRing m i e f fs (sendPacketToLwip reqFlags macAddr m (i + 4) f.tag) ↔
      LongEnough reqFlags macAddr m (i + 4) f.tag := by
  unfold sendPacketToLwip LongEnough
  split
  · rw [keepsRing_some_iff h hi (headerEnds_twl m _ _) (by omega), roundUp]
    omega
  · cases hd : ntrSendPacketToLwip macAddr m (i + 4) f.tag with
    | none =>
      have hfor : ntrPacketIsForLwip macAddr m (i + 4) = false := by
        by_contra hne
        rw [Bool.not_eq_false] at hne
        rw [ntrSendPacketToLwip, if_pos hne] at hd
        cases hd
      exact ⟨fun _ hne => absurd hne (by simp [hfor]), fun _ => keepsRing_none h hi⟩
    | some b =>
      have hfor : ntrPacketIsForLwip macAddr m (i + 4) = true := by
        by_contra hne
        rw [ntrSendPacketToLwip, if_neg hne] at hd
        cases hd
      rw [keepsRing_some_iff h hi (headerEnds_ntr hd) (by omega), roundUp]
      exact ⟨fun hle _ => by omega, fun hle => by have := hle hfor; omega⟩

end

/-- A data frame to all devices whose LLC/SNAP header breaks off after four bytes. -/
def rxShortFrame : Frame rxGeometry where
  tag := 28
  body := [0x08, 0x02, 0, 0, 0xFF, 0xFF, 0xFF, 0xFF, 0xFF, 0xFF, 2, 0, 0, 0, 0, 1, 2, 0, 0, 0, 0, 7,
    0, 0, 0xAA, 0xAA, 0x03, 0]
  tag_lt := by decide
  tag_ne_zero := by decide
  tag_ne_wrap := by decide
  len_tag := rfl

/-- The ring that holds it alone. -/
def rxShortRing : Mem := Mem.storeBytes (fun _ => 0) 0 (wordBytes 28 ++ rxShortFrame.body)

theorem rxShortRing_headAt : View.HeadAt rxGeometry rxShortRing 0 rxShortFrame 0 :=
  .here ⟨by decide, by decide⟩

theorem rxShortRing_view : View rxGeometry rxShortRing 0 32 [rxShortFrame] :=
  .linear ⟨⟨by decide, by decide⟩, rfl⟩ (by decide) (by decide)

/-- The drain goes on at a tag that holds the end of the source address. -/
theorem rxShortRing_damaged :
    ¬ KeepsRing rxShortRing 0 32 rxShortFrame [] (sendPacketToLwip 0 [] rxShortRing 4 28) ∧
    load32 rxShortRing 32 = 0 ∧
    load32 (rxbufAfter rxShortRing (sendPacketToLwip 0 [] rxShortRing 4 28)) 32 = 0x0700 := by
  obtain ⟨b, hd⟩ : ∃ b, ntrSendPacketToLwip [] rxShortRing 4 28 = some b := ⟨_, rfl⟩
  refine ⟨fun h => ?_, by decide, by decide⟩
  rw [sendPacketToLwip, if_neg (by decide), hd,
    keepsRing_some_iff rxShortRing_view rxShortRing_headAt (headerEnds_ntr hd) (by decide)] at h
  exact absurd h (by decide)

theorem sendPacketToLwip_keeps_shortRing : KeepsRing rxShortRing 0 32 rxShortFrame []
    (sendPacketToLwip wflagReqDsiMode [] rxShortRing 4 28) :=
  (sendPacketToLwip_keeps_ring_iff rxShortRing_view rxShortRing_headAt wflagReqDsiMode []).mpr
    (by unfold LongEnough; decide)

/-! ## The packets of the ring -/

/-- The packet that the ARM9 hands over is the head frame of the ring, under every interleaving. -/
theorem RxReachable.headAt_of_handle {allowed : Nat → Prop} {s : RxState}
    (hallowed : ∀ n, allowed n → n ≤ 65535) (h : RxReachable allowed s) {packet size cnt : Nat}
    {got : List UInt8} (hd : s.drain = .handle packet size got cnt) :
    ∃ i e f fs, View rxGeometry s.rxbufData s.rxbufRead e (f :: fs) ∧
      View.HeadAt rxGeometry s.rxbufData s.rxbufRead f i ∧ packet = i + 4 ∧ size = f.tag := by
  obtain ⟨e, w, fs, hinv⟩ := h.inv hallowed
  have hreading := hinv.reading
  rw [hd] at hreading
  have hview := hinv.view
  generalize fs = gs at hreading hview
  cases hreading with
  | handle hi _ => exact ⟨_, _, _, _, hview, hi, rfl, rfl⟩

end Wifi
