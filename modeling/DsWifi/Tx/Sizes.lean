import DsWifi.Common.Alloc

/-!
# The sizes of frames

The functions of the ARM9 that queue a frame take any size. They add the headers, round up, and add
the result to the write index in 32 bits before they compare it with the size of the buffer. The
Ethernet frames of `Wifi_TransmitFunctionLink` lose the 14 bytes of their header first.

* `TxRing.InRange.alloc_cases` — a sum that wraps around is as good as a small one
* `TxRequest.Carries.stores_iff` — what the body that the functions share does then
* `tx_sizes_iff` — a call is refused, or stores its frame and writes nothing else, exactly if the
  sums don't wrap around or the rest of them finds no room
-/

namespace Wifi

open Infra Infra.Mem Infra.TaggedRing

/-! ## Room -/

/-- The indices are those of words in the buffer. -/
structure TxRing.InRange (ring : TxRing) : Prop where
  read_le : ring.txbufRead + 4 ≤ wifiTxBufferSize
  write_le : ring.txbufWrite + 4 ≤ wifiTxBufferSize
  four_dvd_read : 4 ∣ ring.txbufRead
  four_dvd_write : 4 ∣ ring.txbufWrite

theorem TxRing.InRange.setData {ring : TxRing} (h : ring.InRange) (m : Mem) :
    InRange { ring with txbufData := m } :=
  ⟨h.read_le, h.write_le, h.four_dvd_read, h.four_dvd_write⟩

theorem TxInv.inRange {ring : TxRing} {e : Nat} {q : List (Frame txGeometry)}
    (h : TxInv ring e q) : ring.InRange :=
  ⟨h.view.reader_le, h.write_le, h.four_dvd_read, h.four_dvd_write⟩

/-- There is room for `t` bytes in one piece. -/
def TxRing.HasRoom (ring : TxRing) (t : Nat) : Prop :=
  if ring.txbufRead ≤ ring.txbufWrite then
    ring.txbufWrite + t < wifiTxBufferSize ∨ t < ring.txbufRead
  else ring.txbufWrite + t < ring.txbufRead

instance (ring : TxRing) (t : Nat) : Decidable (ring.HasRoom t) := by
  unfold TxRing.HasRoom
  infer_instance

/-- The space of a frame, with its size tag and the one after it. -/
def frameSpace (exact : Nat) : Nat := 4 + roundUp exact + 4

/-- The end of the frame doesn't wrap around, or what is left of its space finds no room. -/
def TxRing.Unwrapped (ring : TxRing) (exact : Nat) : Prop :=
  ring.txbufWrite + frameSpace exact < 2 ^ 32 ∨
    2 ^ 32 ≤ frameSpace exact ∧ ¬ ring.HasRoom (frameSpace exact - 2 ^ 32)

/-- The functions compute the space up to multiples of `2 ^ 32`. -/
theorem u32_frameSpace (exact : Nat) :
    u32 (4 + roundUp32 (u32 exact) + 4) = u32 (frameSpace exact) := by
  unfold frameSpace roundUp32 roundUp u32
  omega

namespace TxRing

variable {ring ring' : TxRing} {exact a : Nat}

/-- The markers of an allocation are inside the buffer. -/
theorem InRange.eqOn_alloc (h : ring.InRange) {t : Nat}
    (halloc : txBufferAllocBuffer ring t = (ring', some a)) :
    (a = ring.txbufWrite ∨ a = 0) ∧
      Set.EqOn ring'.txbufData ring.txbufData {x | wifiTxBufferSize ≤ x} := by
  have hw := h.write_le
  have hself : Set.EqOn ring.txbufData ring.txbufData {x | wifiTxBufferSize ≤ x} :=
    Set.eqOn_refl _ _
  unfold txBufferAllocBuffer at halloc
  split_ifs at halloc
  · cases halloc
  · cases halloc
    refine ⟨.inr rfl, (eqOn_store32 fun x hx => .inr ?_).trans (eqOn_store32 fun x hx => .inr ?_)⟩
    · exact hw.trans hx
    · rw [Set.mem_ofPred_eq] at hx
      omega
  · cases halloc
    exact ⟨.inl rfl, hself⟩
  · cases halloc
  · cases halloc
    exact ⟨.inl rfl, hself⟩

/-- There is room for the size tag where an allocation starts. -/
theorem InRange.alloc_index (h : ring.InRange) {t : Nat}
    (halloc : txBufferAllocBuffer ring t = (ring', some a)) :
    a + 4 ≤ wifiTxBufferSize ∧ 4 ∣ a + 4 := by
  have hw := h.write_le
  have h4 := h.four_dvd_write
  rcases (h.eqOn_alloc halloc).1 with rfl | rfl
  · exact ⟨hw, by omega⟩
  · exact ⟨by omega, by omega⟩

/-- Without a wrap the allocation succeeds if there is room. -/
theorem exists_alloc_iff {t : Nat} (hsum : ring.txbufWrite + t < 2 ^ 32) :
    (∃ ring' a, txBufferAllocBuffer ring t = (ring', some a)) ↔ ring.HasRoom t := by
  unfold txBufferAllocBuffer HasRoom
  rw [u32_of_lt hsum]
  by_cases hle : ring.txbufRead ≤ ring.txbufWrite
  · rw [if_pos hle, if_pos hle]
    by_cases hend : wifiTxBufferSize ≤ ring.txbufWrite + t
    · rw [if_pos hend]
      by_cases hstart : ring.txbufRead ≤ t
      · simp [hstart, hend]
      · simp [hstart, Nat.lt_of_not_le hstart]
    · simp [hend, Nat.lt_of_not_le hend]
  · rw [if_neg hle, if_neg hle]
    by_cases hroom : ring.txbufRead ≤ ring.txbufWrite + t
    · simp [hroom]
    · simp [hroom, Nat.lt_of_not_le hroom]

/-- A sum that wraps around is smaller than the write index. -/
theorem alloc_of_wrap (hw : ring.txbufWrite < wifiTxBufferSize) {t : Nat} (ht : t < 2 ^ 32)
    (hsum : 2 ^ 32 ≤ ring.txbufWrite + t) :
    txBufferAllocBuffer ring t = (ring, some ring.txbufWrite) := by
  have hwrap : u32 (ring.txbufWrite + t) < ring.txbufWrite := by
    unfold wifiTxBufferSize at hw
    unfold u32
    omega
  unfold txBufferAllocBuffer
  by_cases hle : ring.txbufRead ≤ ring.txbufWrite
  · rw [if_pos hle, if_neg (by omega)]
  · rw [if_neg hle, if_neg (by omega)]

/-- The contents of the buffer don't matter. -/
theorem exists_alloc_setData {t : Nat} (halloc : txBufferAllocBuffer ring t = (ring', some a))
    (m : Mem) :
    ∃ ring'', txBufferAllocBuffer { ring with txbufData := m } t = (ring'', some a) := by
  unfold txBufferAllocBuffer at halloc ⊢
  dsimp only
  split_ifs at halloc ⊢ <;> cases halloc <;> exact ⟨_, rfl⟩

/-- **A sum that wraps around is as good as a small one.** -/
theorem InRange.alloc_cases (h : ring.InRange) (hexact : exact < 2 ^ 32 + 64) :
    (ring.Unwrapped exact ∧ ∀ ring' a,
      txBufferAllocBuffer ring (u32 (frameSpace exact)) = (ring', some a) →
        a + frameSpace exact ≤ wifiTxBufferSize) ∨
    (¬ ring.Unwrapped exact ∧ ∃ ring' a,
      txBufferAllocBuffer ring (u32 (frameSpace exact)) = (ring', some a) ∧
        2 ^ 32 ≤ a + frameSpace exact) := by
  have hread := h.read_le
  have hwrite := h.write_le
  have hspace : frameSpace exact < exact + 12 := by
    have := roundUp_lt exact
    unfold frameSpace
    omega
  unfold Unwrapped
  generalize frameSpace exact = total at *
  by_cases hlt : total < 2 ^ 32
  · rw [u32_of_lt hlt]
    by_cases hsum : ring.txbufWrite + total < 2 ^ 32
    · have hallocates : TxAllocates ring := .of_le (by omega) (by omega)
      exact .inl ⟨.inl hsum, fun ring' a halloc => (hallocates.apart _ ring' a hsum halloc).inside⟩
    · -- The sum is small, and the allocation ends in front of its start.
      refine .inr ⟨by omega, ring, ring.txbufWrite, ?_, by omega⟩
      exact alloc_of_wrap (by omega) hlt (by omega)
  · -- What is left of the space is allocated in its place.
    have hrest : u32 total = total - 2 ^ 32 := by
      unfold u32
      omega
    have hsum : ring.txbufWrite + (total - 2 ^ 32) < 2 ^ 32 := by
      unfold wifiTxBufferSize at hwrite
      omega
    rw [hrest]
    by_cases hroom : ring.HasRoom (total - 2 ^ 32)
    · obtain ⟨ring', a, halloc⟩ := (exists_alloc_iff hsum).mpr hroom
      refine .inr ⟨?_, ring', a, halloc, by omega⟩
      rintro (hlt' | ⟨-, hno⟩)
      · omega
      · exact hno hroom
    · refine .inl ⟨.inr ⟨by omega, hroom⟩, fun ring' a halloc => ?_⟩
      exact absurd ((exists_alloc_iff hsum).mp ⟨ring', a, halloc⟩) hroom

end TxRing

/-! ## What is written -/

/-- `f` leaves everything behind `txbufData` alone, whatever it is. -/
def LeavesRest (f : TxRing → TxRing × Bool) (ring : TxRing) : Prop :=
  ∀ m : Mem, Set.EqOn m ring.txbufData {x | x < wifiTxBufferSize} →
    Set.EqOn (f { ring with txbufData := m }).1.txbufData m {x | wifiTxBufferSize ≤ x}

/-- `f` returns `-1` and leaves the ring alone, or it writes only to `txbufData` and stores a frame
in front of the new write index whose size tag says `exact`. -/
def StoresExactly (f : TxRing → TxRing × Bool) (ring : TxRing) (exact : Nat) : Prop :=
  (f ring).2 = false ∧ (f ring).1.txbufData = ring.txbufData ∧
      (f ring).1.txbufRead = ring.txbufRead ∧ (f ring).1.txbufWrite = ring.txbufWrite ∨
    (f ring).2 = true ∧ LeavesRest f ring ∧
      ∃ a, (f ring).1.txbufWrite = a + 4 + roundUp exact ∧
        load32 (f ring).1.txbufData a &&& wflagSendSizeMask = exact

theorem writeParts_append (m : Mem) (i : Nat) (ps qs : List TxPart) :
    writeParts m i (ps ++ qs) = writeParts (writeParts m i ps).1 (writeParts m i ps).2 qs := by
  induction ps generalizing m i with
  | nil => rfl
  | cons p ps ih =>
    cases p with
    | copy bytes => exact ih _ _
    | skip size => exact ih _ _

/-- Where the pieces end, up to multiples of `2 ^ 32`. -/
theorem writeParts_snd (m : Mem) {i : Nat} (hi : i < 2 ^ 32) (parts : List TxPart) :
    (writeParts m i parts).2 = u32 (i + (parts.map TxPart.length).sum) := by
  have hlt (k : Nat) : u32 k < 2 ^ 32 := Nat.mod_lt _ (by decide)
  have hadd (k l : Nat) : u32 (u32 k + l) = u32 (k + l) := by
    unfold u32
    omega
  induction parts generalizing m i with
  | nil => exact (u32_of_lt hi).symm
  | cons p parts ih =>
    rw [List.map_cons, List.sum_cons, ← Nat.add_assoc]
    cases p with
    | copy bytes =>
      rw [writeParts, ih _ (hlt _), hadd]
      rfl
    | skip size =>
      rw [writeParts, ih _ (hlt _), hadd]
      rfl

/-- A gap is not written. -/
theorem writeParts_skips (m : Mem) (i : Nat) {parts : List TxPart}
    (h : ∀ p ∈ parts, ∃ size, p = .skip size) : (writeParts m i parts).1 = m := by
  induction parts generalizing i with
  | nil => rfl
  | cons p parts ih =>
    obtain ⟨size, rfl⟩ := h p (List.mem_cons_self ..)
    exact ih _ fun p hp => h p (List.mem_cons_of_mem _ hp)

/-- The bytes of a piece are where it starts, if there are gaps only behind it. -/
theorem writeParts_copy (m : Mem) {i k : Nat} {lead gaps : List TxPart} {bytes : List UInt8}
    (hgaps : ∀ p ∈ gaps, ∃ size, p = .skip size)
    (hlead : i + (lead.map TxPart.length).sum < 2 ^ 32) (hk : k < bytes.length) :
    (writeParts m i (lead ++ .copy bytes :: gaps)).1 (i + (lead.map TxPart.length).sum + k) =
      bytes[k] := by
  have hmid : (writeParts m i lead).2 = i + (lead.map TxPart.length).sum := by
    rw [writeParts_snd m (by omega), u32_of_lt hlead]
  rw [writeParts_append, hmid, writeParts, writeParts_skips _ _ hgaps]
  exact storeBytes_self hk

/-- A request carries `data`, behind headers and in front of a gap. -/
structure TxRequest.Carries (req : TxRequest) (overhead : Nat) (data : List UInt8) : Prop where
  parts : ∃ lead gaps, req.parts = lead ++ .copy data :: gaps ∧
    (lead.map TxPart.length).sum ≤ 64 ∧ ∀ p ∈ gaps, ∃ size, p = .skip size
  sum : (req.parts.map TxPart.length).sum = overhead + data.length
  frameSize_eq : req.frameSize = u32 (overhead + data.length)
  flags_mem : req.flags ∈ txFlags
  overhead_le : overhead ≤ 64

/-- The ring after a successful allocation. -/
theorem txEnqueue_of_alloc {ring ring' : TxRing} {req : TxRequest} {a : Nat}
    (halloc : txBufferAllocBuffer ring (u32 (4 + roundUp32 req.frameSize + 4)) = (ring', some a)) :
    (txEnqueue ring req).2 = true ∧
    (txEnqueue ring req).1.txbufWrite =
      roundUp32 (writeParts ring'.txbufData (u32 (a + 4)) req.parts).2 ∧
    (txEnqueue ring req).1.txbufData =
      ((writeParts ring'.txbufData (u32 (a + 4)) req.parts).1.store32
        (roundUp32 (writeParts ring'.txbufData (u32 (a + 4)) req.parts).2) 0).store32 a
          (req.frameSize ||| req.flags) := by
  simp only [txEnqueue, halloc]
  exact ⟨trivial, trivial, trivial⟩

theorem txEnqueue_of_none {ring ring' : TxRing} {req : TxRequest}
    (halloc : txBufferAllocBuffer ring (u32 (4 + roundUp32 req.frameSize + 4)) = (ring', none)) :
    txEnqueue ring req =
      ({ ring with txQueuedRejected := u32 (ring.txQueuedRejected + 1) }, false) := by
  simp only [txEnqueue, halloc, eq_of_txBufferAllocBuffer_eq_none halloc]

namespace TxRequest.Carries

variable {req : TxRequest} {overhead a : Nat} {data : List UInt8} {ring ring' : TxRing}

theorem frameSpace_eq (h : req.Carries overhead data) :
    u32 (4 + roundUp32 req.frameSize + 4) = u32 (frameSpace (overhead + data.length)) := by
  rw [h.frameSize_eq, u32_frameSpace]

/-- A frame whose space is in the buffer is stored there. -/
theorem stored (h : req.Carries overhead data) (hring : ring.InRange)
    (halloc : txBufferAllocBuffer ring (u32 (frameSpace (overhead + data.length))) =
      (ring', some a))
    (hle : a + frameSpace (overhead + data.length) ≤ wifiTxBufferSize) :
    (txEnqueue ring req).2 = true ∧
      Set.EqOn (txEnqueue ring req).1.txbufData ring.txbufData {x | wifiTxBufferSize ≤ x} ∧
      (txEnqueue ring req).1.txbufWrite = a + 4 + roundUp (overhead + data.length) ∧
      load32 (txEnqueue ring req).1.txbufData a &&& wflagSendSizeMask = overhead + data.length := by
  have hsize := h.frameSize_eq
  have hsum := h.sum
  have htotal := h.frameSpace_eq
  obtain ⟨-, hrest⟩ := hring.eqOn_alloc halloc
  obtain ⟨-, h4⟩ := hring.alloc_index halloc
  generalize overhead + data.length = exact at *
  have hround := le_roundUp exact
  unfold frameSpace wifiTxBufferSize at hle
  rw [u32_of_lt (by omega)] at hsize
  rw [← htotal] at halloc
  obtain ⟨hok, hwrite, hdata⟩ := txEnqueue_of_alloc halloc
  rw [u32_of_lt (by omega)] at hwrite hdata
  have hparts := writeParts_spec ring'.txbufData (i := a + 4) req.parts (by omega)
  generalize writeParts ring'.txbufData (a + 4) req.parts = r at *
  obtain ⟨hidx, hother⟩ := hparts
  have hend : roundUp32 r.2 = a + 4 + roundUp exact := by
    rw [hidx, hsum, roundUp32_eq (by omega), roundUp_add_of_dvd h4]
  rw [hend] at hwrite hdata
  have hlt : exact < 2 ^ 28 := by omega
  obtain ⟨htag, -, hmask⟩ := tag_lt hlt h.flags_mem
  refine ⟨hok, ?_, hwrite, ?_⟩
  · rw [hdata]
    refine (((eqOn_store32 fun x hx => .inr ?_).trans (eqOn_store32 fun x hx => .inr ?_)).trans
      (hother.mono fun x hx => .inr ?_)).trans hrest
    all_goals
      rw [Set.mem_ofPred_eq, wifiTxBufferSize] at hx
      omega
  · rw [hdata, hsize, load32_store32 htag, hmask]

/-- Otherwise a byte behind the buffer is overwritten, whatever is there. -/
theorem overwrites (h : req.Carries overhead data) (hring : ring.InRange)
    (hlen : data.length < 2 ^ 32)
    (halloc : txBufferAllocBuffer ring (u32 (frameSpace (overhead + data.length))) =
      (ring', some a))
    (hwrap : 2 ^ 32 ≤ a + frameSpace (overhead + data.length)) :
    ∃ b, ∀ m : Mem,
      (txEnqueue { ring with txbufData := m } req).1.txbufData (wifiTxBufferSize + 128) = b := by
  obtain ⟨lead, gaps, hparts, hlead, hgaps⟩ := h.parts
  have hsum := h.sum
  have hoverhead := h.overhead_le
  have hround := roundUp_lt (overhead + data.length)
  obtain ⟨ha, -⟩ := hring.alloc_index halloc
  unfold frameSpace at hwrap
  rw [← h.frameSpace_eq] at halloc
  have hlt : a + 4 + (lead.map TxPart.length).sum < 2 ^ 32 := by
    unfold wifiTxBufferSize at ha
    omega
  -- The byte is one of the data.
  obtain ⟨k, hk, hbyte⟩ : ∃ k, k < data.length ∧
      wifiTxBufferSize + 128 = a + 4 + (lead.map TxPart.length).sum + k := by
    refine ⟨wifiTxBufferSize + 128 - (a + 4 + (lead.map TxPart.length).sum), ?_, by omega⟩
    unfold wifiTxBufferSize at *
    omega
  refine ⟨data[k], fun m => ?_⟩
  obtain ⟨ring'', halloc'⟩ := TxRing.exists_alloc_setData halloc m
  obtain ⟨-, -, hdata⟩ := txEnqueue_of_alloc halloc'
  have ha32 : a + 4 < 2 ^ 32 := by omega
  have hend := writeParts_snd ring''.txbufData ha32 req.parts
  rw [u32_of_lt ha32] at hdata
  rw [hdata]
  generalize hr : writeParts ring''.txbufData (a + 4) req.parts = r at hend ⊢
  -- The tag behind the frame is close to one of the ends of the 32 bits.
  have htag : roundUp32 r.2 + 4 ≤ wifiTxBufferSize + 128 ∨
      wifiTxBufferSize + 128 < roundUp32 r.2 := by
    rw [hend, hsum]
    unfold wifiTxBufferSize at *
    unfold roundUp32 roundUp u32 at *
    omega
  rw [eqOn_store32 (S := {wifiTxBufferSize + 128}) (fun x hx => ?_) rfl,
    eqOn_store32 (S := {wifiTxBufferSize + 128}) (fun x hx => ?_) rfl]
  · rw [← hr, hparts, hbyte]
    exact writeParts_copy _ hgaps hlt hk
  · rw [Set.mem_singleton_iff.mp hx]
    omega
  · rw [Set.mem_singleton_iff.mp hx]
    omega

/-- **The frame is stored exactly if its space doesn't wrap around**, or what is left of it is
refused. -/
theorem stores_iff (h : req.Carries overhead data) (hring : ring.InRange)
    (hlen : data.length < 2 ^ 32) :
    StoresExactly (fun ring => txEnqueue ring req) ring (overhead + data.length) ↔
      ring.Unwrapped (overhead + data.length) := by
  have hexact : overhead + data.length < 2 ^ 32 + 64 := by
    have := h.overhead_le
    omega
  constructor
  · intro hstores
    rcases hring.alloc_cases hexact with ⟨hunwrapped, -⟩ | ⟨-, ring', a, halloc, hwrap⟩
    · exact hunwrapped
    · obtain ⟨b, hb⟩ := h.overwrites hring hlen halloc hwrap
      rw [← h.frameSpace_eq] at halloc
      rcases hstores with ⟨hrefused, -⟩ | ⟨-, hrest, -⟩
      · rw [(txEnqueue_of_alloc halloc).1] at hrefused
        cases hrefused
      · -- The byte is not what it was before.
        let m := Function.update ring.txbufData (wifiTxBufferSize + 128) (b + 1)
        have hm := hrest m (fun x hx => Function.update_of_ne (by
          rw [Set.mem_ofPred_eq] at hx
          omega) _ _) (show wifiTxBufferSize ≤ wifiTxBufferSize + 128 by omega)
        rw [hb m, show m (wifiTxBufferSize + 128) = b + 1 from Function.update_self ..] at hm
        simp at hm
  · intro hunwrapped
    have hroom (m : Mem) : ∀ ring' a, txBufferAllocBuffer { ring with txbufData := m }
        (u32 (frameSpace (overhead + data.length))) = (ring', some a) →
        a + frameSpace (overhead + data.length) ≤ wifiTxBufferSize := by
      rcases (hring.setData m).alloc_cases hexact with ⟨-, hfits⟩ | ⟨hno, -⟩
      · exact hfits
      · exact absurd hunwrapped hno
    rcases halloc : txBufferAllocBuffer ring (u32 (frameSpace (overhead + data.length))) with
      ⟨ring', idx⟩
    cases idx with
    | none =>
      rw [← h.frameSpace_eq] at halloc
      left
      dsimp only
      rw [txEnqueue_of_none halloc]
      exact ⟨rfl, rfl, rfl, rfl⟩
    | some a =>
      obtain ⟨hok, -, hwrite, htag⟩ := h.stored hring halloc (hroom ring.txbufData ring' a halloc)
      refine .inr ⟨hok, fun m hm => ?_, a, hwrite, htag⟩
      obtain ⟨ring'', halloc'⟩ := TxRing.exists_alloc_setData halloc m
      exact (h.stored (hring.setData m) halloc' (hroom m ring'' a halloc')).2.1

end TxRequest.Carries

/-! ## The functions -/

/-- `size - sizeof(EthernetFrameHeader)`. Nobody looks at `size` before, so it wraps around. -/
def ethernetDataSize (size : Nat) : Nat :=
  if sizeofEthernetFrameHeader ≤ size then size - sizeofEthernetFrameHeader
  else size + 2 ^ 32 - sizeofEthernetFrameHeader

/-- The Ethernet frame of `size` bytes at `src`, as the functions take it apart. -/
def ethernetFrame (src : Mem) (size : Nat) : EthernetFrame where
  destMac := Vector.ofFn fun i => src i
  srcMac := Vector.ofFn fun i => src (6 + i)
  etherType := Vector.ofFn fun i => src (12 + i)
  payload := loadBytes src sizeofEthernetFrameHeader (ethernetDataSize size)

/-- The functions that take a size. -/
inductive SizedCall
  | rawTxFrame (rate : Nat)
  | multiplayerHostCmdTxFrame
  | multiplayerClientReplyTxFrame
  | multiplayerHostToClientDataTxFrame (aid : Int)
  | multiplayerClientToHostDataTxFrame
  | transmitFunctionLink

namespace SizedCall

/-- The call with the `size` bytes at `src`. -/
def call (src : Mem) (size : Nat) : SizedCall → TxCall
  | rawTxFrame rate => .rawTxFrame rate (loadBytes src 0 size)
  | multiplayerHostCmdTxFrame => .multiplayerHostCmdTxFrame (loadBytes src 0 size)
  | multiplayerClientReplyTxFrame => .multiplayerClientReplyTxFrame (loadBytes src 0 size)
  | multiplayerHostToClientDataTxFrame aid =>
    .multiplayerHostToClientDataTxFrame aid (loadBytes src 0 size)
  | multiplayerClientToHostDataTxFrame =>
    .multiplayerClientToHostDataTxFrame (loadBytes src 0 size)
  | transmitFunctionLink => .transmitFunctionLink (ethernetFrame src size)

/-- `data_size`. -/
def dataSize (size : Nat) : SizedCall → Nat
  | transmitFunctionLink => ethernetDataSize size
  | _ => size

/-- What the headers and the trailer take. -/
def overhead (env : TxEnv) : SizedCall → Nat
  | rawTxFrame _ => sizeofTxHeader + 4
  | multiplayerHostCmdTxFrame => sizeofTxMultiplayerHostIeeeDataFrame + 4
  | multiplayerClientReplyTxFrame => sizeofTxMultiplayerClientIeeeDataFrame + 4
  | multiplayerHostToClientDataTxFrame _ => sizeofTxIeeeDataFrame + 4
  | multiplayerClientToHostDataTxFrame => sizeofTxMultiplayerClientIeeeDataFrame + 4
  | transmitFunctionLink =>
    if env.reqFlags &&& wflagReqDsiMode ≠ 0 then sizeofMboxHdrTxDataPacket
    else sizeofTxHeader + sizeofIeeeDataFrameHeader + sizeofLlcSnapHeader +
      (if env.wep then 8 else 0) + 4

/-- The size of the frame. -/
def frameSize (env : TxEnv) (size : Nat) (f : SizedCall) : Nat := f.overhead env + f.dataSize size

/-- `Wifi_MultiplayerHostToClientDataTxFrame` doesn't know the client. -/
def Unknown (env : TxEnv) : SizedCall → Prop
  | multiplayerHostToClientDataTxFrame aid => env.clientMac aid = none
  | _ => False

theorem length_data (src : Mem) (size : Nat) (f : SizedCall) :
    (f.call src size).data.length = f.dataSize size := by
  cases f with
  | transmitFunctionLink =>
    exact length_loadBytes src sizeofEthernetFrameHeader (ethernetDataSize size)
  | _ => exact length_loadBytes src 0 size

theorem multiplayerTxRequest_carries (ieee : IeeeFrameHeader) {info : List UInt8}
    (data : List UInt8) (flags : Nat) (hle : info.length ≤ 4) (hflags : flags ∈ txFlags) :
    (multiplayerTxRequest ieee info data (36 + info.length) flags).Carries (36 + info.length + 4)
      data where
  parts := by
    refine ⟨[.copy _], [.skip 4], rfl, ?_, by simp⟩
    simp only [List.map_cons, List.map_nil, TxPart.length, List.sum_cons, List.sum_nil,
      List.length_append, TxHeader.length_bytes, IeeeFrameHeader.length_bytes, sizeofTxHeader,
      sizeofIeeeDataFrameHeader]
    omega
  sum := by
    simp only [multiplayerTxRequest, List.map_cons, List.map_nil, TxPart.length, List.sum_cons,
      List.sum_nil, List.length_append, TxHeader.length_bytes, IeeeFrameHeader.length_bytes,
      sizeofTxHeader, sizeofIeeeDataFrameHeader]
    omega
  frameSize_eq := by
    rw [multiplayerTxRequest]
    dsimp only
    congr 1
    omega
  flags_mem := hflags
  overhead_le := by omega

theorem rawTxRequest_carries (rate : Nat) (data : List UInt8) :
    (rawTxRequest rate data).Carries (sizeofTxHeader + 4) data where
  parts := ⟨[.copy _], [.skip 4], rfl, by simp [TxPart.length, sizeofTxHeader], by simp⟩
  sum := by
    simp only [rawTxRequest, List.map_cons, List.map_nil, TxPart.length, List.sum_cons,
      List.sum_nil, TxHeader.length_bytes]
    omega
  frameSize_eq := by
    rw [rawTxRequest]
    dsimp only
    congr 1
    omega
  flags_mem := show wflagSendAsData ∈ txFlags by decide
  overhead_le := by decide

theorem ntrLinkRequest_carries (env : TxEnv) (src : EthernetFrame) :
    (ntrLinkRequest env src).Carries (sizeofTxHeader + sizeofIeeeDataFrameHeader +
      sizeofLlcSnapHeader + (if env.wep then 8 else 0) + 4) src.payload where
  parts := by
    refine ⟨[.copy _, .copy _, .skip _, .copy _], [.skip _], rfl, ?_, by simp⟩
    simp only [List.map_cons, List.map_nil, TxPart.length, List.sum_cons, List.sum_nil,
      TxHeader.length_bytes, IeeeFrameHeader.length_bytes, length_llcSnapBytes, sizeofTxHeader,
      sizeofIeeeDataFrameHeader, sizeofLlcSnapHeader]
    split <;> omega
  sum := by
    simp only [ntrLinkRequest, List.map_cons, List.map_nil, TxPart.length, List.sum_cons,
      List.sum_nil, TxHeader.length_bytes, IeeeFrameHeader.length_bytes, length_llcSnapBytes]
    split <;> omega
  frameSize_eq := by
    rw [ntrLinkRequest]
    dsimp only
    congr 1
    split <;> omega
  flags_mem := show wflagSendAsData ∈ txFlags by decide
  overhead_le := by
    unfold sizeofTxHeader sizeofIeeeDataFrameHeader sizeofLlcSnapHeader
    split <;> omega

theorem twlLinkRequest_carries (src : EthernetFrame) :
    (twlLinkRequest src).Carries sizeofMboxHdrTxDataPacket src.payload where
  parts := by
    refine ⟨[.copy _], [], rfl, ?_, by simp⟩
    simp [TxPart.length, length_mboxHdrTxDataPacketBytes, sizeofMboxHdrTxDataPacket]
  sum := by
    simp only [twlLinkRequest, List.map_cons, List.map_nil, TxPart.length, List.sum_cons,
      List.sum_nil, length_mboxHdrTxDataPacketBytes, Nat.add_zero]
  frameSize_eq := rfl
  flags_mem := show 0 ∈ txFlags by decide
  overhead_le := by decide

/-- Every call returns `-1` at once or goes through the body that they share. -/
theorem carries (env : TxEnv) (src : Mem) (size : Nat) (f : SizedCall) :
    f.Unknown env ∧ (∀ ring, (f.call src size).run env ring = (ring, false)) ∨
    ¬ f.Unknown env ∧ ∃ req : TxRequest, req.Carries (f.overhead env) (f.call src size).data ∧
      ∀ ring, (f.call src size).run env ring = txEnqueue ring req := by
  cases f with
  | rawTxFrame rate => exact .inr ⟨id, _, rawTxRequest_carries rate _, fun _ => rfl⟩
  | multiplayerHostCmdTxFrame =>
    exact .inr ⟨id, _, multiplayerTxRequest_carries _ _ wflagSendAsCmd (by decide) (by decide),
      fun _ => rfl⟩
  | multiplayerClientReplyTxFrame =>
    exact .inr ⟨id, _, multiplayerTxRequest_carries _ _ wflagSendAsReply (by simp) (by decide),
      fun _ => rfl⟩
  | multiplayerHostToClientDataTxFrame aid =>
    cases hmac : env.clientMac aid with
    | none =>
      refine .inl ⟨hmac, fun ring => ?_⟩
      simp only [call, TxCall.run, Wifi.multiplayerHostToClientDataTxFrame, hmac]
    | some mac =>
      have hcarries (ieee : IeeeFrameHeader) := multiplayerTxRequest_carries ieee
        (loadBytes src 0 size) wflagSendAsData (show ([] : List UInt8).length ≤ 4 by decide)
        (by decide)
      refine .inr ⟨fun hnone => ?_, ?_⟩
      · cases hmac.symm.trans hnone
      · simp only [call, TxCall.run, Wifi.multiplayerHostToClientDataTxFrame, hmac]
        exact ⟨_, hcarries _, fun _ => rfl⟩
  | multiplayerClientToHostDataTxFrame =>
    exact .inr ⟨id, _, multiplayerTxRequest_carries _ _ wflagSendAsData (by simp) (by decide),
      fun _ => rfl⟩
  | transmitFunctionLink =>
    refine .inr ⟨id, ?_⟩
    simp only [call, TxCall.run, Wifi.transmitFunctionLink, overhead]
    split
    · exact ⟨_, twlLinkRequest_carries _, fun _ => rfl⟩
    · exact ⟨_, ntrLinkRequest_carries env _, fun _ => rfl⟩

theorem dataSize_lt {size : Nat} (hsize : size < 2 ^ 32) (f : SizedCall) :
    f.dataSize size < 2 ^ 32 := by
  cases f with
  | transmitFunctionLink =>
    rw [dataSize, ethernetDataSize, sizeofEthernetFrameHeader]
    split_ifs <;> omega
  | _ => exact hsize

/-- What a call does with the sizes. -/
theorem stores_iff {env : TxEnv} {ring : TxRing} (hring : ring.InRange) (src : Mem) {size : Nat}
    (hsize : size < 2 ^ 32) (f : SizedCall) :
    StoresExactly ((f.call src size).run env) ring (f.frameSize env size) ↔
      f.Unknown env ∨ ring.Unwrapped (f.frameSize env size) := by
  have hlength := f.length_data src size
  rcases f.carries env src size with ⟨hunknown, hrun⟩ | ⟨hknown, req, hcarries, hrun⟩
  · refine iff_of_true (.inl ?_) (.inl hunknown)
    dsimp only
    rw [hrun]
    exact ⟨rfl, rfl, rfl, rfl⟩
  · have hlt : (f.call src size).data.length < 2 ^ 32 := by
      rw [hlength]
      exact dataSize_lt hsize f
    have hiff := hcarries.stores_iff hring hlt
    rw [hlength, ← funext hrun] at hiff
    exact hiff.trans (or_iff_right hknown).symm

end SizedCall

/-- **A call is refused, or stores its frame and writes nothing else, exactly if the space of the
frame doesn't wrap around**, or what is left of it finds no room. -/
theorem tx_sizes_iff (env : TxEnv) {ring : TxRing} (hring : ring.InRange) (src : Mem) {size : Nat}
    (hsize : size < 2 ^ 32) (f : SizedCall) :
    StoresExactly ((f.call src size).run env) ring (f.frameSize env size) ↔
      f.Unknown env ∨ ring.Unwrapped (f.frameSize env size) :=
  f.stores_iff hring src hsize

theorem tx_sizes_iff_init : StoresExactly
    (((SizedCall.rawTxFrame 0).call (fun _ => 0) 100).run (.zero 0)) .init 116 :=
  (tx_sizes_iff (.zero 0) TxInv.init.inRange (fun _ => 0) (by decide) (.rawTxFrame 0)).mpr
    (.inr (.inl (by decide)))

/-- In an empty ring `2 ^ 32 - 16` bytes count as none, and an Ethernet frame of 13 bytes as one
byte less than none. -/
theorem tx_sizes_wrapped :
    ¬ StoresExactly (((SizedCall.rawTxFrame 0).call (fun _ => 0) (2 ^ 32 - 16)).run (.zero 0))
      .init (SizedCall.frameSize (.zero 0) (2 ^ 32 - 16) (.rawTxFrame 0)) ∧
    ¬ StoresExactly (((SizedCall.transmitFunctionLink).call (fun _ => 0) 13).run (.zero 0))
      .init (SizedCall.frameSize (.zero 0) 13 .transmitFunctionLink) := by
  have hring : TxRing.init.InRange := TxInv.init.inRange
  constructor
  · rw [SizedCall.stores_iff hring _ (by decide)]
    rintro (h | h | h)
    · exact h
    · exact absurd h (by decide)
    · exact h.2 (by decide)
  · rw [SizedCall.stores_iff hring _ (by decide)]
    rintro (h | h | h)
    · exact h
    · exact absurd h (by decide)
    · exact h.2 (by decide)

end Wifi
