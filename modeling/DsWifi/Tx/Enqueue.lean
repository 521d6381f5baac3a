import DsWifi.Tx.Frames

/-!
# The invariant of the TX ring

The ring is the tagged ring `txGeometry`, whose tags carry type bits above the length. The reader
finds the frames `q` up to an end tag at `e`. As long as the ARM7 takes whole frames `e` is the
write index; when it stops in the middle of a frame, at a word that is zero, the reader has its own
end tag and the writer goes on without it.
-/

namespace Wifi

open Infra Infra.Mem Infra.TaggedRing

/-- The TX ring. The size tag is the length of the frame, with type bits above it. -/
def txGeometry : Geometry where
  cap := wifiTxBufferSize
  wrap := wifiSizeWrap
  len := fun tag => tag &&& wflagSendSizeMask

theorem txGeometry_cap : txGeometry.cap = 24576 := rfl

theorem txGeometry_wrap : txGeometry.wrap = wifiSizeWrap := rfl

/-- A queued frame has a header. With type bits it is the hardware's. -/
structure QueuedFrame (f : Frame txGeometry) : Prop where
  tag_mem : f.tag ∈ txFlags.map (f.body.length ||| ·)
  le_size : 16 ≤ f.body.length
  size_lt : f.body.length < 2 ^ 28
  beacon_le : f.tag = f.body.length ||| wflagSendAsBeacon → f.body.length ≤ 512
  headed : f.tag ≠ f.body.length → HasTxHeader f.body.length f.body

/-- The invariant of the TX ring. -/
structure TxInv (ring : TxRing) (e : Nat) (q : List (Frame txGeometry)) : Prop where
  view : View txGeometry ring.txbufData ring.txbufRead e q
  ends : e = ring.txbufWrite ∨
    q = [] ∧ e = ring.txbufRead ∧ View.Ahead ring.txbufRead e ring.txbufWrite
  queued : ∀ f ∈ q, QueuedFrame f
  four_dvd_read : 4 ∣ ring.txbufRead
  four_dvd_write : 4 ∣ ring.txbufWrite
  write_le : ring.txbufWrite + 4 ≤ 24576

theorem TxInv.init : TxInv .init 0 [] where
  view := .empty rfl (by decide)
  ends := .inl rfl
  queued := by simp
  four_dvd_read := ⟨0, rfl⟩
  four_dvd_write := ⟨0, rfl⟩
  write_le := by decide

variable {ring ring' : TxRing} {e w t : Nat} {q : List (Frame txGeometry)}

theorem TxInv.eq_or_ahead (h : TxInv ring e q) :
    e = ring.txbufWrite ∨ View.Ahead ring.txbufRead e ring.txbufWrite :=
  h.ends.imp_right fun hs => hs.2.2

theorem TxInv.read_le (h : TxInv ring e q) (hle : ring.txbufRead ≤ ring.txbufWrite) :
    ring.txbufRead ≤ e := by
  rcases h.ends with he | ⟨-, he, -⟩ <;> omega

theorem ahead_ne {r : Nat} (h : View.Ahead r e w) (he : e = r) : e ≠ w := by
  unfold View.Ahead at h
  omega

/-! ## Allocating -/

/-- What `Wifi_TxBufferAllocBuffer` leaves behind when it finds `t` free bytes at `w`. -/
structure Allocated (ring ring' : TxRing) (e w t : Nat) (q : List (Frame txGeometry)) : Prop where
  read : ring'.txbufRead = ring.txbufRead
  queued : ring'.queued = ring.queued
  four_dvd : 4 ∣ w
  le : w + t ≤ 24576
  room : View.Room txGeometry ring.txbufRead w t
  view : (e = ring.txbufWrite ∧ View txGeometry ring'.txbufData ring.txbufRead w q) ∨
    (e ≠ ring.txbufWrite ∧ q = [] ∧ e = ring.txbufRead ∧ View.Ahead ring.txbufRead e w ∧
      View txGeometry ring'.txbufData ring.txbufRead e q)

theorem TxInv.allocated (h : TxInv ring e q)
    (hroom : View.Room txGeometry ring.txbufRead ring.txbufWrite t)
    (hle : ring.txbufWrite + t ≤ 24576) : Allocated ring ring e ring.txbufWrite t q where
  read := rfl
  queued := rfl
  four_dvd := h.four_dvd_write
  le := hle
  room := hroom
  view := by
    rcases h.ends with he | ⟨hq, he, ha⟩
    · exact .inl ⟨he, he ▸ h.view⟩
    · exact .inr ⟨ahead_ne ha he, hq, he, ha, h.view⟩

/-- The frame doesn't fit at the end, and the wrap marker is written. -/
theorem TxInv.wrapped (h : TxInv ring e q) (hle : ring.txbufRead ≤ ring.txbufWrite) (ht : 8 ≤ t)
    (hroom : t < ring.txbufRead) (hr : ring'.txbufRead = ring.txbufRead)
    (hqueued : ring'.queued = ring.queued) (hdata : ring'.txbufData =
      (ring.txbufData.store32 0 0).store32 ring.txbufWrite wifiSizeWrap) :
    Allocated ring ring' e 0 t q := by
  have hcap := h.view.reader_le
  have hre := h.read_le hle
  rw [txGeometry_cap] at hcap
  -- The reader stands behind the word at `0`.
  have hv : View txGeometry (ring.txbufData.store32 0 0) ring.txbufRead e q := by
    refine h.view.congr (eqOn_store32 fun x hx => ?_)
    simp only [live, if_pos hre, Set.mem_ofPred_eq] at hx
    omega
  have hz : load32 (ring.txbufData.store32 0 0) 0 = 0 := load32_store32 (by decide)
  refine ⟨hr, hqueued, ⟨0, rfl⟩, by omega, ?_, ?_⟩
  · rw [View.Room, if_neg (by omega)]
    omega
  · rw [hdata]
    rcases h.ends with he | ⟨hq, he, ha⟩
    · subst he
      exact .inl ⟨rfl, hv.wrap hz (by decide) hre (by omega)⟩
    · refine .inr ⟨ahead_ne ha he, hq, he, ?_, ?_⟩
      · unfold View.Ahead
        omega
      · refine hv.congr (eqOn_store32 fun x hx => ?_)
        simp only [live, if_pos hre, Set.mem_ofPred_eq] at hx
        unfold View.Ahead at ha
        omega

theorem TxInv.alloc (h : TxInv ring e q) (ht : 8 ≤ t) (ht' : t < 2 ^ 31 + 2 ^ 9)
    (ha : txBufferAllocBuffer ring t = (ring', some w)) : Allocated ring ring' e w t q := by
  have hw := h.write_le
  have hu : u32 (ring.txbufWrite + t) = ring.txbufWrite + t := u32_of_lt (by omega)
  have hcap := h.view.reader_le
  rw [txGeometry_cap] at hcap
  unfold txBufferAllocBuffer at ha
  rw [hu] at ha
  by_cases hle : ring.txbufRead ≤ ring.txbufWrite
  · rw [if_pos hle] at ha
    by_cases hfit : wifiTxBufferSize ≤ ring.txbufWrite + t
    · rw [if_pos hfit] at ha
      by_cases hroom : ring.txbufRead ≤ t
      · rw [if_pos hroom] at ha
        cases ha
      · rw [if_neg hroom] at ha
        cases ha
        exact h.wrapped hle ht (by omega) rfl rfl rfl
    · rw [if_neg hfit] at ha
      unfold wifiTxBufferSize at hfit
      cases ha
      refine h.allocated ?_ (by omega)
      rw [View.Room, if_pos hle, txGeometry_cap]
      omega
  · rw [if_neg hle] at ha
    by_cases hroom : ring.txbufRead ≤ ring.txbufWrite + t
    · rw [if_pos hroom] at ha
      cases ha
    · rw [if_neg hroom] at ha
      cases ha
      refine h.allocated ?_ (by omega)
      rw [View.Room, if_neg hle]
      omega

/-! ## Writing the pieces -/

/-- The pieces are written one after the other and nowhere else. -/
theorem writeParts_spec (m : Mem) {i : Nat} (parts : List TxPart)
    (h : i + (parts.map TxPart.length).sum < 2 ^ 32) :
    (writeParts m i parts).2 = i + (parts.map TxPart.length).sum ∧
    Set.EqOn (writeParts m i parts).1 m
      {x | x < i ∨ i + (parts.map TxPart.length).sum ≤ x} := by
  induction parts generalizing m i with
  | nil => exact ⟨by simp [writeParts], Set.eqOn_refl _ _⟩
  | cons part parts ih =>
    rw [List.map_cons, List.sum_cons] at h ⊢
    cases part with
    | copy bytes =>
      simp only [TxPart.length] at h ⊢
      rw [writeParts, u32_of_lt (by omega)]
      obtain ⟨hidx, heq⟩ := ih (m.storeBytes i bytes) (i := i + bytes.length) (by omega)
      refine ⟨by omega, fun x hx => ?_⟩
      rw [Set.mem_ofPred_eq] at hx
      rw [heq (by rw [Set.mem_ofPred_eq]; omega)]
      exact eqOn_storeBytes (S := {x}) (fun y hy => by rw [Set.mem_singleton_iff] at hy; omega) rfl
    | skip size =>
      simp only [TxPart.length] at h ⊢
      rw [writeParts, u32_of_lt (by omega)]
      obtain ⟨hidx, heq⟩ := ih m (i := i + size) (by omega)
      refine ⟨by omega, fun x hx => ?_⟩
      rw [Set.mem_ofPred_eq] at hx
      exact heq (by rw [Set.mem_ofPred_eq]; omega)

/-- The first piece is not overwritten by the others. -/
theorem writeParts_head (m : Mem) {i : Nat} (bytes : List UInt8) (parts : List TxPart)
    (h : i + bytes.length + (parts.map TxPart.length).sum < 2 ^ 32) :
    loadBytes (writeParts m i (.copy bytes :: parts)).1 i bytes.length = bytes := by
  rw [writeParts, u32_of_lt (by omega)]
  have heq := (writeParts_spec (m.storeBytes i bytes) parts h).2
  rw [loadBytes_congr (heq.mono fun x hx => .inl hx.2)]
  exact loadBytes_storeBytes m i bytes

/-! ## Enqueueing -/

theorem exists_txFlags {flags : Nat} (hf : flags ∈ txFlags) : ∃ k ≤ 8, flags = 2 ^ 28 * k := by
  simp only [txFlags, List.mem_cons, List.not_mem_nil, or_false] at hf
  rcases hf with rfl | rfl | rfl | rfl | rfl
  · exact ⟨0, by decide, rfl⟩
  · exact ⟨1, by decide, rfl⟩
  · exact ⟨2, by decide, rfl⟩
  · exact ⟨4, by decide, rfl⟩
  · exact ⟨8, by decide, rfl⟩

/-- The type bits lie above the size. -/
theorem or_eq_add {size flags : Nat} (hs : size < 2 ^ 28) (hf : flags ∈ txFlags) :
    size ||| flags = size + flags := by
  obtain ⟨k, -, rfl⟩ := exists_txFlags hf
  rw [Nat.or_comm, ← Nat.two_pow_add_eq_or_of_lt hs, Nat.add_comm]

theorem tag_lt {size flags : Nat} (hs : size < 2 ^ 28) (hf : flags ∈ txFlags) :
    size ||| flags < 2 ^ 32 ∧ size ||| flags ≠ wifiSizeWrap ∧
    (size ||| flags) &&& wflagSendSizeMask = size := by
  have hmask : wflagSendSizeMask = 2 ^ 28 - 1 := rfl
  rw [or_eq_add hs hf, hmask, Nat.and_two_pow_sub_one_eq_mod]
  obtain ⟨k, hk, rfl⟩ := exists_txFlags hf
  unfold wifiSizeWrap
  omega

theorem roundUp_add_of_dvd {w : Nat} (h : 4 ∣ w) (n : Nat) : roundUp (w + n) = w + roundUp n := by
  obtain ⟨k, rfl⟩ := h
  unfold roundUp
  omega

section

variable {req : TxRequest} {m : Mem}

/-- The ring memory before the size tag is written. -/
def TxRequest.fill (req : TxRequest) (m : Mem) (w : Nat) : Mem :=
  (writeParts m (w + 4) req.parts).1.store32 (w + 4 + roundUp req.frameSize) 0

theorem TxRequest.Valid.eqOn_fill (h : req.Valid)
    (hle : w + (4 + roundUp req.frameSize + 4) ≤ 24576)
    {S : Set Nat} (hS : ∀ x ∈ S, x < w + 4 ∨ w + (4 + roundUp req.frameSize + 4) ≤ x) :
    Set.EqOn (req.fill m w) m S := by
  have hpad := le_roundUp req.frameSize
  have hparts := (writeParts_spec m (i := w + 4) req.parts (by rw [h.size_eq]; omega)).2
  rw [h.size_eq] at hparts
  refine (eqOn_store32 fun x hx => ?_).trans (hparts.mono fun x hx => ?_)
  · have := hS x hx
    omega
  · have := hS x hx
    rw [Set.mem_ofPred_eq]
    omega

theorem TxRequest.Valid.headed_fill (h : req.Valid)
    (hle : w + (4 + roundUp req.frameSize + 4) ≤ 24576) (hf : req.flags ≠ 0) :
    HasTxHeader req.frameSize (loadBytes (req.fill m w) (w + 4) req.frameSize) := by
  obtain ⟨bytes, parts, hparts, tx, h1, h2, h3, htx⟩ := h.headed hf
  have hpad := le_roundUp req.frameSize
  have hlen : 12 ≤ bytes.length := htx.length_le
  have hsum := h.size_eq
  rw [hparts, List.map_cons, List.sum_cons, TxPart.length] at hsum
  have hle' : bytes.length ≤ req.frameSize := by omega
  refine ⟨tx, h1, h2, h3, htx.trans ?_⟩
  have hhead : loadBytes (req.fill m w) (w + 4) bytes.length = bytes := by
    calc loadBytes (req.fill m w) (w + 4) bytes.length
        = loadBytes (writeParts m (w + 4) req.parts).1 (w + 4) bytes.length :=
          loadBytes_congr (eqOn_store32 fun x hx => .inl (by have := hx.2; omega))
      _ = bytes := by
          rw [hparts]
          exact writeParts_head m bytes parts (by omega)
  rw [← hhead, ← take_loadBytes _ _ hle']
  exact List.take_prefix _ _

/-- The frame that a request leaves in the ring at `w`. -/
def TxRequest.frame (req : TxRequest) (h : req.Valid) (hlt : req.frameSize < 2 ^ 28) (m : Mem)
    (w : Nat) : Frame txGeometry where
  tag := req.frameSize ||| req.flags
  body := loadBytes (req.fill m w) (w + 4) req.frameSize
  tag_lt := (tag_lt hlt h.flags_mem).1
  tag_ne_zero := by
    have h16 := h.le_size
    have hle : req.frameSize ≤ req.frameSize ||| req.flags := Nat.left_le_or
    omega
  tag_ne_wrap := (tag_lt hlt h.flags_mem).2.1
  len_tag := by
    rw [length_loadBytes]
    exact (tag_lt hlt h.flags_mem).2.2

theorem TxRequest.frame_queued (h : req.Valid) (hlt : req.frameSize < 2 ^ 28)
    (hle : w + (4 + roundUp req.frameSize + 4) ≤ 24576) : QueuedFrame (req.frame h hlt m w) where
  tag_mem := by
    simp only [frame, length_loadBytes]
    exact List.mem_map_of_mem h.flags_mem
  beacon_le hb := by
    simp only [frame, length_loadBytes] at hb ⊢
    rw [or_eq_add hlt h.flags_mem, or_eq_add hlt (by decide)] at hb
    exact h.beacon_le (Nat.add_left_cancel hb)
  le_size := by
    simp only [frame, length_loadBytes]
    exact h.le_size
  size_lt := by
    simp only [frame, length_loadBytes]
    exact hlt
  headed hne := by
    simp only [frame, length_loadBytes] at hne ⊢
    exact h.headed_fill hle fun h0 => hne (by rw [h0, Nat.or_zero])

end

/-- What the ARM9 has stored after the allocation is the next frame of the queue. -/
theorem TxInv.publish (h : TxInv ring e q) {req : TxRequest} (hreq : req.Valid)
    (ha : Allocated ring ring' e w (4 + roundUp req.frameSize + 4) q)
    (hlt : req.frameSize < 2 ^ 28) (ring'' : TxRing) (hr : ring''.txbufRead = ring.txbufRead)
    (hw : ring''.txbufWrite = w + 4 + roundUp req.frameSize) (hd : ring''.txbufData =
      (req.fill ring'.txbufData w).store32 w (req.frameSize ||| req.flags)) :
    (e = ring.txbufWrite ∧
      TxInv ring'' ring''.txbufWrite (q ++ [req.frame hreq hlt ring'.txbufData w])) ∨
    (e ≠ ring.txbufWrite ∧ q = [] ∧ TxInv ring'' e []) := by
  have hle := ha.le
  have hpad := four_dvd_roundUp req.frameSize
  have h4 : 4 ∣ ring''.txbufWrite := by
    have := ha.four_dvd
    rw [hw]
    omega
  have hroom := ha.room
  have hnext : (req.frame hreq hlt ring'.txbufData w).next w = w + 4 + roundUp req.frameSize := by
    simp only [Frame.next, TxRequest.frame, length_loadBytes]
  have hunseen {e' : Nat} (he' : e' = w ∨ View.Ahead ring.txbufRead e' w) :
      Set.EqOn (req.fill ring'.txbufData w) ring'.txbufData (live ring.txbufRead e') := by
    refine hreq.eqOn_fill hle fun x hx => ?_
    by_contra hc
    exact View.not_live_of_room hroom he' (by omega) (by omega) hx
  rcases ha.view with ⟨he, hv⟩ | ⟨hne, hq, he, hahead, hv⟩
  · refine .inl ⟨he, ?_, .inl rfl, ?_, hr ▸ h.four_dvd_read, h4, by omega⟩
    · rw [hr, hw, hd, ← hnext]
      refine (hv.congr (hunseen (.inl rfl))).push (f := req.frame hreq hlt ring'.txbufData w)
        ?_ ?_ ?_
      · simp only [TxRequest.frame, length_loadBytes]
      · rw [hnext]
        exact load32_store32 (by decide)
      · rw [hnext, show w + 4 + roundUp req.frameSize + 4 - w = 4 + roundUp req.frameSize + 4 by
          omega]
        exact hroom
    · intro f hf
      rcases List.mem_append.mp hf with hf | hf
      · exact h.queued f hf
      · rw [List.mem_singleton.mp hf]
        exact TxRequest.frame_queued hreq hlt hle
  · refine .inr ⟨hne, hq, ?_, .inr ⟨rfl, by rw [hr, he], ?_⟩, by simp, hr ▸ h.four_dvd_read, h4,
      by omega⟩
    · rw [hr, hd]
      subst hq
      refine (hv.congr (hunseen (.inr hahead))).congr (eqOn_store32 fun x hx => ?_)
      -- The tag that the reader waits at is not the one that is written.
      unfold View.Ahead at hahead
      simp only [live, he, Nat.le_refl, if_true, Set.mem_ofPred_eq] at hx
      omega
    · rw [hr, hw]
      refine View.Ahead.of_room (g := txGeometry) (w := w) ?_ (by omega) (.inr hahead)
      rw [show w + 4 + roundUp req.frameSize + 4 - w = 4 + roundUp req.frameSize + 4 by omega]
      exact hroom

/-- The ring after a request has been written at `w`. -/
def TxRequest.enqueued (req : TxRequest) (ring : TxRing) (w : Nat) : TxRing :=
  let txbufData := (req.fill ring.txbufData w).store32 w (req.frameSize ||| req.flags)
  { ring with
    txbufData
    txbufWrite := w + 4 + roundUp req.frameSize
    queued := ring.queued ++ [(req.flags, loadBytes txbufData (w + 4) req.frameSize)] }

/-- A request is refused, or written to the space that is found for it. -/
theorem TxInv.txEnqueue_cases (h : TxInv ring e q) {req : TxRequest} (hreq : req.Valid) :
    txEnqueue ring req =
      ({ ring with txQueuedRejected := u32 (ring.txQueuedRejected + 1) }, false) ∨
    ∃ ring' w, txBufferAllocBuffer ring (4 + roundUp req.frameSize + 4) = (ring', some w) ∧
      Allocated ring ring' e w (4 + roundUp req.frameSize + 4) q ∧
      txEnqueue ring req = (req.enqueued ring' w, true) := by
  have hsize := hreq.size_lt
  have hpad := roundUp_lt req.frameSize
  have hlow := le_roundUp req.frameSize
  have htotal : u32 (4 + roundUp32 req.frameSize + 4) = 4 + roundUp req.frameSize + 4 := by
    rw [roundUp32_eq (by omega), u32_of_lt (by omega)]
  rcases halloc : txBufferAllocBuffer ring (4 + roundUp req.frameSize + 4) with ⟨ring', idx⟩
  cases idx with
  | none =>
    left
    simp only [txEnqueue, htotal, halloc, eq_of_txBufferAllocBuffer_eq_none halloc]
  | some w =>
    have ha := h.alloc (by omega) (by omega) halloc
    have hle := ha.le
    have hw4 : u32 (w + 4) = w + 4 := u32_of_lt (by omega)
    have hidx := (writeParts_spec ring'.txbufData (i := w + 4) req.parts
      (by rw [hreq.size_eq]; omega)).1
    have hnext : roundUp32 (writeParts ring'.txbufData (w + 4) req.parts).2
        = w + 4 + roundUp req.frameSize := by
      rw [hidx, hreq.size_eq, roundUp32_eq (by omega), Nat.add_assoc,
        roundUp_add_of_dvd ha.four_dvd, Nat.add_assoc, roundUp_add_of_dvd (by decide)]
    refine .inr ⟨ring', w, rfl, ha, ?_⟩
    simp only [txEnqueue, htotal, halloc, hw4, hnext]
    rfl

/-- What a call can do to the ring. -/
inductive Enqueues (ring : TxRing) (e : Nat) (q : List (Frame txGeometry)) (flags : Nat) :
    TxRing × Bool → Prop
  /-- It returns `-1`. -/
  | refused {ring' : TxRing} (hwrite : ring'.txbufWrite = ring.txbufWrite)
      (hqueued : ring'.queued = ring.queued) (h : TxInv ring' e q) :
      Enqueues ring e q flags (ring', false)
  /-- It returns `0`, and its frame is the last one of the queue. -/
  | queued {ring' : TxRing} {f : Frame txGeometry} (hf : QueuedFrame f)
      (htag : f.tag = f.body.length ||| flags)
      (hqueued : ring'.queued = ring.queued ++ [(flags, f.body)])
      (he : e = ring.txbufWrite) (h : TxInv ring' ring'.txbufWrite (q ++ [f])) :
      Enqueues ring e q flags (ring', true)
  /-- It returns `0`, but the reader has stopped. -/
  | stopped {ring' : TxRing} (hne : e ≠ ring.txbufWrite) (hq : q = []) (h : TxInv ring' e []) :
      Enqueues ring e q flags (ring', true)

theorem TxInv.enqueue (h : TxInv ring e q) {req : TxRequest} (hreq : req.Valid) :
    Enqueues ring e q req.flags (txEnqueue ring req) := by
  rcases h.txEnqueue_cases hreq with heq | ⟨ring', w, -, ha, heq⟩
  · rw [heq]
    exact .refused rfl rfl { h with }
  · have hle := ha.le
    have hlow := le_roundUp req.frameSize
    have hlt : req.frameSize < 2 ^ 28 := by omega
    have hbody : loadBytes ((req.fill ring'.txbufData w).store32 w (req.frameSize ||| req.flags))
        (w + 4) req.frameSize = (req.frame hreq hlt ring'.txbufData w).body :=
      -- The size tag is written beside the frame.
      loadBytes_congr (eqOn_store32 fun x hx => .inr hx.1)
    have hpub := h.publish hreq ha hlt (req.enqueued ring' w) ha.read rfl rfl
    rw [heq]
    rcases hpub with ⟨he, hinv⟩ | ⟨hne, hq, hinv⟩
    · exact .queued (TxRequest.frame_queued hreq hlt hle) (by simp [TxRequest.frame])
        (by rw [TxRequest.enqueued, ha.queued, ← hbody]) he hinv
    · exact .stopped hne hq hinv

/-- **A call keeps the ring.** -/
theorem TxInv.call (h : TxInv ring e q) (env : TxEnv) (call : TxCall) (hcall : call.IsObject) :
    Enqueues ring e q (call.flags env) (call.run env ring) := by
  rcases call.run_cases env ring hcall with hrun | ⟨req, hreq, hflags, hrun⟩
  · rw [hrun]
    exact .refused rfl rfl h
  · rw [hrun, ← hflags]
    exact h.enqueue hreq

end Wifi
