import DsWifi.Tx.Regions
import DsWifi.Tx.Stored

/-!
# Replies of a client

`Wifi_TxArm9QueueFlushByReply` next to the hardware. The DMA of `Wifi_MACWrite` copies one halfword
after the other, and at any moment a CMD can arrive: the hardware moves `W_TXBUF_REPLY1` to
`W_TXBUF_REPLY2`, clears `W_TXBUF_REPLY1`, and transmits the buffer that is in `W_TXBUF_REPLY2` now.

* `reply_whole_iff` — no copy goes to a buffer that the hardware can transmit, and what is
  transmitted is whole, exactly in the runs that take no reply from the queue while the buffer that
  `W_TXBUF_REPLY2` leaves free is pending in `W_TXBUF_REPLY1`
-/

namespace Wifi

open Infra Infra.Mem Infra.TaggedRing

/-! ## Steps -/

/-- A copy that is going on. -/
structure ReplyCopy where
  destination : Nat
  size : Nat
  /-- The number of halfwords that are in MAC RAM already. -/
  written : Nat

/-- The ARM7 and the hardware. -/
structure ReplyTx where
  tx : Arm7Tx
  copy : Option ReplyCopy
  /-- What has been transmitted at each CMD. -/
  transmitted : List (List UInt8)

/-- A register with this buffer in it. -/
def replyBuffer (base : Nat) : Nat := txbufEnable ||| base >>> 1

/-- What the hardware transmits for a register. The size is the one in the header of the frame. -/
def transmission (ram : Mem) (register : Nat) : List UInt8 :=
  let base := (register % txbufEnable) <<< 1
  if register &&& txbufEnable ≠ 0 then
    loadBytes ram base (hdrTxSize + load16 ram (base + hdrTxIeeeFrameSize))
  else []

namespace ReplyTx

def init : ReplyTx where
  tx := .init
  copy := none
  transmitted := []

/-- `Wifi_MultiplayerClientReplyTxFrame`. -/
def queue (env : TxEnv) (data : List UInt8) (s : ReplyTx) : ReplyTx :=
  { s with tx := { s.tx with ring := (multiplayerClientReplyTxFrame env s.tx.ring data).1 } }

/-- `Wifi_TxArm9QueueFlush` for a reply, up to the copy. -/
def flush (env : Arm7Env) (s : ReplyTx) : ReplyTx :=
  if s.copy.isSome then s
  else if load32 s.tx.ring.txbufData s.tx.ring.txbufRead = 0 then s
  else
    let tx := s.tx.skipWrap
    let status := load32 tx.ring.txbufData tx.ring.txbufRead
    if status = 0 then { s with tx }
    else if status &&& wflagSendAsReply ≠ 0 then
      let (destination, bufferEnd) := tx.replyDestination
      let size := status &&& wflagSendSizeMask
      if size ≤ bufferEnd then { s with tx, copy := some { destination, size, written := 0 } }
      else { s with tx := tx.txArm9QueueFlushByReply.1 }
    else { s with tx := (tx.txArm9QueueSend env status).1 }

/-- The DMA copies the next halfword. -/
def writeHalfword (s : ReplyTx) : ReplyTx :=
  match s.copy with
  | none => s
  | some copy =>
    if copy.written < (copy.size + 1) / 2 then
      let source := u32 (s.tx.ring.txbufRead + 4) + 2 * copy.written
      { s with
        tx := { s.tx with
          ram := s.tx.ram.store16 (copy.destination + 2 * copy.written)
            (load16 s.tx.ring.txbufData source) }
        copy := some { copy with written := copy.written + 1 } }
    else s

/-- The rest of the flush, as soon as the DMA isn't busy any more. -/
def finish (s : ReplyTx) : ReplyTx :=
  match s.copy with
  | none => s
  | some copy =>
    if copy.written < (copy.size + 1) / 2 then s
    else
      let readIdx := u32 (s.tx.ring.txbufRead + 4)
      let tx := { s.tx with
        ring := { s.tx.ring with txbufRead := u32 (readIdx + roundUp32 copy.size) }
        handled := s.tx.handled ++
          [.copied copy.destination (loadBytes s.tx.ram copy.destination copy.size)]
        copies := s.tx.copies ++ [(copy.destination, 2 * ((copy.size + 1) / 2))] }
      if copy.size = 0 then { s with tx, copy := none }
      else
        { s with
          tx := { tx with txRetrylimit := 0x0707, txbufReply1 := replyBuffer copy.destination }
          copy := none }

/-- A CMD arrives. -/
def command (s : ReplyTx) : ReplyTx :=
  let tx := s.tx.replySwap
  { s with tx, transmitted := s.transmitted ++ [transmission tx.ram tx.txbufReply2] }

end ReplyTx

/-- What can happen. All replies fit in a buffer of 256 bytes. -/
inductive ReplyEvent
  | queue (env : TxEnv) (data : List UInt8)
    (hfits : sizeofTxMultiplayerClientIeeeDataFrame + data.length + 4 ≤ 256)
  | flush (env : Arm7Env)
  | writeHalfword
  | finish
  | command

def replyStep (s : ReplyTx) : ReplyEvent → ReplyTx
  | .queue env data _ => s.queue env data
  | .flush env => s.flush env
  | .writeHalfword => s.writeHalfword
  | .finish => s.finish
  | .command => s.command

/-! ## What has to hold -/

/-- The bytes are one of the queued replies, or nothing. -/
def WholeReply (ring : TxRing) (bytes : List UInt8) : Prop :=
  bytes = [] ∨ (wflagSendAsReply, bytes) ∈ ring.queued

instance (ring : TxRing) (bytes : List UInt8) : Decidable (WholeReply ring bytes) :=
  inferInstanceAs (Decidable (_ ∨ _))

/-- The hardware transmits this buffer, now or after some CMDs. -/
def Arm7Tx.CanTransmit (tx : Arm7Tx) (base : Nat) : Prop :=
  ∃ n, (Arm7Tx.replySwap^[n] tx).txbufReply2 = replyBuffer base

/-- Everything that has been transmitted is whole, and the copy that is going on doesn't go to a
buffer that the hardware can transmit. -/
def ReplySound (s : ReplyTx) : Prop :=
  (∀ bytes ∈ s.transmitted, WholeReply s.tx.ring bytes) ∧
    ∀ copy ∈ s.copy, ¬ s.tx.CanTransmit copy.destination

/-- What holds after each step. -/
def StepReplySound (s : ReplyTx) (ev : ReplyEvent) : Prop := ReplySound (replyStep s ev)

/-- No reply is taken from the queue while the buffer that `W_TXBUF_REPLY2` leaves free is pending
in `W_TXBUF_REPLY1`. -/
def StepBufferFree (s : ReplyTx) : ReplyEvent → Prop
  | .flush _ => s.copy = none → s.tx.headStatus ≠ 0 →
      s.tx.txbufReply1 ≠ replyBuffer s.tx.replyDestination.1
  | _ => True

/-! ## The frame that is copied -/

section

variable {ring ring' : TxRing} {e w t : Nat} {f : Frame txGeometry} {fs : List (Frame txGeometry)}

/-- The slot of the head frame. -/
def headSlot (ring : TxRing) (f : Frame txGeometry) : Set Nat :=
  Set.Ico ring.txbufRead (f.next ring.txbufRead)

/-- The ARM9 allocates its space beside the head frame. -/
theorem TxInv.alloc_head (h : TxInv ring e (f :: fs))
    (hi : View.HeadAt txGeometry ring.txbufData ring.txbufRead f ring.txbufRead)
    (ht : 8 ≤ t) (ht' : t < 2 ^ 31 + 2 ^ 9) (ha : txBufferAllocBuffer ring t = (ring', some w)) :
    Set.EqOn ring'.txbufData ring.txbufData (headSlot ring f) ∧
      ∀ x ∈ headSlot ring f, x < w ∨ w + t ≤ x := by
  have hw := h.write_le
  have he : e = ring.txbufWrite := h.ends.resolve_right fun hs => nomatch hs.1
  have hapart := h.view.pop_apart hi
  have hlt := f.lt_next ring.txbufRead
  have hu : u32 (ring.txbufWrite + t) = ring.txbufWrite + t := u32_of_lt (by omega)
  unfold txBufferAllocBuffer at ha
  rw [hu] at ha
  by_cases hle : ring.txbufRead ≤ ring.txbufWrite
  · rw [if_pos hle] at ha
    by_cases hfit : wifiTxBufferSize ≤ ring.txbufWrite + t
    · rw [if_pos hfit] at ha
      by_cases hroom : ring.txbufRead ≤ t
      · rw [if_pos hroom] at ha
        cases ha
      · -- A marker is written behind the last frame, and the new frame goes to the start.
        rw [if_neg hroom] at ha
        cases ha
        refine ⟨(eqOn_store32 fun x hx => ?_).trans (eqOn_store32 fun x hx => ?_), fun x hx => ?_⟩
        · have := hx.2
          omega
        · have := hx.1
          omega
        · have := hx.1
          omega
    · rw [if_neg hfit] at ha
      cases ha
      refine ⟨Set.eqOn_refl _ _, fun x hx => ?_⟩
      have := hx.2
      omega
  · rw [if_neg hle] at ha
    by_cases hroom : ring.txbufRead ≤ ring.txbufWrite + t
    · rw [if_pos hroom] at ha
      cases ha
    · rw [if_neg hroom] at ha
      cases ha
      refine ⟨Set.eqOn_refl _ _, fun x hx => ?_⟩
      have := hx.1
      omega

/-- A call leaves the head frame where it is. -/
theorem TxInv.enqueue_head (h : TxInv ring e (f :: fs))
    (hi : View.HeadAt txGeometry ring.txbufData ring.txbufRead f ring.txbufRead)
    {req : TxRequest} (hreq : req.Valid) :
    (txEnqueue ring req).1.txbufRead = ring.txbufRead ∧
      View.HeadAt txGeometry (txEnqueue ring req).1.txbufData ring.txbufRead f ring.txbufRead := by
  have hsize := hreq.size_lt
  have hpad := roundUp_lt req.frameSize
  rcases h.txEnqueue_cases hreq with heq | ⟨ring', w, halloc, ha, heq⟩
  · rw [heq]
    exact ⟨rfl, hi⟩
  · obtain ⟨hbefore, hbeside⟩ := h.alloc_head hi (by omega) (by omega) halloc
    have hfill : Set.EqOn ((req.fill ring'.txbufData w).store32 w (req.frameSize ||| req.flags))
        ring.txbufData (headSlot ring f) := by
      refine ((eqOn_store32 fun x hx => ?_).trans
        (hreq.eqOn_fill ha.le fun x hx => ?_)).trans hbefore
      · have := hbeside x hx
        omega
      · have := hbeside x hx
        omega
    rw [heq]
    exact ⟨ha.read, .here (hi.stored.congr hfill)⟩

end

/-! ## The invariant -/

/-- The two buffers. -/
def replyBuffers : List Nat := [macClientRx1StartOffset, macClientRx2StartOffset]

theorem replyBuffer_spec : ∀ base ∈ replyBuffers, replyBuffer base ≠ 0 ∧
    replyBuffer base &&& txbufEnable ≠ 0 ∧ (replyBuffer base % txbufEnable) <<< 1 = base := by
  decide

/-- A reply of the queue that fits in a buffer. -/
structure QueuedReply (ring : TxRing) (f : Frame txGeometry) : Prop where
  tag : f.tag = f.body.length ||| wflagSendAsReply
  size_le : f.body.length ≤ 256
  queued : (wflagSendAsReply, f.body) ∈ ring.queued

/-- A whole reply is in the buffer at `base`. -/
structure HoldsReply (ring : TxRing) (ram : Mem) (base : Nat) (bytes : List UInt8) : Prop where
  loads : loadBytes ram base bytes.length = bytes
  le_size : 16 ≤ bytes.length
  size_le : bytes.length ≤ 256
  headed : HasTxHeader bytes.length bytes
  queued : (wflagSendAsReply, bytes) ∈ ring.queued

/-- The part of `f` that has been copied is in the buffer, which the registers don't have. -/
structure Copying (tx : Arm7Tx) (f : Frame txGeometry) (copy : ReplyCopy) : Prop where
  head : View.HeadAt txGeometry tx.ring.txbufData tx.ring.txbufRead f tx.ring.txbufRead
  size_eq : copy.size = f.body.length
  destination_mem : copy.destination ∈ replyBuffers
  reply1 : tx.txbufReply1 ≠ replyBuffer copy.destination
  reply2 : tx.txbufReply2 ≠ replyBuffer copy.destination
  written : ∀ k < 2 * copy.written, ∀ b, f.body[k]? = some b → tx.ram (copy.destination + k) = b

/-- The invariant of the runs in which the buffers are free. -/
structure ReplyInv (s : ReplyTx) (q : List (Frame txGeometry)) : Prop where
  ring : TxInv s.tx.ring s.tx.ring.txbufWrite q
  replies : ∀ f ∈ q, QueuedReply s.tx.ring f
  reply1 : s.tx.txbufReply1 = 0 ∨ ∃ base ∈ replyBuffers, ∃ bytes,
    s.tx.txbufReply1 = replyBuffer base ∧ HoldsReply s.tx.ring s.tx.ram base bytes
  reply2 : s.tx.txbufReply2 = 0 ∨ ∃ base ∈ replyBuffers, s.tx.txbufReply2 = replyBuffer base
  copy : ∀ copy ∈ s.copy, ∃ f fs, q = f :: fs ∧ Copying s.tx f copy
  transmitted : ∀ bytes ∈ s.transmitted, WholeReply s.tx.ring bytes

theorem ReplyInv.init : ReplyInv .init [] where
  ring := .init
  replies := by simp
  reply1 := .inl rfl
  reply2 := .inl rfl
  copy := by simp [ReplyTx.init]
  transmitted := by simp [ReplyTx.init]

/-! ## The hardware -/

/-- What is transmitted from a buffer with a reply in it. -/
theorem HoldsReply.transmission {ring : TxRing} {ram : Mem} {base : Nat} {bytes : List UInt8}
    (h : HoldsReply ring ram base bytes) (hbase : base ∈ replyBuffers) :
    Wifi.transmission ram (replyBuffer base) = bytes := by
  obtain ⟨-, henable, haddr⟩ := replyBuffer_spec base hbase
  have hsize := h.size_le
  have hsize' := h.le_size
  have hlength : hdrTxSize + load16 ram (base + hdrTxIeeeFrameSize) = bytes.length := by
    rw [(h.headed.loads h.loads).2.2]
    unfold hdrTxSize sizeofTxHeader u16
    omega
  unfold Wifi.transmission
  rw [haddr, if_pos henable, hlength, h.loads]

/-- After two CMDs nothing is transmitted any more. -/
theorem canTransmit_iff {tx : Arm7Tx} {base : Nat} (hbase : base ∈ replyBuffers) :
    tx.CanTransmit base ↔
      tx.txbufReply2 = replyBuffer base ∨ tx.txbufReply1 = replyBuffer base := by
  have hne := (replyBuffer_spec base hbase).1
  constructor
  · rintro ⟨n, hn⟩
    match n with
    | 0 => exact .inl hn
    | 1 => exact .inr hn
    | n + 2 =>
      rw [Function.iterate_succ_apply', Function.iterate_succ_apply'] at hn
      exact absurd hn.symm hne
  · rintro (h2 | h1)
    · exact ⟨0, h2⟩
    · exact ⟨1, h1⟩

/-! ## Steps keep the invariant -/

section

variable {s : ReplyTx} {q : List (Frame txGeometry)}

theorem WholeReply.mono {ring ring' : TxRing} (h : ring.queued <+: ring'.queued)
    {bytes : List UInt8} (hb : WholeReply ring bytes) : WholeReply ring' bytes :=
  hb.imp_right fun hmem => h.subset hmem

theorem QueuedReply.mono {ring ring' : TxRing} (h : ring.queued <+: ring'.queued)
    {f : Frame txGeometry} (hf : QueuedReply ring f) : QueuedReply ring' f :=
  { hf with queued := h.subset hf.queued }

theorem HoldsReply.mono {ring ring' : TxRing} (h : ring.queued <+: ring'.queued) {ram : Mem}
    {base : Nat} {bytes : List UInt8} (hb : HoldsReply ring ram base bytes) :
    HoldsReply ring' ram base bytes :=
  { hb with queued := h.subset hb.queued }

/-- The ring can change beside the head frame. -/
theorem ReplyInv.setRing (h : ReplyInv s q) {ring : TxRing} {q' : List (Frame txGeometry)}
    (hring : TxInv ring ring.txbufWrite q') (hpre : s.tx.ring.queued <+: ring.queued)
    (hqueue : q <+: q') (hnew : ∀ f ∈ q', f ∈ q ∨ QueuedReply ring f)
    (hhead : ∀ f fs, q = f :: fs →
      View.HeadAt txGeometry s.tx.ring.txbufData s.tx.ring.txbufRead f s.tx.ring.txbufRead →
      View.HeadAt txGeometry ring.txbufData ring.txbufRead f ring.txbufRead) :
    ReplyInv { s with tx := { s.tx with ring } } q' where
  ring := hring
  replies f hf := (hnew f hf).elim (fun hold => (h.replies f hold).mono hpre) id
  reply1 := by
    refine h.reply1.imp_right ?_
    rintro ⟨base, hbase, bytes, hreg, hholds⟩
    exact ⟨base, hbase, bytes, hreg, hholds.mono hpre⟩
  reply2 := h.reply2
  copy copy hcopy := by
    obtain ⟨f, fs, rfl, hc⟩ := h.copy copy hcopy
    obtain ⟨gs, rfl⟩ := hqueue
    exact ⟨f, fs ++ gs, rfl, { hc with head := hhead f fs rfl hc.head }⟩
  transmitted bytes hb := (h.transmitted bytes hb).mono hpre

/-- A call. -/
theorem ReplyInv.queue (h : ReplyInv s q) (env : TxEnv) (data : List UInt8)
    (hfits : sizeofTxMultiplayerClientIeeeDataFrame + data.length + 4 ≤ 256) :
    ∃ q', ReplyInv (s.queue env data) q' := by
  have hu : u32 (sizeofTxMultiplayerClientIeeeDataFrame + data.length + 4) =
      sizeofTxMultiplayerClientIeeeDataFrame + data.length + 4 := u32_of_lt (by omega)
  obtain ⟨req, hreq, hflags, hsize, heq⟩ : ∃ req : TxRequest, req.Valid ∧
      req.flags = wflagSendAsReply ∧ req.frameSize ≤ 256 ∧
      multiplayerClientReplyTxFrame env s.tx.ring data = txEnqueue s.tx.ring req := by
    refine ⟨_, multiplayerTxRequest_valid _ wflagSendAsReply (by simp) (by omega) (by decide), rfl,
      ?_, rfl⟩
    exact hu.trans_le hfits
  have henq := h.ring.enqueue hreq
  have hlaid := h.ring.laidOut hreq
  have hhead {f : Frame txGeometry} {fs : List (Frame txGeometry)} (hq : q = f :: fs)
      (hi : View.HeadAt txGeometry s.tx.ring.txbufData s.tx.ring.txbufRead f
        s.tx.ring.txbufRead) :
      View.HeadAt txGeometry (txEnqueue s.tx.ring req).1.txbufData
        (txEnqueue s.tx.ring req).1.txbufRead f (txEnqueue s.tx.ring req).1.txbufRead := by
    obtain ⟨hread, hi'⟩ := (hq ▸ h.ring).enqueue_head hi hreq
    rwa [hread]
  unfold ReplyTx.queue
  rw [heq]
  rw [hflags] at henq hlaid
  generalize txEnqueue s.tx.ring req = r at henq hlaid hhead ⊢
  cases henq with
  | refused hwrite hqueued hinv =>
    exact ⟨q, h.setRing (hwrite ▸ hinv) (hqueued ▸ List.prefix_refl _) (List.prefix_refl _)
      (fun f hf => .inl hf) fun f fs hq hi => hhead hq hi⟩
  | @queued ring' f hf htag hqueued he hinv =>
    refine ⟨q ++ [f], h.setRing hinv (hqueued ▸ List.prefix_append ..) (List.prefix_append ..)
      (fun g hg => ?_) fun f fs hq hi => hhead hq hi⟩
    refine (List.mem_append.mp hg).imp_right fun hg => ?_
    obtain rfl := List.mem_singleton.mp hg
    obtain ⟨w, bytes, hlen, -, -, hlast⟩ := hlaid rfl
    rw [hqueued] at hlast
    obtain ⟨-, rfl⟩ := Prod.mk.inj (List.singleton_inj.mp (List.append_cancel_left hlast))
    exact ⟨htag, hlen.trans_le hsize, hqueued ▸ List.mem_append_right _ (List.mem_singleton_self _)⟩
  | stopped hne hq hinv => exact absurd rfl hne

/-- A reply of the queue has the type bit of replies. -/
theorem QueuedReply.bit {ring : TxRing} {f : Frame txGeometry} (h : QueuedReply ring f) :
    f.tag &&& wflagSendAsReply ≠ 0 := by
  rw [h.tag, show wflagSendAsReply = 2 ^ 30 from rfl, tag_and_two_pow (by have := h.size_le; omega)
    (by decide)]
  decide

/-- The buffer that is selected is not the one in `W_TXBUF_REPLY2`. -/
theorem replyDestination_spec {tx : Arm7Tx}
    (h : tx.txbufReply2 = 0 ∨ ∃ base ∈ replyBuffers, tx.txbufReply2 = replyBuffer base) :
    tx.replyDestination.1 ∈ replyBuffers ∧
      tx.txbufReply2 ≠ replyBuffer tx.replyDestination.1 ∧ 256 ≤ tx.replyDestination.2 := by
  have hdest : ∀ register ∈ 0 :: replyBuffers.map replyBuffer,
      (if (register % txbufEnable) <<< 1 = macClientRx1StartOffset then
        (macClientRx2StartOffset, macClientRx2EndOffset)
        else (macClientRx1StartOffset, macClientRx1EndOffset)).1 ∈ replyBuffers ∧
      register ≠ replyBuffer (if (register % txbufEnable) <<< 1 = macClientRx1StartOffset then
        (macClientRx2StartOffset, macClientRx2EndOffset)
        else (macClientRx1StartOffset, macClientRx1EndOffset)).1 ∧
      256 ≤ (if (register % txbufEnable) <<< 1 = macClientRx1StartOffset then
        (macClientRx2StartOffset, macClientRx2EndOffset)
        else (macClientRx1StartOffset, macClientRx1EndOffset)).2 := by decide
  refine hdest tx.txbufReply2 ?_
  rcases h with h | ⟨base, hbase, h⟩
  · exact h ▸ List.mem_cons_self ..
  · exact h ▸ List.mem_cons_of_mem _ (List.mem_map_of_mem hbase)

/-- What a flush does in a state of the invariant. -/
theorem ReplyInv.flush_cases (h : ReplyInv s q) (env : Arm7Env) :
    (s.copy.isSome ∧ s.flush env = s) ∨
    (s.copy = none ∧ s.tx.headStatus = 0 ∧ q = [] ∧
      (s.flush env = s ∨ s.flush env = { s with tx := s.tx.skipWrap })) ∨
    ∃ f fs, s.copy = none ∧ s.tx.headStatus ≠ 0 ∧ q = f :: fs ∧
      View.HeadAt txGeometry s.tx.skipWrap.ring.txbufData s.tx.skipWrap.ring.txbufRead f
        s.tx.skipWrap.ring.txbufRead ∧
      s.flush env = { s with
        tx := s.tx.skipWrap
        copy := some ⟨s.tx.replyDestination.1, f.body.length, 0⟩ } := by
  by_cases hcopy : s.copy.isSome
  · exact .inl ⟨hcopy, if_pos hcopy⟩
  right
  have hnone : s.copy = none := Option.not_isSome_iff_eq_none.mp hcopy
  obtain ⟨h0, hq⟩ | ⟨f, fs, rfl, htag, hi⟩ := h.ring.headStatus_cases
  · refine .inl ⟨hnone, h0, hq, ?_⟩
    have hstatus : load32 s.tx.skipWrap.ring.txbufData s.tx.skipWrap.ring.txbufRead = 0 := h0
    unfold ReplyTx.flush
    rw [if_neg hcopy]
    simp only [hstatus, if_true]
    split
    · exact .inl rfl
    · exact .inr rfl
  · have hreply := h.replies f (List.mem_cons_self ..)
    have hstatus : load32 s.tx.skipWrap.ring.txbufData s.tx.skipWrap.ring.txbufRead = f.tag := htag
    have hne := h.ring.view.load32_ne_zero (by decide)
    have hsize : f.tag &&& wflagSendSizeMask = f.body.length := f.len_tag
    have hfits : f.body.length ≤ s.tx.replyDestination.2 :=
      hreply.size_le.trans (replyDestination_spec h.reply2).2.2
    refine .inr ⟨f, fs, hnone, htag ▸ f.tag_ne_zero, rfl, hi, ?_⟩
    unfold ReplyTx.flush
    rw [if_neg hcopy, if_neg hne]
    simp only [hstatus, if_neg f.tag_ne_zero, if_pos hreply.bit, Arm7Tx.skipWrap_replyDestination,
      hsize, if_pos hfits]

/-- The wrap marker is skipped. -/
theorem ReplyInv.skipWrap (h : ReplyInv s q) (hnone : s.copy = none) :
    ReplyInv { s with tx := s.tx.skipWrap } q := by
  have hring := h.ring.skipWrap
  have hskip : s.tx.skipWrap.ram = s.tx.ram ∧ s.tx.skipWrap.ring.queued = s.tx.ring.queued ∧
      s.tx.skipWrap.ring.txbufWrite = s.tx.ring.txbufWrite := by
    unfold Arm7Tx.skipWrap
    split <;> exact ⟨rfl, rfl, rfl⟩
  obtain ⟨hram, hqueued, hwrite⟩ := hskip
  have hpre : s.tx.ring.queued <+: s.tx.skipWrap.ring.queued := hqueued ▸ List.prefix_refl _
  refine ⟨hwrite ▸ hring, fun f hf => (h.replies f hf).mono hpre, ?_, ?_, ?_,
    fun bytes hb => (h.transmitted bytes hb).mono hpre⟩
  · dsimp only
    rw [Arm7Tx.skipWrap_txbufReply1, hram]
    refine h.reply1.imp_right ?_
    rintro ⟨base, hbase, bytes, hreg, hholds⟩
    exact ⟨base, hbase, bytes, hreg, hholds.mono hpre⟩
  · dsimp only
    rw [Arm7Tx.skipWrap_txbufReply2]
    exact h.reply2
  · intro copy hcopy
    have hcopy : copy ∈ s.copy := hcopy
    rw [hnone] at hcopy
    cases hcopy

/-- A flush whose buffer is free. -/
theorem ReplyInv.flush (h : ReplyInv s q) (env : Arm7Env)
    (hfree : s.copy = none → s.tx.headStatus ≠ 0 →
      s.tx.txbufReply1 ≠ replyBuffer s.tx.replyDestination.1) :
    ReplyInv (s.flush env) q := by
  obtain ⟨-, hs⟩ | ⟨hnone, -, -, hs | hs⟩ | ⟨f, fs, hnone, hstatus, rfl, hi, hs⟩ :=
    h.flush_cases env
  · rwa [hs]
  · rwa [hs]
  · rw [hs]
    exact h.skipWrap hnone
  · obtain ⟨hmem, hother, -⟩ := replyDestination_spec h.reply2
    have hfree' : s.tx.skipWrap.txbufReply1 ≠ replyBuffer s.tx.replyDestination.1 := by
      rw [Arm7Tx.skipWrap_txbufReply1]
      exact hfree hnone hstatus
    have hother' : s.tx.skipWrap.txbufReply2 ≠ replyBuffer s.tx.replyDestination.1 := by
      rwa [Arm7Tx.skipWrap_txbufReply2]
    rw [hs]
    refine { h.skipWrap hnone with copy := ?_ }
    rintro copy ⟨⟩
    exact ⟨f, fs, rfl, hi, rfl, hmem, hfree', hother', fun k hk => absurd hk (Nat.not_lt_zero k)⟩

/-- The buffers don't overlap. -/
theorem replyBuffers_apart : ∀ base ∈ replyBuffers, ∀ base' ∈ replyBuffers, base ≠ base' →
    base + 256 ≤ base' ∨ base' + 256 ≤ base := by
  decide

/-- The memory after the next halfword of a copy. -/
def copiedHalfword (tx : Arm7Tx) (copy : ReplyCopy) : Mem :=
  tx.ram.storeBytes (copy.destination + 2 * copy.written)
    (loadBytes tx.ring.txbufData (tx.ring.txbufRead + 4 + 2 * copy.written) 2)

/-- A copy leaves the reply in the other buffer alone. -/
theorem HoldsReply.copiedHalfword {tx : Arm7Tx} {copy : ReplyCopy} {base : Nat}
    {bytes : List UInt8} (h : HoldsReply tx.ring tx.ram base bytes)
    (hapart : base + 256 ≤ copy.destination ∨ copy.destination + 256 ≤ base)
    (hfits : 2 * copy.written + 2 ≤ 256) :
    HoldsReply tx.ring (copiedHalfword tx copy) base bytes := by
  have hbytes := h.size_le
  have houtside : Set.EqOn (Wifi.copiedHalfword tx copy) tx.ram
      (Set.Ico base (base + bytes.length)) := by
    refine eqOn_storeBytes fun x hx => ?_
    have hlo := hx.1
    have hhi := hx.2
    rw [length_loadBytes]
    omega
  exact { h with loads := (loadBytes_congr houtside).trans h.loads }

/-- A copy has the bytes that it had, and the next two of the ring. -/
theorem Copying.copiedHalfword {tx : Arm7Tx} {f : Frame txGeometry} {copy : ReplyCopy}
    (h : Copying tx f copy) {k : Nat} (hk : k < 2 * (copy.written + 1)) {b : UInt8}
    (hb : f.body[k]? = some b) : copiedHalfword tx copy (copy.destination + k) = b := by
  unfold Wifi.copiedHalfword
  by_cases hold : k < 2 * copy.written
  · rw [storeBytes_of_lt (by omega)]
    exact h.written k hold b hb
  · obtain ⟨j, rfl⟩ := Nat.exists_eq_add_of_le (Nat.not_lt.mp hold)
    have hbyte := apply_of_loadBytes h.head.stored.2 hb
    rw [← Nat.add_assoc] at hbyte ⊢
    rw [storeBytes_self (by rw [length_loadBytes]; omega), ← hbyte]
    simp [loadBytes]

/-- A halfword is copied. -/
theorem ReplyInv.writeHalfword (h : ReplyInv s q) : ReplyInv s.writeHalfword q := by
  cases hcopy : s.copy with
  | none =>
    unfold ReplyTx.writeHalfword
    rwa [hcopy]
  | some copy =>
    by_cases hlt : copy.written < (copy.size + 1) / 2
    swap
    · unfold ReplyTx.writeHalfword
      rw [hcopy]
      dsimp only
      rwa [if_neg hlt]
    obtain ⟨f, fs, rfl, hc⟩ := h.copy copy hcopy
    have hcap := h.ring.view.reader_le
    have hsize := (h.replies f (List.mem_cons_self ..)).size_le
    have hsize' := hc.size_eq
    rw [txGeometry_cap] at hcap
    have hread : u32 (s.tx.ring.txbufRead + 4) = s.tx.ring.txbufRead + 4 := u32_of_lt (by omega)
    have hs : s.writeHalfword = { s with
        tx := { s.tx with ram := copiedHalfword s.tx copy }
        copy := some { copy with written := copy.written + 1 } } := by
      unfold ReplyTx.writeHalfword copiedHalfword
      rw [hcopy]
      dsimp only
      rw [if_pos hlt, hread, store16, halfBytes_load16]
    rw [hs]
    refine { h with reply1 := ?_, copy := ?_ }
    · -- A pending reply is in the other buffer.
      refine h.reply1.imp_right ?_
      rintro ⟨base, hbase, bytes, hreg, hholds⟩
      have hne : base ≠ copy.destination := fun he => hc.reply1 (he ▸ hreg)
      have hapart := replyBuffers_apart base hbase copy.destination hc.destination_mem hne
      exact ⟨base, hbase, bytes, hreg, hholds.copiedHalfword hapart (by omega)⟩
    · rintro _ ⟨⟩
      exact ⟨f, fs, rfl, { hc with written := fun _ hk _ hb => hc.copiedHalfword hk hb }⟩

/-- A copy that has come to its end leaves the whole frame in the buffer. -/
theorem Copying.loads {tx : Arm7Tx} {f : Frame txGeometry} {copy : ReplyCopy}
    (h : Copying tx f copy) (hend : ¬ copy.written < (copy.size + 1) / 2) :
    loadBytes tx.ram copy.destination f.body.length = f.body := by
  have hsize := h.size_eq
  refine List.ext_getElem (length_loadBytes _ _ _) fun k hk hk' => ?_
  rw [length_loadBytes] at hk
  have hbyte := h.written k (by omega) _ (List.getElem?_eq_getElem hk')
  simp only [loadBytes, List.getElem_map, List.getElem_range, hbyte]

/-- The buffer is handed over to the hardware. -/
theorem ReplyInv.finish (h : ReplyInv s q) : ∃ q', ReplyInv s.finish q' := by
  cases hcopy : s.copy with
  | none =>
    unfold ReplyTx.finish
    rw [hcopy]
    exact ⟨q, h⟩
  | some copy =>
    by_cases hend : copy.written < (copy.size + 1) / 2
    · unfold ReplyTx.finish
      rw [hcopy]
      dsimp only
      rw [if_pos hend]
      exact ⟨q, h⟩
    obtain ⟨f, fs, rfl, hc⟩ := h.copy copy hcopy
    have hf := h.ring.queued f (List.mem_cons_self ..)
    have hreply := h.replies f (List.mem_cons_self ..)
    have hle := hf.le_size
    have htag : f.tag ≠ f.body.length := by
      rw [hreply.tag, or_eq_add hf.size_lt (by decide)]
      unfold wflagSendAsReply
      omega
    have hsize : ¬ copy.size = 0 := by
      have := hc.size_eq
      omega
    have hnext := h.ring.next_eq hc.head
    rw [← hc.size_eq] at hnext
    unfold ReplyTx.finish
    rw [hcopy]
    dsimp only
    rw [if_neg hend, if_neg hsize, hnext]
    -- The queue loses the frame that `W_TXBUF_REPLY1` gets.
    refine ⟨fs, h.ring.pop hc.head, fun g hg => ?_, .inr ?_, h.reply2, by simp,
      h.transmitted⟩
    · exact { h.replies g (List.mem_cons_of_mem f hg) with }
    · exact ⟨copy.destination, hc.destination_mem, f.body, rfl, hc.loads hend, hle, hreply.size_le,
        hf.headed htag, hreply.queued⟩

/-- The hardware transmits a whole reply, or nothing. -/
theorem ReplyInv.command (h : ReplyInv s q) : ReplyInv s.command q where
  ring := h.ring
  replies := h.replies
  reply1 := .inl rfl
  reply2 := h.reply1.imp_right fun ⟨base, hbase, _, hreg, _⟩ => ⟨base, hbase, hreg⟩
  copy copy hcopy := by
    obtain ⟨f, fs, rfl, hc⟩ := h.copy copy hcopy
    exact ⟨f, fs, rfl, { hc with
      reply1 := (replyBuffer_spec _ hc.destination_mem).1.symm
      reply2 := hc.reply1 }⟩
  transmitted bytes hb := by
    obtain hb | hb := List.mem_append.mp hb
    · exact h.transmitted bytes hb
    · rw [List.mem_singleton.mp hb]
      show WholeReply s.tx.ring (transmission s.tx.ram s.tx.txbufReply1)
      obtain h0 | ⟨base, hbase, bytes, hreg, hholds⟩ := h.reply1
      · rw [h0]
        exact .inl rfl
      · rw [hreg, hholds.transmission hbase]
        exact .inr hholds.queued

/-! ## A flush that nothing interrupts -/

/-- The halfwords of a copy. -/
theorem iterate_writeHalfword {destination size : Nat}
    (hcopy : s.copy = some ⟨destination, size, 0⟩) {n : Nat} (hn : n ≤ (size + 1) / 2) :
    ReplyTx.writeHalfword^[n] s = { s with
      tx := { s.tx with
        ram := s.tx.ram.storeBytes destination
          (loadBytes s.tx.ring.txbufData (u32 (s.tx.ring.txbufRead + 4)) (2 * n)) }
      copy := some ⟨destination, size, n⟩ } := by
  induction n with
  | zero =>
    rw [Nat.mul_zero, ← hcopy, show loadBytes s.tx.ring.txbufData _ 0 = [] from rfl,
      storeBytes_nil]
    rfl
  | succ n ih =>
    rw [Function.iterate_succ_apply', ih (by omega)]
    unfold ReplyTx.writeHalfword
    dsimp only
    rw [if_pos (by omega), store16, halfBytes_load16, Nat.mul_succ, loadBytes_add,
      storeBytes_append, length_loadBytes]

/-- The buffers are behind the one of the other frames. -/
theorem replyDestination_bounds {tx : Arm7Tx} (h : tx.replyDestination.1 ∈ replyBuffers) :
    0xA00 ≤ tx.replyDestination.1 ∧ tx.replyDestination.1 ≤ 0xB00 := by
  revert h
  generalize tx.replyDestination.1 = base
  revert base
  decide

theorem observe_replyDestination {tx : Arm7Tx} (h : tx.replyDestination.1 ∈ replyBuffers) :
    tx.observe tx.replyDestination.1 = tx.monitor := by
  have hbounds := replyDestination_bounds h
  have hd : decide (tx.replyDestination.1 < macTxbufEndOffset) = false :=
    decide_eq_false (by unfold macTxbufEndOffset; omega)
  rw [Arm7Tx.observe, hd, Bool.false_and, Bool.or_false]

/-- The reply at the head of the queue is what `Wifi_TxArm9QueueFlush` sends. -/
theorem ReplyInv.txArm9QueueFlush_eq {f : Frame txGeometry} {fs : List (Frame txGeometry)}
    (h : ReplyInv s (f :: fs))
    (hi : View.HeadAt txGeometry s.tx.skipWrap.ring.txbufData s.tx.skipWrap.ring.txbufRead f
      s.tx.skipWrap.ring.txbufRead) (env : Arm7Env) :
    (s.tx.txArm9QueueFlush env).1 = s.tx.skipWrap.txArm9QueueFlushByReply.1 := by
  have hcap := h.ring.view.reader_le
  have hcap' := h.ring.skipWrap.view.reader_le
  rw [txGeometry_cap] at hcap hcap'
  have hreply := h.replies f (List.mem_cons_self ..)
  have hne := h.ring.view.load32_ne_zero (by decide)
  unfold Arm7Tx.txArm9QueueFlush Arm7Tx.txArm9QueueSend
  simp only [Arm7Tx.touch_of_le hcap, Arm7Tx.touch_of_le hcap', if_neg hne, hi.stored.1,
    if_neg f.tag_ne_zero, if_pos hreply.bit]

/-- Without a CMD in between, the steps of a flush are those of `Wifi_TxArm9QueueFlush`. -/
theorem ReplyInv.flush_uninterrupted {f : Frame txGeometry} {fs : List (Frame txGeometry)}
    (h : ReplyInv s (f :: fs)) (hnone : s.copy = none) (env : Arm7Env) :
    (ReplyTx.writeHalfword^[(f.body.length + 1) / 2] (s.flush env)).finish =
      { s with tx := (s.tx.txArm9QueueFlush env).1 } := by
  obtain ⟨hsome, -⟩ | ⟨-, -, hq, -⟩ | ⟨g, gs, -, -, hcons, hi, hs⟩ := h.flush_cases env
  · rw [hnone] at hsome
    cases hsome
  · cases hq
  obtain ⟨rfl, rfl⟩ := List.cons.inj hcons
  have hcap' := h.ring.skipWrap.view.reader_le
  rw [txGeometry_cap] at hcap'
  have hreply := h.replies f (List.mem_cons_self ..)
  obtain ⟨hmem, -, hend⟩ := replyDestination_spec h.reply2
  obtain ⟨hbase, hend'⟩ := s.tx.target_le wflagSendAsReply
  have hbounds := replyDestination_bounds hmem
  have hcopy : s.tx.skipWrap.txArm9QueueCopyFirstData s.tx.replyDestination.1
      s.tx.replyDestination.2 = _ :=
    h.ring.skipWrap.copyFirst_eq hi hbase hend' (hreply.size_le.trans hend)
  have hnext := h.ring.skipWrap.next_eq hi
  have hread : u32 (s.tx.skipWrap.ring.txbufRead + 4) = s.tx.skipWrap.ring.txbufRead + 4 :=
    u32_of_lt (by omega)
  have hsize : ¬ f.body.length = 0 := by
    have := (h.ring.queued f (List.mem_cons_self ..)).le_size
    omega
  have hbody := hreply.size_le
  have hguard : ¬ 0x2000 < u32 (s.tx.replyDestination.1 + f.body.length) := by
    rw [u32_of_lt (by omega)]
    omega
  have hobserve : s.tx.skipWrap.observe s.tx.replyDestination.1 = s.tx.skipWrap.monitor := by
    rw [← Arm7Tx.skipWrap_replyDestination] at hmem ⊢
    exact observe_replyDestination hmem
  have hbytes := (loadBytes_macWrite (s := s.tx.skipWrap) s.tx.skipWrap.ring.txbufData
    (s.tx.skipWrap.ring.txbufRead + 4)
    (show s.tx.replyDestination.1 + f.body.length ≤ 0x2000 by omega)).1
  rw [hs, h.txArm9QueueFlush_eq hi, iterate_writeHalfword rfl (Nat.le_refl _)]
  unfold ReplyTx.finish Arm7Tx.txArm9QueueFlushByReply
  dsimp only
  rw [if_neg (Nat.lt_irrefl _), if_neg hsize, hnext, Arm7Tx.skipWrap_replyDestination, hcopy]
  dsimp only
  rw [if_neg hsize]
  simp only [Arm7Tx.macWrite, if_neg hguard, hobserve, hread] at hbytes ⊢
  rw [hbytes, hi.stored.2, hnone]
  rfl

/-- Every step whose buffer is free. -/
theorem ReplyInv.step (h : ReplyInv s q) {ev : ReplyEvent} (hfree : StepBufferFree s ev) :
    ∃ q', ReplyInv (replyStep s ev) q' := by
  cases ev with
  | queue env data hfits => exact h.queue env data hfits
  | flush env => exact ⟨q, h.flush env hfree⟩
  | writeHalfword => exact ⟨q, h.writeHalfword⟩
  | finish => exact h.finish
  | command => exact ⟨q, h.command⟩

/-! ## Runs -/

theorem ReplyInv.sound (h : ReplyInv s q) : ReplySound s := by
  refine ⟨h.transmitted, fun copy hcopy hcan => ?_⟩
  obtain ⟨f, fs, -, hc⟩ := h.copy copy hcopy
  obtain h2 | h1 := (canTransmit_iff hc.destination_mem).mp hcan
  · exact hc.reply2 h2
  · exact hc.reply1 h1

/-- A flush into a pending buffer. -/
theorem ReplyInv.not_sound (h : ReplyInv s q) {ev : ReplyEvent} (hpending : ¬ StepBufferFree s ev) :
    ¬ StepReplySound s ev := by
  cases ev with
  | flush env =>
    unfold StepBufferFree at hpending
    push Not at hpending
    obtain ⟨hnone, hstatus, hreg⟩ := hpending
    obtain ⟨hsome, -⟩ | ⟨-, h0, -⟩ | ⟨f, fs, -, -, -, -, hs⟩ := h.flush_cases env
    · rw [hnone] at hsome
      cases hsome
    · exact absurd h0 hstatus
    · rintro ⟨-, hapart⟩
      rw [replyStep, hs] at hapart
      exact hapart _ rfl ⟨1, s.tx.skipWrap_txbufReply1.trans hreg⟩
  | _ => exact absurd trivial hpending

end

/-- **Replies are whole exactly in the runs whose flushes find their buffer free.** -/
theorem reply_whole_iff (evs : List ReplyEvent) :
    Along replyStep StepReplySound .init evs ↔ Along replyStep StepBufferFree .init evs := by
  refine along_iff (fun s => ∃ q, ReplyInv s q) (fun _ _ ⟨_, h⟩ hev => h.step hev)
    (fun s ev ⟨q, h⟩ => ⟨fun hsound => ?_, fun hfree => ?_⟩) evs ⟨[], .init⟩
  · by_contra hpending
    exact h.not_sound hpending hsound
  · obtain ⟨q', h'⟩ := h.step hfree
    exact h'.sound

/-- A second reply is flushed before the first CMD, which arrives after 20 halfwords. -/
def tornReply : List ReplyEvent :=
  [.queue (.zero 0) [1, 1, 1, 1] (by decide), .queue (.zero 0) [2, 2, 2, 2] (by decide),
    .flush .zero] ++ List.replicate 23 .writeHalfword ++ [.finish, .flush .zero] ++
    List.replicate 20 .writeHalfword ++ [.command]

/-- Half of each of the two replies is transmitted. -/
theorem tornReply_transmitted : ¬ Along replyStep StepReplySound .init tornReply ∧
    ∃ bytes ∈ (run replyStep .init tornReply).transmitted,
      ¬ WholeReply (run replyStep .init tornReply).tx.ring bytes := by
  have htorn : ∃ bytes ∈ (run replyStep .init tornReply).transmitted,
      ¬ WholeReply (run replyStep .init tornReply).tx.ring bytes := by
    decide +kernel
  refine ⟨fun hsound => ?_, htorn⟩
  obtain ⟨bytes, hmem, hbytes⟩ := htorn
  exact hbytes ((hsound.last (by decide)).1 bytes hmem)

end Wifi
