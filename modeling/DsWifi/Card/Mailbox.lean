import DsWifi.Infra.Reads

/-!
# Packets from the card

`wifi_card_mbox0_readpkt` reads a packet to `mbox_buffer`, hands the payload to the handler of its
type, and looks in the trailer behind the payload for the header of the next packet. The length of
the packet comes from the header, the length of the trailer from the packet.

* `mbox0Readpkt_decodes_iff` — the packets that are decoded inside of the buffer
* `mbox0Readpkt_decides_iff` — the sequences of polls after which the right thing is done
-/

namespace Wifi

open Infra Infra.Mem Infra.ReadM

namespace Mbox

/-! ## Headers -/

/-- `MBOX_TMPBUF_SIZE`, the size of `mbox_buffer`. -/
def tmpbufSize : Nat := 0x600

/-- `MBOXPKT_HTC`. -/
def pktHtc : Nat := 0

/-- `MBOXPKT_WMI`. -/
def pktWmi : Nat := 1

def pktType (header : UInt32) : Nat := header.toNat % 2 ^ 8

def ackPresent (header : UInt32) : Nat := header.toNat / 2 ^ 8 % 2 ^ 8

/-- The length of payload and trailer. -/
def len (header : UInt32) : Nat := header.toNat / 2 ^ 16

/-- The number of bytes that are transferred: a header of six bytes more, in whole blocks. -/
def fullLen (header : UInt32) : Nat := (len header + 6 + 0x7F) / 0x80 * 0x80 % 2 ^ 16

theorem len_lt (header : UInt32) : len header < 2 ^ 16 := by
  have := header.toNat_lt
  unfold len
  omega

/-- Packets that are not discarded are read in whole blocks. -/
theorem fullLen_eq {header : UInt32} (h : len header ≤ 0x2000) :
    fullLen header = (len header + 6 + 0x7F) / 0x80 * 0x80 := by
  unfold fullLen
  omega

theorem fullLen_le_iff {header : UInt32} (h : len header ≤ 0x2000) :
    fullLen header ≤ tmpbufSize ↔ len header ≤ 0x5FA := by
  rw [fullLen_eq h, tmpbufSize]
  omega

/-! ## Payloads -/

/-- A call of the handler of the packet. The payload is given by its offset in `mbox_buffer`. -/
inductive Handled
  | htcHandlePkt (pktCmd start len ackLen : Nat)
  | wmiHandlePkt (pktCmd start len ackLen : Nat)
  | dataHandlePkt (start len : Nat)
  deriving DecidableEq

def Handled.start : Handled → Nat
  | htcHandlePkt _ start _ _ => start
  | wmiHandlePkt _ start _ _ => start
  | dataHandlePkt start _ => start

def Handled.len : Handled → Nat
  | htcHandlePkt _ _ len _ => len
  | wmiHandlePkt _ _ len _ => len
  | dataHandlePkt _ len => len

/-- `ack_len`, for a packet in `mbox_buffer`. -/
def ackLen (header : UInt32) (buffer : Mem) : Nat :=
  if ackPresent header = 0 then 0 else (buffer 4).toNat

/-- `len_pkt`, in 16 bits. -/
def lenPkt (header : UInt32) (ackLen : Nat) : Nat := (len header + 2 ^ 16 - ackLen) % 2 ^ 16

/-- Which handler is called, if any. The handlers of commands take a length of 32 bits. -/
def handled (header : UInt32) (buffer : Mem) (ackLen : Nat) : Option Handled :=
  let lenPkt := lenPkt header ackLen
  let pktCmd := load16 buffer 6
  if pktType header = pktHtc then
    some (.htcHandlePkt pktCmd 8 ((lenPkt + 2 ^ 32 - 2) % 2 ^ 32) ackLen)
  else if pktType header = pktWmi then
    some (.wmiHandlePkt pktCmd 8 ((lenPkt + 2 ^ 32 - 2) % 2 ^ 32) ackLen)
  else if pktType header = 2 ∨ pktType header = 3 ∨ pktType header = 4 ∨ pktType header = 5 then
    some (.dataHandlePkt 6 lenPkt)
  else none

/-! ## Trailers -/

/-- `mbox_has_lookahead` and `mbox_lookahead`. -/
structure Lookahead where
  present : Bool
  word : UInt32
  deriving DecidableEq

/-- What the loop over the trailer does at a record. -/
def ackItem (type len idx : Nat) (s : Lookahead) : ReadM Lookahead :=
  if type = 2 ∧ len = 6 ∧ s.present = false then do
    let first ← byte idx
    if first = 0xAA then do
      let last ← byte (idx + 5)
      if last = 0x55 then do
        let next ← word (idx + 1)
        return { present := true, word := UInt32.ofNat next }
      else return s
    else return s
  else return s

/-- The loop over the trailer. An index of 16 bits is enough, since `ack_len` is a byte. -/
def ackLoop (ackLen : Nat) (word : UInt32) : ReadM Lookahead :=
  ReadM.walk ackItem ackLen 0 { present := false, word }

/-! ## Packets -/

/-- `mbox_buffer`, with what is in memory behind it, and what is known of the next header. -/
structure Mailbox where
  lookahead : Lookahead
  buffer : Mem

/-- What the card shows during a call. -/
structure CardSide where
  /-- `F1_HOST_INT_STATUS`, one reading after the other. -/
  hostIntStatus : Nat → UInt8
  /-- `F1_RX_LOOKAHEAD0`. -/
  rxLookahead0 : UInt32
  /-- The bytes of the mailbox. -/
  fifo : Mem

/-- The loop that waits for data: `timeout` after it, or `none` for the -1 of a loop that has not
been left early. -/
def waitRx (hostIntStatus : Nat → UInt8) : (timeout i : Nat) → Option Nat
  | 0, _ => none
  | timeout + 1, i =>
    if hostIntStatus i &&& 1 ≠ 0 then some timeout else waitRx hostIntStatus timeout (i + 1)

/-- The loop that discards bytes of the mailbox. -/
def discard (hostIntStatus : Nat → UInt8) : (n i : Nat) → Nat
  | 0, _ => 0
  | n + 1, i => if hostIntStatus i &&& 1 ≠ 0 then discard hostIntStatus n (i + 1) + 1 else 0

/-- A packet that has been read. -/
structure Packet where
  header : UInt32
  ackLen : Nat
  handled : Option Handled
  /-- Memory from `ack_data` on, when the loop over the trailer starts. -/
  ackData : Mem
  /-- `mbox_lookahead` then. -/
  word : UInt32

/-- What happens to the lookahead in the end. -/
def Packet.lookahead (p : Packet) : Lookahead := eval p.ackData (ackLoop p.ackLen p.word)

/-- What a call has read of the mailbox. -/
inductive Outcome
  | nothing
  | discarded (actualLen : Nat)
  | short
  | packet (p : Packet)

namespace Mailbox

/-- No data has come in time. -/
def TimesOut (card : CardSide) : Prop := waitRx card.hostIntStatus 100 0 = some 0

instance (card : CardSide) : Decidable (TimesOut card) :=
  inferInstanceAs (Decidable (waitRx card.hostIntStatus 100 0 = some 0))

/-- The header of the packet. -/
def header (s : Mailbox) (card : CardSide) : UInt32 :=
  if s.lookahead.present then s.lookahead.word else card.rxLookahead0

/-- The header is used once. -/
def consumed (s : Mailbox) : Mailbox := { s with lookahead.present := false }

/-- The mailbox after the transfer. -/
def received (s : Mailbox) (card : CardSide) : Mailbox :=
  { s.consumed with
    buffer := s.buffer.storeBytes 0 (loadBytes card.fifo 0 (fullLen (s.header card))) }

variable (handle : Handled → Mailbox → Mailbox)

/-- The mailbox after the handler. -/
def afterHandler (s : Mailbox) (card : CardSide) : Mailbox :=
  let s' := s.received card
  let ackLen := ackLen (s.header card) s'.buffer
  match handled (s.header card) s'.buffer ackLen with
  | some call => handle call s'
  | none => s'

/-- The packet of the call. -/
def packet (s : Mailbox) (card : CardSide) : Packet :=
  let header := s.header card
  let ackLen := ackLen header (s.received card).buffer
  let s' := s.afterHandler handle card
  { header
    ackLen
    handled := handled header (s.received card).buffer ackLen
    ackData := fun i => s'.buffer (6 + lenPkt header ackLen + i)
    word := s'.lookahead.word }

/-- `wifi_card_mbox0_readpkt`. The handlers can change the mailbox: `htc_handle_pkt` reads further
packets to `mbox_buffer`. -/
def mbox0Readpkt (s : Mailbox) (card : CardSide) : Outcome × Mailbox × Nat :=
  let timeout := waitRx card.hostIntStatus 100 0
  if timeout = some 0 then (.nothing, s, 0)
  else if 0x2000 < len (s.header card) then
    (.discarded (discard card.hostIntStatus 4 (100 - timeout.getD 0)), s.consumed, 0)
  else if fullLen (s.header card) < 6 then
    (.short, s.received card, fullLen (s.header card))
  else
    let p := s.packet handle card
    (.packet p, { s.afterHandler handle card with lookahead := p.lookahead }, len p.header)

end Mailbox

/-! ## Handlers -/

/-- `HTC_MSG_READY`. -/
def htcMsgReady : Nat := 1

/-- What the handlers do to the mailbox: `htc_handle_pkt` answers `HTC_MSG_READY` with five messages
and reads a packet after each, down to a depth. The card is given by the calls on the way there. -/
def handlePkt (cards : List Nat → CardSide) :
    (depth : Nat) → (calls : List Nat) → Handled → Mailbox → Mailbox
  | depth + 1, calls, .htcHandlePkt pktCmd _ _ _, s =>
    if pktCmd = htcMsgReady then
      (List.range 5).foldl (fun s j =>
        (s.mbox0Readpkt (handlePkt cards depth (j :: calls)) (cards (j :: calls))).2.1) s
    else s
  | _, _, _, s => s

/-! ## What a packet has to be -/

/-- The eight bytes of a lookahead record. -/
def RecordAt (m : Mem) (k : Nat) (word : UInt32) : Prop :=
  m k = 2 ∧ m (k + 1) = 6 ∧ m (k + 2) = 0xAA ∧ UInt32.ofNat (load32 m (k + 3)) = word ∧
    m (k + 7) = 0x55

/-- The buffer is large enough, payload and trailer share the packet, the loop over the trailer
stays inside, and the next header comes from a whole record. -/
structure Packet.Decoded (p : Packet) : Prop where
  fullLen_le : fullLen p.header ≤ tmpbufSize
  ackLen_le : p.ackLen ≤ len p.header
  handled : ∀ call, p.handled = some call →
    6 ≤ call.start ∧ call.start + call.len + p.ackLen = 6 + len p.header
  trailer : Within p.ackLen p.ackData (ackLoop p.ackLen p.word)
  lookahead : p.lookahead.present = true →
    ∃ k, k + 8 ≤ p.ackLen ∧ RecordAt p.ackData k p.lookahead.word

/-- The bytes of the mailbox are decoded inside of the buffer. -/
def Outcome.Decoded : Outcome → Prop
  | nothing => True
  | discarded actualLen => actualLen ≤ tmpbufSize
  | short => True
  | packet p => p.Decoded

/-- The record at `k` ends in the trailer, as far as the loop looks at it: a lookahead record is
looked at until one has been found. -/
def RecordEnds (p : Packet) (k : Nat) (found : Bool) : Prop :=
  k + 1 < p.ackLen ∧
    (p.ackData k = 2 → p.ackData (k + 1) = 6 → found = false →
      k + 2 < p.ackLen ∧ (p.ackData (k + 2) = 0xAA → k + 8 ≤ p.ackLen))

/-- The loop over the trailer comes to the record at `k`. -/
def Packet.Reaches (p : Packet) (k : Nat) (found : Bool) : Prop :=
  ∃ s : Lookahead, s.present = found ∧
    Infra.Reaches p.ackData (fun type len idx s => eval p.ackData (ackItem type len idx s)) p.ackLen
      0 { present := false, word := p.word } k s

/-- The lengths of a packet fit together. -/
structure Packet.Fits (p : Packet) : Prop where
  len_le : len p.header ≤ 0x5FA
  ackLen_le : p.ackLen ≤ len p.header
  command : pktType p.header = pktHtc ∨ pktType p.header = pktWmi → 2 + p.ackLen ≤ len p.header
  records : ∀ k found, p.Reaches k found → RecordEnds p k found

/-! ## Trailers -/

section

variable {m : Mem} {k n : Nat} {s : Lookahead}

/-- What the loop reads at a record. -/
theorem within_ackItem (type len idx : Nat) : Within n m (ackItem type len idx s) ↔
    (type = 2 → len = 6 → s.present = false →
      idx < n ∧ (m idx = 0xAA → idx + 6 ≤ n)) := by
  unfold ackItem
  simp only [within_ite, within_bind, within_byte, within_word, within_pure, eval_byte, and_true,
    implies_true, and_imp]
  refine forall_congr' fun _ => forall_congr' fun _ => forall_congr' fun _ =>
    and_congr_right fun _ => forall_congr' fun _ => ?_
  constructor
  · rintro ⟨hlast, -⟩
    omega
  · intro hle
    exact ⟨by omega, fun _ => by omega⟩

/-- What the loop does at a record. -/
theorem eval_ackItem (type len idx : Nat) : eval m (ackItem type len idx s) =
    if type = 2 ∧ len = 6 ∧ s.present = false ∧ m idx = 0xAA ∧ m (idx + 5) = 0x55 then
      { present := true, word := UInt32.ofNat (load32 m (idx + 1)) }
    else s := by
  unfold ackItem
  simp only [eval_ite, eval_bind, eval_byte, eval_word, eval_pure]
  split_ifs <;> simp_all

end

namespace Packet

variable (p : Packet)

/-- The loop stays in the trailer exactly if all the records end there. -/
theorem within_ackLoop_iff : Within p.ackLen p.ackData (ackLoop p.ackLen p.word) ↔
    ∀ k found, p.Reaches k found → RecordEnds p k found := by
  have hbyte (b c : UInt8) : b.toNat = c.toNat ↔ b = c := UInt8.toNat_inj
  have hitem (k : Nat) (s : Lookahead) : (k + 1 < p.ackLen ∧ Within p.ackLen p.ackData
      (ackItem (p.ackData k).toNat (p.ackData (k + 1)).toNat (k + 2) s)) ↔
      RecordEnds p k s.present := by
    rw [within_ackItem]
    exact and_congr_right fun _ => imp_congr (hbyte _ 2) (imp_congr (hbyte _ 6) Iff.rfl)
  rw [ackLoop, within_walk_iff]
  constructor
  · rintro h k _ ⟨s, rfl, hreach⟩
    exact (hitem k s).mp (h k s hreach)
  · intro h k s hreach
    exact (hitem k s).mpr (h k s.present ⟨s, rfl, hreach⟩)

/-- The next header comes from a whole record. -/
theorem lookahead_complete (h : ∀ k found, p.Reaches k found → RecordEnds p k found)
    (hpresent : p.lookahead.present = true) :
    ∃ k, k + 8 ≤ p.ackLen ∧ RecordAt p.ackData k p.lookahead.word := by
  let Found (s : Lookahead) : Prop :=
    s.present = true → ∃ k, k + 8 ≤ p.ackLen ∧ RecordAt p.ackData k s.word
  have hloop : p.lookahead = walk p.ackData
      (fun type len idx s => eval p.ackData (ackItem type len idx s)) p.ackLen 0
      { present := false, word := p.word } := eval_walk
  have hfound : Found p.lookahead := by
    rw [hloop]
    refine walk_inv Found (fun k s hreach hs => ?_) Bool.noConfusion
    rw [eval_ackItem]
    split_ifs with hitem
    · -- The first byte has made the loop look at all of the record.
      obtain ⟨htype, hlen, hnone, hfirst, hlast⟩ := hitem
      have htype' : p.ackData k = 2 := UInt8.toNat_inj.mp htype
      have hlen' : p.ackData (k + 1) = 6 := UInt8.toNat_inj.mp hlen
      obtain ⟨-, hends⟩ := h k s.present ⟨s, rfl, hreach⟩
      exact fun _ => ⟨k, (hends htype' hlen' hnone).2 hfirst, htype', hlen', hfirst, rfl, hlast⟩
    · exact hs
  exact hfound hpresent

end Packet

/-! ## Packets that fit -/

theorem lenPkt_eq {header : UInt32} {ackLen : Nat} (h : ackLen ≤ len header) :
    lenPkt header ackLen = len header - ackLen := by
  have := len_lt header
  unfold lenPkt
  omega

/-- The payload lies in front of the trailer. -/
theorem handled_inside_iff {header : UInt32} {buffer : Mem} {ackLen : Nat}
    (h : ackLen ≤ len header) :
    (∀ call, handled header buffer ackLen = some call →
      6 ≤ call.start ∧ call.start + call.len + ackLen = 6 + len header) ↔
      (pktType header = pktHtc ∨ pktType header = pktWmi → 2 + ackLen ≤ len header) := by
  have hlen := len_lt header
  unfold handled
  rw [lenPkt_eq h]
  dsimp only
  split_ifs with hhtc hwmi hdata
  · simp only [Option.some.injEq, forall_eq', Handled.start, Handled.len, hhtc, true_or,
      forall_const]
    omega
  · simp only [Option.some.injEq, forall_eq', Handled.start, Handled.len, hwmi, or_true,
      forall_const]
    omega
  · refine iff_of_true ?_ fun h => absurd h (not_or.mpr ⟨hhtc, hwmi⟩)
    simp only [Option.some.injEq, forall_eq', Handled.start, Handled.len]
    omega
  · exact iff_of_true (fun _ => nofun) fun h => absurd h (not_or.mpr ⟨hhtc, hwmi⟩)

/-- A packet that is read is decoded inside of the buffer exactly if its lengths fit together. -/
theorem Mailbox.packet_decoded_iff (handle : Handled → Mailbox → Mailbox) (s : Mailbox)
    (card : CardSide) (h : len (s.header card) ≤ 0x2000) :
    (s.packet handle card).Decoded ↔ (s.packet handle card).Fits := by
  have hhandled : (s.packet handle card).handled = Mbox.handled (s.packet handle card).header
      (s.received card).buffer (s.packet handle card).ackLen := rfl
  have hle : len (s.packet handle card).header ≤ 0x2000 := h
  constructor
  · rintro ⟨hfull, hack, hinside, htrailer, -⟩
    rw [hhandled] at hinside
    exact ⟨(fullLen_le_iff hle).mp hfull, hack, (handled_inside_iff hack).mp hinside,
      (s.packet handle card).within_ackLoop_iff.mp htrailer⟩
  · rintro ⟨hlen, hack, hcommand, hrecords⟩
    refine ⟨(fullLen_le_iff hle).mpr hlen, hack, ?_,
      (s.packet handle card).within_ackLoop_iff.mpr hrecords,
      (s.packet handle card).lookahead_complete hrecords⟩
    rw [hhandled]
    exact (handled_inside_iff hack).mpr hcommand

/-- At most four bytes are discarded. -/
theorem discard_le (hostIntStatus : Nat → UInt8) (n i : Nat) : discard hostIntStatus n i ≤ n := by
  induction n generalizing i with
  | zero => exact Nat.le_refl 0
  | succ n ih =>
    rw [discard]
    split
    · exact Nat.succ_le_succ (ih (i + 1))
    · exact Nat.zero_le _

/-- **The packets that are decoded inside of the buffer**: nothing is read, the packet is longer
than any packet, or its lengths fit together. -/
theorem mbox0Readpkt_decodes_iff (handle : Handled → Mailbox → Mailbox) (s : Mailbox)
    (card : CardSide) :
    (s.mbox0Readpkt handle card).1.Decoded ↔
      Mailbox.TimesOut card ∨ 0x2000 < len (s.header card) ∨ (s.packet handle card).Fits := by
  unfold Mailbox.mbox0Readpkt
  dsimp only
  split_ifs with htime hlong hshort
  · exact iff_of_true trivial (.inl htime)
  · refine iff_of_true ?_ (.inr (.inl hlong))
    have := discard_le card.hostIntStatus 4
      (100 - (waitRx card.hostIntStatus 100 0).getD 0)
    exact this.trans (by decide)
  · -- A header alone fills a block.
    rw [fullLen_eq (Nat.le_of_not_lt hlong)] at hshort
    omega
  · have hfits := s.packet_decoded_iff handle card (Nat.le_of_not_lt hlong)
    exact hfits.trans ((or_iff_right hlong).symm.trans (or_iff_right htime).symm)

/-- Nothing is known of the next header. -/
def emptyMailbox : Mailbox where
  lookahead := { present := false, word := 0 }
  buffer := fun _ => 0

/-- A data packet of as many bytes as there are in `mbox_buffer`. -/
def largePkt : CardSide where
  hostIntStatus := fun _ => 1
  rxLookahead0 := 0x06000002
  fifo := fun _ => 0

/-- The packet and its header do not fit in `mbox_buffer`. -/
theorem mbox0Readpkt_largePkt :
    ¬ (emptyMailbox.mbox0Readpkt (handlePkt (fun _ => largePkt) 1 []) largePkt).1.Decoded := by
  intro h
  have hread : (emptyMailbox.mbox0Readpkt (handlePkt (fun _ => largePkt) 1 []) largePkt).1 =
      .packet (emptyMailbox.packet (handlePkt (fun _ => largePkt) 1 []) largePkt) := rfl
  rw [hread] at h
  exact absurd h.fullLen_le (by decide)

/-! ## Waiting for data -/

/-- `RX FIFO is not empty`. -/
def RxReady (sts : UInt8) : Prop := sts &&& 1 ≠ 0

instance (sts : UInt8) : Decidable (RxReady sts) := inferInstanceAs (Decidable (sts &&& 1 ≠ 0))

/-- The values of `F1_HOST_INT_STATUS` that the loop reads. -/
def polled (hostIntStatus : Nat → UInt8) : (timeout i : Nat) → List UInt8
  | 0, _ => []
  | timeout + 1, i =>
    hostIntStatus i ::
      if RxReady (hostIntStatus i) then [] else polled hostIntStatus timeout (i + 1)

theorem waitRx_succ (hostIntStatus : Nat → UInt8) (timeout i : Nat) :
    waitRx hostIntStatus (timeout + 1) i =
      if RxReady (hostIntStatus i) then some timeout
      else waitRx hostIntStatus timeout (i + 1) := rfl

/-- The loop ends with -1 exactly if no poll has shown data. -/
theorem waitRx_eq_none_iff (hostIntStatus : Nat → UInt8) (timeout i : Nat) :
    waitRx hostIntStatus timeout i = none ↔
      ∀ sts ∈ polled hostIntStatus timeout i, ¬ RxReady sts := by
  induction timeout generalizing i with
  | zero => simp [waitRx, polled]
  | succ timeout ih =>
    rw [waitRx_succ, polled, List.forall_mem_cons]
    by_cases hready : RxReady (hostIntStatus i)
    · rw [if_pos hready]
      exact iff_of_false (Option.some_ne_none _) fun h => h.1 hready
    · rw [if_neg hready, if_neg hready, ih, and_iff_right hready]

/-- The loop ends with a positive `timeout` exactly if there has been data before the last poll. -/
theorem waitRx_pos_iff (hostIntStatus : Nat → UInt8) (n i : Nat) :
    (∃ t, waitRx hostIntStatus (n + 1) i = some (t + 1)) ↔
      ∃ k < n, RxReady (hostIntStatus (i + k)) := by
  induction n generalizing i with
  | zero =>
    rw [waitRx_succ, waitRx]
    split <;> simp
  | succ n ih =>
    rw [waitRx_succ]
    by_cases hready : RxReady (hostIntStatus i)
    · rw [if_pos hready]
      exact iff_of_true ⟨n, rfl⟩ ⟨0, Nat.succ_pos n, hready⟩
    · rw [if_neg hready, ih]
      constructor
      · rintro ⟨k, hk, hlater⟩
        refine ⟨k + 1, Nat.succ_lt_succ hk, ?_⟩
        rwa [Nat.add_comm k, ← Nat.add_assoc]
      · rintro ⟨k, hk, hlater⟩
        cases k with
        | zero => exact absurd hlater hready
        | succ k =>
          rw [Nat.add_comm k, ← Nat.add_assoc] at hlater
          exact ⟨k, Nat.lt_of_succ_lt_succ hk, hlater⟩

/-- A call gives up before it looks at a header exactly if `timeout` is zero after the loop. -/
theorem Mailbox.mbox0Readpkt_eq_nothing_iff (handle : Handled → Mailbox → Mailbox) (s : Mailbox)
    (card : CardSide) :
    (s.mbox0Readpkt handle card).1 = .nothing ↔ Mailbox.TimesOut card := by
  unfold Mailbox.mbox0Readpkt
  dsimp only
  split_ifs with htime hlong hshort
  · exact iff_of_true rfl htime
  · exact iff_of_false nofun htime
  · exact iff_of_false nofun htime
  · exact iff_of_false nofun htime

/-- The call gives up exactly if no poll has shown data. -/
def Mailbox.DecidesTimeout (handle : Handled → Mailbox → Mailbox) (s : Mailbox)
    (card : CardSide) : Prop :=
  (s.mbox0Readpkt handle card).1 = .nothing ↔
    ∀ sts ∈ polled card.hostIntStatus 100 0, ¬ RxReady sts

/-- **The polls after which the right thing is done**: `timeout` is zero if the last poll has found
data, and -1 if no poll has, so one of the polls before the last one has to find data. -/
theorem mbox0Readpkt_decides_iff (handle : Handled → Mailbox → Mailbox) (s : Mailbox)
    (card : CardSide) :
    s.DecidesTimeout handle card ↔ ∃ k < 99, RxReady (card.hostIntStatus k) := by
  have hearly := waitRx_pos_iff card.hostIntStatus 99 0
  simp only [Nat.zero_add] at hearly
  rw [Mailbox.DecidesTimeout, Mailbox.mbox0Readpkt_eq_nothing_iff, Mailbox.TimesOut,
    ← waitRx_eq_none_iff, ← hearly]
  cases waitRx card.hostIntStatus 100 0 with
  | none => simp
  | some t =>
    cases t with
    | zero => simp
    | succ t => simp

/-- The card never has data. -/
def silentCard : CardSide := { largePkt with hostIntStatus := fun _ => 0 }

/-- Data comes before the last poll. -/
def lateCard : CardSide := { largePkt with hostIntStatus := fun i => if i = 99 then 1 else 0 }

/-- A header is read without data, and no header is read when there is data in the end. -/
theorem mbox0Readpkt_silentCard_lateCard :
    ¬ emptyMailbox.DecidesTimeout (handlePkt (fun _ => silentCard) 1 []) silentCard ∧
      ¬ emptyMailbox.DecidesTimeout (handlePkt (fun _ => lateCard) 1 []) lateCard := by
  constructor
  · intro h
    rw [Mailbox.DecidesTimeout, Mailbox.mbox0Readpkt_eq_nothing_iff] at h
    exact absurd (h.mpr (by decide +kernel)) (by decide +kernel)
  · intro h
    rw [Mailbox.DecidesTimeout, Mailbox.mbox0Readpkt_eq_nothing_iff] at h
    exact absurd (h.mp (by decide +kernel)) (by decide +kernel)

end Mbox

end Wifi
