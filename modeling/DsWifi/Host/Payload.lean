import DsWifi.Host.Packets
import DsWifi.Host.Table
import DsWifi.Tx.Stored

/-!
# Payloads between a host and its clients

The four functions that send a payload (`source/arm9/ntr/rx_tx_queue.c`) against the two handlers of
the other side (`source/arm9/ntr/multiplayer.c`). The handler of a client asks every packet for the
size of a CMD header, which is four bytes larger than the one of a direct packet.

* `mp_payload_arrives_iff` — which payloads arrive
-/

namespace Wifi

open Infra Infra.Mem

/-! ## The two sides -/

/-- The functions that send a payload. -/
inductive MpFrame
  | hostCmd
  | hostToClientData
  | clientReply
  | clientToHostData
  deriving DecidableEq, Repr

/-- What a client knows of its association. -/
structure Guest where
  macAddr : MacAddr
  /-- `curAp.bssid`. -/
  bssid : MacAddr
  /-- `clients.curClientAID`. -/
  curClientAid : Nat

/-- The fields that the TX functions of a client read. -/
def Guest.txEnv (guest : Guest) (env : TxEnv) : TxEnv :=
  { env with
    macAddr := guest.macAddr
    bssid := guest.bssid
    curClientAid := guest.curClientAid }

/-- What a client knows when it looks at a packet. -/
def Guest.packetEnv (guest : Guest) : PacketEnv where
  client _ := .zero
  curMaxClients := 0
  spinlock := .nobody
  ime := 1
  macAddr := guest.macAddr
  bssid := guest.bssid

/-- The client in the slot is associated with the host, as the association has left both of them. -/
structure Peers (host : Host) (guest : Guest) (i : Slot) : Prop where
  state : (host.client i).state = .associated
  macaddr : (host.client i).macaddr = guest.macAddr
  bssid : guest.bssid = host.macAddr
  aid : guest.curClientAid = i.val + 1

namespace MpFrame

/-- Whether a client sends it. -/
def fromClient : MpFrame → Bool
  | hostCmd => false
  | hostToClientData => false
  | clientReply => true
  | clientToHostData => true

/-- The type that the handler is told. -/
def type : MpFrame → MpPacketType
  | hostCmd => .cmd
  | hostToClientData => .data
  | clientReply => .reply
  | clientToHostData => .data

/-- The call that sends a payload. -/
def call (frame : MpFrame) (i : Slot) (data : List UInt8) : TxCall :=
  match frame with
  | hostCmd => .multiplayerHostCmdTxFrame data
  | hostToClientData => .multiplayerHostToClientDataTxFrame (i.val + 1) data
  | clientReply => .multiplayerClientReplyTxFrame data
  | clientToHostData => .multiplayerClientToHostDataTxFrame data

/-- Send a payload, with any other fields of the sender. -/
def send (frame : MpFrame) (host : Host) (guest : Guest) (i : Slot) (env : TxEnv) (ring : TxRing)
    (data : List UInt8) : TxRing × Bool :=
  (frame.call i data).run (if frame.fromClient then guest.txEnv env else host.txEnv env) ring

/-- What the other side does with a packet, if it has a handler. -/
def receive (frame : MpFrame) (host : Host) (guest : Guest) (packet : Mem) (size : Nat) :
    Option PacketEnv.Delivery :=
  if frame.fromClient then (host.packetEnv.multiplayerHandlePacketFromClient true packet size).2
  else guest.packetEnv.multiplayerHandlePacketFromHost true packet size

/-- What the other side is to be told. -/
def delivery (frame : MpFrame) (i : Slot) (data : List UInt8) : PacketEnv.Delivery where
  type := frame.type
  aid := if frame.fromClient then some (i.val + 1) else none
  data := data

end MpFrame

/-! ## The air -/

/-- The bytes of an 802.11 frame that the ARM7 and the hardware fill in: duration, sequence control,
and `client_time` and `client_bits` of CMD frames. -/
def FilledIn (flags k : Nat) : Prop :=
  2 ≤ k ∧ k < 4 ∨ 22 ≤ k ∧ k < 24 ∨ flags = wflagSendAsCmd ∧ 24 ≤ k ∧ k < 28

/-- The packet is the stored frame without its hardware header and its FCS. -/
structure OnAir (flags : Nat) (bytes : List UInt8) (packet : Mem) (size : Nat) : Prop where
  length : sizeofTxHeader + size + 4 = bytes.length
  byte : ∀ k < size, ¬ FilledIn flags k → bytes[sizeofTxHeader + k]? = some (packet k)

/-! ## Reading a packet -/

/-- The packet consists of the header, the bytes behind it and the payload, up to what is filled
in. -/
def Carries (flags : Nat) (packet : Mem) (size : Nat) (air : List UInt8) : Prop :=
  size = air.length ∧ ∀ k < size, ¬ FilledIn flags k → air[k]? = some (packet k)

section

variable {flags size : Nat} {packet : Mem} {air : List UInt8}

/-- A range that is not filled in. -/
theorem Carries.loadBytes_eq (h : Carries flags packet size air) {a n : Nat} (hle : a + n ≤ size)
    (hfree : ∀ k, a ≤ k → k < a + n → ¬ FilledIn flags k) :
    loadBytes packet a n = (air.drop a).take n := by
  refine List.ext_getElem? fun k => ?_
  by_cases hk : k < n
  · rw [getElem?_loadBytes hk, List.getElem?_take_of_lt hk, List.getElem?_drop,
      h.2 (a + k) (by omega) (hfree _ (by omega) (by omega))]
  · rw [List.getElem?_eq_none (by simpa using Nat.not_lt.mp hk),
      List.getElem?_eq_none (by rw [List.length_take]; omega)]

theorem toList_macAt (m : Mem) (a : Nat) : (macAt m a).toList = Mem.loadBytes m a 6 := by
  refine List.ext_getElem (by simp) fun k hk hk' => ?_
  simp [macAt, Mem.loadBytes]

/-- A MAC address in memory. -/
theorem macAt_eq {m : Mem} {a : Nat} {mac : MacAddr}
    (h : loadBytes m a mac.toList.length = mac.toList) : macAt m a = mac := by
  rw [Vector.length_toList] at h
  rw [← Vector.toList_inj, toList_macAt, h]

/-- What the handlers read of a header. -/
structure HeaderRead (packet : Mem) (ieee : IeeeFrameHeader) : Prop where
  frameControl : load16 packet 0 = ieee.frameControl
  addr1 : macAt packet 4 = ieee.addr1
  addr2 : macAt packet 10 = ieee.addr2
  addr3 : macAt packet 16 = ieee.addr3

/-- No address is filled in. -/
theorem Carries.headerRead {ieee : IeeeFrameHeader} {rest : List UInt8}
    (hfc : ieee.frameControl < 2 ^ 16) (h : Carries flags packet size (ieee.bytes ++ rest)) :
    HeaderRead packet ieee := by
  have hsize : 24 ≤ size := by
    rw [h.1, List.length_append, IeeeFrameHeader.length_bytes]
    exact Nat.le_add_right _ _
  have hload (a n : Nat) (hle : a + n ≤ 22) (hduration : a + n ≤ 2 ∨ 4 ≤ a) :
      loadBytes packet a n = ((ieee.bytes ++ rest).drop a).take n := by
    refine h.loadBytes_eq (by omega) fun k h1 h2 => ?_
    unfold FilledIn
    omega
  refine ⟨load16_eq _ _ _ hfc ?_, ?_, ?_, ?_⟩
  · rw [hload 0 2 (by omega) (by omega)]
    simp [IeeeFrameHeader.bytes, halfBytes]
  · rw [← Vector.toList_inj, toList_macAt, hload 4 6 (by omega) (by omega)]
    simp [IeeeFrameHeader.bytes, halfBytes, List.drop_append]
  · rw [← Vector.toList_inj, toList_macAt, hload 10 6 (by omega) (by omega)]
    simp [IeeeFrameHeader.bytes, halfBytes]
  · rw [← Vector.toList_inj, toList_macAt, hload 16 6 (by omega) (by omega)]
    simp [IeeeFrameHeader.bytes, halfBytes, List.drop_append, List.take_append]

/-- The payload comes after everything that is filled in. -/
theorem Carries.payload {ieee : IeeeFrameHeader} {info data : List UInt8}
    (h : Carries flags packet size (ieee.bytes ++ info ++ data))
    (hfree : ∀ k, 24 + info.length ≤ k → ¬ FilledIn flags k) :
    Mem.loadBytes packet (24 + info.length) (size - (24 + info.length)) = data := by
  have hlen : (ieee.bytes ++ info).length = 24 + info.length := by
    rw [List.length_append, IeeeFrameHeader.length_bytes]
    rfl
  have hsize : size = 24 + info.length + data.length := by
    rw [h.1, List.length_append, hlen]
  rw [h.loadBytes_eq (by omega) fun k hk _ => hfree k hk, ← hlen, List.drop_left, hsize, hlen,
    Nat.add_sub_cancel_left, List.take_length]

end

/-! ## Sending -/

namespace MpFrame

variable {frame : MpFrame} {host : Host} {guest : Guest} {i : Slot} {env : TxEnv} {ring : TxRing}
variable {data : List UInt8}

/-- The header that the function writes. -/
def header (frame : MpFrame) (host : Host) (guest : Guest) : IeeeFrameHeader :=
  match frame with
  | hostCmd =>
    { frameControl := typeDataCfPoll ||| fcFromDs
      addr1 := wifiCmdMac
      addr2 := host.macAddr
      addr3 := host.macAddr }
  | hostToClientData =>
    { frameControl := typeData ||| fcFromDs
      addr1 := guest.macAddr
      addr2 := host.macAddr
      addr3 := host.macAddr }
  | clientReply =>
    { frameControl := typeDataCfAck ||| fcToDs
      addr1 := guest.bssid
      addr2 := guest.macAddr
      addr3 := wifiReplyMac }
  | clientToHostData =>
    { frameControl := typeData ||| fcToDs
      addr1 := guest.bssid
      addr2 := guest.macAddr
      addr3 := guest.bssid }

/-- The bytes between the header and the payload. -/
def info (frame : MpFrame) (guest : Guest) : List UInt8 :=
  match frame with
  | hostCmd => halfBytes 0 ++ halfBytes 0
  | hostToClientData => []
  | _ => [UInt8.ofNat guest.curClientAid, 0]

def flags (frame : MpFrame) : Nat :=
  match frame with
  | hostCmd => wflagSendAsCmd
  | clientReply => wflagSendAsReply
  | _ => wflagSendAsData

/-- The host finds the address of the client. -/
theorem clientGetMacFromAid (hc : host.Consistent) (h : Peers host guest i) :
    host.clientGetMacFromAid (i.val + 1) = some guest.macAddr := by
  have hlt : i.val < host.curMaxClients.val := hc.lt_curMaxClients (by rw [h.state]; nofun)
  have hslot : (⟨((i.val : Int) + 1 - 1).toNat, by omega⟩ : Slot) = i := Fin.ext (by simp)
  rw [Host.clientGetMacFromAid, dif_pos (by omega)]
  simp only [hslot]
  rw [if_pos h.state, h.macaddr]

theorem send_eq (hc : host.Consistent) (h : Peers host guest i) :
    frame.send host guest i env ring data = multiplayerTxFrame ring (frame.header host guest)
      (frame.info guest) data (36 + (frame.info guest).length) frame.flags := by
  cases frame with
  | hostCmd => rfl
  | hostToClientData =>
    show multiplayerHostToClientDataTxFrame (host.txEnv env) ring (i.val + 1) data = _
    have hmac : (host.txEnv env).clientMac (i.val + 1) = some guest.macAddr :=
      clientGetMacFromAid hc h
    unfold multiplayerHostToClientDataTxFrame
    rw [hmac]
    rfl
  | clientReply => rfl
  | clientToHostData => rfl

/-- The frame of a call that has been accepted, between hardware header and FCS. -/
theorem stored {e : Nat} {q : List (TaggedRing.Frame txGeometry)} (hring : TxInv ring e q)
    (hc : host.Consistent) (h : Peers host guest i) (hobject : data.length < 2 ^ 31)
    (hok : (frame.send host guest i env ring data).2 = true) :
    ∃ head fcs, head.length = sizeofTxHeader ∧ fcs.length = 4 ∧
      (frame.send host guest i env ring data).1.queued = ring.queued ++ [(frame.flags,
        head ++ ((frame.header host guest).bytes ++ frame.info guest ++ data) ++ fcs)] := by
  have hinfo : (frame.info guest).length ≤ 4 := by
    cases frame <;> simp [info]
  have hflags : frame.flags ∈ [wflagSendAsData, wflagSendAsReply, wflagSendAsCmd] := by
    cases frame <;> simp [flags]
  rw [send_eq hc h] at hok ⊢
  have hreq : (multiplayerTxRequest (frame.header host guest) (frame.info guest) data
      (36 + (frame.info guest).length) frame.flags).Valid :=
    multiplayerTxRequest_valid (frame.header host guest) frame.flags hinfo hobject hflags
  obtain ⟨gap, hgap, hqueued⟩ := hring.stored hreq hok
  let tx : TxHeader := {
    txRate := wifiTransferRate2Mbps
    txLength := ieeeFrameSize (u32 (36 + (frame.info guest).length + data.length + 4)) }
  have hlead : leadBytes (multiplayerTxRequest (frame.header host guest) (frame.info guest) data
      (36 + (frame.info guest).length) frame.flags).parts =
      tx.bytes ++ ((frame.header host guest).bytes ++ frame.info guest ++ data) := by
    simp [multiplayerTxRequest, leadBytes, tx]
  refine ⟨tx.bytes, gap, tx.length_bytes, ?_, ?_⟩
  · rw [hgap, ← hreq.size_eq]
    simp [multiplayerTxRequest, leadBytes, TxPart.length]
    omega
  · rw [← hlead]
    exact hqueued

/-- What the other side gets to see. -/
theorem carries {bytes head air fcs : List UInt8} {flags size : Nat} {packet : Mem}
    (hbytes : bytes = head ++ air ++ fcs) (hhead : head.length = sizeofTxHeader)
    (hfcs : fcs.length = 4) (h : OnAir flags bytes packet size) :
    Carries flags packet size air := by
  have hlen := h.length
  rw [hbytes, List.length_append, List.length_append, hhead, hfcs] at hlen
  have hsize : size = air.length := by omega
  refine ⟨hsize, fun k hk hfree => ?_⟩
  rw [← h.byte k hk hfree, hbytes, ← hhead, List.append_assoc,
    List.getElem?_append_right (by omega), List.getElem?_append_left (by omega),
    Nat.add_sub_cancel_left]

/-! ## Receiving -/

/-- Behind the bytes that the ARM7 fills in there is only the payload. -/
theorem not_filledIn {k : Nat} (hk : 24 + (frame.info guest).length ≤ k) :
    ¬ FilledIn frame.flags k := by
  unfold FilledIn
  cases frame with
  | hostCmd =>
    have hk : 28 ≤ k := hk
    omega
  | _ =>
    rintro (hf | hf | ⟨hf, -⟩)
    · omega
    · omega
    · exact absurd hf (by decide)

/-- The host knows the sender. -/
theorem matches_guest (hc : host.Consistent) (h : Peers host guest i) :
    (host.packetEnv.multiplayerClientMatchesMacAndAid (i.val + 1 : Nat) (some guest.macAddr)).2 =
      true := by
  have hlt : i.val < host.curMaxClients.val := hc.lt_curMaxClients (by rw [h.state]; nofun)
  have hle : ((i.val + 1 : Nat) : Int) ≤ host.packetEnv.curMaxClients := by
    show ((i.val + 1 : Nat) : Int) ≤ (host.curMaxClients.val : Nat)
    omega
  have hclient : host.packetEnv.client (((i.val + 1 : Nat) : Int) - 1).toNat = host.client i := by
    have hidx : (((i.val + 1 : Nat) : Int) - 1).toNat = i.val := by omega
    rw [hidx]
    exact dif_pos i.isLt
  refine (PacketEnv.lookUp_of_le (by omega) hle _ _).trans ?_
  rw [hclient]
  exact decide_eq_true ⟨h.state, h.macaddr.symm⟩

/-- The frame control, without the bits that the handlers ignore. -/
theorem frameControl_eq {packet : Mem} (hread : HeaderRead packet (frame.header host guest)) :
    PacketEnv.frameControl packet = (frame.header host guest).frameControl := by
  unfold PacketEnv.frameControl
  rw [hread.frameControl]
  cases frame <;> simp only [header] <;> decide

/-- A client accepts what the host has sent, if the packet is as large as a CMD header. -/
theorem receive_fromHost {size : Nat} {packet : Mem} (hframe : frame.fromClient = false)
    (h : Peers host guest i) (hread : HeaderRead packet (frame.header host guest))
    (hpay : loadBytes packet (24 + (frame.info guest).length)
      (size - (24 + (frame.info guest).length)) = data) :
    frame.receive host guest packet size =
      if size < sizeofMultiplayerHostIeeeDataFrame then none else some (frame.delivery i data) := by
  have hfc := frameControl_eq hread
  have h1 := hread.addr1
  have h3 := hread.addr3
  unfold receive PacketEnv.multiplayerHandlePacketFromHost
  rw [if_neg (by rw [hframe]; nofun), hfc, h1, h3]
  cases frame with
  | hostCmd =>
    have hdest : (hostCmd.header host guest).addr1 = wifiCmdMac := rfl
    have hsource : (hostCmd.header host guest).addr3 = guest.packetEnv.bssid := h.bssid.symm
    have hdata : loadBytes packet sizeofMultiplayerHostIeeeDataFrame
        (size - sizeofMultiplayerHostIeeeDataFrame) = data := hpay
    simp only [hdest, hsource, hdata, ne_eq, not_true, if_false, Bool.not_true, Bool.false_eq_true]
    rfl
  | hostToClientData =>
    have hdest : (hostToClientData.header host guest).addr1 = guest.packetEnv.macAddr := rfl
    have hsource : (hostToClientData.header host guest).addr3 = guest.packetEnv.bssid :=
      h.bssid.symm
    have hdata : loadBytes packet sizeofIeeeDataFrameHeader (size - sizeofIeeeDataFrameHeader) =
        data := hpay
    have hpoll : (hostToClientData.header host guest).frameControl ≠
        typeDataCfPoll ||| fcFromDs := by
      simp only [header]
      decide
    have htype : (hostToClientData.header host guest).frameControl = typeData ||| fcFromDs := rfl
    simp only [hdest, hsource, hdata, ne_eq, not_true, if_false, Bool.not_true, Bool.false_eq_true,
      if_neg hpoll, if_pos htype]
    rfl
  | clientReply => cases hframe
  | clientToHostData => cases hframe

/-- The host accepts what its client has sent. -/
theorem receive_fromClient {size : Nat} {packet : Mem} (hframe : frame.fromClient = true)
    (hc : host.Consistent) (h : Peers host guest i)
    (hread : HeaderRead packet (frame.header host guest)) (hsize : 26 ≤ size)
    (haid : packet 24 = UInt8.ofNat guest.curClientAid)
    (hpay : loadBytes packet 26 (size - 26) = data) :
    frame.receive host guest packet size = some (frame.delivery i data) := by
  have hfc := frameControl_eq hread
  have h2 : macAt packet 10 = guest.macAddr := by
    rw [hread.addr2]
    cases frame with
    | hostCmd => cases hframe
    | hostToClientData => cases hframe
    | clientReply => rfl
    | clientToHostData => rfl
  have h3 := hread.addr3
  have haid : (packet 24).toNat = i.val + 1 := by
    have hi : i.val < 15 := i.isLt
    rw [haid, h.aid, UInt8.toNat_ofNat']
    omega
  have htype : host.packetEnv.clientPacketType packet size = some frame.type := by
    unfold PacketEnv.clientPacketType
    have hlt : ¬ size < sizeofMultiplayerClientIeeeDataFrame := Nat.not_lt.mpr hsize
    rw [if_neg hlt, hfc, h3]
    cases frame with
    | hostCmd => cases hframe
    | hostToClientData => cases hframe
    | clientReply => rfl
    | clientToHostData =>
      have hack : (clientToHostData.header host guest).frameControl ≠ typeDataCfAck ||| fcToDs := by
        simp only [header]
        decide
      have htype : (clientToHostData.header host guest).frameControl = typeData ||| fcToDs := rfl
      have hdest : (clientToHostData.header host guest).addr3 = host.packetEnv.macAddr := h.bssid
      rw [if_neg hack, if_pos htype, if_pos hdest]
      rfl
  unfold receive PacketEnv.multiplayerHandlePacketFromClient
  rw [if_pos hframe]
  simp only [Bool.not_true, Bool.false_eq_true, if_false, htype, h2, haid,
    matches_guest hc h, if_true]
  rw [delivery, if_pos hframe]
  exact congrArg (fun data => some (PacketEnv.Delivery.mk frame.type (some (i.val + 1)) data)) hpay

/-- The size check of a client only drops direct packets that are shorter than four bytes. -/
theorem size_lt_iff {size : Nat} (hframe : frame.fromClient = false)
    (hsize : size = 24 + (frame.info guest).length + data.length) :
    size < sizeofMultiplayerHostIeeeDataFrame ↔
      frame = .hostToClientData ∧ ¬ 4 ≤ data.length := by
  unfold sizeofMultiplayerHostIeeeDataFrame
  cases frame with
  | hostCmd =>
    have hsize : size = 28 + data.length := hsize
    exact iff_of_false (by omega) (by simp)
  | hostToClientData =>
    have hsize : size = 24 + data.length := hsize
    rw [and_iff_right rfl]
    omega
  | clientReply => cases hframe
  | clientToHostData => cases hframe

theorem info_fromClient (hframe : frame.fromClient = true) (guest : Guest) :
    frame.info guest = [UInt8.ofNat guest.curClientAid, 0] := by
  cases frame with
  | hostCmd => cases hframe
  | hostToClientData => cases hframe
  | clientReply => rfl
  | clientToHostData => rfl

/-- The AID of the sender is what it has stored: it isn't in a place that is filled in later. -/
theorem clientAid_eq {size : Nat} {packet : Mem} (hframe : frame.fromClient = true)
    (hcarry : Carries frame.flags packet size
      ((frame.header host guest).bytes ++ [UInt8.ofNat guest.curClientAid, 0] ++ data))
    (hsize : 26 ≤ size) : packet 24 = UInt8.ofNat guest.curClientAid := by
  have hfree : ¬ FilledIn frame.flags 24 := by
    rintro (hf | hf | ⟨hf, -⟩)
    · omega
    · omega
    · cases frame with
      | hostCmd => cases hframe
      | _ => exact absurd hf (by decide)
  have hbyte := hcarry.2 24 (by omega) hfree
  have hlen : (frame.header host guest).bytes.length = 24 := IeeeFrameHeader.length_bytes _
  rw [List.append_assoc, List.getElem?_append_right (by omega), hlen] at hbyte
  simpa using hbyte.symm

/-- **Which packets the other side hands over as they were sent.** -/
theorem receive_iff {size : Nat} {packet : Mem} (hc : host.Consistent) (h : Peers host guest i)
    (hcarry : Carries frame.flags packet size
      ((frame.header host guest).bytes ++ frame.info guest ++ data)) :
    frame.receive host guest packet size = some (frame.delivery i data) ↔
      frame ≠ .hostToClientData ∨ 4 ≤ data.length := by
  have hfc : (frame.header host guest).frameControl < 2 ^ 16 := by
    cases frame <;> simp only [header] <;> decide
  have hread : HeaderRead packet (frame.header host guest) :=
    Carries.headerRead hfc (List.append_assoc _ _ _ ▸ hcarry)
  have hpay := hcarry.payload fun k => not_filledIn
  have hsize : size = 24 + (frame.info guest).length + data.length := by
    rw [hcarry.1, List.length_append, List.length_append, IeeeFrameHeader.length_bytes]
    rfl
  cases hside : frame.fromClient with
  | false =>
    have hshort := size_lt_iff hside hsize
    rw [receive_fromHost hside h hread hpay]
    by_cases hsmall : size < sizeofMultiplayerHostIeeeDataFrame
    · obtain ⟨hframe, hdata⟩ := hshort.mp hsmall
      rw [if_pos hsmall]
      exact iff_of_false nofun fun hlong => hlong.elim (fun hne => hne hframe) hdata
    · rw [if_neg hsmall]
      refine iff_of_true rfl ?_
      by_contra hlost
      rw [not_or, not_not] at hlost
      exact hsmall (hshort.mpr hlost)
  | true =>
    have hne : frame ≠ .hostToClientData := by
      rintro rfl
      cases hside
    refine iff_of_true ?_ (.inl hne)
    rw [info_fromClient hside] at hpay hcarry hsize
    have hsize : size = 26 + data.length := hsize
    exact receive_fromClient hside hc h hread (by omega)
      (clientAid_eq hside hcarry (by omega)) hpay

end MpFrame

/-- **A payload that has been accepted arrives exactly if** it is not a direct packet to a client
with less than four bytes. -/
theorem mp_payload_arrives_iff (macAddr : MacAddr) (es : List HostEvent) (guest : Guest) (i : Slot)
    (h : Peers (run hostStep (.init macAddr) es) guest i) (evs : List (TxEvent false))
    (frame : MpFrame) (env : TxEnv) (data : List UInt8) (hobject : data.length < 2 ^ 31)
    (haccepted : (frame.send (run hostStep (.init macAddr) es) guest i env
      (run (txStep false) .init evs).ring data).2 = true)
    (flags : Nat) (bytes : List UInt8)
    (hstored : (frame.send (run hostStep (.init macAddr) es) guest i env
      (run (txStep false) .init evs).ring data).1.queued.getLast? = some (flags, bytes))
    (packet : Mem) (size : Nat) (hair : OnAir flags bytes packet size) :
    frame.receive (run hostStep (.init macAddr) es) guest packet size =
        some (frame.delivery i data) ↔
      frame ≠ .hostToClientData ∨ 4 ≤ data.length := by
  have hc := (Host.Consistent.init macAddr).run es
  obtain ⟨e, q, hring⟩ := RingFlagged.run (s := .init) .init evs
  obtain ⟨head, fcs, hhead, hfcs, hqueued⟩ :=
    MpFrame.stored hring.ring hc h hobject haccepted
  rw [hqueued, List.getLast?_concat] at hstored
  cases hstored
  exact MpFrame.receive_iff hc h (MpFrame.carries rfl hhead hfcs hair)

/-- A host with one client. -/
def oneClient : List HostEvent :=
  [.resetClients 1, .allowNewClients true, .clientAuthenticate wifiCmdMac,
    .clientAssociate wifiCmdMac]

/-- The client. -/
def onlyGuest : Guest where
  macAddr := wifiCmdMac
  bssid := macAddrZero
  curClientAid := 1

theorem onlyGuest_peers : Peers (run hostStep (.init macAddrZero) oneClient) onlyGuest
    ⟨0, by decide⟩ :=
  ⟨by decide +kernel, by decide +kernel, by decide +kernel, rfl⟩

/-- The only frame that a console has sent. -/
def firstFrame (frame : MpFrame) (data : List UInt8) : List UInt8 :=
  (frame.send (run hostStep (.init macAddrZero) oneClient) onlyGuest ⟨0, by decide⟩ (.zero 0) .init
    data).1.queued.flatMap Prod.snd

/-- The frame on the air. -/
def airOf (bytes : List UInt8) : Mem := fun k => (bytes[sizeofTxHeader + k]?).getD 0

theorem onAir_airOf (flags : Nat) {bytes : List UInt8} {size : Nat}
    (h : sizeofTxHeader + size + 4 = bytes.length) : OnAir flags bytes (airOf bytes) size where
  length := h
  byte k hk _ := by
    rw [airOf, List.getElem?_eq_getElem (by omega)]
    rfl

/-- A reply of one byte arrives. -/
theorem mp_payload_arrives_reply :
    MpFrame.clientReply.receive (run hostStep (.init macAddrZero) oneClient) onlyGuest
      (airOf (firstFrame .clientReply [7])) 27 =
        some (MpFrame.clientReply.delivery ⟨0, by decide⟩ [7]) :=
  (mp_payload_arrives_iff macAddrZero oneClient onlyGuest ⟨0, by decide⟩ onlyGuest_peers []
    .clientReply (.zero 0) [7] (by decide) (by decide +kernel) wflagSendAsReply
    (firstFrame .clientReply [7]) (by decide +kernel) _ 27
    (onAir_airOf _ (by decide +kernel))).mpr (.inl (by decide))

/-- A direct packet of one byte to a client is accepted, and does not arrive. -/
theorem oneByte_lost :
    (MpFrame.hostToClientData.send (run hostStep (.init macAddrZero) oneClient) onlyGuest
      ⟨0, by decide⟩ (.zero 0) .init [7]).2 = true ∧
    OnAir wflagSendAsData (firstFrame .hostToClientData [7])
      (airOf (firstFrame .hostToClientData [7])) 25 ∧
    MpFrame.hostToClientData.receive (run hostStep (.init macAddrZero) oneClient) onlyGuest
      (airOf (firstFrame .hostToClientData [7])) 25 = none :=
  ⟨by decide +kernel, onAir_airOf _ (by decide +kernel), by decide +kernel⟩

end Wifi
