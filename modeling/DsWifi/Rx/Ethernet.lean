import DsWifi.Rx.Lwip
import DsWifi.Tx.Regions
import DsWifi.Tx.Stored

/-!
# Ethernet frames over the air (NTR)

`Wifi_NTR_TransmitFunctionLink` makes an 802.11 frame to the access point out of an Ethernet frame.
The access point sends it on with other addresses, and `Wifi_NTR_SendPacketToLwip` makes an Ethernet
frame again. The fields of WEP are only there on the way to the receiver.

* `ethernet_round_trip` — the receiver gets the frame that was sent
-/

namespace Wifi

open Infra Infra.Mem Infra.TaggedRing

/-! ## The frame in the air -/

/-- The frame as lwIP has it. -/
def EthernetFrame.bytes (src : EthernetFrame) : List UInt8 :=
  src.destMac.toList ++ src.srcMac.toList ++ src.etherType.toList ++ src.payload

/-- What an access point puts into the header of a data frame that it sends on. -/
structure RelayHeader where
  frameControl : Nat
  duration : Nat
  seqCtl : Nat
  frameControl_lt : frameControl < 2 ^ 16
  isData : frameControl &&& fcTypeSubtypeMask = typeData
  notToDs : frameControl &&& fcToDs = 0
  fromDs : frameControl &&& fcFromDs ≠ 0

/-- The access point sends a frame on: address 1 is the old address 3, address 2 the BSSID, and
address 3 the old address 2. -/
def RelayHeader.relay (ap : RelayHeader) (bssid : MacAddr) (frame : List UInt8) : List UInt8 :=
  halfBytes ap.frameControl ++ halfBytes ap.duration ++ (frame.drop 16).take 6 ++ bssid.toList ++
    (frame.drop 10).take 6 ++ halfBytes ap.seqCtl ++ frame.drop sizeofIeeeDataFrameHeader

/-- The hardware of the receiver removes the IV, the ICV and the FCS. -/
def rxCropped (wep : Bool) (frame : List UInt8) : List UInt8 :=
  let frame := frame.take (frame.length - if wep then 8 else 4)
  frame.take sizeofIeeeDataFrameHeader ++
    frame.drop (sizeofIeeeDataFrameHeader + if wep then 4 else 0)

/-- The frame of a call, without its hardware header, as the receiver gets it. -/
def rxLinkFrame (ap : RelayHeader) (env : TxEnv) (frame : List UInt8) : List UInt8 :=
  rxCropped env.wep (ap.relay env.bssid (frame.drop sizeofTxHeader))

/-! ## The frame of a call -/

variable {env : TxEnv} {src : EthernetFrame} {bytes : List UInt8}

/-- The header to the access point. -/
def linkHeader (env : TxEnv) (src : EthernetFrame) : IeeeFrameHeader where
  frameControl := fcToDs ||| typeData ||| (if env.wep then fcProtectedFrame else 0)
  addr1 := env.bssid
  addr2 := env.macAddr
  addr3 := src.destMac

/-- The header from the access point. -/
def RelayHeader.header (ap : RelayHeader) (env : TxEnv) (src : EthernetFrame) :
    IeeeFrameHeader where
  frameControl := ap.frameControl
  duration := ap.duration
  addr1 := src.destMac
  addr2 := env.bssid
  addr3 := env.macAddr
  seqCtl := ap.seqCtl

/-- The frame in the ring. -/
theorem laidOut_link (h : LaidOut (ntrLinkRequest env src).parts bytes) :
    ∃ (tx : TxHeader) (iv tail : List UInt8),
      tx.txLength = ieeeFrameSize (ntrLinkRequest env src).frameSize ∧
      iv.length = (if env.wep then 4 else 0) ∧ tail.length = (if env.wep then 8 else 4) ∧
      bytes = tx.bytes ++ ((linkHeader env src).bytes ++
        (iv ++ (llcSnapBytes src.etherType ++ (src.payload ++ tail)))) := by
  obtain ⟨-, rfl, -, rfl, iv, -, hiv, rfl, -, rfl, -, rfl, tail, -, htail, rfl, rfl⟩ := h
  exact ⟨{ txLength := ieeeFrameSize (ntrLinkRequest env src).frameSize }, iv, tail, rfl, hiv,
    htail, by rw [List.append_nil]; rfl⟩

/-- The addresses of a header. -/
theorem IeeeFrameHeader.slices (ieee : IeeeFrameHeader) (rest : List UInt8) :
    ((ieee.bytes ++ rest).drop 16).take 6 = ieee.addr3.toList ∧
      ((ieee.bytes ++ rest).drop 10).take 6 = ieee.addr2.toList ∧
      (ieee.bytes ++ rest).drop sizeofIeeeDataFrameHeader = rest := by
  refine ⟨?_, ?_, List.drop_left' ieee.length_bytes⟩
  · have h : ieee.bytes ++ rest = (halfBytes ieee.frameControl ++ halfBytes ieee.duration ++
        ieee.addr1.toList ++ ieee.addr2.toList) ++
        (ieee.addr3.toList ++ (halfBytes ieee.seqCtl ++ rest)) := by
      simp only [bytes, List.append_assoc]
    rw [h, List.drop_left' (by simp), List.take_left' (by simp)]
  · have h : ieee.bytes ++ rest = (halfBytes ieee.frameControl ++ halfBytes ieee.duration ++
        ieee.addr1.toList) ++
        (ieee.addr2.toList ++ (ieee.addr3.toList ++ (halfBytes ieee.seqCtl ++ rest))) := by
      simp only [bytes, List.append_assoc]
    rw [h, List.drop_left' (by simp), List.take_left' (by simp)]

/-- The access point only replaces the header. -/
theorem RelayHeader.relay_link (ap : RelayHeader) (rest : List UInt8) :
    ap.relay env.bssid ((linkHeader env src).bytes ++ rest) =
      (ap.header env src).bytes ++ rest := by
  obtain ⟨h16, h10, hrest⟩ := (linkHeader env src).slices rest
  rw [relay, h16, h10, hrest]
  simp only [IeeeFrameHeader.bytes, header, linkHeader, List.append_assoc]

/-- The hardware removes what is there for WEP, and the FCS. -/
theorem rxCropped_eq {wep : Bool} {header iv body tail : List UInt8}
    (hheader : header.length = sizeofIeeeDataFrameHeader)
    (hiv : iv.length = if wep then 4 else 0) (htail : tail.length = if wep then 8 else 4) :
    rxCropped wep (header ++ (iv ++ (body ++ tail))) = header ++ body := by
  have hassoc : header ++ (iv ++ (body ++ tail)) = header ++ (iv ++ body) ++ tail := by
    simp only [List.append_assoc]
  have hcut : (header ++ (iv ++ body) ++ tail).length - (if wep then 8 else 4) =
      (header ++ (iv ++ body)).length := by
    rw [List.length_append, htail, Nat.add_sub_cancel]
  rw [rxCropped, hassoc, hcut, List.take_left, List.take_left' hheader, ← List.append_assoc,
    List.drop_left' (by rw [List.length_append, hheader, hiv])]

/-- What the receiver gets. -/
theorem rxLinkFrame_eq (ap : RelayHeader) (h : LaidOut (ntrLinkRequest env src).parts bytes) :
    rxLinkFrame ap env bytes =
      (ap.header env src).bytes ++ (llcSnapBytes src.etherType ++ src.payload) := by
  obtain ⟨tx, iv, tail, -, hiv, htail, rfl⟩ := laidOut_link h
  rw [rxLinkFrame, List.drop_left' tx.length_bytes, ap.relay_link, ← List.append_assoc _ _ tail,
    rxCropped_eq (ap.header env src).length_bytes hiv htail]

/-! ## The frame that lwIP gets -/

variable {m : Mem} {packet : Nat}

/-- What is loaded from a header. -/
theorem loads_header {ieee : IeeeFrameHeader} {rest : List UInt8}
    (h : loadBytes m packet (ieee.bytes ++ rest).length = ieee.bytes ++ rest) :
    loadBytes m packet 2 = halfBytes ieee.frameControl ∧
      loadBytes m (packet + 4) 6 = ieee.addr1.toList ∧
      loadBytes m (packet + 16) 6 = ieee.addr3.toList ∧
      loadBytes m (packet + sizeofIeeeDataFrameHeader) rest.length = rest := by
  simp only [IeeeFrameHeader.bytes, List.append_assoc, loadBytes_append, length_halfBytes,
    Vector.length_toList, Nat.add_assoc] at h
  obtain ⟨hfc, -, haddr1, -, haddr3, -, hrest⟩ := h
  exact ⟨hfc, haddr1, haddr3, hrest⟩

/-- What is loaded from an LLC/SNAP header. -/
theorem loads_snap {etherType : Vector UInt8 2} {i : Nat} {rest : List UInt8}
    (h : loadBytes m i (llcSnapBytes etherType ++ rest).length = llcSnapBytes etherType ++ rest) :
    (m i = 0xAA ∧ m (i + 1) = 0xAA ∧ m (i + 2) = 0x03 ∧ m (i + 3) = 0 ∧ m (i + 4) = 0 ∧
        m (i + 5) = 0) ∧
      loadBytes m (i + 6) 2 = etherType.toList ∧
      loadBytes m (i + sizeofLlcSnapHeader) rest.length = rest := by
  rw [llcSnapBytes, List.append_assoc, loadBytes_append, loadBytes_append] at h
  obtain ⟨hsnap, htype, hrest⟩ := h
  rw [Vector.length_toList] at htype hrest
  refine ⟨?_, htype, hrest⟩
  simpa [loadBytes, List.range_succ] using hsnap

/-- A group address. -/
def IsMulticast (mac : MacAddr) : Prop := mac.toList.headD 0 &&& 1 ≠ 0

instance (mac : MacAddr) : Decidable (IsMulticast mac) := inferInstanceAs (Decidable (_ ≠ _))

/-- A frame from the access point passes the checks. -/
theorem ntrPacketIsForLwip_header {ap : RelayHeader} {macAddr : MacAddr} {rest : List UInt8}
    (hto : macAddr = src.destMac ∨ IsMulticast src.destMac)
    (h : loadBytes m packet
        ((ap.header env src).bytes ++ (llcSnapBytes src.etherType ++ rest)).length =
      (ap.header env src).bytes ++ (llcSnapBytes src.etherType ++ rest)) :
    ntrPacketIsForLwip macAddr.toList m packet = true := by
  obtain ⟨hfc, haddr1, -, hrest⟩ := loads_header h
  obtain ⟨⟨h0, h1, h2, h3, h4, h5⟩, -⟩ := loads_snap hrest
  have hcontrol : load16 m packet = ap.frameControl := load16_eq m packet _ ap.frameControl_lt hfc
  have haddr1 : loadBytes m (packet + 4) 6 = src.destMac.toList := haddr1
  have hfirst : m (packet + 4) = src.destMac.toList.headD 0 := by
    rw [← haddr1]
    rfl
  have htype : load16 m packet &&& (fcToDs ||| fcTypeSubtypeMask) = typeData := by
    rw [hcontrol, Nat.and_or_distrib_left, ap.notToDs, ap.isData, Nat.zero_or]
  have haddressed : (loadBytes m (packet + 4) 6 == macAddr.toList ||
      m (packet + 4) &&& 1 != 0) = true := by
    rw [haddr1, hfirst, Bool.or_eq_true, beq_iff_eq, bne_iff_ne]
    exact hto.imp (fun he => congrArg Vector.toList he.symm) id
  simp only [ntrPacketIsForLwip, htype, haddressed, h0, h1, h2, h3, h4, h5]
  decide

/-- Stored bytes are loaded together with the bytes behind them. -/
theorem loadBytes_storeBytes_append {a : Nat} {xs ys : List UInt8}
    (h : loadBytes m (a + xs.length) ys.length = ys) :
    loadBytes (m.storeBytes a xs) a (xs ++ ys).length = xs ++ ys := by
  refine loadBytes_append.mpr ⟨loadBytes_storeBytes m a xs, ?_⟩
  rw [loadBytes_congr (eqOn_storeBytes fun x hx => .inr hx.1), h]

/-- The header for lwIP. -/
def lwipHeader (env : TxEnv) (src : EthernetFrame) : EthernetFrameHeader where
  destMac := src.destMac.toList
  srcMac := env.macAddr.toList
  etherType := src.etherType.toList

/-- What is passed on for it. -/
theorem ntrSendPacketToLwip_header {ap : RelayHeader} {macAddr : MacAddr}
    (hto : macAddr = src.destMac ∨ IsMulticast src.destMac) (hlen : src.payload.length < 2 ^ 31)
    (h : loadBytes m packet
        ((ap.header env src).bytes ++ (llcSnapBytes src.etherType ++ src.payload)).length =
      (ap.header env src).bytes ++ (llcSnapBytes src.etherType ++ src.payload)) :
    ∃ b, ntrSendPacketToLwip macAddr.toList m packet
        ((ap.header env src).bytes ++ (llcSnapBytes src.etherType ++ src.payload)).length =
          some b ∧
      loadBytes (rxbufAfter m (some b)) b.buffer b.size =
        { src with srcMac := env.macAddr }.bytes := by
  have hpass := ntrPacketIsForLwip_header hto h
  obtain ⟨hfc, haddr1, haddr3, hrest⟩ := loads_header h
  obtain ⟨-, htype, hpayload⟩ := loads_snap hrest
  have hcontrol : load16 m packet = ap.frameControl := load16_eq m packet _ ap.frameControl_lt hfc
  have haddr1 : loadBytes m (packet + 4) 6 = src.destMac.toList := haddr1
  have haddr3 : loadBytes m (packet + 16) 6 = env.macAddr.toList := haddr3
  have hsize : lwipBufferSize ((ap.header env src).bytes ++
      (llcSnapBytes src.etherType ++ src.payload)).length
      (sizeofIeeeDataFrameHeader + sizeofLlcSnapHeader) = 14 + src.payload.length := by
    simp only [List.length_append, IeeeFrameHeader.length_bytes, length_llcSnapBytes,
      lwipBufferSize, sizeofIeeeDataFrameHeader, sizeofLlcSnapHeader, sizeofEthernetFrameHeader,
      u32]
    omega
  refine ⟨_, if_pos hpass, ?_⟩
  dsimp only [rxbufAfter]
  rw [hsize, if_pos (hcontrol ▸ ap.fromDs), haddr1, haddr3, htype]
  -- The new header ends where the payload starts.
  have hbuffer : packet + sizeofIeeeDataFrameHeader + sizeofLlcSnapHeader -
      sizeofEthernetFrameHeader + 14 =
        packet + sizeofIeeeDataFrameHeader + sizeofLlcSnapHeader := by
    unfold sizeofIeeeDataFrameHeader sizeofLlcSnapHeader sizeofEthernetFrameHeader
    omega
  have hheader : (lwipHeader env src).bytes.length = 14 := by
    simp [EthernetFrameHeader.bytes, lwipHeader]
  have hbehind : loadBytes m (packet + sizeofIeeeDataFrameHeader + sizeofLlcSnapHeader -
      sizeofEthernetFrameHeader + (lwipHeader env src).bytes.length) src.payload.length =
        src.payload := by
    rw [hheader, hbuffer, hpayload]
  have hload := loadBytes_storeBytes_append hbehind
  rw [List.length_append, hheader] at hload
  exact hload

/-! ## The round trip -/

/-- The length in the hardware header. -/
theorem StoredAt.txLength {w flags : Nat} {tx : TxHeader} {rest : List UInt8}
    (h : StoredAt m w flags (tx.bytes ++ rest)) (hlt : tx.txLength < 2 ^ 16) :
    load16 m (w + 4 + 10) = tx.txLength := by
  have hle : 10 + 2 ≤ (tx.bytes ++ rest).length := by
    rw [List.length_append, TxHeader.length_bytes, sizeofTxHeader]
    omega
  refine load16_eq m _ _ hlt ?_
  rw [loadBytes_slice h.2.1 hle]
  rfl

/-- **An Ethernet frame arrives as it was sent**, from the address of the sender. -/
theorem ethernet_round_trip (before : List (TxEvent false)) (env : TxEnv) (src : EthernetFrame)
    (hobject : src.payload.length < 2 ^ 31)
    (haccepted :
      (ntrTransmitFunctionLink env (run (txStep false) .init before).ring src).2 = true)
    (flags : Nat) (bytes : List UInt8)
    (hstored : (ntrTransmitFunctionLink env (run (txStep false) .init before).ring
      src).1.queued.getLast? = some (flags, bytes))
    (ap : RelayHeader) (macAddr : MacAddr)
    (hto : macAddr = src.destMac ∨ IsMulticast src.destMac)
    (m : Mem) (packet : Nat)
    (hrx : loadBytes m packet (rxLinkFrame ap env bytes).length = rxLinkFrame ap env bytes) :
    (∃ w, StoredAt (ntrTransmitFunctionLink env (run (txStep false) .init before).ring
        src).1.txbufData w wflagSendAsData bytes ∧
      load16 (ntrTransmitFunctionLink env (run (txStep false) .init before).ring
        src).1.txbufData (w + 4 + 10) = bytes.length - sizeofTxHeader) ∧
    ∃ b, ntrSendPacketToLwip macAddr.toList m packet (rxLinkFrame ap env bytes).length = some b ∧
      loadBytes (rxbufAfter m (some b)) b.buffer b.size =
        { src with srcMac := env.macAddr }.bytes := by
  obtain ⟨e, q, hring⟩ := RingFlagged.run (s := .init) .init before
  obtain ⟨w, bytes', hlen, hlaid, hat, hqueued⟩ :=
    hring.ring.laidOut (ntrLinkRequest_valid env hobject) haccepted
  rw [ntrTransmitFunctionLink, hqueued, List.getLast?_concat] at hstored
  cases hstored
  rw [rxLinkFrame_eq ap hlaid] at hrx ⊢
  refine ⟨⟨w, hat, ?_⟩, ntrSendPacketToLwip_header hto hobject hrx⟩
  obtain ⟨tx, iv, tail, htx, -, -, rfl⟩ := laidOut_link hlaid
  have hfits := hat.2.2
  unfold wifiTxBufferSize at hfits
  have hle : sizeofTxHeader ≤ (tx.bytes ++ ((linkHeader env src).bytes ++
      (iv ++ (llcSnapBytes src.etherType ++ (src.payload ++ tail))))).length := by
    rw [List.length_append, TxHeader.length_bytes]
    exact Nat.le_add_right ..
  rw [← hlen, ieeeFrameSize_eq hle (by omega)] at htx
  exact (hat.txLength (by omega)).trans htx

/-- A frame for all devices in a network with WEP. -/
def wepEnv : TxEnv :=
  { TxEnv.zero 0 with macAddr := wifiReplyMac, bssid := wifiCmdMac, wep := true }

def broadcastFrame : EthernetFrame where
  destMac := wifiBroadcastAddr
  srcMac := wifiReplyMac
  etherType := #v[8, 6]
  payload := [1, 2, 3]

/-- An access point that only sets the bits that it has to set. -/
def plainRelay : RelayHeader where
  frameControl := typeData ||| fcFromDs ||| fcProtectedFrame
  duration := 0
  seqCtl := 0
  frameControl_lt := by decide
  isData := by decide
  notToDs := by decide
  fromDs := by decide

/-- The frame as it is stored. -/
def broadcastBytes : List UInt8 :=
  (ntrTransmitFunctionLink wepEnv .init broadcastFrame).1.queued.flatMap Prod.snd

theorem ethernet_round_trip_broadcast :
    (∃ w, StoredAt (ntrTransmitFunctionLink wepEnv .init broadcastFrame).1.txbufData w
        wflagSendAsData broadcastBytes ∧
      load16 (ntrTransmitFunctionLink wepEnv .init broadcastFrame).1.txbufData (w + 4 + 10) =
        broadcastBytes.length - sizeofTxHeader) ∧
    ∃ b, ntrSendPacketToLwip macAddrZero.toList
        (Mem.storeBytes (fun _ => 0) 8 (rxLinkFrame plainRelay wepEnv broadcastBytes)) 8
        (rxLinkFrame plainRelay wepEnv broadcastBytes).length = some b ∧
      loadBytes (rxbufAfter
        (Mem.storeBytes (fun _ => 0) 8 (rxLinkFrame plainRelay wepEnv broadcastBytes)) (some b))
        b.buffer b.size = { broadcastFrame with srcMac := wepEnv.macAddr }.bytes :=
  ethernet_round_trip [] wepEnv broadcastFrame (by decide) (by decide +kernel) wflagSendAsData
    broadcastBytes (by decide +kernel) plainRelay macAddrZero (.inr (by decide)) _ 8
    (loadBytes_storeBytes _ _ _)

end Wifi
