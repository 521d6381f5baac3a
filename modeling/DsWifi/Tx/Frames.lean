import DsWifi.Tx.Ring

/-!
# The functions of the ARM9 that queue a frame

`Wifi_RawTxFrame`, the four `Wifi_Multiplayer*TxFrame` functions, `Wifi_BeaconStart` and
`Wifi_TransmitFunctionLink` with its NTR and TWL variants. They differ in the headers they put
before the data, in the space they leave after it, and in the type bits of the size tag.
-/

namespace Wifi

open Infra Infra.Mem

/-- The fields of `Wifi_MainStruct` that the functions read, at the time of the call. -/
structure TxEnv where
  reqFlags : Nat
  macAddr : MacAddr
  /-- `curAp.bssid`. -/
  bssid : MacAddr
  /-- Whether `curAp.security_type` is `AP_SECURITY_WEP`. -/
  wep : Bool
  /-- `clients.curClientAID`. -/
  curClientAid : Nat
  /-- The address that `Wifi_MultiplayerClientGetMacFromAID` finds. -/
  clientMac : Int → Option MacAddr
  reqChannel : Nat
  curCmdDataSize : Nat
  curReplyDataSize : Nat
  curMaxClients : Nat
  hostPlayerNameLen : Nat
  hostPlayerName : Vector Nat 10

/-- A zeroed `Wifi_MainStruct`, up to its `reqFlags`. -/
def TxEnv.zero (reqFlags : Nat) : TxEnv where
  reqFlags
  macAddr := macAddrZero
  bssid := macAddrZero
  wep := false
  curClientAid := 0
  clientMac := fun _ => none
  reqChannel := 0
  curCmdDataSize := 0
  curReplyDataSize := 0
  curMaxClients := 0
  hostPlayerNameLen := 0
  hostPlayerName := #v[0, 0, 0, 0, 0, 0, 0, 0, 0, 0]

/-- `sizeof(TxMultiplayerHostIeeeDataFrame)`. -/
def sizeofTxMultiplayerHostIeeeDataFrame : Nat := 40

/-- `sizeof(TxMultiplayerClientIeeeDataFrame)`, with the byte that pads it. -/
def sizeofTxMultiplayerClientIeeeDataFrame : Nat := 38

/-- `sizeof(TxIeeeDataFrame)`. -/
def sizeofTxIeeeDataFrame : Nat := 36

/-- `frame_size - sizeof(Wifi_TxHeader)`. -/
def ieeeFrameSize (frameSize : Nat) : Nat := u32 (frameSize + 2 ^ 32 - sizeofTxHeader)

theorem ieeeFrameSize_eq {frameSize : Nat} (h : sizeofTxHeader ≤ frameSize)
    (hlt : frameSize < 2 ^ 32) : ieeeFrameSize frameSize = frameSize - sizeofTxHeader := by
  unfold ieeeFrameSize u32
  omega

/-- The frame of `Wifi_RawTxFrame`. -/
def rawTxRequest (rate : Nat) (data : List UInt8) : TxRequest :=
  let frameSize := u32 (sizeofTxHeader + data.length + 4)
  let frame : TxHeader := { txRate := rate, txLength := ieeeFrameSize frameSize }
  { frameSize
    parts := [.copy frame.bytes, .copy data, .skip 4]
    flags := wflagSendAsData }

/-- `Wifi_RawTxFrame`. -/
def rawTxFrame (ring : TxRing) (rate : Nat) (data : List UInt8) : TxRing × Bool :=
  txEnqueue ring (rawTxRequest rate data)

/-- The frame of the four `Wifi_Multiplayer*TxFrame` functions. Behind the 802.11 header there are
`info` bytes for the ARM7 or the other consoles. -/
def multiplayerTxRequest (ieee : IeeeFrameHeader) (info data : List UInt8)
    (sizeofFrame flags : Nat) : TxRequest :=
  let frameSize := u32 (sizeofFrame + data.length + 4)
  let tx : TxHeader := { txRate := wifiTransferRate2Mbps, txLength := ieeeFrameSize frameSize }
  { frameSize
    parts := [.copy (tx.bytes ++ ieee.bytes ++ info), .copy data, .skip 4]
    flags }

/-- The body that the four `Wifi_Multiplayer*TxFrame` functions share. -/
def multiplayerTxFrame (ring : TxRing) (ieee : IeeeFrameHeader) (info data : List UInt8)
    (sizeofFrame flags : Nat) : TxRing × Bool :=
  txEnqueue ring (multiplayerTxRequest ieee info data sizeofFrame flags)

/-- `Wifi_MultiplayerHostCmdTxFrame`. -/
def multiplayerHostCmdTxFrame (env : TxEnv) (ring : TxRing) (data : List UInt8) : TxRing × Bool :=
  let ieee : IeeeFrameHeader := {
    frameControl := typeDataCfPoll ||| fcFromDs
    addr1 := wifiCmdMac
    addr2 := env.macAddr
    addr3 := env.macAddr }
  -- `client_time` and `client_bits` are filled in by the ARM7.
  multiplayerTxFrame ring ieee (halfBytes 0 ++ halfBytes 0) data
    sizeofTxMultiplayerHostIeeeDataFrame wflagSendAsCmd

/-- `Wifi_MultiplayerClientReplyTxFrame`. -/
def multiplayerClientReplyTxFrame (env : TxEnv) (ring : TxRing) (data : List UInt8) :
    TxRing × Bool :=
  let ieee : IeeeFrameHeader := {
    frameControl := typeDataCfAck ||| fcToDs
    addr1 := env.bssid
    addr2 := env.macAddr
    addr3 := wifiReplyMac }
  multiplayerTxFrame ring ieee [UInt8.ofNat env.curClientAid, 0] data
    sizeofTxMultiplayerClientIeeeDataFrame wflagSendAsReply

/-- `Wifi_MultiplayerHostToClientDataTxFrame`. -/
def multiplayerHostToClientDataTxFrame (env : TxEnv) (ring : TxRing) (aid : Int)
    (data : List UInt8) : TxRing × Bool :=
  match env.clientMac aid with
  | none => (ring, false)
  | some clientMacaddr =>
    let ieee : IeeeFrameHeader := {
      frameControl := typeData ||| fcFromDs
      addr1 := clientMacaddr
      addr2 := env.macAddr
      addr3 := env.macAddr }
    multiplayerTxFrame ring ieee [] data sizeofTxIeeeDataFrame wflagSendAsData

/-- `Wifi_MultiplayerClientToHostDataTxFrame`. -/
def multiplayerClientToHostDataTxFrame (env : TxEnv) (ring : TxRing) (data : List UInt8) :
    TxRing × Bool :=
  let ieee : IeeeFrameHeader := {
    frameControl := typeData ||| fcToDs
    addr1 := env.bssid
    addr2 := env.macAddr
    addr3 := env.bssid }
  multiplayerTxFrame ring ieee [UInt8.ofNat env.curClientAid, 0] data
    sizeofTxMultiplayerClientIeeeDataFrame wflagSendAsData

/-! ## Beacons -/

/-- `DSWifiExtraData` as `Wifi_BeaconStart` fills it in. -/
def dswifiExtraDataBytes (env : TxEnv) : List UInt8 :=
  [UInt8.ofNat (env.curMaxClients + 1), 1,
    if env.reqFlags &&& wflagReqAllowclients ≠ 0 then 1 else 0,
    UInt8.ofNat env.hostPlayerNameLen] ++
    env.hostPlayerName.toList.flatMap halfBytes

/-- `sizeof(DSWifiExtraData)`. -/
def sizeofDswifiExtraData : Nat := 24

/-- `FieVendorNintendo` as `Wifi_BeaconStart` fills it in. -/
def fieVendorNintendoBytes (env : TxEnv) (gameId : Nat) : List UInt8 :=
  [0x00, 0x09, 0xBF, 0x00, 0, 0, 0, 0, 0, 0, 0, 0,
    UInt8.ofNat (gameId / 2 ^ 24), UInt8.ofNat (gameId / 2 ^ 16), UInt8.ofNat (gameId / 2 ^ 8),
    UInt8.ofNat gameId, 0, 0, UInt8.ofNat sizeofDswifiExtraData, 1] ++
    halfBytes env.curCmdDataSize ++ halfBytes env.curReplyDataSize ++ dswifiExtraDataBytes env

/-- `sizeof(FieVendorNintendo)`. -/
def sizeofFieVendorNintendo : Nat := 48

/-- The body of the beacon: timestamp, interval, capabilities and information elements. -/
def beaconBody (env : TxEnv) (ssid : List UInt8) (gameId : Nat) : List UInt8 :=
  [0, 0, 0, 0, 0, 0, 0, 0] ++ halfBytes 100 ++ halfBytes (2 ^ 0 ||| 2 ^ 5) ++
    (if 0 < ssid.length then [0, UInt8.ofNat ssid.length] ++ ssid else []) ++
    [1, 2, 0x80 ||| 4, 0x80 ||| 2] ++ [3, 1, UInt8.ofNat env.reqChannel] ++
    [5, 6, 0, 0, 0, 0, 0, 0] ++ [221, UInt8.ofNat sizeofFieVendorNintendo] ++
    fieVendorNintendoBytes env gameId

/-- The frame of `Wifi_BeaconStart`. -/
def beaconRequest (env : TxEnv) (ssid : List UInt8) (gameId : Nat) : TxRequest :=
  let body := beaconBody env ssid gameId
  let frameSize := sizeofTxHeader + sizeofIeeeDataFrameHeader + body.length + 4
  let tx : TxHeader := {
    txRate := wifiTransferRate2Mbps
    txLength := frameSize - sizeofTxHeader }
  let ieee : IeeeFrameHeader := {
    frameControl := typeBeacon
    addr1 := wifiBroadcastAddr
    addr2 := env.macAddr
    addr3 := env.macAddr }
  { frameSize
    parts := [.copy (tx.bytes ++ ieee.bytes ++ body), .skip 4]
    flags := wflagSendAsBeacon }

/-- `Wifi_BeaconStart`. -/
def beaconStart (env : TxEnv) (ring : TxRing) (ssid : List UInt8) (gameId : Nat) : TxRing × Bool :=
  if 32 < ssid.length then (ring, false) else txEnqueue ring (beaconRequest env ssid gameId)

/-! ## Ethernet frames -/

/-- What lwIP hands over. -/
structure EthernetFrame where
  destMac : MacAddr
  srcMac : MacAddr
  etherType : Vector UInt8 2
  payload : List UInt8

/-- The frame of `Wifi_NTR_TransmitFunctionLink`. -/
def ntrLinkRequest (env : TxEnv) (src : EthernetFrame) : TxRequest :=
  let frameSize := u32 (sizeofTxHeader + sizeofIeeeDataFrameHeader + (if env.wep then 4 else 0) +
    sizeofLlcSnapHeader + src.payload.length + (if env.wep then 4 else 0) + 4)
  -- The ARM7 fills in the data transfer rate.
  let txHeader : TxHeader := { txLength := ieeeFrameSize frameSize }
  let ieee : IeeeFrameHeader := {
    frameControl := fcToDs ||| typeData ||| (if env.wep then fcProtectedFrame else 0)
    addr1 := env.bssid
    addr2 := env.macAddr
    addr3 := src.destMac }
  { frameSize
    parts := [.copy txHeader.bytes, .copy ieee.bytes, .skip (if env.wep then 4 else 0),
      .copy (llcSnapBytes src.etherType), .copy src.payload, .skip (if env.wep then 8 else 4)]
    flags := wflagSendAsData }

/-- `Wifi_NTR_TransmitFunctionLink`. -/
def ntrTransmitFunctionLink (env : TxEnv) (ring : TxRing) (src : EthernetFrame) : TxRing × Bool :=
  txEnqueue ring (ntrLinkRequest env src)

/-- `mbox_hdr_tx_data_packet`. -/
def mboxHdrTxDataPacketBytes (src : EthernetFrame) : List UInt8 :=
  let lenInHeader := src.payload.length + 6 + 2
  [0, 0] ++ src.destMac.toList ++ src.srcMac.toList ++
    [UInt8.ofNat (lenInHeader / 2 ^ 8), UInt8.ofNat lenInHeader] ++
    [0xAA, 0xAA, 0x03, 0, 0, 0] ++ src.etherType.toList

/-- The frame of `Wifi_TWL_TransmitFunctionLink`. It has no type bits. -/
def twlLinkRequest (src : EthernetFrame) : TxRequest where
  frameSize := u32 (sizeofMboxHdrTxDataPacket + src.payload.length)
  parts := [.copy (mboxHdrTxDataPacketBytes src), .copy src.payload]
  flags := 0

/-- `Wifi_TWL_TransmitFunctionLink`. -/
def twlTransmitFunctionLink (ring : TxRing) (src : EthernetFrame) : TxRing × Bool :=
  txEnqueue ring (twlLinkRequest src)

/-- `Wifi_TransmitFunctionLink`. -/
def transmitFunctionLink (env : TxEnv) (ring : TxRing) (src : EthernetFrame) : TxRing × Bool :=
  if env.reqFlags &&& wflagReqDsiMode ≠ 0 then twlTransmitFunctionLink ring src
  else ntrTransmitFunctionLink env ring src

/-! ## Calls -/

/-- A call of one of the functions. -/
inductive TxCall
  | rawTxFrame (rate : Nat) (data : List UInt8)
  | multiplayerHostCmdTxFrame (data : List UInt8)
  | multiplayerClientReplyTxFrame (data : List UInt8)
  | multiplayerHostToClientDataTxFrame (aid : Int) (data : List UInt8)
  | multiplayerClientToHostDataTxFrame (data : List UInt8)
  | beaconStart (ssid : List UInt8) (gameId : Nat)
  | transmitFunctionLink (src : EthernetFrame)

namespace TxCall

/-- Perform the call. -/
def run (env : TxEnv) (ring : TxRing) : TxCall → TxRing × Bool
  | rawTxFrame rate data => Wifi.rawTxFrame ring rate data
  | multiplayerHostCmdTxFrame data => Wifi.multiplayerHostCmdTxFrame env ring data
  | multiplayerClientReplyTxFrame data => Wifi.multiplayerClientReplyTxFrame env ring data
  | multiplayerHostToClientDataTxFrame aid data =>
    Wifi.multiplayerHostToClientDataTxFrame env ring aid data
  | multiplayerClientToHostDataTxFrame data =>
    Wifi.multiplayerClientToHostDataTxFrame env ring data
  | beaconStart ssid gameId => Wifi.beaconStart env ring ssid gameId
  | transmitFunctionLink src => Wifi.transmitFunctionLink env ring src

/-- The bytes that the caller passes. -/
def data : TxCall → List UInt8
  | rawTxFrame _ data => data
  | multiplayerHostCmdTxFrame data => data
  | multiplayerClientReplyTxFrame data => data
  | multiplayerHostToClientDataTxFrame _ data => data
  | multiplayerClientToHostDataTxFrame data => data
  | beaconStart ssid _ => ssid
  | transmitFunctionLink src => src.payload

/-- No object in C has `2 ^ 31` bytes on a 32 bit machine. -/
def IsObject (call : TxCall) : Prop := call.data.length < 2 ^ 31

instance (call : TxCall) : Decidable call.IsObject := inferInstanceAs (Decidable (_ < _))

end TxCall

/-! ## What they queue -/

/-- The bytes start with the hardware header of a frame that has not been sent yet. -/
def HasTxHeader (frameSize : Nat) (bytes : List UInt8) : Prop :=
  ∃ tx : TxHeader, tx.enableFlags = 0 ∧ tx.clientBits = 0 ∧
    tx.txLength = frameSize - sizeofTxHeader ∧ tx.bytes <+: bytes

/-- The sizes of the pieces add up to the size of the frame, a beacon fits in its buffer, and a
frame with type bits starts with a hardware header. -/
structure TxRequest.Valid (req : TxRequest) : Prop where
  size_eq : (req.parts.map TxPart.length).sum = req.frameSize
  le_size : 16 ≤ req.frameSize
  size_lt : req.frameSize < 2 ^ 31 + 2 ^ 8
  flags_mem : req.flags ∈ txFlags
  beacon_le : req.flags = wflagSendAsBeacon → req.frameSize ≤ 512
  headed : req.flags ≠ 0 →
    ∃ bytes parts, req.parts = .copy bytes :: parts ∧ HasTxHeader req.frameSize bytes

/-- The header that the functions fill in. -/
theorem TxRequest.Valid.ofTaken {req : TxRequest} (txRate : Nat) {bytes : List UInt8}
    {parts : List TxPart} (hsize : (req.parts.map TxPart.length).sum = req.frameSize)
    (hle : 16 ≤ req.frameSize) (hlt : req.frameSize < 2 ^ 31 + 2 ^ 8) (hflags : req.flags ∈ txFlags)
    (hbeacon : req.flags = wflagSendAsBeacon → req.frameSize ≤ 512)
    (hparts : req.parts = .copy bytes :: parts)
    (hbytes : TxHeader.bytes { txRate, txLength := ieeeFrameSize req.frameSize } <+: bytes) :
    req.Valid where
  size_eq := hsize
  le_size := hle
  size_lt := hlt
  flags_mem := hflags
  beacon_le := hbeacon
  headed _ := by
    have htx : sizeofTxHeader ≤ req.frameSize := by
      unfold sizeofTxHeader
      omega
    exact ⟨bytes, parts, hparts, { txRate, txLength := ieeeFrameSize req.frameSize }, rfl, rfl,
      ieeeFrameSize_eq htx (by omega), hbytes⟩

theorem length_dswifiExtraDataBytes (env : TxEnv) :
    (dswifiExtraDataBytes env).length = sizeofDswifiExtraData := by
  simp [dswifiExtraDataBytes, sizeofDswifiExtraData, List.length_flatMap, List.map_const']

theorem length_fieVendorNintendoBytes (env : TxEnv) (gameId : Nat) :
    (fieVendorNintendoBytes env gameId).length = sizeofFieVendorNintendo := by
  simp [fieVendorNintendoBytes, sizeofFieVendorNintendo, length_dswifiExtraDataBytes,
    sizeofDswifiExtraData]

/-- A beacon fits in the smaller of the two buffers that follow the TX buffer. -/
theorem length_beaconBody_le (env : TxEnv) {ssid : List UInt8} (gameId : Nat)
    (h : ssid.length ≤ 32) : (beaconBody env ssid gameId).length ≤ 111 := by
  simp only [beaconBody, List.length_append, length_fieVendorNintendoBytes,
    sizeofFieVendorNintendo, List.length_cons, List.length_nil, length_halfBytes]
  split
  · simp only [List.length_append, List.length_cons, List.length_nil]
    omega
  · simp only [List.length_nil]
    omega

theorem length_mboxHdrTxDataPacketBytes (src : EthernetFrame) :
    (mboxHdrTxDataPacketBytes src).length = sizeofMboxHdrTxDataPacket := by
  simp [mboxHdrTxDataPacketBytes, sizeofMboxHdrTxDataPacket]

theorem rawTxRequest_valid (rate : Nat) {data : List UInt8} (h : data.length < 2 ^ 31) :
    (rawTxRequest rate data).Valid := by
  have hu : u32 (12 + data.length + 4) = 12 + data.length + 4 := u32_of_lt (by omega)
  simp only [rawTxRequest, sizeofTxHeader, hu]
  refine .ofTaken rate ?_ ?_ ?_ ?_ ?_ rfl (List.prefix_refl _)
  · simp only [List.map_cons, List.map_nil, TxPart.length, List.sum_cons, List.sum_nil,
      TxHeader.length_bytes, sizeofTxHeader]
    omega
  · dsimp only; omega
  · dsimp only; omega
  · simp [txFlags]
  · exact fun hb => absurd (show wflagSendAsData = wflagSendAsBeacon from hb) (by decide)

theorem multiplayerTxRequest_valid (ieee : IeeeFrameHeader) {info data : List UInt8} (flags : Nat)
    (hle : info.length ≤ 4) (h : data.length < 2 ^ 31)
    (hflags : flags ∈ [wflagSendAsData, wflagSendAsReply, wflagSendAsCmd]) :
    (multiplayerTxRequest ieee info data (36 + info.length) flags).Valid := by
  have hu : u32 (36 + info.length + data.length + 4) = 36 + info.length + data.length + 4 :=
    u32_of_lt (by omega)
  simp only [multiplayerTxRequest, hu]
  refine .ofTaken wifiTransferRate2Mbps ?_ ?_ ?_ ?_ ?_ rfl ?_
  · simp only [List.map_cons, List.map_nil, TxPart.length, List.sum_cons, List.sum_nil,
      List.length_append, TxHeader.length_bytes, IeeeFrameHeader.length_bytes, sizeofTxHeader,
      sizeofIeeeDataFrameHeader]
    omega
  · dsimp only; omega
  · dsimp only; omega
  · exact List.Sublist.subset (by decide) hflags
  · rintro rfl
    exact absurd hflags (by decide)
  · rw [List.append_assoc]
    exact List.prefix_append _ _

theorem beaconRequest_valid (env : TxEnv) {ssid : List UInt8} (gameId : Nat)
    (h : ssid.length ≤ 32) : (beaconRequest env ssid gameId).Valid := by
  have hle := length_beaconBody_le env gameId h
  simp only [beaconRequest]
  constructor
  · simp only [List.map_cons, List.map_nil, TxPart.length, List.sum_cons, List.sum_nil,
      List.length_append, TxHeader.length_bytes, IeeeFrameHeader.length_bytes]
    omega
  · simp only [sizeofTxHeader, sizeofIeeeDataFrameHeader]; omega
  · simp only [sizeofTxHeader, sizeofIeeeDataFrameHeader]; omega
  · simp [txFlags]
  · simp only [sizeofTxHeader, sizeofIeeeDataFrameHeader]; omega
  · refine fun _ => ⟨_, _, rfl, { txRate := wifiTransferRate2Mbps, txLength := _ }, rfl, rfl, rfl,
      ?_⟩
    rw [List.append_assoc]
    exact List.prefix_append _ _

theorem ntrLinkRequest_valid (env : TxEnv) {src : EthernetFrame} (h : src.payload.length < 2 ^ 31) :
    (ntrLinkRequest env src).Valid := by
  have hu : u32 (12 + 24 + (if env.wep then 4 else 0) + 8 + src.payload.length +
      (if env.wep then 4 else 0) + 4) =
      12 + 24 + (if env.wep then 4 else 0) + 8 + src.payload.length +
      (if env.wep then 4 else 0) + 4 := u32_of_lt (by split <;> omega)
  simp only [ntrLinkRequest, sizeofTxHeader, sizeofIeeeDataFrameHeader, sizeofLlcSnapHeader, hu]
  refine .ofTaken 0 ?_ ?_ ?_ ?_ ?_ rfl (List.prefix_refl _)
  · simp only [List.map_cons, List.map_nil, TxPart.length, List.sum_cons, List.sum_nil,
      TxHeader.length_bytes, IeeeFrameHeader.length_bytes, length_llcSnapBytes, sizeofTxHeader,
      sizeofIeeeDataFrameHeader, sizeofLlcSnapHeader]
    split <;> omega
  · dsimp only; omega
  · dsimp only; split <;> omega
  · simp [txFlags]
  · exact fun hb => absurd (show wflagSendAsData = wflagSendAsBeacon from hb) (by decide)

theorem twlLinkRequest_valid {src : EthernetFrame} (h : src.payload.length < 2 ^ 31) :
    (twlLinkRequest src).Valid := by
  have hu : u32 (24 + src.payload.length) = 24 + src.payload.length := u32_of_lt (by omega)
  simp only [twlLinkRequest, sizeofMboxHdrTxDataPacket, hu]
  constructor
  · simp only [List.map_cons, List.map_nil, TxPart.length, List.sum_cons, List.sum_nil,
      length_mboxHdrTxDataPacketBytes, sizeofMboxHdrTxDataPacket]
    omega
  · dsimp only; omega
  · dsimp only; omega
  · simp [txFlags]
  · exact fun hb => absurd (show 0 = wflagSendAsBeacon from hb) (by decide)
  · exact fun hne => absurd rfl hne

namespace TxCall

/-- The type bits of the size tag. -/
def flags (env : TxEnv) : TxCall → Nat
  | rawTxFrame _ _ => wflagSendAsData
  | multiplayerHostCmdTxFrame _ => wflagSendAsCmd
  | multiplayerClientReplyTxFrame _ => wflagSendAsReply
  | multiplayerHostToClientDataTxFrame _ _ => wflagSendAsData
  | multiplayerClientToHostDataTxFrame _ => wflagSendAsData
  | beaconStart _ _ => wflagSendAsBeacon
  | transmitFunctionLink _ => if env.reqFlags &&& wflagReqDsiMode ≠ 0 then 0 else wflagSendAsData

theorem flags_mem (env : TxEnv) (call : TxCall) : call.flags env ∈ txFlags := by
  cases call with
  | transmitFunctionLink src => simp only [flags]; split <;> decide
  | _ => exact List.mem_of_elem_eq_true rfl

/-- Every call returns `-1` at once or goes through the body they share. -/
theorem run_cases (env : TxEnv) (ring : TxRing) (call : TxCall) (h : call.IsObject) :
    call.run env ring = (ring, false) ∨
    ∃ req : TxRequest, req.Valid ∧ req.flags = call.flags env ∧
      call.run env ring = txEnqueue ring req := by
  unfold IsObject at h
  cases call with
  | rawTxFrame rate data => exact .inr ⟨_, rawTxRequest_valid rate h, rfl, rfl⟩
  | multiplayerHostCmdTxFrame data =>
    exact .inr ⟨_, multiplayerTxRequest_valid _ wflagSendAsCmd (by decide) h (by decide), rfl, rfl⟩
  | multiplayerClientReplyTxFrame data =>
    exact .inr ⟨_, multiplayerTxRequest_valid _ wflagSendAsReply (by simp) h (by decide), rfl, rfl⟩
  | multiplayerHostToClientDataTxFrame aid data =>
    cases hmac : env.clientMac aid with
    | none =>
      left
      simp only [run, Wifi.multiplayerHostToClientDataTxFrame, hmac]
    | some mac =>
      right
      simp only [run, Wifi.multiplayerHostToClientDataTxFrame, hmac]
      exact ⟨_, multiplayerTxRequest_valid _ wflagSendAsData (by decide) h (by decide), rfl, rfl⟩
  | multiplayerClientToHostDataTxFrame data =>
    exact .inr ⟨_, multiplayerTxRequest_valid _ wflagSendAsData (by simp) h (by decide), rfl, rfl⟩
  | beaconStart ssid gameId =>
    simp only [run, Wifi.beaconStart]
    split
    · exact .inl rfl
    · exact .inr ⟨_, beaconRequest_valid env gameId (by omega), rfl, rfl⟩
  | transmitFunctionLink src =>
    right
    simp only [run, Wifi.transmitFunctionLink, flags]
    split
    · exact ⟨_, twlLinkRequest_valid h, rfl, rfl⟩
    · exact ⟨_, ntrLinkRequest_valid env h, rfl, rfl⟩

end TxCall

end Wifi
