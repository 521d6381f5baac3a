import DsWifi.Host.AssocRequest
import DsWifi.Infra.Elements
import DsWifi.Tx.Stored

/-!
# The frame of a beacon

The bytes that `Wifi_BeaconStart` hands over, between hardware header and FCS. Three of them change
later: the channel, the number of players and whether connections are allowed. Where they are
depends on the length of the SSID.

* `beaconBytes_start` — the frame of the call
* `beaconBytes_elements` — its information elements
* `beaconBytes_set_channel` — one byte changes, the others stay
-/

namespace Wifi

open Infra Infra.Mem

/-- The bytes of a beacon that change. -/
structure BeaconFields where
  channel : UInt8
  playersCurrent : UInt8
  allowsConnections : UInt8
  deriving DecidableEq, Repr

/-- What `Wifi_BeaconStart` writes there. -/
def BeaconFields.start (env : TxEnv) : BeaconFields where
  channel := UInt8.ofNat env.reqChannel
  playersCurrent := 1
  allowsConnections := if env.reqFlags &&& wflagReqAllowclients ≠ 0 then 1 else 0

/-! ## Bytes -/

/-- The 802.11 header. -/
def beaconHeader (env : TxEnv) : IeeeFrameHeader where
  frameControl := typeBeacon
  addr1 := wifiBroadcastAddr
  addr2 := env.macAddr
  addr3 := env.macAddr

/-- Timestamp, interval and capabilities. -/
def beaconFixedBytes : List UInt8 :=
  [0, 0, 0, 0, 0, 0, 0, 0] ++ halfBytes 100 ++ halfBytes (capsEss ||| capsShortPreamble)

/-- The SSID element, which an empty SSID does not have. -/
def ssidBytes (ssid : List UInt8) : List UInt8 :=
  if 0 < ssid.length then [0, UInt8.ofNat ssid.length] ++ ssid else []

/-- The first bytes of `FieVendorNintendo`, up to `players_max`. -/
def nintendoHead (env : TxEnv) (gameId : Nat) : List UInt8 :=
  [0x00, 0x09, 0xBF, 0x00, 0, 0, 0, 0, 0, 0, 0, 0,
    UInt8.ofNat (gameId / 2 ^ 24), UInt8.ofNat (gameId / 2 ^ 16), UInt8.ofNat (gameId / 2 ^ 8),
    UInt8.ofNat gameId, 0, 0, UInt8.ofNat sizeofDswifiExtraData, 1] ++
    halfBytes env.curCmdDataSize ++ halfBytes env.curReplyDataSize ++
    [UInt8.ofNat (env.curMaxClients + 1)]

/-- The last bytes of `FieVendorNintendo`, from `name_len` on. -/
def nintendoTail (env : TxEnv) : List UInt8 :=
  UInt8.ofNat env.hostPlayerNameLen :: env.hostPlayerName.toList.flatMap halfBytes

/-- The rates element, and the start of the channel element. -/
def ratesBytes : List UInt8 := [1, 2, 0x80 ||| 4, 0x80 ||| 2] ++ [3, 1]

/-- The bytes before the channel. -/
def beaconHead (env : TxEnv) (ssid : List UInt8) : List UInt8 :=
  (beaconHeader env).bytes ++ beaconFixedBytes ++ ssidBytes ssid ++ ratesBytes

/-- The TIM element, and the start of the Nintendo element. -/
def timBytes : List UInt8 :=
  [5, 6, 0, 0, 0, 0, 0, 0] ++ [221, UInt8.ofNat sizeofFieVendorNintendo]

/-- The bytes between the channel and the number of players. -/
def beaconMid (env : TxEnv) (gameId : Nat) : List UInt8 :=
  timBytes ++ nintendoHead env gameId

/-- The frame between hardware header and FCS. -/
def beaconBytes (env : TxEnv) (ssid : List UInt8) (gameId : Nat) (b : BeaconFields) : List UInt8 :=
  beaconHead env ssid ++ b.channel :: (beaconMid env gameId ++
    b.playersCurrent :: b.allowsConnections :: nintendoTail env)

/-- Where the channel is. -/
def channelIndex (ssid : List UInt8) : Nat := 42 + (ssidBytes ssid).length

/-- Where the number of players is, and behind it whether connections are allowed. -/
def playersIndex (ssid : List UInt8) : Nat := 78 + (ssidBytes ssid).length

variable (env : TxEnv) (ssid : List UInt8) (gameId : Nat) (b : BeaconFields)

theorem length_ssidBytes_le (h : ssid.length ≤ 32) : (ssidBytes ssid).length ≤ 34 := by
  unfold ssidBytes
  split
  · simp only [List.length_append, List.length_cons, List.length_nil]
    omega
  · exact Nat.zero_le _

theorem length_beaconHead : (beaconHead env ssid).length = channelIndex ssid := by
  simp [beaconHead, beaconFixedBytes, ratesBytes, channelIndex, sizeofIeeeDataFrameHeader]
  omega

theorem length_nintendoHead : (nintendoHead env gameId).length = 25 := by
  simp [nintendoHead]

theorem length_nintendoTail : (nintendoTail env).length = 21 := by
  simp [nintendoTail, List.length_flatMap, List.map_const']

theorem length_beaconMid : (beaconMid env gameId).length = 35 := by
  simp [beaconMid, timBytes, length_nintendoHead]

/-- The length does not depend on what changes. -/
theorem length_beaconBytes :
    (beaconBytes env ssid gameId b).length = 101 + (ssidBytes ssid).length := by
  simp [beaconBytes, length_beaconHead, length_beaconMid, length_nintendoTail, channelIndex]
  omega

/-! ## The call -/

/-- The body of the frame is what `Wifi_BeaconStart` writes. -/
theorem beaconBytes_start : beaconBytes env ssid gameId (.start env) =
    (beaconHeader env).bytes ++ beaconBody env ssid gameId := by
  have hcaps : halfBytes (2 ^ 0 ||| 2 ^ 5) = halfBytes (capsEss ||| capsShortPreamble) := rfl
  rw [beaconBody, hcaps]
  simp [beaconBytes, beaconHead, beaconFixedBytes, ssidBytes, ratesBytes, beaconMid, timBytes,
    nintendoHead, nintendoTail, fieVendorNintendoBytes, dswifiExtraDataBytes, BeaconFields.start]

/-- The hardware header of the frame. -/
def beaconTxHeader (ssid : List UInt8) : TxHeader where
  txRate := wifiTransferRate2Mbps
  txLength := 101 + (ssidBytes ssid).length + 4

theorem leadBytes_beaconRequest : leadBytes (beaconRequest env ssid gameId).parts =
    (beaconTxHeader ssid).bytes ++ beaconBytes env ssid gameId (.start env) := by
  have hlen := length_beaconBytes env ssid gameId (.start env)
  rw [beaconBytes_start, List.length_append, IeeeFrameHeader.length_bytes,
    sizeofIeeeDataFrameHeader] at hlen
  have htx : sizeofTxHeader + sizeofIeeeDataFrameHeader + (beaconBody env ssid gameId).length + 4 -
      sizeofTxHeader = 101 + (ssidBytes ssid).length + 4 := by
    unfold sizeofTxHeader sizeofIeeeDataFrameHeader
    omega
  rw [beaconBytes_start, beaconRequest]
  dsimp only
  rw [htx]
  simp [leadBytes, beaconTxHeader, beaconHeader]

/-! ## Information elements -/

/-- The element with the SSID, if there is one. -/
def ssidElements (h : ssid.length ≤ 32) : List Element :=
  if 0 < ssid.length then [⟨0, ssid, by omega⟩] else []

/-- The Nintendo element. -/
def nintendoElement : Element where
  id := 221
  body := nintendoHead env gameId ++ b.playersCurrent :: b.allowsConnections :: nintendoTail env
  length_lt := by
    rw [List.length_append, List.length_cons, List.length_cons, length_nintendoHead,
      length_nintendoTail]
    decide

/-- The elements behind the SSID. -/
def fixedElements : List Element :=
  [⟨1, [0x80 ||| 4, 0x80 ||| 2], by decide⟩, ⟨3, [b.channel], Nat.one_lt_two_pow (by decide)⟩,
    ⟨5, [0, 0, 0, 0, 0, 0], by decide⟩, nintendoElement env gameId b]

theorem elementsBytes_ssidElements (h : ssid.length ≤ 32) :
    elementsBytes (ssidElements ssid h) = ssidBytes ssid := by
  unfold ssidElements ssidBytes
  split
  · simp [Element.bytes]
  · rfl

theorem length_nintendoElement : (nintendoElement env gameId b).body.length = 48 := by
  rw [nintendoElement, List.length_append, List.length_cons, List.length_cons, length_nintendoHead,
    length_nintendoTail]

/-- The frame consists of the header, the fixed fields and the elements. -/
theorem beaconBytes_elements (h : ssid.length ≤ 32) : beaconBytes env ssid gameId b =
    (beaconHeader env).bytes ++ beaconFixedBytes ++
      elementsBytes (ssidElements ssid h ++ fixedElements env gameId b) := by
  have hlen := length_nintendoElement env gameId b
  rw [elementsBytes_append, elementsBytes_ssidElements]
  simp [beaconBytes, beaconHead, ratesBytes, beaconMid, timBytes, fixedElements, Element.bytes,
    nintendoElement, length_nintendoHead, length_nintendoTail, sizeofFieVendorNintendo]

/-- Where the elements start in the frame, counted from the 802.11 header. -/
def elementsIndex : Nat := hdrMgtMacSize + 8 + 2 + 2

/-- Where the parts of a beacon are. -/
structure BeaconAt (env : TxEnv) (ssid : List UInt8) (gameId : Nat) (b : BeaconFields) (m : Mem)
    (a : Nat) : Prop where
  header : loadBytes m a (beaconHeader env).bytes.length = (beaconHeader env).bytes
  fixed : loadBytes m (a + hdrMgtMacSize) beaconFixedBytes.length = beaconFixedBytes
  ssidElement : loadBytes m (a + 36) (ssidBytes ssid).length = ssidBytes ssid
  rates : loadBytes m (a + 36 + (ssidBytes ssid).length) ratesBytes.length = ratesBytes
  channel : m (a + channelIndex ssid) = b.channel
  tim : loadBytes m (a + 43 + (ssidBytes ssid).length) timBytes.length = timBytes
  nintendo : loadBytes m (a + 53 + (ssidBytes ssid).length) (nintendoHead env gameId).length =
    nintendoHead env gameId
  playersCurrent : m (a + playersIndex ssid) = b.playersCurrent
  allowsConnections : m (a + playersIndex ssid + 1) = b.allowsConnections
  name : loadBytes m (a + playersIndex ssid + 2) (nintendoTail env).length = nintendoTail env

theorem loadBytes_cons {m : Mem} {a : Nat} {x : UInt8} {xs : List UInt8} :
    loadBytes m a (x :: xs).length = x :: xs ↔
      m a = x ∧ loadBytes m (a + 1) xs.length = xs := by
  rw [← List.singleton_append, loadBytes_append]
  simp [loadBytes]

variable {env ssid gameId b}

/-- The parts of a beacon that is in memory. -/
theorem BeaconAt.of_loadBytes {m : Mem} {a : Nat}
    (h : loadBytes m a (beaconBytes env ssid gameId b).length = beaconBytes env ssid gameId b) :
    BeaconAt env ssid gameId b m a := by
  unfold beaconBytes at h
  obtain ⟨hhead, h⟩ := loadBytes_append.mp h
  obtain ⟨hchannel, h⟩ := loadBytes_cons.mp h
  obtain ⟨hmid, h⟩ := loadBytes_append.mp h
  obtain ⟨hplayers, h⟩ := loadBytes_cons.mp h
  obtain ⟨hallows, hname⟩ := loadBytes_cons.mp h
  rw [length_beaconHead] at hchannel hmid hplayers hallows hname
  rw [length_beaconMid] at hplayers hallows hname
  unfold beaconHead at hhead
  obtain ⟨hhead, hrates⟩ := loadBytes_append.mp hhead
  obtain ⟨hhead, hssid⟩ := loadBytes_append.mp hhead
  obtain ⟨hheader, hfixed⟩ := loadBytes_append.mp hhead
  unfold beaconMid at hmid
  obtain ⟨htim, hnintendo⟩ := loadBytes_append.mp hmid
  have hstart : ((beaconHeader env).bytes ++ beaconFixedBytes).length = 36 := by
    rw [List.length_append, IeeeFrameHeader.length_bytes]
    rfl
  have hplayersAt : a + channelIndex ssid + 1 + 35 = a + playersIndex ssid := by
    unfold channelIndex playersIndex
    omega
  rw [hplayersAt] at hplayers hallows hname
  have hchannelAt : a + channelIndex ssid + 1 = a + 43 + (ssidBytes ssid).length := by
    unfold channelIndex
    omega
  rw [hchannelAt] at htim hnintendo
  rw [IeeeFrameHeader.length_bytes] at hfixed
  rw [hstart] at hssid
  rw [List.length_append, hstart, ← Nat.add_assoc] at hrates
  have hnintendoAt : a + 43 + (ssidBytes ssid).length + 10 = a + 53 + (ssidBytes ssid).length := by
    omega
  exact ⟨hheader, hfixed, hssid, hrates, hchannel, htim, hnintendoAt ▸ hnintendo, hplayers, hallows,
    hname⟩

theorem length_beaconFixed (env : TxEnv) :
    ((beaconHeader env).bytes ++ beaconFixedBytes).length = elementsIndex := by
  rw [List.length_append, IeeeFrameHeader.length_bytes]
  rfl

/-- The elements of the frame, wherever the frame is. -/
theorem loadBytes_elements {m : Mem} {a : Nat} (hssid : ssid.length ≤ 32)
    (h : loadBytes m a (beaconBytes env ssid gameId b).length = beaconBytes env ssid gameId b) :
    loadBytes m (a + elementsIndex)
        (elementsBytes (ssidElements ssid hssid ++ fixedElements env gameId b)).length =
      elementsBytes (ssidElements ssid hssid ++ fixedElements env gameId b) := by
  rw [beaconBytes_elements env ssid gameId b hssid] at h
  rw [← length_beaconFixed env]
  exact (loadBytes_append.mp h).2

theorem length_elements (hssid : ssid.length ≤ 32) :
    (beaconBytes env ssid gameId b).length = elementsIndex +
      (elementsBytes (ssidElements ssid hssid ++ fixedElements env gameId b)).length := by
  rw [beaconBytes_elements env ssid gameId b hssid, List.length_append, length_beaconFixed]

/-- Walking over the elements of a beacon. An SSID element is only there if there is an SSID. -/
theorem foldElements_beacon {σ : Type} (handle : Nat → Nat → Nat → σ → σ) (i : Nat) (t : σ)
    (hssid : ssid.length ≤ 32) :
    foldElements handle (ssidElements ssid hssid ++ fixedElements env gameId b) i t =
      let j := i + (ssidBytes ssid).length
      let t := if 0 < ssid.length then handle 0 ssid.length (i + 2) t else t
      let t := handle 3 1 (j + 6) (handle 1 2 (j + 2) t)
      handle 221 48 (j + 17) (handle 5 6 (j + 9) t) := by
  have hlen := length_nintendoElement env gameId b
  rw [foldElements_append, elementsBytes_ssidElements]
  have hfirst : foldElements handle (ssidElements ssid hssid) i t =
      if 0 < ssid.length then handle 0 ssid.length (i + 2) t else t := by
    unfold ssidElements
    split <;> rfl
  rw [hfirst]
  simp only [fixedElements, foldElements, hlen]
  rfl

/-! ## Changes -/

variable (env ssid gameId b)

theorem beaconBytes_set_channel (channel : UInt8) :
    (beaconBytes env ssid gameId b).set (channelIndex ssid) channel =
      beaconBytes env ssid gameId { b with channel } := by
  have hlen := length_beaconHead env ssid
  rw [beaconBytes, beaconBytes, ← hlen, List.set_append_right _ _ (Nat.le_refl _), Nat.sub_self,
    List.set_cons_zero]

/-- The bytes before the number of players. -/
def playersHead (channel : UInt8) : List UInt8 :=
  beaconHead env ssid ++ channel :: beaconMid env gameId

theorem length_playersHead (channel : UInt8) :
    (playersHead env ssid gameId channel).length = playersIndex ssid := by
  rw [playersHead, List.length_append, List.length_cons, length_beaconHead, length_beaconMid,
    channelIndex, playersIndex]
  omega

theorem beaconBytes_playersHead : beaconBytes env ssid gameId b =
    playersHead env ssid gameId b.channel ++
      b.playersCurrent :: b.allowsConnections :: nintendoTail env := by
  simp [beaconBytes, playersHead]

theorem beaconBytes_set_playersCurrent (playersCurrent : UInt8) :
    (beaconBytes env ssid gameId b).set (playersIndex ssid) playersCurrent =
      beaconBytes env ssid gameId { b with playersCurrent } := by
  rw [beaconBytes_playersHead, beaconBytes_playersHead,
    ← length_playersHead env ssid gameId b.channel, List.set_append_right _ _ (Nat.le_refl _),
    Nat.sub_self, List.set_cons_zero]

theorem beaconBytes_set_allowsConnections (allowsConnections : UInt8) :
    (beaconBytes env ssid gameId b).set (playersIndex ssid + 1) allowsConnections =
      beaconBytes env ssid gameId { b with allowsConnections } := by
  rw [beaconBytes_playersHead, beaconBytes_playersHead,
    ← length_playersHead env ssid gameId b.channel,
    List.set_append_right _ _ (Nat.le_add_right _ 1), Nat.add_sub_cancel_left, List.set_cons_succ,
    List.set_cons_zero]

end Wifi
