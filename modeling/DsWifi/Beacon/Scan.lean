import DsWifi.Connect.Ntr
import DsWifi.Host.AssocRequest
import DsWifi.Infra.Elements

/-!
# What a client reads from a beacon

`Wifi_ProcessBeaconOrProbeResponse` (`source/arm7/ntr/ieee_802_11/beacon.c`). The frame is read to
the stack, one walk over its information elements collects what they say, and the access point is
added to the list unless the scan filters leave it out.

* `Ntr.processBeaconOrProbeResponse_eq` — what the function does to the list
-/

namespace Wifi

open Infra Infra.Mem

/-! ## Fields of the frames -/

/-- `MGT_FIE_ID_SSID`. -/
def mgtFieIdSsid : Nat := 0

/-- `MGT_FIE_ID_DS_PARAM_SET`. -/
def mgtFieIdDsParamSet : Nat := 3

/-- `MGT_FIE_ID_RSN`. -/
def mgtFieIdRsn : Nat := 48

/-- `MGT_FIE_ID_VENDOR`. -/
def mgtFieIdVendor : Nat := 221

/-- `RATE_5_5_MBPS`. -/
def rate5And5Mbps : Nat := 11

/-- `RATE_11_MBPS`. -/
def rate11Mbps : Nat := 22

/-- `HDR_MGT_BSSID`. -/
def hdrMgtBssid : Nat := 16

/-- Where the capabilities are, behind the timestamp and the beacon interval. -/
def capsIndex : Nat := hdrMgtMacSize + 8 + 2

/-! ## Access points -/

/-- `Wifi_NintendoVendorInfo`. -/
structure NintendoVendorInfo where
  playersMax : Nat
  playersCurrent : Nat
  allowsConnections : Nat
  gameId : Nat
  nameLen : Nat
  name : Vector Nat 10
  deriving DecidableEq, Repr

/-- The arguments of `Wifi_AccessPointAdd`. -/
structure AccessPointArgs where
  bssid : MacAddr
  sa : MacAddr
  /-- The bytes of `ssid_ptr`, if it isn't `NULL`. -/
  ssid : Option (List UInt8)
  channel : Nat
  rssi : Int
  secType : ApSecurityType
  groupCryptType : ApCryptType
  pairCryptType : ApCryptType
  authType : ApAuthType
  compatible : Bool
  nintendoInfo : Option NintendoVendorInfo
  deriving DecidableEq

/-! ## Elements -/

/-- `Wifi_IsVendorMicrosoft`. -/
def isVendorMicrosoft (data : Mem) (j len : Nat) : Bool :=
  decide (14 ≤ len) && loadBytes data j 6 == [0x00, 0x50, 0xF2, 0x01, 0x01, 0x00]

/-- `Wifi_IsVendorNintendo`. -/
def isVendorNintendo (data : Mem) (j len : Nat) : Bool :=
  decide (sizeofFieVendorNintendo ≤ len) && loadBytes data j 4 == [0x00, 0x09, 0xBF, 0x00]

/-- The loop over the cipher suites. It stands still at a suite with another magic number. -/
def cipherSuites (data : Mem) (magic : List UInt8) (last : Nat) :
    Nat → Nat → ApSecurityType → ApSecurityType
  | 0, _, secType => secType
  | numUniCiphers + 1, j, secType =>
    if j ≤ last then
      if loadBytes data j 3 = magic then
        let secType := match (data (j + 3)).toNat with
          | 2 | 3 | 4 => .wpa
          | 1 | 5 => .wep
          | _ => secType
        cipherSuites data magic last numUniCiphers (j + 4) secType
      else cipherSuites data magic last numUniCiphers j secType
    else secType

/-- The fields of the `FieVendorNintendo` at `j`. -/
def nintendoVendorInfo (data : Mem) (j : Nat) : NintendoVendorInfo where
  playersMax := (data (j + 24)).toNat
  playersCurrent := (data (j + 25)).toNat
  allowsConnections := (data (j + 26)).toNat
  gameId := 2 ^ 24 * (data (j + 12)).toNat + 2 ^ 16 * (data (j + 13)).toNat +
    2 ^ 8 * (data (j + 14)).toNat + (data (j + 15)).toNat
  nameLen := (data (j + 27)).toNat
  name := .ofFn fun i => load16 data (j + 28 + 2 * i)

/-- What the loop over the information elements has found so far. -/
structure BeaconElements where
  compatible : Bool
  secType : ApSecurityType
  /-- The index of the SSID element, or `0`. -/
  ptrSsid : Nat
  channel : Nat
  /-- `nintendo_info`, if `has_nintendo_info` is set. -/
  nintendoInfo : Option NintendoVendorInfo

namespace BeaconElements

/-- The loop over the rates. It ends at a mandatory rate that isn't supported. -/
def ratesCompatible (compatible : Bool) : List UInt8 → Bool
  | [] => compatible
  | thisrate :: rates =>
    let rate := thisrate.toNat
    if rate = rateMandatory ||| rate1Mbps ∨ rate = rateMandatory ||| rate2Mbps then
      ratesCompatible true rates
    else if rate = rateMandatory ||| rate5And5Mbps ∨ rate = rateMandatory ||| rate11Mbps then
      ratesCompatible true rates
    else if rate &&& rateMandatory ≠ 0 then false
    else ratesCompatible compatible rates

/-- `Wifi_ProcessVendorTag`. -/
def processVendorTag (data : Mem) (j len : Nat) (s : BeaconElements) : BeaconElements :=
  if isVendorMicrosoft data j len then
    { s with
      secType := cipherSuites data [0x00, 0x50, 0xF2] (j + (len - 4)) (load16 data (j + 10))
        (j + 12) s.secType }
  else if isVendorNintendo data j len then
    { s with nintendoInfo := some (nintendoVendorInfo data j) }
  else s

/-- The RSN element. -/
def processRsn (data : Mem) (j len : Nat) (s : BeaconElements) : BeaconElements :=
  if 10 ≤ len ∧ data j = 0x01 ∧ data (j + 1) = 0x00 then
    { s with
      secType := cipherSuites data [0x00, 0x0F, 0xAC] (j + len - 4) (load16 data (j + 6)) (j + 8)
        s.secType }
  else s

/-- One information element. -/
def process (data : Mem) (segtype seglen curloc : Nat) (s : BeaconElements) : BeaconElements :=
  if segtype = mgtFieIdSsid then { s with ptrSsid := curloc - 2 }
  else if segtype = mgtFieIdSupportedRates then
    { s with compatible := ratesCompatible false (loadBytes data curloc seglen) }
  else if segtype = mgtFieIdDsParamSet then { s with channel := (data curloc).toNat }
  else if segtype = mgtFieIdRsn then s.processRsn data curloc seglen
  else if segtype = mgtFieIdVendor then s.processVendorTag data curloc seglen
  else s

end BeaconElements

/-! ## The frame -/

/-- A received beacon or probe response, and what is on the stack. -/
structure ReceivedBeacon where
  /-- `packetheader->byteLength`. -/
  byteLength : Nat
  /-- `packetheader->rssi_`. -/
  rssi : Nat
  /-- What is read behind the RX header. -/
  frame : Mem
  /-- The stack from the address of `data` on, before the frame is read. -/
  stack : Mem

/-- `INT_MIN`. -/
def intMin : Int := -2 ^ 31

namespace ReceivedBeacon

variable (rx : ReceivedBeacon)

def datalen : Nat := min rx.byteLength 512

/-- `data`, and what is behind it. -/
def data : Mem := rx.stack.storeBytes 0 (loadBytes rx.frame 0 ((rx.datalen + 1) / 2 * 2))

/-- What the capabilities and the information elements say. -/
def elements (curChannel : Nat) : BeaconElements :=
  let secType := if load16 rx.data capsIndex &&& capsPrivacy ≠ 0 then .wep else .open
  walk rx.data (BeaconElements.process rx.data) rx.datalen (capsIndex + 2) {
    compatible := true
    secType
    ptrSsid := 0
    channel := curChannel
    nintendoInfo := none }

/-- The SSID, if there is an element for it. -/
def ssid (s : BeaconElements) : Option (List UInt8) :=
  if s.ptrSsid ≠ 0 then
    some (loadBytes rx.data (s.ptrSsid + 2) (rx.data (s.ptrSsid + 1)).toNat)
  else none

/-- `Wifi_ProcessBeaconOrProbeResponse`, up to the call of `Wifi_AccessPointAdd`. -/
def process (curChannel curApScanFlags : Nat) : Option AccessPointArgs :=
  let s := rx.elements curChannel
  let cryptType := if s.secType = .wep then .wep else .none
  -- Regular DS consoles aren't compatible with WPA.
  let compatible := s.compatible && s.secType != .wpa && s.secType != .wpa2
  let keep :=
    if s.nintendoInfo.isSome then decide (curApScanFlags &&& wscanListNdsHosts ≠ 0)
    else if compatible then decide (curApScanFlags &&& wscanListApCompatible ≠ 0)
    else decide (curApScanFlags &&& wscanListApIncompatible ≠ 0)
  if keep then
    some {
      bssid := macAt rx.data hdrMgtBssid
      sa := macAt rx.data hdrMgtSa
      ssid := rx.ssid s
      channel := s.channel
      rssi := if curChannel = s.channel then ((rx.rssi % 2 ^ 8 : Nat) : Int) else intMin
      secType := s.secType
      groupCryptType := cryptType
      pairCryptType := cryptType
      authType := .none
      compatible
      nintendoInfo := s.nintendoInfo }
  else none

/-- What the frame says, before the filters. -/
def info (curChannel : Nat) : BeaconInfo :=
  let s := rx.elements curChannel
  { bssid := macAt rx.data hdrMgtBssid
    ssid := rx.ssid s
    channel := s.channel
    secType := s.secType
    compatible := s.compatible
    hasNintendoInfo := s.nintendoInfo.isSome }

end ReceivedBeacon

/-- What the list keeps of the arguments. -/
def AccessPointArgs.info (args : AccessPointArgs) : BeaconInfo where
  bssid := args.bssid
  ssid := args.ssid
  channel := args.channel
  secType := args.secType
  compatible := args.compatible
  hasNintendoInfo := args.nintendoInfo.isSome

/-- **What a beacon does to the list of access points.** -/
theorem Ntr.processBeaconOrProbeResponse_eq (s : Ntr) (rx : ReceivedBeacon) (curChannel : Nat)
    (acquired : Bool) :
    s.processBeaconOrProbeResponse (rx.info curChannel) acquired =
      match rx.process curChannel s.curApScanFlags with
      | some args => { s with aplist := accessPointAdd s.wfc s.aplist args.info acquired }
      | none => s := by
  unfold Ntr.processBeaconOrProbeResponse ReceivedBeacon.process ReceivedBeacon.info
  dsimp only
  by_cases hkeep : (if (rx.elements curChannel).nintendoInfo.isSome then
      decide (s.curApScanFlags &&& wscanListNdsHosts ≠ 0)
    else if (rx.elements curChannel).compatible && (rx.elements curChannel).secType != .wpa &&
        (rx.elements curChannel).secType != .wpa2 then
      decide (s.curApScanFlags &&& wscanListApCompatible ≠ 0)
    else decide (s.curApScanFlags &&& wscanListApIncompatible ≠ 0)) = true
  · rw [if_pos hkeep, if_pos hkeep]
    rfl
  · rw [if_neg hkeep, if_neg hkeep]

end Wifi
