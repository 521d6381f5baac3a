import DsWifi.Beacon.Scan
import DsWifi.Infra.Reads

/-!
# Beacons, byte by byte

`Wifi_ProcessBeaconOrProbeResponse` (`source/arm7/ntr/ieee_802_11/beacon.c`) as a program that reads
`data`, in the order and as far as the source does.

* `Ntr.addBeacon_eq` — the program does to the list what the model of the function does
-/

namespace Wifi

open Infra Infra.Mem Infra.ReadM

/-! ## The frame on the stack -/

/-- A received frame. -/
structure ReceivedMgt where
  /-- `packetheader->byteLength`. -/
  byteLength : Nat
  /-- `packetheader->rssi_`. -/
  rssi : Nat
  /-- What is read behind the RX header. -/
  frame : Mem

namespace ReceivedMgt

variable (rx : ReceivedMgt)

/-- `datalen`, for a buffer of this size. -/
def datalen (size : Nat) : Nat := min rx.byteLength size

/-- `data`, and what is behind it, once the frame has been read over what was on the stack. -/
def buffer (size : Nat) (stack : Mem) : Mem :=
  stack.storeBytes 0 (loadBytes rx.frame 0 ((rx.datalen size + 1) / 2 * 2))

end ReceivedMgt

/-- A MAC address. -/
def readMac (i : Nat) : ReadM MacAddr := do
  let mac ← bytes i 6
  return .ofFn fun k => mac.getD k.val 0

theorem eval_readMac (m : Mem) (i : Nat) : eval m (readMac i) = macAt m i := by
  refine Vector.ext fun k hk => ?_
  simp [readMac, macAt, loadBytes]

/-! ## Beacons and probe responses -/

/-- The loop over the cipher suites. -/
def readCipherSuites (magic : List UInt8) (last : Nat) :
    Nat → Nat → ApSecurityType → ReadM ApSecurityType
  | 0, _, secType => return secType
  | numUniCiphers + 1, j, secType =>
    if j ≤ last then do
      let known ← matchBytes j magic
      if known then do
        let suite ← byte (j + 3)
        let secType := match suite.toNat with
          | 2 | 3 | 4 => .wpa
          | 1 | 5 => .wep
          | _ => secType
        readCipherSuites magic last numUniCiphers (j + 4) secType
      else readCipherSuites magic last numUniCiphers j secType
    else return secType

/-- The bytes of a Microsoft element that are compared. -/
def microsoftMagic : List UInt8 := [0x00, 0x50, 0xF2, 0x01, 0x01, 0x00]

/-- The bytes of a Nintendo element that are compared. -/
def nintendoMagic : List UInt8 := [0x00, 0x09, 0xBF, 0x00]

/-- `Wifi_IsVendorMicrosoft`. -/
def readIsVendorMicrosoft (j len : Nat) : ReadM Bool :=
  if 14 ≤ len then matchBytes j microsoftMagic else return false

/-- `Wifi_IsVendorNintendo`. -/
def readIsVendorNintendo (j len : Nat) : ReadM Bool :=
  if sizeofFieVendorNintendo ≤ len then matchBytes j nintendoMagic else return false

/-- The fields of the `FieVendorNintendo` at `j`. -/
def readNintendoVendorInfo (j : Nat) : ReadM NintendoVendorInfo := do
  let gameId ← bytes (j + 12) 4
  let extraData ← bytes (j + 24) 4
  let name ← bytes (j + 28) 20
  let at4 (bs : List UInt8) (k : Nat) : Nat := (bs.getD k 0).toNat
  return {
    playersMax := at4 extraData 0
    playersCurrent := at4 extraData 1
    allowsConnections := at4 extraData 2
    gameId := 2 ^ 24 * at4 gameId 0 + 2 ^ 16 * at4 gameId 1 + 2 ^ 8 * at4 gameId 2 + at4 gameId 3
    nameLen := at4 extraData 3
    name := .ofFn fun i => at4 name (2 * i.val) + 2 ^ 8 * at4 name (2 * i.val + 1) }

namespace BeaconElements

/-- `Wifi_ProcessVendorTag`. -/
def readVendorTag (j len : Nat) (s : BeaconElements) : ReadM BeaconElements := do
  let microsoft ← readIsVendorMicrosoft j len
  if microsoft then do
    let numUniCiphers ← half (j + 10)
    let secType ← readCipherSuites [0x00, 0x50, 0xF2] (j + (len - 4)) numUniCiphers (j + 12)
      s.secType
    return { s with secType }
  else do
    let nintendo ← readIsVendorNintendo j len
    if nintendo then do
      let info ← readNintendoVendorInfo j
      return { s with nintendoInfo := some info }
    else return s

/-- The RSN element. -/
def readRsn (j len : Nat) (s : BeaconElements) : ReadM BeaconElements :=
  if 10 ≤ len then do
    let version1 ← matchBytes j [0x01, 0x00]
    if version1 then do
      let numUniCiphers ← half (j + 6)
      let secType ← readCipherSuites [0x00, 0x0F, 0xAC] (j + len - 4) numUniCiphers (j + 8)
        s.secType
      return { s with secType }
    else return s
  else return s

/-- The loop over the rates. -/
def readRates (i : Nat) : Nat → Bool → ReadM Bool
  | 0, compatible => return compatible
  | k + 1, compatible => do
    let thisrate ← byte i
    let rate := thisrate.toNat
    if rate = rateMandatory ||| rate1Mbps ∨ rate = rateMandatory ||| rate2Mbps then
      readRates (i + 1) k true
    else if rate = rateMandatory ||| rate5And5Mbps ∨ rate = rateMandatory ||| rate11Mbps then
      readRates (i + 1) k true
    else if rate &&& rateMandatory ≠ 0 then return false
    else readRates (i + 1) k compatible

/-- One information element. -/
def read (segtype seglen curloc : Nat) (s : BeaconElements) : ReadM BeaconElements :=
  if segtype = mgtFieIdSsid then return { s with ptrSsid := curloc - 2 }
  else if segtype = mgtFieIdSupportedRates then do
    let compatible ← readRates curloc seglen false
    return { s with compatible }
  else if segtype = mgtFieIdDsParamSet then do
    let channel ← byte curloc
    return { s with channel := channel.toNat }
  else if segtype = mgtFieIdRsn then s.readRsn curloc seglen
  else if segtype = mgtFieIdVendor then s.readVendorTag curloc seglen
  else return s

/-- Regular DS consoles aren't compatible with WPA. -/
def isCompatible (s : BeaconElements) : Bool :=
  s.compatible && s.secType != .wpa && s.secType != .wpa2

/-- The filters. -/
def keep (s : BeaconElements) (curApScanFlags : Nat) : Bool :=
  if s.nintendoInfo.isSome then decide (curApScanFlags &&& wscanListNdsHosts ≠ 0)
  else if s.isCompatible then decide (curApScanFlags &&& wscanListApCompatible ≠ 0)
  else decide (curApScanFlags &&& wscanListApIncompatible ≠ 0)

/-- The arguments of `Wifi_AccessPointAdd`. -/
def args (s : BeaconElements) (curChannel rssi : Nat) (bssid sa : MacAddr)
    (ssid : Option (List UInt8)) : AccessPointArgs where
  bssid
  sa
  ssid
  channel := s.channel
  rssi := if curChannel = s.channel then ((rssi % 2 ^ 8 : Nat) : Int) else intMin
  secType := s.secType
  groupCryptType := if s.secType = .wep then .wep else .none
  pairCryptType := if s.secType = .wep then .wep else .none
  authType := .none
  compatible := s.isCompatible
  nintendoInfo := s.nintendoInfo

end BeaconElements

namespace ReceivedMgt

/-- The capabilities and the information elements. -/
def readElements (rx : ReceivedMgt) (curChannel : Nat) : ReadM BeaconElements := do
  let caps ← half capsIndex
  ReadM.walk BeaconElements.read (rx.datalen 512) (capsIndex + 2) {
    compatible := true
    secType := if caps &&& capsPrivacy ≠ 0 then .wep else .open
    ptrSsid := 0
    channel := curChannel
    nintendoInfo := none }

/-- The SSID. `Wifi_AccessPointAdd` reads at most 32 bytes of it, and none if it stores nothing. -/
def readSsid (ptrSsid : Nat) (acquired : Bool) : ReadM (Option (List UInt8)) :=
  if ptrSsid ≠ 0 then do
    let ssidLen ← byte (ptrSsid + 1)
    let ssid ← bytes (ptrSsid + 2) (if acquired then min ssidLen.toNat 32 else 0)
    return some ssid
  else return none

/-- `Wifi_ProcessBeaconOrProbeResponse`, with what `Wifi_AccessPointAdd` reads. -/
def readBeacon (rx : ReceivedMgt) (curChannel curApScanFlags : Nat) (acquired : Bool) :
    ReadM (Option AccessPointArgs) := do
  let s ← rx.readElements curChannel
  if s.keep curApScanFlags then do
    let ssid ← readSsid s.ptrSsid acquired
    let bssid ← readMac hdrMgtBssid
    -- The random seed takes a seventh byte of the BSSID.
    let _ ← byte (hdrMgtBssid + 6)
    let sa ← readMac hdrMgtSa
    return some (s.args curChannel rx.rssi bssid sa ssid)
  else return none

end ReceivedMgt

/-- What a beacon does to the list of access points. -/
def Ntr.addBeacon (s : Ntr) (acquired : Bool) : Option AccessPointArgs → Ntr
  | none => s
  | some args => { s with aplist := accessPointAdd s.wfc s.aplist args.info acquired }

section

variable {m : Mem}

theorem eval_readCipherSuites {magic : List UInt8} (hmagic : magic.length = 3) (last k j : Nat)
    (secType : ApSecurityType) : eval m (readCipherSuites magic last k j secType) =
      cipherSuites m magic last k j secType := by
  induction k generalizing j secType with
  | zero => rfl
  | succ k ih =>
    simp only [readCipherSuites, eval_ite, eval_bind, eval_matchBytes, eval_byte, eval_pure, ih,
      hmagic, beq_iff_eq]
    rfl

theorem eval_readIsVendorMicrosoft (j len : Nat) :
    eval m (readIsVendorMicrosoft j len) = isVendorMicrosoft m j len := by
  simp only [readIsVendorMicrosoft, isVendorMicrosoft, eval_ite, eval_matchBytes, eval_pure]
  by_cases hlen : 14 ≤ len
  · rw [if_pos hlen, decide_eq_true hlen, Bool.true_and]
    rfl
  · rw [if_neg hlen, decide_eq_false hlen, Bool.false_and]

theorem eval_readIsVendorNintendo (j len : Nat) :
    eval m (readIsVendorNintendo j len) = isVendorNintendo m j len := by
  simp only [readIsVendorNintendo, isVendorNintendo, eval_ite, eval_matchBytes, eval_pure]
  by_cases hlen : sizeofFieVendorNintendo ≤ len
  · rw [if_pos hlen, decide_eq_true hlen, Bool.true_and]
    rfl
  · rw [if_neg hlen, decide_eq_false hlen, Bool.false_and]

theorem eval_readNintendoVendorInfo (j : Nat) :
    eval m (readNintendoVendorInfo j) = nintendoVendorInfo m j := by
  have hget {a k n : Nat} (hk : k < n) : (loadBytes m a n).getD k 0 = m (a + k) := by
    rw [List.getD_eq_getElem?_getD, getElem?_loadBytes hk, Option.getD_some]
  have hname (i : Fin 10) : ((loadBytes m (j + 28) 20).getD (2 * i.val) 0).toNat +
      2 ^ 8 * ((loadBytes m (j + 28) 20).getD (2 * i.val + 1) 0).toNat =
        load16 m (j + 28 + 2 * i.val) := by
    have hi := i.isLt
    rw [hget (by omega), hget (by omega)]
    rfl
  simp only [readNintendoVendorInfo, nintendoVendorInfo, eval_bind, eval_bytes, eval_pure, hname]
  rfl

namespace BeaconElements

theorem eval_readVendorTag (j len : Nat) (s : BeaconElements) :
    eval m (readVendorTag j len s) = processVendorTag m j len s := by
  simp only [readVendorTag, processVendorTag, eval_bind, eval_ite, eval_pure, eval_half,
    eval_readIsVendorMicrosoft, eval_readIsVendorNintendo, eval_readNintendoVendorInfo,
    eval_readCipherSuites (show ([0x00, 0x50, 0xF2] : List UInt8).length = 3 from rfl)]

theorem eval_readRsn (j len : Nat) (s : BeaconElements) :
    eval m (readRsn j len s) = processRsn m j len s := by
  have hversion : (loadBytes m j 2 == [0x01, 0x00]) = true ↔ m j = 0x01 ∧ m (j + 1) = 0x00 := by
    simp [loadBytes, List.range_succ]
  simp only [readRsn, processRsn, eval_bind, eval_ite, eval_pure, eval_half, eval_matchBytes,
    List.length_cons, List.length_nil, hversion,
    eval_readCipherSuites (show ([0x00, 0x0F, 0xAC] : List UInt8).length = 3 from rfl), ← ite_and]

theorem eval_readRates (i k : Nat) (compatible : Bool) :
    eval m (readRates i k compatible) = ratesCompatible compatible (loadBytes m i k) := by
  induction k generalizing i compatible with
  | zero => rfl
  | succ k ih =>
    simp only [readRates, Mem.loadBytes_cons, ratesCompatible, eval_bind, eval_byte, eval_ite,
      eval_pure, ih]

theorem eval_read (segtype seglen curloc : Nat) (s : BeaconElements) :
    eval m (read segtype seglen curloc s) = process m segtype seglen curloc s := by
  simp only [read, process, eval_ite, eval_bind, eval_pure, eval_byte, eval_readRates,
    eval_readRsn, eval_readVendorTag]

end BeaconElements

/-- Only the first 32 bytes of an SSID are stored. -/
theorem accessPointAdd_ssid (wfc : List WfcConfig) (aplist : ApList) (info : BeaconInfo)
    {acquired : Bool} {ssid : Option (List UInt8)}
    (h : acquired = true → ssid.map (List.take 32) = info.ssid.map (List.take 32)) :
    accessPointAdd wfc aplist { info with ssid } acquired =
      accessPointAdd wfc aplist info acquired := by
  cases acquired with
  | false => rfl
  | true =>
    have hentry (inAplist : Bool) (ap : AccessPoint) :
        updateEntry wfc { info with ssid } inAplist ap = updateEntry wfc info inAplist ap := by
      -- `updateEntry` takes 32 bytes of the SSID, and keeps the old one if there is none.
      obtain ⟨bssid, stored, channel, secType, compatible, hasNintendoInfo⟩ := info
      have htake := h rfl
      cases ssid with
      | none =>
        cases stored with
        | none => rfl
        | some stored => cases htake
      | some ssid =>
        cases stored with
        | none => cases htake
        | some stored =>
          have htake : ssid.take 32 = stored.take 32 := Option.some.inj htake
          simp only [updateEntry, htake, Option.isSome_some]
    unfold accessPointAdd
    simp only [hentry]

/-- The same frame, and what was on the stack. -/
def ReceivedMgt.beacon (rx : ReceivedMgt) (stack : Mem) : ReceivedBeacon :=
  { rx with stack }

theorem ReceivedMgt.eval_readElements (rx : ReceivedMgt) (stack : Mem) (curChannel : Nat) :
    eval (rx.buffer 512 stack) (rx.readElements curChannel) =
      (rx.beacon stack).elements curChannel := by
  simp only [readElements, eval_bind, eval_half, eval_walk, BeaconElements.eval_read]
  rfl

theorem ReceivedBeacon.process_eq (rx : ReceivedBeacon) (curChannel curApScanFlags : Nat) :
    rx.process curChannel curApScanFlags =
      if (rx.elements curChannel).keep curApScanFlags then
        some ((rx.elements curChannel).args curChannel rx.rssi (macAt rx.data hdrMgtBssid)
          (macAt rx.data hdrMgtSa) (rx.ssid (rx.elements curChannel)))
      else none := rfl

/-- What is read of an SSID, as far as it is stored. -/
theorem ReceivedMgt.eval_readSsid (rx : ReceivedMgt) (stack : Mem) (s : BeaconElements)
    {acquired : Bool} (h : acquired = true) :
    (eval (rx.buffer 512 stack) (readSsid s.ptrSsid acquired)).map (List.take 32) =
      ((rx.beacon stack).ssid s).map (List.take 32) := by
  simp only [readSsid, ReceivedBeacon.ssid, eval_ite, eval_bind, eval_byte, eval_bytes, eval_pure]
  have htake (a len : Nat) : (loadBytes (rx.buffer 512 stack) a (min len 32)).take 32 =
      (loadBytes (rx.buffer 512 stack) a len).take 32 := by
    by_cases hlen : len ≤ 32
    · rw [Nat.min_eq_left hlen]
    · rw [Nat.min_eq_right (by omega), take_loadBytes _ _ (Nat.le_refl 32),
        take_loadBytes _ _ (by omega)]
  rw [if_pos h]
  split
  · exact congrArg some (htake _ _)
  · rfl

/-- **The list after a beacon.** -/
theorem Ntr.addBeacon_eq (s : Ntr) (rx : ReceivedMgt) (stack : Mem) (acquired : Bool) :
    s.addBeacon acquired
        (eval (rx.buffer 512 stack) (rx.readBeacon s.curChannel s.curApScanFlags acquired)) =
      s.processBeaconOrProbeResponse ((rx.beacon stack).info s.curChannel) acquired := by
  rw [Ntr.processBeaconOrProbeResponse_eq, ReceivedBeacon.process_eq]
  simp only [ReceivedMgt.readBeacon, eval_bind, eval_ite, eval_pure, rx.eval_readElements,
    eval_readMac]
  split
  · refine congrArg (fun aplist => { s with aplist }) ?_
    exact accessPointAdd_ssid s.wfc s.aplist (((rx.beacon stack).elements s.curChannel).args
      s.curChannel rx.rssi (macAt (rx.beacon stack).data hdrMgtBssid)
      (macAt (rx.beacon stack).data hdrMgtSa)
      ((rx.beacon stack).ssid ((rx.beacon stack).elements s.curChannel))).info
      (rx.eval_readSsid stack _)
  · rfl

end

end Wifi
