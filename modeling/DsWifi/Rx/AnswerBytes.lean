import DsWifi.Connect.Station
import DsWifi.Rx.BeaconBytes

/-!
# Authentication and association, byte by byte

`Wifi_ProcessAuthentication`, `Wifi_ProcessAssocResponse` and `Wifi_MPHost_ProcessAssocRequest`
(`source/arm7/ntr/ieee_802_11`) as programs that read `data`. What a program finds is all that the
rest of the function knows of the frame.

* `Console.assocResponse_toStation`, `Console.authentication_toNtr` and
  `Host.answerAssocRequest_eq` — what the functions do with it
-/

namespace Wifi

open Infra Infra.Mem Infra.ReadM

/-! ## Frames of a station -/

def typeAssocRequest : Nat := formManagement 0x0

def typeAuthentication : Nat := formManagement 0xB

/-- `AUTH_ALGO_OPEN_SYSTEM`. -/
def authAlgoOpenSystem : Nat := 0

/-- `AUTH_ALGO_SHARED_KEY`. -/
def authAlgoSharedKey : Nat := 1

/-- `MGT_FIE_ID_CHALLENGE_TEXT`. -/
def mgtFieIdChallengeText : Nat := 16

/-- A station, with what it sends. -/
structure Console extends Station where
  /-- `maxrate7`. -/
  maxrate7 : Nat
  /-- `W_LISTENINT`. -/
  listenint : Nat
  /-- The frames that have been passed to `Wifi_TxArm7QueueAdd`. -/
  sent : List (List UInt8)

namespace Console

/-- `Wifi_GenMgtHeader`, with the rate and the length that its callers fill in. -/
def genMgtHeader (s : Console) (random headerflags txLength : Nat) : List UInt8 :=
  let tx : TxHeader := { txRate := wifiTransferRate1Mbps, txLength }
  let ieee : IeeeFrameHeader := {
    frameControl := headerflags
    addr1 := s.curAp.bssid
    addr2 := s.macAddr
    addr3 := s.curAp.bssid }
  tx.bytes ++ ieee.bytes ++
    if headerflags &&& fcProtectedFrame ≠ 0 then wordBytes (random &&& 0x0FFF) else []

/-- The frame of `Wifi_SendOpenSystemAuthPacket` and `Wifi_SendSharedKeyAuthPacket`. -/
def authBytes (s : Console) (authAlgorithm : Nat) : List UInt8 :=
  s.genMgtHeader 0 typeAuthentication (24 + 6 + 4) ++
    halfBytes authAlgorithm ++ halfBytes 1 ++ halfBytes 0

/-- The frame of `Wifi_SendSharedKeyAuthPacket2`. -/
def challengeBytes (s : Console) (random : Nat) (challengeText : List UInt8) : List UInt8 :=
  s.genMgtHeader random (typeAuthentication ||| fcProtectedFrame)
      (24 + (4 + 6 + 2 + challengeText.length) + 4 + 4) ++
    halfBytes authAlgoSharedKey ++ halfBytes 3 ++ halfBytes 0 ++
    [UInt8.ofNat mgtFieIdChallengeText, UInt8.ofNat challengeText.length] ++ challengeText

/-- The rates that `Wifi_SendAssocPacket` claims to support. -/
def claimedRates (s : Console) : List Nat :=
  if s.realRates then [rate1Mbps ||| rateMandatory, rate2Mbps ||| rateOptional]
  else [rate1Mbps ||| rateMandatory, rate2Mbps ||| rateOptional, rate5And5Mbps ||| rateOptional,
    rate11Mbps ||| rateOptional]

/-- The frame of `Wifi_SendAssocPacket`. -/
def assocBytes (s : Console) : List UInt8 :=
  let caps := if s.curAp.securityType = .wep then capsEss ||| capsPrivacy ||| capsShortPreamble
    else capsEss ||| capsShortPreamble
  let rates := s.claimedRates
  s.genMgtHeader 0 typeAssocRequest
      (24 + (4 + (2 + s.curAp.ssid.length) + (2 + rates.length)) + 4) ++
    halfBytes caps ++ halfBytes s.listenint ++
    [UInt8.ofNat mgtFieIdSsid, UInt8.ofNat s.curAp.ssid.length] ++ s.curAp.ssid ++
    [UInt8.ofNat mgtFieIdSupportedRates, UInt8.ofNat rates.length] ++ rates.map UInt8.ofNat

/-- `Wifi_TxArm7QueueAdd`. -/
def send (s : Console) (bytes : List UInt8) : Console := { s with sent := s.sent ++ [bytes] }

end Console

/-! ## Association responses -/

/-- What `Wifi_ProcessAssocResponse` finds in a frame that is for the console. -/
inductive AssocAnswer
  | accepted (associationId rate : Nat)
  | refused

/-- A rate of 2 Mb/s. -/
def isRate2Mbps (rate : UInt8) : Bool := rate.toNat &&& rateSpeedMask == rate2Mbps

/-- The rates, if the element is there. -/
def readMaxRate : ReadM Nat := do
  let id ← byte (hdrMgtMacSize + 6)
  if id.toNat = mgtFieIdSupportedRates then do
    let numRates ← byte (hdrMgtMacSize + 7)
    let fast ← search isRate2Mbps (hdrMgtMacSize + 8) numRates.toNat
    return if fast then wifiTransferRate2Mbps else wifiTransferRate1Mbps
  else return wifiTransferRate1Mbps

/-- `Wifi_ProcessAssocResponse`. -/
def readAssocResponse (macAddr bssid : MacAddr) : ReadM (Option AssocAnswer) := do
  let da ← readMac hdrMgtDa
  if da ≠ macAddr then return none
  else do
    let frameBssid ← readMac hdrMgtBssid
    if frameBssid ≠ bssid then return none
    else do
      let statusCode ← half (hdrMgtMacSize + 2)
      if statusCode = statusSuccess then do
        let associationId ← half (hdrMgtMacSize + 4)
        let rate ← readMaxRate
        return some (.accepted associationId rate)
      else return some .refused

namespace Console

/-- What `Wifi_ProcessAssocResponse` does then. -/
def assocResponse (s : Console) : Option AssocAnswer → Console
  | none => s
  | some (.accepted associationId rate) =>
    let s := { s with
      toStation := { s.toStation.setAssociationId associationId with acceptedAid := associationId }
      maxrate7 := rate }
    if s.authlevel = .authenticated ∨ s.authlevel = .deassociated then
      { s with toNtr := s.toNtr.associate }
    else s
  | some .refused =>
    if s.realRates then
      let s := { s with realRates := false, authlevel := .disconnected }
      s.send (s.authBytes authAlgoOpenSystem)
    else { s with authlevel := .error }

/-- The rates are no concern of the model of a connection. -/
theorem assocResponse_toStation (s : Console) (m : Mem) :
    (s.assocResponse (eval m (readAssocResponse s.macAddr s.curAp.bssid))).toStation =
      s.toStation.processReceivedFrame (.assocResponse {
        da := macAt m hdrMgtDa
        bssid := macAt m hdrMgtBssid
        statusCode := load16 m (hdrMgtMacSize + 2) }) (load16 m (hdrMgtMacSize + 4)) := by
  simp only [readAssocResponse, eval_bind, eval_ite, eval_pure, eval_readMac, eval_half,
    Station.processReceivedFrame, Ntr.processReceivedFrame, Ntr.processAssocResponse,
    Station.Accepts]
  by_cases hda : macAt m hdrMgtDa = s.macAddr
  · by_cases hbssid : macAt m hdrMgtBssid = s.curAp.bssid
    · by_cases hstatus : load16 m (hdrMgtMacSize + 2) = statusSuccess
      · -- Only here the AID matters.
        have hzero : load16 m (hdrMgtMacSize + 2) = 0 := hstatus
        rw [if_neg (not_not_intro hda), if_neg (not_not_intro hbssid), if_pos hstatus,
          if_pos ⟨hda, hbssid, hzero⟩, if_neg (not_not_intro hda), if_neg (not_not_intro hbssid),
          if_pos hzero, assocResponse]
        dsimp only
        have hlevel : (s.toStation.setAssociationId (load16 m (hdrMgtMacSize + 4))).authlevel =
            s.authlevel := rfl
        rw [hlevel]
        by_cases hauth : s.authlevel = .authenticated ∨ s.authlevel = .deassociated
        · rw [if_pos hauth, if_pos hauth]
          rfl
        · rw [if_neg hauth, if_neg hauth]
      · have hzero : load16 m (hdrMgtMacSize + 2) ≠ 0 := hstatus
        rw [if_neg (not_not_intro hda), if_neg (not_not_intro hbssid), if_neg hstatus,
          if_neg (fun h => hzero h.2.2), if_neg (not_not_intro hda), if_neg (not_not_intro hbssid),
          if_neg hzero, assocResponse]
        split
        · rfl
        · rfl
    · rw [if_neg (not_not_intro hda), if_pos hbssid, if_neg (fun h => hbssid h.2.1),
        if_neg (not_not_intro hda), if_pos hbssid]
      rfl
  · rw [if_pos hda, if_neg (fun h => hda h.1), if_pos hda]
    rfl

end Console

/-! ## Authentication -/

/-- What `Wifi_ProcessAuthentication` finds in a frame that is for the console. -/
inductive AuthAnswer
  | authenticated
  | rejected
  /-- The open system isn't accepted. -/
  | trySharedKey
  | challenge (challengeText : List UInt8)

/-- The challenge text, if it is there and not too long for `Wifi_SendSharedKeyAuthPacket2`. -/
def readChallenge : ReadM (Option AuthAnswer) := do
  let id ← byte (hdrMgtMacSize + 6)
  if id.toNat = mgtFieIdChallengeText then do
    let challengeLength ← byte (hdrMgtMacSize + 7)
    if 253 < challengeLength.toNat then return none
    else do
      let challengeText ← bytes (hdrMgtMacSize + 8) challengeLength.toNat
      return some (.challenge challengeText)
  else return none

/-- The answer to an attempt with the open system. -/
def readOpenSystem : ReadM (Option AuthAnswer) := do
  let seqNumber ← half (hdrMgtMacSize + 2)
  if seqNumber = 2 then do
    let statusCode ← half (hdrMgtMacSize + 4)
    if statusCode = 0 then return some .authenticated
    else if statusCode = Ntr.statusAssocTooManyDevices then return some .rejected
    else return some .trySharedKey
  else return none

/-- The answers to an attempt with a shared key. -/
def readSharedKey : ReadM (Option AuthAnswer) := do
  let seqNumber ← half (hdrMgtMacSize + 2)
  if seqNumber = 2 then do
    let statusCode ← half (hdrMgtMacSize + 4)
    if statusCode = 0 then readChallenge else return some .rejected
  else if seqNumber = 4 then do
    let statusCode ← half (hdrMgtMacSize + 4)
    if statusCode = 0 then return some .authenticated else return some .rejected
  else return none

/-- `Wifi_ProcessAuthentication`. -/
def readAuthentication (macAddr bssid : MacAddr) : ReadM (Option AuthAnswer) := do
  let da ← readMac hdrMgtDa
  if da ≠ macAddr then return none
  else do
    let frameBssid ← readMac hdrMgtBssid
    if frameBssid ≠ bssid then return none
    else do
      let authAlgorithm ← half hdrMgtMacSize
      if authAlgorithm = authAlgoOpenSystem then readOpenSystem
      else if authAlgorithm = authAlgoSharedKey then readSharedKey
      else return none

namespace Console

/-- What `Wifi_ProcessAuthentication` does then. -/
def authentication (random : Nat) (s : Console) : Option AuthAnswer → Console
  | none => s
  | some .authenticated =>
    if s.authlevel = .disconnected then
      let s := { s with authlevel := .authenticated, authctr := 0 }
      s.send s.assocBytes
    else s
  | some .rejected => { s with authlevel := .error }
  | some .trySharedKey => s.send (s.authBytes authAlgoSharedKey)
  | some (.challenge challengeText) => s.send (s.challengeBytes random challengeText)

theorem authenticated_toNtr (s : Console) (random : Nat) :
    (s.authentication random (some .authenticated)).toNtr = s.toNtr.authenticate := by
  unfold authentication Ntr.authenticate
  dsimp only
  split <;> rfl

theorem openSystem_toNtr (s : Console) (random : Nat) (m : Mem) :
    (s.authentication random (eval m readOpenSystem)).toNtr =
      if load16 m (hdrMgtMacSize + 2) = 2 then
        if load16 m (hdrMgtMacSize + 4) = 0 then s.toNtr.authenticate
        else if load16 m (hdrMgtMacSize + 4) = Ntr.statusAssocTooManyDevices then
          { s.toNtr with authlevel := .error }
        else s.toNtr
      else s.toNtr := by
  simp only [readOpenSystem, eval_bind, eval_ite, eval_pure, eval_half]
  by_cases hseq : load16 m (hdrMgtMacSize + 2) = 2
  · rw [if_pos hseq, if_pos hseq]
    by_cases hzero : load16 m (hdrMgtMacSize + 4) = 0
    · rw [if_pos hzero, if_pos hzero]
      exact s.authenticated_toNtr random
    · rw [if_neg hzero, if_neg hzero]
      split
      · rfl
      · rfl
  · rw [if_neg hseq, if_neg hseq]
    rfl

theorem sharedKey_toNtr (s : Console) (random : Nat) (m : Mem) :
    (s.authentication random (eval m readSharedKey)).toNtr =
      if load16 m (hdrMgtMacSize + 2) = 2 then
        if load16 m (hdrMgtMacSize + 4) = 0 then s.toNtr
        else { s.toNtr with authlevel := .error }
      else if load16 m (hdrMgtMacSize + 2) = 4 then
        if load16 m (hdrMgtMacSize + 4) = 0 then s.toNtr.authenticate
        else { s.toNtr with authlevel := .error }
      else s.toNtr := by
  -- Sending the challenge back changes nothing else.
  have hchallenge : (s.authentication random (eval m readChallenge)).toNtr = s.toNtr := by
    simp only [readChallenge, eval_bind, eval_ite, eval_pure, eval_byte]
    split
    · split <;> rfl
    · rfl
  simp only [readSharedKey, eval_bind, eval_ite, eval_pure, eval_half]
  by_cases hseq : load16 m (hdrMgtMacSize + 2) = 2
  · rw [if_pos hseq, if_pos hseq]
    split
    · exact hchallenge
    · rfl
  · rw [if_neg hseq, if_neg hseq]
    by_cases hseq : load16 m (hdrMgtMacSize + 2) = 4
    · rw [if_pos hseq, if_pos hseq]
      split
      · exact s.authenticated_toNtr random
      · rfl
    · rw [if_neg hseq, if_neg hseq]
      rfl

/-- The frames that are sent are no concern of it either. -/
theorem authentication_toNtr (s : Console) (random : Nat) (m : Mem) :
    (s.authentication random (eval m (readAuthentication s.macAddr s.curAp.bssid))).toNtr =
      s.toNtr.processAuthentication {
        da := macAt m hdrMgtDa
        bssid := macAt m hdrMgtBssid
        authAlgorithm := load16 m hdrMgtMacSize
        seqNumber := load16 m (hdrMgtMacSize + 2)
        statusCode := load16 m (hdrMgtMacSize + 4) } := by
  simp only [readAuthentication, eval_bind, eval_ite, eval_pure, eval_readMac, eval_half]
  unfold Ntr.processAuthentication
  by_cases hda : macAt m hdrMgtDa = s.macAddr
  · rw [if_neg (not_not_intro hda), if_neg (not_not_intro hda)]
    by_cases hbssid : macAt m hdrMgtBssid = s.curAp.bssid
    · rw [if_neg (not_not_intro hbssid), if_neg (not_not_intro hbssid)]
      by_cases hopen : load16 m hdrMgtMacSize = authAlgoOpenSystem
      · rw [if_pos hopen]
        exact (s.openSystem_toNtr random m).trans (if_pos hopen).symm
      · rw [if_neg hopen]
        refine Eq.trans ?_ (if_neg hopen).symm
        by_cases hshared : load16 m hdrMgtMacSize = authAlgoSharedKey
        · rw [if_pos hshared]
          exact (s.sharedKey_toNtr random m).trans (if_pos hshared).symm
        · rw [if_neg hshared]
          exact (if_neg hshared).symm
    · rw [if_pos hbssid, if_pos hbssid]
      rfl
  · rw [if_pos hda, if_pos hda]
    rfl

end Console

/-! ## Association requests -/

/-- One of the two rates that a host supports. -/
def isSupportedRate (rate : UInt8) : Bool :=
  rate.toNat &&& rateSpeedMask == rate1Mbps || rate.toNat &&& rateSpeedMask == rate2Mbps

/-- The loop over the information elements, up to the first one with unsupported rates. -/
def readElementsOk (datalen i : Nat) : ReadM Bool :=
  if i < datalen then do
    let type ← byte i
    let seglen ← byte (i + 1)
    if type.toNat = mgtFieIdSupportedRates then do
      let numRates ← byte (i + 2)
      let ok ← search isSupportedRate (i + 3) numRates.toNat
      if ok then readElementsOk datalen (i + 2 + seglen.toNat) else return false
    else readElementsOk datalen (i + 2 + seglen.toNat)
  else return true
termination_by datalen - i

/-- `Wifi_MPHost_ProcessAssocRequest`: the sender, and why it is turned down. -/
def readAssocRequest (macAddr : MacAddr) (datalen : Nat) :
    ReadM (Option (MacAddr × Option Nat)) := do
  let da ← readMac hdrMgtDa
  if da ≠ macAddr then return none
  else do
    let clientMac ← readMac hdrMgtSa
    let capabilityInformation ← half hdrMgtMacSize
    if capabilityInformation &&& 0x00FF = capsEss ||| capsShortPreamble then do
      let ok ← readElementsOk datalen (sizeofTxHeader + hdrMgtMacSize + 4)
      return some (clientMac, if ok then none else some statusAssocBadRates)
    else return some (clientMac, some statusUnsupportedCapabilities)

/-- What `Wifi_MPHost_ProcessAssocRequest` does then, and the responses that it issues. -/
def Host.answerAssocRequest (s : Host) (ended ended' : Option Bool) :
    Option (MacAddr × Option Nat) → Host × List AssocResponse
  | none => (s, [])
  | some (clientMac, refusal) =>
    let (s, issued) :=
      if s.clientGetByMacAddr clientMac = none then
        s.sendAssocResponsePacket [] ended ⟨clientMac, statusAssocDenied, 0⟩
      else (s, [])
    match refusal with
    | some statusCode => s.sendAssocResponsePacket issued ended' ⟨clientMac, statusCode, 0⟩
    | none =>
      match s.clientAssociate clientMac with
      | (s, none) => s.sendAssocResponsePacket issued ended' ⟨clientMac, statusAssocDenied, 0⟩
      | (s, some aid) => s.sendAssocResponsePacket issued ended' ⟨clientMac, statusSuccess, aid⟩

theorem eval_readElementsOk (req : AssocRequest) (i : Nat) :
    eval req.data (readElementsOk req.datalen i) = req.elementsOk i := by
  have hrates (j : Nat) : ((List.range (req.data j).toNat).any fun k =>
      isSupportedRate (req.data (j + 1 + k))) = req.ratesOk j := rfl
  fun_induction readElementsOk req.datalen i with
  | case1 i hlt ih =>
    rw [AssocRequest.elementsOk, if_pos hlt]
    simp only [eval_bind, eval_byte, eval_ite, eval_pure, eval_search, hrates, ih]
    by_cases htype : (req.data i).toNat = mgtFieIdSupportedRates
    · by_cases hok : req.ratesOk (i + 2)
      · simp [htype, hok]
      · simp [htype, hok]
    · simp [htype]
  | case2 i hlt => rw [AssocRequest.elementsOk, if_neg hlt, eval_pure]

/-- The frame of a request. -/
def ReceivedMgt.assocRequest (rx : ReceivedMgt) (stack : Mem) : AssocRequest := { rx with stack }

theorem Host.answerAssocRequest_eq (s : Host) (ended ended' : Option Bool) (rx : ReceivedMgt)
    (stack : Mem) :
    s.answerAssocRequest ended ended'
        (eval (rx.buffer 128 stack) (readAssocRequest s.macAddr (rx.datalen 128))) =
      s.processAssocRequest ended ended' (rx.assocRequest stack) := by
  have hbuffer : rx.buffer 128 stack = (rx.assocRequest stack).data := rfl
  have hdatalen : rx.datalen 128 = (rx.assocRequest stack).datalen := rfl
  rw [hbuffer, hdatalen]
  generalize rx.assocRequest stack = req
  simp only [readAssocRequest, eval_bind, eval_ite, eval_pure, eval_readMac, eval_half,
    eval_readElementsOk]
  unfold Host.processAssocRequest
  by_cases hda : macAt req.data hdrMgtDa = s.macAddr
  · have hsent : req.SentTo s.macAddr := hda
    rw [if_neg (not_not_intro hda), if_neg (not_not_intro hsent)]
    unfold AssocRequest.refusal AssocRequest.capsOk
    by_cases hcaps : load16 req.data hdrMgtMacSize &&& 0x00FF = capsEss ||| capsShortPreamble
    · rw [if_pos hcaps]
      by_cases hok : req.elementsOk (sizeofTxHeader + hdrMgtMacSize + 4)
      · simp only [hcaps, hok, beq_self_eq_true]
        rfl
      · simp only [hcaps, hok, beq_self_eq_true]
        rfl
    · rw [if_neg hcaps]
      simp only [beq_eq_false_iff_ne.mpr hcaps]
      rfl
  · have hsent : ¬ req.SentTo s.macAddr := hda
    rw [if_pos hda, if_pos hsent]
    rfl

end Wifi
