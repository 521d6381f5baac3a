import DsWifi.Connect.Arm9

/-!
# Connecting on the ARM7 (NTR)

`Wifi_NTR_Update` (`source/arm7/ntr/update.c`) and the received management frames that it waits for
(`source/arm7/ntr/ieee_802_11`). A frame only moves `authlevel`; the update turns that into
`curMode`.

What a beacon says is taken as read from its information elements, and the frames that the console
sends itself are left out.
-/

namespace Wifi

/-- What is observed of the connect requests. -/
structure AssocMonitor where
  /-- The request that `Wifi_AssociationStart` has been run for last. -/
  startedFor : Option Nat
  /-- The request, and the access point, with which the console has been associated last. -/
  associated : Option (Nat × MacAddr)
  /-- The request that has led to `WIFIMODE_CANNOTCONNECT` last. -/
  failedFor : Option Nat

/-- Both CPUs in NTR mode. -/
structure Ntr extends Arm9 where
  /-- `wifi_scan_index`. -/
  wifiScanIndex : Nat
  monitor : AssocMonitor

def Ntr.init (main : MainStruct) : Ntr where
  toArm9 := .init main
  wifiScanIndex := 0
  monitor := { startedFor := none, associated := none, failedFor := none }

/-- `WIFI_MAX_ASSOC_RETRY`. -/
def wifiMaxAssocRetry : Nat := 5

/-- The order in which channels are scanned. -/
def scanlist : List Nat := [1, 6, 11, 7, 13, 2, 3, 4, 5, 8, 9, 10, 12]

namespace Ntr

/-! ## Association -/

/-- `Wifi_AssociationStart`. -/
def associationStart (s : Ntr) : Ntr :=
  { s with
    authctr := 0
    authlevel := .disconnected
    monitor := { s.monitor with startedFor := some s.requests } }

/-- `Wifi_AssociationUpdate`. -/
def associationUpdate (s : Ntr) : Ntr :=
  let s := { s with authctr := (s.authctr + 1) % 2 ^ 8 }
  if wifiMaxAssocRetry < s.authctr then { s with authlevel := .error }
  else
    match s.authlevel with
    | .deassociated | .authenticated => { s with realRates := true, authlevel := .disconnected }
    | .disconnected | .associated | .error => s

/-- The console gets associated to the access point in `curAp`. -/
def associate (s : Ntr) : Ntr :=
  { s with
    authlevel := .associated
    authctr := 0
    monitor := { s.monitor with associated := s.monitor.startedFor.map (·, s.curAp.bssid) } }

/-! ## Received frames -/

/-- `Wifi_ProcessBeaconOrProbeResponse`, from the filters on. -/
def processBeaconOrProbeResponse (s : Ntr) (info : BeaconInfo) (acquired : Bool) : Ntr :=
  -- Regular DS consoles aren't compatible with WPA.
  let compatible := info.compatible && info.secType != .wpa && info.secType != .wpa2
  let keep :=
    if info.hasNintendoInfo then decide (s.curApScanFlags &&& wscanListNdsHosts ≠ 0)
    else if compatible then decide (s.curApScanFlags &&& wscanListApCompatible ≠ 0)
    else decide (s.curApScanFlags &&& wscanListApIncompatible ≠ 0)
  if keep then
    { s with aplist := accessPointAdd s.wfc s.aplist { info with compatible } acquired }
  else s

/-- What `Wifi_ProcessAuthentication` reads from a frame. -/
structure AuthenticationFrame where
  da : MacAddr
  bssid : MacAddr
  authAlgorithm : Nat
  seqNumber : Nat
  statusCode : Nat

/-- `STATUS_ASSOC_TOO_MANY_DEVICES`. -/
def statusAssocTooManyDevices : Nat := 17

/-- The answer to an authentication that has succeeded. -/
def authenticate (s : Ntr) : Ntr :=
  if s.authlevel = .disconnected then { s with authlevel := .authenticated, authctr := 0 } else s

/-- `Wifi_ProcessAuthentication`. -/
def processAuthentication (s : Ntr) (frame : AuthenticationFrame) : Ntr :=
  if frame.da ≠ s.macAddr then s
  else if frame.bssid ≠ s.curAp.bssid then s
  else if frame.authAlgorithm = 0 then
    if frame.seqNumber = 2 then
      if frame.statusCode = 0 then s.authenticate
      else if frame.statusCode = statusAssocTooManyDevices then { s with authlevel := .error }
      -- Try a shared key.
      else s
    else s
  else if frame.authAlgorithm = 1 then
    if frame.seqNumber = 2 then
      -- Send the challenge back.
      if frame.statusCode = 0 then s else { s with authlevel := .error }
    else if frame.seqNumber = 4 then
      if frame.statusCode = 0 then s.authenticate else { s with authlevel := .error }
    else s
  else s

/-- What `Wifi_ProcessDeauthentication` reads from a frame. -/
structure DeauthenticationFrame where
  /-- Whether the frame has its full size. -/
  complete : Bool
  da : MacAddr
  bssid : MacAddr
  reasonCode : Nat

/-- `REASON_THIS_STATION_LEFT_DEAUTH`. -/
def reasonThisStationLeftDeauth : Nat := 3

/-- `REASON_CANT_HANDLE_ALL_STATIONS`. -/
def reasonCantHandleAllStations : Nat := 5

/-- `REASON_THIS_STATION_LEFT_DISASSOC`. -/
def reasonThisStationLeftDisassoc : Nat := 8

/-- `Wifi_ProcessDeauthentication`. -/
def processDeauthentication (s : Ntr) (frame : DeauthenticationFrame) : Ntr :=
  if !frame.complete then s
  else if frame.da ≠ s.macAddr ∧ frame.da ≠ wifiBroadcastAddr then s
  else if frame.bssid ≠ s.curAp.bssid then s
  else if frame.reasonCode = reasonThisStationLeftDeauth ∨
      frame.reasonCode = reasonThisStationLeftDisassoc ∨
      frame.reasonCode = reasonCantHandleAllStations then
    { s with authlevel := .error }
  else { s with authlevel := .disconnected }

/-- What `Wifi_ProcessAssocResponse` reads from a frame. -/
structure AssocResponseFrame where
  da : MacAddr
  bssid : MacAddr
  statusCode : Nat

/-- `Wifi_ProcessAssocResponse`. -/
def processAssocResponse (s : Ntr) (frame : AssocResponseFrame) : Ntr :=
  if frame.da ≠ s.macAddr then s
  else if frame.bssid ≠ s.curAp.bssid then s
  else if frame.statusCode = 0 then
    if s.authlevel = .authenticated ∨ s.authlevel = .deassociated then s.associate else s
  else if s.realRates then { s with realRates := false, authlevel := .disconnected }
  else { s with authlevel := .error }

/-- A received frame that concerns the connection. -/
inductive ReceivedFrame
  | beacon (info : BeaconInfo) (acquired : Bool)
  | authentication (frame : AuthenticationFrame)
  | deauthentication (frame : DeauthenticationFrame)
  | assocResponse (frame : AssocResponseFrame)

/-- `Wifi_ProcessReceivedFrame`. A host passes some frames to the functions for its clients. -/
def processReceivedFrame (s : Ntr) : ReceivedFrame → Ntr
  | .beacon info acquired => s.processBeaconOrProbeResponse info acquired
  | .authentication frame =>
    if s.curMode = .accessPoint then s else s.processAuthentication frame
  | .deauthentication frame =>
    if s.curMode = .accessPoint then s else s.processDeauthentication frame
  | .assocResponse frame => s.processAssocResponse frame

/-! ## The update -/

/-- `Wifi_SetChannel` of the ARM7. -/
def setChannel (s : Ntr) (channel : Nat) : Ntr :=
  if channel < 1 ∨ 13 < channel then s else { s with curChannel := channel }

/-- The counts of `W_US_COUNT1` since `counter7`. -/
def elapsed (s : Ntr) (usCount1 : Nat) : Nat := u32 (usCount1 + 2 ^ 32 - s.counter7)

/-- Back to `WIFIMODE_NORMAL`. -/
def backToNormal (s : Ntr) : Ntr := { s with curMode := .normal }

/-- `WIFIMODE_CANNOTCONNECT`, because of the given request. -/
def cannotConnect (s : Ntr) (request : Option Nat) : Ntr :=
  { s with curMode := .cannotConnect, monitor := { s.monitor with failedFor := request } }

/-- The case `WIFIMODE_NORMAL`, for the request to connect. -/
def updateNormalConnect (usCount1 : Nat) (s : Ntr) : Ntr :=
  let start (s : Ntr) : Ntr :=
    { s with realRates := true, reqChannel := s.curAp.channel }.setChannel s.curAp.channel
  let connecting (s : Ntr) : Ntr :=
    { s with counter7 := usCount1, curMode := .connecting }.associationStart
  -- `curReplyDataSize` is for multiplayer clients.
  let latch (s : Ntr) : Ntr :=
    if s.curLibraryMode = .multiplayerClient then { s with curReplyDataSize := s.reqReplyDataSize }
    else s
  if s.reqFlags &&& wflagReqLoadWfcKey ≠ 0 then
    match getWfcAccessPointIndex s.wfc s.curAp.ssid with
    | none => s.cannotConnect (some s.requests)
    | some index =>
      let security := (s.wfc[index]?.map WfcConfig.security).getD .zero
      connecting (start (latch { s with curApSecurity := security }))
  else connecting (start (latch s))

/-- The case `WIFIMODE_NORMAL`. -/
def updateNormal (usCount1 : Nat) (s : Ntr) : Ntr :=
  let s := { s with curLibraryMode := s.reqLibraryMode }
  match s.reqMode with
  | .disabled => { s with curMode := .disabled }
  | .accessPoint =>
    { s with
      curMaxClients := s.reqMaxClients
      curCmdDataSize := s.reqCmdDataSize
      curReplyDataSize := s.reqReplyDataSize
      curMode := .accessPoint }
  | .scan =>
    { s with
      curApScanFlags := s.reqApScanFlags
      aplist := accessPointClearAll s.aplist
      counter7 := usCount1
      curMode := .scan
      wifiScanIndex := 0 }
  | .connected => s.updateNormalConnect usCount1
  | _ => s

/-- The case `WIFIMODE_SCAN`. -/
def updateScan (usCount1 : Nat) (s : Ntr) : Ntr :=
  if s.reqMode ≠ .scan ∨ s.curLibraryMode ≠ s.reqLibraryMode then s.backToNormal
  else if 1 < s.elapsed usCount1 then
    let reqChannel := scanlist.getD s.wifiScanIndex 0
    let s := { s with counter7 := usCount1, reqChannel }.setChannel reqChannel
    let dsiMode := decide (s.reqFlags &&& wflagReqDsiMode ≠ 0)
    { s with
      aplist := accessPointTick dsiMode s.aplist
      wifiScanIndex := if s.wifiScanIndex + 1 = scanlist.length then 0 else s.wifiScanIndex + 1 }
  else s

/-- The case `WIFIMODE_CONNECTING`. -/
def updateConnecting (usCount1 : Nat) (s : Ntr) : Ntr :=
  if s.curLibraryMode ≠ s.reqLibraryMode then s.backToNormal
  else if s.reqMode ≠ .connected then s.backToNormal
  else if s.authlevel = .associated then { s with curMode := .connected }
  else if s.authlevel = .error then s.cannotConnect s.monitor.startedFor
  else if 20 < s.elapsed usCount1 then { s with counter7 := usCount1 }.associationUpdate
  else s

/-- The case `WIFIMODE_CONNECTED`. -/
def updateConnected (s : Ntr) : Ntr :=
  if s.curLibraryMode ≠ s.reqLibraryMode then s.backToNormal
  else if s.reqMode ≠ .connected then s.backToNormal
  else if s.authlevel = .error then s.cannotConnect s.monitor.startedFor
  else s

/-- The case `WIFIMODE_CANNOTCONNECT`. -/
def updateCannotConnect (s : Ntr) : Ntr :=
  if s.curLibraryMode ≠ s.reqLibraryMode then s.backToNormal
  else if s.reqMode ≠ .connected then s.backToNormal
  else s

/-- The case `WIFIMODE_ACCESSPOINT`, without the clients. -/
def updateAccessPoint (s : Ntr) : Ntr :=
  if s.reqMode ≠ .accessPoint ∨ s.curLibraryMode ≠ s.reqLibraryMode then s.backToNormal else s

/-- The `switch` of `Wifi_NTR_Update`. -/
def updateMode (usCount1 : Nat) (s : Ntr) : Ntr :=
  match s.curMode with
  | .disabled => if s.reqMode ≠ .disabled then s.backToNormal else s
  | .normal => s.updateNormal usCount1
  | .scan => s.updateScan usCount1
  | .connecting => s.updateConnecting usCount1
  | .connected => s.updateConnected
  | .cannotConnect => s.updateCannotConnect
  | .accessPoint => s.updateAccessPoint
  -- `libndsCrash`. These two are modes of the DSi driver.
  | .disconnecting | .initializing => s

/-- `Wifi_NTR_Update`, without the queues. -/
def update (usCount1 : Nat) (s : Ntr) : Ntr :=
  let s := s.updateMode usCount1
  if s.curMode ≠ .scan ∧ s.curChannel ≠ s.reqChannel then s.setChannel s.reqChannel else s

theorem setChannel_eq (s : Ntr) (channel : Nat) :
    ∃ channel', s.setChannel channel = { s with curChannel := channel' } := by
  unfold setChannel
  split
  · exact ⟨s.curChannel, rfl⟩
  · exact ⟨channel, rfl⟩

/-- Behind the `switch`, only the channel changes. -/
theorem update_eq (s : Ntr) (usCount1 : Nat) :
    ∃ channel, s.update usCount1 = { s.updateMode usCount1 with curChannel := channel } := by
  unfold update
  dsimp only
  split
  · exact setChannel_eq ..
  · exact ⟨(s.updateMode usCount1).curChannel, rfl⟩

/-! The cases of the `switch`. -/

section

variable {s : Ntr} (usCount1 : Nat)

theorem updateMode_of_disabled (h : s.curMode = .disabled) :
    s.updateMode usCount1 = if s.reqMode ≠ .disabled then s.backToNormal else s := by
  unfold updateMode
  rw [h]

theorem updateMode_of_normal (h : s.curMode = .normal) :
    s.updateMode usCount1 = s.updateNormal usCount1 := by
  unfold updateMode
  rw [h]

theorem updateMode_of_connecting (h : s.curMode = .connecting) :
    s.updateMode usCount1 = s.updateConnecting usCount1 := by
  unfold updateMode
  rw [h]

theorem updateMode_of_connected (h : s.curMode = .connected) :
    s.updateMode usCount1 = s.updateConnected := by
  unfold updateMode
  rw [h]

end

end Ntr

/-! ## Runs -/

/-- What can happen. -/
inductive NtrEvent
  /-- The ARM9 calls one of its functions. -/
  | call (call : ApiCall)
  /-- The ARM9 calls `Wifi_AssocStatus`. -/
  | assocStatus (env : LwipEnv)
  /-- `Wifi_NTR_Update`, at this reading of `W_US_COUNT1`. -/
  | update (usCount1 : Nat)
  /-- A frame is received. -/
  | receive (frame : Ntr.ReceivedFrame)

def ntrStep (s : Ntr) : NtrEvent → Ntr
  | .call call => { s with toArm9 := call.run s.toArm9 }
  | .assocStatus env => { s with toArm9 := (s.toArm9.assocStatus env).1 }
  | .update usCount1 => s.update usCount1
  | .receive frame => s.processReceivedFrame frame

end Wifi
