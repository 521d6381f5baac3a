import DsWifi.Connect.Arm9

/-!
# Connecting on the ARM7 (TWL)

`Wifi_TWL_Update` (`source/arm7/twl/update.twl.c`) and the messages of the card that it waits for
(`source/arm7/twl/ath/wmi.twl.c`). The card connects on its own; the driver only keeps a few flags.

The packets that are sent to the card are left out. `wpa_calc_pmk` takes seconds and lets interrupts
in, so the call of `wmi_connect` that needs it is split in two, with other events between them.
-/

namespace Wifi

/-- What is observed of the current attempt to connect, the one of the latest `wmi_connect`. -/
structure TwlMonitor where
  /-- `WMI_CONNECT_EVENT` has come since, and no `WMI_DISCONNECT_EVENT` after it. -/
  connectedSince : Bool
  /-- The handshake flag has been set since. -/
  handshakeSince : Bool
  /-- The security type of `curAp` at the call. -/
  securityType : ApSecurityType

/-- Both CPUs in DSi mode. -/
structure Twl extends Arm9 where
  /-- `wifi_card_bInitted`. The interrupt of the card is enabled along with it. -/
  cardInitted : Bool
  /-- `wmi_bIsReady`. -/
  wmiIsReady : Bool
  /-- `wmi_is_scanning`. -/
  wmiIsScanning : Bool
  /-- `device_num_channels`. -/
  deviceNumChannels : Nat
  /-- `ap_connected`. -/
  apConnected : Bool
  /-- `ap_connecting`. -/
  apConnecting : Bool
  /-- `has_sent_hs4`. -/
  hasSentHs4 : Bool
  /-- The number of calls of `wmi_connect` that are in `wpa_calc_pmk`. -/
  calculating : Nat
  monitor : TwlMonitor

def Twl.init (main : MainStruct) : Twl where
  toArm9 := .init main
  cardInitted := false
  wmiIsReady := false
  wmiIsScanning := false
  deviceNumChannels := 0
  apConnected := false
  apConnecting := false
  hasSentHs4 := false
  calculating := 0
  monitor := { connectedSince := false, handshakeSince := false, securityType := .open }

namespace Twl

/-! ## The flags of the driver -/

/-- `wmi_init`. -/
def wmiInit (s : Twl) : Twl :=
  { s with
    wmiIsReady := false
    wmiIsScanning := false
    apConnected := false
    apConnecting := false }

/-- `wmi_is_ap_connected`. -/
def wmiIsApConnected (s : Twl) : Bool :=
  if s.curAp.securityType = .wpa2 then s.apConnected && s.hasSentHs4 else s.apConnected

/-- `wmi_is_ap_connecting`. -/
def wmiIsApConnecting (s : Twl) : Bool :=
  if s.curAp.securityType = .wpa2 then s.apConnecting || (s.apConnected && !s.hasSentHs4)
  else s.apConnecting

/-- `wmi_disconnect_cmd`. -/
def wmiDisconnectCmd (s : Twl) : Twl := { s with apConnecting := false }

/-- `wmi_connect`, up to `wpa_calc_pmk` if the key isn't there yet. Also whether it has returned. -/
def wmiConnect (s : Twl) : Twl × Bool :=
  let s := { s with monitor :=
    { connectedSince := false, handshakeSince := false, securityType := s.curAp.securityType } }
  if s.apConnecting then (s, true)
  else
    let s := { s with apConnecting := true }
    if s.curAp.securityType = .wpa2 then
      if s.curApSecurity.pmk.any (· != 0) then ({ s with hasSentHs4 := false }, true)
      else ({ s with calculating := s.calculating + 1 }, false)
    else (s, true)

/-- The rest of `wmi_connect`, from the end of `wpa_calc_pmk`. -/
def wmiConnectResume (pmk : List UInt8) (s : Twl) : Twl :=
  { s with
    curApSecurity := { s.curApSecurity with pmk }
    calculating := s.calculating - 1
    hasSentHs4 := false }

/-- What `wmi_scan_mode_tick` reads from `channel_freqs`, and what `wifi_card_wlan_init` arrives at.
-/
structure CardEnv where
  mhz : Nat
  initted : Bool

/-- `wmi_scan_mode_tick`. -/
def wmiScanModeTick (env : CardEnv) (s : Twl) : Twl :=
  if s.deviceNumChannels = 0 then s
  else if s.wmiIsScanning then s
  else
    let dsiMode := decide (s.reqFlags &&& wflagReqDsiMode ≠ 0)
    { s with
      aplist := accessPointTick dsiMode s.aplist
      wmiIsScanning := env.mhz != 0 }

/-! ## Messages of the card -/

/-- `data_handle_auth`. The third message of the handshake and a new group key end it. -/
def dataHandleAuth (keyinfo : Nat) (s : Twl) : Twl :=
  if keyinfo = 0x008A then s
  else if keyinfo = 0x13CA ∨ keyinfo = 0x1382 then
    { s with hasSentHs4 := true, monitor := { s.monitor with handshakeSince := true } }
  else s

/-- A message of the card that changes something here. -/
inductive CardMessage
  | readyEvent (macAddr : MacAddr)
  | regDomainEvent
  | getChannelListResp (numEntries : Nat)
  | scanCompleteEvent
  /-- The signal is good enough, and the information elements have been read. -/
  | bssInfoEvent (info : BeaconInfo) (acquired : Bool)
  | connectEvent
  | disconnectEvent
  | targetErrorReportEvent (errId : Nat)
  /-- A data packet of type `0x888E`. -/
  | eapol (keyinfo : Nat)

/-- `wmi_handle_pkt` and `data_handle_pkt`. -/
def handlePkt (s : Twl) : CardMessage → Twl
  | .readyEvent macAddr => { s with macAddr }
  | .regDomainEvent => { s with wmiIsReady := true }
  | .getChannelListResp numEntries => { s with deviceNumChannels := numEntries }
  | .scanCompleteEvent => { s with wmiIsScanning := false }
  | .bssInfoEvent info acquired =>
    let info := { info with compatible := true, hasNintendoInfo := false }
    { s with aplist := accessPointAdd s.wfc s.aplist info acquired }
  | .connectEvent =>
    { s with
      apConnected := true
      apConnecting := false
      monitor := { s.monitor with connectedSince := true } }
  | .disconnectEvent =>
    { s with
      apConnected := false
      apConnecting := false
      monitor := { s.monitor with connectedSince := false } }
  | .targetErrorReportEvent errId => if errId = 0x8 then s.wmiDisconnectCmd else s
  | .eapol keyinfo => s.dataHandleAuth keyinfo

/-! ## The update -/

/-- `Wifi_TWL_Start`. -/
def start (env : CardEnv) (s : Twl) : Twl := { s with cardInitted := env.initted }.wmiInit

/-- `Wifi_TWL_Stop`. -/
def stop (s : Twl) : Twl := { s with cardInitted := false }

/-- The end of the case `WIFIMODE_NORMAL` for a request to connect. -/
def updateNormalConnect (s : Twl) : Twl :=
  match s.wmiConnect with
  | (s, true) => { s with curMode := .connecting }
  | (s, false) => s

/-- The case `WIFIMODE_NORMAL`. -/
def updateNormal (s : Twl) : Twl :=
  match s.reqMode with
  | .disabled => { s.stop with curMode := .disabled }
  | .scan => { s with aplist := accessPointClearAll s.aplist, curMode := .scan }
  | .connected =>
    if s.reqFlags &&& wflagReqLoadWfcKey ≠ 0 then
      match getWfcAccessPointIndex s.wfc s.curAp.ssid with
      | none => { s with curMode := .cannotConnect }
      | some index =>
        let security := (s.wfc[index]?.map WfcConfig.security).getD .zero
        { s with curApSecurity := security }.updateNormalConnect
    else s.updateNormalConnect
  | _ => s

/-- The case `WIFIMODE_CONNECTING`. -/
def updateConnecting (s : Twl) : Twl :=
  if s.wmiIsApConnected then { s with curMode := .connected }
  else if !s.wmiIsApConnecting then { s.wmiDisconnectCmd with curMode := .cannotConnect }
  else if s.reqMode ≠ .connected then { s.wmiDisconnectCmd with curMode := .disconnecting }
  else s

/-- The case `WIFIMODE_CONNECTED`. -/
def updateConnected (s : Twl) : Twl :=
  if s.reqMode = .connected then
    if !s.wmiIsApConnected then { s.wmiDisconnectCmd with curMode := .cannotConnect } else s
  else { s.wmiDisconnectCmd with curMode := .disconnecting }

/-- `Wifi_TWL_Update`, without the queue. -/
def update (env : CardEnv) (s : Twl) : Twl :=
  match s.curMode with
  | .disabled =>
    if s.reqMode ≠ .disabled then { s.start env with curMode := .initializing } else s
  | .initializing =>
    -- `wifi_card_initted`
    if s.cardInitted && s.wmiIsReady then { s with curMode := .normal } else s
  | .normal => s.updateNormal
  | .scan => if s.reqMode ≠ .scan then { s with curMode := .normal } else s.wmiScanModeTick env
  | .connecting => s.updateConnecting
  | .connected => s.updateConnected
  | .disconnecting => if !s.wmiIsApConnected then { s with curMode := .normal } else s
  | .cannotConnect => if s.reqMode ≠ .connected then { s with curMode := .normal } else s
  -- `libndsCrash`
  | .accessPoint => s

end Twl

/-! ## Runs -/

/-- What can happen. Updates are also possible while the key of an earlier one is calculated. -/
inductive TwlEvent
  /-- The ARM9 calls one of its functions. -/
  | call (call : ApiCall)
  /-- The ARM9 calls `Wifi_AssocStatus`. -/
  | assocStatus (env : LwipEnv)
  /-- The ARM9 changes its request in any other way. -/
  | write (reqMode : WifiMode) (reqFlags : Nat) (curAp : AccessPoint) (curApSecurity : ApSecurity)
  /-- `Wifi_TWL_Update`. -/
  | update (env : Twl.CardEnv)
  /-- `wpa_calc_pmk` returns, and then the update that has called it. -/
  | pmkCalculated (pmk : List UInt8)
  /-- The interrupt of the card. -/
  | receive (message : Twl.CardMessage)

def twlStep (s : Twl) : TwlEvent → Twl
  | .call call => { s with toArm9 := call.run s.toArm9 }
  | .assocStatus env => { s with toArm9 := (s.toArm9.assocStatus env).1 }
  | .write reqMode reqFlags curAp curApSecurity =>
    { s with reqMode, reqFlags, curAp, curApSecurity }
  | .update env => s.update env
  | .pmkCalculated pmk =>
    if s.calculating = 0 then s else { s.wmiConnectResume pmk with curMode := .connecting }
  | .receive message => if s.cardInitted then s.handlePkt message else s

end Wifi
