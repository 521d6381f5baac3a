import DsWifi.Connect.AccessPoint

/-!
# Connecting on the ARM9

The part of `Wifi_MainStruct` that both CPUs use to connect, and the functions of the ARM9 that work
on it (`source/arm9/access_point.c` and `ipc.c`). The ARM9 writes `reqMode` and `curAp`, the ARM7
answers in `curMode`, and `Wifi_AssocStatus` drives a state machine of the ARM9 alone.
-/

namespace Wifi

/-- `enum WIFI_MODE`. -/
inductive WifiMode
  | disabled
  | initializing
  | normal
  | scan
  | connecting
  | connected
  | disconnecting
  | cannotConnect
  | accessPoint
  deriving DecidableEq, Repr

/-- `DSWifi_Mode`. -/
inductive LibraryMode
  | internet
  | multiplayerClient
  | multiplayerHost
  deriving DecidableEq, Repr

/-- `enum WIFI_AUTHLEVEL`. -/
inductive AuthLevel
  | disconnected
  | authenticated
  | associated
  | deassociated
  | error
  deriving DecidableEq, Repr

/-- What `Wifi_AssocStatus` returns. -/
inductive AssocStatus
  | disconnected
  | searching
  | authenticating
  | associating
  | acquiringDhcp
  | associated
  | cannotConnect
  deriving DecidableEq, Repr

/-- `WIFI_CONNECT_STATE`. -/
inductive ConnectState
  | error
  | searching
  | associating
  | dhcping
  | done
  | searchingWfc
  deriving DecidableEq, Repr

/-- `Wifi_MainStruct`. -/
structure MainStruct where
  curMode : WifiMode
  reqMode : WifiMode
  curChannel : Nat
  reqChannel : Nat
  authlevel : AuthLevel
  authctr : Nat
  reqFlags : Nat
  counter7 : Nat
  macAddr : MacAddr
  curLibraryMode : LibraryMode
  reqLibraryMode : LibraryMode
  curAp : AccessPoint
  curApSecurity : ApSecurity
  realRates : Bool
  aplist : ApList
  curApScanFlags : Nat
  reqApScanFlags : Nat
  wfc : List WfcConfig
  curMaxClients : Nat
  reqMaxClients : Nat
  curCmdDataSize : Nat
  reqCmdDataSize : Nat
  curReplyDataSize : Nat
  reqReplyDataSize : Nat

/-- The struct after `Wifi_InitIPC` and the initialization of the ARM7. -/
def MainStruct.init (reqFlags : Nat) (reqLibraryMode : LibraryMode) (macAddr : MacAddr)
    (wfc : List WfcConfig) : MainStruct where
  curMode := .disabled
  reqMode := .disabled
  curChannel := 1
  reqChannel := 1
  authlevel := .disconnected
  authctr := 0
  reqFlags
  counter7 := 0
  macAddr
  curLibraryMode := .internet
  reqLibraryMode
  curAp := .zero
  curApSecurity := .zero
  realRates := false
  aplist := .replicate wifiMaxAp .zero
  curApScanFlags := 0
  reqApScanFlags := 0
  wfc
  curMaxClients := 0
  reqMaxClients := 0
  curCmdDataSize := 0
  reqCmdDataSize := 0
  curReplyDataSize := 0
  reqReplyDataSize := 0

/-- What the ARM9 sees. -/
structure Arm9 extends MainStruct where
  /-- `wifi_connect_state`. -/
  connectState : ConnectState
  /-- `wifi_connect_point`. -/
  connectPoint : AccessPoint
  /-- The number of connect requests so far. -/
  requests : Nat

def Arm9.init (main : MainStruct) : Arm9 where
  toMainStruct := main
  connectState := .searching
  connectPoint := .zero
  requests := 0

/-- What `Wifi_AssocStatus` learns from lwIP. -/
structure LwipEnv where
  /-- `wifi_lwip_enabled`, in a build with lwIP. -/
  enabled : Bool
  usingDhcp : Bool
  /-- `wifi_get_ip`. -/
  ip : Nat
  /-- `wifi_get_dns(0)`. -/
  dns : Nat
  /-- `wifi_get_ip6`. -/
  hasIp6 : Bool

/-- An address has been assigned. -/
def LwipEnv.ready (env : LwipEnv) : Bool := env.ip != 0 && env.dns != 0 || env.hasIp6

def wscanListApCompatible : Nat := 0x1

def wscanListApIncompatible : Nat := 0x2

def wscanListApAll : Nat := 0x3

def wscanListNdsHosts : Nat := 0x4

/-- `Wifi_WepKeySizeFromMode`. -/
def wepKeySizeFromMode (wepmode : Int) : Nat :=
  if wepmode = 1 ∨ wepmode = 5 then 5
  else if wepmode = 2 ∨ wepmode = 6 then 13
  else if wepmode = 3 ∨ wepmode = 7 then 16
  else 0

namespace Arm9

/-! ## Modes -/

/-- `Wifi_DisableWifi`. -/
def disableWifi (s : Arm9) : Arm9 := { s with reqMode := .disabled }

/-- `Wifi_EnableWifi`. -/
def enableWifi (s : Arm9) : Arm9 := { s with reqMode := .normal }

/-- `Wifi_ScanModeFilter`. -/
def scanModeFilter (s : Arm9) (flags : Nat) : Arm9 :=
  { s with reqApScanFlags := flags, reqMode := .scan }

/-- `Wifi_ScanMode`. -/
def scanMode (s : Arm9) : Arm9 :=
  match s.curLibraryMode with
  | .multiplayerClient => s.scanModeFilter wscanListNdsHosts
  | .internet => s.scanModeFilter wscanListApAll
  | .multiplayerHost => s

/-- `Wifi_IdleMode`. -/
def idleMode (s : Arm9) : Arm9 := { s with reqMode := .normal }

/-- `Wifi_InternetMode`. -/
def internetMode (env : LwipEnv) (s : Arm9) : Arm9 :=
  if env.enabled then { s with reqLibraryMode := .internet, reqMode := .normal } else s

/-- `MAC_CLIENT_RX_SIZE`. -/
def macClientRxSize : Nat := 0x100

/-- `Wifi_MultiplayerClientMode`. -/
def multiplayerClientMode (s : Arm9) (clientPacketSize : Nat) : Arm9 × Bool :=
  let clientSize := u32 (24 + 1 + clientPacketSize + 4)
  if macClientRxSize < clientSize then (s, false)
  else
    ({ s with
      reqLibraryMode := .multiplayerClient
      reqMode := .normal
      reqReplyDataSize := clientSize }, true)

/-- `Wifi_MultiplayerHostMode`. -/
def multiplayerHostMode (s : Arm9) (maxClients : Int) (hostPacketSize clientPacketSize : Nat) :
    Arm9 × Bool :=
  let maxClients := if 15 < maxClients then 15 else maxClients
  let maxClients := if maxClients < 1 then 1 else maxClients
  let hostSize := u32 (24 + 2 + 2 + hostPacketSize + 4)
  let clientSize := u32 (24 + 1 + clientPacketSize + 4)
  if macClientRxSize < clientSize then (s, false)
  else
    ({ s with
      reqLibraryMode := .multiplayerHost
      reqMaxClients := maxClients.toNat
      reqCmdDataSize := u16 hostSize
      reqReplyDataSize := clientSize
      reqMode := .accessPoint
      reqFlags := s.reqFlags ||| wflagReqAllowclients }, true)

/-- `Wifi_MultiplayerAllowNewClients`. -/
def multiplayerAllowNewClients (s : Arm9) (allow : Bool) : Arm9 :=
  { s with reqFlags :=
      if allow then s.reqFlags ||| wflagReqAllowclients
      else s.reqFlags &&& (0xFFFF ^^^ wflagReqAllowclients) }

/-- `Wifi_SetChannel`. -/
def setChannel (s : Arm9) (channel : Int) : Arm9 :=
  if channel < 1 ∨ 13 < channel then s else { s with reqChannel := channel.toNat }

/-- What `Wifi_BeaconStart` does to `curAp`. -/
def beaconStartSsid (s : Arm9) (ssid : List UInt8) : Arm9 :=
  if 32 < ssid.length then s else { s with curAp := { s.curAp with ssid } }

/-! ## Connect requests -/

/-- `Wifi_DisconnectAP`. -/
def disconnectAp (s : Arm9) : Arm9 := { s with reqMode := .normal, connectState := .error }

/-- The end of the connect functions: look for the access point. -/
def search (s : Arm9) (apdata : AccessPoint) (curApSecurity : ApSecurity) (reqFlags : Nat) : Arm9 :=
  { s.disconnectAp with
    connectState := .searching
    curApSecurity
    reqFlags
    connectPoint := apdata
    requests := s.requests + 1 }.scanMode

/-- `Wifi_ConnectSecureAP`. -/
def connectSecureAp (s : Arm9) (apdata : Option AccessPoint) (key : Option (List UInt8))
    (keyLen : Nat) : Arm9 × Bool :=
  let s := { s with connectState := .error }
  match apdata with
  | none => (s, false)
  | some apdata =>
    if 32 < apdata.ssid.length then (s, false)
    else if key = none ∧ 0 < keyLen then (s, false)
    else if 64 < keyLen then (s, false)
    else
      let security := { ApSecurity.zero with pass := (key.getD []).take keyLen }
      (s.search apdata security (s.reqFlags &&& (0xFFFF ^^^ wflagReqLoadWfcKey)), true)

/-- `Wifi_ConnectWfcAP`. -/
def connectWfcAp (s : Arm9) (apdata : Option AccessPoint) : Arm9 × Bool :=
  let s := { s with connectState := .error }
  match apdata with
  | none => (s, false)
  | some apdata =>
    if 32 < apdata.ssid.length then (s, false)
    else (s.search apdata .zero (s.reqFlags ||| wflagReqLoadWfcKey), true)

/-- `Wifi_ConnectAP`. -/
def connectAp (s : Arm9) (apdata : Option AccessPoint) (wepmode : Int)
    (wepkey : Option (List UInt8)) : Arm9 × Bool :=
  let s := { s with connectState := .error }
  if wepmode < 0 ∨ 2 < wepmode then (s, false)
  else s.connectSecureAp apdata wepkey (wepKeySizeFromMode wepmode)

/-- `Wifi_ConnectOpenAP`. -/
def connectOpenAp (s : Arm9) (apdata : Option AccessPoint) : Arm9 × Bool :=
  s.connectSecureAp apdata none 0

/-- `Wifi_AutoConnect`. -/
def autoConnect (env : LwipEnv) (s : Arm9) : Arm9 :=
  let s := s.internetMode env
  if s.wfc.length = 0 then { s with connectState := .error }
  else { s with connectState := .searchingWfc, requests := s.requests + 1 }.scanMode

/-! ## The state of the connection -/

/-- The case `WIFI_CONNECT_SEARCHING` of `Wifi_AssocStatus`. -/
def assocStatusSearching (s : Arm9) : Arm9 × AssocStatus :=
  match findMatchingAp s.aplist [s.connectPoint] with
  | some (_, found) =>
    -- Use the information that the ARM7 has found, not the one provided by the user.
    ({ s with curAp := found, reqMode := .connected, connectState := .associating }, .searching)
  | none => (s, .searching)

/-- The case `WIFI_CONNECT_SEARCHING_WFC` of `Wifi_AssocStatus`. -/
def assocStatusSearchingWfc (s : Arm9) : Arm9 × AssocStatus :=
  match findMatchingApFromWfc s.wfc s.aplist with
  | some (n, found) =>
    ({ s with
      curAp := found
      curApSecurity := (s.wfc[n]?.map WfcConfig.security).getD .zero
      reqMode := .connected
      connectState := .associating }, .searching)
  | none => (s, .searching)

/-- The case `WIFI_CONNECT_ASSOCIATING` of `Wifi_AssocStatus`. -/
def assocStatusAssociating (env : LwipEnv) (s : Arm9) : Arm9 × AssocStatus :=
  match s.curMode with
  | .connecting => (s, .associating)
  | .connected =>
    if env.enabled ∧ s.curLibraryMode = .internet ∧ env.usingDhcp then
      ({ s with connectState := .dhcping }, .acquiringDhcp)
    else ({ s with connectState := .done }, .associated)
  | .cannotConnect => ({ s with connectState := .error }, .cannotConnect)
  | _ => (s, .disconnected)

/-- `Wifi_AssocStatus`. -/
def assocStatus (env : LwipEnv) (s : Arm9) : Arm9 × AssocStatus :=
  match s.connectState with
  | .error => (s, .cannotConnect)
  | .searching => s.assocStatusSearching
  | .associating => s.assocStatusAssociating env
  | .dhcping =>
    if env.enabled then
      if env.ready then ({ s with connectState := .done }, .associated) else (s, .acquiringDhcp)
    else (s.disconnectAp, .cannotConnect)
  | .done => (s, .associated)
  | .searchingWfc => s.assocStatusSearchingWfc

end Arm9

/-! ## Calls -/

/-- A call of one of the functions, without `Wifi_AssocStatus`. -/
inductive ApiCall
  | disableWifi
  | enableWifi
  | scanModeFilter (flags : Nat)
  | scanMode
  | idleMode
  | internetMode (env : LwipEnv)
  | multiplayerClientMode (clientPacketSize : Nat)
  | multiplayerHostMode (maxClients : Int) (hostPacketSize clientPacketSize : Nat)
  | multiplayerAllowNewClients (allow : Bool)
  | setChannel (channel : Int)
  | beaconStart (ssid : List UInt8)
  | connectSecureAp (apdata : Option AccessPoint) (key : Option (List UInt8)) (keyLen : Nat)
  | connectWfcAp (apdata : Option AccessPoint)
  | connectAp (apdata : Option AccessPoint) (wepmode : Int) (wepkey : Option (List UInt8))
  | connectOpenAp (apdata : Option AccessPoint)
  | disconnectAp
  | autoConnect (env : LwipEnv)

/-- Perform the call. -/
def ApiCall.run (s : Arm9) : ApiCall → Arm9
  | disableWifi => s.disableWifi
  | enableWifi => s.enableWifi
  | scanModeFilter flags => s.scanModeFilter flags
  | scanMode => s.scanMode
  | idleMode => s.idleMode
  | internetMode env => s.internetMode env
  | multiplayerClientMode clientPacketSize => (s.multiplayerClientMode clientPacketSize).1
  | multiplayerHostMode maxClients hostPacketSize clientPacketSize =>
    (s.multiplayerHostMode maxClients hostPacketSize clientPacketSize).1
  | multiplayerAllowNewClients allow => s.multiplayerAllowNewClients allow
  | setChannel channel => s.setChannel channel
  | beaconStart ssid => s.beaconStartSsid ssid
  | connectSecureAp apdata key keyLen => (s.connectSecureAp apdata key keyLen).1
  | connectWfcAp apdata => (s.connectWfcAp apdata).1
  | connectAp apdata wepmode wepkey => (s.connectAp apdata wepmode wepkey).1
  | connectOpenAp apdata => (s.connectOpenAp apdata).1
  | disconnectAp => s.disconnectAp
  | autoConnect env => s.autoConnect env

end Wifi
