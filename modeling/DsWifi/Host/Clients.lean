import DsWifi.Connect.Arm9
import DsWifi.Tx.Arm7

/-!
# The clients of a multiplayer host

The table of clients (`Wifi_ClientsInfoIpc`) and the functions of the ARM7 that work on it
(`source/arm7/ntr/multiplayer.c`), with the deauthentication frames they send. A client has to
authenticate before it can associate. Its association ID is the number of its slot plus one.

The functions run in critical sections and are atomic here, up to the transmitter: the hardware can
end a LOC3 transfer before any frame that they send.
-/

namespace Wifi

open Infra Infra.Mem

/-! ## State -/

/-- `Wifi_ConnectedClientState`. -/
inductive ClientState
  | disconnected
  | authenticated
  | associated
  deriving DecidableEq, Repr

/-- `Wifi_ConnectedClient`. -/
structure ConnectedClient where
  macaddr : MacAddr
  associationId : Nat
  state : ClientState
  deriving DecidableEq

/-- A zeroed client. -/
def ConnectedClient.zero : ConnectedClient where
  macaddr := macAddrZero
  associationId := 0
  state := .disconnected

/-- `WIFI_MAX_MULTIPLAYER_CLIENTS`. -/
def wifiMaxMultiplayerClients : Nat := 15

/-- A limit for the number of clients. `Wifi_MultiplayerHostMode` allows no larger ones. -/
abbrev MaxClients : Type := Fin (wifiMaxMultiplayerClients + 1)

instance (priority := high) : NeZero (wifiMaxMultiplayerClients + 1) := ⟨Nat.succ_ne_zero _⟩

/-- An index of the table. -/
abbrev Slot : Type := Fin wifiMaxMultiplayerClients

/-- `Wifi_ClientsInfoIpc`. -/
structure Clients where
  list : Vector ConnectedClient wifiMaxMultiplayerClients
  aidMask : BitVec 16
  /-- A `u8`. -/
  numConnected : Nat
  reqKickClientAidMask : BitVec 8

/-- `BIT(n)` in a field of `w` bits. -/
abbrev bit (w n : Nat) : BitVec w := BitVec.twoPow w n

/-- What is observed of the host. -/
structure HostMonitor where
  /-- `num_connected` has been decremented from `0`. -/
  underflowed : Bool
  /-- The AIDs that the ARM9 has asked to kick since the last update in AP mode. -/
  kickRequests : List Nat

/-- The fields of `Wifi_MainStruct` that a host uses, and the transmitter. -/
structure Host where
  clients : Clients
  curMode : WifiMode
  reqMode : WifiMode
  curLibraryMode : LibraryMode
  reqLibraryMode : LibraryMode
  curMaxClients : MaxClients
  reqMaxClients : MaxClients
  /-- `reqFlags & WFLAG_REQ_ALLOWCLIENTS`. -/
  allowClients : Bool
  macAddr : MacAddr
  curChannel : Nat
  reqChannel : Nat
  /-- Whether `curAp.security_type` is `AP_SECURITY_WEP`. -/
  wep : Bool
  tx : Arm7Tx
  monitor : HostMonitor

/-- The zeroed `Wifi_MainStruct`, up to the address of the console. -/
def Host.init (macAddr : MacAddr) : Host where
  clients := {
    list := .replicate wifiMaxMultiplayerClients .zero
    aidMask := 0
    numConnected := 0
    reqKickClientAidMask := 0 }
  curMode := .disabled
  reqMode := .disabled
  curLibraryMode := .internet
  reqLibraryMode := .internet
  curMaxClients := 0
  reqMaxClients := 0
  allowClients := false
  macAddr
  curChannel := 0
  reqChannel := 0
  wep := false
  tx := .init
  monitor := {
    underflowed := false
    kickRequests := [] }

/-! ## Deauthentication -/

/-- `Wifi_MPHost_GenMgtHeader`, without the zeroed TX header. -/
def mpHostGenMgtHeader (macAddr : MacAddr) (headerflags : Nat) (destMac : MacAddr) :
    IeeeFrameHeader where
  frameControl := headerflags
  addr1 := destMac
  addr2 := macAddr
  addr3 := macAddr

/-- `REASON_THIS_STATION_LEFT_DEAUTH`. -/
def reasonThisStationLeftDeauth : Nat := 3

/-- `REASON_CANT_HANDLE_ALL_STATIONS`. -/
def reasonCantHandleAllStations : Nat := 5

/-- The frame of `Wifi_MPHost_SendDeauthentication`. -/
def deauthenticationBytes (macAddr destMac : MacAddr) (reasonCode : Nat) : List UInt8 :=
  let tx : TxHeader := { txRate := wifiTransferRate1Mbps, txLength := 24 + 2 + 4 }
  tx.bytes ++ (mpHostGenMgtHeader macAddr typeDeauthentication destMac).bytes ++
    halfBytes reasonCode

/-- A frame on the stack. What lies behind it is copied with it, but not sent. -/
def frameMem (bytes : List UInt8) : Mem := Mem.storeBytes (fun _ => 0) 0 bytes

theorem loadBytes_frameMem (bytes : List UInt8) :
    Mem.loadBytes (frameMem bytes) 0 bytes.length = bytes :=
  Mem.loadBytes_storeBytes _ 0 bytes

/-- The hardware may end the LOC3 transfer first. -/
def Arm7Tx.mayComplete (s : Arm7Tx) : Option Bool → Arm7Tx
  | some ok => s.loc3Completes ok
  | none => s

namespace Host

/-- `Wifi_TxArm7QueueAdd`. -/
def txArm7QueueAdd (s : Host) (bytes : List UInt8) : Host :=
  { s with tx := (s.tx.txArm7QueueAdd (frameMem bytes) bytes.length).1 }

/-- `Wifi_MPHost_SendDeauthentication`. Its callers ignore the result of `Wifi_TxArm7QueueAdd`. -/
def sendDeauthentication (s : Host) (ended : Option Bool) (destMac : MacAddr) (reasonCode : Nat) :
    Host :=
  { s with tx := s.tx.mayComplete ended }.txArm7QueueAdd
    (deauthenticationBytes s.macAddr destMac reasonCode)

/-! ## The table -/

/-- The client in a slot. -/
def client (s : Host) (i : Slot) : ConnectedClient := s.clients.list.get i

/-- Write a slot. -/
def setClient (s : Host) (i : Slot) (c : ConnectedClient) : Host :=
  { s with clients := { s.clients with list := s.clients.list.set i c i.isLt } }

/-- `client->state = state`. -/
def setState (s : Host) (i : Slot) (state : ClientState) : Host :=
  s.setClient i { s.client i with state }

/-- `aid_mask &= ~BIT(aid)`. -/
def clearAid (s : Host) (aid : Nat) : Host :=
  { s with clients := { s.clients with aidMask := s.clients.aidMask &&& ~~~ bit 16 aid } }

/-- `aid_mask |= BIT(aid)`. -/
def setAid (s : Host) (aid : Nat) : Host :=
  { s with clients := { s.clients with aidMask := s.clients.aidMask ||| bit 16 aid } }

/-- `num_connected++`. -/
def incConnected (s : Host) : Host :=
  { s with clients := { s.clients with numConnected := u8 (s.clients.numConnected + 1) } }

/-- `num_connected--`. -/
def decConnected (s : Host) : Host :=
  { s with
    clients := { s.clients with numConnected := u8 (s.clients.numConnected + 0xFF) }
    monitor := { s.monitor with
      underflowed := s.monitor.underflowed || s.clients.numConnected == 0 } }

/-- `Wifi_SetBeaconCurrentPlayers(num_connected + 1)`. -/
def setBeaconCurrentPlayers (s : Host) : Host :=
  { s with tx := s.tx.setBeaconCurrentPlayers (s.clients.numConnected + 1) }

/-- The indices of the loops over the clients. -/
def slots (s : Host) : List Slot :=
  (List.finRange wifiMaxMultiplayerClients).filter fun i => i.val < s.curMaxClients.val

/-- `Wifi_MPHost_ResetClients`. -/
def resetClients (s : Host) : Host :=
  { s with
    clients := { s.clients with
      list := .replicate wifiMaxMultiplayerClients .zero
      numConnected := 0
      aidMask := bit 16 0 } }.setBeaconCurrentPlayers

/-- `Wifi_MPHost_ClientGetByMacAddr`, where `none` stands for `-1`. -/
def clientGetByMacAddr (s : Host) (macaddr : MacAddr) : Option Slot :=
  s.slots.find? fun i => (s.client i).state != .disconnected && macaddr == (s.client i).macaddr

/-- The first slot that is free. -/
def freeSlot (s : Host) : Option Slot :=
  s.slots.find? fun i => (s.client i).state == .disconnected

/-- `Wifi_MPHost_ClientAuthenticate`, where `none` stands for `-1`. -/
def clientAuthenticate (s : Host) (macaddr : MacAddr) : Host × Option Slot :=
  if !s.allowClients then (s, none)
  else
    match s.clientGetByMacAddr macaddr with
    | some index =>
      -- Maybe it's going from associated to authenticated.
      let s := s.setState index .authenticated
      (s.clearAid (s.client index).associationId, some index)
    | none =>
      match s.freeSlot with
      | some i =>
        let s := s.setClient i { s.client i with state := .authenticated, macaddr }
        (s.incConnected.setBeaconCurrentPlayers, some i)
      | none => (s, none)

/-- `Wifi_MPHost_ClientAssociate`, where `none` stands for `-1`. -/
def clientAssociate (s : Host) (macaddr : MacAddr) : Host × Option Nat :=
  if !s.allowClients then (s, none)
  else
    match s.clientGetByMacAddr macaddr with
    | none => (s, none)
    | some index =>
      match (s.client index).state with
      | .associated => (s, some (s.client index).associationId)
      | .authenticated =>
        let associationId := index.val + 1
        let s := s.setClient index { s.client index with associationId, state := .associated }
        (s.setAid associationId, some associationId)
      | .disconnected => (s, none)

/-- `Wifi_MPHost_ClientDisconnect`. It returns whether the client was found. -/
def clientDisconnect (s : Host) (macaddr : MacAddr) : Host × Bool :=
  match s.clientGetByMacAddr macaddr with
  | none => (s, false)
  | some index =>
    let s := s.setState index .disconnected
    let s := s.clearAid (s.client index).associationId
    (s.decConnected.setBeaconCurrentPlayers, true)

/-- `Wifi_MPHost_KickByAID`. AIDs are not negative. -/
def kickByAid (s : Host) (ended : Option Bool) (associationId : Nat) : Host :=
  if associationId = 0 then s
  else
    let index := associationId - 1
    if h : index < s.curMaxClients.val then
      let i : Slot := ⟨index, Nat.lt_of_lt_of_le h (Nat.le_of_lt_succ s.curMaxClients.isLt)⟩
      if (s.client i).state = .disconnected then s
      else
        let s := s.sendDeauthentication ended (s.client i).macaddr reasonCantHandleAllStations
        let s := s.setState i .disconnected
        (s.clearAid associationId).decConnected.setBeaconCurrentPlayers
    else s

/-- The body of the loop of `Wifi_MPHost_KickNotAssociatedClients`. -/
def kickNotAssociated (s : Host) (ended : Option Bool) (i : Slot) : Host :=
  if (s.client i).state = .authenticated then
    let s := s.sendDeauthentication ended (s.client i).macaddr reasonCantHandleAllStations
    let s := s.setState i .disconnected
    (s.clearAid (i.val + 1)).decConnected
  else s

/-- `Wifi_MPHost_KickNotAssociatedClients`. -/
def kickNotAssociatedClients (s : Host) (ends : Slot → Option Bool) : Host :=
  (s.slots.foldl (fun s i => s.kickNotAssociated (ends i) i) s).setBeaconCurrentPlayers

/-- `Wifi_MPHost_ClientKickAll`. -/
def clientKickAll (s : Host) (ended : Option Bool) : Host :=
  s.resetClients.sendDeauthentication ended wifiBroadcastAddr reasonThisStationLeftDeauth

/-! ## The ARM9 -/

/-- `Wifi_MultiplayerGetNumClients`. -/
def multiplayerGetNumClients (s : Host) : Nat :=
  if s.curLibraryMode = .multiplayerHost then
    (List.range wifiMaxMultiplayerClients).countP fun i => s.clients.aidMask.getLsbD (i + 1)
  else 0

/-- `Wifi_MultiplayerGetClientMask`. -/
def multiplayerGetClientMask (s : Host) : BitVec 16 :=
  if s.curLibraryMode = .multiplayerHost then s.clients.aidMask else 0

end Host

end Wifi
