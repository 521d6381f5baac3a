import DsWifi.Host.Clients
import DsWifi.Tx.Frames

/-!
# A multiplayer host over time

The calls of the ARM9 (`source/arm9/ipc.c`), the cases of `Wifi_NTR_Update` that enter, run and
leave AP mode (`source/arm7/ntr/update.c`), and the runs of a host. A request to kick a client is a
bit in a mask that the ARM9 sets and the next update takes. The lobby is open if `reqFlags` says so;
the byte in the beacon follows with the updates.

An update runs in an interrupt handler, of the FIFO or of the VBlank. The handler of the Wi-Fi
interrupt does not come in between, only the hardware may end a transfer meanwhile.
-/

namespace Wifi

open Infra Infra.Mem

namespace Host

/-! ## Calls of the ARM9 -/

/-- `Wifi_MultiplayerHostMode`, for packets that fit. -/
def multiplayerHostMode (s : Host) (maxClients : Int) : Host :=
  { s with
    reqLibraryMode := .multiplayerHost
    reqMaxClients := Fin.ofNat _ (max 1 (min maxClients.toNat wifiMaxMultiplayerClients))
    reqMode := .accessPoint
    allowClients := true }

/-- `Wifi_MultiplayerAllowNewClients`. -/
def multiplayerAllowNewClients (s : Host) (allow : Bool) : Host := { s with allowClients := allow }

/-- `Wifi_MultiplayerKickClientByAID`. -/
def multiplayerKickClientByAid (s : Host) (associationId : Int) : Host :=
  if associationId < 1 ∨ wifiMaxMultiplayerClients < associationId then s
  else
    let aid := associationId.toNat
    { s with
      clients := { s.clients with
        reqKickClientAidMask := s.clients.reqKickClientAidMask ||| bit 8 aid }
      monitor := { s.monitor with kickRequests := s.monitor.kickRequests ++ [aid] } }

/-- `Wifi_SetChannel` of the ARM9. -/
def requestChannel (s : Host) (channel : Int) : Host :=
  if channel < 1 ∨ 13 < channel then s else { s with reqChannel := channel.toNat }

/-- `Wifi_MultiplayerClientGetMacFromAID`, for the address that it finds. -/
def clientGetMacFromAid (s : Host) (aid : Int) : Option MacAddr :=
  if h : 1 ≤ aid ∧ aid ≤ s.curMaxClients.val then
    let client := s.client ⟨(aid - 1).toNat, by have := s.curMaxClients.isLt; omega⟩
    if client.state = .associated then some client.macaddr else none
  else none

/-- The fields that the TX functions of the ARM9 read. -/
def txEnv (s : Host) (env : TxEnv) : TxEnv :=
  { env with
    reqFlags := if s.allowClients then wflagReqAllowclients else 0
    macAddr := s.macAddr
    wep := s.wep
    clientMac := s.clientGetMacFromAid
    reqChannel := s.reqChannel
    curMaxClients := s.curMaxClients }

/-! ## The update -/

/-- What the environment decides during an update. -/
structure UpdateEnv where
  arm7 : Arm7Env
  /-- The mode that the cases left out here select. It is not AP mode. -/
  otherMode : { mode : WifiMode // mode ≠ .accessPoint }
  /-- How the transfer ends, if it does, before the frame to a client that is kicked. -/
  kickEnds : Slot → Option Bool
  /-- The same for the clients that are kicked because the lobby closes. -/
  closeEnds : Slot → Option Bool
  /-- The same for the frame to all clients. -/
  leaveEnds : Option Bool

/-- The end of the case `WIFIMODE_NORMAL` that starts AP mode. -/
def startAccessPoint (s : Host) : Host :=
  { s.resetClients with curMaxClients := s.reqMaxClients, curMode := .accessPoint }

/-- The end of AP mode. It leaves the requests where they are. -/
def endAccessPoint (s : Host) (env : UpdateEnv) : Host :=
  let s := s.clientKickAll env.leaveEnds
  { s with
    tx := s.tx.beaconStop
    curMode := .normal
    monitor := { s.monitor with kickRequests := [] } }

/-- The AIDs of the loop over the requests. -/
def requestedAids (s : Host) : List Slot :=
  (List.finRange wifiMaxMultiplayerClients).filter fun i =>
    (s.clients.reqKickClientAidMask.setWidth 16).getLsbD (i.val + 1)

/-- The ARM7 takes the requests. -/
def takeRequests (s : Host) : Host :=
  { s with
    clients := { s.clients with reqKickClientAidMask := 0 }
    monitor := { s.monitor with kickRequests := [] } }

/-- The kick requests in the case `WIFIMODE_ACCESSPOINT`. -/
def kickRequested (s : Host) (ends : Slot → Option Bool) : Host :=
  if s.clients.reqKickClientAidMask ≠ 0 then
    s.requestedAids.foldl (fun s i => s.kickByAid (ends i) (i.val + 1)) s.takeRequests
  else { s with monitor := { s.monitor with kickRequests := [] } }

/-- The lobby in the case `WIFIMODE_ACCESSPOINT`. -/
def updateAllowed (s : Host) (ends : Slot → Option Bool) : Host :=
  let curAllow := decide (s.tx.getBeaconAllowsConnections ≠ 0)
  let reqAllow := s.allowClients
  -- If the flag to allow clients has changed.
  if curAllow ≠ reqAllow then
    if reqAllow then { s with tx := s.tx.setBeaconAllowsConnections 1 }
    else
      { s with tx := s.tx.setBeaconAllowsConnections 0 }.kickNotAssociatedClients ends
  else s

/-- Whether the update ends AP mode. -/
def Leaving (s : Host) : Prop := s.reqMode ≠ .accessPoint ∨ s.curLibraryMode ≠ s.reqLibraryMode

instance (s : Host) : Decidable s.Leaving := inferInstanceAs (Decidable (_ ∨ _))

/-- The case `WIFIMODE_ACCESSPOINT`. -/
def updateAccessPoint (s : Host) (env : UpdateEnv) : Host :=
  if s.Leaving then s.endAccessPoint env
  else (s.kickRequested env.kickEnds).updateAllowed env.closeEnds

/-- The cases of `Wifi_NTR_Update`. -/
def updateMode (s : Host) (env : UpdateEnv) : Host :=
  match s.curMode with
  | .accessPoint => s.updateAccessPoint env
  | .normal =>
    let s := { s with curLibraryMode := s.reqLibraryMode }
    if s.reqMode = .accessPoint then s.startAccessPoint else { s with curMode := env.otherMode }
  | _ => { s with curMode := env.otherMode }

/-- `Wifi_SetChannel` of the ARM7. -/
def setChannel (s : Host) (channel : Nat) : Host :=
  if channel < 1 ∨ 13 < channel then s
  else { s with tx := s.tx.setBeaconChannel channel, curChannel := channel }

/-- The change of channel in `Wifi_NTR_Update`. -/
def updateChannel (s : Host) : Host :=
  if s.curMode ≠ .scan ∧ s.curChannel ≠ s.reqChannel then s.setChannel s.reqChannel else s

/-- What a flush reads of the host. -/
def flushEnv (s : Host) (env : Arm7Env) : Arm7Env :=
  { env with
    numConnected := s.clients.numConnected
    aidMask := s.clients.aidMask.toNat
    curChannel := s.curChannel }

/-- `Wifi_TxAllQueueFlush`. -/
def txAllQueueFlush (s : Host) (env : Arm7Env) : Host :=
  { s with tx := s.tx.txAllQueueFlush (s.flushEnv env) }

/-- `Wifi_NTR_Update`. The frames that it receives are events of their own. -/
def update (s : Host) (env : UpdateEnv) : Host :=
  (s.updateMode env).updateChannel.txAllQueueFlush env.arm7

end Host

/-! ## Runs -/

/-- What can happen. -/
inductive HostEvent
  /-- The ARM9 asks for host mode. -/
  | hostMode (maxClients : Int)
  /-- The ARM9 asks for another mode. -/
  | request (mode : WifiMode) (library : LibraryMode)
  | allowNewClients (allow : Bool)
  | kickClientByAid (associationId : Int)
  | requestChannel (channel : Int)
  /-- The ARM9 calls one of its TX functions, `Wifi_BeaconStart` among them. -/
  | call (env : TxEnv) (call : TxCall) (hobject : call.IsObject)
  /-- `Wifi_MPHost_ResetClients`, followed by a new limit. -/
  | resetClients (curMaxClients : MaxClients)
  | clientAuthenticate (macaddr : MacAddr)
  | clientAssociate (macaddr : MacAddr)
  | clientDisconnect (macaddr : MacAddr)
  | kickByAid (ended : Option Bool) (associationId : Nat)
  | kickNotAssociatedClients (ends : Slot → Option Bool)
  | clientKickAll (ended : Option Bool)
  /-- The ARM7 sends another frame of its own, no larger than its queue. -/
  | arm7QueueAdd (bytes : List UInt8) (hlen : bytes.length ≤ 2048)
  | update (env : Host.UpdateEnv)
  | cmdDone (env : Arm7Env)
  /-- The hardware ends a LOC3 transfer. -/
  | loc3Completes (ok : Bool)
  /-- The hardware ends a CMD transfer. -/
  | cmdCompletes (ok : Bool)
  /-- The hardware takes the other reply buffer into use. -/
  | replySwap

def hostStep (s : Host) : HostEvent → Host
  | .hostMode maxClients => s.multiplayerHostMode maxClients
  | .request mode library => { s with reqMode := mode, reqLibraryMode := library }
  | .allowNewClients allow => s.multiplayerAllowNewClients allow
  | .kickClientByAid associationId => s.multiplayerKickClientByAid associationId
  | .requestChannel channel => s.requestChannel channel
  | .call env call _ => { s with tx := { s.tx with ring := (call.run (s.txEnv env) s.tx.ring).1 } }
  | .resetClients curMaxClients => { s.resetClients with curMaxClients }
  | .clientAuthenticate macaddr => (s.clientAuthenticate macaddr).1
  | .clientAssociate macaddr => (s.clientAssociate macaddr).1
  | .clientDisconnect macaddr => (s.clientDisconnect macaddr).1
  | .kickByAid ended associationId => s.kickByAid ended associationId
  | .kickNotAssociatedClients ends => s.kickNotAssociatedClients ends
  | .clientKickAll ended => s.clientKickAll ended
  | .arm7QueueAdd bytes _ => s.txArm7QueueAdd bytes
  | .update env => s.update env
  | .cmdDone env => { s with tx := s.tx.intrMultiplayCmdDone env }
  | .loc3Completes ok => { s with tx := s.tx.loc3Completes ok }
  | .cmdCompletes ok => { s with tx := s.tx.cmdCompletes ok }
  | .replySwap => { s with tx := s.tx.replySwap }

end Wifi
