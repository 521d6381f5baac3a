import DsWifi.Beacon.OnAir
import DsWifi.Host.Lobby

/-!
# The number of players on the air

Each operation on the clients writes the number of players to the beacon that is on the air, if
there is one. A beacon that is set up brings its own number, and `Wifi_BeaconStart` has written `1`
there, on the other CPU and some time ago.

* `beacon_players_iff` — the number on the air is true along exactly the runs in which no beacon is
  set up while there are clients
-/

namespace Wifi

open Infra Infra.Mem

/-! ## A beacon on the air -/

namespace Arm7Tx

/-- If beacons are sent, then one of `Wifi_BeaconStart` for which `P` holds. -/
def OnAir (s : Arm7Tx) (P : BeaconFields → Prop) : Prop :=
  s.txbufBeacon &&& txbufEnable ≠ 0 →
    ∃ (env : TxEnv) (ssid : List UInt8) (gameId : Nat) (b : BeaconFields), ssid.length ≤ 32 ∧
      Announces env ssid gameId s b ∧ P b

variable {s s' : Arm7Tx} {P Q : BeaconFields → Prop}

namespace OnAir

theorem keepsAir (h : s.OnAir P) (hk : KeepsAir s s') : s'.OnAir P := by
  intro henable
  rw [hk.txbufBeacon] at henable
  obtain ⟨env, ssid, gameId, b, hssid, hb, hP⟩ := h henable
  exact ⟨env, ssid, gameId, b, hssid, hb.keepsAir hssid hk, hP⟩

theorem of_disabled (h : s.txbufBeacon &&& txbufEnable = 0) : s.OnAir P :=
  fun henable => absurd h henable

theorem beaconStop (s : Arm7Tx) : s.beaconStop.OnAir P := by
  refine of_disabled ?_
  show s.txbufBeacon % txbufEnable &&& txbufEnable = 0
  exact and_two_pow_of_lt (Nat.mod_lt _ (by decide))

theorem txbufBeacon_macWriteByte (s : Arm7Tx) (address value : Nat) :
    (s.macWriteByte address value).txbufBeacon = s.txbufBeacon := by
  unfold Arm7Tx.macWriteByte
  dsimp only
  split <;> rfl

theorem txbufBeacon_editBeacon (s : Arm7Tx) (edit : BeaconEdit) :
    (s.editBeacon edit).txbufBeacon = s.txbufBeacon := by
  have hwrite (p q : Prop) [Decidable p] [Decidable q] (address value : Nat) :
      (if p then s else if q then s.macWriteByte address value else s).txbufBeacon =
        s.txbufBeacon := by
    split
    · rfl
    · split
      · exact txbufBeacon_macWriteByte s address value
      · rfl
  cases edit with
  | setBeaconChannel channel => exact hwrite ..
  | setBeaconCurrentPlayers num => exact hwrite ..
  | setBeaconAllowsConnections allows => exact hwrite ..

/-- A change of the beacon that is on the air. -/
theorem edit (h : s.OnAir P) (edit : BeaconEdit) (hs : s.editBeacon edit = s')
    (hPQ : ∀ b, P b → Q (b.edit edit)) : s'.OnAir Q := by
  subst hs
  intro henable
  rw [txbufBeacon_editBeacon] at henable
  obtain ⟨env, ssid, gameId, b, hssid, hb, hP⟩ := h henable
  exact ⟨env, ssid, gameId, b.edit edit, hssid, hb.editBeacon hssid edit, hPQ b hP⟩

theorem setBeaconCurrentPlayers (h : s.OnAir P) {num : Nat} (hnum : num < 2 ^ 8) :
    (s.setBeaconCurrentPlayers num).OnAir (·.playersCurrent.toNat = num) := by
  have hbyte : (UInt8.ofNat num).toNat = num := UInt8.toNat_ofNat_of_lt' hnum
  exact h.edit (.setBeaconCurrentPlayers (.ofNat num)) (congrArg s.setBeaconCurrentPlayers hbyte)
    fun _ _ => hbyte

theorem setBeaconAllowsConnections {num : Nat} (h : s.OnAir (·.playersCurrent.toNat = num))
    {allows : Nat} (hallows : allows < 2 ^ 8) :
    (s.setBeaconAllowsConnections allows).OnAir (·.playersCurrent.toNat = num) := by
  have hbyte : (UInt8.ofNat allows).toNat = allows := UInt8.toNat_ofNat_of_lt' hallows
  exact h.edit (.setBeaconAllowsConnections (.ofNat allows))
    (congrArg s.setBeaconAllowsConnections hbyte) fun _ hb => hb

theorem setBeaconChannel {num : Nat} (h : s.OnAir (·.playersCurrent.toNat = num))
    {channel : Nat} (hchannel : channel < 2 ^ 8) :
    (s.setBeaconChannel channel).OnAir (·.playersCurrent.toNat = num) := by
  have hbyte : (UInt8.ofNat channel).toNat = channel := UInt8.toNat_ofNat_of_lt' hchannel
  exact h.edit (.setBeaconChannel (.ofNat channel)) (congrArg s.setBeaconChannel hbyte)
    fun _ hb => hb

end OnAir

end Arm7Tx

namespace Host

/-! ## The number of players -/

/-- While beacons are sent, the one that is sent has the number of players. -/
def PlayersTrue (s : Host) : Prop :=
  s.tx.txbufBeacon &&& txbufEnable ≠ 0 →
    ∃ (env : TxEnv) (ssid : List UInt8) (gameId : Nat) (b : BeaconFields), ssid.length ≤ 32 ∧
      s.tx.beaconOnAir = beaconBytes env ssid gameId b ∧
      b.playersCurrent.toNat = s.clients.numConnected + 1

end Host

/-- The event queues no reply. -/
def HostEvent.NoReply : HostEvent → Prop
  | .call _ txCall _ => txCall.NoReply
  | _ => True

/-- What can happen. A host sends no replies. -/
inductive PlayersEvent
  | host (e : HostEvent) (hreply : e.NoReply)
  /-- `Wifi_Intr_TxEnd`. -/
  | txEnd (env : Arm7Env)

def playersStep (s : Host) : PlayersEvent → Host
  | .host e _ => hostStep s e
  | .txEnd env => s.txAllQueueFlush env

/-- The state in which the event runs `Wifi_TxAllQueueFlush`, if it does. -/
def Host.flushedIn (s : Host) : PlayersEvent → Option Host
  | .host (.update env) _ => some (s.updateMode env).updateChannel
  | .txEnd _ => some s
  | _ => none

/-- The number of players on the air is true after the event. -/
def StepPlayersTrue (s : Host) (e : PlayersEvent) : Prop := (playersStep s e).PlayersTrue

/-- If the event sets up a beacon, there are no clients. -/
def StepNobodyThere (s : Host) (e : PlayersEvent) : Prop :=
  ∀ t ∈ s.flushedIn e, t.tx.SetsUpBeacon → t.clients.numConnected = 0

instance (s : Host) (e : PlayersEvent) : Decidable (StepNobodyThere s e) :=
  inferInstanceAs (Decidable (∀ t ∈ s.flushedIn e, _))

namespace Host

variable {s s' : Host} {P : BeaconFields → Prop}

/-! ## What holds between the operations -/

/-- A beacon on the air is one of `Wifi_BeaconStart` for which `P` holds, and so is the next one but
for `P`. -/
structure AirInv (s : Host) (P : BeaconFields → Prop) : Prop where
  channel : s.curChannel < 2 ^ 8
  queueFits : s.tx.QueueFits
  ring : HostRing s.tx.ring
  onAir : s.tx.OnAir P

namespace AirInv

theorem keeps (h : s.AirInv P) (hchannel : s'.curChannel = s.curChannel)
    (hb : KeepsBeacon s.tx s'.tx) (hk : KeepsAir s.tx s'.tx) : s'.AirInv P :=
  ⟨hchannel ▸ h.channel, hb.queueFits h.queueFits, hb.ring ▸ h.ring, h.onAir.keepsAir hk⟩

/-- The queues stay, and what is on the air is known. -/
theorem keepsInfo {Q : BeaconFields → Prop} (h : s.AirInv P)
    (hchannel : s'.curChannel = s.curChannel) (hi : KeepsInfo s.tx s'.tx)
    (hq : KeepsQueue s.tx s'.tx) (hair : s'.tx.OnAir Q) : s'.AirInv Q :=
  ⟨hchannel ▸ h.channel, hi.txQueueLen.trans_le h.queueFits, hq.ring ▸ h.ring, hair⟩

theorem txArm7QueueAdd (h : s.AirInv P) {bytes : List UInt8} (hlen : bytes.length ≤ 2048) :
    (s.txArm7QueueAdd bytes).AirInv P := by
  have hb := KeepsBeacon.txArm7QueueAdd (frameMem bytes) hlen h.queueFits
  have hk := KeepsAir.txArm7QueueAdd (frameMem bytes) hlen h.queueFits
  exact h.keeps rfl hb hk

theorem sendDeauthentication (h : s.AirInv P) (ended : Option Bool) (destMac : MacAddr)
    (reasonCode : Nat) : (s.sendDeauthentication ended destMac reasonCode).AirInv P := by
  have hended : { s with tx := s.tx.mayComplete ended }.AirInv P :=
    h.keeps rfl (.mayComplete s.tx ended) (.mayComplete s.tx ended)
  refine hended.txArm7QueueAdd ?_
  rw [HandlesClients.length_deauthenticationBytes]
  decide

/-- The table is not on the air. -/
theorem setTable (h : s.AirInv P) (clients : Clients) (monitor : HostMonitor) :
    { s with clients, monitor }.AirInv P := ⟨h.channel, h.queueFits, h.ring, h.onAir⟩

theorem drop (h : s.AirInv P) (i : Slot) (aid : Nat) :
    ((s.setState i .disconnected).clearAid aid).decConnected.AirInv P := h.setTable _ _

theorem kickNotAssociated (h : s.AirInv P) (ended : Option Bool) (i : Slot) :
    (s.kickNotAssociated ended i).AirInv P := by
  unfold Host.kickNotAssociated
  split
  · exact (h.sendDeauthentication ended _ _).drop i _
  · exact h

theorem setBeaconCurrentPlayers (h : s.AirInv P) (hnum : s.clients.numConnected ≤ 15) :
    s.setBeaconCurrentPlayers.AirInv (·.playersCurrent.toNat = s.clients.numConnected + 1) := by
  have hlt : s.clients.numConnected + 1 < 2 ^ 8 := by omega
  exact h.keepsInfo rfl (.setBeaconCurrentPlayers s.tx _) (.setBeaconCurrentPlayers s.tx _)
    (h.onAir.setBeaconCurrentPlayers hlt)

end AirInv

/-! ## The operations -/

/-- The table is consistent, and the number of players on the air is true. -/
structure PlayersInv (s : Host) : Prop where
  consistent : s.Consistent
  air : s.AirInv (·.playersCurrent.toNat = s.clients.numConnected + 1)

namespace PlayersInv

/-- The table stays. -/
theorem same (h : s.PlayersInv) (hs : SameTable s s')
    (hair : s'.AirInv (·.playersCurrent.toNat = s.clients.numConnected + 1)) : s'.PlayersInv :=
  ⟨hs.consistent h.consistent, hs.numConnected ▸ hair⟩

/-- The table and the transmitter stay. -/
theorem setOther (h : s.PlayersInv) (hs : SameTable s s') (hchannel : s'.curChannel = s.curChannel)
    (htx : s'.tx = s.tx) : s'.PlayersInv :=
  h.same hs (h.air.keeps hchannel (htx ▸ .refl _) (htx ▸ .refl _))

/-- The number is written last. -/
theorem of_set (h : s.AirInv P) (hc : s.setBeaconCurrentPlayers.Consistent) :
    s.setBeaconCurrentPlayers.PlayersInv :=
  ⟨hc, h.setBeaconCurrentPlayers hc.table.numConnected_le⟩

theorem resetClients (h : s.PlayersInv) (curMaxClients : MaxClients) :
    { s.resetClients with curMaxClients }.PlayersInv := by
  have hc := Consistent.resetClients s h.consistent.underflowed curMaxClients
  have hair := (h.air.setTable { s.clients with
    list := .replicate wifiMaxMultiplayerClients .zero
    numConnected := 0
    aidMask := bit 16 0 } s.monitor).setBeaconCurrentPlayers (Nat.zero_le 15)
  exact ⟨hc, hair.channel, hair.queueFits, hair.ring, hair.onAir⟩

theorem clientAuthenticate (h : s.PlayersInv) (macaddr : MacAddr) :
    (s.clientAuthenticate macaddr).1.PlayersInv := by
  have hc := h.consistent.clientAuthenticate macaddr
  unfold Host.clientAuthenticate at hc ⊢
  split at hc
  · rename_i hallow
    rwa [if_pos hallow]
  · rename_i hallow
    rw [if_neg hallow]
    split at hc
    · exact ⟨hc, h.air.setTable _ _⟩
    · split at hc
      · exact of_set (h.air.setTable _ _) hc
      · exact h

theorem clientAssociate (h : s.PlayersInv) (macaddr : MacAddr) :
    (s.clientAssociate macaddr).1.PlayersInv := by
  have hc := h.consistent.clientAssociate macaddr
  unfold Host.clientAssociate at hc ⊢
  split at hc
  · rename_i hallow
    rwa [if_pos hallow]
  · rename_i hallow
    rw [if_neg hallow]
    split at hc
    · exact h
    · split at hc
      · exact h
      · exact ⟨hc, h.air.setTable _ _⟩
      · exact h

theorem clientDisconnect (h : s.PlayersInv) (macaddr : MacAddr) :
    (s.clientDisconnect macaddr).1.PlayersInv := by
  have hc := h.consistent.clientDisconnect macaddr
  unfold Host.clientDisconnect at hc ⊢
  split at hc
  · exact h
  · exact of_set (h.air.setTable _ _) hc

theorem kickByAid (h : s.PlayersInv) (ended : Option Bool) (associationId : Nat) :
    (s.kickByAid ended associationId).PlayersInv := by
  have hc := h.consistent.kickByAid ended associationId
  unfold Host.kickByAid at hc ⊢
  split at hc
  · rename_i h0
    rwa [if_pos h0]
  · rename_i h0
    rw [if_neg h0]
    dsimp only at hc ⊢
    split at hc
    · rename_i hlt
      rw [dif_pos hlt]
      split at hc
      · rename_i hstate
        rwa [if_pos hstate]
      · rename_i hstate
        rw [if_neg hstate]
        exact of_set ((h.air.sendDeauthentication ended _ _).drop _ associationId) hc
    · rename_i hlt
      rwa [dif_neg hlt]

theorem kickNotAssociatedClients (h : s.PlayersInv) (ends : Slot → Option Bool) :
    (s.kickNotAssociatedClients ends).PlayersInv :=
  of_set (TablePred.foldl (P := fun s => s.AirInv _) (fun i hs => hs.kickNotAssociated (ends i) i)
    h.air s.slots) (Consistent.tablePred.kickNotAssociatedClients h.consistent ends)

theorem clientKickAll (h : s.PlayersInv) (ended : Option Bool) :
    (s.clientKickAll ended).PlayersInv := by
  have hreset := h.resetClients s.curMaxClients
  exact hreset.same (.sendDeauthentication _ ended _ _) (hreset.air.sendDeauthentication ended _ _)

/-! ## The update -/

theorem kickRequested (h : s.PlayersInv) (ends : Slot → Option Bool) :
    (s.kickRequested ends).PlayersInv := by
  unfold Host.kickRequested
  split
  · have htake : s.takeRequests.PlayersInv := h.setOther (.takeRequests s) rfl rfl
    exact TablePred.foldl (fun i hs => hs.kickByAid (ends i) (i.val + 1)) htake _
  · exact h.setOther ⟨rfl, rfl, rfl, rfl, rfl, rfl⟩ rfl rfl

theorem setBeaconAllowsConnections (h : s.PlayersInv) {allows : Nat} (hallows : allows < 2 ^ 8) :
    { s with tx := s.tx.setBeaconAllowsConnections allows }.PlayersInv :=
  h.same (.setTx s _) (h.air.keepsInfo rfl (.setBeaconAllowsConnections s.tx allows)
    (.setBeaconAllowsConnections s.tx allows) (h.air.onAir.setBeaconAllowsConnections hallows))

theorem updateAllowed (h : s.PlayersInv) (ends : Slot → Option Bool) :
    (s.updateAllowed ends).PlayersInv := by
  unfold Host.updateAllowed
  dsimp only
  split
  · split
    · exact h.setBeaconAllowsConnections (by decide)
    · exact (h.setBeaconAllowsConnections (by decide)).kickNotAssociatedClients ends
  · exact h

theorem endAccessPoint (h : s.PlayersInv) (env : UpdateEnv) :
    (s.endAccessPoint env).PlayersInv := by
  have hkick := h.clientKickAll env.leaveEnds
  have hs : SameTable (s.clientKickAll env.leaveEnds) (s.endAccessPoint env) :=
    ⟨rfl, rfl, rfl, rfl, rfl, rfl⟩
  exact hkick.same hs ⟨hkick.air.channel, hkick.air.queueFits, hkick.air.ring, .beaconStop _⟩

theorem updateMode (h : s.PlayersInv) (env : UpdateEnv) : (s.updateMode env).PlayersInv := by
  unfold Host.updateMode
  split
  · unfold Host.updateAccessPoint
    split
    · exact h.endAccessPoint env
    · exact (h.kickRequested env.kickEnds).updateAllowed env.closeEnds
  · dsimp only
    split
    · exact (h.resetClients s.reqMaxClients).setOther ⟨rfl, rfl, rfl, rfl, rfl, rfl⟩ rfl rfl
    · exact h.setOther ⟨rfl, rfl, rfl, rfl, rfl, rfl⟩ rfl rfl
  · exact h.setOther ⟨rfl, rfl, rfl, rfl, rfl, rfl⟩ rfl rfl

theorem updateChannel (h : s.PlayersInv) : s.updateChannel.PlayersInv := by
  unfold Host.updateChannel
  split
  · unfold Host.setChannel
    split
    · exact h
    · have hlt : s.reqChannel < 2 ^ 8 := by omega
      have hinfo := KeepsInfo.setBeaconChannel s.tx s.reqChannel
      have hqueue := KeepsQueue.setBeaconChannel s.tx s.reqChannel
      refine h.same ⟨rfl, rfl, rfl, rfl, rfl, rfl⟩ ⟨hlt, ?_, ?_, ?_⟩
      · exact hinfo.txQueueLen.trans_le h.air.queueFits
      · exact hqueue.ring ▸ h.air.ring
      · exact h.air.onAir.setBeaconChannel hlt
  · exact h

/-- A beacon that is set up has one player. -/
theorem onAir_txAllQueueFlush (h : s.PlayersInv) (hbeacon : s.tx.SetsUpBeacon) (env : Arm7Env) :
    ∃ (txEnv : TxEnv) (ssid : List UInt8) (gameId : Nat), ssid.length ≤ 32 ∧
      Announces txEnv ssid gameId (s.txAllQueueFlush env).tx
        { BeaconFields.start txEnv with channel := UInt8.ofNat s.curChannel } := by
  have hchannel : (flushEnv s env).curChannel < 2 ^ 8 := h.air.channel
  exact h.air.ring.txAllQueueFlush_announces hbeacon hchannel

theorem txAllQueueFlush (h : s.PlayersInv) (env : Arm7Env)
    (hnobody : s.tx.SetsUpBeacon → s.clients.numConnected = 0) :
    (s.txAllQueueFlush env).PlayersInv := by
  obtain ⟨hring, hfits⟩ := h.air.ring.txAllQueueFlush h.air.queueFits (flushEnv s env)
  refine h.same (.txAllQueueFlush s env) ⟨h.air.channel, hfits, hring, ?_⟩
  by_cases hbeacon : s.tx.SetsUpBeacon
  · obtain ⟨txEnv, ssid, gameId, hssid, hb⟩ := h.onAir_txAllQueueFlush hbeacon env
    rw [hnobody hbeacon]
    exact fun _ => ⟨txEnv, ssid, gameId, _, hssid, hb, rfl⟩
  · exact h.air.onAir.keepsAir
      (h.air.ring.txAllQueueFlush_keepsAir h.air.queueFits hbeacon (flushEnv s env))

/-- **An update keeps the number true if** its flush finds no beacon or no clients. -/
theorem update (h : s.PlayersInv) (env : UpdateEnv)
    (hnobody : (s.updateMode env).updateChannel.tx.SetsUpBeacon →
      (s.updateMode env).updateChannel.clients.numConnected = 0) : (s.update env).PlayersInv :=
  (h.updateMode env).updateChannel.txAllQueueFlush env.arm7 hnobody

/-- Requests reach neither the channel nor the TX buffer before the next update. -/
theorem multiplayerKickClientByAid_channel_tx (s : Host) (associationId : Int) :
    (s.multiplayerKickClientByAid associationId).curChannel = s.curChannel ∧
      (s.multiplayerKickClientByAid associationId).tx = s.tx := by
  unfold Host.multiplayerKickClientByAid
  split <;> exact ⟨rfl, rfl⟩

theorem requestChannel_channel_tx (s : Host) (channel : Int) :
    (s.requestChannel channel).curChannel = s.curChannel ∧
      (s.requestChannel channel).tx = s.tx := by
  unfold Host.requestChannel
  split <;> exact ⟨rfl, rfl⟩

/-- An event without a flush. -/
theorem hostStep (h : s.PlayersInv) (e : HostEvent) (hreply : e.NoReply)
    (hupdate : ∀ env, e ≠ .update env) : (hostStep s e).PlayersInv := by
  have htx {tx : Arm7Tx} (hb : KeepsBeacon s.tx tx) (hk : KeepsAir s.tx tx) :
      { s with tx }.PlayersInv := h.same (.setTx s tx) (h.air.keeps rfl hb hk)
  have hinfo {tx : Arm7Tx} (hi : KeepsInfo s.tx tx) (hq : KeepsQueue s.tx tx)
      (hk : KeepsAir s.tx tx) : { s with tx }.PlayersInv :=
    h.same (.setTx s tx) (h.air.keepsInfo rfl hi hq (h.air.onAir.keepsAir hk))
  cases e with
  | hostMode maxClients =>
    exact ⟨h.consistent.step (.hostMode maxClients), h.air.keeps rfl (.refl _) (.refl _)⟩
  | request mode library => exact h.setOther ⟨rfl, rfl, rfl, rfl, rfl, rfl⟩ rfl rfl
  | allowNewClients allow =>
    exact ⟨h.consistent.step (.allowNewClients allow), h.air.keeps rfl (.refl _) (.refl _)⟩
  | kickClientByAid associationId =>
    obtain ⟨hchannel, htx⟩ := multiplayerKickClientByAid_channel_tx s associationId
    exact h.setOther (.multiplayerKickClientByAid s associationId) hchannel htx
  | requestChannel channel =>
    obtain ⟨hchannel, htx⟩ := requestChannel_channel_tx s channel
    exact h.setOther (.requestChannel s channel) hchannel htx
  | call env txCall hobject =>
    have hring := h.air.ring.call (Inv.dsiMode_txEnv s env) hobject hreply
    exact h.same (.setTx s _) ⟨h.air.channel, h.air.queueFits, hring,
      h.air.onAir.keepsAir ⟨rfl, rfl, rfl, fun _ _ => rfl⟩⟩
  | resetClients curMaxClients => exact h.resetClients curMaxClients
  | clientAuthenticate macaddr => exact h.clientAuthenticate macaddr
  | clientAssociate macaddr => exact h.clientAssociate macaddr
  | clientDisconnect macaddr => exact h.clientDisconnect macaddr
  | kickByAid ended associationId => exact h.kickByAid ended associationId
  | kickNotAssociatedClients ends => exact h.kickNotAssociatedClients ends
  | clientKickAll ended => exact h.clientKickAll ended
  | arm7QueueAdd bytes hlen =>
    exact h.same (.txArm7QueueAdd s bytes) (h.air.txArm7QueueAdd hlen)
  | update env => exact absurd rfl (hupdate env)
  | cmdDone env =>
    exact hinfo (.intrMultiplayCmdDone s.tx env) (.intrMultiplayCmdDone s.tx env)
      (.intrMultiplayCmdDone env s.tx)
  | loc3Completes ok => exact htx (.loc3Completes s.tx ok) (.loc3Completes s.tx ok)
  | cmdCompletes ok =>
    exact hinfo (.cmdCompletes s.tx ok) (.cmdCompletes s.tx ok) (.cmdCompletes s.tx ok)
  | replySwap => exact htx ⟨rfl, rfl, rfl, id, fun _ _ _ => rfl⟩ ⟨rfl, rfl, rfl, fun _ _ => rfl⟩

theorem init (macAddr : MacAddr) : (Host.init macAddr).PlayersInv where
  consistent := .init macAddr
  air := ⟨Nat.two_pow_pos 8, Nat.zero_le _, .init, .of_disabled (Nat.zero_and _)⟩

/-- **The invariant is kept by every event** that sets up no beacon while there are clients. -/
theorem step (h : s.PlayersInv) (e : PlayersEvent) (hnobody : StepNobodyThere s e) :
    (playersStep s e).PlayersInv := by
  cases e with
  | txEnd env => exact h.txAllQueueFlush env (hnobody s rfl)
  | host e hreply =>
    cases e with
    | update env => exact h.update env (hnobody _ rfl)
    | _ => exact h.hostStep _ hreply nofun

/-- What is on the air is what has been set up. -/
theorem playersTrue (h : s.PlayersInv) : s.PlayersTrue := by
  intro henable
  obtain ⟨env, ssid, gameId, b, hssid, hb, hnum⟩ := h.air.onAir henable
  exact ⟨env, ssid, gameId, b, hssid, hb.beaconOnAir, hnum⟩

end PlayersInv

/-- The bytes of a beacon determine the number of players. -/
theorem playersCurrent_eq {env env' : TxEnv} {ssid ssid' : List UInt8} {gameId gameId' : Nat}
    {b b' : BeaconFields}
    (h : beaconBytes env ssid gameId b = beaconBytes env' ssid' gameId' b') :
    b.playersCurrent = b'.playersCurrent := by
  have hlen := congrArg List.length h
  rw [length_beaconBytes, length_beaconBytes] at hlen
  have hindex : playersIndex ssid = playersIndex ssid' := by
    unfold playersIndex
    omega
  have hget (env : TxEnv) (ssid : List UInt8) (gameId : Nat) (b : BeaconFields) :
      (beaconBytes env ssid gameId b)[playersIndex ssid]? = some b.playersCurrent := by
    rw [beaconBytes_playersHead, ← length_playersHead env ssid gameId b.channel,
      List.getElem?_append_right (Nat.le_refl _), Nat.sub_self, List.getElem?_cons_zero]
  have hsome := (hget env ssid gameId b).symm.trans (h ▸ hindex ▸ hget env' ssid' gameId' b')
  exact Option.some.inj hsome

/-- A flush that sets up a beacon keeps the number true only without clients. -/
theorem PlayersInv.nobodyThere (h : s.PlayersInv) (hbeacon : s.tx.SetsUpBeacon) {env : Arm7Env}
    (htrue : (s.txAllQueueFlush env).PlayersTrue) : s.clients.numConnected = 0 := by
  obtain ⟨txEnv, ssid, gameId, -, hb⟩ := h.onAir_txAllQueueFlush hbeacon env
  obtain ⟨txEnv', ssid', gameId', b, -, hair, hnum⟩ := htrue hb.enable_ne_zero
  have hone : 1 = b.playersCurrent := playersCurrent_eq (hb.beaconOnAir.symm.trans hair)
  rw [(SameTable.txAllQueueFlush s env).numConnected, ← hone] at hnum
  exact (Nat.succ.inj hnum).symm

theorem stepPlayersTrue_iff (h : s.PlayersInv) (e : PlayersEvent) :
    StepPlayersTrue s e ↔ StepNobodyThere s e := by
  refine ⟨fun htrue t ht hbeacon => ?_, fun hnobody => (h.step e hnobody).playersTrue⟩
  cases e with
  | txEnd env =>
    obtain rfl := Option.some.inj ht
    exact h.nobodyThere hbeacon htrue
  | host e hreply =>
    cases e with
    | update env =>
      obtain rfl := Option.some.inj ht
      exact (h.updateMode env).updateChannel.nobodyThere hbeacon htrue
    | _ => cases ht

end Host

/-- **The number of players on the air is true along exactly the runs** in which no beacon is set up
while there are clients. -/
theorem beacon_players_iff (macAddr : MacAddr) (es : List PlayersEvent) :
    Along playersStep StepPlayersTrue (Host.init macAddr) es ↔
      Along playersStep StepNobodyThere (Host.init macAddr) es :=
  along_iff Host.PlayersInv (fun _ e hs hnobody => hs.step e hnobody)
    (fun _ e hs => Host.stepPlayersTrue_iff hs e) es (.init macAddr)

theorem beaconStart_isObject : (TxCall.beaconStart [68, 83] 7).IsObject := by decide

/-- A client authenticates before the first beacon. -/
def joinedBeforeBeacon : List PlayersEvent :=
  [.host (.hostMode 1) trivial, .host (.update .idle) trivial, .host (.update .idle) trivial,
    .host (.clientAuthenticate wifiCmdMac) trivial,
    .host (.call (.zero 0) (.beaconStart [68, 83] 7) beaconStart_isObject) trivial,
    .host (.update .idle) trivial]

/-- The beacon announces one player, and there are two. -/
theorem joinedBeforeBeacon_one :
    ¬ Along playersStep StepPlayersTrue (Host.init macAddrZero) joinedBeforeBeacon := by
  intro htrue
  have hnobody := (along_iff Host.PlayersInv (fun _ e hs hnobody => hs.step e hnobody)
    (fun _ e hs => Host.stepPlayersTrue_iff hs e) joinedBeforeBeacon (.init macAddrZero)).mp htrue
  exact absurd hnobody (by decide +kernel)

end Wifi
