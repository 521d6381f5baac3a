import DsWifi.Host.Lobby

/-!
# The parameters of a host

`Wifi_MultiplayerHostMode` (`source/arm9/ipc.c`) only asks. The limit of clients, the sizes of the
packets and an empty table come with the start of AP mode, but `Wifi_LibraryModeReady` looks at the
library mode alone, and a console that is a host already has nothing to wait for.

* `host_parameters_iff` — a host that is ready has what has been asked for all along exactly if each
  accepted call finds a console that isn't a host, or one with the same parameters and no clients
-/

namespace Wifi

open Infra

/-! ## Frames -/

namespace Host

namespace SameModes

variable {s : Host}

theorem kickRequested (s : Host) (ends : Slot → Option Bool) :
    SameModes s (s.kickRequested ends) := by
  have htake : SameModes s s.takeRequests := ⟨rfl, rfl, rfl, rfl, rfl⟩
  unfold Host.kickRequested
  split
  · have hkicks := HandlesClients.foldl (fun s i => .kickByAid s (ends i) (i.val + 1))
      s.takeRequests s.requestedAids
    exact htake.trans hkicks.toSameModes
  · exact ⟨rfl, rfl, rfl, rfl, rfl⟩

theorem updateEnd (s : Host) (env : Arm7Env) :
    SameModes s (s.updateChannel.txAllQueueFlush env) :=
  ((HandlesClients.updateChannel s).trans (.txAllQueueFlush _ env)).toSameModes

/-- Only `WIFIMODE_NORMAL` changes the library mode and the limit. -/
theorem update (h : s.curMode ≠ .normal) (env : UpdateEnv) : SameModes s (s.update env) := by
  refine .trans ?_ (updateEnd _ _)
  unfold Host.updateMode
  split
  · unfold Host.updateAccessPoint
    split
    · exact (HandlesClients.clientKickAll s env.leaveEnds).toSameModes.trans
        ⟨rfl, rfl, rfl, rfl, rfl⟩
    · exact (kickRequested s env.kickEnds).trans
        (HandlesClients.updateAllowed _ env.closeEnds).toSameModes
  · rename_i hnormal
    exact (h hnormal).elim
  · exact ⟨rfl, rfl, rfl, rfl, rfl⟩

theorem update_requests (s : Host) (env : UpdateEnv) :
    (s.update env).reqMode = s.reqMode ∧ (s.update env).reqLibraryMode = s.reqLibraryMode ∧
      (s.update env).reqMaxClients = s.reqMaxClients := by
  by_cases hnormal : s.curMode = .normal
  · have hrest : SameModes (s.updateMode env) (s.update env) := updateEnd _ _
    rw [hrest.reqMode, hrest.reqLibraryMode, hrest.reqMaxClients]
    unfold Host.updateMode
    simp only [hnormal]
    split <;> exact ⟨rfl, rfl, rfl⟩
  · have hsame := update hnormal env
    exact ⟨hsame.reqMode, hsame.reqLibraryMode, hsame.reqMaxClients⟩

/-- What the start of AP mode does. -/
theorem update_start (hnormal : s.curMode = .normal) (hreq : s.reqMode = .accessPoint)
    (env : UpdateEnv) : (s.update env).curMaxClients = s.reqMaxClients ∧
      ∀ i, ((s.update env).client i).state = .disconnected := by
  have htable := sameTable_update s env
  have hstart : s.updateMode env =
      startAccessPoint { s with curLibraryMode := s.reqLibraryMode } := by
    simp [Host.updateMode, hnormal, hreq]
  rw [hstart] at htable
  refine ⟨htable.curMaxClients, fun i => ?_⟩
  rw [htable.client]
  exact congrArg ConnectedClient.state (Vector.getElem_replicate i.isLt)

end SameModes

end Host

/-! ## The state -/

/-- What a call of `Wifi_MultiplayerHostMode` asks for. -/
structure HostParameters where
  maxClients : MaxClients
  cmdDataSize : Nat
  replyDataSize : Nat
  deriving DecidableEq

/-- A host, with the sizes of the packets. -/
structure HostSession extends Host where
  curCmdDataSize : Nat
  reqCmdDataSize : Nat
  curReplyDataSize : Nat
  reqReplyDataSize : Nat
  /-- The number of accepted calls of `Wifi_MultiplayerHostMode`. -/
  sessions : Nat
  /-- What the last of them has asked for, unless another mode has been asked for since. -/
  asked : Option HostParameters
  /-- The session in which the client of a slot has joined. -/
  joined : Slot → Nat

def HostSession.init (macAddr : MacAddr) : HostSession where
  toHost := .init macAddr
  curCmdDataSize := 0
  reqCmdDataSize := 0
  curReplyDataSize := 0
  reqReplyDataSize := 0
  sessions := 0
  asked := none
  joined _ := 0

namespace HostSession

/-! ## The calls -/

/-- IEEE header, client AID, user data, FCS. -/
def clientSize (clientPacketSize : Nat) : Nat := u32 (24 + 1 + clientPacketSize + 4)

/-- IEEE header, client time, client bits, user data, FCS. -/
def hostSize (hostPacketSize : Nat) : Nat := u32 (24 + 2 + 2 + hostPacketSize + 4)

/-- The parameters of `Wifi_MultiplayerHostMode`, if the packets of the clients fit. -/
def parameters (maxClients : Int) (hostPacketSize clientPacketSize : Nat) :
    Option HostParameters :=
  if Arm9.macClientRxSize < clientSize clientPacketSize then none
  else
    some {
      maxClients := Fin.ofNat _ (max 1 (min maxClients.toNat wifiMaxMultiplayerClients))
      cmdDataSize := u16 (hostSize hostPacketSize)
      replyDataSize := clientSize clientPacketSize }

/-- `Wifi_MultiplayerHostMode`. -/
def multiplayerHostMode (s : HostSession) (maxClients : Int)
    (hostPacketSize clientPacketSize : Nat) : HostSession :=
  match parameters maxClients hostPacketSize clientPacketSize with
  | none => s
  | some params =>
    { s with
      toHost := s.toHost.multiplayerHostMode maxClients
      reqCmdDataSize := params.cmdDataSize
      reqReplyDataSize := params.replyDataSize
      sessions := s.sessions + 1
      asked := some params }

/-- `Wifi_IdleMode`. -/
def idleMode (s : HostSession) : HostSession := { s with reqMode := .normal, asked := none }

/-- `Wifi_InternetMode`. -/
def internetMode (s : HostSession) (wifiLwipEnabled : Bool) : HostSession :=
  if wifiLwipEnabled then
    { s with reqLibraryMode := .internet, reqMode := .normal, asked := none }
  else s

/-- `Wifi_MultiplayerClientMode`. -/
def multiplayerClientMode (s : HostSession) (clientPacketSize : Nat) : HostSession :=
  if Arm9.macClientRxSize < clientSize clientPacketSize then s
  else
    { s with
      reqLibraryMode := .multiplayerClient
      reqMode := .normal
      reqReplyDataSize := clientSize clientPacketSize
      asked := none }

/-- `Wifi_LibraryModeReady`. -/
def libraryModeReady (s : HostSession) : Bool := s.curLibraryMode = s.reqLibraryMode

/-! ## The ARM7 -/

/-- `Wifi_NTR_Update`. The start of AP mode takes the sizes along with the limit. -/
def update (s : HostSession) (env : Host.UpdateEnv) : HostSession :=
  let next := { s with toHost := s.toHost.update env }
  if s.curMode = .normal ∧ s.reqMode = .accessPoint then
    { next with curCmdDataSize := s.reqCmdDataSize, curReplyDataSize := s.reqReplyDataSize }
  else next

/-- `Wifi_MPHost_ClientAuthenticate`. A client that isn't in the table yet joins the session. -/
def clientAuthenticate (s : HostSession) (macaddr : MacAddr) : HostSession :=
  let (host, index) := s.toHost.clientAuthenticate macaddr
  { s with
    toHost := host
    joined := fun i =>
      if index = some i ∧ (s.client i).state = .disconnected then s.sessions else s.joined i }

end HostSession

/-- What can happen. -/
inductive SessionEvent
  | hostMode (maxClients : Int) (hostPacketSize clientPacketSize : Nat)
  | idleMode
  | internetMode (wifiLwipEnabled : Bool)
  | clientMode (clientPacketSize : Nat)
  | update (env : Host.UpdateEnv)
  | clientAuthenticate (macaddr : MacAddr)
  | clientAssociate (macaddr : MacAddr)
  | clientDisconnect (macaddr : MacAddr)

def sessionStep (s : HostSession) : SessionEvent → HostSession
  | .hostMode maxClients hostPacketSize clientPacketSize =>
    s.multiplayerHostMode maxClients hostPacketSize clientPacketSize
  | .idleMode => s.idleMode
  | .internetMode wifiLwipEnabled => s.internetMode wifiLwipEnabled
  | .clientMode clientPacketSize => s.multiplayerClientMode clientPacketSize
  | .update env => s.update env
  | .clientAuthenticate macaddr => s.clientAuthenticate macaddr
  | .clientAssociate macaddr => { s with toHost := (s.toHost.clientAssociate macaddr).1 }
  | .clientDisconnect macaddr => { s with toHost := (s.toHost.clientDisconnect macaddr).1 }

namespace HostSession

/-- The limit of clients, clamped. -/
theorem clamp_eq (maxClients : Int) :
    (if (if 15 < maxClients then 15 else maxClients) < 1 then 1
      else if 15 < maxClients then 15 else maxClients).toNat =
      max 1 (min maxClients.toNat wifiMaxMultiplayerClients) := by
  have h15 : wifiMaxMultiplayerClients = 15 := rfl
  split_ifs <;> omega

/-- The parameters are the ones that the ARM9 asks for. -/
theorem parameters_requested (s : Arm9) (maxClients : Int) (hostPacketSize clientPacketSize : Nat) :
    match parameters maxClients hostPacketSize clientPacketSize with
    | none => s.multiplayerHostMode maxClients hostPacketSize clientPacketSize = (s, false)
    | some params =>
      let s' := (s.multiplayerHostMode maxClients hostPacketSize clientPacketSize).1
      s'.reqMaxClients = params.maxClients ∧ s'.reqCmdDataSize = params.cmdDataSize ∧
        s'.reqReplyDataSize = params.replyDataSize := by
  unfold parameters Arm9.multiplayerHostMode
  by_cases hfits : Arm9.macClientRxSize < clientSize clientPacketSize
  · rw [if_pos hfits]
    exact if_pos hfits
  · rw [if_neg hfits]
    dsimp only
    rw [if_neg (show ¬ Arm9.macClientRxSize < u32 (24 + 1 + clientPacketSize + 4) from hfits)]
    have hlt : max 1 (min maxClients.toNat wifiMaxMultiplayerClients) <
        wifiMaxMultiplayerClients + 1 := by
      have h15 : wifiMaxMultiplayerClients = 15 := rfl
      omega
    refine ⟨(clamp_eq maxClients).trans ?_, rfl, rfl⟩
    rw [Fin.val_ofNat, Nat.mod_eq_of_lt hlt]

/-! ## The law -/

/-- The parameters are in effect. -/
def HasParameters (s : HostSession) (params : HostParameters) : Prop :=
  s.curMaxClients = params.maxClients ∧ s.curCmdDataSize = params.cmdDataSize ∧
    s.curReplyDataSize = params.replyDataSize

/-- If the host is ready, what has been asked for last is in effect, and no client is left from an
earlier session. -/
def TakesEffect (s : HostSession) : Prop :=
  ∀ params, s.asked = some params → s.libraryModeReady = true →
    s.HasParameters params ∧
      ∀ i, (s.client i).state ≠ .disconnected → s.joined i = s.sessions

/-- An accepted call that finds a host finds one with the same parameters and without clients. -/
def AsksAnew (s : HostSession) : SessionEvent → Prop
  | .hostMode maxClients hostPacketSize clientPacketSize =>
    ∀ params, parameters maxClients hostPacketSize clientPacketSize = some params →
      s.curLibraryMode = .multiplayerHost →
        s.HasParameters params ∧ ∀ i, (s.client i).state = .disconnected
  | _ => True

/-- What has been asked for is what the ARM7 is going to see. -/
structure Asking (s : HostSession) : Prop where
  joined : ∀ i, s.joined i ≤ s.sessions
  request : ∀ params, s.asked = some params →
    s.reqMode = .accessPoint ∧ s.reqLibraryMode = .multiplayerHost ∧
      s.reqMaxClients = params.maxClients ∧ s.reqCmdDataSize = params.cmdDataSize ∧
      s.reqReplyDataSize = params.replyDataSize

variable {s s' : HostSession}

theorem libraryModeReady_iff : s.libraryModeReady = true ↔ s.curLibraryMode = s.reqLibraryMode :=
  decide_eq_true_iff

/-- Nothing has been asked for. -/
theorem TakesEffect.of_none (h : s.asked = none) : s.TakesEffect := by
  intro params hasked
  rw [h] at hasked
  cases hasked

theorem Asking.of_none (h : s.asked = none) (hjoined : ∀ i, s.joined i ≤ s.sessions) :
    s.Asking := by
  refine ⟨hjoined, fun params hasked => ?_⟩
  rw [h] at hasked
  cases hasked

/-- What an operation on the table leaves alone. -/
structure SameSession (s s' : HostSession) : Prop where
  modes : Host.SameModes s.toHost s'.toHost
  curCmdDataSize : s'.curCmdDataSize = s.curCmdDataSize
  reqCmdDataSize : s'.reqCmdDataSize = s.reqCmdDataSize
  curReplyDataSize : s'.curReplyDataSize = s.curReplyDataSize
  reqReplyDataSize : s'.reqReplyDataSize = s.reqReplyDataSize
  sessions : s'.sessions = s.sessions
  asked : s'.asked = s.asked

theorem Asking.of_same (h : s.Asking) (hs : SameSession s s')
    (hjoined : ∀ i, s'.joined i ≤ s'.sessions) : s'.Asking := by
  refine ⟨hjoined, fun params hasked => ?_⟩
  rw [hs.modes.reqMode, hs.modes.reqLibraryMode, hs.modes.reqMaxClients, hs.reqCmdDataSize,
    hs.reqReplyDataSize]
  exact h.request params (hs.asked ▸ hasked)

/-- The law is kept by whatever lets nobody from an earlier session in. -/
theorem TakesEffect.of_same (h : s.TakesEffect) (hs : SameSession s s')
    (hclients : ∀ i, (s'.client i).state ≠ .disconnected →
      s'.joined i = s'.sessions ∨ (s.client i).state ≠ .disconnected ∧ s'.joined i = s.joined i) :
    s'.TakesEffect := by
  intro params hasked hready
  rw [libraryModeReady_iff, hs.modes.curLibraryMode, hs.modes.reqLibraryMode] at hready
  obtain ⟨hparams, hall⟩ := h params (hs.asked ▸ hasked) (libraryModeReady_iff.mpr hready)
  refine ⟨?_, fun i hi => ?_⟩
  · unfold HasParameters
    rw [hs.modes.curMaxClients, hs.curCmdDataSize, hs.curReplyDataSize]
    exact hparams
  · obtain hjoined | ⟨hold, hjoined⟩ := hclients i hi
    · exact hjoined
    · rw [hjoined, hs.sessions]
      exact hall i hold

/-- Nobody is connected who has not been before. -/
theorem connected_of_noneJoins {s s' : Host} (h : Host.NoneJoins s s') {i : Slot}
    (hi : (s'.client i).state ≠ .disconnected) : (s.client i).state ≠ .disconnected := by
  obtain h | h := h i
  · exact (hi h).elim
  · rwa [h] at hi

/-! ### The table -/

theorem sameSession_clientAuthenticate (s : HostSession) (macaddr : MacAddr) :
    SameSession s (s.clientAuthenticate macaddr) :=
  ⟨(Host.HandlesClients.clientAuthenticate s.toHost macaddr).toSameModes,
    rfl, rfl, rfl, rfl, rfl, rfl⟩

theorem sameSession_clientAssociate (s : HostSession) (macaddr : MacAddr) :
    SameSession s (sessionStep s (.clientAssociate macaddr)) :=
  ⟨(Host.HandlesClients.clientAssociate s.toHost macaddr).toSameModes,
    rfl, rfl, rfl, rfl, rfl, rfl⟩

theorem sameSession_clientDisconnect (s : HostSession) (macaddr : MacAddr) :
    SameSession s (sessionStep s (.clientDisconnect macaddr)) :=
  ⟨(Host.HandlesClients.clientDisconnect s.toHost macaddr).toSameModes,
    rfl, rfl, rfl, rfl, rfl, rfl⟩

theorem state_setClient_of_ne (s : Host) {i index : Slot} (hne : i ≠ index)
    (c : ConnectedClient) : ((s.setClient index c).client i).state = (s.client i).state := by
  rw [Host.client_setClient, if_neg hne]

/-- A client that authenticates has been in the table, or gets a free slot. -/
theorem client_clientAuthenticate (s : Host) (macaddr : MacAddr) {i : Slot}
    (hi : ((s.clientAuthenticate macaddr).1.client i).state ≠ .disconnected) :
    (s.client i).state ≠ .disconnected ∨ (s.clientAuthenticate macaddr).2 = some i := by
  by_cases hold : (s.client i).state = .disconnected
  · refine .inr ?_
    unfold Host.clientAuthenticate at hi ⊢
    split at hi
    · exact (hi hold).elim
    · rename_i hallow
      rw [if_neg hallow]
      cases hfound : s.clientGetByMacAddr macaddr with
      | some index =>
        simp only [hfound] at hi
        by_cases hindex : i = index
        · rw [hindex]
        · exact (hi ((state_setClient_of_ne s hindex _).trans hold)).elim
      | none =>
        simp only [hfound] at hi
        cases hfree : s.freeSlot with
        | none =>
          simp only [hfree] at hi
          exact (hi hold).elim
        | some index =>
          simp only [hfree] at hi
          by_cases hindex : i = index
          · rw [hindex]
          · exact (hi ((state_setClient_of_ne s hindex _).trans hold)).elim
  · exact .inl hold

theorem joined_clientAuthenticate (s : HostSession) (macaddr : MacAddr) (i : Slot) :
    (s.clientAuthenticate macaddr).joined i =
      if (s.toHost.clientAuthenticate macaddr).2 = some i ∧ (s.client i).state = .disconnected then
        s.sessions
      else s.joined i := rfl

theorem TakesEffect.clientAuthenticate (h : s.TakesEffect) (macaddr : MacAddr) :
    (s.clientAuthenticate macaddr).TakesEffect := by
  refine h.of_same (sameSession_clientAuthenticate s macaddr) fun i hi => ?_
  rw [joined_clientAuthenticate]
  obtain hold | hindex := client_clientAuthenticate s.toHost macaddr hi
  · exact .inr ⟨hold, if_neg fun hnew => hold hnew.2⟩
  · by_cases hold : (s.client i).state = .disconnected
    · exact .inl (if_pos ⟨hindex, hold⟩)
    · exact .inr ⟨hold, if_neg fun hnew => hold hnew.2⟩

theorem client_clientAssociate (s : Host) (macaddr : MacAddr) {i : Slot}
    (hi : ((s.clientAssociate macaddr).1.client i).state ≠ .disconnected) :
    (s.client i).state ≠ .disconnected := by
  unfold Host.clientAssociate at hi
  split at hi
  · exact hi
  · split at hi
    · exact hi
    · rename_i index hindex
      split at hi
      · exact hi
      · rename_i hstate
        by_cases heq : i = index
        · rw [heq, hstate]
          nofun
        · exact fun hold => hi ((state_setClient_of_ne s heq _).trans hold)
      · exact hi

theorem client_clientDisconnect (s : Host) (macaddr : MacAddr) {i : Slot}
    (hi : ((s.clientDisconnect macaddr).1.client i).state ≠ .disconnected) :
    (s.client i).state ≠ .disconnected := by
  unfold Host.clientDisconnect at hi
  split at hi
  · exact hi
  · rename_i index hindex
    by_cases heq : i = index
    · rw [heq]
      exact (Host.clientGetByMacAddr_some hindex).2.1
    · exact fun hold => hi ((state_setClient_of_ne s heq _).trans hold)

/-! ### The update -/

/-- An update other than the start of AP mode takes nothing over. -/
theorem sameSession_update (hnormal : s.curMode ≠ .normal) (env : Host.UpdateEnv) :
    SameSession s (s.update env) := by
  unfold update
  dsimp only
  rw [if_neg fun h => hnormal h.1]
  exact ⟨Host.SameModes.update hnormal env, rfl, rfl, rfl, rfl, rfl, rfl⟩

/-- The start of AP mode takes everything over. -/
theorem update_start (hnormal : s.curMode = .normal) (hreq : s.reqMode = .accessPoint)
    (env : Host.UpdateEnv) :
    (s.update env).curMaxClients = s.reqMaxClients ∧
      (s.update env).curCmdDataSize = s.reqCmdDataSize ∧
      (s.update env).curReplyDataSize = s.reqReplyDataSize ∧
      ∀ i, ((s.update env).client i).state = .disconnected := by
  obtain ⟨hlimit, hclients⟩ := Host.SameModes.update_start hnormal hreq env
  unfold update
  dsimp only
  rw [if_pos ⟨hnormal, hreq⟩]
  exact ⟨hlimit, rfl, rfl, hclients⟩

/-- What the ARM9 has asked for, and who has joined when, is no concern of the update. -/
theorem update_asked (s : HostSession) (env : Host.UpdateEnv) :
    (s.update env).toHost = s.toHost.update env ∧ (s.update env).asked = s.asked ∧
      (s.update env).sessions = s.sessions ∧ (s.update env).joined = s.joined ∧
      (s.update env).reqCmdDataSize = s.reqCmdDataSize ∧
      (s.update env).reqReplyDataSize = s.reqReplyDataSize := by
  unfold update
  dsimp only
  split <;> exact ⟨rfl, rfl, rfl, rfl, rfl, rfl⟩

theorem Asking.update (h : s.Asking) (env : Host.UpdateEnv) : (s.update env).Asking := by
  obtain ⟨hhost, hasked, hsessions, hjoined, hcmd, hreply⟩ := s.update_asked env
  obtain ⟨hreq, hlibrary, hlimit⟩ := Host.SameModes.update_requests s.toHost env
  constructor
  · rw [hjoined, hsessions]
    exact h.joined
  · rw [hhost, hasked, hreq, hlibrary, hlimit, hcmd, hreply]
    exact h.request

theorem TakesEffect.update (h : s.TakesEffect) (hasking : s.Asking) (env : Host.UpdateEnv) :
    (s.update env).TakesEffect := by
  obtain ⟨hhost, hasked, hsessions, hjoined, -⟩ := s.update_asked env
  by_cases hnormal : s.curMode = .normal
  · -- AP mode starts with the parameters of the latest call and without clients.
    intro params hparams _
    rw [hasked] at hparams
    obtain ⟨hreq, -, hlimit, hcmd, hreply⟩ := hasking.request params hparams
    obtain ⟨hlimit', hcmd', hreply', hclients⟩ := update_start hnormal hreq env
    exact ⟨⟨hlimit'.trans hlimit, hcmd'.trans hcmd, hreply'.trans hreply⟩,
      fun i hi => (hi (hclients i)).elim⟩
  · refine h.of_same (sameSession_update hnormal env) fun i hi => .inr ⟨?_, by rw [hjoined]⟩
    rw [hhost] at hi
    exact connected_of_noneJoins
      ((Host.tablePred_noneJoins s.toHost).update (.refl s.toHost) env) hi

/-! ### The steps -/

/-- After an accepted call, the law is that there is nothing left to take over. -/
theorem takesEffect_hostMode_iff (h : s.TakesEffect) (hasking : s.Asking) (maxClients : Int)
    (hostPacketSize clientPacketSize : Nat) :
    (s.multiplayerHostMode maxClients hostPacketSize clientPacketSize).TakesEffect ↔
      s.AsksAnew (.hostMode maxClients hostPacketSize clientPacketSize) := by
  unfold multiplayerHostMode AsksAnew
  cases hparams : parameters maxClients hostPacketSize clientPacketSize with
  | none =>
    refine iff_of_true h fun params hsome => ?_
    cases hparams.symm.trans hsome
  | some params =>
    constructor
    · intro hlaw params' hsame hhost
      obtain rfl := Option.some.inj (hparams.symm.trans hsame)
      obtain ⟨heffect, hall⟩ := hlaw params rfl (libraryModeReady_iff.mpr hhost)
      refine ⟨heffect, fun i => ?_⟩
      -- A client that is there already has joined an earlier session.
      by_contra hi
      have hjoined : s.joined i = s.sessions + 1 := hall i hi
      have hle := hasking.joined i
      omega
    · intro hanew params' hsame hready
      obtain rfl := Option.some.inj hsame
      obtain ⟨heffect, hnone⟩ := hanew params hparams (libraryModeReady_iff.mp hready)
      exact ⟨heffect, fun i hi => (hi (hnone i)).elim⟩

theorem Asking.hostMode (h : s.Asking) (maxClients : Int)
    (hostPacketSize clientPacketSize : Nat) :
    (s.multiplayerHostMode maxClients hostPacketSize clientPacketSize).Asking := by
  unfold multiplayerHostMode
  cases hparams : parameters maxClients hostPacketSize clientPacketSize with
  | none => exact h
  | some params =>
    refine ⟨fun i => Nat.le_succ_of_le (h.joined i), fun params' hsame => ?_⟩
    obtain rfl := Option.some.inj hsame
    refine ⟨rfl, rfl, ?_, rfl, rfl⟩
    unfold parameters at hparams
    split at hparams
    · cases hparams
    · rw [← Option.some.inj hparams]
      rfl

theorem Asking.step (h : s.Asking) (event : SessionEvent) : (sessionStep s event).Asking := by
  cases event with
  | hostMode maxClients hostPacketSize clientPacketSize => exact h.hostMode ..
  | idleMode => exact .of_none rfl h.joined
  | internetMode wifiLwipEnabled =>
    show (s.internetMode wifiLwipEnabled).Asking
    unfold internetMode
    split
    · exact .of_none rfl h.joined
    · exact h
  | clientMode clientPacketSize =>
    show (s.multiplayerClientMode clientPacketSize).Asking
    unfold multiplayerClientMode
    split
    · exact h
    · exact .of_none rfl h.joined
  | update env => exact h.update env
  | clientAuthenticate macaddr =>
    refine h.of_same (sameSession_clientAuthenticate s macaddr) fun i => ?_
    show (s.clientAuthenticate macaddr).joined i ≤ s.sessions
    rw [joined_clientAuthenticate]
    split
    · exact Nat.le_refl _
    · exact h.joined i
  | clientAssociate macaddr =>
    exact h.of_same (sameSession_clientAssociate s macaddr) h.joined
  | clientDisconnect macaddr =>
    exact h.of_same (sameSession_clientDisconnect s macaddr) h.joined

theorem takesEffect_step_iff (h : s.TakesEffect) (hasking : s.Asking) (event : SessionEvent) :
    (sessionStep s event).TakesEffect ↔ s.AsksAnew event := by
  cases event with
  | hostMode maxClients hostPacketSize clientPacketSize =>
    exact takesEffect_hostMode_iff h hasking ..
  | idleMode => exact iff_of_true (.of_none rfl) trivial
  | internetMode wifiLwipEnabled =>
    refine iff_of_true ?_ trivial
    show (s.internetMode wifiLwipEnabled).TakesEffect
    unfold internetMode
    split
    · exact .of_none rfl
    · exact h
  | clientMode clientPacketSize =>
    refine iff_of_true ?_ trivial
    show (s.multiplayerClientMode clientPacketSize).TakesEffect
    unfold multiplayerClientMode
    split
    · exact h
    · exact .of_none rfl
  | update env => exact iff_of_true (h.update hasking env) trivial
  | clientAuthenticate macaddr => exact iff_of_true (h.clientAuthenticate macaddr) trivial
  | clientAssociate macaddr =>
    exact iff_of_true (h.of_same (sameSession_clientAssociate s macaddr)
      fun i hi => .inr ⟨client_clientAssociate s.toHost macaddr hi, rfl⟩) trivial
  | clientDisconnect macaddr =>
    exact iff_of_true (h.of_same (sameSession_clientDisconnect s macaddr)
      fun i hi => .inr ⟨client_clientDisconnect s.toHost macaddr hi, rfl⟩) trivial

end HostSession

/-- **What a host has been asked for is in effect as soon as it is ready, all along a run, exactly
if** each accepted call finds a console that isn't a host, or nothing to take over. -/
theorem host_parameters_iff (macAddr : MacAddr) (events : List SessionEvent) :
    Along sessionStep (fun s event => (sessionStep s event).TakesEffect) (.init macAddr) events ↔
      Along sessionStep HostSession.AsksAnew (.init macAddr) events := by
  refine along_iff (fun s => s.TakesEffect ∧ s.Asking) ?_ ?_ events ⟨.of_none rfl, ?_⟩
  · rintro s event ⟨h, hasking⟩ hanew
    exact ⟨(HostSession.takesEffect_step_iff h hasking event).mpr hanew, hasking.step event⟩
  · rintro s event ⟨h, hasking⟩
    exact HostSession.takesEffect_step_iff h hasking event
  · exact .of_none rfl fun i => Nat.le_refl _

/-- A host for four clients is asked to be one for eight. It is ready at once, and stays a host for
four. -/
theorem host_parameters_old : ¬ (run sessionStep (.init macAddrZero)
    [.hostMode 4 10 10, .update .idle, .update .idle, .hostMode 8 20 20]).TakesEffect := by
  intro h
  have hlimit := (h ⟨8, 52, 49⟩ (by decide +kernel) (by decide +kernel)).1.1
  exact absurd hlimit (by decide +kernel)

end Wifi
