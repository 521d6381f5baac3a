import DsWifi.Host.Beacon
import DsWifi.Host.Table

/-!
# The invariant of a host

The table is consistent, the transmitter is in order, and the mask of kick requests holds what fits
in it of the AIDs that the ARM9 has asked for.

* `Host.Inv.run` — the invariant holds in every run
-/

namespace Wifi

open Infra Infra.Mem

namespace Host

/-! ## What leaves the requests alone -/

/-- The step takes no requests, and keeps the transmitter in order. -/
structure KeepsRequests (s s' : Host) : Prop where
  tx : TxSound s.tx → TxSound s'.tx
  mask : s'.clients.reqKickClientAidMask = s.clients.reqKickClientAidMask
  kickRequests : s'.monitor.kickRequests = s.monitor.kickRequests

namespace KeepsRequests

variable {s s' s'' : Host}

theorem refl (s : Host) : KeepsRequests s s := ⟨id, rfl, rfl⟩

theorem trans (h : KeepsRequests s s') (h' : KeepsRequests s' s'') : KeepsRequests s s'' :=
  ⟨h'.tx ∘ h.tx, h'.mask.trans h.mask, h'.kickRequests.trans h.kickRequests⟩

end KeepsRequests

/-- The library mode, the limit of clients, and what is requested. -/
structure SameModes (s s' : Host) : Prop where
  reqMode : s'.reqMode = s.reqMode
  curLibraryMode : s'.curLibraryMode = s.curLibraryMode
  reqLibraryMode : s'.reqLibraryMode = s.reqLibraryMode
  curMaxClients : s'.curMaxClients = s.curMaxClients
  reqMaxClients : s'.reqMaxClients = s.reqMaxClients

namespace SameModes

variable {s s' s'' : Host}

theorem refl (s : Host) : SameModes s s := ⟨rfl, rfl, rfl, rfl, rfl⟩

theorem trans (h : SameModes s s') (h' : SameModes s' s'') : SameModes s s'' :=
  ⟨h'.reqMode.trans h.reqMode, h'.curLibraryMode.trans h.curLibraryMode,
    h'.reqLibraryMode.trans h.reqLibraryMode, h'.curMaxClients.trans h.curMaxClients,
    h'.reqMaxClients.trans h.reqMaxClients⟩

end SameModes

/-- The step handles clients: it takes no requests, keeps the transmitter in order, and leaves the
modes alone. -/
structure HandlesClients (s s' : Host) : Prop extends KeepsRequests s s', SameModes s s'

namespace HandlesClients

variable {s s' s'' : Host}

theorem refl (s : Host) : HandlesClients s s := ⟨.refl s, .refl s⟩

theorem trans (h : HandlesClients s s') (h' : HandlesClients s' s'') : HandlesClients s s'' :=
  ⟨h.toKeepsRequests.trans h'.toKeepsRequests, h.toSameModes.trans h'.toSameModes⟩

theorem setBeaconCurrentPlayers (s : Host) : HandlesClients s s.setBeaconCurrentPlayers :=
  ⟨⟨fun h => h.setBeaconCurrentPlayers _, rfl, rfl⟩, ⟨rfl, rfl, rfl, rfl, rfl⟩⟩

theorem txArm7QueueAdd (s : Host) {bytes : List UInt8} (hlen : bytes.length ≤ 2048) :
    HandlesClients s (s.txArm7QueueAdd bytes) := by
  have hk (h : TxSound s.tx) : TxSound (s.tx.txArm7QueueAdd (frameMem bytes) bytes.length).1 :=
    h.keepsBeacon (.txArm7QueueAdd _ hlen h.queueFits)
  exact ⟨⟨hk, rfl, rfl⟩, ⟨rfl, rfl, rfl, rfl, rfl⟩⟩

theorem length_deauthenticationBytes (macAddr destMac : MacAddr) (reasonCode : Nat) :
    (deauthenticationBytes macAddr destMac reasonCode).length = 38 := by
  simp [deauthenticationBytes, sizeofTxHeader, sizeofIeeeDataFrameHeader]

theorem sendDeauthentication (s : Host) (ended : Option Bool) (destMac : MacAddr)
    (reasonCode : Nat) : HandlesClients s (s.sendDeauthentication ended destMac reasonCode) := by
  have hended : HandlesClients s { s with tx := s.tx.mayComplete ended } :=
    ⟨⟨fun h => h.keepsBeacon (.mayComplete s.tx ended), rfl, rfl⟩, ⟨rfl, rfl, rfl, rfl, rfl⟩⟩
  exact hended.trans (txArm7QueueAdd _ (by rw [length_deauthenticationBytes]; decide))

theorem resetClients (s : Host) : HandlesClients s s.resetClients :=
  ⟨⟨fun h => h.setBeaconCurrentPlayers _, rfl, rfl⟩, ⟨rfl, rfl, rfl, rfl, rfl⟩⟩

theorem clientAuthenticate (s : Host) (macaddr : MacAddr) :
    HandlesClients s (s.clientAuthenticate macaddr).1 := by
  unfold Host.clientAuthenticate
  split
  · exact refl s
  · split
    · exact ⟨⟨id, rfl, rfl⟩, ⟨rfl, rfl, rfl, rfl, rfl⟩⟩
    · split
      · exact ⟨⟨fun h => h.setBeaconCurrentPlayers _, rfl, rfl⟩, ⟨rfl, rfl, rfl, rfl, rfl⟩⟩
      · exact refl s

theorem clientAssociate (s : Host) (macaddr : MacAddr) :
    HandlesClients s (s.clientAssociate macaddr).1 := by
  unfold Host.clientAssociate
  split
  · exact refl s
  · split
    · exact refl s
    · split
      · exact refl s
      · exact ⟨⟨id, rfl, rfl⟩, ⟨rfl, rfl, rfl, rfl, rfl⟩⟩
      · exact refl s

theorem clientDisconnect (s : Host) (macaddr : MacAddr) :
    HandlesClients s (s.clientDisconnect macaddr).1 := by
  unfold Host.clientDisconnect
  split
  · exact refl s
  · exact ⟨⟨fun h => h.setBeaconCurrentPlayers _, rfl, rfl⟩, ⟨rfl, rfl, rfl, rfl, rfl⟩⟩

/-- A client that is dropped. -/
theorem drop (s : Host) (ended : Option Bool) (destMac : MacAddr) (reasonCode : Nat) (i : Slot)
    (aid : Nat) : HandlesClients s ((((s.sendDeauthentication ended destMac reasonCode).setState i
      .disconnected).clearAid aid).decConnected) :=
  (sendDeauthentication s ended destMac reasonCode).trans
    ⟨⟨id, rfl, rfl⟩, ⟨rfl, rfl, rfl, rfl, rfl⟩⟩

theorem kickByAid (s : Host) (ended : Option Bool) (associationId : Nat) :
    HandlesClients s (s.kickByAid ended associationId) := by
  unfold Host.kickByAid
  split
  · exact refl s
  · dsimp only
    split
    · split
      · exact refl s
      · exact (drop s ended _ _ _ _).trans (setBeaconCurrentPlayers _)
    · exact refl s

theorem kickNotAssociated (s : Host) (ended : Option Bool) (i : Slot) :
    HandlesClients s (s.kickNotAssociated ended i) := by
  unfold Host.kickNotAssociated
  split
  · exact drop s ended _ _ _ _
  · exact refl s

theorem foldl {f : Host → Slot → Host} (hf : ∀ s i, HandlesClients s (f s i)) (s : Host)
    (is : List Slot) : HandlesClients s (is.foldl f s) := by
  induction is generalizing s with
  | nil => exact refl s
  | cons i is ih => exact (hf s i).trans (ih (f s i))

theorem kickNotAssociatedClients (s : Host) (ends : Slot → Option Bool) :
    HandlesClients s (s.kickNotAssociatedClients ends) :=
  (foldl (fun s i => kickNotAssociated s (ends i) i) s s.slots).trans (setBeaconCurrentPlayers _)

theorem clientKickAll (s : Host) (ended : Option Bool) : HandlesClients s (s.clientKickAll ended) :=
  (resetClients s).trans (sendDeauthentication _ _ _ _)

theorem updateAllowed (s : Host) (ends : Slot → Option Bool) :
    HandlesClients s (s.updateAllowed ends) := by
  have hset (allows : Nat) :
      HandlesClients s { s with tx := s.tx.setBeaconAllowsConnections allows } :=
    ⟨⟨fun h => h.setBeaconAllowsConnections allows, rfl, rfl⟩, ⟨rfl, rfl, rfl, rfl, rfl⟩⟩
  unfold Host.updateAllowed
  dsimp only
  split
  · split
    · exact hset 1
    · exact (hset 0).trans (kickNotAssociatedClients _ ends)
  · exact refl s

theorem updateChannel (s : Host) : HandlesClients s s.updateChannel := by
  unfold Host.updateChannel Host.setChannel
  split
  · split
    · exact refl s
    · exact ⟨⟨fun h => h.setBeaconChannel _, rfl, rfl⟩, ⟨rfl, rfl, rfl, rfl, rfl⟩⟩
  · exact refl s

theorem txAllQueueFlush (s : Host) (env : Arm7Env) : HandlesClients s (s.txAllQueueFlush env) :=
  ⟨⟨fun h => h.txAllQueueFlush _, rfl, rfl⟩, ⟨rfl, rfl, rfl, rfl, rfl⟩⟩

end HandlesClients

/-! ## The requests -/

/-- The mask has the bits of the requests that fit in it, and it can have older ones. -/
structure RequestsSound (s : Host) : Prop where
  mask : ∀ n ∈ s.monitor.kickRequests, n < 8 → s.clients.reqKickClientAidMask.getLsbD n = true
  range : ∀ n ∈ s.monitor.kickRequests, 1 ≤ n ∧ n ≤ wifiMaxMultiplayerClients

variable {s s' : Host}

theorem KeepsRequests.requestsSound (hk : KeepsRequests s s') (h : s.RequestsSound) :
    s'.RequestsSound :=
  ⟨by rw [hk.mask, hk.kickRequests]; exact h.mask, by rw [hk.kickRequests]; exact h.range⟩

/-- Without requests there is nothing to say about the mask. -/
theorem RequestsSound.of_none (hnone : s.monitor.kickRequests = []) : s.RequestsSound where
  mask n hn := by simp [hnone] at hn
  range n hn := by simp [hnone] at hn

theorem RequestsSound.multiplayerKickClientByAid (h : s.RequestsSound) (associationId : Int) :
    (s.multiplayerKickClientByAid associationId).RequestsSound := by
  unfold Host.multiplayerKickClientByAid
  split
  · exact h
  · rename_i hrange
    constructor
    · intro n hn hlt
      show (s.clients.reqKickClientAidMask ||| bit 8 associationId.toNat).getLsbD n = true
      rw [BitVec.getLsbD_or, BitVec.getLsbD_twoPow]
      rcases List.mem_append.mp hn with hn | hn
      · rw [h.mask n hn hlt, Bool.true_or]
      · rw [← List.mem_singleton.mp hn]
        simp [hlt]
    · intro n hn
      rcases List.mem_append.mp hn with hn | hn
      · exact h.range n hn
      · rw [List.mem_singleton.mp hn]
        unfold wifiMaxMultiplayerClients at *
        omega

/-! ## The invariant -/

/-- What holds in every state of a host. -/
structure Inv (s : Host) : Prop where
  consistent : s.Consistent
  tx : TxSound s.tx
  requests : s.RequestsSound

namespace Inv

theorem handlesClients (h : s.Inv) (hk : HandlesClients s s') (hc : s'.Consistent) : s'.Inv :=
  ⟨hc, hk.tx h.tx, hk.toKeepsRequests.requestsSound h.requests⟩

/-- Taking the requests and kicking leaves no requests. -/
theorem kickRequested (h : s.Inv) (ends : Slot → Option Bool) :
    TxSound (s.kickRequested ends).tx ∧ (s.kickRequested ends).RequestsSound := by
  unfold Host.kickRequested
  split
  · have hk := HandlesClients.foldl (fun s i => .kickByAid s (ends i) (i.val + 1)) s.takeRequests
      s.requestedAids
    exact ⟨hk.tx h.tx, hk.toKeepsRequests.requestsSound (.of_none rfl)⟩
  · exact ⟨h.tx, .of_none rfl⟩

theorem updateMode (h : s.Inv) (env : UpdateEnv) : (s.updateMode env).Inv := by
  have hc := Consistent.tablePred.updateMode h.consistent env
  unfold Host.updateMode at hc ⊢
  split at hc
  · unfold Host.updateAccessPoint at hc ⊢
    split at hc
    · rename_i hleave
      rw [if_pos hleave]
      have htx := (HandlesClients.clientKickAll s env.leaveEnds).tx h.tx
      exact ⟨hc, ⟨htx.ring, htx.infoAddr, htx.queueFits⟩, .of_none rfl⟩
    · rename_i hleave
      rw [if_neg hleave]
      obtain ⟨htx, hr⟩ := h.kickRequested env.kickEnds
      have hk := HandlesClients.updateAllowed (s.kickRequested env.kickEnds) env.closeEnds
      exact ⟨hc, hk.tx htx, hk.toKeepsRequests.requestsSound hr⟩
  · dsimp only at hc ⊢
    split at hc
    · rename_i hreq
      rw [if_pos hreq]
      exact ⟨hc, h.tx.setBeaconCurrentPlayers _, ⟨h.requests.mask, h.requests.range⟩⟩
    · rename_i hreq
      rw [if_neg hreq]
      exact ⟨hc, h.tx, ⟨h.requests.mask, h.requests.range⟩⟩
  · exact ⟨hc, h.tx, ⟨h.requests.mask, h.requests.range⟩⟩

theorem update (h : s.Inv) (env : UpdateEnv) : (s.update env).Inv :=
  ((h.updateMode env).handlesClients
    ((HandlesClients.updateChannel _).trans (.txAllQueueFlush _ _))
    (Consistent.tablePred.update h.consistent env))

theorem dsiMode_txEnv (s : Host) (env : TxEnv) : (s.txEnv env).dsiMode = false := by
  show decide ((if s.allowClients then wflagReqAllowclients else 0) &&& wflagReqDsiMode ≠ 0) = false
  split <;> decide

/-- **The invariant is kept by every event.** -/
theorem step (h : s.Inv) (e : HostEvent) : (hostStep s e).Inv := by
  have hc := h.consistent.step e
  obtain ⟨hmask, hrange⟩ := h.requests
  cases e with
  | hostMode maxClients => exact ⟨hc, h.tx, ⟨hmask, hrange⟩⟩
  | request mode library => exact ⟨hc, h.tx, ⟨hmask, hrange⟩⟩
  | allowNewClients allow => exact ⟨hc, h.tx, ⟨hmask, hrange⟩⟩
  | kickClientByAid associationId =>
    refine ⟨hc, ?_, RequestsSound.multiplayerKickClientByAid ⟨hmask, hrange⟩ associationId⟩
    show TxSound (s.multiplayerKickClientByAid associationId).tx
    unfold Host.multiplayerKickClientByAid
    split <;> exact h.tx
  | requestChannel channel =>
    have hk : KeepsRequests s (s.requestChannel channel) := by
      unfold Host.requestChannel
      split <;> exact ⟨id, rfl, rfl⟩
    exact ⟨hc, hk.tx h.tx, hk.requestsSound ⟨hmask, hrange⟩⟩
  | call env call hobject =>
    exact ⟨hc, ⟨h.tx.ring.call (dsiMode_txEnv s env) hobject, h.tx.infoAddr, h.tx.queueFits⟩,
      ⟨hmask, hrange⟩⟩
  | resetClients curMaxClients =>
    exact ⟨hc, h.tx.setBeaconCurrentPlayers _, ⟨hmask, hrange⟩⟩
  | clientAuthenticate macaddr => exact h.handlesClients (.clientAuthenticate s macaddr) hc
  | clientAssociate macaddr => exact h.handlesClients (.clientAssociate s macaddr) hc
  | clientDisconnect macaddr => exact h.handlesClients (.clientDisconnect s macaddr) hc
  | kickByAid ended associationId => exact h.handlesClients (.kickByAid s ended associationId) hc
  | kickNotAssociatedClients ends => exact h.handlesClients (.kickNotAssociatedClients s ends) hc
  | clientKickAll ended => exact h.handlesClients (.clientKickAll s ended) hc
  | arm7QueueAdd bytes hlen => exact h.handlesClients (.txArm7QueueAdd s hlen) hc
  | update env => exact h.update env
  | cmdDone env => exact ⟨hc, h.tx.intrMultiplayCmdDone env, ⟨hmask, hrange⟩⟩
  | loc3Completes ok => exact ⟨hc, h.tx.keepsBeacon (.loc3Completes s.tx ok), ⟨hmask, hrange⟩⟩
  | cmdCompletes ok => exact ⟨hc, h.tx.cmdCompletes ok, ⟨hmask, hrange⟩⟩
  | replySwap => exact ⟨hc, ⟨h.tx.ring, h.tx.infoAddr, h.tx.queueFits⟩, ⟨hmask, hrange⟩⟩

theorem init (macAddr : MacAddr) : (Host.init macAddr).Inv :=
  ⟨.init macAddr, .init, .of_none rfl⟩

theorem run (macAddr : MacAddr) (es : List HostEvent) : (run hostStep (.init macAddr) es).Inv :=
  run_inv Host.Inv (fun _ => True) (fun _ e hs _ => hs.step e) (init macAddr) fun _ _ => trivial

end Inv

end Host

end Wifi
