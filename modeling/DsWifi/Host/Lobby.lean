import DsWifi.Host.Kick

/-!
# Closing the lobby

An update finds out that the lobby has been closed by comparing the flag of the ARM9 with the byte
in the beacon. There may be no beacon yet, or one that has been started with the flag clear, and
then the two agree although there are clients that are not associated.

* `lobby_closed_iff` — when an update with the flag clear leaves no such client behind
-/

namespace Wifi

open Infra Infra.Mem

namespace Host

variable {s s' : Host}

/-- No slot is authenticated. -/
def NoneAuthenticated (s : Host) : Prop := ∀ i : Slot, (s.client i).state ≠ .authenticated

/-- No slot is newly authenticated or associated. -/
def NoneJoins (s s' : Host) : Prop :=
  ∀ i : Slot, (s'.client i).state = .disconnected ∨ (s'.client i).state = (s.client i).state

end Host

/-- An update in AP mode with the flag clear leaves no client that is not associated, and as long as
the flag is clear nobody joins. -/
def StepKeepsLobby (s : Host) (e : HostEvent) : Prop :=
  s.allowClients = false → Host.NoneJoins s (hostStep s e) ∧
    match e with
    | .update env => s.curMode = .accessPoint → (s.update env).NoneAuthenticated
    | _ => True

/-- An update in AP mode with the flag clear ends AP mode, or drops every client that is not
associated: it is to be kicked, or the byte in the beacon is still set. -/
def StepSeesLobby (s : Host) : HostEvent → Prop
  | .update _ => s.allowClients = false → s.curMode = .accessPoint → s.Leaving ∨
      ∀ i : Slot, (s.client i).state = .authenticated →
        s.clients.reqKickClientAidMask.getLsbD (i.val + 1) = true ∨
          s.tx.getBeaconAllowsConnections ≠ 0
  | _ => True

namespace Host

variable {s s' : Host}

/-! ## Nobody joins -/

theorem NoneJoins.refl (s : Host) : NoneJoins s s := fun _ => .inr rfl

theorem SameTable.noneJoins (hs : SameTable s s') : NoneJoins s s' :=
  fun i => .inr (by rw [hs.client])

/-- An operation that drops some clients. -/
theorem NoneJoins.drop {t : Host} {d : Slot → Prop} [DecidablePred d] (h : NoneJoins s s')
    (hd : ∀ j, t.client j = if d j then (s'.client j).drop else s'.client j) : NoneJoins s t := by
  intro j
  rw [hd j]
  split
  · exact .inl rfl
  · exact h j

/-- No operation that the updates use lets anybody join. -/
theorem tablePred_noneJoins (s : Host) : TablePred (NoneJoins s) where
  same h hs i := by
    rw [hs.client]
    exact h i
  resetClients curMaxClients _ i := .inl (congrArg _ (Vector.getElem_replicate i.isLt))
  kickByAid {t} ended associationId h := by
    unfold Host.kickByAid
    split
    · exact h
    · dsimp only
      split
      · split
        · exact h
        · exact h.drop (client_dropDeauthenticated t ended _ _ _ associationId)
      · exact h
  kickNotAssociated {t} ended i h := h.drop (client_kickNotAssociated t ended i)

/-- With the flag clear, nobody joins. -/
theorem noneJoins_step (h : s.allowClients = false) (e : HostEvent) :
    NoneJoins s (hostStep s e) := by
  have hP := tablePred_noneJoins s
  have hs := NoneJoins.refl s
  cases e with
  | kickClientByAid associationId => exact (SameTable.multiplayerKickClientByAid s _).noneJoins
  | requestChannel channel => exact (SameTable.requestChannel s channel).noneJoins
  | resetClients curMaxClients => exact hP.resetClients curMaxClients hs
  | clientAuthenticate macaddr => simpa [hostStep, clientAuthenticate, h] using hs
  | clientAssociate macaddr => simpa [hostStep, clientAssociate, h] using hs
  | clientDisconnect macaddr =>
    show NoneJoins s (s.clientDisconnect macaddr).1
    unfold Host.clientDisconnect
    split
    · exact hs
    · rename_i index hindex
      intro j
      show ((s.setState index .disconnected).client j).state = _ ∨
        ((s.setState index .disconnected).client j).state = _
      rw [setState, client_setClient]
      split
      · exact .inl rfl
      · exact .inr rfl
  | kickByAid ended associationId => exact hP.kickByAid ended associationId hs
  | kickNotAssociatedClients ends => exact hP.kickNotAssociatedClients hs ends
  | clientKickAll ended => exact hP.clientKickAll hs ended
  | arm7QueueAdd bytes hlen => exact (SameTable.txArm7QueueAdd s bytes).noneJoins
  | update env => exact hP.update hs env
  | _ => exact hs

/-! ## The updates -/

/-- **An update with the flag clear leaves nobody behind exactly if** it drops every client that is
not associated. -/
theorem noneAuthenticated_update_iff (h : s.Inv) (hallow : s.allowClients = false)
    (hmode : s.curMode = .accessPoint) (env : UpdateEnv) :
    (s.update env).NoneAuthenticated ↔ s.Leaving ∨
      ∀ i : Slot, (s.client i).state = .authenticated →
        s.clients.reqKickClientAidMask.getLsbD (i.val + 1) = true ∨
          s.tx.getBeaconAllowsConnections ≠ 0 := by
  by_cases hleave : s.Leaving
  · refine iff_of_true (fun i => ?_) (.inl hleave)
    rw [client_update_leaving hmode hleave]
    nofun
  · rw [or_iff_right hleave]
    have hdrops (i : Slot) (hstate : (s.client i).state = .authenticated) :
        s.Drops i ↔ s.clients.reqKickClientAidMask.getLsbD (i.val + 1) = true ∨
          s.tx.getBeaconAllowsConnections ≠ 0 := by
      simp [Drops, Closing, hallow, hstate]
    constructor
    · intro hnone i hstate
      by_contra hno
      refine hnone i ?_
      rw [client_update h hmode hleave, if_neg (mt (hdrops i hstate).mp hno)]
      exact hstate
    · intro hall i hstate
      rw [client_update h hmode hleave] at hstate
      by_cases hdrop : s.Drops i
      · rw [if_pos hdrop] at hstate
        cases hstate
      · rw [if_neg hdrop] at hstate
        exact hdrop ((hdrops i hstate).mpr (hall i hstate))

theorem stepKeepsLobby_iff (h : s.Inv) (e : HostEvent) :
    StepKeepsLobby s e ↔ StepSeesLobby s e := by
  cases e with
  | update env =>
    refine forall_congr' fun hallow => ?_
    rw [and_iff_right (noneJoins_step hallow _)]
    exact forall_congr' fun hmode => noneAuthenticated_update_iff h hallow hmode env
  | _ => exact iff_of_true (fun hallow => ⟨noneJoins_step hallow _, trivial⟩) trivial

end Host

/-- **Closing the lobby removes the clients that are not associated, and keeps everybody out, along
exactly the runs** whose updates with the flag clear see them. -/
theorem lobby_closed_iff (macAddr : MacAddr) (es : List HostEvent) :
    Along hostStep StepKeepsLobby (Host.init macAddr) es ↔
      Along hostStep StepSeesLobby (Host.init macAddr) es :=
  along_iff Host.Inv (fun _ e hs _ => hs.step e) (fun _ e hs => Host.stepKeepsLobby_iff hs e) es
    (.init macAddr)

/-- A client authenticates before there is a beacon, and the lobby is closed. -/
def closedWithoutBeacon : List HostEvent :=
  [.hostMode 1, .update .idle, .update .idle, .clientAuthenticate wifiCmdMac,
    .allowNewClients false, .update .idle]

/-- It is still authenticated after the update. -/
theorem closedWithoutBeacon_stays :
    ¬ Along hostStep StepKeepsLobby (Host.init macAddrZero) closedWithoutBeacon := by
  rintro ⟨-, -, -, -, -, hlast, -⟩
  have hmode : (run hostStep (Host.init macAddrZero) (closedWithoutBeacon.take 5)).curMode =
      .accessPoint := by
    decide +kernel
  have hnone := (hlast (by decide +kernel)).2 hmode
  exact absurd (hnone ⟨0, by decide⟩) (by decide +kernel)

end Wifi
