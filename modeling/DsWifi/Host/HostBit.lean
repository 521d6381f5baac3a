import DsWifi.Host.Table

/-!
# The bit of the host

Bit 0 of the mask of AIDs stands for the host. Nothing sets it after `Wifi_MPHost_ResetClients`, but
a client that has got no AID yet is entered with association ID `0`, and
`Wifi_MPHost_ClientAuthenticate` and `Wifi_MPHost_ClientDisconnect` clear the bit of whatever
association ID is stored.

* `host_bit_kept_iff` — the bit stays set exactly in the runs in which no client authenticates again
  or leaves from a slot that has seen no association since the reset
-/

namespace Wifi

open Infra

namespace Host

/-- The bit of the host is set. -/
def HostBit (s : Host) : Prop := s.clients.aidMask.getLsbD 0 = true

instance (s : Host) : Decidable s.HostBit := inferInstanceAs (Decidable (_ = _))

/-- If the address belongs to a client, its slot has seen an association. -/
def HasAid (s : Host) (macaddr : MacAddr) : Prop :=
  ∀ i, s.clientGetByMacAddr macaddr = some i → (s.client i).associationId ≠ 0

end Host

/-- The bit is set after the step. -/
def StepKeepsHostBit (s : Host) (e : HostEvent) : Prop := (hostStep s e).HostBit

instance (s : Host) (e : HostEvent) : Decidable (StepKeepsHostBit s e) :=
  inferInstanceAs (Decidable (Host.HostBit _))

/-- Clients that authenticate again or leave have had an AID. -/
def StepHasAid (s : Host) : HostEvent → Prop
  | .clientAuthenticate macaddr => s.allowClients = true → s.HasAid macaddr
  | .clientDisconnect macaddr => s.HasAid macaddr
  | _ => True

namespace Host

variable {s : Host}

theorem hostBit_clear (h : s.HostBit) (n : Nat) :
    (s.clients.aidMask &&& ~~~ bit 16 n).getLsbD 0 = true ↔ n ≠ 0 := by
  rw [getLsbD_clear, show s.clients.aidMask.getLsbD 0 = true from h]
  simp

theorem hostBit_resetClients (s : Host) : s.resetClients.HostBit := by
  show (bit 16 0).getLsbD 0 = true
  decide

theorem SameTable.hostBit {s' : Host} (hs : SameTable s s') (h : s.HostBit) : s'.HostBit := by
  rw [HostBit, hs.aidMask]
  exact h

theorem hostBit_clientAuthenticate (h : s.HostBit) (macaddr : MacAddr) :
    (s.clientAuthenticate macaddr).1.HostBit ↔ (s.allowClients = true → s.HasAid macaddr) := by
  unfold clientAuthenticate
  split
  · rename_i hallow
    exact iff_of_true h fun ha => by simp [ha] at hallow
  · rename_i hallow
    have hallow : s.allowClients = true := by simpa using hallow
    split
    · rename_i index hindex
      dsimp only
      rw [client_setState_self]
      refine (hostBit_clear h _).trans ⟨fun hne _ i hi => ?_, fun hid => hid hallow index hindex⟩
      rw [hindex] at hi
      cases hi
      exact hne
    · rename_i hnone
      refine iff_of_true ?_ fun _ i hi => ?_
      · split
        · exact h
        · exact h
      · rw [hnone] at hi
        cases hi

theorem hostBit_clientAssociate (h : s.HostBit) (macaddr : MacAddr) :
    (s.clientAssociate macaddr).1.HostBit := by
  unfold clientAssociate
  split
  · exact h
  · split
    · exact h
    · split
      · exact h
      · show (s.clients.aidMask ||| bit 16 _).getLsbD 0 = true
        rw [BitVec.getLsbD_or, show s.clients.aidMask.getLsbD 0 = true from h, Bool.true_or]
      · exact h

theorem hostBit_clientDisconnect (h : s.HostBit) (macaddr : MacAddr) :
    (s.clientDisconnect macaddr).1.HostBit ↔ s.HasAid macaddr := by
  unfold clientDisconnect
  split
  · rename_i hnone
    refine iff_of_true h fun i hi => ?_
    rw [hnone] at hi
    cases hi
  · rename_i index hindex
    dsimp only
    rw [client_setState_self]
    refine (hostBit_clear h _).trans ⟨fun hne i hi => ?_, fun hid => hid index hindex⟩
    rw [hindex] at hi
    cases hi
    exact hne

/-- The AID of a slot is not `0`. -/
theorem hostBit_dropDeauthenticated (h : s.HostBit) (ended : Option Bool) (i : Slot)
    (destMac : MacAddr) (reasonCode : Nat) {aid : Nat} (haid : aid ≠ 0) :
    (((s.sendDeauthentication ended destMac reasonCode).setState i .disconnected).clearAid
      aid).decConnected.HostBit := by
  have hs := (SameTable.sendDeauthentication s ended destMac reasonCode).hostBit h
  exact (hostBit_clear hs aid).mpr haid

theorem hostBit_kickByAid (h : s.HostBit) (ended : Option Bool) (associationId : Nat) :
    (s.kickByAid ended associationId).HostBit := by
  unfold kickByAid
  split
  · exact h
  · rename_i haid
    dsimp only
    split
    · split
      · exact h
      · exact (SameTable.setTx _ _).hostBit
          (hostBit_dropDeauthenticated h ended _ _ reasonCantHandleAllStations haid)
    · exact h

theorem hostBit_kickNotAssociated (h : s.HostBit) (ended : Option Bool) (i : Slot) :
    (s.kickNotAssociated ended i).HostBit := by
  unfold kickNotAssociated
  split
  · exact hostBit_dropDeauthenticated h ended _ _ _ (Nat.succ_ne_zero _)
  · exact h

theorem hostBit_tablePred : TablePred HostBit where
  same h hs := hs.hostBit h
  resetClients _ _ := hostBit_resetClients _
  kickByAid ended associationId h := hostBit_kickByAid h ended associationId
  kickNotAssociated ended i h := hostBit_kickNotAssociated h ended i

end Host

theorem Host.stepKeepsHostBit_iff {s : Host} (h : s.HostBit) (e : HostEvent) :
    StepKeepsHostBit s e ↔ StepHasAid s e := by
  cases e with
  | clientAuthenticate macaddr => exact hostBit_clientAuthenticate h macaddr
  | clientDisconnect macaddr => exact hostBit_clientDisconnect h macaddr
  | kickClientByAid associationId =>
    exact iff_of_true ((SameTable.multiplayerKickClientByAid s associationId).hostBit h) trivial
  | requestChannel channel =>
    exact iff_of_true ((SameTable.requestChannel s channel).hostBit h) trivial
  | resetClients curMaxClients => exact iff_of_true (hostBit_resetClients s) trivial
  | clientAssociate macaddr => exact iff_of_true (hostBit_clientAssociate h macaddr) trivial
  | kickByAid ended associationId => exact iff_of_true (hostBit_kickByAid h ended _) trivial
  | kickNotAssociatedClients ends =>
    exact iff_of_true (hostBit_tablePred.kickNotAssociatedClients h ends) trivial
  | clientKickAll ended => exact iff_of_true (hostBit_tablePred.clientKickAll h ended) trivial
  | arm7QueueAdd bytes hlen =>
    exact iff_of_true ((SameTable.txArm7QueueAdd s bytes).hostBit h) trivial
  | update env => exact iff_of_true (hostBit_tablePred.update h env) trivial
  | _ => exact iff_of_true h trivial

/-- **The bit of the host stays set exactly in the runs in which every client that authenticates
again or leaves has a slot with an AID.** -/
theorem host_bit_kept_iff (s : Host) (es : List HostEvent) :
    Along hostStep StepKeepsHostBit s.resetClients es ↔
      Along hostStep StepHasAid s.resetClients es :=
  along_iff Host.HostBit (fun _ e h hq => (Host.stepKeepsHostBit_iff h e).mpr hq)
    (fun _ e h => Host.stepKeepsHostBit_iff h e) es (Host.hostBit_resetClients s)

/-- In such a run the application finds the host in the mask. -/
theorem Host.multiplayerGetClientMask_host {s : Host} {es : List HostEvent}
    (h : Along hostStep StepHasAid s.resetClients es)
    (hmode : (run hostStep s.resetClients es).curLibraryMode = .multiplayerHost) :
    (run hostStep s.resetClients es).multiplayerGetClientMask.getLsbD 0 = true := by
  have hbit := h.inv HostBit (fun _ e hs he => (stepKeepsHostBit_iff hs e).mpr he)
    (hostBit_resetClients s)
  rw [multiplayerGetClientMask, if_pos hmode]
  exact hbit

/-- A client authenticates with an open lobby, and leaves. -/
def clientLeavesEarly : List HostEvent :=
  [.resetClients 1, .allowNewClients true, .clientAuthenticate wifiCmdMac,
    .clientDisconnect wifiCmdMac]

/-- The bit of the host is gone. -/
theorem clientLeavesEarly_clears :
    ¬ Along hostStep StepKeepsHostBit (Host.init macAddrZero).resetClients clientLeavesEarly := by
  decide +kernel

end Wifi
