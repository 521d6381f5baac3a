import DsWifi.Host.Invariant
import Mathlib.Order.Fin.Basic

/-!
# Kicking clients

What an update in AP mode does to the table: it drops the clients whose AID is in the mask of
requests and, when it finds that the lobby has been closed, the ones that are not associated. The
mask that the ARM9 writes is a `u8`, so it has no bits for the AIDs from 8 on, and the end of AP
mode leaves it as it is.

* `Host.client_update` — what an update in AP mode leaves in a slot
* `host_kicks_reach_iff` — when the requested clients, and only those, are dropped
-/

namespace Wifi

open Infra Infra.Mem

/-- Another client in a slot whose state is all that changes. -/
def ConnectedClient.drop (c : ConnectedClient) : ConnectedClient :=
  { c with state := .disconnected }

theorem ConnectedClient.drop_of_disconnected {c : ConnectedClient} (h : c.state = .disconnected) :
    c.drop = c := by
  cases c
  cases h
  rfl

theorem ConnectedClient.drop_eq_iff {c : ConnectedClient} :
    c.drop = c ↔ c.state = .disconnected := by
  constructor
  · intro h
    rw [← h]
    rfl
  · exact drop_of_disconnected

namespace Host

variable {s : Host}

/-- The lobby has been closed, and the beacon does not say so yet. -/
def Closing (s : Host) : Prop :=
  s.allowClients = false ∧ s.tx.getBeaconAllowsConnections ≠ 0

instance (s : Host) : Decidable s.Closing := inferInstanceAs (Decidable (_ ∧ _))

/-! ## One client -/

theorem client_dropDeauthenticated (s : Host) (ended : Option Bool) (destMac : MacAddr)
    (reasonCode : Nat) (i : Slot) (aid : Nat) (j : Slot) :
    (((s.sendDeauthentication ended destMac reasonCode).setState i .disconnected).clearAid
      aid).decConnected.client j = if j = i then (s.client j).drop else s.client j := by
  have hsame := SameTable.sendDeauthentication s ended destMac reasonCode
  show ((s.sendDeauthentication ended destMac reasonCode).setState i .disconnected).client j = _
  rw [setState, client_setClient, hsame.client, hsame.client]
  split
  · rename_i hj
    rw [hj]
    rfl
  · rfl

/-- A kick drops the client in the slot, if there is one. -/
theorem client_kickByAid (h : s.Consistent) (ended : Option Bool) (i j : Slot) :
    (s.kickByAid ended (i.val + 1)).client j =
      if j = i then (s.client j).drop else s.client j := by
  have hfree (hi : (s.client i).state = .disconnected) :
      s.client j = if j = i then (s.client j).drop else s.client j := by
    split
    · rename_i hj
      rw [hj, ConnectedClient.drop_of_disconnected hi]
    · rfl
  unfold kickByAid
  rw [if_neg (Nat.succ_ne_zero _)]
  simp only [Nat.add_sub_cancel]
  split
  · split
    · rename_i hstate
      exact hfree hstate
    · exact client_dropDeauthenticated s ended _ _ i _ j
  · rename_i hlt
    exact hfree (h.table.above i (Nat.not_lt.mp hlt))

theorem client_kickNotAssociated (s : Host) (ended : Option Bool) (i j : Slot) :
    (s.kickNotAssociated ended i).client j =
      if j = i ∧ (s.client j).state = .authenticated then (s.client j).drop else s.client j := by
  unfold kickNotAssociated
  split
  · rename_i hstate
    refine (client_dropDeauthenticated s ended _ _ i _ j).trans ?_
    by_cases hj : j = i
    · rw [if_pos hj, if_pos ⟨hj, hj ▸ hstate⟩]
    · rw [if_neg hj, if_neg fun hc => hj hc.1]
  · rename_i hstate
    have hne : ¬(j = i ∧ (s.client j).state = .authenticated) := by
      rintro ⟨rfl, hj⟩
      exact hstate hj
    rw [if_neg hne]

/-! ## The loops -/

theorem client_foldl_kickByAid (h : s.Consistent) (ends : Slot → Option Bool) (is : List Slot)
    (j : Slot) : (is.foldl (fun s i => s.kickByAid (ends i) (i.val + 1)) s).client j =
      if j ∈ is then (s.client j).drop else s.client j := by
  induction is generalizing s with
  | nil => simp
  | cons i is ih =>
    rw [List.foldl_cons, ih (h.kickByAid (ends i) _), client_kickByAid h]
    by_cases hj : j = i
    · simp [hj, ConnectedClient.drop]
    · simp [hj]

theorem client_foldl_kickNotAssociated (s : Host) (ends : Slot → Option Bool) (is : List Slot)
    (j : Slot) : (is.foldl (fun s i => s.kickNotAssociated (ends i) i) s).client j =
      if j ∈ is ∧ (s.client j).state = .authenticated then (s.client j).drop else s.client j := by
  induction is generalizing s with
  | nil => simp
  | cons i is ih =>
    rw [List.foldl_cons, ih (s.kickNotAssociated (ends i) i), client_kickNotAssociated]
    by_cases hj : j = i
    · by_cases hstate : (s.client j).state = .authenticated
      · simp [hj, hj ▸ hstate, ConnectedClient.drop]
      · simp [hstate]
    · simp [hj]

/-- Exactly the authenticated clients are dropped. -/
theorem client_kickNotAssociatedClients (h : s.Consistent) (ends : Slot → Option Bool) (j : Slot) :
    (s.kickNotAssociatedClients ends).client j =
      if (s.client j).state = .authenticated then (s.client j).drop else s.client j := by
  refine (client_foldl_kickNotAssociated s ends s.slots j).trans ?_
  by_cases hstate : (s.client j).state = .authenticated
  · have hlt : j.val < s.curMaxClients.val := h.lt_curMaxClients (by rw [hstate]; nofun)
    rw [if_pos ⟨mem_slots.mpr hlt, hstate⟩, if_pos hstate]
  · rw [if_neg fun hc => hstate hc.2, if_neg hstate]

theorem mem_requestedAids {j : Slot} :
    j ∈ s.requestedAids ↔ s.clients.reqKickClientAidMask.getLsbD (j.val + 1) = true := by
  have hj := j.isLt
  unfold wifiMaxMultiplayerClients at hj
  simp [requestedAids]
  omega

/-- Exactly the clients in the mask are dropped. -/
theorem client_kickRequested (h : s.Consistent) (ends : Slot → Option Bool) (j : Slot) :
    (s.kickRequested ends).client j =
      if s.clients.reqKickClientAidMask.getLsbD (j.val + 1) = true then (s.client j).drop
      else s.client j := by
  unfold kickRequested
  split
  · have ht := (SameTable.takeRequests s).consistent h
    refine (client_foldl_kickByAid ht ends s.requestedAids j).trans ?_
    by_cases hj : j ∈ s.requestedAids
    · rw [if_pos hj, if_pos (mem_requestedAids.mp hj)]
      rfl
    · rw [if_neg hj, if_neg fun hc => hj (mem_requestedAids.mpr hc)]
      rfl
  · rename_i h0
    rw [not_not.mp h0]
    simp [client]

theorem client_updateAllowed (h : s.Consistent) (ends : Slot → Option Bool) (j : Slot) :
    (s.updateAllowed ends).client j =
      if s.Closing ∧ (s.client j).state = .authenticated then (s.client j).drop
      else s.client j := by
  unfold updateAllowed Closing
  dsimp only
  by_cases hallow : s.allowClients = true
  · have hopen : ¬((s.allowClients = false ∧ s.tx.getBeaconAllowsConnections ≠ 0) ∧
        (s.client j).state = .authenticated) := by
      simp [hallow]
    rw [if_neg hopen]
    split <;> rfl
  · rw [Bool.not_eq_true] at hallow
    by_cases hbyte : s.tx.getBeaconAllowsConnections = 0
    · simp [hbyte, hallow]
    · have hsame := SameTable.setTx s (s.tx.setBeaconAllowsConnections 0)
      have hc := client_kickNotAssociatedClients (hsame.consistent h) ends j
      rw [hsame.client] at hc
      rw [if_pos (by simp [hbyte, hallow]), if_neg (by simp [hallow]), hc]
      simp [hbyte, hallow]

/-! ## The lobby -/

/-- The step changes nothing that an update reads besides the table, the flag in the beacon
included. -/
structure SameLobby (s s' : Host) : Prop where
  allowClients : s'.allowClients = s.allowClients
  curMaxClients : s'.curMaxClients = s.curMaxClients
  macAddr : s'.macAddr = s.macAddr
  beacon : KeepsBeacon s.tx s'.tx

namespace SameLobby

variable {s' s'' : Host}

theorem refl (s : Host) : SameLobby s s := ⟨rfl, rfl, rfl, .refl s.tx⟩

theorem trans (h : SameLobby s s') (h' : SameLobby s' s'') : SameLobby s s'' :=
  ⟨h'.allowClients.trans h.allowClients, h'.curMaxClients.trans h.curMaxClients,
    h'.macAddr.trans h.macAddr, h.beacon.trans h'.beacon⟩

theorem closing (h : SameLobby s s') (hs : s.Inv) : s'.Closing ↔ s.Closing := by
  rw [Closing, Closing, h.allowClients,
    h.beacon.getBeaconAllowsConnections hs.tx.infoAddr hs.tx.queueFits]

theorem sendDeauthentication (h : s.Inv) (ended : Option Bool) (destMac : MacAddr)
    (reasonCode : Nat) : SameLobby s (s.sendDeauthentication ended destMac reasonCode) := by
  have hended := KeepsBeacon.mayComplete s.tx ended
  have hlen : (deauthenticationBytes s.macAddr destMac reasonCode).length ≤ 2048 := by
    rw [HandlesClients.length_deauthenticationBytes]
    decide
  have hadd := KeepsBeacon.txArm7QueueAdd
    (frameMem (deauthenticationBytes s.macAddr destMac reasonCode)) hlen
    (hended.queueFits h.tx.queueFits)
  have hsame := SameTable.sendDeauthentication s ended destMac reasonCode
  exact ⟨hsame.allowClients, hsame.curMaxClients, rfl, hended.trans hadd⟩

theorem kickByAid (h : s.Inv) (ended : Option Bool) (associationId : Nat) :
    SameLobby s (s.kickByAid ended associationId) := by
  have hc := h.consistent.kickByAid ended associationId
  unfold Host.kickByAid at hc ⊢
  dsimp only at hc ⊢
  split
  · exact refl s
  · split
    · split
      · exact refl s
      · rename_i h0 hlt hstate
        rw [if_neg h0, dif_pos hlt, if_neg hstate] at hc
        let i : Slot := ⟨associationId - 1,
          Nat.lt_of_lt_of_le hlt (Nat.le_of_lt_succ s.curMaxClients.isLt)⟩
        refine (sendDeauthentication h ended (s.client i).macaddr reasonCantHandleAllStations).trans
          ⟨rfl, rfl, rfl, ?_⟩
        have hle : u8 (_ + 0xFF) ≤ 15 := hc.table.numConnected_le
        have hi (destMac : MacAddr) (reasonCode : Nat) :=
          (HandlesClients.sendDeauthentication s ended destMac reasonCode).tx h.tx
        exact KeepsBeacon.setBeaconCurrentPlayers (hi _ _).infoAddr (Nat.lt_of_le_of_lt
          (Nat.succ_le_succ hle) (by decide))
    · exact refl s

end SameLobby

theorem Inv.kickByAid (h : s.Inv) (ended : Option Bool) (associationId : Nat) :
    (s.kickByAid ended associationId).Inv :=
  h.handlesClients (.kickByAid s ended associationId) (h.consistent.kickByAid ended associationId)

theorem Inv.takeRequests (h : s.Inv) : s.takeRequests.Inv :=
  ⟨(SameTable.takeRequests s).consistent h.consistent, h.tx, .of_none rfl⟩

theorem SameLobby.foldl_kickByAid (h : s.Inv) (ends : Slot → Option Bool) (is : List Slot) :
    SameLobby s (is.foldl (fun s i => s.kickByAid (ends i) (i.val + 1)) s) := by
  induction is generalizing s with
  | nil => exact refl s
  | cons i is ih => exact (kickByAid h (ends i) _).trans (ih (h.kickByAid (ends i) _))

theorem SameLobby.kickRequested (h : s.Inv) (ends : Slot → Option Bool) :
    SameLobby s (s.kickRequested ends) := by
  unfold Host.kickRequested
  split
  · have ht : SameLobby s s.takeRequests := ⟨rfl, rfl, rfl, .refl s.tx⟩
    exact ht.trans (foldl_kickByAid h.takeRequests ends s.requestedAids)
  · exact ⟨rfl, rfl, rfl, .refl s.tx⟩

/-! ## The update -/

/-- What an update in AP mode drops, as long as it stays in AP mode. -/
def Drops (s : Host) (i : Slot) : Prop :=
  s.clients.reqKickClientAidMask.getLsbD (i.val + 1) = true ∨
    s.Closing ∧ (s.client i).state = .authenticated

instance (s : Host) (i : Slot) : Decidable (s.Drops i) := inferInstanceAs (Decidable (_ ∨ _))

theorem sameTable_update (s : Host) (env : UpdateEnv) :
    SameTable (s.updateMode env) (s.update env) :=
  (SameTable.updateChannel _).trans (.txAllQueueFlush _ _)

/-- An update that stays in AP mode drops some clients, and does nothing else to the table. -/
theorem client_update (h : s.Inv) (hmode : s.curMode = .accessPoint) (hstay : ¬s.Leaving)
    (env : UpdateEnv) (j : Slot) :
    (s.update env).client j = if s.Drops j then (s.client j).drop else s.client j := by
  have hc := Consistent.tablePred.kickRequested h.consistent env.kickEnds
  rw [(sameTable_update s env).client, updateMode, hmode]
  show (s.updateAccessPoint env).client j = _
  rw [updateAccessPoint, if_neg hstay, client_updateAllowed hc, client_kickRequested h.consistent]
  simp only [(SameLobby.kickRequested h env.kickEnds).closing h, Drops]
  by_cases hbit : s.clients.reqKickClientAidMask.getLsbD (j.val + 1) = true
  · simp [hbit, ConnectedClient.drop]
  · simp [hbit]

/-- At the end of AP mode there are no clients left. -/
theorem client_update_leaving (hmode : s.curMode = .accessPoint) (hleave : s.Leaving)
    (env : UpdateEnv) (j : Slot) : (s.update env).client j = .zero := by
  rw [(sameTable_update s env).client, updateMode, hmode]
  show (s.updateAccessPoint env).client j = _
  rw [updateAccessPoint, if_pos hleave]
  have hsame := SameTable.sendDeauthentication s.resetClients env.leaveEnds wifiBroadcastAddr
    reasonThisStationLeftDeauth
  exact (hsame.client j).trans (Vector.getElem_replicate j.isLt)

/-! ## The requests -/

/-- The table after the kicks of an update in AP mode. -/
def kicked (s : Host) (env : UpdateEnv) : Host :=
  if s.Leaving then s else s.kickRequested env.kickEnds

/-- The update reaches the clients that the ARM9 has asked it to kick, and only those. -/
structure KicksReach (s : Host) (env : UpdateEnv) : Prop where
  requested : ∀ i : Slot, i.val + 1 ∈ s.monitor.kickRequests →
    ((s.update env).client i).state = .disconnected ∧
      (s.update env).clients.aidMask.getLsbD (i.val + 1) = false
  others : ∀ i : Slot, i.val + 1 ∉ s.monitor.kickRequests →
    (s.kicked env).client i = s.client i ∧
      (s.kicked env).clients.aidMask.getLsbD (i.val + 1) = s.clients.aidMask.getLsbD (i.val + 1)

theorem not_getLsbD_of_disconnected (h : s.Consistent) {i : Slot}
    (hi : (s.client i).state = .disconnected) :
    s.clients.aidMask.getLsbD (i.val + 1) = false := by
  have ha : s.clients.aidMask.getLsbD (i.val + 1) = decide ((s.client i).state = .associated) :=
    h.table.aidMask i
  rw [ha, hi]
  rfl

theorem Inv.kicked (h : s.Inv) (env : UpdateEnv) : (s.kicked env).Consistent := by
  unfold Host.kicked
  split
  · exact h.consistent
  · exact Consistent.tablePred.kickRequested h.consistent env.kickEnds

theorem client_kicked (h : s.Inv) (env : UpdateEnv) (j : Slot) :
    (s.kicked env).client j =
      if ¬s.Leaving ∧ s.clients.reqKickClientAidMask.getLsbD (j.val + 1) = true then
        (s.client j).drop
      else s.client j := by
  unfold Host.kicked
  split
  · rename_i hleave
    rw [if_neg fun hc => hc.1 hleave]
  · rename_i hstay
    simp [client_kickRequested h.consistent, hstay]

/-- The AIDs from 8 on that have been requested belong to slots that are free or dropped anyway, and
no bit that is left over from an earlier time belongs to a client. -/
def KicksInMask (s : Host) : Prop :=
  (∀ i : Slot, i.val + 1 ∈ s.monitor.kickRequests → 8 ≤ i.val + 1 →
    (s.client i).state = .disconnected ∨ s.Closing ∧ (s.client i).state = .authenticated) ∧
  ∀ i : Slot, i.val + 1 ∉ s.monitor.kickRequests →
    s.clients.reqKickClientAidMask.getLsbD (i.val + 1) = true → (s.client i).state = .disconnected

/-- The end of AP mode drops all clients. -/
theorem kicksReach_of_leaving (h : s.Inv) (hmode : s.curMode = .accessPoint) (env : UpdateEnv)
    (hleave : s.Leaving) : s.KicksReach env := by
  have hc := Consistent.tablePred.update h.consistent env
  have hzero (i : Slot) : ((s.update env).client i).state = .disconnected := by
    rw [client_update_leaving hmode hleave]
    rfl
  refine ⟨fun i _ => ⟨hzero i, not_getLsbD_of_disconnected hc (hzero i)⟩, fun i _ => ?_⟩
  rw [Host.kicked, if_pos hleave]
  exact ⟨rfl, rfl⟩

/-- A request is in the mask unless its AID is too large for it. -/
theorem KicksReach.inMask {env : UpdateEnv} (hreach : s.KicksReach env) (h : s.Inv)
    (hmode : s.curMode = .accessPoint) (hleave : ¬ s.Leaving) : s.KicksInMask := by
  obtain ⟨hreq, hothers⟩ := hreach
  constructor
  · intro i hi h8
    have hmask : s.clients.reqKickClientAidMask.getLsbD (i.val + 1) = false :=
      BitVec.getLsbD_of_ge _ _ h8
    have hdisc := (hreq i hi).1
    rw [client_update h hmode hleave] at hdisc
    by_cases hdrop : s.Drops i
    · exact .inr (hdrop.resolve_left (by simp [hmask]))
    · rw [if_neg hdrop] at hdisc
      exact .inl hdisc
  · intro i hi hbit
    have hsame := (hothers i hi).1
    rw [client_kicked h, if_pos ⟨hleave, hbit⟩] at hsame
    exact ConnectedClient.drop_eq_iff.mp hsame

/-- A requested client is dropped, for the request or because the lobby closes. -/
theorem KicksInMask.disconnected (hmask : s.KicksInMask) (h : s.Inv)
    (hmode : s.curMode = .accessPoint) (hleave : ¬ s.Leaving) (env : UpdateEnv) {i : Slot}
    (hi : i.val + 1 ∈ s.monitor.kickRequests) :
    ((s.update env).client i).state = .disconnected := by
  rw [client_update h hmode hleave]
  by_cases hdrop : s.Drops i
  · rw [if_pos hdrop]
    rfl
  · rw [if_neg hdrop]
    obtain ⟨hbit, hclosing⟩ := not_or.mp hdrop
    by_cases h8 : 8 ≤ i.val + 1
    · exact (hmask.1 i hi h8).resolve_right hclosing
    · exact absurd (h.requests.mask _ hi (Nat.not_le.mp h8)) hbit

theorem KicksInMask.kicksReach (hmask : s.KicksInMask) (h : s.Inv)
    (hmode : s.curMode = .accessPoint) (hleave : ¬ s.Leaving) (env : UpdateEnv) :
    s.KicksReach env := by
  have hc := Consistent.tablePred.update h.consistent env
  constructor
  · intro i hi
    have hdisc := hmask.disconnected h hmode hleave env hi
    exact ⟨hdisc, not_getLsbD_of_disconnected hc hdisc⟩
  · intro i hi
    have hsame : (s.kicked env).client i = s.client i := by
      rw [client_kicked h]
      split
      · rename_i hbit
        exact ConnectedClient.drop_of_disconnected (hmask.2 i hi hbit.2)
      · rfl
    have hbit' := (h.kicked env).table.aidMask i
    have hbit := h.consistent.table.aidMask i
    refine ⟨hsame, hbit'.trans (Eq.trans ?_ hbit.symm)⟩
    exact decide_eq_decide.mpr (iff_of_eq (congrArg (·.state = .associated) hsame))

/-- **What an update does with the requests.** -/
theorem kicksReach_iff (h : s.Inv) (hmode : s.curMode = .accessPoint) (env : UpdateEnv) :
    s.KicksReach env ↔ s.Leaving ∨ s.KicksInMask := by
  by_cases hleave : s.Leaving
  · exact iff_of_true (kicksReach_of_leaving h hmode env hleave) (.inl hleave)
  · rw [or_iff_right hleave]
    exact ⟨fun hreach => hreach.inMask h hmode hleave,
      fun hmask => hmask.kicksReach h hmode hleave env⟩

end Host

/-- **An update in AP mode reaches the requested clients, and only those, exactly if** it ends AP
mode or the requests are in the mask. -/
theorem host_kicks_reach_iff (macAddr : MacAddr) (es : List HostEvent) (env : Host.UpdateEnv)
    (hmode : (run hostStep (.init macAddr) es).curMode = .accessPoint) :
    (run hostStep (.init macAddr) es).KicksReach env ↔
      (run hostStep (.init macAddr) es).Leaving ∨ (run hostStep (.init macAddr) es).KicksInMask :=
  Host.kicksReach_iff (.run macAddr es) hmode env

/-- An update during which nothing else happens. -/
def Host.UpdateEnv.idle : Host.UpdateEnv where
  arm7 := .zero
  otherMode := ⟨.normal, by decide⟩
  kickEnds _ := none
  closeEnds _ := none
  leaveEnds := none

/-- A MAC address with a number. -/
def numberedMac (n : Nat) : MacAddr := wifiCmdMac.set 5 (.ofNat n)

/-- Eight clients join, and the last one is to be kicked. -/
def kickEighth : List HostEvent :=
  [.hostMode 15, .update .idle, .update .idle] ++
    (List.range 8).map (fun n => .clientAuthenticate (numberedMac n)) ++
    [.clientAssociate (numberedMac 7), .kickClientByAid 8]

/-- Four clients join, three of them associate, and the second one is to be kicked. -/
def kickSecond : List HostEvent :=
  [.hostMode 15, .update .idle, .update .idle] ++
    (List.range 4).map (fun n => .clientAuthenticate (numberedMac n)) ++
    (List.range 3).map (fun n => .clientAssociate (numberedMac n)) ++
    [.kickClientByAid 2]

/-- The second client is reached, and the others keep their states. -/
theorem host_kicks_reach_second :
    (run hostStep (.init macAddrZero) kickSecond).KicksReach .idle ∧
      ((run hostStep (.init macAddrZero) kickSecond).clients.list.toList.take 4).map (·.state) =
        [.associated, .associated, .associated, .authenticated] ∧
      ((run hostStep (.init macAddrZero) (kickSecond ++ [.update .idle])).clients.list.toList.take
          4).map (·.state) =
        [.associated, .disconnected, .associated, .authenticated] :=
  ⟨(host_kicks_reach_iff macAddrZero kickSecond .idle (by decide +kernel)).mpr
      (.inr ⟨by decide +kernel, by decide +kernel⟩),
    by decide +kernel, by decide +kernel⟩

/-- The eighth client stays. -/
theorem kickEighth_stays :
    (run hostStep (.init macAddrZero) kickEighth).curMode = .accessPoint ∧
      ¬ (run hostStep (.init macAddrZero) kickEighth).KicksReach .idle := by
  refine ⟨by decide +kernel, fun h => ?_⟩
  have hdisc := (h.requested ⟨7, by decide⟩ (by decide +kernel)).1
  revert hdisc
  decide +kernel

end Wifi
