import DsWifi.Host.Update
import DsWifi.Infra.Run

/-!
# The client table is consistent

Every operation of `source/arm7/ntr/multiplayer.c` writes one slot and adjusts the counter and the
mask of AIDs to it, each in its own way. `TableInv` says what they have in common. The association
ID of a slot outlives its client, so it is either the one of the slot or `0`.

* `host_table_sound` — in every run the table says what the ARM9 and the transmitter take from it
-/

namespace Wifi

open Infra Infra.Mem

/-! ## Bits -/

theorem getLsbD_clear (mask : BitVec 16) (n j : Nat) :
    (mask &&& ~~~ bit 16 n).getLsbD j = (mask.getLsbD j && !decide (n = j)) := by
  by_cases hj : j < 16
  · simp only [BitVec.getLsbD_and, BitVec.getLsbD_not, BitVec.getLsbD_twoPow, hj, decide_true,
      Bool.true_and]
    by_cases hn : n = j
    · subst hn
      simp [hj]
    · simp [hn]
  · simp [BitVec.getLsbD_of_ge mask j (by omega)]

theorem getLsbD_set (mask : BitVec 16) {n : Nat} (hn : n < 16) (j : Nat) :
    (mask ||| bit 16 n).getLsbD j = (mask.getLsbD j || decide (n = j)) := by
  simp [BitVec.getLsbD_twoPow, hn]

/-! ## Counting -/

theorem countP_eq_finRange {α : Type} {n : Nat} (xs : Vector α n) (p : α → Bool) :
    xs.countP p = (List.finRange n).countP fun i => p xs[i] := by
  have h : xs.toList = (List.finRange n).map fun i => xs[i] := List.ext_getElem (by simp) (by simp)
  rw [← Vector.countP_toList, h, List.countP_map]
  rfl

theorem countP_range (n : Nat) (p : Nat → Bool) :
    (List.range n).countP p = (List.finRange n).countP fun i => p i.val := by
  rw [← List.map_coe_finRange_eq_range, List.countP_map]
  rfl

/-! ## What leaves the table alone -/

namespace Host

/-- The table and what is read with it. The requests of the ARM9 are not part of it. -/
structure SameTable (s s' : Host) : Prop where
  list : s'.clients.list = s.clients.list
  aidMask : s'.clients.aidMask = s.clients.aidMask
  numConnected : s'.clients.numConnected = s.clients.numConnected
  curMaxClients : s'.curMaxClients = s.curMaxClients
  allowClients : s'.allowClients = s.allowClients
  underflowed : s'.monitor.underflowed = s.monitor.underflowed

namespace SameTable

theorem refl (s : Host) : SameTable s s := ⟨rfl, rfl, rfl, rfl, rfl, rfl⟩

theorem trans {s s' s'' : Host} (h : SameTable s s') (h' : SameTable s' s'') : SameTable s s'' :=
  ⟨h'.list.trans h.list, h'.aidMask.trans h.aidMask, h'.numConnected.trans h.numConnected,
    h'.curMaxClients.trans h.curMaxClients, h'.allowClients.trans h.allowClients,
    h'.underflowed.trans h.underflowed⟩

theorem client {s s' : Host} (h : SameTable s s') (i : Slot) : s'.client i = s.client i := by
  rw [Host.client, Host.client, h.list]

theorem setTx (s : Host) (tx : Arm7Tx) : SameTable s { s with tx } :=
  ⟨rfl, rfl, rfl, rfl, rfl, rfl⟩

theorem txArm7QueueAdd (s : Host) (bytes : List UInt8) : SameTable s (s.txArm7QueueAdd bytes) :=
  setTx s _

theorem sendDeauthentication (s : Host) (ended : Option Bool) (destMac : MacAddr)
    (reasonCode : Nat) : SameTable s (s.sendDeauthentication ended destMac reasonCode) :=
  (setTx s (s.tx.mayComplete ended)).trans (txArm7QueueAdd _ _)

theorem txAllQueueFlush (s : Host) (env : Arm7Env) : SameTable s (s.txAllQueueFlush env) :=
  setTx s _

theorem updateChannel (s : Host) : SameTable s s.updateChannel := by
  unfold Host.updateChannel Host.setChannel
  split
  · split
    · exact refl s
    · exact ⟨rfl, rfl, rfl, rfl, rfl, rfl⟩
  · exact refl s

theorem takeRequests (s : Host) : SameTable s s.takeRequests := ⟨rfl, rfl, rfl, rfl, rfl, rfl⟩

theorem multiplayerKickClientByAid (s : Host) (associationId : Int) :
    SameTable s (s.multiplayerKickClientByAid associationId) := by
  unfold Host.multiplayerKickClientByAid
  split
  · exact refl s
  · exact ⟨rfl, rfl, rfl, rfl, rfl, rfl⟩

theorem requestChannel (s : Host) (channel : Int) : SameTable s (s.requestChannel channel) := by
  unfold Host.requestChannel
  split
  · exact refl s
  · exact ⟨rfl, rfl, rfl, rfl, rfl, rfl⟩

end SameTable

/-- What is said about the table, and kept by whatever an update does to it. -/
structure TablePred (P : Host → Prop) : Prop where
  same : ∀ {s s'}, P s → SameTable s s' → P s'
  resetClients : ∀ {s} (curMaxClients : MaxClients), P s → P { s.resetClients with curMaxClients }
  kickByAid : ∀ {s} (ended : Option Bool) (associationId : Nat), P s →
    P (s.kickByAid ended associationId)
  kickNotAssociated : ∀ {s} (ended : Option Bool) (i : Slot), P s → P (s.kickNotAssociated ended i)

namespace TablePred

variable {P : Host → Prop} {s : Host}

/-- A loop over the slots. -/
theorem foldl {f : Host → Slot → Host} (hf : ∀ {s} i, P s → P (f s i)) (h : P s) (is : List Slot) :
    P (is.foldl f s) := by
  induction is generalizing s with
  | nil => exact h
  | cons i is ih => exact ih (hf i h)

theorem kickNotAssociatedClients (hP : TablePred P) (h : P s) (ends : Slot → Option Bool) :
    P (s.kickNotAssociatedClients ends) :=
  hP.same (foldl (fun i => hP.kickNotAssociated (ends i) i) h s.slots) (.setTx _ _)

theorem clientKickAll (hP : TablePred P) (h : P s) (ended : Option Bool) :
    P (s.clientKickAll ended) :=
  hP.same (hP.resetClients s.curMaxClients h) (.sendDeauthentication _ _ _ _)

theorem kickRequested (hP : TablePred P) (h : P s) (ends : Slot → Option Bool) :
    P (s.kickRequested ends) := by
  unfold Host.kickRequested
  split
  · exact foldl (fun i => hP.kickByAid (ends i) (i.val + 1)) (hP.same h (.takeRequests s)) _
  · exact hP.same h ⟨rfl, rfl, rfl, rfl, rfl, rfl⟩

theorem updateAllowed (hP : TablePred P) (h : P s) (ends : Slot → Option Bool) :
    P (s.updateAllowed ends) := by
  unfold Host.updateAllowed
  dsimp only
  split
  · split
    · exact hP.same h (.setTx s _)
    · exact hP.kickNotAssociatedClients (hP.same h (.setTx s _)) ends
  · exact h

theorem updateMode (hP : TablePred P) (h : P s) (env : UpdateEnv) : P (s.updateMode env) := by
  unfold Host.updateMode
  split
  · unfold Host.updateAccessPoint
    split
    · exact hP.same (hP.clientKickAll h env.leaveEnds) ⟨rfl, rfl, rfl, rfl, rfl, rfl⟩
    · exact hP.updateAllowed (hP.kickRequested h env.kickEnds) env.closeEnds
  · dsimp only
    split
    · exact hP.same (hP.resetClients s.reqMaxClients h) ⟨rfl, rfl, rfl, rfl, rfl, rfl⟩
    · exact hP.same h ⟨rfl, rfl, rfl, rfl, rfl, rfl⟩
  · exact hP.same h ⟨rfl, rfl, rfl, rfl, rfl, rfl⟩

theorem update (hP : TablePred P) (h : P s) (env : UpdateEnv) : P (s.update env) :=
  hP.same (hP.same (hP.updateMode h env) (.updateChannel _)) (.txAllQueueFlush _ _)

end TablePred

end Host

/-! ## The invariant -/

/-- The counter, the mask and the slots belong together. -/
structure TableInv (c : Clients) (curMaxClients : Nat) : Prop where
  numConnected : c.numConnected = c.list.countP fun x => x.state ≠ .disconnected
  aidMask : ∀ i : Slot, c.aidMask.getLsbD (i.val + 1) = decide (c.list[i].state = .associated)
  associationId : ∀ i : Slot, c.list[i].state = .associated → c.list[i].associationId = i.val + 1
  stale : ∀ i : Slot, c.list[i].associationId = 0 ∨ c.list[i].associationId = i.val + 1
  above : ∀ i : Slot, curMaxClients ≤ i.val → c.list[i].state = .disconnected
  macaddr : ∀ i j : Slot, c.list[i].state ≠ .disconnected → c.list[j].state ≠ .disconnected →
    c.list[i].macaddr = c.list[j].macaddr → i = j

namespace TableInv

variable {c : Clients} {curMaxClients : Nat}

/-- What may be put into a slot, with the counter and the mask that belong to it. -/
structure Fits (c : Clients) (curMaxClients : Nat) (i : Slot) (x : ConnectedClient)
    (numConnected : Nat) (aidMask : BitVec 16) : Prop where
  numConnected : numConnected + (if c.list[i].state ≠ .disconnected then 1 else 0) =
    c.numConnected + (if x.state ≠ .disconnected then 1 else 0)
  aidMask : ∀ j : Slot, aidMask.getLsbD (j.val + 1) =
    if j = i then decide (x.state = .associated) else c.aidMask.getLsbD (j.val + 1)
  associationId : x.state = .associated → x.associationId = i.val + 1
  stale : x.associationId = 0 ∨ x.associationId = i.val + 1
  above : x.state ≠ .disconnected → i.val < curMaxClients
  macaddr : x.state ≠ .disconnected → ∀ j : Slot, j ≠ i → c.list[j].state ≠ .disconnected →
    c.list[j].macaddr ≠ x.macaddr

theorem getElem_setSlot (list : Vector ConnectedClient wifiMaxMultiplayerClients) (i j : Slot)
    (x : ConnectedClient) : (list.set i x)[j] = if j = i then x else list[j] := by
  by_cases h : j = i
  · subst h
    simp
  · have hne : i.val ≠ j.val := fun he => h (Fin.ext he.symm)
    simp [hne, h]

/-- **Writing a slot keeps the table consistent** if the counter and the mask follow. -/
theorem set (h : TableInv c curMaxClients) {i : Slot} {x : ConnectedClient} {numConnected : Nat}
    {aidMask : BitVec 16} (hx : Fits c curMaxClients i x numConnected aidMask)
    (reqKickClientAidMask : BitVec 8) :
    TableInv ⟨c.list.set i x, aidMask, numConnected, reqKickClientAidMask⟩ curMaxClients where
  numConnected := by
    have hn := hx.numConnected
    have hc := h.numConnected
    have hpos : (if c.list[i].state ≠ .disconnected then 1 else 0) ≤ c.numConnected := by
      rw [hc]
      split
      · rename_i hs
        exact Vector.countP_pos_iff.mpr ⟨c.list[i], Vector.getElem_mem i.isLt, by simpa using hs⟩
      · exact Nat.zero_le _
    have hset : (c.list.set i.val x i.isLt).countP
        (fun x : ConnectedClient => decide (x.state ≠ .disconnected)) = _ :=
      Vector.countP_set i.isLt
    simp only [decide_eq_true_eq] at hset
    simp only [hset, ← hc]
    have hget : c.list[i.val] = c.list[i] := rfl
    rw [hget]
    omega
  aidMask j := by
    simp only [hx.aidMask j, getElem_setSlot]
    split
    · rfl
    · exact h.aidMask j
  associationId j := by
    simp only [getElem_setSlot]
    split
    · rename_i hj
      exact hj ▸ hx.associationId
    · exact h.associationId j
  stale j := by
    simp only [getElem_setSlot]
    split
    · rename_i hj
      exact hj ▸ hx.stale
    · exact h.stale j
  above j hj := by
    simp only [getElem_setSlot]
    split
    · rename_i hji
      by_contra hs
      exact absurd (hx.above hs) (by rw [← hji]; omega)
    · exact h.above j hj
  macaddr j k hj hk hmac := by
    simp only [getElem_setSlot] at hj hk hmac
    by_cases hji : j = i <;> by_cases hki : k = i
    · exact hji.trans hki.symm
    · rw [if_pos hji] at hj hmac
      rw [if_neg hki] at hk hmac
      exact absurd hmac.symm (hx.macaddr hj k hki hk)
    · rw [if_neg hji] at hj hmac
      rw [if_pos hki] at hk hmac
      exact absurd hmac (hx.macaddr hk j hji hj)
    · rw [if_neg hji] at hj hmac
      rw [if_neg hki] at hk hmac
      exact h.macaddr j k hj hk hmac

theorem numConnected_le (h : TableInv c curMaxClients) : c.numConnected ≤ 15 :=
  h.numConnected ▸ Vector.countP_le_size

/-- A client that is connected has been counted. -/
theorem numConnected_pos (h : TableInv c curMaxClients) {i : Slot}
    (hi : c.list[i].state ≠ .disconnected) : 0 < c.numConnected := by
  rw [h.numConnected]
  exact Vector.countP_pos_iff.mpr ⟨c.list[i], Vector.getElem_mem i.isLt, by simpa using hi⟩

/-- The table after `memset`. -/
theorem zero (curMaxClients : Nat) (reqKickClientAidMask : BitVec 8) {aidMask : BitVec 16}
    (hmask : ∀ i : Slot, aidMask.getLsbD (i.val + 1) = false) :
    TableInv ⟨.replicate _ .zero, aidMask, 0, reqKickClientAidMask⟩ curMaxClients where
  numConnected := by simp [Vector.countP_replicate, ConnectedClient.zero]
  aidMask i := by simp [hmask i, ConnectedClient.zero]
  associationId i hi := by simp [ConnectedClient.zero] at hi
  stale i := by simp [ConnectedClient.zero]
  above i _ := by simp [ConnectedClient.zero]
  macaddr i j hi := by simp [ConnectedClient.zero] at hi

end TableInv

/-- The table is consistent, and the counter has never been below what it counts. -/
structure Host.Consistent (s : Host) : Prop where
  table : TableInv s.clients s.curMaxClients
  underflowed : s.monitor.underflowed = false

namespace Host

variable {s s' : Host} {i : Slot} {macaddr : MacAddr}

theorem SameTable.consistent (hs : SameTable s s') (h : s.Consistent) : s'.Consistent := by
  refine ⟨?_, hs.underflowed.trans h.underflowed⟩
  obtain ⟨h1, h2, h3, h4, h5, h6⟩ := h.table
  rw [← hs.numConnected, ← hs.list] at h1
  rw [← hs.list] at h3 h4 h6
  rw [← hs.list, ← hs.aidMask] at h2
  rw [← hs.list, ← hs.curMaxClients] at h5
  exact ⟨h1, h2, h3, h4, h5, h6⟩

/-! ## Searching -/

theorem mem_slots : i ∈ s.slots ↔ i.val < s.curMaxClients.val := by
  simp [slots]

theorem clientGetByMacAddr_some (h : s.clientGetByMacAddr macaddr = some i) :
    i.val < s.curMaxClients.val ∧ (s.client i).state ≠ .disconnected ∧
      (s.client i).macaddr = macaddr := by
  have hp := List.find?_some h
  have hmem := List.mem_of_find?_eq_some h
  simp only [bne_iff_ne, Bool.and_eq_true, beq_iff_eq] at hp
  exact ⟨mem_slots.mp hmem, hp.1, hp.2.symm⟩

theorem clientGetByMacAddr_none (h : s.clientGetByMacAddr macaddr = none)
    (hi : i.val < s.curMaxClients.val) (hstate : (s.client i).state ≠ .disconnected) :
    (s.client i).macaddr ≠ macaddr := by
  have hp := List.find?_eq_none.mp h i (mem_slots.mpr hi)
  intro hmac
  exact hp (by simp [hstate, hmac])

theorem freeSlot_some (h : s.freeSlot = some i) :
    i.val < s.curMaxClients.val ∧ (s.client i).state = .disconnected := by
  have hp := List.find?_some h
  have hmem := List.mem_of_find?_eq_some h
  exact ⟨mem_slots.mp hmem, by simpa using hp⟩

/-- Connected clients have a slot below the limit. -/
theorem Consistent.lt_curMaxClients (h : s.Consistent) (hi : (s.client i).state ≠ .disconnected) :
    i.val < s.curMaxClients.val := by
  by_contra hlt
  exact hi (h.table.above i (Nat.le_of_not_lt hlt))

/-! ## Writing a slot -/

namespace Consistent

/-- The table after `Wifi_MPHost_ResetClients`, with any limit. -/
theorem resetClients (s : Host) (h : s.monitor.underflowed = false) (curMaxClients : MaxClients) :
    Consistent { s.resetClients with curMaxClients } where
  table := TableInv.zero _ _ fun i => by simp [BitVec.getLsbD_twoPow]
  underflowed := h

/-- What is left of the mask without the AID of a slot, or without the bit of the host. -/
theorem clearAid (h : s.Consistent) {aid : Nat}
    (haid : aid = i.val + 1 ∨ aid = 0 ∧ (s.client i).state ≠ .associated) {state : ClientState}
    (hstate : state ≠ .associated) (j : Slot) :
    (s.clients.aidMask &&& ~~~ bit 16 aid).getLsbD (j.val + 1) =
      if j = i then decide (state = .associated) else s.clients.aidMask.getLsbD (j.val + 1) := by
  rw [getLsbD_clear]
  split
  · rename_i hj
    subst hj
    rw [h.table.aidMask j, decide_eq_false hstate]
    rcases haid with h0 | ⟨-, hna⟩
    · rw [decide_eq_true h0, Bool.not_true, Bool.and_false]
    · rw [decide_eq_false (show s.clients.list[j].state ≠ _ from hna), Bool.false_and]
  · rename_i hj
    have hne : aid ≠ j.val + 1 := by
      intro he
      rcases haid with h0 | ⟨h0, -⟩
      · exact hj (Fin.ext (by omega))
      · omega
    rw [decide_eq_false hne, Bool.not_false, Bool.and_true]

/-- A client is put into a free slot. -/
theorem accepted (h : s.Consistent) (hi : s.freeSlot = some i)
    (hmac : s.clientGetByMacAddr macaddr = none) :
    (s.setClient i
      { s.client i with state := .authenticated, macaddr }).incConnected.Consistent := by
  obtain ⟨hlt, hstate⟩ := freeSlot_some hi
  have hle := h.table.numConnected_le
  have hu : u8 (s.clients.numConnected + 1) = s.clients.numConnected + 1 := by
    unfold u8
    omega
  have hfits : TableInv.Fits s.clients s.curMaxClients i
      { s.client i with state := .authenticated, macaddr } (u8 (s.clients.numConnected + 1))
      s.clients.aidMask := by
    refine ⟨?_, ?_, nofun, h.table.stale i, fun _ => hlt, ?_⟩
    · rw [if_neg (not_not_intro (show s.clients.list[i].state = _ from hstate)), if_pos nofun, hu]
    · intro j
      split
      · rename_i hj
        subst hj
        rw [h.table.aidMask j, show s.clients.list[j].state = _ from hstate]
        rfl
      · rfl
    · intro _ j _ hj
      exact clientGetByMacAddr_none hmac (h.lt_curMaxClients hj) hj
  exact ⟨h.table.set hfits _, h.underflowed⟩

/-- A connected client goes back to being authenticated. -/
theorem demote (h : s.Consistent) (hi : (s.client i).state ≠ .disconnected) {aid : Nat}
    (haid : aid = i.val + 1 ∨ aid = 0 ∧ (s.client i).state ≠ .associated) :
    ((s.setState i .authenticated).clearAid aid).Consistent := by
  have hfits : TableInv.Fits s.clients s.curMaxClients i { s.client i with state := .authenticated }
      s.clients.numConnected (s.clients.aidMask &&& ~~~ bit 16 aid) := by
    refine ⟨?_, h.clearAid haid nofun, nofun, h.table.stale i, fun _ => h.lt_curMaxClients hi, ?_⟩
    · rw [if_pos (show s.clients.list[i].state ≠ _ from hi), if_pos nofun]
    · intro _ j hj hstatej hmac
      exact hj (h.table.macaddr j i hstatej hi hmac)
  exact ⟨h.table.set hfits _, h.underflowed⟩

/-- An authenticated client gets the AID of its slot. -/
theorem associate (h : s.Consistent) (hi : (s.client i).state ≠ .disconnected) :
    ((s.setClient i { s.client i with
      associationId := i.val + 1, state := .associated }).setAid (i.val + 1)).Consistent := by
  have hfits : TableInv.Fits s.clients s.curMaxClients i
      { s.client i with associationId := i.val + 1, state := .associated }
      s.clients.numConnected (s.clients.aidMask ||| bit 16 (i.val + 1)) := by
    refine ⟨?_, ?_, fun _ => rfl, .inr rfl, fun _ => h.lt_curMaxClients hi, ?_⟩
    · rw [if_pos (show s.clients.list[i].state ≠ _ from hi), if_pos nofun]
    · intro j
      rw [getLsbD_set _ (Nat.succ_lt_succ i.isLt)]
      split
      · rename_i hj
        subst hj
        simp
      · rename_i hj
        have hne : i.val ≠ j.val := fun he => hj (Fin.ext he.symm)
        simp [hne]
    · intro _ j hj hstatej hmac
      exact hj (h.table.macaddr j i hstatej hi hmac)
  exact ⟨h.table.set hfits _, h.underflowed⟩

/-- A client is dropped. -/
theorem drop (h : s.Consistent) (hi : (s.client i).state ≠ .disconnected) {aid : Nat}
    (haid : aid = i.val + 1 ∨ aid = 0 ∧ (s.client i).state ≠ .associated) :
    ((s.setState i .disconnected).clearAid aid).decConnected.Consistent := by
  have hpos := h.table.numConnected_pos hi
  have hle := h.table.numConnected_le
  have hu : u8 (s.clients.numConnected + 0xFF) + 1 = s.clients.numConnected := by
    unfold u8
    omega
  have hfits : TableInv.Fits s.clients s.curMaxClients i { s.client i with state := .disconnected }
      (u8 (s.clients.numConnected + 0xFF)) (s.clients.aidMask &&& ~~~ bit 16 aid) := by
    refine ⟨?_, h.clearAid haid nofun, nofun, h.table.stale i, fun hs => absurd rfl hs,
      fun hs => absurd rfl hs⟩
    rw [if_pos (show s.clients.list[i].state ≠ _ from hi), if_neg (not_not_intro rfl), hu]
    rfl
  have hne : (s.clients.numConnected == 0) = false := beq_false_of_ne (Nat.ne_of_gt hpos)
  exact ⟨h.table.set hfits _, Bool.or_eq_false_iff.mpr ⟨h.underflowed, hne⟩⟩

/-- The stored association ID is one that may be cleared. -/
theorem associationId_eq (h : s.Consistent) (i : Slot) :
    (s.client i).associationId = i.val + 1 ∨
      (s.client i).associationId = 0 ∧ (s.client i).state ≠ .associated := by
  rcases h.table.stale i with h0 | h0
  · refine .inr ⟨h0, fun ha => ?_⟩
    have h1 := h.table.associationId i ha
    rw [h0] at h1
    cases h1
  · exact .inl h0

end Consistent

/-! ## The operations -/

theorem client_setClient (s : Host) (i j : Slot) (c : ConnectedClient) :
    (s.setClient i c).client j = if j = i then c else s.client j :=
  TableInv.getElem_setSlot s.clients.list i j c

theorem client_setState_self (s : Host) (i : Slot) (state : ClientState) :
    (s.setState i state).client i = { s.client i with state } := by
  rw [setState, client_setClient, if_pos rfl]

namespace Consistent

theorem clientAuthenticate (h : s.Consistent) (macaddr : MacAddr) :
    (s.clientAuthenticate macaddr).1.Consistent := by
  unfold Host.clientAuthenticate
  split
  · exact h
  · split
    · rename_i index hindex
      obtain ⟨-, hstate, -⟩ := clientGetByMacAddr_some hindex
      dsimp only
      rw [client_setState_self]
      exact h.demote hstate (h.associationId_eq index)
    · rename_i hnone
      split
      · rename_i i hi
        exact (SameTable.setTx _ _).consistent (h.accepted hi hnone)
      · exact h

theorem clientAssociate (h : s.Consistent) (macaddr : MacAddr) :
    (s.clientAssociate macaddr).1.Consistent := by
  unfold Host.clientAssociate
  split
  · exact h
  · split
    · exact h
    · rename_i index hindex
      obtain ⟨-, hstate, -⟩ := clientGetByMacAddr_some hindex
      split
      · exact h
      · exact h.associate hstate
      · exact h

theorem clientDisconnect (h : s.Consistent) (macaddr : MacAddr) :
    (s.clientDisconnect macaddr).1.Consistent := by
  unfold Host.clientDisconnect
  split
  · exact h
  · rename_i index hindex
    obtain ⟨-, hstate, -⟩ := clientGetByMacAddr_some hindex
    dsimp only
    rw [client_setState_self]
    exact (SameTable.setTx _ _).consistent (h.drop hstate (h.associationId_eq index))

/-- The deauthentication frame comes before the slot is written. -/
theorem dropDeauthenticated (h : s.Consistent) (ended : Option Bool) (destMac : MacAddr)
    (reasonCode : Nat) (hi : (s.client i).state ≠ .disconnected) :
    ((((s.sendDeauthentication ended destMac reasonCode).setState i .disconnected).clearAid
      (i.val + 1)).decConnected).Consistent := by
  have hsame := SameTable.sendDeauthentication s ended destMac reasonCode
  exact (hsame.consistent h).drop (by rw [hsame.client]; exact hi) (.inl rfl)

theorem kickByAid (h : s.Consistent) (ended : Option Bool) (associationId : Nat) :
    (s.kickByAid ended associationId).Consistent := by
  unfold Host.kickByAid
  split
  · exact h
  · rename_i haid
    dsimp only
    split
    · split
      · exact h
      · rename_i hlt hstate
        have hdrop := h.dropDeauthenticated ended
          (s.client ⟨associationId - 1, by have := s.curMaxClients.isLt; omega⟩).macaddr
          reasonCantHandleAllStations hstate
        rw [show associationId - 1 + 1 = associationId by omega] at hdrop
        exact (SameTable.setTx _ _).consistent hdrop
    · exact h

theorem kickNotAssociated (h : s.Consistent) (ended : Option Bool) (i : Slot) :
    (s.kickNotAssociated ended i).Consistent := by
  unfold Host.kickNotAssociated
  split
  · rename_i hstate
    exact h.dropDeauthenticated ended _ _ (by rw [hstate]; nofun)
  · exact h

theorem tablePred : TablePred Consistent where
  same h hs := hs.consistent h
  resetClients curMaxClients h := .resetClients _ h.underflowed curMaxClients
  kickByAid ended associationId h := h.kickByAid ended associationId
  kickNotAssociated ended i h := h.kickNotAssociated ended i

theorem step (h : s.Consistent) (e : HostEvent) : (hostStep s e).Consistent := by
  cases e with
  | kickClientByAid associationId =>
    exact (SameTable.multiplayerKickClientByAid s associationId).consistent h
  | requestChannel channel => exact (SameTable.requestChannel s channel).consistent h
  | resetClients curMaxClients => exact .resetClients s h.underflowed curMaxClients
  | clientAuthenticate macaddr => exact h.clientAuthenticate macaddr
  | clientAssociate macaddr => exact h.clientAssociate macaddr
  | clientDisconnect macaddr => exact h.clientDisconnect macaddr
  | kickByAid ended associationId => exact h.kickByAid ended associationId
  | kickNotAssociatedClients ends => exact tablePred.kickNotAssociatedClients h ends
  | clientKickAll ended => exact tablePred.clientKickAll h ended
  | arm7QueueAdd bytes hlen => exact (SameTable.txArm7QueueAdd s bytes).consistent h
  | update env => exact tablePred.update h env
  | _ => exact ⟨h.table, h.underflowed⟩

theorem init (macAddr : MacAddr) : (Host.init macAddr).Consistent where
  table := TableInv.zero _ _ fun _ => by simp
  underflowed := rfl

theorem run (h : s.Consistent) (es : List HostEvent) : (run hostStep s es).Consistent :=
  run_inv Host.Consistent (fun _ => True) (fun _ e hs _ => hs.step e) h fun _ _ => trivial

end Consistent

end Host

/-! ## What the table says -/

/-- What the ARM9 and the transmitter take from the table. -/
structure Host.TableSound (s : Host) : Prop where
  /-- `num_connected` counts the clients that are not disconnected. -/
  numConnected : s.clients.numConnected = s.clients.list.countP fun x => x.state ≠ .disconnected
  /-- The mask has the bits of the associated clients. -/
  aidMask : ∀ i : Slot, s.clients.aidMask.getLsbD (i.val + 1) = true ↔
    (s.client i).state = .associated
  associationId : ∀ i : Slot, (s.client i).state = .associated →
    (s.client i).associationId = i.val + 1
  above : ∀ i : Slot, s.curMaxClients.val ≤ i.val → (s.client i).state = .disconnected
  /-- No two clients have the same address. -/
  macaddr : ∀ i j : Slot, (s.client i).state ≠ .disconnected →
    (s.client j).state ≠ .disconnected → (s.client i).macaddr = (s.client j).macaddr → i = j
  /-- No two clients share an AID. -/
  shared : ∀ i j : Slot, (s.client i).state = .associated → (s.client j).state = .associated →
    (s.client i).associationId = (s.client j).associationId → i = j
  underflowed : s.monitor.underflowed = false
  /-- In host mode, `Wifi_MultiplayerGetNumClients` counts the associated clients. -/
  numClients : s.curLibraryMode = .multiplayerHost →
    s.multiplayerGetNumClients = s.clients.list.countP fun x => x.state = .associated

theorem Host.Consistent.tableSound {s : Host} (h : s.Consistent) : s.TableSound where
  numConnected := h.table.numConnected
  aidMask i := by
    rw [h.table.aidMask i, decide_eq_true_eq]
    rfl
  associationId := h.table.associationId
  above := h.table.above
  macaddr := h.table.macaddr
  shared i j hi hj haid := by
    have h1 := h.table.associationId i hi
    have h2 := h.table.associationId j hj
    have haid : s.clients.list[i].associationId = s.clients.list[j].associationId := haid
    exact Fin.ext (by omega)
  underflowed := h.underflowed
  numClients hmode := by
    rw [multiplayerGetNumClients, if_pos hmode, countP_range, countP_eq_finRange]
    exact List.countP_congr fun i _ => by rw [h.table.aidMask i]

/-- **The client table is sound in every run of a host**, whatever the clients send, whatever the
ARM9 asks for and whenever the limit changes. -/
theorem host_table_sound (macAddr : MacAddr) (es : List HostEvent) :
    (run hostStep (.init macAddr) es).TableSound :=
  ((Host.Consistent.init macAddr).run es).tableSound

end Wifi
