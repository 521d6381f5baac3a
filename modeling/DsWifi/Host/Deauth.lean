import DsWifi.Host.Kick
import DsWifi.Tx.Management

/-!
# Deauthentication frames

The frame to a client that is dropped goes through the queue of the ARM7
(`source/arm7/ntr/tx_queue.c`), which has room for one. Its result says when it is full, but nobody
looks at it.

* `Host.outbox_txArm7QueueAdd` — the queue is an outbox
* `Host.announced_iff` — which clients are told
* `host_drops_announced_iff` — when no client is dropped silently
-/

namespace Wifi

open Infra Infra.Mem

namespace Host

variable {s : Host}

/-! ## The queue as an outbox -/

/-- The frames of the ARM7. -/
def outbox (s : Host) : Outbox (List UInt8) := s.tx.outbox

/-- **The queue of the ARM7 is an outbox.** -/
theorem outbox_txArm7QueueAdd (hq : s.tx.QueueFits) {bytes : List UInt8}
    (hlen : bytes.length ≤ 2048) (hpos : bytes.length ≠ 0) :
    (s.txArm7QueueAdd bytes).outbox = s.outbox.add bytes := by
  have hadd := (Arm7Tx.outbox_txArm7QueueAdd hq (frameMem bytes) hlen hpos).1
  rwa [loadBytes_frameMem] at hadd

theorem outbox_mayComplete (ended : Option Bool) :
    Host.outbox { s with tx := s.tx.mayComplete ended } = s.outbox.complete ended.isSome := by
  have hloc3 (ok : Bool) : (s.tx.loc3Completes ok).loc3Busy = false := by
    unfold Arm7Tx.loc3Completes
    split
    · rfl
    · rename_i hb
      exact (Bool.not_eq_true _).mp hb
  cases ended with
  | none =>
    show s.outbox = { s.outbox with busy := s.outbox.busy && true }
    rw [Bool.and_true]
  | some ok =>
    rw [outbox, Arm7Tx.mayComplete, Arm7Tx.outbox_of_keeps (.loc3Completes s.tx ok), hloc3]
    simp [outbox, Outbox.complete, Outbox.step]

theorem outbox_sendDeauthentication (hq : s.tx.QueueFits) (ended : Option Bool) (destMac : MacAddr)
    (reasonCode : Nat) : (s.sendDeauthentication ended destMac reasonCode).outbox =
      (s.outbox.complete ended.isSome).add
        (deauthenticationBytes s.macAddr destMac reasonCode) := by
  have hlen := HandlesClients.length_deauthenticationBytes s.macAddr destMac reasonCode
  have hq' := (KeepsBeacon.mayComplete s.tx ended).queueFits hq
  refine (outbox_txArm7QueueAdd hq' ?_ ?_).trans ?_
  · rw [hlen]
    decide
  · rw [hlen]
    decide
  · rw [outbox_mayComplete]

/-! ## What leaves the queue alone -/

theorem outbox_setTx {tx : Arm7Tx} (hk : KeepsInfo s.tx tx) (hb : tx.loc3Busy = s.tx.loc3Busy) :
    Host.outbox { s with tx } = s.outbox := by
  rw [outbox, Arm7Tx.outbox_of_keeps hk, hb]
  rfl

theorem loc3Busy_macWriteByte (tx : Arm7Tx) (address value : Nat) :
    (tx.macWriteByte address value).loc3Busy = tx.loc3Busy := by
  unfold Arm7Tx.macWriteByte
  dsimp only
  split <;> rfl

theorem outbox_setBeaconCurrentPlayers (s : Host) :
    s.setBeaconCurrentPlayers.outbox = s.outbox := by
  refine outbox_setTx (.setBeaconCurrentPlayers s.tx _) ?_
  unfold Arm7Tx.setBeaconCurrentPlayers
  split
  · rfl
  · split
    · exact loc3Busy_macWriteByte _ _ _
    · rfl

theorem outbox_setBeaconAllowsConnections (s : Host) (allows : Nat) :
    Host.outbox { s with tx := s.tx.setBeaconAllowsConnections allows } = s.outbox := by
  refine outbox_setTx (.setBeaconAllowsConnections s.tx allows) ?_
  unfold Arm7Tx.setBeaconAllowsConnections
  split
  · rfl
  · split
    · exact loc3Busy_macWriteByte _ _ _
    · rfl

theorem outbox_updateChannel (s : Host) : s.updateChannel.outbox = s.outbox := by
  unfold Host.updateChannel Host.setChannel
  split
  · split
    · rfl
    · refine outbox_setTx (.setBeaconChannel s.tx _) ?_
      unfold Arm7Tx.setBeaconChannel
      split
      · rfl
      · split
        · exact loc3Busy_macWriteByte _ _ _
        · rfl
  · rfl

/-- A flush at the end of an update starts the waiting frame, or one of the ARM9. -/
theorem held_txAllQueueFlush (h : s.Inv) (env : Arm7Env) :
    (s.txAllQueueFlush env).outbox.held = s.outbox.held := by
  obtain ⟨oe, hflush, haccepted⟩ := Arm7Tx.outbox_txAllQueueFlush h.tx (s.flushEnv env)
  refine (congrArg Outbox.held hflush).trans ?_
  rw [Outbox.held_step, haccepted, List.append_nil, outbox]

/-! ## The frames of an update -/

/-- The frame to a client that is dropped. -/
def deauthTo (s : Host) (i : Slot) : List UInt8 :=
  deauthenticationBytes s.macAddr (s.client i).macaddr reasonCantHandleAllStations

/-- The slots of a loop that drops the clients with `p`, and whether the transfer has ended before
the frame. -/
def dropping (s : Host) (p : ConnectedClient → Bool) (ends : Slot → Option Bool) (is : List Slot) :
    List (Bool × Slot) :=
  (is.filter fun i => p (s.client i)).map fun i => ((ends i).isSome, i)

/-- The frames to a list of clients. -/
def deauths (s : Host) (xs : List (Bool × Slot)) : List (Bool × List UInt8) :=
  xs.map fun x => (x.1, s.deauthTo x.2)

theorem deauths_append (s : Host) (xs ys : List (Bool × Slot)) :
    s.deauths (xs ++ ys) = s.deauths xs ++ s.deauths ys := List.map_append

/-- The body of a loop that drops the clients with `p`. -/
structure DropBody (f : Host → Slot → Host) (p : ConnectedClient → Bool)
    (ends : Slot → Option Bool) : Prop where
  inv : ∀ {s} i, s.Inv → (f s i).Inv
  lobby : ∀ {s} i, s.Inv → SameLobby s (f s i)
  client : ∀ {s} i j, s.Inv → j ≠ i → (f s i).client j = s.client j
  outbox : ∀ {s} i, s.Inv →
    (f s i).outbox = s.outbox.sends (s.deauths (s.dropping p ends [i]))

namespace DropBody

variable {f : Host → Slot → Host} {p : ConnectedClient → Bool} {ends : Slot → Option Bool}

/-- A loop over different slots. -/
theorem outbox_foldl (hf : DropBody f p ends) (h : s.Inv) {is : List Slot} (his : is.Nodup) :
    (is.foldl f s).outbox = s.outbox.sends (s.deauths (s.dropping p ends is)) := by
  induction is generalizing s with
  | nil => rfl
  | cons i is ih =>
    obtain ⟨hi, his⟩ := List.nodup_cons.mp his
    have hclient (j : Slot) (hj : j ∈ is) : (f s i).client j = s.client j :=
      hf.client i j h (ne_of_mem_of_not_mem hj hi)
    have hfilter : (f s i).dropping p ends is = s.dropping p ends is := by
      unfold dropping
      rw [List.filter_congr fun j hj => by rw [hclient j hj]]
    have hdeauths : (f s i).deauths (s.dropping p ends is) = s.deauths (s.dropping p ends is) := by
      refine List.map_congr_left fun x hx => ?_
      obtain ⟨j, hj, rfl⟩ := List.mem_map.mp hx
      rw [deauthTo, deauthTo, hclient j (List.mem_filter.mp hj).1, (hf.lobby i h).macAddr]
    have hsplit : s.dropping p ends (i :: is) = s.dropping p ends [i] ++ s.dropping p ends is := by
      rw [dropping, dropping, dropping, ← List.map_append, ← List.filter_append]
      rfl
    rw [List.foldl_cons, ih (hf.inv i h) his, hf.outbox i h, hfilter, hdeauths, hsplit,
      deauths_append, Outbox.sends_append]

end DropBody

theorem dropBody_kickByAid (ends : Slot → Option Bool) :
    DropBody (fun s i => s.kickByAid (ends i) (i.val + 1)) (fun c => c.state ≠ .disconnected)
      ends where
  inv i h := h.kickByAid (ends i) _
  lobby i h := .kickByAid h (ends i) _
  client i j h hj := by rw [client_kickByAid h.consistent, if_neg hj]
  outbox {s} i h := by
    unfold Host.kickByAid dropping
    rw [if_neg (Nat.succ_ne_zero _)]
    simp only [Nat.add_sub_cancel]
    split
    · split
      · rename_i hstate
        simp [hstate, deauths, Outbox.sends]
      · rename_i hstate
        have hfilter : [i].filter (fun i => decide ((s.client i).state ≠ .disconnected)) = [i] := by
          simp [hstate]
        rw [hfilter, outbox_setBeaconCurrentPlayers]
        exact outbox_sendDeauthentication h.tx.queueFits (ends i) _ _
    · rename_i hlt
      have hstate : (s.client i).state = .disconnected :=
        h.consistent.table.above i (Nat.not_lt.mp hlt)
      simp [hstate, deauths, Outbox.sends]

theorem dropBody_kickNotAssociated (ends : Slot → Option Bool) :
    DropBody (fun s i => s.kickNotAssociated (ends i) i) (fun c => c.state = .authenticated)
      ends where
  inv i h := h.handlesClients (.kickNotAssociated _ (ends i) i)
    (Consistent.tablePred.kickNotAssociated (ends i) i h.consistent)
  lobby {s} i h := by
    unfold Host.kickNotAssociated
    split
    · exact (SameLobby.sendDeauthentication h (ends i) _ _).trans ⟨rfl, rfl, rfl, .refl _⟩
    · exact .refl s
  client i j h hj := by
    rw [client_kickNotAssociated, if_neg fun hc => hj hc.1]
  outbox {s} i h := by
    unfold Host.kickNotAssociated dropping
    split
    · rename_i hstate
      have hfilter : [i].filter (fun i => decide ((s.client i).state = .authenticated)) = [i] := by
        simp [hstate]
      rw [hfilter]
      exact outbox_sendDeauthentication h.tx.queueFits (ends i) _ _
    · rename_i hstate
      simp [hstate, deauths, Outbox.sends]

/-- The clients that the requests drop. -/
def kickedClients (s : Host) (ends : Slot → Option Bool) : List (Bool × Slot) :=
  s.dropping (fun c => c.state ≠ .disconnected) ends s.requestedAids

/-- The clients that are dropped because the lobby closes. -/
def closedClients (s : Host) (ends : Slot → Option Bool) : List (Bool × Slot) :=
  if s.Closing then s.dropping (fun c => c.state = .authenticated) ends
    (s.slots.filter fun i => i ∉ s.requestedAids)
  else []

/-- The clients that an update in AP mode drops, in the order of their frames. -/
def droppedClients (s : Host) (env : UpdateEnv) : List (Bool × Slot) :=
  s.kickedClients env.kickEnds ++ s.closedClients env.closeEnds

theorem nodup_requestedAids (s : Host) : s.requestedAids.Nodup :=
  (List.nodup_finRange _).filter _

theorem nodup_slots (s : Host) : s.slots.Nodup := (List.nodup_finRange _).filter _

theorem outbox_kickRequested (h : s.Inv) (ends : Slot → Option Bool) :
    (s.kickRequested ends).outbox = s.outbox.sends (s.deauths (s.kickedClients ends)) := by
  unfold Host.kickRequested
  split
  · exact (dropBody_kickByAid ends).outbox_foldl h.takeRequests s.nodup_requestedAids
  · rename_i h0
    have hnone : s.requestedAids = [] := by
      simp [requestedAids, not_not.mp h0]
    simp [kickedClients, hnone, dropping, deauths, Outbox.sends]
    rfl

theorem outbox_updateAllowed (h : s.Inv) (ends : Slot → Option Bool) :
    (s.updateAllowed ends).outbox = s.outbox.sends (s.deauths
      (if s.Closing then s.dropping (fun c => c.state = .authenticated) ends s.slots else [])) := by
  unfold Host.updateAllowed
  dsimp only
  by_cases hclosing : s.Closing
  · obtain ⟨hallow, hbyte⟩ := id hclosing
    have hset : Host.Inv { s with tx := s.tx.setBeaconAllowsConnections 0 } :=
      ⟨(SameTable.setTx s _).consistent h.consistent, h.tx.setBeaconAllowsConnections 0,
        ⟨h.requests.mask, h.requests.range⟩⟩
    rw [if_pos (by simp [hallow, hbyte]), if_neg (by simp [hallow]), if_pos hclosing]
    refine (outbox_setBeaconCurrentPlayers _).trans ?_
    refine ((dropBody_kickNotAssociated ends).outbox_foldl hset (nodup_slots _)).trans ?_
    rw [outbox_setBeaconAllowsConnections]
    rfl
  · rw [if_neg hclosing]
    split
    · split
      · exact outbox_setBeaconAllowsConnections s 1
      · rename_i hne hallow
        refine absurd ⟨(Bool.not_eq_true _).mp hallow, ?_⟩ hclosing
        rw [(Bool.not_eq_true _).mp hallow] at hne
        simpa using hne
    · rfl

theorem mem_dropping {p : ConnectedClient → Bool} {ends : Slot → Option Bool} {is : List Slot}
    {i : Slot} : i ∈ (s.dropping p ends is).map Prod.snd ↔ i ∈ is ∧ p (s.client i) = true := by
  simp [dropping]

/-- What the update sends, as long as it stays in AP mode. -/
theorem outbox_updateAccessPoint (h : s.Inv) (hstay : ¬s.Leaving) (env : UpdateEnv) :
    (s.updateAccessPoint env).outbox = s.outbox.sends (s.deauths (s.droppedClients env)) := by
  have hlobby := SameLobby.kickRequested h env.kickEnds
  have hinv : (s.kickRequested env.kickEnds).Inv :=
    ⟨Consistent.tablePred.kickRequested h.consistent env.kickEnds,
      (h.kickRequested env.kickEnds).1, (h.kickRequested env.kickEnds).2⟩
  have hclient (j : Slot) := client_kickRequested h.consistent env.kickEnds j
  have hslots : (s.kickRequested env.kickEnds).slots = s.slots := by
    rw [slots, slots, hlobby.curMaxClients]
  -- Of the requested clients none is authenticated after the kicks, the others are as before.
  have hkicked (i : Slot) (hi : i ∈ s.requestedAids) :
      ((s.kickRequested env.kickEnds).client i).state = .disconnected := by
    rw [hclient, if_pos (mem_requestedAids.mp hi)]
    rfl
  have hother (i : Slot) (hi : i ∉ s.requestedAids) :
      (s.kickRequested env.kickEnds).client i = s.client i := by
    rw [hclient, if_neg fun hbit => hi (mem_requestedAids.mpr hbit)]
  have hlist : (s.kickRequested env.kickEnds).dropping (fun c => c.state = .authenticated)
      env.closeEnds s.slots = s.dropping (fun c => c.state = .authenticated) env.closeEnds
        (s.slots.filter fun i => i ∉ s.requestedAids) := by
    unfold dropping
    rw [List.filter_filter, List.filter_congr fun i _ => ?_]
    by_cases hi : i ∈ s.requestedAids
    · simp [hkicked i hi, hi]
    · simp [hother i hi, hi]
  have hdeauths (is : List Slot) : (s.kickRequested env.kickEnds).deauths (s.dropping
      (fun c => c.state = .authenticated) env.closeEnds (is.filter fun i => i ∉ s.requestedAids)) =
      s.deauths (s.dropping (fun c => c.state = .authenticated) env.closeEnds
        (is.filter fun i => i ∉ s.requestedAids)) := by
    refine List.map_congr_left fun x hx => ?_
    obtain ⟨i, hi, rfl⟩ := List.mem_map.mp hx
    have hnot : i ∉ s.requestedAids := by
      simpa using (List.mem_filter.mp (List.mem_filter.mp hi).1).2
    rw [deauthTo, deauthTo, hother i hnot, hlobby.macAddr]
  rw [updateAccessPoint, if_neg hstay, outbox_updateAllowed hinv, outbox_kickRequested h,
    ← Outbox.sends_append, hslots, hlist]
  refine congrArg s.outbox.sends ?_
  rw [droppedClients, closedClients, deauths_append]
  refine congrArg (s.deauths (s.kickedClients env.kickEnds) ++ ·) ?_
  by_cases hclosing : s.Closing
  · rw [if_pos hclosing, if_pos ((hlobby.closing h).mpr hclosing)]
    exact hdeauths s.slots
  · rw [if_neg hclosing, if_neg fun hc => hclosing ((hlobby.closing h).mp hc)]
    rfl

theorem held_update (h : s.Inv) (hmode : s.curMode = .accessPoint) (hstay : ¬s.Leaving)
    (env : UpdateEnv) : (s.update env).outbox.held =
      (s.outbox.sends (s.deauths (s.droppedClients env))).held := by
  have hinv := h.updateMode env
  have hinv' := hinv.handlesClients (.updateChannel _)
    ((SameTable.updateChannel _).consistent hinv.consistent)
  have hcase : s.updateMode env = s.updateAccessPoint env := by
    rw [updateMode, hmode]
  rw [update, held_txAllQueueFlush hinv', outbox_updateChannel, hcase,
    outbox_updateAccessPoint h hstay]

/-! ## Addresses -/

/-- A deauthentication frame to an address. -/
def IsDeauthTo (macaddr : MacAddr) (frame : List UInt8) : Prop :=
  (frame.drop sizeofTxHeader).take 2 = halfBytes typeDeauthentication ∧
    (frame.drop (sizeofTxHeader + 4)).take 6 = macaddr.toList

instance (macaddr : MacAddr) (frame : List UInt8) : Decidable (IsDeauthTo macaddr frame) :=
  inferInstanceAs (Decidable (_ ∧ _))

theorem isDeauthTo_deauthTo (macaddr : MacAddr) (i : Slot) :
    IsDeauthTo macaddr (s.deauthTo i) ↔ macaddr = (s.client i).macaddr := by
  unfold IsDeauthTo deauthTo deauthenticationBytes
  simp [List.drop_append, sizeofTxHeader, TxHeader.bytes, halfBytes, mpHostGenMgtHeader,
    IeeeFrameHeader.bytes, Vector.toList_inj, eq_comm]

/-! ## Which clients are told -/

/-- A deauthentication frame to the client has been started during the update, or waits in the queue
of the ARM7 when the update is over. -/
def Announced (s : Host) (env : UpdateEnv) (i : Slot) : Prop :=
  ∃ frame ∈ (s.update env).outbox.held.drop s.outbox.started.length,
    IsDeauthTo (s.client i).macaddr frame

/-- No client is dropped silently. -/
def DropsAnnounced (s : Host) (env : UpdateEnv) : Prop :=
  ∀ i : Slot, (s.client i).state ≠ .disconnected →
    ((s.update env).client i).state = .disconnected → s.Announced env i

/-- The frame that waits is a deauthentication frame to the client already. -/
def Waits (s : Host) (i : Slot) : Prop :=
  ∃ frame ∈ s.outbox.waiting, IsDeauthTo (s.client i).macaddr frame

/-- The clients whose frame finds the transmitter busy, except for the first one if the queue is
empty. -/
def lostClients (s : Host) (env : UpdateEnv) : List Slot :=
  Outbox.lost s.tx.loc3Busy (!s.tx.txArm7QueueIsEmpty) (s.droppedClients env)

theorem mem_droppedClients (h : s.Consistent) {env : UpdateEnv} {i : Slot} :
    i ∈ (s.droppedClients env).map Prod.snd ↔ s.Drops i ∧ (s.client i).state ≠ .disconnected := by
  rw [droppedClients, List.map_append, List.mem_append, kickedClients, mem_dropping,
    mem_requestedAids, Drops]
  have hclosed : i ∈ (s.closedClients env.closeEnds).map Prod.snd ↔
      s.Closing ∧ (s.client i).state = .authenticated ∧
        s.clients.reqKickClientAidMask.getLsbD (i.val + 1) = false := by
    unfold closedClients
    split
    · rename_i hclosing
      rw [mem_dropping, List.mem_filter, mem_slots]
      simp only [mem_requestedAids, decide_eq_true_eq, Bool.not_eq_true, hclosing, true_and]
      constructor
      · rintro ⟨⟨-, hbit⟩, hstate⟩
        exact ⟨hstate, hbit⟩
      · rintro ⟨hstate, hbit⟩
        exact ⟨⟨h.lt_curMaxClients (by rw [hstate]; decide), hbit⟩, hstate⟩
    · rename_i hclosing
      simp [hclosing]
  rw [hclosed]
  by_cases hbit : s.clients.reqKickClientAidMask.getLsbD (i.val + 1) = true
  · simp [hbit]
  · rw [Bool.not_eq_true] at hbit
    simp only [hbit, Bool.false_eq_true, false_and, false_or, and_true]
    constructor
    · rintro ⟨hclosing, hstate⟩
      exact ⟨⟨hclosing, hstate⟩, by rw [hstate]; decide⟩
    · exact fun hdrop => hdrop.1

theorem nodup_droppedClients (s : Host) (env : UpdateEnv) :
    ((s.droppedClients env).map Prod.snd).Nodup := by
  have hsnd (p : ConnectedClient → Bool) (ends : Slot → Option Bool) (is : List Slot) :
      (s.dropping p ends is).map Prod.snd = is.filter fun i => p (s.client i) := by
    rw [dropping, List.map_map]
    exact List.map_id _
  rw [droppedClients, List.map_append, kickedClients, hsnd]
  refine List.Nodup.append (s.nodup_requestedAids.filter _) ?_ ?_
  · unfold closedClients
    split
    · rw [hsnd]
      exact (s.nodup_slots.filter _).filter _
    · exact List.nodup_nil
  · intro i hi hi'
    unfold closedClients at hi'
    split at hi'
    · rw [hsnd] at hi'
      have hnot := (List.mem_filter.mp (List.mem_filter.mp hi').1).2
      exact absurd (List.mem_filter.mp hi).1 (by simpa using hnot)
    · cases hi'

/-- Clients that are connected have different frames. -/
theorem deauthTo_inj (h : s.Consistent) {i j : Slot} (hi : (s.client i).state ≠ .disconnected)
    (hj : (s.client j).state ≠ .disconnected)
    (heq : IsDeauthTo (s.client i).macaddr (s.deauthTo j)) : i = j :=
  h.table.macaddr i j hi hj ((isDeauthTo_deauthTo _ _).mp heq)

theorem waiting_isSome (s : Host) : s.outbox.waiting.isSome = !s.tx.txArm7QueueIsEmpty := by
  unfold outbox Arm7Tx.outbox
  cases s.tx.txArm7QueueIsEmpty <;> rfl

/-- No two clients that are dropped get the same frame. -/
theorem deauthTo_injOn (h : s.Consistent) {env : UpdateEnv} {i j : Slot}
    (hi : i ∈ (s.droppedClients env).map Prod.snd) (hj : j ∈ (s.droppedClients env).map Prod.snd)
    (heq : s.deauthTo i = s.deauthTo j) : i = j := by
  have hto : IsDeauthTo (s.client i).macaddr (s.deauthTo i) := (isDeauthTo_deauthTo _ _).mpr rfl
  exact deauthTo_inj h ((mem_droppedClients h).mp hi).2 ((mem_droppedClients h).mp hj).2
    (heq ▸ hto)

/-- What an update adds to the frames that are started or wait. -/
theorem held_update_drop (h : s.Inv) (hmode : s.curMode = .accessPoint) (hstay : ¬s.Leaving)
    (env : UpdateEnv) : ∃ kept,
      (s.update env).outbox.held.drop s.outbox.started.length = s.outbox.waiting.toList ++ kept ∧
      ∀ frame, frame ∈ kept ↔
        frame ∈ ((s.droppedClients env).map Prod.snd).map s.deauthTo ∧
          frame ∉ (s.lostClients env).map s.deauthTo := by
  have hsnd : (s.deauths (s.droppedClients env)).map Prod.snd =
      ((s.droppedClients env).map Prod.snd).map s.deauthTo := by
    simp [deauths]
  have hnodup : ((s.deauths (s.droppedClients env)).map Prod.snd).Nodup := by
    rw [hsnd]
    exact (s.nodup_droppedClients env).map_on fun j hj k hk => deauthTo_injOn h.consistent hj hk
  have hlost : Outbox.lost s.outbox.busy s.outbox.waiting.isSome
      (s.deauths (s.droppedClients env)) = (s.lostClients env).map s.deauthTo := by
    rw [waiting_isSome, deauths, Outbox.lost_map]
    rfl
  obtain ⟨kept, hheld, hkept⟩ := Outbox.mem_held_sends (o := s.outbox) hnodup
  rw [hlost, hsnd] at hkept
  refine ⟨kept, ?_, hkept⟩
  rw [held_update h hmode hstay, hheld, Outbox.held, List.append_assoc]
  exact List.drop_left

/-- **A client that is dropped is told exactly if its frame is not lost**, or one has been waiting
for it. -/
theorem announced_iff (h : s.Inv) (hmode : s.curMode = .accessPoint) (hstay : ¬s.Leaving)
    {env : UpdateEnv} {i : Slot} (hi : s.Drops i) (hstate : (s.client i).state ≠ .disconnected) :
    s.Announced env i ↔ (i ∈ s.lostClients env → s.Waits i) := by
  have hdrop : i ∈ (s.droppedClients env).map Prod.snd :=
    (mem_droppedClients h.consistent).mpr ⟨hi, hstate⟩
  obtain ⟨kept, hafter, hkept⟩ := held_update_drop h hmode hstay env
  unfold Announced
  rw [hafter]
  constructor
  · rintro ⟨frame, hframe, hto⟩ hi'
    rcases List.mem_append.mp hframe with hw | hk
    · exact ⟨frame, Option.mem_toList.mp hw, hto⟩
    · -- A frame that has been kept goes to this client, so it isn't the lost one.
      obtain ⟨hsent, hnot⟩ := (hkept frame).mp hk
      obtain ⟨j, hj, rfl⟩ := List.mem_map.mp hsent
      rw [deauthTo_inj h.consistent hstate ((mem_droppedClients h.consistent).mp hj).2 hto] at hi'
      exact absurd (List.mem_map_of_mem hi') hnot
  · intro hwaits
    by_cases hi' : i ∈ s.lostClients env
    · obtain ⟨frame, hframe, hto⟩ := hwaits hi'
      exact ⟨frame, List.mem_append.mpr (.inl (Option.mem_toList.mpr hframe)), hto⟩
    · refine ⟨s.deauthTo i, List.mem_append.mpr (.inr ((hkept _).mpr ?_)),
        (isDeauthTo_deauthTo _ _).mpr rfl⟩
      refine ⟨List.mem_map_of_mem hdrop, fun hlost => hi' ?_⟩
      obtain ⟨j, hj, heq⟩ := List.mem_map.mp hlost
      rw [← deauthTo_injOn h.consistent (Outbox.mem_of_mem_lost hj) hdrop heq]
      exact hj

theorem dropsAnnounced_iff (h : s.Inv) (hmode : s.curMode = .accessPoint) (hstay : ¬s.Leaving)
    (env : UpdateEnv) : s.DropsAnnounced env ↔ ∀ i ∈ s.lostClients env, s.Waits i := by
  constructor
  · intro hall i hi
    obtain ⟨hdrop, hstate⟩ :=
      (mem_droppedClients h.consistent).mp (Outbox.mem_of_mem_lost hi)
    refine (announced_iff h hmode hstay hdrop hstate).mp (hall i hstate ?_) hi
    rw [client_update h hmode hstay, if_pos hdrop]
    rfl
  · intro hall i hstate hdisc
    have hdrop : s.Drops i := by
      by_contra hno
      rw [client_update h hmode hstay, if_neg hno] at hdisc
      exact hstate hdisc
    exact (announced_iff h hmode hstay hdrop hstate).mpr (hall i)

end Host

/-- **No client is dropped silently in an update exactly if** at most one of their frames finds the
transmitter busy, and none if the queue of the ARM7 is full, up to a client for which a
deauthentication frame waits already. -/
theorem host_drops_announced_iff (macAddr : MacAddr) (es : List HostEvent) (env : Host.UpdateEnv)
    (hmode : (run hostStep (.init macAddr) es).curMode = .accessPoint)
    (hstay : ¬ (run hostStep (.init macAddr) es).Leaving) :
    (run hostStep (.init macAddr) es).DropsAnnounced env ↔
      ∀ i ∈ (run hostStep (.init macAddr) es).lostClients env,
        (run hostStep (.init macAddr) es).Waits i :=
  Host.dropsAnnounced_iff (.run macAddr es) hmode hstay env

/-- A number of clients authenticate, and all of them are to be kicked. -/
def kickAll (n : Nat) : List HostEvent :=
  [.hostMode 15, .update .idle, .update .idle] ++
    (List.range n).map (fun k => .clientAuthenticate (numberedMac k)) ++
    (List.range n).map fun k => .kickClientByAid (k + 1)

/-- Two clients are told: one frame is started, the other one waits. -/
theorem host_drops_announced_kickAll :
    (run hostStep (.init macAddrZero) (kickAll 2)).DropsAnnounced .idle :=
  (host_drops_announced_iff macAddrZero (kickAll 2) .idle (by decide +kernel)
    (by decide +kernel)).mpr fun i hi => absurd hi (by
      rw [show (run hostStep (.init macAddrZero) (kickAll 2)).lostClients .idle = [] by
        decide +kernel]
      exact List.not_mem_nil)

/-- Of three clients, the last one is dropped silently. -/
theorem kickAll_silent :
    (run hostStep (.init macAddrZero) (kickAll 3)).curMode = .accessPoint ∧
      ¬ (run hostStep (.init macAddrZero) (kickAll 3)).DropsAnnounced .idle := by
  have hinv : (run hostStep (.init macAddrZero) (kickAll 3)).Inv := .run macAddrZero (kickAll 3)
  have hmode : (run hostStep (.init macAddrZero) (kickAll 3)).curMode = .accessPoint := by
    decide +kernel
  have hlost : (run hostStep (.init macAddrZero) (kickAll 3)).lostClients .idle =
      [⟨2, by decide⟩] := by
    decide +kernel
  have hnone : (run hostStep (.init macAddrZero) (kickAll 3)).outbox.waiting = none := by
    decide +kernel
  refine ⟨hmode, fun hall => ?_⟩
  have hwaits := (Host.dropsAnnounced_iff hinv hmode (by decide +kernel) .idle).mp hall
    ⟨2, by decide⟩ (by rw [hlost]; exact List.mem_singleton_self _)
  obtain ⟨frame, hframe, -⟩ := hwaits
  rw [hnone] at hframe
  cases hframe

end Wifi
