import DsWifi.Infra.Run
import DsWifi.Connect.Calls
import DsWifi.Connect.Ntr

/-!
# Answers belong to requests

The CPUs share `reqMode` and `curMode` and nothing that tells one request from the next. A request
that is replaced before the ARM7 has looked at `reqMode` leaves the ARM7 where it is, and
`Wifi_AssocStatus` takes the old `curMode` for the answer to the new request.

* `assocStatus_answers_request` — every answer is one to the latest request in the runs in which the
  ARM9 only finds its access point while the ARM7 is done with the earlier requests
-/

namespace Wifi

open Infra

/-- The modes in which the ARM7 is busy with a connection, or has failed to get one. -/
def WifiMode.Occupied (mode : WifiMode) : Prop :=
  mode = .connecting ∨ mode = .connected ∨ mode = .cannotConnect

instance (mode : WifiMode) : Decidable mode.Occupied := inferInstanceAs (Decidable (_ ∨ _))

namespace Ntr

/-- The ARM9 has found the access point and waits for the answer, or has got it. -/
def Awaiting (s : Ntr) : Prop :=
  s.connectState = .associating ∨ s.connectState = .dhcping ∨ s.connectState = .done

/-- `Wifi_AssociationStart` has been run for the latest request, and the console has been associated
with the access point in `curAp`. -/
def AssociatedAsRequested (s : Ntr) : Prop :=
  s.monitor.startedFor = some s.requests ∧
    s.monitor.associated = some (s.requests, s.curAp.bssid)

/-! ## What the steps can do -/

/-- The step leaves the request alone. -/
structure SameRequest (s s' : Ntr) : Prop where
  connectState : s'.connectState = s.connectState
  requests : s'.requests = s.requests
  bssid : s'.curAp.bssid = s.curAp.bssid

/-- What `Wifi_NTR_Update` can do to the connection. -/
inductive Updates (s s' : Ntr) : Prop
  | stays (hmode : s'.curMode = s.curMode)
      (hlevel : s'.authlevel = s.authlevel ∨ s'.authlevel ≠ .associated)
      (hmonitor : s'.monitor = s.monitor)
  | leaves (mode : WifiMode) (hmode : s'.curMode = mode) (hfree : ¬ mode.Occupied)
      (hmonitor : s'.monitor = s.monitor)
  | starts (hfree : ¬ s.curMode.Occupied) (hmode : s'.curMode = .connecting)
      (hlevel : s'.authlevel = .disconnected)
      (hmonitor : s'.monitor = { s.monitor with startedFor := some s.requests })
  | connects (hmode : s.curMode = .connecting) (hlevel : s.authlevel = .associated)
      (hmode' : s'.curMode = .connected) (hmonitor : s'.monitor = s.monitor)
  | fails {request : Option Nat} (hmode : s'.curMode = .cannotConnect)
      (hmonitor : s'.monitor = { s.monitor with failedFor := request })
      (hrequest : request = some s.requests ∨
        request = s.monitor.startedFor ∧ (s.curMode = .connecting ∨ s.curMode = .connected))

variable {s s' : Ntr}

/-- An update touches the connection only, not the request. -/
structure Updated (s s' : Ntr) : Prop where
  updates : Updates s s'
  same : SameRequest s s'

theorem Updated.refl (s : Ntr) : Updated s s := ⟨.stays rfl (.inl rfl) rfl, ⟨rfl, rfl, rfl⟩⟩

theorem Updated.backToNormal (s : Ntr) : Updated s s.backToNormal :=
  ⟨.leaves .normal rfl (by decide) rfl, ⟨rfl, rfl, rfl⟩⟩

@[simp] theorem setChannel_monitor (s : Ntr) (channel : Nat) :
    (s.setChannel channel).monitor = s.monitor := by
  unfold setChannel
  split <;> rfl

@[simp] theorem setChannel_requests (s : Ntr) (channel : Nat) :
    (s.setChannel channel).requests = s.requests := by
  unfold setChannel
  split <;> rfl

@[simp] theorem setChannel_connectState (s : Ntr) (channel : Nat) :
    (s.setChannel channel).connectState = s.connectState := by
  unfold setChannel
  split <;> rfl

@[simp] theorem setChannel_curAp (s : Ntr) (channel : Nat) :
    (s.setChannel channel).curAp = s.curAp := by
  unfold setChannel
  split <;> rfl

@[simp] theorem setChannel_curMode (s : Ntr) (channel : Nat) :
    (s.setChannel channel).curMode = s.curMode := by
  unfold setChannel
  split <;> rfl

@[simp] theorem setChannel_authlevel (s : Ntr) (channel : Nat) :
    (s.setChannel channel).authlevel = s.authlevel := by
  unfold setChannel
  split <;> rfl

theorem updateNormalConnect_spec (hmode : s.curMode = .normal) (usCount1 : Nat) :
    Updated s (s.updateNormalConnect usCount1) := by
  have hfree : ¬ s.curMode.Occupied := by
    rw [hmode]
    decide
  unfold updateNormalConnect
  dsimp only
  split
  · split
    · exact ⟨.fails rfl rfl (.inl rfl), ⟨rfl, rfl, rfl⟩⟩
    · split <;> exact ⟨.starts hfree rfl rfl (by simp [associationStart]),
        ⟨by simp [associationStart], by simp [associationStart], by simp [associationStart]⟩⟩
  · split <;> exact ⟨.starts hfree rfl rfl (by simp [associationStart]),
      ⟨by simp [associationStart], by simp [associationStart], by simp [associationStart]⟩⟩

theorem updateNormal_spec (hmode : s.curMode = .normal) (usCount1 : Nat) :
    Updated s (s.updateNormal usCount1) := by
  unfold updateNormal
  dsimp only
  split
  · exact ⟨.leaves .disabled rfl (by decide) rfl, ⟨rfl, rfl, rfl⟩⟩
  · exact ⟨.leaves .accessPoint rfl (by decide) rfl, ⟨rfl, rfl, rfl⟩⟩
  · exact ⟨.leaves .scan rfl (by decide) rfl, ⟨rfl, rfl, rfl⟩⟩
  · obtain ⟨hupdate, hsame⟩ := updateNormalConnect_spec
      (s := { s with curLibraryMode := s.reqLibraryMode }) hmode usCount1
    refine ⟨?_, ⟨hsame.connectState, hsame.requests, hsame.bssid⟩⟩
    cases hupdate with
    | stays hmode hlevel hmonitor => exact .stays hmode hlevel hmonitor
    | leaves mode hmode hfree hmonitor => exact .leaves mode hmode hfree hmonitor
    | starts hfree hmode hlevel hmonitor => exact .starts hfree hmode hlevel hmonitor
    | connects hmode hlevel hmode' hmonitor => exact .connects hmode hlevel hmode' hmonitor
    | fails hmode hmonitor hrequest => exact .fails hmode hmonitor hrequest
  · exact ⟨.stays rfl (.inl rfl) rfl, ⟨rfl, rfl, rfl⟩⟩

theorem updateScan_spec (s : Ntr) (usCount1 : Nat) : Updated s (s.updateScan usCount1) := by
  unfold updateScan
  split
  · exact .backToNormal s
  · split
    · dsimp only
      exact ⟨.stays (by simp) (.inl (by simp)) (by simp), ⟨by simp, by simp, by simp⟩⟩
    · exact .refl s

/-- A retry does not associate the console. -/
theorem associationUpdate_spec (s : Ntr) :
    (s.associationUpdate.authlevel = s.authlevel ∨ s.associationUpdate.authlevel ≠ .associated) ∧
    s.associationUpdate.curMode = s.curMode ∧ s.associationUpdate.monitor = s.monitor ∧
    SameRequest s s.associationUpdate := by
  unfold associationUpdate
  dsimp only
  split
  · exact ⟨.inr nofun, rfl, rfl, ⟨rfl, rfl, rfl⟩⟩
  · split
    · exact ⟨.inr nofun, rfl, rfl, ⟨rfl, rfl, rfl⟩⟩
    · exact ⟨.inr nofun, rfl, rfl, ⟨rfl, rfl, rfl⟩⟩
    · exact ⟨.inl rfl, rfl, rfl, ⟨rfl, rfl, rfl⟩⟩
    · exact ⟨.inl rfl, rfl, rfl, ⟨rfl, rfl, rfl⟩⟩
    · exact ⟨.inl rfl, rfl, rfl, ⟨rfl, rfl, rfl⟩⟩

theorem updateConnecting_spec (hmode : s.curMode = .connecting) (usCount1 : Nat) :
    Updated s (s.updateConnecting usCount1) := by
  unfold updateConnecting
  split_ifs with hlibrary hreq hassociated herror hlate
  · exact .backToNormal s
  · exact .backToNormal s
  · exact ⟨.connects hmode hassociated rfl rfl, ⟨rfl, rfl, rfl⟩⟩
  · exact ⟨.fails rfl rfl (.inr ⟨rfl, .inl hmode⟩), ⟨rfl, rfl, rfl⟩⟩
  · obtain ⟨hlevel, hmode', hmonitor, hsame⟩ :=
      associationUpdate_spec { s with counter7 := usCount1 }
    exact ⟨.stays hmode' hlevel hmonitor, ⟨hsame.connectState, hsame.requests, hsame.bssid⟩⟩
  · exact .refl s

theorem updateConnected_spec (hmode : s.curMode = .connected) : Updated s s.updateConnected := by
  unfold updateConnected
  split_ifs
  · exact .backToNormal s
  · exact .backToNormal s
  · exact ⟨.fails rfl rfl (.inr ⟨rfl, .inr hmode⟩), ⟨rfl, rfl, rfl⟩⟩
  · exact .refl s

theorem updateMode_spec (s : Ntr) (usCount1 : Nat) : Updated s (s.updateMode usCount1) := by
  unfold updateMode
  cases hmode : s.curMode with
  | normal => exact updateNormal_spec hmode usCount1
  | scan => exact updateScan_spec s usCount1
  | connecting => exact updateConnecting_spec hmode usCount1
  | connected => exact updateConnected_spec hmode
  | disabled =>
    dsimp only
    split_ifs
    · exact .backToNormal s
    · exact .refl s
  | cannotConnect =>
    dsimp only [updateCannotConnect]
    split_ifs
    · exact .backToNormal s
    · exact .backToNormal s
    · exact .refl s
  | accessPoint =>
    dsimp only [updateAccessPoint]
    split_ifs
    · exact .backToNormal s
    · exact .refl s
  | disconnecting => exact .refl s
  | initializing => exact .refl s

theorem update_spec (s : Ntr) (usCount1 : Nat) : Updated s (s.update usCount1) := by
  obtain ⟨hupdate, hsame⟩ := updateMode_spec s usCount1
  obtain ⟨channel, heq⟩ := update_eq s usCount1
  rw [heq]
  refine ⟨?_, ⟨hsame.connectState, hsame.requests, hsame.bssid⟩⟩
  -- The channel is no part of the connection.
  cases hupdate with
  | stays hmode hlevel hmonitor => exact .stays hmode hlevel hmonitor
  | leaves mode hmode hfree hmonitor => exact .leaves mode hmode hfree hmonitor
  | starts hfree hmode hlevel hmonitor => exact .starts hfree hmode hlevel hmonitor
  | connects hmode hlevel hmode' hmonitor => exact .connects hmode hlevel hmode' hmonitor
  | fails hmode hmonitor hrequest => exact .fails hmode hmonitor hrequest

/-- What a received frame can do to the connection. -/
structure Receives (s s' : Ntr) : Prop where
  mode : s'.curMode = s.curMode
  same : SameRequest s s'
  monitor : s'.monitor = s.monitor ∧ (s'.authlevel = s.authlevel ∨ s'.authlevel ≠ .associated) ∨
    s'.monitor = { s.monitor with associated := s.monitor.startedFor.map (·, s.curAp.bssid) }

theorem Receives.ignored (s : Ntr) : Receives s s := ⟨rfl, ⟨rfl, rfl, rfl⟩, .inl ⟨rfl, .inl rfl⟩⟩

/-- A frame that is no success leaves the console without association. -/
theorem Receives.authlevel (level : AuthLevel) (h : level ≠ .associated) (s : Ntr) :
    Receives s { s with authlevel := level } :=
  ⟨rfl, ⟨rfl, rfl, rfl⟩, .inl ⟨rfl, .inr h⟩⟩

theorem processBeaconOrProbeResponse_spec (s : Ntr) (info : BeaconInfo) (acquired : Bool) :
    Receives s (s.processBeaconOrProbeResponse info acquired) := by
  unfold processBeaconOrProbeResponse
  dsimp only
  generalize hkeep : (if info.hasNintendoInfo then _ else _ : Bool) = keep
  cases keep with
  | true => exact ⟨rfl, ⟨rfl, rfl, rfl⟩, .inl ⟨rfl, .inl rfl⟩⟩
  | false => exact .ignored s

/-- What an authentication frame can do. -/
inductive Authenticates (s : Ntr) : Ntr → Prop
  | ignored : Authenticates s s
  | authenticated : Authenticates s { s with authlevel := .authenticated, authctr := 0 }
  | failed : Authenticates s { s with authlevel := .error }

theorem authenticate_cases (s : Ntr) : Authenticates s s.authenticate := by
  unfold authenticate
  split
  · exact .authenticated
  · exact .ignored

theorem processAuthentication_cases (s : Ntr) (frame : AuthenticationFrame) :
    Authenticates s (s.processAuthentication frame) := by
  unfold processAuthentication
  repeat' split
  all_goals first
    | exact .ignored
    | exact authenticate_cases s
    | exact .failed

theorem processAuthentication_spec (s : Ntr) (frame : AuthenticationFrame) :
    Receives s (s.processAuthentication frame) := by
  have hcases := processAuthentication_cases s frame
  generalize s.processAuthentication frame = s' at hcases ⊢
  cases hcases with
  | ignored => exact .ignored s
  | authenticated => exact ⟨rfl, ⟨rfl, rfl, rfl⟩, .inl ⟨rfl, .inr nofun⟩⟩
  | failed => exact .authlevel .error nofun s

theorem processDeauthentication_spec (s : Ntr) (frame : DeauthenticationFrame) :
    Receives s (s.processDeauthentication frame) := by
  unfold processDeauthentication
  split_ifs
  · exact .ignored s
  · exact .ignored s
  · exact .ignored s
  · exact .authlevel .error nofun s
  · exact .authlevel .disconnected nofun s

theorem processAssocResponse_spec (s : Ntr) (frame : AssocResponseFrame) :
    Receives s (s.processAssocResponse frame) := by
  unfold processAssocResponse
  split_ifs
  · exact .ignored s
  · exact .ignored s
  · exact ⟨rfl, ⟨rfl, rfl, rfl⟩, .inr rfl⟩
  · exact .ignored s
  · exact ⟨rfl, ⟨rfl, rfl, rfl⟩, .inl ⟨rfl, .inr nofun⟩⟩
  · exact .authlevel .error nofun s

theorem processReceivedFrame_spec (s : Ntr) (frame : ReceivedFrame) :
    Receives s (s.processReceivedFrame frame) := by
  cases frame with
  | beacon info acquired => exact processBeaconOrProbeResponse_spec s info acquired
  | authentication frame =>
    unfold processReceivedFrame
    split_ifs
    · exact .ignored s
    · exact processAuthentication_spec s frame
  | deauthentication frame =>
    unfold processReceivedFrame
    split_ifs
    · exact .ignored s
    · exact processDeauthentication_spec s frame
  | assocResponse frame => exact processAssocResponse_spec s frame

/-- A received frame leaves the modes, what is requested of them and the timer alone. -/
theorem processReceivedFrame_modes (s : Ntr) (frame : ReceivedFrame) :
    (s.processReceivedFrame frame).curMode = s.curMode ∧
    (s.processReceivedFrame frame).reqMode = s.reqMode ∧
    (s.processReceivedFrame frame).curLibraryMode = s.curLibraryMode ∧
    (s.processReceivedFrame frame).reqLibraryMode = s.reqLibraryMode ∧
    (s.processReceivedFrame frame).curApScanFlags = s.curApScanFlags ∧
    (s.processReceivedFrame frame).reqApScanFlags = s.reqApScanFlags ∧
    (s.processReceivedFrame frame).counter7 = s.counter7 := by
  cases frame with
  | beacon info acquired =>
    dsimp only [processReceivedFrame, processBeaconOrProbeResponse]
    split_ifs <;> exact ⟨rfl, rfl, rfl, rfl, rfl, rfl, rfl⟩
  | authentication frame =>
    dsimp only [processReceivedFrame]
    split_ifs
    · exact ⟨rfl, rfl, rfl, rfl, rfl, rfl, rfl⟩
    · have hcases := processAuthentication_cases s frame
      generalize s.processAuthentication frame = s' at hcases ⊢
      cases hcases <;> exact ⟨rfl, rfl, rfl, rfl, rfl, rfl, rfl⟩
  | deauthentication frame =>
    dsimp only [processReceivedFrame, processDeauthentication]
    split_ifs <;> exact ⟨rfl, rfl, rfl, rfl, rfl, rfl, rfl⟩
  | assocResponse frame =>
    dsimp only [processReceivedFrame, processAssocResponse]
    split_ifs <;> exact ⟨rfl, rfl, rfl, rfl, rfl, rfl, rfl⟩

end Ntr

/-! ## The invariant -/

/-- While the ARM9 waits, the ARM7 works for its latest request. -/
structure Ntr.Answering (s : Ntr) : Prop where
  started : s.curMode = .connecting ∨ s.curMode = .connected →
    s.monitor.startedFor = some s.requests
  level : s.curMode = .connecting → s.authlevel = .associated →
    s.monitor.associated = some (s.requests, s.curAp.bssid)
  connected : s.curMode = .connected → s.monitor.associated = some (s.requests, s.curAp.bssid)
  failed : s.curMode = .cannotConnect → s.monitor.failedFor = some s.requests
  answered : s.connectState ≠ .associating → s.AssociatedAsRequested

namespace Ntr

variable {s s' : Ntr}

theorem SameRequest.awaiting (h : SameRequest s s') : s'.Awaiting ↔ s.Awaiting := by
  unfold Awaiting
  rw [h.connectState]

theorem SameRequest.asRequested (h : SameRequest s s') (hmonitor : s'.monitor = s.monitor) :
    s'.AssociatedAsRequested ↔ s.AssociatedAsRequested := by
  unfold AssociatedAsRequested
  rw [hmonitor, h.requests, h.bssid]

/-- Of a free ARM7 the invariant asks nothing. -/
theorem Answering.of_free (hmode : ¬ s.curMode.Occupied)
    (hanswered : s.connectState ≠ .associating → s.AssociatedAsRequested) : s.Answering := by
  unfold WifiMode.Occupied at hmode
  refine ⟨?_, ?_, ?_, ?_, hanswered⟩
  · rintro (h | h) <;> simp [h] at hmode
  · intro h
    simp [h] at hmode
  · intro h
    simp [h] at hmode
  · intro h
    simp [h] at hmode

theorem Answering.update (h : s.Answering) (hupdate : Updates s s') (hsame : SameRequest s s') :
    s'.Answering := by
  have hanswered : s'.monitor = s.monitor →
      s'.connectState ≠ .associating → s'.AssociatedAsRequested := by
    intro hmonitor hstate
    rw [hsame.connectState] at hstate
    exact (hsame.asRequested hmonitor).mpr (h.answered hstate)
  cases hupdate with
  | stays hmode hlevel hmonitor =>
    refine ⟨?_, ?_, ?_, ?_, hanswered hmonitor⟩
    · rw [hmode, hmonitor, hsame.requests]
      exact h.started
    · rw [hmode, hmonitor, hsame.requests, hsame.bssid]
      intro hconnecting hassociated
      obtain hlevel | hlevel := hlevel
      · exact h.level hconnecting (hlevel ▸ hassociated)
      · exact absurd hassociated hlevel
    · rw [hmode, hmonitor, hsame.requests, hsame.bssid]
      exact h.connected
    · rw [hmode, hmonitor, hsame.requests]
      exact h.failed
  | leaves mode hmode hfree hmonitor => exact .of_free (hmode ▸ hfree) (hanswered hmonitor)
  | starts hfree hmode hlevel hmonitor =>
    refine ⟨?_, ?_, ?_, ?_, ?_⟩
    · intro _
      rw [hmonitor, hsame.requests]
    · intro _ hassociated
      rw [hlevel] at hassociated
      cases hassociated
    · intro hm
      rw [hmode] at hm
      cases hm
    · intro hm
      rw [hmode] at hm
      cases hm
    · intro hstate
      rw [hsame.connectState] at hstate
      unfold AssociatedAsRequested
      rw [hmonitor, hsame.requests, hsame.bssid]
      exact ⟨rfl, (h.answered hstate).2⟩
  | connects hmode hlevel hmode' hmonitor =>
    refine ⟨?_, ?_, ?_, ?_, hanswered hmonitor⟩
    · intro _
      rw [hmonitor, hsame.requests]
      exact h.started (.inl hmode)
    · intro hm
      rw [hmode'] at hm
      cases hm
    · intro _
      rw [hmonitor, hsame.requests, hsame.bssid]
      exact h.level hmode hlevel
    · intro hm
      rw [hmode'] at hm
      cases hm
  | fails hmode hmonitor hrequest =>
    refine ⟨?_, ?_, ?_, ?_, ?_⟩
    · rintro (hm | hm) <;> rw [hmode] at hm <;> cases hm
    · intro hm
      rw [hmode] at hm
      cases hm
    · intro hm
      rw [hmode] at hm
      cases hm
    · intro _
      rw [hmonitor, hsame.requests]
      obtain hrequest | ⟨hrequest, hm⟩ := hrequest
      · exact hrequest
      · exact hrequest.trans (h.started hm)
    · intro hstate
      rw [hsame.connectState] at hstate
      unfold AssociatedAsRequested
      rw [hmonitor, hsame.requests, hsame.bssid]
      exact h.answered hstate

theorem Answering.receive (h : s.Answering) (hframe : Receives s s') : s'.Answering := by
  obtain ⟨hmode, hsame, hmonitor⟩ := hframe
  obtain ⟨hmonitor, hlevel⟩ | hmonitor := hmonitor
  · exact h.update (.stays hmode hlevel hmonitor) hsame
  · -- The console is associated on behalf of the request in `startedFor`.
    have hassociated (hstarted : s.monitor.startedFor = some s.requests) :
        s'.monitor.associated = some (s'.requests, s'.curAp.bssid) := by
      rw [hmonitor, hsame.requests, hsame.bssid, hstarted]
      rfl
    refine ⟨?_, ?_, ?_, ?_, ?_⟩
    · rw [hmode, hmonitor, hsame.requests]
      exact h.started
    · rw [hmode]
      intro hm _
      exact hassociated (h.started (.inl hm))
    · rw [hmode]
      intro hm
      exact hassociated (h.started (.inr hm))
    · rw [hmode, hmonitor, hsame.requests]
      exact h.failed
    · intro hstate
      rw [hsame.connectState] at hstate
      have hstarted := (h.answered hstate).1
      refine ⟨?_, hassociated hstarted⟩
      rw [hmonitor, hsame.requests]
      exact hstarted

/-- The invariant: nothing is known while the ARM9 still looks for the access point. -/
def AssocInv (s : Ntr) : Prop := s.Awaiting → s.Answering

theorem AssocInv.call (h : s.AssocInv) (call : ApiCall) : (ntrStep s (.call call)).AssocInv := by
  obtain ⟨hmode, hlevel, hrequest⟩ := call.run_asks s.toArm9
  intro hawait
  obtain hr | hr | hr | ⟨hstate, hrequests, hbssid⟩ := hrequest
  · obtain h | h | h := hawait <;> cases hr.symm.trans h
  · obtain h | h | h := hawait <;> cases hr.symm.trans h
  · obtain h | h | h := hawait <;> cases hr.symm.trans h
  · have hsame : SameRequest s (ntrStep s (.call call)) := ⟨hstate, hrequests, hbssid⟩
    exact (h (hsame.awaiting.mp hawait)).update (.stays hmode (.inl hlevel) rfl) hsame

end Ntr

/-! ## Fresh requests -/

/-- The ARM9 finds its access point only while the ARM7 is done with the earlier requests. -/
def StepFresh (s : Ntr) : NtrEvent → Prop
  | .assocStatus _ =>
    s.curMode.Occupied →
      (s.connectState = .searching → findMatchingAp s.aplist [s.connectPoint] = none) ∧
      (s.connectState = .searchingWfc → findMatchingApFromWfc s.wfc s.aplist = none)
  | _ => True

/-- The answer is one to the latest request: `ASSOCSTATUS_ASSOCIATED` after the association that has
been started for it, and `ASSOCSTATUS_CANNOTCONNECT` of the ARM7 after its failure. -/
def StepAnswers (s : Ntr) : NtrEvent → Prop
  | .assocStatus env =>
    ((s.assocStatus env).2 = .associated → s.AssociatedAsRequested) ∧
    (s.connectState = .associating → (s.assocStatus env).2 = .cannotConnect →
      s.monitor.failedFor = some s.requests)
  | _ => True

instance (s : Ntr) : Decidable s.AssociatedAsRequested := inferInstanceAs (Decidable (_ ∧ _))

instance (s : Ntr) : ∀ ev, Decidable (StepFresh s ev)
  | .assocStatus _ => inferInstanceAs (Decidable (_ → _ ∧ _))
  | .call _ | .update _ | .receive _ => .isTrue trivial

instance (s : Ntr) : ∀ ev, Decidable (StepAnswers s ev)
  | .assocStatus _ => inferInstanceAs (Decidable (_ ∧ _))
  | .call _ | .update _ | .receive _ => .isTrue trivial

namespace Ntr

variable {s : Ntr}

theorem AssocInv.assocStatus (h : s.AssocInv) (env : LwipEnv)
    (hfresh : StepFresh s (.assocStatus env)) : (ntrStep s (.assocStatus env)).AssocInv := by
  unfold ntrStep Arm9.assocStatus
  cases hstate : s.connectState with
  | error => exact h
  | searching =>
    unfold Arm9.assocStatusSearching
    cases hfind : findMatchingAp s.aplist [s.connectPoint] with
    | none => exact h
    | some found =>
      have hfree : ¬ s.curMode.Occupied := by
        intro hmode
        rw [(hfresh hmode).1 hstate] at hfind
        cases hfind
      exact fun _ => .of_free hfree fun hne => absurd rfl hne
  | searchingWfc =>
    unfold Arm9.assocStatusSearchingWfc
    cases hfind : findMatchingApFromWfc s.wfc s.aplist with
    | none => exact h
    | some found =>
      have hfree : ¬ s.curMode.Occupied := by
        intro hmode
        rw [(hfresh hmode).2 hstate] at hfind
        cases hfind
      exact fun _ => .of_free hfree fun hne => absurd rfl hne
  | associating =>
    have hans := h (.inl hstate)
    unfold Arm9.assocStatusAssociating
    cases hmode : s.curMode with
    | connected =>
      have hasked : s.AssociatedAsRequested := ⟨hans.started (.inr hmode), hans.connected hmode⟩
      dsimp only
      split_ifs
      · exact fun _ => ⟨hans.started, hans.level, hans.connected, hans.failed, fun _ => hasked⟩
      · exact fun _ => ⟨hans.started, hans.level, hans.connected, hans.failed, fun _ => hasked⟩
    | cannotConnect => nofun
    | _ => exact h
  | dhcping =>
    have hans := h (.inr (.inl hstate))
    dsimp only
    split_ifs
    · exact fun _ => ⟨hans.started, hans.level, hans.connected, hans.failed,
        fun _ => hans.answered (by rw [hstate]; nofun)⟩
    · exact h
    · nofun
  | done => exact h

theorem AssocInv.step (h : s.AssocInv) {ev : NtrEvent} (hfresh : StepFresh s ev) :
    (ntrStep s ev).AssocInv := by
  cases ev with
  | call call => exact h.call call
  | assocStatus env => exact h.assocStatus env hfresh
  | update usCount1 =>
    obtain ⟨hupdate, hsame⟩ := update_spec s usCount1
    exact fun hawait => (h (hsame.awaiting.mp hawait)).update hupdate hsame
  | receive frame =>
    have hframe := processReceivedFrame_spec s frame
    exact fun hawait => (h (hframe.same.awaiting.mp hawait)).receive hframe

theorem AssocInv.answers (h : s.AssocInv) (ev : NtrEvent) : StepAnswers s ev := by
  cases ev with
  | assocStatus env =>
    unfold StepAnswers Arm9.assocStatus
    cases hstate : s.connectState with
    | associating =>
      have hans := h (.inl hstate)
      unfold Arm9.assocStatusAssociating
      cases hmode : s.curMode with
      | connected =>
        exact ⟨fun _ => ⟨hans.started (.inr hmode), hans.connected hmode⟩, fun _ => by
          dsimp only
          split_ifs <;> nofun⟩
      | cannotConnect => exact ⟨nofun, fun _ _ => hans.failed hmode⟩
      | _ => exact ⟨nofun, fun _ => nofun⟩
    | dhcping =>
      have hans := h (.inr (.inl hstate))
      exact ⟨fun _ => hans.answered (by rw [hstate]; nofun), nofun⟩
    | done =>
      have hans := h (.inr (.inr hstate))
      exact ⟨fun _ => hans.answered (by rw [hstate]; nofun), nofun⟩
    | error => exact ⟨nofun, nofun⟩
    | searching =>
      refine ⟨?_, nofun⟩
      dsimp only [Arm9.assocStatusSearching]
      split <;> nofun
    | searchingWfc =>
      refine ⟨?_, nofun⟩
      dsimp only [Arm9.assocStatusSearchingWfc]
      split <;> nofun
  | _ => trivial

/-- An access point that is found while an earlier request is connected: the request is answered by
the next two calls, whatever has become of it. -/
theorem stale_answer (hmode : s.curMode = .connected) (hstate : s.connectState = .searching)
    (hfind : findMatchingAp s.aplist [s.connectPoint] ≠ none)
    (hstarted : s.monitor.startedFor ≠ some s.requests) {env : LwipEnv}
    (henv : env.enabled = false) :
    ¬ Along ntrStep StepAnswers s [.assocStatus env, .assocStatus env] := by
  obtain ⟨⟨j, found⟩, hfound⟩ := Option.ne_none_iff_exists'.mp hfind
  rintro ⟨-, ⟨hanswer, -⟩, -⟩
  have hstep : (ntrStep s (.assocStatus env)).toArm9 =
      { s.toArm9 with curAp := found, reqMode := .connected, connectState := .associating } := by
    simp [ntrStep, Arm9.assocStatus, hstate, Arm9.assocStatusSearching, hfound]
  have hassociated : ((ntrStep s (.assocStatus env)).assocStatus env).2 = .associated := by
    rw [hstep]
    simp [Arm9.assocStatus, Arm9.assocStatusAssociating, hmode, henv]
  have hstale := (hanswer hassociated).1
  rw [hstep] at hstale
  exact hstarted hstale

end Ntr

/-- In the runs that find an access point only with a free ARM7, `Wifi_AssocStatus` answers the
latest request. -/
theorem assocStatus_answers_request (main : MainStruct) (evs : List NtrEvent)
    (h : Along ntrStep StepFresh (.init main) evs) :
    Along ntrStep StepAnswers (.init main) evs := by
  have hinit : (Ntr.init main).AssocInv := by
    rintro (h | h | h) <;> cases h
  exact h.of_inv Ntr.AssocInv (fun _ _ h hev => h.step hev) (fun _ ev h _ => h.answers ev) hinit

/-! ## Two requests -/

/-- The console finds two access points and connects to the first one. -/
def connectRun : List NtrEvent :=
  let bssid := (exampleAp 1).bssid
  [.call .enableWifi, .update 0,
    .call (.connectOpenAp (some (exampleAp 1))), .update 1,
    .receive (.beacon (exampleBeacon 1) true), .receive (.beacon (exampleBeacon 2) true),
    .assocStatus withoutLwip, .update 2, .update 3,
    .receive (.authentication
      { da := exampleMac, bssid, authAlgorithm := 0, seqNumber := 2, statusCode := 0 }),
    .receive (.assocResponse { da := exampleMac, bssid, statusCode := 0 }),
    .update 4, .assocStatus withoutLwip]

example :
    ((run ntrStep (.init exampleMain) connectRun).assocStatus withoutLwip).2 = .associated := by
  decide +kernel

/-- Then it connects to the second one, once the ARM7 has left the first. -/
def secondRun : List NtrEvent :=
  let bssid := (exampleAp 2).bssid
  connectRun ++
    [.call (.connectOpenAp (some (exampleAp 2))), .update 5, .update 6,
      .receive (.beacon (exampleBeacon 2) true),
      .assocStatus withoutLwip, .update 7, .update 8,
      .receive (.authentication
        { da := exampleMac, bssid, authAlgorithm := 0, seqNumber := 2, statusCode := 0 }),
      .receive (.assocResponse { da := exampleMac, bssid, statusCode := 0 }),
      .update 9, .assocStatus withoutLwip]

example :
    ((run ntrStep (.init exampleMain) secondRun).assocStatus withoutLwip).2 = .associated ∧
      (run ntrStep (.init exampleMain) secondRun).curAp.bssid = (exampleAp 2).bssid := by
  decide +kernel

theorem assocStatus_answers_secondRun : Along ntrStep StepAnswers (.init exampleMain) secondRun :=
  assocStatus_answers_request exampleMain secondRun (by decide +kernel)

/-- It is told to connect to the second one, and asks twice before the next update. -/
def reconnectRun : List NtrEvent :=
  connectRun ++
    [.call (.connectOpenAp (some (exampleAp 2))), .assocStatus withoutLwip,
      .assocStatus withoutLwip]

theorem reconnectRun_stale : ¬ ∀ (main : MainStruct) (evs : List NtrEvent),
    Along ntrStep StepAnswers (.init main) evs :=
  fun h => absurd (h exampleMain reconnectRun) (by decide +kernel)

end Wifi
