import DsWifi.Connect.Association

/-!
# The association of a station

`WIFIMODE_CONNECTING` waits for `WIFI_AUTHLEVEL_ASSOCIATED`, `WIFIMODE_CONNECTED` only looks for
`WIFI_AUTHLEVEL_ERROR`. A frame that takes `authlevel` elsewhere leaves a connected station without
association, and nothing tries again. The AID of the station is part of the state here
(`Wifi_NTR_SetAssociationID`, `source/arm7/ntr/setup.c`).

* `connected_associated_iff` — a connected station is associated, with the AID that it has been
  given, exactly if no update finds it connected without an association or a failure, or with an AID
  of more than four bits
-/

namespace Wifi

open Infra

/-- The console in NTR mode, with its AID. -/
structure Station extends Ntr where
  /-- `curClientAID`. -/
  curClientAid : Nat
  /-- The AID field of the last association response that has been accepted. -/
  acceptedAid : Nat

def Station.init (main : MainStruct) : Station where
  toNtr := .init main
  curClientAid := 0
  acceptedAid := 0

namespace Station

/-- What `Wifi_NTR_SetAssociationID` stores of an AID. -/
def shortAid (aid : Nat) : Nat := aid &&& 0xF

/-- `Wifi_NTR_SetAssociationID`. -/
def setAssociationId (s : Station) (aid : Nat) : Station := { s with curClientAid := shortAid aid }

/-- The response is for the console, from its access point, and a success. -/
def Accepts (s : Station) (frame : Ntr.AssocResponseFrame) : Prop :=
  frame.da = s.macAddr ∧ frame.bssid = s.curAp.bssid ∧ frame.statusCode = 0

/-- The frame gets to the end of `Wifi_ProcessDeauthentication`, or of the function of a host. -/
def Deauthenticates (s : Station) (frame : Ntr.DeauthenticationFrame) : Prop :=
  frame.complete ∧
    (frame.da = s.macAddr ∨ s.curMode ≠ .accessPoint ∧ frame.da = wifiBroadcastAddr) ∧
    (s.curMode = .accessPoint ∨ frame.bssid = s.curAp.bssid)

instance (s : Station) (frame : Ntr.AssocResponseFrame) : Decidable (s.Accepts frame) :=
  inferInstanceAs (Decidable (_ ∧ _))

instance (s : Station) (frame : Ntr.DeauthenticationFrame) : Decidable (s.Deauthenticates frame) :=
  inferInstanceAs (Decidable (_ ∧ _))

/-- `Wifi_ProcessReceivedFrame`. An association response has an AID. -/
def processReceivedFrame (s : Station) (frame : Ntr.ReceivedFrame) (associationId : Nat) :
    Station :=
  let next := { s with toNtr := s.toNtr.processReceivedFrame frame }
  match frame with
  | .assocResponse frame =>
    if s.Accepts frame then
      { next.setAssociationId associationId with acceptedAid := associationId }
    else next
  | .deauthentication frame => if s.Deauthenticates frame then next.setAssociationId 0 else next
  | .beacon _ _ | .authentication _ => next

/-- `Wifi_NTR_Update` sets the AID to `0`: on starting the hardware, on starting AP mode, and on
leaving `WIFIMODE_CONNECTED` because of another request. -/
def ResetsAid (s : Station) : Prop :=
  s.curMode = .disabled ∧ s.reqMode ≠ .disabled ∨
    s.curMode = .normal ∧ s.reqMode = .accessPoint ∨
    s.curMode = .connected ∧ s.curLibraryMode = s.reqLibraryMode ∧ s.reqMode ≠ .connected

instance (s : Station) : Decidable s.ResetsAid := inferInstanceAs (Decidable (_ ∨ _))

/-- `Wifi_NTR_Update`. -/
def update (s : Station) (usCount1 : Nat) : Station :=
  let next := { s with toNtr := s.toNtr.update usCount1 }
  if s.ResetsAid then next.setAssociationId 0 else next

end Station

/-- What can happen, with the AID field of an association response that is received. -/
structure StationEvent where
  event : NtrEvent
  associationId : Nat

def stationStep (s : Station) (ev : StationEvent) : Station :=
  match ev.event with
  | .call call => { s with toNtr := ntrStep s.toNtr (.call call) }
  | .assocStatus env => { s with toNtr := ntrStep s.toNtr (.assocStatus env) }
  | .update usCount1 => s.update usCount1
  | .receive frame => s.processReceivedFrame frame ev.associationId

/-- The AID is no concern of what has been modelled without it. -/
theorem stationStep_toNtr (s : Station) (ev : StationEvent) :
    (stationStep s ev).toNtr = ntrStep s.toNtr ev.event := by
  obtain ⟨event, associationId⟩ := ev
  cases event with
  | call call => rfl
  | assocStatus env => rfl
  | update usCount1 =>
    unfold stationStep Station.update
    dsimp only
    split <;> rfl
  | receive frame =>
    unfold stationStep Station.processReceivedFrame
    cases frame with
    | assocResponse frame =>
      dsimp only
      split <;> rfl
    | deauthentication frame =>
      dsimp only
      split <;> rfl
    | _ => rfl

namespace Station

/-! ## The law -/

/-- The AID in a field of 16 bits. An access point sets the other two. -/
def aidBits (aid : Nat) : Nat := aid % 2 ^ 14

/-- A connected station is associated, and has the AID that it has been given. `aidOf` takes the AID
out of its field. -/
def ConnectedAsAssociated (aidOf : Nat → Nat) (s : Station) : Prop :=
  s.curMode = .connected → s.authlevel = .associated ∧ s.curClientAid = aidOf s.acceptedAid

/-- An update ends with a station for which the law holds. -/
def EndsAssociated (aidOf : Nat → Nat) (s : Station) (ev : StationEvent) : Prop :=
  match ev.event with
  | .update _ => (stationStep s ev).ConnectedAsAssociated aidOf
  | _ => True

/-- An update that the station is still to be connected at finds it associated, or with an error
that the update reports. The AID that it has been given goes up to 15. -/
def FindsAssociated (aidOf : Nat → Nat) (s : Station) (ev : StationEvent) : Prop :=
  match ev.event with
  | .update _ =>
    s.curLibraryMode = s.reqLibraryMode → s.reqMode = .connected →
      (s.curMode = .connected →
        s.authlevel = .associated ∧ aidOf s.acceptedAid < 16 ∨ s.authlevel = .error) ∧
      (s.curMode = .connecting → s.authlevel = .associated → aidOf s.acceptedAid < 16)
  | _ => True

/-- The AID belongs to the association. -/
def AidKept (s : Station) : Prop :=
  s.curMode = .connecting ∨ s.curMode = .connected → s.authlevel = .associated →
    s.curClientAid = shortAid s.acceptedAid

variable {s s' : Station}

theorem shortAid_eq_mod (aid : Nat) : shortAid aid = aid % 2 ^ 4 :=
  Nat.and_two_pow_sub_one_eq_mod aid 4

theorem shortAid_aidBits (aid : Nat) : shortAid (aidBits aid) = shortAid aid := by
  rw [shortAid_eq_mod, shortAid_eq_mod, aidBits]
  omega

/-- Only four bits of an AID are kept. -/
theorem shortAid_eq_iff (aid : Nat) : shortAid aid = aid ↔ aid < 16 := by
  rw [shortAid_eq_mod]
  exact Nat.mod_eq_iff_lt (by decide)

/-- Nothing of the association has changed. -/
theorem AidKept.of_same (h : s.AidKept) (hmode : s'.curMode = s.curMode)
    (hlevel : s'.authlevel = s.authlevel ∨ s'.authlevel ≠ .associated)
    (haid : s'.curClientAid = s.curClientAid) (haccepted : s'.acceptedAid = s.acceptedAid) :
    s'.AidKept := by
  intro hmode' hassociated
  rw [hmode] at hmode'
  rw [haid, haccepted]
  obtain hlevel | hlevel := hlevel
  · exact h hmode' (hlevel ▸ hassociated)
  · exact (hlevel hassociated).elim

theorem AidKept.of_free (hmode : ¬ s.curMode.Occupied) : s.AidKept := by
  intro h
  obtain h | h := h
  · exact (hmode (.inl h)).elim
  · exact (hmode (.inr (.inl h))).elim

/-! ### The update -/

/-- An update that resets the AID does not leave a station. -/
theorem update_curMode_of_resetsAid (h : s.ResetsAid) (usCount1 : Nat) :
    ¬ (s.toNtr.update usCount1).curMode.Occupied := by
  have hmode : (s.toNtr.updateMode usCount1).curMode = .normal ∨
      (s.toNtr.updateMode usCount1).curMode = .accessPoint := by
    obtain ⟨hcur, hreq⟩ | ⟨hcur, hreq⟩ | ⟨hcur, hlibrary, hreq⟩ := h
    · rw [Ntr.updateMode_of_disabled usCount1 hcur, if_pos hreq]
      exact .inl rfl
    · rw [Ntr.updateMode_of_normal usCount1 hcur]
      unfold Ntr.updateNormal
      dsimp only
      rw [hreq]
      exact .inr rfl
    · rw [Ntr.updateMode_of_connected usCount1 hcur]
      unfold Ntr.updateConnected
      rw [if_neg (not_not_intro hlibrary), if_pos hreq]
      exact .inl rfl
  obtain ⟨channel, heq⟩ := s.toNtr.update_eq usCount1
  rw [heq]
  intro hoccupied
  obtain h | h := hmode
  · rw [WifiMode.Occupied, h] at hoccupied
    revert hoccupied
    decide
  · rw [WifiMode.Occupied, h] at hoccupied
    revert hoccupied
    decide

theorem AidKept.update (h : s.AidKept) (usCount1 : Nat) : (s.update usCount1).AidKept := by
  have hspec := (Ntr.update_spec s.toNtr usCount1).updates
  by_cases hreset : s.ResetsAid
  · refine .of_free ?_
    unfold Station.update
    dsimp only
    rw [if_pos hreset]
    exact update_curMode_of_resetsAid hreset usCount1
  · unfold Station.update
    dsimp only
    rw [if_neg hreset]
    cases hspec with
    | stays hmode hlevel => exact h.of_same hmode hlevel rfl rfl
    | leaves mode hmode hfree => exact .of_free (hmode ▸ hfree)
    | starts _ _ hlevel =>
      intro _ hassociated
      rw [hlevel] at hassociated
      cases hassociated
    | connects hmode hlevel _ _ => exact fun _ _ => h (.inl hmode) hlevel
    | fails hmode _ _ =>
      rintro (hmode' | hmode') <;> cases hmode.symm.trans hmode'

end Station

namespace Ntr

variable {s : Ntr}

theorem update_mode_level (s : Ntr) (usCount1 : Nat) :
    (s.update usCount1).curMode = (s.updateMode usCount1).curMode ∧
    (s.update usCount1).authlevel = (s.updateMode usCount1).authlevel := by
  obtain ⟨channel, heq⟩ := update_eq s usCount1
  rw [heq]
  exact ⟨rfl, rfl⟩

/-- A connected station stays connected as long as it is asked to and there is no error. -/
theorem update_of_connected (hmode : s.curMode = .connected) (usCount1 : Nat) :
    if s.curLibraryMode = s.reqLibraryMode ∧ s.reqMode = .connected ∧ s.authlevel ≠ .error then
      (s.update usCount1).curMode = .connected ∧ (s.update usCount1).authlevel = s.authlevel
    else (s.update usCount1).curMode ≠ .connected := by
  obtain ⟨hcur, hlevel⟩ := update_mode_level s usCount1
  rw [hcur, hlevel, updateMode_of_connected usCount1 hmode]
  unfold updateConnected
  by_cases hlibrary : s.curLibraryMode = s.reqLibraryMode
  · by_cases hreq : s.reqMode = .connected
    · by_cases herror : s.authlevel = .error
      · simp [hlibrary, hreq, herror, cannotConnect]
      · simp [hlibrary, hreq, herror, hmode]
    · simp [hlibrary, hreq, backToNormal]
  · simp [hlibrary, backToNormal]

/-- A station gets connected because it is associated. -/
theorem update_gets_connected (hmode : s.curMode ≠ .connected) {usCount1 : Nat}
    (h : (s.update usCount1).curMode = .connected) :
    s.curMode = .connecting ∧ s.authlevel = .associated ∧
      (s.update usCount1).authlevel = .associated := by
  cases (update_spec s usCount1).updates with
  | stays hstays => exact (hmode (hstays.symm.trans h)).elim
  | leaves mode hleaves hfree =>
    rw [h] at hleaves
    exact (hfree (hleaves ▸ .inr (.inl rfl))).elim
  | starts _ hstarts => cases hstarts.symm.trans h
  | fails hfails => cases hfails.symm.trans h
  | connects hconnecting hassociated =>
    refine ⟨hconnecting, hassociated, ?_⟩
    rw [(update_mode_level s usCount1).2, updateMode_of_connecting usCount1 hconnecting]
    unfold updateConnecting
    rw [if_pos hassociated]
    split_ifs <;> exact hassociated

/-- An associated station gets connected as long as it is asked to. -/
theorem update_of_connecting (hmode : s.curMode = .connecting)
    (hassociated : s.authlevel = .associated) (usCount1 : Nat) :
    (s.update usCount1).curMode = .connected ↔
      s.curLibraryMode = s.reqLibraryMode ∧ s.reqMode = .connected := by
  rw [(update_mode_level s usCount1).1, updateMode_of_connecting usCount1 hmode]
  unfold updateConnecting
  by_cases hlibrary : s.curLibraryMode = s.reqLibraryMode
  · by_cases hreq : s.reqMode = .connected
    · simp [hlibrary, hreq, hassociated]
    · simp [hlibrary, hreq, backToNormal]
  · simp [hlibrary, backToNormal]

end Ntr

namespace Station

variable {s : Station}

theorem update_toNtr (s : Station) (usCount1 : Nat) :
    (s.update usCount1).toNtr = s.toNtr.update usCount1 := by
  unfold update
  dsimp only
  split <;> rfl

/-- An update that leaves a station connected doesn't touch the AIDs. -/
theorem update_aids {usCount1 : Nat} (hcur : (s.toNtr.update usCount1).curMode = .connected) :
    (s.update usCount1).curClientAid = s.curClientAid ∧
      (s.update usCount1).acceptedAid = s.acceptedAid := by
  unfold update
  dsimp only
  split_ifs with hreset
  · exact (update_curMode_of_resetsAid hreset usCount1 (hcur ▸ .inr (.inl rfl))).elim
  · exact ⟨rfl, rfl⟩

section

variable {aidOf : Nat → Nat} (haidOf : ∀ aid, shortAid (aidOf aid) = shortAid aid)
include haidOf

/-- With an AID of four bits a station has the one that it has been given. -/
theorem AidKept.eq_acceptedAid_iff (h : s.AidKept)
    (hmode : s.curMode = .connecting ∨ s.curMode = .connected)
    (hassociated : s.authlevel = .associated) :
    s.curClientAid = aidOf s.acceptedAid ↔ aidOf s.acceptedAid < 16 := by
  rw [h hmode hassociated, ← haidOf, shortAid_eq_iff]

/-- **Of the updates, exactly those that find a station with the right AID, and a connected one
associated or failed, end with the law.** -/
theorem update_connectedAsAssociated_iff (h : s.AidKept) (usCount1 : Nat) :
    (s.update usCount1).ConnectedAsAssociated aidOf ↔
      (s.curLibraryMode = s.reqLibraryMode → s.reqMode = .connected →
        (s.curMode = .connected →
          s.authlevel = .associated ∧ aidOf s.acceptedAid < 16 ∨ s.authlevel = .error) ∧
        (s.curMode = .connecting → s.authlevel = .associated → aidOf s.acceptedAid < 16)) := by
  unfold ConnectedAsAssociated
  rw [update_toNtr]
  by_cases hmode : s.curMode = .connected
  · have hupdate := Ntr.update_of_connected hmode usCount1
    have hconnecting : s.curMode ≠ .connecting := by
      rw [hmode]
      nofun
    split_ifs at hupdate with hstays
    · obtain ⟨hlibrary, hreq, herror⟩ := hstays
      obtain ⟨hcur, hlevel⟩ := hupdate
      obtain ⟨haid, haccepted⟩ := update_aids hcur
      rw [hlevel, haid, haccepted]
      constructor
      · intro hlaw _ _
        obtain ⟨hassociated, heq⟩ := hlaw hcur
        have hlt := (h.eq_acceptedAid_iff haidOf (.inr hmode) hassociated).mp heq
        exact ⟨fun _ => .inl ⟨hassociated, hlt⟩, fun hc => absurd hc hconnecting⟩
      · intro hfinds _
        obtain ⟨hassociated, hlt⟩ := ((hfinds hlibrary hreq).1 hmode).resolve_right herror
        exact ⟨hassociated, (h.eq_acceptedAid_iff haidOf (.inr hmode) hassociated).mpr hlt⟩
    · -- The station is left, and the law says nothing.
      refine iff_of_true (fun hcur => (hupdate hcur).elim) fun hlibrary hreq =>
        ⟨fun _ => .inr ?_, fun hc => absurd hc hconnecting⟩
      by_contra herror
      exact hstays ⟨hlibrary, hreq, herror⟩
  · -- `WIFIMODE_CONNECTING` waits for the association.
    constructor
    · intro hlaw hlibrary hreq
      refine ⟨fun hc => absurd hc hmode, fun hconnecting hassociated => ?_⟩
      have hcur := (Ntr.update_of_connecting hconnecting hassociated usCount1).mpr
        ⟨hlibrary, hreq⟩
      obtain ⟨haid, haccepted⟩ := update_aids hcur
      have heq := (hlaw hcur).2
      rw [haid, haccepted] at heq
      exact (h.eq_acceptedAid_iff haidOf (.inl hconnecting) hassociated).mp heq
    · intro hfinds hcur
      obtain ⟨hconnecting, hassociated, hafter⟩ := Ntr.update_gets_connected hmode hcur
      obtain ⟨hlibrary, hreq⟩ :=
        (Ntr.update_of_connecting hconnecting hassociated usCount1).mp hcur
      have hlt := (hfinds hlibrary hreq).2 hconnecting hassociated
      obtain ⟨haid, haccepted⟩ := update_aids hcur
      rw [haid, haccepted]
      exact ⟨hafter, (h.eq_acceptedAid_iff haidOf (.inl hconnecting) hassociated).mpr hlt⟩

end

/-! ### The steps -/

theorem processAuthentication_authlevel (s : Ntr) (frame : Ntr.AuthenticationFrame) :
    (s.processReceivedFrame (.authentication frame)).authlevel = s.authlevel ∨
      (s.processReceivedFrame (.authentication frame)).authlevel ≠ .associated := by
  dsimp only [Ntr.processReceivedFrame]
  split_ifs
  · exact .inl rfl
  · have hcases := s.processAuthentication_cases frame
    generalize s.processAuthentication frame = s' at hcases ⊢
    cases hcases with
    | ignored => exact .inl rfl
    | authenticated => exact .inr nofun
    | failed => exact .inr nofun

/-- A deauthentication that is no concern of the console changes nothing. -/
theorem processDeauthentication_ignored {frame : Ntr.DeauthenticationFrame}
    (h : ¬ s.Deauthenticates frame) :
    (s.toNtr.processReceivedFrame (.deauthentication frame)).authlevel = s.authlevel := by
  unfold Ntr.processReceivedFrame Ntr.processDeauthentication
  dsimp only
  split_ifs with hmode hcomplete hda hbssid hreason
  · rfl
  · rfl
  · rfl
  · rfl
  all_goals
    refine (h ⟨by simpa using hcomplete, ?_, .inr (not_not.mp hbssid)⟩).elim
    by_cases hmac : frame.da = s.macAddr
    · exact .inl hmac
    · exact .inr ⟨hmode, by_contra fun hbroadcast => hda ⟨hmac, hbroadcast⟩⟩

/-- A station that is deauthenticated isn't associated any more. -/
theorem processDeauthentication_authlevel {frame : Ntr.DeauthenticationFrame}
    (h : s.Deauthenticates frame) (hmode : s.curMode ≠ .accessPoint) :
    (s.toNtr.processReceivedFrame (.deauthentication frame)).authlevel ≠ .associated := by
  obtain ⟨hcomplete, hda, hbssid⟩ := h
  have hbssid := hbssid.resolve_left hmode
  have hda : ¬ (frame.da ≠ s.macAddr ∧ frame.da ≠ wifiBroadcastAddr) := by
    rintro ⟨hmac, hbroadcast⟩
    exact hbroadcast (hda.resolve_left hmac).2
  unfold Ntr.processReceivedFrame Ntr.processDeauthentication
  dsimp only
  rw [if_neg hmode, if_neg (by simp [hcomplete]), if_neg hda, if_neg (not_not.mpr hbssid)]
  split_ifs <;> nofun

/-- Without an accepted response nothing gets associated. -/
theorem processAssocResponse_ignored {frame : Ntr.AssocResponseFrame} (h : ¬ s.Accepts frame) :
    (s.toNtr.processReceivedFrame (.assocResponse frame)).authlevel = s.authlevel ∨
      (s.toNtr.processReceivedFrame (.assocResponse frame)).authlevel ≠ .associated := by
  unfold Ntr.processReceivedFrame Ntr.processAssocResponse
  dsimp only
  split_ifs with hda hbssid hstatus hlevel hrates
  · exact .inl rfl
  · exact .inl rfl
  · exact (h ⟨not_not.mp hda, not_not.mp hbssid, hstatus⟩).elim
  · exact .inl rfl
  · exact .inr nofun
  · exact .inr nofun

theorem AidKept.receive (h : s.AidKept) (frame : Ntr.ReceivedFrame) (associationId : Nat) :
    (s.processReceivedFrame frame associationId).AidKept := by
  have hmode := (Ntr.processReceivedFrame_spec s.toNtr frame).mode
  unfold processReceivedFrame
  cases frame with
  | beacon info acquired =>
    refine h.of_same hmode (.inl ?_) rfl rfl
    unfold Ntr.processReceivedFrame Ntr.processBeaconOrProbeResponse
    dsimp only
    split_ifs <;> rfl
  | authentication frame =>
    exact h.of_same hmode (processAuthentication_authlevel s.toNtr frame) rfl rfl
  | deauthentication frame =>
    dsimp only
    split_ifs with hdeauth
    · rintro hstation hassociated
      refine (processDeauthentication_authlevel hdeauth ?_ hassociated).elim
      intro hap
      obtain hstation | hstation := hstation <;> cases hap.symm.trans (hmode.symm.trans hstation)
    · exact h.of_same hmode (.inl (processDeauthentication_ignored hdeauth)) rfl rfl
  | assocResponse frame =>
    dsimp only
    split_ifs with haccepts
    · exact fun _ _ => rfl
    · exact h.of_same hmode (processAssocResponse_ignored haccepts) rfl rfl

theorem AidKept.step (h : s.AidKept) (ev : StationEvent) : (stationStep s ev).AidKept := by
  obtain ⟨event, associationId⟩ := ev
  cases event with
  | call call =>
    have hasks := call.run_asks s.toArm9
    exact h.of_same hasks.mode (.inl hasks.level) rfl rfl
  | assocStatus env =>
    obtain ⟨hmode, hlevel⟩ := s.toArm9.assocStatus_mode_level env
    exact h.of_same hmode (.inl hlevel) rfl rfl
  | update usCount1 => exact h.update usCount1
  | receive frame => exact h.receive frame associationId

theorem endsAssociated_iff {aidOf : Nat → Nat} (haidOf : ∀ aid, shortAid (aidOf aid) = shortAid aid)
    (h : s.AidKept) (ev : StationEvent) :
    s.EndsAssociated aidOf ev ↔ s.FindsAssociated aidOf ev := by
  obtain ⟨event, associationId⟩ := ev
  cases event with
  | update usCount1 => exact update_connectedAsAssociated_iff haidOf h usCount1
  | _ => exact Iff.rfl

/-- Whichever bits of the field above the four are taken for the AID. -/
theorem along_endsAssociated_iff {aidOf : Nat → Nat}
    (haidOf : ∀ aid, shortAid (aidOf aid) = shortAid aid) {s : Station} (h : s.AidKept)
    (events : List StationEvent) :
    Along stationStep (EndsAssociated aidOf) s events ↔
      Along stationStep (FindsAssociated aidOf) s events :=
  along_iff AidKept (fun _ ev h _ => h.step ev) (fun _ ev h => endsAssociated_iff haidOf h ev)
    events h

end Station

/-- **The updates of a run end with an associated station, if with a connected one, and with the AID
that it has been given, exactly if none of them finds it connected without an association or a
failure, or with an AID that has more than four bits.** This is so for the whole AID field, and
without the two bits of it that access points set. -/
theorem connected_associated_iff (reqFlags : Nat) (reqLibraryMode : LibraryMode)
    (macAddr : MacAddr) (wfc : List WfcConfig) (events : List StationEvent) :
    let s : Station := .init (.init reqFlags reqLibraryMode macAddr wfc)
    (Along stationStep (Station.EndsAssociated id) s events ↔
      Along stationStep (Station.FindsAssociated id) s events) ∧
    (Along stationStep (Station.EndsAssociated Station.aidBits) s events ↔
      Along stationStep (Station.FindsAssociated Station.aidBits) s events) := by
  intro s
  have hkept : s.AidKept := by rintro (h | h) <;> cases h
  exact ⟨Station.along_endsAssociated_iff (fun _ => rfl) hkept events,
    Station.along_endsAssociated_iff Station.shortAid_aidBits hkept events⟩

/-- The station is connected, then deauthenticated for an unspecified reason. Its attempt to
authenticate again is lost. -/
def deauthenticatedRun : List StationEvent :=
  connectRun.map (⟨·, 1⟩) ++
    [⟨.receive (.deauthentication
      { complete := true, da := exampleMac, bssid := (exampleAp 1).bssid, reasonCode := 1 }), 0⟩,
      ⟨.update 5, 0⟩]

theorem deauthenticatedRun_connected :
    ¬ ∃ aidOf, (run stationStep (.init exampleMain) deauthenticatedRun).ConnectedAsAssociated
      aidOf := by
  rintro ⟨aidOf, h⟩
  exact absurd (h (by decide +kernel)).1 (by decide +kernel)

end Wifi
