import DsWifi.Connect.Association

/-!
# Modes and library modes

The ARM9 asks for a mode in `reqMode` and for a library mode in `reqLibraryMode`, most of the time
for one of them only. `WIFIMODE_NORMAL` takes the library mode first and then starts whatever
`reqMode` says. `Wifi_ScanMode` does not scan as a host, but it looks at the library mode of before,
and `Wifi_ScanModeFilter` and `Wifi_AssocStatus` do not look at all.

* `modes_consistent_iff` — the mode fits the library mode all along exactly if no search and no
  connection is started while the host library mode is requested
-/

namespace Wifi

open Infra

/-! ## What the calls ask for -/

/-- A call leaves the modes of the ARM7 alone, and AP mode is asked for along with host mode. -/
structure Arm9.AsksModes (s s' : Arm9) : Prop where
  mode : s'.curMode = s.curMode
  library : s'.curLibraryMode = s.curLibraryMode
  request : s'.reqMode = .accessPoint →
    s'.reqLibraryMode = .multiplayerHost ∨
      s.reqMode = .accessPoint ∧ s'.reqLibraryMode = s.reqLibraryMode

namespace Arm9

variable {s s' : Arm9}

/-- The call asks for no mode. -/
theorem AsksModes.same (hmode : s'.curMode = s.curMode)
    (hlibrary : s'.curLibraryMode = s.curLibraryMode) (hreq : s'.reqMode = s.reqMode)
    (hreqLibrary : s'.reqLibraryMode = s.reqLibraryMode) : s.AsksModes s' :=
  ⟨hmode, hlibrary, fun h => .inr ⟨hreq ▸ h, hreqLibrary⟩⟩

/-- The call asks for another mode than AP mode. -/
theorem AsksModes.other (hmode : s'.curMode = s.curMode)
    (hlibrary : s'.curLibraryMode = s.curLibraryMode) (hreq : s'.reqMode ≠ .accessPoint) :
    s.AsksModes s' :=
  ⟨hmode, hlibrary, fun h => (hreq h).elim⟩

theorem AsksModes.trans {s'' : Arm9} (h : s.AsksModes s') (h' : s'.AsksModes s'') :
    s.AsksModes s'' where
  mode := h'.mode.trans h.mode
  library := h'.library.trans h.library
  request hreq := by
    obtain hhost | ⟨hreq', hsame⟩ := h'.request hreq
    · exact .inl hhost
    · rw [hsame]
      exact h.request hreq'

theorem scanMode_asksModes (s : Arm9) : s.AsksModes s.scanMode := by
  unfold scanMode
  split
  · exact .other rfl rfl nofun
  · exact .other rfl rfl nofun
  · exact .same rfl rfl rfl rfl

theorem internetMode_asksModes (env : LwipEnv) (s : Arm9) : s.AsksModes (s.internetMode env) := by
  unfold internetMode
  split
  · exact .other rfl rfl nofun
  · exact .same rfl rfl rfl rfl

theorem search_asksModes (s : Arm9) (apdata : AccessPoint) (security : ApSecurity)
    (reqFlags : Nat) : s.AsksModes (s.search apdata security reqFlags) := by
  have hidle : s.AsksModes { s.disconnectAp with
      connectState := .searching
      curApSecurity := security
      reqFlags
      connectPoint := apdata
      requests := s.requests + 1 } := .other rfl rfl nofun
  exact hidle.trans (scanMode_asksModes _)

theorem connectSecureAp_asksModes (s : Arm9) (apdata : Option AccessPoint)
    (key : Option (List UInt8)) (keyLen : Nat) :
    s.AsksModes (s.connectSecureAp apdata key keyLen).1 := by
  have herror : s.AsksModes { s with connectState := .error } := .same rfl rfl rfl rfl
  unfold connectSecureAp
  cases apdata with
  | none => exact herror
  | some apdata =>
    dsimp only
    split_ifs
    · exact herror
    · exact herror
    · exact herror
    · exact herror.trans (search_asksModes ..)

theorem connectWfcAp_asksModes (s : Arm9) (apdata : Option AccessPoint) :
    s.AsksModes (s.connectWfcAp apdata).1 := by
  have herror : s.AsksModes { s with connectState := .error } := .same rfl rfl rfl rfl
  unfold connectWfcAp
  cases apdata with
  | none => exact herror
  | some apdata =>
    dsimp only
    split_ifs
    · exact herror
    · exact herror.trans (search_asksModes ..)

theorem connectAp_asksModes (s : Arm9) (apdata : Option AccessPoint) (wepmode : Int)
    (wepkey : Option (List UInt8)) : s.AsksModes (s.connectAp apdata wepmode wepkey).1 := by
  have herror : s.AsksModes { s with connectState := .error } := .same rfl rfl rfl rfl
  unfold connectAp
  dsimp only
  split_ifs
  · exact herror
  · exact herror.trans (connectSecureAp_asksModes ..)

theorem autoConnect_asksModes (env : LwipEnv) (s : Arm9) : s.AsksModes (s.autoConnect env) := by
  have hinternet := internetMode_asksModes env s
  unfold autoConnect
  dsimp only
  split_ifs
  · exact hinternet.trans (.same rfl rfl rfl rfl)
  · have hsearch : (s.internetMode env).AsksModes { s.internetMode env with
        connectState := .searchingWfc
        requests := (s.internetMode env).requests + 1 } := .same rfl rfl rfl rfl
    exact (hinternet.trans hsearch).trans (scanMode_asksModes _)

end Arm9

theorem ApiCall.run_asksModes (s : Arm9) (call : ApiCall) : s.AsksModes (call.run s) := by
  cases call with
  | scanMode => exact s.scanMode_asksModes
  | internetMode env => exact s.internetMode_asksModes env
  | connectSecureAp apdata key keyLen => exact s.connectSecureAp_asksModes apdata key keyLen
  | connectWfcAp apdata => exact s.connectWfcAp_asksModes apdata
  | connectAp apdata wepmode wepkey => exact s.connectAp_asksModes apdata wepmode wepkey
  | connectOpenAp apdata => exact s.connectSecureAp_asksModes apdata none 0
  | autoConnect env => exact s.autoConnect_asksModes env
  | disableWifi | enableWifi | scanModeFilter | idleMode | disconnectAp =>
    exact .other rfl rfl nofun
  | multiplayerAllowNewClients => exact .same rfl rfl rfl rfl
  | multiplayerClientMode clientPacketSize =>
    unfold ApiCall.run Arm9.multiplayerClientMode
    dsimp only
    split_ifs
    · exact .same rfl rfl rfl rfl
    · exact .other rfl rfl nofun
  | multiplayerHostMode maxClients hostPacketSize clientPacketSize =>
    unfold ApiCall.run Arm9.multiplayerHostMode
    dsimp only
    split
    · exact .same rfl rfl rfl rfl
    · exact ⟨rfl, rfl, fun _ => .inl rfl⟩
  | setChannel channel =>
    unfold ApiCall.run Arm9.setChannel
    dsimp only
    split_ifs <;> exact .same rfl rfl rfl rfl
  | beaconStart ssid =>
    unfold ApiCall.run Arm9.beaconStartSsid
    dsimp only
    split_ifs <;> exact .same rfl rfl rfl rfl

theorem Arm9.assocStatus_asksModes (s : Arm9) (env : LwipEnv) :
    s.AsksModes (s.assocStatus env).1 := by
  unfold assocStatus
  split
  · exact .same rfl rfl rfl rfl
  · unfold assocStatusSearching
    split
    · exact .other rfl rfl nofun
    · exact .same rfl rfl rfl rfl
  · unfold assocStatusAssociating
    split
    · exact .same rfl rfl rfl rfl
    · split_ifs <;> exact .same rfl rfl rfl rfl
    · exact .same rfl rfl rfl rfl
    · exact .same rfl rfl rfl rfl
  · split_ifs
    · exact .same rfl rfl rfl rfl
    · exact .same rfl rfl rfl rfl
    · exact .other rfl rfl nofun
  · exact .same rfl rfl rfl rfl
  · unfold assocStatusSearchingWfc
    split
    · exact .other rfl rfl nofun
    · exact .same rfl rfl rfl rfl

/-! ## The law -/

namespace Ntr

/-- The mode is one of the library mode. -/
structure ModesFit (s : Ntr) : Prop where
  accessPoint : s.curMode = .accessPoint → s.curLibraryMode = .multiplayerHost
  station : s.curMode = .scan ∨ s.curMode = .connecting ∨ s.curMode = .connected →
    s.curLibraryMode = .internet ∨ s.curLibraryMode = .multiplayerClient

/-- After the event the modes fit, and the library mode is the same outside `WIFIMODE_NORMAL`. -/
def StaysConsistent (s : Ntr) (event : NtrEvent) : Prop :=
  (ntrStep s event).ModesFit ∧
    (s.curMode ≠ .normal → (ntrStep s event).curLibraryMode = s.curLibraryMode)

/-- `WIFIMODE_NORMAL` is about to start a search or a connection. The key of a connection has to be
in the WFC settings, if it is to come from there. -/
def StartsStation (s : Ntr) : Prop :=
  s.curMode = .normal ∧
    (s.reqMode = .scan ∨
      s.reqMode = .connected ∧
        (s.reqFlags &&& wflagReqLoadWfcKey ≠ 0 →
          getWfcAccessPointIndex s.wfc s.curAp.ssid ≠ none))

/-- No update starts a search or a connection as a host. -/
def StartsNoStationAsHost (s : Ntr) : NtrEvent → Prop
  | .update _ => s.StartsStation → s.reqLibraryMode ≠ .multiplayerHost
  | _ => True

/-- AP mode is requested along with the library mode. -/
def HostRequested (s : Ntr) : Prop :=
  s.reqMode = .accessPoint → s.reqLibraryMode = .multiplayerHost

variable {s : Ntr}

theorem modesFit_init (reqFlags : Nat) (reqLibraryMode : LibraryMode) (macAddr : MacAddr)
    (wfc : List WfcConfig) : (Ntr.init (.init reqFlags reqLibraryMode macAddr wfc)).ModesFit :=
  ⟨nofun, by rintro (h | h | h) <;> cases h⟩

/-- The law asks nothing of the other modes. -/
theorem ModesFit.of_idle {s : Ntr} (hmode : s.curMode = .disabled ∨ s.curMode = .normal ∨
    s.curMode = .cannotConnect) : s.ModesFit := by
  refine ⟨fun h => ?_, fun h => ?_⟩
  · rw [h] at hmode
    obtain h | h | h := hmode <;> cases h
  · obtain hmode | hmode | hmode := hmode <;> rw [hmode] at h <;> obtain h | h | h := h <;> cases h

/-- The same mode and library mode. -/
theorem ModesFit.of_same {s' : Ntr} (h : s.ModesFit) (hmode : s'.curMode = s.curMode)
    (hlibrary : s'.curLibraryMode = s.curLibraryMode) : s'.ModesFit := by
  refine ⟨?_, ?_⟩
  · rw [hmode, hlibrary]
    exact h.accessPoint
  · rw [hmode, hlibrary]
    exact h.station

theorem ne_host_iff (mode : LibraryMode) :
    mode ≠ .multiplayerHost ↔ mode = .internet ∨ mode = .multiplayerClient := by
  cases mode <;> decide

/-- A station fits every library mode but the one of a host. -/
theorem modesFit_station_iff {s : Ntr}
    (hmode : s.curMode = .scan ∨ s.curMode = .connecting ∨ s.curMode = .connected) :
    s.ModesFit ↔ s.curLibraryMode ≠ .multiplayerHost := by
  rw [ne_host_iff]
  refine ⟨fun h => h.station hmode, fun h => ⟨fun hap => ?_, fun _ => h⟩⟩
  rw [hap] at hmode
  obtain h | h | h := hmode <;> cases h

@[simp] theorem setChannel_curLibraryMode (s : Ntr) (channel : Nat) :
    (s.setChannel channel).curLibraryMode = s.curLibraryMode := by
  unfold setChannel
  split <;> rfl

@[simp] theorem setChannel_reqMode (s : Ntr) (channel : Nat) :
    (s.setChannel channel).reqMode = s.reqMode := by
  unfold setChannel
  split <;> rfl

@[simp] theorem setChannel_reqLibraryMode (s : Ntr) (channel : Nat) :
    (s.setChannel channel).reqLibraryMode = s.reqLibraryMode := by
  unfold setChannel
  split <;> rfl

/-! ### The update -/

/-- Where the request to connect leads. -/
theorem updateNormalConnect_modes (s : Ntr) (usCount1 : Nat) :
    (s.updateNormalConnect usCount1).curLibraryMode = s.curLibraryMode ∧
    (s.updateNormalConnect usCount1).curMode =
      if s.reqFlags &&& wflagReqLoadWfcKey ≠ 0 →
          getWfcAccessPointIndex s.wfc s.curAp.ssid ≠ none then .connecting
      else .cannotConnect := by
  unfold updateNormalConnect
  dsimp only
  by_cases hload : s.reqFlags &&& wflagReqLoadWfcKey ≠ 0
  · rw [if_pos hload]
    cases hindex : getWfcAccessPointIndex s.wfc s.curAp.ssid with
    | none =>
      rw [if_neg fun h => h hload rfl]
      exact ⟨rfl, rfl⟩
    | some index =>
      rw [if_pos fun _ => Option.some_ne_none index]
      dsimp only
      split <;> exact ⟨by simp [associationStart], rfl⟩
  · rw [if_neg hload, if_pos fun h => (hload h).elim]
    split <;> exact ⟨by simp [associationStart], rfl⟩

/-- `WIFIMODE_NORMAL` starts a station exactly if it is about to. -/
theorem updateNormal_modesFit_iff (hmode : s.curMode = .normal) (hhost : s.HostRequested)
    (usCount1 : Nat) :
    (s.updateNormal usCount1).ModesFit ↔
      (s.StartsStation → s.reqLibraryMode ≠ .multiplayerHost) := by
  unfold updateNormal
  dsimp only
  split
  next hreq =>
    exact iff_of_true (.of_idle (.inl rfl)) fun h => by simp [StartsStation, hreq] at h
  next hreq =>
    refine iff_of_true ⟨fun _ => hhost hreq, ?_⟩ fun h => by simp [StartsStation, hreq] at h
    rintro (h | h | h) <;> cases h
  next hreq =>
    -- `WIFIMODE_SCAN` starts with the library mode that is requested.
    have hstarts : s.StartsStation := ⟨hmode, .inl hreq⟩
    exact (modesFit_station_iff (.inl rfl)).trans ⟨fun h _ => h, fun h => h hstarts⟩
  next hreq =>
    obtain ⟨hlibrary, hmode'⟩ :=
      updateNormalConnect_modes { s with curLibraryMode := s.reqLibraryMode } usCount1
    by_cases hload : s.reqFlags &&& wflagReqLoadWfcKey ≠ 0 →
        getWfcAccessPointIndex s.wfc s.curAp.ssid ≠ none
    · rw [if_pos hload] at hmode'
      have hstarts : s.StartsStation := ⟨hmode, .inr ⟨hreq, hload⟩⟩
      rw [modesFit_station_iff (.inr (.inl hmode')), hlibrary]
      exact ⟨fun h _ => h, fun h => h hstarts⟩
    · -- The WFC key can't be loaded, so that nothing is started.
      rw [if_neg hload] at hmode'
      refine iff_of_true (.of_idle (.inr (.inr hmode'))) fun ⟨_, h⟩ => ?_
      obtain h | ⟨-, h⟩ := h
      · rw [hreq] at h
        cases h
      · exact (hload h).elim
  next hscan hconnected =>
    refine iff_of_true (.of_idle (.inr (.inl hmode))) fun ⟨_, h⟩ => ?_
    obtain h | ⟨h, -⟩ := h
    · exact (hscan h).elim
    · exact (hconnected h).elim

/-- Outside `WIFIMODE_NORMAL` an update goes on, goes back or gives up. -/
theorem updateMode_modes (hmode : s.curMode ≠ .normal) (usCount1 : Nat) :
    (s.updateMode usCount1).curLibraryMode = s.curLibraryMode ∧
    ((s.updateMode usCount1).curMode = s.curMode ∨
      (s.updateMode usCount1).curMode = .normal ∨
      (s.updateMode usCount1).curMode = .cannotConnect ∨
      s.curMode = .connecting ∧ (s.updateMode usCount1).curMode = .connected) := by
  unfold updateMode
  cases hcur : s.curMode with
  | normal => exact (hmode hcur).elim
  | disabled =>
    dsimp only
    split_ifs
    · exact ⟨rfl, .inr (.inl rfl)⟩
    · exact ⟨rfl, .inl hcur⟩
  | scan =>
    dsimp only [updateScan]
    split
    · exact ⟨rfl, .inr (.inl rfl)⟩
    · split
      · exact ⟨by simp, .inl (by simpa using hcur)⟩
      · exact ⟨rfl, .inl hcur⟩
  | connecting =>
    dsimp only [updateConnecting]
    split_ifs
    · exact ⟨rfl, .inr (.inl rfl)⟩
    · exact ⟨rfl, .inr (.inl rfl)⟩
    · exact ⟨rfl, .inr (.inr (.inr ⟨rfl, rfl⟩))⟩
    · exact ⟨rfl, .inr (.inr (.inl rfl))⟩
    · dsimp only [associationUpdate]
      split_ifs
      · exact ⟨rfl, .inl hcur⟩
      · split <;> exact ⟨rfl, .inl hcur⟩
    · exact ⟨rfl, .inl hcur⟩
  | connected =>
    dsimp only [updateConnected]
    split_ifs
    · exact ⟨rfl, .inr (.inl rfl)⟩
    · exact ⟨rfl, .inr (.inl rfl)⟩
    · exact ⟨rfl, .inr (.inr (.inl rfl))⟩
    · exact ⟨rfl, .inl hcur⟩
  | cannotConnect =>
    dsimp only [updateCannotConnect]
    split_ifs
    · exact ⟨rfl, .inr (.inl rfl)⟩
    · exact ⟨rfl, .inr (.inl rfl)⟩
    · exact ⟨rfl, .inl hcur⟩
  | accessPoint =>
    dsimp only [updateAccessPoint]
    split_ifs
    · exact ⟨rfl, .inr (.inl rfl)⟩
    · exact ⟨rfl, .inl hcur⟩
  | disconnecting => exact ⟨rfl, .inl hcur⟩
  | initializing => exact ⟨rfl, .inl hcur⟩

theorem update_modes (s : Ntr) (usCount1 : Nat) :
    (s.update usCount1).curMode = (s.updateMode usCount1).curMode ∧
    (s.update usCount1).curLibraryMode = (s.updateMode usCount1).curLibraryMode := by
  obtain ⟨channel, heq⟩ := update_eq s usCount1
  rw [heq]
  exact ⟨rfl, rfl⟩

/-- An update leaves the requests of the ARM9 alone. -/
theorem updateMode_requests (s : Ntr) (usCount1 : Nat) :
    (s.updateMode usCount1).reqMode = s.reqMode ∧
    (s.updateMode usCount1).reqLibraryMode = s.reqLibraryMode := by
  unfold updateMode updateNormal updateNormalConnect updateScan updateConnecting updateConnected
    updateCannotConnect updateAccessPoint associationUpdate associationStart
  dsimp only
  repeat' split
  all_goals exact ⟨by simp [backToNormal, cannotConnect], by simp [backToNormal, cannotConnect]⟩

theorem update_requests (s : Ntr) (usCount1 : Nat) :
    (s.update usCount1).reqMode = s.reqMode ∧
    (s.update usCount1).reqLibraryMode = s.reqLibraryMode := by
  obtain ⟨hreq, hlibrary⟩ := updateMode_requests s usCount1
  obtain ⟨channel, heq⟩ := update_eq s usCount1
  rw [heq]
  exact ⟨hreq, hlibrary⟩

theorem update_staysConsistent_iff (h : s.ModesFit) (hhost : s.HostRequested) (usCount1 : Nat) :
    s.StaysConsistent (.update usCount1) ↔ s.StartsNoStationAsHost (.update usCount1) := by
  obtain ⟨hmode, hlibrary⟩ := update_modes s usCount1
  have hfit : (s.update usCount1).ModesFit ↔ (s.updateMode usCount1).ModesFit :=
    ⟨fun h => h.of_same hmode.symm hlibrary.symm, fun h => h.of_same hmode hlibrary⟩
  by_cases hnormal : s.curMode = .normal
  · rw [updateMode_of_normal usCount1 hnormal, updateNormal_modesFit_iff hnormal hhost] at hfit
    exact ⟨fun h => hfit.mp h.1, fun h => ⟨hfit.mpr h, fun hne => (hne hnormal).elim⟩⟩
  · obtain ⟨hsame, hnext⟩ := updateMode_modes hnormal usCount1
    refine iff_of_true ⟨hfit.mpr ?_, fun _ => hlibrary.trans hsame⟩ fun h => (hnormal h.1).elim
    obtain hnext | hnext | hnext | ⟨hconnecting, hnext⟩ := hnext
    · exact h.of_same hnext hsame
    · exact .of_idle (.inr (.inl hnext))
    · exact .of_idle (.inr (.inr hnext))
    · rw [modesFit_station_iff (.inr (.inr hnext)), hsame, ne_host_iff]
      exact h.station (.inr (.inl hconnecting))

/-! ### The steps -/

theorem staysConsistent_iff (h : s.ModesFit) (hhost : s.HostRequested) (event : NtrEvent) :
    s.StaysConsistent event ↔ s.StartsNoStationAsHost event := by
  cases event with
  | call call =>
    have hcall := call.run_asksModes s.toArm9
    exact iff_of_true ⟨h.of_same hcall.mode hcall.library, fun _ => hcall.library⟩ trivial
  | assocStatus env =>
    have hcall := s.toArm9.assocStatus_asksModes env
    exact iff_of_true ⟨h.of_same hcall.mode hcall.library, fun _ => hcall.library⟩ trivial
  | update usCount1 => exact update_staysConsistent_iff h hhost usCount1
  | receive frame =>
    have hmode := (processReceivedFrame_spec s frame).mode
    have hlibrary := (processReceivedFrame_modes s frame).2.2.1
    exact iff_of_true ⟨h.of_same hmode hlibrary, fun _ => hlibrary⟩ trivial

theorem HostRequested.call {s' : Arm9} (hhost : s.HostRequested) (h : s.toArm9.AsksModes s') :
    HostRequested { s with toArm9 := s' } := by
  intro hreq
  obtain hlibrary | ⟨hreq', hsame⟩ := h.request hreq
  · exact hlibrary
  · exact hsame.trans (hhost hreq')

theorem HostRequested.step (hhost : s.HostRequested) (event : NtrEvent) :
    (ntrStep s event).HostRequested := by
  cases event with
  | call call => exact hhost.call (call.run_asksModes s.toArm9)
  | assocStatus env => exact hhost.call (s.toArm9.assocStatus_asksModes env)
  | update usCount1 =>
    obtain ⟨hreq, hlibrary⟩ := update_requests s usCount1
    unfold HostRequested
    rw [show ntrStep s (.update usCount1) = s.update usCount1 from rfl, hreq, hlibrary]
    exact hhost
  | receive frame =>
    obtain ⟨-, hreq, -, hlibrary, -⟩ := processReceivedFrame_modes s frame
    unfold HostRequested
    rw [show ntrStep s (.receive frame) = s.processReceivedFrame frame from rfl, hreq, hlibrary]
    exact hhost

end Ntr

/-- **The modes fit, and the library mode changes in `WIFIMODE_NORMAL` only, all along exactly if no
search and no connection is started while the host library mode is requested.** -/
theorem modes_consistent_iff (reqFlags : Nat) (reqLibraryMode : LibraryMode) (macAddr : MacAddr)
    (wfc : List WfcConfig) (events : List NtrEvent) :
    Along ntrStep Ntr.StaysConsistent (.init (.init reqFlags reqLibraryMode macAddr wfc)) events ↔
      Along ntrStep Ntr.StartsNoStationAsHost (.init (.init reqFlags reqLibraryMode macAddr wfc))
        events := by
  refine along_iff (fun s => s.ModesFit ∧ s.HostRequested) ?_ ?_ events ⟨?_, ?_⟩
  · rintro s event ⟨hfit, hhost⟩ hstarts
    exact ⟨((Ntr.staysConsistent_iff hfit hhost event).mpr hstarts).1, hhost.step event⟩
  · rintro s event ⟨hfit, hhost⟩
    exact Ntr.staysConsistent_iff hfit hhost event
  · exact Ntr.modesFit_init reqFlags reqLibraryMode macAddr wfc
  · nofun

/-- `Wifi_ScanMode` after `Wifi_MultiplayerHostMode`, before the ARM7 has become a host. -/
theorem scan_as_host :
    ¬ (run ntrStep (.init exampleMain)
      [.call .enableWifi, .update 0, .call (.multiplayerHostMode 4 10 10), .call .scanMode,
        .update 1]).ModesFit := by
  intro h
  exact absurd (h.station (.inl (by decide +kernel))) (by decide +kernel)

end Wifi
