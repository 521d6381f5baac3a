import DsWifi.Connect.Arm9

/-!
# What the calls of the ARM9 change

None of them touches what the ARM7 answers with, and a connect request changes only along with the
state that it is in.

* `ApiCall.run_asks` — all calls but `Wifi_AssocStatus`
* `Arm9.assocStatus_mode_level` — `Wifi_AssocStatus`
-/

namespace Wifi

/-- A call withdraws or replaces the request, or leaves it alone. -/
structure Arm9.Asks (s s' : Arm9) : Prop where
  mode : s'.curMode = s.curMode
  level : s'.authlevel = s.authlevel
  request :
    s'.connectState = .error ∨ s'.connectState = .searching ∨ s'.connectState = .searchingWfc ∨
    s'.connectState = s.connectState ∧ s'.requests = s.requests ∧ s'.curAp.bssid = s.curAp.bssid

namespace Arm9

theorem scanMode_asks (s : Arm9) : Asks s s.scanMode := by
  unfold scanMode
  split <;> exact ⟨rfl, rfl, .inr (.inr (.inr ⟨rfl, rfl, rfl⟩))⟩

theorem search_spec (s : Arm9) (apdata : AccessPoint) (security : ApSecurity) (reqFlags : Nat) :
    (s.search apdata security reqFlags).curMode = s.curMode ∧
    (s.search apdata security reqFlags).authlevel = s.authlevel ∧
    (s.search apdata security reqFlags).connectState = .searching := by
  unfold search scanMode
  split <;> exact ⟨rfl, rfl, rfl⟩

theorem connectSecureAp_asks (s : Arm9) (apdata : Option AccessPoint) (key : Option (List UInt8))
    (keyLen : Nat) : Asks s (s.connectSecureAp apdata key keyLen).1 := by
  unfold connectSecureAp
  cases apdata with
  | none => exact ⟨rfl, rfl, .inl rfl⟩
  | some apdata =>
    dsimp only
    split_ifs
    · exact ⟨rfl, rfl, .inl rfl⟩
    · exact ⟨rfl, rfl, .inl rfl⟩
    · exact ⟨rfl, rfl, .inl rfl⟩
    · obtain ⟨hmode, hlevel, hstate⟩ := search_spec { s with connectState := .error } apdata
        { ApSecurity.zero with pass := (key.getD []).take keyLen }
        (s.reqFlags &&& (0xFFFF ^^^ wflagReqLoadWfcKey))
      exact ⟨hmode, hlevel, .inr (.inl hstate)⟩

theorem connectWfcAp_asks (s : Arm9) (apdata : Option AccessPoint) :
    Asks s (s.connectWfcAp apdata).1 := by
  unfold connectWfcAp
  cases apdata with
  | none => exact ⟨rfl, rfl, .inl rfl⟩
  | some apdata =>
    dsimp only
    split_ifs
    · exact ⟨rfl, rfl, .inl rfl⟩
    · obtain ⟨hmode, hlevel, hstate⟩ := search_spec { s with connectState := .error } apdata .zero
        (s.reqFlags ||| wflagReqLoadWfcKey)
      exact ⟨hmode, hlevel, .inr (.inl hstate)⟩

theorem connectAp_asks (s : Arm9) (apdata : Option AccessPoint) (wepmode : Int)
    (wepkey : Option (List UInt8)) : Asks s (s.connectAp apdata wepmode wepkey).1 := by
  unfold connectAp
  dsimp only
  split_ifs
  · exact ⟨rfl, rfl, .inl rfl⟩
  · obtain ⟨hmode, hlevel, hrequest⟩ := connectSecureAp_asks { s with connectState := .error }
      apdata wepkey (wepKeySizeFromMode wepmode)
    refine ⟨hmode, hlevel, ?_⟩
    obtain h | h | h | ⟨h, -⟩ := hrequest
    · exact .inl h
    · exact .inr (.inl h)
    · exact .inr (.inr (.inl h))
    · exact .inl h

theorem autoConnect_asks (env : LwipEnv) (s : Arm9) : Asks s (s.autoConnect env) := by
  unfold autoConnect internetMode scanMode
  dsimp only
  split_ifs
  · exact ⟨rfl, rfl, .inl rfl⟩
  · split <;> exact ⟨rfl, rfl, .inr (.inr (.inl rfl))⟩
  · exact ⟨rfl, rfl, .inl rfl⟩
  · split <;> exact ⟨rfl, rfl, .inr (.inr (.inl rfl))⟩

end Arm9

theorem ApiCall.run_asks (s : Arm9) (call : ApiCall) : s.Asks (call.run s) := by
  cases call with
  | scanMode => exact s.scanMode_asks
  | connectSecureAp apdata key keyLen => exact s.connectSecureAp_asks apdata key keyLen
  | connectWfcAp apdata => exact s.connectWfcAp_asks apdata
  | connectAp apdata wepmode wepkey => exact s.connectAp_asks apdata wepmode wepkey
  | connectOpenAp apdata => exact s.connectSecureAp_asks apdata none 0
  | autoConnect env => exact s.autoConnect_asks env
  | disconnectAp => exact ⟨rfl, rfl, .inl rfl⟩
  | disableWifi | enableWifi | scanModeFilter | idleMode | multiplayerAllowNewClients =>
    exact ⟨rfl, rfl, .inr (.inr (.inr ⟨rfl, rfl, rfl⟩))⟩
  | internetMode env =>
    unfold ApiCall.run Arm9.internetMode
    dsimp only
    split_ifs <;> exact ⟨rfl, rfl, .inr (.inr (.inr ⟨rfl, rfl, rfl⟩))⟩
  | multiplayerClientMode clientPacketSize =>
    unfold ApiCall.run Arm9.multiplayerClientMode
    dsimp only
    split_ifs <;> exact ⟨rfl, rfl, .inr (.inr (.inr ⟨rfl, rfl, rfl⟩))⟩
  | multiplayerHostMode maxClients hostPacketSize clientPacketSize =>
    unfold ApiCall.run Arm9.multiplayerHostMode
    dsimp only
    split_ifs <;> exact ⟨rfl, rfl, .inr (.inr (.inr ⟨rfl, rfl, rfl⟩))⟩
  | setChannel channel =>
    unfold ApiCall.run Arm9.setChannel
    dsimp only
    split_ifs <;> exact ⟨rfl, rfl, .inr (.inr (.inr ⟨rfl, rfl, rfl⟩))⟩
  | beaconStart ssid =>
    unfold ApiCall.run Arm9.beaconStartSsid
    dsimp only
    split_ifs <;> exact ⟨rfl, rfl, .inr (.inr (.inr ⟨rfl, rfl, rfl⟩))⟩

theorem Arm9.assocStatus_mode_level (s : Arm9) (env : LwipEnv) :
    (s.assocStatus env).1.curMode = s.curMode ∧ (s.assocStatus env).1.authlevel = s.authlevel := by
  unfold assocStatus
  split
  · exact ⟨rfl, rfl⟩
  · unfold assocStatusSearching
    split <;> exact ⟨rfl, rfl⟩
  · unfold assocStatusAssociating
    split
    · exact ⟨rfl, rfl⟩
    · split_ifs <;> exact ⟨rfl, rfl⟩
    · exact ⟨rfl, rfl⟩
    · exact ⟨rfl, rfl⟩
  · split_ifs <;> exact ⟨rfl, rfl⟩
  · exact ⟨rfl, rfl⟩
  · unfold assocStatusSearchingWfc
    split <;> exact ⟨rfl, rfl⟩

/-! ## Example values -/

/-- The MAC address of the console of the examples. -/
def exampleMac : MacAddr := #v[0x00, 0x09, 0xBF, 1, 2, 3]

def exampleMain : MainStruct := .init 0 .internet exampleMac []

/-- An access point with a number. -/
def exampleAp (n : UInt8) : AccessPoint :=
  { AccessPoint.zero with ssid := [0x41, 0x50, n], bssid := #v[2, 0, 0, 0, 0, n] }

def exampleBeacon (n : UInt8) : BeaconInfo where
  bssid := (exampleAp n).bssid
  ssid := some (exampleAp n).ssid
  channel := 1
  secType := .open
  compatible := true
  hasNintendoInfo := false

/-- The application does without lwIP. -/
def withoutLwip : LwipEnv where
  enabled := false
  usingDhcp := false
  ip := 0
  dns := 0
  hasIp6 := false

end Wifi
