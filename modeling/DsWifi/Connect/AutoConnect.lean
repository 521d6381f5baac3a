import DsWifi.Connect.ApList
import DsWifi.Connect.Association
import DsWifi.Connect.Calls

/-!
# Looking for a stored network

`Wifi_AutoConnect` (`source/arm9/access_point.c`) requests another library mode and a scan. What is
scanned for is decided by the library mode that the ARM7 is still in.

* `Ntr.modes_run` — until an access point is found, an update is a function of the modes
* `autoConnect_finds_iff` — the states from which the search looks for access points
-/

namespace Wifi

open Infra

/-! ## Modes -/

/-- What the ARM9 requests and what the ARM7 does. -/
structure ModeState where
  curMode : WifiMode
  reqMode : WifiMode
  curLibraryMode : LibraryMode
  reqLibraryMode : LibraryMode
  curApScanFlags : Nat
  reqApScanFlags : Nat

namespace ModeState

/-- What an update does to the modes while no connection is requested. -/
def next (m : ModeState) : ModeState :=
  match m.curMode with
  | .normal =>
    if m.reqMode = .scan then
      { m with
        curMode := .scan
        curLibraryMode := m.reqLibraryMode
        curApScanFlags := m.reqApScanFlags }
    else { m with curLibraryMode := m.reqLibraryMode }
  | .scan =>
    if m.reqMode = .scan ∧ m.curLibraryMode = m.reqLibraryMode then m
    else { m with curMode := .normal }
  | .initializing | .disconnecting => m
  | _ => { m with curMode := .normal }

/-- The ARM9 doesn't request a connection, a host or the end. -/
def Idle (m : ModeState) : Prop := m.reqMode = .scan ∨ m.reqMode = .normal

/-- The ARM7 scans for access points that can be used. -/
def ScansCompatible (m : ModeState) : Prop :=
  m.curMode = .scan ∧ m.curApScanFlags &&& wscanListApCompatible ≠ 0

variable {m : ModeState}

/-- `Wifi_AutoConnect`. -/
def autoConnect (m : ModeState) : ModeState :=
  let m := { m with reqLibraryMode := .internet, reqMode := .normal }
  match m.curLibraryMode with
  | .multiplayerClient => { m with reqApScanFlags := wscanListNdsHosts, reqMode := .scan }
  | .internet => { m with reqApScanFlags := wscanListApAll, reqMode := .scan }
  | .multiplayerHost => m

theorem idle_autoConnect (m : ModeState) : m.autoConnect.Idle := by
  unfold autoConnect
  dsimp only
  split
  · exact .inl rfl
  · exact .inl rfl
  · exact .inr rfl

theorem Idle.next (h : m.Idle) : m.next.Idle := by
  obtain ⟨curMode, reqMode, curLibraryMode, reqLibraryMode, curApScanFlags, reqApScanFlags⟩ := m
  unfold ModeState.next
  cases curMode <;> dsimp only <;> (try split_ifs) <;> exact h

/-- **Two updates are enough** for the modes to stay what they are. -/
theorem Idle.settled (h : m.Idle) : m.next.next.next = m.next.next := by
  obtain ⟨curMode, reqMode, curLibraryMode, reqLibraryMode, curApScanFlags, reqApScanFlags⟩ := m
  obtain rfl | rfl : reqMode = .scan ∨ reqMode = .normal := h
  · cases curMode with
    | scan =>
      by_cases hlib : curLibraryMode = reqLibraryMode
      · simp [ModeState.next, hlib]
      · simp [ModeState.next, hlib]
    | _ => simp [ModeState.next]
  · cases curMode with
    | _ => simp [ModeState.next]

theorem iterate_next (h : m.Idle) (k : Nat) : ModeState.next^[k + 2] m = m.next.next := by
  induction k with
  | zero => rfl
  | succ k ih =>
    rw [show k + 1 + 2 = (k + 2) + 1 from rfl, Function.iterate_succ_apply', ih, h.settled]

theorem Idle.iterate (h : m.Idle) (k : Nat) : (ModeState.next^[k] m).Idle := by
  induction k with
  | zero => exact h
  | succ k ih =>
    rw [Function.iterate_succ_apply']
    exact ih.next

/-- **Where the request leads** depends on what the ARM7 has been doing. -/
theorem scansCompatible_autoConnect_iff (m : ModeState) :
    m.autoConnect.next.next.ScansCompatible ↔
      m.curLibraryMode = .internet ∧ m.curMode ≠ .initializing ∧ m.curMode ≠ .disconnecting ∧
        (m.curMode = .scan → m.curApScanFlags &&& wscanListApCompatible ≠ 0) := by
  obtain ⟨curMode, reqMode, curLibraryMode, reqLibraryMode, curApScanFlags, reqApScanFlags⟩ := m
  have hhosts : wscanListNdsHosts &&& wscanListApCompatible = 0 := by decide
  have hall : wscanListApAll &&& wscanListApCompatible ≠ 0 := by decide
  cases curLibraryMode with
  | internet => cases curMode <;> simp [autoConnect, ModeState.next, ScansCompatible, hall]
  | multiplayerClient =>
    cases curMode <;> simp [autoConnect, ModeState.next, ScansCompatible, hhosts]
  | multiplayerHost => cases curMode <;> simp [autoConnect, ModeState.next, ScansCompatible]

end ModeState

namespace Ntr

/-- The modes of both sides. -/
def modes (s : Ntr) : ModeState :=
  ⟨s.curMode, s.reqMode, s.curLibraryMode, s.reqLibraryMode, s.curApScanFlags, s.reqApScanFlags⟩

variable {s : Ntr}

@[simp] theorem modes_setChannel (s : Ntr) (channel : Nat) :
    (s.setChannel channel).modes = s.modes := by
  unfold setChannel
  split <;> rfl

theorem modes_updateScan (hcur : s.curMode = .scan) (usCount1 : Nat) :
    (s.updateScan usCount1).modes = s.modes.next := by
  by_cases hstay : s.reqMode = .scan ∧ s.curLibraryMode = s.reqLibraryMode
  · have hstay' : ¬ (s.reqMode ≠ .scan ∨ s.curLibraryMode ≠ s.reqLibraryMode) := by
      simpa using hstay
    have hnext : s.modes.next = s.modes := by simp [ModeState.next, modes, hcur, hstay]
    rw [hnext]
    dsimp only [updateScan]
    rw [if_neg hstay']
    -- The scan goes on, on another channel now and then.
    by_cases helapsed : 1 < s.elapsed usCount1
    · rw [if_pos helapsed]
      exact modes_setChannel
        { s with counter7 := usCount1, reqChannel := scanlist.getD s.wifiScanIndex 0 } _
    · rw [if_neg helapsed]
  · have hleave : s.reqMode ≠ .scan ∨ s.curLibraryMode ≠ s.reqLibraryMode := by
      rw [← not_and_or]
      exact hstay
    simp [updateScan, ModeState.next, modes, hcur, hstay, hleave, backToNormal]

/-- **An update is a function of the modes**, as long as there is nothing to connect to. -/
theorem modes_update (h : s.modes.Idle) (usCount1 : Nat) :
    (s.update usCount1).modes = s.modes.next := by
  have hmodes : (s.update usCount1).modes = (s.updateMode usCount1).modes := by
    obtain ⟨channel, heq⟩ := update_eq s usCount1
    rw [heq]
    rfl
  have hreq : s.reqMode = .scan ∨ s.reqMode = .normal := h
  have hconnected : s.reqMode ≠ .connected := by
    rcases hreq with hreq | hreq <;> simp [hreq]
  have hhost : s.reqMode ≠ .accessPoint := by
    rcases hreq with hreq | hreq <;> simp [hreq]
  have hdisabled : s.reqMode ≠ .disabled := by
    rcases hreq with hreq | hreq <;> simp [hreq]
  rw [hmodes]
  unfold updateMode
  cases hcur : s.curMode with
  | normal =>
    rcases hreq with hreq | hreq
    · simp [updateNormal, ModeState.next, modes, hcur, hreq]
    · simp [updateNormal, ModeState.next, modes, hcur, hreq]
  | scan => exact modes_updateScan hcur usCount1
  | disabled => simp [ModeState.next, modes, hcur, hdisabled, backToNormal]
  | connecting =>
    simp only [updateConnecting, ModeState.next, modes, hcur, hconnected, ne_eq, not_false_eq_true,
      if_true, ite_self, backToNormal]
  | connected =>
    simp only [updateConnected, ModeState.next, modes, hcur, hconnected, ne_eq, not_false_eq_true,
      if_true, ite_self, backToNormal]
  | cannotConnect =>
    simp only [updateCannotConnect, ModeState.next, modes, hcur, hconnected, ne_eq,
      not_false_eq_true, if_true, ite_self, backToNormal]
  | accessPoint =>
    simp [updateAccessPoint, ModeState.next, modes, hcur, hhost, backToNormal]
  | disconnecting => simp [ModeState.next, modes, hcur]
  | initializing => simp [ModeState.next, modes, hcur]

theorem modes_processReceivedFrame (s : Ntr) (frame : ReceivedFrame) :
    (s.processReceivedFrame frame).modes = s.modes := by
  obtain ⟨hcur, hreq, hlib, hreqLib, hflags, hreqFlags, -⟩ :=
    processReceivedFrame_modes s frame
  rw [modes, hcur, hreq, hlib, hreqLib, hflags, hreqFlags, modes]

/-- `Wifi_AssocStatus` goes on with the search, or it has found an access point. -/
theorem assocStatus_of_searchingWfc {s : Arm9} (env : LwipEnv)
    (hstate : s.connectState = .searchingWfc) :
    (s.assocStatus env).1 = s ∨ (s.assocStatus env).1.connectState ≠ .searchingWfc := by
  unfold Arm9.assocStatus
  rw [hstate]
  dsimp only [Arm9.assocStatusSearchingWfc]
  split
  · exact .inr (by simp)
  · exact .inl rfl

/-- A search that has ended isn't taken up again. -/
theorem assocStatus_of_found {s : Arm9} (env : LwipEnv) (hstate : s.connectState ≠ .searchingWfc) :
    (s.assocStatus env).1.connectState ≠ .searchingWfc := by
  unfold Arm9.assocStatus
  cases hcur : s.connectState with
  | searchingWfc => exact absurd hcur hstate
  | error => simp [hcur]
  | done => simp [hcur]
  | searching =>
    dsimp only [Arm9.assocStatusSearching]
    split <;> simp [hcur]
  | associating =>
    dsimp only [Arm9.assocStatusAssociating]
    split
    · simp [hcur]
    · split_ifs <;> simp
    · simp
    · simp [hcur]
  | dhcping =>
    dsimp only [Arm9.disconnectAp]
    split_ifs <;> simp [hcur]

end Ntr

/-! ## The search -/

/-- The event is no call but `Wifi_AssocStatus`. -/
def NtrEvent.isSearch : NtrEvent → Bool
  | .call _ => false
  | _ => true

def NtrEvent.isUpdate : NtrEvent → Bool
  | .update _ => true
  | _ => false

namespace Ntr

variable {s : Ntr}

/-- No other event changes the state of the search. -/
theorem connectState_step {e : NtrEvent} (he : e.isSearch = true) :
    (∃ env, e = .assocStatus env) ∨ (ntrStep s e).connectState = s.connectState := by
  cases e with
  | call call => cases he
  | assocStatus env => exact .inl ⟨env, rfl⟩
  | update usCount1 => exact .inr (update_spec s usCount1).same.connectState
  | receive frame => exact .inr (processReceivedFrame_spec s frame).same.connectState

theorem found_step {e : NtrEvent} (he : e.isSearch = true)
    (hfound : s.connectState ≠ .searchingWfc) : (ntrStep s e).connectState ≠ .searchingWfc := by
  rcases connectState_step he with ⟨env, rfl⟩ | hsame
  · exact assocStatus_of_found env hfound
  · rwa [hsame]

/-- The modes of a search change in updates only. -/
theorem modes_step (hstate : s.connectState = .searchingWfc) (hidle : s.modes.Idle) {e : NtrEvent}
    (hsearch : (ntrStep s e).connectState = .searchingWfc) (he : e.isSearch = true) :
    (ntrStep s e).modes = ModeState.next^[[e].countP NtrEvent.isUpdate] s.modes := by
  cases e with
  | call call => cases he
  | assocStatus env =>
    rcases assocStatus_of_searchingWfc env hstate with hsame | hfound
    · show { s with toArm9 := (s.toArm9.assocStatus env).1 }.modes = s.modes
      rw [hsame]
    · exact absurd hsearch hfound
  | update usCount1 => exact modes_update hidle usCount1
  | receive frame => exact modes_processReceivedFrame s frame

/-- **The modes of a search** follow the updates until an access point is found. -/
theorem modes_run (hstate : s.connectState = .searchingWfc) (hidle : s.modes.Idle)
    (es : List NtrEvent) (hes : ∀ e ∈ es, e.isSearch = true) :
    (run ntrStep s es).connectState ≠ .searchingWfc ∨
      (run ntrStep s es).connectState = .searchingWfc ∧
        (run ntrStep s es).modes = ModeState.next^[es.countP NtrEvent.isUpdate] s.modes := by
  induction es using List.reverseRecOn with
  | nil => exact .inr ⟨hstate, rfl⟩
  | append_singleton es e ih =>
    have hes' : ∀ e ∈ es, e.isSearch = true := fun e he => hes e (List.mem_append_left _ he)
    have he : e.isSearch = true := hes e (by simp)
    rw [run_append_singleton, List.countP_append, Nat.add_comm, Function.iterate_add_apply]
    rcases ih hes' with hfound | ⟨hsearch, hmodes⟩
    · exact .inl (found_step he hfound)
    · by_cases hnext : (ntrStep (run ntrStep s es) e).connectState = .searchingWfc
      · rw [← hmodes]
        exact .inr ⟨hnext, modes_step hsearch (hmodes ▸ hidle.iterate _) hnext he⟩
      · exact .inl hnext

/-- A run without `Wifi_AssocStatus` doesn't end the search. -/
theorem modes_run_updates (hstate : s.connectState = .searchingWfc) (hidle : s.modes.Idle)
    (k : Nat) :
    (run ntrStep s (List.replicate k (.update 0))).connectState = .searchingWfc ∧
      (run ntrStep s (List.replicate k (.update 0))).modes = ModeState.next^[k] s.modes := by
  induction k with
  | zero => exact ⟨hstate, rfl⟩
  | succ k ih =>
    rw [List.replicate_succ', run_append_singleton]
    generalize run ntrStep s (List.replicate k (.update 0)) = t at ih ⊢
    refine ⟨(update_spec t 0).same.connectState.trans ih.1, ?_⟩
    show (t.update 0).modes = _
    rw [modes_update (ih.2 ▸ hidle.iterate k), ih.2, Function.iterate_succ_apply']

/-- Beacons of stored networks that can be used get into the list. -/
def ListsCompatible (s : Ntr) : Prop :=
  ∀ (info : BeaconInfo) (ssid : List UInt8), info.ssid = some ssid →
    (getWfcAccessPointIndex s.wfc (ssid.take 32)).isSome = true → info.compatible = true →
    info.secType ≠ .wpa → info.secType ≠ .wpa2 → info.hasNintendoInfo = false →
    ∃ i, let ap := (s.processReceivedFrame (.beacon info true)).aplist.get i
      ap.active = true ∧ ap.bssid = info.bssid ∧ ap.ssid = ssid.take 32

theorem listsCompatible_of_flags (h : s.curApScanFlags &&& wscanListApCompatible ≠ 0) :
    s.ListsCompatible := by
  intro info ssid hssid _ hcompatible hwpa hwpa2 hnintendo
  obtain ⟨slot, inAplist, hchoose, hslot⟩ :=
    chooseSlot_spec s.aplist info.bssid
  have hlist : (s.processReceivedFrame (.beacon info true)).aplist =
      accessPointAdd s.wfc s.aplist info true := by
    have hinfo : { info with compatible := true, hasNintendoInfo := false } = info := by
      rw [← hcompatible, ← hnintendo]
    have hkeep : (info.compatible && info.secType != .wpa && info.secType != .wpa2) = true := by
      simp [hcompatible, hwpa, hwpa2]
    have hdecide : decide (s.curApScanFlags &&& wscanListApCompatible ≠ 0) = true :=
      decide_eq_true h
    simp only [processReceivedFrame, processBeaconOrProbeResponse, hkeep, hnintendo,
      Bool.false_eq_true, if_false, if_true, hdecide, hinfo]
  have hget := accessPointAdd_get s.wfc hchoose slot
  rw [if_pos rfl] at hget
  refine ⟨slot, ?_⟩
  dsimp only
  rw [hlist, hget]
  exact ⟨updateEntry_active _ _ _ _, hslot.updateEntry_bssid _,
    ApHistory.updateEntry_ssid_some hssid _ _⟩

/-- The search looks for access points that can be used, or it has found one. -/
def FindsCompatible (s : Ntr) : Prop :=
  s.curMode = .scan ∧ s.curApScanFlags &&& wscanListApCompatible ≠ 0 ∧ s.ListsCompatible ∨
    s.connectState ≠ .searchingWfc

theorem findsCompatible_iff (hstate : s.connectState = .searchingWfc) :
    s.FindsCompatible ↔ s.modes.ScansCompatible := by
  constructor
  · rintro (⟨hmode, hflags, -⟩ | hfound)
    · exact ⟨hmode, hflags⟩
    · exact absurd hstate hfound
  · rintro ⟨hmode, hflags⟩
    exact .inl ⟨hmode, hflags, listsCompatible_of_flags hflags⟩

/-- Every long run finds something exactly if the modes have settled for it. -/
theorem findsCompatible_run_iff (hstate : s.connectState = .searchingWfc)
    (hidle : s.modes.Idle) :
    (∃ n, ∀ es : List NtrEvent, (∀ e ∈ es, e.isSearch = true) →
      n ≤ es.countP NtrEvent.isUpdate → (run ntrStep s es).FindsCompatible) ↔
      s.modes.next.next.ScansCompatible := by
  constructor
  · rintro ⟨n, hruns⟩
    have hfinds := hruns (List.replicate (n + 2) (.update 0))
      (fun e he => by rw [List.eq_of_mem_replicate he]; rfl)
      (by
        rw [List.countP_replicate]
        exact Nat.le_add_right n 2)
    obtain ⟨hsearch, hmodes⟩ := modes_run_updates hstate hidle (n + 2)
    rwa [findsCompatible_iff hsearch, hmodes, ModeState.iterate_next hidle] at hfinds
  · intro hscans
    refine ⟨2, fun es hes hcount => ?_⟩
    rcases modes_run hstate hidle es hes with hfound | ⟨hsearch, hmodes⟩
    · exact .inr hfound
    · obtain ⟨k, hk⟩ := Nat.exists_eq_add_of_le' hcount
      rw [hk, ModeState.iterate_next hidle] at hmodes
      rw [findsCompatible_iff hsearch, hmodes]
      exact hscans

end Ntr

/-- What the call does to the modes. -/
theorem autoConnect_modes {env : LwipEnv} (henabled : env.enabled = true) {s : Ntr}
    (hwfc : s.wfc ≠ []) :
    (ntrStep s (.call (.autoConnect env))).modes = s.modes.autoConnect ∧
      (ntrStep s (.call (.autoConnect env))).connectState = .searchingWfc := by
  have hlength : s.wfc.length ≠ 0 := fun h => hwfc (List.length_eq_zero_iff.mp h)
  simp only [ntrStep, ApiCall.run, Arm9.autoConnect, Arm9.internetMode, henabled, if_true,
    hlength, if_false, Arm9.scanMode, Arm9.scanModeFilter, Ntr.modes, ModeState.autoConnect]
  cases s.curLibraryMode <;> exact ⟨rfl, rfl⟩

/-- **The search finds stored networks** if the console has been in internet mode already, and if it
hasn't been scanning for something else. -/
theorem autoConnect_finds_iff (env : LwipEnv) (henabled : env.enabled = true) (s : Ntr)
    (hwfc : s.wfc ≠ []) :
    (∃ n, ∀ es : List NtrEvent, (∀ e ∈ es, e.isSearch = true) →
      n ≤ es.countP NtrEvent.isUpdate →
      (run ntrStep (ntrStep s (.call (.autoConnect env))) es).FindsCompatible) ↔
      s.curLibraryMode = .internet ∧ s.curMode ≠ .initializing ∧ s.curMode ≠ .disconnecting ∧
        (s.curMode = .scan → s.curApScanFlags &&& wscanListApCompatible ≠ 0) := by
  obtain ⟨hmodes, hstate⟩ := autoConnect_modes henabled hwfc
  have hidle : (ntrStep s (.call (.autoConnect env))).modes.Idle := by
    rw [hmodes]
    exact s.modes.idle_autoConnect
  rw [Ntr.findsCompatible_run_iff hstate hidle, hmodes]
  exact s.modes.scansCompatible_autoConnect_iff

/-- The application uses lwIP. -/
def withLwip : LwipEnv where
  enabled := true
  usingDhcp := true
  ip := 0
  dns := 0
  hasIp6 := false

/-- A console with a stored network, in a library mode. -/
def exampleNtr (mode : LibraryMode) : Ntr :=
  .init { exampleMain with
    curLibraryMode := mode
    wfc := [⟨(exampleAp 1).ssid, .zero⟩] }

theorem autoConnect_finds_internet :
    ∃ n, ∀ es : List NtrEvent, (∀ e ∈ es, e.isSearch = true) →
      n ≤ es.countP NtrEvent.isUpdate →
      (run ntrStep (ntrStep (exampleNtr .internet) (.call (.autoConnect withLwip)))
        es).FindsCompatible :=
  (autoConnect_finds_iff withLwip rfl (exampleNtr .internet) (by simp [exampleNtr, Ntr.init,
    Arm9.init])).mpr ⟨rfl, by decide, by decide, by decide⟩

/-- A multiplayer client only looks for hosts. -/
theorem autoConnect_as_client :
    ¬ ∃ n, ∀ es : List NtrEvent, (∀ e ∈ es, e.isSearch = true) →
      n ≤ es.countP NtrEvent.isUpdate →
      (run ntrStep (ntrStep (exampleNtr .multiplayerClient) (.call (.autoConnect withLwip)))
        es).FindsCompatible := by
  have hwfc : (exampleNtr .multiplayerClient).wfc ≠ [] := by
    simp [exampleNtr, Ntr.init, Arm9.init]
  have henabled : withLwip.enabled = true := rfl
  obtain ⟨hmodes, hstate⟩ := autoConnect_modes henabled hwfc
  have hidle : (ntrStep (exampleNtr .multiplayerClient)
      (.call (.autoConnect withLwip))).modes.Idle := by
    rw [hmodes]
    exact ModeState.idle_autoConnect _
  rw [Ntr.findsCompatible_run_iff hstate hidle, hmodes,
    ModeState.scansCompatible_autoConnect_iff]
  rintro ⟨hmode, -⟩
  cases hmode

end Wifi
