import DsWifi.Infra.Run
import DsWifi.Connect.Association
import DsWifi.Connect.Twl

/-!
# What has become of a request

The ARM9 keeps `wifi_connect_state` to itself, and the ARM7 knows nothing of it. What it is after a
run can be told from the calls of the run, and from what the ARM7 has shown at each of them.

* `Driver.Searching`, `Driver.Associating`, `Driver.Acquiring`, `Driver.Settled` — how far the
  latest request has come, from the history of the calls
* `Driver.follows_run` — this is what `wifi_connect_state` says
-/

namespace Wifi

open Infra

/-! ## The calls -/

/-- The call is one to connect or to disconnect. -/
def ApiCall.isRequest : ApiCall → Bool
  | connectSecureAp .. | connectWfcAp _ | connectAp .. | connectOpenAp _ | disconnectAp
  | autoConnect _ => true
  | _ => false

/-- The call makes the ARM9 look for the access point that it is given. -/
def ApiCall.asksAp (s : Arm9) : ApiCall → Bool
  | connectSecureAp apdata key keyLen => (s.connectSecureAp apdata key keyLen).2
  | connectWfcAp apdata => (s.connectWfcAp apdata).2
  | connectAp apdata wepmode wepkey => (s.connectAp apdata wepmode wepkey).2
  | connectOpenAp apdata => (s.connectOpenAp apdata).2
  | _ => false

/-- The call makes the ARM9 look for an access point of the firmware settings. -/
def ApiCall.asksWfc (s : Arm9) : ApiCall → Bool
  | autoConnect _ => s.wfc.length != 0
  | _ => false

namespace Arm9

/-- The access point that the application has named is in the list. -/
def FindsAp (s : Arm9) (_ : LwipEnv) : Prop :=
  (findMatchingAp s.aplist [s.connectPoint]).isSome

/-- An access point of the firmware settings is in the list. -/
def FindsWfc (s : Arm9) (_ : LwipEnv) : Prop :=
  (findMatchingApFromWfc s.wfc s.aplist).isSome

/-- The ARM7 is connected. -/
def SeesConnected (s : Arm9) (_ : LwipEnv) : Prop := s.curMode = .connected

/-- The ARM7 is connected, or can't connect. -/
def SeesOutcome (s : Arm9) (_ : LwipEnv) : Prop :=
  s.curMode = .connected ∨ s.curMode = .cannotConnect

/-- The address has to come from DHCP. -/
def UsesDhcp (s : Arm9) (env : LwipEnv) : Prop :=
  env.enabled ∧ s.curLibraryMode = .internet ∧ env.usingDhcp

/-- lwIP has an address. -/
def HasAddress (_ : Arm9) (env : LwipEnv) : Prop := env.enabled ∧ env.ready

/-- lwIP is to get an address, and has none. -/
def LacksAddress (_ : Arm9) (env : LwipEnv) : Prop := env.enabled ∧ ¬ env.ready

end Arm9

/-! ## Histories -/

/-- What the application does in an event. -/
inductive AppStep
  | call (call : ApiCall)
  | assocStatus (env : LwipEnv)

/-- A driver of the ARM7 along with the ARM9 that uses it. Only the ARM9 writes
`wifi_connect_state`. -/
structure Driver (σ ε : Type) where
  step : σ → ε → σ
  arm9 : σ → Arm9
  app : ε → Option AppStep
  call : ∀ s e call, app e = some (.call call) →
    (arm9 (step s e)).connectState = (call.run (arm9 s)).connectState
  assocStatus : ∀ s e env, app e = some (.assocStatus env) →
    (arm9 (step s e)).connectState = ((arm9 s).assocStatus env).1.connectState
  other : ∀ s e, app e = none → (arm9 (step s e)).connectState = (arm9 s).connectState

namespace Driver

variable {σ ε : Type} (d : Driver σ ε)

/-- The application makes a call that is one of `P`. -/
def Calls (P : Arm9 → ApiCall → Bool) (s : σ) (e : ε) : Prop :=
  ∃ call, d.app e = some (.call call) ∧ P (d.arm9 s) call

/-- The application calls `Wifi_AssocStatus`, and `P` holds. -/
def Looks (P : Arm9 → LwipEnv → Prop) (s : σ) (e : ε) : Prop :=
  ∃ env, d.app e = some (.assocStatus env) ∧ P (d.arm9 s) env

/-- The application makes a request, which puts an end to the one before. -/
def Request : σ → ε → Prop := d.Calls fun _ => ApiCall.isRequest

/-- The ARM9 looks for an access point that the application has named. So it does at first. -/
def Searching (s : σ) (es : List ε) : Prop :=
  Since d.step (d.Calls ApiCall.asksAp) (fun s e => d.Request s e ∨ d.Looks Arm9.FindsAp s e) s es ∨
    Along d.step (fun s e => ¬ (d.Request s e ∨ d.Looks Arm9.FindsAp s e)) s es

/-- The ARM9 looks for an access point of the firmware settings. -/
def SearchingWfc : σ → List ε → Prop :=
  Since d.step (d.Calls ApiCall.asksWfc) fun s e => d.Request s e ∨ d.Looks Arm9.FindsWfc s e

/-- The ARM9 has found its access point, and has not seen yet what the ARM7 makes of it. -/
def Associating (s : σ) : List ε → Prop :=
  SinceRecorded d.step
    (fun es s' e => d.Searching s es ∧ d.Looks Arm9.FindsAp s' e ∨
      d.SearchingWfc s es ∧ d.Looks Arm9.FindsWfc s' e)
    (fun s e => d.Request s e ∨ d.Looks Arm9.SeesOutcome s e) s

/-- The ARM9 has seen that the ARM7 is connected, and waits for an address. -/
def Acquiring (s : σ) : List ε → Prop :=
  SinceRecorded d.step
    (fun es s' e => d.Associating s es ∧
      d.Looks (fun arm9 env => arm9.SeesConnected env ∧ arm9.UsesDhcp env) s' e)
    (fun s e => d.Request s e ∨ d.Looks (fun arm9 env => ¬ arm9.LacksAddress env) s e) s

/-- The ARM9 has seen that the ARM7 is connected, and an address if it had to wait for one. -/
def Settled (s : σ) : List ε → Prop :=
  SinceRecorded d.step
    (fun es s' e =>
      d.Associating s es ∧
        d.Looks (fun arm9 env => arm9.SeesConnected env ∧ ¬ arm9.UsesDhcp env) s' e ∨
      d.Acquiring s es ∧ d.Looks Arm9.HasAddress s' e)
    d.Request s

/-- The history of a run is what `wifi_connect_state` says at its end. -/
structure Follows (s : σ) (es : List ε) (s' : σ) : Prop where
  searching : (d.arm9 s').connectState = .searching ↔ d.Searching s es
  searchingWfc : (d.arm9 s').connectState = .searchingWfc ↔ d.SearchingWfc s es
  associating : (d.arm9 s').connectState = .associating ↔ d.Associating s es
  acquiring : (d.arm9 s').connectState = .dhcping ↔ d.Acquiring s es
  settled : (d.arm9 s').connectState = .done ↔ d.Settled s es

end Driver

/-! ## What the calls do to it -/

namespace Arm9

variable (s : Arm9)

/-- The connect functions return whether the ARM9 looks for the access point now. -/
def Asked (r : Arm9 × Bool) : Prop := r.1.connectState = if r.2 then .searching else .error

theorem connectSecureAp_asked (apdata : Option AccessPoint) (key : Option (List UInt8))
    (keyLen : Nat) : Asked (s.connectSecureAp apdata key keyLen) := by
  unfold connectSecureAp
  cases apdata with
  | none => rfl
  | some apdata =>
    dsimp only
    split_ifs
    · rfl
    · rfl
    · rfl
    · exact (search_spec ..).2.2

theorem connectWfcAp_asked (apdata : Option AccessPoint) : Asked (s.connectWfcAp apdata) := by
  unfold connectWfcAp
  cases apdata with
  | none => rfl
  | some apdata =>
    dsimp only
    split_ifs
    · rfl
    · exact (search_spec ..).2.2

theorem connectAp_asked (apdata : Option AccessPoint) (wepmode : Int)
    (wepkey : Option (List UInt8)) : Asked (s.connectAp apdata wepmode wepkey) := by
  unfold connectAp
  dsimp only
  split_ifs
  · rfl
  · exact connectSecureAp_asked ..

theorem autoConnect_connectState (env : LwipEnv) :
    (s.autoConnect env).connectState = if s.wfc.length != 0 then .searchingWfc else .error := by
  have hwfc : (s.internetMode env).wfc = s.wfc := by
    unfold internetMode
    split_ifs <;> rfl
  unfold autoConnect scanMode
  dsimp only
  rw [hwfc]
  by_cases hlength : s.wfc.length = 0
  · rw [if_pos hlength, if_neg (by simp [hlength])]
  · rw [if_neg hlength, if_pos (by simp [hlength])]
    split <;> rfl

end Arm9

/-- A call that is no request leaves the state of the latest one alone. -/
theorem ApiCall.run_of_not_isRequest {s : Arm9} {call : ApiCall} (h : call.isRequest = false) :
    (call.run s).connectState = s.connectState := by
  cases call with
  | connectSecureAp | connectWfcAp | connectAp | connectOpenAp | disconnectAp | autoConnect =>
    cases h
  | disableWifi | enableWifi | scanModeFilter | idleMode | multiplayerAllowNewClients => rfl
  | scanMode =>
    unfold run Arm9.scanMode
    dsimp only
    split <;> rfl
  | internetMode env =>
    unfold run Arm9.internetMode
    dsimp only
    split_ifs <;> rfl
  | multiplayerClientMode clientPacketSize =>
    unfold run Arm9.multiplayerClientMode
    dsimp only
    split_ifs <;> rfl
  | multiplayerHostMode maxClients hostPacketSize clientPacketSize =>
    unfold run Arm9.multiplayerHostMode
    dsimp only
    split_ifs <;> rfl
  | setChannel channel =>
    unfold run Arm9.setChannel
    dsimp only
    split_ifs <;> rfl
  | beaconStart ssid =>
    unfold run Arm9.beaconStartSsid
    dsimp only
    split_ifs <;> rfl

/-- What a request makes of the state. -/
theorem ApiCall.run_of_isRequest {s : Arm9} {call : ApiCall} (h : call.isRequest = true) :
    (call.run s).connectState =
      if call.asksAp s then .searching else if call.asksWfc s then .searchingWfc else .error := by
  cases call with
  | connectSecureAp => exact s.connectSecureAp_asked ..
  | connectWfcAp => exact s.connectWfcAp_asked ..
  | connectAp => exact s.connectAp_asked ..
  | connectOpenAp => exact s.connectSecureAp_asked ..
  | disconnectAp => rfl
  | autoConnect env => exact s.autoConnect_connectState env
  | _ => cases h

namespace Arm9

variable (s : Arm9) (env : LwipEnv)

/-- `Wifi_AssocStatus` goes on from what it has found. -/
structure Goes (s : Arm9) (env : LwipEnv) (s' : Arm9) : Prop where
  searching : s'.connectState = .searching ↔ s.connectState = .searching ∧ ¬ s.FindsAp env
  searchingWfc :
    s'.connectState = .searchingWfc ↔ s.connectState = .searchingWfc ∧ ¬ s.FindsWfc env
  associating : s'.connectState = .associating ↔
    (s.connectState = .searching ∧ s.FindsAp env ∨
      s.connectState = .searchingWfc ∧ s.FindsWfc env) ∨
    s.connectState = .associating ∧ ¬ s.SeesOutcome env
  acquiring : s'.connectState = .dhcping ↔
    s.connectState = .associating ∧ s.SeesConnected env ∧ s.UsesDhcp env ∨
    s.connectState = .dhcping ∧ s.LacksAddress env
  settled : s'.connectState = .done ↔
    (s.connectState = .associating ∧ s.SeesConnected env ∧ ¬ s.UsesDhcp env ∨
      s.connectState = .dhcping ∧ s.HasAddress env) ∨
    s.connectState = .done

variable {s env}

theorem goes_searching (h : s.connectState = .searching) :
    s.Goes env s.assocStatusSearching.1 := by
  unfold assocStatusSearching
  cases hfound : findMatchingAp s.aplist [s.connectPoint] with
  | none =>
    have hfinds : ¬ s.FindsAp env := by simp [FindsAp, hfound]
    constructor <;> simp [h, hfinds]
  | some found =>
    have hfinds : s.FindsAp env := by simp [FindsAp, hfound]
    constructor <;> simp [h, hfinds]

theorem goes_searchingWfc (h : s.connectState = .searchingWfc) :
    s.Goes env s.assocStatusSearchingWfc.1 := by
  unfold assocStatusSearchingWfc
  cases hfound : findMatchingApFromWfc s.wfc s.aplist with
  | none =>
    have hfinds : ¬ s.FindsWfc env := by simp [FindsWfc, hfound]
    constructor <;> simp [h, hfinds]
  | some found =>
    have hfinds : s.FindsWfc env := by simp [FindsWfc, hfound]
    constructor <;> simp [h, hfinds]

theorem goes_associating (h : s.connectState = .associating) :
    s.Goes env (s.assocStatusAssociating env).1 := by
  unfold assocStatusAssociating
  cases hmode : s.curMode with
  | connected =>
    have hconnected : s.SeesConnected env := hmode
    have houtcome : s.SeesOutcome env := .inl hmode
    dsimp only
    split_ifs with hdhcp
    · have huses : s.UsesDhcp env := hdhcp
      constructor <;> simp [h, hconnected, houtcome, huses]
    · have huses : ¬ s.UsesDhcp env := hdhcp
      constructor <;> simp [h, hconnected, houtcome, huses]
  | cannotConnect =>
    have hconnected : ¬ s.SeesConnected env := by simp [SeesConnected, hmode]
    have houtcome : s.SeesOutcome env := .inr hmode
    constructor <;> simp [h, hconnected, houtcome]
  | _ =>
    have hconnected : ¬ s.SeesConnected env := by simp [SeesConnected, hmode]
    have houtcome : ¬ s.SeesOutcome env := by simp [SeesOutcome, hmode]
    constructor <;> simp [h, hconnected, houtcome]

theorem assocStatus_goes (s : Arm9) (env : LwipEnv) : s.Goes env (s.assocStatus env).1 := by
  unfold assocStatus
  cases h : s.connectState with
  | error => constructor <;> simp [h]
  | searching => exact goes_searching h
  | associating => exact goes_associating h
  | dhcping =>
    by_cases henabled : env.enabled
    · by_cases hready : env.ready
      · constructor <;> simp [h, henabled, hready, LacksAddress, HasAddress]
      · constructor <;> simp [h, henabled, hready, LacksAddress, HasAddress]
    · constructor <;> simp [h, henabled, disconnectAp, LacksAddress, HasAddress]
  | done => constructor <;> simp [h]
  | searchingWfc => exact goes_searchingWfc h

end Arm9

/-- No call asks for both kinds of access point. -/
theorem ApiCall.asksAp_eq_false {s : Arm9} {call : ApiCall} (h : call.asksWfc s = true) :
    call.asksAp s = false := by
  cases call with
  | autoConnect env => rfl
  | _ => cases h

theorem ApiCall.asks_of_not_isRequest {call : ApiCall} (h : call.isRequest = false) (s : Arm9) :
    call.asksAp s = false ∧ call.asksWfc s = false := by
  cases call with
  | connectSecureAp | connectWfcAp | connectAp | connectOpenAp | disconnectAp | autoConnect =>
    cases h
  | _ => exact ⟨rfl, rfl⟩

namespace Driver

variable {σ ε : Type} {d : Driver σ ε} {s s' : σ} {es : List ε} {e : ε}

/-! ## One more event -/

/-- What the event does to `wifi_connect_state`. -/
structure Next (d : Driver σ ε) (s : σ) (e : ε) (s' : σ) : Prop where
  searching : (d.arm9 s').connectState = .searching ↔
    d.Calls ApiCall.asksAp s e ∨
    (d.arm9 s).connectState = .searching ∧ ¬ (d.Request s e ∨ d.Looks Arm9.FindsAp s e)
  searchingWfc : (d.arm9 s').connectState = .searchingWfc ↔
    d.Calls ApiCall.asksWfc s e ∨
    (d.arm9 s).connectState = .searchingWfc ∧ ¬ (d.Request s e ∨ d.Looks Arm9.FindsWfc s e)
  associating : (d.arm9 s').connectState = .associating ↔
    ((d.arm9 s).connectState = .searching ∧ d.Looks Arm9.FindsAp s e ∨
      (d.arm9 s).connectState = .searchingWfc ∧ d.Looks Arm9.FindsWfc s e) ∨
    (d.arm9 s).connectState = .associating ∧ ¬ (d.Request s e ∨ d.Looks Arm9.SeesOutcome s e)
  acquiring : (d.arm9 s').connectState = .dhcping ↔
    (d.arm9 s).connectState = .associating ∧
      d.Looks (fun arm9 env => arm9.SeesConnected env ∧ arm9.UsesDhcp env) s e ∨
    (d.arm9 s).connectState = .dhcping ∧
      ¬ (d.Request s e ∨ d.Looks (fun arm9 env => ¬ arm9.LacksAddress env) s e)
  settled : (d.arm9 s').connectState = .done ↔
    ((d.arm9 s).connectState = .associating ∧
        d.Looks (fun arm9 env => arm9.SeesConnected env ∧ ¬ arm9.UsesDhcp env) s e ∨
      (d.arm9 s).connectState = .dhcping ∧ d.Looks Arm9.HasAddress s e) ∨
    (d.arm9 s).connectState = .done ∧ ¬ d.Request s e

theorem calls_iff {call : ApiCall} (happ : d.app e = some (.call call))
    (P : Arm9 → ApiCall → Bool) (s : σ) : d.Calls P s e ↔ P (d.arm9 s) call := by
  simp [Calls, happ]

theorem looks_iff {env : LwipEnv} (happ : d.app e = some (.assocStatus env))
    (P : Arm9 → LwipEnv → Prop) (s : σ) : d.Looks P s e ↔ P (d.arm9 s) env := by
  simp [Looks, happ]

theorem not_calls (happ : ∀ call, d.app e ≠ some (.call call)) (P : Arm9 → ApiCall → Bool)
    (s : σ) : ¬ d.Calls P s e := by
  rintro ⟨call, heq, -⟩
  exact happ call heq

theorem not_looks (happ : ∀ env, d.app e ≠ some (.assocStatus env)) (P : Arm9 → LwipEnv → Prop)
    (s : σ) : ¬ d.Looks P s e := by
  rintro ⟨env, heq, -⟩
  exact happ env heq

/-- Neither a request nor `Wifi_AssocStatus`. -/
theorem next_of_idle (hcalls : ¬ d.Request s e ∧ ¬ d.Calls ApiCall.asksAp s e ∧
    ¬ d.Calls ApiCall.asksWfc s e) (hlooks : ∀ P, ¬ d.Looks P s e)
    (hstate : (d.arm9 s').connectState = (d.arm9 s).connectState) : d.Next s e s' := by
  obtain ⟨hrequest, hap, hwfc⟩ := hcalls
  constructor <;> simp [hstate, hrequest, hap, hwfc, hlooks]

theorem next_of_call {call : ApiCall} (happ : d.app e = some (.call call)) (s : σ) :
    d.Next s e (d.step s e) := by
  have hlooks (P) : ¬ d.Looks P s e := not_looks (by simp [happ]) P s
  have hrequest : d.Request s e ↔ call.isRequest := calls_iff happ _ s
  have hstate := d.call s e call happ
  cases hcall : call.isRequest with
  | false =>
    obtain ⟨hap, hwfc⟩ := ApiCall.asks_of_not_isRequest hcall (d.arm9 s)
    refine next_of_idle ⟨?_, ?_, ?_⟩ hlooks (hstate.trans (ApiCall.run_of_not_isRequest hcall))
    · simp [hrequest, hcall]
    · simp [calls_iff happ, hap]
    · simp [calls_iff happ, hwfc]
  | true =>
    -- A request puts an end to what was before, whichever of the three states it leads to.
    have hrequest : d.Request s e := hrequest.mpr hcall
    rw [ApiCall.run_of_isRequest hcall] at hstate
    cases hwfc : call.asksWfc (d.arm9 s) with
    | false =>
      cases hap : call.asksAp (d.arm9 s) <;>
        constructor <;> simp [hstate, hrequest, hlooks, calls_iff happ, hap, hwfc]
    | true =>
      have hap := ApiCall.asksAp_eq_false hwfc
      constructor <;> simp [hstate, hrequest, hlooks, calls_iff happ, hap, hwfc]

theorem next_of_assocStatus {env : LwipEnv} (happ : d.app e = some (.assocStatus env)) (s : σ) :
    d.Next s e (d.step s e) := by
  have hcalls (P) : ¬ d.Calls P s e := not_calls (by simp [happ]) P s
  have hrequest : ¬ d.Request s e := hcalls _
  have hstate := d.assocStatus s e env happ
  have hgoes := (d.arm9 s).assocStatus_goes env
  constructor
  · simp [hstate, hgoes.searching, hcalls, hrequest, looks_iff happ]
  · simp [hstate, hgoes.searchingWfc, hcalls, hrequest, looks_iff happ]
  · simp [hstate, hgoes.associating, hrequest, looks_iff happ]
  · simp [hstate, hgoes.acquiring, hrequest, looks_iff happ]
  · simp [hstate, hgoes.settled, hrequest, looks_iff happ]

theorem step_next (d : Driver σ ε) (s : σ) (e : ε) : d.Next s e (d.step s e) := by
  cases happ : d.app e with
  | none =>
    have hcalls (P) : ¬ d.Calls P s e := not_calls (by simp [happ]) P s
    exact next_of_idle ⟨hcalls _, hcalls _, hcalls _⟩ (fun P => not_looks (by simp [happ]) P s)
      (d.other s e happ)
  | some app =>
    cases app with
    | call call => exact next_of_call happ s
    | assocStatus env => exact next_of_assocStatus happ s

theorem searching_append_singleton :
    d.Searching s (es ++ [e]) ↔
      d.Calls ApiCall.asksAp (run d.step s es) e ∨
      d.Searching s es ∧
        ¬ (d.Request (run d.step s es) e ∨ d.Looks Arm9.FindsAp (run d.step s es) e) := by
  unfold Searching
  rw [since_append_singleton, along_append_singleton, or_and_right, or_assoc]

theorem searchingWfc_append_singleton :
    d.SearchingWfc s (es ++ [e]) ↔
      d.Calls ApiCall.asksWfc (run d.step s es) e ∨
      d.SearchingWfc s es ∧
        ¬ (d.Request (run d.step s es) e ∨ d.Looks Arm9.FindsWfc (run d.step s es) e) :=
  since_append_singleton

theorem associating_append_singleton :
    d.Associating s (es ++ [e]) ↔
      (d.Searching s es ∧ d.Looks Arm9.FindsAp (run d.step s es) e ∨
        d.SearchingWfc s es ∧ d.Looks Arm9.FindsWfc (run d.step s es) e) ∨
      d.Associating s es ∧
        ¬ (d.Request (run d.step s es) e ∨ d.Looks Arm9.SeesOutcome (run d.step s es) e) :=
  sinceRecorded_append_singleton

theorem acquiring_append_singleton :
    d.Acquiring s (es ++ [e]) ↔
      d.Associating s es ∧ d.Looks (fun arm9 env => arm9.SeesConnected env ∧ arm9.UsesDhcp env)
        (run d.step s es) e ∨
      d.Acquiring s es ∧ ¬ (d.Request (run d.step s es) e ∨
        d.Looks (fun arm9 env => ¬ arm9.LacksAddress env) (run d.step s es) e) :=
  sinceRecorded_append_singleton

theorem settled_append_singleton :
    d.Settled s (es ++ [e]) ↔
      (d.Associating s es ∧ d.Looks (fun arm9 env => arm9.SeesConnected env ∧ ¬ arm9.UsesDhcp env)
          (run d.step s es) e ∨
        d.Acquiring s es ∧ d.Looks Arm9.HasAddress (run d.step s es) e) ∨
      d.Settled s es ∧ ¬ d.Request (run d.step s es) e :=
  sinceRecorded_append_singleton

/-- What an event does to the history, from what it does to the state. -/
theorem Follows.append_singleton (h : d.Follows s es (run d.step s es))
    (hnext : d.Next (run d.step s es) e s') : d.Follows s (es ++ [e]) s' where
  searching := by
    rw [searching_append_singleton, ← h.searching]
    exact hnext.searching
  searchingWfc := by
    rw [searchingWfc_append_singleton, ← h.searchingWfc]
    exact hnext.searchingWfc
  associating := by
    rw [associating_append_singleton, ← h.searching, ← h.searchingWfc, ← h.associating]
    exact hnext.associating
  acquiring := by
    rw [acquiring_append_singleton, ← h.associating, ← h.acquiring]
    exact hnext.acquiring
  settled := by
    rw [settled_append_singleton, ← h.associating, ← h.acquiring, ← h.settled]
    exact hnext.settled

theorem Follows.nil (hstate : (d.arm9 s).connectState = .searching) : d.Follows s [] s where
  searching := iff_of_true hstate (.inr trivial)
  searchingWfc := iff_of_false (by simp [hstate]) since_nil
  associating := iff_of_false (by simp [hstate]) sinceRecorded_nil
  acquiring := iff_of_false (by simp [hstate]) sinceRecorded_nil
  settled := iff_of_false (by simp [hstate]) sinceRecorded_nil

/-- **The history of the calls is what `wifi_connect_state` says**, whatever the driver of the ARM7
has done. -/
theorem follows_run (d : Driver σ ε) (hstate : (d.arm9 s).connectState = .searching)
    (es : List ε) : d.Follows s es (run d.step s es) := by
  induction es using List.reverseRecOn with
  | nil => exact .nil hstate
  | append_singleton es e ih =>
    -- One more event changes the state as it changes the history.
    rw [run_append_singleton]
    exact ih.append_singleton (d.step_next _ e)

end Driver

/-! ## The two drivers -/

namespace Twl

variable (s : Twl)

theorem updateNormalConnect_connectState :
    s.updateNormalConnect.connectState = s.connectState := by
  unfold updateNormalConnect wmiConnect
  dsimp only
  split_ifs <;> rfl

theorem update_connectState (env : CardEnv) : (s.update env).connectState = s.connectState := by
  unfold update
  split
  · split_ifs <;> rfl
  · split_ifs <;> rfl
  · unfold updateNormal
    split
    · rfl
    · rfl
    · split_ifs
      · split
        · rfl
        · exact updateNormalConnect_connectState _
      · exact updateNormalConnect_connectState s
    · rfl
  · unfold wmiScanModeTick
    dsimp only
    split_ifs <;> rfl
  · unfold updateConnecting
    split_ifs <;> rfl
  · unfold updateConnected
    split_ifs <;> rfl
  · split_ifs <;> rfl
  · split_ifs <;> rfl
  · rfl

theorem handlePkt_connectState (message : CardMessage) :
    (s.handlePkt message).connectState = s.connectState := by
  cases message with
  | targetErrorReportEvent errId =>
    unfold handlePkt
    dsimp only
    split_ifs <;> rfl
  | eapol keyinfo =>
    unfold handlePkt dataHandleAuth
    dsimp only
    split_ifs <;> rfl
  | _ => rfl

end Twl

def NtrEvent.app : NtrEvent → Option AppStep
  | .call c => some (.call c)
  | .assocStatus env => some (.assocStatus env)
  | .update _ | .receive _ => none

/-- In DS mode. -/
def ntrDriver : Driver Ntr NtrEvent where
  step := ntrStep
  arm9 := Ntr.toArm9
  app := NtrEvent.app
  call s ev call happ := by
    cases ev <;> cases happ
    rfl
  assocStatus s ev env happ := by
    cases ev <;> cases happ
    rfl
  other s ev happ := by
    cases ev with
    | call | assocStatus => cases happ
    | update usCount1 => exact (s.update_spec usCount1).same.connectState
    | receive frame => exact (s.processReceivedFrame_spec frame).same.connectState

def TwlEvent.app : TwlEvent → Option AppStep
  | .call c => some (.call c)
  | .assocStatus env => some (.assocStatus env)
  | .write .. | .update _ | .pmkCalculated _ | .receive _ => none

/-- In DSi mode. -/
def twlDriver : Driver Twl TwlEvent where
  step := twlStep
  arm9 := Twl.toArm9
  app := TwlEvent.app
  call s ev call happ := by
    cases ev <;> cases happ
    rfl
  assocStatus s ev env happ := by
    cases ev <;> cases happ
    rfl
  other s ev happ := by
    cases ev with
    | call | assocStatus => cases happ
    | write => rfl
    | update env => exact s.update_connectState env
    | pmkCalculated pmk =>
      unfold twlStep
      dsimp only
      split_ifs <;> rfl
    | receive message =>
      unfold twlStep
      dsimp only
      split_ifs
      · exact s.handlePkt_connectState message
      · rfl

end Wifi
