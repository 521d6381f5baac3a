import DsWifi.Infra.Run
import DsWifi.Connect.Calls
import DsWifi.Connect.Twl

/-!
# Connections belong to attempts

The driver tells from three flags whether the card is connected. They are reset at different places,
so that what the card has still said to an earlier attempt can be taken for an answer to this one.

* `update_connected_belongs` — `WIFIMODE_CONNECTED` belongs to the latest attempt in the runs in
  which every attempt finds its flags clear
-/

namespace Wifi

open Infra

namespace Twl

variable {s : Twl}

/-- The update gets to `wmi_connect`. -/
def CallsWmiConnect (s : Twl) : Prop :=
  s.curMode = .normal ∧ s.reqMode = .connected ∧
    (s.reqFlags &&& wflagReqLoadWfcKey ≠ 0 → getWfcAccessPointIndex s.wfc s.curAp.ssid ≠ none)

instance (s : Twl) : Decidable s.CallsWmiConnect := inferInstanceAs (Decidable (_ ∧ _ ∧ _))

/-! ## The invariant -/

/-- The flags say what has happened since the latest `wmi_connect`. -/
structure Current (s : Twl) : Prop where
  connected : s.apConnected = true → s.monitor.connectedSince = true
  idle : s.apConnecting = true → s.apConnected = false
  busy : s.apConnecting = true → s.curMode = .connecting ∨ 0 < s.calculating
  handshake : s.curMode = .connecting → s.hasSentHs4 = true →
    s.monitor.handshakeSince = true ∨ s.monitor.securityType ≠ .wpa2 ∨
    0 < s.calculating ∧ s.apConnected = false

theorem Current.init (main : MainStruct) : (Twl.init main).Current :=
  ⟨nofun, nofun, nofun, nofun⟩

/-- Nobody is connecting, and the ARM7 moves on. -/
theorem Current.leave (h : s.Current) (mode : WifiMode) (hmode : mode ≠ .connecting)
    (hidle : s.apConnecting = true → 0 < s.calculating) :
    Current { s with curMode := mode } :=
  ⟨h.connected, h.idle, fun hc => .inr (hidle hc), fun hm => absurd hm hmode⟩

theorem Current.wmiDisconnectCmd (h : s.Current) : s.wmiDisconnectCmd.Current :=
  ⟨h.connected, nofun, nofun, h.handshake⟩

theorem Current.updateNormalConnect (h : s.Current) (hmode : s.curMode = .normal)
    (hclear : s.apConnected = false) : s.updateNormalConnect.Current := by
  have hconnected : ¬ s.apConnected = true := by
    rw [hclear]
    nofun
  unfold Twl.updateNormalConnect wmiConnect
  dsimp only
  split_ifs with hconnecting hwpa2 hpmk
  · -- An interrupt of `wpa_calc_pmk`: the earlier call will clear the handshake flag.
    have hcalc : 0 < s.calculating := by
      obtain hm | hcalc := h.busy hconnecting
      · cases hmode.symm.trans hm
      · exact hcalc
    exact ⟨fun hc => absurd hc hconnected, h.idle, fun _ => .inl rfl,
      fun _ _ => .inr (.inr ⟨hcalc, hclear⟩)⟩
  · exact ⟨fun hc => absurd hc hconnected, fun _ => hclear, fun _ => .inl rfl, fun _ => nofun⟩
  · refine ⟨fun hc => absurd hc hconnected, fun _ => hclear, fun _ => .inr (Nat.succ_pos _), ?_⟩
    intro hm
    cases hmode.symm.trans hm
  · exact ⟨fun hc => absurd hc hconnected, fun _ => hclear, fun _ => .inl rfl,
      fun _ _ => .inr (.inl hwpa2)⟩

theorem Current.updateNormal (h : s.Current) (hmode : s.curMode = .normal)
    (hclear : s.CallsWmiConnect → s.apConnected = false) : s.updateNormal.Current := by
  have hidle (hc : s.apConnecting = true) : 0 < s.calculating := by
    obtain hm | hcalc := h.busy hc
    · cases hmode.symm.trans hm
    · exact hcalc
  unfold Twl.updateNormal
  split
  · exact ⟨h.connected, h.idle, fun hc => .inr (hidle hc), nofun⟩
  · exact ⟨h.connected, h.idle, fun hc => .inr (hidle hc), nofun⟩
  · rename_i hreq
    split_ifs with hload
    · cases hindex : getWfcAccessPointIndex s.wfc s.curAp.ssid with
      | none => exact h.leave .cannotConnect nofun hidle
      | some index =>
        have hcalls : s.CallsWmiConnect := ⟨hmode, hreq, fun _ => by rw [hindex]; nofun⟩
        exact Current.updateNormalConnect ⟨h.connected, h.idle, h.busy, h.handshake⟩ hmode
          (hclear hcalls)
    · exact h.updateNormalConnect hmode (hclear ⟨hmode, hreq, fun hl => absurd hl hload⟩)
  · exact h

/-- `wmi_is_ap_connected` without its case. -/
theorem apConnected_of_wmiIsApConnected (h : s.wmiIsApConnected = true) :
    s.apConnected = true ∧ (s.curAp.securityType = .wpa2 → s.hasSentHs4 = true) := by
  unfold wmiIsApConnected at h
  split_ifs at h with hwpa2
  · rw [Bool.and_eq_true] at h
    exact ⟨h.1, fun _ => h.2⟩
  · exact ⟨h, fun hw => absurd hw hwpa2⟩

theorem Current.updateConnecting (h : s.Current) : s.updateConnecting.Current := by
  unfold Twl.updateConnecting
  split_ifs with hconnected
  · refine h.leave .connected nofun fun hc => ?_
    have hidle := h.idle hc
    rw [(apConnected_of_wmiIsApConnected hconnected).1] at hidle
    cases hidle
  · exact h.wmiDisconnectCmd.leave .cannotConnect nofun nofun
  · exact h.wmiDisconnectCmd.leave .disconnecting nofun nofun
  · exact h

theorem Current.update (h : s.Current) (env : CardEnv)
    (hclear : s.CallsWmiConnect → s.apConnected = false) : (s.update env).Current := by
  have hidle (hmode : s.curMode ≠ .connecting) (hc : s.apConnecting = true) : 0 < s.calculating :=
    (h.busy hc).resolve_left hmode
  unfold Twl.update
  cases hmode : s.curMode with
  | disabled =>
    dsimp only
    split_ifs
    · exact ⟨nofun, nofun, nofun, nofun⟩
    · exact h
  | initializing =>
    dsimp only
    split_ifs
    · exact h.leave .normal nofun (hidle (by rw [hmode]; nofun))
    · exact h
  | normal => exact h.updateNormal hmode hclear
  | scan =>
    dsimp only
    split_ifs
    · exact h.leave .normal nofun (hidle (by rw [hmode]; nofun))
    · unfold wmiScanModeTick
      dsimp only
      split_ifs
      · exact h
      · exact h
      · exact ⟨h.connected, h.idle, h.busy, h.handshake⟩
  | connecting => exact h.updateConnecting
  | connected =>
    dsimp only [Twl.updateConnected]
    split_ifs
    · exact h.wmiDisconnectCmd.leave .cannotConnect nofun nofun
    · exact h
    · exact h.wmiDisconnectCmd.leave .disconnecting nofun nofun
  | disconnecting =>
    dsimp only
    split_ifs
    · exact h.leave .normal nofun (hidle (by rw [hmode]; nofun))
    · exact h
  | cannotConnect =>
    dsimp only
    split_ifs
    · exact h.leave .normal nofun (hidle (by rw [hmode]; nofun))
    · exact h
  | accessPoint => exact h

theorem Current.handlePkt (h : s.Current) (message : CardMessage)
    (hstale : message = .connectEvent → 0 < s.calculating → s.hasSentHs4 = false) :
    (s.handlePkt message).Current := by
  cases message with
  | connectEvent =>
    refine ⟨fun _ => rfl, nofun, nofun, fun hm hsent => ?_⟩
    obtain hsince | htype | ⟨hcalc, -⟩ := h.handshake hm hsent
    · exact .inl hsince
    · exact .inr (.inl htype)
    · cases (hstale rfl hcalc).symm.trans hsent
  | disconnectEvent =>
    refine ⟨nofun, nofun, nofun, fun hm hsent => ?_⟩
    obtain hsince | htype | ⟨hcalc, -⟩ := h.handshake hm hsent
    · exact .inl hsince
    · exact .inr (.inl htype)
    · exact .inr (.inr ⟨hcalc, rfl⟩)
  | targetErrorReportEvent errId =>
    dsimp only [Twl.handlePkt]
    split_ifs
    · exact h.wmiDisconnectCmd
    · exact h
  | eapol keyinfo =>
    dsimp only [Twl.handlePkt, dataHandleAuth]
    split_ifs
    · exact h
    · exact ⟨h.connected, h.idle, h.busy, fun _ _ => .inl rfl⟩
    · exact h
  | _ => exact ⟨h.connected, h.idle, h.busy, h.handshake⟩

end Twl

/-! ## Clear attempts -/

/-- Nothing that the card has said to an earlier attempt is taken for an answer to this one:
`wmi_connect` is called with `ap_connected` clear; while the ARM7 connects, `curAp` doesn't become
an access point with a handshake if it was none at that call; and no connection is reported during
`wpa_calc_pmk`, before the flag of the handshake is reset. -/
def StepClear (s : Twl) : TwlEvent → Prop
  | .update _ =>
    (s.CallsWmiConnect → s.apConnected = false) ∧
    (s.curMode = .connecting → s.curAp.securityType = .wpa2 → s.hasSentHs4 = true →
      s.monitor.securityType = .wpa2)
  | .receive .connectEvent => s.cardInitted = true → 0 < s.calculating → s.hasSentHs4 = false
  | _ => True

/-- An update that sets `WIFIMODE_CONNECTED` does so for the latest attempt. -/
def StepBelongs (s : Twl) : TwlEvent → Prop
  | .update env =>
    s.curMode ≠ .connected → (s.update env).curMode = .connected →
      s.monitor.connectedSince = true ∧
      (s.curAp.securityType = .wpa2 → s.monitor.handshakeSince = true)
  | _ => True

instance (s : Twl) : ∀ ev, Decidable (StepClear s ev)
  | .update _ => inferInstanceAs (Decidable (_ ∧ _))
  | .receive .connectEvent => inferInstanceAs (Decidable (_ → _ → _))
  | .receive (.readyEvent _) | .receive .regDomainEvent | .receive (.getChannelListResp _)
  | .receive .scanCompleteEvent | .receive (.bssInfoEvent ..) | .receive .disconnectEvent
  | .receive (.targetErrorReportEvent _) | .receive (.eapol _)
  | .call _ | .assocStatus _ | .write .. | .pmkCalculated _ => .isTrue trivial

instance (s : Twl) : ∀ ev, Decidable (StepBelongs s ev)
  | .update _ => inferInstanceAs (Decidable (_ → _ → _ ∧ _))
  | .call _ | .assocStatus _ | .write .. | .pmkCalculated _ | .receive _ => .isTrue trivial

namespace Twl

variable {s : Twl}

theorem Current.step (h : s.Current) {ev : TwlEvent} (hclear : StepClear s ev) :
    (twlStep s ev).Current := by
  cases ev with
  | call call =>
    have hmode : (call.run s.toArm9).curMode = s.curMode := (call.run_asks s.toArm9).mode
    exact ⟨h.connected, h.idle, fun hc => (h.busy hc).imp_left hmode.trans,
      fun hm => h.handshake (hmode.symm.trans hm)⟩
  | assocStatus env =>
    have hmode : (s.assocStatus env).1.curMode = s.curMode :=
      (s.assocStatus_mode_level env).1
    exact ⟨h.connected, h.idle, fun hc => (h.busy hc).imp_left hmode.trans,
      fun hm => h.handshake (hmode.symm.trans hm)⟩
  | write => exact ⟨h.connected, h.idle, h.busy, h.handshake⟩
  | update env => exact h.update env hclear.1
  | pmkCalculated pmk =>
    dsimp only [twlStep]
    split_ifs
    · exact h
    · exact ⟨h.connected, h.idle, fun _ => .inl rfl, fun _ => nofun⟩
  | receive message =>
    dsimp only [twlStep]
    split_ifs with hcard
    · refine h.handlePkt message fun he hcalc => ?_
      subst he
      exact hclear hcard hcalc
    · exact h

theorem updateNormalConnect_not_connected (hmode : s.curMode = .normal) :
    s.updateNormalConnect.curMode ≠ .connected := by
  unfold updateNormalConnect wmiConnect
  dsimp only
  split_ifs
  · nofun
  · nofun
  · dsimp only
    rw [hmode]
    nofun
  · nofun

theorem updateNormal_not_connected (hmode : s.curMode = .normal) :
    s.updateNormal.curMode ≠ .connected := by
  unfold updateNormal
  split
  · nofun
  · nofun
  · split_ifs
    · split
      · nofun
      · exact updateNormalConnect_not_connected hmode
    · exact updateNormalConnect_not_connected hmode
  · rw [hmode]
    nofun

/-- Only a connected card takes the ARM7 from another mode to `WIFIMODE_CONNECTED`. -/
theorem update_connected {env : CardEnv} (hmode : s.curMode ≠ .connected)
    (h : (s.update env).curMode = .connected) :
    s.curMode = .connecting ∧ s.wmiIsApConnected = true := by
  unfold update at h
  cases hm : s.curMode with
  | connecting =>
    refine ⟨rfl, ?_⟩
    rw [hm] at h
    dsimp only [updateConnecting] at h
    split_ifs at h with hconnected
    · exact hconnected
    · cases hm.symm.trans h
  | normal =>
    rw [hm] at h
    exact absurd h (updateNormal_not_connected hm)
  | connected => exact absurd hm hmode
  | scan =>
    rw [hm] at h
    dsimp only [wmiScanModeTick] at h
    split_ifs at h <;> cases hm.symm.trans h
  | _ =>
    rw [hm] at h
    dsimp only at h
    first
      | split_ifs at h <;> cases hm.symm.trans h
      | cases hm.symm.trans h

theorem Current.belongs (h : s.Current) {ev : TwlEvent} (hclear : StepClear s ev) :
    StepBelongs s ev := by
  cases ev with
  | update env =>
    intro hmode hconnected
    obtain ⟨hm, hap⟩ := update_connected hmode hconnected
    obtain ⟨hc, hsent⟩ := apConnected_of_wmiIsApConnected hap
    refine ⟨h.connected hc, fun hwpa2 => ?_⟩
    obtain hsince | htype | ⟨-, hno⟩ := h.handshake hm (hsent hwpa2)
    · exact hsince
    · exact absurd (hclear.2 hm hwpa2 (hsent hwpa2)) htype
    · cases hno.symm.trans hc
  | _ => trivial

theorem update_of_connecting (hmode : s.curMode = .connecting)
    (hconnected : s.wmiIsApConnected = true) (env : CardEnv) :
    (s.update env).curMode = .connected := by
  unfold update updateConnecting
  rw [hmode, if_pos hconnected]

/-- An attempt that finds `ap_connected` set, for an access point without a handshake: the next
update takes it for connected. -/
theorem late_answer (hcalls : s.CallsWmiConnect) (hap : s.apConnected = true)
    (hopen : s.curAp.securityType ≠ .wpa2) (env : CardEnv) :
    ¬ Along twlStep StepBelongs s [.update env, .update env] := by
  obtain ⟨hmode, hreq, hwfc⟩ := hcalls
  have hconnect (t : Twl) (hap : t.apConnected = true) (hopen : t.curAp.securityType ≠ .wpa2) :
      t.updateNormalConnect.curMode = .connecting ∧
      t.updateNormalConnect.wmiIsApConnected = true ∧
      t.updateNormalConnect.monitor.connectedSince = false := by
    unfold updateNormalConnect wmiConnect
    dsimp only
    split_ifs <;> exact ⟨rfl, by simp [wmiIsApConnected, hap, hopen], rfl⟩
  have hupdate : (s.update env).curMode = .connecting ∧ (s.update env).wmiIsApConnected = true ∧
      (s.update env).monitor.connectedSince = false := by
    unfold update updateNormal
    rw [hmode, hreq]
    dsimp only
    split_ifs with hload
    · obtain ⟨index, hindex⟩ := Option.ne_none_iff_exists'.mp (hwfc hload)
      rw [hindex]
      exact hconnect _ hap hopen
    · exact hconnect s hap hopen
  obtain ⟨hm, hconnected, hsince⟩ := hupdate
  have hfree : (s.update env).curMode ≠ .connected := by
    rw [hm]
    nofun
  rintro ⟨-, hbelongs, -⟩
  cases hsince.symm.trans (hbelongs hfree (update_of_connecting hm hconnected env)).1

end Twl

/-- In the runs whose attempts all find their flags clear, `WIFIMODE_CONNECTED` belongs to the
latest attempt. -/
theorem update_connected_belongs (main : MainStruct) (evs : List TwlEvent)
    (h : Along twlStep StepClear (.init main) evs) :
    Along twlStep StepBelongs (.init main) evs :=
  h.of_inv Twl.Current (fun _ _ h hev => h.step hev) (fun _ _ h hev => h.belongs hev) (.init main)

/-! ## Two attempts -/

def exampleDsiMain : MainStruct := .init wflagReqDsiMode .internet exampleMac []

def exampleCard : Twl.CardEnv where
  mhz := 2412
  initted := true

/-- The console finds an access point. -/
def foundRun (call : ApiCall) (secType : ApSecurityType) : List TwlEvent :=
  [.call .enableWifi, .update exampleCard, .receive .regDomainEvent, .update exampleCard,
    .call call, .update exampleCard,
    .receive (.bssInfoEvent { exampleBeacon 1 with secType } true),
    .assocStatus withoutLwip, .update exampleCard]

/-- It connects with a password, and the timer strikes during `wpa_calc_pmk`. -/
def handshakeRun : List TwlEvent :=
  foundRun (.connectSecureAp (some (exampleAp 1)) (some [0x70, 0x77]) 2) .wpa2 ++
    [.update exampleCard, .update exampleCard, .pmkCalculated (.replicate 32 1),
      .receive .connectEvent, .update exampleCard,
      .receive (.eapol 0x008A), .receive (.eapol 0x13CA), .update exampleCard]

example : (run twlStep (.init exampleDsiMain) handshakeRun).curMode = .connected := by
  decide +kernel

theorem update_connected_handshakeRun :
    Along twlStep StepBelongs (.init exampleDsiMain) handshakeRun :=
  update_connected_belongs exampleDsiMain handshakeRun (by decide +kernel)

/-- It gives up an attempt, and the card connects after all. The next attempt ends at once. -/
def lateRun : List TwlEvent :=
  foundRun (.connectOpenAp (some (exampleAp 1))) .open ++
    [.update exampleCard, .call .disconnectAp, .update exampleCard, .update exampleCard,
      .receive .connectEvent,
      .call (.connectOpenAp (some (exampleAp 1))), .assocStatus withoutLwip,
      .update exampleCard, .update exampleCard]

theorem lateRun_stale : ¬ ∀ (main : MainStruct) (evs : List TwlEvent),
    Along twlStep StepBelongs (.init main) evs :=
  fun h => absurd (h exampleDsiMain lateRun) (by decide +kernel)

end Wifi
