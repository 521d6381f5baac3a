import DsWifi.Connect.Association
import Mathlib.Data.List.Infix

/-!
# The retry limit

`Wifi_AssociationUpdate` gives up after `WIFI_MAX_ASSOC_RETRY` retries, but an authentication that
succeeds sets the counter back to zero. An access point that authenticates the console and never
associates it keeps it trying.

* `associationUpdate_error_iff` — when the update gives up
* `Counted.step` — what the counter and `authlevel` say about the calls and frames so far
* `retry_limit_iff` — the sixth call ends the attempt exactly if no authentication has succeeded
  since the first one, or if the access point has turned the console away
-/

namespace Wifi

open Infra

/-! ## Calls and frames -/

/-- What happens while the console tries to connect. -/
inductive RetryEvent
  | associationUpdate
  | receive (frame : Ntr.ReceivedFrame)

namespace RetryEvent

/-- The event is a call of `Wifi_AssociationUpdate`. -/
def isCall : RetryEvent → Bool
  | associationUpdate => true
  | receive _ => false

/-- The event is an association response. -/
def isAssocResponse : RetryEvent → Bool
  | receive (.assocResponse _) => true
  | _ => false

/-- The number of calls of `Wifi_AssociationUpdate`. -/
def calls (es : List RetryEvent) : Nat := es.countP isCall

@[simp] theorem calls_nil : calls [] = 0 := rfl

@[simp] theorem calls_append (es es' : List RetryEvent) :
    calls (es ++ es') = calls es + calls es' :=
  List.countP_append

@[simp] theorem calls_update : calls [associationUpdate] = 1 := rfl

@[simp] theorem calls_receive (frame : Ntr.ReceivedFrame) : calls [receive frame] = 0 := rfl

end RetryEvent

namespace Ntr

open RetryEvent

def retryStep (s : Ntr) : RetryEvent → Ntr
  | .associationUpdate => s.associationUpdate
  | .receive frame => s.processReceivedFrame frame

/-- The frame ends an authentication with success. -/
def AuthenticationFrame.Succeeds (frame : AuthenticationFrame) : Prop :=
  frame.statusCode = 0 ∧
    (frame.authAlgorithm = 0 ∧ frame.seqNumber = 2 ∨ frame.authAlgorithm = 1 ∧ frame.seqNumber = 4)

instance (frame : AuthenticationFrame) : Decidable frame.Succeeds :=
  inferInstanceAs (Decidable (_ ∧ _))

/-- The frame turns the console away. -/
def AuthenticationFrame.Refuses (frame : AuthenticationFrame) : Prop :=
  frame.authAlgorithm = 0 ∧ frame.seqNumber = 2 ∧ frame.statusCode = statusAssocTooManyDevices ∨
    frame.authAlgorithm = 1 ∧ (frame.seqNumber = 2 ∨ frame.seqNumber = 4) ∧ frame.statusCode ≠ 0

instance (frame : AuthenticationFrame) : Decidable frame.Refuses :=
  inferInstanceAs (Decidable (_ ∨ _))

/-- The frame turns the console away. -/
def DeauthenticationFrame.Refuses (frame : DeauthenticationFrame) : Prop :=
  frame.reasonCode = reasonThisStationLeftDeauth ∨
    frame.reasonCode = reasonThisStationLeftDisassoc ∨
    frame.reasonCode = reasonCantHandleAllStations

instance (frame : DeauthenticationFrame) : Decidable frame.Refuses :=
  inferInstanceAs (Decidable (_ ∨ _))

/-- An authentication frame from the access point to this console. -/
def HearsAuthentication (s : Ntr) (frame : AuthenticationFrame) : Prop :=
  s.curMode ≠ .accessPoint ∧ frame.da = s.macAddr ∧ frame.bssid = s.curAp.bssid

/-- A deauthentication frame from the access point to this console. -/
def HearsDeauthentication (s : Ntr) (frame : DeauthenticationFrame) : Prop :=
  s.curMode ≠ .accessPoint ∧ frame.complete = true ∧
    (frame.da = s.macAddr ∨ frame.da = wifiBroadcastAddr) ∧ frame.bssid = s.curAp.bssid

/-- The event authenticates the console. -/
def Accepts (s : Ntr) : RetryEvent → Prop
  | .receive (.authentication frame) =>
    s.HearsAuthentication frame ∧ frame.Succeeds ∧ s.authlevel = .disconnected
  | _ => False

/-- The event turns the console away. -/
def Rejects (s : Ntr) : RetryEvent → Prop
  | .receive (.authentication frame) => s.HearsAuthentication frame ∧ frame.Refuses
  | .receive (.deauthentication frame) => s.HearsDeauthentication frame ∧ frame.Refuses
  | _ => False

/-- The event makes the console start again. -/
def Restarts (s : Ntr) : RetryEvent → Prop
  | .receive (.deauthentication frame) => s.HearsDeauthentication frame ∧ ¬ frame.Refuses
  | _ => False

/-! ## One step -/

section

variable {s : Ntr}

/-- What an authentication frame from the access point does. -/
theorem processAuthentication_of_hears {frame : AuthenticationFrame}
    (hda : frame.da = s.macAddr) (hbssid : frame.bssid = s.curAp.bssid) :
    s.processAuthentication frame =
      if frame.Succeeds ∧ s.authlevel = .disconnected then
        { s with authlevel := .authenticated, authctr := 0 }
      else if frame.Refuses then { s with authlevel := .error } else s := by
  unfold processAuthentication authenticate AuthenticationFrame.Succeeds
    AuthenticationFrame.Refuses
  rw [if_neg (not_not.mpr hda), if_neg (not_not.mpr hbssid)]
  by_cases halgorithm : frame.authAlgorithm = 0
  · by_cases hseq : frame.seqNumber = 2
    · by_cases hstatus : frame.statusCode = 0
      · simp [halgorithm, hseq, hstatus, statusAssocTooManyDevices]
      · simp [halgorithm, hseq, hstatus]
    · simp [halgorithm, hseq]
  · by_cases halgorithm' : frame.authAlgorithm = 1
    · by_cases hstatus : frame.statusCode = 0
      · by_cases hseq : frame.seqNumber = 2
        · simp [halgorithm', hseq, hstatus]
        · simp [halgorithm', hseq, hstatus, ite_and]
      · by_cases hseq : frame.seqNumber = 2
        · simp [halgorithm', hseq, hstatus]
        · simp [halgorithm', hseq, hstatus]
    · simp [halgorithm, halgorithm']

theorem processAuthentication_of_not_hears {frame : AuthenticationFrame}
    (h : ¬ (frame.da = s.macAddr ∧ frame.bssid = s.curAp.bssid)) :
    s.processAuthentication frame = s := by
  unfold processAuthentication
  by_cases hda : frame.da = s.macAddr
  · rw [if_neg (not_not.mpr hda), if_pos fun hbssid => h ⟨hda, hbssid⟩]
  · rw [if_pos hda]

/-- What a deauthentication frame from the access point does. -/
theorem processDeauthentication_of_hears {frame : DeauthenticationFrame}
    (hcomplete : frame.complete = true)
    (hda : frame.da = s.macAddr ∨ frame.da = wifiBroadcastAddr)
    (hbssid : frame.bssid = s.curAp.bssid) :
    s.processDeauthentication frame =
      { s with authlevel := if frame.Refuses then .error else .disconnected } := by
  have hother : ¬ (frame.da ≠ s.macAddr ∧ frame.da ≠ wifiBroadcastAddr) := by
    rintro ⟨hne, hne'⟩
    exact hda.elim hne hne'
  unfold processDeauthentication DeauthenticationFrame.Refuses
  rw [hcomplete, if_neg hother, if_neg (not_not.mpr hbssid)]
  split_ifs <;> simp_all

theorem processDeauthentication_of_not_hears {frame : DeauthenticationFrame}
    (h : ¬ (frame.complete = true ∧ (frame.da = s.macAddr ∨ frame.da = wifiBroadcastAddr) ∧
      frame.bssid = s.curAp.bssid)) : s.processDeauthentication frame = s := by
  unfold processDeauthentication
  by_cases hcomplete : frame.complete = true
  · rw [hcomplete]
    by_cases hda : frame.da = s.macAddr ∨ frame.da = wifiBroadcastAddr
    · have hbssid : frame.bssid ≠ s.curAp.bssid := fun hbssid => h ⟨hcomplete, hda, hbssid⟩
      rw [if_pos hbssid]
      simp
    · rw [if_pos (not_or.mp hda)]
      simp
  · simp [hcomplete]

/-- What a frame does to the attempt. -/
structure Handles (s : Ntr) (e : RetryEvent) (s' : Ntr) : Prop where
  accepted : s.Accepts e → s'.authctr = 0
  kept : ¬ s.Accepts e → s'.authctr = s.authctr
  error_iff : s'.authlevel = .error ↔ s.Rejects e ∨ s.authlevel = .error ∧ ¬ s.Restarts e

/-- A frame that is neither accepted nor refused nor starts again. -/
theorem Handles.of_eq {e : RetryEvent} {s' : Ntr} (hctr : s'.authctr = s.authctr)
    (hlevel : s'.authlevel = s.authlevel) (haccepts : ¬ s.Accepts e) (hrejects : ¬ s.Rejects e)
    (hrestarts : ¬ s.Restarts e) : Handles s e s' where
  accepted h := absurd h haccepts
  kept _ := hctr
  error_iff := by
    rw [hlevel]
    exact ⟨fun h => .inr ⟨h, hrestarts⟩, fun h => (h.resolve_left hrejects).1⟩

theorem handles_authentication (s : Ntr) (frame : AuthenticationFrame) :
    Handles s (.receive (.authentication frame))
      (s.retryStep (.receive (.authentication frame))) := by
  by_cases hears : s.HearsAuthentication frame
  · obtain ⟨hmode, hda, hbssid⟩ := hears
    rw [retryStep, processReceivedFrame, if_neg hmode, processAuthentication_of_hears hda hbssid]
    split_ifs with hsucceeds hrefuses
    · have hrefuses : ¬ frame.Refuses := by
        unfold AuthenticationFrame.Refuses statusAssocTooManyDevices
        have := hsucceeds.1.1
        omega
      refine ⟨fun _ => rfl, fun h => absurd ⟨⟨hmode, hda, hbssid⟩, hsucceeds⟩ h, ?_⟩
      simp [Rejects, hrefuses, hsucceeds.2]
    · refine ⟨fun h => absurd h.2 hsucceeds, fun _ => rfl, ?_⟩
      exact iff_of_true rfl (.inl ⟨⟨hmode, hda, hbssid⟩, hrefuses⟩)
    · exact .of_eq rfl rfl (fun h => hsucceeds h.2) (fun h => hrefuses h.2) id
  · refine .of_eq ?_ ?_ (fun h => hears h.1) (fun h => hears h.1) id
    all_goals
      rw [retryStep, processReceivedFrame]
      split_ifs with hmode
      · rfl
      · rw [processAuthentication_of_not_hears fun h => hears ⟨hmode, h⟩]

theorem handles_deauthentication (s : Ntr) (frame : DeauthenticationFrame) :
    Handles s (.receive (.deauthentication frame))
      (s.retryStep (.receive (.deauthentication frame))) := by
  by_cases hears : s.HearsDeauthentication frame
  · obtain ⟨hmode, hcomplete, hda, hbssid⟩ := hears
    rw [retryStep, processReceivedFrame, if_neg hmode,
      processDeauthentication_of_hears hcomplete hda hbssid]
    refine ⟨False.elim, fun _ => rfl, ?_⟩
    by_cases hrefuses : frame.Refuses
    · simp [Rejects, HearsDeauthentication, hmode, hcomplete, hda, hbssid, hrefuses]
    · simp [Rejects, Restarts, HearsDeauthentication, hmode, hcomplete, hda, hbssid, hrefuses]
  · refine .of_eq ?_ ?_ id (fun h => hears h.1) (fun h => hears h.1)
    all_goals
      rw [retryStep, processReceivedFrame]
      split_ifs with hmode
      · rfl
      · rw [processDeauthentication_of_not_hears fun h => hears ⟨hmode, h⟩]

theorem processBeaconOrProbeResponse_changes (s : Ntr) (info : BeaconInfo) (acquired : Bool) :
    ∃ aplist, s.processBeaconOrProbeResponse info acquired = { s with aplist } := by
  unfold processBeaconOrProbeResponse
  dsimp only
  generalize (if info.hasNintendoInfo then _ else _ : Bool) = keep
  cases keep with
  | true => exact ⟨_, rfl⟩
  | false => exact ⟨s.aplist, rfl⟩

/-- Only the frames of the authentication matter. -/
theorem retryStep_handles (s : Ntr) {frame : ReceivedFrame}
    (hframe : (receive frame).isAssocResponse = false) :
    Handles s (.receive frame) (s.retryStep (.receive frame)) := by
  cases frame with
  | beacon info acquired =>
    obtain ⟨aplist, heq⟩ := processBeaconOrProbeResponse_changes s info acquired
    rw [retryStep, processReceivedFrame, heq]
    exact .of_eq rfl rfl id id id
  | authentication frame => exact handles_authentication s frame
  | deauthentication frame => exact handles_deauthentication s frame
  | assocResponse frame => cases hframe

/-- When the update gives up. -/
theorem associationUpdate_error_iff (h : s.authctr < 255) :
    s.associationUpdate.authctr = s.authctr + 1 ∧
      (s.associationUpdate.authlevel = .error ↔
        wifiMaxAssocRetry ≤ s.authctr ∨ s.authlevel = .error) := by
  have hctr : (s.authctr + 1) % 2 ^ 8 = s.authctr + 1 := by omega
  unfold associationUpdate
  dsimp only
  rw [hctr]
  split_ifs with hlimit
  · exact ⟨rfl, iff_of_true rfl (.inl (Nat.lt_succ_iff.mp hlimit))⟩
  · have hlimit' : ¬ wifiMaxAssocRetry ≤ s.authctr := fun hle => hlimit (Nat.lt_succ_of_le hle)
    cases s.authlevel <;> simp [hlimit']

end

/-! ## The attempt -/

/-- An access point only authenticates the console before the first call. -/
def AcceptsAtStart (start : Ntr) (es : List RetryEvent) : Prop :=
  Recorded retryStep (fun pre s e => s.Accepts e → calls pre = 0) start es

/-- An access point has turned the console away, and nobody has made it start again since. -/
def TurnedAway (start : Ntr) (es : List RetryEvent) : Prop :=
  Since retryStep Rejects Restarts start es

/-- What the state says about the calls and frames since the start. -/
structure Counted (start : Ntr) (es : List RetryEvent) (s : Ntr) : Prop where
  authctr_le : s.authctr ≤ calls es
  authctr_eq_iff : s.authctr = calls es ↔ start.AcceptsAtStart es
  error_iff : s.authlevel = .error ↔ start.TurnedAway es

section

variable {start : Ntr} {es : List RetryEvent} {e : RetryEvent}

theorem acceptsAtStart_append_singleton :
    start.AcceptsAtStart (es ++ [e]) ↔ start.AcceptsAtStart es ∧
      ((run retryStep start es).Accepts e → calls es = 0) :=
  recorded_append_singleton

theorem turnedAway_append_singleton :
    start.TurnedAway (es ++ [e]) ↔ (run retryStep start es).Rejects e ∨
      start.TurnedAway es ∧ ¬ (run retryStep start es).Restarts e :=
  since_append_singleton

theorem Counted.associationStart (s : Ntr) : Counted s.associationStart [] s.associationStart where
  authctr_le := Nat.le_refl 0
  authctr_eq_iff := iff_of_true rfl recorded_nil
  error_iff := iff_of_false nofun since_nil

/-- A call before the limit is reached. -/
theorem Counted.associationUpdate (h : Counted start es (run retryStep start es))
    (hcalls : calls es < wifiMaxAssocRetry) :
    Counted start (es ++ [.associationUpdate]) (run retryStep start es).associationUpdate := by
  have hle := h.authctr_le
  have hlimit : ¬ wifiMaxAssocRetry ≤ (run retryStep start es).authctr := by omega
  have hcalls' : calls (es ++ [.associationUpdate]) = calls es + 1 := calls_append es _
  have hbyte : (run retryStep start es).authctr < 255 :=
    hle.trans_lt (hcalls.trans (by decide))
  obtain ⟨hctr, herror⟩ := associationUpdate_error_iff hbyte
  refine ⟨?_, ?_, ?_⟩
  · rw [hctr, hcalls']
    exact Nat.succ_le_succ hle
  · rw [hctr, hcalls', Nat.add_right_cancel_iff, h.authctr_eq_iff,
      acceptsAtStart_append_singleton]
    exact (and_iff_left False.elim).symm
  · rw [herror, turnedAway_append_singleton, h.error_iff]
    simp [hlimit, Rejects, Restarts]

/-- A frame other than an association response. -/
theorem Counted.receive {frame : ReceivedFrame} (h : Counted start es (run retryStep start es))
    (hframe : (receive frame).isAssocResponse = false) :
    Counted start (es ++ [.receive frame])
      ((run retryStep start es).retryStep (.receive frame)) := by
  have hle := h.authctr_le
  have hstep := retryStep_handles (run retryStep start es) hframe
  have hcalls : calls (es ++ [.receive frame]) = calls es := by simp
  refine ⟨?_, ?_, ?_⟩
  · rw [hcalls]
    by_cases haccepts : (run retryStep start es).Accepts (.receive frame)
    · rw [hstep.accepted haccepts]
      exact Nat.zero_le _
    · rw [hstep.kept haccepts]
      exact hle
  · rw [hcalls, acceptsAtStart_append_singleton, ← h.authctr_eq_iff]
    by_cases haccepts : (run retryStep start es).Accepts (.receive frame)
    · -- The counter is zero, so it is right only if there has been no call.
      rw [hstep.accepted haccepts]
      constructor
      · intro hzero
        exact ⟨by omega, fun _ => hzero.symm⟩
      · rintro ⟨-, hzero⟩
        exact (hzero haccepts).symm
    · rw [hstep.kept haccepts]
      exact (and_iff_left fun h => absurd h haccepts).symm
  · rw [hstep.error_iff, turnedAway_append_singleton, h.error_iff]

/-- The calls and frames before the limit is reached. -/
theorem Counted.step (h : Counted start es (run retryStep start es))
    (he : e.isAssocResponse = false) (hcalls : calls (es ++ [e]) ≤ wifiMaxAssocRetry) :
    Counted start (es ++ [e]) (run retryStep start (es ++ [e])) := by
  rw [run_append_singleton]
  cases e with
  | associationUpdate =>
    rw [calls_append, calls_update] at hcalls
    exact h.associationUpdate hcalls
  | receive frame => exact h.receive he

/-- What the first five calls, and the frames until the sixth one, lead to. -/
theorem run_counted (s : Ntr) {es : List RetryEvent}
    (hes : ∀ e ∈ es, e.isAssocResponse = false) (hcalls : calls es ≤ wifiMaxAssocRetry) :
    Counted s.associationStart es (run retryStep s.associationStart es) := by
  induction es using List.reverseRecOn with
  | nil => exact .associationStart s
  | append_singleton es e ih =>
    have hbefore : calls es ≤ wifiMaxAssocRetry := by
      rw [calls_append] at hcalls
      exact (Nat.le_add_right ..).trans hcalls
    refine (ih (fun e' he' => hes e' ?_) hbefore).step (hes e ?_) hcalls
    · exact List.mem_append_left _ he'
    · exact List.mem_append_right _ (List.mem_singleton_self e)

end

section

variable (s : Ntr) {es : List RetryEvent}

/-- The sixth call gives up, or finds that the access point has turned the console away. -/
theorem sixthCall_error_iff (hes : ∀ e ∈ es, e.isAssocResponse = false)
    (hcalls : calls es = wifiMaxAssocRetry) :
    (run retryStep s.associationStart (es ++ [.associationUpdate])).authlevel = .error ↔
      s.associationStart.AcceptsAtStart es ∨ s.associationStart.TurnedAway es := by
  have h := run_counted s hes hcalls.le
  have hle := h.authctr_le
  rw [hcalls] at hle
  rw [run_append_singleton, retryStep, (associationUpdate_error_iff (hle.trans_lt (by decide))).2,
    ← h.authctr_eq_iff, hcalls, h.error_iff]
  exact or_congr_left ⟨hle.antisymm, Eq.ge⟩

/-- Before the sixth call only a frame can end the attempt. -/
theorem error_reached_iff (hes : ∀ e ∈ es, e.isAssocResponse = false)
    (hcalls : calls es = wifiMaxAssocRetry) :
    (∃ pre, pre <+: es ++ [.associationUpdate] ∧
        (run retryStep s.associationStart pre).authlevel = .error) ↔
      s.associationStart.AcceptsAtStart es ∨
        ∃ pre e, pre ++ [e] <+: es ∧ (run retryStep s.associationStart pre).Rejects e := by
  have hbefore {pre : List RetryEvent} (hpre : pre <+: es) :
      Counted s.associationStart pre (run retryStep s.associationStart pre) := by
    refine run_counted s (fun e he => hes e (hpre.subset he)) ?_
    exact (hpre.sublist.countP_le).trans hcalls.le
  have hrejects {pre : List RetryEvent} (hpre : pre <+: es)
      (haway : s.associationStart.TurnedAway pre) :
      ∃ pre e, pre ++ [e] <+: es ∧ (run retryStep s.associationStart pre).Rejects e := by
    obtain ⟨pre', e, post, rfl, h, -⟩ := haway
    refine ⟨pre', e, List.IsPrefix.trans ⟨post, ?_⟩ hpre, h⟩
    rw [List.append_assoc, List.singleton_append]
  constructor
  · rintro ⟨pre, hpre, herror⟩
    rcases List.prefix_concat_iff.mp hpre with rfl | hpre
    · rw [sixthCall_error_iff s hes hcalls] at herror
      exact herror.imp_right (hrejects (List.prefix_refl es))
    · exact .inr (hrejects hpre ((hbefore hpre).error_iff.mp herror))
  · rintro (hstart | ⟨pre, e, hpre, h⟩)
    · exact ⟨_, List.prefix_refl _, (sixthCall_error_iff s hes hcalls).mpr (.inl hstart)⟩
    · refine ⟨pre ++ [e], hpre.trans (List.prefix_append _ _), (hbefore hpre).error_iff.mpr ?_⟩
      exact turnedAway_append_singleton.mpr (.inl h)

end

/-- **The sixth call ends the attempt exactly if no authentication has succeeded since the first
one**, or if the access point has turned the console away. -/
theorem retry_limit_iff (s : Ntr) {es : List RetryEvent}
    (hes : ∀ e ∈ es, e.isAssocResponse = false) (hcalls : calls es = wifiMaxAssocRetry) :
    ((run retryStep s.associationStart (es ++ [.associationUpdate])).authlevel = .error ↔
      s.associationStart.AcceptsAtStart es ∨ s.associationStart.TurnedAway es) ∧
    ((∃ pre, pre <+: es ++ [.associationUpdate] ∧
        (run retryStep s.associationStart pre).authlevel = .error) ↔
      s.associationStart.AcceptsAtStart es ∨
        ∃ pre e, pre ++ [e] <+: es ∧ (run retryStep s.associationStart pre).Rejects e) :=
  ⟨sixthCall_error_iff s hes hcalls, error_reached_iff s hes hcalls⟩

/-- A connecting console. -/
def retryingNtr : Ntr := { Ntr.init exampleMain with curMode := .connecting }

theorem retry_limit_iff_silent :
    (run retryStep retryingNtr.associationStart
      (List.replicate 5 .associationUpdate ++ [.associationUpdate])).authlevel = .error := by
  refine (retry_limit_iff retryingNtr (by decide) rfl).1.mpr (.inl ?_)
  intro pre e post hes haccepts
  have he : e ∈ List.replicate 5 RetryEvent.associationUpdate := by
    rw [hes]
    exact List.mem_append_right _ (List.mem_cons_self ..)
  rw [List.eq_of_mem_replicate he] at haccepts
  exact haccepts.elim

/-- **An access point that authenticates the console after each call keeps it trying.** -/
theorem authenticated_retries {s : Ntr} {frame : AuthenticationFrame}
    (hears : s.HearsAuthentication frame) (hsucceeds : frame.Succeeds)
    (hlevel : s.authlevel = .disconnected) (n : Nat) :
    (run retryStep s (List.replicate n
      [.receive (.authentication frame), .associationUpdate]).flatten).authlevel =
        .disconnected := by
  induction n generalizing s with
  | zero => exact hlevel
  | succ n ih =>
    have hround : run retryStep s [.receive (.authentication frame), .associationUpdate] =
        { s with authlevel := .disconnected, authctr := 1, realRates := true } := by
      obtain ⟨hmode, hda, hbssid⟩ := hears
      have hfirst : s.retryStep (.receive (.authentication frame)) =
          { s with authlevel := .authenticated, authctr := 0 } := by
        rw [retryStep, processReceivedFrame, if_neg hmode,
          processAuthentication_of_hears hda hbssid, if_pos ⟨hsucceeds, hlevel⟩]
      change (s.retryStep (.receive (.authentication frame))).retryStep .associationUpdate = _
      rw [hfirst]
      rfl
    rw [List.replicate_succ, List.flatten_cons, run_append, hround]
    exact ih hears rfl

/-- The answer of the access point to the request to authenticate. -/
def authenticated : RetryEvent :=
  .receive (.authentication {
    da := exampleMac, bssid := retryingNtr.curAp.bssid, authAlgorithm := 0, seqNumber := 2,
    statusCode := 0 })

/-- After six calls the console is still trying. -/
theorem authenticated_never_error : ¬ ∀ (s : Ntr) (es : List RetryEvent),
    (∀ e ∈ es, e.isAssocResponse = false) → calls es = wifiMaxAssocRetry →
    ∃ pre, pre <+: es ++ [.associationUpdate] ∧
      (run retryStep s.associationStart pre).authlevel = .error := by
  intro h
  obtain ⟨pre, hpre, herror⟩ := h retryingNtr
    (List.replicate 5 [authenticated, .associationUpdate]).flatten (by decide) rfl
  have hnever : ∀ pre ∈ ((List.replicate 5 [authenticated, .associationUpdate]).flatten ++
      [RetryEvent.associationUpdate]).inits,
      (run retryStep retryingNtr.associationStart pre).authlevel ≠ .error := by
    decide +kernel
  exact hnever pre ((List.mem_inits _ _).mpr hpre) herror

end Ntr

end Wifi
