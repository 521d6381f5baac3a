import DsWifi.Connect.History

/-!
# Lost connections

An application is to call `Wifi_AssocStatus` every now and then to see if the connection is lost.
The function reads `curMode` only until the connection is there: afterwards it answers from the
state that it has arrived at.

* `connectionLoss_reported_iff` — the runs that report lost connections, and the losses that are
  never reported, from the history of the calls
-/

namespace Wifi

open Infra

namespace Arm9

/-- Unless the ARM7 is connected, the call does not return `ASSOCSTATUS_ASSOCIATED`. -/
def ReportsLoss (s : Arm9) (env : LwipEnv) : Prop :=
  s.curMode ≠ .connected → (s.assocStatus env).2 ≠ .associated

instance (s : Arm9) (env : LwipEnv) : Decidable (s.ReportsLoss env) :=
  inferInstanceAs (Decidable (_ → _))

/-- Only a connected ARM7 lets the state `WIFI_CONNECT_ASSOCIATING` answer that it is associated. -/
theorem assocStatusAssociating_associated {s : Arm9} {env : LwipEnv}
    (h : (s.assocStatusAssociating env).2 = .associated) : s.curMode = .connected := by
  unfold assocStatusAssociating at h
  cases hmode : s.curMode with
  | connected => rfl
  | _ =>
    rw [hmode] at h
    cases h

theorem assocStatusSearching_answer (s : Arm9) : s.assocStatusSearching.2 = .searching := by
  unfold assocStatusSearching
  split <;> rfl

theorem assocStatusSearchingWfc_answer (s : Arm9) : s.assocStatusSearchingWfc.2 = .searching := by
  unfold assocStatusSearchingWfc
  split <;> rfl

/-- What `Wifi_AssocStatus` returns if the ARM7 is not connected. -/
theorem assocStatus_associated_iff {s : Arm9} (hmode : s.curMode ≠ .connected) (env : LwipEnv) :
    (s.assocStatus env).2 = .associated ↔
      s.connectState = .done ∨ s.connectState = .dhcping ∧ s.HasAddress env := by
  unfold assocStatus HasAddress
  cases hstate : s.connectState with
  | error => simp
  | searching => simp [assocStatusSearching_answer]
  | searchingWfc => simp [assocStatusSearchingWfc_answer]
  | associating =>
    exact iff_of_false (fun h => hmode (assocStatusAssociating_associated h)) (by simp)
  | dhcping => by_cases henabled : env.enabled <;> by_cases hready : env.ready <;> simp [*]
  | done => simp

theorem assocStatus_done {s : Arm9} (hstate : s.connectState = .done) (env : LwipEnv) :
    s.assocStatus env = (s, .associated) := by
  unfold assocStatus
  rw [hstate]

/-- The application sees no `ASSOCSTATUS_ASSOCIATED` unless the ARM7 is connected. -/
def StepReports (s : Arm9) : Option AppStep → Prop
  | some (.assocStatus env) => s.ReportsLoss env
  | some (.call _) | none => True

instance (s : Arm9) : ∀ app, Decidable (s.StepReports app)
  | some (.assocStatus env) => inferInstanceAs (Decidable (s.ReportsLoss env))
  | some (.call _) | none => .isTrue trivial

end Arm9

namespace Driver

variable {σ ε : Type} (d : Driver σ ε)

/-- The event does not hide from the application that the ARM7 is not connected. -/
def ReportsLoss (s : σ) (e : ε) : Prop := (d.arm9 s).StepReports (d.app e)

instance (s : σ) (e : ε) : Decidable (d.ReportsLoss s e) :=
  inferInstanceAs (Decidable (Arm9.StepReports _ _))

/-- `Wifi_AssocStatus` is not called while the ARM7 is not connected, once the connection has been
settled, nor when it has been waiting for the address that there is now. -/
def LooksInTime (s : σ) (es : List ε) (s' : σ) (e : ε) : Prop :=
  ∀ env, d.app e = some (.assocStatus env) → (d.arm9 s').curMode ≠ .connected →
    ¬ d.Settled s es ∧ ¬ (d.Acquiring s es ∧ (d.arm9 s').HasAddress env)

/-- Whatever happens before the next request, `Wifi_AssocStatus` answers that the console is
associated. -/
def Unreported (s : σ) : Prop :=
  ∀ es : List ε, Along d.step (fun s e => ¬ d.Request s e) s es →
    ∀ env, ((d.arm9 (run d.step s es)).assocStatus env).2 = .associated

variable {d} {s : σ}

theorem Follows.reportsLoss_iff {es : List ε} {s' : σ} (h : d.Follows s es s') (e : ε) :
    d.ReportsLoss s' e ↔ d.LooksInTime s es s' e := by
  unfold ReportsLoss LooksInTime
  cases happ : d.app e with
  | none => simp [Arm9.StepReports]
  | some app =>
    cases app with
    | call call => simp [Arm9.StepReports]
    | assocStatus env =>
      simp only [Option.some.injEq, AppStep.assocStatus.injEq, forall_eq', Arm9.StepReports,
        Arm9.ReportsLoss]
      refine imp_congr_right fun hmode => ?_
      rw [← h.settled, ← h.acquiring, ← not_or]
      exact not_congr (Arm9.assocStatus_associated_iff hmode env)

theorem done_step (hstate : (d.arm9 s).connectState = .done) {e : ε} (he : ¬ d.Request s e) :
    (d.arm9 (d.step s e)).connectState = .done :=
  (d.step_next s e).settled.mpr (.inr ⟨hstate, he⟩)

/-- Whatever becomes of a connection that is done, it is not reported. -/
theorem unreported_of_done (hstate : (d.arm9 s).connectState = .done) : d.Unreported s := by
  intro es hes env
  have hdone := hes.inv (fun s => (d.arm9 s).connectState = .done)
    (fun _ _ hstate he => done_step hstate he) hstate
  rw [Arm9.assocStatus_done hdone]

/-- Without lwIP, the next call reports any other loss. -/
theorem unreported_iff (hmode : (d.arm9 s).curMode ≠ .connected) :
    d.Unreported s ↔ (d.arm9 s).connectState = .done := by
  refine ⟨fun h => ?_, unreported_of_done⟩
  -- The call that comes next is one of those that don't report it.
  have hanswer := (Arm9.assocStatus_associated_iff hmode withoutLwip).mp (h [] trivial withoutLwip)
  exact hanswer.resolve_right fun hdhcp => Bool.false_ne_true hdhcp.2.1

theorem reportsLoss_run_iff (hstate : (d.arm9 s).connectState = .searching) (es : List ε) :
    Along d.step d.ReportsLoss s es ↔ Recorded d.step (d.LooksInTime s) s es := by
  rw [along_iff_recorded]
  exact recorded_congr (fun pre e => (d.follows_run hstate pre).reportsLoss_iff e) es

theorem unreported_run_iff (hstate : (d.arm9 s).connectState = .searching) {es : List ε}
    (hmode : (d.arm9 (run d.step s es)).curMode ≠ .connected) :
    d.Unreported (run d.step s es) ↔ d.Settled s es :=
  (unreported_iff hmode).trans (d.follows_run hstate es).settled

end Driver

/-- **A loss is reported unless the connection has been settled.** The runs of either driver in
which no call hides a loss are the ones in which no call is made too late, and a loss stays
unreported until the next request if and only if the connection has been settled before. -/
theorem connectionLoss_reported_iff (main : MainStruct) :
    (∀ evs, (Along ntrStep ntrDriver.ReportsLoss (.init main) evs ↔
        Recorded ntrStep (ntrDriver.LooksInTime (.init main)) (.init main) evs) ∧
      ((run ntrStep (.init main) evs).curMode ≠ .connected →
        (ntrDriver.Unreported (run ntrStep (.init main) evs) ↔
          ntrDriver.Settled (.init main) evs))) ∧
    (∀ evs, (Along twlStep twlDriver.ReportsLoss (.init main) evs ↔
        Recorded twlStep (twlDriver.LooksInTime (.init main)) (.init main) evs) ∧
      ((run twlStep (.init main) evs).curMode ≠ .connected →
        (twlDriver.Unreported (run twlStep (.init main) evs) ↔
          twlDriver.Settled (.init main) evs))) := by
  constructor
  · intro evs
    exact ⟨ntrDriver.reportsLoss_run_iff rfl evs, ntrDriver.unreported_run_iff rfl⟩
  · intro evs
    exact ⟨twlDriver.reportsLoss_run_iff rfl evs, twlDriver.unreported_run_iff rfl⟩

/-! ## A lost connection -/

/-- The access point of `connectRun` turns the console away. -/
def lostRun : List NtrEvent :=
  connectRun ++
    [.receive (.deauthentication
      { complete := true
        da := exampleMac
        bssid := (exampleAp 1).bssid
        reasonCode := Ntr.reasonThisStationLeftDeauth }),
    .update 5, .assocStatus withoutLwip]

example : (run ntrStep (.init exampleMain) lostRun).curMode = .cannotConnect := by decide +kernel

theorem lostRun_unreported : ¬ ∀ main : MainStruct,
    (∀ evs, Along ntrStep ntrDriver.ReportsLoss (.init main) evs) ∧
    (∀ evs, Along twlStep twlDriver.ReportsLoss (.init main) evs) :=
  fun h => absurd ((h exampleMain).1 lostRun) (by decide +kernel)

end Wifi
