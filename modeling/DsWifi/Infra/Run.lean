import Mathlib.Data.List.Induction
import Mathlib.Tactic.Common

/-!
# Runs of an event-driven system

A system is a function `step` from a state and an event to the next state. A run is a list of
events. Statements about runs are brought back to one step.

* `run_inv`, `Along.inv` — an invariant at the end of a run
* `history_inv` — an invariant of the state and the events that have led to it
* `Along.of_last` — what no step can bring about holds after each of them
* `along_of_inv` — what an invariant says of every step
* `Along.of_inv` — an invariant turns one condition on the steps of a run into another
* `along_iff`, `along_iff_of_legal` — two conditions that agree under an invariant hold along the
  same runs
* `recorded_append_singleton`, `since_append_singleton`, `sinceRecorded_append_singleton` —
  conditions on the steps and what has happened before
* `recorded_iff` — two such conditions that agree under an invariant
* `along_iff_recorded` — the ones that take no notice of what has happened before
-/

namespace Infra

variable {σ ε : Type} {step : σ → ε → σ}

/-- The state after a list of events. -/
def run (step : σ → ε → σ) (s : σ) (es : List ε) : σ := es.foldl step s

theorem run_append (s : σ) (es es' : List ε) :
    run step s (es ++ es') = run step (run step s es) es' :=
  List.foldl_append

theorem run_append_singleton (s : σ) (es : List ε) (e : ε) :
    run step s (es ++ [e]) = step (run step s es) e :=
  run_append s es [e]

/-- `Q` holds of each event of the run and the state before it. -/
def Along (step : σ → ε → σ) (Q : σ → ε → Prop) : σ → List ε → Prop
  | _, [] => True
  | s, e :: es => Q s e ∧ Along step Q (step s e) es

@[simp] theorem along_cons {Q : σ → ε → Prop} {s : σ} {e : ε} {es : List ε} :
    Along step Q s (e :: es) ↔ Q s e ∧ Along step Q (step s e) es := Iff.rfl

instance {Q : σ → ε → Prop} [∀ s e, Decidable (Q s e)] :
    ∀ (s : σ) (es : List ε), Decidable (Along step Q s es)
  | _, [] => .isTrue trivial
  | s, e :: es =>
    haveI : Decidable (Along step Q (step s e) es) := instDecidableAlong (step s e) es
    inferInstanceAs (Decidable (Q s e ∧ Along step Q (step s e) es))

section

variable {P Q : σ → ε → Prop}

/-- What holds of the steps from the states of an invariant holds along the run. -/
theorem Along.of_inv (Inv : σ → Prop) (hinv : ∀ s e, Inv s → Q s e → Inv (step s e))
    (himp : ∀ s e, Inv s → Q s e → P s e) {s : σ} {es : List ε} (hs : Inv s)
    (h : Along step Q s es) : Along step P s es := by
  induction es generalizing s with
  | nil => trivial
  | cons e es ih => exact ⟨himp s e hs h.1, ih (hinv s e hs h.1) h.2⟩

/-- An invariant that the steps of a run keep holds at its end. -/
theorem Along.inv (Inv : σ → Prop) (hinv : ∀ s e, Inv s → Q s e → Inv (step s e)) {s : σ}
    {es : List ε} (hs : Inv s) (h : Along step Q s es) : Inv (run step s es) := by
  induction es generalizing s with
  | nil => exact hs
  | cons e es ih => exact ih (hinv s e hs h.1) h.2

/-- What holds of every step from the states of an invariant holds along every run. -/
theorem along_of_inv (Inv : σ → Prop) (hinv : ∀ s e, Inv s → Inv (step s e))
    (himp : ∀ s e, Inv s → P s e) {s : σ} (hs : Inv s) (es : List ε) : Along step P s es := by
  induction es generalizing s with
  | nil => trivial
  | cons e es ih => exact ⟨himp s e hs, ih (hinv s e hs)⟩

/-- A condition on the steps of a run, and one on its events. -/
theorem Along.and_forall {C : ε → Prop} {s : σ} {es : List ε} (h : Along step P s es)
    (hes : ∀ e ∈ es, C e) : Along step (fun s e => P s e ∧ C e) s es := by
  induction es generalizing s with
  | nil => trivial
  | cons e es ih =>
    rw [List.forall_mem_cons] at hes
    exact ⟨⟨h.1, hes.1⟩, ih h.2 hes.2⟩

/-- What holds after every step of a run holds at its end. -/
theorem Along.last {R : σ → Prop} {s : σ} {es : List ε}
    (h : Along step (fun s e => R (step s e)) s es) (hne : es ≠ []) : R (run step s es) := by
  induction es generalizing s with
  | nil => exact absurd rfl hne
  | cons e es ih =>
    cases es with
    | nil => exact h.1
    | cons e' es => exact ih h.2 (List.cons_ne_nil _ _)

/-- What a step cannot bring about was there before the run. -/
theorem run_back {R : σ → Prop} (hback : ∀ s e, R (step s e) → R s) {s : σ} {es : List ε}
    (h : R (run step s es)) : R s := by
  induction es generalizing s with
  | nil => exact h
  | cons e es ih => exact hback s e (ih h)

/-- What a step cannot bring about holds after every step if it holds at the end. -/
theorem Along.of_last {R : σ → Prop} (hback : ∀ s e, R (step s e) → R s) {s : σ} {es : List ε}
    (h : R (run step s es)) : Along step (fun s e => R (step s e)) s es := by
  induction es generalizing s with
  | nil => trivial
  | cons e es ih => exact ⟨run_back hback h, ih h⟩

/-- An invariant that the events of a run keep holds at the end. -/
theorem run_inv (Inv : σ → Prop) (C : ε → Prop)
    (hinv : ∀ s e, Inv s → C e → Inv (step s e)) {s : σ} {es : List ε}
    (hs : Inv s) (hes : ∀ e ∈ es, C e) : Inv (run step s es) := by
  induction es generalizing s with
  | nil => exact hs
  | cons e es ih =>
    exact ih (hinv s e hs (hes e (List.mem_cons_self ..)))
      fun e he => hes e (List.mem_cons_of_mem _ he)

/-- An invariant of the state and the history holds at the end. -/
theorem history_inv (Inv : List ε → σ → Prop)
    (hinv : ∀ es s e, Inv es s → Inv (es ++ [e]) (step s e)) {s : σ} (hs : Inv [] s)
    (es : List ε) : Inv es (run step s es) := by
  induction es using List.reverseRecOn with
  | nil => exact hs
  | append_singleton es e ih =>
    rw [run_append_singleton]
    exact hinv es _ e ih

/-- Two conditions that agree under an invariant hold along the same runs. -/
theorem along_iff (Inv : σ → Prop) (hinv : ∀ s e, Inv s → Q s e → Inv (step s e))
    (hiff : ∀ s e, Inv s → (P s e ↔ Q s e)) {s : σ} (es : List ε) (hs : Inv s) :
    Along step P s es ↔ Along step Q s es := by
  induction es generalizing s with
  | nil => exact Iff.rfl
  | cons e es ih =>
    rw [along_cons, along_cons, hiff s e hs]
    exact and_congr_right fun hq => ih (hinv s e hs hq)

/-- Two conditions that agree under an invariant, if the run is a legal one. -/
theorem along_iff_of_legal {L : σ → ε → Prop} (Inv : σ → Prop)
    (hinv : ∀ s e, Inv s → L s e → Q s e → Inv (step s e))
    (hiff : ∀ s e, Inv s → L s e → (P s e ↔ Q s e)) {s : σ} {es : List ε} (hs : Inv s)
    (hlegal : Along step L s es) : Along step P s es ↔ Along step Q s es := by
  induction es generalizing s with
  | nil => exact Iff.rfl
  | cons e es ih =>
    rw [along_cons, along_cons, hiff s e hs hlegal.1]
    exact and_congr_right fun hq => ih (hinv s e hs hlegal.1 hq) hlegal.2

theorem along_append {s : σ} (es es' : List ε) :
    Along step P s (es ++ es') ↔ Along step P s es ∧ Along step P (run step s es) es' := by
  induction es generalizing s with
  | nil => exact (iff_of_eq (true_and _)).symm
  | cons e es ih =>
    rw [List.cons_append, along_cons, along_cons, ih, and_assoc]
    rfl

theorem along_append_singleton {s : σ} {es : List ε} {e : ε} :
    Along step P s (es ++ [e]) ↔ Along step P s es ∧ P (run step s es) e := by
  rw [along_append]
  exact and_congr_right fun _ => and_iff_left trivial

end

/-! ## What has happened before -/

/-- `Q` holds of each event, what has happened before and the state then. -/
def Recorded (step : σ → ε → σ) (Q : List ε → σ → ε → Prop) (s : σ) (es : List ε) : Prop :=
  ∀ pre e post, es = pre ++ e :: post → Q pre (run step s pre) e

/-- An event has satisfied `P`, and since then none has satisfied `R`. -/
def Since (step : σ → ε → σ) (P R : σ → ε → Prop) (s : σ) (es : List ε) : Prop :=
  ∃ pre e post, es = pre ++ e :: post ∧ P (run step s pre) e ∧
    Along step (fun s e => ¬ R s e) (run step s (pre ++ [e])) post

/-- An event has satisfied `P` after what had happened before it, and since then none has satisfied
`R`. -/
def SinceRecorded (step : σ → ε → σ) (P : List ε → σ → ε → Prop) (R : σ → ε → Prop) (s : σ)
    (es : List ε) : Prop :=
  ∃ pre e post, es = pre ++ e :: post ∧ P pre (run step s pre) e ∧
    Along step (fun s e => ¬ R s e) (run step s (pre ++ [e])) post

/-- An event of a longer history is the new one or an old one. -/
theorem eq_append_cons_of_append_singleton {es pre post : List ε} {e e' : ε}
    (h : es ++ [e] = pre ++ e' :: post) :
    pre = es ∧ e' = e ∧ post = [] ∨ ∃ post', es = pre ++ e' :: post' ∧ post = post' ++ [e] := by
  rcases post.eq_nil_or_concat with rfl | ⟨post', e'', rfl⟩
  · obtain ⟨rfl, hsingle⟩ := List.append_inj' h rfl
    exact .inl ⟨rfl, (List.singleton_inj.mp hsingle).symm, rfl⟩
  · rw [List.concat_eq_append, ← List.cons_append, ← List.append_assoc] at h
    obtain ⟨rfl, hsingle⟩ := List.append_inj' h rfl
    obtain rfl : e = e'' := List.singleton_inj.mp hsingle
    exact .inr ⟨post', rfl, List.concat_eq_append⟩

theorem recorded_nil {Q : List ε → σ → ε → Prop} {s : σ} : Recorded step Q s [] := by
  intro pre e post h
  simp at h

theorem recorded_append_singleton {Q : List ε → σ → ε → Prop} {s : σ} {es : List ε} {e : ε} :
    Recorded step Q s (es ++ [e]) ↔ Recorded step Q s es ∧ Q es (run step s es) e := by
  constructor
  · intro h
    refine ⟨fun pre e' post hes => h pre e' (post ++ [e]) ?_, h es e [] rfl⟩
    rw [hes, List.append_assoc, List.cons_append]
  · rintro ⟨h, hlast⟩ pre e' post hes
    rcases eq_append_cons_of_append_singleton hes with ⟨rfl, rfl, -⟩ | ⟨post', hbefore, -⟩
    · exact hlast
    · exact h pre e' post' hbefore

/-- Two conditions that agree along all runs hold in the same histories. -/
theorem recorded_congr {P Q : List ε → σ → ε → Prop} {s : σ}
    (hat : ∀ pre e, P pre (run step s pre) e ↔ Q pre (run step s pre) e) (es : List ε) :
    Recorded step P s es ↔ Recorded step Q s es := by
  constructor
  · intro h pre e post hes
    exact (hat pre e).mp (h pre e post hes)
  · intro h pre e post hes
    exact (hat pre e).mpr (h pre e post hes)

/-- Two conditions that agree under an invariant hold in the same histories. -/
theorem recorded_iff {P Q : List ε → σ → ε → Prop} (Inv : List ε → σ → Prop)
    (hinv : ∀ es s e, Inv es s → Inv (es ++ [e]) (step s e))
    (hiff : ∀ es s e, Inv es s → (P es s e ↔ Q es s e)) {s : σ} (hs : Inv [] s) (es : List ε) :
    Recorded step P s es ↔ Recorded step Q s es :=
  recorded_congr (fun pre e => hiff pre _ e (history_inv Inv hinv hs pre)) es

/-- A condition that takes no notice of the history. -/
theorem along_iff_recorded {P : σ → ε → Prop} {s : σ} (es : List ε) :
    Along step P s es ↔ Recorded step (fun _ => P) s es := by
  induction es using List.reverseRecOn with
  | nil => exact iff_of_true trivial recorded_nil
  | append_singleton es e ih =>
    rw [along_append_singleton, recorded_append_singleton, ih]

theorem sinceRecorded_nil {P : List ε → σ → ε → Prop} {R : σ → ε → Prop} {s : σ} :
    ¬ SinceRecorded step P R s [] := by
  rintro ⟨pre, e, post, h, -⟩
  simp at h

theorem sinceRecorded_append_singleton {P : List ε → σ → ε → Prop} {R : σ → ε → Prop} {s : σ}
    {es : List ε} {e : ε} :
    SinceRecorded step P R s (es ++ [e]) ↔
      P es (run step s es) e ∨ SinceRecorded step P R s es ∧ ¬ R (run step s es) e := by
  constructor
  · rintro ⟨pre, e', post, hes, hp, halong⟩
    rcases eq_append_cons_of_append_singleton hes with ⟨rfl, rfl, -⟩ | ⟨post', rfl, rfl⟩
    · exact .inl hp
    · obtain ⟨hbefore, hlast⟩ := along_append_singleton.mp halong
      rw [← run_append, List.append_assoc] at hlast
      exact .inr ⟨⟨pre, e', post', rfl, hp, hbefore⟩, hlast⟩
  · rintro (hp | ⟨⟨pre, e', post, rfl, hp, halong⟩, hlast⟩)
    · exact ⟨es, e, [], rfl, hp, trivial⟩
    · refine ⟨pre, e', post ++ [e], by simp, hp, along_append_singleton.mpr ⟨halong, ?_⟩⟩
      rw [← run_append, List.append_assoc]
      exact hlast

theorem since_nil {P R : σ → ε → Prop} {s : σ} : ¬ Since step P R s [] :=
  sinceRecorded_nil (P := fun _ => P)

theorem since_append_singleton {P R : σ → ε → Prop} {s : σ} {es : List ε} {e : ε} :
    Since step P R s (es ++ [e]) ↔
      P (run step s es) e ∨ Since step P R s es ∧ ¬ R (run step s es) e :=
  sinceRecorded_append_singleton (P := fun _ => P)

end Infra
