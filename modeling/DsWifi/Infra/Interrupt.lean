import Mathlib.Data.Finset.Basic

/-!
# Interrupt lines

A device raises its sources, and the line is up while one of them is enabled. The CPU has a flag
that is set when the line goes up, not while it is up. A handler takes the flag back, looks at what
is raised, does what it has to for each source, and starts again until nothing is raised.

* `Line.Inv.step` — the invariant of a device and its handler
* `Line.Inv.pending_eq_empty` — the line is down when the handler is away and the flag is not set
* `Line.Inv.served` — a source that is acknowledged before it is handled is handled again if it is
  raised again
-/

namespace Infra.Interrupt

/-- What a handler does for a source. -/
inductive Action (ι : Type)
  | ack (i : ι)
  | call (i : ι)
  deriving DecidableEq

/-- Where the handler is. -/
inductive Position (ι : Type)
  | away
  /-- It takes the flag back next. -/
  | clear
  /-- It looks at the sources next. -/
  | look
  | serving (todo : List (Action ι))
  deriving DecidableEq

/-- A device, the flag of its line, and the handler. -/
structure Line (ι : Type) where
  raised : Finset ι
  enabled : Finset ι
  flag : Bool
  position : Position ι
  /-- The sources that have been raised since the handler was last called for them. -/
  unserved : Finset ι

inductive Event (ι : Type)
  | raise (i : ι)
  | enable (i : ι)
  | disable (i : ι)
  /-- The CPU starts the handler. -/
  | enter
  /-- The handler goes on. -/
  | turn

variable {ι : Type}

/-- After each acknowledgement of a source the handler is called for it. -/
def AcksFirst (i : ι) : List (Action ι) → Prop
  | [] => True
  | .ack j :: todo => (j = i → .call i ∈ todo) ∧ AcksFirst i todo
  | .call _ :: todo => AcksFirst i todo

theorem AcksFirst.append {i : ι} {xs ys : List (Action ι)} (h : AcksFirst i xs)
    (h' : AcksFirst i ys) : AcksFirst i (xs ++ ys) := by
  induction xs with
  | nil => exact h'
  | cons x xs ih =>
    cases x with
    | ack j => exact ⟨fun hj => List.mem_append_left ys (h.1 hj), ih h.2⟩
    | call j => exact ih h

theorem AcksFirst.flatMap {α : Type} {i : ι} {xs : List α} {f : α → List (Action ι)}
    (h : ∀ x ∈ xs, AcksFirst i (f x)) : AcksFirst i (xs.flatMap f) := by
  induction xs with
  | nil => trivial
  | cons x xs ih =>
    rw [List.forall_mem_cons] at h
    rw [List.flatMap_cons]
    exact h.1.append (ih h.2)

variable [DecidableEq ι]

instance (i : ι) : (todo : List (Action ι)) → Decidable (AcksFirst i todo)
  | [] => .isTrue trivial
  | .ack j :: todo =>
    haveI := instDecidableAcksFirst i todo
    inferInstanceAs (Decidable ((j = i → .call i ∈ todo) ∧ AcksFirst i todo))
  | .call _ :: todo => instDecidableAcksFirst i todo

namespace Line

/-- The sources that keep the line up. -/
def pending (l : Line ι) : Finset ι := l.raised ∩ l.enabled

/-- The sources change. The flag is set if the line goes up. -/
def drive (l : Line ι) (raised enabled : Finset ι) : Line ι :=
  { l with raised, enabled
           flag := l.flag || decide (l.pending = ∅ ∧ raised ∩ enabled ≠ ∅) }

/-- A step, if `body` is what the handler does for the sources that it has found. -/
def step (body : Finset ι → List (Action ι)) (l : Line ι) : Event ι → Line ι
  | .raise i =>
    { l.drive (insert i l.raised) l.enabled with unserved := insert i l.unserved }
  | .enable i => l.drive l.raised (insert i l.enabled)
  | .disable i => l.drive l.raised (l.enabled.erase i)
  | .enter =>
    match l.position with
    | .away => if l.flag then { l with position := .clear } else l
    | _ => l
  | .turn =>
    match l.position with
    | .away => l
    | .clear => { l with flag := false, position := .look }
    | .look =>
      { l with position := if l.pending = ∅ then .away else .serving (body l.pending) }
    | .serving [] => { l with position := .clear }
    | .serving (.ack i :: todo) =>
      { l.drive (l.raised.erase i) l.enabled with position := .serving todo }
    | .serving (.call i :: todo) =>
      { l with position := .serving todo, unserved := l.unserved.erase i }

/-- The flag is set, or nothing keeps the line up. -/
def Armed (l : Line ι) : Prop := l.flag = true ∨ l.pending = ∅

/-- The handler is going to be called for a source. -/
def WillCall (l : Line ι) (i : ι) : Prop := ∃ todo, l.position = .serving todo ∧ .call i ∈ todo

variable {body : Finset ι → List (Action ι)} {l : Line ι} {i : ι}

/-- **The flag doesn't miss that the line goes up.** -/
theorem Armed.drive (h : l.Armed) (raised enabled : Finset ι) :
    (l.drive raised enabled).Armed := by
  rcases h with hflag | hpending
  · exact .inl (by simp [Line.drive, hflag])
  · by_cases hup : raised ∩ enabled = ∅
    · exact .inr hup
    · exact .inl (by simp [Line.drive, hpending, hup])

/-- The invariant of a device and its handler. -/
structure Inv (body : Finset ι → List (Action ι)) (l : Line ι) : Prop where
  /-- While the handler is away, the flag brings it back. -/
  armed : l.position = .away → l.Armed
  unserved : ∀ i, (∀ found, AcksFirst i (body found)) → i ∈ l.unserved →
    i ∈ l.raised ∨ l.WillCall i
  acksFirst : ∀ i, (∀ found, AcksFirst i (body found)) → ∀ todo, l.position = .serving todo →
    AcksFirst i todo

/-- The sources change, but none goes. -/
theorem Inv.drive (h : l.Inv body) {raised : Finset ι} (hraised : l.raised ⊆ raised)
    (enabled : Finset ι) : (l.drive raised enabled).Inv body where
  armed hposition := (h.armed hposition).drive raised enabled
  unserved i hi hmem := by
    rcases h.unserved i hi hmem with hup | hcall
    · exact .inl (hraised hup)
    · exact .inr hcall
  acksFirst := h.acksFirst

theorem Inv.raise (h : l.Inv body) (i : ι) : (l.step body (.raise i)).Inv body := by
  obtain ⟨harmed, hunserved, hacks⟩ := h.drive (Finset.subset_insert i l.raised) l.enabled
  refine ⟨harmed, ?_, hacks⟩
  intro j hj hmem
  rcases Finset.mem_insert.mp hmem with rfl | hold
  · exact .inl (Finset.mem_insert_self _ _)
  · exact hunserved j hj hold

/-- **Every step keeps the invariant.** -/
theorem Inv.step (h : l.Inv body) (e : Event ι) : (l.step body e).Inv body := by
  cases e with
  | raise i => exact h.raise i
  | enable i => exact h.drive (Finset.Subset.refl _) _
  | disable i => exact h.drive (Finset.Subset.refl _) _
  | enter =>
    unfold Line.step
    dsimp only
    split
    · rename_i hposition
      split
      · refine ⟨nofun, ?_, nofun⟩
        intro i hi hmem
        rcases h.unserved i hi hmem with hup | ⟨todo, htodo, -⟩
        · exact .inl hup
        · rw [hposition] at htodo
          cases htodo
      · exact h
    · exact h
  | turn =>
    -- Outside of the list of things to do a source that hasn't been handled is still raised.
    have hraised (hnone : ∀ todo, l.position ≠ .serving todo) (i : ι)
        (hi : ∀ found, AcksFirst i (body found)) (hmem : i ∈ l.unserved) : i ∈ l.raised := by
      rcases h.unserved i hi hmem with hup | ⟨todo, htodo, -⟩
      · exact hup
      · exact absurd htodo (hnone todo)
    unfold Line.step
    dsimp only
    split
    · exact h
    · rename_i hposition
      refine ⟨nofun, fun i hi hmem => .inl (hraised ?_ i hi hmem), nofun⟩
      simp [hposition]
    · rename_i hposition
      refine ⟨?_, fun i hi hmem => .inl (hraised (by simp [hposition]) i hi hmem), ?_⟩
      · intro haway
        split at haway
        · exact .inr ‹_›
        · cases haway
      · intro i hi todo htodo
        dsimp only at htodo
        split at htodo
        · cases htodo
        · cases htodo
          exact hi _
    · rename_i hposition
      refine ⟨nofun, ?_, nofun⟩
      intro i hi hmem
      rcases h.unserved i hi hmem with hup | ⟨todo, htodo, hcall⟩
      · exact .inl hup
      · rw [hposition] at htodo
        cases htodo
        cases hcall
    · rename_i i todo hposition
      refine ⟨nofun, ?_, ?_⟩
      · intro j hj hmem
        have hnext := h.acksFirst j hj _ hposition
        by_cases hij : i = j
        · exact .inr ⟨todo, rfl, hnext.1 hij⟩
        · rcases h.unserved j hj hmem with hup | ⟨todo', htodo, hcall⟩
          · exact .inl (Finset.mem_erase.mpr ⟨Ne.symm hij, hup⟩)
          · rw [hposition] at htodo
            cases htodo
            exact .inr ⟨todo, rfl, by simpa using hcall⟩
      · intro j hj todo' htodo
        cases htodo
        exact (h.acksFirst j hj _ hposition).2
    · rename_i i todo hposition
      refine ⟨nofun, ?_, ?_⟩
      · intro j hj hmem
        obtain ⟨hji, hold⟩ := Finset.mem_erase.mp hmem
        rcases h.unserved j hj hold with hup | ⟨todo', htodo, hcall⟩
        · exact .inl hup
        · rw [hposition] at htodo
          cases htodo
          exact .inr ⟨todo, rfl, by simpa [hji] using hcall⟩
      · intro j hj todo' htodo
        cases htodo
        exact h.acksFirst j hj (.call i :: todo) hposition

@[simp] theorem enabled_turn (l : Line ι) : (l.step body .turn).enabled = l.enabled := by
  unfold Line.step
  dsimp only
  split <;> rfl

@[simp] theorem enabled_enter (l : Line ι) : (l.step body .enter).enabled = l.enabled := by
  unfold Line.step
  dsimp only
  split
  · split <;> rfl
  · rfl

@[simp] theorem unserved_enter (l : Line ι) :
    (l.step body .enter).unserved = l.unserved := by
  unfold Line.step
  dsimp only
  split
  · split <;> rfl
  · rfl

/-- Only a call for a source serves it. -/
theorem mem_unserved_turn (hmem : i ∈ l.unserved)
    (hcall : ∀ todo, l.position ≠ .serving (.call i :: todo)) :
    i ∈ (l.step body .turn).unserved := by
  unfold Line.step
  dsimp only
  split
  case h_6 j todo hposition =>
    refine Finset.mem_erase.mpr ⟨?_, hmem⟩
    rintro rfl
    exact hcall todo hposition
  all_goals exact hmem

/-- **No interrupt is lost.** -/
theorem Inv.pending_eq_empty (h : l.Inv body) (haway : l.position = .away)
    (hflag : l.flag = false) : l.pending = ∅ := by
  rcases h.armed haway with hset | hnone
  · rw [hflag] at hset
    cases hset
  · exact hnone

/-- **What has been raised has been handled**, if it is acknowledged first. -/
theorem Inv.served (h : l.Inv body) (haway : l.position = .away) (hflag : l.flag = false)
    (hi : ∀ found, AcksFirst i (body found)) (henabled : i ∈ l.enabled) : i ∉ l.unserved := by
  intro hmem
  rcases h.unserved i hi hmem with hup | ⟨todo, htodo, -⟩
  · have hpending : i ∈ l.pending := Finset.mem_inter.mpr ⟨hup, henabled⟩
    rw [h.pending_eq_empty haway hflag] at hpending
    exact absurd hpending (Finset.notMem_empty i)
  · rw [haway] at htodo
    cases htodo

end Line

end Infra.Interrupt
