import Mathlib.Data.List.Nodup

/-!
# A transmitter with room for one frame

A transmitter starts the frame that it is given, or lets it wait if it is busy. There is room for
one frame that waits. The next one is lost, and whoever gave it to the transmitter does not notice.
The transmitter starts the waiting frame when it is given another one while it is idle.

* `Outbox.held_sends` — what is started or waits after a number of frames
* `Outbox.held_step` — every frame that is accepted is started once and in order, or waits
-/

namespace Infra

/-- A transmitter that has room for one frame. -/
structure Outbox (α : Type) where
  busy : Bool
  waiting : Option α
  /-- All frames that have been started. -/
  started : List α

/-- What can happen to a transmitter. -/
inductive OutboxEvent (α : Type)
  | add (a : α)
  | flush
  /-- A transfer ends, or one that isn't from here starts. -/
  | transfer (busy : Bool)

namespace Outbox

variable {α β : Type} (o : Outbox α)

/-- The transfer may have ended. -/
def complete (ended : Bool) : Outbox α := { o with busy := o.busy && !ended }

/-- Hand over a frame. -/
def add (a : α) : Outbox α :=
  if o.busy then { o with waiting := o.waiting.or (some a) }
  else
    match o.waiting with
    | none => { busy := true, waiting := none, started := o.started ++ [a] }
    | some w => { busy := true, waiting := some a, started := o.started ++ [w] }

/-- Hand over a number of frames. The transfer may end before each of them. -/
def sends (xs : List (Bool × α)) : Outbox α :=
  xs.foldl (fun o x => (o.complete x.1).add x.2) o

/-- What has been started or waits. -/
def held : List α := o.started ++ o.waiting.toList

/-- Start the waiting frame if the transmitter is idle. -/
def flush : Outbox α :=
  match o.busy, o.waiting with
  | false, some w => { busy := true, waiting := none, started := o.started ++ [w] }
  | _, _ => o

/-- The frames that find the transmitter busy. It is busy after the first one at the latest. -/
def late : Bool → List (Bool × α) → List α
  | _, [] => []
  | busy, x :: xs => if busy && !x.1 then x.2 :: late true xs else late true xs

/-- The frames that are lost: there is room for one that is late, if none has been waiting. -/
def lost (busy waits : Bool) (xs : List (Bool × α)) : List α :=
  if waits then late busy xs else (late busy xs).tail

variable {o}

@[simp] theorem held_complete (ended : Bool) : (o.complete ended).held = o.held := rfl

theorem busy_add (a : α) : (o.add a).busy = true := by
  unfold add
  split
  · assumption
  · split <;> rfl

/-- The frame is lost if the transmitter is busy and another frame waits. -/
theorem held_add (a : α) :
    (o.add a).held = if o.busy = true ∧ o.waiting.isSome = true then o.held else o.held ++ [a] := by
  unfold add held
  cases hb : o.busy with
  | false => cases o.waiting <;> simp
  | true => cases o.waiting <;> simp

theorem waiting_add (a : α) :
    (o.add a).waiting.isSome = (o.busy || o.waiting.isSome) := by
  unfold add
  cases hb : o.busy with
  | false => cases o.waiting <;> simp
  | true => cases o.waiting <;> simp

theorem late_map (f : α → β) (busy : Bool) (xs : List (Bool × α)) :
    late busy (xs.map fun x => (x.1, f x.2)) = (late busy xs).map f := by
  induction xs generalizing busy with
  | nil => rfl
  | cons x xs ih =>
    simp only [List.map_cons, late, ih]
    split <;> rfl

theorem lost_map (f : α → β) (busy waits : Bool) (xs : List (Bool × α)) :
    lost busy waits (xs.map fun x => (x.1, f x.2)) = (lost busy waits xs).map f := by
  unfold lost
  rw [late_map]
  split
  · rfl
  · exact List.map_tail.symm

theorem late_sublist (busy : Bool) (xs : List (Bool × α)) :
    (late busy xs).Sublist (xs.map Prod.snd) := by
  induction xs generalizing busy with
  | nil => exact .slnil
  | cons x xs ih =>
    rw [late, List.map_cons]
    split
    · exact (ih true).cons_cons x.2
    · exact (ih true).cons x.2

theorem mem_of_mem_lost {busy waits : Bool} {xs : List (Bool × α)} {a : α}
    (h : a ∈ lost busy waits xs) : a ∈ xs.map Prod.snd := by
  unfold lost at h
  split at h
  · exact (late_sublist busy xs).subset h
  · exact (late_sublist busy xs).subset (List.mem_of_mem_tail h)

theorem sends_append (xs ys : List (Bool × α)) : o.sends (xs ++ ys) = (o.sends xs).sends ys :=
  List.foldl_append

/-- **Every frame is either held or lost**, and what is held keeps its order. -/
theorem held_sends (xs : List (Bool × α)) :
    ∃ kept, (o.sends xs).held = o.held ++ kept ∧
      (kept ++ lost o.busy o.waiting.isSome xs).Perm (xs.map Prod.snd) := by
  induction xs generalizing o with
  | nil => exact ⟨[], by simp [sends], by simp [lost, late]⟩
  | cons x xs ih =>
    obtain ⟨kept, hheld, hperm⟩ := ih (o := (o.complete x.1).add x.2)
    have hsends : o.sends (x :: xs) = ((o.complete x.1).add x.2).sends xs := rfl
    have hbusy : (o.complete x.1).busy = (o.busy && !x.1) := rfl
    have hwaiting : (o.complete x.1).waiting = o.waiting := rfl
    simp only [lost, busy_add, waiting_add, hbusy, hwaiting] at hperm
    rw [hsends, hheld, held_add, hbusy, hwaiting, held_complete]
    simp only [lost, late, List.map_cons]
    by_cases hlate : (o.busy && !x.1) = true
    · rw [if_pos hlate]
      simp only [hlate, Bool.true_or, if_true, true_and] at hperm ⊢
      by_cases hw : o.waiting.isSome = true
      · -- There is no room.
        rw [if_pos hw, if_pos hw]
        exact ⟨kept, rfl, List.perm_middle.trans (hperm.cons x.2)⟩
      · rw [if_neg hw, if_neg hw]
        exact ⟨x.2 :: kept, by simp, hperm.cons x.2⟩
    · rw [if_neg hlate, if_neg fun h => hlate h.1]
      rw [Bool.not_eq_true] at hlate
      simp only [hlate, Bool.false_or] at hperm
      refine ⟨x.2 :: kept, by simp, ?_⟩
      exact hperm.cons x.2

/-- Which of a number of different frames are held. -/
theorem mem_held_sends {xs : List (Bool × α)} (hxs : (xs.map Prod.snd).Nodup) :
    ∃ kept, (o.sends xs).held = o.held ++ kept ∧
      ∀ a, a ∈ kept ↔ a ∈ xs.map Prod.snd ∧ a ∉ lost o.busy o.waiting.isSome xs := by
  obtain ⟨kept, hheld, hperm⟩ := held_sends (o := o) xs
  refine ⟨kept, hheld, fun a => ?_⟩
  have hdisj := List.disjoint_of_nodup_append (hperm.nodup_iff.mpr hxs)
  rw [← hperm.mem_iff, List.mem_append]
  constructor
  · intro ha
    exact ⟨.inl ha, hdisj ha⟩
  · rintro ⟨ha | ha, hlost⟩
    · exact ha
    · exact absurd ha hlost

/-! ## Any order of events -/

variable (o)

def step : OutboxEvent α → Outbox α
  | .add a => o.add a
  | .flush => o.flush
  | .transfer busy => { o with busy }

/-- A frame is refused if the transmitter is busy and another frame waits. -/
def accepts : Bool := !(o.busy && o.waiting.isSome)

/-- The frame that is accepted, if there is one. -/
def accepted : OutboxEvent α → List α
  | .add a => if o.accepts then [a] else []
  | _ => []

variable {o}

@[simp] theorem held_flush : o.flush.held = o.held := by
  obtain ⟨busy, waiting, started⟩ := o
  cases busy <;> cases waiting <;> simp [flush, held]

/-- **No frame is lost or doubled**, and they keep their order. -/
theorem held_step (e : OutboxEvent α) : (o.step e).held = o.held ++ o.accepted e := by
  cases e with
  | add a =>
    rw [step, held_add, accepted, accepts]
    cases o.busy <;> cases o.waiting.isSome <;> simp
  | flush => simp [step, accepted]
  | transfer busy => simp [step, accepted, held]

end Outbox

end Infra
