import DsWifi.Infra.TaggedRing
import Mathlib.Order.CompletePartialOrder
import Mathlib.Order.Interval.Set.Disjoint

/-!
# Allocation in a ring of unsplit frames

A frame is stored in one piece, so a writer that doesn't find enough space at the end of the ring
tries the start, in front of the reader. The writer never catches up with the reader: equal indices
mean an empty ring.

* `alloc_of_empty` — an empty ring has room for everything that is smaller than half of it
* `Apart.of_alloc` — what is allocated is in the ring, and apart from what the reader still needs
* `View.waitsInUse` — the frames that the reader finds are part of that
-/

namespace Infra.TaggedRing

/-! ## Allocation -/

/-- Where `t` bytes go, and whether a wrap marker sends the reader there. -/
def alloc (cap r w t : Nat) : Option (Bool × Nat) :=
  if r ≤ w then
    if cap ≤ w + t then if r ≤ t then none else some (true, 0)
    else some (false, w)
  else if r ≤ w + t then none
  else some (false, w)

/-- The addresses that the reader has not left behind yet, up to the write index. -/
def used (r w : Nat) : Set Nat := {x | if r ≤ w then r ≤ x ∧ x < w else r ≤ x ∨ x < w}

/-- `t` bytes at `i` are in the ring, and apart from what is used. The reader stands at their start
if the ring is empty, and is not among them otherwise. -/
structure Apart (cap r w i t : Nat) : Prop where
  inside : i + t ≤ cap
  used : Disjoint (Set.Ico i (i + t)) (used r w)
  reader : r ∈ Set.Ico i (i + t) → i = r ∧ r = w

variable {cap r w t i : Nat} {wrap : Bool}

/-- **An empty ring has room for everything that is smaller than half of it**, wherever its indices
are. -/
theorem alloc_of_empty (ht : 2 * t < cap) : (alloc cap r r t).isSome = true := by
  unfold alloc
  rw [if_pos (Nat.le_refl r)]
  by_cases hend : cap ≤ r + t
  · have hstart : ¬ r ≤ t := by omega
    rw [if_pos hend, if_neg hstart]
    rfl
  · rw [if_neg hend]
    rfl

/-- The three places of an allocation: behind the write index, at the start of the ring, and between
the write index and the reader. -/
theorem alloc_cases (h : alloc cap r w t = some (wrap, i)) :
    r ≤ w ∧ i = w ∧ w + t < cap ∨ r ≤ w ∧ i = 0 ∧ t < r ∨ w < r ∧ i = w ∧ w + t < r := by
  unfold alloc at h
  split_ifs at h with hle hend hstart hroom
  · cases h
    exact .inr (.inl ⟨hle, rfl, Nat.lt_of_not_le hstart⟩)
  · cases h
    exact .inl ⟨hle, rfl, Nat.lt_of_not_le hend⟩
  · cases h
    exact .inr (.inr ⟨Nat.lt_of_not_le hle, rfl, Nat.lt_of_not_le hroom⟩)

/-- **What is allocated is apart from what the reader still needs.** -/
theorem Apart.of_alloc (hr : r ≤ cap) (hw : w ≤ cap) (h : alloc cap r w t = some (wrap, i)) :
    Apart cap r w i t := by
  have hcases := alloc_cases h
  refine ⟨by omega, Set.disjoint_left.mpr fun x hx hused => ?_, fun hx => ?_⟩
  · obtain ⟨hfrom, hto⟩ := hx
    simp only [TaggedRing.used, Set.mem_ofPred_eq] at hused
    split at hused <;> omega
  · obtain ⟨hfrom, hto⟩ := hx
    omega

/-! ## The frames that wait -/

/-- Every frame that a reader at `r` finds is in the space that is used. -/
def WaitsInUse (g : Geometry) (m : Mem) (r w : Nat) : Prop :=
  ∃ e fs is, View g m r e fs ∧ List.Forall₂
    (fun i (f : Frame g) => Stored m i f ∧ Set.Ico i (f.next i) ⊆ used r w) is fs

variable {g : Geometry} {m : Mem} {e : Nat} {fs : List (Frame g)}

/-- Where the frames of a chain are. -/
theorem Chain.slots {j k : Nat} (h : Chain m j fs k) : ∃ is, List.Forall₂
    (fun i (f : Frame g) => Stored m i f ∧ j ≤ i ∧ f.next i ≤ k) is fs := by
  induction fs generalizing j with
  | nil => exact ⟨[], .nil⟩
  | cons f fs ih =>
    obtain ⟨hf, hfs⟩ := h
    obtain ⟨is, his⟩ := ih hfs
    have hlt := f.lt_next j
    refine ⟨j :: is, .cons ⟨hf, Nat.le_refl j, hfs.le⟩ (his.imp ?_)⟩
    rintro i f' ⟨hstored, hle, hnext⟩
    exact ⟨hstored, by omega, hnext⟩

/-- The frames of a view are in front of its end. -/
theorem View.slots (h : View g m r e fs) : ∃ is, List.Forall₂
    (fun i (f : Frame g) => Stored m i f ∧ Set.Ico i (f.next i) ⊆ used r e) is fs := by
  cases h with
  | linear hc _ _ =>
    have hle := hc.le
    obtain ⟨is, his⟩ := hc.slots
    refine ⟨is, his.imp ?_⟩
    rintro i f ⟨hstored, hi, hnext⟩
    refine ⟨hstored, fun x hx => ?_⟩
    simp only [used, if_pos hle, Set.mem_ofPred_eq]
    exact ⟨hi.trans hx.1, hx.2.trans_le hnext⟩
  | wrapped hc _ _ hd _ he =>
    have hnle : ¬ r ≤ e := by omega
    obtain ⟨is, his⟩ := hc.slots
    obtain ⟨js, hjs⟩ := hd.slots
    refine ⟨is ++ js, List.rel_append (his.imp ?_) (hjs.imp ?_)⟩
    · rintro i f ⟨hstored, hi, -⟩
      refine ⟨hstored, fun x hx => ?_⟩
      simp only [used, if_neg hnle, Set.mem_ofPred_eq]
      exact .inl (hi.trans hx.1)
    · rintro i f ⟨hstored, -, hnext⟩
      refine ⟨hstored, fun x hx => ?_⟩
      simp only [used, if_neg hnle, Set.mem_ofPred_eq]
      exact .inr (hx.2.trans_le hnext)

theorem used_subset_of_ahead (h : e = w ∨ View.Ahead r e w) : used r e ⊆ used r w := by
  intro x hx
  unfold View.Ahead at h
  simp only [used, Set.mem_ofPred_eq] at hx ⊢
  split at hx <;> split <;> omega

/-- **The frames that the reader finds are in the space that is used**, if it stops in front of the
write index. -/
theorem View.waitsInUse (h : View g m r e fs) (hahead : e = w ∨ View.Ahead r e w) :
    WaitsInUse g m r w := by
  obtain ⟨is, his⟩ := h.slots
  refine ⟨e, fs, is, h, his.imp ?_⟩
  rintro i f ⟨hstored, hsub⟩
  exact ⟨hstored, hsub.trans (used_subset_of_ahead hahead)⟩

end Infra.TaggedRing
