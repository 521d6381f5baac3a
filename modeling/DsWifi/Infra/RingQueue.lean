import Mathlib.Tactic.Common

/-!
# Queues in rings

A queue in an array of `size` places, with an index where the next element goes in and one where the
next comes out. Both start again at the end of the array. One place is left free, so that a full
queue and an empty one have different indices.

* `Holds.push`, `Holds.pop` — elements go in at one end and come out at the other
* `Holds.next_eq_iff`, `Holds.eq_iff` — what the indices of a full and of an empty queue look like
-/

namespace Infra

namespace RingQueue

variable {α : Type} {size : Nat}

/-- The index after `p`. -/
def next (size p : Nat) : Nat := if p + 1 = size then 0 else p + 1

/-- The index `k` places behind `p`. -/
def place (size p k : Nat) : Nat := if p + k < size then p + k else p + k - size

/-- The array holds these elements, the first to come out in front. -/
structure Holds (size : Nat) (array : Nat → α) (inPtr outPtr : Nat) (xs : List α) : Prop where
  outPtr_lt : outPtr < size
  length_lt : xs.length < size
  inPtr_eq : inPtr = place size outPtr xs.length
  elements : ∀ k < xs.length, xs[k]? = some (array (place size outPtr k))

/-! ## Indices -/

theorem place_lt {p k : Nat} (hp : p < size) (hk : k < size) : place size p k < size := by
  unfold place
  split <;> omega

@[simp] theorem place_zero {p : Nat} (hp : p < size) : place size p 0 = p := if_pos hp

theorem place_inj {p j k : Nat} (hj : j < size) (hk : k < size) :
    place size p j = place size p k ↔ j = k := by
  unfold place
  split <;> split <;> omega

theorem next_lt {p : Nat} (hp : p < size) : next size p < size := by
  unfold next
  split <;> omega

theorem next_place {p k : Nat} (hp : p < size) (hk : k + 1 < size) :
    next size (place size p k) = place size p (k + 1) := by
  unfold next place
  split <;> split <;> split <;> omega

theorem place_next {p k : Nat} (hk : k + 1 < size) :
    place size (next size p) k = place size p (k + 1) := by
  unfold next place
  split <;> split <;> split <;> omega

/-- The place that is left free. -/
theorem next_place_eq_iff {p k : Nat} (hp : p < size) (hk : k < size) :
    next size (place size p k) = p ↔ k = size - 1 := by
  unfold next place
  split <;> split <;> omega

/-! ## Queues -/

namespace Holds

variable {array array' : Nat → α} {inPtr outPtr : Nat} {x : α} {xs : List α}

theorem nil (array : Nat → α) (hsize : 0 < size) : Holds size array 0 0 [] :=
  ⟨hsize, hsize, (place_zero hsize).symm, nofun⟩

theorem inPtr_lt (h : Holds size array inPtr outPtr xs) : inPtr < size := by
  rw [h.inPtr_eq]
  exact place_lt h.outPtr_lt h.length_lt

/-- **A full queue.** -/
theorem next_eq_iff (h : Holds size array inPtr outPtr xs) :
    next size inPtr = outPtr ↔ xs.length = size - 1 := by
  rw [h.inPtr_eq]
  exact next_place_eq_iff h.outPtr_lt h.length_lt

/-- **An empty queue.** -/
theorem eq_iff (h : Holds size array inPtr outPtr xs) : inPtr = outPtr ↔ xs = [] := by
  have hsize : 0 < size := Nat.zero_lt_of_lt h.outPtr_lt
  have hzero := place_inj (p := outPtr) h.length_lt hsize
  rw [place_zero h.outPtr_lt] at hzero
  rw [h.inPtr_eq, hzero]
  exact List.length_eq_zero_iff

/-- Only the places in use matter. -/
theorem congr (h : Holds size array inPtr outPtr xs)
    (hsame : ∀ k < xs.length, array' (place size outPtr k) = array (place size outPtr k)) :
    Holds size array' inPtr outPtr xs := by
  refine ⟨h.outPtr_lt, h.length_lt, h.inPtr_eq, fun k hk => ?_⟩
  rw [hsame k hk]
  exact h.elements k hk

/-- **An element goes in.** -/
theorem push (h : Holds size array inPtr outPtr xs) (hroom : next size inPtr ≠ outPtr)
    (hold : ∀ p, p ≠ inPtr → array' p = array p) (hnew : array' inPtr = x) :
    Holds size array' (next size inPtr) outPtr (xs ++ [x]) := by
  have hlt : xs.length + 1 < size := by
    have hfull := h.next_eq_iff.not.mp hroom
    have := h.length_lt
    omega
  have hlength : (xs ++ [x]).length = xs.length + 1 := List.length_append
  refine ⟨h.outPtr_lt, hlength ▸ hlt, ?_, fun k hk => ?_⟩
  · rw [h.inPtr_eq, hlength]
    exact next_place h.outPtr_lt hlt
  · rw [hlength] at hk
    by_cases hlast : k = xs.length
    · rw [hlast, ← h.inPtr_eq, hnew, List.getElem?_append_right (Nat.le_refl _), Nat.sub_self]
      rfl
    · have hne : place size outPtr k ≠ inPtr := by
        rw [h.inPtr_eq]
        exact (place_inj (by omega) h.length_lt).not.mpr hlast
      rw [hold _ hne, List.getElem?_append_left (by omega)]
      exact h.elements k (by omega)

/-- **The first element comes out.** -/
theorem pop (h : Holds size array inPtr outPtr (x :: xs)) :
    array outPtr = x ∧ Holds size array inPtr (next size outPtr) xs := by
  have hlt : xs.length + 1 < size := h.length_lt
  have hfirst := h.elements 0 (Nat.succ_pos _)
  rw [place_zero h.outPtr_lt, List.getElem?_cons_zero] at hfirst
  refine ⟨(Option.some_inj.mp hfirst).symm, next_lt h.outPtr_lt, by omega, ?_, fun k hk => ?_⟩
  · rw [place_next hlt]
    exact h.inPtr_eq
  · rw [place_next (show k + 1 < size by omega)]
    exact h.elements (k + 1) (Nat.succ_lt_succ hk)

end Holds

end RingQueue

end Infra
