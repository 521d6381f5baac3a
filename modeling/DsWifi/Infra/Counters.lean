import Mathlib.Algebra.BigOperators.Group.List.Basic
import Mathlib.Tactic.Common

/-!
# Counters

Counters have names, and amounts are added to them one after the other. What has been added to one
of them is a sum, whatever has been added to the others before.

* `addAll_apply` — a counter afterwards
* `sumAt_flatMap` — the sum over a list whose elements add the same amount each
-/

namespace Infra

namespace Counters

variable {κ M α : Type} [DecidableEq κ] [AddMonoid M]

/-- Amounts are added to counters. -/
def addAll (counters : κ → M) (adds : List (κ × M)) : κ → M :=
  adds.foldl (fun counters a => Function.update counters a.1 (counters a.1 + a.2)) counters

/-- What is added to one of the counters. -/
def sumAt (c : κ) (adds : List (κ × M)) : M :=
  (adds.map fun a => if a.1 = c then a.2 else 0).sum

@[simp] theorem sumAt_nil (c : κ) : sumAt c ([] : List (κ × M)) = 0 := rfl

@[simp] theorem sumAt_cons (c : κ) (a : κ × M) (adds : List (κ × M)) :
    sumAt c (a :: adds) = (if a.1 = c then a.2 else 0) + sumAt c adds := List.sum_cons

theorem sumAt_append (c : κ) (adds adds' : List (κ × M)) :
    sumAt c (adds ++ adds') = sumAt c adds + sumAt c adds' := by
  rw [sumAt, List.map_append, List.sum_append]
  rfl

/-- **A counter after all of the amounts.** -/
theorem addAll_apply (counters : κ → M) (adds : List (κ × M)) (c : κ) :
    addAll counters adds c = counters c + sumAt c adds := by
  induction adds generalizing counters with
  | nil => exact (add_zero _).symm
  | cons a adds ih =>
    have hfirst : Function.update counters a.1 (counters a.1 + a.2) c =
        counters c + if a.1 = c then a.2 else 0 := by
      by_cases h : a.1 = c
      · rw [if_pos h, ← h, Function.update_self]
      · rw [if_neg h, Function.update_of_ne (Ne.symm h), add_zero]
    rw [sumAt_cons, ← add_assoc, ← hfirst]
    exact ih _

/-- Nothing is added to the counter. -/
theorem sumAt_eq_zero {c : κ} {adds : List (κ × M)} (h : ∀ a ∈ adds, a.1 ≠ c) :
    sumAt c adds = 0 := by
  induction adds with
  | nil => rfl
  | cons a adds ih =>
    rw [List.forall_mem_cons] at h
    rw [sumAt_cons, if_neg h.1, ih h.2, add_zero]

/-- **Each of the elements adds the same amount.** -/
theorem sumAt_flatMap {c : κ} {amount : M} {f : α → List (κ × M)}
    (h : ∀ x, sumAt c (f x) = amount) (xs : List α) :
    sumAt c (xs.flatMap f) = xs.length • amount := by
  induction xs with
  | nil => exact (zero_nsmul amount).symm
  | cons x xs ih => rw [List.flatMap_cons, sumAt_append, h, ih, List.length_cons, succ_nsmul']

end Counters

end Infra
