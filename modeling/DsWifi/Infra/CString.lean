import DsWifi.Infra.Memory
import Mathlib.Data.List.GetD

/-!
# Strings with a terminator

An array of bytes is taken for a string that ends before its first zero byte. How much is copied is
decided by the bytes of the array and not by the size of the destination.

* `apply_strcpy` — what a copy leaves in memory
-/

namespace Infra

open Mem

/-- The number of bytes before the terminator. -/
def strlen (array : List UInt8) : Nat := (array.takeWhile (· ≠ 0)).length

/-- The bytes that `strcpy` writes. -/
def strcpyBytes (array : List UInt8) : List UInt8 := array.takeWhile (· ≠ 0) ++ [0]

@[simp] theorem length_strcpyBytes (array : List UInt8) :
    (strcpyBytes array).length = strlen array + 1 := by
  rw [strcpyBytes, strlen, List.length_append, List.length_singleton]

theorem strlen_cons (b : UInt8) (array : List UInt8) :
    strlen (b :: array) = if b = 0 then 0 else strlen array + 1 := by
  by_cases hb : b = 0
  · simp [strlen, hb]
  · simp [strlen, hb]

theorem strcpyBytes_cons (b : UInt8) (array : List UInt8) :
    strcpyBytes (b :: array) = if b = 0 then [0] else b :: strcpyBytes array := by
  by_cases hb : b = 0
  · simp [strcpyBytes, hb]
  · simp [strcpyBytes, hb]

/-- What is behind a terminator is no part of the string. -/
theorem strcpyBytes_append_zero (xs ys : List UInt8) :
    strcpyBytes (xs ++ 0 :: ys) = strcpyBytes xs := by
  induction xs with
  | nil => rfl
  | cons b xs ih => rw [List.cons_append, strcpyBytes_cons, strcpyBytes_cons, ih]

/-- Before the terminator the array is copied, and it has no zero there. -/
theorem getD_of_lt_strlen {array : List UInt8} {k : Nat} (hk : k < strlen array) :
    (strcpyBytes array).getD k 0 = array.getD k 0 ∧ array.getD k 0 ≠ 0 := by
  induction array generalizing k with
  | nil => exact absurd hk (Nat.not_lt_zero k)
  | cons b array ih =>
    rw [strlen_cons] at hk
    rw [strcpyBytes_cons]
    by_cases hb : b = 0
    · rw [if_pos hb] at hk
      exact absurd hk (Nat.not_lt_zero k)
    · rw [if_neg hb] at hk
      rw [if_neg hb]
      cases k with
      | zero => exact ⟨rfl, hb⟩
      | succ k => exact ih (by omega)

/-- The terminator, which is also what the array has there, if it is not at its end. -/
theorem getD_strlen (array : List UInt8) :
    (strcpyBytes array).getD (strlen array) 0 = 0 ∧ array.getD (strlen array) 0 = 0 := by
  induction array with
  | nil => exact ⟨rfl, rfl⟩
  | cons b array ih =>
    rw [strlen_cons, strcpyBytes_cons]
    by_cases hb : b = 0
    · rw [if_pos hb, if_pos hb, hb]
      exact ⟨rfl, rfl⟩
    · rw [if_neg hb, if_neg hb]
      exact ih

theorem strlen_le {array : List UInt8} {k : Nat} (hzero : array.getD k 0 = 0) :
    strlen array ≤ k := by
  by_contra hlt
  exact (getD_of_lt_strlen (Nat.lt_of_not_le hlt)).2 hzero

/-- **What `strcpy` leaves in memory**: the string, its terminator, and what was behind it. -/
theorem apply_strcpy (m : Mem) (a : Nat) (array : List UInt8) (k : Nat) :
    m.storeBytes a (strcpyBytes array) (a + k) =
      if k < strlen array then array.getD k 0 else if k = strlen array then 0 else m (a + k) := by
  have hlen := length_strcpyBytes array
  have hstored {j : Nat} (hj : j < strlen array + 1) :
      m.storeBytes a (strcpyBytes array) (a + j) = (strcpyBytes array).getD j 0 := by
    rw [storeBytes_self (by omega), List.getD_eq_getElem]
  by_cases hk : k < strlen array
  · rw [if_pos hk, hstored (by omega), (getD_of_lt_strlen hk).1]
  · rw [if_neg hk]
    by_cases hend : k = strlen array
    · subst hend
      rw [if_pos rfl, hstored (by omega), (getD_strlen array).1]
    · rw [if_neg hend, storeBytes_of_le (by omega)]

end Infra
