import Mathlib.Data.BitVec
import Mathlib.Data.Fintype.EquivFin

/-!
# Xorshift generators

A word is added to itself, shifted by some places to the left or to the right, several times. Each
of these steps is linear, and a word that it takes to zero has been zero.

* `next_eq_zero_iff` — only zero is followed by zero
* `next_bijective` — every word follows exactly one word
-/

namespace Infra

namespace Xorshift

variable {w : Nat}

/-- One step: `x ^= x << k` or `x ^= x >> k`. -/
inductive Shift
  | left (k : Nat)
  | right (k : Nat)

/-- The number of places. -/
def Shift.places : Shift → Nat
  | left k => k
  | right k => k

def Shift.apply : Shift → BitVec w → BitVec w
  | left k, x => x ^^^ (x <<< k)
  | right k, x => x ^^^ (x >>> k)

/-- The word after `x`. -/
def next (shifts : List Shift) (x : BitVec w) : BitVec w := shifts.foldl (fun x s => s.apply x) x

/-! ## Linear maps -/

/-- A linear map that takes only zero to zero loses nothing. -/
theorem injective_of_xor {f : BitVec w → BitVec w}
    (hxor : ∀ x y, f (x ^^^ y) = f x ^^^ f y) (hzero : ∀ x, f x = 0#w → x = 0#w) :
    Function.Injective f := by
  intro x y h
  have hsum : f (x ^^^ y) = 0#w := by rw [hxor, h, BitVec.xor_self]
  exact BitVec.xor_eq_zero_iff.mp (hzero _ hsum)

/-- There are as many words before as behind. -/
theorem bijective_of_injective {f : BitVec w → BitVec w} (h : Function.Injective f) :
    Function.Bijective f := by
  have : Finite (BitVec w) := .of_equiv _ BitVec.equivFin.symm.toEquiv
  exact Finite.injective_iff_bijective.mp h

/-! ## Steps -/

namespace Shift

theorem apply_xor (s : Shift) (x y : BitVec w) : s.apply (x ^^^ y) = s.apply x ^^^ s.apply y := by
  cases s with
  | left k =>
    simp only [apply, BitVec.shiftLeft_xor_distrib]
    ac_rfl
  | right k =>
    simp only [apply, BitVec.ushiftRight_xor_distrib]
    ac_rfl

@[simp] theorem apply_zero (s : Shift) : s.apply 0#w = 0#w := by cases s <;> simp [apply]

/-- The lowest bits of the word are those of the step, and each bit gives the one `k` places
higher. -/
theorem eq_zero_of_left {k : Nat} (hk : 0 < k) {x : BitVec w} (h : x ^^^ (x <<< k) = 0#w) :
    x = 0#w := by
  have heq : x = x <<< k := BitVec.xor_eq_zero_iff.mp h
  apply BitVec.eq_of_getLsbD_eq
  intro i hi
  induction i using Nat.strong_induction_on with
  | _ i ih =>
    rw [heq, BitVec.getLsbD_shiftLeft, BitVec.getLsbD_zero]
    by_cases hlow : i < k
    · simp [hlow]
    · have hbelow := ih (i - k) (by omega) (by omega)
      rw [BitVec.getLsbD_zero] at hbelow
      simp [hbelow]

/-- The highest bits of the word are those of the step, and each bit gives the one `k` places
lower. -/
theorem eq_zero_of_right {k : Nat} (hk : 0 < k) {x : BitVec w} (h : x ^^^ (x >>> k) = 0#w) :
    x = 0#w := by
  have heq : x = x >>> k := BitVec.xor_eq_zero_iff.mp h
  -- The induction is on the distance to the highest bit.
  have hbits : ∀ n i, w ≤ i + n → x.getLsbD i = false := by
    intro n
    induction n with
    | zero => exact fun i hi => BitVec.getLsbD_of_ge x i hi
    | succ n ih =>
      intro i hi
      rw [heq, BitVec.getLsbD_ushiftRight]
      exact ih (k + i) (by omega)
  apply BitVec.eq_of_getLsbD_eq
  intro i hi
  rw [BitVec.getLsbD_zero]
  exact hbits w i (Nat.le_add_left w i)

theorem apply_eq_zero_iff (s : Shift) (hs : 0 < s.places) (x : BitVec w) :
    s.apply x = 0#w ↔ x = 0#w := by
  constructor
  · cases s with
    | left k => exact eq_zero_of_left hs
    | right k => exact eq_zero_of_right hs
  · rintro rfl
    exact s.apply_zero

end Shift

/-! ## Generators -/

variable {shifts : List Shift}

theorem next_xor (shifts : List Shift) (x y : BitVec w) :
    next shifts (x ^^^ y) = next shifts x ^^^ next shifts y := by
  induction shifts generalizing x y with
  | nil => rfl
  | cons s shifts ih =>
    have hhead := ih (s.apply x) (s.apply y)
    rw [← s.apply_xor] at hhead
    exact hhead

/-- **Only zero is followed by zero.** -/
theorem next_eq_zero_iff (h : ∀ s ∈ shifts, 0 < s.places) (x : BitVec w) :
    next shifts x = 0#w ↔ x = 0#w := by
  induction shifts generalizing x with
  | nil => rfl
  | cons s shifts ih =>
    rw [List.forall_mem_cons] at h
    exact (ih h.2 (s.apply x)).trans (s.apply_eq_zero_iff h.1 x)

/-- **Every word follows exactly one word.** -/
theorem next_bijective (h : ∀ s ∈ shifts, 0 < s.places) :
    Function.Bijective (next shifts : BitVec w → BitVec w) :=
  bijective_of_injective <|
    injective_of_xor (next_xor shifts) fun x => (next_eq_zero_iff h x).mp

end Xorshift

end Infra
