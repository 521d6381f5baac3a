import Mathlib.Algebra.Order.Ring.Nat
import Mathlib.Data.List.Induction
import Mathlib.Tactic.Common

/-!
# Numbers with their high byte first

* `beNumber_beBytes`, `beBytes_beNumber` — a number and its bytes
-/

namespace Infra

/-- The number that bytes stand for. -/
def beNumber (bytes : List UInt8) : Nat := bytes.foldl (fun n b => 2 ^ 8 * n + b.toNat) 0

/-- The low `k` bytes of a number. -/
def beBytes : Nat → Nat → List UInt8
  | 0, _ => []
  | k + 1, n => UInt8.ofNat (n / 2 ^ (8 * k)) :: beBytes k n

@[simp] theorem length_beBytes (k n : Nat) : (beBytes k n).length = k := by
  induction k with
  | zero => rfl
  | succ k ih => rw [beBytes, List.length_cons, ih]

theorem beNumber_concat (bytes : List UInt8) (b : UInt8) :
    beNumber (bytes ++ [b]) = 2 ^ 8 * beNumber bytes + b.toNat := by
  rw [beNumber, List.foldl_append]
  rfl

theorem beNumber_cons (b : UInt8) (bytes : List UInt8) :
    beNumber (b :: bytes) = b.toNat * 2 ^ (8 * bytes.length) + beNumber bytes := by
  induction bytes using List.reverseRecOn with
  | nil => simp [beNumber]
  | append_singleton bytes c ih =>
    rw [← List.cons_append, beNumber_concat, beNumber_concat, ih, List.length_append,
      List.length_singleton, Nat.mul_add 8, Nat.pow_add, Nat.mul_one]
    generalize 2 ^ (8 * bytes.length) = p
    rw [Nat.mul_add, ← Nat.mul_assoc, Nat.mul_comm (2 ^ 8) b.toNat, Nat.mul_assoc,
      Nat.mul_comm (2 ^ 8) p, Nat.add_assoc]

theorem beNumber_lt (bytes : List UInt8) : beNumber bytes < 2 ^ (8 * bytes.length) := by
  induction bytes using List.reverseRecOn with
  | nil => exact Nat.one_pos
  | append_singleton bytes b ih =>
    have hb := b.toNat_lt
    rw [beNumber_concat, List.length_append, List.length_singleton, Nat.mul_add 8, Nat.pow_add]
    omega

/-- The low bytes do not depend on what is above them. -/
theorem beBytes_add (k n m : Nat) : beBytes k (m * 2 ^ (8 * k) + n) = beBytes k n := by
  induction k generalizing m with
  | zero => rfl
  | succ k ih =>
    have hsplit : m * 2 ^ (8 * (k + 1)) = m * 2 ^ 8 * 2 ^ (8 * k) := by
      rw [Nat.mul_add 8, Nat.pow_add, Nat.mul_one, Nat.mul_assoc, Nat.mul_comm (2 ^ (8 * k))]
    rw [beBytes, beBytes, hsplit, ih]
    congr 1
    rw [Nat.mul_comm (m * 2 ^ 8), Nat.mul_add_div (Nat.two_pow_pos _)]
    apply UInt8.toNat_inj.mp
    rw [UInt8.toNat_ofNat', UInt8.toNat_ofNat']
    omega

theorem beBytes_mod (k n : Nat) : beBytes k (n % 2 ^ (8 * k)) = beBytes k n := by
  conv_rhs => rw [← Nat.div_add_mod' n (2 ^ (8 * k))]
  exact (beBytes_add _ _ _).symm

/-- **Reading the bytes of a number.** -/
theorem beNumber_beBytes {k n : Nat} (h : n < 2 ^ (8 * k)) : beNumber (beBytes k n) = n := by
  induction k generalizing n with
  | zero =>
    rw [Nat.lt_one_iff.mp h]
    rfl
  | succ k ih =>
    have hmod := Nat.mod_lt n (Nat.two_pow_pos (8 * k))
    have htop : n / 2 ^ (8 * k) < 2 ^ 8 := by
      rw [Nat.mul_add, Nat.pow_add, Nat.mul_comm] at h
      exact Nat.div_lt_of_lt_mul (by rwa [Nat.mul_comm])
    rw [beBytes, beNumber_cons, length_beBytes, ← beBytes_mod, ih hmod, UInt8.toNat_ofNat',
      Nat.mod_eq_of_lt htop]
    exact Nat.div_add_mod' n _

/-- **Writing the number of bytes.** -/
theorem beBytes_beNumber (bytes : List UInt8) : beBytes bytes.length (beNumber bytes) = bytes := by
  induction bytes with
  | nil => rfl
  | cons b bytes ih =>
    have hlt := beNumber_lt bytes
    rw [List.length_cons, beBytes, beNumber_cons, beBytes_add, ih,
      Nat.mul_comm, Nat.mul_add_div (Nat.two_pow_pos _), Nat.div_eq_of_lt hlt, Nat.add_zero,
      UInt8.ofNat_toNat]

end Infra
