import Mathlib.Data.FinEnum
import Mathlib.Data.Fintype.Card
import Mathlib.Dynamics.PeriodicPts.Defs
import Mathlib.Tactic.Common

/-!
# The field of bytes

A byte is a polynomial over the field with two elements, and multiplication is modulo
`x^8 + x^4 + x^3 + x + 1`. The nonzero bytes are the powers of `x + 1`.

* `gfMul_assoc`, `gfMul_comm`, `gfMul_xor` — the laws of a ring
* `exists_exp` — a nonzero byte is a power of `x + 1`
* `gfMul_gfInv` — inverses
-/

namespace Infra.ByteField

/-- What holds of all numbers below 256 holds of all bytes. -/
theorem forall_byte {P : UInt8 → Prop} (h : ∀ i : Fin 256, P (UInt8.ofFin i)) (a : UInt8) : P a :=
  h a.toFin

/-- Multiplication by `x`. -/
def xtime (a : UInt8) : UInt8 := (a <<< 1) ^^^ (if a &&& 0x80 = 0 then 0 else 0x1B)

/-- The multiples of the first factor that the low bits of the second factor add up. -/
def gfMulBits (a b : UInt8) : Nat → UInt8
  | 0 => 0
  | n + 1 => gfMulBits a b n ^^^ if b.toNat.testBit n then xtime^[n] a else 0

/-- Multiplication. -/
def gfMul (a b : UInt8) : UInt8 := gfMulBits a b 8

/-- Multiplication by `x + 1`. -/
def triple (a : UInt8) : UInt8 := a ^^^ xtime a

/-- The powers of `x + 1`. -/
def exp (n : Nat) : UInt8 := triple^[n] 1

/-- The powers of a byte. -/
def gfPow (a : UInt8) (n : Nat) : UInt8 := (gfMul a)^[n] 1

/-- The inverse, and zero for zero. -/
def gfInv (a : UInt8) : UInt8 := gfPow a 254

/-! ## Sums -/

theorem xor_xor_xor_comm (a b c d : UInt8) : a ^^^ b ^^^ (c ^^^ d) = a ^^^ c ^^^ (b ^^^ d) := by
  ac_rfl

theorem xtime_xor (a b : UInt8) : xtime (a ^^^ b) = xtime a ^^^ xtime b := by
  have hbit (a : UInt8) : a &&& 0x80 = 0 ∨ a &&& 0x80 = 0x80 := by
    revert a
    exact forall_byte (by decide +kernel)
  have hxor : (a ^^^ b) &&& 0x80 = (a &&& 0x80) ^^^ (b &&& 0x80) := by
    rw [← UInt8.toBitVec_inj]
    refine BitVec.eq_of_getElem_eq fun i hi => ?_
    simp [Bool.and_xor_distrib_right]
  unfold xtime
  rw [hxor, UInt8.shiftLeft_xor]
  rcases hbit a with ha | ha
  · rcases hbit b with hb | hb
    · simp [ha, hb]
    · simp [ha, hb, UInt8.xor_assoc]
  · rcases hbit b with hb | hb
    · simp only [ha, hb]
      rw [xor_xor_xor_comm]
      rfl
    · simp only [ha, hb]
      rw [xor_xor_xor_comm]
      rfl

theorem iterate_xtime_xor (n : Nat) (a b : UInt8) :
    xtime^[n] (a ^^^ b) = xtime^[n] a ^^^ xtime^[n] b := by
  induction n generalizing a b with
  | zero => rfl
  | succ n ih => rw [Function.iterate_succ_apply, xtime_xor, ih]; rfl

theorem xtime_zero : xtime 0 = 0 := rfl

theorem gfMulBits_xor (a b c : UInt8) (n : Nat) :
    gfMulBits (a ^^^ b) c n = gfMulBits a c n ^^^ gfMulBits b c n := by
  induction n with
  | zero => exact UInt8.xor_self.symm
  | succ n ih =>
    rw [gfMulBits, gfMulBits, gfMulBits, ih, iterate_xtime_xor]
    split
    · rw [xor_xor_xor_comm]
    · simp

theorem gfMul_xor_left (a b c : UInt8) : gfMul (a ^^^ b) c = gfMul a c ^^^ gfMul b c :=
  gfMulBits_xor a b c 8

theorem gfMulBits_xtime (a c : UInt8) (n : Nat) :
    gfMulBits (xtime a) c n = xtime (gfMulBits a c n) := by
  induction n with
  | zero => exact xtime_zero.symm
  | succ n ih =>
    rw [gfMulBits, gfMulBits, ih, xtime_xor, ← Function.iterate_succ_apply,
      Function.iterate_succ_apply']
    split
    · rfl
    · rfl

theorem gfMul_xtime_left (a c : UInt8) : gfMul (xtime a) c = xtime (gfMul a c) :=
  gfMulBits_xtime a c 8

theorem gfMul_zero_left (a : UInt8) : gfMul 0 a = 0 := by
  have hsum := gfMul_xor_left 0 0 a
  rwa [UInt8.xor_self, UInt8.xor_self] at hsum

theorem gfMul_zero_right (a : UInt8) : gfMul a 0 = 0 := by
  have hbits (n : Nat) : gfMulBits a 0 n = 0 := by
    induction n with
    | zero => rfl
    | succ n ih =>
      rw [gfMulBits, ih]
      simp
  exact hbits 8

theorem gfMul_one_left (a : UInt8) : gfMul 1 a = a := by
  revert a
  exact forall_byte (by decide +kernel)

/-! ## Powers of `x + 1` -/

theorem gfMul_triple_left (a c : UInt8) : gfMul (triple a) c = triple (gfMul a c) := by
  rw [triple, gfMul_xor_left, gfMul_xtime_left, triple]

theorem exp_succ (n : Nat) : exp (n + 1) = triple (exp n) := Function.iterate_succ_apply' ..

theorem gfMul_exp (m n : Nat) : gfMul (exp m) (exp n) = exp (m + n) := by
  induction m with
  | zero => rw [Nat.zero_add]; exact gfMul_one_left _
  | succ m ih => rw [exp_succ, gfMul_triple_left, ih, Nat.add_right_comm, exp_succ]

theorem isPeriodicPt_triple : Function.IsPeriodicPt triple 255 1 := by
  show triple^[255] 1 = 1
  decide +kernel

/-- The order of `x + 1` is not a proper divisor of 255. -/
theorem minimalPeriod_triple : Function.minimalPeriod triple 1 = 255 := by
  have hdvd := isPeriodicPt_triple.minimalPeriod_dvd
  have hmaximal : ∀ m ≤ 255, m ∣ 255 → m ≠ 255 → m ∣ 85 ∨ m ∣ 51 ∨ m ∣ 15 := by decide +kernel
  by_contra hne
  have hper {n : Nat} (h : Function.minimalPeriod triple 1 ∣ n) : triple^[n] 1 = 1 :=
    Function.isPeriodicPt_iff_minimalPeriod_dvd.mpr h
  rcases hmaximal _ (Nat.le_of_dvd (by decide) hdvd) hdvd hne with h | h | h
  · exact absurd (hper h) (by decide +kernel)
  · exact absurd (hper h) (by decide +kernel)
  · exact absurd (hper h) (by decide +kernel)

theorem exp_eq_iff {m n : Nat} : exp m = exp n ↔ m % 255 = n % 255 := by
  have hmod (k : Nat) : exp k = exp (k % 255) := by
    have hperiod := Function.iterate_mod_minimalPeriod_eq (f := triple) (x := 1) (n := k)
    rw [minimalPeriod_triple] at hperiod
    exact hperiod.symm
  have hlt (k : Nat) : k % 255 < Function.minimalPeriod triple 1 := by
    rw [minimalPeriod_triple]
    exact Nat.mod_lt _ (by decide)
  rw [hmod m, hmod n]
  exact Function.iterate_eq_iterate_iff_of_lt_minimalPeriod (hlt m) (hlt n)

theorem triple_ne_zero (a : UInt8) : a ≠ 0 → triple a ≠ 0 := by
  revert a
  exact forall_byte (by decide +kernel)

theorem exp_ne_zero (n : Nat) : exp n ≠ 0 := by
  induction n with
  | zero => decide
  | succ n ih =>
    rw [exp_succ]
    exact triple_ne_zero _ ih

/-- **A nonzero byte is a power of `x + 1`**, as there are 255 of either. -/
theorem exists_exp {a : UInt8} (h : a ≠ 0) : ∃ n < 255, exp n = a := by
  have hmaps : ∀ n ∈ Finset.range 255, exp n ∈ Finset.univ.erase (0 : UInt8) := by
    intro n _
    exact Finset.mem_erase.mpr ⟨exp_ne_zero n, Finset.mem_univ _⟩
  have hinj : Set.InjOn exp (Finset.range 255) := by
    intro m hm n hn heq
    have hmod := exp_eq_iff.mp heq
    rwa [Nat.mod_eq_of_lt (Finset.mem_range.mp hm), Nat.mod_eq_of_lt (Finset.mem_range.mp hn)]
      at hmod
  have hcard : (Finset.univ.erase (0 : UInt8)).card ≤ (Finset.range 255).card := by
    rw [Finset.card_erase_of_mem (Finset.mem_univ _), Finset.card_range]
    decide +kernel
  obtain ⟨n, hn, hexp⟩ := Finset.surj_on_of_inj_on_of_card_le (fun n _ => exp n) hmaps
    (fun m n hm hn => hinj hm hn) hcard a (Finset.mem_erase.mpr ⟨h, Finset.mem_univ _⟩)
  exact ⟨n, Finset.mem_range.mp hn, hexp.symm⟩

/-! ## The laws -/

theorem gfMul_comm (a b : UInt8) : gfMul a b = gfMul b a := by
  by_cases ha : a = 0
  · rw [ha, gfMul_zero_left, gfMul_zero_right]
  · by_cases hb : b = 0
    · rw [hb, gfMul_zero_left, gfMul_zero_right]
    · obtain ⟨m, -, rfl⟩ := exists_exp ha
      obtain ⟨n, -, rfl⟩ := exists_exp hb
      rw [gfMul_exp, gfMul_exp, Nat.add_comm]

theorem gfMul_assoc (a b c : UInt8) : gfMul (gfMul a b) c = gfMul a (gfMul b c) := by
  by_cases ha : a = 0
  · rw [ha, gfMul_zero_left, gfMul_zero_left, gfMul_zero_left]
  · by_cases hb : b = 0
    · rw [hb, gfMul_zero_right, gfMul_zero_left, gfMul_zero_right]
    · by_cases hc : c = 0
      · rw [hc, gfMul_zero_right, gfMul_zero_right, gfMul_zero_right]
      · obtain ⟨m, -, rfl⟩ := exists_exp ha
        obtain ⟨n, -, rfl⟩ := exists_exp hb
        obtain ⟨k, -, rfl⟩ := exists_exp hc
        rw [gfMul_exp, gfMul_exp, gfMul_exp, gfMul_exp, Nat.add_assoc]

theorem gfMul_xor (a b c : UInt8) : gfMul a (b ^^^ c) = gfMul a b ^^^ gfMul a c := by
  rw [gfMul_comm a, gfMul_xor_left, gfMul_comm b, gfMul_comm c]

/-! ## Inverses -/

theorem gfPow_exp (m n : Nat) : gfPow (exp m) n = exp (m * n) := by
  induction n with
  | zero => rfl
  | succ n ih =>
    have hsucc : gfPow (exp m) (n + 1) = gfMul (exp m) (gfPow (exp m) n) :=
      Function.iterate_succ_apply' ..
    rw [hsucc, ih, gfMul_exp, Nat.mul_succ, Nat.add_comm]

theorem gfInv_exp (n : Nat) : gfInv (exp n) = exp (n * 254) := gfPow_exp n 254

theorem gfInv_zero : gfInv 0 = 0 := (Function.iterate_succ_apply' ..).trans (gfMul_zero_left _)

theorem gfMul_gfInv {a : UInt8} (h : a ≠ 0) : gfMul a (gfInv a) = 1 := by
  obtain ⟨n, -, rfl⟩ := exists_exp h
  rw [gfInv_exp, gfMul_exp]
  have hone : (n + n * 254) % 255 = 0 % 255 := by omega
  exact exp_eq_iff.mpr hone

theorem gfInv_gfInv (a : UInt8) : gfInv (gfInv a) = a := by
  by_cases h : a = 0
  · rw [h, gfInv_zero, gfInv_zero]
  · obtain ⟨n, -, rfl⟩ := exists_exp h
    rw [gfInv_exp, gfInv_exp]
    exact exp_eq_iff.mpr (by omega)

end Infra.ByteField
