import Mathlib.Data.List.GetD
import Mathlib.Logic.Function.Iterate

/-!
# Shift registers with feedback

A register of `w` bits is shifted to the right, and the polynomial is added to it when a one falls
out. A message is fed in bit after bit. The step is linear, and it loses nothing if the polynomial
has its highest bit.

* `run_eq_zero_iff` — the last `w` bits bring the register to zero exactly if they are its contents
* `run_burst` — two messages of one length that differ in at most `w` consecutive bits do not both
  bring it to zero
-/

namespace Infra

namespace ShiftRegister

variable {w : Nat} (poly : BitVec w)

/-- One step. -/
def step (r : BitVec w) : BitVec w := if r.getLsbD 0 then (r >>> 1) ^^^ poly else r >>> 1

/-- A bit as the contents of a register. -/
def ofBit (w : Nat) (b : Bool) : BitVec w := (BitVec.ofBool b).setWidth w

/-- Bits as the contents of a register, the first one in the lowest place. -/
def ofBits (w : Nat) (bits : List Bool) : BitVec w := (BitVec.ofBoolListLE bits).setWidth w

/-- One bit of a message. -/
def feed (r : BitVec w) (b : Bool) : BitVec w := step poly (r ^^^ ofBit w b)

/-- A message. -/
def run (r : BitVec w) (bits : List Bool) : BitVec w := bits.foldl (feed poly) r

variable {poly}

/-! ## The step -/

theorem step_xor (r s : BitVec w) : step poly (r ^^^ s) = step poly r ^^^ step poly s := by
  unfold step
  rw [BitVec.getLsbD_xor, BitVec.ushiftRight_xor_distrib]
  cases r.getLsbD 0 with
  | false =>
    cases s.getLsbD 0 with
    | false => rfl
    | true => simp [BitVec.xor_assoc]
  | true =>
    cases s.getLsbD 0 with
    | false =>
      simp only [Bool.true_xor, Bool.not_false, if_true, Bool.false_eq_true, if_false]
      rw [BitVec.xor_assoc, BitVec.xor_assoc, BitVec.xor_comm poly]
    | true =>
      -- the polynomial is added twice
      simp only [Bool.true_xor, Bool.not_true, if_true, Bool.false_eq_true, if_false]
      rw [BitVec.xor_assoc, BitVec.xor_comm poly, BitVec.xor_assoc, BitVec.xor_self,
        BitVec.xor_zero]

@[simp] theorem step_zero : step poly 0#w = 0#w := by simp [step]

/-- A register whose lowest bit is clear is only shifted. -/
theorem step_shiftLeft {r : BitVec w} (hr : r.getLsbD (w - 1) = false) :
    step poly (r <<< 1) = r := by
  have hlow : (r <<< 1).getLsbD 0 = false := by simp
  rw [step, hlow]
  apply BitVec.eq_of_getLsbD_eq
  intro i hi
  simp only [Bool.false_eq_true, if_false, BitVec.getLsbD_ushiftRight, BitVec.getLsbD_shiftLeft]
  by_cases hlast : i = w - 1
  · subst hlast
    simp [hr]
  · have hlt : 1 + i < w := by omega
    simp [hlt]

/-- **Nothing is lost**: the highest bit says whether a one fell out. -/
theorem step_eq_zero_iff (hpoly : poly.getLsbD (w - 1) = true) (r : BitVec w) :
    step poly r = 0#w ↔ r = 0#w := by
  constructor
  · intro h
    apply BitVec.eq_of_getLsbD_eq
    intro i hi
    have hzero (j : Nat) : (step poly r).getLsbD j = false := by rw [h]; simp
    have hlow : r.getLsbD 0 = false := by
      by_contra hone
      have htop := hzero (w - 1)
      rw [step, if_pos (by simpa using hone), BitVec.getLsbD_xor, hpoly,
        BitVec.getLsbD_ushiftRight, BitVec.getLsbD_of_ge r (1 + (w - 1)) (by omega)] at htop
      simp at htop
    rw [BitVec.getLsbD_zero]
    cases i with
    | zero => exact hlow
    | succ i =>
      have hbit := hzero i
      rwa [step, hlow, if_neg (by simp), BitVec.getLsbD_ushiftRight, Nat.add_comm] at hbit
  · rintro rfl
    exact step_zero

theorem iterate_step_eq_zero_iff (hpoly : poly.getLsbD (w - 1) = true) (n : Nat)
    (r : BitVec w) : (step poly)^[n] r = 0#w ↔ r = 0#w := by
  induction n generalizing r with
  | zero => rfl
  | succ n ih => rw [Function.iterate_succ_apply, ih, step_eq_zero_iff hpoly]

/-! ## Messages -/

theorem getLsbD_ofBits (bits : List Bool) (i : Nat) :
    (ofBits w bits).getLsbD i = (decide (i < w) && bits.getD i false) := by
  rw [ofBits, BitVec.getLsbD_setWidth, BitVec.getLsbD_ofBoolListLE]

theorem getLsbD_ofBit (b : Bool) (i : Nat) :
    (ofBit w b).getLsbD i = (decide (i < w) && decide (i = 0) && b) := by
  rw [ofBit, BitVec.getLsbD_setWidth, BitVec.getLsbD_ofBool, Bool.and_assoc]

theorem ofBits_cons (b : Bool) (bits : List Bool) :
    ofBits w (b :: bits) = ofBit w b ^^^ (ofBits w bits <<< 1) := by
  apply BitVec.eq_of_getLsbD_eq
  intro i hi
  rw [BitVec.getLsbD_xor, BitVec.getLsbD_shiftLeft, getLsbD_ofBits, getLsbD_ofBits, getLsbD_ofBit]
  cases i with
  | zero => simp [hi]
  | succ i =>
    have hi' : i < w := by omega
    simp [hi, hi']

theorem ofBit_xor (a b : Bool) : ofBit w (a ^^ b) = ofBit w a ^^^ ofBit w b := by
  apply BitVec.eq_of_getLsbD_eq
  intro i hi
  rw [BitVec.getLsbD_xor, getLsbD_ofBit, getLsbD_ofBit, getLsbD_ofBit]
  cases i with
  | zero => simp [hi]
  | succ i => simp

theorem run_append (r : BitVec w) (bits bits' : List Bool) :
    run poly r (bits ++ bits') = run poly (run poly r bits) bits' := List.foldl_append

/-- The register is linear in what it holds and what it is fed. -/
theorem run_xor (r s : BitVec w) {bits bits' : List Bool} (hlen : bits.length = bits'.length) :
    run poly (r ^^^ s) (List.zipWith xor bits bits') = run poly r bits ^^^ run poly s bits' := by
  induction bits generalizing r s bits' with
  | nil =>
    have hnil : bits' = [] := List.length_eq_zero_iff.mp hlen.symm
    simp [run, hnil]
  | cons b bits ih =>
    cases bits' with
    | nil => simp at hlen
    | cons b' bits' =>
      have hlen' : bits.length = bits'.length := by simpa using hlen
      have hfeed : feed poly (r ^^^ s) (b ^^ b') = feed poly r b ^^^ feed poly s b' := by
        unfold feed
        rw [← step_xor, ofBit_xor]
        congr 1
        rw [BitVec.xor_assoc, BitVec.xor_assoc, ← BitVec.xor_assoc s, BitVec.xor_comm s,
          BitVec.xor_assoc]
      show run poly (feed poly (r ^^^ s) (b ^^ b')) (List.zipWith xor bits bits') = _
      rw [hfeed, ih _ _ hlen']
      rfl

/-- Up to `w` bits can be added at once. -/
theorem run_eq_iterate (r : BitVec w) {bits : List Bool} (hlen : bits.length ≤ w) :
    run poly r bits = (step poly)^[bits.length] (r ^^^ ofBits w bits) := by
  induction bits generalizing r with
  | nil =>
    have hzero : ofBits w [] = 0#w := by
      apply BitVec.eq_of_getLsbD_eq
      intro i hi
      simp [getLsbD_ofBits]
    simp [run, hzero]
  | cons b bits ih =>
    have hlen' : bits.length < w := hlen
    have htop : (ofBits w bits).getLsbD (w - 1) = false := by
      rw [getLsbD_ofBits, List.getD_eq_default _ _ (by omega), Bool.and_false]
    show run poly (feed poly r b) bits = _
    rw [ih _ (Nat.le_of_lt hlen'), List.length_cons, Function.iterate_succ_apply, ofBits_cons,
      ← BitVec.xor_assoc, step_xor, step_shiftLeft htop]
    rfl

theorem run_replicate_false (r : BitVec w) (n : Nat) :
    run poly r (List.replicate n false) = (step poly)^[n] r := by
  have hbit : ofBit w false = 0#w := by simp [ofBit]
  induction n generalizing r with
  | zero => rfl
  | succ n ih =>
    rw [List.replicate_succ, Function.iterate_succ_apply, ← ih]
    show run poly (feed poly r false) _ = _
    rw [feed, hbit, BitVec.xor_zero]

/-- **The register is brought to zero by its own contents**, and by no other `w` bits. -/
theorem run_eq_zero_iff (hpoly : poly.getLsbD (w - 1) = true) (r : BitVec w) {bits : List Bool}
    (hlen : bits.length ≤ w) : run poly r bits = 0#w ↔ ofBits w bits = r := by
  rw [run_eq_iterate r hlen, iterate_step_eq_zero_iff hpoly, BitVec.xor_eq_zero_iff, eq_comm]

/-! ## Bursts -/

theorem ofBits_eq_zero_iff {bits : List Bool} (hlen : bits.length ≤ w) :
    ofBits w bits = 0#w ↔ ∀ i, bits.getD i false = false := by
  constructor
  · intro h i
    have hbit : (ofBits w bits).getLsbD i = false := by rw [h]; simp
    rw [getLsbD_ofBits] at hbit
    by_cases hi : i < w
    · simpa [hi] using hbit
    · exact List.getD_eq_default _ _ (by omega)
  · intro h
    apply BitVec.eq_of_getLsbD_eq
    intro i hi
    rw [getLsbD_ofBits, h i]
    simp

/-- A list without ones outside of a window. -/
theorem split_window {bits : List Bool} {p : Nat}
    (h : ∀ i, bits.getD i false = true → p ≤ i ∧ i < p + w) :
    ∃ before after, bits = List.replicate before false ++ (bits.drop p).take w ++
      List.replicate after false := by
  refine ⟨(bits.take p).length, (bits.drop (p + w)).length, ?_⟩
  have hbefore : bits.take p = List.replicate (bits.take p).length false := by
    refine List.eq_replicate_of_mem fun b hb => ?_
    obtain ⟨i, hi, rfl⟩ := List.getElem_of_mem hb
    rw [List.length_take] at hi
    rw [List.getElem_take]
    by_contra hone
    have hget : bits.getD i false = bits[i] := List.getD_eq_getElem _ _ (by omega)
    have := (h i (by rw [hget]; simpa using hone)).1
    omega
  have hafter : bits.drop (p + w) = List.replicate (bits.drop (p + w)).length false := by
    refine List.eq_replicate_of_mem fun b hb => ?_
    obtain ⟨i, hi, rfl⟩ := List.getElem_of_mem hb
    rw [List.length_drop] at hi
    rw [List.getElem_drop]
    by_contra hone
    have hget : bits.getD (p + w + i) false = bits[p + w + i] := List.getD_eq_getElem _ _ (by omega)
    have := (h (p + w + i) (by rw [hget]; simpa using hone)).2
    omega
  rw [← hbefore, ← hafter, List.append_assoc, ← List.drop_drop, List.take_append_drop,
    List.take_append_drop]

theorem run_zero_burst (hpoly : poly.getLsbD (w - 1) = true) {bits : List Bool} {p : Nat}
    (h : ∀ i, bits.getD i false = true → p ≤ i ∧ i < p + w) (hrun : run poly 0#w bits = 0#w) :
    ∀ i, bits.getD i false = false := by
  obtain ⟨before, after, hsplit⟩ := split_window h
  have hlen : ((bits.drop p).take w).length ≤ w := List.length_take_le w _
  have hzero (n : Nat) : (step poly)^[n] 0#w = 0#w := (iterate_step_eq_zero_iff hpoly n _).mpr rfl
  rw [hsplit, run_append, run_append, run_replicate_false, run_replicate_false, hzero,
    iterate_step_eq_zero_iff hpoly, run_eq_zero_iff hpoly _ hlen, ofBits_eq_zero_iff hlen] at hrun
  have hall : ∀ b ∈ bits, b = false := by
    intro b hb
    rw [hsplit] at hb
    simp only [List.mem_append, List.mem_replicate] at hb
    rcases hb with (⟨-, hb⟩ | hb) | ⟨-, hb⟩
    · exact hb
    · obtain ⟨i, hi, rfl⟩ := List.getElem_of_mem hb
      rw [← List.getD_eq_getElem _ false hi]
      exact hrun i
    · exact hb
  intro i
  by_cases hi : i < bits.length
  · rw [List.getD_eq_getElem _ _ hi]
    exact hall _ (List.getElem_mem hi)
  · exact List.getD_eq_default _ _ (by omega)

/-- **A burst of up to `w` bits is noticed.** -/
theorem run_burst (hpoly : poly.getLsbD (w - 1) = true) {bits bits' : List Bool}
    (hlen : bits.length = bits'.length) {p : Nat}
    (h : ∀ i, bits.getD i false ≠ bits'.getD i false → p ≤ i ∧ i < p + w)
    (hrun : run poly 0#w bits = 0#w) (hrun' : run poly 0#w bits' = 0#w) : bits = bits' := by
  have hxor : run poly 0#w (List.zipWith xor bits bits') = 0#w := by
    have hsum : run poly (0#w ^^^ 0#w) (List.zipWith xor bits bits') =
        run poly 0#w bits ^^^ run poly 0#w bits' := run_xor 0#w 0#w hlen
    rwa [hrun, hrun', BitVec.xor_self] at hsum
  have hbit (i : Nat) :
      (List.zipWith xor bits bits').getD i false = (bits.getD i false ^^ bits'.getD i false) := by
    simp only [List.getD_eq_getElem?_getD, List.getElem?_zipWith]
    by_cases hi : i < bits.length
    · have hi' : i < bits'.length := hlen ▸ hi
      simp [hi, hi']
    · have hi' : ¬ i < bits'.length := hlen ▸ hi
      simp [hi, hi']
  have hsame := run_zero_burst (p := p) hpoly (fun i hi => h i ?_) hxor
  · refine List.ext_getElem hlen fun i hi hi' => ?_
    have := hsame i
    rw [hbit, List.getD_eq_getElem _ _ hi, List.getD_eq_getElem _ _ hi'] at this
    simpa using this
  · rw [hbit] at hi
    simpa using hi

end ShiftRegister

end Infra
