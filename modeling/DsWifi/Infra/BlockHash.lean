import Mathlib.Tactic.Common

/-!
# Hashing block by block

A hash function changes a state with each block of its input. What is left over at the end is
shorter than a block and is kept until more comes.

* `absorb_append` — what has been absorbed is the state and the rest
* `absorb_block_append` — a whole block in front is taken first
-/

namespace Infra

variable {σ α : Type} (f : σ → List α → σ) (n : Nat)

/-- Take `k` blocks. -/
def absorbBlocks : Nat → σ → List α → σ × List α
  | 0, s, xs => (s, xs)
  | k + 1, s, xs => absorbBlocks k (f s (xs.take n)) (xs.drop n)

/-- Take blocks while there are any. -/
def absorb (s : σ) (xs : List α) : σ × List α := absorbBlocks f n (xs.length / n) s xs

variable {f n}

/-- Too short for a block. -/
theorem absorb_of_lt (s : σ) {xs : List α} (h : xs.length < n) : absorb f n s xs = (s, xs) := by
  rw [absorb, Nat.div_eq_of_lt h]
  rfl

theorem absorb_of_le (hn : 0 < n) (s : σ) {xs : List α} (h : n ≤ xs.length) :
    absorb f n s xs = absorb f n (f s (xs.take n)) (xs.drop n) := by
  have hdiv : xs.length / n = (xs.drop n).length / n + 1 := by
    rw [List.length_drop, ← Nat.div_eq_sub_div hn h]
  rw [absorb, hdiv]
  rfl

/-- One block in front. -/
theorem absorb_block_append (hn : 0 < n) (s : σ) {block : List α} (hblock : block.length = n)
    (xs : List α) : absorb f n s (block ++ xs) = absorb f n (f s block) xs := by
  rw [absorb_of_le hn s (by rw [List.length_append]; omega), List.take_left' hblock,
    List.drop_left' hblock]

/-- Exactly one block. -/
theorem absorb_block (hn : 0 < n) (s : σ) {block : List α} (hblock : block.length = n) :
    absorb f n s block = (f s block, []) := by
  rw [← List.append_nil block, absorb_block_append hn s hblock, List.append_nil]
  exact absorb_of_lt _ hn

/-- **What has been absorbed is the state and the rest.** -/
theorem absorb_append (hn : 0 < n) (s : σ) (xs ys : List α) :
    absorb f n s (xs ++ ys) = absorb f n (absorb f n s xs).1 ((absorb f n s xs).2 ++ ys) := by
  induction hlen : xs.length using Nat.strongRecOn generalizing s xs with
  | ind len ih =>
    by_cases h : n ≤ xs.length
    · have happend : n ≤ (xs ++ ys).length := by
        rw [List.length_append]
        omega
      rw [absorb_of_le hn s happend, absorb_of_le hn s h, List.take_append_of_le_length h,
        List.drop_append_of_le_length h]
      exact ih (xs.drop n).length (by rw [List.length_drop]; omega) _ _ rfl
    · rw [absorb_of_lt s (Nat.lt_of_not_le h)]

/-- The rest is shorter than a block. -/
theorem length_rest (hn : 0 < n) (s : σ) (xs : List α) :
    (absorb f n s xs).2.length = xs.length % n := by
  induction hlen : xs.length using Nat.strongRecOn generalizing s xs with
  | ind len ih =>
    by_cases h : n ≤ xs.length
    · rw [absorb_of_le hn s h, ih (xs.drop n).length (by rw [List.length_drop]; omega) _ _ rfl,
        List.length_drop, ← hlen, Nat.mod_eq_sub_mod h]
    · have hlt := Nat.lt_of_not_le h
      rw [absorb_of_lt s hlt, ← hlen, Nat.mod_eq_of_lt hlt]

/-- Two hash functions of which the one shows the state of the other. -/
theorem absorb_map {τ : Type} {g : τ → List α → τ} (view : σ → τ)
    (h : ∀ s block, view (f s block) = g (view s) block) (s : σ) (xs : List α) :
    absorb g n (view s) xs = (view (absorb f n s xs).1, (absorb f n s xs).2) := by
  unfold absorb
  generalize xs.length / n = k
  induction k generalizing s xs with
  | zero => rfl
  | succ k ih =>
    rw [absorbBlocks, absorbBlocks, ← h]
    exact ih _ _

end Infra
