import Mathlib.Data.List.Nodup
import Mathlib.Tactic.Common

/-!
# Tiles

An interval that is covered by pieces, one behind the other. A piece is given by where it begins;
how wide it is may change.

* `Tiles.apart` — two pieces have nothing in common
* `Tiles.cut`, `Tiles.join` — a piece is cut in two, and two pieces become one
-/

namespace Infra

/-- The pieces go from `lo` to `hi`. -/
def Tiles (width : Nat → Nat) : Nat → List Nat → Nat → Prop
  | lo, [], hi => lo = hi
  | lo, a :: l, hi => a = lo ∧ Tiles width (a + width a) l hi

variable {width width' : Nat → Nat} {lo hi a b c : Nat} {l l' : List Nat}

theorem tiles_append :
    Tiles width lo (l ++ a :: l') hi ↔ Tiles width lo l a ∧ Tiles width (a + width a) l' hi := by
  induction l generalizing lo with
  | nil => simp [Tiles, eq_comm]
  | cons b l ih => simp only [List.cons_append, Tiles, ih, and_assoc]

/-- Only the widths of the pieces matter. -/
theorem Tiles.congr (h : Tiles width lo l hi) (heq : ∀ a ∈ l, width' a = width a) :
    Tiles width' lo l hi := by
  induction l generalizing lo with
  | nil => exact h
  | cons a l ih =>
    obtain ⟨hlo, hrest⟩ := h
    refine ⟨hlo, ?_⟩
    rw [heq a List.mem_cons_self]
    exact ih hrest fun b hb => heq b (List.mem_cons_of_mem _ hb)

theorem Tiles.le (h : Tiles width lo l hi) : lo ≤ hi := by
  induction l generalizing lo with
  | nil => exact Nat.le_of_eq h
  | cons a l ih =>
    obtain ⟨rfl, hrest⟩ := h
    exact Nat.le_trans (Nat.le_add_right _ _) (ih hrest)

/-- A piece is inside. -/
theorem Tiles.bounds (h : Tiles width lo l hi) (ha : a ∈ l) : lo ≤ a ∧ a + width a ≤ hi := by
  induction l generalizing lo with
  | nil => cases ha
  | cons b l ih =>
    obtain ⟨rfl, hrest⟩ := h
    rcases List.mem_cons.mp ha with rfl | hmem
    · exact ⟨Nat.le_refl _, hrest.le⟩
    · obtain ⟨hle, hend⟩ := ih hrest hmem
      exact ⟨Nat.le_trans (Nat.le_add_right _ _) hle, hend⟩

/-- **Two pieces have nothing in common.** -/
theorem Tiles.apart (h : Tiles width lo l hi) (ha : a ∈ l) (hb : b ∈ l) (hne : a ≠ b) :
    a + width a ≤ b ∨ b + width b ≤ a := by
  induction l generalizing lo with
  | nil => cases ha
  | cons c l ih =>
    obtain ⟨rfl, hrest⟩ := h
    rcases List.mem_cons.mp ha with rfl | ha'
    · rcases List.mem_cons.mp hb with rfl | hb'
      · exact absurd rfl hne
      · exact .inl (hrest.bounds hb').1
    · rcases List.mem_cons.mp hb with rfl | hb'
      · exact .inr (hrest.bounds ha').1
      · exact ih hrest ha' hb'

/-- Every place is in a piece. -/
theorem Tiles.exists_at {x : Nat} (h : Tiles width lo l hi) (hlo : lo ≤ x) (hhi : x < hi) :
    ∃ l₁ a l₂, l = l₁ ++ a :: l₂ ∧ a ≤ x ∧ x < a + width a := by
  induction l generalizing lo with
  | nil =>
    have heq : lo = hi := h
    omega
  | cons b l ih =>
    obtain ⟨rfl, hrest⟩ := h
    by_cases hx : x < b + width b
    · exact ⟨[], b, l, rfl, hlo, hx⟩
    · obtain ⟨l₁, a, l₂, rfl, hat⟩ := ih hrest (Nat.le_of_not_lt hx)
      exact ⟨b :: l₁, a, l₂, rfl, hat⟩

/-- There are not more pieces than fit. -/
theorem Tiles.length_le {n : Nat} (h : Tiles width lo l hi) (hwidth : ∀ a ∈ l, n ≤ width a) :
    lo + n * l.length ≤ hi := by
  induction l generalizing lo with
  | nil => exact Nat.le_of_eq h
  | cons a l ih =>
    obtain ⟨rfl, hrest⟩ := h
    have hle := ih hrest fun b hb => hwidth b (List.mem_cons_of_mem _ hb)
    have hself := hwidth a List.mem_cons_self
    rw [List.length_cons, Nat.mul_succ]
    omega

/-- **A piece is cut in two.** -/
theorem Tiles.cut (h : Tiles width lo (l ++ a :: l') hi) (hc : c = a + width' a)
    (hsum : width' a + width' c = width a) (heq : ∀ b ∈ l ++ l', width' b = width b) :
    Tiles width' lo (l ++ a :: c :: l') hi := by
  obtain ⟨hfront, hback⟩ := tiles_append.mp h
  refine tiles_append.mpr ⟨?_, hc, ?_⟩
  · exact hfront.congr fun b hb => heq b (List.mem_append_left _ hb)
  · have hend : c + width' c = a + width a := by omega
    rw [hend]
    exact hback.congr fun b hb => heq b (List.mem_append_right _ hb)

/-- **Two pieces become one.** -/
theorem Tiles.join (h : Tiles width lo (l ++ a :: c :: l') hi) (hsum : width' a = width a + width c)
    (heq : ∀ b ∈ l ++ l', width' b = width b) : Tiles width' lo (l ++ a :: l') hi := by
  obtain ⟨hfront, hc, hback⟩ := tiles_append.mp h
  refine tiles_append.mpr ⟨?_, ?_⟩
  · exact hfront.congr fun b hb => heq b (List.mem_append_left _ hb)
  · have hend : a + width' a = c + width c := by omega
    rw [hend]
    exact hback.congr fun b hb => heq b (List.mem_append_right _ hb)

end Infra
