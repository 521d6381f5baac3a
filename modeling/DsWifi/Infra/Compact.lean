import Mathlib.Data.List.Basic

/-!
# Filling an array with what passes a filter

A loop goes through a list of entries, and each one that passes is written to the next slot of an
array that is cleared at the beginning. Nothing else is written, so that several loops can go on
where the one before has stopped.

* `FilledWith.fill` — the array holds what the entries that pass are made into, without gaps
-/

namespace Infra

/-- An array and the index of the slot that is written next. -/
structure Filling (β : Type) where
  slots : List β
  count : Nat

namespace Filling

variable {α β : Type}

/-- Write to the next slot, over what is there. -/
def push (s : Filling β) (write : β → β) : Filling β where
  slots := s.slots.modify s.count write
  count := s.count + 1

/-- A loop that skips the entries that don't pass. -/
def fill (passes : α → Bool) (write : α → β → β) (s : Filling β) (entries : List α) : Filling β :=
  entries.foldl (fun s e => if passes e then s.push (write e) else s) s

/-- The array starts with these values, and the slots behind them are clear. -/
structure FilledWith (size : Nat) (clear : β) (values : List β) (s : Filling β) : Prop where
  count_eq : s.count = values.length
  length_le : values.length ≤ size
  slots_eq : s.slots = values ++ List.replicate (size - values.length) clear

variable {size : Nat} {clear : β} {values : List β} {s : Filling β}

theorem modify_middle (before : List β) (b : β) (after : List β) (write : β → β) :
    (before ++ b :: after).modify before.length write = before ++ write b :: after := by
  induction before with
  | nil => rfl
  | cons x before ih =>
    show x :: (before ++ b :: after).modify before.length write = _
    rw [ih]
    rfl

theorem filledWith_replicate (size : Nat) (clear : β) :
    FilledWith size clear [] ⟨List.replicate size clear, 0⟩ where
  count_eq := rfl
  length_le := Nat.zero_le size
  slots_eq := rfl

theorem FilledWith.push (h : FilledWith size clear values s) (hlt : values.length < size)
    (write : β → β) : FilledWith size clear (values ++ [write clear]) (s.push write) where
  count_eq := by simp [Filling.push, h.count_eq]
  length_le := by
    rw [List.length_append, List.length_singleton]
    exact hlt
  slots_eq := by
    obtain ⟨n, hn⟩ := Nat.exists_eq_add_of_lt hlt
    have hrest : size - values.length = n + 1 := by omega
    have hrest' : size - (values ++ [write clear]).length = n := by
      simp only [List.length_append, List.length_singleton]
      omega
    rw [Filling.push, h.count_eq, h.slots_eq, hrest, hrest', List.replicate_succ, modify_middle,
      List.append_assoc]
    rfl

/-- **The entries that pass are stored one after the other.** -/
theorem FilledWith.fill (h : FilledWith size clear values s) (passes : α → Bool)
    (write : α → β → β) {entries : List α} (hle : values.length + entries.length ≤ size) :
    FilledWith size clear (values ++ (entries.filter passes).map (write · clear))
      (s.fill passes write entries) := by
  induction entries generalizing s values with
  | nil => simpa [Filling.fill] using h
  | cons e entries ih =>
    rw [List.length_cons] at hle
    rw [Filling.fill, List.foldl_cons]
    by_cases he : passes e = true
    · rw [if_pos he, List.filter_cons_of_pos he, List.map_cons, List.append_cons]
      refine ih (h.push (by omega) (write e)) ?_
      rw [List.length_append, List.length_singleton]
      omega
    · rw [if_neg he, List.filter_cons_of_neg he]
      exact ih h (by omega)

end Filling

end Infra
