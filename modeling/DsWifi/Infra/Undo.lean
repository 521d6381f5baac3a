import Mathlib.Tactic.Common

/-!
# Taking a loop back

A loop runs through a list and changes a state with each element; a step can fail. Another loop runs
through the list from its end and takes the steps back. The two states need not look the same: a
relation says which of them belong together.

* `foldlM_undo` — what one step needs for the whole loop to be taken back
* `foldlM_inv` — an invariant of the steps holds at the end of the loop
-/

namespace Infra

variable {σ τ ε ι : Type} {f : σ → ι → Except ε σ} {g : τ → ι → Except ε τ}

/-- The first step of a loop that has not failed. -/
theorem foldlM_cons_eq_ok {i : ι} {is : List ι} {s s' : σ} :
    (i :: is).foldlM f s = .ok s' ↔ ∃ t, f s i = .ok t ∧ is.foldlM f t = .ok s' := by
  rw [List.foldlM_cons]
  cases hf : f s i with
  | error e => exact ⟨nofun, fun ⟨t, ht, _⟩ => nomatch ht⟩
  | ok t => exact ⟨fun h => ⟨t, rfl, h⟩, fun ⟨t', ht, h⟩ => Except.ok.inj ht ▸ h⟩

/-- The last step of a loop that has not failed. -/
theorem foldlM_concat_eq_ok {i : ι} {is : List ι} {s s' : σ} :
    (is ++ [i]).foldlM f s = .ok s' ↔ ∃ t, is.foldlM f s = .ok t ∧ f t i = .ok s' := by
  induction is generalizing s with
  | nil =>
    rw [List.nil_append, foldlM_cons_eq_ok]
    constructor
    · rintro ⟨t, ht, hend⟩
      exact ⟨s, rfl, Except.ok.inj hend ▸ ht⟩
    · rintro ⟨t, hstart, ht⟩
      exact ⟨s', Except.ok.inj hstart ▸ ht, rfl⟩
  | cons j is ih =>
    rw [List.cons_append, foldlM_cons_eq_ok]
    constructor
    · rintro ⟨u, hu, hrest⟩
      obtain ⟨t, ht, hlast⟩ := ih.mp hrest
      exact ⟨t, foldlM_cons_eq_ok.mpr ⟨u, hu, ht⟩, hlast⟩
    · rintro ⟨t, ht, hlast⟩
      obtain ⟨u, hu, hrest⟩ := foldlM_cons_eq_ok.mp ht
      exact ⟨u, hu, ih.mpr ⟨t, hrest, hlast⟩⟩

/-- What the steps keep holds at the end of a loop that has not failed. -/
theorem foldlM_inv (Inv : σ → Prop) (hinv : ∀ s i s', Inv s → f s i = .ok s' → Inv s')
    {is : List ι} {s s' : σ} (hs : Inv s) (h : is.foldlM f s = .ok s') : Inv s' := by
  induction is generalizing s with
  | nil => exact Except.ok.inj h ▸ hs
  | cons i is ih =>
    obtain ⟨t, ht, hrest⟩ := foldlM_cons_eq_ok.mp h
    exact ih (hinv s i t hs ht) hrest

/-- **A loop is taken back by the steps back, in the opposite order.** -/
theorem foldlM_undo (Inv : σ → Prop) (R : σ → τ → Prop)
    (hinv : ∀ s i s', Inv s → f s i = .ok s' → Inv s')
    (hundo : ∀ s i s' t', Inv s → f s i = .ok s' → R s' t' → ∃ t, g t' i = .ok t ∧ R s t)
    {is : List ι} {s s' : σ} {t' : τ} (hs : Inv s) (h : is.foldlM f s = .ok s') (hR : R s' t') :
    ∃ t, is.reverse.foldlM g t' = .ok t ∧ R s t := by
  induction is generalizing s with
  | nil => exact ⟨t', rfl, Except.ok.inj h ▸ hR⟩
  | cons i is ih =>
    obtain ⟨u, hu, hrest⟩ := foldlM_cons_eq_ok.mp h
    obtain ⟨t, hback, hRt⟩ := ih (hinv s i u hs hu) hrest
    obtain ⟨t₀, hstep, hR₀⟩ := hundo s i u t hs hu hRt
    rw [List.reverse_cons]
    exact ⟨t₀, foldlM_concat_eq_ok.mpr ⟨t, hback, hstep⟩, hR₀⟩

end Infra
