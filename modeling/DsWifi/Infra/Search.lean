import Mathlib.Data.List.Basic

/-!
# Searching two lists

A list of requests and a list of offers, and a relation that says which offer meets which request.
A search that goes through the offers first, and for each of them through the requests, finds the
first offer that meets any request. The first request that is met can be another one.

* `searchOffers_eq_none_iff` — the search fails exactly if there is nothing to find
* `searchOffers_first_iff` — when it finds the first request that can be met
-/

namespace Infra

variable {α β γ : Type} {r : α → β → Bool} {requests : List α} {offers : List β}

/-- The first offer that meets a request, and the first request that it meets. -/
def searchOffers (r : α → β → Bool) (requests : List α) (offers : List β) : Option (Nat × β) :=
  offers.findSome? fun b => (requests.findIdx? (r · b)).map fun j => (j, b)

/-- Some offer meets the request. -/
def isMet (r : α → β → Bool) (offers : List β) (a : α) : Bool := offers.any (r a)

/-- The offer meets some request. -/
def isUseful (r : α → β → Bool) (requests : List α) (b : β) : Bool := requests.any (r · b)

/-- A search through the indices of a list is a search through the list. -/
theorem findSome?_range (l : List β) (d : β) (f : β → Option γ) :
    ((List.range l.length).findSome? fun i => f (l[i]?.getD d)) = l.findSome? f := by
  have hmap : (List.range l.length).map (fun i => l[i]?.getD d) = l := by
    refine List.ext_getElem (by simp) fun i hi hi' => ?_
    simp [hi']
  conv_rhs => rw [← hmap]
  rw [List.findSome?_map]
  rfl

theorem searchOffers_eq_none_iff :
    searchOffers r requests offers = none ↔ ∀ a ∈ requests, ∀ b ∈ offers, r a b = false := by
  unfold searchOffers
  simp only [List.findSome?_eq_none_iff, Option.map_eq_none_iff, List.findIdx?_eq_none_iff]
  constructor
  · intro h a ha b hb
    exact h b hb a ha
  · intro h b hb a ha
    exact h a ha b hb

/-- What the search finds. -/
theorem searchOffers_eq_some {j : Nat} {b : β}
    (h : searchOffers r requests offers = some (j, b)) :
    b ∈ offers ∧ requests.findIdx? (r · b) = some j ∧
      offers.find? (isUseful r requests) = some b := by
  obtain ⟨before, b', after, rfl, hb, hbefore⟩ := List.findSome?_eq_some_iff.mp h
  obtain ⟨j', hidx, heq⟩ := Option.map_eq_some_iff.mp hb
  obtain ⟨rfl, rfl⟩ := Prod.mk.inj heq
  refine ⟨by simp, hidx, List.find?_eq_some_iff_append.mpr ⟨?_, before, after, rfl, ?_⟩⟩
  · obtain ⟨hlt, hmeets, -⟩ := List.findIdx?_eq_some_iff_getElem.mp hidx
    exact List.any_eq_true.mpr ⟨_, List.getElem_mem hlt, hmeets⟩
  · intro b hb
    have hnone := List.findIdx?_eq_none_iff.mp (Option.map_eq_none_iff.mp (hbefore b hb))
    rw [isUseful, List.any_eq_false.mpr fun a ha => Bool.eq_false_iff.mp (hnone a ha)]
    rfl

/-- **The search finds the first request that can be met exactly if** the first useful offer meets
it. -/
theorem searchOffers_first_iff {j : Nat} {b : β}
    (h : searchOffers r requests offers = some (j, b)) :
    requests.findIdx? (isMet r offers) = some j ↔
      ∀ a, requests.find? (isMet r offers) = some a → r a b = true := by
  obtain ⟨hb, hidx, -⟩ := searchOffers_eq_some h
  obtain ⟨hlt, hmeets, hmin⟩ := List.findIdx?_eq_some_iff_getElem.mp hidx
  have hmet : isMet r offers requests[j] = true := List.any_eq_true.mpr ⟨b, hb, hmeets⟩
  -- The first request that can be met isn't behind the one that is found.
  have hle {i : Nat} (hi : i < requests.length)
      (hbefore : ∀ k (hk : k < i), (!isMet r offers requests[k]) = true) : i ≤ j := by
    by_contra hlt'
    have hnot := hbefore j (Nat.lt_of_not_le hlt')
    rw [hmet] at hnot
    cases hnot
  constructor
  · intro hfirst a ha
    obtain ⟨_, _, hnone⟩ := List.findIdx?_eq_some_iff_getElem.mp hfirst
    obtain ⟨hp, i, hi, rfl, hbefore⟩ := List.find?_eq_some_iff_getElem.mp ha
    rcases Nat.lt_or_eq_of_le (hle hi hbefore) with hlt' | rfl
    · exact absurd hp (hnone i hlt')
    · exact hmeets
  · intro hfirst
    obtain ⟨a, ha⟩ := Option.isSome_iff_exists.mp
      (List.find?_isSome.mpr ⟨requests[j], List.getElem_mem hlt, hmet⟩)
    have hmeets' := hfirst a ha
    obtain ⟨-, i, hi, rfl, hbefore⟩ := List.find?_eq_some_iff_getElem.mp ha
    obtain rfl : i = j := by
      refine Nat.le_antisymm (hle hi hbefore) (Nat.le_of_not_lt fun hlt' => ?_)
      exact hmin i hlt' hmeets'
    refine List.findIdx?_eq_some_iff_getElem.mpr ⟨hlt, hmet, fun k hk hp => ?_⟩
    have hnot := hbefore k hk
    rw [hp] at hnot
    cases hnot

end Infra
