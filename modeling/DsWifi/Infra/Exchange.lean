import Mathlib.Tactic.Common

/-!
# Requests and answers over two links

Both links can lose what they carry, and keep the order. Every request carries a larger number than
the one before it, and its answer carries the same number. The requester only takes an answer with
the number of its last request.

* `Numbered.current` — the answer to the last request is all that is under way
-/

namespace Infra

variable {α β : Type} {reqNum : α → Nat} {ansNum : β → Nat} {last : Nat}
  {requests : List α} {answers : List β}

/-- The numbers of all that is under way, the answers first. -/
def underWay (reqNum : α → Nat) (ansNum : β → Nat) (requests : List α) (answers : List β) :
    List Nat :=
  answers.map ansNum ++ requests.map reqNum

/-- Numbers grow up to the one of the last request. -/
structure Numbered (reqNum : α → Nat) (ansNum : β → Nat) (last : Nat) (requests : List α)
    (answers : List β) : Prop where
  growing : (underWay reqNum ansNum requests answers).Pairwise (· < ·)
  le_last : ∀ n ∈ underWay reqNum ansNum requests answers, n ≤ last

namespace Numbered

theorem nil (reqNum : α → Nat) (ansNum : β → Nat) (last : Nat) :
    Numbered reqNum ansNum last [] [] :=
  ⟨List.Pairwise.nil, fun _ hn => nomatch hn⟩

/-- What is left under way if some of it is lost. -/
theorem sublist {requests' : List α} {answers' : List β}
    (h : Numbered reqNum ansNum last requests answers)
    (hsub : (underWay reqNum ansNum requests' answers').Sublist
      (underWay reqNum ansNum requests answers)) :
    Numbered reqNum ansNum last requests' answers' :=
  ⟨h.growing.sublist hsub, fun n hn => h.le_last n (hsub.subset hn)⟩

/-- A request is lost. -/
theorem lose_request {a : α} (h : Numbered reqNum ansNum last (a :: requests) answers) :
    Numbered reqNum ansNum last requests answers :=
  h.sublist (List.Sublist.append_left (List.sublist_cons_self _ _) _)

/-- An answer is lost, or is taken. -/
theorem lose_answer {b : β} (h : Numbered reqNum ansNum last requests (b :: answers)) :
    Numbered reqNum ansNum last requests answers :=
  h.sublist (List.sublist_cons_self _ _)

/-- A request with a new number is sent. -/
theorem send {a : α} (h : Numbered reqNum ansNum last requests answers) (ha : last < reqNum a) :
    Numbered reqNum ansNum (reqNum a) (requests ++ [a]) answers := by
  have heq : underWay reqNum ansNum (requests ++ [a]) answers =
      underWay reqNum ansNum requests answers ++ [reqNum a] := by
    simp [underWay]
  constructor
  · rw [heq, List.pairwise_append]
    refine ⟨h.growing, List.pairwise_singleton _ _, fun n hn m hm => ?_⟩
    rw [List.mem_singleton.mp hm]
    exact Nat.lt_of_le_of_lt (h.le_last n hn) ha
  · intro n hn
    rw [heq, List.mem_append, List.mem_singleton] at hn
    rcases hn with hn | rfl
    · exact Nat.le_of_lt (Nat.lt_of_le_of_lt (h.le_last n hn) ha)
    · exact Nat.le_refl _

/-- A request is answered: nothing of the numbers changes. -/
theorem answer {a : α} {b : β} (h : Numbered reqNum ansNum last (a :: requests) answers)
    (hb : ansNum b = reqNum a) : Numbered reqNum ansNum last requests (answers ++ [b]) := by
  have heq : underWay reqNum ansNum requests (answers ++ [b]) =
      underWay reqNum ansNum (a :: requests) answers := by
    simp [underWay, hb]
  exact ⟨heq ▸ h.growing, heq ▸ h.le_last⟩

theorem request_le {a : α} (h : Numbered reqNum ansNum last requests answers)
    (ha : a ∈ requests) : reqNum a ≤ last :=
  h.le_last _ (List.mem_append_right _ (List.mem_map_of_mem ha))

theorem answer_le {b : β} (h : Numbered reqNum ansNum last requests answers)
    (hb : b ∈ answers) : ansNum b ≤ last :=
  h.le_last _ (List.mem_append_left _ (List.mem_map_of_mem hb))

/-- An answer is older than what is still to be answered. -/
theorem lt_request {a : α} {b : β} (h : Numbered reqNum ansNum last requests answers)
    (hb : b ∈ answers) (ha : a ∈ requests) : ansNum b < reqNum a :=
  (List.pairwise_append.mp h.growing).2.2 _ (List.mem_map_of_mem hb) _ (List.mem_map_of_mem ha)

/-- While something is still to be answered, no answer is the one to the last request. -/
theorem answer_lt {a : α} {b : β} (h : Numbered reqNum ansNum last requests answers)
    (hb : b ∈ answers) (ha : a ∈ requests) : ansNum b < last :=
  Nat.lt_of_lt_of_le (h.lt_request hb ha) (h.request_le ha)

/-- **The answer to the last request is all that is under way.** -/
theorem current {b : β} (h : Numbered reqNum ansNum last requests (b :: answers))
    (hb : ansNum b = last) : requests = [] ∧ answers = [] := by
  constructor
  · refine List.eq_nil_iff_forall_not_mem.mpr fun a ha => ?_
    exact absurd hb (Nat.ne_of_lt (h.answer_lt (List.mem_cons_self ..) ha))
  · refine List.eq_nil_iff_forall_not_mem.mpr fun b' hb' => ?_
    have hgrow := (List.pairwise_append.mp h.growing).1
    have hlt := (List.pairwise_cons.mp hgrow).1 _ (List.mem_map_of_mem hb')
    have hle := h.answer_le (List.mem_cons_of_mem b hb')
    omega

end Numbered

end Infra
