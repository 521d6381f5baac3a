import Mathlib.Data.List.Nodup
import Mathlib.Logic.Function.Basic
import Mathlib.Tactic.Common

/-!
# Doubly linked lists

The pointers of a list are functions of its nodes. A missing pointer stands for the place in front
of the first node as well as for the one behind the last, so that most operations have no cases.

* `Links.Seg` — a piece of a list, between what is in front of it and what is behind it
* `Links.Holds` — the pointers are those of a list
* `Holds.unlink`, `Holds.replace`, `Holds.pushFront`, `Holds.insertAfter`, `Holds.removeAfter` — the
  operations
-/

namespace Infra

/-- The pointers: to the first node, and from each node to those around it. -/
structure Links (α : Type) where
  first : Option α
  next : α → Option α
  prev : α → Option α

namespace Links

variable {α : Type}

/-- The pointer behind a node. -/
def after (L : Links α) : Option α → Option α
  | none => L.first
  | some a => L.next a

/-! ## Operations -/

section Operations

variable [DecidableEq α]

/-- Set the pointer behind a node. -/
def setAfter (L : Links α) (x y : Option α) : Links α :=
  match x with
  | none => { L with first := y }
  | some a => { L with next := Function.update L.next a y }

/-- Set the pointer of a node to the one in front of it. -/
def setBefore (L : Links α) (y x : Option α) : Links α :=
  match y with
  | none => L
  | some b => { L with prev := Function.update L.prev b x }

/-- Take a node out. -/
def unlink (L : Links α) (a : α) : Links α :=
  let L := L.setAfter (L.prev a) (L.next a)
  L.setBefore (L.next a) (L.prev a)

/-- Put a node in the place of another. -/
def replace (L : Links α) (a c : α) : Links α :=
  let L := L.setBefore (some c) (L.prev a)
  let L := L.setAfter (some c) (L.next a)
  let L := L.setAfter (L.prev c) (some c)
  L.setBefore (L.next c) (some c)

/-- Put a node in front. -/
def pushFront (L : Links α) (c : α) : Links α :=
  let L := L.setAfter (some c) L.first
  let L := L.setBefore L.first (some c)
  L.setAfter none (some c)

/-- Put a node behind another. -/
def insertAfter (L : Links α) (a c : α) : Links α :=
  let L := L.setBefore (some c) (some a)
  let L := L.setAfter (some c) (L.next a)
  let L := L.setBefore (L.next c) (some c)
  L.setAfter (some a) (some c)

/-- Take out a node by the one in front of it. -/
def removeAfter (L : Links α) (p a : α) : Links α :=
  let L := L.setAfter (some p) (L.next a)
  L.setBefore (L.next p) (some p)

/-- Clear the pointers of a node. -/
def clear (L : Links α) (a : α) : Links α := (L.setBefore (some a) none).setAfter (some a) none

/-- Set both pointers between two nodes. -/
def link (L : Links α) (x y : Option α) : Links α := (L.setAfter x y).setBefore y x

variable (L : Links α) (x y z : Option α) (a : α)

@[simp] theorem after_setAfter :
    (L.setAfter x y).after z = if z = x then y else L.after z := by
  cases x <;> cases z <;> simp [setAfter, after, Function.update_apply]

@[simp] theorem next_setAfter :
    (L.setAfter x y).next a = if x = some a then y else L.next a := by
  cases x <;> simp [setAfter, Function.update_apply, eq_comm]

@[simp] theorem next_setBefore : (L.setBefore y x).next = L.next := by
  cases y <;> rfl

@[simp] theorem first_setBefore : (L.setBefore y x).first = L.first := by
  cases y <;> rfl

@[simp] theorem prev_setAfter : (L.setAfter x y).prev = L.prev := by
  cases x <;> rfl

@[simp] theorem after_setBefore : (L.setBefore y x).after = L.after := by
  cases y <;> rfl

@[simp] theorem prev_setBefore :
    (L.setBefore y x).prev a = if y = some a then x else L.prev a := by
  cases y <;> simp [setBefore, Function.update_apply, eq_comm]

theorem setAfter_setBefore (u v : Option α) :
    (L.setBefore y x).setAfter u v = (L.setAfter u v).setBefore y x := by
  cases y <;> cases u <;> rfl

@[simp] theorem after_link : (L.link x y).after z = if z = x then y else L.after z := by
  simp [link]

@[simp] theorem prev_link : (L.link x y).prev a = if y = some a then x else L.prev a := by
  simp [link]

end Operations

/-! ## Pieces of a list -/

/-- The last node, or what is in front of all of them. -/
def lastOf : Option α → List α → Option α
  | p, [] => p
  | _, a :: l => lastOf (some a) l

/-- The nodes of a piece, which is behind `p` and in front of `q`. -/
def Seg (L : Links α) : Option α → List α → Option α → Prop
  | p, [], q => L.after p = q
  | p, a :: l, q => L.after p = some a ∧ L.prev a = p ∧ L.Seg (some a) l q

/-- The nodes behind the first one of a list. -/
def Tail (L : Links α) : List α → Prop
  | [] => True
  | b :: l => L.Seg (some b) l none

section

variable {L L' : Links α} {p q : Option α} {a : α} {l l' : List α}

@[simp] theorem lastOf_concat : lastOf p (l ++ [a]) = some a := by
  induction l generalizing p with
  | nil => rfl
  | cons b l ih => exact ih

theorem lastOf_eq (p : Option α) (l : List α) : lastOf p l = p ∨ ∃ a ∈ l, lastOf p l = some a := by
  induction l generalizing p with
  | nil => exact .inl rfl
  | cons b l ih =>
    right
    rcases ih (some b) with h | ⟨a, ha, h⟩
    · exact ⟨b, List.mem_cons_self, h⟩
    · exact ⟨a, List.mem_cons_of_mem _ ha, h⟩

theorem seg_append :
    L.Seg p (l ++ a :: l') q ↔
      L.Seg p l (some a) ∧ L.prev a = lastOf p l ∧ L.Seg (some a) l' q := by
  induction l generalizing p with
  | nil => exact Iff.rfl
  | cons b l ih =>
    simp only [List.cons_append, Seg, lastOf, ih]
    tauto

/-- A piece only has to do with the pointers of its nodes. -/
theorem Seg.congr (h : L.Seg p l q) (hp : L'.after p = L.after p)
    (hnext : ∀ a ∈ l, L'.after (some a) = L.after (some a))
    (hprev : ∀ a ∈ l, L'.prev a = L.prev a) : L'.Seg p l q := by
  induction l generalizing p with
  | nil => exact hp.trans h
  | cons a l ih =>
    obtain ⟨hafter, hbefore, hrest⟩ := h
    refine ⟨hp.trans hafter, (hprev a List.mem_cons_self).trans hbefore, ?_⟩
    refine ih hrest (hnext a List.mem_cons_self) ?_ ?_
    · intro b hb
      exact hnext b (List.mem_cons_of_mem _ hb)
    · intro b hb
      exact hprev b (List.mem_cons_of_mem _ hb)

theorem Seg.after_eq (h : L.Seg p l none) : L.after p = l.head? := by
  cases l with
  | nil => exact h
  | cons a l => exact h.1

theorem Seg.tail (h : L.Seg p l none) : L.Tail l := by
  cases l with
  | nil => trivial
  | cons a l => exact h.2.2

variable [DecidableEq α]

/-- Another end. -/
theorem Seg.setAfter (h : L.Seg p l q) (hnodup : l.Nodup) (hp : ∀ a ∈ l, p ≠ some a)
    (q' : Option α) : (L.setAfter (lastOf p l) q').Seg p l q' := by
  induction l generalizing p with
  | nil => simp [Seg, lastOf]
  | cons a l ih =>
    obtain ⟨hafter, hbefore, hrest⟩ := h
    rw [List.nodup_cons] at hnodup
    have hlast : p ≠ lastOf (some a) l := by
      rcases lastOf_eq (some a) l with hl | ⟨b, hb, hl⟩
      · rw [hl]
        exact hp a List.mem_cons_self
      · rw [hl]
        exact hp b (List.mem_cons_of_mem _ hb)
    refine ⟨?_, ?_, ?_⟩
    · simp [lastOf, hlast, hafter]
    · simp [hbefore]
    · refine ih hrest hnodup.2 ?_
      intro b hb heq
      exact hnodup.1 (Option.some.inj heq ▸ hb)

/-- **Two pieces are put together by the pointers between them.** -/
theorem Seg.splice {l₁ l₂ : List α} (h₁ : L.Seg p l₁ q) (h₂ : L.Tail l₂)
    (hnodup : (l₁ ++ l₂).Nodup) (hp : ∀ a ∈ l₁ ++ l₂, p ≠ some a) :
    (L.link (lastOf p l₁) l₂.head?).Seg p (l₁ ++ l₂) none := by
  obtain ⟨hnodup₁, hnodup₂, hdisjoint⟩ := List.nodup_append.mp hnodup
  have hp₁ : ∀ a ∈ l₁, p ≠ some a := by
    intro a ha
    exact hp a (List.mem_append_left _ ha)
  cases l₂ with
  | nil =>
    rw [List.append_nil]
    exact h₁.setAfter hnodup₁ hp₁ none
  | cons b l₃ =>
    have hlast : ∀ c ∈ b :: l₃, lastOf p l₁ ≠ some c := by
      intro c hc heq
      rcases lastOf_eq p l₁ with hl | ⟨a, ha, hl⟩
      · exact hp c (List.mem_append_right _ hc) (hl.symm.trans heq)
      · exact hdisjoint a ha c hc (Option.some.inj (hl.symm.trans heq))
    rw [seg_append]
    refine ⟨?_, ?_, ?_⟩
    · refine (h₁.setAfter hnodup₁ hp₁ (some b)).congr ?_ ?_ ?_
      · simp [link]
      · simp [link]
      · intro a ha
        have hne : b ≠ a := (hdisjoint a ha b List.mem_cons_self).symm
        simp [link, hne]
    · simp
    · rw [List.nodup_cons] at hnodup₂
      refine Seg.congr h₂ ?_ ?_ ?_
      · simp [(hlast b List.mem_cons_self).symm]
      · intro c hc
        simp [(hlast c (List.mem_cons_of_mem _ hc)).symm]
      · intro c hc
        have hne : b ≠ c := by
          rintro rfl
          exact hnodup₂.1 hc
        simp [hne]

end

/-! ## Lists -/

/-- The pointers are those of this list. -/
def Holds (L : Links α) (l : List α) : Prop := l.Nodup ∧ L.Seg none l none

section

variable {L L' : Links α} {a c : α} {l l₁ l₂ : List α}

theorem Holds.first_eq (h : L.Holds l) : L.first = l.head? := h.2.after_eq

/-- A node is at this place, or it is elsewhere in the list. -/
theorem mem_middle : c ∈ l₁ ++ a :: l₂ ↔ c = a ∨ c ∈ l₁ ++ l₂ :=
  List.perm_middle.mem_iff.trans List.mem_cons

theorem Holds.split (h : L.Holds (l₁ ++ a :: l₂)) :
    L.Seg none l₁ (some a) ∧ L.Seg (some a) l₂ none ∧ L.prev a = lastOf none l₁ ∧
      L.next a = l₂.head? ∧ (l₁ ++ l₂).Nodup ∧ a ∉ l₁ ++ l₂ := by
  obtain ⟨hnodup, hseg⟩ := h
  obtain ⟨hfront, hprev, hback⟩ := seg_append.mp hseg
  rw [List.nodup_middle, List.nodup_cons] at hnodup
  exact ⟨hfront, hback, hprev, hback.after_eq, hnodup.2, hnodup.1⟩

/-- The nodes of the rest. -/
theorem Holds.mem_rest (h : L.Holds (l₁ ++ a :: l₂)) :
    c ∈ l₁ ++ l₂ ↔ c ∈ l₁ ++ a :: l₂ ∧ c ≠ a := by
  have hgone := h.split.2.2.2.2.2
  rw [mem_middle]
  constructor
  · intro hc
    refine ⟨.inr hc, ?_⟩
    rintro rfl
    exact hgone hc
  · rintro ⟨hc, hne⟩
    exact hc.resolve_left hne

/-- Pointers of other nodes don't matter. -/
theorem Holds.congr (h : L.Holds l) (hfirst : L'.first = L.first)
    (hnext : ∀ a ∈ l, L'.next a = L.next a) (hprev : ∀ a ∈ l, L'.prev a = L.prev a) : L'.Holds l :=
  ⟨h.1, h.2.congr hfirst hnext hprev⟩

theorem lastOf_ne (hc : c ∉ l) : lastOf none l ≠ some c := by
  rcases lastOf_eq none l with hl | ⟨a, ha, hl⟩
  · simp [hl]
  · rw [hl]
    rintro ⟨⟩
    exact hc ha

theorem head?_ne (hc : c ∉ l) : l.head? ≠ some c := by
  intro h
  exact hc (List.mem_of_head? h)

/-- Around a node are two different nodes. -/
theorem Holds.prev_ne_next (h : L.Holds l) (ha : a ∈ l) :
    ¬(L.prev a ≠ none ∧ L.prev a = L.next a) := by
  obtain ⟨l₁, l₂, rfl⟩ := List.append_of_mem ha
  obtain ⟨-, -, hprev, hnext, hnodup, -⟩ := h.split
  obtain ⟨-, -, hdisjoint⟩ := List.nodup_append.mp hnodup
  rintro ⟨hsome, heq⟩
  rw [hprev] at hsome heq
  rcases lastOf_eq none l₁ with hnone | ⟨b, hb, hlast⟩
  · exact hsome hnone
  · have hhead : l₂.head? = some b := hnext.symm.trans (heq.symm.trans hlast)
    exact hdisjoint b hb b (List.mem_of_head? hhead) rfl

/-- In a list with another node, a node has a pointer. -/
theorem Holds.linked (h : L.Holds l) (ha : a ∈ l) (hc : c ∈ l) (hne : a ≠ c) :
    L.prev a ≠ none ∨ L.next a ≠ none := by
  obtain ⟨l₁, l₂, rfl⟩ := List.append_of_mem ha
  obtain ⟨-, -, hprev, hnext, -⟩ := h.split
  rcases l₁.eq_nil_or_concat with rfl | ⟨l₀, b, rfl⟩
  · right
    intro hnone
    rw [hnext, List.head?_eq_none_iff] at hnone
    subst hnone
    exact hne (List.mem_singleton.mp hc).symm
  · left
    simp [hprev]

variable [DecidableEq α]

/-- Two lists around a node that is in neither. -/
theorem Holds.around {q : Option α} (h₁ : L.Seg none l₁ q) (h₂ : L.Tail l₂)
    (hnodup : (l₁ ++ l₂).Nodup) (hc : c ∉ l₁ ++ l₂) :
    ((L.link (some c) l₂.head?).link (lastOf none l₁) (some c)).Holds (l₁ ++ c :: l₂) := by
  have hnodup' : (l₁ ++ c :: l₂).Nodup := List.nodup_middle.mpr (List.nodup_cons.mpr ⟨hc, hnodup⟩)
  obtain ⟨-, hnodup₂, hdisjoint⟩ := List.nodup_append.mp hnodup
  rw [List.mem_append, not_or] at hc
  have hback : (L.link (some c) l₂.head?).Seg (some c) l₂ none := by
    have hne : ∀ a ∈ l₂, some c ≠ some a := by
      rintro a ha ⟨⟩
      exact hc.2 ha
    have hempty : L.Seg (some c) [] (L.next c) := rfl
    exact hempty.splice h₂ hnodup₂ hne
  have hfront : (L.link (some c) l₂.head?).Seg none l₁ q := by
    refine h₁.congr (by simp) ?_ ?_
    · intro a ha
      have hne : a ≠ c := by
        rintro rfl
        exact hc.1 ha
      simp [hne]
    · intro a ha
      have hne : l₂.head? ≠ some a := by
        intro hhead
        exact hdisjoint a ha a (List.mem_of_head? hhead) rfl
      simp [hne]
  have htail : (L.link (some c) l₂.head?).Tail (c :: l₂) := hback
  refine ⟨hnodup', hfront.splice htail hnodup' ?_⟩
  intro a _ h
  cases h

/-- Cleared pointers stay cleared. -/
theorem clear_clear (L : Links α) (a : α) : (L.clear a).clear a = L.clear a := by
  simp [Links.clear, setAfter, setBefore]

/-- The pointers of a node between two others, in any order. -/
theorem setBetween_eq {x y : Option α} (hx : x ≠ some c) (hy : y ≠ some c) :
    (((L.setBefore (some c) x).setAfter (some c) y).setAfter x (some c)).setBefore y (some c) =
      (L.link (some c) y).link x (some c) := by
  cases x with
  | none =>
    cases y with
    | none => rfl
    | some b =>
      have hne : b ≠ c := fun h => hy (congrArg some h)
      simp [setAfter, setBefore, link, Function.update_comm hne]
  | some a =>
    cases y with
    | none => rfl
    | some b =>
      have hne : b ≠ c := fun h => hy (congrArg some h)
      simp [setAfter, setBefore, link, Function.update_comm hne]

/-- A pointer that is missing already. -/
theorem setBefore_none (h : L.prev c = none) : L.setBefore (some c) none = L := by
  have hsame : Function.update L.prev c none = L.prev := by
    rw [← h]
    exact Function.update_eq_self c L.prev
  exact congrArg (fun prev => { L with prev }) hsame

theorem Holds.unlink (h : L.Holds (l₁ ++ a :: l₂)) : (L.unlink a).Holds (l₁ ++ l₂) := by
  obtain ⟨hfront, hback, hprev, hnext, hnodup, ha⟩ := h.split
  rw [List.mem_append, not_or] at ha
  have hkept : (L.setAfter (lastOf none l₁) l₂.head?).next a = l₂.head? := by
    have hself := after_setAfter L (lastOf none l₁) l₂.head? (some a)
    rw [if_neg (lastOf_ne ha.1).symm] at hself
    exact hself.trans hnext
  have heq : L.unlink a = L.link (lastOf none l₁) l₂.head? := by
    simp only [Links.unlink, hprev, hnext, hkept, prev_setAfter]
    rfl
  rw [heq]
  refine ⟨hnodup, hfront.splice hback.tail hnodup ?_⟩
  intro c _ hc
  cases hc

theorem Holds.replace (h : L.Holds (l₁ ++ a :: l₂)) (hc : c ∉ l₁ ++ a :: l₂) :
    (L.replace a c).Holds (l₁ ++ c :: l₂) := by
  obtain ⟨hfront, hback, hprev, hnext, hnodup, -⟩ := h.split
  simp only [List.mem_append, List.mem_cons, not_or] at hc
  obtain ⟨hc₁, hca, hc₂⟩ := hc
  have hne : a ≠ c := Ne.symm hca
  have hx := lastOf_ne hc₁
  have hy := head?_ne hc₂
  have heq : L.replace a c = (L.link (some c) l₂.head?).link (lastOf none l₁) (some c) := by
    rw [← setBetween_eq hx hy]
    simp [Links.replace, hprev, hnext, hx]
  rw [heq]
  refine Holds.around hfront hback.tail hnodup ?_
  simp [hc₁, hc₂]

theorem Holds.pushFront (h : L.Holds l) (hc : c ∉ l) (hprev : L.prev c = none) :
    (L.pushFront c).Holds (c :: l) := by
  have hempty : L.Seg none [] L.first := rfl
  have hne : l.head? ≠ some c := head?_ne hc
  have heq : L.pushFront c = (L.link (some c) l.head?).link (lastOf none []) (some c) := by
    have hnone : ((L.link (some c) l.head?).setAfter none (some c)).prev c = none := by
      simp [hne, hprev]
    have hself : (L.setAfter (some c) l.head?).first = l.head? := h.first_eq
    have hkept := setBefore_none hnone
    simp only [Links.pushFront, h.first_eq, hself]
    exact hkept.symm
  rw [heq]
  refine Holds.around hempty h.2.tail h.1 ?_
  simpa using hc

theorem Holds.insertAfter (h : L.Holds (l₁ ++ a :: l₂)) (hc : c ∉ l₁ ++ a :: l₂) :
    (L.insertAfter a c).Holds (l₁ ++ a :: c :: l₂) := by
  obtain ⟨hfront, hback, hprev, hnext, hnodup, ha⟩ := h.split
  have hsplit : l₁ ++ a :: l₂ = (l₁ ++ [a]) ++ l₂ := by simp
  rw [hsplit] at h hc
  have hlast : lastOf none (l₁ ++ [a]) = some a := lastOf_concat
  have hfront' : L.Seg none (l₁ ++ [a]) l₂.head? := seg_append.mpr ⟨hfront, hprev, hnext⟩
  have heq : L.insertAfter a c = (L.link (some c) l₂.head?).link (some a) (some c) := by
    have hx : some a ≠ some c := by
      rintro ⟨⟩
      simp at hc
    have hy : l₂.head? ≠ some c := head?_ne fun hmem => hc (List.mem_append_right _ hmem)
    rw [← setBetween_eq hx hy]
    simp [Links.insertAfter, hnext, setAfter_setBefore]
  have haround := Holds.around hfront' hback.tail h.1 hc
  rw [hlast, ← heq] at haround
  simpa using haround

theorem Holds.removeAfter {p : α} (h : L.Holds (l₁ ++ p :: a :: l₂)) :
    (L.removeAfter p a).Holds (l₁ ++ p :: l₂) := by
  have hsplit : l₁ ++ p :: a :: l₂ = (l₁ ++ [p]) ++ a :: l₂ := by simp
  rw [hsplit] at h
  obtain ⟨-, -, hprev, -⟩ := h.split
  have hunlink := h.unlink
  have heq : L.removeAfter p a = L.unlink a := by
    rw [lastOf_concat] at hprev
    simp [Links.removeAfter, Links.unlink, hprev]
  rw [heq]
  simpa using hunlink

/-- The operations leave other nodes alone. -/
theorem Holds.unlink_frame (h : L.Holds l) (ha : a ∈ l) (hc : c ∉ l) :
    (L.unlink a).prev c = L.prev c ∧ (L.unlink a).next c = L.next c := by
  obtain ⟨l₁, l₂, rfl⟩ := List.append_of_mem ha
  obtain ⟨-, -, hprev, hnext, -⟩ := h.split
  simp only [List.mem_append, List.mem_cons, not_or] at hc
  obtain ⟨hc₁, hca, hc₂⟩ := hc
  have hx := lastOf_ne hc₁
  have hy := head?_ne hc₂
  simp [Links.unlink, hprev, hnext, hx, hy]

theorem Holds.replace_frame {d : α} (h : L.Holds l) (ha : a ∈ l) (hd : d ∉ l) (hdc : d ≠ c)
    (hc : c ∉ l) : (L.replace a c).prev d = L.prev d ∧ (L.replace a c).next d = L.next d := by
  obtain ⟨l₁, l₂, rfl⟩ := List.append_of_mem ha
  obtain ⟨-, -, hprev, hnext, -⟩ := h.split
  simp only [List.mem_append, List.mem_cons, not_or] at hd hc
  have hx := lastOf_ne hd.1
  have hy := head?_ne hd.2.2
  have hx' := lastOf_ne hc.1
  simp [Links.replace, hprev, hnext, hx, hy, hx', hdc.symm]

theorem Holds.pushFront_frame {d : α} (h : L.Holds l) (hd : d ∉ l) (hdc : d ≠ c) :
    (L.pushFront c).prev d = L.prev d ∧ (L.pushFront c).next d = L.next d := by
  have hfirst : L.first ≠ some d := h.first_eq ▸ head?_ne hd
  have hself : (L.setAfter (some c) L.first).first = L.first := rfl
  simp [Links.pushFront, hself, hfirst, hdc.symm]

theorem Holds.clear (h : L.Holds l) (ha : a ∉ l) : (L.clear a).Holds l := by
  refine h.congr rfl ?_ ?_
  · intro b hb
    have hne : b ≠ a := by
      rintro rfl
      exact ha hb
    simp [Links.clear, Links.setAfter, Links.setBefore, hne]
  · intro b hb
    have hne : b ≠ a := by
      rintro rfl
      exact ha hb
    simp [Links.clear, Links.setAfter, Links.setBefore, hne]

end

end Links

end Infra
