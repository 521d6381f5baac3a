import DsWifi.Infra.Memory
import Mathlib.Data.List.Induction

/-!
# Information elements

A sequence of elements in memory: a type byte, a length byte, and as many bytes as that. A parser
walks over it and does something at each element, with a state of its own.

* `walk_elements` — walking over the encoding of elements is folding over the elements
* `map_walk` — what depends on nothing but the elements is a fold over those that are read
* `visits_elements` — it comes to the start of each element, and nowhere else
* `walk_eq_foldl` — a walk is a fold over the places where it comes
* `walk_inv` — what the handler keeps wherever the walk comes
-/

namespace Infra

open Mem

/-- An element. -/
structure Element where
  id : UInt8
  body : List UInt8
  length_lt : body.length < 2 ^ 8

namespace Element

def bytes (e : Element) : List UInt8 := e.id :: UInt8.ofNat e.body.length :: e.body

theorem length_bytes (e : Element) : e.bytes.length = e.body.length + 2 := rfl

end Element

/-- The encoding of a sequence of elements. -/
def elementsBytes (es : List Element) : List UInt8 := es.flatMap Element.bytes

@[simp] theorem elementsBytes_nil : elementsBytes [] = [] := rfl

@[simp] theorem elementsBytes_cons (e : Element) (es : List Element) :
    elementsBytes (e :: es) = e.bytes ++ elementsBytes es := rfl

theorem elementsBytes_append (es es' : List Element) :
    elementsBytes (es ++ es') = elementsBytes es ++ elementsBytes es' :=
  List.flatMap_append

variable {σ : Type}

/-- Walk over the elements from `i` on, up to `len`. The handler gets the type, the length, and
where the element's bytes start. -/
def walk (m : Mem) (handle : Nat → Nat → Nat → σ → σ) (len i : Nat) (s : σ) : σ :=
  if i < len then
    let seglen := (m (i + 1)).toNat
    walk m handle len (i + 2 + seglen) (handle (m i).toNat seglen (i + 2) s)
  else s
termination_by len - i

/-- Do the same for elements that are not in memory. -/
def foldElements (handle : Nat → Nat → Nat → σ → σ) : List Element → Nat → σ → σ
  | [], _, s => s
  | e :: es, i, s =>
    foldElements handle es (i + 2 + e.body.length) (handle e.id.toNat e.body.length (i + 2) s)

variable {m : Mem} {handle : Nat → Nat → Nat → σ → σ} {len i : Nat} {s : σ}

theorem foldElements_append (es es' : List Element) : foldElements handle (es ++ es') i s =
    foldElements handle es' (i + (elementsBytes es).length) (foldElements handle es i s) := by
  induction es generalizing i s with
  | nil => rfl
  | cons e es ih =>
    rw [List.cons_append, foldElements, ih, foldElements, elementsBytes_cons, List.length_append,
      e.length_bytes]
    congr 1
    omega

theorem walk_of_le (h : len ≤ i) : walk m handle len i s = s := by
  rw [walk, if_neg (by omega)]

theorem walk_of_lt (h : i < len) : walk m handle len i s =
    walk m handle len (i + 2 + (m (i + 1)).toNat)
      (handle (m i).toNat (m (i + 1)).toNat (i + 2) s) := by
  rw [walk, if_pos h]

/-- What is in memory at the start of an element. -/
theorem header_of_element {e : Element} (h : loadBytes m i e.bytes.length = e.bytes) :
    m i = e.id ∧ (m (i + 1)).toNat = e.body.length := by
  have hbyte (k : Nat) (hk : k < e.bytes.length) : e.bytes[k]? = some (m (i + k)) := by
    rw [← h, getElem?_loadBytes hk]
  have hlen := e.length_bytes
  have hid : m i = e.id := (Option.some.inj (hbyte 0 (by omega))).symm
  have hseglen : m (i + 1) = UInt8.ofNat e.body.length :=
    (Option.some.inj (hbyte 1 (by omega))).symm
  refine ⟨hid, ?_⟩
  rw [hseglen, UInt8.toNat_ofNat', Nat.mod_eq_of_lt e.length_lt]

/-- The walk passes over an element. -/
theorem walk_element {e : Element} (h : loadBytes m i e.bytes.length = e.bytes) (hlt : i < len) :
    walk m handle len i s =
      walk m handle len (i + 2 + e.body.length)
        (handle e.id.toNat e.body.length (i + 2) s) := by
  obtain ⟨hid, hseglen⟩ := header_of_element h
  rw [walk_of_lt hlt, hid, hseglen]

/-- **Walking over the encoding of elements is folding over the elements.** -/
theorem walk_elements {es : List Element}
    (h : loadBytes m i (elementsBytes es).length = elementsBytes es)
    (hlen : len = i + (elementsBytes es).length) :
    walk m handle len i s = foldElements handle es i s := by
  induction es generalizing i s with
  | nil => exact walk_of_le (by simp [hlen])
  | cons e es ih =>
    rw [elementsBytes_cons] at h hlen
    rw [List.length_append] at hlen
    obtain ⟨hhead, htail⟩ := loadBytes_append.mp h
    have hnext : i + e.bytes.length = i + 2 + e.body.length := by
      rw [e.length_bytes]
      omega
    have hpos : 0 < e.bytes.length := by
      rw [e.length_bytes]
      omega
    rw [walk_element hhead (by omega), foldElements]
    exact ih (hnext ▸ htail) (by omega)

/-! ## What is read -/

/-- The element that starts at `i`. -/
def elementAt (m : Mem) (i : Nat) : Element where
  id := m i
  body := loadBytes m (i + 2) (m (i + 1)).toNat
  length_lt := by
    rw [length_loadBytes]
    exact (m (i + 1)).toNat_lt

/-- The elements from `i` on that start in front of `len`. -/
def readElements (m : Mem) (len i : Nat) : List Element :=
  if i < len then elementAt m i :: readElements m len (i + 2 + (m (i + 1)).toNat) else []
termination_by len - i

theorem elementAt_eq {e : Element} (h : loadBytes m i e.bytes.length = e.bytes) :
    elementAt m i = e := by
  obtain ⟨hid, hseglen⟩ := header_of_element h
  have hsplit : e.bytes = [e.id, UInt8.ofNat e.body.length] ++ e.body := rfl
  rw [hsplit] at h
  have hbody : loadBytes m (i + 2) e.body.length = e.body := (loadBytes_append.mp h).2
  obtain ⟨id, body, hlt⟩ := e
  simp only [elementAt, hid, hseglen, hbody]

/-- The elements of an encoding are read back. -/
theorem readElements_elements {es : List Element}
    (h : loadBytes m i (elementsBytes es).length = elementsBytes es)
    (hlen : len = i + (elementsBytes es).length) : readElements m len i = es := by
  induction es generalizing i with
  | nil => rw [readElements, if_neg (by simp [hlen])]
  | cons e es ih =>
    rw [elementsBytes_cons] at h hlen
    rw [List.length_append, e.length_bytes] at hlen
    obtain ⟨hhead, htail⟩ := loadBytes_append.mp h
    have hnext : i + e.bytes.length = i + 2 + e.body.length := by
      rw [e.length_bytes]
      omega
    rw [readElements, if_pos (by omega), (header_of_element hhead).2, elementAt_eq hhead,
      ih (hnext ▸ htail) (by omega)]

/-- **What depends on nothing but the elements is a fold over those that are read.** -/
theorem map_walk {τ : Type} (f : σ → τ) (g : τ → Element → τ)
    (h : ∀ i s, f (handle (m i).toNat (m (i + 1)).toNat (i + 2) s) = g (f s) (elementAt m i)) :
    f (walk m handle len i s) = (readElements m len i).foldl g (f s) := by
  fun_induction walk m handle len i s with
  | case1 i s hlt seglen ih =>
    have hread : readElements m len i = elementAt m i :: readElements m len (i + 2 + seglen) := by
      rw [readElements, if_pos hlt]
    rw [ih, h, hread, List.foldl_cons]
  | case2 i s hlt => rw [readElements, if_neg hlt, List.foldl_nil]

/-! ## Where the walk comes -/

/-- The walk over the elements from `i` on, up to `len`, comes to `k`. -/
inductive Visits (m : Mem) (len : Nat) : Nat → Nat → Prop
  | here {i : Nat} (hlt : i < len) : Visits m len i i
  | next {i k : Nat} (hlt : i < len) (h : Visits m len (i + 2 + (m (i + 1)).toNat) k) :
    Visits m len i k

theorem not_visits_of_le {k : Nat} (h : len ≤ i) : ¬ Visits m len i k := by
  intro hvisits
  cases hvisits with
  | here hlt => omega
  | next hlt _ => omega

theorem visits_iff_of_lt {k : Nat} (hlt : i < len) :
    Visits m len i k ↔ k = i ∨ Visits m len (i + 2 + (m (i + 1)).toNat) k := by
  constructor
  · intro h
    cases h with
    | here _ => exact .inl rfl
    | next _ h => exact .inr h
  · rintro (rfl | h)
    · exact .here hlt
    · exact .next hlt h

/-- **The walk over the encoding of elements comes to the start of each element**, and nowhere
else. -/
theorem visits_elements {es : List Element} {k : Nat}
    (h : loadBytes m i (elementsBytes es).length = elementsBytes es)
    (hlen : len = i + (elementsBytes es).length) :
    Visits m len i k ↔
      ∃ pre e post, es = pre ++ e :: post ∧ k = i + (elementsBytes pre).length := by
  induction es generalizing i with
  | nil =>
    refine iff_of_false (not_visits_of_le (by simp [hlen])) ?_
    rintro ⟨pre, e, post, hes, -⟩
    simp at hes
  | cons e es ih =>
    rw [elementsBytes_cons] at h hlen
    rw [List.length_append, e.length_bytes] at hlen
    obtain ⟨hhead, htail⟩ := loadBytes_append.mp h
    have hnext : i + e.bytes.length = i + 2 + e.body.length := by
      rw [e.length_bytes]
      omega
    rw [visits_iff_of_lt (by omega), (header_of_element hhead).2, ih (hnext ▸ htail) (by omega)]
    constructor
    · rintro (rfl | ⟨pre, e', post, rfl, rfl⟩)
      · exact ⟨[], e, es, rfl, rfl⟩
      · refine ⟨e :: pre, e', post, rfl, ?_⟩
        rw [elementsBytes_cons, List.length_append, e.length_bytes]
        omega
    · rintro ⟨pre, e', post, hes, rfl⟩
      cases pre with
      | nil => exact .inl rfl
      | cons e'' pre =>
        obtain ⟨rfl, rfl⟩ := List.cons.inj hes
        refine .inr ⟨pre, e', post, rfl, ?_⟩
        rw [elementsBytes_cons, List.length_append, e.length_bytes]
        omega

/-- Where the walk over the elements from `i` on comes, in order. -/
def starts (m : Mem) (len i : Nat) : List Nat :=
  if i < len then i :: starts m len (i + 2 + (m (i + 1)).toNat) else []
termination_by len - i

theorem mem_starts_iff {k : Nat} : k ∈ starts m len i ↔ Visits m len i k := by
  fun_induction starts m len i with
  | case1 i hlt ih => rw [List.mem_cons, ih, visits_iff_of_lt hlt]
  | case2 i hlt =>
    exact iff_of_false List.not_mem_nil (not_visits_of_le (Nat.le_of_not_lt hlt))

/-- If there is only one place of a kind, it is the last one. -/
theorem getLast?_filter_starts {P : Nat → Prop} [DecidablePred P] {k : Nat}
    (hvisits : Visits m len i k) (hk : P k)
    (honly : ∀ k', Visits m len i k' → P k' → k' = k) :
    ((starts m len i).filter P).getLast? = some k := by
  have hmem : k ∈ (starts m len i).filter P :=
    List.mem_filter.mpr ⟨mem_starts_iff.mpr hvisits, decide_eq_true hk⟩
  have hlast := List.getLast?_eq_some_getLast (List.ne_nil_of_mem hmem)
  obtain ⟨hstart, hlastP⟩ := List.mem_filter.mp (List.mem_of_getLast? hlast)
  rw [hlast, honly _ (mem_starts_iff.mp hstart) (of_decide_eq_true hlastP)]

/-- **A walk is a fold over the places where it comes.** -/
theorem walk_eq_foldl : walk m handle len i s = (starts m len i).foldl
    (fun s k => handle (m k).toNat (m (k + 1)).toNat (k + 2) s) s := by
  fun_induction walk m handle len i s with
  | case1 i s hlt seglen ih =>
    have hstarts : starts m len i = i :: starts m len (i + 2 + seglen) := by
      rw [starts, if_pos hlt]
    rw [ih, hstarts, List.foldl_cons]
  | case2 i s hlt => rw [starts, if_neg hlt, List.foldl_nil]

/-- What a fold replaces now and then is in the end what it was replaced by last. -/
theorem foldl_replace {α τ : Type} {step : σ → α → σ} (f : σ → τ) (g : α → Option τ)
    (h : ∀ s a, f (step s a) = (g a).getD (f s)) (as : List α) (s : σ) :
    f (as.foldl step s) = ((as.filter fun a => (g a).isSome).getLast?.bind g).getD (f s) := by
  induction as using List.reverseRecOn with
  | nil => rfl
  | append_singleton as a ih =>
    rw [List.foldl_append, List.foldl_cons, List.foldl_nil, h, ih, List.filter_append,
      List.filter_singleton]
    cases hg : g a with
    | none => simp
    | some t => simp [hg]

/-- The elements that are read are those where the walk comes. -/
theorem mem_readElements_iff {e : Element} :
    e ∈ readElements m len i ↔ ∃ k, Visits m len i k ∧ e = elementAt m k := by
  fun_induction readElements m len i with
  | case1 i hlt ih =>
    rw [List.mem_cons, ih]
    constructor
    · rintro (rfl | ⟨k, hvisits, rfl⟩)
      · exact ⟨i, .here hlt, rfl⟩
      · exact ⟨k, .next hlt hvisits, rfl⟩
    · rintro ⟨k, hvisits, rfl⟩
      rcases (visits_iff_of_lt hlt).mp hvisits with rfl | hvisits
      · exact .inl rfl
      · exact .inr ⟨k, hvisits, rfl⟩
  | case2 i hlt =>
    refine iff_of_false List.not_mem_nil ?_
    rintro ⟨k, hvisits, -⟩
    exact not_visits_of_le (Nat.le_of_not_lt hlt) hvisits

/-! ## What state it has there -/

/-- The walk from `i` and `s` on, up to `len`, comes to `k` in the state `t`. -/
inductive Reaches (m : Mem) (handle : Nat → Nat → Nat → σ → σ) (len : Nat) :
    Nat → σ → Nat → σ → Prop
  | here {i : Nat} {s : σ} (hlt : i < len) : Reaches m handle len i s i s
  | next {i k : Nat} {s t : σ} (hlt : i < len)
    (h : Reaches m handle len (i + 2 + (m (i + 1)).toNat)
      (handle (m i).toNat (m (i + 1)).toNat (i + 2) s) k t) : Reaches m handle len i s k t

section

variable {k : Nat} {t : σ}

theorem Reaches.start_lt (h : Reaches m handle len i s k t) : i < len := by
  cases h with
  | here hlt => exact hlt
  | next hlt _ => exact hlt

/-- The walk comes to the places it visits, in some state. -/
theorem visits_iff_reaches : Visits m len i k ↔ ∃ t, Reaches m handle len i s k t := by
  constructor
  · intro h
    induction h generalizing s with
    | here hlt => exact ⟨s, .here hlt⟩
    | next hlt _ ih =>
      obtain ⟨t, ht⟩ := ih
      exact ⟨t, .next hlt ht⟩
  · rintro ⟨t, h⟩
    induction h with
    | here hlt => exact .here hlt
    | next hlt _ ih => exact .next hlt ih

/-- **What is kept wherever the walk comes** holds at its end. -/
theorem walk_inv (P : σ → Prop)
    (h : ∀ k t, Reaches m handle len i s k t → P t →
      P (handle (m k).toNat (m (k + 1)).toNat (k + 2) t))
    (hs : P s) : P (walk m handle len i s) := by
  fun_induction walk m handle len i s with
  | case1 i s hlt seglen ih =>
    exact ih (fun k t hreach => h k t (.next hlt hreach)) (h i s (.here hlt) hs)
  | case2 i s _ => exact hs

end

end Infra
