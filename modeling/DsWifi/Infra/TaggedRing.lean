import DsWifi.Infra.Memory

/-!
# Tagged rings

A ring buffer of variable-length frames kept in a byte memory. Every frame starts with a 32 bit
tag from which its length is decoded, is padded to a multiple of four bytes, and is followed by the
tag of the next frame. Two tags are reserved: `0` ends the queue and `wrap` sends the reader back to
address `0`.

`View g m r e fs` says what a reader standing at `r` finds: the frames `fs`, and then the tag `0` at
the address `e`. There are two layouts.

* `linear` — the frames lie between `r` and `e`
* `wrapped` — the frames up to the wrap marker lie behind `r`, the others between `0` and `e`

A view only reads the addresses of `live r e` (`View.congr`). A writer that keeps out of them can
prepare the next frame under a reader that moves, and one store of a tag publishes it (`View.push`).
-/

namespace Infra.TaggedRing

open Infra.Mem

/-- The parameters of a ring: its size, the wrap marker, and the length that a tag announces. -/
structure Geometry where
  cap : Nat
  wrap : Nat
  len : Nat → Nat

variable {g : Geometry} {m m' : Mem}

/-- Lengths are padded to a multiple of four. -/
def roundUp (n : Nat) : Nat := (n + 3) / 4 * 4

theorem le_roundUp (n : Nat) : n ≤ roundUp n := by unfold roundUp; omega

theorem roundUp_lt (n : Nat) : roundUp n < n + 4 := by unfold roundUp; omega

theorem four_dvd_roundUp (n : Nat) : 4 ∣ roundUp n := ⟨(n + 3) / 4, by unfold roundUp; omega⟩

/-- A frame as it lies in the ring. Its tag is none of the reserved ones and announces its size. -/
structure Frame (g : Geometry) where
  tag : Nat
  body : List UInt8
  tag_lt : tag < 2 ^ 32
  tag_ne_zero : tag ≠ 0
  tag_ne_wrap : tag ≠ g.wrap
  len_tag : g.len tag = body.length

/-- Where the tag after the frame stored at `i` lies. -/
def Frame.next (f : Frame g) (i : Nat) : Nat := i + 4 + roundUp f.body.length

theorem Frame.lt_next (f : Frame g) (i : Nat) : i + 4 ≤ f.next i := by unfold Frame.next; omega

theorem Frame.four_dvd_next (f : Frame g) {i : Nat} (h : 4 ∣ i) : 4 ∣ f.next i := by
  have := four_dvd_roundUp f.body.length
  unfold Frame.next
  omega

/-- The frame `f` is stored at `i`. -/
def Stored (m : Mem) (i : Nat) (f : Frame g) : Prop :=
  load32 m i = f.tag ∧ loadBytes m (i + 4) f.body.length = f.body

theorem Stored.congr {i : Nat} {f : Frame g} (h : Stored m i f)
    (he : Set.EqOn m' m (Set.Ico i (f.next i))) : Stored m' i f := by
  have hle := le_roundUp f.body.length
  have hnext : f.next i = i + 4 + roundUp f.body.length := rfl
  refine ⟨?_, ?_⟩
  · rw [load32_congr (he.mono (Set.Ico_subset_Ico_right (by omega)))]
    exact h.1
  · rw [loadBytes_congr (he.mono (Set.Ico_subset_Ico (by omega) (by omega)))]
    exact h.2

/-! ## Chains

The frames between two tags, without a wrap marker in between.
-/

/-- The frames `fs` are stored one after the other from `i` on, and the tag after them is at `j`. -/
def Chain (m : Mem) : Nat → List (Frame g) → Nat → Prop
  | i, [], j => i = j
  | i, f :: fs, j => Stored m i f ∧ Chain m (f.next i) fs j

theorem Chain.le {i j : Nat} {fs : List (Frame g)} (h : Chain m i fs j) : i ≤ j := by
  induction fs generalizing i with
  | nil => exact Nat.le_of_eq h
  | cons f fs ih => exact Nat.le_trans (by have := f.lt_next i; omega) (ih h.2)

/-- Every frame takes a tag. -/
theorem Chain.length_le {i j : Nat} {fs : List (Frame g)} (h : Chain m i fs j) :
    i + 4 * fs.length ≤ j := by
  induction fs generalizing i with
  | nil => exact Nat.le_of_eq h
  | cons f fs ih =>
    have := f.lt_next i
    have := ih h.2
    rw [List.length_cons]
    omega

theorem Chain.congr {i j : Nat} {fs : List (Frame g)} (h : Chain m i fs j)
    (he : Set.EqOn m' m (Set.Ico i j)) : Chain m' i fs j := by
  induction fs generalizing i with
  | nil => exact h
  | cons f fs ih =>
    have hj : f.next i ≤ j := h.2.le
    have hi : i ≤ f.next i := by have := f.lt_next i; omega
    exact ⟨h.1.congr (he.mono (Set.Ico_subset_Ico_right hj)),
      ih h.2 (he.mono (Set.Ico_subset_Ico_left hi))⟩

theorem Chain.snoc {i j : Nat} {f : Frame g} {fs : List (Frame g)} (h : Chain m i fs j)
    (hf : Stored m j f) : Chain m i (fs ++ [f]) (f.next j) := by
  induction fs generalizing i with
  | nil =>
    cases h
    exact ⟨hf, rfl⟩
  | cons f' fs ih => exact ⟨h.1, ih h.2⟩

/-! ## Views -/

/-- What a reader at `r` finds up to the end tag at `e`. -/
inductive View (g : Geometry) (m : Mem) (r e : Nat) : List (Frame g) → Prop
  | linear {fs : List (Frame g)} (hc : Chain m r fs e) (hz : load32 m e = 0)
      (he : e + 4 ≤ g.cap) : View g m r e fs
  | wrapped {gs hs : List (Frame g)} {p : Nat} (hc : Chain m r gs p) (hw : load32 m p = g.wrap)
      (hp : p + 4 ≤ g.cap) (hd : Chain m 0 hs e) (hz : load32 m e = 0) (he : e + 4 ≤ r) :
      View g m r e (gs ++ hs)

/-- The addresses that a reader at `r` may read before it stops at `e`. -/
def live (r e : Nat) : Set Nat := {x | if r ≤ e then r ≤ x ∧ x < e + 4 else r ≤ x ∨ x < e + 4}

namespace View

variable {r e : Nat} {fs : List (Frame g)} {f : Frame g}

theorem end_zero (h : View g m r e fs) : load32 m e = 0 := by cases h <;> assumption

theorem reader_le (h : View g m r e fs) : r + 4 ≤ g.cap := by
  cases h with
  | linear hc _ he => have := hc.le; omega
  | wrapped hc _ hp _ _ _ => have := hc.le; omega

/-- A view has no more frames than the ring has words. -/
theorem length_le (h : View g m r e fs) : 4 * fs.length ≤ g.cap := by
  cases h with
  | linear hc _ he =>
    have := hc.length_le
    omega
  | wrapped hc _ hp hd _ he =>
    have := hc.length_le
    have := hd.length_le
    rw [List.length_append]
    omega

theorem gap (h : View g m r e fs) (hlt : e < r) : e + 4 ≤ r := by
  cases h with
  | linear hc _ _ => have := hc.le; omega
  | wrapped _ _ _ _ _ he => exact he

/-- A view depends on nothing but the live addresses. -/
theorem congr (h : View g m r e fs) (he : Set.EqOn m' m (live r e)) : View g m' r e fs := by
  cases h with
  | linear hc hz hcap =>
    have hle := hc.le
    have hsub : Set.Ico r (e + 4) ⊆ live r e := fun x hx => by simpa [live, hle] using hx
    have heq := he.mono hsub
    refine .linear (hc.congr (heq.mono (Set.Ico_subset_Ico_right (by omega)))) ?_ hcap
    rw [load32_congr (heq.mono (Set.Ico_subset_Ico_left hle)), hz]
  | wrapped hc hw hp hd hz hgap =>
    rename_i gs hs p
    have hnle : ¬ r ≤ e := by omega
    have hhigh : Set.Ico r (p + 4) ⊆ live r e := fun x hx => by
      simp only [live, hnle, if_false]; exact .inl hx.1
    have hlow : Set.Ico 0 (e + 4) ⊆ live r e := fun x hx => by
      simp only [live, hnle, if_false]; exact .inr hx.2
    refine .wrapped (p := p) (hc.congr ((he.mono hhigh).mono (Set.Ico_subset_Ico_right (by omega))))
      ?_ hp (hd.congr ((he.mono hlow).mono (Set.Ico_subset_Ico_right (by omega)))) ?_ hgap
    · rw [load32_congr ((he.mono hhigh).mono (Set.Ico_subset_Ico_left hc.le)), hw]
    · rw [load32_congr ((he.mono hlow).mono (Set.Ico_subset_Ico_left (by omega))), hz]

/-! ### The reader -/

/-- Where the head frame is: at the reader, or at address `0` behind a wrap marker. -/
inductive HeadAt (g : Geometry) (m : Mem) (r : Nat) (f : Frame g) : Nat → Prop
  | here (h : Stored m r f) : HeadAt g m r f r
  | wrapped (hw : load32 m r = g.wrap) (h : Stored m 0 f) : HeadAt g m r f 0

theorem HeadAt.stored {i : Nat} (h : HeadAt g m r f i) : Stored m i f := by
  cases h <;> assumption

/-- Where a head frame is there is a tag that is not the end tag. -/
theorem HeadAt.load32_ne_zero {i : Nat} (h : HeadAt g m r f i) (hw : g.wrap ≠ 0) :
    load32 m r ≠ 0 := by
  cases h with
  | here hs => rw [hs.1]; exact f.tag_ne_zero
  | wrapped hm _ => rw [hm]; exact hw

/-- A step of the reader stays behind the end, or jumps from the high part of the ring to the
low one. -/
def Advance (r e r' : Nat) : Prop := if r ≤ e then r ≤ r' ∧ r' ≤ e else r ≤ r' ∨ r' ≤ e

/-- Consuming the head frame leaves the view of the others, and its slot is not live any more. -/
theorem head (h : View g m r e (f :: fs)) :
    ∃ i, HeadAt g m r f i ∧ View g m (f.next i) e fs ∧ Advance r e (f.next i) ∧
      ∀ x ∈ live (f.next i) e, x < i ∨ f.next i ≤ x := by
  generalize hfs : f :: fs = l at h
  cases h with
  | linear hc hz he =>
    subst hfs
    have hle := hc.2.le
    have hlt := f.lt_next r
    refine ⟨r, .here hc.1, .linear hc.2 hz he, ?_, fun x hx => ?_⟩
    · rw [Advance, if_pos (by omega)]
      exact ⟨by omega, hle⟩
    · simp only [live, if_pos hle] at hx
      exact .inr hx.1
  | wrapped hc hw hp hd hz he =>
    rename_i gs hs p
    have hnle : ¬ r ≤ e := by omega
    simp only [Advance, if_neg hnle]
    cases gs with
    | nil =>
      cases hc
      rw [List.nil_append] at hfs
      subst hfs
      refine ⟨0, .wrapped hw hd.1, .linear hd.2 hz (by omega), .inr hd.2.le, fun x hx => ?_⟩
      simp only [live, if_pos hd.2.le] at hx
      exact .inr hx.1
    | cons f' gs =>
      rw [List.cons_append, List.cons.injEq] at hfs
      obtain ⟨rfl, rfl⟩ := hfs
      have hlt := f.lt_next r
      refine ⟨r, .here hc.1, .wrapped hc.2 hw hp hd hz (by omega), .inl (by omega), fun x hx => ?_⟩
      have hnle' : ¬ f.next r ≤ e := by omega
      simp only [live, if_neg hnle', Set.mem_ofPred_eq] at hx
      omega

/-- A reader in front of a frame doesn't find the end tag. -/
theorem load32_ne_zero (h : View g m r e (f :: fs)) (hw : g.wrap ≠ 0) : load32 m r ≠ 0 := by
  obtain ⟨i, hi, -⟩ := h.head
  exact hi.load32_ne_zero hw

theorem eq_nil_of_load32 (h : View g m r e fs) (hw : g.wrap ≠ 0) (hz : load32 m r = 0) :
    fs = [] := by
  cases fs with
  | nil => rfl
  | cons f fs => exact absurd hz (h.load32_ne_zero hw)

/-- With no frame left the reader stands at the end, or at a wrap marker with the end at `0`. -/
theorem nil (h : View g m r e []) : r = e ∨ load32 m r = g.wrap ∧ e = 0 := by
  generalize hfs : ([] : List (Frame g)) = l at h
  cases h with
  | linear hc _ _ => subst hfs; exact .inl hc
  | wrapped hc hw _ hd _ _ =>
    obtain ⟨rfl, rfl⟩ := List.append_eq_nil_iff.mp hfs.symm
    cases hc
    exact .inr ⟨hw, hd.symm⟩

theorem HeadAt.unique {i j : Nat} (hi : HeadAt g m r f i) (hj : HeadAt g m r f j) : i = j := by
  cases hi with
  | here hs =>
    cases hj with
    | here _ => rfl
    | wrapped hw _ => exact absurd (hs.1.symm.trans hw) f.tag_ne_wrap
  | wrapped hw _ =>
    cases hj with
    | here hs => exact absurd (hs.1.symm.trans hw) f.tag_ne_wrap
    | wrapped _ _ => rfl

/-- The same for a head frame that has been found already. -/
theorem pop (h : View g m r e (f :: fs)) {i : Nat} (hi : HeadAt g m r f i) :
    View g m (f.next i) e fs ∧ Advance r e (f.next i) := by
  obtain ⟨j, hj, hv, ha, -⟩ := h.head
  rw [hi.unique hj]
  exact ⟨hv, ha⟩

/-- The end tag lies behind the slot of the head frame, or before it. -/
theorem pop_apart (h : View g m r e (f :: fs)) {i : Nat} (hi : HeadAt g m r f i) :
    f.next i ≤ e ∨ e + 4 ≤ i := by
  obtain ⟨j, hj, hv, -, hout⟩ := h.head
  obtain rfl := hi.unique hj
  by_cases hle : f.next i ≤ e
  · exact .inl hle
  · have hgap := hv.gap (by omega)
    have hlast : e + 3 ∈ live (f.next i) e := by
      simp only [live, if_neg hle, Set.mem_ofPred_eq]
      omega
    have := hout _ hlast
    omega

/-- A reader at a wrap marker may as well stand at `0`. -/
theorem jump (h : View g m r e fs) (hw : load32 m r = g.wrap) (h0 : g.wrap ≠ 0) :
    Chain m 0 fs e ∧ View g m 0 e fs := by
  cases h with
  | linear hc hz he =>
    cases fs with
    | nil =>
      cases hc
      exact absurd (hw.symm.trans hz) h0
    | cons f fs => exact absurd (hc.1.1.symm.trans hw) f.tag_ne_wrap
  | wrapped hc hw' hp hd hz he =>
    rename_i gs hs p
    cases gs with
    | nil => exact ⟨hd, .linear hd hz (by have := hc.le; omega)⟩
    | cons f gs => exact absurd (hc.1.1.symm.trans hw) f.tag_ne_wrap

/-- A tag that is not reserved is that of the head frame. -/
theorem exists_head (h : View g m r e fs) (h0 : load32 m r ≠ 0) (hw : load32 m r ≠ g.wrap) :
    ∃ f gs, fs = f :: gs ∧ Stored m r f := by
  cases fs with
  | nil =>
    rcases h.nil with hre | hn
    · exact absurd (hre ▸ h.end_zero) h0
    · exact absurd hn.1 hw
  | cons f gs =>
    obtain ⟨i, hi, -⟩ := h.head
    cases hi with
    | here hs => exact ⟨f, gs, rfl, hs⟩
    | wrapped hm _ => exact absurd hm hw

/-- Whatever is stored into the slot of the head frame, the others stay as they are. -/
theorem pop_storeBytes (h : View g m r e (f :: fs)) {i a : Nat} {bs : List UInt8}
    (hi : HeadAt g m r f i) (hlo : i ≤ a) (hhi : a + bs.length ≤ f.next i) :
    View g (m.storeBytes a bs) (f.next i) e fs := by
  obtain ⟨j, hj, hv, -, hout⟩ := h.head
  obtain rfl := hi.unique hj
  exact hv.congr (eqOn_storeBytes fun x hx => by have := hout x hx; omega)

/-- The head frame stays where it is as long as the reader's tag does not change. -/
theorem headAt_transport {e' i : Nat} {fs' : List (Frame g)} (h : View g m' r e' (f :: fs'))
    (hr : load32 m' r = load32 m r) (hi : HeadAt g m r f i) : HeadAt g m' r f i := by
  obtain ⟨j, hj, -, -⟩ := h.head
  cases hi with
  | here hs =>
    cases hj with
    | here hs' => exact .here hs'
    | wrapped hw _ => exact absurd (hs.1.symm.trans (hr.symm.trans hw)) f.tag_ne_wrap
  | wrapped hw hs =>
    cases hj with
    | here hs' => exact absurd (hs'.1.symm.trans (hr.trans hw)) f.tag_ne_wrap
    | wrapped hw' hs' => exact .wrapped hw' hs'

/-- A reader that has found a tag stands apart from the end tag. -/
theorem apart (h : View g m r e fs) (hr : load32 m r ≠ 0) : r + 4 ≤ e ∨ e + 4 ≤ r := by
  cases h with
  | linear hc hz _ =>
    cases fs with
    | nil => cases hc; exact absurd hz hr
    | cons f fs =>
      have hlt := f.lt_next r
      have hle := hc.2.le
      exact .inl (by omega)
  | wrapped _ _ _ _ _ he => exact .inr he

theorem Ico_subset_live (r e : Nat) : Set.Ico r (r + 4) ⊆ live r e := by
  rintro x ⟨hlo, hhi⟩
  simp only [live, Set.mem_ofPred_eq]
  split <;> omega

/-! ### The writer -/

/-- The `t` bytes from the end on are free. -/
def Room (g : Geometry) (r e t : Nat) : Prop := if r ≤ e then e + t ≤ g.cap else e + t ≤ r

/-- The reader never takes room away from the writer. -/
theorem Room.advance {w r' t : Nat} (hr : Room g r w t) (hcap : r + 4 ≤ g.cap)
    (ha : Advance r w r') : Room g r' w t := by
  unfold Room Advance at *
  split at hr
  · rw [if_pos (by assumption)] at ha
    rw [if_pos ha.2]
    exact hr
  · rw [if_neg (by assumption)] at ha
    split <;> omega

/-- The writer at `w` has left behind an end tag at `e` that is going to stay. -/
def Ahead (r e w : Nat) : Prop :=
  r ≤ e ∧ (e + 4 ≤ w ∨ w + 4 ≤ r) ∨ e + 4 ≤ w ∧ w + 4 ≤ r

theorem Ahead.advance {w r' : Nat} (h : Ahead r e w) (ha : Advance r e r') : Ahead r' e w := by
  unfold Ahead Advance at *
  split at ha <;> omega

/-- A writer that moves on in its room is ahead of the end. -/
theorem Ahead.of_room {w w' : Nat} (hr : Room g r w (w' + 4 - w)) (hw : w + 4 ≤ w')
    (h : e = w ∨ Ahead r e w) : Ahead r e w' := by
  unfold Ahead Room at *
  split at hr <;> omega

/-- What the reader may do before the end, it may do before the writer. -/
theorem Advance.of_ahead {w r' : Nat} (ha : Advance r e r') (h : e = w ∨ Ahead r e w) :
    Advance r w r' := by
  unfold Ahead at h
  unfold Advance at *
  split at ha <;> split <;> omega

/-- The addresses behind the writer's tag in its room are not live. -/
theorem not_live_of_room {w t x : Nat} (hr : Room g r w t) (h : e = w ∨ Ahead r e w)
    (h1 : w + 4 ≤ x) (h2 : x < w + t) : x ∉ live r e := by
  unfold Ahead at h
  unfold Room at hr
  simp only [live, Set.mem_ofPred_eq]
  split at hr <;> split <;> omega

/-- Storing the tag of a frame that has been prepared at the end publishes it. -/
theorem push (h : View g m r e fs) (hb : loadBytes m (e + 4) f.body.length = f.body)
    (hz : load32 m (f.next e) = 0) (hr : Room g r e (f.next e + 4 - e)) :
    View g (m.store32 e f.tag) r (f.next e) (fs ++ [f]) := by
  have hlt := f.lt_next e
  have hlen := le_roundUp f.body.length
  have hnext : f.next e = e + 4 + roundUp f.body.length := rfl
  have hout : ∀ {a b : Nat}, (b ≤ e ∨ e + 4 ≤ a) → Set.EqOn (m.store32 e f.tag) m (Set.Ico a b) :=
    fun hab => eqOn_store32 fun x hx => by have := hx.1; have := hx.2; omega
  have hs : Stored (m.store32 e f.tag) e f :=
    ⟨load32_store32 f.tag_lt, by rw [loadBytes_congr (hout (.inr (by omega)))]; exact hb⟩
  have hz' : load32 (m.store32 e f.tag) (f.next e) = 0 := by
    rw [load32_congr (hout (.inr (by omega)))]; exact hz
  unfold Room at hr
  cases h with
  | linear hc _ he =>
    have hle := hc.le
    rw [if_pos hle] at hr
    exact .linear ((hc.congr (hout (.inl (Nat.le_refl e)))).snoc hs) hz' (by omega)
  | wrapped hc hw hp hd hz0 hgap =>
    rename_i gs hs' p
    have hle := hc.le
    rw [if_neg (by omega)] at hr
    rw [List.append_assoc]
    refine .wrapped (p := p) (hc.congr (hout (.inr (by omega)))) ?_ hp
      ((hd.congr (hout (.inl (Nat.le_refl e)))).snoc hs) hz' (by omega)
    rw [load32_congr (hout (.inr (by omega)))]
    exact hw

/-- Storing the wrap marker at the end of a linear view moves the end to address `0`. -/
theorem wrap (h : View g m r e fs) (hz : load32 m 0 = 0) (hw : g.wrap < 2 ^ 32) (hle : r ≤ e)
    (hr : 4 ≤ r) : View g (m.store32 e g.wrap) r 0 fs := by
  cases h with
  | linear hc _ he =>
    have hout : Set.EqOn (m.store32 e g.wrap) m (Set.Ico 0 e) :=
      eqOn_store32 fun x hx => .inl hx.2
    have hv : View g (m.store32 e g.wrap) r 0 (fs ++ []) :=
      .wrapped (p := e) (hc.congr (hout.mono (Set.Ico_subset_Ico_left (by omega))))
        (load32_store32 hw) he rfl
        (by rw [load32_congr (hout.mono (Set.Ico_subset_Ico_right (by omega)))]; exact hz)
        (by omega)
    rwa [List.append_nil] at hv
  | wrapped _ _ _ _ _ hgap => omega

/-- The view of an empty ring. -/
theorem empty (hz : load32 m 0 = 0) (hc : 4 ≤ g.cap) : View g m 0 0 [] :=
  .linear rfl hz (by omega)

end View

end Infra.TaggedRing
