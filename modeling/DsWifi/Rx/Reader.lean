import DsWifi.Rx.Writer

/-!
# The ARM9 keeps the invariant of the RX ring

Every access of a drain keeps the invariant, and while there are frames in the view it also lowers a
measure (`Drain.work`): the drain reaches the end tag, however many times it has to be restarted
because of its limit of packets.
-/

namespace Wifi

open Infra Infra.Mem Infra.TaggedRing

variable {allowed : Nat → Prop} {s : RxState} {e w : Nat} {fs : List (Frame rxGeometry)}

/-! ## The measure -/

/-- An upper bound on the accesses needed to hand over the frames. -/
def weight (fs : List (Frame rxGeometry)) : Nat := (fs.map fun f => f.body.length + 8).sum

@[simp] theorem weight_cons (f : Frame rxGeometry) (fs : List (Frame rxGeometry)) :
    weight (f :: fs) = f.body.length + 8 + weight fs := by
  simp [weight]

/-- The accesses left before the view is empty, at most. -/
def Drain.work : Drain → List (Frame rxGeometry) → Nat
  | .idle, fs => weight fs + 6
  | .size _ _, fs => weight fs + 5
  | .sizeAtStart _, fs => weight fs + 4
  | .handle _ _ got _, fs => weight fs + 3 - got.length
  | .advance _ _, fs => weight fs.tail + 7

/-! ## The accesses of a drain -/

/-- An access that only moves the program counter. -/
theorem RxInv.move (h : RxInv allowed s e w fs) {d : Drain} {b : Bool}
    (hd : Reading s.rxbufData s.rxbufRead fs d) (hahead : d.ahead fs = s.drain.ahead fs)
    (hb : b = true) : RxInv allowed { s with drain := d, assertsHold := b } e w fs :=
  { h with
    reading := hd, asserts := hb
    ends := by
      cases h.ends with
      | flowing he hne hq => exact .flowing he hne (by rw [hq, ← hahead])
      | stuck ha hmem => exact .stuck ha hmem }

/-- The head frame is handed over. -/
theorem RxInv.deliver (h : RxInv allowed s e w fs) {f : Frame rxGeometry}
    {fs' : List (Frame rxGeometry)} {i cnt : Nat} {b : Bool} (hfs : fs = f :: fs')
    (hi : View.HeadAt rxGeometry s.rxbufData s.rxbufRead f i)
    (hahead : s.drain.ahead fs = fs) (hb : b = true) :
    RxInv allowed { s with
      delivered := s.delivered ++ [f.body], drain := .advance (f.next i) cnt, assertsHold := b }
      e w fs := by
  subst hfs
  refine { h with reading := .advance hi, asserts := hb, ends := ?_ }
  cases h.ends with
  | flowing he hne hq =>
    refine .flowing he hne ?_
    rw [hq, hahead, List.map_cons, List.append_assoc]
    rfl
  | stuck ha hmem => exact .stuck ha hmem

/-- The read index moves behind the head frame. -/
theorem RxInv.advance (h : RxInv allowed s e w fs) {f : Frame rxGeometry}
    {fs' : List (Frame rxGeometry)} {i cnt : Nat} {d : Drain} (hfs : fs = f :: fs')
    (hdrain : s.drain = .advance (f.next i) cnt)
    (hi : View.HeadAt rxGeometry s.rxbufData s.rxbufRead f i)
    (hd : d = .idle ∨ ∃ c, d = .size (f.next i) c) :
    RxInv allowed { s with rxbufRead := f.next i, drain := d } e w fs' := by
  subst hfs
  obtain ⟨hview, hadv⟩ := h.view.pop hi
  have hi4 : 4 ∣ i := by
    cases hi with
    | here _ => exact h.four_dvd_read
    | wrapped _ _ => exact ⟨0, rfl⟩
  have hahead : d.ahead fs' = fs' := by
    rcases hd with rfl | ⟨c, rfl⟩ <;> rfl
  refine { h with
    view := hview, four_dvd_read := f.four_dvd_next hi4
    writing := h.writing.advance h.view.reader_le (hadv.of_ahead h.ends.eq_or_ahead)
    reading := ?_, ends := ?_ }
  · rcases hd with rfl | ⟨c, rfl⟩
    · exact .idle
    · exact .size
  · cases h.ends with
    | flowing he hne hq =>
      refine .flowing he hne ?_
      rw [hq, hdrain]
      show _ = _ ++ (d.ahead fs').map _
      rw [hahead]
      rfl
    | stuck ha hmem => exact .stuck (ha.advance hadv) hmem

/-! ## The step of the ARM9

An access keeps the invariant, and brings the end nearer while there are frames.
-/

/-- What a step of the ARM9 from a state with the frames `fs` has to achieve. -/
def Progress (allowed : Nat → Prop) (s s' : RxState) (e w : Nat) (fs : List (Frame rxGeometry)) :
    Prop :=
  ∃ fs', RxInv allowed s' e w fs' ∧ (fs = [] ∨ s'.drain.work fs' < s.drain.work fs)

theorem RxInv.step_size (h : RxInv allowed s e w fs) {cnt : Nat}
    (hd : s.drain = .size s.rxbufRead cnt) : Progress allowed s s.arm9Step e w fs := by
  have hread := h.view.reader_le
  rw [rxGeometry_cap] at hread
  have hread4 : u32 (s.rxbufRead + 4) = s.rxbufRead + 4 := u32_of_lt (by omega)
  have hmove {d : Drain} (hr : Reading s.rxbufData s.rxbufRead fs d) (ha : d.ahead fs = fs) :
      RxInv allowed { s with drain := d } e w fs :=
    h.move hr (by rw [hd]; exact ha) h.asserts
  simp only [RxState.arm9Step, hd]
  cases fs with
  | nil =>
    refine ⟨[], ?_, .inl rfl⟩
    rcases h.view.nil with hre | ⟨hw, -⟩
    · rw [if_pos (hre ▸ h.view.end_zero)]
      exact hmove .idle rfl
    · rw [rxGeometry_wrap] at hw
      rw [if_neg (by rw [hw]; decide), if_pos hw]
      exact hmove (.sizeAtStart hw) rfl
  | cons f fs =>
    obtain ⟨i, hi, -, -⟩ := h.view.head
    rw [if_neg (hi.load32_ne_zero (by decide))]
    refine ⟨f :: fs, ?_⟩
    cases hi with
    | here hs =>
      have htag : f.tag ≠ wifiSizeWrap := f.tag_ne_wrap
      rw [hs.1, if_neg htag, hread4]
      refine ⟨hmove (.handle (k := 0) (.here hs) (Nat.zero_le _)) rfl, .inr ?_⟩
      simp only [Drain.work, hd, List.length_nil]
      omega
    | wrapped hw hs =>
      rw [rxGeometry_wrap] at hw
      rw [if_pos hw]
      refine ⟨hmove (.sizeAtStart hw) rfl, .inr ?_⟩
      simp only [Drain.work, hd]
      omega

theorem RxInv.step_sizeAtStart (h : RxInv allowed s e w fs) {cnt : Nat}
    (hd : s.drain = .sizeAtStart cnt) (hw : load32 s.rxbufData s.rxbufRead = wifiSizeWrap) :
    Progress allowed s s.arm9Step e w fs := by
  have hmove {d : Drain} (hr : Reading s.rxbufData s.rxbufRead fs d) (ha : d.ahead fs = fs) :
      RxInv allowed { s with drain := d } e w fs :=
    h.move hr (by rw [hd]; exact ha) h.asserts
  simp only [RxState.arm9Step, hd]
  cases fs with
  | nil =>
    refine ⟨[], ?_, .inl rfl⟩
    rcases h.view.nil with hre | ⟨-, he⟩
    · exact absurd (hw.symm.trans (hre ▸ h.view.end_zero)) (by decide)
    · rw [if_pos (he ▸ h.view.end_zero)]
      exact hmove .idle rfl
  | cons f fs =>
    obtain ⟨i, hi, -, -⟩ := h.view.head
    refine ⟨f :: fs, ?_⟩
    cases hi with
    | here hs => exact absurd (hs.1.symm.trans hw) f.tag_ne_wrap
    | wrapped hm hs =>
      rw [hs.1, if_neg f.tag_ne_zero]
      refine ⟨hmove (.handle (i := 0) (k := 0) (.wrapped hm hs) (Nat.zero_le _)) rfl, .inr ?_⟩
      simp only [Drain.work, hd, List.length_nil]
      omega

theorem RxInv.step_handle {f : Frame rxGeometry} (h : RxInv allowed s e w (f :: fs))
    {i k cnt : Nat} (hi : View.HeadAt rxGeometry s.rxbufData s.rxbufRead f i)
    (hk : k ≤ f.body.length) (hd : s.drain = .handle (i + 4) f.tag (f.body.take k) cnt) :
    Progress allowed s s.arm9Step e w (f :: fs) := by
  have htag : f.tag = f.body.length := f.len_tag
  simp only [RxState.arm9Step, hd, List.length_take, Nat.min_eq_left hk]
  by_cases hlt : k < f.tag
  · rw [if_pos hlt]
    have hkb : k < f.body.length := by omega
    have hbyte : s.rxbufData (i + 4 + k) = f.body[k] := by
      have hget := getElem?_loadBytes (m := s.rxbufData) (a := i + 4) hkb
      rw [hi.stored.2, List.getElem?_eq_getElem hkb] at hget
      exact (Option.some.inj hget).symm
    rw [hbyte, ← List.take_succ_eq_append_getElem hkb]
    refine ⟨f :: fs, h.move (.handle hi hkb) (by rw [hd]; rfl) h.asserts, .inr ?_⟩
    simp only [Drain.work, hd, List.length_take, weight_cons]
    omega
  · rw [if_neg hlt, List.take_of_length_le (by omega)]
    have hcap := (h.view.pop hi).1.reader_le
    have hnext : u32 (i + 4 + roundUp32 f.tag) = f.next i := by
      rw [rxGeometry_cap] at hcap
      have hle := le_roundUp f.body.length
      unfold Frame.next at *
      rw [roundUp32_eq (by omega), htag, u32_of_lt (by omega)]
    rw [hnext]
    refine ⟨f :: fs, h.deliver rfl hi (by rw [hd]; rfl) ?_, .inr ?_⟩
    · rw [rxGeometry_cap] at hcap
      rw [h.asserts, Bool.true_and, decide_eq_true_iff]
      show f.next i ≤ 12288 - 4
      omega
    · simp only [Drain.work, hd, List.length_take, weight_cons, List.tail_cons]
      omega

theorem RxInv.arm9Step (h : RxInv allowed s e w fs) : Progress allowed s s.arm9Step e w fs := by
  have hreading := h.reading
  generalize hd : s.drain = d at hreading
  cases hreading with
  | idle =>
    have hmod : s.rxbufRead % 4 = 0 := Nat.mod_eq_zero_of_dvd h.four_dvd_read
    simp only [RxState.arm9Step, hd]
    refine ⟨fs, h.move .size (by rw [hd]; rfl) (by rw [h.asserts, hmod]; rfl), .inr ?_⟩
    simp only [Drain.work, hd]
    omega
  | size => exact h.step_size hd
  | sizeAtStart hw => exact h.step_sizeAtStart hd hw
  | handle hi hk => exact h.step_handle hi hk hd
  | advance hi =>
    rename_i f fs i cnt
    simp only [RxState.arm9Step, hd]
    refine ⟨fs, h.advance rfl hd hi ?_, .inr ?_⟩
    · by_cases hcnt : 20 < cnt
      · exact .inl (if_pos hcnt)
      · exact .inr ⟨cnt + 1, if_neg hcnt⟩
    · split <;> simp only [Drain.work, hd, List.tail_cons] <;> omega

/-! ## Every interleaving -/

/-- One access of either CPU keeps the invariant. -/
theorem RxInv.step (h : RxInv allowed s e w fs) (hallowed : ∀ n, allowed n → n ≤ 65535)
    {s' : RxState} (hs : RxStep allowed s s') : ∃ e' w' fs', RxInv allowed s' e' w' fs' := by
  cases hs with
  | enqueue src hidle hsize =>
    exact ⟨e, w, fs, h.startEnqueue hidle src (hallowed _ hsize) hsize⟩
  | arm7 => exact h.arm7Step
  | arm9 =>
    obtain ⟨fs', h', -⟩ := h.arm9Step
    exact ⟨e, w, fs', h'⟩

theorem RxReachable.inv (hallowed : ∀ n, allowed n → n ≤ 65535) (h : RxReachable allowed s) :
    ∃ e w fs, RxInv allowed s e w fs := by
  induction h with
  | refl => exact ⟨0, 0, [], .init⟩
  | tail _ hs ih =>
    obtain ⟨e, w, fs, h⟩ := ih
    exact h.step hallowed hs

end Wifi
