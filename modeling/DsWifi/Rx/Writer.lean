import DsWifi.Rx.Invariant

/-!
# The ARM7 keeps the invariant of the RX ring

One lemma for each kind of access: the two writes that wrap around, the bytes of the packet, the tag
that ends the queue, the write index, and the size tag that publishes the packet.
-/

namespace Wifi

open Infra Infra.Mem Infra.TaggedRing

variable {allowed : Nat → Prop} {s : RxState} {e w : Nat} {fs : List (Frame rxGeometry)}

/-! ## Entering an enqueue -/

theorem room_of_fits {r w t : Nat} (hle : r ≤ w) (h : w + t < 12288) :
    View.Room rxGeometry r w t := by
  rw [View.Room, if_pos hle, rxGeometry_cap]
  omega

theorem room_of_lt {r w t : Nat} (hlt : w < r) (h : w + t < r) : View.Room rxGeometry r w t := by
  rw [View.Room, if_neg (by omega)]
  omega

/-- Every accepted size is small enough for the arithmetic on `u32`. -/
theorem total_eq {src : RxSource} (h : src.size ≤ 65535) :
    u32 (4 + roundUp32 src.size + 4) = src.total := by
  have := roundUp_lt src.size
  rw [roundUp32_eq (by omega), u32_of_lt (by omega)]
  rfl

theorem Writing.asserts {m : Mem} {r W : Nat} {ws : List RxWrite} {p : Option (List UInt8)}
    (h : Writing allowed m r W w ws p) (hr : 4 ∣ r) (hw : 4 ∣ w) :
    Writing allowed m r W w ([.assert (r % 4 = 0), .assert (w % 4 = 0)] ++ ws) p := by
  have hr' : r % 4 = 0 := Nat.mod_eq_zero_of_dvd hr
  have hw' : w % 4 = 0 := Nat.mod_eq_zero_of_dvd hw
  simp only [hr', hw', decide_true]
  exact .assert (.assert h)

/-- What `rxEnqueue` is going to do fits the ring. -/
theorem writing_rxEnqueue {m : Mem} {r : Nat} {src : RxSource} (hsize : src.size ≤ 65535)
    (hw4 : w + 4 ≤ 12288) (h0 : w < r → 0 < w) (hr : 4 ∣ r) (hw : 4 ∣ w)
    (ha : allowed src.size) :
    Writing allowed m r w w (rxEnqueue w r src).1
      (if (rxEnqueue w r src).2 then some src.packet else none) := by
  have ht : src.total ≤ 65546 := by
    have := roundUp_lt src.size
    unfold RxSource.total
    omega
  have hwt : u32 (w + src.total) = w + src.total := u32_of_lt (by omega)
  have hw4' : u32 (w + 4) = w + 4 := u32_of_lt (by omega)
  have hidle : Writing allowed m r w w [] none := .idle rfl h0
  have hcopy (hroom : View.Room rxGeometry r w src.total) : Writing allowed m r w w
      (copyWrites (w + 4) src.copied ++ publishWrites w src.size) (some src.packet) :=
    .copy src ha [] src.copied rfl rfl hroom
  simp only [rxEnqueue, rxBufferAllocBuffer, total_eq hsize, hwt]
  by_cases hle : r ≤ w
  · rw [if_pos hle]
    by_cases hfit : wifiRxBufferSize ≤ w + src.total
    · rw [if_pos hfit]
      by_cases hroom : r ≤ src.total
      · rw [if_pos hroom]
        exact hidle.asserts hr hw
      · rw [if_neg hroom]
        exact (Writing.mark src ha hle (by omega)).asserts hr hw
    · rw [if_neg hfit]
      simp only [hw4', if_true, List.append_assoc]
      exact (hcopy (room_of_fits hle (by unfold wifiRxBufferSize at hfit; omega))).asserts hr hw
  · rw [if_neg hle]
    by_cases hroom : r ≤ w + src.total
    · rw [if_pos hroom]
      exact hidle.asserts hr hw
    · rw [if_neg hroom]
      simp only [hw4', if_true, List.append_assoc]
      exact (hcopy (room_of_lt (by omega) (by omega))).asserts hr hw

/-- Entering an enqueue keeps the invariant. -/
theorem RxInv.startEnqueue (h : RxInv allowed s e w fs) (hidle : s.pending = []) (src : RxSource)
    (hsize : src.size ≤ 65535) (ha : allowed src.size) :
    RxInv allowed (s.startEnqueue src) e w fs := by
  have hwr := h.writing
  rw [hidle] at hwr
  obtain ⟨hW, h0, -⟩ := hwr.of_idle
  refine { h with writing := ?_, ends := h.ends.congr rfl rfl rfl rfl }
  rw [RxState.startEnqueue, ← hW]
  exact writing_rxEnqueue hsize h.tag_le h0 h.four_dvd_read h.four_dvd_tag ha

/-! ## The accesses of an enqueue -/

/-- A write that the reader does not see and that keeps the indices. -/
theorem RxInv.unseen (h : RxInv allowed s e w fs) {m' : Mem} {ws : List RxWrite}
    (hm : Set.EqOn m' s.rxbufData (live s.rxbufRead e))
    (hwr : Writing allowed m' s.rxbufRead s.rxbufWrite w ws s.adding) :
    RxInv allowed { s with rxbufData := m', pending := ws } e w fs where
  view := h.view.congr hm
  reading := h.reading.congr (h.view.congr hm) fun _ =>
    load32_congr (hm.mono (View.Ico_subset_live _ _))
  writing := hwr
  ends := h.ends.congr rfl rfl rfl rfl
  four_dvd_read := h.four_dvd_read
  four_dvd_tag := h.four_dvd_tag
  tag_le := h.tag_le
  asserts := h.asserts
  sizes := h.sizes

/-- The writer's room is not live, so what it writes there is not seen. -/
theorem RxInv.not_live (h : RxInv allowed s e w fs) {x t : Nat}
    (hr : View.Room rxGeometry s.rxbufRead w t) (h1 : w + 4 ≤ x) (h2 : x < w + t) :
    x ∉ live s.rxbufRead e :=
  View.not_live_of_room hr h.ends.eq_or_ahead h1 h2

theorem RxInv.eqOn_store32 (h : RxInv allowed s e w fs) {a v t : Nat}
    (hr : View.Room rxGeometry s.rxbufRead w t) (h1 : w + 4 ≤ a) (h2 : a + 4 ≤ w + t) :
    Set.EqOn (s.rxbufData.store32 a v) s.rxbufData (live s.rxbufRead e) := by
  refine Mem.eqOn_store32 fun x hx => ?_
  by_contra hc
  exact h.not_live hr (by omega) (by omega) hx

/-- Before it wraps around, the writer is behind the reader and the start of the ring is free. -/
theorem RxInv.read_le_end (h : RxInv allowed s e w fs) (hle : s.rxbufRead ≤ w) :
    s.rxbufRead ≤ e := by
  have := h.ends.eq_or_ahead
  unfold View.Ahead at this
  omega

theorem RxInv.step_mark (h : RxInv allowed s e w fs) {src : RxSource} {ws : List RxWrite}
    (ha : allowed src.size) (hle : s.rxbufRead ≤ w) (ht : src.total < s.rxbufRead)
    (hadd : s.adding = some src.packet)
    (hws : ws = .store32 w wifiSizeWrap ::
      (copyWrites 4 src.copied ++ publishWrites 0 src.size)) :
    RxInv allowed { s with rxbufData := s.rxbufData.store32 0 0, pending := ws } e w fs := by
  have hre := h.read_le_end hle
  have htot : 8 ≤ src.total := by unfold RxSource.total; omega
  refine h.unseen (Mem.eqOn_store32 fun x hx => ?_) ?_
  · simp only [live, hre, if_true, Set.mem_ofPred_eq] at hx
    exact .inr (by omega)
  · rw [hws, hadd]
    exact .wrap src ha hle ht (load32_store32 (by decide))

theorem RxInv.step_wrap (h : RxInv allowed s e w fs) {src : RxSource} {ws : List RxWrite}
    (ha : allowed src.size) (hle : s.rxbufRead ≤ w) (ht : src.total < s.rxbufRead)
    (hz : load32 s.rxbufData 0 = 0) (hadd : s.adding = some src.packet)
    (hws : ws = copyWrites 4 src.copied ++ publishWrites 0 src.size) :
    ∃ e', RxInv allowed { s with rxbufData := s.rxbufData.store32 w wifiSizeWrap, pending := ws }
      e' 0 fs := by
  have hre := h.read_le_end hle
  have htot : 8 ≤ src.total := by unfold RxSource.total; omega
  have hwr : Writing allowed (s.rxbufData.store32 w wifiSizeWrap) s.rxbufRead s.rxbufWrite 0 ws
      s.adding := by
    rw [hws, hadd]
    exact .copy src ha [] src.copied rfl rfl (room_of_lt (by omega) (by omega))
  have htag (hne : load32 s.rxbufData s.rxbufRead ≠ 0) (hapart : s.rxbufRead + 4 ≤ w) :
      load32 (s.rxbufData.store32 w wifiSizeWrap) s.rxbufRead
        = load32 s.rxbufData s.rxbufRead :=
    load32_congr (Mem.eqOn_store32 fun x hx => .inl (by have := hx.2; omega))
  cases h.ends with
  | flowing he hne hq =>
    subst he
    have hv : View rxGeometry (s.rxbufData.store32 e wifiSizeWrap) s.rxbufRead 0 fs :=
      h.view.wrap hz (by decide) hre (by omega)
    refine ⟨0, { h with
      view := hv, reading := h.reading.congr hv fun hne0 => ?_, writing := hwr
      ends := .flowing rfl hne hq, four_dvd_tag := ⟨0, rfl⟩, tag_le := by decide }⟩
    rcases h.view.apart hne0 with hap | hap
    · exact htag hne0 hap
    · omega
  | stuck hah hmem =>
    have hew : e + 4 ≤ w := by unfold View.Ahead at hah; omega
    have hm : Set.EqOn (s.rxbufData.store32 w wifiSizeWrap) s.rxbufData (live s.rxbufRead e) := by
      refine Mem.eqOn_store32 fun x hx => ?_
      simp only [live, hre, if_true, Set.mem_ofPred_eq] at hx
      exact .inl (by omega)
    refine ⟨e, { h with
      view := h.view.congr hm
      reading := h.reading.congr (h.view.congr hm) fun _ =>
        load32_congr (hm.mono (View.Ico_subset_live _ _))
      writing := hwr, ends := .stuck ?_ hmem
      four_dvd_tag := ⟨0, rfl⟩, tag_le := by decide }⟩
    exact .inl ⟨hre, .inr (show 0 + 4 ≤ s.rxbufRead by omega)⟩

theorem RxInv.step_copy (h : RxInv allowed s e w fs) {src : RxSource} {ws : List RxWrite}
    {done todo : List UInt8} {b : UInt8} (ha : allowed src.size)
    (hs : src.copied = done ++ b :: todo)
    (hb : loadBytes s.rxbufData (w + 4) done.length = done)
    (hr : View.Room rxGeometry s.rxbufRead w src.total) (hadd : s.adding = some src.packet)
    (hws : ws = copyWrites (w + 4 + done.length + 1) todo ++ publishWrites w src.size) :
    RxInv allowed
      { s with rxbufData := s.rxbufData.storeByte (w + 4 + done.length) b, pending := ws }
      e w fs := by
  have hlen : done.length < roundUp src.size := by
    have := src.length_copied_le
    rw [hs, List.length_append, List.length_cons] at this
    omega
  have hin : w + 4 + done.length < w + src.total := by unfold RxSource.total; omega
  refine h.unseen (eqOn_storeByte (h.not_live hr (by omega) hin)) ?_
  rw [hws, hadd]
  have hsnoc : (done ++ [b]).length = done.length + 1 := by simp
  have hkeep : loadBytes (s.rxbufData.storeByte (w + 4 + done.length) b) (w + 4) done.length
      = done := by
    rw [loadBytes_congr (eqOn_storeByte (by simp)), hb]
  refine (?_ : w + 4 + done.length + 1 = w + 4 + (done ++ [b]).length) ▸
    Writing.copy src ha (done ++ [b]) todo (by rw [hs, List.append_assoc]; rfl) ?_ hr
  · rw [hsnoc]; omega
  · rw [hsnoc, loadBytes_succ, hkeep, storeByte_self]

/-- The packet is complete: the tag after it is written before anything points to it. -/
theorem RxInv.step_end (h : RxInv allowed s e w fs) {src : RxSource} {ws : List RxWrite}
    (ha : allowed src.size)
    (hb : loadBytes s.rxbufData (w + 4) src.copied.length = src.copied)
    (hr : View.Room rxGeometry s.rxbufRead w src.total) (hadd : s.adding = some src.packet)
    (hws : ws = [.assert true, .setRxbufWrite (nextTag w src.size), .store32 w src.size]) :
    RxInv allowed
      { s with rxbufData := s.rxbufData.store32 (nextTag w src.size) 0, pending := ws }
      e w fs := by
  have hnext : nextTag w src.size = w + 4 + roundUp src.size := rfl
  have htot : src.total = 4 + roundUp src.size + 4 := rfl
  have hle := le_roundUp src.size
  refine h.unseen (h.eqOn_store32 hr (by omega) (by omega)) ?_
  rw [hws, hadd]
  refine .assert (.ended src ha ?_ (load32_store32 (by decide)) hr)
  rw [loadBytes_congr (Mem.eqOn_store32 fun x hx => .inl (by have := hx.2; omega)),
    ← take_loadBytes _ _ src.size_le_length_copied, hb, src.take_copied]

/-! ## Publishing -/

/-- The tags of the packet and the end tag behind it are in the ring. -/
theorem RxInv.nextTag_le (h : RxInv allowed s e w fs) {src : RxSource}
    (hr : View.Room rxGeometry s.rxbufRead w src.total) : nextTag w src.size + 4 ≤ 12288 := by
  have hread := h.view.reader_le
  rw [rxGeometry_cap] at hread
  unfold View.Room RxSource.total at hr
  rw [rxGeometry_cap] at hr
  unfold nextTag
  split at hr <;> omega

theorem RxInv.ahead_nextTag (h : RxInv allowed s e w fs) {src : RxSource}
    (hr : View.Room rxGeometry s.rxbufRead w src.total) :
    View.Ahead s.rxbufRead e (nextTag w src.size) := by
  have htotal : src.total = nextTag w src.size + 4 - w := by
    unfold RxSource.total nextTag
    omega
  exact View.Ahead.of_room (htotal ▸ hr) (by unfold nextTag; omega) h.ends.eq_or_ahead

theorem RxInv.sizes_append (h : RxInv allowed s e w fs) {src : RxSource} (ha : allowed src.size) :
    ∀ p ∈ s.accepted ++ [src.packet], allowed p.length := by
  intro p hp
  rcases List.mem_append.mp hp with hp | hp
  · exact h.sizes p hp
  · rw [List.mem_singleton.mp hp, src.length_packet]
    exact ha

/-- The state when the size tag has been stored. -/
def RxState.published (s : RxState) (m : Mem) (src : RxSource) : RxState :=
  { s with
    rxbufData := m
    pending := []
    accepted := s.accepted ++ [src.packet]
    adding := none }

/-- An empty packet, or any packet after it, is no frame of the view. -/
theorem RxInv.published_stuck (h : RxInv allowed s e w fs) {src : RxSource} (ha : allowed src.size)
    (hr : View.Room rxGeometry s.rxbufRead w src.total) (hW : s.rxbufWrite = nextTag w src.size)
    {m : Mem} (hm : Set.EqOn m s.rxbufData (live s.rxbufRead e))
    (hmem : [] ∈ s.accepted ++ [src.packet]) :
    RxInv allowed (s.published m src) e (nextTag w src.size) fs where
  view := h.view.congr hm
  reading := h.reading.congr (h.view.congr hm) fun _ =>
    load32_congr (hm.mono (View.Ico_subset_live _ _))
  writing := .idle hW.symm fun _ => by unfold nextTag; omega
  ends := .stuck (h.ahead_nextTag hr) hmem
  four_dvd_read := h.four_dvd_read
  four_dvd_tag := four_dvd_nextTag h.four_dvd_tag _
  tag_le := h.nextTag_le hr
  asserts := h.asserts
  sizes := h.sizes_append ha

/-- A packet that is not empty becomes the last frame of the view. -/
theorem RxInv.published_frame (h : RxInv allowed s w w fs) {src : RxSource} (ha : allowed src.size)
    (hb : loadBytes s.rxbufData (w + 4) src.size = src.packet)
    (hz : load32 s.rxbufData (nextTag w src.size) = 0)
    (hr : View.Room rxGeometry s.rxbufRead w src.total) (hW : s.rxbufWrite = nextTag w src.size)
    (hne : [] ∉ s.accepted) (hq : s.accepted = s.delivered ++ (s.drain.ahead fs).map (·.body))
    (h0 : src.packet ≠ []) :
    ∃ f, RxInv allowed (s.published (s.rxbufData.store32 w src.size) src) (nextTag w src.size)
      (nextTag w src.size) (fs ++ [f]) := by
  have hsize : src.packet.length = src.size := src.length_packet
  have hcap := h.nextTag_le hr
  have hlen : src.packet.length ≤ 12288 := by
    have hle := le_roundUp src.size
    unfold nextTag at hcap
    omega
  let f : Frame rxGeometry := rxFrame src.packet h0 hlen
  have hnext : f.next w = nextTag w src.size := by
    show w + 4 + roundUp src.packet.length = _
    rw [hsize]
    rfl
  have htotal : src.total = f.next w + 4 - w := by
    rw [hnext]
    unfold RxSource.total nextTag
    omega
  have hview : View rxGeometry (s.rxbufData.store32 w src.size) s.rxbufRead (nextTag w src.size)
      (fs ++ [f]) := by
    have hpush := h.view.push (f := f)
      (show loadBytes _ _ src.packet.length = _ by rw [hsize]; exact hb) (hnext ▸ hz) (htotal ▸ hr)
    rw [hnext] at hpush
    exact hsize ▸ hpush
  refine ⟨f, {
    view := hview
    reading := h.reading.transport hview fun hread => ?_
    writing := .idle hW.symm fun _ => by unfold nextTag; omega
    ends := .flowing rfl ?_ ?_
    four_dvd_read := h.four_dvd_read
    four_dvd_tag := four_dvd_nextTag h.four_dvd_tag _
    tag_le := hcap
    asserts := h.asserts
    sizes := h.sizes_append ha }⟩
  · -- The reader looks at a tag that has been there before.
    refine load32_congr (Mem.eqOn_store32 fun x hx => ?_)
    have hx1 := hx.1
    have hx2 := hx.2
    rcases h.view.apart hread with hap | hap <;> omega
  · show [] ∉ s.accepted ++ [src.packet]
    rw [List.mem_append, List.mem_singleton]
    exact fun hc => hc.elim hne fun hc => h0 hc.symm
  · show s.accepted ++ [src.packet] = s.delivered ++ (s.drain.ahead (fs ++ [f])).map (·.body)
    rw [hq, h.reading.ahead_append, List.map_append, List.append_assoc]
    rfl

/-- The size tag is stored. A packet that is not empty becomes the last frame of the view, an empty
one leaves the end tag where it is. -/
theorem RxInv.step_tag (h : RxInv allowed s e w fs) {src : RxSource} (ha : allowed src.size)
    (hb : loadBytes s.rxbufData (w + 4) src.size = src.packet)
    (hz : load32 s.rxbufData (nextTag w src.size) = 0)
    (hr : View.Room rxGeometry s.rxbufRead w src.total)
    (hW : s.rxbufWrite = nextTag w src.size) (hadd : s.adding = some src.packet) :
    ∃ e' fs', RxInv allowed
      (({ s with
          rxbufData := s.rxbufData.store32 w src.size
          pending := [] } : RxState).finishEnqueue)
      e' (nextTag w src.size) fs' := by
  have hpublished : ({ s with
      rxbufData := s.rxbufData.store32 w src.size
      pending := [] } : RxState).finishEnqueue =
        s.published (s.rxbufData.store32 w src.size) src := by
    simp only [RxState.finishEnqueue, hadd, Option.toList, RxState.published]
  rw [hpublished]
  cases h.ends with
  | stuck hahead hmem =>
    refine ⟨e, fs, h.published_stuck ha hr hW (Mem.eqOn_store32 fun x hx => ?_)
      (List.mem_append_left _ hmem)⟩
    simp only [live, Set.mem_ofPred_eq] at hx
    unfold View.Ahead at hahead
    split at hx <;> omega
  | flowing he hne hq =>
    subst he
    by_cases h0 : src.packet = []
    · -- The size tag is the end tag that has been there before.
      have hs0 : src.size = 0 := by
        rw [← src.length_packet, h0]
        rfl
      have hsame : s.rxbufData.store32 e src.size = s.rxbufData := by
        rw [hs0, store32_of_load32_eq_zero h.view.end_zero]
      rw [hsame]
      exact ⟨e, fs, h.published_stuck ha hr hW (fun _ _ => rfl) (by rw [h0]; simp)⟩
    · obtain ⟨f, hinv⟩ := h.published_frame ha hb hz hr hW hne hq h0
      exact ⟨_, _, hinv⟩

/-! ## The step of the ARM7 -/

theorem RxState.arm7Step_cons {x : RxWrite} {ws : List RxWrite} (hp : s.pending = x :: ws)
    (hne : ws ≠ []) : s.arm7Step = ({ s with pending := ws } : RxState).access x := by
  cases ws with
  | nil => exact absurd rfl hne
  | cons y ys => simp only [RxState.arm7Step, hp]

theorem RxState.arm7Step_last {x : RxWrite} (hp : s.pending = [x]) :
    s.arm7Step = (({ s with pending := [] } : RxState).access x).finishEnqueue := by
  simp only [RxState.arm7Step, hp]

theorem copyWrites_append_publish_ne_nil {i w size : Nat} {bs : List UInt8} :
    copyWrites i bs ++ publishWrites w size ≠ [] := by
  cases bs <;> simp [copyWrites, publishWrites]

/-- Whatever access is next, it keeps the invariant. -/
theorem RxInv.arm7Step (h : RxInv allowed s e w fs) :
    ∃ e' w' fs', RxInv allowed s.arm7Step e' w' fs' := by
  have hwr := h.writing
  generalize hp : s.pending = ws at hwr
  generalize hadd : s.adding = p at hwr
  cases hwr with
  | idle hW h0 =>
    refine ⟨e, w, fs, ?_⟩
    rw [show s.arm7Step = s by simp only [RxState.arm7Step, hp]]
    exact h
  | assert hwr =>
    rename_i ws
    have hasserts : (s.assertsHold && true) = true := by rw [h.asserts]; rfl
    by_cases hne : ws = []
    · subst hne
      obtain ⟨hW, h0, rfl⟩ := hwr.of_idle
      rw [RxState.arm7Step_last hp]
      simp only [RxState.access, RxState.finishEnqueue, hadd, Option.toList, List.append_nil]
      exact ⟨e, w, fs, { h with
        writing := .idle hW h0, ends := h.ends.congr rfl rfl rfl rfl, asserts := hasserts }⟩
    · rw [RxState.arm7Step_cons hp hne]
      refine ⟨e, w, fs, { h with
        writing := ?_, ends := h.ends.congr rfl rfl rfl rfl, asserts := hasserts }⟩
      exact (hadd ▸ hwr : Writing allowed s.rxbufData s.rxbufRead s.rxbufWrite w ws s.adding)
  | mark src ha hle ht =>
    rw [RxState.arm7Step_cons hp (by simp)]
    exact ⟨e, w, fs, h.step_mark ha hle ht hadd rfl⟩
  | wrap src ha hle ht hz =>
    rw [RxState.arm7Step_cons hp copyWrites_append_publish_ne_nil]
    obtain ⟨e', he'⟩ := h.step_wrap ha hle ht hz hadd rfl
    exact ⟨e', 0, fs, he'⟩
  | copy src ha done todo hs hb hr =>
    cases todo with
    | cons b todo =>
      rw [RxState.arm7Step_cons hp copyWrites_append_publish_ne_nil]
      exact ⟨e, w, fs, h.step_copy ha hs hb hr hadd rfl⟩
    | nil =>
      have hcap : nextTag w src.size + 4 ≤ 12288 := by
        have hnext : nextTag w src.size = w + 4 + roundUp src.size := rfl
        have htot : src.total = 4 + roundUp src.size + 4 := rfl
        have hread := h.view.reader_le
        rw [rxGeometry_cap] at hread
        unfold View.Room at hr
        rw [rxGeometry_cap] at hr
        split at hr <;> omega
      rw [List.append_nil] at hs
      have hp' : s.pending = publishWrites w src.size := hp
      rw [publishWrites_eq h.four_dvd_tag hcap] at hp'
      rw [RxState.arm7Step_cons hp' (by simp)]
      exact ⟨e, w, fs, h.step_end ha (by rw [hs]; exact hb) hr hadd rfl⟩
  | ended src ha hb hz hr =>
    rw [RxState.arm7Step_cons hp (by simp)]
    exact ⟨e, w, fs, { h with
      writing := hadd ▸ .tag src ha hb hz hr rfl, ends := h.ends.congr rfl rfl rfl rfl }⟩
  | tag src ha hb hz hr hW =>
    rw [RxState.arm7Step_last hp]
    obtain ⟨e', fs', h'⟩ := h.step_tag ha hb hz hr hW hadd
    exact ⟨e', _, fs', h'⟩

end Wifi
