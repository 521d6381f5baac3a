import DsWifi.Rx.Reader

/-!
# The RX ring is a lossless FIFO

* `rx_ring_lossless_fifo` — with packets of at least one byte, the handlers get the accepted
  packets, whole, in order and once, under every interleaving of the two CPUs
* `rx_drains_iff` — with packets of any size, the ARM9 gets to the end of the queue if and only if
  no empty packet has been accepted
-/

namespace Wifi

open Infra Infra.Mem Infra.TaggedRing

variable {allowed : Nat → Prop} {s : RxState} {e w : Nat} {fs : List (Frame rxGeometry)}

/-! ## Runs of the ARM9 -/

/-- A drain leaves the ARM7's part of the state alone. -/
theorem RxState.arm9Step_frame (s : RxState) : s.arm9Step.pending = s.pending ∧
    s.arm9Step.rxbufWrite = s.rxbufWrite ∧ s.arm9Step.accepted = s.accepted := by
  unfold RxState.arm9Step
  cases s.drain <;> dsimp only <;> repeat' split
  all_goals exact ⟨rfl, rfl, rfl⟩

theorem RxState.iterate_arm9Step_frame (s : RxState) (n : Nat) :
    (RxState.arm9Step^[n] s).pending = s.pending ∧
    (RxState.arm9Step^[n] s).rxbufWrite = s.rxbufWrite ∧
    (RxState.arm9Step^[n] s).accepted = s.accepted := by
  induction n with
  | zero => exact ⟨rfl, rfl, rfl⟩
  | succ n ih =>
    rw [Function.iterate_succ_apply']
    obtain ⟨h1, h2, h3⟩ := RxState.arm9Step_frame (RxState.arm9Step^[n] s)
    exact ⟨h1.trans ih.1, h2.trans ih.2.1, h3.trans ih.2.2⟩

theorem RxInv.iterate_arm9Step (h : RxInv allowed s e w fs) (n : Nat) :
    ∃ fs', RxInv allowed (RxState.arm9Step^[n] s) e w fs' := by
  induction n with
  | zero => exact ⟨fs, h⟩
  | succ n ih =>
    obtain ⟨fs', h'⟩ := ih
    obtain ⟨fs'', h'', -⟩ := h'.arm9Step
    exact ⟨fs'', by rwa [Function.iterate_succ_apply']⟩

/-- Enough accesses of the ARM9 empty the view. -/
theorem RxInv.exists_empty (h : RxInv allowed s e w fs) :
    ∃ n, RxInv allowed (RxState.arm9Step^[n] s) e w [] := by
  generalize hk : s.drain.work fs = k
  induction k using Nat.strongRecOn generalizing s fs with
  | _ k ih =>
    obtain ⟨fs', h', hempty | hlt⟩ := h.arm9Step
    · exact ⟨0, hempty ▸ h⟩
    · obtain ⟨n, hn⟩ := ih _ (hk ▸ hlt) h' rfl
      exact ⟨n + 1, by rwa [Function.iterate_succ_apply]⟩

/-- With an empty view everything accepted has been handed over. -/
theorem Ends.delivered_eq (h : Ends s e w []) (hne : [] ∉ s.accepted) :
    s.delivered = s.accepted := by
  cases h with
  | flowing _ _ hq =>
    rw [hq]
    cases s.drain <;> simp [Drain.ahead]
  | stuck _ hmem => exact absurd hmem hne

/-! ## The end of the queue -/

/-- The loop of the drain is about to see that there is no more data. -/
def RxState.SeesNoData (s : RxState) : Prop :=
  match s.drain with
  | .size readIdx _ => load32 s.rxbufData readIdx = 0
  | .sizeAtStart _ => load32 s.rxbufData 0 = 0
  | _ => False

/-- The ARM9 drains until its loop sees no more data, and by then it has got everything. -/
def RxState.Drains (s : RxState) : Prop :=
  (∃ n, (RxState.arm9Step^[n] s).SeesNoData) ∧
  ∀ n, (RxState.arm9Step^[n] s).SeesNoData →
    (RxState.arm9Step^[n] s).rxbufRead = s.rxbufWrite ∧
    (RxState.arm9Step^[n] s).delivered = s.accepted

/-- With an empty view the loop sees no more data after at most two more accesses. -/
theorem RxInv.exists_seesNoData (h : RxInv allowed s e w []) :
    ∃ n, (RxState.arm9Step^[n] s).SeesNoData := by
  have hz := h.view.end_zero
  have hsize (t : RxState) (cnt : Nat) (hd : t.drain = .size t.rxbufRead cnt)
      (ht : RxInv allowed t e w []) : ∃ n, (RxState.arm9Step^[n] t).SeesNoData := by
    rcases ht.view.nil with hre | ⟨hw, he⟩
    · refine ⟨0, ?_⟩
      simp only [Function.iterate_zero, id_eq, RxState.SeesNoData, hd]
      exact hre ▸ ht.view.end_zero
    · rw [rxGeometry_wrap] at hw
      have hstep : t.arm9Step = { t with drain := .sizeAtStart cnt } := by
        simp only [RxState.arm9Step, hd]
        rw [if_neg (by rw [hw]; decide), if_pos hw]
      refine ⟨1, ?_⟩
      rw [Function.iterate_one, hstep]
      show load32 t.rxbufData 0 = 0
      exact he ▸ ht.view.end_zero
  have hreading := h.reading
  generalize hd : s.drain = d at hreading
  generalize hfs : ([] : List (Frame rxGeometry)) = fs at hreading
  cases hreading with
  | idle =>
    obtain ⟨fs', h', -⟩ := h.arm9Step
    have hstep : s.arm9Step = { s with
        drain := .size s.rxbufRead 0
        assertsHold := s.assertsHold && decide (s.rxbufRead % 4 = 0) } := by
      simp only [RxState.arm9Step, hd]
    obtain ⟨n, hn⟩ := hsize s.arm9Step 0 (by rw [hstep])
      (by rw [hstep]; exact h.move .size (by rw [hd]; rfl) (by
            rw [h.asserts, Nat.mod_eq_zero_of_dvd h.four_dvd_read]; rfl))
    exact ⟨n + 1, by rwa [Function.iterate_succ_apply]⟩
  | size => exact hsize s _ hd h
  | sizeAtStart hw =>
    refine ⟨0, ?_⟩
    rcases h.view.nil with hre | ⟨-, he⟩
    · exact absurd (hw.symm.trans (hre ▸ hz)) (by decide)
    · simp only [Function.iterate_zero, id_eq, RxState.SeesNoData, hd]
      exact he ▸ hz
  | handle => cases hfs
  | advance => cases hfs

/-- The loop only sees no more data when the view is empty. -/
theorem RxInv.empty_of_seesNoData (h : RxInv allowed s e w fs) (hn : s.SeesNoData) : fs = [] := by
  have hreading := h.reading
  generalize hd : s.drain = d at hreading
  unfold RxState.SeesNoData at hn
  rw [hd] at hn
  cases fs with
  | nil => rfl
  | cons f fs =>
    exfalso
    obtain ⟨i, hi, -, -⟩ := h.view.head
    cases hreading with
    | size => exact hi.load32_ne_zero (by decide) hn
    | sizeAtStart hw =>
      cases hi with
      | here hs => exact f.tag_ne_wrap (hs.1.symm.trans hw)
      | wrapped _ hs => exact f.tag_ne_zero (hs.1.symm.trans hn)
    | _ => exact hn

/-- Between two enqueues an empty view means that the indices are equal. -/
theorem RxInv.read_eq_write (h : RxInv allowed s e w []) (hidle : s.pending = [])
    (hne : [] ∉ s.accepted) : s.rxbufRead = s.rxbufWrite := by
  have hwr := h.writing
  rw [hidle] at hwr
  obtain ⟨hW, h0, -⟩ := hwr.of_idle
  cases h.ends with
  | flowing he _ _ =>
    rcases h.view.nil with hre | ⟨hw, he0⟩
    · rw [hre, he, hW]
    · rcases h.view.apart (by rw [hw]; decide) with hap | hap <;> omega
  | stuck _ hmem => exact absurd hmem hne

theorem RxInv.drains (h : RxInv allowed s e w fs) (hidle : s.pending = [])
    (hne : [] ∉ s.accepted) : s.Drains := by
  refine ⟨?_, fun n hn => ?_⟩
  · obtain ⟨k, hk⟩ := h.exists_empty
    obtain ⟨n, hn⟩ := hk.exists_seesNoData
    exact ⟨n + k, by rwa [Function.iterate_add_apply]⟩
  · obtain ⟨hpend, hwrite, hacc⟩ := s.iterate_arm9Step_frame n
    obtain ⟨fs', h'⟩ := h.iterate_arm9Step n
    obtain rfl := h'.empty_of_seesNoData hn
    rw [← hwrite, ← hacc]
    exact ⟨h'.read_eq_write (hpend.trans hidle) (hacc ▸ hne), h'.ends.delivered_eq (hacc ▸ hne)⟩

/-! ## A run that wraps -/

namespace RxState

/-- The next access of the ARM7, and then as many of the ARM9. -/
def turn (m : Nat) (s : RxState) : RxState := arm9Step^[m] s.arm7Step

theorem iterate_arm9Step_adding (s : RxState) (n : Nat) :
    (arm9Step^[n] s).adding = s.adding := by
  induction n with
  | zero => rfl
  | succ n ih =>
    rw [Function.iterate_succ_apply', ← ih]
    unfold arm9Step
    cases (arm9Step^[n] s).drain <;> dsimp only <;> repeat' split
    all_goals rfl

/-- The ARM9 leaves the enqueue alone. -/
theorem turn_frame (m : Nat) (s : RxState) :
    (turn m s).pending = s.arm7Step.pending ∧ (turn m s).rxbufWrite = s.arm7Step.rxbufWrite ∧
      (turn m s).accepted = s.arm7Step.accepted ∧ (turn m s).adding = s.arm7Step.adding := by
  obtain ⟨hpending, hwrite, haccepted⟩ := s.arm7Step.iterate_arm9Step_frame m
  exact ⟨hpending, hwrite, haccepted, s.arm7Step.iterate_arm9Step_adding m⟩

/-- The write index after the accesses. -/
def writeAfter (rxbufWrite : Nat) (ws : List RxWrite) : Nat :=
  ws.foldl (fun idx w => match w with
    | .setRxbufWrite idx => idx
    | _ => idx) rxbufWrite

/-- An enqueue goes on to its end, whatever the ARM9 does meanwhile. -/
theorem iterate_turn (m : Nat) {ws : List RxWrite} (hne : ws ≠ []) {s : RxState}
    (hpending : s.pending = ws) : ((turn m)^[ws.length] s).pending = [] ∧
      ((turn m)^[ws.length] s).accepted = s.accepted ++ s.adding.toList ∧
      ((turn m)^[ws.length] s).rxbufWrite = writeAfter s.rxbufWrite ws := by
  induction ws generalizing s with
  | nil => exact absurd rfl hne
  | cons w ws ih =>
    obtain ⟨hp, hw, ha, hadding⟩ := s.turn_frame m
    rw [List.length_cons, Function.iterate_succ_apply]
    cases ws with
    | nil =>
      -- The last access ends the enqueue, and the packet counts as accepted.
      have hstep : s.arm7Step = ({ s with pending := [] }.access w).finishEnqueue := by
        unfold arm7Step
        rw [hpending]
      rw [hstep] at hp hw ha
      refine ⟨hp.trans ?_, ha.trans ?_, hw.trans ?_⟩ <;> cases w <;> rfl
    | cons w' ws =>
      have hstep : s.arm7Step = { s with pending := w' :: ws }.access w := by
        unfold arm7Step
        rw [hpending]
      rw [hstep] at hp hw ha hadding
      obtain ⟨hp', ha', hw'⟩ := ih (List.cons_ne_nil w' ws) (s := turn m s)
        (hp.trans (by cases w <;> rfl))
      refine ⟨hp', ?_, ?_⟩
      · rw [ha', ha, hadding]
        cases w <;> rfl
      · rw [hw', hw]
        cases w <;> rfl

end RxState

theorem RxReachable.iterate_arm9Step (h : RxReachable allowed s) (n : Nat) :
    RxReachable allowed (RxState.arm9Step^[n] s) := by
  induction n with
  | zero => exact h
  | succ n ih =>
    rw [Function.iterate_succ_apply']
    exact .tail ih .arm9

theorem RxReachable.iterate_turn (h : RxReachable allowed s) (m n : Nat) :
    RxReachable allowed ((RxState.turn m)^[n] s) := by
  induction n with
  | zero => exact h
  | succ n ih =>
    rw [Function.iterate_succ_apply']
    exact RxReachable.iterate_arm9Step (.tail ih .arm7) m

/-- A packet that there is room for gets to the queue, while the ARM9 makes `m` accesses for each
one of the ARM7. -/
theorem RxReachable.exists_added (h : RxReachable allowed s) (hidle : s.pending = []) (m : Nat)
    (src : RxSource) (hsize : allowed src.size) {idx : Nat}
    (halloc : (rxBufferAllocBuffer s.rxbufWrite s.rxbufRead
      (u32 (4 + roundUp32 src.size + 4))).2 = some idx) :
    ∃ t, RxReachable allowed t ∧ t.pending = [] ∧ t.accepted = s.accepted ++ [src.packet] ∧
      t.rxbufWrite = roundUp32 (u32 (u32 (idx + 4) + src.size)) := by
  obtain ⟨ws, hadd⟩ : ∃ ws, rxEnqueue s.rxbufWrite s.rxbufRead src =
      (ws ++ copyWrites (u32 (idx + 4)) src.copied ++ publishWrites idx src.size, true) := by
    unfold rxEnqueue
    dsimp only
    rcases hr : rxBufferAllocBuffer s.rxbufWrite s.rxbufRead (u32 (4 + roundUp32 src.size + 4)) with
      ⟨ws, allocIdx⟩
    rw [hr] at halloc
    obtain rfl : allocIdx = some idx := halloc
    exact ⟨ws, rfl⟩
  have hpending : (s.startEnqueue src).pending =
      ws ++ copyWrites (u32 (idx + 4)) src.copied ++ publishWrites idx src.size :=
    congrArg Prod.fst hadd
  have hadding : (s.startEnqueue src).adding = some src.packet := by
    unfold RxState.startEnqueue
    rw [hadd]
    rfl
  -- The index is written once, by the last access.
  obtain ⟨hend, haccepted, hwrite⟩ := RxState.iterate_turn m (by simp [publishWrites]) hpending
  rw [hadding] at haccepted
  have hstart : RxReachable allowed (s.startEnqueue src) := .tail h (.enqueue src hidle hsize)
  refine ⟨_, hstart.iterate_turn m _, hend, haccepted, hwrite.trans ?_⟩
  rw [RxState.writeAfter, List.foldl_append]
  rfl

/-- A packet that leaves 12 bytes of the ring. -/
def rxFillingPacket : List UInt8 := .replicate 12272 1

theorem length_rxFillingPacket : rxFillingPacket.length = 12272 := List.length_replicate

/-- **The ring is filled, drained and wrapped around**, and at the end both CPUs take turns. -/
theorem exists_rxWrapped (hallowed : ∀ n, allowed n → n ≤ 65535) (hbig : allowed 12272)
    (hsmall : allowed 3) : ∃ s : RxState, RxReachable allowed s ∧ s.pending = [] ∧
      s.accepted = [rxFillingPacket, [1, 2, 3]] ∧ s.rxbufWrite = 8 := by
  have hlen : (RxSource.twl rxFillingPacket).size = 12272 := length_rxFillingPacket
  have hfirst : (rxBufferAllocBuffer 0 0 (u32 (4 + roundUp32 12272 + 4))).2 = some 0 := by
    decide +kernel
  have hwrap : (rxBufferAllocBuffer 12276 12276 (u32 (4 + roundUp32 3 + 4))).2 = some 0 := by
    decide +kernel
  rw [← hlen] at hfirst hbig
  obtain ⟨s, hreach, hidle, haccepted, hwrite⟩ :=
    RxReachable.exists_added (s := .init) .refl rfl 0 _ hbig hfirst
  rw [hlen, show roundUp32 (u32 (u32 (0 + 4) + 12272)) = 12276 by decide +kernel] at hwrite
  -- The ARM9 gets to the end of it.
  obtain ⟨e, w, fs, hinv⟩ := hreach.inv hallowed
  have hne : [] ∉ s.accepted := by
    rw [haccepted]
    intro hmem
    have hzero := congrArg List.length (List.mem_singleton.mp hmem)
    exact absurd (hzero.trans hlen) (by decide)
  obtain ⟨⟨n, hn⟩, hdrained⟩ := hinv.drains hidle hne
  obtain ⟨hidle', hwrite', haccepted'⟩ := s.iterate_arm9Step_frame n
  have hread := (hdrained n hn).1
  have hreach' : RxReachable allowed (RxState.arm9Step^[n] s) := hreach.iterate_arm9Step n
  generalize RxState.arm9Step^[n] s = t at *
  -- The next packet does not fit behind it.
  rw [hwrite] at hread hwrite'
  obtain ⟨u, hu, hend, hadded, hu8⟩ := hreach'.exists_added (hidle'.trans hidle) 1 (.twl [1, 2, 3])
    hsmall (by rw [hread, hwrite']; exact hwrap)
  rw [haccepted', haccepted] at hadded
  exact ⟨u, hu, hend, hadded, hu8⟩

/-! ## Packets of at least one byte -/

/-- **The RX ring is a lossless FIFO.** Under every interleaving of the accesses of both CPUs, the
packets handed over are the first of the accepted ones, no assert fails, and whenever no enqueue is
running the ARM9 only needs to go on to get the rest. -/
theorem rx_ring_lossless_fifo
    (h : RxReachable (fun size => 1 ≤ size ∧ size ≤ wifiRxBufferSize) s) :
    s.assertsHold = true ∧ s.delivered <+: s.accepted ∧
    (s.pending = [] → ∃ n, (RxState.arm9Step^[n] s).delivered = s.accepted) := by
  obtain ⟨e, w, fs, hinv⟩ := h.inv fun n hn => by
    have := hn.2
    unfold wifiRxBufferSize at this
    omega
  have hne : [] ∉ s.accepted := fun hmem => absurd (hinv.sizes [] hmem).1 (by simp)
  refine ⟨hinv.asserts, ?_, fun _ => ?_⟩
  · cases hinv.ends with
    | flowing _ _ hq => exact ⟨_, hq.symm⟩
    | stuck _ hmem => exact absurd hmem hne
  · obtain ⟨n, hn⟩ := hinv.exists_empty
    have hacc := (s.iterate_arm9Step_frame n).2.2
    exact ⟨n, by rw [hn.ends.delivered_eq (by rwa [hacc]), hacc]⟩

theorem rx_ring_lossless_fifo_wrapped : ∃ s : RxState,
    s.accepted = [rxFillingPacket, [1, 2, 3]] ∧ s.rxbufWrite = 8 ∧ s.assertsHold = true ∧
      s.delivered <+: s.accepted ∧
      ∃ n, (RxState.arm9Step^[n] s).delivered = [rxFillingPacket, [1, 2, 3]] := by
  obtain ⟨s, hreach, hidle, haccepted, hwrite⟩ :=
    @exists_rxWrapped (fun size => 1 ≤ size ∧ size ≤ wifiRxBufferSize)
      (fun n h => h.2.trans (by decide)) (by decide) (by decide)
  obtain ⟨hasserts, hprefix, hrest⟩ := rx_ring_lossless_fifo hreach
  refine ⟨s, haccepted, hwrite, hasserts, hprefix, ?_⟩
  rw [← haccepted]
  exact hrest hidle

/-! ## Packets of any size -/

/-- The tag of an empty packet stops the reader for good. -/
theorem RxInv.not_drains (h : RxInv allowed s e w fs) (hidle : s.pending = [])
    (hmem : [] ∈ s.accepted) : ¬ s.Drains := by
  rintro ⟨⟨n, hn⟩, hall⟩
  obtain ⟨hpend, hwrite, hacc⟩ := s.iterate_arm9Step_frame n
  obtain ⟨fs', h'⟩ := h.iterate_arm9Step n
  have hwr := h'.writing
  rw [hpend, hidle] at hwr
  have hread := (hall n hn).1
  cases h'.ends with
  | flowing _ hne _ => exact absurd (hacc ▸ hmem) hne
  | stuck ha _ =>
    have hW := hwr.of_idle.1
    unfold View.Ahead at ha
    omega

/-- **An empty packet wedges the queue, and nothing else does.** The driver passes lengths of 16
bits. -/
theorem rx_drains_iff (h : RxReachable (fun size => size ≤ 65535) s) (hidle : s.pending = []) :
    s.Drains ↔ [] ∉ s.accepted := by
  obtain ⟨e, w, fs, hinv⟩ := h.inv fun _ hn => hn
  exact ⟨fun hd hmem => hinv.not_drains hidle hmem hd, hinv.drains hidle⟩

theorem rx_drains_wrapped : ∃ s : RxState,
    s.accepted = [rxFillingPacket, [1, 2, 3]] ∧ s.rxbufWrite = 8 ∧ s.Drains := by
  obtain ⟨s, hreach, hidle, haccepted, hwrite⟩ :=
    @exists_rxWrapped (fun size => size ≤ 65535) (fun _ h => h) (by decide) (by decide)
  refine ⟨s, haccepted, hwrite, (rx_drains_iff hreach hidle).mpr ?_⟩
  rw [haccepted]
  intro hmem
  rcases List.mem_pair.mp hmem with hnil | hnil
  · exact absurd (congrArg List.length hnil) (by rw [length_rxFillingPacket]; decide)
  · cases hnil

/-- An empty packet, and behind it one of three bytes. -/
def rxAfterEmptyPacket : RxState :=
  (RxState.turn 0)^[9] (((RxState.turn 0)^[6] (RxState.init.startEnqueue (.twl []))).startEnqueue
    (.twl [1, 2, 3]))

theorem rxAfterEmptyPacket_reachable :
    RxReachable (fun size => size ≤ 65535) rxAfterEmptyPacket := by
  refine RxReachable.iterate_turn (.tail ?_ (.enqueue (.twl [1, 2, 3]) rfl (by decide))) 0 9
  exact RxReachable.iterate_turn (.single (.enqueue (.twl []) rfl (by decide))) 0 6

/-- Both packets are accepted, and the second one never arrives. -/
theorem rxAfterEmptyPacket_stuck : RxReachable (fun size => size ≤ 65535) rxAfterEmptyPacket ∧
    rxAfterEmptyPacket.pending = [] ∧ rxAfterEmptyPacket.accepted = [[], [1, 2, 3]] ∧
    ¬ rxAfterEmptyPacket.Drains := by
  obtain ⟨e, w, fs, hinv⟩ := rxAfterEmptyPacket_reachable.inv fun _ hn => hn
  exact ⟨rxAfterEmptyPacket_reachable, rfl, rfl, hinv.not_drains rfl (by decide)⟩

end Wifi
