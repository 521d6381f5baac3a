import DsWifi.Infra.RingAlloc
import DsWifi.Rx.Fifo
import DsWifi.Tx.Regions
import DsWifi.Tx.Tags

/-!
# Allocation in the rings

`Wifi_TxBufferAllocBuffer` (`source/arm9/ipc.c`) and `Wifi_RxBufferAllocBuffer`
(`source/arm7/ipc.c`) are the same function for the two rings. They add the size to the write index
in 32 bits.

* `TxAllocates.of_le`, `RxAllocates.of_le` — what they do in any state
* `ring_alloc_sound` — an empty ring has room for every packet of less than half its size, and what
  is allocated is apart from what waits
-/

namespace Wifi

open Infra Infra.Mem Infra.TaggedRing

/-! ## Allocating -/

/-- What `Wifi_TxBufferAllocBuffer` does in this state. -/
structure TxAllocates (ring : TxRing) : Prop where
  empty : ring.txbufRead = ring.txbufWrite → ∀ totalSize, 2 * totalSize < wifiTxBufferSize →
    (txBufferAllocBuffer ring totalSize).2.isSome
  apart : ∀ totalSize ring' idx, ring.txbufWrite + totalSize < 2 ^ 32 →
    txBufferAllocBuffer ring totalSize = (ring', some idx) →
    Apart wifiTxBufferSize ring.txbufRead ring.txbufWrite idx totalSize
  unchanged : ∀ totalSize, (txBufferAllocBuffer ring totalSize).2 = none →
    (txBufferAllocBuffer ring totalSize).1 = ring

/-- What `Wifi_RxBufferAllocBuffer` does in this state. -/
structure RxAllocates (s : RxState) : Prop where
  empty : s.rxbufRead = s.rxbufWrite → ∀ totalSize, 2 * totalSize < wifiRxBufferSize →
    (rxBufferAllocBuffer s.rxbufWrite s.rxbufRead totalSize).2.isSome
  apart : ∀ totalSize idx, s.rxbufWrite + totalSize < 2 ^ 32 →
    (rxBufferAllocBuffer s.rxbufWrite s.rxbufRead totalSize).2 = some idx →
    Apart wifiRxBufferSize s.rxbufRead s.rxbufWrite idx totalSize
  unchanged : ∀ totalSize, (rxBufferAllocBuffer s.rxbufWrite s.rxbufRead totalSize).2 = none →
    (rxBufferAllocBuffer s.rxbufWrite s.rxbufRead totalSize).1.foldl RxState.access s = s

/-- Both functions allocate like any ring as long as the sum fits in 32 bits. -/
theorem txBufferAllocBuffer_eq {ring : TxRing} {t : Nat} (h : ring.txbufWrite + t < 2 ^ 32) :
    (txBufferAllocBuffer ring t).2 =
      (alloc wifiTxBufferSize ring.txbufRead ring.txbufWrite t).map Prod.snd := by
  unfold txBufferAllocBuffer alloc
  rw [u32_of_lt h]
  split
  · split
    · split <;> rfl
    · rfl
  · split <;> rfl

theorem rxBufferAllocBuffer_eq {w r t : Nat} (h : w + t < 2 ^ 32) :
    (rxBufferAllocBuffer w r t).2 = (alloc wifiRxBufferSize r w t).map Prod.snd := by
  unfold rxBufferAllocBuffer alloc
  rw [u32_of_lt h]
  dsimp only
  split
  · split
    · split <;> rfl
    · rfl
  · split <;> rfl

theorem TxAllocates.of_le {ring : TxRing} (hr : ring.txbufRead ≤ wifiTxBufferSize)
    (hw : ring.txbufWrite ≤ wifiTxBufferSize) : TxAllocates ring where
  empty := by
    intro hempty t ht
    have hsum : ring.txbufWrite + t < 2 ^ 32 := by
      unfold wifiTxBufferSize at *
      omega
    have heq := txBufferAllocBuffer_eq hsum
    rw [← hempty] at heq
    rw [heq, Option.isSome_map]
    exact alloc_of_empty ht
  apart := by
    intro t ring' idx hsum halloc
    have heq := txBufferAllocBuffer_eq hsum
    rw [halloc] at heq
    obtain ⟨⟨wrap, i⟩, hsome, hidx⟩ := Option.map_eq_some_iff.mp heq.symm
    obtain rfl : i = idx := hidx
    exact .of_alloc hr hw hsome
  unchanged := by
    intro t hnone
    rcases halloc : txBufferAllocBuffer ring t with ⟨ring', idx⟩
    rw [halloc] at hnone
    obtain rfl : idx = none := hnone
    exact eq_of_txBufferAllocBuffer_eq_none halloc

theorem RxAllocates.of_le {s : RxState} (hr : s.rxbufRead ≤ wifiRxBufferSize)
    (hw : s.rxbufWrite ≤ wifiRxBufferSize) (hread : 4 ∣ s.rxbufRead) (hwrite : 4 ∣ s.rxbufWrite) :
    RxAllocates s where
  empty := by
    intro hempty t ht
    have hsum : s.rxbufWrite + t < 2 ^ 32 := by
      unfold wifiRxBufferSize at *
      omega
    rw [rxBufferAllocBuffer_eq hsum, hempty, Option.isSome_map]
    exact alloc_of_empty ht
  apart := by
    intro t idx hsum halloc
    rw [rxBufferAllocBuffer_eq hsum] at halloc
    obtain ⟨⟨wrap, i⟩, hsome, hidx⟩ := Option.map_eq_some_iff.mp halloc
    obtain rfl : i = idx := hidx
    exact .of_alloc hr hw hsome
  unchanged := by
    intro t hnone
    have hwrites : (rxBufferAllocBuffer s.rxbufWrite s.rxbufRead t).1 =
        [.assert (s.rxbufRead % 4 = 0), .assert (s.rxbufWrite % 4 = 0)] := by
      unfold rxBufferAllocBuffer at hnone ⊢
      dsimp only at hnone ⊢
      split_ifs at hnone ⊢ <;> rfl
    have h4 : s.rxbufRead % 4 = 0 := Nat.mod_eq_zero_of_dvd hread
    have h4' : s.rxbufWrite % 4 = 0 := Nat.mod_eq_zero_of_dvd hwrite
    rw [hwrites, h4, h4']
    simp only [List.foldl_cons, List.foldl_nil, RxState.access, decide_true, Bool.and_true]

/-! ## All states -/

/-- In DSi mode the flush only meets frames that it understands. -/
def StepNotMisread (dsi : Bool) (s : Arm7Tx) (ev : TxEvent dsi) : Prop :=
  dsi = true → StepUnderstood dsi s ev

theorem TxInv.allocates {ring : TxRing} {e : Nat} {q : List (Frame txGeometry)}
    (h : TxInv ring e q) : TxAllocates ring := by
  have hr : ring.txbufRead + 4 ≤ wifiTxBufferSize := h.view.reader_le
  have hw : ring.txbufWrite + 4 ≤ wifiTxBufferSize := h.write_le
  exact .of_le (by omega) (by omega)

theorem TxInv.waitsInUse {ring : TxRing} {e : Nat} {q : List (Frame txGeometry)}
    (h : TxInv ring e q) :
    WaitsInUse txGeometry ring.txbufData ring.txbufRead ring.txbufWrite :=
  h.view.waitsInUse h.eq_or_ahead

/-- The TX ring is intact in both modes. -/
theorem txInv_of_run {dsi : Bool} {evs : List (TxEvent dsi)}
    (h : Along (txStep dsi) (StepNotMisread dsi) .init evs) :
    ∃ e q, TxInv (run (txStep dsi) .init evs).ring e q := by
  cases dsi with
  | false =>
    obtain ⟨e, q, hring⟩ := RingFlagged.run (s := .init) .init evs
    exact ⟨e, q, hring.ring⟩
  | true =>
    obtain ⟨done, q, hflow⟩ := h.inv (fun s => ∃ done q, Flowing true s done q)
      (fun s ev ⟨done, q, hs⟩ hev => hs.step_understood (hev rfl)) ⟨[], [], .init true⟩
    exact ⟨_, q, hflow.ring⟩

/-- So is the RX ring between two calls. -/
theorem RxReachable.allocates {s : RxState} (h : RxReachable (fun size => size ≤ 65535) s)
    (hidle : s.pending = []) :
    RxAllocates s ∧ WaitsInUse rxGeometry s.rxbufData s.rxbufRead s.rxbufWrite := by
  obtain ⟨e, w, fs, hinv⟩ := h.inv fun _ hn => hn
  have hwriting := hinv.writing
  rw [hidle] at hwriting
  obtain ⟨rfl, -⟩ := hwriting.of_idle
  have hr : s.rxbufRead + 4 ≤ wifiRxBufferSize := hinv.view.reader_le
  have hw : s.rxbufWrite + 4 ≤ wifiRxBufferSize := hinv.tag_le
  refine ⟨?_, hinv.view.waitsInUse hinv.ends.eq_or_ahead⟩
  exact .of_le (by omega) (by omega) hinv.four_dvd_read hinv.four_dvd_tag

/-- **An empty ring has room for every packet of less than half its size**, and what is allocated
is apart from the packets that wait. In an empty ring it starts where the reader stands. -/
theorem ring_alloc_sound :
    (∀ (dsi : Bool) (evs : List (TxEvent dsi)),
      Along (txStep dsi) (StepNotMisread dsi) .init evs →
      let ring := (run (txStep dsi) .init evs).ring
      TxAllocates ring ∧
        WaitsInUse txGeometry ring.txbufData ring.txbufRead ring.txbufWrite) ∧
    ∀ s : RxState, RxReachable (fun size => size ≤ 65535) s → s.pending = [] →
      RxAllocates s ∧ WaitsInUse rxGeometry s.rxbufData s.rxbufRead s.rxbufWrite := by
  constructor
  · intro dsi evs h
    obtain ⟨e, q, hinv⟩ := txInv_of_run h
    exact ⟨hinv.allocates, hinv.waitsInUse⟩
  · intro s h hidle
    exact h.allocates hidle

/-- A frame waits in the TX ring, and the RX ring has been wrapped around. -/
theorem ring_alloc_sound_wrapped :
    TxAllocates (run (txStep false) .init [txSmallCall]).ring ∧
    ∃ s : RxState, s.accepted = [rxFillingPacket, [1, 2, 3]] ∧ s.rxbufWrite = 8 ∧
      RxAllocates s ∧ WaitsInUse rxGeometry s.rxbufData s.rxbufRead s.rxbufWrite := by
  obtain ⟨s, hreach, hidle, haccepted, hwrite⟩ :=
    @exists_rxWrapped (fun size => size ≤ 65535) (fun _ h => h) (by decide) (by decide)
  have htx := ring_alloc_sound.1 false [txSmallCall]
    ⟨fun h => (Bool.false_ne_true h).elim, trivial⟩
  exact ⟨htx.1, s, haccepted, hwrite, ring_alloc_sound.2 s hreach hidle⟩

/-- In an empty ring a packet of 16 bytes is stored where the reader stands. -/
theorem empty_ring_at_reader :
    ¬ (∀ (dsi : Bool) (evs : List (TxEvent dsi)) (totalSize : Nat) (ring' : TxRing) (idx : Nat),
      txBufferAllocBuffer (run (txStep dsi) .init evs).ring totalSize = (ring', some idx) →
      (run (txStep dsi) .init evs).ring.txbufRead ∉ Set.Ico idx (idx + totalSize)) := by
  intro h
  exact h false [] 16 .init 0 rfl ⟨Nat.le_refl 0, by decide⟩

end Wifi
