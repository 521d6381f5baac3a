import DsWifi.Rx.Queue

/-!
# The invariant of the RX ring

The ring is the tagged ring `rxGeometry`. The reader finds the frames `fs` up to an end tag at `e`,
the writer is going to store its next size tag at `w`. As long as no empty packet has been accepted
`e = w`; the size tag of an empty packet is an end tag itself, and from then on the writer runs
ahead of it.

The invariant has one part for each program counter (`Reading`, `Writing`), and one step lemma for
each CPU.
-/

namespace Wifi

open Infra Infra.Mem Infra.TaggedRing

/-- The RX ring. The size tag is the length of the packet. -/
def rxGeometry : Geometry where
  cap := wifiRxBufferSize
  wrap := wifiSizeWrap
  len := id

theorem rxGeometry_cap : rxGeometry.cap = 12288 := rfl

theorem rxGeometry_wrap : rxGeometry.wrap = wifiSizeWrap := rfl

theorem wifiSizeWrap_eq : wifiSizeWrap = 4294967295 := rfl

/-! ## Sizes -/

namespace RxSource

variable (src : RxSource)

theorem length_packet : src.packet.length = src.size := by
  cases src <;> simp [packet, size]

theorem size_le_length_copied : src.size ≤ src.copied.length := by
  cases src with
  | ntr macRam n =>
    show n ≤ (loadBytes macRam 0 (2 * ((n + 1) / 2))).length
    rw [length_loadBytes]
    omega
  | twl src => exact Nat.le_refl _

/-- The byte that `Wifi_MACRead` may add lies in the padding of the packet. -/
theorem length_copied_le : src.copied.length ≤ roundUp src.size := by
  cases src with
  | ntr macRam n =>
    show (loadBytes macRam 0 (2 * ((n + 1) / 2))).length ≤ roundUp n
    rw [length_loadBytes, roundUp]
    omega
  | twl src => exact le_roundUp _

theorem take_copied : src.copied.take src.size = src.packet := by
  cases src with
  | ntr macRam n => exact take_loadBytes macRam 0 (show n ≤ 2 * ((n + 1) / 2) by omega)
  | twl src => exact List.take_length

/-- The space that the packet takes, with both tags. -/
def total : Nat := 4 + roundUp src.size + 4

end RxSource

/-- Where the tag after a packet of `size` bytes at `w` lies. -/
def nextTag (w size : Nat) : Nat := w + 4 + roundUp size

theorem four_dvd_nextTag {w : Nat} (h : 4 ∣ w) (size : Nat) : 4 ∣ nextTag w size := by
  have := four_dvd_roundUp size
  unfold nextTag
  omega

theorem publishWrites_eq {w size : Nat} (hw : 4 ∣ w) (hcap : nextTag w size + 4 ≤ 12288) :
    publishWrites w size = [.store32 (nextTag w size) 0, .assert true,
      .setRxbufWrite (nextTag w size), .store32 w size] := by
  have hle := le_roundUp size
  unfold nextTag at hcap
  have hnext : roundUp32 (u32 (u32 (w + 4) + size)) = nextTag w size := by
    rw [u32_of_lt (n := w + 4) (by omega), u32_of_lt (by omega), roundUp32_eq (by omega)]
    unfold nextTag roundUp
    omega
  have hassert : nextTag w size ≤ wifiRxBufferSize - 4 := by
    unfold wifiRxBufferSize nextTag
    omega
  simp only [publishWrites, hnext, hassert, decide_true]

/-- The frame that a packet becomes in the ring. -/
def rxFrame (p : List UInt8) (h0 : p ≠ []) (hle : p.length ≤ 12288) : Frame rxGeometry where
  tag := p.length
  body := p
  tag_lt := by omega
  tag_ne_zero := by
    have := List.length_pos_iff.mpr h0
    omega
  tag_ne_wrap := by rw [rxGeometry_wrap, wifiSizeWrap_eq]; omega
  len_tag := rfl

/-! ## The reader -/

/-- What the ARM9 knows at each point of its drain. -/
inductive Reading (m : Mem) (r : Nat) : List (Frame rxGeometry) → Drain → Prop
  | idle {fs} : Reading m r fs .idle
  | size {fs} {cnt : Nat} : Reading m r fs (.size r cnt)
  | sizeAtStart {fs} {cnt : Nat} (hw : load32 m r = wifiSizeWrap) :
      Reading m r fs (.sizeAtStart cnt)
  | handle {f fs} {i k cnt : Nat} (hi : View.HeadAt rxGeometry m r f i)
      (hk : k ≤ f.body.length) :
      Reading m r (f :: fs) (.handle (i + 4) f.tag (f.body.take k) cnt)
  | advance {f fs} {i cnt : Nat} (hi : View.HeadAt rxGeometry m r f i) :
      Reading m r (f :: fs) (.advance (f.next i) cnt)

/-- The frames that have not been handed over yet. -/
def Drain.ahead {α : Type} : Drain → List α → List α
  | .advance _ _, fs => fs.tail
  | _, fs => fs

/-- What the reader knows survives the writes of the ARM7 and new frames at the end. -/
theorem Reading.transport {m m' : Mem} {r e' : Nat} {fs extra : List (Frame rxGeometry)}
    {d : Drain} (h : Reading m r fs d) (hv : View rxGeometry m' r e' (fs ++ extra))
    (hr : load32 m r ≠ 0 → load32 m' r = load32 m r) : Reading m' r (fs ++ extra) d := by
  cases h with
  | idle => exact .idle
  | size => exact .size
  | sizeAtStart hw =>
    refine .sizeAtStart ?_
    rw [hr (by rw [hw, wifiSizeWrap_eq]; decide), hw]
  | handle hi hk =>
    exact .handle (View.headAt_transport hv (hr (hi.load32_ne_zero (by decide))) hi) hk
  | advance hi => exact .advance (View.headAt_transport hv (hr (hi.load32_ne_zero (by decide))) hi)

/-- The same without new frames. -/
theorem Reading.congr {m m' : Mem} {r e' : Nat} {fs : List (Frame rxGeometry)} {d : Drain}
    (h : Reading m r fs d) (hv : View rxGeometry m' r e' fs)
    (hr : load32 m r ≠ 0 → load32 m' r = load32 m r) : Reading m' r fs d := by
  have ht : Reading m' r (fs ++ []) d := h.transport (by rwa [List.append_nil]) hr
  rwa [List.append_nil] at ht

theorem Reading.ahead_append {m : Mem} {r : Nat} {fs extra : List (Frame rxGeometry)} {d : Drain}
    (h : Reading m r fs d) : d.ahead (fs ++ extra) = d.ahead fs ++ extra := by
  cases h <;> rfl

/-! ## The writer -/

/-- What the ARM7 knows before each access of its enqueue. `w` is where the size tag goes, `W` is
the write index in shared memory. -/
inductive Writing (allowed : Nat → Prop) (m : Mem) (r W w : Nat) :
    List RxWrite → Option (List UInt8) → Prop
  | idle (hw : w = W) (h0 : w < r → 0 < w) : Writing allowed m r W w [] none
  | assert {ws p} (h : Writing allowed m r W w ws p) :
      Writing allowed m r W w (.assert true :: ws) p
  | mark (src : RxSource) (ha : allowed src.size) (hle : r ≤ w) (ht : src.total < r) :
      Writing allowed m r W w (.store32 0 0 :: .store32 w wifiSizeWrap ::
        (copyWrites 4 src.copied ++ publishWrites 0 src.size)) (some src.packet)
  | wrap (src : RxSource) (ha : allowed src.size) (hle : r ≤ w) (ht : src.total < r)
      (hz : load32 m 0 = 0) :
      Writing allowed m r W w (.store32 w wifiSizeWrap ::
        (copyWrites 4 src.copied ++ publishWrites 0 src.size)) (some src.packet)
  | copy (src : RxSource) (ha : allowed src.size) (done todo : List UInt8)
      (hs : src.copied = done ++ todo) (hb : loadBytes m (w + 4) done.length = done)
      (hr : View.Room rxGeometry r w src.total) :
      Writing allowed m r W w
        (copyWrites (w + 4 + done.length) todo ++ publishWrites w src.size) (some src.packet)
  | ended (src : RxSource) (ha : allowed src.size)
      (hb : loadBytes m (w + 4) src.size = src.packet) (hz : load32 m (nextTag w src.size) = 0)
      (hr : View.Room rxGeometry r w src.total) :
      Writing allowed m r W w
        [.setRxbufWrite (nextTag w src.size), .store32 w src.size] (some src.packet)
  | tag (src : RxSource) (ha : allowed src.size)
      (hb : loadBytes m (w + 4) src.size = src.packet) (hz : load32 m (nextTag w src.size) = 0)
      (hr : View.Room rxGeometry r w src.total) (hW : W = nextTag w src.size) :
      Writing allowed m r W w [.store32 w src.size] (some src.packet)

/-- Between two enqueues the size tag goes to the write index. -/
theorem Writing.of_idle {allowed : Nat → Prop} {m : Mem} {r W w : Nat}
    {p : Option (List UInt8)} (h : Writing allowed m r W w [] p) :
    w = W ∧ (w < r → 0 < w) ∧ p = none := by
  generalize hws : ([] : List RxWrite) = ws at h
  cases h with
  | idle hw h0 => exact ⟨hw, h0, rfl⟩
  | copy src _ done todo => cases todo <;> exact nomatch hws
  | _ => nomatch hws

/-- The reader's moves don't disturb the writer. -/
theorem Writing.advance {allowed : Nat → Prop} {m : Mem} {r r' W w : Nat} {ws : List RxWrite}
    {p : Option (List UInt8)} (h : Writing allowed m r W w ws p) (hcap : r + 4 ≤ rxGeometry.cap)
    (ha : View.Advance r w r') : Writing allowed m r' W w ws p := by
  induction h with
  | idle hw h0 =>
    refine .idle hw fun hlt => ?_
    unfold View.Advance at ha
    split at ha <;> omega
  | assert _ ih => exact .assert ih
  | mark src hs hle ht =>
    rw [View.Advance, if_pos hle] at ha
    exact .mark src hs ha.2 (by omega)
  | wrap src hs hle ht hz =>
    rw [View.Advance, if_pos hle] at ha
    exact .wrap src hs ha.2 (by omega) hz
  | copy src hs done todo hd hb hr => exact .copy src hs done todo hd hb (hr.advance hcap ha)
  | ended src hs hb hz hr => exact .ended src hs hb hz (hr.advance hcap ha)
  | tag src hs hb hz hr hW => exact .tag src hs hb hz (hr.advance hcap ha) hW

/-! ## The invariant -/

/-- Which packets the reader gets. -/
inductive Ends (s : RxState) (e w : Nat) (fs : List (Frame rxGeometry)) : Prop
  /-- No empty packet so far: every accepted packet has been handed over or lies in the ring. -/
  | flowing (he : e = w) (hne : [] ∉ s.accepted)
      (hq : s.accepted = s.delivered ++ (s.drain.ahead fs).map (·.body)) : Ends s e w fs
  /-- An empty packet has been accepted: the writer is ahead of its tag. -/
  | stuck (ha : View.Ahead s.rxbufRead e w) (hmem : [] ∈ s.accepted) : Ends s e w fs

theorem Ends.eq_or_ahead {s : RxState} {e w : Nat} {fs : List (Frame rxGeometry)}
    (h : Ends s e w fs) : e = w ∨ View.Ahead s.rxbufRead e w := by
  cases h with
  | flowing he _ _ => exact .inl he
  | stuck ha _ => exact .inr ha

/-- The writer's own fields don't matter. -/
theorem Ends.congr {s s' : RxState} {e w : Nat} {fs : List (Frame rxGeometry)} (h : Ends s e w fs)
    (hread : s'.rxbufRead = s.rxbufRead) (hdrain : s'.drain = s.drain)
    (hacc : s'.accepted = s.accepted) (hdel : s'.delivered = s.delivered) : Ends s' e w fs := by
  cases h with
  | flowing he hne hq => exact .flowing he (hacc ▸ hne) (by rw [hacc, hdel, hdrain]; exact hq)
  | stuck ha hmem => exact .stuck (hread ▸ ha) (hacc ▸ hmem)

/-- The invariant of the RX ring. -/
structure RxInv (allowed : Nat → Prop) (s : RxState) (e w : Nat) (fs : List (Frame rxGeometry)) :
    Prop where
  view : View rxGeometry s.rxbufData s.rxbufRead e fs
  reading : Reading s.rxbufData s.rxbufRead fs s.drain
  writing : Writing allowed s.rxbufData s.rxbufRead s.rxbufWrite w s.pending s.adding
  ends : Ends s e w fs
  four_dvd_read : 4 ∣ s.rxbufRead
  four_dvd_tag : 4 ∣ w
  tag_le : w + 4 ≤ 12288
  asserts : s.assertsHold = true
  sizes : ∀ p ∈ s.accepted, allowed p.length

theorem RxInv.init {allowed : Nat → Prop} : RxInv allowed .init 0 0 [] where
  view := .empty rfl (by decide)
  reading := .idle
  writing := .idle rfl fun h => absurd h (by decide)
  ends := .flowing rfl (by simp [RxState.init]) (by simp [RxState.init, Drain.ahead])
  four_dvd_read := ⟨0, rfl⟩
  four_dvd_tag := ⟨0, rfl⟩
  tag_le := by decide
  asserts := rfl
  sizes := by simp [RxState.init]

end Wifi
