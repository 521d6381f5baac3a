import DsWifi.Infra.Run
import DsWifi.Rx.Mac

/-!
# Going through the RX ring

The frames of the hardware are counted by positions that never wrap. What is between the two cursors
is the frames that have not been read, one behind the other, and every address that the ARM7
computes is the one of such a position.

* `rx_traversal_iff` — the flushes find every frame once, in order and whole, along exactly the runs
  in which no flush looks at a ring that is full to the last byte, or at a frame without payload
-/

namespace Wifi

open Infra Infra.Mem Infra.TaggedRing

/-! ## Addresses -/

/-- The number of bytes of the ring. -/
def rxbufSize : Nat := rxbufEnd - rxbufBegin

theorem rxbufBegin_eq : rxbufBegin = 3072 := by decide

theorem rxbufEnd_eq : rxbufEnd = 8032 := by decide

theorem rxbufSize_eq : rxbufSize = 4960 := by decide

/-- The address of a position. -/
def rxAddr (p : Nat) : Nat := ringAddr rxbufBegin rxbufSize p

/-- The bytes at a position. -/
def rxLoad (m : Mem) (p n : Nat) : List UInt8 := loadRing m rxbufBegin rxbufSize p n

section

variable {m : Mem} {p k n : Nat}

theorem rxAddr_bounds (p : Nat) : 3072 ≤ rxAddr p ∧ rxAddr p < 8032 := by
  have hlt : p % 4960 < 4960 := Nat.mod_lt p (by decide)
  unfold rxAddr ringAddr
  rw [rxbufBegin_eq, rxbufSize_eq]
  omega

theorem two_dvd_rxAddr (h : 2 ∣ p) : 2 ∣ rxAddr p := by
  unfold rxAddr ringAddr
  rw [rxbufBegin_eq, rxbufSize_eq]
  omega

/-- A halfword does not wrap. -/
theorem rxAddr_succ (h : 2 ∣ p) : rxAddr (p + 1) = rxAddr p + 1 := by
  unfold rxAddr ringAddr
  rw [rxbufSize_eq]
  omega

/-- The next address. -/
theorem rxAddr_next (p : Nat) :
    (if rxAddr p + 1 = rxbufEnd then rxbufBegin else rxAddr p + 1) = rxAddr (p + 1) :=
  ringNext_ringAddr (by decide)

theorem macWrap_eq (macBase : Nat) : macWrap macBase = ringWrap rxbufBegin rxbufSize macBase := by
  unfold macWrap ringWrap
  rw [show rxbufBegin + rxbufSize = rxbufEnd by decide]
  rfl

theorem macWrap_rxAddr (hk : k ≤ rxbufSize) : macWrap (rxAddr p + k) = rxAddr (p + k) := by
  rw [macWrap_eq]
  exact ringWrap_ringAddr (by decide) hk

theorem loadBytes_rxAddr (h : 2 ∣ p) : loadBytes m (rxAddr p) 2 = rxLoad m p 2 := by
  show [m (rxAddr p + 0), m (rxAddr p + 1)] = [m (rxAddr (p + 0)), m (rxAddr (p + 1))]
  rw [rxAddr_succ h]
  rfl

/-! ## Reads and writes -/

theorem rxbufRead_eq (h : 2 ∣ p) : rxbufRead m (rxAddr p) n = rxLoad m p (2 * n) := by
  induction n generalizing p with
  | zero => rfl
  | succ n ih =>
    have hnext := rxAddr_next (p + 1)
    rw [rxAddr_succ h] at hnext
    have hpair : rxLoad m p 2 = [m (rxAddr p), m (rxAddr p + 1)] := (loadBytes_rxAddr h).symm
    have hsplit : rxLoad m p (2 * (n + 1)) = rxLoad m p 2 ++ rxLoad m (p + 2) (2 * n) := by
      rw [show 2 * (n + 1) = 2 + 2 * n by omega]
      exact loadRing_add ..
    rw [rxbufRead, hnext, ih (by omega), hsplit, hpair]
    rfl

/-- `Wifi_MACRead` of a position. -/
theorem macRead_rxAddr {macOffset : Nat} (h : 2 ∣ p + macOffset) (hle : macOffset ≤ rxbufSize)
    (length : Nat) : macRead m (rxAddr p) macOffset length =
      rxLoad m (p + macOffset) (2 * ((length + 1) / 2)) := by
  rw [macRead, macWrap_rxAddr hle, rxbufRead_eq h]

/-- `Wifi_MACReadHWord` of a position. -/
theorem halfBytes_macReadHWord {macOffset : Nat} (h : 2 ∣ p + macOffset)
    (hle : macOffset ≤ rxbufSize) :
    halfBytes (macReadHWord m (rxAddr p) macOffset) = rxLoad m (p + macOffset) 2 := by
  rw [macReadHWord, macWrap_rxAddr hle, halfBytes_load16, loadBytes_rxAddr h]

theorem macReadHWord_eq {macOffset v : Nat} (h : 2 ∣ p + macOffset) (hle : macOffset ≤ rxbufSize)
    (hv : v < 2 ^ 16) (hload : rxLoad m (p + macOffset) 2 = halfBytes v) :
    macReadHWord m (rxAddr p) macOffset = v := by
  rw [macReadHWord, macWrap_rxAddr hle]
  exact load16_eq m _ v hv ((loadBytes_rxAddr h).trans hload)

/-- What the hardware writes. -/
theorem rxbufWrite_eq (m : Mem) (p : Nat) (bs : List UInt8) :
    RxMac.rxbufWrite m (rxAddr p) bs =
      (storeRing rxbufBegin rxbufSize m p bs, rxAddr (p + bs.length)) := by
  induction bs generalizing m p with
  | nil => rfl
  | cons b bs ih =>
    rw [RxMac.rxbufWrite, rxAddr_next, ih, List.length_cons, Nat.add_right_comm, Nat.add_assoc]
    rfl

end

/-! ## Frames in the ring -/

namespace RxMacFrame

variable (f : RxMacFrame)

@[simp] theorem length_header : f.header.length = hdrRxSize := by
  simp [header, hdrRxSize]

@[simp] theorem length_body : f.body.length = roundUp f.payload.length := by
  rw [body, List.length_append, f.length_pad]

theorem length_bytes : f.bytes.length = f.size := by
  rw [bytes, List.length_append, length_header, length_body, size]

theorem four_dvd_size : 4 ∣ f.size :=
  Nat.dvd_add (by decide) (four_dvd_roundUp _)

theorem size_lt_rxbufSize : f.size < rxbufSize := f.size_lt

theorem size_pos : 0 < f.size := Nat.add_pos_left (by decide) _

theorem length_payload_lt : f.payload.length < 4948 := by
  have hlt := f.size_lt
  have hle := le_roundUp f.payload.length
  rw [rxbufEnd_eq, rxbufBegin_eq] at hlt
  unfold hdrRxSize at hlt
  omega

end RxMacFrame

/-- The frames have been written to these addresses, from a position on. -/
def Placed : Nat → List (RxMacFrame × Nat) → Prop
  | _, [] => True
  | p, (f, addr) :: fs => addr = rxAddr p ∧ Placed (p + f.size) fs

/-- The number of bytes of frames. -/
def framesSize (fs : List (RxMacFrame × Nat)) : Nat := (fs.map (·.1.size)).sum

/-- The bytes of frames. -/
def framesBytes (fs : List (RxMacFrame × Nat)) : List UInt8 := fs.flatMap (·.1.bytes)

theorem length_framesBytes (fs : List (RxMacFrame × Nat)) :
    (framesBytes fs).length = framesSize fs := by
  induction fs with
  | nil => rfl
  | cons fa fs ih =>
    rw [framesBytes, List.flatMap_cons, List.length_append, RxMacFrame.length_bytes]
    exact congrArg (fa.1.size + ·) ih

theorem four_dvd_framesSize (fs : List (RxMacFrame × Nat)) : 4 ∣ framesSize fs := by
  induction fs with
  | nil => exact Nat.dvd_zero 4
  | cons fa fs ih => exact Nat.dvd_add fa.1.four_dvd_size ih

theorem Placed.append {p : Nat} {fs : List (RxMacFrame × Nat)} {f : RxMacFrame}
    (h : Placed p fs) : Placed p (fs ++ [(f, rxAddr (p + framesSize fs))]) := by
  induction fs generalizing p with
  | nil => exact ⟨rfl, trivial⟩
  | cons fa fs ih =>
    refine ⟨h.1, ?_⟩
    have hsize : p + framesSize (fa :: fs) = p + fa.1.size + framesSize fs :=
      (Nat.add_assoc ..).symm
    rw [hsize]
    exact ih h.2

/-! ## What is to hold -/

/-- The call is the one for this frame: its address, and its bytes. -/
structure CallFor (call : RxCall) (fa : RxMacFrame × Nat) : Prop where
  macbase : call.macbase = fa.2
  packetheader : call.packetheader = fa.1.header
  control802 : halfBytes call.control802 = fa.1.body.take 2

/-- `Wifi_ProcessReceivedFrame` has been called for the first frames, once and in order, the cursor
is inside the ring, and what is read of the frame that is being handled are its bytes. -/
structure RxMac.Traversed (s : RxMac) : Prop where
  calls : List.Forall₂ CallFor s.calls (s.appended.take s.calls.length)
  readcsr : rxbufBegin ≤ 2 * s.readcsr ∧ 2 * s.readcsr < rxbufEnd
  payload : ∀ base packetlen cut, s.flush = .handling base packetlen cut →
    ∃ f : RxMacFrame, s.appended[s.calls.length - 1]? = some (f, base) ∧
      packetlen = f.payload.length ∧
      ∀ n ≤ packetlen, (macRead s.ram base hdrRxSize n).take n = f.payload.take n

/-- What holds after an event. A flush that looks at the ring calls `Wifi_ProcessReceivedFrame` if
there is a frame for which it has not been called. -/
def StepTraverses (s : RxMac) (e : RxMacEvent) : Prop :=
  (rxMacStep s e).Traversed ∧
    match e, s.flush with
    | .turn, .loop _ =>
      s.calls.length < s.appended.length → (rxMacStep s e).calls.length = s.calls.length + 1
    | _, _ => True

/-- A flush that looks at a ring with frames finds one with a payload, and not every byte of the
ring in use. -/
def StepSeesFrame (s : RxMac) (e : RxMacEvent) : Prop :=
  match e, s.flush with
  | .turn, .loop _ =>
    ∀ fa ∈ s.unread.head?, fa.1.payload ≠ [] ∧ s.unreadSize < rxbufEnd - rxbufBegin
  | _, _ => True

/-! ## The invariant -/

/-- Where the flush is, for the frames between the cursors. -/
def RxMac.PhaseAt (s : RxMac) : Prop :=
  match s.flush with
  | .handling base packetlen _ => s.calls.length = s.passed + 1 ∧
      ∃ f fs, s.unread = (f, base) :: fs ∧ packetlen = f.payload.length
  | _ => s.calls.length = s.passed

/-- The frames that have not been read are between the cursors, the first one at `rd`. -/
structure RxMacInv (s : RxMac) (rd : Nat) : Prop where
  readcsr : 2 * s.readcsr = rxAddr rd
  wrcsr : 2 * s.wrcsr = rxAddr (rd + s.unreadSize)
  four_dvd : 4 ∣ rd
  fits : s.unreadSize ≤ rxbufSize
  bytes : rxLoad s.ram rd s.unreadSize = framesBytes s.unread
  placed : Placed rd s.unread
  passed_le : s.passed ≤ s.appended.length
  calls : List.Forall₂ CallFor s.calls (s.appended.take s.calls.length)
  phase : s.PhaseAt

namespace RxMacInv

variable {s : RxMac} {rd : Nat}

theorem init : RxMacInv .init 0 where
  readcsr := by decide
  wrcsr := by decide
  four_dvd := Nat.dvd_zero 4
  fits := Nat.zero_le _
  bytes := rfl
  placed := trivial
  passed_le := Nat.le_refl 0
  calls := .nil
  phase := rfl

/-- There are no calls without a frame. -/
theorem calls_le (h : RxMacInv s rd) : s.calls.length ≤ s.appended.length := by
  have hlen := h.calls.length_eq
  rw [List.length_take] at hlen
  omega

/-- The bytes of the first frame. -/
theorem bytes_head (h : RxMacInv s rd) {f : RxMacFrame} {addr : Nat}
    {fs : List (RxMacFrame × Nat)} (hunread : s.unread = (f, addr) :: fs) :
    addr = rxAddr rd ∧ rxLoad s.ram rd hdrRxSize = f.header ∧
      rxLoad s.ram (rd + hdrRxSize) (roundUp f.payload.length) = f.body ∧
      rxLoad s.ram (rd + f.size) (framesSize fs) = framesBytes fs ∧
      Placed (rd + f.size) fs := by
  have hplaced := h.placed
  have hbytes := h.bytes
  have hsize : s.unreadSize = (framesBytes s.unread).length := (length_framesBytes _).symm
  rw [hunread] at hplaced
  rw [hsize, hunread, framesBytes, List.flatMap_cons, RxMacFrame.bytes, List.append_assoc] at hbytes
  obtain ⟨hheader, hrest⟩ := loadRing_append.mp hbytes
  obtain ⟨hbody, hrest⟩ := loadRing_append.mp hrest
  rw [f.length_header] at hheader hbody hrest
  rw [f.length_body] at hbody hrest
  have hlen := length_framesBytes fs
  rw [framesBytes] at hlen
  rw [hlen, Nat.add_assoc] at hrest
  exact ⟨hplaced.1, hheader, hbody, hrest, hplaced.2⟩

/-- The first frame takes part of the ring. -/
theorem size_le (h : RxMacInv s rd) {f : RxMacFrame} {addr : Nat} {fs : List (RxMacFrame × Nat)}
    (hunread : s.unread = (f, addr) :: fs) :
    s.unreadSize = f.size + framesSize fs ∧ f.size + framesSize fs ≤ rxbufSize := by
  have hsize : s.unreadSize = f.size + framesSize fs := by
    rw [RxMac.unreadSize, hunread]
    rfl
  exact ⟨hsize, hsize ▸ h.fits⟩

/-- What is read of the payload of the first frame. -/
theorem macRead_payload (h : RxMacInv s rd) {f : RxMacFrame} {addr : Nat}
    {fs : List (RxMacFrame × Nat)} (hunread : s.unread = (f, addr) :: fs) {n : Nat}
    (hn : n ≤ f.payload.length) :
    (macRead s.ram addr hdrRxSize n).take n = f.payload.take n := by
  obtain ⟨rfl, -, hbody, -, -⟩ := h.bytes_head hunread
  have hfour := h.four_dvd
  have heven : 2 ∣ rd + hdrRxSize := by
    unfold hdrRxSize
    omega
  have hround := le_roundUp f.payload.length
  have hpayload : rxLoad s.ram (rd + hdrRxSize) n = f.payload.take n := by
    have htake : (rxLoad s.ram (rd + hdrRxSize) (roundUp f.payload.length)).take n =
        f.body.take n := congrArg (·.take n) hbody
    rw [rxLoad, take_loadRing _ _ _ _ (by omega), RxMacFrame.body,
      List.take_append_of_le_length hn] at htake
    exact htake
  rw [macRead_rxAddr heven (by decide), rxLoad, take_loadRing _ _ _ _ (by omega)]
  exact hpayload

/-- The call for the first frame. -/
theorem callFor (h : RxMacInv s rd) {f : RxMacFrame} {addr : Nat}
    {fs : List (RxMacFrame × Nat)} (hunread : s.unread = (f, addr) :: fs)
    (hpayload : f.payload ≠ []) : CallFor (s.processReceivedFrame (rxAddr rd)) (f, addr) := by
  obtain ⟨rfl, hheader, hbody, -, -⟩ := h.bytes_head hunread
  have hfour := h.four_dvd
  refine ⟨rfl, ?_, ?_⟩
  · have hread := macRead_rxAddr (m := s.ram) (p := rd) (show 2 ∣ rd + 0 by omega)
      (Nat.zero_le _) hdrRxSize
    exact hread.trans hheader
  · have heven : 2 ∣ rd + hdrRxSize := by
      unfold hdrRxSize
      omega
    have hpos := List.length_pos_iff.mpr hpayload
    have htake : (rxLoad s.ram (rd + hdrRxSize) (roundUp f.payload.length)).take 2 =
        f.body.take 2 := congrArg (·.take 2) hbody
    rw [rxLoad, take_loadRing _ _ _ _ (by unfold roundUp; omega)] at htake
    exact (halfBytes_macReadHWord heven (by decide)).trans htake

/-- The length in the header of the first frame. -/
theorem packetlen_eq (h : RxMacInv s rd) {f : RxMacFrame} {addr : Nat}
    {fs : List (RxMacFrame × Nat)} (hunread : s.unread = (f, addr) :: fs) :
    macReadHWord s.ram (rxAddr rd) hdrRxIeeeFrameSize = f.payload.length := by
  obtain ⟨-, hheader, -, -, -⟩ := h.bytes_head hunread
  have hfour := h.four_dvd
  have hlt := f.length_payload_lt
  refine macReadHWord_eq (show 2 ∣ rd + 8 by omega) (by decide) (by omega) ?_
  rw [← f.length_header] at hheader
  unfold RxMacFrame.header at hheader
  obtain ⟨hlength, -⟩ := loadRing_append.mp hheader
  obtain ⟨-, hlength⟩ := loadRing_append.mp hlength
  rwa [Vector.length_toList, length_halfBytes] at hlength

/-- Without frames the cursors are equal, and otherwise only in a ring that is full. -/
theorem cursors_eq_iff (h : RxMacInv s rd) :
    s.wrcsr = s.readcsr ↔ s.unreadSize = 0 ∨ s.unreadSize = rxbufSize := by
  have hread := h.readcsr
  have hwrite := h.wrcsr
  have hfits := h.fits
  constructor
  · intro heq
    by_contra hne
    rw [not_or] at hne
    have hne' : rxAddr rd ≠ rxAddr (rd + s.unreadSize) := ringAddr_ne (by omega) (by omega)
    omega
  · intro hsize
    have haddr : rxAddr (rd + s.unreadSize) = rxAddr rd := by
      rcases hsize with h0 | hfull
      · rw [h0, Nat.add_zero]
      · rw [hfull]
        exact congrArg (rxbufBegin + ·) (Nat.add_mod_right rd rxbufSize)
    omega

/-! ## The events -/

theorem passed_lt (hunread : s.unread ≠ []) : s.passed < s.appended.length := by
  by_contra hle
  exact hunread (List.drop_eq_nil_of_le (Nat.le_of_not_lt hle))

/-- A frame is written behind the old ones, which stay as they are. -/
theorem bytes_append (h : RxMacInv s rd) {f : RxMacFrame}
    (hroom : s.unreadSize + f.size ≤ rxbufSize) (addr : Nat) :
    rxLoad (storeRing rxbufBegin rxbufSize s.ram (rd + s.unreadSize) f.bytes) rd
      (s.unreadSize + f.size) = framesBytes (s.unread ++ [(f, addr)]) := by
  generalize hram : storeRing rxbufBegin rxbufSize s.ram (rd + s.unreadSize) f.bytes = ram
  have hold : rxLoad ram rd s.unreadSize = framesBytes s.unread := by
    rw [← h.bytes, ← hram]
    refine loadRing_storeRing_of_disjoint (Nat.le_refl _) ?_
    rw [f.length_bytes, Nat.add_assoc]
    exact Nat.add_le_add_left hroom rd
  have hnew : rxLoad ram (rd + s.unreadSize) f.size = f.bytes := by
    rw [← hram, ← f.length_bytes]
    exact loadRing_storeRing (f.length_bytes ▸ Nat.le_of_lt f.size_lt_rxbufSize)
  refine (loadRing_add ..).trans ?_
  rw [framesBytes, List.flatMap_append]
  exact congrArg₂ (· ++ ·) hold (hnew.trans (List.append_nil _).symm)

/-- The hardware receives a frame. -/
theorem append (h : RxMacInv s rd) (f : RxMacFrame) : RxMacInv (s.append f) rd := by
  unfold RxMac.append
  split
  · rename_i hroom
    have hwrite := h.wrcsr
    have hfour := h.four_dvd
    have hfour' : 4 ∣ s.unreadSize := four_dvd_framesSize s.unread
    have hfour'' := f.four_dvd_size
    have hshift : s.wrcsr <<< 1 = rxAddr (rd + s.unreadSize) := by
      rw [← hwrite, Nat.shiftLeft_eq]
      omega
    have hdrop : (s.appended ++ [(f, rxAddr (rd + s.unreadSize))]).drop s.passed =
        s.unread ++ [(f, rxAddr (rd + s.unreadSize))] :=
      List.drop_append_of_le_length h.passed_le
    have hsum : framesSize (s.unread ++ [(f, rxAddr (rd + s.unreadSize))]) =
        s.unreadSize + f.size := by
      simp [framesSize, RxMac.unreadSize]
    rw [hshift, rxbufWrite_eq, f.length_bytes]
    dsimp only
    refine ⟨h.readcsr, ?_, h.four_dvd, ?_, ?_, ?_, ?_, ?_, ?_⟩
    · show 2 * (rxAddr (rd + s.unreadSize + f.size) >>> 1) =
        rxAddr (rd + framesSize (List.drop s.passed _))
      have heven : 2 ∣ rxAddr (rd + s.unreadSize + f.size) := two_dvd_rxAddr (by omega)
      rw [hdrop, hsum, ← Nat.add_assoc, Nat.shiftRight_eq_div_pow]
      omega
    · show framesSize (List.drop s.passed _) ≤ rxbufSize
      rw [hdrop, hsum]
      exact hroom
    · show rxLoad _ rd (framesSize (List.drop s.passed _)) = framesBytes (List.drop s.passed _)
      rw [hdrop, hsum]
      exact h.bytes_append hroom _
    · show Placed rd (List.drop s.passed _)
      rw [hdrop]
      exact h.placed.append
    · exact h.passed_le.trans (by rw [List.length_append]; exact Nat.le_add_right ..)
    · have hle := h.calls_le
      rw [List.take_append_of_le_length hle]
      exact h.calls
    · have hphase := h.phase
      unfold RxMac.PhaseAt at hphase ⊢
      dsimp only
      -- A frame that is being handled is still the first one.
      split at hphase
      · obtain ⟨hcalls, g, fs, hunread, hlen⟩ := hphase
        refine ⟨hcalls, g, fs ++ [(f, rxAddr (rd + s.unreadSize))], ?_, hlen⟩
        exact hdrop.trans (by rw [hunread]; rfl)
      · exact hphase
  · exact h

theorem phase_idle (h : RxMacInv s rd) (hflush : s.flush = .idle) :
    s.calls.length = s.passed := by
  have hphase := h.phase
  unfold RxMac.PhaseAt at hphase
  rwa [hflush] at hphase

theorem phase_loop (h : RxMacInv s rd) {cut : Nat} (hflush : s.flush = .loop cut) :
    s.calls.length = s.passed := by
  have hphase := h.phase
  unfold RxMac.PhaseAt at hphase
  rwa [hflush] at hphase

theorem phase_handling (h : RxMacInv s rd) {base packetlen cut : Nat}
    (hflush : s.flush = .handling base packetlen cut) :
    s.calls.length = s.passed + 1 ∧
      ∃ f fs, s.unread = (f, base) :: fs ∧ packetlen = f.payload.length := by
  have hphase := h.phase
  unfold RxMac.PhaseAt at hphase
  rwa [hflush] at hphase

/-- The cursors are apart if there are frames and room. -/
theorem cursors_ne (h : RxMacInv s rd) {fa : RxMacFrame × Nat} {fs : List (RxMacFrame × Nat)}
    (hunread : s.unread = fa :: fs) (hlt : s.unreadSize < rxbufSize) : s.wrcsr ≠ s.readcsr := by
  have hsize := (h.size_le hunread).1
  have hpos := fa.1.size_pos
  rw [ne_eq, h.cursors_eq_iff]
  omega

/-- The first frame that has not been read. -/
theorem take_succ {f : RxMacFrame} {addr : Nat} {fs : List (RxMacFrame × Nat)}
    (hunread : s.unread = (f, addr) :: fs) :
    s.appended[s.passed]? = some (f, addr) ∧
      s.appended.take (s.passed + 1) = s.appended.take s.passed ++ [(f, addr)] ∧
      s.appended.drop (s.passed + 1) = fs := by
  have hget : s.appended[s.passed]? = some (f, addr) := by
    have hhead : s.unread[0]? = some (f, addr) := by rw [hunread, List.getElem?_cons_zero]
    rwa [RxMac.unread, List.getElem?_drop, Nat.add_zero] at hhead
  refine ⟨hget, ?_, ?_⟩
  · rw [List.take_add_one, hget]
    rfl
  · have htail : s.unread.tail = fs := by rw [hunread, List.tail_cons]
    rw [← htail, RxMac.unread, List.tail_drop]

/-- The flush looks at the ring. -/
theorem turn (h : RxMacInv s rd) {cut : Nat} (hflush : s.flush = .loop cut)
    (hsees : ∀ fa ∈ s.unread.head?, fa.1.payload ≠ [] ∧ s.unreadSize < rxbufEnd - rxbufBegin) :
    RxMacInv (s.rxQueueTurn cut) rd := by
  have hphase := h.phase_loop hflush
  unfold RxMac.rxQueueTurn
  split
  · rename_i hne
    -- Cursors that are apart have a frame between them.
    rw [ne_eq, h.cursors_eq_iff, not_or] at hne
    cases hunread : s.unread with
    | nil =>
      rw [RxMac.unreadSize, hunread] at hne
      exact absurd rfl hne.1
    | cons fa fs =>
      obtain ⟨f, addr⟩ := fa
      obtain ⟨hpayload, -⟩ := hsees (f, addr) (by rw [hunread]; rfl)
      have hread := h.readcsr
      have hbase : s.readcsr <<< 1 = rxAddr rd := by
        rw [← hread, Nat.shiftLeft_eq]
        omega
      obtain ⟨rfl, -, -, -, -⟩ := h.bytes_head hunread
      obtain ⟨hget, htake, -⟩ := take_succ hunread
      dsimp only
      rw [hbase, h.packetlen_eq hunread]
      refine ⟨hread, h.wrcsr, h.four_dvd, h.fits, h.bytes, h.placed, h.passed_le, ?_, ?_⟩
      · have hcalls := h.calls
        rw [hphase] at hcalls
        dsimp only
        rw [List.length_append, List.length_singleton, hphase, htake]
        exact List.rel_append hcalls (.cons (h.callFor hunread hpayload) .nil)
      · refine ⟨?_, f, fs, hunread, rfl⟩
        rw [List.length_append, List.length_singleton, hphase]
  · exact ⟨h.readcsr, h.wrcsr, h.four_dvd, h.fits, h.bytes, h.placed, h.passed_le, h.calls, hphase⟩

/-- The cursor moves to the next frame. -/
theorem next (h : RxMacInv s rd) {base packetlen cut : Nat}
    (hflush : s.flush = .handling base packetlen cut) :
    ∃ rd', RxMacInv (s.rxQueueNext base packetlen cut) rd' := by
  obtain ⟨hcalls, f, fs, hunread, rfl⟩ := h.phase_handling hflush
  obtain ⟨rfl, -, -, hrest, hplaced⟩ := h.bytes_head hunread
  obtain ⟨hsize, hle⟩ := h.size_le hunread
  obtain ⟨hget, htake, hdrop⟩ := take_succ hunread
  have hfour := h.four_dvd
  have hfour' := f.four_dvd_size
  have hlt := f.length_payload_lt
  have hfull : hdrRxSize + roundUp32 f.payload.length = f.size := by
    rw [roundUp32_eq (by omega), RxMacFrame.size]
  have haddr : macWrap (rxAddr rd + f.size) = rxAddr (rd + f.size) :=
    macWrap_rxAddr (Nat.le_of_lt f.size_lt_rxbufSize)
  have hbounds := rxAddr_bounds (rd + f.size)
  have heven : 2 ∣ rxAddr (rd + f.size) := two_dvd_rxAddr (by omega)
  unfold macWrap at haddr
  unfold RxMac.rxQueueNext
  dsimp only
  rw [hfull, haddr]
  refine ⟨rd + f.size, ⟨?_, ?_, by omega, ?_, ?_, ?_, ?_, h.calls, ?_⟩⟩
  · show 2 * u16 (rxAddr (rd + f.size) >>> 1) = rxAddr (rd + f.size)
    rw [Nat.shiftRight_eq_div_pow]
    unfold u16
    omega
  · show 2 * s.wrcsr = rxAddr (rd + f.size + framesSize (s.appended.drop (s.passed + 1)))
    rw [hdrop, Nat.add_assoc, ← hsize]
    exact h.wrcsr
  · show framesSize (s.appended.drop (s.passed + 1)) ≤ rxbufSize
    rw [hdrop]
    omega
  · show rxLoad s.ram (rd + f.size) (framesSize (s.appended.drop (s.passed + 1))) =
      framesBytes (s.appended.drop (s.passed + 1))
    rw [hdrop]
    exact hrest
  · show Placed (rd + f.size) (s.appended.drop (s.passed + 1))
    rw [hdrop]
    exact hplaced
  · exact passed_lt (by rw [hunread]; exact List.cons_ne_nil _ _)
  · unfold RxMac.PhaseAt
    dsimp only
    split
    · rename_i hidle
      split at hidle <;> cases hidle
    · exact hcalls

/-- **The invariant is kept by every event** in which a flush sees the frames that there are. -/
theorem step (h : RxMacInv s rd) (e : RxMacEvent) (hsees : StepSeesFrame s e) :
    ∃ rd', RxMacInv (rxMacStep s e) rd' := by
  cases e with
  | append f => exact ⟨rd, h.append f⟩
  | rxQueueFlush =>
    unfold rxMacStep
    dsimp only
    split
    · rename_i hflush
      exact ⟨rd, h.readcsr, h.wrcsr, h.four_dvd, h.fits, h.bytes, h.placed, h.passed_le, h.calls,
        h.phase_idle hflush⟩
    · exact ⟨rd, h⟩
  | turn =>
    unfold rxMacStep
    unfold StepSeesFrame at hsees
    dsimp only
    split
    · exact ⟨rd, h⟩
    · rename_i cut hflush
      rw [hflush] at hsees
      exact ⟨rd, h.turn hflush hsees⟩
    · rename_i hflush
      exact h.next hflush

/-- The invariant says what is to hold. -/
theorem traversed (h : RxMacInv s rd) : s.Traversed := by
  refine ⟨h.calls, ?_, fun base packetlen cut hflush => ?_⟩
  · have hbounds := rxAddr_bounds rd
    rw [h.readcsr, rxbufBegin_eq, rxbufEnd_eq]
    exact hbounds
  · obtain ⟨hcalls, f, fs, hunread, rfl⟩ := h.phase_handling hflush
    obtain ⟨hget, -, -⟩ := take_succ hunread
    refine ⟨f, ?_, rfl, fun n hn => h.macRead_payload hunread hn⟩
    rw [hcalls, Nat.add_sub_cancel]
    exact hget

/-! ## What a flush has to see -/

/-- The flush that looks at a ring with frames calls `Wifi_ProcessReceivedFrame` for the first one
only if the cursors are apart. -/
theorem lt_of_calls (h : RxMacInv s rd) {cut : Nat}
    (hcalls : (s.rxQueueTurn cut).calls.length = s.calls.length + 1) :
    s.unreadSize < rxbufSize := by
  refine Nat.lt_of_le_of_ne h.fits fun hfull => ?_
  have heq := h.cursors_eq_iff.mpr (.inr hfull)
  rw [RxMac.rxQueueTurn, if_neg (not_not_intro heq)] at hcalls
  exact absurd hcalls (Nat.ne_of_lt (Nat.lt_succ_self _))

/-- A flush that sees a frame calls `Wifi_ProcessReceivedFrame`. -/
theorem length_calls_turn (h : RxMacInv s rd) {cut : Nat}
    (hsees : ∀ fa ∈ s.unread.head?, fa.1.payload ≠ [] ∧ s.unreadSize < rxbufEnd - rxbufBegin)
    (hlt : s.passed < s.appended.length) :
    (s.rxQueueTurn cut).calls.length = s.calls.length + 1 := by
  cases hunread : s.unread with
  | nil => exact absurd (List.drop_eq_nil_iff.mp hunread) (Nat.not_le_of_lt hlt)
  | cons fa fs =>
    obtain ⟨-, hfree⟩ := hsees fa (by rw [hunread]; rfl)
    rw [RxMac.rxQueueTurn, if_pos (h.cursors_ne hunread hfree)]
    exact List.length_append

/-- The call reads a control field that belongs to the frame only if there is a payload. -/
theorem payload_ne_nil (h : RxMacInv s rd) {cut : Nat} {f : RxMacFrame} {addr : Nat}
    {fs : List (RxMacFrame × Nat)} (hunread : s.unread = (f, addr) :: fs)
    (hpassed : s.calls.length = s.passed) (hlt : s.unreadSize < rxbufSize)
    (htraversed : (s.rxQueueTurn cut).Traversed) : f.payload ≠ [] := by
  intro hnil
  have hcalls := htraversed.calls
  rw [RxMac.rxQueueTurn, if_pos (h.cursors_ne hunread hlt)] at hcalls
  dsimp only at hcalls
  rw [List.length_append, List.length_singleton, hpassed, (take_succ hunread).2.1] at hcalls
  have hlast := List.rel_reverse hcalls
  rw [List.reverse_append, List.reverse_append] at hlast
  obtain ⟨hcall, -⟩ := List.forall₂_cons.mp hlast
  have hbody : f.body = [] := by
    refine List.length_eq_zero_iff.mp ?_
    rw [f.length_body, hnil]
    rfl
  have hcontrol := congrArg List.length hcall.control802
  rw [hbody] at hcontrol
  cases hcontrol

theorem rxMacStep_turn {cut : Nat} (hflush : s.flush = .loop cut) :
    rxMacStep s .turn = s.rxQueueTurn cut := by
  unfold rxMacStep
  rw [hflush]

theorem stepTraverses_iff (h : RxMacInv s rd) (e : RxMacEvent) :
    StepTraverses s e ↔ StepSeesFrame s e := by
  constructor
  · rintro ⟨htraversed, hcall⟩
    unfold StepSeesFrame
    split at hcall
    · rename_i cut hflush
      intro fa hfa
      obtain ⟨fs, hunread⟩ := List.head?_eq_some_iff.mp hfa
      have hphase := h.phase_loop hflush
      have hne : s.unread ≠ [] := by
        rw [hunread]
        exact List.cons_ne_nil fa fs
      rw [rxMacStep_turn hflush] at htraversed hcall
      have hlt := h.lt_of_calls (hcall (hphase ▸ passed_lt hne))
      exact ⟨h.payload_ne_nil hunread hphase hlt htraversed, hlt⟩
    · trivial
  · intro hsees
    obtain ⟨rd', h'⟩ := h.step e hsees
    refine ⟨h'.traversed, ?_⟩
    unfold StepSeesFrame at hsees
    split
    · rename_i cut hflush
      rw [hflush] at hsees
      intro hlt
      rw [rxMacStep_turn hflush]
      exact h.length_calls_turn hsees (h.phase_loop hflush ▸ hlt)
    · trivial

end RxMacInv

/-- **The flushes find every frame once, in order and whole, along exactly the runs** in which they
see the frames that there are. -/
theorem rx_traversal_iff (es : List RxMacEvent) :
    Along rxMacStep StepTraverses .init es ↔ Along rxMacStep StepSeesFrame .init es :=
  along_iff (fun s => ∃ rd, RxMacInv s rd) (fun _ e ⟨_, h⟩ hsees => h.step e hsees)
    (fun _ e ⟨_, h⟩ => h.stepTraverses_iff e) es ⟨0, .init⟩

/-- A frame that fills half of the ring. -/
def halfRingFrame : RxMacFrame where
  head := .replicate 8 0
  tail := .replicate 2 0
  payload := .replicate 2468 0
  pad := []
  length_pad := by rw [List.length_replicate]; rfl
  size_lt := by rw [List.length_replicate]; decide

/-- A frame that ends with its header. -/
def emptyFrame : RxMacFrame where
  head := .replicate 8 0
  tail := .replicate 2 0
  payload := []
  pad := []
  length_pad := rfl
  size_lt := by decide

/-- The frame has been added to those that have not been read. -/
theorem RxMac.unread_append {s : RxMac} {f : RxMacFrame} (hpassed : s.passed ≤ s.appended.length)
    (hroom : s.unreadSize + f.size ≤ rxbufSize) :
    ∃ addr, (s.append f).unread = s.unread ++ [(f, addr)] := by
  refine ⟨s.wrcsr <<< 1, ?_⟩
  rw [RxMac.append, if_pos (show _ ≤ rxbufEnd - rxbufBegin from hroom)]
  exact List.drop_append_of_le_length hpassed

theorem RxMac.flush_append (s : RxMac) (f : RxMacFrame) : (s.append f).flush = s.flush := by
  unfold RxMac.append
  split <;> rfl

/-- Two frames that fill the ring are not seen. -/
theorem not_seesFrame {f : RxMacFrame} (hf : f.size + f.size = rxbufSize) :
    ¬ StepSeesFrame (rxMacStep ((RxMac.init.append f).append f) .rxQueueFlush) .turn := by
  have h := RxMacInv.init.append f
  obtain ⟨addr, hone⟩ := RxMac.unread_append (s := .init) (f := f) (Nat.zero_le 0)
    (show 0 + f.size ≤ rxbufSize by omega)
  have hsize : (RxMac.init.append f).unreadSize = f.size := by
    rw [RxMac.unreadSize, hone]
    rfl
  obtain ⟨addr', htwo⟩ := RxMac.unread_append h.passed_le (f := f) (by rw [hsize, hf])
  have hflush : ((RxMac.init.append f).append f).flush = .idle := by
    rw [RxMac.flush_append, RxMac.flush_append]
    rfl
  generalize (RxMac.init.append f).append f = s at htwo hflush
  intro hsees
  have hstep : rxMacStep s .rxQueueFlush = { s with flush := .loop 0 } := by
    unfold rxMacStep
    rw [hflush]
  rw [hstep] at hsees
  have hlt := (hsees (f, addr) (by
    show s.unread.head? = some (f, addr)
    rw [htwo, hone]
    rfl)).2
  have hfull : s.unreadSize = f.size + f.size := by
    rw [RxMac.unreadSize, htwo, hone]
    rfl
  exact absurd hlt (Nat.not_lt_of_le (Nat.le_of_eq (hf.symm.trans hfull.symm)))

/-- The flush takes a full ring for an empty one, and it reads the type of a frame behind it. -/
theorem fullRing_missed :
    ¬ Along rxMacStep StepTraverses .init
        [.append halfRingFrame, .append halfRingFrame, .rxQueueFlush, .turn] ∧
      ¬ Along rxMacStep StepTraverses .init [.append emptyFrame, .rxQueueFlush, .turn] := by
  have hiff (es : List RxMacEvent) := along_iff (fun s => ∃ rd, RxMacInv s rd)
    (fun _ e ⟨_, h⟩ hsees => h.step e hsees) (fun _ e ⟨_, h⟩ => h.stepTraverses_iff e) es
    ⟨0, .init⟩
  rw [hiff, hiff]
  constructor
  · have hsize : halfRingFrame.size + halfRingFrame.size = rxbufSize := by
      rw [RxMacFrame.size, halfRingFrame, List.length_replicate]
      decide
    generalize halfRingFrame = f at hsize ⊢
    exact fun hsees => not_seesFrame hsize hsees.2.2.2.1
  · rintro ⟨-, -, hlast, -⟩
    exact (hlast (emptyFrame, 0xC00) rfl).1 rfl

end Wifi
