import DsWifi.Rx.AnswerBytes

/-!
# Management frames and their own bytes

The functions for management frames copy a frame to `data` on the stack, and believe the lengths
that they find in it. What is behind the end of the frame is whatever was on the stack.

* `frames_own_bytes_iff` — the frames of which nothing is read but what has been received
-/

namespace Wifi

open Infra Infra.Mem Infra.ReadM

/-- A frame is taken from its own bytes: what was on the stack makes no difference, and no index
goes beyond the buffer or the frame. -/
structure OwnBytes {α β : Type} (rx : ReceivedMgt) (size : Nat) (program : ReadM α)
    (effect : α → β) : Prop where
  same (stack stack' : Mem) :
    effect (eval (rx.buffer size stack) program) = effect (eval (rx.buffer size stack') program)
  received (stack : Mem) :
    ∀ i ∈ reads (rx.buffer size stack) program, i < size ∧ i < rx.byteLength

namespace ReceivedMgt

variable (rx : ReceivedMgt)

/-- Up to `datalen`, `data` is the frame. -/
theorem eqOn_buffer (size : Nat) (stack : Mem) :
    Set.EqOn (rx.buffer size stack) rx.frame (Set.Iio (rx.datalen size)) := by
  intro i hi
  have hlt : i < (rx.datalen size + 1) / 2 * 2 := by
    have : i < rx.datalen size := hi
    omega
  have hlen : i < (loadBytes rx.frame 0 ((rx.datalen size + 1) / 2 * 2)).length := by
    rwa [length_loadBytes]
  have hstored : rx.buffer size stack i =
      (loadBytes rx.frame 0 ((rx.datalen size + 1) / 2 * 2))[i] := by
    have hself := storeBytes_self (m := stack) (a := 0) hlen
    rwa [Nat.zero_add] at hself
  rw [hstored]
  simp [loadBytes]

end ReceivedMgt

/-- **A frame is taken from its own bytes exactly if** they are all that the program asks for. -/
theorem ownBytes_iff {α β : Type} {rx : ReceivedMgt} {size : Nat} {program : ReadM α}
    {effect : α → β} :
    OwnBytes rx size program effect ↔ Within (rx.datalen size) rx.frame program := by
  have hbuffer (stack : Mem) : Within (rx.datalen size) (rx.buffer size stack) program ↔
      Within (rx.datalen size) rx.frame program := within_congr (rx.eqOn_buffer size stack)
  constructor
  · intro h
    refine (hbuffer fun _ => 0).mp fun i hi => ?_
    obtain ⟨hsize, hlen⟩ := h.received _ i hi
    exact lt_min hlen hsize
  · intro h
    have heval (stack : Mem) : eval (rx.buffer size stack) program = eval rx.frame program :=
      (h.congr (rx.eqOn_buffer size stack)).1
    refine ⟨fun stack stack' => ?_, fun stack i hi => ?_⟩
    · rw [heval stack, heval stack']
    · exact (lt_min_iff.mp ((hbuffer stack).mpr h i hi)).symm

/-! ## Fields -/

variable {m : Mem} {n : Nat}

@[simp] theorem within_readMac (i : Nat) : Within n m (readMac i) ↔ i + 6 ≤ n := by
  rw [readMac, within_bind, within_bytes, received_iff (by decide)]
  exact and_iff_left (within_pure _)

/-! ## Beacons and probe responses -/

/-- The cipher suites are received as far as they are looked at. One of another kind is looked at
again and again. -/
def CiphersReceived (m : Mem) (n : Nat) (magic : List UInt8) (last : Nat) : Nat → Nat → Prop
  | 0, _ => True
  | numUniCiphers + 1, j =>
    j ≤ last →
      if loadBytes m j magic.length = magic then
        j + 4 ≤ n ∧ CiphersReceived m n magic last numUniCiphers (j + 4)
      else Received n j (matched m j magic)

/-- The bytes of an RSN element that are looked at. -/
def RsnReceived (m : Mem) (n j len : Nat) : Prop :=
  10 ≤ len →
    if loadBytes m j 2 = [0x01, 0x00] then
      j + 8 ≤ n ∧ CiphersReceived m n [0x00, 0x0F, 0xAC] (j + len - 4) (load16 m (j + 6)) (j + 8)
    else Received n j (matched m j [0x01, 0x00])

/-- The bytes of a vendor element that are looked at. -/
def VendorReceived (m : Mem) (n j len : Nat) : Prop :=
  (14 ≤ len → Received n j (matched m j microsoftMagic)) ∧
    if isVendorMicrosoft m j len then
      j + 12 ≤ n ∧
        CiphersReceived m n [0x00, 0x50, 0xF2] (j + (len - 4)) (load16 m (j + 10)) (j + 12)
    else
      (sizeofFieVendorNintendo ≤ len → Received n j (matched m j nintendoMagic)) ∧
        (isVendorNintendo m j len → j + sizeofFieVendorNintendo ≤ n)

/-- A rate that ends the loop over the rates. -/
def isUnsupportedRate (thisrate : UInt8) : Bool :=
  let rate := thisrate.toNat
  if rate = rateMandatory ||| rate1Mbps ∨ rate = rateMandatory ||| rate2Mbps then false
  else if rate = rateMandatory ||| rate5And5Mbps ∨ rate = rateMandatory ||| rate11Mbps then false
  else rate &&& rateMandatory != 0

/-- The bytes of an information element of a beacon that are looked at. -/
def ElementReceived (m : Mem) (n id seglen j : Nat) : Prop :=
  if id = mgtFieIdSupportedRates then Received n j (searched m isUnsupportedRate j seglen)
  else if id = mgtFieIdDsParamSet then j < n
  else if id = mgtFieIdRsn then RsnReceived m n j seglen
  else if id = mgtFieIdVendor then VendorReceived m n j seglen
  else True

theorem within_readCipherSuites {magic : List UInt8} (hmagic : magic.length = 3) (last k j : Nat)
    (secType : ApSecurityType) : Within n m (readCipherSuites magic last k j secType) ↔
      CiphersReceived m n magic last k j := by
  induction k generalizing j secType with
  | zero => exact iff_of_true (within_pure _) trivial
  | succ k ih =>
    simp only [readCipherSuites, CiphersReceived, within_ite, within_bind, within_pure,
      within_matchBytes, within_byte, eval_matchBytes, eval_byte, beq_iff_eq, ih, implies_true,
      and_true]
    refine imp_congr_right fun hj => ?_
    by_cases hknown : loadBytes m j magic.length = magic
    · have hall : Received n j (matched m j magic) ↔ j + 3 ≤ n := by
        rw [matched_of_eq hknown, hmagic, received_iff (by decide)]
      rw [if_pos hknown, hall]
      simp only [hknown, not_true_eq_false, false_imp_iff, and_true, true_imp_iff]
      constructor
      · rintro ⟨-, hsuite, hrest⟩
        exact ⟨hsuite, hrest⟩
      · rintro ⟨hsuite, hrest⟩
        exact ⟨by omega, hsuite, hrest⟩
    · -- The next round looks at the same bytes.
      have hagain (h : Received n j (matched m j magic)) : CiphersReceived m n magic last k j := by
        cases k with
        | zero => trivial
        | succ k =>
          intro _
          rwa [if_neg hknown]
      rw [if_neg hknown]
      simp only [hknown, not_false_eq_true, true_imp_iff, false_imp_iff, true_and]
      exact and_iff_left_of_imp hagain

theorem within_readRates (i k : Nat) (compatible : Bool) :
    Within n m (BeaconElements.readRates i k compatible) ↔
      Received n i (searched m isUnsupportedRate i k) := by
  induction k generalizing i compatible with
  | zero => exact iff_of_true (within_pure _) (received_zero _ _)
  | succ k ih =>
    simp only [BeaconElements.readRates, received_searched_succ, within_bind, within_byte,
      eval_byte, within_ite, within_pure, ih, implies_true, true_and]
    refine and_congr_right fun _ => ?_
    by_cases h12 : (m i).toNat = rateMandatory ||| rate1Mbps ∨
        (m i).toNat = rateMandatory ||| rate2Mbps
    · have hrate : isUnsupportedRate (m i) = false := if_pos h12
      simp [hrate, h12]
    · by_cases h511 : (m i).toNat = rateMandatory ||| rate5And5Mbps ∨
          (m i).toNat = rateMandatory ||| rate11Mbps
      · have hrate : isUnsupportedRate (m i) = false := by
          rw [isUnsupportedRate, if_neg h12, if_pos h511]
        simp [hrate, h12, h511]
      · have hrate : isUnsupportedRate (m i) = ((m i).toNat &&& rateMandatory != 0) := by
          rw [isUnsupportedRate, if_neg h12, if_neg h511]
        simp [hrate, h12, h511]

theorem within_readRsn (j len : Nat) (s : BeaconElements) :
    Within n m (s.readRsn j len) ↔ RsnReceived m n j len := by
  simp only [BeaconElements.readRsn, RsnReceived, within_ite, within_bind, within_pure,
    within_matchBytes, within_half, eval_matchBytes, eval_half, beq_iff_eq, implies_true, and_true,
    within_readCipherSuites (show ([0x00, 0x0F, 0xAC] : List UInt8).length = 3 from rfl)]
  refine imp_congr_right fun hlen => ?_
  by_cases hversion : loadBytes m j 2 = [0x01, 0x00]
  · have hall : Received n j (matched m j [0x01, 0x00]) ↔ j + 2 ≤ n := by
      rw [matched_of_eq hversion, received_iff (by decide)]
      rfl
    rw [if_pos hversion, hall]
    constructor
    · rintro ⟨-, hrest⟩
      exact hrest hversion
    · rintro ⟨hnum, hrest⟩
      exact ⟨by omega, fun _ => ⟨hnum, hrest⟩⟩
  · rw [if_neg hversion]
    exact and_iff_left fun h => absurd h hversion

theorem within_readNintendoVendorInfo (j : Nat) :
    Within n m (readNintendoVendorInfo j) ↔ j + sizeofFieVendorNintendo ≤ n := by
  simp only [readNintendoVendorInfo, within_bind, within_bytes, within_pure, and_true,
    received_iff (show 0 < 4 by decide), received_iff (show 0 < 20 by decide),
    sizeofFieVendorNintendo]
  omega

theorem within_readVendorTag (j len : Nat) (s : BeaconElements) :
    Within n m (s.readVendorTag j len) ↔ VendorReceived m n j len := by
  simp only [BeaconElements.readVendorTag, VendorReceived, readIsVendorMicrosoft,
    readIsVendorNintendo, within_ite, within_bind, within_pure, within_matchBytes, within_half,
    eval_half, implies_true, and_true, within_readNintendoVendorInfo,
    within_readCipherSuites (show ([0x00, 0x50, 0xF2] : List UInt8).length = 3 from rfl)]
  have hmicrosoft := eval_readIsVendorMicrosoft (m := m) j len
  have hnintendo := eval_readIsVendorNintendo (m := m) j len
  rw [readIsVendorMicrosoft] at hmicrosoft
  rw [readIsVendorNintendo] at hnintendo
  rw [hmicrosoft, hnintendo]
  refine and_congr_right fun _ => ?_
  by_cases h : isVendorMicrosoft m j len = true
  · simp [h]
  · simp [h]

theorem within_read (id seglen j : Nat) (s : BeaconElements) :
    Within n m (BeaconElements.read id seglen j s) ↔ ElementReceived m n id seglen j := by
  unfold BeaconElements.read ElementReceived
  by_cases hssid : id = mgtFieIdSsid
  · rw [if_pos hssid, hssid]
    exact iff_of_true (within_pure _) trivial
  · rw [if_neg hssid]
    split_ifs
    · rw [within_bind, within_readRates]
      exact and_iff_left (within_pure _)
    · rw [within_bind, within_byte]
      exact and_iff_left (within_pure _)
    · exact within_readRsn j seglen s
    · exact within_readVendorTag j seglen s
    · exact iff_of_true (within_pure _) trivial

/-- The SSID is received, as far as it is stored. -/
def SsidReceived (m : Mem) (n ptrSsid : Nat) (acquired : Bool) : Prop :=
  ptrSsid ≠ 0 → ptrSsid + 1 < n ∧
    (acquired = true → Received n (ptrSsid + 2) (min (m (ptrSsid + 1)).toNat 32))

theorem within_readSsid (ptrSsid : Nat) (acquired : Bool) :
    Within n m (ReceivedMgt.readSsid ptrSsid acquired) ↔ SsidReceived m n ptrSsid acquired := by
  simp only [ReceivedMgt.readSsid, SsidReceived, within_ite, within_bind, within_pure, within_byte,
    within_bytes, eval_byte, implies_true, and_true]
  refine imp_congr_right fun _ => and_congr_right fun _ => ?_
  cases acquired with
  | true => simp
  | false => simp [received_zero]

namespace ReceivedMgt

variable (rx : ReceivedMgt)

/-- What the frame itself says. -/
def frameElements (curChannel : Nat) : BeaconElements := eval rx.frame (rx.readElements curChannel)

/-- A beacon is received as far as it is looked at: the capabilities, the elements, and the SSID if
the filters let it through. -/
def BeaconReceived (curChannel curApScanFlags : Nat) (acquired : Bool) : Prop :=
  capsIndex + 2 ≤ rx.datalen 512 ∧
    ElementsReceived rx.frame (rx.datalen 512) (ElementReceived rx.frame (rx.datalen 512))
      (capsIndex + 2) ∧
    ((rx.frameElements curChannel).keep curApScanFlags = true →
      SsidReceived rx.frame (rx.datalen 512) (rx.frameElements curChannel).ptrSsid acquired)

theorem within_readElements (curChannel : Nat) :
    Within (rx.datalen 512) rx.frame (rx.readElements curChannel) ↔
      capsIndex + 2 ≤ rx.datalen 512 ∧
        ElementsReceived rx.frame (rx.datalen 512) (ElementReceived rx.frame (rx.datalen 512))
          (capsIndex + 2) := by
  rw [readElements, within_bind, within_half, within_walk within_read]

theorem within_readBeacon (curChannel curApScanFlags : Nat) (acquired : Bool) :
    Within (rx.datalen 512) rx.frame (rx.readBeacon curChannel curApScanFlags acquired) ↔
      rx.BeaconReceived curChannel curApScanFlags acquired := by
  simp only [readBeacon, BeaconReceived, within_bind, within_ite, within_pure, within_byte,
    within_readMac, within_readSsid, within_readElements, implies_true, and_true]
  rw [and_assoc]
  refine and_congr_right fun hcaps => and_congr_right fun _ => ?_
  -- The addresses are in front of the capabilities.
  have hheader : hdrMgtBssid + 6 ≤ rx.datalen 512 ∧ hdrMgtBssid + 6 < rx.datalen 512 ∧
      hdrMgtSa + 6 ≤ rx.datalen 512 := by
    simp only [capsIndex, hdrMgtMacSize, hdrMgtBssid, hdrMgtSa] at hcaps ⊢
    omega
  refine imp_congr_right fun _ => ?_
  exact and_iff_left hheader

/-! ## Association responses -/

/-- An association response is received as far as it is looked at. -/
def AssocResponseReceived (macAddr bssid : MacAddr) : Prop :=
  hdrMgtDa + 6 ≤ rx.datalen 64 ∧
    (macAt rx.frame hdrMgtDa = macAddr → hdrMgtBssid + 6 ≤ rx.datalen 64 ∧
      (macAt rx.frame hdrMgtBssid = bssid → hdrMgtMacSize + 4 ≤ rx.datalen 64 ∧
        (load16 rx.frame (hdrMgtMacSize + 2) = statusSuccess → hdrMgtMacSize + 7 ≤ rx.datalen 64 ∧
          ((rx.frame (hdrMgtMacSize + 6)).toNat = mgtFieIdSupportedRates →
            hdrMgtMacSize + 8 ≤ rx.datalen 64 ∧
              Received (rx.datalen 64) (hdrMgtMacSize + 8)
                (searched rx.frame isRate2Mbps (hdrMgtMacSize + 8)
                  (rx.frame (hdrMgtMacSize + 7)).toNat)))))

theorem within_readAssocResponse (macAddr bssid : MacAddr) :
    Within (rx.datalen 64) rx.frame (readAssocResponse macAddr bssid) ↔
      rx.AssocResponseReceived macAddr bssid := by
  simp only [readAssocResponse, readMaxRate, AssocResponseReceived, within_bind, within_ite,
    within_pure, within_byte, within_half, within_search, within_readMac, eval_readMac, eval_half,
    eval_byte, implies_true, and_true, true_and, not_not]
  refine and_congr_right fun _ => imp_congr_right fun _ => and_congr_right fun _ =>
    imp_congr_right fun _ => and_congr_right fun _ => imp_congr_right fun _ => ?_
  constructor
  · rintro ⟨haid, hid, hrates⟩
    refine ⟨by omega, fun h => ?_⟩
    obtain ⟨hnum, hreceived⟩ := hrates h
    exact ⟨by omega, hreceived⟩
  · rintro ⟨hid, hrates⟩
    refine ⟨by omega, by omega, fun h => ?_⟩
    obtain ⟨hnum, hreceived⟩ := hrates h
    exact ⟨by omega, hreceived⟩

/-! ## Authentication -/

/-- The bytes of the body that are looked at, up to a challenge text. -/
def authBodyLen (authAlgorithm seqNumber : Nat) : Nat :=
  if authAlgorithm = authAlgoOpenSystem then if seqNumber = 2 then 6 else 4
  else if authAlgorithm = authAlgoSharedKey then if seqNumber = 2 ∨ seqNumber = 4 then 6 else 4
  else 2

theorem two_le_authBodyLen (authAlgorithm seqNumber : Nat) :
    2 ≤ authBodyLen authAlgorithm seqNumber := by
  unfold authBodyLen
  split_ifs <;> omega

/-- A challenge text is received. -/
def ChallengeReceived : Prop :=
  hdrMgtMacSize + 7 ≤ rx.datalen 384 ∧
    ((rx.frame (hdrMgtMacSize + 6)).toNat = mgtFieIdChallengeText →
      hdrMgtMacSize + 8 ≤ rx.datalen 384 ∧
        ((rx.frame (hdrMgtMacSize + 7)).toNat ≤ 253 →
          Received (rx.datalen 384) (hdrMgtMacSize + 8) (rx.frame (hdrMgtMacSize + 7)).toNat))

/-- An authentication frame is received as far as it is looked at. -/
def AuthenticationReceived (macAddr bssid : MacAddr) : Prop :=
  let authAlgorithm := load16 rx.frame hdrMgtMacSize
  let seqNumber := load16 rx.frame (hdrMgtMacSize + 2)
  let statusCode := load16 rx.frame (hdrMgtMacSize + 4)
  hdrMgtDa + 6 ≤ rx.datalen 384 ∧
    (macAt rx.frame hdrMgtDa = macAddr → hdrMgtBssid + 6 ≤ rx.datalen 384 ∧
      (macAt rx.frame hdrMgtBssid = bssid →
        hdrMgtMacSize + authBodyLen authAlgorithm seqNumber ≤ rx.datalen 384 ∧
          (authAlgorithm = authAlgoSharedKey ∧ seqNumber = 2 ∧ statusCode = 0 →
            rx.ChallengeReceived)))

theorem within_readChallenge :
    Within (rx.datalen 384) rx.frame readChallenge ↔ rx.ChallengeReceived := by
  simp only [readChallenge, ChallengeReceived, within_bind, within_ite, within_pure, within_byte,
    within_bytes, eval_byte, implies_true, and_true, true_and, Nat.not_lt]
  rfl

theorem within_readOpenSystem :
    Within (rx.datalen 384) rx.frame readOpenSystem ↔
      hdrMgtMacSize + authBodyLen authAlgoOpenSystem (load16 rx.frame (hdrMgtMacSize + 2)) ≤
        rx.datalen 384 := by
  simp only [readOpenSystem, authBodyLen, within_bind, within_ite, within_pure, within_half,
    eval_half, implies_true, and_true, if_true]
  split
  · rename_i hseq
    simp only [hseq, true_imp_iff]
    omega
  · rename_i hseq
    simp only [hseq, false_imp_iff, and_true]

theorem within_readSharedKey :
    Within (rx.datalen 384) rx.frame readSharedKey ↔
      hdrMgtMacSize + authBodyLen authAlgoSharedKey (load16 rx.frame (hdrMgtMacSize + 2)) ≤
          rx.datalen 384 ∧
        (load16 rx.frame (hdrMgtMacSize + 2) = 2 ∧ load16 rx.frame (hdrMgtMacSize + 4) = 0 →
          rx.ChallengeReceived) := by
  have hne : authAlgoSharedKey ≠ authAlgoOpenSystem := by decide
  simp only [readSharedKey, authBodyLen, within_bind, within_ite, within_pure, within_half,
    within_readChallenge, eval_half, implies_true, and_true, if_neg hne, if_true]
  by_cases h2 : load16 rx.frame (hdrMgtMacSize + 2) = 2
  · simp only [h2, true_or, if_true, true_imp_iff, true_and, not_true_eq_false, false_imp_iff,
      and_true]
    constructor
    · rintro ⟨-, hstatus, hchallenge⟩
      exact ⟨hstatus, hchallenge⟩
    · rintro ⟨hstatus, hchallenge⟩
      exact ⟨by omega, hstatus, hchallenge⟩
  · by_cases h4 : load16 rx.frame (hdrMgtMacSize + 2) = 4
    · simp [h4]
      omega
    · simp [h2, h4]

theorem within_readAuthentication (macAddr bssid : MacAddr) :
    Within (rx.datalen 384) rx.frame (readAuthentication macAddr bssid) ↔
      rx.AuthenticationReceived macAddr bssid := by
  simp only [readAuthentication, AuthenticationReceived, within_bind, within_ite, within_pure,
    within_half, within_readOpenSystem, within_readSharedKey, within_readMac, eval_readMac,
    eval_half, implies_true, and_true, true_and, not_not]
  refine and_congr_right fun _ => imp_congr_right fun _ => and_congr_right fun _ =>
    imp_congr_right fun _ => ?_
  have hlen := two_le_authBodyLen (load16 rx.frame hdrMgtMacSize)
    (load16 rx.frame (hdrMgtMacSize + 2))
  by_cases hopen : load16 rx.frame hdrMgtMacSize = authAlgoOpenSystem
  · have hne : authAlgoOpenSystem ≠ authAlgoSharedKey := by decide
    rw [hopen] at hlen ⊢
    simp only [hne, true_imp_iff, not_true_eq_false, false_and, false_imp_iff, and_true]
    omega
  · by_cases hshared : load16 rx.frame hdrMgtMacSize = authAlgoSharedKey
    · have hne : authAlgoSharedKey ≠ authAlgoOpenSystem := by decide
      rw [hshared] at hlen ⊢
      simp only [hne, true_imp_iff, not_false_eq_true, false_imp_iff, true_and]
      constructor
      · rintro ⟨-, hbody, hchallenge⟩
        exact ⟨hbody, hchallenge⟩
      · rintro ⟨hbody, hchallenge⟩
        exact ⟨by omega, hbody, hchallenge⟩
    · have hbody : authBodyLen (load16 rx.frame hdrMgtMacSize)
          (load16 rx.frame (hdrMgtMacSize + 2)) = 2 := by
        rw [authBodyLen, if_neg hopen, if_neg hshared]
      simp [hopen, hshared, hbody]

/-! ## Association requests -/

end ReceivedMgt

/-- The elements of an association request are received as far as they are looked at. -/
def RequestElementsReceived (m : Mem) (n i : Nat) : Prop :=
  if i < n then
    i + 1 < n ∧
      ((m i).toNat = mgtFieIdSupportedRates → i + 2 < n ∧
        Received n (i + 3) (searched m isSupportedRate (i + 3) (m (i + 2)).toNat)) ∧
      (((m i).toNat = mgtFieIdSupportedRates →
          ∃ j < (m (i + 2)).toNat, isSupportedRate (m (i + 3 + j)) = true) →
        RequestElementsReceived m n (i + 2 + (m (i + 1)).toNat))
  else True
termination_by n - i

theorem within_readElementsOk (i : Nat) :
    Within n m (readElementsOk n i) ↔ RequestElementsReceived m n i := by
  fun_induction readElementsOk n i with
  | case1 i hlt ih =>
    have hany : ((List.range (m (i + 2)).toNat).any fun j =>
        isSupportedRate (m (i + 3 + j))) = true ↔
          ∃ j < (m (i + 2)).toNat, isSupportedRate (m (i + 3 + j)) = true := by
      simp
    rw [RequestElementsReceived, if_pos hlt]
    simp only [within_bind, within_byte, within_ite, within_pure, within_search, eval_byte,
      eval_search, hany, ih, hlt, true_and, implies_true, and_true]
    refine and_congr_right fun _ => ?_
    by_cases htype : (m i).toNat = mgtFieIdSupportedRates
    · simp only [htype, true_imp_iff, not_true_eq_false, false_imp_iff, and_true, and_assoc]
    · simp [htype]
  | case2 i hlt =>
    rw [RequestElementsReceived, if_neg hlt]
    exact iff_of_true (within_pure _) trivial

namespace ReceivedMgt

variable (rx : ReceivedMgt)

/-- An association request is received as far as it is looked at. -/
def AssocRequestReceived (macAddr : MacAddr) : Prop :=
  hdrMgtDa + 6 ≤ rx.datalen 128 ∧
    (macAt rx.frame hdrMgtDa = macAddr → hdrMgtMacSize + 2 ≤ rx.datalen 128 ∧
      (load16 rx.frame hdrMgtMacSize &&& 0x00FF = capsEss ||| capsShortPreamble →
        RequestElementsReceived rx.frame (rx.datalen 128) (sizeofTxHeader + hdrMgtMacSize + 4)))

theorem within_readAssocRequest (macAddr : MacAddr) :
    Within (rx.datalen 128) rx.frame (readAssocRequest macAddr (rx.datalen 128)) ↔
      rx.AssocRequestReceived macAddr := by
  simp only [readAssocRequest, AssocRequestReceived, within_bind, within_ite, within_pure,
    within_half, within_readElementsOk, within_readMac, eval_readMac, eval_half, implies_true,
    and_true, true_and, not_not]
  refine and_congr_right fun _ => imp_congr_right fun _ => ?_
  have hsa : hdrMgtMacSize + 2 ≤ rx.datalen 128 → hdrMgtSa + 6 ≤ rx.datalen 128 := by
    simp only [hdrMgtMacSize, hdrMgtSa]
    omega
  constructor
  · rintro ⟨-, hcaps, hrest⟩
    exact ⟨hcaps, hrest⟩
  · rintro ⟨hcaps, hrest⟩
    exact ⟨hsa hcaps, hcaps, hrest⟩

end ReceivedMgt

/-- **Management frames are taken from their own bytes exactly if** they are received as far as
their functions look at them. A beacon leads to a call of `Wifi_AccessPointAdd`, of whose arguments
the model of the list keeps some. -/
theorem frames_own_bytes_iff (rx : ReceivedMgt) :
    (∀ (s : Ntr) (acquired : Bool),
      OwnBytes rx 512 (rx.readBeacon s.curChannel s.curApScanFlags acquired)
          (fun args => (args, s.addBeacon acquired args)) ↔
        rx.BeaconReceived s.curChannel s.curApScanFlags acquired) ∧
    (∀ s : Console,
      OwnBytes rx 64 (readAssocResponse s.macAddr s.curAp.bssid) s.assocResponse ↔
        rx.AssocResponseReceived s.macAddr s.curAp.bssid) ∧
    (∀ (s : Console) (random : Nat),
      OwnBytes rx 384 (readAuthentication s.macAddr s.curAp.bssid) (s.authentication random) ↔
        rx.AuthenticationReceived s.macAddr s.curAp.bssid) ∧
    (∀ (s : Host) (ended ended' : Option Bool),
      OwnBytes rx 128 (readAssocRequest s.macAddr (rx.datalen 128))
          (s.answerAssocRequest ended ended') ↔
        rx.AssocRequestReceived s.macAddr) := by
  refine ⟨fun s acquired => ?_, fun s => ?_, fun s random => ?_, fun s ended ended' => ?_⟩
  · rw [ownBytes_iff, rx.within_readBeacon]
  · rw [ownBytes_iff, rx.within_readAssocResponse]
  · rw [ownBytes_iff, rx.within_readAuthentication]
  · rw [ownBytes_iff, rx.within_readAssocRequest]

/-! ## A challenge that is not there -/

/-- The console of the example, with an access point to authenticate with. -/
def challengedConsole : Console where
  toStation := .init { exampleMain with curAp := exampleAp 1 }
  maxrate7 := wifiTransferRate2Mbps
  listenint := 1
  sent := []

/-- The frame ends behind the length of its challenge text. -/
def shortChallenge : ReceivedMgt where
  byteLength := 32
  rssi := 0
  frame := frameMem ((IeeeFrameHeader.mk typeAuthentication 0 exampleMac (exampleAp 1).bssid
    (exampleAp 1).bssid 0).bytes ++ halfBytes authAlgoSharedKey ++ halfBytes 2 ++ halfBytes 0 ++
      [UInt8.ofNat mgtFieIdChallengeText, 128])

/-- The console sends back what was on its stack. -/
theorem shortChallenge_leaks :
    ¬ OwnBytes shortChallenge 384
      (readAuthentication challengedConsole.macAddr challengedConsole.curAp.bssid)
      (challengedConsole.authentication 0) := by
  intro h
  have hsent := congrArg Console.sent (h.same (fun _ => 0) fun _ => 1)
  revert hsent
  decide +kernel

end Wifi
