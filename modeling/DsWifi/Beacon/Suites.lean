import DsWifi.Infra.Run
import DsWifi.Rx.OwnBytes

/-!
# The cipher suites of a beacon

The loops over the pairwise suites of an RSN element and of a Microsoft WPA element stand still at a
suite of another vendor, and every suite of a known type overwrites the security type that earlier
ones have left.

* `cipherSuites_eq` — what the loop makes of the suites
* `ReceivedBeacon.secType_eq` — what all the elements say together
* `wpa_incompatible_iff` — when an access point is listed as one with WPA
-/

namespace Wifi

open Infra Infra.Mem

/-! ## Suites -/

/-- A cipher suite. -/
structure CipherSuite where
  magic : List UInt8
  type : Nat
  deriving DecidableEq

/-- Cut bytes into suites. -/
def suitesOf : List UInt8 → List CipherSuite
  | a :: b :: c :: type :: bytes => ⟨[a, b, c], type.toNat⟩ :: suitesOf bytes
  | _ => []

/-- TKIP, AES WRAP and AES CCMP. -/
def IsWpaType (type : Nat) : Prop := type = 2 ∨ type = 3 ∨ type = 4

/-- WEP64 and WEP128. -/
def IsWepType (type : Nat) : Prop := type = 1 ∨ type = 5

/-- The magic number of the suites of the standard. -/
def magicRsn : List UInt8 := [0x00, 0x0F, 0xAC]

/-- The magic number of the suites of Microsoft. -/
def magicMicrosoft : List UInt8 := [0x00, 0x50, 0xF2]

/-- The halfword at `i`. -/
def halfAt (bytes : List UInt8) (i : Nat) : Nat :=
  (bytes.getD i 0).toNat + 2 ^ 8 * (bytes.getD (i + 1) 0).toNat

/-- The pairwise suites in an RSN element of version 1 or a Microsoft WPA element, behind the magic
number that its loop looks for. -/
def pairwiseSuites (e : Element) : Option (List UInt8 × List CipherSuite) :=
  if e.id.toNat = mgtFieIdRsn then
    if 10 ≤ e.body.length ∧ e.body.take 2 = [0x01, 0x00] then
      some (magicRsn, (suitesOf (e.body.drop 8)).take (halfAt e.body 6))
    else none
  else if e.id.toNat = mgtFieIdVendor then
    if 14 ≤ e.body.length ∧ e.body.take 6 = [0x00, 0x50, 0xF2, 0x01, 0x01, 0x00] then
      some (magicMicrosoft, (suitesOf (e.body.drop 12)).take (halfAt e.body 10))
    else none
  else none

/-- The types of the suites in front of the first one with another magic number. -/
def leadingTypes (e : Element) : List Nat :=
  match pairwiseSuites e with
  | some (magic, suites) => (suites.takeWhile (·.magic = magic)).map CipherSuite.type
  | none => []

/-- What a suite of this type does to `sec_type`. -/
def applyType (secType : ApSecurityType) : Nat → ApSecurityType
  | 2 | 3 | 4 => .wpa
  | 1 | 5 => .wep
  | _ => secType

/-- The last type that says anything is one of WPA. -/
def EndsWithWpa (types : List Nat) : Prop :=
  Since (fun _ _ => ()) (fun _ type => IsWpaType type) (fun _ type => IsWepType type) () types

/-- The element has a TKIP or CCMP suite. -/
def HasWpaSuite (e : Element) : Prop :=
  ∃ magic suites, pairwiseSuites e = some (magic, suites) ∧
    ∃ suite ∈ suites, (suite.magic = magicRsn ∨ suite.magic = magicMicrosoft) ∧
      IsWpaType suite.type

/-! ## The loop -/

section

variable {data : Mem} {magic : List UInt8} {last : Nat}

/-- The loop stands still at a suite with another magic number. -/
theorem cipherSuites_of_ne {j : Nat} (h : loadBytes data j 3 ≠ magic) (n : Nat)
    (secType : ApSecurityType) : cipherSuites data magic last n j secType = secType := by
  induction n with
  | zero => rfl
  | succ n ih =>
    rw [cipherSuites, if_neg h, ih]
    split <;> rfl

theorem suitesOf_of_lt {bytes : List UInt8} (h : bytes.length < 4) : suitesOf bytes = [] := by
  unfold suitesOf
  split
  · simp at h
    omega
  · rfl

/-- **What the loop makes of the suites.** -/
theorem cipherSuites_eq {j k : Nat} (hk : j + k = last + 4) (n : Nat)
    (secType : ApSecurityType) :
    cipherSuites data magic last n j secType =
      ((((suitesOf (loadBytes data j k)).take n).takeWhile (·.magic = magic)).map
        CipherSuite.type).foldl applyType secType := by
  induction n generalizing j k secType with
  | zero => rfl
  | succ n ih =>
    by_cases hle : j ≤ last
    · obtain ⟨k, rfl⟩ : ∃ k', k = 4 + k' := ⟨k - 4, by omega⟩
      have hsuites : suitesOf (loadBytes data j (4 + k)) =
          ⟨loadBytes data j 3, (data (j + 3)).toNat⟩ :: suitesOf (loadBytes data (j + 4) k) := by
        rw [loadBytes_add]
        rfl
      rw [cipherSuites, if_pos hle, hsuites, List.take_succ_cons]
      by_cases hmagic : loadBytes data j 3 = magic
      · rw [if_pos hmagic, ih (k := k) (by omega),
          List.takeWhile_cons_of_pos (by simpa using hmagic)]
        rfl
      · rw [if_neg hmagic, cipherSuites_of_ne hmagic,
          List.takeWhile_cons_of_neg (by simpa using hmagic)]
        rfl
    · -- Less than a suite is left, on both sides.
      have hshort : (loadBytes data j k).length < 4 := by
        rw [length_loadBytes]
        omega
      rw [cipherSuites, if_neg hle, suitesOf_of_lt hshort]
      rfl

end

/-! ## The elements -/

section

variable {data : Mem} {j len : Nat}

theorem halfAt_loadBytes {i : Nat} (h : i + 2 ≤ len) :
    halfAt (loadBytes data j len) i = load16 data (j + i) := by
  rw [halfAt, load16, List.getD_eq_getElem?_getD, List.getD_eq_getElem?_getD,
    getElem?_loadBytes (by omega), getElem?_loadBytes (by omega), Nat.add_assoc]
  rfl

theorem drop_loadBytes {i : Nat} (h : i ≤ len) :
    (loadBytes data j len).drop i = loadBytes data (j + i) (len - i) := by
  obtain ⟨k, rfl⟩ := Nat.exists_eq_add_of_le h
  rw [loadBytes_add, List.drop_left' (length_loadBytes data j i), Nat.add_sub_cancel_left]

/-- The RSN element. -/
theorem processRsn_secType (s : BeaconElements) {e : Element}
    (hid : e.id.toNat = mgtFieIdRsn) (hbody : e.body = loadBytes data j len) :
    (s.processRsn data j len).secType = (leadingTypes e).foldl applyType s.secType := by
  have hversion (h : 10 ≤ len) : e.body.take 2 = [0x01, 0x00] ↔
      data j = 0x01 ∧ data (j + 1) = 0x00 := by
    rw [hbody, take_loadBytes data j (by omega)]
    simp [loadBytes, List.range_succ]
  have hlen : e.body.length = len := by rw [hbody, length_loadBytes]
  unfold BeaconElements.processRsn leadingTypes pairwiseSuites
  rw [if_pos hid, hlen]
  by_cases h : 10 ≤ len ∧ data j = 0x01 ∧ data (j + 1) = 0x00
  · rw [if_pos h, if_pos ⟨h.1, (hversion h.1).mpr h.2⟩, hbody, halfAt_loadBytes (by omega),
      drop_loadBytes (by omega)]
    exact cipherSuites_eq (by omega) _ _
  · rw [if_neg h, if_neg fun h' => h ⟨h'.1, (hversion h'.1).mp h'.2⟩]
    rfl

/-- The element of a vendor. -/
theorem processVendorTag_secType (s : BeaconElements) {e : Element}
    (hid : e.id.toNat = mgtFieIdVendor) (hbody : e.body = loadBytes data j len) :
    (s.processVendorTag data j len).secType = (leadingTypes e).foldl applyType s.secType := by
  have hlen : e.body.length = len := by rw [hbody, length_loadBytes]
  have hmicrosoft : isVendorMicrosoft data j len = true ↔
      14 ≤ len ∧ e.body.take 6 = [0x00, 0x50, 0xF2, 0x01, 0x01, 0x00] := by
    unfold isVendorMicrosoft
    rw [Bool.and_eq_true, decide_eq_true_eq, beq_iff_eq]
    refine and_congr_right fun h => ?_
    rw [hbody, take_loadBytes data j (by omega)]
  unfold BeaconElements.processVendorTag leadingTypes pairwiseSuites
  rw [if_neg (show ¬ e.id.toNat = mgtFieIdRsn by rw [hid]; decide), if_pos hid, hlen]
  by_cases h : isVendorMicrosoft data j len = true
  · have hlong := (hmicrosoft.mp h).1
    rw [if_pos h, if_pos (hmicrosoft.mp h), hbody, halfAt_loadBytes (by omega),
      drop_loadBytes (by omega)]
    exact cipherSuites_eq (by omega) _ _
  · rw [if_neg h, if_neg (mt hmicrosoft.mpr h)]
    split <;> rfl

/-- What an element does to the security type depends on nothing but the element. -/
theorem process_secType (i : Nat) (s : BeaconElements) :
    (s.process data (data i).toNat (data (i + 1)).toNat (i + 2)).secType =
      (leadingTypes (elementAt data i)).foldl applyType s.secType := by
  have hother (hrsn : (data i).toNat ≠ mgtFieIdRsn) (hvendor : (data i).toNat ≠ mgtFieIdVendor) :
      (leadingTypes (elementAt data i)).foldl applyType s.secType = s.secType := by
    have hnone : pairwiseSuites (elementAt data i) = none := by
      rw [pairwiseSuites, elementAt, if_neg hrsn, if_neg hvendor]
    rw [leadingTypes, hnone]
    rfl
  unfold BeaconElements.process
  split_ifs with hssid hrates hchannel hrsn hvendor
  · rw [hother (by rw [hssid]; decide) (by rw [hssid]; decide)]
  · rw [hother (by rw [hrates]; decide) (by rw [hrates]; decide)]
  · rw [hother (by rw [hchannel]; decide) (by rw [hchannel]; decide)]
  · exact processRsn_secType s hrsn rfl
  · exact processVendorTag_secType s hvendor rfl
  · rw [hother hrsn hvendor]

end

/-! ## The security type -/

theorem applyType_eq_wpa_iff (secType : ApSecurityType) (type : Nat) :
    applyType secType type = .wpa ↔ IsWpaType type ∨ secType = .wpa ∧ ¬ IsWepType type := by
  unfold applyType IsWpaType IsWepType
  split <;> simp_all

/-- The security type after all suites is WPA exactly if the last one that says anything is. -/
theorem foldl_applyType_iff {secType : ApSecurityType} (hne : secType ≠ .wpa) (types : List Nat) :
    types.foldl applyType secType = .wpa ↔ EndsWithWpa types := by
  induction types using List.reverseRecOn with
  | nil => exact iff_of_false hne since_nil
  | append_singleton types type ih =>
    rw [List.foldl_append, List.foldl_cons, List.foldl_nil, applyType_eq_wpa_iff, ih]
    unfold EndsWithWpa
    rw [since_append_singleton]

/-- Suites never turn the security type into WPA2. -/
theorem foldl_applyType_ne {secType : ApSecurityType} (hne : secType ≠ .wpa2) (types : List Nat) :
    types.foldl applyType secType ≠ .wpa2 := by
  induction types generalizing secType with
  | nil => exact hne
  | cons type types ih =>
    refine ih ?_
    unfold applyType
    split
    all_goals first
      | exact hne
      | exact nofun

namespace ReceivedBeacon

variable (rx : ReceivedBeacon)

/-- The elements in the buffer. -/
def found : List Element := readElements rx.data rx.datalen (capsIndex + 2)

/-- **What all the elements say together.** -/
theorem secType_eq (curChannel : Nat) : (rx.elements curChannel).secType =
    (rx.found.flatMap leadingTypes).foldl applyType
      (if load16 rx.data capsIndex &&& capsPrivacy ≠ 0 then .wep else .open) := by
  unfold elements found
  rw [map_walk BeaconElements.secType fun secType e => (leadingTypes e).foldl applyType secType]
  · rw [List.foldl_flatMap]
  · intro i s
    exact process_secType i s

/-- The access point is listed as one with WPA, wherever it is listed. -/
def ListedAsWpa : Prop :=
  ∀ curChannel curApScanFlags args, rx.process curChannel curApScanFlags = some args →
    (args.secType = .wpa ∨ args.secType = .wpa2) ∧ args.compatible = false

/-- The frame is made of a header, the fixed fields and the elements. -/
structure WellFormed (es : List Element) : Prop where
  byteLength_eq : rx.byteLength = capsIndex + 2 + (elementsBytes es).length
  elements : loadBytes rx.frame (capsIndex + 2) (elementsBytes es).length = elementsBytes es

variable {rx} {curChannel curApScanFlags : Nat} {args : AccessPointArgs}

/-- What is said about the access point, if it is listed. -/
theorem process_args (h : rx.process curChannel curApScanFlags = some args) :
    args.secType = (rx.elements curChannel).secType ∧
      args.compatible = ((rx.elements curChannel).compatible &&
        (rx.elements curChannel).secType != .wpa && (rx.elements curChannel).secType != .wpa2) := by
  obtain ⟨-, h⟩ := Option.ite_none_right_eq_some.mp h
  cases h
  exact ⟨rfl, rfl⟩

/-- With all the filters every access point is listed. -/
theorem process_isSome (rx : ReceivedBeacon) (curChannel : Nat) :
    (rx.process curChannel (wscanListApAll ||| wscanListNdsHosts)).isSome := by
  simp [process, wscanListApAll, wscanListNdsHosts, wscanListApCompatible, wscanListApIncompatible]

/-- **An access point is listed as one with WPA exactly if the last suite that says anything is one
of WPA.** -/
theorem listedAsWpa_iff (rx : ReceivedBeacon) :
    rx.ListedAsWpa ↔ EndsWithWpa (rx.found.flatMap leadingTypes) := by
  have hinit (p : Prop) [Decidable p] : (if p then .wep else .open : ApSecurityType) ≠ .wpa ∧
      (if p then .wep else .open : ApSecurityType) ≠ .wpa2 := by
    split <;> exact ⟨nofun, nofun⟩
  have hwpa (curChannel : Nat) : (rx.elements curChannel).secType = .wpa ↔
      EndsWithWpa (rx.found.flatMap leadingTypes) := by
    rw [secType_eq]
    exact foldl_applyType_iff (hinit _).1 _
  have hwpa2 (curChannel : Nat) : (rx.elements curChannel).secType ≠ .wpa2 := by
    rw [secType_eq]
    exact foldl_applyType_ne (hinit _).2 _
  constructor
  · intro h
    obtain ⟨args, hargs⟩ := Option.isSome_iff_exists.mp (rx.process_isSome 0)
    have hsecType := (h 0 _ args hargs).1
    rw [(process_args hargs).1] at hsecType
    exact (hwpa 0).mp (hsecType.resolve_right (hwpa2 0))
  · intro h curChannel curApScanFlags args hargs
    obtain ⟨hsecType, hcompatible⟩ := process_args hargs
    rw [(hwpa curChannel).mpr h] at hsecType hcompatible
    exact ⟨.inl hsecType, by rw [hcompatible]; simp⟩

/-- The elements of a frame that fits in the buffer. -/
theorem WellFormed.found_eq {es : List Element} (h : rx.WellFormed es)
    (hle : rx.byteLength ≤ 512) : rx.found = es := by
  have hdatalen : rx.datalen = rx.byteLength := Nat.min_eq_left hle
  have hdata : Set.EqOn rx.data rx.frame (Set.Iio rx.datalen) :=
    ReceivedMgt.eqOn_buffer ⟨rx.byteLength, rx.rssi, rx.frame⟩ 512 rx.stack
  refine readElements_elements ?_ (hdatalen.trans h.byteLength_eq)
  rw [loadBytes_congr (hdata.mono fun x hx => ?_)]
  · exact h.elements
  · rw [hdatalen, h.byteLength_eq]
    exact hx.2

end ReceivedBeacon

/-- **A beacon lists its access point as one with WPA exactly if the last suite that says anything
is one of WPA**, among those in front of the first suite of another vendor in each element. -/
theorem wpa_incompatible_iff (rx : ReceivedBeacon) {es : List Element} (h : rx.WellFormed es) :
    (rx.ListedAsWpa ↔ EndsWithWpa (rx.found.flatMap leadingTypes)) ∧
      (rx.byteLength ≤ 512 → (rx.ListedAsWpa ↔ EndsWithWpa (es.flatMap leadingTypes))) := by
  refine ⟨rx.listedAsWpa_iff, fun hle => ?_⟩
  rw [rx.listedAsWpa_iff, h.found_eq hle]

/-- A beacon with these elements. -/
def beaconWith (es : List Element) : ReceivedBeacon where
  byteLength := capsIndex + 2 + (elementsBytes es).length
  rssi := 0
  frame := Mem.storeBytes (fun _ => 0) (capsIndex + 2) (elementsBytes es)
  stack _ := 0

theorem beaconWith_wellFormed (es : List Element) : (beaconWith es).WellFormed es :=
  ⟨rfl, loadBytes_storeBytes _ _ _⟩

/-- An RSN element with these suites. -/
def rsnElement (suites : List UInt8) (h : suites.length < 200) : Element where
  id := 48
  body := [1, 0, 0x00, 0x0F, 0xAC, 4] ++ halfBytes (suites.length / 4) ++ suites
  length_lt := by
    rw [List.length_append, List.length_append, length_halfBytes]
    exact Nat.add_lt_add_left h 8 |>.trans (by decide)

/-- WEP, CCMP and what a vendor has in front of another suite of WEP. -/
def mixedElement : Element :=
  rsnElement [0x00, 0x0F, 0xAC, 1, 0x00, 0x0F, 0xAC, 4, 0x00, 0x40, 0x96, 0, 0x00, 0x0F, 0xAC, 5]
    (by decide)

/-- CCMP and then WEP. -/
def wepLastElement : Element :=
  rsnElement [0x00, 0x0F, 0xAC, 4, 0x00, 0x0F, 0xAC, 1] (by decide)

theorem wpa_incompatible_iff_mixed : (beaconWith [wepLastElement, mixedElement]).ListedAsWpa ∧
    ¬ (beaconWith [mixedElement, wepLastElement]).ListedAsWpa := by
  have hmixed : [wepLastElement, mixedElement].flatMap leadingTypes = [4, 1, 1] ++ [4] := by
    decide +kernel
  have hwep : [mixedElement, wepLastElement].flatMap leadingTypes = [1, 4, 4] ++ [1] := by
    decide +kernel
  constructor
  · refine ((wpa_incompatible_iff _ (beaconWith_wellFormed _)).2 (by decide)).mpr ?_
    rw [hmixed]
    exact since_append_singleton.mpr (.inl (.inr (.inr rfl)))
  · intro hlisted
    have hends := ((wpa_incompatible_iff _ (beaconWith_wellFormed _)).2 (by decide)).mp hlisted
    rw [hwep] at hends
    rcases since_append_singleton.mp hends with hwpa | ⟨-, hnot⟩
    · exact absurd hwpa (by unfold IsWpaType; decide)
    · exact hnot (.inl rfl)

/-- A suite of a vendor hides the CCMP behind it. -/
theorem vendorSuite_compatible : ¬ ∀ (rx : ReceivedBeacon) (es : List Element), rx.WellFormed es →
    (∃ e ∈ es, HasWpaSuite e) → rx.ListedAsWpa := by
  intro h
  let e : Element := rsnElement [0x00, 0x40, 0x96, 0, 0x00, 0x0F, 0xAC, 4] (by decide)
  have hsuites : pairwiseSuites e =
      some (magicRsn, [⟨[0x00, 0x40, 0x96], 0⟩, ⟨magicRsn, 4⟩]) := by
    decide +kernel
  have hlisted := h (beaconWith [e]) [e] (beaconWith_wellFormed _)
    ⟨e, List.mem_singleton_self e, _, _, hsuites, ⟨magicRsn, 4⟩, by simp, .inl rfl,
      .inr (.inr rfl)⟩
  rw [ReceivedBeacon.listedAsWpa_iff,
    (beaconWith_wellFormed [e]).found_eq (by decide +kernel)] at hlisted
  have htypes : [e].flatMap leadingTypes = [] := by decide +kernel
  rw [htypes] at hlisted
  exact since_nil hlisted

end Wifi
