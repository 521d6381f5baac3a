import DsWifi.Rx.OwnBytes

/-!
# Access points that the card has found

`wmi_handle_bss_info` (`source/arm7/twl/ath/wmi.twl.c`) gets a header of the card and behind it the
body of a beacon. It walks over the information elements and adds the access point to the list. In
an RSN element it looks at up to four pairwise suites, expects the AKM suites behind those, and
looks at up to four of them.

* `within_readBssInfo_iff` — which bytes are read
* `saysLast_of_le` — an RSN element with short lists says what it says
* `wmiHandleBssInfo_parses_iff` — the packets whose RSN elements are understood
-/

namespace Wifi

open Infra Infra.Mem Infra.ReadM

/-! ## Elements -/

/-- `IEEE_CRYPT_TKIP`. -/
def ieeeCryptTkip : Nat := 0x000FAC02

/-- `IEEE_CRYPT_AES_CCMP`. -/
def ieeeCryptAesCcmp : Nat := 0x000FAC04

/-- `IEEE_AUTH_PSK`. -/
def ieeeAuthPsk : Nat := 0x000FAC02

/-- `AP_AUTH_PSK`. -/
def apAuthPsk : Nat := 2

/-- `wmi_ieee_to_crypt`. -/
def wmiIeeeToCrypt (ieee : Nat) : ApCryptType :=
  if ieee = ieeeCryptTkip then .tkip else if ieee = ieeeCryptAesCcmp then .aes else .none

theorem wmiIeeeToCrypt_eq_aes_iff {ieee : Nat} :
    wmiIeeeToCrypt ieee = .aes ↔ ieee = ieeeCryptAesCcmp := by
  unfold wmiIeeeToCrypt ieeeCryptTkip ieeeCryptAesCcmp
  split_ifs <;> simp_all

/-- What the loop over the information elements has found so far. -/
structure BssElements where
  /-- The first `ap_ssid_len` bytes of `ap_ssid`. -/
  ssid : List UInt8
  secType : ApSecurityType
  groupCrypto : ApCryptType
  pairCrypto : ApCryptType
  /-- `auth_type`, which can be any byte. -/
  authType : Nat
  deriving DecidableEq

namespace BssElements

/-- What is done with an RSN element that starts at `j`. The length of the element isn't used. -/
def readRsn (j : Nat) (s : BssElements) : ReadM BssElements := do
  let version ← half j
  if version ≠ 0x0001 then return { s with secType := .wpa2 }
  else do
    let groupCipher ← beWord (j + 2)
    let numPairwise ← half (j + 6)
    let cipher ← lastWord (fun cipher => wmiIeeeToCrypt cipher = .aes) (j + 8)
      (min numPairwise 4) none
    -- The index moves over no more than four suites, however long the list is.
    let readIdx := j + 8 + 4 * min numPairwise 4
    let numAuthkey ← half readIdx
    let auth ← lastWord (fun auth => auth = ieeeAuthPsk) (readIdx + 2) (min numAuthkey 4) none
    let pairCrypto := (cipher.map wmiIeeeToCrypt).getD s.pairCrypto
    return { s with
      secType := if pairCrypto = .tkip then .wpa else .wpa2
      groupCrypto := wmiIeeeToCrypt groupCipher
      pairCrypto
      authType := (auth.map (· % 2 ^ 8)).getD s.authType }

/-- One turn of the loop. -/
def read (id len j : Nat) (s : BssElements) : ReadM BssElements :=
  if id = mgtFieIdSsid then do
    let first ← byte j
    if 0 < first.toNat then do
      let ssid ← bytes j (min len 32)
      return { s with ssid }
    else return s
  else if id = mgtFieIdVendor then return s
  else if id = mgtFieIdRsn then readRsn j s
  else return s

end BssElements

/-! ## Packets -/

/-- `wifi_mhz_to_channel`, in unsigned arithmetic. -/
def wifiMhzToChannel (mhz : Nat) : Nat :=
  if mhz = 2484 then 14 else (1 + (mhz + 2 ^ 32 - 2412) % 2 ^ 32 / 5) % 2 ^ 32

/-- A halfword with a sign. -/
def signed16 (v : Nat) : Int := if v < 2 ^ 15 then v else (v : Int) - 2 ^ 16

/-- The arguments of `Wifi_AccessPointAdd`. -/
structure BssInfoArgs where
  bssid : MacAddr
  sa : MacAddr
  ssid : List UInt8
  channel : Nat
  rssi : Int
  secType : ApSecurityType
  groupCryptType : ApCryptType
  pairCryptType : ApCryptType
  authType : Nat
  compatible : Bool
  nintendoInfo : Option NintendoVendorInfo
  deriving DecidableEq

/-- Where the elements start: behind `wmi_bss_info_hdr` and `wmi_bss_info_frame_hdr`. -/
def bssElementsIndex : Nat := 28

/-- Where the loop over the elements ends. `data_left` has a sign. -/
def bssEnd (len : UInt32) : Nat :=
  if len.toNat - bssElementsIndex < 2 ^ 31 then len.toNat else bssElementsIndex

/-- `wmi_handle_bss_info`, up to the call of `Wifi_AccessPointAdd`, if there is one. -/
def readBssInfo (len : UInt32) : ReadM (Option BssInfoArgs) :=
  if len.toNat ≤ bssElementsIndex then return none
  else do
    let snr ← byte 3
    if snr.toNat < 0x10 then return none
    else do
      let capability ← half 26
      let s ← ReadM.walk BssElements.read (bssEnd len) bssElementsIndex {
        ssid := []
        secType := if capability &&& capsPrivacy ≠ 0 then .wep else .open
        groupCrypto := .none
        pairCrypto := .none
        authType := 0 }
      let bssid ← readMac 6
      let channel ← half 0
      let rssi ← half 4
      return some {
        bssid
        sa := bssid
        ssid := s.ssid
        channel := wifiMhzToChannel channel
        rssi := signed16 rssi
        secType := s.secType
        groupCryptType := s.groupCrypto
        pairCryptType := s.pairCrypto
        authType := s.authType
        compatible := true
        nintendoInfo := none }

/-! ## RSN elements -/

section

variable (m : Mem) (k : Nat)

/-- The number of pairwise suites in the RSN element at `k`. -/
def numPairwise : Nat := load16 m (k + 8)

/-- The pairwise suites that the loop can look at. -/
def pairwiseSeen : List Nat := beWordsAt m (k + 10) (min (numPairwise m k) 4)

/-- Where the number of AKM suites is looked for. -/
def authIndex : Nat := k + 10 + 4 * min (numPairwise m k) 4

/-- The AKM suites that the loop can look at, or what is taken for them. -/
def authSeen : List Nat :=
  beWordsAt m (authIndex m k + 2) (min (load16 m (authIndex m k)) 4)

/-- An RSN element of version 1 starts at `k`. -/
def IsRsn : Prop := m k = 48 ∧ load16 m (k + 2) = 1

instance : Decidable (IsRsn m k) := inferInstanceAs (Decidable (_ ∧ _))

/-- It also has pairwise suites. -/
def HasPairwise : Prop := IsRsn m k ∧ numPairwise m k ≠ 0

instance : Decidable (HasPairwise m k) := inferInstanceAs (Decidable (_ ∧ _))

/-- It also has AKM suites, where the loop looks for them. -/
def HasAuth : Prop := IsRsn m k ∧ load16 m (authIndex m k) ≠ 0

instance : Decidable (HasAuth m k) := inferInstanceAs (Decidable (_ ∧ _))

/-- What the element says about the pairwise cipher. -/
def pairOf : Option ApCryptType :=
  ((upTo (fun cipher => wmiIeeeToCrypt cipher = .aes) (pairwiseSeen m k)).getLast?).map
    wmiIeeeToCrypt

/-- What the element says about the authentication. -/
def authOf : Option Nat :=
  ((upTo (fun auth => auth = ieeeAuthPsk) (authSeen m k)).getLast?).map (· % 2 ^ 8)

/-- The authentication is taken for PSK: it is among the suites that are looked at, or the last of
them ends like it. -/
def AuthIsPsk : Prop :=
  ieeeAuthPsk ∈ authSeen m k ∨ ∃ auth ∈ (authSeen m k).getLast?, auth % 2 ^ 8 = apAuthPsk

end

/-! ## What the loop does -/

section

variable {m : Mem} {k n : Nat} {s : BssElements}

/-- One turn of the loop, at the element at `k`. -/
def BssElements.process (m : Mem) (s : BssElements) (k : Nat) : BssElements :=
  eval m (BssElements.read (m k).toNat (m (k + 1)).toNat (k + 2) s)

/-- What an RSN element of version 1 is replaced by. -/
theorem process_rsn (h : IsRsn m k) :
    (s.process m k).groupCrypto = wmiIeeeToCrypt (beWordAt m (k + 4)) ∧
    (s.process m k).pairCrypto = (pairOf m k).getD s.pairCrypto ∧
    (s.process m k).authType = (authOf m k).getD s.authType := by
  obtain ⟨hid, hversion⟩ := h
  have hread : BssElements.read (m k).toNat (m (k + 1)).toNat (k + 2) s =
      BssElements.readRsn (k + 2) s := by
    rw [BssElements.read, hid]
    rfl
  rw [BssElements.process, hread]
  simp only [BssElements.readRsn, eval_bind, eval_half, hversion, ne_eq, not_true, if_false,
    eval_beWord, eval_lastWord, eval_pure, Option.or_none]
  exact ⟨trivial, rfl, rfl⟩

/-- Other elements say nothing about ciphers. -/
theorem process_other (h : ¬ IsRsn m k) :
    (s.process m k).groupCrypto = s.groupCrypto ∧ (s.process m k).pairCrypto = s.pairCrypto ∧
    (s.process m k).authType = s.authType := by
  unfold BssElements.process BssElements.read
  split_ifs with hssid hvendor hrsn
  · simp only [eval_bind, eval_byte, eval_ite, eval_bytes, eval_pure]
    split_ifs <;> exact ⟨rfl, rfl, rfl⟩
  · exact ⟨rfl, rfl, rfl⟩
  · have hid : m k = 48 := UInt8.toNat_inj.mp hrsn
    have hversion : load16 m (k + 2) ≠ 1 := fun hversion => h ⟨hid, hversion⟩
    simp only [BssElements.readRsn, eval_bind, eval_half, eval_pure, ne_eq, hversion,
      not_false_eq_true, if_true, and_self]
  · exact ⟨rfl, rfl, rfl⟩

/-- Everything that the loop comes to. -/
theorem eval_walk_read (m : Mem) (n : Nat) (s : BssElements) :
    eval m (ReadM.walk BssElements.read n bssElementsIndex s) =
      (starts m n bssElementsIndex).foldl (BssElements.process m) s := by
  rw [eval_walk, walk_eq_foldl]
  rfl

theorem isSome_pairOf : (pairOf m k).isSome ↔ numPairwise m k ≠ 0 := by
  rw [pairOf, Option.isSome_map, isSome_getLast?_upTo, ← List.length_pos_iff_ne_nil, pairwiseSeen,
    length_beWordsAt]
  omega

theorem isSome_authOf : (authOf m k).isSome ↔ load16 m (authIndex m k) ≠ 0 := by
  rw [authOf, Option.isSome_map, isSome_getLast?_upTo, ← List.length_pos_iff_ne_nil, authSeen,
    length_beWordsAt]
  omega

/-- The pairwise cipher is AES if and only if CCMP is among the suites that are looked at. -/
theorem pairOf_eq_aes_iff : pairOf m k = some .aes ↔ ieeeCryptAesCcmp ∈ pairwiseSeen m k := by
  rw [pairOf, getLast?_upTo]
  cases hfind : (pairwiseSeen m k).find? fun cipher => wmiIeeeToCrypt cipher = .aes with
  | some cipher =>
    have haes : wmiIeeeToCrypt cipher = .aes := by simpa using List.find?_some hfind
    refine iff_of_true (congrArg some haes) ?_
    rw [← wmiIeeeToCrypt_eq_aes_iff.mp haes]
    exact List.mem_of_find?_eq_some hfind
  | none =>
    have hnone : ieeeCryptAesCcmp ∉ pairwiseSeen m k := by
      intro hmem
      exact List.find?_eq_none.mp hfind _ hmem (decide_eq_true (wmiIeeeToCrypt_eq_aes_iff.mpr rfl))
    refine iff_of_false ?_ hnone
    rw [Option.none_or, Option.map_eq_some_iff]
    rintro ⟨cipher, hlast, haes⟩
    rw [wmiIeeeToCrypt_eq_aes_iff.mp haes] at hlast
    exact hnone (List.mem_of_getLast? hlast)

theorem authOf_eq_psk_iff : authOf m k = some apAuthPsk ↔ AuthIsPsk m k := by
  rw [authOf, getLast?_upTo, AuthIsPsk]
  cases hfind : (authSeen m k).find? fun auth => auth = ieeeAuthPsk with
  | some auth =>
    have hpsk : auth = ieeeAuthPsk := by simpa using List.find?_some hfind
    have hmem := List.mem_of_find?_eq_some hfind
    rw [hpsk] at hmem ⊢
    exact iff_of_true rfl (.inl hmem)
  | none =>
    have hnone : ieeeAuthPsk ∉ authSeen m k := by
      intro hmem
      exact List.find?_eq_none.mp hfind _ hmem (decide_eq_true rfl)
    rw [Option.none_or, Option.map_eq_some_iff, or_iff_right hnone]
    rfl

/-- The last RSN element that says something counts. -/
theorem foldl_rsn {P : Nat → Prop} [DecidablePred P] {τ : Type} (f : BssElements → τ)
    (g : Nat → Option τ) (hrsn : ∀ s k, IsRsn m k → f (s.process m k) = (g k).getD (f s))
    (hother : ∀ s k, ¬ IsRsn m k → f (s.process m k) = f s)
    (hP : ∀ k, P k ↔ IsRsn m k ∧ (g k).isSome) (ks : List Nat) (s : BssElements) :
    f (ks.foldl (BssElements.process m) s) = ((ks.filter P).getLast?.bind g).getD (f s) := by
  have hstep (s : BssElements) (k : Nat) :
      f (s.process m k) = (if IsRsn m k then g k else none).getD (f s) := by
    by_cases hk : IsRsn m k
    · rw [if_pos hk, hrsn s k hk]
    · rw [if_neg hk, hother s k hk, Option.getD_none]
  have hfilter : (ks.filter fun k => (if IsRsn m k then g k else none).isSome) = ks.filter P := by
    refine List.filter_congr fun k _ => ?_
    by_cases hk : IsRsn m k
    · simp [hP, hk]
    · simp [hP, hk]
  rw [foldl_replace f _ hstep, hfilter]
  cases hlast : (ks.filter P).getLast? with
  | none => rfl
  | some k =>
    have hk := of_decide_eq_true (List.mem_filter.mp (List.mem_of_getLast? hlast)).2
    rw [Option.bind_some, Option.bind_some, if_pos ((hP k).mp hk).1]

theorem foldl_process_groupCrypto (ks : List Nat) (s : BssElements) :
    (ks.foldl (BssElements.process m) s).groupCrypto =
      ((ks.filter (IsRsn m)).getLast?.bind
        fun k => some (wmiIeeeToCrypt (beWordAt m (k + 4)))).getD s.groupCrypto :=
  foldl_rsn BssElements.groupCrypto _ (fun _ _ hk => (process_rsn hk).1)
    (fun _ _ hk => (process_other hk).1) (fun _ => (and_iff_left rfl).symm) ks s

theorem foldl_process_pairCrypto (ks : List Nat) (s : BssElements) :
    (ks.foldl (BssElements.process m) s).pairCrypto =
      ((ks.filter (HasPairwise m)).getLast?.bind (pairOf m)).getD s.pairCrypto :=
  foldl_rsn BssElements.pairCrypto _ (fun _ _ hk => (process_rsn hk).2.1)
    (fun _ _ hk => (process_other hk).2.1) (fun _ => and_congr_right fun _ => isSome_pairOf.symm)
    ks s

theorem foldl_process_authType (ks : List Nat) (s : BssElements) :
    (ks.foldl (BssElements.process m) s).authType =
      ((ks.filter (HasAuth m)).getLast?.bind (authOf m)).getD s.authType :=
  foldl_rsn BssElements.authType _ (fun _ _ hk => (process_rsn hk).2.2)
    (fun _ _ hk => (process_other hk).2.2) (fun _ => and_congr_right fun _ => isSome_authOf.symm)
    ks s

/-! ## Which bytes are read -/

/-- The RSN element at `k` ends below `n`, as far as it is looked at. -/
def RsnEnds (m : Mem) (n k : Nat) : Prop :=
  if load16 m (k + 2) = 1 then
    authIndex m k + 2 + 4 * (upTo (fun auth => auth = ieeeAuthPsk) (authSeen m k)).length ≤ n
  else k + 4 ≤ n

/-- The element at `k` ends below `n`, as far as it is looked at. One byte of an SSID always is. -/
def BssEnds (m : Mem) (n k : Nat) : Prop :=
  k + 1 < n ∧
    (m k = 0 → k + 2 < n ∧ (m (k + 2) ≠ 0 → k + 2 + min (m (k + 1)).toNat 32 ≤ n)) ∧
    (m k = 48 → RsnEnds m n k)

/-- Bytes that follow a field end where the last of them ends. -/
theorem received_of_le {i l : Nat} (hi : i ≤ n) : Received n i l ↔ i + l ≤ n := by
  rcases Nat.eq_zero_or_pos l with rfl | hl
  · exact iff_of_true (received_zero n i) hi
  · exact received_iff hl

theorem within_readBssRsn : Within n m (BssElements.readRsn (k + 2) s) ↔ RsnEnds m n k := by
  simp only [BssElements.readRsn, RsnEnds, within_bind, within_half, eval_half, within_ite,
    within_pure, within_beWord, within_lastWord, implies_true, true_and, and_true]
  by_cases hversion : load16 m (k + 2) = 1
  · rw [if_pos hversion, imp_iff_right (not_not_intro hversion)]
    -- The suites that are looked at lie in front of the number of AKM suites.
    have hcipher := length_upTo_le (fun cipher => wmiIeeeToCrypt cipher = .aes) (pairwiseSeen m k)
    have hseen : (pairwiseSeen m k).length = min (numPairwise m k) 4 := length_beWordsAt _ _ _
    rw [hseen] at hcipher
    have hindex : authIndex m k = k + 10 + 4 * min (numPairwise m k) 4 := rfl
    constructor
    · rintro ⟨-, -, -, -, hcount, hauth⟩
      exact (received_of_le hcount).mp hauth
    · intro hends
      have hcount : authIndex m k + 2 ≤ n := by omega
      have hpairwise : k + 10 ≤ n := by omega
      refine ⟨by omega, by omega, by omega, ?_, hcount, (received_of_le hcount).mpr hends⟩
      refine (received_of_le hpairwise).mpr ?_
      change k + 10 + 4 * (upTo _ (pairwiseSeen m k)).length ≤ n
      omega
  · rw [if_neg hversion]
    exact and_iff_left fun h => absurd hversion h

theorem within_readBssElement : (k + 1 < n ∧ Within n m
    (BssElements.read (m k).toNat (m (k + 1)).toNat (k + 2) s)) ↔ BssEnds m n k := by
  refine and_congr_right fun hheader => ?_
  have hidSsid : (m k).toNat = mgtFieIdSsid ↔ m k = 0 := UInt8.toNat_inj (b := 0)
  have hidVendor : (m k).toNat = mgtFieIdVendor ↔ m k = 221 := UInt8.toNat_inj (b := 221)
  have hidRsn : (m k).toNat = mgtFieIdRsn ↔ m k = 48 := UInt8.toNat_inj (b := 48)
  unfold BssElements.read
  by_cases hssid : m k = 0
  · have hpos : 0 < (m (k + 2)).toNat ↔ m (k + 2) ≠ 0 := by
      rw [Nat.pos_iff_ne_zero, ne_eq, ne_eq, ← UInt8.toNat_inj]
      rfl
    have hnot : m k ≠ 48 := hssid ▸ by decide
    rw [if_pos (hidSsid.mpr hssid)]
    simp only [within_bind, within_byte, eval_byte, within_ite, within_bytes, within_pure,
      implies_true, and_true, hpos]
    rw [imp_iff_right hssid, and_iff_left fun h => absurd h hnot]
    exact and_congr_right fun hfirst => imp_congr_right fun _ => received_of_le hfirst.le
  · rw [if_neg (hidSsid.not.mpr hssid), and_iff_right fun h => absurd h hssid]
    by_cases hrsn : m k = 48
    · have hnot : m k ≠ 221 := hrsn ▸ by decide
      rw [if_neg (hidVendor.not.mpr hnot), if_pos (hidRsn.mpr hrsn), within_readBssRsn,
        imp_iff_right hrsn]
    · rw [if_neg (hidRsn.not.mpr hrsn), ite_self]
      exact iff_of_true (within_pure _) fun h => absurd h hrsn

/-- The loop stays below `n` if and only if each element that it comes to ends there. -/
theorem within_walk_readBss {i : Nat} :
    Within n m (ReadM.walk BssElements.read n i s) ↔ ∀ k, Visits m n i k → BssEnds m n k :=
  within_walk_iff_visits fun _ _ => within_readBssElement

end

/-- The packet isn't dropped at once. -/
def IsLooked (m : Mem) (len : UInt32) : Prop := bssElementsIndex < len.toNat ∧ 0x10 ≤ (m 3).toNat

section

variable {m : Mem} {len : UInt32}

/-- Nothing from `len` on is read, if and only if each element ends in front of it. -/
theorem within_readBssInfo_iff : Within len.toNat m (readBssInfo len) ↔
    (IsLooked m len → ∀ k, Visits m (bssEnd len) bssElementsIndex k → BssEnds m len.toNat k) := by
  unfold readBssInfo IsLooked
  by_cases hlen : len.toNat ≤ bssElementsIndex
  · rw [if_pos hlen]
    exact iff_of_true (within_pure _) fun h => absurd h.1 (Nat.not_lt.mpr hlen)
  · have hindex : 28 < len.toNat := Nat.lt_of_not_le hlen
    have hbelow (i : Nat) (hi : i ≤ 28) : i ≤ len.toNat := hi.trans hindex.le
    rw [if_neg hlen, and_iff_right (Nat.lt_of_not_le hlen)]
    simp only [within_bind, within_byte, eval_byte, within_ite, within_half, within_readMac,
      within_pure, implies_true, true_and, and_true, Nat.not_lt]
    have hsnr : 3 < len.toNat := by omega
    rw [and_iff_right hsnr]
    refine imp_congr_right fun _ => ?_
    rw [and_iff_right (hbelow 28 (by decide)), and_iff_left
      ⟨hbelow 12 (by decide), hbelow 2 (by decide), hbelow 6 (by decide)⟩]
    -- The count of a packet from 2 ^ 31 on is negative, and the loop does nothing.
    unfold bssEnd
    split
    · exact within_walk_readBss
    · refine iff_of_true ?_ fun k hvisits => absurd hvisits (not_visits_of_le (Nat.le_refl _))
      rw [ReadM.walk, if_neg (Nat.lt_irrefl _)]
      exact within_pure _

end

/-! ## RSN elements that are understood -/

section

variable (m : Mem) (k : Nat)

/-- The pairwise suites that the RSN element at `k` lists. -/
def listedPairwise : List Nat := beWordsAt m (k + 10) (numPairwise m k)

/-- Where the number of AKM suites is. -/
def akmIndex : Nat := k + 10 + 4 * numPairwise m k

/-- The AKM suites that the element lists. -/
def listedAkms : List Nat := beWordsAt m (akmIndex m k + 2) (load16 m (akmIndex m k))

/-- A well-formed RSN element of version 1 starts at `k`, in a packet of `n` bytes. -/
structure RsnAt (n : Nat) : Prop where
  visits : Visits m n bssElementsIndex k
  rsn : IsRsn m k
  inside : k + 2 + (m (k + 1)).toNat ≤ n
  suites : akmIndex m k + 2 + 4 * load16 m (akmIndex m k) ≤ k + 2 + (m (k + 1)).toNat

/-- What the element says is passed on. -/
structure PassesRsn (args : BssInfoArgs) : Prop where
  group : args.groupCryptType = wmiIeeeToCrypt (beWordAt m (k + 4))
  pairwise : ieeeCryptAesCcmp ∈ listedPairwise m k → args.pairCryptType = .aes
  auth : ieeeAuthPsk ∈ listedAkms m k → args.authType = apAuthPsk

/-- What the element says is what the last one of the elements at `ks` says, as far as the loop
looks at it. -/
structure SaysLast (ks : List Nat) : Prop where
  group : ((ks.filter (IsRsn m)).getLast?.bind
    fun last => some (wmiIeeeToCrypt (beWordAt m (last + 4)))).getD .none =
      wmiIeeeToCrypt (beWordAt m (k + 4))
  pairwise : ieeeCryptAesCcmp ∈ listedPairwise m k →
    ∃ last ∈ (ks.filter (HasPairwise m)).getLast?, ieeeCryptAesCcmp ∈ pairwiseSeen m last
  auth : ieeeAuthPsk ∈ listedAkms m k →
    ∃ last ∈ (ks.filter (HasAuth m)).getLast?, AuthIsPsk m last

end

section

variable {m : Mem} {k : Nat} {ks : List Nat} {s : BssElements} {len : UInt32}

/-- A default that isn't wanted doesn't count. -/
theorem getD_bind_eq_iff {α τ : Type} {o : Option α} {g : α → Option τ} {t d : τ} (hd : d ≠ t) :
    (o.bind g).getD d = t ↔ ∃ a ∈ o, g a = some t := by
  rw [Option.getD_eq_iff, or_iff_left fun h => hd h.2, Option.bind_eq_some_iff]
  rfl

theorem passesRsn_iff {args : BssInfoArgs} (hnone : s.groupCrypto = .none)
    (hpair : s.pairCrypto = .none) (hauth : s.authType = 0)
    (h : args.groupCryptType = (ks.foldl (BssElements.process m) s).groupCrypto ∧
      args.pairCryptType = (ks.foldl (BssElements.process m) s).pairCrypto ∧
      args.authType = (ks.foldl (BssElements.process m) s).authType) :
    PassesRsn m k args ↔ SaysLast m k ks := by
  obtain ⟨hgroup', hpair', hauth'⟩ := h
  rw [foldl_process_groupCrypto, hnone] at hgroup'
  rw [foldl_process_pairCrypto, hpair] at hpair'
  rw [foldl_process_authType, hauth] at hauth'
  have haes : args.pairCryptType = .aes ↔
      ∃ last ∈ (ks.filter (HasPairwise m)).getLast?, ieeeCryptAesCcmp ∈ pairwiseSeen m last := by
    have hne : ApCryptType.none ≠ .aes := by decide
    rw [hpair', getD_bind_eq_iff hne]
    simp only [pairOf_eq_aes_iff]
  have hpsk : args.authType = apAuthPsk ↔
      ∃ last ∈ (ks.filter (HasAuth m)).getLast?, AuthIsPsk m last := by
    have hne : 0 ≠ apAuthPsk := by decide
    rw [hauth', getD_bind_eq_iff hne]
    simp only [authOf_eq_psk_iff]
  constructor
  · rintro ⟨hgroup, hpairwise, hauthkey⟩
    exact ⟨hgroup' ▸ hgroup, fun h => haes.mp (hpairwise h), fun h => hpsk.mp (hauthkey h)⟩
  · rintro ⟨hgroup, hpairwise, hauthkey⟩
    exact ⟨hgroup'.trans hgroup, fun h => haes.mpr (hpairwise h), fun h => hpsk.mpr (hauthkey h)⟩

theorem isLooked_of_eval {args : BssInfoArgs} (h : eval m (readBssInfo len) = some args) :
    IsLooked m len := by
  unfold readBssInfo at h
  by_cases hlen : len.toNat ≤ bssElementsIndex
  · rw [if_pos hlen, eval_pure] at h
    cases h
  · rw [if_neg hlen, eval_bind, eval_byte] at h
    by_cases hsnr : (m 3).toNat < 0x10
    · rw [if_pos hsnr, eval_pure] at h
      cases h
    · exact ⟨Nat.lt_of_not_le hlen, Nat.le_of_not_lt hsnr⟩

/-- A packet that isn't dropped is passed on with what the loop has found. -/
theorem eval_readBssInfo (h : IsLooked m len) : ∃ args, eval m (readBssInfo len) = some args ∧
    ∀ k, PassesRsn m k args ↔ SaysLast m k (starts m (bssEnd len) bssElementsIndex) := by
  obtain ⟨hlen, hsnr⟩ := h
  unfold readBssInfo
  simp only [if_neg (Nat.not_le.mpr hlen), eval_bind, eval_byte, if_neg (Nat.not_lt.mpr hsnr),
    eval_walk_read, eval_pure, Option.some.injEq, exists_eq_left']
  exact fun k => passesRsn_iff rfl rfl rfl ⟨rfl, rfl, rfl⟩

theorem pairwiseSeen_eq_take (m : Mem) (k : Nat) :
    pairwiseSeen m k = (listedPairwise m k).take 4 := by
  rw [pairwiseSeen, listedPairwise, take_beWordsAt, Nat.min_comm]

/-- The AKM suites are found behind up to four pairwise suites. -/
theorem authSeen_eq_take (h : numPairwise m k ≤ 4) : authSeen m k = (listedAkms m k).take 4 := by
  have hindex : authIndex m k = akmIndex m k := by
    rw [authIndex, akmIndex, Nat.min_eq_left h]
  rw [authSeen, listedAkms, take_beWordsAt, hindex, Nat.min_comm]

/-- **The only RSN element** says what it says, if its lists are short. -/
theorem saysLast_of_le {n i : Nat} (hvisits : Visits m n i k) (hrsn : IsRsn m k)
    (honly : ∀ k', Visits m n i k' → IsRsn m k' → k' = k) (hpairwise : numPairwise m k ≤ 4)
    (hauth : load16 m (akmIndex m k) ≤ 4) : SaysLast m k (starts m n i) := by
  have hcipher : pairwiseSeen m k = listedPairwise m k := by
    rw [pairwiseSeen_eq_take]
    exact List.take_of_length_le (by rwa [listedPairwise, length_beWordsAt])
  have hakm : authSeen m k = listedAkms m k := by
    rw [authSeen_eq_take hpairwise]
    exact List.take_of_length_le (by rwa [listedAkms, length_beWordsAt])
  have hindex : authIndex m k = akmIndex m k := by
    rw [authIndex, akmIndex, Nat.min_eq_left hpairwise]
  constructor
  · rw [getLast?_filter_starts hvisits hrsn honly]
    rfl
  · intro hlisted
    have hsome : HasPairwise m k := by
      refine ⟨hrsn, fun hnone => ?_⟩
      rw [listedPairwise, hnone] at hlisted
      cases hlisted
    exact ⟨k, getLast?_filter_starts hvisits hsome fun k' hk' h => honly k' hk' h.1,
      hcipher ▸ hlisted⟩
  · intro hlisted
    have hsome : HasAuth m k := by
      refine ⟨hrsn, fun hnone => ?_⟩
      rw [listedAkms, ← hindex, hnone] at hlisted
      cases hlisted
    exact ⟨k, getLast?_filter_starts hvisits hsome fun k' hk' h => honly k' hk' h.1,
      .inl (hakm ▸ hlisted)⟩

/-- What is wanted of `wmi_handle_bss_info`: nothing from `len` on is read, what is there doesn't
matter, and what a well-formed RSN element says is passed on. -/
structure BssInfoParsed (m : Mem) (len : UInt32) : Prop where
  within : Within len.toNat m (readBssInfo len)
  independent : ∀ m', Set.EqOn m' m (Set.Iio len.toNat) →
    eval m' (readBssInfo len) = eval m (readBssInfo len)
  passes : ∀ args, eval m (readBssInfo len) = some args →
    ∀ k, RsnAt m k len.toNat → PassesRsn m k args

/-- **Packets that are understood**: the elements that the loop comes to end in the packet, as far
as they are looked at, and a well-formed RSN element doesn't say more than the last one, as far as
that is looked at. -/
theorem wmiHandleBssInfo_parses_iff (m : Mem) (len : UInt32) : BssInfoParsed m len ↔
    (IsLooked m len →
      (∀ k, Visits m (bssEnd len) bssElementsIndex k → BssEnds m len.toNat k) ∧
      ∀ k, RsnAt m k len.toNat → SaysLast m k (starts m (bssEnd len) bssElementsIndex)) := by
  constructor
  · rintro ⟨hwithin, -, hpasses⟩ hlooked
    refine ⟨within_readBssInfo_iff.mp hwithin hlooked, fun k hrsn => ?_⟩
    obtain ⟨args, heval, hiff⟩ := eval_readBssInfo hlooked
    exact (hiff k).mp (hpasses args heval k hrsn)
  · intro h
    have hwithin : Within len.toNat m (readBssInfo len) :=
      within_readBssInfo_iff.mpr fun hlooked => (h hlooked).1
    refine ⟨hwithin, fun m' he => (hwithin.congr he).1, fun args heval k hrsn => ?_⟩
    have hlooked := isLooked_of_eval heval
    obtain ⟨args', heval', hiff⟩ := eval_readBssInfo hlooked
    rw [heval] at heval'
    obtain rfl := Option.some.inj heval'
    exact (hiff k).mpr ((h hlooked).2 k hrsn)

end

/-! ## A long list of pairwise suites -/

/-- A packet with one RSN element of 36 bytes: five pairwise suites, the last of them CCMP, and
PSK. -/
def fiveSuitesPacket : List UInt8 :=
  [0x6C, 0x09, 1, 0x20, 0, 0, 2, 3, 4, 5, 6, 7, 0, 0, 0, 0] ++
  [0, 0, 0, 0, 0, 0, 0, 0, 100, 0, 0x10, 0] ++
  [48, 36, 1, 0, 0, 0x0F, 0xAC, 2, 5, 0,
    0, 0x0F, 0xAC, 1, 0, 0x0F, 0xAC, 2, 0, 0x0F, 0xAC, 5, 0, 0x0F, 0xAC, 2, 0, 0x0F, 0xAC, 4,
    1, 0, 0, 0x0F, 0xAC, 2, 0, 0]

/-- A packet that ends behind the type of an element. -/
def truncatedPacket : List UInt8 := fiveSuitesPacket.take 29

/-- Of a long list the end isn't seen, and the length of a truncated element isn't there. -/
theorem wmiHandleBssInfo_fiveSuites :
    ¬ BssInfoParsed (fun i => fiveSuitesPacket.getD i 0) 66 ∧
    ¬ BssInfoParsed (fun i => truncatedPacket.getD i 0) 29 := by
  constructor
  · rintro ⟨-, -, hpasses⟩
    let m : Mem := fun i => fiveSuitesPacket.getD i 0
    have hlooked : IsLooked m 66 := ⟨by decide, by decide⟩
    have hrsn : RsnAt m 28 (66 : UInt32).toNat :=
      ⟨.here (by decide), ⟨by decide, by decide⟩, by decide, by decide⟩
    -- There is no other element.
    have hstarts : starts m (bssEnd 66) bssElementsIndex = [28] := by
      rw [starts, if_pos (by decide), starts, if_neg (by decide)]
      rfl
    obtain ⟨args, heval, hiff⟩ := eval_readBssInfo hlooked
    have hlast := (hiff 28).mp (hpasses args heval 28 hrsn)
    rw [hstarts] at hlast
    obtain ⟨last, hmem, hseen⟩ := hlast.pairwise (by decide)
    have hfilter : [28].filter (HasPairwise m) = [28] := by decide
    rw [hfilter] at hmem
    obtain rfl : 28 = last := Option.some.inj hmem
    exact absurd hseen (by decide)
  · rintro ⟨hwithin, -, -⟩
    have hvisits : Visits (fun i => truncatedPacket.getD i 0) 29 bssElementsIndex 28 :=
      .here (by decide)
    have hends := within_readBssInfo_iff.mp hwithin ⟨by decide, by decide⟩ 28 hvisits
    exact absurd hends.1 (by decide)

end Wifi
