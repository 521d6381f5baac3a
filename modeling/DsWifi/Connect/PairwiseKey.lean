import DsWifi.Connect.Wpa

/-!
# The pairwise key (TWL)

`wpa_calc_ptk` (`source/arm7/twl/ieee/wpa.twl.c`) against the pseudorandom function of 802.11, with
HMAC-SHA-1 as any function.

* `arrIsMax_iff` — the comparison loop is the lexicographic order
* `wpaCalcPtk_prf` — the key is the first 64 bytes of the function, whichever way round the two
  sides are passed
-/

namespace Wifi

/-! ## Lexicographic order -/

section Lex

variable {α : Type} [DecidableEq α] [LT α] [DecidableLT α]

/-- The smaller list in lexicographic order. -/
def lexMin (a b : List α) : List α := if b < a then b else a

/-- The larger list in lexicographic order. -/
def lexMax (a b : List α) : List α := if b < a then a else b

variable [Std.Asymm (α := α) (· < ·)] [Std.Trichotomous (α := α) (· < ·)]

theorem lexMin_comm (a b : List α) : lexMin a b = lexMin b a := by
  unfold lexMin
  by_cases hba : b < a
  · rw [if_pos hba, if_neg (List.lt_asymm hba)]
  · by_cases hab : a < b
    · rw [if_neg hba, if_pos hab]
    · rw [if_neg hba, if_neg hab]
      exact List.le_antisymm hba hab

theorem lexMax_comm (a b : List α) : lexMax a b = lexMax b a := by
  unfold lexMax
  by_cases hba : b < a
  · rw [if_pos hba, if_neg (List.lt_asymm hba)]
  · by_cases hab : a < b
    · rw [if_neg hba, if_pos hab]
    · rw [if_neg hba, if_neg hab]
      exact List.le_antisymm hab hba

end Lex

/-- **The loop stops at the first difference**, so that it compares lexicographically. -/
theorem arrIsMax_iff {a b : List UInt8} (hlen : a.length = b.length) :
    arrIsMax a b = true ↔ b < a := by
  induction a generalizing b with
  | nil =>
    have hb : b = [] := List.length_eq_zero_iff.mp hlen.symm
    simp [arrIsMax, hb]
  | cons x a ih =>
    cases b with
    | nil => simp at hlen
    | cons y b =>
      have hlen' : a.length = b.length := by simpa using hlen
      rw [List.cons_lt_cons_iff]
      by_cases hxy : x = y
      · subst hxy
        simp [arrIsMax, ih hlen']
      · simp [arrIsMax, hxy, Ne.symm hxy]

theorem getArrMin_eq {a b : List UInt8} (hlen : a.length = b.length) :
    getArrMin a b = lexMin a b := by
  simp only [getArrMin, lexMin, arrIsMax_iff hlen]

theorem getArrMax_eq {a b : List UInt8} (hlen : a.length = b.length) :
    getArrMax a b = lexMax a b := by
  simp only [getArrMax, lexMax, arrIsMax_iff hlen]

/-! ## The pseudorandom function -/

/-- The blocks of the pseudorandom function of 802.11. -/
def prf (hmac : List UInt8 → List UInt8 → Vector UInt8 20) (key label data : List UInt8)
    (blocks : Nat) : List UInt8 :=
  (List.range blocks).flatMap fun i =>
    (hmac key (label ++ [0] ++ data ++ [UInt8.ofNat i])).toList

theorem prf_four (hmac : List UInt8 → List UInt8 → Vector UInt8 20)
    (key label data : List UInt8) :
    prf hmac key label data 4 = [0, 1, 2, 3].flatMap fun i : UInt8 =>
      (hmac key (label ++ [0] ++ data ++ [i])).toList := rfl

/-- `ptk_keyinfo` in memory. -/
def PtkKeyinfo.bytes (ptk : PtkKeyinfo) : List UInt8 :=
  ptk.kck ++ ptk.kek ++ ptk.tk ++ ptk.micTx ++ ptk.micRx

/-- "Pairwise key expansion". -/
def ptkLabel : List UInt8 := "Pairwise key expansion".toList.map fun c => UInt8.ofNat c.toNat

/-- The addresses and the nonces, the smaller one of each first. -/
def ptkContext (mac₁ mac₂ nonce₁ nonce₂ : List UInt8) : List UInt8 :=
  lexMin mac₁ mac₂ ++ lexMax mac₁ mac₂ ++ lexMin nonce₁ nonce₂ ++ lexMax nonce₁ nonce₂

/-- The fields of `ptk_keyinfo` cut the first 64 bytes into pieces. -/
theorem take_pieces (l : List UInt8) :
    l.take 0x10 ++ (l.drop 0x10).take 0x10 ++ (l.drop 0x20).take 0x10 ++ (l.drop 0x30).take 0x8 ++
      (l.drop 0x38).take 0x8 = l.take 64 := by
  rw [← List.take_add, ← List.take_add, ← List.take_add, ← List.take_add]

theorem bytes_wpaCalcPtk (crypto : Crypto) (devMac apMac : MacAddr)
    (devNonce apNonce : Vector UInt8 32) (pmk : List UInt8) :
    (crypto.wpaCalcPtk devMac apMac devNonce.toList apNonce.toList pmk).bytes =
      (prf crypto.sha1Hmac pmk ptkLabel
        (ptkContext devMac.toList apMac.toList devNonce.toList apNonce.toList) 4).take 64 := by
  have hmac : devMac.toList.length = apMac.toList.length := by simp
  have hnonce : apNonce.toList.length = devNonce.toList.length := by simp
  unfold PtkKeyinfo.bytes Crypto.wpaCalcPtk
  rw [take_pieces, prf_four, getArrMin_eq hmac, getArrMax_eq hmac, getArrMin_eq hnonce,
    getArrMax_eq hnonce, lexMin_comm apNonce.toList, lexMax_comm apNonce.toList]
  unfold ptkContext ptkLabel
  simp only [← List.append_assoc]

/-- The fields are known from the bytes. -/
theorem wpaCalcPtk_comm (crypto : Crypto) (mac₁ mac₂ : MacAddr) (nonce₁ nonce₂ : Vector UInt8 32)
    (pmk : List UInt8) :
    crypto.wpaCalcPtk mac₁ mac₂ nonce₁.toList nonce₂.toList pmk =
      crypto.wpaCalcPtk mac₂ mac₁ nonce₂.toList nonce₁.toList pmk := by
  have hmac : mac₁.toList.length = mac₂.toList.length := by simp
  have hnonce : nonce₁.toList.length = nonce₂.toList.length := by simp
  simp only [Crypto.wpaCalcPtk, getArrMin_eq hmac, getArrMax_eq hmac, getArrMin_eq hmac.symm,
    getArrMax_eq hmac.symm, getArrMin_eq hnonce, getArrMax_eq hnonce, getArrMin_eq hnonce.symm,
    getArrMax_eq hnonce.symm, lexMin_comm mac₁.toList, lexMax_comm mac₁.toList,
    lexMin_comm nonce₁.toList, lexMax_comm nonce₁.toList]

/-- **The pairwise key is the one of 802.11, and both sides derive the same one.** -/
theorem wpaCalcPtk_prf (crypto : Crypto) (a b : MacAddr) (m n : Vector UInt8 32)
    (pmk : List UInt8) :
    (crypto.wpaCalcPtk a b m.toList n.toList pmk).bytes =
        (prf crypto.sha1Hmac pmk ptkLabel
          (ptkContext a.toList b.toList m.toList n.toList) 4).take 64 ∧
      crypto.wpaCalcPtk a b m.toList n.toList pmk =
        crypto.wpaCalcPtk b a n.toList m.toList pmk :=
  ⟨bytes_wpaCalcPtk crypto a b m n pmk, wpaCalcPtk_comm crypto a b m n pmk⟩

end Wifi
