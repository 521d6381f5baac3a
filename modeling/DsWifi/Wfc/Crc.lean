import DsWifi.Infra.Memory
import DsWifi.Infra.ShiftRegister
import Mathlib.Algebra.Order.Ring.Nat

/-!
# The check of the WFC settings

`wifi_crc16_slow` (`source/arm7/wfc.c`). The loader doesn't compare the stored value with a computed
one: it takes the block with the value at its end and expects zero.

* `wifiCrc16Slow_eq_run` — the function is a shift register that is fed the lowest bits first
* `wifiCrc16Slow_check` — what the check accepts, and the changes that it notices
-/

namespace Wifi

open Infra

/-- One round for a bit. -/
def crcRound (crc : Nat) : Nat :=
  if crc &&& 1 ≠ 0 then (crc >>> 1) ^^^ 0xA001 else crc >>> 1

/-- `wifi_crc16_slow`. -/
def wifiCrc16Slow (data : List UInt8) : Nat :=
  data.foldl (fun crc b => crcRound^[8] (crc ^^^ b.toNat)) 0 &&& 0xFFFF

/-! ## Bits -/

/-- The bits of a byte, the lowest first. -/
def byteBits (b : UInt8) : List Bool := (List.range 8).map b.toNat.testBit

/-- The bits in the order of the checksum. -/
def messageBits (data : List UInt8) : List Bool := data.flatMap byteBits

/-- Bit `i` of a string in the order of the checksum. -/
def bitAt (data : List UInt8) (i : Nat) : Bool := (data.getD (i / 8) 0).toNat.testBit (i % 8)

theorem length_byteBits (b : UInt8) : (byteBits b).length = 8 := by simp [byteBits]

theorem length_messageBits (data : List UInt8) :
    (messageBits data).length = 8 * data.length := by
  induction data with
  | nil => rfl
  | cons b data ih =>
    show (byteBits b ++ messageBits data).length = _
    rw [List.length_append, length_byteBits, ih, List.length_cons]
    omega

theorem testBit_byte (b : UInt8) {i : Nat} (hi : 8 ≤ i) : b.toNat.testBit i = false := by
  have hb : b.toNat < 2 ^ 8 := b.toNat_lt
  exact Nat.testBit_lt_two_pow (Nat.lt_of_lt_of_le hb (Nat.pow_le_pow_right (by decide) hi))

theorem getD_byteBits (b : UInt8) (i : Nat) : (byteBits b).getD i false = b.toNat.testBit i := by
  by_cases hi : i < 8
  · simp [byteBits, hi]
  · rw [testBit_byte b (by omega), List.getD_eq_default _ _ (by rw [length_byteBits]; omega)]

theorem getD_messageBits (data : List UInt8) (i : Nat) :
    (messageBits data).getD i false = bitAt data i := by
  induction data generalizing i with
  | nil => simp [messageBits, bitAt]
  | cons b data ih =>
    show (byteBits b ++ messageBits data).getD i false = _
    by_cases hi : i < 8
    · rw [List.getD_append _ _ _ _ (by rw [length_byteBits]; exact hi), getD_byteBits, bitAt,
        Nat.div_eq_of_lt hi, Nat.mod_eq_of_lt hi]
      rfl
    · have hdiv : i / 8 = (i - 8) / 8 + 1 := by omega
      have hmod : i % 8 = (i - 8) % 8 := by omega
      rw [List.getD_append_right _ _ _ _ (by rw [length_byteBits]; omega), length_byteBits, ih,
        bitAt, bitAt, hdiv, hmod, List.getD_cons_succ]

theorem messageBits_injective {data data' : List UInt8} (hlen : data'.length = data.length)
    (h : messageBits data' = messageBits data) : data' = data := by
  refine List.ext_getElem hlen fun i hi hi' => UInt8.toNat_inj.mp (Nat.eq_of_testBit_eq fun k => ?_)
  by_cases hk : k < 8
  · have hbit : bitAt data' (8 * i + k) = bitAt data (8 * i + k) := by
      rw [← getD_messageBits, ← getD_messageBits, h]
    have hdiv : (8 * i + k) / 8 = i := by omega
    have hmod : (8 * i + k) % 8 = k := by omega
    rwa [bitAt, bitAt, hdiv, hmod, List.getD_eq_getElem _ _ hi, List.getD_eq_getElem _ _ hi']
      at hbit
  · rw [testBit_byte _ (by omega), testBit_byte _ (by omega)]

/-! ## The register -/

/-- The polynomial of the checksum. -/
def crcPoly : BitVec 16 := 0xA001#16

theorem crcPoly_top : crcPoly.getLsbD (16 - 1) = true := by decide

theorem crcRound_toNat (r : BitVec 16) :
    crcRound r.toNat = (ShiftRegister.step crcPoly r).toNat := by
  have hlow : r.toNat &&& 1 ≠ 0 ↔ r.getLsbD 0 = true := by
    rw [← BitVec.testBit_toNat, Nat.and_one_is_mod, Nat.testBit_zero]
    simp
  unfold crcRound ShiftRegister.step
  by_cases h : r.getLsbD 0 = true
  · rw [if_pos (hlow.mpr h), if_pos h, BitVec.toNat_xor, BitVec.toNat_ushiftRight]
    rfl
  · rw [if_neg (fun hne => h (hlow.mp hne)), if_neg h, BitVec.toNat_ushiftRight]

theorem iterate_crcRound (n : Nat) (r : BitVec 16) :
    crcRound^[n] r.toNat = ((ShiftRegister.step crcPoly)^[n] r).toNat := by
  induction n generalizing r with
  | zero => rfl
  | succ n ih =>
    rw [Function.iterate_succ_apply, Function.iterate_succ_apply, crcRound_toNat, ih]

theorem ofBits_byteBits (b : UInt8) :
    ShiftRegister.ofBits 16 (byteBits b) = BitVec.ofNat 16 b.toNat := by
  apply BitVec.eq_of_getLsbD_eq
  intro i hi
  rw [ShiftRegister.getLsbD_ofBits, getD_byteBits, BitVec.getLsbD_ofNat]

theorem crcByte_toNat (r : BitVec 16) (b : UInt8) :
    crcRound^[8] (r.toNat ^^^ b.toNat) =
      (ShiftRegister.run crcPoly r (byteBits b)).toNat := by
  have hlen : (byteBits b).length ≤ 16 := by rw [length_byteBits]; decide
  have hbyte : b.toNat = (BitVec.ofNat 16 b.toNat).toNat := by
    have := b.toNat_lt
    rw [BitVec.toNat_ofNat, Nat.mod_eq_of_lt (by omega)]
  rw [ShiftRegister.run_eq_iterate r hlen, length_byteBits, ofBits_byteBits, ← iterate_crcRound,
    BitVec.toNat_xor, ← hbyte]

theorem foldl_crc_toNat (data : List UInt8) (r : BitVec 16) :
    data.foldl (fun crc b => crcRound^[8] (crc ^^^ b.toNat)) r.toNat =
      (ShiftRegister.run crcPoly r (messageBits data)).toNat := by
  induction data generalizing r with
  | nil => rfl
  | cons b data ih =>
    show data.foldl _ (crcRound^[8] (r.toNat ^^^ b.toNat)) =
      (ShiftRegister.run crcPoly r (byteBits b ++ messageBits data)).toNat
    rw [crcByte_toNat, ih, ShiftRegister.run_append]

/-- **The checksum is what a shift register holds at the end.** -/
theorem wifiCrc16Slow_eq_run (data : List UInt8) :
    wifiCrc16Slow data = (ShiftRegister.run crcPoly 0#16 (messageBits data)).toNat := by
  have hfold := foldl_crc_toNat data 0#16
  rw [BitVec.toNat_zero] at hfold
  have hmask : (0xFFFF : Nat) = 2 ^ 16 - 1 := rfl
  rw [wifiCrc16Slow, hfold, hmask, Nat.and_two_pow_sub_one_eq_mod,
    Nat.mod_eq_of_lt (BitVec.isLt _)]

/-! ## What the check says -/

theorem wifiCrc16Slow_eq_zero_iff (data : List UInt8) :
    wifiCrc16Slow data = 0 ↔
      ShiftRegister.run crcPoly 0#16 (messageBits data) = 0#16 := by
  rw [wifiCrc16Slow_eq_run, ← BitVec.toNat_inj, BitVec.toNat_zero]

/-- Two bytes, the lower one first. -/
def le16 (lo hi : UInt8) : Nat := lo.toNat + 2 ^ 8 * hi.toNat

theorem ofBits_two (lo hi : UInt8) :
    ShiftRegister.ofBits 16 (byteBits lo ++ byteBits hi) = BitVec.ofNat 16 (le16 lo hi) := by
  apply BitVec.eq_of_getLsbD_eq
  intro i hi'
  have hlo : lo.toNat < 2 ^ 8 := lo.toNat_lt
  rw [ShiftRegister.getLsbD_ofBits, BitVec.getLsbD_ofNat, le16, Nat.add_comm,
    Nat.testBit_two_pow_mul_add _ hlo]
  congr 1
  by_cases h8 : i < 8
  · rw [if_pos h8, List.getD_append _ _ _ _ (by rw [length_byteBits]; exact h8), getD_byteBits]
  · rw [if_neg h8, List.getD_append_right _ _ _ _ (by rw [length_byteBits]; omega),
      length_byteBits, getD_byteBits]

/-- **A block passes if it ends with the checksum of what is before.** -/
theorem wifiCrc16Slow_append (data : List UInt8) (lo hi : UInt8) :
    wifiCrc16Slow (data ++ [lo, hi]) = 0 ↔ le16 lo hi = wifiCrc16Slow data := by
  have hbits : messageBits (data ++ [lo, hi]) = messageBits data ++ (byteBits lo ++ byteBits hi) :=
    by simp [messageBits]
  have hlen : (byteBits lo ++ byteBits hi).length ≤ 16 := by simp [length_byteBits]
  have hlt : le16 lo hi < 2 ^ 16 := by
    have := lo.toNat_lt
    have := hi.toNat_lt
    unfold le16
    omega
  rw [wifiCrc16Slow_eq_zero_iff, hbits, ShiftRegister.run_append,
    ShiftRegister.run_eq_zero_iff crcPoly_top _ hlen, ofBits_two, wifiCrc16Slow_eq_run,
    ← BitVec.toNat_inj, BitVec.toNat_ofNat, Nat.mod_eq_of_lt hlt]

theorem wifiCrc16Slow_residue {data : List UInt8} (hlen : 2 ≤ data.length) :
    wifiCrc16Slow data = 0 ↔
      le16 (data.getD (data.length - 2) 0) (data.getD (data.length - 1) 0) =
        wifiCrc16Slow (data.take (data.length - 2)) := by
  have hsplit : data = data.take (data.length - 2) ++
      [data.getD (data.length - 2) 0, data.getD (data.length - 1) 0] := by
    have hlt : data.length - 2 < data.length := by omega
    have hlt' : data.length - 2 + 1 < data.length := by omega
    have hone : data.length - 1 = data.length - 2 + 1 := by omega
    have hdrop : data.drop (data.length - 2) =
        [data.getD (data.length - 2) 0, data.getD (data.length - 1) 0] := by
      rw [hone, List.getD_eq_getElem _ _ hlt, List.getD_eq_getElem _ _ hlt',
        List.drop_eq_getElem_cons hlt, List.drop_eq_getElem_cons hlt',
        List.drop_eq_nil_of_le (by omega)]
    rw [← hdrop, List.take_append_drop]
  have happend := wifiCrc16Slow_append (data.take (data.length - 2))
    (data.getD (data.length - 2) 0) (data.getD (data.length - 1) 0)
  rwa [← hsplit] at happend

theorem wifiCrc16Slow_burst {data data' : List UInt8} (hlen : data'.length = data.length)
    (hne : data' ≠ data) {p : Nat}
    (hburst : ∀ i, bitAt data' i ≠ bitAt data i → p ≤ i ∧ i < p + 16)
    (h : wifiCrc16Slow data = 0) : wifiCrc16Slow data' ≠ 0 := by
  intro h'
  rw [wifiCrc16Slow_eq_zero_iff] at h h'
  have hbits : (messageBits data').length = (messageBits data).length := by
    rw [length_messageBits, length_messageBits, hlen]
  refine hne (messageBits_injective hlen
    (ShiftRegister.run_burst (p := p) crcPoly_top hbits (fun i hi => hburst i ?_) h' h))
  rwa [getD_messageBits, getD_messageBits] at hi

/-- **A block is accepted exactly if** its last two bytes are the checksum of the others, and one
that is accepted is not any more when bits in a window of sixteen change. -/
theorem wifiCrc16Slow_check (d : List UInt8) (hn : 2 ≤ d.length) :
    (wifiCrc16Slow d = 0 ↔
      le16 (d.getD (d.length - 2) 0) (d.getD (d.length - 1) 0) =
        wifiCrc16Slow (d.take (d.length - 2))) ∧
    (wifiCrc16Slow d = 0 → ∀ d' : List UInt8, d'.length = d.length → d' ≠ d →
      (∃ p, ∀ i, bitAt d' i ≠ bitAt d i → p ≤ i ∧ i < p + 16) → wifiCrc16Slow d' ≠ 0) := by
  refine ⟨wifiCrc16Slow_residue hn, ?_⟩
  rintro h d' hlen hne ⟨p, hburst⟩
  exact wifiCrc16Slow_burst hlen hne hburst h

/-- Three bytes with their checksum, and a bit of one of them changed. -/
theorem wifiCrc16Slow_check_example :
    wifiCrc16Slow [0x57, 0x46, 0x43, 0xC2, 0x41] = 0 ∧
      wifiCrc16Slow [0x57, 0x47, 0x43, 0xC2, 0x41] ≠ 0 := by
  have hcheck := wifiCrc16Slow_check [0x57, 0x46, 0x43, 0xC2, 0x41] (by decide)
  have hzero : wifiCrc16Slow [0x57, 0x46, 0x43, 0xC2, 0x41] = 0 := hcheck.1.mpr (by decide)
  refine ⟨hzero, hcheck.2 hzero _ rfl (by decide) ⟨8, fun i hi => ?_⟩⟩
  by_contra hout
  apply hi
  have hbyte : i / 8 = 0 ∨ ∃ k, i / 8 = k + 2 := by
    by_cases h : i / 8 = 0
    · exact .inl h
    · exact .inr ⟨i / 8 - 2, by omega⟩
  unfold bitAt
  rcases hbyte with h | ⟨k, h⟩
  · rw [h]
    rfl
  · rw [h]
    rfl

end Wifi
