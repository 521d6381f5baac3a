import DsWifi.Tx.Arm7

/-!
# Bytes in MAC RAM

MAC RAM is read and written in halfwords. `Wifi_MacReadByte` and `Wifi_MacWriteByte` hide this: they
read and write one byte, at odd and at even addresses.

* `Arm7Tx.macReadByte_eq` — `Wifi_MacReadByte` reads the byte at the address
* `Arm7Tx.ram_macWriteByte` — `Wifi_MacWriteByte` writes the byte at the address, and nothing else
-/

namespace Wifi

open Infra Infra.Mem

/-! ## Halves of a halfword -/

theorem and_low_half {b : Nat} (hb : b < 2 ^ 8) (h : Nat) : (b + 2 ^ 8 * h) &&& 0x00FF = b := by
  rw [show 0x00FF = 2 ^ 8 - 1 from rfl, Nat.and_two_pow_sub_one_eq_mod, Nat.add_mul_mod_self_left,
    Nat.mod_eq_of_lt hb]

theorem and_high_half {b h : Nat} (hb : b < 2 ^ 8) (hh : h < 2 ^ 8) :
    (b + 2 ^ 8 * h) &&& 0xFF00 = 2 ^ 8 * h := by
  have hmask : 0xFF00 = 2 ^ 8 * (2 ^ 8 - 1) + 0 := rfl
  have hres : 2 ^ 8 * h = 2 ^ 8 * h + 0 := rfl
  refine Nat.eq_of_testBit_eq fun i => ?_
  rw [Nat.testBit_and, Nat.add_comm, Nat.testBit_two_pow_mul_add h hb, hmask,
    Nat.testBit_two_pow_mul_add _ (by decide), hres, Nat.testBit_two_pow_mul_add h (by decide)]
  split
  · simp
  · rw [Nat.testBit_two_pow_sub_one]
    by_cases hi : i - 8 < 8
    · simp [hi]
    · have hlt : h < 2 ^ (i - 8) := hh.trans_le (Nat.pow_le_pow_right (by decide) (by omega))
      simp [hi, Nat.testBit_lt_two_pow hlt]

namespace Arm7Tx

variable {s : Arm7Tx} {address : Nat}

/-- The address of the halfword. -/
theorem halfword_addr (h : address < 2 ^ 16) : u16 (address / 2 * 2) = address / 2 * 2 :=
  Nat.mod_eq_of_lt (by omega)

theorem macReadByte_eq (h : address < 2 ^ 16) : s.macReadByte address = (s.ram address).toNat := by
  unfold macReadByte
  dsimp only
  rw [halfword_addr h]
  split
  · rename_i hodd
    have haddr : address / 2 * 2 + 1 = address := by omega
    have hlow := (s.ram (address / 2 * 2)).toNat_lt
    rw [load16, haddr, Nat.shiftRight_eq_div_pow]
    omega
  · have haddr : address / 2 * 2 = address := by omega
    rw [load16, haddr]
    exact and_low_half (UInt8.toNat_lt _) _

/-- A halfword is stored as its two bytes. -/
theorem store16_add (m : Mem) (a : Nat) {low high : Nat} (hlow : low < 2 ^ 8) :
    m.store16 a (low + 2 ^ 8 * high) =
      (m.storeByte a (UInt8.ofNat low)).storeByte (a + 1) (UInt8.ofNat high) := by
  have h0 : UInt8.ofNat (low + 2 ^ 8 * high) = UInt8.ofNat low := by
    refine UInt8.toNat_inj.mp ?_
    simp only [UInt8.toNat_ofNat']
    omega
  have h1 : (low + 2 ^ 8 * high) / 2 ^ 8 = high := by omega
  funext x
  rw [store16, halfBytes, h0, h1]
  by_cases hx : x = a
  · subst hx
    simp [storeBytes, storeByte]
  · by_cases hx' : x = a + 1
    · subst hx'
      simp [storeBytes, storeByte]
    · simp only [storeBytes, storeByte, Function.update_of_ne hx, Function.update_of_ne hx']
      split
      · have hn : [UInt8.ofNat low, UInt8.ofNat high][x - a]? = none :=
          List.getElem?_eq_none (by simp only [List.length_cons, List.length_nil]; omega)
        rw [hn, Option.getD_none]
      · rfl

theorem storeByte_apply_self (m : Mem) (a : Nat) : m.storeByte a (m a) = m :=
  Function.update_eq_self a m

theorem ram_macWriteByte (h : address < 2 ^ 16) {value : Nat} (hvalue : value < 2 ^ 8) :
    (s.macWriteByte address value).ram = s.ram.storeByte address (UInt8.ofNat value) := by
  have hlow := (s.ram (address / 2 * 2)).toNat_lt
  unfold macWriteByte
  dsimp only
  rw [halfword_addr h]
  split
  · rename_i hodd
    have haddr : address / 2 * 2 + 1 = address := by omega
    have hor : s.ram.load16 (address / 2 * 2) &&& 0x00FF ||| value <<< 8 =
        (s.ram (address / 2 * 2)).toNat + 2 ^ 8 * value := by
      rw [load16, and_low_half hlow, Nat.or_comm, Nat.shiftLeft_eq, Nat.mul_comm,
        ← Nat.two_pow_add_eq_or_of_lt hlow, Nat.add_comm]
    show s.ram.store16 _ _ = _
    rw [hor, store16_add _ _ hlow, UInt8.ofNat_toNat, storeByte_apply_self, haddr]
  · have haddr : address / 2 * 2 = address := by omega
    have hhigh := (s.ram (address + 1)).toNat_lt
    have hor : s.ram.load16 address &&& 0xFF00 ||| value =
        value + 2 ^ 8 * (s.ram (address + 1)).toNat := by
      rw [haddr] at hlow
      rw [load16, and_high_half hlow hhigh, ← Nat.two_pow_add_eq_or_of_lt hvalue, Nat.add_comm]
    show s.ram.store16 _ _ = _
    rw [haddr, hor, store16_add _ _ hvalue, UInt8.ofNat_toNat]
    have hne : address ≠ address + 1 := (Nat.lt_succ_self _).ne
    have hsame : s.ram (address + 1) = s.ram.storeByte address (UInt8.ofNat value) (address + 1) :=
      (Function.update_of_ne hne.symm _ _).symm
    rw [hsame, storeByte_apply_self]

theorem macWriteByte_eq (h : address < 2 ^ 16) {value : Nat} (hvalue : value < 2 ^ 8) :
    s.macWriteByte address value =
      { s with
        ram := s.ram.storeByte address (UInt8.ofNat value)
        monitor := s.observe (address / 2 * 2) } := by
  rw [← ram_macWriteByte h hvalue]
  unfold macWriteByte
  dsimp only
  rw [halfword_addr h]
  split <;> rfl

end Arm7Tx

end Wifi
