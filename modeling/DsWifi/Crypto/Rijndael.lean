import DsWifi.Infra.ByteField
import DsWifi.Infra.RoundCipher
import Mathlib.Data.List.GetD

/-!
# AES by its definition

FIPS 197: a block is four columns of four bytes.

* `rijndael` — the operations of a round and what takes them back
* `cipher` — the cipher with a key
-/

namespace Wifi.Rijndael

open Infra Infra.ByteField

/-! ## The substitution of a byte -/

/-- A bit of a byte, by its index modulo 8. -/
def bit (b : UInt8) (i : Nat) : Bool := b.toNat.testBit (i % 8)

/-- The byte with the given bits. -/
def ofBits (f : Nat → Bool) : UInt8 :=
  (List.range 8).foldl (fun b i => b ||| if f i then 1 <<< UInt8.ofNat i else 0) 0

/-- The affine transformation. -/
def affine (b : UInt8) : UInt8 :=
  ofBits fun i => bit b i ^^ bit b (i + 4) ^^ bit b (i + 5) ^^ bit b (i + 6) ^^ bit b (i + 7) ^^
    bit 0x63 i

/-- The inverse of the affine transformation. -/
def invAffine (b : UInt8) : UInt8 :=
  ofBits fun i => bit b (i + 2) ^^ bit b (i + 5) ^^ bit b (i + 7) ^^ bit 0x05 i

def sbox (b : UInt8) : UInt8 := affine (gfInv b)

def invSbox (b : UInt8) : UInt8 := gfInv (invAffine b)

theorem invAffine_affine (b : UInt8) : invAffine (affine b) = b := by
  revert b
  exact forall_byte (by decide +kernel)

theorem affine_invAffine (b : UInt8) : affine (invAffine b) = b := by
  revert b
  exact forall_byte (by decide +kernel)

@[simp] theorem invSbox_sbox (b : UInt8) : invSbox (sbox b) = b := by
  rw [invSbox, sbox, invAffine_affine, gfInv_gfInv]

@[simp] theorem sbox_invSbox (b : UInt8) : sbox (invSbox b) = b := by
  rw [invSbox, sbox, gfInv_gfInv, affine_invAffine]

example : sbox 0x53 = 0xED := by decide +kernel

theorem sbox_injective : Function.Injective sbox :=
  Function.LeftInverse.injective invSbox_sbox

/-! ## Columns -/

/-- A column of a block, which is a word of a key as well. -/
structure Column where
  b0 : UInt8
  b1 : UInt8
  b2 : UInt8
  b3 : UInt8
  deriving DecidableEq, Repr

namespace Column

def zero : Column := ⟨0, 0, 0, 0⟩

def xor (a b : Column) : Column := ⟨a.b0 ^^^ b.b0, a.b1 ^^^ b.b1, a.b2 ^^^ b.b2, a.b3 ^^^ b.b3⟩

def map (f : UInt8 → UInt8) (a : Column) : Column := ⟨f a.b0, f a.b1, f a.b2, f a.b3⟩

/-- A matrix whose rows are this row, rotated. -/
def circulate (r : Column) (a : Column) : Column where
  b0 := gfMul r.b0 a.b0 ^^^ gfMul r.b1 a.b1 ^^^ gfMul r.b2 a.b2 ^^^ gfMul r.b3 a.b3
  b1 := gfMul r.b3 a.b0 ^^^ gfMul r.b0 a.b1 ^^^ gfMul r.b1 a.b2 ^^^ gfMul r.b2 a.b3
  b2 := gfMul r.b2 a.b0 ^^^ gfMul r.b3 a.b1 ^^^ gfMul r.b0 a.b2 ^^^ gfMul r.b1 a.b3
  b3 := gfMul r.b1 a.b0 ^^^ gfMul r.b2 a.b1 ^^^ gfMul r.b3 a.b2 ^^^ gfMul r.b0 a.b3

/-- `MixColumns` on a column. -/
def mix (a : Column) : Column := circulate ⟨2, 3, 1, 1⟩ a

/-- `InvMixColumns` on a column. -/
def invMix (a : Column) : Column := circulate ⟨0x0E, 0x0B, 0x0D, 0x09⟩ a

example : mix ⟨0xD4, 0xBF, 0x5D, 0x30⟩ = ⟨0x04, 0x66, 0x81, 0xE5⟩ := by decide

theorem xor_xor_self (a b : Column) : (a.xor b).xor b = a := by
  simp only [xor, UInt8.xor_assoc, UInt8.xor_self, UInt8.xor_zero]

theorem circulate_xor (r a b : Column) :
    circulate r (a.xor b) = (circulate r a).xor (circulate r b) := by
  simp only [circulate, xor, gfMul_xor, mk.injEq]
  refine ⟨?_, ?_, ?_, ?_⟩ <;> ac_rfl

/-- The row of a product of two such matrices. -/
def convolve (q r : Column) : Column where
  b0 := gfMul q.b0 r.b0 ^^^ gfMul q.b1 r.b3 ^^^ gfMul q.b2 r.b2 ^^^ gfMul q.b3 r.b1
  b1 := gfMul q.b0 r.b1 ^^^ gfMul q.b1 r.b0 ^^^ gfMul q.b2 r.b3 ^^^ gfMul q.b3 r.b2
  b2 := gfMul q.b0 r.b2 ^^^ gfMul q.b1 r.b1 ^^^ gfMul q.b2 r.b0 ^^^ gfMul q.b3 r.b3
  b3 := gfMul q.b0 r.b3 ^^^ gfMul q.b1 r.b2 ^^^ gfMul q.b2 r.b1 ^^^ gfMul q.b3 r.b0

theorem circulate_circulate (q r a : Column) :
    circulate q (circulate r a) = circulate (convolve q r) a := by
  simp only [circulate, convolve, gfMul_xor, gfMul_xor_left, gfMul_assoc, mk.injEq]
  refine ⟨?_, ?_, ?_, ?_⟩ <;> ac_rfl

theorem circulate_one (a : Column) : circulate ⟨1, 0, 0, 0⟩ a = a := by
  simp [circulate, gfMul_one_left, gfMul_zero_left]

@[simp] theorem invMix_mix (a : Column) : a.mix.invMix = a := by
  have hrow : convolve ⟨0x0E, 0x0B, 0x0D, 0x09⟩ ⟨2, 3, 1, 1⟩ = ⟨1, 0, 0, 0⟩ := by decide
  rw [invMix, mix, circulate_circulate, hrow, circulate_one]

@[simp] theorem mix_invMix (a : Column) : a.invMix.mix = a := by
  have hrow : convolve ⟨2, 3, 1, 1⟩ ⟨0x0E, 0x0B, 0x0D, 0x09⟩ = ⟨1, 0, 0, 0⟩ := by decide
  rw [invMix, mix, circulate_circulate, hrow, circulate_one]

end Column

/-! ## Blocks -/

/-- A block. -/
structure State where
  c0 : Column
  c1 : Column
  c2 : Column
  c3 : Column
  deriving DecidableEq, Repr

namespace State

def zero : State := ⟨.zero, .zero, .zero, .zero⟩

/-- `AddRoundKey`. -/
def xor (s k : State) : State := ⟨s.c0.xor k.c0, s.c1.xor k.c1, s.c2.xor k.c2, s.c3.xor k.c3⟩

def map (f : Column → Column) (s : State) : State := ⟨f s.c0, f s.c1, f s.c2, f s.c3⟩

/-- `ShiftRows`. -/
def shiftRows (s : State) : State where
  c0 := ⟨s.c0.b0, s.c1.b1, s.c2.b2, s.c3.b3⟩
  c1 := ⟨s.c1.b0, s.c2.b1, s.c3.b2, s.c0.b3⟩
  c2 := ⟨s.c2.b0, s.c3.b1, s.c0.b2, s.c1.b3⟩
  c3 := ⟨s.c3.b0, s.c0.b1, s.c1.b2, s.c2.b3⟩

/-- `InvShiftRows`. -/
def invShiftRows (s : State) : State where
  c0 := ⟨s.c0.b0, s.c3.b1, s.c2.b2, s.c1.b3⟩
  c1 := ⟨s.c1.b0, s.c0.b1, s.c3.b2, s.c2.b3⟩
  c2 := ⟨s.c2.b0, s.c1.b1, s.c0.b2, s.c3.b3⟩
  c3 := ⟨s.c3.b0, s.c2.b1, s.c1.b2, s.c0.b3⟩

/-- `SubBytes`. -/
def subBytes (s : State) : State := s.map (.map sbox)

/-- `InvSubBytes`. -/
def invSubBytes (s : State) : State := s.map (.map invSbox)

/-- `MixColumns`. -/
def mixColumns (s : State) : State := s.map .mix

/-- `InvMixColumns`. -/
def invMixColumns (s : State) : State := s.map .invMix

end State

/-- The operations of a round. -/
def rijndael : RoundCipher State where
  add := .xor
  sub s := s.subBytes.shiftRows
  subInv s := s.invShiftRows.invSubBytes
  mix := .mixColumns
  mixInv := .invMixColumns
  add_add s k := by simp [State.xor, Column.xor_xor_self]
  subInv_sub s := by
    simp [State.subBytes, State.invSubBytes, State.shiftRows, State.invShiftRows, State.map,
      Column.map]
  sub_subInv s := by
    simp [State.subBytes, State.invSubBytes, State.shiftRows, State.invShiftRows, State.map,
      Column.map]
  mixInv_mix s := by simp [State.mixColumns, State.invMixColumns, State.map]
  mix_mixInv s := by simp [State.mixColumns, State.invMixColumns, State.map]
  mixInv_add s k := by simp [State.invMixColumns, State.map, State.xor, Column.invMix,
    Column.circulate_xor]

/-! ## Keys -/

/-- `RotWord`. -/
def rotWord (a : Column) : Column := ⟨a.b1, a.b2, a.b3, a.b0⟩

/-- `SubWord`. -/
def subWord (a : Column) : Column := a.map sbox

/-- `Rcon`. -/
def rcon (i : Nat) : Column := ⟨xtime^[i - 1] 1, 0, 0, 0⟩

/-- What is added to an earlier word: word `i` of a key of `nk` words, from the word before. -/
def keyTemp (nk i : Nat) (temp : Column) : Column :=
  if i % nk = 0 then (subWord (rotWord temp)).xor (rcon (i / nk))
  else if 6 < nk ∧ i % nk = 4 then subWord temp
  else temp

/-- The next word of the schedule. -/
def expandWord (nk : Nat) (w : List Column) : List Column :=
  w ++ [(w.getD (w.length - nk) .zero).xor
    (keyTemp nk w.length (w.getD (w.length - 1) .zero))]

/-- The number of rounds. -/
def rounds (nk : Nat) : Nat := nk + 6

/-- `KeyExpansion`. -/
def keyExpansion (key : List Column) : List Column :=
  (expandWord key.length)^[4 * (rounds key.length + 1) - key.length] key

/-- The columns that some bytes make. -/
def columns : List UInt8 → List Column
  | b0 :: b1 :: b2 :: b3 :: bytes => ⟨b0, b1, b2, b3⟩ :: columns bytes
  | _ => []

/-- Words, four at a time. -/
def blocks : List Column → List State
  | c0 :: c1 :: c2 :: c3 :: cs => ⟨c0, c1, c2, c3⟩ :: blocks cs
  | _ => []

/-- The keys of `nr` rounds. -/
def roundKeys (nr : Nat) (ks : List State) : RoundKeys State where
  first := ks.getD 0 .zero
  middle := (List.range (nr - 1)).map fun i => ks.getD (i + 1) .zero
  last := ks.getD nr .zero

/-- `Cipher` with a key. -/
def cipher (key : List Column) (s : State) : State :=
  rijndael.encrypt (roundKeys (rounds key.length) (blocks (keyExpansion key))) s

theorem length_columns (bytes : List UInt8) : (columns bytes).length = bytes.length / 4 := by
  induction bytes using columns.induct with
  | case1 b0 b1 b2 b3 bytes ih =>
    rw [columns, List.length_cons, ih]
    simp only [List.length_cons]
    omega
  | case2 bytes hshort =>
    match bytes, hshort with
    | [], _ | [_], _ | [_, _], _ | [_, _, _], _ => simp [columns]
    | b0 :: b1 :: b2 :: b3 :: rest, hshort => exact absurd rfl (hshort b0 b1 b2 b3 rest)

theorem length_expandWord (nk n : Nat) (w : List Column) :
    ((expandWord nk)^[n] w).length = w.length + n := by
  induction n with
  | zero => rfl
  | succ n ih =>
    rw [Function.iterate_succ_apply', expandWord, List.length_append, ih]
    rfl

/-- More words are put behind the ones before. -/
theorem iterate_expandWord_add (nk m n : Nat) (w : List Column) :
    ∃ rest, (expandWord nk)^[m + n] w = (expandWord nk)^[m] w ++ rest := by
  induction n with
  | zero => exact ⟨[], (List.append_nil _).symm⟩
  | succ n ih =>
    obtain ⟨rest, hrest⟩ := ih
    have hnext (w : List Column) : ∃ c, expandWord nk w = w ++ [c] := ⟨_, rfl⟩
    obtain ⟨c, hc⟩ := hnext ((expandWord nk)^[m + n] w)
    refine ⟨rest ++ [c], ?_⟩
    rw [Nat.add_succ, Function.iterate_succ_apply', hc, hrest, List.append_assoc]

/-- Whole blocks in front. -/
theorem blocks_append {n : Nat} {cs : List Column} (hlen : cs.length = 4 * n)
    (cs' : List Column) :
    blocks (cs ++ cs') = blocks cs ++ blocks cs' ∧ (blocks cs).length = n := by
  induction n generalizing cs with
  | zero =>
    obtain rfl := List.length_eq_zero_iff.mp hlen
    exact ⟨rfl, rfl⟩
  | succ n ih =>
    match cs, hlen with
    | c0 :: c1 :: c2 :: c3 :: cs, hlen =>
      have hrest : cs.length = 4 * n := by
        simp only [List.length_cons] at hlen
        omega
      obtain ⟨happend, hlength⟩ := ih hrest
      exact ⟨congrArg (_ :: ·) happend, congrArg (· + 1) hlength⟩

/-- Blocks behind the last round key are not looked at. -/
theorem roundKeys_append {nr : Nat} {ks : List State} (hlen : ks.length = nr + 1)
    (ks' : List State) : roundKeys nr (ks ++ ks') = roundKeys nr ks := by
  have hget {i : Nat} (hi : i ≤ nr) : (ks ++ ks').getD i .zero = ks.getD i .zero :=
    List.getD_append _ _ _ _ (by omega)
  simp only [roundKeys, hget (Nat.zero_le nr), hget (Nat.le_refl nr), RoundKeys.mk.injEq, true_and,
    and_true]
  refine List.map_congr_left fun i hi => hget ?_
  have hlt := List.mem_range.mp hi
  omega

end Wifi.Rijndael
