import DsWifi.Crypto.Rijndael
import Mathlib.Data.List.Range

/-!
# The tables of AES (TWL)

`aes_gen_tables` (`mbedtls/library/aes.twl.c`) makes its tables with powers and logarithms. A word
holds a column, its first byte in the low bits.

* `fsb_eq`, `rsb_eq` — the S-boxes
* `column_ft0`, `column_rt0` — the tables that substitute and mix
-/

namespace Wifi

open Infra Infra.ByteField Rijndael

/-! ## Words -/

/-- `MBEDTLS_BYTE_0` to `MBEDTLS_BYTE_3`. -/
def byteOf (n : Nat) (x : UInt32) : UInt8 := (x >>> UInt32.ofNat (8 * n)).toUInt8

/-- The column that is held by a word. -/
def column (x : UInt32) : Column := ⟨byteOf 0 x, byteOf 1 x, byteOf 2 x, byteOf 3 x⟩

theorem byteOf_xor (n : Nat) (x y : UInt32) : byteOf n (x ^^^ y) = byteOf n x ^^^ byteOf n y := by
  rw [byteOf, UInt32.shiftRight_xor, UInt32.toUInt8_xor]
  rfl

@[simp] theorem column_xor (x y : UInt32) : column (x ^^^ y) = (column x).xor (column y) := by
  simp only [column, byteOf_xor, Column.xor]

theorem column_or (x y : UInt32) : column (x ||| y) =
    ⟨(column x).b0 ||| (column y).b0, (column x).b1 ||| (column y).b1,
      (column x).b2 ||| (column y).b2, (column x).b3 ||| (column y).b3⟩ := by
  simp only [column, byteOf, UInt32.shiftRight_or, UInt32.toUInt8_or]

@[simp] theorem column_byte (b : UInt8) : column b.toUInt32 = ⟨b, 0, 0, 0⟩ := by
  revert b
  exact forall_byte (by decide +kernel)

@[simp] theorem column_byte_shift8 (b : UInt8) : column (b.toUInt32 <<< 8) = ⟨0, b, 0, 0⟩ := by
  revert b
  exact forall_byte (by decide +kernel)

@[simp] theorem column_byte_shift16 (b : UInt8) : column (b.toUInt32 <<< 16) = ⟨0, 0, b, 0⟩ := by
  revert b
  exact forall_byte (by decide +kernel)

@[simp] theorem column_byte_shift24 (b : UInt8) : column (b.toUInt32 <<< 24) = ⟨0, 0, 0, b⟩ := by
  revert b
  exact forall_byte (by decide +kernel)

/-- `ROTL8`. -/
def rotl8 (x : UInt32) : UInt32 := (x <<< 8) ||| (x >>> 24)

@[simp] theorem column_rotl8 (x : UInt32) : column (rotl8 x) =
    ⟨(column x).b3, (column x).b0, (column x).b1, (column x).b2⟩ := by
  have hbit (i j k : Nat) (hi : i < 8) (hj : j = 8 ∨ j = 16) :
      (decide (j + 8 + i < 32) && !decide (j + 8 + i < 8) && x.toBitVec.getLsbD (j + 8 + i - 8) ||
        x.toBitVec.getLsbD (32 + k + i)) = x.toBitVec.getLsbD (j + i) := by
    have hlt : j + 8 + i < 32 := by omega
    have hge : ¬ j + 8 + i < 8 := by omega
    have hindex : j + 8 + i - 8 = j + i := by omega
    rw [hindex, BitVec.getLsbD_of_ge _ (32 + k + i) (by omega)]
    simp [hlt, hge]
  simp only [column, byteOf, rotl8, UInt32.shiftRight_or, UInt32.toUInt8_or, Column.mk.injEq,
    ← UInt8.toBitVec_inj]
  refine ⟨?_, ?_, ?_, ?_⟩ <;> refine BitVec.eq_of_getElem_eq fun i hi => ?_
  · simp
  · simp
    omega
  · simpa using hbit i 8 8 hi (.inl rfl)
  · simpa using hbit i 16 16 hi (.inr rfl)

/-! ## Powers and logarithms -/

/-- What is on the stack where the tables `pow` and `log` are put. -/
structure AesStack where
  pow : UInt8 → UInt8
  log : UInt8 → UInt8

/-- A stack of zeros. -/
def AesStack.zero : AesStack := ⟨fun _ => 0, fun _ => 0⟩

/-- The tables `pow` and `log` while they are filled. -/
structure PowLog where
  pow : UInt8 → UInt8
  log : UInt8 → UInt8
  x : UInt8

namespace PowLog

/-- Before the loop. -/
def start (stack : AesStack) : PowLog := ⟨stack.pow, stack.log, 1⟩

/-- After so many iterations. -/
def after (stack : AesStack) : Nat → PowLog
  | 0 => start stack
  | i + 1 =>
    let s := after stack i
    { pow := Function.update s.pow (UInt8.ofNat i) s.x
      log := Function.update s.log s.x (UInt8.ofNat i)
      x := s.x ^^^ xtime s.x }

variable {stack : AesStack}

theorem x_after (n : Nat) : (after stack n).x = exp n := by
  induction n with
  | zero => rfl
  | succ n ih => rw [after, ih, exp_succ, triple]

theorem pow_after {n i : Nat} (hn : n ≤ 256) (hi : i < n) :
    (after stack n).pow (UInt8.ofNat i) = exp i := by
  induction n with
  | zero => exact absurd hi (Nat.not_lt_zero i)
  | succ n ih =>
    rw [after]
    dsimp only
    by_cases heq : i = n
    · subst heq
      rw [Function.update_self, x_after]
    · have hne : UInt8.ofNat i ≠ UInt8.ofNat n := by
        intro h
        have hnat := congrArg UInt8.toNat h
        rw [UInt8.toNat_ofNat', UInt8.toNat_ofNat'] at hnat
        omega
      rw [Function.update_of_ne hne, ih (by omega) (by omega)]

/-- The logarithms that are between 1 and 255 are not overwritten. -/
theorem log_after {n i : Nat} (hn : n ≤ 256) (hi : i < n) (hpos : 0 < i) :
    (after stack n).log (exp i) = UInt8.ofNat i := by
  induction n with
  | zero => exact absurd hi (Nat.not_lt_zero i)
  | succ n ih =>
    rw [after, x_after]
    dsimp only
    by_cases heq : i = n
    · rw [heq, Function.update_self]
    · have hne : exp i ≠ exp n := by
        rw [ne_eq, exp_eq_iff]
        omega
      rw [Function.update_of_ne hne, ih (by omega) (by omega)]

end PowLog

/-! ## The S-boxes -/

/-- The tables of `aes_gen_tables`. -/
structure AesTables where
  fsb : UInt8 → UInt8
  rsb : UInt8 → UInt8
  ft0 : UInt8 → UInt32
  ft1 : UInt8 → UInt32
  ft2 : UInt8 → UInt32
  ft3 : UInt8 → UInt32
  rt0 : UInt8 → UInt32
  rt1 : UInt8 → UInt32
  rt2 : UInt8 → UInt32
  rt3 : UInt8 → UInt32
  roundConstants : List UInt32

/-- A byte, rotated to the left. -/
def rotlByte (y : UInt8) : UInt8 := (y <<< 1) ||| (y >>> 7)

/-- What the loop over `FSb` makes of an inverse. -/
def sboxOf (x : UInt8) : UInt8 :=
  let y := rotlByte x
  let x' := x ^^^ y
  let y := rotlByte y
  let x' := x' ^^^ y
  let y := rotlByte y
  let x' := x' ^^^ y
  let y := rotlByte y
  x' ^^^ (y ^^^ 0x63)

theorem sboxOf_eq (x : UInt8) : sboxOf x = affine x := by
  revert x
  exact forall_byte (by decide +kernel)

/-- `FSb`. -/
def genFsb (t : PowLog) (i : UInt8) : UInt8 :=
  if i = 0 then 0x63 else sboxOf (t.pow (255 - t.log i))

/-- `RSb`. -/
def genRsb (fsb : UInt8 → UInt8) : UInt8 → UInt8 :=
  (List.range' 1 255).foldl (fun rsb i => Function.update rsb (fsb (UInt8.ofNat i)) (UInt8.ofNat i))
    (Function.update (fun _ => 0) 0x63 0)

/-- `MUL`. -/
def genMul (t : PowLog) (x y : UInt8) : UInt8 :=
  if x ≠ 0 ∧ y ≠ 0 then t.pow (UInt8.ofNat (((t.log x).toNat + (t.log y).toNat) % 255)) else 0

/-- `FT0`. -/
def genFt0 (fsb : UInt8 → UInt8) (i : UInt8) : UInt32 :=
  let x := fsb i
  let y := xtime x
  let z := y ^^^ x
  y.toUInt32 ^^^ (x.toUInt32 <<< 8) ^^^ (x.toUInt32 <<< 16) ^^^ (z.toUInt32 <<< 24)

/-- `RT0`. -/
def genRt0 (t : PowLog) (rsb : UInt8 → UInt8) (i : UInt8) : UInt32 :=
  let x := rsb i
  (genMul t 0x0E x).toUInt32 ^^^ ((genMul t 0x09 x).toUInt32 <<< 8) ^^^
    ((genMul t 0x0D x).toUInt32 <<< 16) ^^^ ((genMul t 0x0B x).toUInt32 <<< 24)

/-- `round_constants`, from this one on. -/
def genRoundConstants : Nat → UInt8 → List UInt32
  | 0, _ => []
  | n + 1, x => x.toUInt32 :: genRoundConstants n (xtime x)

/-- `aes_gen_tables`, with its stack. -/
def aesGenTables (stack : AesStack) : AesTables :=
  let t := PowLog.after stack 256
  let fsb := genFsb t
  let rsb := genRsb fsb
  let ft0 := genFt0 fsb
  let rt0 := genRt0 t rsb
  { fsb, rsb, ft0
    ft1 i := rotl8 (ft0 i)
    ft2 i := rotl8 (rotl8 (ft0 i))
    ft3 i := rotl8 (rotl8 (rotl8 (ft0 i)))
    rt0
    rt1 i := rotl8 (rt0 i)
    rt2 i := rotl8 (rotl8 (rt0 i))
    rt3 i := rotl8 (rotl8 (rotl8 (rt0 i)))
    roundConstants := genRoundConstants 10 1 }

/-! ## What is in the tables -/

/-- An entry that a loop doesn't write. -/
theorem foldl_update_of_notMem {f g : Nat → UInt8} {l : List Nat} {a : UInt8}
    (h : ∀ i ∈ l, f i ≠ a) (t : UInt8 → UInt8) :
    l.foldl (fun t i => Function.update t (f i) (g i)) t a = t a := by
  induction l generalizing t with
  | nil => rfl
  | cons i l ih =>
    have hne : a ≠ f i := (h i List.mem_cons_self).symm
    rw [List.foldl_cons, ih fun j hj => h j (List.mem_cons_of_mem _ hj),
      Function.update_of_ne hne]

/-- An entry that a loop writes once. -/
theorem foldl_update_of_mem (f g : Nat → UInt8) {l : List Nat} {i : Nat} (hi : i ∈ l)
    (hinj : ∀ j ∈ l, f j = f i → j = i) (t : UInt8 → UInt8) :
    l.foldl (fun t i => Function.update t (f i) (g i)) t (f i) = g i := by
  induction l generalizing t with
  | nil => cases hi
  | cons j l ih =>
    have hinj' : ∀ k ∈ l, f k = f i → k = i := fun k hk => hinj k (List.mem_cons_of_mem _ hk)
    rw [List.foldl_cons]
    by_cases hmem : i ∈ l
    · exact ih hmem hinj' _
    · obtain rfl : i = j := by
        rcases List.mem_cons.mp hi with heq | htail
        · exact heq
        · exact absurd htail hmem
      have hother : ∀ k ∈ l, f k ≠ f i := fun k hk heq => hmem (hinj' k hk heq ▸ hk)
      rw [foldl_update_of_notMem hother, Function.update_self]

section

variable {stack : AesStack}

/-- The logarithm of a byte is between 1 and 255. -/
theorem exists_log (stack : AesStack) {a : UInt8} (h : a ≠ 0) :
    ∃ n, 0 < n ∧ n ≤ 255 ∧ exp n = a ∧ (PowLog.after stack 256).log a = UInt8.ofNat n := by
  obtain ⟨n, hn, rfl⟩ := exists_exp h
  have hlog {k : Nat} (hpos : 0 < k) (hle : k ≤ 255) :
      (PowLog.after stack 256).log (exp k) = UInt8.ofNat k :=
    PowLog.log_after (Nat.le_refl _) (by omega) hpos
  rcases Nat.eq_zero_or_pos n with rfl | hpos
  · have hone : exp 255 = exp 0 := exp_eq_iff.mpr rfl
    refine ⟨255, by decide, Nat.le_refl _, hone, ?_⟩
    rw [← hone]
    exact hlog (by decide) (Nat.le_refl _)
  · exact ⟨n, hpos, by omega, rfl, hlog hpos (by omega)⟩

theorem genFsb_eq : genFsb (PowLog.after stack 256) = sbox := by
  funext i
  unfold genFsb
  split
  · rename_i hzero
    rw [hzero, sbox, gfInv_zero]
    decide
  · rename_i hne
    obtain ⟨n, hpos, hle, rfl, hlog⟩ := exists_log stack hne
    have hindex : 255 - UInt8.ofNat n = UInt8.ofNat (255 - n) := by
      rw [UInt8.ofNat_sub hle]
      rfl
    rw [hlog, hindex, PowLog.pow_after (Nat.le_refl _) (by omega), sboxOf_eq, sbox, gfInv_exp]
    congr 1
    exact exp_eq_iff.mpr (by omega)

theorem genMul_eq (x y : UInt8) : genMul (PowLog.after stack 256) x y = gfMul x y := by
  unfold genMul
  split
  · rename_i hne
    obtain ⟨m, hmpos, hmle, rfl, hmlog⟩ := exists_log stack hne.1
    obtain ⟨n, hnpos, hnle, rfl, hnlog⟩ := exists_log stack hne.2
    have hm : (UInt8.ofNat m).toNat = m := UInt8.toNat_ofNat_of_lt' (Nat.lt_succ_of_le hmle)
    have hn : (UInt8.ofNat n).toNat = n := UInt8.toNat_ofNat_of_lt' (Nat.lt_succ_of_le hnle)
    have hlt : (m + n) % 255 < 255 := Nat.mod_lt _ (by decide)
    rw [hmlog, hnlog, hm, hn, PowLog.pow_after (Nat.le_refl _) (by omega), gfMul_exp]
    exact exp_eq_iff.mpr (Nat.mod_mod _ _)
  · rename_i hzero
    by_cases hx : x = 0
    · rw [hx, gfMul_zero_left]
    · have hy : y = 0 := by
        by_contra hy
        exact hzero ⟨hx, hy⟩
      rw [hy, gfMul_zero_right]

theorem genRsb_sbox (a : UInt8) : genRsb sbox (sbox a) = a := by
  have hinj {i j : Nat} (hi : i < 256) (hj : j < 256)
      (heq : sbox (UInt8.ofNat i) = sbox (UInt8.ofNat j)) : i = j := by
    have hnat := congrArg UInt8.toNat (sbox_injective heq)
    rwa [UInt8.toNat_ofNat_of_lt' hi, UInt8.toNat_ofNat_of_lt' hj] at hnat
  have ha : UInt8.ofNat a.toNat = a := UInt8.ofNat_toNat
  have hlt := a.toNat_lt
  unfold genRsb
  by_cases hzero : a.toNat = 0
  · have hfirst : sbox a = 0x63 := by
      rw [← ha, hzero, sbox]
      show affine (gfInv 0) = 0x63
      rw [gfInv_zero]
      decide
    rw [foldl_update_of_notMem, hfirst, Function.update_self, ← ha, hzero]
    · rfl
    · intro i hi heq
      obtain ⟨hpos, hle⟩ := List.mem_range'_1.mp hi
      rw [← ha] at heq
      have hi := hinj (by omega) hlt heq
      omega
  · have hmem : a.toNat ∈ List.range' 1 255 := by
      rw [List.mem_range'_1]
      omega
    have honce : ∀ j ∈ List.range' 1 255, sbox (UInt8.ofNat j) = sbox (UInt8.ofNat a.toNat) →
        j = a.toNat := by
      intro j hj heq
      obtain ⟨-, hle⟩ := List.mem_range'_1.mp hj
      exact hinj (by omega) hlt heq
    have hentry := foldl_update_of_mem (fun i => sbox (UInt8.ofNat i)) UInt8.ofNat hmem honce
      (Function.update (fun _ => 0) 0x63 0)
    rwa [ha] at hentry

theorem genRsb_eq : genRsb sbox = invSbox := by
  funext a
  have hentry := genRsb_sbox (invSbox a)
  rwa [sbox_invSbox] at hentry

theorem xtime_eq (a : UInt8) : xtime a = gfMul 2 a := by
  have hone := gfMul_xtime_left 1 a
  rw [gfMul_one_left] at hone
  exact hone.symm

/-- `FT0` substitutes a byte of the first row and mixes. -/
theorem column_genFt0 (fsb : UInt8 → UInt8) (i : UInt8) :
    column (genFt0 fsb i) = ⟨gfMul 2 (fsb i), fsb i, fsb i, gfMul 3 (fsb i)⟩ := by
  have htriple : gfMul 2 (fsb i) ^^^ fsb i = gfMul 3 (fsb i) := by
    have hsum := gfMul_xor_left 2 1 (fsb i)
    rw [gfMul_one_left] at hsum
    exact hsum.symm
  simp [genFt0, Column.xor, xtime_eq, htriple]

/-- `RT0` substitutes a byte of the first row and mixes, both backwards. -/
theorem column_genRt0 (rsb : UInt8 → UInt8) (i : UInt8) :
    column (genRt0 (PowLog.after stack 256) rsb i) =
      ⟨gfMul 0x0E (rsb i), gfMul 0x09 (rsb i), gfMul 0x0D (rsb i), gfMul 0x0B (rsb i)⟩ := by
  simp [genRt0, Column.xor, genMul_eq]

end

end Wifi
