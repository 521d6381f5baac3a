import DsWifi.Crypto.AesTables
import DsWifi.Crypto.KeyWrap

/-!
# AES (TWL)

`mbedtls/library/aes.twl.c` with keys of 128, 192 and 256 bits. A round looks up its columns in the
tables, and the round keys of the decryption are mixed once, when the key is set.

* `aesSetkeyEnc_keys`, `aesSetkeyDec_keys` — the round keys
* `aes_meets_fips` — the cipher and its inverse
-/

namespace Wifi

open Infra Infra.ByteField Rijndael

/-- The four words of a block. -/
structure AesWords where
  x0 : UInt32
  x1 : UInt32
  x2 : UInt32
  x3 : UInt32
  deriving DecidableEq, Repr

namespace AesWords

def zero : AesWords := ⟨0, 0, 0, 0⟩

def xor (x k : AesWords) : AesWords := ⟨x.x0 ^^^ k.x0, x.x1 ^^^ k.x1, x.x2 ^^^ k.x2, x.x3 ^^^ k.x3⟩

def map (f : UInt32 → UInt32) (x : AesWords) : AesWords := ⟨f x.x0, f x.x1, f x.x2, f x.x3⟩

/-- The block that the words hold. -/
def state (x : AesWords) : State := ⟨column x.x0, column x.x1, column x.x2, column x.x3⟩

end AesWords

/-- `mbedtls_aes_context`, with `buf` in rows of four words. -/
structure AesContext where
  nr : Nat
  rk : List AesWords
  deriving Repr

/-- The row of a round. -/
def AesContext.key (ctx : AesContext) (i : Nat) : AesWords := ctx.rk.getD i .zero

/-- `MBEDTLS_ERR_AES_INVALID_KEY_LENGTH`. -/
def mbedtlsErrAesInvalidKeyLength : CipherError := ⟨-0x0020, by decide⟩

/-- `MBEDTLS_GET_UINT32_LE`. -/
def getUint32Le (b0 b1 b2 b3 : UInt8) : UInt32 :=
  b0.toUInt32 ||| (b1.toUInt32 <<< 8) ||| (b2.toUInt32 <<< 16) ||| (b3.toUInt32 <<< 24)

/-- `MBEDTLS_PUT_UINT32_LE`. -/
def putUint32Le (x : UInt32) : List UInt8 := [byteOf 0 x, byteOf 1 x, byteOf 2 x, byteOf 3 x]

/-- The words of some bytes. -/
def wordsLe : List UInt8 → List UInt32
  | b0 :: b1 :: b2 :: b3 :: bytes => getUint32Le b0 b1 b2 b3 :: wordsLe bytes
  | _ => []

/-- Words in rows of four. -/
def rows : List UInt32 → List AesWords
  | x0 :: x1 :: x2 :: x3 :: xs => ⟨x0, x1, x2, x3⟩ :: rows xs
  | _ => []

/-! ## Keys -/

section Source

variable (t : AesTables)

/-- Four looked up bytes of a word. -/
def subBytesOf (s : UInt8 → UInt8) (b0 b1 b2 b3 : UInt8) : UInt32 :=
  (s b0).toUInt32 ^^^ ((s b1).toUInt32 <<< 8) ^^^ ((s b2).toUInt32 <<< 16) ^^^
    ((s b3).toUInt32 <<< 24)

/-- The word that `round_constants` goes into: the bytes are rotated. -/
def rotatedSub (x : UInt32) : UInt32 :=
  subBytesOf t.fsb (byteOf 1 x) (byteOf 2 x) (byteOf 3 x) (byteOf 0 x)

/-- An iteration of the loop for 128 bits, on the last four words. -/
def setkey128 (rc : UInt32) : List UInt32 → List UInt32
  | [rk0, rk1, rk2, rk3] =>
    let rk4 := rk0 ^^^ rc ^^^ rotatedSub t rk3
    let rk5 := rk1 ^^^ rk4
    let rk6 := rk2 ^^^ rk5
    let rk7 := rk3 ^^^ rk6
    [rk4, rk5, rk6, rk7]
  | _ => []

/-- An iteration of the loop for 192 bits, on the last six words. -/
def setkey192 (rc : UInt32) : List UInt32 → List UInt32
  | [rk0, rk1, rk2, rk3, rk4, rk5] =>
    let rk6 := rk0 ^^^ rc ^^^ rotatedSub t rk5
    let rk7 := rk1 ^^^ rk6
    let rk8 := rk2 ^^^ rk7
    let rk9 := rk3 ^^^ rk8
    let rk10 := rk4 ^^^ rk9
    let rk11 := rk5 ^^^ rk10
    [rk6, rk7, rk8, rk9, rk10, rk11]
  | _ => []

/-- An iteration of the loop for 256 bits, on the last eight words. -/
def setkey256 (rc : UInt32) : List UInt32 → List UInt32
  | [rk0, rk1, rk2, rk3, rk4, rk5, rk6, rk7] =>
    let rk8 := rk0 ^^^ rc ^^^ rotatedSub t rk7
    let rk9 := rk1 ^^^ rk8
    let rk10 := rk2 ^^^ rk9
    let rk11 := rk3 ^^^ rk10
    let rk12 := rk4 ^^^
      subBytesOf t.fsb (byteOf 0 rk11) (byteOf 1 rk11) (byteOf 2 rk11) (byteOf 3 rk11)
    let rk13 := rk5 ^^^ rk12
    let rk14 := rk6 ^^^ rk13
    let rk15 := rk7 ^^^ rk14
    [rk8, rk9, rk10, rk11, rk12, rk13, rk14, rk15]
  | _ => []

/-- The loops of `mbedtls_aes_setkey_enc`, which move `RK` by the length of the key. -/
def setkeyLoop (next : UInt32 → List UInt32 → List UInt32) (nk : Nat) (rk : List UInt32) :
    Nat → List UInt32
  | 0 => rk
  | i + 1 =>
    let buf := setkeyLoop next nk rk i
    buf ++ next (t.roundConstants.getD i 0) (buf.drop (nk * i))

/-- `mbedtls_aes_setkey_enc`. -/
def aesSetkeyEnc (key : List UInt8) (keybits : Nat) : Except CipherError AesContext :=
  let rk := wordsLe (key.take (keybits / 8))
  if keybits = 128 then .ok ⟨10, rows (setkeyLoop t (setkey128 t) 4 rk 10)⟩
  else if keybits = 192 then .ok ⟨12, rows (setkeyLoop t (setkey192 t) 6 rk 8)⟩
  else if keybits = 256 then .ok ⟨14, rows (setkeyLoop t (setkey256 t) 8 rk 7)⟩
  else .error mbedtlsErrAesInvalidKeyLength

/-- A word of a round key for the decryption. -/
def invMixWord (x : UInt32) : UInt32 :=
  t.rt0 (t.fsb (byteOf 0 x)) ^^^ t.rt1 (t.fsb (byteOf 1 x)) ^^^ t.rt2 (t.fsb (byteOf 2 x)) ^^^
    t.rt3 (t.fsb (byteOf 3 x))

/-- `mbedtls_aes_setkey_dec`. -/
def aesSetkeyDec (key : List UInt8) (keybits : Nat) : Except CipherError AesContext :=
  match aesSetkeyEnc t key keybits with
  | .error e => .error e
  | .ok cty =>
    let middle := (List.range (cty.nr - 1)).map fun i =>
      (cty.key (cty.nr - 1 - i)).map (invMixWord t)
    .ok ⟨cty.nr, cty.key cty.nr :: middle ++ [cty.key 0]⟩

/-! ## Blocks -/

/-- `AES_FROUND`. -/
def aesFround (rk y : AesWords) : AesWords where
  x0 := rk.x0 ^^^ t.ft0 (byteOf 0 y.x0) ^^^ t.ft1 (byteOf 1 y.x1) ^^^ t.ft2 (byteOf 2 y.x2) ^^^
    t.ft3 (byteOf 3 y.x3)
  x1 := rk.x1 ^^^ t.ft0 (byteOf 0 y.x1) ^^^ t.ft1 (byteOf 1 y.x2) ^^^ t.ft2 (byteOf 2 y.x3) ^^^
    t.ft3 (byteOf 3 y.x0)
  x2 := rk.x2 ^^^ t.ft0 (byteOf 0 y.x2) ^^^ t.ft1 (byteOf 1 y.x3) ^^^ t.ft2 (byteOf 2 y.x0) ^^^
    t.ft3 (byteOf 3 y.x1)
  x3 := rk.x3 ^^^ t.ft0 (byteOf 0 y.x3) ^^^ t.ft1 (byteOf 1 y.x0) ^^^ t.ft2 (byteOf 2 y.x1) ^^^
    t.ft3 (byteOf 3 y.x2)

/-- `AES_RROUND`. -/
def aesRround (rk y : AesWords) : AesWords where
  x0 := rk.x0 ^^^ t.rt0 (byteOf 0 y.x0) ^^^ t.rt1 (byteOf 1 y.x3) ^^^ t.rt2 (byteOf 2 y.x2) ^^^
    t.rt3 (byteOf 3 y.x1)
  x1 := rk.x1 ^^^ t.rt0 (byteOf 0 y.x1) ^^^ t.rt1 (byteOf 1 y.x0) ^^^ t.rt2 (byteOf 2 y.x3) ^^^
    t.rt3 (byteOf 3 y.x2)
  x2 := rk.x2 ^^^ t.rt0 (byteOf 0 y.x2) ^^^ t.rt1 (byteOf 1 y.x1) ^^^ t.rt2 (byteOf 2 y.x0) ^^^
    t.rt3 (byteOf 3 y.x3)
  x3 := rk.x3 ^^^ t.rt0 (byteOf 0 y.x3) ^^^ t.rt1 (byteOf 1 y.x2) ^^^ t.rt2 (byteOf 2 y.x1) ^^^
    t.rt3 (byteOf 3 y.x0)

/-- The last round of the encryption. -/
def aesLastFround (rk y : AesWords) : AesWords where
  x0 := rk.x0 ^^^ subBytesOf t.fsb (byteOf 0 y.x0) (byteOf 1 y.x1) (byteOf 2 y.x2) (byteOf 3 y.x3)
  x1 := rk.x1 ^^^ subBytesOf t.fsb (byteOf 0 y.x1) (byteOf 1 y.x2) (byteOf 2 y.x3) (byteOf 3 y.x0)
  x2 := rk.x2 ^^^ subBytesOf t.fsb (byteOf 0 y.x2) (byteOf 1 y.x3) (byteOf 2 y.x0) (byteOf 3 y.x1)
  x3 := rk.x3 ^^^ subBytesOf t.fsb (byteOf 0 y.x3) (byteOf 1 y.x0) (byteOf 2 y.x1) (byteOf 3 y.x2)

/-- The last round of the decryption. -/
def aesLastRround (rk y : AesWords) : AesWords where
  x0 := rk.x0 ^^^ subBytesOf t.rsb (byteOf 0 y.x0) (byteOf 1 y.x3) (byteOf 2 y.x2) (byteOf 3 y.x1)
  x1 := rk.x1 ^^^ subBytesOf t.rsb (byteOf 0 y.x1) (byteOf 1 y.x0) (byteOf 2 y.x3) (byteOf 3 y.x2)
  x2 := rk.x2 ^^^ subBytesOf t.rsb (byteOf 0 y.x2) (byteOf 1 y.x1) (byteOf 2 y.x0) (byteOf 3 y.x3)
  x3 := rk.x3 ^^^ subBytesOf t.rsb (byteOf 0 y.x3) (byteOf 1 y.x2) (byteOf 2 y.x1) (byteOf 3 y.x0)

/-- The loop over two rounds, which begins at this row of the round keys. -/
def aesLoop (round : AesWords → AesWords → AesWords) (ctx : AesContext) :
    Nat → Nat → AesWords → Nat × AesWords
  | 0, row, x => (row, x)
  | i + 1, row, x =>
    let y := round (ctx.key row) x
    let x := round (ctx.key (row + 1)) y
    aesLoop round ctx i (row + 2) x

/-- `mbedtls_internal_aes_encrypt` and `mbedtls_internal_aes_decrypt`, on words. -/
def aesBlock (round last : AesWords → AesWords → AesWords) (ctx : AesContext) (input : AesWords) :
    AesWords :=
  let x := input.xor (ctx.key 0)
  let (row, x) := aesLoop round ctx (ctx.nr / 2 - 1) 1 x
  let y := round (ctx.key row) x
  last (ctx.key (row + 1)) y

def aesEncrypt (ctx : AesContext) : AesWords → AesWords :=
  aesBlock (aesFround t) (aesLastFround t) ctx

def aesDecrypt (ctx : AesContext) : AesWords → AesWords :=
  aesBlock (aesRround t) (aesLastRround t) ctx

end Source

/-! ## A word of a round -/

section

variable {stack : AesStack}

theorem column_subBytesOf (f : UInt8 → UInt8) (k : UInt32) (b0 b1 b2 b3 : UInt8) :
    column (k ^^^ subBytesOf f b0 b1 b2 b3) =
      (⟨f b0, f b1, f b2, f b3⟩ : Column).xor (column k) := by
  simp [subBytesOf, Column.xor, UInt8.xor_comm]

/-- Four entries of `FT0` to `FT3`. -/
theorem column_ft (k : UInt32) (b0 b1 b2 b3 : UInt8) :
    column (k ^^^ (aesGenTables stack).ft0 b0 ^^^ (aesGenTables stack).ft1 b1 ^^^
      (aesGenTables stack).ft2 b2 ^^^ (aesGenTables stack).ft3 b3) =
      (Column.mix ⟨sbox b0, sbox b1, sbox b2, sbox b3⟩).xor (column k) := by
  simp only [aesGenTables, genFsb_eq, column_xor, column_rotl8, column_genFt0, Column.mix,
    Column.circulate, Column.xor, gfMul_one_left, Column.mk.injEq]
  refine ⟨?_, ?_, ?_, ?_⟩ <;> ac_rfl

/-- Four entries of `RT0` to `RT3`. -/
theorem column_rt (stack : AesStack) (k : UInt32) (b0 b1 b2 b3 : UInt8) :
    column (k ^^^ (aesGenTables stack).rt0 b0 ^^^ (aesGenTables stack).rt1 b1 ^^^
      (aesGenTables stack).rt2 b2 ^^^ (aesGenTables stack).rt3 b3) =
      (Column.invMix ⟨invSbox b0, invSbox b1, invSbox b2, invSbox b3⟩).xor (column k) := by
  simp only [aesGenTables, genFsb_eq, genRsb_eq, column_xor, column_rotl8, column_genRt0,
    Column.invMix, Column.circulate, Column.xor, Column.mk.injEq]
  refine ⟨?_, ?_, ?_, ?_⟩ <;> ac_rfl

theorem column_invMixWord (x : UInt32) :
    column (invMixWord (aesGenTables stack) x) = (column x).invMix := by
  have hfsb : (aesGenTables stack).fsb = sbox := genFsb_eq
  have hword := column_rt stack 0 (sbox (byteOf 0 x)) (sbox (byteOf 1 x)) (sbox (byteOf 2 x))
    (sbox (byteOf 3 x))
  simp only [UInt32.zero_xor, invSbox_sbox] at hword
  rw [invMixWord, hfsb, hword]
  simp [Column.xor, column, byteOf]

/-! ## Rounds -/

theorem state_xor (x k : AesWords) : (x.xor k).state = x.state.xor k.state := by
  simp [AesWords.xor, AesWords.state, State.xor]

theorem state_aesFround (rk y : AesWords) :
    (aesFround (aesGenTables stack) rk y).state = rijndael.round y.state rk.state := by
  simp only [aesFround, AesWords.state, column_ft]
  rfl

theorem state_aesRround (rk y : AesWords) :
    (aesRround (aesGenTables stack) rk y).state = rijndael.invRound y.state rk.state := by
  simp only [aesRround, AesWords.state, column_rt]
  rfl

theorem state_aesLastFround (rk y : AesWords) :
    (aesLastFround (aesGenTables stack) rk y).state =
      rijndael.add (rijndael.sub y.state) rk.state := by
  simp only [aesLastFround, AesWords.state, column_subBytesOf, aesGenTables, genFsb_eq]
  rfl

theorem state_aesLastRround (rk y : AesWords) :
    (aesLastRround (aesGenTables stack) rk y).state =
      rijndael.add (rijndael.subInv y.state) rk.state := by
  simp only [aesLastRround, AesWords.state, column_subBytesOf, aesGenTables, genFsb_eq, genRsb_eq]
  rfl

/-- The round keys that a context holds. -/
def AesContext.keys (ctx : AesContext) : RoundKeys State :=
  roundKeys ctx.nr (ctx.rk.map AesWords.state)

theorem state_key (ctx : AesContext) (i : Nat) :
    (ctx.key i).state = (ctx.rk.map AesWords.state).getD i .zero := by
  have hzero : AesWords.zero.state = State.zero := by decide
  rw [AesContext.key, List.getD_eq_getElem?_getD, List.getD_eq_getElem?_getD, List.getElem?_map,
    ← hzero]
  cases ctx.rk[i]? <;> rfl

/-- The loop does the rounds of its rows. -/
theorem aesLoop_eq {round : AesWords → AesWords → AesWords} {f : State → State → State}
    (hround : ∀ rk y, (round rk y).state = f y.state rk.state) (ctx : AesContext) (i row : Nat)
    (x : AesWords) : (aesLoop round ctx i row x).1 = row + 2 * i ∧
      (aesLoop round ctx i row x).2.state =
        ((List.range (2 * i)).map fun j => (ctx.key (row + j)).state).foldl f x.state := by
  induction i generalizing row x with
  | zero => exact ⟨rfl, rfl⟩
  | succ i ih =>
    obtain ⟨hrow, hstate⟩ := ih (row + 2) (round (ctx.key (row + 1)) (round (ctx.key row) x))
    have hrows : List.range (2 * (i + 1)) = 0 :: 1 :: (List.range (2 * i)).map (2 + ·) := by
      rw [Nat.mul_succ, Nat.add_comm, List.range_add]
      rfl
    refine ⟨by rw [aesLoop, hrow]; omega, ?_⟩
    rw [aesLoop, hstate, hround, hround, hrows]
    simp [Function.comp_def, Nat.add_assoc]

/-- A block goes through the rounds. -/
theorem aesBlock_eq {round last : AesWords → AesWords → AesWords} {f : State → State → State}
    (g : State → State → State)
    (hround : ∀ rk y, (round rk y).state = f y.state rk.state)
    (hlast : ∀ rk y, (last rk y).state = g y.state rk.state) {ctx : AesContext} {i : Nat}
    (hnr : ctx.nr = 2 * i + 2) (x : AesWords) : (aesBlock round last ctx x).state =
      g (ctx.keys.middle.foldl f (x.state.xor ctx.keys.first)) ctx.keys.last := by
  have hiterations : ctx.nr / 2 - 1 = i := by omega
  obtain ⟨hrow, hstate⟩ := aesLoop_eq hround ctx i 1 (x.xor (ctx.key 0))
  have hmiddle : ctx.keys.middle =
      ((List.range (2 * i)).map fun j => (ctx.key (1 + j)).state) ++
        [(ctx.key (1 + 2 * i)).state] := by
    simp only [AesContext.keys, roundKeys, state_key, hnr]
    rw [show 2 * i + 2 - 1 = 2 * i + 1 by omega, List.range_succ]
    simp [Nat.add_comm]
  have hlastKey : (ctx.key (1 + 2 * i + 1)).state = ctx.keys.last := by
    rw [state_key, AesContext.keys, roundKeys, hnr, Nat.add_comm 1]
  unfold aesBlock
  rw [hiterations]
  dsimp only
  rw [hlast, hround, hrow, hstate, hlastKey, hmiddle, List.foldl_append, state_xor, state_key]
  rfl

theorem state_aesEncrypt {ctx : AesContext} {i : Nat} (hnr : ctx.nr = 2 * i + 2) (x : AesWords) :
    (aesEncrypt (aesGenTables stack) ctx x).state = rijndael.encrypt ctx.keys x.state :=
  aesBlock_eq (fun y rk => rijndael.add (rijndael.sub y) rk) state_aesFround
    state_aesLastFround hnr x

theorem state_aesDecrypt {ctx : AesContext} {i : Nat} (hnr : ctx.nr = 2 * i + 2) (x : AesWords) :
    (aesDecrypt (aesGenTables stack) ctx x).state = rijndael.decrypt ctx.keys x.state :=
  aesBlock_eq (fun y rk => rijndael.add (rijndael.subInv y) rk) state_aesRround
    state_aesLastRround hnr x

/-! ## The schedule -/

/-- The next word depends on the last words and their number. -/
theorem expandWord_append {nk : Nat} (pre g : List Column) (hnk : nk ≤ g.length) (hpos : 0 < nk) :
    expandWord nk (pre ++ g) = pre ++ (g ++ [(g.getD (g.length - nk) .zero).xor
      (keyTemp nk (pre.length + g.length) (g.getD (g.length - 1) .zero))]) := by
  have hold : (pre ++ g).getD ((pre ++ g).length - nk) .zero = g.getD (g.length - nk) .zero := by
    rw [List.length_append, Nat.add_sub_assoc hnk, List.getD_append_right _ _ _ _ (by omega)]
    congr 1
    omega
  have hlast : (pre ++ g).getD ((pre ++ g).length - 1) .zero = g.getD (g.length - 1) .zero := by
    rw [List.length_append, Nat.add_sub_assoc (by omega), List.getD_append_right _ _ _ _ (by omega)]
    congr 1
    omega
  rw [expandWord, hold, hlast, List.length_append, List.append_assoc]

theorem column_roundConstants (i : Nat) (hi : i < 10) :
    column ((aesGenTables stack).roundConstants.getD i 0) = rcon (i + 1) := by
  have hall : ∀ i < 10, column ((genRoundConstants 10 1).getD i 0) = rcon (i + 1) := by decide
  exact hall i hi

theorem column_rotatedSub (x : UInt32) :
    column (rotatedSub (aesGenTables stack) x) = subWord (rotWord (column x)) := by
  have hsub := column_subBytesOf sbox 0 (byteOf 1 x) (byteOf 2 x) (byteOf 3 x) (byteOf 0 x)
  have hfsb : (aesGenTables stack).fsb = sbox := genFsb_eq
  rw [UInt32.zero_xor] at hsub
  rw [rotatedSub, hfsb, hsub]
  simp [Column.xor, column, byteOf, subWord, rotWord, Column.map]

theorem column_plainSub (x : UInt32) :
    column (subBytesOf (aesGenTables stack).fsb (byteOf 0 x) (byteOf 1 x) (byteOf 2 x)
      (byteOf 3 x)) = subWord (column x) := by
  have hsub := column_subBytesOf sbox 0 (byteOf 0 x) (byteOf 1 x) (byteOf 2 x) (byteOf 3 x)
  have hfsb : (aesGenTables stack).fsb = sbox := genFsb_eq
  rw [UInt32.zero_xor] at hsub
  rw [hfsb, hsub]
  simp [Column.xor, column, byteOf, subWord, Column.map]

/-- The sums of the code and those of the standard. -/
theorem xor_rcon (k r s : Column) : (k.xor r).xor s = k.xor (s.xor r) := by
  simp only [Column.xor, Column.mk.injEq]
  refine ⟨?_, ?_, ?_, ?_⟩ <;> ac_rfl

/-- An iteration for 128 bits. -/
theorem setkey128_eq {pre : List Column} {rk : List UInt32} {i : Nat} {rc : UInt32}
    (hpre : pre.length = 4 * i) (hrk : rk.length = 4) (hrc : column rc = rcon (i + 1)) :
    (expandWord 4)^[4] (pre ++ rk.map column) =
      pre ++ rk.map column ++ (setkey128 (aesGenTables stack) rc rk).map column := by
  match rk, hrk with
  | [rk0, rk1, rk2, rk3], _ =>
    simp only [Function.iterate_succ_apply, Function.iterate_zero_apply, List.map_cons,
      List.map_nil]
    iterate 4 rw [expandWord_append _ _ (by simp) (by decide)]
    simp [keyTemp, hpre, setkey128, hrc, column_rotatedSub, xor_rcon]

/-- An iteration for 192 bits. -/
theorem setkey192_eq {pre : List Column} {rk : List UInt32} {i : Nat} {rc : UInt32}
    (hpre : pre.length = 6 * i) (hrk : rk.length = 6) (hrc : column rc = rcon (i + 1)) :
    (expandWord 6)^[6] (pre ++ rk.map column) =
      pre ++ rk.map column ++ (setkey192 (aesGenTables stack) rc rk).map column := by
  match rk, hrk with
  | [rk0, rk1, rk2, rk3, rk4, rk5], _ =>
    simp only [Function.iterate_succ_apply, Function.iterate_zero_apply, List.map_cons,
      List.map_nil]
    iterate 6 rw [expandWord_append _ _ (by simp) (by decide)]
    simp [keyTemp, hpre, setkey192, hrc, column_rotatedSub, xor_rcon]

/-- An iteration for 256 bits. -/
theorem setkey256_eq {pre : List Column} {rk : List UInt32} {i : Nat} {rc : UInt32}
    (hpre : pre.length = 8 * i) (hrk : rk.length = 8) (hrc : column rc = rcon (i + 1)) :
    (expandWord 8)^[8] (pre ++ rk.map column) =
      pre ++ rk.map column ++ (setkey256 (aesGenTables stack) rc rk).map column := by
  match rk, hrk with
  | [rk0, rk1, rk2, rk3, rk4, rk5, rk6, rk7], _ =>
    simp only [Function.iterate_succ_apply, Function.iterate_zero_apply, List.map_cons,
      List.map_nil]
    iterate 8 rw [expandWord_append _ _ (by simp) (by decide)]
    simp [keyTemp, hpre, setkey256, hrc, column_rotatedSub, column_plainSub, xor_rcon]

/-- The loops of `mbedtls_aes_setkey_enc` make the schedule, `nk` words at a time. -/
theorem setkeyLoop_eq {nk : Nat} {next : UInt32 → List UInt32 → List UInt32}
    (hnext : ∀ (pre : List Column) (rk : List UInt32) (i : Nat) (rc : UInt32),
      pre.length = nk * i → rk.length = nk → column rc = rcon (i + 1) →
      (expandWord nk)^[nk] (pre ++ rk.map column) =
        pre ++ rk.map column ++ (next rc rk).map column)
    {key : List UInt32} (hkey : key.length = nk) {n : Nat} (hn : n ≤ 10) :
    (setkeyLoop (aesGenTables stack) next nk key n).map column =
      (expandWord nk)^[nk * n] (key.map column) := by
  induction n with
  | zero => rfl
  | succ n ih =>
    have hbuf := ih (by omega)
    rw [setkeyLoop]
    generalize setkeyLoop (aesGenTables stack) next nk key n = buf at hbuf
    have hlength : buf.length = nk + nk * n := by
      have hlen := congrArg List.length hbuf
      rwa [List.length_map, length_expandWord, List.length_map, hkey] at hlen
    have hpre : ((buf.take (nk * n)).map column).length = nk * n := by
      rw [List.length_map, List.length_take, hlength]
      omega
    have hgroup : (buf.drop (nk * n)).length = nk := by
      rw [List.length_drop, hlength]
      omega
    have hmore := hnext _ _ n ((aesGenTables stack).roundConstants.getD n 0) hpre hgroup
      (column_roundConstants n (by omega))
    rw [← List.map_append, List.take_append_drop] at hmore
    rw [List.map_append, ← hmore, hbuf, ← Function.iterate_add_apply, Nat.mul_succ, Nat.add_comm]

/-! ## The round keys -/

@[simp] theorem column_getUint32Le (b0 b1 b2 b3 : UInt8) :
    column (getUint32Le b0 b1 b2 b3) = ⟨b0, b1, b2, b3⟩ := by
  simp [getUint32Le, column_or]

theorem map_column_wordsLe (bytes : List UInt8) : (wordsLe bytes).map column = columns bytes := by
  induction bytes using wordsLe.induct with
  | case1 b0 b1 b2 b3 bytes ih =>
    rw [wordsLe, columns, List.map_cons, ih, column_getUint32Le]
  | case2 bytes hshort =>
    rw [wordsLe.eq_2 _ hshort, columns.eq_2 _ hshort]
    rfl

theorem map_state_rows (xs : List UInt32) :
    (rows xs).map AesWords.state = blocks (xs.map column) := by
  induction xs using rows.induct with
  | case1 x0 x1 x2 x3 xs ih =>
    rw [rows, List.map_cons, ih]
    rfl
  | case2 xs hshort =>
    match xs, hshort with
    | [], _ | [_], _ | [_, _], _ | [_, _, _], _ => rfl
    | x0 :: x1 :: x2 :: x3 :: rest, hshort => exact absurd rfl (hshort x0 x1 x2 x3 rest)

/-- Words behind the last round key do not matter. -/
theorem keys_setkeyLoop {nk : Nat} {next : UInt32 → List UInt32 → List UInt32}
    (hnext : ∀ (pre : List Column) (rk : List UInt32) (i : Nat) (rc : UInt32),
      pre.length = nk * i → rk.length = nk → column rc = rcon (i + 1) →
      (expandWord nk)^[nk] (pre ++ rk.map column) =
        pre ++ rk.map column ++ (next rc rk).map column)
    {key : List UInt8} (hkey : key.length = 4 * nk) {n : Nat} (hn : n ≤ 10)
    (henough : 4 * (rounds nk + 1) ≤ nk + nk * n) :
    AesContext.keys ⟨rounds nk, rows (setkeyLoop (aesGenTables stack) next nk (wordsLe key) n)⟩ =
      roundKeys (rounds nk) (blocks (keyExpansion (columns key))) := by
  have hcolumns : (columns key).length = nk := by
    rw [length_columns, hkey, Nat.mul_div_cancel_left nk (by decide)]
  have hwords : (wordsLe key).length = nk := by
    rw [← List.length_map column, map_column_wordsLe, hcolumns]
  obtain ⟨rest, hrest⟩ := iterate_expandWord_add nk (4 * (rounds nk + 1) - nk)
    (nk * n - (4 * (rounds nk + 1) - nk)) (columns key)
  rw [Nat.add_sub_cancel' (by omega)] at hrest
  have hexpansion : (keyExpansion (columns key)).length = 4 * (rounds nk + 1) := by
    rw [keyExpansion, length_expandWord, hcolumns]
    unfold rounds
    omega
  obtain ⟨hblocks, hlength⟩ := blocks_append hexpansion rest
  rw [AesContext.keys, map_state_rows, setkeyLoop_eq hnext hwords hn, map_column_wordsLe, hrest,
    ← roundKeys_append hlength (blocks rest), ← hblocks, keyExpansion, hcolumns]

/-- **The round keys are those of the standard**, for the three lengths of a key. -/
theorem aesSetkeyEnc_keys (stack : AesStack) {nk : Nat} (hnk : nk = 4 ∨ nk = 6 ∨ nk = 8)
    {key : List UInt8} (hkey : key.length = 4 * nk) :
    ∃ ctx, aesSetkeyEnc (aesGenTables stack) key (32 * nk) = .ok ctx ∧ ctx.nr = rounds nk ∧
      ctx.keys = roundKeys (rounds nk) (blocks (keyExpansion (columns key))) := by
  have hall : key.take (32 * nk / 8) = key := List.take_of_length_le (by omega)
  unfold aesSetkeyEnc
  rw [hall]
  rcases hnk with rfl | rfl | rfl
  · exact ⟨_, rfl, rfl, keys_setkeyLoop (fun _ _ _ _ => setkey128_eq) hkey (by decide) (by decide)⟩
  · exact ⟨_, rfl, rfl, keys_setkeyLoop (fun _ _ _ _ => setkey192_eq) hkey (by decide) (by decide)⟩
  · exact ⟨_, rfl, rfl, keys_setkeyLoop (fun _ _ _ _ => setkey256_eq) hkey (by decide) (by decide)⟩

theorem roundKeys_cons_append (a b : State) {m : List State} {nr : Nat} (hlen : nr = m.length + 1) :
    roundKeys nr (a :: m ++ [b]) = ⟨a, m, b⟩ := by
  subst hlen
  have hmiddle : ((List.range m.length).map fun i => (a :: m ++ [b]).getD (i + 1) .zero) = m := by
    refine List.ext_getElem (by simp) fun i hi hi' => ?_
    rw [List.getElem_map, List.getElem_range, List.cons_append, List.getD_cons_succ,
      List.getD_append _ _ _ _ hi', List.getD_eq_getElem _ _ hi']
  have hlast : (a :: m ++ [b]).getD (m.length + 1) .zero = b := by simp
  rw [roundKeys, Nat.add_sub_cancel, hmiddle, hlast]
  rfl

/-- **The keys of `mbedtls_aes_setkey_dec` are those for the inverse.** -/
theorem aesSetkeyDec_keys {key : List UInt8} {keybits : Nat} {ctx : AesContext}
    (hctx : aesSetkeyEnc (aesGenTables stack) key keybits = .ok ctx) (hnr : 0 < ctx.nr) :
    ∃ ctx', aesSetkeyDec (aesGenTables stack) key keybits = .ok ctx' ∧ ctx'.nr = ctx.nr ∧
      ctx'.keys = rijndael.invKeys ctx.keys := by
  have hstate (x : AesWords) : (x.map (invMixWord (aesGenTables stack))).state =
      rijndael.mixInv x.state := by
    simp only [AesWords.map, AesWords.state, column_invMixWord]
    rfl
  unfold aesSetkeyDec
  rw [hctx]
  refine ⟨_, rfl, rfl, ?_⟩
  rw [AesContext.keys]
  dsimp only
  rw [List.map_append, List.map_cons, List.map_map, List.map_singleton,
    roundKeys_cons_append _ _ (by simp; omega)]
  simp only [RoundCipher.invKeys, AesContext.keys, roundKeys, RoundKeys.mk.injEq, ← state_key,
    true_and, and_true]
  refine List.ext_getElem (by simp) fun i hi hi' => ?_
  have hlt : i < ctx.nr - 1 := by simpa using hi
  have hindex : ctx.nr - 1 - i = ctx.nr - 1 - 1 - i + 1 := by omega
  simp [hstate, ← hindex]

end

/-! ## Blocks of bytes -/

/-- The words that `mbedtls_internal_aes_encrypt` reads. -/
def AesWords.ofBlock (input : Semiblock × Semiblock) : AesWords where
  x0 := getUint32Le input.1[0] input.1[1] input.1[2] input.1[3]
  x1 := getUint32Le input.1[4] input.1[5] input.1[6] input.1[7]
  x2 := getUint32Le input.2[0] input.2[1] input.2[2] input.2[3]
  x3 := getUint32Le input.2[4] input.2[5] input.2[6] input.2[7]

/-- The bytes that it writes. -/
def AesWords.toBlock (x : AesWords) : Semiblock × Semiblock :=
  (⟨(putUint32Le x.x0 ++ putUint32Le x.x1).toArray, rfl⟩,
    ⟨(putUint32Le x.x2 ++ putUint32Le x.x3).toArray, rfl⟩)

/-- `MBEDTLS_AES_ENCRYPT`. -/
def mbedtlsAesEncrypt : Int := 1

/-- `MBEDTLS_AES_DECRYPT`. -/
def mbedtlsAesDecrypt : Int := 0

/-- `MBEDTLS_ERR_AES_BAD_INPUT_DATA`. -/
def mbedtlsErrAesBadInputData : CipherError := ⟨-0x0021, by decide⟩

/-- `mbedtls_aes_crypt_ecb`. -/
def aesCryptEcb (t : AesTables) (ctx : AesContext) (mode : Int) : CipherUpdate := fun input =>
  if mode ≠ mbedtlsAesEncrypt ∧ mode ≠ mbedtlsAesDecrypt then .error mbedtlsErrAesBadInputData
  else if mode = mbedtlsAesDecrypt then .ok (aesDecrypt t ctx (.ofBlock input)).toBlock
  else .ok (aesEncrypt t ctx (.ofBlock input)).toBlock

/-- The block in some bytes. -/
def blockState (x : Semiblock × Semiblock) : State where
  c0 := ⟨x.1[0], x.1[1], x.1[2], x.1[3]⟩
  c1 := ⟨x.1[4], x.1[5], x.1[6], x.1[7]⟩
  c2 := ⟨x.2[0], x.2[1], x.2[2], x.2[3]⟩
  c3 := ⟨x.2[4], x.2[5], x.2[6], x.2[7]⟩

/-- The bytes of a block. -/
def blockBytes (s : State) : Semiblock × Semiblock :=
  (#v[s.c0.b0, s.c0.b1, s.c0.b2, s.c0.b3, s.c1.b0, s.c1.b1, s.c1.b2, s.c1.b3],
    #v[s.c2.b0, s.c2.b1, s.c2.b2, s.c2.b3, s.c3.b0, s.c3.b1, s.c3.b2, s.c3.b3])

/-- The cipher of the standard, on bytes. -/
def fipsCipher (key : List UInt8) (x : Semiblock × Semiblock) : Semiblock × Semiblock :=
  blockBytes (cipher (columns key) (blockState x))

theorem blockBytes_blockState (x : Semiblock × Semiblock) : blockBytes (blockState x) = x := by
  obtain ⟨⟨⟨l⟩, hl⟩, ⟨⟨l'⟩, hl'⟩⟩ := x
  match l, hl, l', hl' with
  | [_, _, _, _, _, _, _, _], _, [_, _, _, _, _, _, _, _], _ => rfl

theorem blockState_blockBytes (s : State) : blockState (blockBytes s) = s := rfl

theorem toBlock_eq (x : AesWords) : x.toBlock = blockBytes x.state := rfl

theorem state_ofBlock (x : Semiblock × Semiblock) :
    (AesWords.ofBlock x).state = blockState x := by
  simp only [AesWords.ofBlock, AesWords.state, column_getUint32Le, blockState]

section

variable (stack : AesStack) {key : List UInt8}

theorem aesCryptEcb_encrypt {ctx : AesContext} {i : Nat} (hnr : ctx.nr = 2 * i + 2)
    (x : Semiblock × Semiblock) : aesCryptEcb (aesGenTables stack) ctx mbedtlsAesEncrypt x =
      .ok (blockBytes (rijndael.encrypt ctx.keys (blockState x))) := by
  rw [aesCryptEcb, if_neg (by decide), if_neg (by decide), toBlock_eq, state_aesEncrypt hnr,
    state_ofBlock]

theorem aesCryptEcb_decrypt {ctx : AesContext} {i : Nat} (hnr : ctx.nr = 2 * i + 2)
    (y : Semiblock × Semiblock) : aesCryptEcb (aesGenTables stack) ctx mbedtlsAesDecrypt y =
      .ok (blockBytes (rijndael.decrypt ctx.keys (blockState y))) := by
  rw [aesCryptEcb, if_neg (by decide), if_pos rfl, toBlock_eq, state_aesDecrypt hnr,
    state_ofBlock]

/-- Keys of three lengths. -/
theorem exists_nk (hkey : key.length = 16 ∨ key.length = 24 ∨ key.length = 32) :
    ∃ nk, (nk = 4 ∨ nk = 6 ∨ nk = 8) ∧ key.length = 4 * nk ∧ 8 * key.length = 32 * nk ∧
      (columns key).length = nk ∧ ∃ i, rounds nk = 2 * i + 2 := by
  rcases hkey with hkey | hkey | hkey
  · exact ⟨4, .inl rfl, hkey, by omega, by rw [length_columns, hkey], 4, rfl⟩
  · exact ⟨6, .inr (.inl rfl), hkey, by omega, by rw [length_columns, hkey], 5, rfl⟩
  · exact ⟨8, .inr (.inr rfl), hkey, by omega, by rw [length_columns, hkey], 6, rfl⟩

/-- **The encryption is that of the standard.** -/
theorem exists_aesSetkeyEnc (hkey : key.length = 16 ∨ key.length = 24 ∨ key.length = 32) :
    ∃ ctx, aesSetkeyEnc (aesGenTables stack) key (8 * key.length) = .ok ctx ∧
      ∀ x, aesCryptEcb (aesGenTables stack) ctx mbedtlsAesEncrypt x = .ok (fipsCipher key x) := by
  obtain ⟨nk, hnk, hlength, hbits, hcolumns, i, hrounds⟩ := exists_nk hkey
  obtain ⟨ctx, hctx, hnr, hkeys⟩ := aesSetkeyEnc_keys stack hnk hlength
  refine ⟨ctx, hbits ▸ hctx, fun x => ?_⟩
  rw [aesCryptEcb_encrypt stack (hnr.trans hrounds), hkeys, fipsCipher, cipher, hcolumns]

/-- **The decryption takes it back**, and nothing else gives the same block. -/
theorem exists_aesSetkeyDec (hkey : key.length = 16 ∨ key.length = 24 ∨ key.length = 32) :
    ∃ ctx, aesSetkeyDec (aesGenTables stack) key (8 * key.length) = .ok ctx ∧
      ∀ x y, aesCryptEcb (aesGenTables stack) ctx mbedtlsAesDecrypt y = .ok x ↔
        fipsCipher key x = y := by
  obtain ⟨nk, hnk, hlength, hbits, hcolumns, i, hrounds⟩ := exists_nk hkey
  obtain ⟨cty, hcty, hnr, hkeys⟩ := aesSetkeyEnc_keys stack hnk hlength
  obtain ⟨ctx, hctx, hnr', hinv⟩ := aesSetkeyDec_keys hcty (by omega)
  refine ⟨ctx, hbits ▸ hctx, fun x y => ?_⟩
  rw [aesCryptEcb_decrypt stack (hnr'.trans (hnr.trans hrounds)), hinv, hkeys, fipsCipher, cipher,
    hcolumns]
  constructor
  · intro h
    rw [← Except.ok.inj h, blockState_blockBytes, RoundCipher.encrypt_decrypt,
      blockBytes_blockState]
  · intro h
    rw [← h, blockState_blockBytes, RoundCipher.decrypt_encrypt, blockBytes_blockState]

/-- **The cipher is that of FIPS 197**, and the decryption is its inverse, for every key of 16, 24
or 32 bytes and whatever was on the stack when the tables were made. -/
theorem aes_meets_fips (hkey : key.length = 16 ∨ key.length = 24 ∨ key.length = 32) :
    ∃ enc dec, aesSetkeyEnc (aesGenTables stack) key (8 * key.length) = .ok enc ∧
      aesSetkeyDec (aesGenTables stack) key (8 * key.length) = .ok dec ∧
      (∀ x, aesCryptEcb (aesGenTables stack) enc mbedtlsAesEncrypt x = .ok (fipsCipher key x)) ∧
      ∀ x y, aesCryptEcb (aesGenTables stack) dec mbedtlsAesDecrypt y = .ok x ↔
        aesCryptEcb (aesGenTables stack) enc mbedtlsAesEncrypt x = .ok y := by
  obtain ⟨enc, henc, hencrypts⟩ := exists_aesSetkeyEnc stack hkey
  obtain ⟨dec, hdec, hdecrypts⟩ := exists_aesSetkeyDec stack hkey
  refine ⟨enc, dec, henc, hdec, hencrypts, fun x y => ?_⟩
  rw [hdecrypts, hencrypts]
  exact ⟨fun h => congrArg _ h, Except.ok.inj⟩

/-- A key of 192 bits, all of them zero. -/
theorem aes_meets_fips_zeros : ∃ enc dec,
    aesSetkeyEnc (aesGenTables .zero) (List.replicate 24 0) 192 = .ok enc ∧
      aesSetkeyDec (aesGenTables .zero) (List.replicate 24 0) 192 = .ok dec ∧
      (∀ x, aesCryptEcb (aesGenTables .zero) enc mbedtlsAesEncrypt x =
        .ok (fipsCipher (List.replicate 24 0) x)) ∧
      ∀ x y, aesCryptEcb (aesGenTables .zero) dec mbedtlsAesDecrypt y = .ok x ↔
        aesCryptEcb (aesGenTables .zero) enc mbedtlsAesEncrypt x = .ok y :=
  aes_meets_fips _ (.inr (.inl rfl))

end

end Wifi
