import DsWifi.Crypto.Bytes
import DsWifi.Infra.BlockHash
import Mathlib.Data.List.GetD
import Mathlib.Tactic.Common

/-!
# SHA-1 (TWL)

`mbedtls_sha1_*` (`mbedtls/library/sha1.twl.c`), in which the registers change their roles instead
of their contents and only the last 16 words of the schedule are kept, against the definition of
FIPS 180. An input can come in pieces.

* `sha1Process_eq` — a block
* `sha1_pieces` — an input in any pieces
-/

namespace Wifi

open Infra

/-! ## The standard -/

/-- `S`: a word is rotated to the left. -/
def rotl (x n : UInt32) : UInt32 := x <<< n ||| x >>> (32 - n)

/-- Word `i` of a block. -/
def blockWord (data : List UInt8) (i : Nat) : UInt32 :=
  UInt32.ofNat (getUint32Be ((data.drop (4 * i)).take 4))

/-- The bytes of a word. -/
def wordBytesBe (x : UInt32) : List UInt8 := putUint32Be x.toNat

namespace Fips

/-- The five words between two steps. -/
structure Words where
  a : UInt32
  b : UInt32
  c : UInt32
  d : UInt32
  e : UInt32
  deriving DecidableEq, Repr

/-- The first `16 + k` words of the schedule. -/
def schedule (block : List UInt8) : Nat → List UInt32
  | 0 => (List.range 16).map (blockWord block)
  | k + 1 =>
    let w := schedule block k
    w ++ [rotl (w.getD (k + 13) 0 ^^^ w.getD (k + 8) 0 ^^^ w.getD (k + 2) 0 ^^^ w.getD k 0) 1]

/-- The words that a state of the code stands for. -/
def words (state : Vector UInt32 5) : Words := ⟨state[0], state[1], state[2], state[3], state[4]⟩

/-- The logical function of a step. -/
def logical (t : Nat) (x y z : UInt32) : UInt32 :=
  if t < 20 then (x &&& y) ^^^ (~~~x &&& z)
  else if t < 40 then x ^^^ y ^^^ z
  else if t < 60 then (x &&& y) ^^^ (x &&& z) ^^^ (y &&& z)
  else x ^^^ y ^^^ z

/-- The constant of a step. -/
def constant (t : Nat) : UInt32 :=
  if t < 20 then 0x5A827999 else if t < 40 then 0x6ED9EBA1
  else if t < 60 then 0x8F1BBCDC else 0xCA62C1D6

def step (w : List UInt32) (s : Words) (t : Nat) : Words where
  a := rotl s.a 5 + logical t s.b s.c s.d + s.e + constant t + w.getD t 0
  b := s.a
  c := rotl s.b 30
  d := s.c
  e := s.d

def compress (h : Words) (block : List UInt8) : Words :=
  let s := (List.range 80).foldl (step (schedule block 64)) h
  ⟨h.a + s.a, h.b + s.b, h.c + s.c, h.d + s.d, h.e + s.e⟩

def initial : Words := ⟨0x67452301, 0xEFCDAB89, 0x98BADCFE, 0x10325476, 0xC3D2E1F0⟩

/-- The number of bits, in eight bytes. -/
def lengthBytes (len : Nat) : List UInt8 :=
  wordBytesBe (UInt32.ofNat (8 * len / 2 ^ 32)) ++ wordBytesBe (UInt32.ofNat (8 * len))

/-- What is put behind a message of this length. -/
def padding (len : Nat) : List UInt8 :=
  [0x80] ++ List.replicate ((119 - len % 64) % 64) 0 ++ lengthBytes len

def Words.bytes (s : Words) : List UInt8 :=
  wordBytesBe s.a ++ wordBytesBe s.b ++ wordBytesBe s.c ++ wordBytesBe s.d ++ wordBytesBe s.e

/-- The digest of a message. -/
def sha1 (message : List UInt8) : List UInt8 :=
  (absorb compress 64 initial (message ++ padding message.length)).1.bytes

end Fips

/-! ## A block -/

/-- `mbedtls_sha1_context`. -/
structure Sha1Context where
  total0 : UInt32
  total1 : UInt32
  state : Vector UInt32 5
  buffer : List UInt8

/-- `local`, with the registers `A` to `E`. -/
structure Sha1Local where
  w : Vector UInt32 16
  regs : Vector UInt32 5

namespace Sha1Local

/-- `F`. -/
def logical (t : Nat) (x y z : UInt32) : UInt32 :=
  if t < 20 then z ^^^ (x &&& (y ^^^ z))
  else if t < 40 then x ^^^ y ^^^ z
  else if t < 60 then (x &&& y) ||| (z &&& (x ||| y))
  else x ^^^ y ^^^ z

/-- `K`. -/
def constant (t : Nat) : UInt32 :=
  if t < 20 then 0x5A827999 else if t < 40 then 0x6ED9EBA1
  else if t < 60 then 0x8F1BBCDC else 0xCA62C1D6

/-- `P`, with the registers that are `a` to `e`. -/
def p (t : Nat) (a b c d e : Fin 5) (x : UInt32) (regs : Vector UInt32 5) : Vector UInt32 5 :=
  let regs := regs.set e
    (regs.get e + (rotl (regs.get a) 5 + logical t (regs.get b) (regs.get c) (regs.get d) +
      constant t + x))
  regs.set b (rotl (regs.get b) 30)

/-- A word of the ring. -/
def word (w : Vector UInt32 16) (t : Nat) : UInt32 := w[t % 16]

/-- `R`: the next word, which takes the place of the one before the last 15. -/
def r (t : Nat) (w : Vector UInt32 16) : Vector UInt32 16 :=
  let temp := word w (t - 3) ^^^ word w (t - 8) ^^^ word w (t - 14) ^^^ word w t
  w.set (t % 16) (rotl temp 1)

/-- The register with the role `i` in the line for `t`. -/
def role (t i : Nat) : Fin 5 := Fin.ofNat 5 (i + 4 * t)

/-- The line for `t`: `P` with `local.W[t]` or `R(t)`. -/
def line (l : Sha1Local) (t : Nat) : Sha1Local :=
  let w := if t < 16 then l.w else r t l.w
  { w
    regs := p t (role t 0) (role t 1) (role t 2) (role t 3) (role t 4) (word w t) l.regs }

end Sha1Local

/-- `mbedtls_internal_sha1_process`, on the state. -/
def sha1Process (state : Vector UInt32 5) (data : List UInt8) : Vector UInt32 5 :=
  let l : Sha1Local := (List.range 80).foldl Sha1Local.line
    ⟨Vector.ofFn fun i => blockWord data i.val, state⟩
  Vector.zipWith (· + ·) state l.regs

/-! ## The block is the one of the standard -/

namespace Sha1Local

open Fips

theorem logical_eq (t : Nat) (x y z : UInt32) : logical t x y z = Fips.logical t x y z := by
  unfold logical Fips.logical
  have hchoose : z ^^^ (x &&& (y ^^^ z)) = (x &&& y) ^^^ (~~~x &&& z) := by
    apply UInt32.eq_of_toBitVec_eq
    ext i
    simp only [UInt32.toBitVec_xor, UInt32.toBitVec_and, UInt32.toBitVec_not, BitVec.getElem_xor,
      BitVec.getElem_and, BitVec.getElem_not]
    cases x.toBitVec[i] <;> cases y.toBitVec[i] <;> cases z.toBitVec[i] <;> rfl
  have hmajority : (x &&& y) ||| (z &&& (x ||| y)) = (x &&& y) ^^^ (x &&& z) ^^^ (y &&& z) := by
    apply UInt32.eq_of_toBitVec_eq
    ext i
    simp only [UInt32.toBitVec_xor, UInt32.toBitVec_and, UInt32.toBitVec_or, BitVec.getElem_xor,
      BitVec.getElem_and, BitVec.getElem_or]
    cases x.toBitVec[i] <;> cases y.toBitVec[i] <;> cases z.toBitVec[i] <;> rfl
  rw [hchoose, hmajority]

/-- The registers hold these words, in the roles of the line for `t`. -/
structure Holds (t : Nat) (regs : Vector UInt32 5) (s : Words) : Prop where
  a : regs.get (role t 0) = s.a
  b : regs.get (role t 1) = s.b
  c : regs.get (role t 2) = s.c
  d : regs.get (role t 3) = s.d
  e : regs.get (role t 4) = s.e

/-- The roles of the next line. -/
theorem role_succ (t i : Nat) : role (t + 1) i = role t (i + 4) := by
  simp only [role, Nat.mul_add]
  congr 1
  omega

theorem role_add_five (t i : Nat) : role t (i + 5) = role t i := by
  apply Fin.ext
  simp only [role, Fin.ofNat]
  omega

theorem role_ne {t i j : Nat} (hij : i < j) (hj : j < 5) : role t i ≠ role t j := by
  intro h
  have hval := congrArg Fin.val h
  simp only [role, Fin.ofNat] at hval
  omega

theorem get_setReg (regs : Vector UInt32 5) (i j : Fin 5) (x : UInt32) :
    (regs.set i x).get j = if i = j then x else regs.get j := by
  rcases eq_or_ne i j with rfl | h
  · rw [if_pos rfl]
    exact Vector.getElem_set_self i.isLt
  · have hne : i.val ≠ j.val := fun he => h (Fin.ext he)
    rw [if_neg h]
    exact Vector.getElem_set_ne i.isLt j.isLt hne

/-- **A line is a step**: two registers change, and all roles move on. -/
theorem Holds.p {t : Nat} {regs : Vector UInt32 5} {s : Words} (h : Holds t regs s)
    {w : List UInt32} {x : UInt32} (hx : x = w.getD t 0) :
    Holds (t + 1) (Sha1Local.p t (role t 0) (role t 1) (role t 2) (role t 3) (role t 4) x regs)
      (step w s t) := by
  have h14 := @role_ne t _ _ (show 1 < 4 by decide) (by decide)
  have h04 := @role_ne t _ _ (show 0 < 4 by decide) (by decide)
  have h24 := @role_ne t _ _ (show 2 < 4 by decide) (by decide)
  have h34 := @role_ne t _ _ (show 3 < 4 by decide) (by decide)
  have h01 := @role_ne t _ _ (show 0 < 1 by decide) (by decide)
  have h12 := @role_ne t _ _ (show 1 < 2 by decide) (by decide)
  have h13 := @role_ne t _ _ (show 1 < 3 by decide) (by decide)
  constructor
  · rw [role_succ, Sha1Local.p]
    rw [get_setReg, if_neg h14, get_setReg, if_pos rfl, h.e, h.a, h.b, h.c, h.d,
      logical_eq, hx]
    unfold step constant Fips.constant
    dsimp only
    ac_rfl
  · rw [role_succ, role_add_five, Sha1Local.p]
    rw [get_setReg, if_neg h01.symm, get_setReg, if_neg h04.symm, h.a]
    rfl
  · rw [role_succ, role_add_five, Sha1Local.p]
    rw [get_setReg, if_pos rfl, get_setReg, if_neg h14.symm, h.b]
    rfl
  · rw [role_succ, role_add_five, Sha1Local.p]
    rw [get_setReg, if_neg h12, get_setReg, if_neg h24.symm, h.c]
    rfl
  · rw [role_succ, role_add_five, Sha1Local.p]
    rw [get_setReg, if_neg h13, get_setReg, if_neg h34.symm, h.d]
    rfl

/-- Word `t` of a block. -/
def scheduled (block : List UInt8) (t : Nat) : UInt32 := (schedule block 64).getD t 0

theorem length_schedule (block : List UInt8) (k : Nat) : (schedule block k).length = 16 + k := by
  induction k with
  | zero => rfl
  | succ k ih => rw [schedule, List.length_append, ih, List.length_singleton, Nat.add_assoc]

/-- Later words leave the earlier ones alone. -/
theorem schedule_getD {block : List UInt8} {k n t : Nat} (hkn : k ≤ n) (ht : t < 16 + k) :
    (schedule block n).getD t 0 = (schedule block k).getD t 0 := by
  induction hkn with
  | refl => rfl
  | @step n hkn ih =>
    have hlen := length_schedule block n
    have hle : k ≤ n := hkn
    rw [← ih, schedule, List.getD_append _ _ _ _ (by omega)]

theorem scheduled_of_lt {block : List UInt8} {t : Nat} (ht : t < 16) :
    scheduled block t = blockWord block t := by
  rw [scheduled, schedule_getD (Nat.zero_le 64) ht, schedule]
  simp [ht]

/-- The recurrence of the schedule. -/
theorem scheduled_add {block : List UInt8} {k : Nat} (hk : k < 64) :
    scheduled block (k + 16) = rotl (scheduled block (k + 13) ^^^ scheduled block (k + 8) ^^^
      scheduled block (k + 2) ^^^ scheduled block k) 1 := by
  have hlen := length_schedule block k
  have hearlier {t : Nat} (ht : t < 16 + k) :
      scheduled block t = (schedule block k).getD t 0 := schedule_getD (by omega) ht
  have hnew : scheduled block (k + 16) = (schedule block (k + 1)).getD (k + 16) 0 :=
    schedule_getD (by omega) (by omega)
  rw [hnew, hearlier (by omega), hearlier (by omega), hearlier (by omega), hearlier (by omega),
    schedule, List.getD_append_right _ _ _ _ (by omega), hlen,
    show k + 16 - (16 + k) = 0 by omega]
  rfl

/-- The ring holds the last 16 words before the line for `t`, or the first ones. -/
def Ring (block : List UInt8) (t : Nat) (w : Vector UInt32 16) : Prop :=
  ∀ j, max t 16 - 16 ≤ j → j < max t 16 → word w j = scheduled block j

theorem word_setWord (w : Vector UInt32 16) (i j : Nat) (x : UInt32) :
    word (w.set (i % 16) x) j = if i % 16 = j % 16 then x else word w j := by
  unfold word
  exact Vector.getElem_set _ _

/-- **`R` puts the next word into the ring.** -/
theorem ring_r {block : List UInt8} {t : Nat} {w : Vector UInt32 16} (hge : 16 ≤ t) (hlt : t < 80)
    (h : Ring block t w) : Ring block (t + 1) (r t w) := by
  have hmax : max t 16 = t := Nat.max_eq_left hge
  have hmax' : max (t + 1) 16 = t + 1 := Nat.max_eq_left (by omega)
  have hback {i : Nat} (hi : 1 ≤ i) (hi' : i ≤ 16) :
      word w (t - i) = scheduled block (t - i) := h _ (by omega) (by omega)
  have hring : word w t = word w (t - 16) := by
    simp only [word, show t % 16 = (t - 16) % 16 by omega]
  have hnext : rotl (word w (t - 3) ^^^ word w (t - 8) ^^^ word w (t - 14) ^^^ word w t) 1 =
      scheduled block t := by
    have hrec := @scheduled_add block _ (show t - 16 < 64 by omega)
    rw [hring, hback (by decide) (by decide), hback (by decide) (by decide),
      hback (by decide) (by decide), hback (by decide) (by decide)]
    rw [show t - 16 + 16 = t by omega, show t - 16 + 13 = t - 3 by omega,
      show t - 16 + 8 = t - 8 by omega, show t - 16 + 2 = t - 14 by omega] at hrec
    exact hrec.symm
  intro j hj hj'
  rw [hmax'] at hj hj'
  rw [r, word_setWord, hnext]
  by_cases hjt : j = t
  · rw [if_pos (by rw [hjt]), hjt]
  · rw [if_neg (by omega)]
    exact h j (by omega) (by omega)

/-- What a line works with. -/
theorem ring_line {block : List UInt8} {t : Nat} {l : Sha1Local} (hlt : t < 80)
    (h : Ring block t l.w) :
    Ring block (t + 1) (line l t).w ∧ word (line l t).w t = scheduled block t := by
  by_cases hge : 16 ≤ t
  · have hring := ring_r hge hlt h
    have hw : (line l t).w = r t l.w := if_neg (by omega)
    rw [hw]
    exact ⟨hring, hring t (by omega) (by omega)⟩
  · have hw : (line l t).w = l.w := if_pos (by omega)
    rw [hw]
    have hmax : max t 16 = 16 := Nat.max_eq_right (by omega)
    have hmax' : max (t + 1) 16 = 16 := Nat.max_eq_right (by omega)
    unfold Ring at *
    rw [hmax] at h
    rw [hmax']
    exact ⟨h, h t (by omega) (by omega)⟩

/-- **The lines are the steps.** -/
theorem lines {block : List UInt8} {l : Sha1Local} {s : Words} (hring : Ring block 0 l.w)
    (h : Holds 0 l.regs s) (t : Nat) (ht : t ≤ 80) :
    Ring block t ((List.range t).foldl line l).w ∧
      Holds t ((List.range t).foldl line l).regs
        ((List.range t).foldl (step (schedule block 64)) s) := by
  induction t with
  | zero => exact ⟨hring, h⟩
  | succ t ih =>
    obtain ⟨hringt, hholds⟩ := ih (by omega)
    rw [List.range_succ, List.foldl_append, List.foldl_append, List.foldl_cons, List.foldl_cons,
      List.foldl_nil, List.foldl_nil]
    obtain ⟨hring', hword⟩ := ring_line (by omega) hringt
    exact ⟨hring', hholds.p hword⟩

end Sha1Local

open Sha1Local Fips in
/-- **A block is taken as FIPS 180 says.** -/
theorem sha1Process_eq (state : Vector UInt32 5) (data : List UInt8) :
    words (sha1Process state data) = compress (words state) data := by
  have hring : Ring data 0 (Vector.ofFn fun i : Fin 16 => blockWord data i.val) := by
    intro j _ hj
    have hlt : j < 16 := hj
    rw [scheduled_of_lt hlt, word]
    simp [Nat.mod_eq_of_lt hlt]
  obtain ⟨-, hholds⟩ := @lines data ⟨_, state⟩ (words state) hring ⟨rfl, rfl, rfl, rfl, rfl⟩
    80 (Nat.le_refl 80)
  have hrole (i : Nat) (hi : i < 5) : role 80 i = ⟨i, hi⟩ := by
    apply Fin.ext
    simp only [role, Fin.ofNat]
    omega
  obtain ⟨ha, hb, hc, hd, he⟩ := hholds
  rw [hrole 0 (by decide)] at ha
  rw [hrole 1 (by decide)] at hb
  rw [hrole 2 (by decide)] at hc
  rw [hrole 3 (by decide)] at hd
  rw [hrole 4 (by decide)] at he
  unfold compress
  dsimp only
  rw [← ha, ← hb, ← hc, ← hd, ← he]
  simp only [words, sha1Process, Vector.getElem_zipWith]
  rfl

/-! ## An input in pieces -/

/-- `memcpy` into the buffer. -/
def writeAt (buffer : List UInt8) (offset : Nat) (bytes : List UInt8) : List UInt8 :=
  buffer.take offset ++ bytes ++ buffer.drop (offset + bytes.length)

namespace Sha1Context

/-- `mbedtls_sha1_init`, and what `mbedtls_sha1_free` leaves. -/
def zero : Sha1Context := ⟨0, 0, Vector.replicate 5 0, List.replicate 64 0⟩

/-- `mbedtls_sha1_starts`. -/
def starts (ctx : Sha1Context) : Sha1Context :=
  { ctx with
    total0 := 0
    total1 := 0
    state := #v[0x67452301, 0xEFCDAB89, 0x98BADCFE, 0x10325476, 0xC3D2E1F0] }

/-- The end of `mbedtls_sha1_update`: whole blocks, and then the rest into the buffer. -/
def updateTail (ctx : Sha1Context) (left : Nat) (input : List UInt8) : Sha1Context :=
  let (state, rest) := absorb sha1Process 64 ctx.state input
  { ctx with
    state
    buffer := if rest = [] then ctx.buffer else writeAt ctx.buffer left rest }

/-- `mbedtls_sha1_update`. A length is a `size_t` of 32 bits. -/
def update (ctx : Sha1Context) (input : List UInt8) : Sha1Context :=
  if input = [] then ctx
  else
    let left := (ctx.total0 &&& 0x3F).toNat
    let fill := 64 - left
    let ilen := UInt32.ofNat input.length
    let total0 := ctx.total0 + ilen
    let ctx := { ctx with
      total0
      total1 := if total0 < ilen then ctx.total1 + 1 else ctx.total1 }
    if left ≠ 0 ∧ fill ≤ input.length then
      let buffer := writeAt ctx.buffer left (input.take fill)
      updateTail { ctx with state := sha1Process ctx.state buffer, buffer } 0 (input.drop fill)
    else updateTail ctx left input

/-- `mbedtls_sha1_finish`: the digest. The context is cleared. -/
def finish (ctx : Sha1Context) : List UInt8 :=
  let used := (ctx.total0 &&& 0x3F).toNat
  let buffer := writeAt ctx.buffer used [0x80]
  let used := used + 1
  let (state, buffer) :=
    if used ≤ 56 then (ctx.state, writeAt buffer used (List.replicate (56 - used) 0))
    else
      let buffer := writeAt buffer used (List.replicate (64 - used) 0)
      (sha1Process ctx.state buffer, writeAt buffer 0 (List.replicate 56 0))
  let high := ctx.total0 >>> 29 ||| ctx.total1 <<< 3
  let low := ctx.total0 <<< 3
  let buffer := writeAt (writeAt buffer 56 (wordBytesBe high)) 60 (wordBytesBe low)
  let state := sha1Process state buffer
  wordBytesBe state[0] ++ wordBytesBe state[1] ++ wordBytesBe state[2] ++ wordBytesBe state[3] ++
    wordBytesBe state[4]

/-- `mbedtls_sha1`. -/
def sha1 (input : List UInt8) : List UInt8 := (zero.starts.update input).finish

/-! ## The pieces are put together -/

/-- The context after a message. -/
structure After (ctx : Sha1Context) (message : List UInt8) : Prop where
  total : (2 ^ 32 * ctx.total1.toNat + ctx.total0.toNat) = message.length % 2 ^ 64
  length_buffer : ctx.buffer.length = 64
  state : Fips.words ctx.state = (absorb Fips.compress 64 Fips.initial message).1
  rest : ctx.buffer.take (message.length % 64) =
    (absorb Fips.compress 64 Fips.initial message).2

theorem length_writeAt {buffer bytes : List UInt8} {offset : Nat}
    (h : offset + bytes.length ≤ buffer.length) :
    (writeAt buffer offset bytes).length = buffer.length := by
  rw [writeAt, List.length_append, List.length_append, List.length_take, List.length_drop]
  omega

theorem take_writeAt {buffer bytes : List UInt8} {offset : Nat}
    (h : offset ≤ buffer.length) :
    (writeAt buffer offset bytes).take (offset + bytes.length) =
      buffer.take offset ++ bytes := by
  rw [writeAt]
  exact List.take_left' (by rw [List.length_append, List.length_take]; omega)

/-- A buffer that has been written to the end. -/
theorem writeAt_end {buffer bytes : List UInt8} {offset : Nat}
    (h : offset + bytes.length = buffer.length) :
    writeAt buffer offset bytes = buffer.take offset ++ bytes := by
  rw [writeAt, List.drop_eq_nil_of_le (by omega), List.append_nil]

/-- The rest is put behind what is in the buffer. -/
theorem updateTail_absorb {ctx : Sha1Context} {kept input : List UInt8}
    (hbuffer : ctx.buffer.length = 64) (hkept : ctx.buffer.take kept.length = kept)
    (hfits : kept = [] ∨ kept.length + input.length < 64) :
    Fips.words (ctx.updateTail kept.length input).state =
        (absorb Fips.compress 64 (Fips.words ctx.state) (kept ++ input)).1 ∧
      (ctx.updateTail kept.length input).buffer.length = 64 ∧
      (ctx.updateTail kept.length input).buffer.take
          (absorb Fips.compress 64 (Fips.words ctx.state) (kept ++ input)).2.length =
        (absorb Fips.compress 64 (Fips.words ctx.state) (kept ++ input)).2 := by
  have hmap := @absorb_map _ _ sha1Process 64 _ Fips.compress Fips.words sha1Process_eq ctx.state
    input
  have hrest := @length_rest _ _ sha1Process 64 (by decide) ctx.state input
  have hmod := Nat.mod_lt input.length (show 0 < 64 by decide)
  have hsplit : absorb Fips.compress 64 (Fips.words ctx.state) (kept ++ input) =
      (Fips.words (absorb sha1Process 64 ctx.state input).1,
        kept ++ (absorb sha1Process 64 ctx.state input).2) := by
    rcases hfits with rfl | hlt
    · exact hmap
    · rw [absorb_of_lt _ (by rw [List.length_append]; exact hlt), absorb_of_lt _ (by omega)]
  have hroom : kept.length + (absorb sha1Process 64 ctx.state input).2.length ≤
      ctx.buffer.length := by
    have hle := Nat.mod_le input.length 64
    rcases hfits with rfl | hlt
    · rw [List.length_nil]
      omega
    · omega
  rw [hsplit]
  unfold updateTail
  dsimp only
  generalize absorb sha1Process 64 ctx.state input = res at *
  by_cases hnil : res.2 = []
  · rw [if_pos hnil, hnil, List.append_nil]
    exact ⟨rfl, hbuffer, hkept⟩
  · rw [if_neg hnil, length_writeAt hroom, List.length_append,
      take_writeAt (by omega), hkept]
    exact ⟨rfl, hbuffer, rfl⟩

/-- The number of bytes in the buffer. -/
theorem After.left {ctx : Sha1Context} {message : List UInt8} (h : ctx.After message) :
    (ctx.total0 &&& 0x3F).toNat = message.length % 64 := by
  have htotal := h.total
  have hand : (ctx.total0 &&& 0x3F).toNat = ctx.total0.toNat % 64 := by
    rw [UInt32.toNat_and]
    exact Nat.and_two_pow_sub_one_eq_mod _ 6
  omega

theorem After.length_rest {ctx : Sha1Context} {message : List UInt8} (_ : ctx.After message) :
    (absorb Fips.compress 64 Fips.initial message).2.length = message.length % 64 :=
  Infra.length_rest (by decide) _ _

/-- The 64-bit counter of the bytes. -/
theorem total_add {total0 total1 : UInt32} {len ilen : Nat}
    (h : 2 ^ 32 * total1.toNat + total0.toNat = len % 2 ^ 64) (hilen : ilen < 2 ^ 32) :
    2 ^ 32 * (if total0 + UInt32.ofNat ilen < UInt32.ofNat ilen then total1 + 1
      else total1).toNat + (total0 + UInt32.ofNat ilen).toNat = (len + ilen) % 2 ^ 64 := by
  have h0 := total0.toNat_lt
  have h1 := total1.toNat_lt
  have hone : (1 : UInt32).toNat = 1 := rfl
  by_cases hlt : total0 + UInt32.ofNat ilen < UInt32.ofNat ilen
  · rw [if_pos hlt]
    simp only [UInt32.lt_iff_toNat_lt, UInt32.toNat_add, UInt32.toNat_ofNat', hone] at hlt ⊢
    omega
  · rw [if_neg hlt]
    simp only [UInt32.lt_iff_toNat_lt, UInt32.toNat_add, UInt32.toNat_ofNat'] at hlt ⊢
    omega

/-- The end of an update, if the rest of it is what is left of the message. -/
theorem After.updateTail {ctx : Sha1Context} {message kept input : List UInt8}
    (htotal : 2 ^ 32 * ctx.total1.toNat + ctx.total0.toNat = message.length % 2 ^ 64)
    (hbuffer : ctx.buffer.length = 64) (hkept : ctx.buffer.take kept.length = kept)
    (hfits : kept = [] ∨ kept.length + input.length < 64)
    (hmessage : absorb Fips.compress 64 Fips.initial message =
      absorb Fips.compress 64 (Fips.words ctx.state) (kept ++ input)) :
    (ctx.updateTail kept.length input).After message := by
  obtain ⟨hstate, hlen, hrest⟩ := updateTail_absorb hbuffer hkept hfits
  rw [← hmessage] at hstate hrest
  rw [Infra.length_rest (by decide)] at hrest
  exact ⟨htotal, hlen, hstate, hrest⟩

/-- **A piece is put behind the message.** -/
theorem After.update {ctx : Sha1Context} {message input : List UInt8} (h : ctx.After message)
    (hilen : input.length < 2 ^ 32) : (ctx.update input).After (message ++ input) := by
  have hpos : (0 : Nat) < 64 := by decide
  have hlt := Nat.mod_lt message.length hpos
  have hrest := h.length_rest
  have htotal := total_add h.total hilen
  rw [← List.length_append] at htotal
  have happend := @absorb_append _ _ Fips.compress _ hpos Fips.initial message input
  rw [← h.state] at happend
  have hkept := h.rest
  rw [← hrest] at hkept
  generalize (absorb Fips.compress 64 Fips.initial message).2 = kept at *
  unfold Sha1Context.update
  by_cases hnil : input = []
  · rw [if_pos hnil, hnil, List.append_nil]
    exact h
  · rw [if_neg hnil]
    dsimp only
    rw [h.left, ← hrest]
    by_cases hfill : kept.length ≠ 0 ∧ 64 - kept.length ≤ input.length
    · -- The buffer is filled up and is a block.
      have hblock : writeAt ctx.buffer kept.length (input.take (64 - kept.length)) =
          kept ++ input.take (64 - kept.length) := by
        rw [writeAt_end (by rw [List.length_take, h.length_buffer]; omega), hkept]
      have hlen : (kept ++ input.take (64 - kept.length)).length = 64 := by
        rw [List.length_append, List.length_take]
        omega
      rw [if_pos hfill, hblock]
      refine @After.updateTail _ _ [] _ htotal hlen rfl (.inl rfl) ?_
      rw [happend, sha1Process_eq, List.nil_append, ← absorb_block_append hpos _ hlen,
        List.append_assoc, List.take_append_drop]
    · rw [if_neg hfill]
      refine After.updateTail htotal h.length_buffer hkept ?_ happend
      rcases Nat.eq_zero_or_pos kept.length with hzero | hsome
      · exact .inl (List.length_eq_zero_iff.mp hzero)
      · exact .inr (by omega)

/-- The number of bits, in two words. -/
theorem length_words {total0 total1 : UInt32} {len : Nat}
    (h : 2 ^ 32 * total1.toNat + total0.toNat = len % 2 ^ 64) :
    total0 >>> 29 ||| total1 <<< 3 = UInt32.ofNat (8 * len / 2 ^ 32) ∧
      total0 <<< 3 = UInt32.ofNat (8 * len) := by
  have h0 := total0.toNat_lt
  have h1 := total1.toNat_lt
  have hthree : (3 : UInt32).toNat % 32 = 3 := rfl
  have htop : (29 : UInt32).toNat % 32 = 29 := rfl
  constructor
  · apply UInt32.toNat_inj.mp
    have hshift : total1.toNat <<< 3 % 2 ^ 32 = (total1.toNat % 2 ^ 29) <<< 3 := by
      rw [Nat.shiftLeft_eq, Nat.shiftLeft_eq]
      omega
    rw [UInt32.toNat_or, UInt32.toNat_shiftRight, UInt32.toNat_shiftLeft, htop, hthree, hshift,
      Nat.or_comm, ← Nat.shiftLeft_add_eq_or_of_lt (by rw [Nat.shiftRight_eq_div_pow]; omega),
      Nat.shiftRight_eq_div_pow, Nat.shiftLeft_eq, UInt32.toNat_ofNat']
    omega
  · apply UInt32.toNat_inj.mp
    rw [UInt32.toNat_shiftLeft, hthree, Nat.shiftLeft_eq, UInt32.toNat_ofNat']
    omega

theorem length_wordBytesBe (x : UInt32) : (wordBytesBe x).length = 4 := rfl

/-- Both words of the length behind 56 bytes. -/
theorem writeAt_length {buffer : List UInt8} (h : buffer.length = 64) (high low : UInt32) :
    writeAt (writeAt buffer 56 (wordBytesBe high)) 60 (wordBytesBe low) =
      buffer.take 56 ++ (wordBytesBe high ++ wordBytesBe low) := by
  have hhigh := length_wordBytesBe high
  have hlow := length_wordBytesBe low
  rw [writeAt_end (by rw [length_writeAt (by omega)]; omega),
    show 60 = 56 + (wordBytesBe high).length from rfl, take_writeAt (by omega), List.append_assoc]

/-- The mark and zeros behind what is in the buffer. -/
theorem take_marked {buffer kept : List UInt8} {zeros : Nat} (hbuffer : buffer.length = 64)
    (hkept : buffer.take kept.length = kept) (hroom : kept.length + 1 + zeros ≤ 64) :
    (writeAt (writeAt buffer kept.length [0x80]) (kept.length + 1)
        (List.replicate zeros 0)).length = 64 ∧
      (writeAt (writeAt buffer kept.length [0x80]) (kept.length + 1)
        (List.replicate zeros 0)).take (kept.length + 1 + zeros) =
          kept ++ [0x80] ++ List.replicate zeros 0 := by
  have hzeros : (List.replicate zeros (0 : UInt8)).length = zeros := List.length_replicate
  have hlen : (writeAt buffer kept.length [0x80]).length = 64 := by
    rw [length_writeAt (by rw [List.length_singleton]; omega), hbuffer]
  have hmark : (writeAt buffer kept.length [0x80]).take (kept.length + 1) = kept ++ [0x80] := by
    have h := @take_writeAt buffer [0x80] kept.length (by omega)
    rwa [hkept] at h
  have htake := @take_writeAt (writeAt buffer kept.length [0x80]) (List.replicate zeros 0)
    (kept.length + 1) (by omega)
  rw [hzeros, hmark] at htake
  exact ⟨by rw [length_writeAt (by omega), hlen], htake⟩

/-- **The end of a message.** -/
theorem After.finish {ctx : Sha1Context} {message : List UInt8} (h : ctx.After message) :
    ctx.finish = Fips.sha1 message := by
  have hpos : (0 : Nat) < 64 := by decide
  have hlt := Nat.mod_lt message.length hpos
  have hrest := h.length_rest
  have hkept := h.rest
  rw [← hrest] at hkept
  obtain ⟨hhigh, hlow⟩ := length_words h.total
  have happend := @absorb_append _ _ Fips.compress _ hpos Fips.initial message
    (Fips.padding message.length)
  rw [← h.state] at happend
  generalize (absorb Fips.compress 64 Fips.initial message).2 = kept at *
  have hbytes (state : Vector UInt32 5) : (Fips.words state).bytes =
      wordBytesBe state[0] ++ wordBytesBe state[1] ++ wordBytesBe state[2] ++
        wordBytesBe state[3] ++ wordBytesBe state[4] := rfl
  have hlength : wordBytesBe (ctx.total0 >>> 29 ||| ctx.total1 <<< 3) ++
      wordBytesBe (ctx.total0 <<< 3) = Fips.lengthBytes message.length := by
    rw [hhigh, hlow]
    rfl
  have hlength8 : (Fips.lengthBytes message.length).length = 8 := rfl
  unfold Sha1Context.finish Fips.sha1
  dsimp only
  rw [h.left, ← hrest, ← hbytes, happend, Fips.padding, ← hrest]
  by_cases hfits : kept.length + 1 ≤ 56
  · -- The length fits into the block with the end of the message.
    obtain ⟨hlen, htake⟩ := @take_marked _ _ (56 - (kept.length + 1)) h.length_buffer
      hkept (by omega)
    rw [show kept.length + 1 + (56 - (kept.length + 1)) = 56 by omega] at htake
    rw [if_pos hfits]
    dsimp only
    rw [writeAt_length hlen, hlength, htake, sha1Process_eq,
      show (119 - kept.length) % 64 = 56 - (kept.length + 1) by omega]
    generalize hz : List.replicate (56 - (kept.length + 1)) (0 : UInt8) = zeros
    have hzlen : zeros.length = 56 - (kept.length + 1) := by rw [← hz, List.length_replicate]
    rw [show kept ++ ([0x80] ++ zeros ++ Fips.lengthBytes message.length) =
      kept ++ [0x80] ++ zeros ++ Fips.lengthBytes message.length by simp only [List.append_assoc],
      absorb_block hpos]
    simp only [List.length_append, List.length_singleton]
    omega
  · -- It takes another block.
    obtain ⟨hlen, htake⟩ := @take_marked _ _ (64 - (kept.length + 1)) h.length_buffer
      hkept (by omega)
    rw [show kept.length + 1 + (64 - (kept.length + 1)) = 64 by omega,
      List.take_of_length_le (by omega)] at htake
    rw [if_neg hfits]
    dsimp only
    rw [htake] at hlen ⊢
    have hclear := @take_writeAt (kept ++ [0x80] ++ List.replicate (64 - (kept.length + 1)) 0)
      (List.replicate 56 0) 0 (by omega)
    rw [List.length_replicate, Nat.zero_add, List.take_zero, List.nil_append] at hclear
    have hclearlen : (writeAt (kept ++ [0x80] ++ List.replicate (64 - (kept.length + 1)) 0) 0
        (List.replicate 56 0)).length = 64 := by
      rw [length_writeAt (by rw [List.length_replicate]; omega), hlen]
    rw [writeAt_length hclearlen, hlength, hclear, sha1Process_eq, sha1Process_eq,
      show (119 - kept.length) % 64 = 64 - (kept.length + 1) + 56 by omega,
      ← List.replicate_append_replicate]
    generalize List.replicate (64 - (kept.length + 1)) (0 : UInt8) = zeros at *
    rw [show kept ++ ([0x80] ++ (zeros ++ List.replicate 56 0) ++
        Fips.lengthBytes message.length) =
      kept ++ [0x80] ++ zeros ++ (List.replicate 56 0 ++ Fips.lengthBytes message.length) by
        simp only [List.append_assoc],
      absorb_block_append hpos _ hlen, absorb_block hpos]
    rw [List.length_append, List.length_replicate, hlength8]

theorem After.starts {ctx : Sha1Context} (h : ctx.buffer.length = 64) : ctx.starts.After [] where
  total := rfl
  length_buffer := h
  state := rfl
  rest := rfl

/-- All pieces are put behind the message. -/
theorem After.updates {ctx : Sha1Context} {message : List UInt8} (h : ctx.After message)
    {pieces : List (List UInt8)} (hpieces : ∀ piece ∈ pieces, piece.length < 2 ^ 32) :
    (pieces.foldl Sha1Context.update ctx).After (message ++ pieces.flatten) := by
  induction pieces generalizing ctx message with
  | nil =>
    rw [List.flatten_nil, List.append_nil]
    exact h
  | cons piece pieces ih =>
    rw [List.forall_mem_cons] at hpieces
    rw [List.flatten_cons, ← List.append_assoc]
    exact ih (h.update hpieces.1) hpieces.2

/-- **The digest of an input is the one of FIPS 180, whatever pieces it comes in.** -/
theorem sha1_pieces {ctx : Sha1Context} (hbuffer : ctx.buffer.length = 64)
    {pieces : List (List UInt8)} (hpieces : ∀ piece ∈ pieces, piece.length < 2 ^ 32) :
    (pieces.foldl Sha1Context.update ctx.starts).finish = Fips.sha1 pieces.flatten :=
  ((After.starts hbuffer).updates hpieces).finish

/-- "abc" in two pieces. -/
theorem sha1_pieces_abc :
    ([[0x61], [0x62, 0x63]].foldl Sha1Context.update zero.starts).finish =
      Fips.sha1 [[0x61], [0x62, 0x63]].flatten :=
  sha1_pieces rfl (by decide)

example : Fips.sha1 [0x61, 0x62, 0x63] = [0xA9, 0x99, 0x3E, 0x36, 0x47, 0x06, 0x81, 0x6A, 0xBA,
    0x3E, 0x25, 0x71, 0x78, 0x50, 0xC2, 0x6C, 0x9C, 0xD0, 0xD8, 0x9D] := by
  decide +kernel

end Sha1Context

end Wifi
