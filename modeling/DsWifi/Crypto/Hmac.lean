import DsWifi.Connect.WrappedKey
import DsWifi.Crypto.Sha1
import DsWifi.Infra.CString

/-!
# HMAC-SHA-1 and the key of a password (TWL)

`mbedtls_md_hmac_*` (`mbedtls/library/md.twl.c`), `pkcs5_pbkdf2_hmac`
(`mbedtls/library/pkcs5.twl.c`), and what `source/arm7/twl/ieee/wpa.twl.c` does with them. One
context is used again and again: it is only told the key once.

* `hmac_pieces` — HMAC of a text in any pieces
* `pbkdf2_derives` — the key that is derived from a password
-/

namespace Wifi

open Infra

/-! ## The standards -/

/-- A key of one block. -/
def keyBlock (key : List UInt8) : List UInt8 :=
  let key := if 64 < key.length then Fips.sha1 key else key
  key ++ List.replicate (64 - key.length) 0

/-- HMAC-SHA-1. -/
def hmacSha1 (key text : List UInt8) : List UInt8 :=
  Fips.sha1 (xorBytes (keyBlock key) (List.replicate 64 0x5C) ++
    Fips.sha1 (xorBytes (keyBlock key) (List.replicate 64 0x36) ++ text))

/-- A block of PBKDF2: the exclusive or of all values that the function goes through. -/
def pbkdf2Block (prf : List UInt8 → List UInt8) (salt : List UInt8) (count i : Nat) : List UInt8 :=
  ((List.range count).map fun j => prf^[j + 1] (salt ++ putUint32Be i)).foldl
    xorBytes (List.replicate 20 0)

/-- PBKDF2 with blocks of 20 bytes. -/
def pbkdf2 (prf : List UInt8 → List UInt8) (salt : List UInt8) (count keyLength : Nat) :
    List UInt8 :=
  ((List.range ((keyLength + 19) / 20)).flatMap fun i =>
    pbkdf2Block prf salt count (i + 1)).take keyLength

/-! ## HMAC -/

/-- `mbedtls_md_context_t`, with `hmac_ctx`. -/
structure HmacContext where
  md : Sha1Context
  ipad : List UInt8
  opad : List UInt8

namespace HmacContext

/-- `mbedtls_xor` on the front of a block. -/
def xorFront (block key : List UInt8) : List UInt8 := xorBytes block key ++ block.drop key.length

/-- `mbedtls_md_hmac_starts`. -/
def starts (ctx : HmacContext) (key : List UInt8) : HmacContext :=
  -- A long key is hashed, which leaves a cleared context.
  let (md, key) := if 64 < key.length then (.zero, (ctx.md.starts.update key).finish)
    else (ctx.md, key)
  let ipad := xorFront (List.replicate 64 0x36) key
  let opad := xorFront (List.replicate 64 0x5C) key
  { md := md.starts.update ipad, ipad, opad }

/-- `mbedtls_md_hmac_update`. -/
def update (ctx : HmacContext) (input : List UInt8) : HmacContext :=
  { ctx with md := ctx.md.update input }

/-- `mbedtls_md_hmac_finish`. -/
def finish (ctx : HmacContext) : List UInt8 × HmacContext :=
  let tmp := ctx.md.finish
  let md := (Sha1Context.zero.starts.update ctx.opad).update tmp
  (md.finish, { ctx with md := .zero })

/-- `mbedtls_md_hmac_reset`. -/
def reset (ctx : HmacContext) : HmacContext :=
  { ctx with md := ctx.md.starts.update ctx.ipad }

/-- What is kept of a key between texts. -/
structure Keyed (ctx : HmacContext) (key : List UInt8) : Prop where
  ipad : ctx.ipad = xorBytes (keyBlock key) (List.replicate 64 0x36)
  opad : ctx.opad = xorBytes (keyBlock key) (List.replicate 64 0x5C)
  length_buffer : ctx.md.buffer.length = 64

/-- The context after a part of a text. -/
structure After (ctx : HmacContext) (key text : List UInt8) : Prop extends Keyed ctx key where
  md : ctx.md.After (ctx.ipad ++ text)

theorem length_sha1 (message : List UInt8) : (Fips.sha1 message).length = 20 := rfl

theorem length_keyBlock (key : List UInt8) : (keyBlock key).length = 64 := by
  unfold keyBlock
  dsimp only
  split
  · rw [List.length_append, length_sha1, List.length_replicate]
  · rw [List.length_append, List.length_replicate]
    omega

/-- A key in front of a block of one byte is a key with zeros behind it. -/
theorem xorFront_replicate {key : List UInt8} (h : key.length ≤ 64) (b : UInt8) :
    xorFront (List.replicate 64 b) key =
      xorBytes (key ++ List.replicate (64 - key.length) 0) (List.replicate 64 b) := by
  have hsplit : List.replicate 64 b =
      List.replicate key.length b ++ List.replicate (64 - key.length) b := by
    rw [List.replicate_append_replicate, Nat.add_sub_cancel' h]
  have hzeros : List.zipWith (· ^^^ ·) (List.replicate (64 - key.length) 0)
      (List.replicate (64 - key.length) b) = List.replicate (64 - key.length) b := by
    rw [List.zipWith_replicate', UInt8.zero_xor]
  have hlen : key.length = (List.replicate key.length b).length := List.length_replicate.symm
  have hfront : List.zipWith (· ^^^ ·) key (List.replicate key.length b ++
      List.replicate (64 - key.length) b) =
        List.zipWith (· ^^^ ·) key (List.replicate key.length b) := by
    have happend := @List.zipWith_append _ _ _ (· ^^^ ·) key [] (List.replicate key.length b)
      (List.replicate (64 - key.length) b) hlen
    rwa [List.append_nil, List.zipWith_nil_left, List.append_nil] at happend
  rw [xorFront, xorBytes_comm, xorBytes, xorBytes, hsplit, List.drop_left' hlen.symm, hfront,
    List.zipWith_append hlen, hzeros]

/-- The pads of a key, hashed or not. -/
theorem keyed_pads {key : List UInt8} (hkey : key.length < 2 ^ 32) (ctx : HmacContext)
    (hbuffer : ctx.md.buffer.length = 64) (b : UInt8) :
    xorFront (List.replicate 64 b) (if 64 < key.length then (ctx.md.starts.update key).finish
      else key) = xorBytes (keyBlock key) (List.replicate 64 b) := by
  unfold keyBlock
  dsimp only
  split
  · rename_i hlong
    have hdigest : (ctx.md.starts.update key).finish = Fips.sha1 key :=
      ((Sha1Context.After.starts hbuffer).update hkey).finish
    rw [hdigest, xorFront_replicate (by rw [length_sha1]; decide)]
  · rename_i hshort
    exact xorFront_replicate (by omega) b

theorem length_pad (key : List UInt8) (b : UInt8) :
    (xorBytes (keyBlock key) (List.replicate 64 b)).length = 64 := by
  rw [length_xorBytes, length_keyBlock, List.length_replicate]
  rfl

/-- One more piece behind a message. -/
theorem after_starts_update {md : Sha1Context} (hbuffer : md.buffer.length = 64)
    {input : List UInt8} (hinput : input.length < 2 ^ 32) : (md.starts.update input).After input :=
  (Sha1Context.After.starts hbuffer).update hinput

/-- **The context is told the key.** -/
theorem After.starts {ctx : HmacContext} (hbuffer : ctx.md.buffer.length = 64) {key : List UInt8}
    (hkey : key.length < 2 ^ 32) : (ctx.starts key).After key [] := by
  have hipad := keyed_pads hkey ctx hbuffer 0x36
  have hopad := keyed_pads hkey ctx hbuffer 0x5C
  have hlen := length_pad key 0x36
  unfold HmacContext.starts
  by_cases hlong : 64 < key.length
  · rw [if_pos hlong] at hipad hopad
    rw [if_pos hlong]
    dsimp only
    rw [hipad, hopad]
    have hmd : (Sha1Context.zero.starts.update (xorBytes (keyBlock key)
        (List.replicate 64 0x36))).After _ := after_starts_update rfl (by omega)
    exact ⟨⟨rfl, rfl, hmd.length_buffer⟩, by rwa [List.append_nil]⟩
  · rw [if_neg hlong] at hipad hopad
    rw [if_neg hlong]
    dsimp only
    rw [hipad, hopad]
    have hmd : (ctx.md.starts.update (xorBytes (keyBlock key)
        (List.replicate 64 0x36))).After _ := after_starts_update hbuffer (by omega)
    exact ⟨⟨rfl, rfl, hmd.length_buffer⟩, by rwa [List.append_nil]⟩

variable {ctx : HmacContext} {key text : List UInt8}

theorem After.update (h : ctx.After key text) {piece : List UInt8}
    (hpiece : piece.length < 2 ^ 32) : (ctx.update piece).After key (text ++ piece) := by
  have hmd := h.md.update hpiece
  rw [List.append_assoc] at hmd
  exact ⟨⟨h.ipad, h.opad, hmd.length_buffer⟩, hmd⟩

/-- **The end of a text**: its HMAC, and the key is still there. -/
theorem After.finish (h : ctx.After key text) :
    ctx.finish.1 = hmacSha1 key text ∧ ctx.finish.2.Keyed key := by
  have hlen : ctx.opad.length < 2 ^ 32 := by
    rw [h.opad, length_pad]
    decide
  have hinner : ctx.md.finish = Fips.sha1 (ctx.ipad ++ text) := h.md.finish
  have houter : ((Sha1Context.zero.starts.update ctx.opad).update ctx.md.finish).After
      (ctx.opad ++ ctx.md.finish) :=
    (after_starts_update rfl hlen).update (by rw [hinner, length_sha1]; decide)
  refine ⟨?_, h.ipad, h.opad, rfl⟩
  rw [hmacSha1, ← h.opad, ← h.ipad, ← hinner]
  exact houter.finish

theorem Keyed.reset (h : ctx.Keyed key) : ctx.reset.After key [] := by
  have hlen : ctx.ipad.length < 2 ^ 32 := by
    rw [h.ipad, length_pad]
    decide
  have hmd : (ctx.md.starts.update ctx.ipad).After ctx.ipad :=
    after_starts_update h.length_buffer hlen
  exact ⟨⟨h.ipad, h.opad, hmd.length_buffer⟩, by rwa [List.append_nil]⟩

/-- **HMAC of a text, whatever pieces it comes in.** -/
theorem hmac_pieces {ctx : HmacContext} (hbuffer : ctx.md.buffer.length = 64) {key : List UInt8}
    (hkey : key.length < 2 ^ 32) {pieces : List (List UInt8)}
    (hpieces : ∀ piece ∈ pieces, piece.length < 2 ^ 32) :
    (pieces.foldl update (ctx.starts key)).finish.1 = hmacSha1 key pieces.flatten := by
  have hupdates {ctx : HmacContext} {text : List UInt8} (h : ctx.After key text) :
      (pieces.foldl update ctx).After key (text ++ pieces.flatten) := by
    induction pieces generalizing ctx text with
    | nil =>
      rw [List.flatten_nil, List.append_nil]
      exact h
    | cons piece pieces ih =>
      rw [List.forall_mem_cons] at hpieces
      rw [List.flatten_cons, ← List.append_assoc]
      exact ih hpieces.2 (h.update hpieces.1)
  exact (hupdates (.starts hbuffer hkey)).finish.1

theorem hmac_pieces_two : ([[0x61], [0x62, 0x63]].foldl update
    ((⟨.zero, [], []⟩ : HmacContext).starts [0x6B])).finish.1 =
      hmacSha1 [0x6B] [[0x61], [0x62, 0x63]].flatten :=
  hmac_pieces rfl (by decide) (by decide)

end HmacContext

/-! ## PBKDF2 -/

/-- `++counter[i - 1]`, beginning with the last byte, until one isn't zero. -/
def countUp : List UInt8 → List UInt8
  | [] => []
  | b :: bytes => if b + 1 ≠ 0 then (b + 1) :: bytes else 0 :: countUp bytes

/-- The next `counter`. -/
def nextCounter (counter : List UInt8) : List UInt8 := (countUp counter.reverse).reverse

/-- `ctx`, `md1` and `work`. -/
structure Pbkdf2 where
  ctx : HmacContext
  md1 : List UInt8
  work : List UInt8

namespace Pbkdf2

/-- The first value of a block. -/
def first (ctx : HmacContext) (salt counter : List UInt8) : Pbkdf2 :=
  let (work, ctx) := ((ctx.update salt).update counter).finish
  ⟨ctx.reset, work, work⟩

/-- The next value of a block. -/
def next (s : Pbkdf2) : Pbkdf2 :=
  let (md1, ctx) := (s.ctx.update s.md1).finish
  ⟨ctx.reset, md1, xorBytes s.work md1⟩

/-- `while (key_length)`. -/
def loop (salt : List UInt8) (iterationCount keyLength : Nat) (ctx : HmacContext)
    (counter out : List UInt8) : List UInt8 :=
  if keyLength = 0 then out
  else
    let s := (List.range (iterationCount - 1)).foldl (fun s _ => s.next) (first ctx salt counter)
    let useLen := if keyLength < 20 then keyLength else 20
    loop salt iterationCount (keyLength - useLen) s.ctx (nextCounter counter)
      (out ++ s.work.take useLen)
termination_by keyLength
decreasing_by
  rename_i hne
  split <;> omega

end Pbkdf2

/-- `pkcs5_pbkdf2_hmac` with SHA-1. -/
def pkcs5Pbkdf2Hmac (ctx : HmacContext) (password salt : List UInt8)
    (iterationCount keyLength : Nat) : List UInt8 :=
  Pbkdf2.loop salt iterationCount keyLength (ctx.starts password) [0, 0, 0, 1] []

theorem length_countUp (bytes : List UInt8) : (countUp bytes).length = bytes.length := by
  induction bytes with
  | nil => rfl
  | cons b bytes ih =>
    rw [countUp]
    split
    · rfl
    · rw [List.length_cons, ih, List.length_cons]

/-- The bytes count, low byte first. -/
theorem beNumber_countUp (bytes : List UInt8) : beNumber (countUp bytes).reverse =
    (beNumber bytes.reverse + 1) % 2 ^ (8 * bytes.length) := by
  induction bytes with
  | nil => rfl
  | cons b bytes ih =>
    have hlt := beNumber_lt bytes.reverse
    have hb := b.toNat_lt
    rw [List.length_reverse] at hlt
    rw [countUp, @List.reverse_cons _ b bytes, beNumber_concat, List.length_cons, Nat.mul_add 8,
      Nat.pow_add, Nat.mul_one]
    by_cases hzero : b + 1 = 0
    · have hmax : b.toNat = 255 := by
        have hsum := congrArg UInt8.toNat hzero
        rw [UInt8.toNat_add] at hsum
        change (b.toNat + 1) % 2 ^ 8 = 0 at hsum
        omega
      rw [if_neg (not_not_intro hzero), List.reverse_cons, beNumber_concat, ih, hmax,
        Nat.mul_comm (2 ^ (8 * bytes.length)), ← Nat.mul_mod_mul_left]
      rfl
    · have hnext : (b + 1).toNat = b.toNat + 1 := by
        have hne : (b + 1).toNat ≠ 0 := fun h => hzero (UInt8.toNat_inj.mp h)
        rw [UInt8.toNat_add] at hne ⊢
        change (b.toNat + 1) % 2 ^ 8 ≠ 0 at hne
        change (b.toNat + 1) % 2 ^ 8 = b.toNat + 1
        omega
      have hlast := (b + 1).toNat_lt
      rw [if_pos hzero, List.reverse_cons, beNumber_concat, hnext, ← Nat.add_assoc,
        Nat.mod_eq_of_lt]
      omega

/-- **The counter counts.** -/
theorem nextCounter_putUint32Be (n : Nat) :
    nextCounter (putUint32Be n) = putUint32Be (n + 1) := by
  have hback := beBytes_beNumber (nextCounter (putUint32Be n))
  have hlen : (nextCounter (putUint32Be n)).length = 4 := by
    rw [nextCounter, List.length_reverse, length_countUp, List.length_reverse, length_putUint32Be]
  have hnumber : beNumber (putUint32Be n) = n % 2 ^ 32 := by
    rw [putUint32Be, ← beBytes_mod]
    exact beNumber_beBytes (Nat.mod_lt _ (Nat.two_pow_pos _))
  rw [hlen, nextCounter, beNumber_countUp, List.reverse_reverse, List.length_reverse,
    length_putUint32Be, beBytes_mod, hnumber] at hback
  rw [nextCounter, ← hback, putUint32Be, ← beBytes_mod 4 (n + 1), ← beBytes_mod]
  congr 1
  omega

namespace Pbkdf2

variable {key salt : List UInt8}

theorem length_hmacSha1 (key text : List UInt8) : (hmacSha1 key text).length = 20 := rfl

/-- The context has been told the key, and these are the last value and all of them together. -/
structure Holds (key x : List UInt8) (k : Nat) (s : Pbkdf2) : Prop where
  ctx : s.ctx.After key []
  md1 : s.md1 = (hmacSha1 key)^[k + 1] x
  work : s.work = ((List.range (k + 1)).map fun j => (hmacSha1 key)^[j + 1] x).foldl xorBytes
    (List.replicate 20 0)

theorem holds_first {ctx : HmacContext} (hctx : ctx.After key []) (hsalt : salt.length < 2 ^ 32)
    (i : Nat) : Holds key (salt ++ putUint32Be i) 0 (first ctx salt (putUint32Be i)) := by
  have htext : ((ctx.update salt).update (putUint32Be i)).After key (salt ++ putUint32Be i) :=
    (hctx.update hsalt).update (by
      rw [length_putUint32Be]
      decide)
  obtain ⟨hvalue, hkeyed⟩ := htext.finish
  refine ⟨hkeyed.reset, hvalue, ?_⟩
  have hzeros := xorBytes_zeros (hmacSha1 key (salt ++ putUint32Be i))
  rw [length_hmacSha1] at hzeros
  exact hvalue.trans hzeros.symm

theorem length_iterate (key x : List UInt8) (k : Nat) : ((hmacSha1 key)^[k + 1] x).length = 20 := by
  rw [Function.iterate_succ_apply', length_hmacSha1]

/-- **One more value of a block.** -/
theorem Holds.next {s : Pbkdf2} {x : List UInt8} {k : Nat} (h : Holds key x k s) :
    Holds key x (k + 1) s.next := by
  have hmd1 : s.md1.length < 2 ^ 32 := by
    rw [h.md1, length_iterate]
    decide
  obtain ⟨hvalue, hkeyed⟩ := (h.ctx.update hmd1).finish
  have hvalue' : s.next.md1 = (hmacSha1 key)^[k + 2] x := by
    rw [Function.iterate_succ_apply', ← h.md1]
    exact hvalue
  refine ⟨hkeyed.reset, hvalue', ?_⟩
  rw [List.range_succ, List.map_append, List.foldl_append, ← h.work, List.map_singleton, ← hvalue']
  rfl

/-- All values of a block. -/
theorem holds_block {ctx : HmacContext} (hctx : ctx.After key []) (hsalt : salt.length < 2 ^ 32)
    (i k : Nat) : Holds key (salt ++ putUint32Be i) k
      ((List.range k).foldl (fun s _ => s.next) (first ctx salt (putUint32Be i))) := by
  induction k with
  | zero => exact holds_first hctx hsalt i
  | succ k ih =>
    rw [List.range_succ, List.foldl_append]
    exact ih.next

theorem length_pbkdf2Block (count i : Nat) :
    (pbkdf2Block (hmacSha1 key) salt count i).length = 20 := by
  unfold pbkdf2Block
  have hall (values : List (List UInt8)) (hvalues : ∀ v ∈ values, v.length = 20)
      {start : List UInt8} (hstart : start.length = 20) :
      (values.foldl xorBytes start).length = 20 := by
    induction values generalizing start with
    | nil => exact hstart
    | cons v values ih =>
      rw [List.forall_mem_cons] at hvalues
      refine ih hvalues.2 ?_
      rw [length_xorBytes, hstart, hvalues.1]
      rfl
  refine hall _ (fun v hv => ?_) List.length_replicate
  obtain ⟨j, -, rfl⟩ := List.mem_map.mp hv
  exact length_iterate _ _ _

/-- **The loop puts one block behind the other.** -/
theorem loop_eq {count : Nat} (hcount : 0 < count) (hsalt : salt.length < 2 ^ 32) (keyLength : Nat)
    {ctx : HmacContext} (hctx : ctx.After key []) (i : Nat) (out : List UInt8) :
    loop salt count keyLength ctx (putUint32Be (i + 1)) out =
      out ++ ((List.range ((keyLength + 19) / 20)).flatMap fun j =>
        pbkdf2Block (hmacSha1 key) salt count (i + j + 1)).take keyLength := by
  induction hlen : keyLength using Nat.strongRecOn generalizing ctx i out keyLength with
  | ind n ih =>
    subst hlen
    rw [loop]
    by_cases hzero : keyLength = 0
    · rw [if_pos hzero, hzero, List.take_zero, List.append_nil]
    · rw [if_neg hzero]
      dsimp only
      obtain ⟨hctx', -, hwork⟩ := holds_block hctx hsalt (i + 1) (count - 1)
      rw [Nat.sub_add_cancel hcount] at hwork
      have hblock : _ = pbkdf2Block (hmacSha1 key) salt count (i + 1) := hwork
      have hlength := @length_pbkdf2Block key salt count (i + 1)
      let useLen := if keyLength < 20 then keyLength else 20
      have huse : keyLength - useLen = keyLength - 20 := by
        unfold useLen
        split <;> omega
      have htake : (pbkdf2Block (hmacSha1 key) salt count (i + 1)).take useLen =
          (pbkdf2Block (hmacSha1 key) salt count (i + 1)).take keyLength := by
        unfold useLen
        split
        · rfl
        · rw [List.take_of_length_le (by omega), List.take_of_length_le (by omega)]
      have hcountdown : (keyLength + 19) / 20 = (keyLength - 20 + 19) / 20 + 1 := by omega
      have hrest (j : Nat) : i + (j + 1) + 1 = i + 1 + j + 1 := by omega
      rw [nextCounter_putUint32Be, hblock, ih _ (show keyLength - useLen < keyLength by
        unfold useLen; split <;> omega) _ hctx' _ _ rfl, huse, hcountdown, List.range_succ_eq_map,
        List.flatMap_cons, List.flatMap_map, List.take_append, hlength, List.append_assoc]
      simp only [Nat.add_zero, Nat.succ_eq_add_one, hrest]
      exact congrArg (fun block => out ++ (block ++ _)) htake

end Pbkdf2

theorem pkcs5Pbkdf2Hmac_eq {ctx : HmacContext} (hbuffer : ctx.md.buffer.length = 64)
    {password salt : List UInt8} (hpassword : password.length < 2 ^ 32)
    (hsalt : salt.length < 2 ^ 32) {iterationCount : Nat} (hcount : 0 < iterationCount)
    (keyLength : Nat) : pkcs5Pbkdf2Hmac ctx password salt iterationCount keyLength =
      pbkdf2 (hmacSha1 password) salt iterationCount keyLength := by
  have hloop := Pbkdf2.loop_eq hcount hsalt keyLength
    (HmacContext.After.starts hbuffer hpassword) 0 []
  simp only [Nat.zero_add] at hloop
  exact hloop

/-! ## What the driver does -/

/-- `mbedtls_md_setup`. -/
def HmacContext.setup : HmacContext := ⟨.zero, List.replicate 64 0, List.replicate 64 0⟩

/-- `PBKDF2_HMAC_SHA_1`. Password and salt are strings. -/
def pbkdf2HmacSha1 (pass salt : List UInt8) (iterations outputBytes : Nat) : List UInt8 :=
  pkcs5Pbkdf2Hmac .setup (pass.take (strlen pass)) (salt.take (strlen salt)) iterations outputBytes

/-- `wpa_calc_pmk`. -/
def wpaCalcPmk (ssid pass : List UInt8) : List UInt8 := pbkdf2HmacSha1 pass ssid 4096 32

/-- **A key is derived from a password as PBKDF2 says**, for every length of it and every number of
iterations. The one of a network has 32 bytes, after 4096 iterations with the SSID for salt. -/
theorem pbkdf2_derives :
    (∀ (ctx : HmacContext) (password salt : List UInt8) (iterationCount keyLength : Nat),
      ctx.md.buffer.length = 64 → password.length < 2 ^ 32 → salt.length < 2 ^ 32 →
      0 < iterationCount →
      pkcs5Pbkdf2Hmac ctx password salt iterationCount keyLength =
        pbkdf2 (hmacSha1 password) salt iterationCount keyLength) ∧
    ∀ ssid pass : List UInt8, strlen ssid < 2 ^ 32 → strlen pass < 2 ^ 32 →
      wpaCalcPmk ssid pass =
        pbkdf2 (hmacSha1 (pass.take (strlen pass))) (ssid.take (strlen ssid)) 4096 32 := by
  constructor
  · intro ctx password salt iterationCount keyLength hbuffer hpassword hsalt hcount
    exact pkcs5Pbkdf2Hmac_eq hbuffer hpassword hsalt hcount keyLength
  · intro ssid pass hssid hpass
    exact pkcs5Pbkdf2Hmac_eq rfl ((List.length_take_le _ pass).trans_lt hpass)
      ((List.length_take_le _ ssid).trans_lt hssid) (by decide) 32

/-- A passphrase for "IEEE". -/
theorem pbkdf2_derives_pmk : wpaCalcPmk [0x49, 0x45, 0x45, 0x45, 0] [0x70, 0x77, 0] =
    pbkdf2 (hmacSha1 [0x70, 0x77]) [0x49, 0x45, 0x45, 0x45] 4096 32 :=
  pbkdf2_derives.2 _ _ (by decide) (by decide)

theorem length_finish (ctx : HmacContext) : ctx.finish.1.length = 20 := rfl

/-- `sha1_hmac`. -/
def sha1Hmac (key input : List UInt8) : Vector UInt8 20 :=
  ⟨(((HmacContext.setup.starts key).update input).finish.1).toArray, length_finish _⟩

theorem toList_sha1Hmac {key input : List UInt8} (hkey : key.length < 2 ^ 32)
    (hinput : input.length < 2 ^ 32) : (sha1Hmac key input).toList = hmacSha1 key input :=
  ((HmacContext.After.starts rfl hkey).update hinput).finish.1

/-- The cryptography of the driver, with the block cipher as a parameter. -/
def Crypto.device (dec : List UInt8 → CipherUpdate) : Crypto :=
  .ofCipher Wifi.sha1Hmac dec

/-- The MIC of an answer. -/
theorem wpaCalcMic_device (dec : List UInt8 → CipherUpdate) {kck data : List UInt8}
    (hkck : kck.length < 2 ^ 32) (hdata : data.length < 2 ^ 32) :
    (Crypto.device dec).wpaCalcMic kck data = (hmacSha1 kck data).take 16 :=
  congrArg (List.take 16) (toList_sha1Hmac hkck hdata)

end Wifi
