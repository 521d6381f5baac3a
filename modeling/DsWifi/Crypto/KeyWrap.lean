import DsWifi.Common.Shared
import DsWifi.Crypto.Bytes
import DsWifi.Infra.Undo
import Mathlib.Data.List.GetD

/-!
# Key wrap

`mbedtls_nist_kw_wrap` and `mbedtls_nist_kw_unwrap` (`mbedtls/library/nist_kw.twl.c`), with both of
their modes. The block cipher is a parameter and may fail. A message is an array of semiblocks: one
is mixed with a first semiblock, the next one with what comes out of that, six times around the
array. Unwrapping goes around the other way.

* `nistKwUnwrap_nistKwWrap` — what is wrapped is unwrapped again
* `nistKwUnwrap_authentic` — what is unwrapped has been wrapped, and nothing else comes out
-/

namespace Wifi

open Infra

/-! ## Semiblocks -/

/-- `KW_SEMIBLOCK_LENGTH` bytes. -/
abbrev Semiblock := Vector UInt8 8

def Semiblock.zero : Semiblock := Vector.replicate 8 0

/-- The semiblocks in an array of bytes. -/
def semiblocksOf : List UInt8 → List Semiblock
  | b₀ :: b₁ :: b₂ :: b₃ :: b₄ :: b₅ :: b₆ :: b₇ :: rest =>
    #v[b₀, b₁, b₂, b₃, b₄, b₅, b₆, b₇] :: semiblocksOf rest
  | _ => []

/-- Semiblocks as they lie in memory. -/
def semiblockBytes (r : List Semiblock) : List UInt8 := r.flatMap Vector.toList

@[simp] theorem semiblockBytes_cons (b : Semiblock) (r : List Semiblock) :
    semiblockBytes (b :: r) = b.toList ++ semiblockBytes r := List.flatMap_cons

@[simp] theorem length_semiblockBytes (r : List Semiblock) :
    (semiblockBytes r).length = 8 * r.length := by
  induction r with
  | nil => rfl
  | cons b r ih =>
    rw [semiblockBytes_cons, List.length_append, ih, Vector.length_toList, List.length_cons]
    omega

theorem semiblocksOf_append (b : Semiblock) (bytes : List UInt8) :
    semiblocksOf (b.toList ++ bytes) = b :: semiblocksOf bytes := by
  obtain ⟨⟨l⟩, hl⟩ := b
  match l, hl with
  | [b₀, b₁, b₂, b₃, b₄, b₅, b₆, b₇], _ => rfl

theorem semiblocksOf_semiblockBytes (r : List Semiblock) : semiblocksOf (semiblockBytes r) = r := by
  induction r with
  | nil => rfl
  | cons b r ih => rw [semiblockBytes_cons, semiblocksOf_append, ih]

/-- Bytes that are whole semiblocks. -/
theorem semiblockBytes_semiblocksOf {bytes : List UInt8} (h : bytes.length % 8 = 0) :
    semiblockBytes (semiblocksOf bytes) = bytes := by
  induction bytes using semiblocksOf.induct with
  | case1 b₀ b₁ b₂ b₃ b₄ b₅ b₆ b₇ rest ih =>
    have hrest : rest.length % 8 = 0 := by
      simp only [List.length_cons] at h
      omega
    rw [semiblocksOf, semiblockBytes_cons, ih hrest]
    rfl
  | case2 bytes hshort =>
    match bytes, hshort with
    | [], _ => rfl
    | [_], _ | [_, _], _ | [_, _, _], _ | [_, _, _, _], _ | [_, _, _, _, _], _
    | [_, _, _, _, _, _], _ | [_, _, _, _, _, _, _], _ => simp at h
    | b₀ :: b₁ :: b₂ :: b₃ :: b₄ :: b₅ :: b₆ :: b₇ :: rest, hshort =>
      exact absurd rfl (hshort b₀ b₁ b₂ b₃ b₄ b₅ b₆ b₇ rest)

theorem length_semiblocksOf {bytes : List UInt8} (h : bytes.length % 8 = 0) :
    8 * (semiblocksOf bytes).length = bytes.length := by
  rw [← length_semiblockBytes, semiblockBytes_semiblocksOf h]

/-! ## The cipher -/

/-- A status other than success. -/
abbrev CipherError := { ret : Int // ret ≠ 0 }

/-- `mbedtls_cipher_update` for one block, which is two semiblocks. -/
abbrev CipherUpdate := Semiblock × Semiblock → Except CipherError (Semiblock × Semiblock)

/-- `dec` takes back what `enc` does. -/
def Decrypts (dec enc : CipherUpdate) : Prop := ∀ x y, enc x = .ok y → dec y = .ok x

/-- `MBEDTLS_ERR_CIPHER_BAD_INPUT_DATA`. -/
def mbedtlsErrCipherBadInputData : CipherError := ⟨-0x6100, by decide⟩

/-- `MBEDTLS_ERR_CIPHER_AUTH_FAILED`. -/
def mbedtlsErrCipherAuthFailed : CipherError := ⟨-0x6300, by decide⟩

/-- `mbedtls_nist_kw_mode_t`. -/
inductive KwMode
  | kw
  | kwp
  deriving DecidableEq, Repr

/-- `NIST_KW_ICV1`. -/
def nistKwIcv1 : Semiblock := Vector.replicate 8 0xA6

/-- `NIST_KW_ICV2`. -/
def nistKwIcv2 : List UInt8 := [0xA6, 0x59, 0x59, 0xA6]

/-- `MIN_SEMIBLOCKS_COUNT`. -/
def minSemiblocksCount : Nat := 3

/-- `calc_a_xor_t`. -/
def calcAXorT (a : Semiblock) (t : Nat) : Semiblock :=
  Vector.ofFn fun i => a[i] ^^^ UInt8.ofNat (t / 2 ^ ((7 - i.val) * 8))

@[simp] theorem calcAXorT_calcAXorT (a : Semiblock) (t : Nat) :
    calcAXorT (calcAXorT a t) t = a := by
  refine Vector.ext fun i hi => ?_
  simp only [calcAXorT, Vector.getElem_ofFn, Fin.getElem_fin]
  rw [UInt8.xor_assoc, UInt8.xor_self, UInt8.xor_zero]

/-! ## The loops -/

/-- The first semiblock, the others, and which of them the pointer points to. -/
structure KwLoop where
  a : Semiblock
  r : List Semiblock
  pos : Nat

/-- The body of the loop of `mbedtls_nist_kw_wrap`. -/
def kwWrapStep (enc : CipherUpdate) (s : KwLoop) (t : Nat) : Except CipherError KwLoop := do
  let outbuff ← enc (s.a, s.r.getD s.pos .zero)
  return {
    a := calcAXorT outbuff.1 t
    r := s.r.set s.pos outbuff.2
    pos := if s.r.length ≤ s.pos + 1 then 0 else s.pos + 1 }

/-- The body of the loop of `unwrap`. -/
def kwUnwrapStep (dec : CipherUpdate) (s : KwLoop) (t : Nat) : Except CipherError KwLoop := do
  let outbuff ← dec (calcAXorT s.a t, s.r.getD s.pos .zero)
  return {
    a := outbuff.1
    r := s.r.set s.pos outbuff.2
    pos := if s.pos = 0 then s.r.length - 1 else s.pos - 1 }

/-- The values of `t`, for this many semiblocks besides the first. -/
def kwTimes (n : Nat) : List Nat := List.range' 1 (6 * n)

/-- The loop of `mbedtls_nist_kw_wrap`. -/
def kwWrapLoop (enc : CipherUpdate) (a : Semiblock) (r : List Semiblock) :
    Except CipherError KwLoop :=
  (kwTimes r.length).foldlM (kwWrapStep enc) ⟨a, r, 0⟩

/-- The loop of `unwrap`. -/
def kwUnwrapLoop (dec : CipherUpdate) (a : Semiblock) (r : List Semiblock) :
    Except CipherError KwLoop :=
  (kwTimes r.length).reverse.foldlM (kwUnwrapStep dec) ⟨a, r, r.length - 1⟩

/-- The pointer points into the array, which keeps its length. -/
def KwLoop.Inside (n : Nat) (s : KwLoop) : Prop := s.r.length = n ∧ s.pos < n

/-- The same semiblocks, with the second pointer right before the first. -/
def KwLoop.Behind (s t : KwLoop) : Prop :=
  t.a = s.a ∧ t.r = s.r ∧ t.pos = if s.pos = 0 then s.r.length - 1 else s.pos - 1

section

variable {enc dec : CipherUpdate} {n t : Nat} {s s' u' : KwLoop}

theorem kwWrapStep_eq_ok : kwWrapStep enc s t = .ok s' ↔
    ∃ outbuff, enc (s.a, s.r.getD s.pos .zero) = .ok outbuff ∧
      s' = ⟨calcAXorT outbuff.1 t, s.r.set s.pos outbuff.2,
        if s.r.length ≤ s.pos + 1 then 0 else s.pos + 1⟩ := by
  unfold kwWrapStep
  cases enc (s.a, s.r.getD s.pos .zero) with
  | error e => exact ⟨nofun, fun ⟨_, h, _⟩ => nomatch h⟩
  | ok outbuff =>
    exact ⟨fun h => ⟨outbuff, rfl, (Except.ok.inj h).symm⟩,
      fun ⟨_, h, hs⟩ => by rw [hs, ← Except.ok.inj h]; rfl⟩

theorem kwUnwrapStep_eq_ok : kwUnwrapStep dec s t = .ok s' ↔
    ∃ outbuff, dec (calcAXorT s.a t, s.r.getD s.pos .zero) = .ok outbuff ∧
      s' = ⟨outbuff.1, s.r.set s.pos outbuff.2,
        if s.pos = 0 then s.r.length - 1 else s.pos - 1⟩ := by
  unfold kwUnwrapStep
  cases dec (calcAXorT s.a t, s.r.getD s.pos .zero) with
  | error e => exact ⟨nofun, fun ⟨_, h, _⟩ => nomatch h⟩
  | ok outbuff =>
    exact ⟨fun h => ⟨outbuff, rfl, (Except.ok.inj h).symm⟩,
      fun ⟨_, h, hs⟩ => by rw [hs, ← Except.ok.inj h]; rfl⟩

theorem inside_kwWrapStep (hs : s.Inside n) (h : kwWrapStep enc s t = .ok s') : s'.Inside n := by
  obtain ⟨outbuff, -, rfl⟩ := kwWrapStep_eq_ok.mp h
  obtain ⟨hlen, hpos⟩ := hs
  refine ⟨(List.length_set ..).trans hlen, ?_⟩
  dsimp only
  split <;> omega

theorem inside_kwUnwrapStep (hs : s.Inside n) (h : kwUnwrapStep dec s t = .ok s') :
    s'.Inside n := by
  obtain ⟨outbuff, -, rfl⟩ := kwUnwrapStep_eq_ok.mp h
  obtain ⟨hlen, hpos⟩ := hs
  refine ⟨(List.length_set ..).trans hlen, ?_⟩
  dsimp only
  split <;> omega

theorem getD_set_self {r : List Semiblock} {pos : Nat} (h : pos < r.length) (b d : Semiblock) :
    (r.set pos b).getD pos d = b := by
  rw [List.getD_eq_getElem _ _ (by rwa [List.length_set]), List.getElem_set_self]

theorem set_getD_self {r : List Semiblock} {pos : Nat} (h : pos < r.length) (b d : Semiblock) :
    (r.set pos b).set pos (r.getD pos d) = r := by
  rw [List.set_set, List.getD_eq_getElem _ _ h, List.set_getElem_self]

/-- **A step of `unwrap` takes back the step of the other loop with the same `t`.** -/
theorem kwUnwrapStep_undo (hdec : Decrypts dec enc) (hs : s.Inside n)
    (h : kwWrapStep enc s t = .ok s') (hbehind : s'.Behind u') :
    ∃ u, kwUnwrapStep dec u' t = .ok u ∧ s.Behind u := by
  obtain ⟨outbuff, henc, rfl⟩ := kwWrapStep_eq_ok.mp h
  obtain ⟨hlen, hpos⟩ := hs
  obtain ⟨ha, hr, hpos'⟩ := hbehind
  have hsame : u'.pos = s.pos := by
    dsimp only at hpos'
    rw [hpos', List.length_set]
    split <;> split <;> omega
  rw [← hlen] at hpos
  have hback : dec (calcAXorT u'.a t, u'.r.getD u'.pos .zero) =
      .ok (s.a, s.r.getD s.pos .zero) := by
    rw [ha, hr, hsame, calcAXorT_calcAXorT, getD_set_self hpos]
    exact hdec _ _ henc
  refine ⟨_, kwUnwrapStep_eq_ok.mpr ⟨_, hback, rfl⟩, rfl, ?_, ?_⟩
  · rw [hr, hsame, set_getD_self hpos]
  · rw [hr, hsame, List.length_set]

/-- **A step of `mbedtls_nist_kw_wrap` takes back a step of `unwrap`.** -/
theorem kwWrapStep_undo (henc : Decrypts enc dec) (hs : s.Inside n)
    (h : kwUnwrapStep dec s t = .ok s') (hu' : u'.Behind s' ∧ u'.Inside n) :
    ∃ u, kwWrapStep enc u' t = .ok u ∧ u.Behind s ∧ u.Inside n := by
  obtain ⟨outbuff, hdec, rfl⟩ := kwUnwrapStep_eq_ok.mp h
  obtain ⟨hlen, hpos⟩ := hs
  obtain ⟨⟨ha, hr, hpos'⟩, hlen', hinside⟩ := hu'
  have hsame : u'.pos = s.pos := by
    dsimp only at hpos'
    split at hpos' <;> split at hpos' <;> omega
  rw [← hlen] at hpos
  have hback : enc (u'.a, u'.r.getD u'.pos .zero) =
      .ok (calcAXorT s.a t, s.r.getD s.pos .zero) := by
    rw [← ha, ← hr, hsame, getD_set_self hpos]
    exact henc _ _ hdec
  refine ⟨_, kwWrapStep_eq_ok.mpr ⟨_, hback, rfl⟩, ⟨?_, ?_, ?_⟩, ?_, ?_⟩
  · exact (calcAXorT_calcAXorT _ _).symm
  · rw [← hr, hsame, set_getD_self hpos]
  · rw [← hr, hsame, set_getD_self hpos, List.length_set]
    dsimp only
    clear hpos' hsame
    split <;> split <;> omega
  · rw [List.length_set]
    exact hlen'
  · dsimp only
    split <;> omega

/-- Where the pointer is after some steps around the array. -/
theorem pos_foldlM_kwWrapStep {ts : List Nat} (hs : s.Inside n)
    (h : ts.foldlM (kwWrapStep enc) s = .ok s') : s'.pos = (s.pos + ts.length) % n := by
  induction ts generalizing s with
  | nil => rw [← Except.ok.inj h, List.length_nil, Nat.add_zero, Nat.mod_eq_of_lt hs.2]
  | cons t ts ih =>
    obtain ⟨u, hstep, hrest⟩ := foldlM_cons_eq_ok.mp h
    have hnext : u.pos = (s.pos + 1) % n := by
      obtain ⟨outbuff, -, rfl⟩ := kwWrapStep_eq_ok.mp hstep
      obtain ⟨hlen, hpos⟩ := hs
      dsimp only
      split
      · rw [show s.pos + 1 = n by omega, Nat.mod_self]
      · rw [Nat.mod_eq_of_lt (by omega)]
    rw [ih (inside_kwWrapStep hs hstep) hrest, hnext, Nat.mod_add_mod, List.length_cons]
    congr 1
    omega

theorem pos_foldlM_kwUnwrapStep {ts : List Nat} (hs : s.Inside n)
    (h : ts.foldlM (kwUnwrapStep dec) s = .ok s') : s.pos = (s'.pos + ts.length) % n := by
  induction ts generalizing s with
  | nil => rw [← Except.ok.inj h, List.length_nil, Nat.add_zero, Nat.mod_eq_of_lt hs.2]
  | cons t ts ih =>
    obtain ⟨u, hstep, hrest⟩ := foldlM_cons_eq_ok.mp h
    have hprev : s.pos = (u.pos + 1) % n := by
      obtain ⟨outbuff, -, rfl⟩ := kwUnwrapStep_eq_ok.mp hstep
      obtain ⟨hlen, hpos⟩ := hs
      dsimp only
      split
      · rw [show s.r.length - 1 + 1 = n by omega, Nat.mod_self]
        assumption
      · rw [Nat.mod_eq_of_lt (by omega)]
        omega
    rw [hprev, ih (inside_kwUnwrapStep hs hstep) hrest, Nat.mod_add_mod, List.length_cons]
    rfl

theorem length_kwTimes (n : Nat) : (kwTimes n).length = 6 * n := List.length_range'

/-- **The loop of `unwrap` takes back the loop of `mbedtls_nist_kw_wrap`.** -/
theorem kwUnwrapLoop_kwWrapLoop (hdec : Decrypts dec enc) {a : Semiblock} {r : List Semiblock}
    (hne : r ≠ []) (h : kwWrapLoop enc a r = .ok s) :
    s.r.length = r.length ∧ ∃ u, kwUnwrapLoop dec s.a s.r = .ok u ∧ u.a = a ∧ u.r = r := by
  unfold kwWrapLoop at h
  have hpos : 0 < r.length := List.length_pos_iff.mpr hne
  have hstart : KwLoop.Inside r.length ⟨a, r, 0⟩ := ⟨rfl, hpos⟩
  have hend := foldlM_inv (KwLoop.Inside r.length)
    (fun _ _ _ hs hstep => inside_kwWrapStep hs hstep) hstart h
  have hzero : s.pos = 0 := by
    rw [pos_foldlM_kwWrapStep hstart h, length_kwTimes, Nat.zero_add, Nat.mul_mod_left]
  have hundo : ∀ s t s' u', KwLoop.Inside r.length s → kwWrapStep enc s t = .ok s' →
      KwLoop.Behind s' u' → ∃ u, kwUnwrapStep dec u' t = .ok u ∧ s.Behind u := by
    intro s t s' u' hs hstep hR
    exact kwUnwrapStep_undo hdec hs hstep hR
  have hbehind : s.Behind ⟨s.a, s.r, r.length - 1⟩ := ⟨rfl, rfl, by rw [if_pos hzero, hend.1]⟩
  obtain ⟨u, hback, hu⟩ : ∃ u, (kwTimes r.length).reverse.foldlM (kwUnwrapStep dec)
      ⟨s.a, s.r, r.length - 1⟩ = .ok u ∧ KwLoop.Behind ⟨a, r, 0⟩ u :=
    foldlM_undo (KwLoop.Inside r.length) KwLoop.Behind
      (fun _ _ _ hs hstep => inside_kwWrapStep hs hstep) hundo hstart h hbehind
  refine ⟨hend.1, u, ?_, hu.1, hu.2.1⟩
  rw [kwUnwrapLoop, hend.1]
  exact hback

/-- **The loop of `mbedtls_nist_kw_wrap` takes back the loop of `unwrap`.** -/
theorem kwWrapLoop_kwUnwrapLoop (henc : Decrypts enc dec) {a : Semiblock} {r : List Semiblock}
    (hne : r ≠ []) (h : kwUnwrapLoop dec a r = .ok s) :
    s.r.length = r.length ∧ ∃ u, kwWrapLoop enc s.a s.r = .ok u ∧ u.a = a ∧ u.r = r := by
  unfold kwUnwrapLoop at h
  have hpos : 0 < r.length := List.length_pos_iff.mpr hne
  have hstart : KwLoop.Inside r.length ⟨a, r, r.length - 1⟩ := ⟨rfl, Nat.sub_one_lt_of_lt hpos⟩
  have hend := foldlM_inv (KwLoop.Inside r.length)
    (fun _ _ _ hs hstep => inside_kwUnwrapStep hs hstep) hstart h
  have hlast : s.pos = s.r.length - 1 := by
    have hround := pos_foldlM_kwUnwrapStep hstart h
    rw [List.length_reverse, length_kwTimes, Nat.add_mul_mod_self_right,
      Nat.mod_eq_of_lt hend.2] at hround
    rw [← hround, hend.1]
  have hundo : ∀ s t s' u', KwLoop.Inside r.length s → kwUnwrapStep dec s t = .ok s' →
      KwLoop.Behind u' s' ∧ KwLoop.Inside r.length u' →
      ∃ u, kwWrapStep enc u' t = .ok u ∧ u.Behind s ∧ u.Inside r.length := by
    intro s t s' u' hs hstep hR
    exact kwWrapStep_undo henc hs hstep hR
  have hbehind : KwLoop.Behind ⟨s.a, s.r, 0⟩ s ∧ KwLoop.Inside r.length ⟨s.a, s.r, 0⟩ :=
    ⟨⟨rfl, rfl, hlast⟩, hend.1, hpos⟩
  obtain ⟨u, hback, hu⟩ : ∃ u, (kwTimes r.length).reverse.reverse.foldlM (kwWrapStep enc)
      ⟨s.a, s.r, 0⟩ = .ok u ∧ u.Behind ⟨a, r, r.length - 1⟩ ∧ u.Inside r.length :=
    foldlM_undo (KwLoop.Inside r.length)
      (fun s u => KwLoop.Behind u s ∧ KwLoop.Inside r.length u)
      (fun _ _ _ hs hstep => inside_kwUnwrapStep hs hstep) hundo hstart h hbehind
  rw [List.reverse_reverse] at hback
  refine ⟨hend.1, u, ?_, hu.1.1.symm, hu.1.2.1.symm⟩
  rw [kwWrapLoop, hend.1]
  exact hback

end

/-! ## The functions -/

/-- What the functions leave: what they return, the length, and what they have written. -/
structure KwResult where
  ret : Int
  outLen : Nat
  output : List UInt8
  deriving DecidableEq, Repr

/-- Nothing has been written. -/
def KwResult.rejected : KwResult := ⟨mbedtlsErrCipherBadInputData.val, 0, []⟩

/-- The output has been cleared. -/
def KwResult.cleared (e : CipherError) (n : Nat) : KwResult := ⟨e.val, 0, List.replicate n 0⟩

/-- What is handed out. -/
def KwResult.text (res : KwResult) : List UInt8 := res.output.take res.outLen

/-- The padding of `MBEDTLS_KW_MODE_KWP`. -/
def kwPadlen (inLen : Nat) : Nat := if inLen % 8 ≠ 0 then 8 - inLen % 8 else 0

/-- The first semiblock of `MBEDTLS_KW_MODE_KWP`. -/
def kwpFirst (inLen : Nat) : Semiblock :=
  ⟨(nistKwIcv2 ++ putUint32Be inLen).toArray, rfl⟩

/-- The end of `mbedtls_nist_kw_wrap`, for the semiblocks to work on. -/
def nistKwWrapString (enc : CipherUpdate) (single : Bool) (a : Semiblock) (r : List Semiblock) :
    KwResult :=
  let semiblocks := r.length + 1
  let cleared (e : CipherError) : KwResult := .cleared e (8 * semiblocks)
  let done (a : Semiblock) (r : List Semiblock) : KwResult :=
    ⟨0, 8 * semiblocks, semiblockBytes (a :: r)⟩
  if single then
    match enc (a, r.headD .zero) with
    | .error e => cleared e
    | .ok outbuff => done outbuff.1 [outbuff.2]
  else if semiblocks < minSemiblocksCount then cleared mbedtlsErrCipherBadInputData
  else
    match kwWrapLoop enc a r with
    | .error e => cleared e
    | .ok s => done s.a s.r

/-- `mbedtls_nist_kw_wrap`. -/
def nistKwWrap (enc : CipherUpdate) (mode : KwMode) (input : List UInt8) (outSize : Nat) :
    KwResult :=
  let inLen := input.length
  match mode with
  | .kw =>
    if outSize < u32 (inLen + 8) then .rejected
    else if inLen < 16 ∨ inLen % 8 ≠ 0 then .rejected
    else nistKwWrapString enc false nistKwIcv1 (semiblocksOf input)
  | .kwp =>
    let padlen := kwPadlen inLen
    if outSize < u32 (inLen + 8 + padlen) then .rejected
    else if inLen < 1 then .rejected
    else nistKwWrapString enc (decide (inLen ≤ 8)) (kwpFirst inLen)
      (semiblocksOf (input ++ List.replicate padlen 0))

/-- The check of the first semiblock in `MBEDTLS_KW_MODE_KW`. -/
def kwCheck (inLen : Nat) (a : Semiblock) (output : List UInt8) : KwResult :=
  if a ≠ nistKwIcv1 then .cleared mbedtlsErrCipherAuthFailed (inLen - 8)
  else ⟨0, inLen - 8, output⟩

/-- The checks of the first semiblock and the padding in `MBEDTLS_KW_MODE_KWP`. -/
def kwpCheck (inLen : Nat) (a : Semiblock) (output : List UInt8) : KwResult :=
  let plen := getUint32Be (a.toList.drop 4)
  let padlen := u32 (inLen - 8 + 2 ^ 32 - plen)
  let icvDiffers := a.toList.take 4 ≠ nistKwIcv2
  let padDiffers := output.drop (inLen - 8 - padlen % 8) ≠ List.replicate (padlen % 8) 0
  if icvDiffers ∨ 7 < padlen ∨ padDiffers then .cleared mbedtlsErrCipherAuthFailed (inLen - 8)
  else ⟨0, plen, output.take plen ++ List.replicate padlen 0⟩

/-- `unwrap` and the check of what it has found. -/
def nistKwUnwrapString (dec : CipherUpdate) (check : Semiblock → List UInt8 → KwResult)
    (r : List Semiblock) : KwResult :=
  match kwUnwrapLoop dec (r.headD .zero) r.tail with
  | .error e => .cleared e (8 * r.tail.length)
  | .ok s => check s.a (semiblockBytes s.r)

/-- `mbedtls_nist_kw_unwrap`. -/
def nistKwUnwrap (dec : CipherUpdate) (mode : KwMode) (input : List UInt8) (outSize : Nat) :
    KwResult :=
  let inLen := input.length
  let r := semiblocksOf input
  if outSize < u32 (inLen + 2 ^ 32 - 8) then .rejected
  else
    match mode with
    | .kw =>
      if inLen < 24 ∨ inLen % 8 ≠ 0 then .rejected
      else nistKwUnwrapString dec (kwCheck inLen) r
    | .kwp =>
      if inLen < 16 ∨ inLen % 8 ≠ 0 then .rejected
      else if inLen = 16 then
        match dec (r.headD .zero, r.tail.headD .zero) with
        | .error e => ⟨e.val, 0, []⟩
        | .ok outbuff => kwpCheck inLen outbuff.1 outbuff.2.toList
      else nistKwUnwrapString dec (kwpCheck inLen) r

/-! ## What is wrapped and unwrapped -/

section

variable {enc dec : CipherUpdate} {mode : KwMode} {a : Semiblock} {r : List Semiblock} {n : Nat}

theorem CipherError.val_ne_zero (e : CipherError) : e.val ≠ 0 := e.property

/-- **Success of the loop of `mbedtls_nist_kw_wrap`.** -/
theorem nistKwWrapString_loop_eq_ok (hlen : 2 ≤ r.length) :
    (nistKwWrapString enc false a r).ret = 0 ↔ ∃ s, kwWrapLoop enc a r = .ok s ∧
      nistKwWrapString enc false a r =
        ⟨0, 8 * (r.length + 1), semiblockBytes (s.a :: s.r)⟩ := by
  have hcount : ¬ r.length + 1 < minSemiblocksCount := by
    unfold minSemiblocksCount
    omega
  simp only [nistKwWrapString, Bool.false_eq_true, if_false, if_neg hcount]
  cases kwWrapLoop enc a r with
  | error e => exact ⟨fun h => absurd h e.val_ne_zero, fun ⟨_, h, _⟩ => nomatch h⟩
  | ok s => exact ⟨fun _ => ⟨s, rfl, rfl⟩, fun _ => rfl⟩

/-- What is wrapped in a loop is unwrapped in a loop. -/
theorem nistKwUnwrapString_wrapped (hdec : Decrypts dec enc) (hlen : 2 ≤ r.length)
    (hret : (nistKwWrapString enc false a r).ret = 0)
    (check : Semiblock → List UInt8 → KwResult) :
    (nistKwWrapString enc false a r).text.length = 8 * (r.length + 1) ∧
    nistKwUnwrapString dec check (semiblocksOf (nistKwWrapString enc false a r).text) =
      check a (semiblockBytes r) := by
  have hne : r ≠ [] := List.ne_nil_of_length_pos (by omega)
  obtain ⟨s, hloop, hres⟩ := (nistKwWrapString_loop_eq_ok hlen).mp hret
  obtain ⟨hkeeps, u, hback, rfl, rfl⟩ := kwUnwrapLoop_kwWrapLoop hdec hne hloop
  have hbytes : (semiblockBytes (s.a :: s.r)).length = 8 * (u.r.length + 1) := by
    rw [length_semiblockBytes, List.length_cons, hkeeps]
  have htext : (nistKwWrapString enc false u.a u.r).text = semiblockBytes (s.a :: s.r) := by
    rw [hres, KwResult.text, ← hbytes, List.take_length]
  refine ⟨by rw [htext, hbytes], ?_⟩
  rw [htext, semiblocksOf_semiblockBytes, nistKwUnwrapString]
  simp only [List.headD_cons, List.tail_cons, hback]

/-- What is unwrapped in a loop has been wrapped in one. -/
theorem nistKwWrapString_unwrapped (henc : Decrypts enc dec) (hlen : 2 ≤ r.length) {s : KwLoop}
    (hloop : kwUnwrapLoop dec a r = .ok s) :
    s.r.length = r.length ∧ nistKwWrapString enc false s.a s.r =
      ⟨0, 8 * (r.length + 1), semiblockBytes (a :: r)⟩ := by
  have hne : r ≠ [] := List.ne_nil_of_length_pos (by omega)
  obtain ⟨hkeeps, u, hback, rfl, rfl⟩ := kwWrapLoop_kwUnwrapLoop henc hne hloop
  have hcount : ¬ u.r.length + 1 < minSemiblocksCount := by
    unfold minSemiblocksCount
    omega
  refine ⟨hkeeps, ?_⟩
  simp only [nistKwWrapString, Bool.false_eq_true, if_false, hback, hkeeps, if_neg hcount]

/-! ### The first semiblock and the padding -/

theorem toList_kwpFirst (n : Nat) : (kwpFirst n).toList = nistKwIcv2 ++ putUint32Be n := rfl

theorem kwPadlen_le (n : Nat) : kwPadlen n ≤ 7 := by
  unfold kwPadlen
  split <;> omega

theorem add_kwPadlen_mod (n : Nat) : (n + kwPadlen n) % 8 = 0 := by
  unfold kwPadlen
  split <;> omega

theorem kwPadlen_of_add {pad : Nat} (hpad : pad ≤ 7) (h : (n + pad) % 8 = 0) :
    kwPadlen n = pad := by
  unfold kwPadlen
  split <;> omega

/-- **A message that has been padded passes the checks.** -/
theorem kwpCheck_padded {input : List UInt8} (hlen : 0 < input.length)
    (hmem : input.length + 15 < 2 ^ 32) :
    kwpCheck (input.length + kwPadlen input.length + 8) (kwpFirst input.length)
        (input ++ List.replicate (kwPadlen input.length) 0) =
      ⟨0, input.length, input ++ List.replicate (kwPadlen input.length) 0⟩ := by
  have hpad := kwPadlen_le input.length
  have hplen : getUint32Be ((kwpFirst input.length).toList.drop 4) = input.length :=
    getUint32Be_putUint32Be (by omega)
  have hpadlen : u32 (input.length + kwPadlen input.length + 8 - 8 + 2 ^ 32 - input.length) =
      kwPadlen input.length := by
    unfold u32
    omega
  have hdrop : input.length + kwPadlen input.length + 8 - 8 - kwPadlen input.length =
      input.length := by omega
  unfold kwpCheck
  simp only [hplen, hpadlen, Nat.mod_eq_of_lt (show kwPadlen input.length < 8 by omega), hdrop,
    List.drop_left, List.take_left]
  rw [if_neg]
  rintro (hicv | hlong | hzero)
  · exact hicv rfl
  · omega
  · exact hzero rfl

/-- **A message that passes the checks has been padded.** -/
theorem eq_padded_of_kwpCheck {output : List UInt8} (hlen : 0 < output.length)
    (hmod : output.length % 8 = 0) (hmem : output.length + 8 < 2 ^ 32)
    (hret : (kwpCheck (output.length + 8) a output).ret = 0) :
    ∃ plain : List UInt8, 0 < plain.length ∧ a = kwpFirst plain.length ∧
      output = plain ++ List.replicate (kwPadlen plain.length) 0 ∧
      (kwpCheck (output.length + 8) a output).text = plain := by
  have hdrop4 : (a.toList.drop 4).length = 4 := by simp
  have hplen := getUint32Be_lt hdrop4
  unfold kwpCheck at hret ⊢
  dsimp only at hret ⊢
  split at hret
  · exact absurd hret (CipherError.val_ne_zero _)
  · rename_i hchecks
    obtain ⟨hicv, hpad, hzero⟩ := not_or.mp hchecks |>.imp_right not_or.mp
    rw [if_neg hchecks]
    set plen := getUint32Be (a.toList.drop 4) with hplen_eq
    set padlen := u32 (output.length + 8 - 8 + 2 ^ 32 - plen) with hpadlen_eq
    have hsum : plen + padlen = output.length := by
      unfold u32 at hpadlen_eq
      omega
    have hpadmod : padlen % 8 = padlen := Nat.mod_eq_of_lt (by omega)
    have htake : (output.take plen).length = plen := by
      rw [List.length_take]
      omega
    have htail : output.drop plen = List.replicate padlen 0 := by
      have h := not_not.mp hzero
      rw [hpadmod, show output.length + 8 - 8 - padlen = plen by omega] at h
      exact h
    refine ⟨output.take plen, by omega, ?_, ?_, ?_⟩
    · rw [htake, ← Vector.toList_inj, toList_kwpFirst, hplen_eq, putUint32Be_getUint32Be hdrop4,
        ← not_not.mp hicv, List.take_append_drop]
    · rw [htake, kwPadlen_of_add (by omega) (by omega : (plen + padlen) % 8 = 0), ← htail,
        List.take_append_drop]
    · exact List.take_left' htake

/-! ### The functions -/

theorem ret_rejected : KwResult.rejected.ret ≠ 0 := CipherError.val_ne_zero _

/-- Success in `MBEDTLS_KW_MODE_KW` is success of the loop. -/
theorem nistKwWrap_kw_of_ret {input : List UInt8} {outSize : Nat}
    (hret : (nistKwWrap enc .kw input outSize).ret = 0) :
    16 ≤ input.length ∧ input.length % 8 = 0 ∧ nistKwWrap enc .kw input outSize =
      nistKwWrapString enc false nistKwIcv1 (semiblocksOf input) := by
  unfold nistKwWrap at hret ⊢
  dsimp only at hret ⊢
  split at hret
  · exact absurd hret ret_rejected
  · split at hret
    · exact absurd hret ret_rejected
    · rename_i hsize hlen
      rw [if_neg hsize, if_neg hlen]
      exact ⟨by omega, by omega, rfl⟩

/-- Success in `MBEDTLS_KW_MODE_KWP`. -/
theorem nistKwWrap_kwp_of_ret {input : List UInt8} {outSize : Nat}
    (hret : (nistKwWrap enc .kwp input outSize).ret = 0) :
    0 < input.length ∧ nistKwWrap enc .kwp input outSize =
      nistKwWrapString enc (decide (input.length ≤ 8)) (kwpFirst input.length)
        (semiblocksOf (input ++ List.replicate (kwPadlen input.length) 0)) := by
  unfold nistKwWrap at hret ⊢
  dsimp only at hret ⊢
  split at hret
  · exact absurd hret ret_rejected
  · split at hret
    · exact absurd hret ret_rejected
    · rename_i hsize hlen
      rw [if_neg hsize, if_neg hlen]
      exact ⟨by omega, rfl⟩

/-- What is wrapped as one block is unwrapped as one. -/
theorem nistKwWrapString_single (hdec : Decrypts dec enc) {b : Semiblock}
    (hret : (nistKwWrapString enc true a [b]).ret = 0) : ∃ outbuff : Semiblock × Semiblock,
      (nistKwWrapString enc true a [b]).text = semiblockBytes [outbuff.1, outbuff.2] ∧
      dec outbuff = .ok (a, b) := by
  unfold nistKwWrapString at hret ⊢
  simp only [if_true, List.headD_cons] at hret ⊢
  cases henc : enc (a, b) with
  | error e =>
    rw [henc] at hret
    exact absurd hret e.val_ne_zero
  | ok outbuff =>
    exact ⟨outbuff, List.take_of_length_le (length_semiblockBytes _).le, hdec _ _ henc⟩

/-- Wrapped data is one semiblock longer. -/
theorem length_text_nistKwWrap_kw (hdec : Decrypts dec enc) {input : List UInt8} {outSize : Nat}
    (hret : (nistKwWrap enc .kw input outSize).ret = 0) :
    (nistKwWrap enc .kw input outSize).text.length = input.length + 8 := by
  obtain ⟨hlen, hmod, heq⟩ := nistKwWrap_kw_of_ret hret
  have hcount := length_semiblocksOf hmod
  rw [heq] at hret ⊢
  rw [(nistKwUnwrapString_wrapped hdec (by omega) hret (kwCheck 0)).1]
  omega

/-- The result of unwrapping in `MBEDTLS_KW_MODE_KW`. -/
theorem nistKwUnwrap_kw_wrapped (hdec : Decrypts dec enc) {input : List UInt8}
    {outSize outSize' : Nat} (hmem : input.length + 15 < 2 ^ 32)
    (hret : (nistKwWrap enc .kw input outSize).ret = 0) (hsize : input.length ≤ outSize') :
    nistKwUnwrap dec .kw (nistKwWrap enc .kw input outSize).text outSize' =
      ⟨0, input.length, input⟩ := by
  obtain ⟨hlen, hmod, heq⟩ := nistKwWrap_kw_of_ret hret
  have hcount := length_semiblocksOf hmod
  rw [heq] at hret ⊢
  obtain ⟨htext, hback⟩ := nistKwUnwrapString_wrapped hdec (by omega) hret
    (kwCheck (input.length + 8))
  have hfits : ¬ outSize' < u32 (input.length + 8 + 2 ^ 32 - 8) := by
    unfold u32
    omega
  rw [Nat.mul_add, hcount] at htext
  unfold nistKwUnwrap
  simp only [htext, if_neg hfits]
  rw [if_neg (by omega), hback, semiblockBytes_semiblocksOf hmod]
  rfl

/-- The result of unwrapping in `MBEDTLS_KW_MODE_KWP`. -/
theorem nistKwUnwrap_kwp_wrapped (hdec : Decrypts dec enc) {input : List UInt8}
    {outSize outSize' : Nat} (hmem : input.length + 15 < 2 ^ 32)
    (hret : (nistKwWrap enc .kwp input outSize).ret = 0) (hsize : input.length + 7 ≤ outSize') :
    nistKwUnwrap dec .kwp (nistKwWrap enc .kwp input outSize).text outSize' =
      ⟨0, input.length, input ++ List.replicate (kwPadlen input.length) 0⟩ := by
  obtain ⟨hlen, heq⟩ := nistKwWrap_kwp_of_ret hret
  have hpad := kwPadlen_le input.length
  have hpadded : (input ++ List.replicate (kwPadlen input.length) 0).length =
      input.length + kwPadlen input.length := by
    rw [List.length_append, List.length_replicate]
  have hmod := hpadded ▸ add_kwPadlen_mod input.length
  have hcount := length_semiblocksOf hmod
  have hcheck := kwpCheck_padded hlen hmem
  have hfits : ¬ outSize' < u32 (input.length + kwPadlen input.length + 8 + 2 ^ 32 - 8) := by
    unfold u32
    omega
  rw [heq] at hret ⊢
  by_cases hshort : input.length ≤ 8
  · -- One block of the cipher.
    rw [decide_eq_true hshort] at hret ⊢
    obtain ⟨b, hb⟩ : ∃ b, semiblocksOf (input ++ List.replicate (kwPadlen input.length) 0) =
        [b] := List.length_eq_one_iff.mp (by omega)
    have hbytes : b.toList = input ++ List.replicate (kwPadlen input.length) 0 := by
      rw [← semiblockBytes_semiblocksOf hmod, hb, semiblockBytes_cons]
      exact (List.append_nil _).symm
    have hlength : input.length + kwPadlen input.length + 8 = 16 := by
      rw [hb, hpadded, List.length_singleton] at hcount
      omega
    rw [hb] at hret ⊢
    rw [hlength] at hfits hcheck
    obtain ⟨outbuff, htext, hback⟩ := nistKwWrapString_single hdec hret
    unfold nistKwUnwrap
    rw [htext, semiblocksOf_semiblockBytes]
    simp only [length_semiblockBytes, List.length_cons, List.length_nil, List.headD_cons,
      List.tail_cons, hback, hbytes]
    rw [if_neg hfits, if_neg (by decide), if_pos trivial]
    exact hcheck
  · rw [decide_eq_false hshort] at hret ⊢
    obtain ⟨htext, hback⟩ := nistKwUnwrapString_wrapped hdec (by omega) hret
      (kwpCheck (input.length + kwPadlen input.length + 8))
    rw [Nat.mul_add, hcount, hpadded] at htext
    unfold nistKwUnwrap
    simp only [htext, if_neg hfits]
    rw [if_neg (by omega), if_neg (by omega), hback, semiblockBytes_semiblocksOf hmod, hcheck]

/-- A cipher that changes the places of the two semiblocks. -/
def swapCipher : CipherUpdate := fun x => .ok (x.2, x.1)

theorem decrypts_swapCipher : Decrypts swapCipher swapCipher := by
  intro x y h
  rw [← Except.ok.inj h]
  rfl

/-- **What `mbedtls_nist_kw_wrap` has wrapped is unwrapped again.** -/
theorem nistKwUnwrap_nistKwWrap {enc dec : CipherUpdate} (hdec : Decrypts dec enc) (mode : KwMode)
    (input : List UInt8) {outSize outSize' : Nat} (hmem : input.length + 15 < 2 ^ 32)
    (hret : (nistKwWrap enc mode input outSize).ret = 0) (hsize : input.length + 7 ≤ outSize') :
    (nistKwUnwrap dec mode (nistKwWrap enc mode input outSize).text outSize').ret = 0 ∧
    (nistKwUnwrap dec mode (nistKwWrap enc mode input outSize).text outSize').text = input := by
  cases mode with
  | kw =>
    rw [nistKwUnwrap_kw_wrapped hdec hmem hret (by omega)]
    exact ⟨rfl, List.take_length⟩
  | kwp =>
    rw [nistKwUnwrap_kwp_wrapped hdec hmem hret hsize]
    exact ⟨rfl, List.take_left⟩

/-- Nine bytes are wrapped and unwrapped. -/
theorem nistKwUnwrap_nistKwWrap_nine :
    (nistKwUnwrap swapCipher .kwp (nistKwWrap swapCipher .kwp [1, 2, 3, 4, 5, 6, 7, 8, 9] 24).text
      16).ret = 0 ∧
    (nistKwUnwrap swapCipher .kwp (nistKwWrap swapCipher .kwp [1, 2, 3, 4, 5, 6, 7, 8, 9] 24).text
      16).text = [1, 2, 3, 4, 5, 6, 7, 8, 9] :=
  nistKwUnwrap_nistKwWrap decrypts_swapCipher .kwp _ (by decide) (by decide) (by decide)

/-- Success of `unwrap` and of the check after it. -/
theorem nistKwUnwrapString_of_ret {check : Semiblock → List UInt8 → KwResult}
    (hret : (nistKwUnwrapString dec check r).ret = 0) :
    ∃ s, kwUnwrapLoop dec (r.headD .zero) r.tail = .ok s ∧
      nistKwUnwrapString dec check r = check s.a (semiblockBytes s.r) := by
  unfold nistKwUnwrapString at hret ⊢
  cases hloop : kwUnwrapLoop dec (r.headD .zero) r.tail with
  | error e =>
    rw [hloop] at hret
    exact absurd hret e.val_ne_zero
  | ok s => exact ⟨s, rfl, rfl⟩

/-- Whole semiblocks, the first one by itself. -/
theorem exists_semiblocksOf_cons {data : List UInt8} (hlen : 8 ≤ data.length)
    (hmod : data.length % 8 = 0) : ∃ a r, semiblocksOf data = a :: r ∧
      8 * (r.length + 1) = data.length ∧ semiblockBytes (a :: r) = data := by
  have hcount := length_semiblocksOf hmod
  obtain ⟨a, r, hr⟩ := List.exists_cons_of_length_pos (show 0 < (semiblocksOf data).length by omega)
  refine ⟨a, r, hr, ?_, hr ▸ semiblockBytes_semiblocksOf hmod⟩
  rwa [hr, List.length_cons] at hcount

/-- **What is unwrapped in `MBEDTLS_KW_MODE_KW` has been wrapped.** -/
theorem nistKwWrap_kw_unwrapped (henc : Decrypts enc dec) {data : List UInt8}
    {outSize outSize' : Nat} (hmem : data.length < 2 ^ 32)
    (hret : (nistKwUnwrap dec .kw data outSize).ret = 0) (hsize : data.length ≤ outSize') :
    nistKwWrap enc .kw (nistKwUnwrap dec .kw data outSize).text outSize' =
      ⟨0, data.length, data⟩ := by
  unfold nistKwUnwrap at hret ⊢
  dsimp only at hret ⊢
  by_cases hfits : outSize < u32 (data.length + 2 ^ 32 - 8)
  · rw [if_pos hfits] at hret
    exact absurd hret ret_rejected
  by_cases hlen : data.length < 24 ∨ data.length % 8 ≠ 0
  · rw [if_neg hfits, if_pos hlen] at hret
    exact absurd hret ret_rejected
  rw [if_neg hfits, if_neg hlen] at hret ⊢
  obtain ⟨a, r, hr, hcount, hbytes⟩ :=
    exists_semiblocksOf_cons (show 8 ≤ data.length by omega) (by omega)
  obtain ⟨s, hloop, heq⟩ := nistKwUnwrapString_of_ret hret
  rw [hr, List.headD_cons, List.tail_cons] at hloop
  obtain ⟨hkeeps, hwrap⟩ := nistKwWrapString_unwrapped henc (by omega) hloop
  rw [heq] at hret ⊢
  unfold kwCheck at hret ⊢
  by_cases hicv : s.a ≠ nistKwIcv1
  · rw [if_pos hicv] at hret
    exact absurd hret (CipherError.val_ne_zero _)
  rw [if_neg hicv]
  have hplain : (semiblockBytes s.r).length = data.length - 8 := by
    rw [length_semiblockBytes, hkeeps]
    omega
  have htext : KwResult.text ⟨0, data.length - 8, semiblockBytes s.r⟩ = semiblockBytes s.r :=
    List.take_of_length_le hplain.le
  have hroom : ¬ outSize' < u32 (data.length - 8 + 8) := by
    unfold u32
    omega
  rw [htext]
  unfold nistKwWrap
  simp only [hplain, if_neg hroom]
  rw [if_neg (by omega), semiblocksOf_semiblockBytes, ← not_not.mp hicv, hwrap, hcount, hbytes]

/-- **What is unwrapped in `MBEDTLS_KW_MODE_KWP` has been wrapped.** -/
theorem nistKwWrap_kwp_unwrapped (henc : Decrypts enc dec) {data : List UInt8}
    {outSize outSize' : Nat} (hmem : data.length < 2 ^ 32)
    (hret : (nistKwUnwrap dec .kwp data outSize).ret = 0) (hsize : data.length ≤ outSize') :
    nistKwWrap enc .kwp (nistKwUnwrap dec .kwp data outSize).text outSize' =
      ⟨0, data.length, data⟩ := by
  unfold nistKwUnwrap at hret ⊢
  dsimp only at hret ⊢
  by_cases hfits : outSize < u32 (data.length + 2 ^ 32 - 8)
  · rw [if_pos hfits] at hret
    exact absurd hret ret_rejected
  by_cases hlen : data.length < 16 ∨ data.length % 8 ≠ 0
  · rw [if_neg hfits, if_pos hlen] at hret
    exact absurd hret ret_rejected
  rw [if_neg hfits, if_neg hlen] at hret ⊢
  obtain ⟨a, r, hr, hcount, hbytes⟩ :=
    exists_semiblocksOf_cons (show 8 ≤ data.length by omega) (by omega)
  -- Either way, the semiblocks that are checked are wrapped to the data.
  obtain ⟨a', r', hlen', heq, hwrap⟩ : ∃ a' r', r'.length = r.length ∧
      (if data.length = 16 then
        match dec ((semiblocksOf data).headD .zero, (semiblocksOf data).tail.headD .zero) with
        | .error e => ⟨e.val, 0, []⟩
        | .ok outbuff => kwpCheck data.length outbuff.1 outbuff.2.toList
      else nistKwUnwrapString dec (kwpCheck data.length) (semiblocksOf data)) =
        kwpCheck data.length a' (semiblockBytes r') ∧
      nistKwWrapString enc (decide (data.length = 16)) a' r' = ⟨0, data.length, data⟩ := by
    by_cases hsingle : data.length = 16
    · rw [if_pos hsingle] at hret ⊢
      obtain ⟨b, rfl⟩ : ∃ b, r = [b] := List.length_eq_one_iff.mp (by omega)
      rw [hr] at hret ⊢
      simp only [List.headD_cons, List.tail_cons] at hret ⊢
      cases hdec : dec (a, b) with
      | error e =>
        rw [hdec] at hret
        exact absurd hret e.val_ne_zero
      | ok outbuff =>
        have hbytes' : semiblockBytes [outbuff.2] = outbuff.2.toList := List.append_nil _
        refine ⟨outbuff.1, [outbuff.2], rfl, by rw [hbytes'], ?_⟩
        simp only [nistKwWrapString, decide_eq_true hsingle, if_true, List.headD_cons,
          henc _ _ hdec, hbytes]
        rw [← hcount]
        rfl
    · rw [if_neg hsingle] at hret ⊢
      obtain ⟨s, hloop, heq⟩ := nistKwUnwrapString_of_ret hret
      rw [hr, List.headD_cons, List.tail_cons] at hloop
      obtain ⟨hkeeps, hwrap⟩ := nistKwWrapString_unwrapped henc (by omega) hloop
      refine ⟨s.a, s.r, hkeeps, heq, ?_⟩
      rw [decide_eq_false hsingle, hwrap, hcount, hbytes]
  rw [heq] at hret ⊢
  have hplain : (semiblockBytes r').length + 8 = data.length := by
    rw [length_semiblockBytes, hlen']
    omega
  rw [← hplain] at hret ⊢
  obtain ⟨plain, hpos, ha, hpadded, htext⟩ :=
    eq_padded_of_kwpCheck (by omega) (by omega) (by omega) hret
  have hsum : plain.length + kwPadlen plain.length + 8 = data.length := by
    rw [← hplain, hpadded, List.length_append, List.length_replicate]
  have hpad := kwPadlen_le plain.length
  have hroom : ¬ outSize' < u32 (plain.length + 8 + kwPadlen plain.length) := by
    unfold u32
    omega
  have hsingle : decide (plain.length ≤ 8) = decide (data.length = 16) :=
    decide_eq_decide.mpr (by omega)
  rw [htext]
  unfold nistKwWrap
  dsimp only
  rw [if_neg hroom, if_neg (by omega), ← hpadded, semiblocksOf_semiblockBytes, ← ha, hsingle,
    hwrap, hplain]

/-- A failure hands out nothing, and leaves nothing but zeros in the output. -/
def KwResult.SuccessOrCleared (res : KwResult) : Prop :=
  res.ret ≠ 0 → res.outLen = 0 ∧ ∀ b ∈ res.output, b = 0

theorem successOrCleared_rejected : KwResult.rejected.SuccessOrCleared :=
  fun _ => ⟨rfl, fun _ hb => nomatch hb⟩

theorem successOrCleared_cleared (e : CipherError) (n : Nat) :
    (KwResult.cleared e n).SuccessOrCleared :=
  fun _ => ⟨rfl, fun _ hb => List.eq_of_mem_replicate hb⟩

theorem successOrCleared_kwCheck (n : Nat) (a : Semiblock) (output : List UInt8) :
    (kwCheck n a output).SuccessOrCleared := by
  unfold kwCheck
  split
  · exact successOrCleared_cleared _ _
  · exact fun hret => absurd rfl hret

theorem successOrCleared_kwpCheck (n : Nat) (a : Semiblock) (output : List UInt8) :
    (kwpCheck n a output).SuccessOrCleared := by
  unfold kwpCheck
  dsimp only
  split
  · exact successOrCleared_cleared _ _
  · exact fun hret => absurd rfl hret

theorem successOrCleared_nistKwUnwrapString {check : Semiblock → List UInt8 → KwResult}
    (hcheck : ∀ a output, (check a output).SuccessOrCleared) (r : List Semiblock) :
    (nistKwUnwrapString dec check r).SuccessOrCleared := by
  unfold nistKwUnwrapString
  split
  · exact successOrCleared_cleared _ _
  · exact hcheck _ _

/-- **A failure to unwrap hands out nothing.** -/
theorem successOrCleared_nistKwUnwrap (dec : CipherUpdate) (mode : KwMode) (data : List UInt8)
    (outSize : Nat) : (nistKwUnwrap dec mode data outSize).SuccessOrCleared := by
  unfold nistKwUnwrap
  dsimp only
  split
  · exact successOrCleared_rejected
  cases mode with
  | kw =>
    dsimp only
    split
    · exact successOrCleared_rejected
    · exact successOrCleared_nistKwUnwrapString (successOrCleared_kwCheck _) _
  | kwp =>
    dsimp only
    split
    · exact successOrCleared_rejected
    split
    · split
      · exact fun _ => ⟨rfl, fun _ hb => nomatch hb⟩
      · exact successOrCleared_kwpCheck _ _ _
    · exact successOrCleared_nistKwUnwrapString (successOrCleared_kwpCheck _) _

end

/-- **What is unwrapped has been wrapped**, with the same cipher, to the very same data. If it has
not, nothing is handed out. -/
theorem nistKwUnwrap_authentic {enc dec : CipherUpdate} (henc : Decrypts enc dec) (mode : KwMode)
    (data : List UInt8) {outSize outSize' : Nat} (hmem : data.length < 2 ^ 32)
    (hsize : data.length ≤ outSize') :
    ((nistKwUnwrap dec mode data outSize).ret = 0 →
      nistKwWrap enc mode (nistKwUnwrap dec mode data outSize).text outSize' =
        ⟨0, data.length, data⟩) ∧
    (nistKwUnwrap dec mode data outSize).SuccessOrCleared := by
  refine ⟨fun hret => ?_, successOrCleared_nistKwUnwrap dec mode data outSize⟩
  cases mode with
  | kw => exact nistKwWrap_kw_unwrapped henc hmem hret hsize
  | kwp => exact nistKwWrap_kwp_unwrapped henc hmem hret hsize

/-- Data that unwraps to nine bytes is what these are wrapped to. -/
theorem nistKwUnwrap_authentic_nine :
    nistKwWrap swapCipher .kwp (nistKwUnwrap swapCipher .kwp [166, 89, 89, 166, 0, 0, 0, 9, 1, 2, 3,
      4, 5, 6, 7, 0, 9, 0, 0, 0, 0, 0, 0, 4] 16).text 24 =
      ⟨0, 24, [166, 89, 89, 166, 0, 0, 0, 9, 1, 2, 3, 4, 5, 6, 7, 0, 9, 0, 0, 0, 0, 0, 0, 4]⟩ :=
  (nistKwUnwrap_authentic decrypts_swapCipher .kwp _ (by decide) (by decide)).1 (by decide)

end Wifi
