import DsWifi.Crypto.Aes

/-!
# The cipher of a key wrap (TWL)

`mbedtls_nist_kw_setkey` (`mbedtls/library/nist_kw.twl.c`) and what it and the key wrap use of
`mbedtls/library/cipher.twl.c` and `mbedtls/library/cipher_wrap.twl.c`. The configuration of the
driver has AES in ECB mode and nothing else.

* `nistKwSetkey_wrap`, `nistKwSetkey_unwrap` — the cipher that a key wrap gets
-/

namespace Wifi

open Infra Rijndael

/-! ## The ciphers that there are -/

/-- `mbedtls_cipher_id_t`. -/
inductive CipherId
  | none
  | null
  | aes
  | des
  | tripleDes
  | camellia
  | aria
  | chacha20
  deriving DecidableEq, Repr

/-- `mbedtls_cipher_mode_t`. -/
inductive CipherMode
  | none
  | ecb
  | cbc
  | cfb
  | ofb
  | ctr
  | gcm
  | stream
  | ccm
  | ccmStarNoTag
  | xts
  | chachapoly
  | kw
  | kwp
  deriving DecidableEq, Repr

/-- `mbedtls_cipher_info_t`, with the cipher of its base. -/
structure CipherInfo where
  cipher : CipherId
  mode : CipherMode
  blockSize : Nat
  /-- Shifted by `MBEDTLS_KEY_BITLEN_SHIFT`. -/
  keyBitlen : Nat
  variableKeyLen : Bool
  deriving DecidableEq, Repr

/-- `mbedtls_cipher_info_get_key_bitlen`. -/
def CipherInfo.getKeyBitlen (info : CipherInfo) : Nat := info.keyBitlen <<< 6

/-- `aes_128_ecb_info`, `aes_192_ecb_info` and `aes_256_ecb_info`. -/
def aesEcbInfo (keyBitlen : Nat) : CipherInfo := ⟨.aes, .ecb, 16, keyBitlen >>> 6, false⟩

/-- `mbedtls_cipher_definitions`. -/
def mbedtlsCipherDefinitions : List CipherInfo := [aesEcbInfo 128, aesEcbInfo 192, aesEcbInfo 256]

/-- `mbedtls_cipher_info_from_values`. -/
def cipherInfoFromValues (cipherId : CipherId) (keyBitlen : Nat) (mode : CipherMode) :
    Option CipherInfo :=
  mbedtlsCipherDefinitions.find? fun info =>
    info.cipher = cipherId ∧ info.getKeyBitlen = keyBitlen ∧ info.mode = mode

/-! ## A cipher with its key -/

/-- `mbedtls_cipher_context_t`. -/
structure CipherContext where
  cipherInfo : CipherInfo
  operation : Int
  cipherCtx : AesContext

/-- `MBEDTLS_ENCRYPT`. -/
def mbedtlsEncrypt : Int := 1

/-- `MBEDTLS_DECRYPT`. -/
def mbedtlsDecrypt : Int := 0

/-- `MBEDTLS_ERR_CIPHER_FEATURE_UNAVAILABLE`. -/
def mbedtlsErrCipherFeatureUnavailable : CipherError := ⟨-0x6080, by decide⟩

section Source

variable (t : AesTables)

/-- `mbedtls_cipher_setkey`, right after `mbedtls_cipher_setup` has got the memory for the context.
On the heap of the driver it always does, as `heap_suffices_iff` says. -/
def cipherSetkey (info : CipherInfo) (key : List UInt8) (keyBitlen : Nat) (operation : Int) :
    Except CipherError CipherContext :=
  if operation ≠ mbedtlsEncrypt ∧ operation ≠ mbedtlsDecrypt then
    .error mbedtlsErrCipherBadInputData
  else if info.variableKeyLen = false ∧ info.getKeyBitlen ≠ keyBitlen then
    .error mbedtlsErrCipherBadInputData
  else if operation = mbedtlsEncrypt ∨ info.mode = .cfb ∨ info.mode = .ofb ∨ info.mode = .ctr then
    (aesSetkeyEnc t key keyBitlen).map (⟨info, operation, ·⟩)
  else (aesSetkeyDec t key keyBitlen).map (⟨info, operation, ·⟩)

/-- `mbedtls_nist_kw_setkey`, without its return when `mbedtls_cipher_setup` gets no memory. -/
def nistKwSetkey (cipher : CipherId) (key : List UInt8) (keybits : Nat) (isWrap : Bool) :
    Except CipherError CipherContext :=
  match cipherInfoFromValues cipher keybits .ecb with
  | none => .error mbedtlsErrCipherBadInputData
  | some info =>
    if info.blockSize ≠ 16 then .error mbedtlsErrCipherBadInputData
    else if cipher ≠ .aes then .error mbedtlsErrCipherFeatureUnavailable
    else cipherSetkey t info key keybits (if isWrap then mbedtlsEncrypt else mbedtlsDecrypt)

/-- `mbedtls_cipher_update` for a whole block. -/
def cipherUpdate (ctx : CipherContext) : CipherUpdate := fun input =>
  if ctx.cipherInfo.mode = .ecb then aesCryptEcb t ctx.cipherCtx ctx.operation input
  else .error mbedtlsErrCipherFeatureUnavailable

/-- The cipher that `mbedtls_nist_kw_wrap` and `mbedtls_nist_kw_unwrap` use. Without a key there is
no `cipher_info` in the context. -/
def kwCipher : Except CipherError CipherContext → CipherUpdate
  | .ok ctx => cipherUpdate t ctx
  | .error _ => fun _ => .error mbedtlsErrCipherBadInputData

end Source

/-! ## What a key wrap gets -/

section

variable {stack : AesStack} {key : List UInt8}

/-- The information on a cipher that there is. -/
theorem cipherInfoFromValues_aes {keyBitlen : Nat}
    (hbits : keyBitlen = 128 ∨ keyBitlen = 192 ∨ keyBitlen = 256) :
    cipherInfoFromValues .aes keyBitlen .ecb = some (aesEcbInfo keyBitlen) ∧
      (aesEcbInfo keyBitlen).getKeyBitlen = keyBitlen := by
  rcases hbits with rfl | rfl | rfl <;> exact ⟨by decide, by decide⟩

/-- There is no other. -/
theorem cipherInfoFromValues_of_isSome {cipherId : CipherId} {keyBitlen : Nat}
    {mode : CipherMode} {info : CipherInfo}
    (h : cipherInfoFromValues cipherId keyBitlen mode = some info) :
    cipherId = .aes ∧ (keyBitlen = 128 ∨ keyBitlen = 192 ∨ keyBitlen = 256) ∧ mode = .ecb := by
  have hmem := List.mem_of_find?_eq_some h
  have hvalues := List.find?_some (p := fun info : CipherInfo =>
    info.cipher = cipherId ∧ info.getKeyBitlen = keyBitlen ∧ info.mode = mode) h
  obtain ⟨rfl, rfl, rfl⟩ := of_decide_eq_true hvalues
  simp only [mbedtlsCipherDefinitions, List.mem_cons, List.not_mem_nil, or_false] at hmem
  rcases hmem with rfl | rfl | rfl <;> decide

theorem aesEcbInfo_mode (keyBitlen : Nat) : (aesEcbInfo keyBitlen).mode = .ecb := rfl

theorem cipherUpdate_aes (t : AesTables) (keyBitlen : Nat) (operation : Int) (ctx : AesContext) :
    cipherUpdate t ⟨aesEcbInfo keyBitlen, operation, ctx⟩ = aesCryptEcb t ctx operation :=
  funext fun _ => if_pos rfl

theorem eight_mul_length (hkey : key.length = 16 ∨ key.length = 24 ∨ key.length = 32) :
    8 * key.length = 128 ∨ 8 * key.length = 192 ∨ 8 * key.length = 256 := by
  omega

/-- `mbedtls_nist_kw_setkey` with a key for AES. -/
theorem nistKwSetkey_aes (t : AesTables) {keybits : Nat}
    (hbits : keybits = 128 ∨ keybits = 192 ∨ keybits = 256) (isWrap : Bool) :
    nistKwSetkey t .aes key keybits isWrap =
      if isWrap then (aesSetkeyEnc t key keybits).map (⟨aesEcbInfo keybits, mbedtlsEncrypt, ·⟩)
      else (aesSetkeyDec t key keybits).map (⟨aesEcbInfo keybits, mbedtlsDecrypt, ·⟩) := by
  obtain ⟨hinfo, hlen⟩ := cipherInfoFromValues_aes hbits
  rw [nistKwSetkey, hinfo]
  dsimp only
  rw [if_neg (by simp [aesEcbInfo]), if_neg (by simp)]
  cases isWrap <;> simp [cipherSetkey, hlen, aesEcbInfo_mode, mbedtlsEncrypt, mbedtlsDecrypt]

/-- **The cipher of a wrap is that of the standard.** -/
theorem nistKwSetkey_wrap (hkey : key.length = 16 ∨ key.length = 24 ∨ key.length = 32) :
    kwCipher (aesGenTables stack)
      (nistKwSetkey (aesGenTables stack) .aes key (8 * key.length) true) =
      fun x => .ok (fipsCipher key x) := by
  obtain ⟨ctx, hctx, hencrypts⟩ := exists_aesSetkeyEnc stack hkey
  rw [nistKwSetkey_aes _ (eight_mul_length hkey), if_pos rfl, hctx, Except.map, kwCipher,
    cipherUpdate_aes]
  exact funext hencrypts

/-- **The cipher for unwrapping is its inverse.** -/
theorem nistKwSetkey_unwrap (hkey : key.length = 16 ∨ key.length = 24 ∨ key.length = 32)
    {x y : Semiblock × Semiblock} :
    kwCipher (aesGenTables stack)
      (nistKwSetkey (aesGenTables stack) .aes key (8 * key.length) false) y = .ok x ↔
        fipsCipher key x = y := by
  obtain ⟨ctx, hctx, hdecrypts⟩ := exists_aesSetkeyDec stack hkey
  rw [nistKwSetkey_aes _ (eight_mul_length hkey), if_neg (by decide), hctx, Except.map, kwCipher,
    cipherUpdate_aes]
  exact hdecrypts x y

/-- Only AES has keys, and only of three lengths. -/
theorem nistKwSetkey_of_ok (t : AesTables) {cipher : CipherId} {keybits : Nat} {isWrap : Bool}
    {ctx : CipherContext} (h : nistKwSetkey t cipher key keybits isWrap = .ok ctx) :
    cipher = .aes ∧ (keybits = 128 ∨ keybits = 192 ∨ keybits = 256) := by
  unfold nistKwSetkey at h
  cases hinfo : cipherInfoFromValues cipher keybits .ecb with
  | none =>
    rw [hinfo] at h
    cases h
  | some info =>
    obtain ⟨hcipher, hbits, -⟩ := cipherInfoFromValues_of_isSome hinfo
    exact ⟨hcipher, hbits⟩

end

end Wifi
