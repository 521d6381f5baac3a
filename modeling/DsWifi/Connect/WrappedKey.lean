import DsWifi.Connect.GroupKey
import DsWifi.Crypto.KeyWrap

/-!
# Wrapped key data (TWL)

`wpa_decrypt_gtk` with the key wrap of mbedtls in place of the parameter. An access point wraps a
sequence of elements with the key encryption key; the driver unwraps it into a buffer of 0x200 bytes
and finds the elements there again.

* `wpaDecryptGtk_wrapped` — what the driver finds in key data that has been wrapped
-/

namespace Wifi

open Infra Infra.Mem

/-- Everything that is handed out fits. -/
structure KwResult.Fits (res : KwResult) (n : Nat) : Prop where
  outLen_le : res.outLen ≤ n
  output_le : res.output.length ≤ n

theorem KwResult.Fits.rejected (n : Nat) : KwResult.rejected.Fits n :=
  ⟨Nat.zero_le n, Nat.zero_le n⟩

theorem KwResult.Fits.cleared (e : CipherError) {k n : Nat} (h : k ≤ n) :
    (KwResult.cleared e k).Fits n :=
  ⟨Nat.zero_le n, by rw [KwResult.cleared, List.length_replicate]; exact h⟩

/-- **Unwrapping stays in the buffer.** -/
theorem fits_nistKwUnwrap_kw (dec : CipherUpdate) {data : List UInt8} (hmem : data.length < 2 ^ 32)
    (outSize : Nat) : (nistKwUnwrap dec .kw data outSize).Fits outSize := by
  unfold nistKwUnwrap
  dsimp only
  by_cases hfits : outSize < u32 (data.length + 2 ^ 32 - 8)
  · rw [if_pos hfits]
    exact .rejected _
  rw [if_neg hfits]
  by_cases hlen : data.length < 24 ∨ data.length % 8 ≠ 0
  · rw [if_pos hlen]
    exact .rejected _
  rw [if_neg hlen]
  have hroom : data.length - 8 ≤ outSize := by
    unfold u32 at hfits
    omega
  obtain ⟨a, r, hr, hcount, -⟩ :=
    exists_semiblocksOf_cons (show 8 ≤ data.length by omega) (by omega)
  unfold nistKwUnwrapString
  rw [hr, List.headD_cons, List.tail_cons]
  cases hloop : kwUnwrapLoop dec a r with
  | error e => exact .cleared e (by omega)
  | ok s =>
    have hkeeps := foldlM_inv (KwLoop.Inside r.length)
      (fun _ _ _ hs hstep => inside_kwUnwrapStep hs hstep) ⟨rfl, by dsimp only; omega⟩ hloop
    dsimp only
    unfold kwCheck
    split
    · exact .cleared _ hroom
    · refine ⟨hroom, ?_⟩
      rw [length_semiblockBytes, hkeeps.1]
      omega

/-- `mbedtls_nist_kw_unwrap` as `wpa_decrypt_gtk` calls it. A length is a `u32`. -/
def unwrapKeyData (dec : CipherUpdate) (data : List UInt8) : KwResult :=
  if data.length < 2 ^ 32 then nistKwUnwrap dec .kw data 0x200 else .rejected

theorem fits_unwrapKeyData (dec : CipherUpdate) (data : List UInt8) :
    (unwrapKeyData dec data).Fits 0x200 := by
  unfold unwrapKeyData
  split
  · exact fits_nistKwUnwrap_kw dec ‹_› _
  · exact .rejected _

/-- The cryptography of the driver: HMAC-SHA-1, and a block cipher with a key. -/
def Crypto.ofCipher (sha1Hmac : List UInt8 → List UInt8 → Vector UInt8 20)
    (dec : List UInt8 → CipherUpdate) : Crypto where
  sha1Hmac
  nistKwUnwrap kek data := {
    status := (unwrapKeyData (dec kek) data).ret
    outLen := (unwrapKeyData (dec kek) data).outLen
    output := (unwrapKeyData (dec kek) data).output
    outLen_le := (fits_unwrapKeyData (dec kek) data).outLen_le
    output_le := (fits_unwrapKeyData (dec kek) data).output_le }

/-- The group key in a sequence of elements. -/
def GtkKeyinfo.ofElements (es : List Element) : GtkKeyinfo :=
  (es.filter IsGtkKde).foldl copyKde zero

/-- **The driver finds the elements that have been wrapped**, whatever is on its stack. -/
theorem wpaDecryptGtk_wrapped {enc : CipherUpdate} {dec : List UInt8 → CipherUpdate}
    (sha1Hmac : List UInt8 → List UInt8 → Vector UInt8 20) (kek : List UInt8)
    (hdec : Decrypts (dec kek) enc) (es : List Element) {outSize : Nat}
    (hret : (nistKwWrap enc .kw (elementsBytes es) outSize).ret = 0)
    (hlen : (elementsBytes es).length ≤ 0x200) (stack : Mem) :
    (Crypto.ofCipher sha1Hmac dec).wpaDecryptGtk kek
      (nistKwWrap enc .kw (elementsBytes es) outSize).text stack = .ofElements es := by
  have hunwrap : unwrapKeyData (dec kek) (nistKwWrap enc .kw (elementsBytes es) outSize).text =
      ⟨0, (elementsBytes es).length, elementsBytes es⟩ := by
    have hback := nistKwUnwrap_kw_wrapped hdec (by omega) hret hlen
    have hmem : (nistKwWrap enc .kw (elementsBytes es) outSize).text.length < 2 ^ 32 := by
      rw [length_text_nistKwWrap_kw hdec hret]
      omega
    rw [unwrapKeyData, if_pos hmem, hback]
  have hstored : loadBytes (stack.storeBytes 0 (elementsBytes es)) 0 (elementsBytes es).length =
      elementsBytes es := loadBytes_storeBytes _ _ _
  unfold Crypto.wpaDecryptGtk Crypto.ofCipher
  dsimp only
  rw [hunwrap]
  dsimp only
  rw [walk_gtkEntry, readElements_elements hstored (Nat.zero_add _).symm]
  rfl

-- A KDE with a group key for AES, and a cipher that is easily taken back.
example :
    (Crypto.ofCipher (fun _ _ => Vector.replicate 20 0) fun _ => swapCipher).wpaDecryptGtk []
      (nistKwWrap swapCipher .kw (elementsBytes [Wpa.aesKde]) 32).text (fun _ => 0) =
      .ofElements [Wpa.aesKde] :=
  wpaDecryptGtk_wrapped _ _ decrypts_swapCipher _ (by decide) (by decide) _

end Wifi
