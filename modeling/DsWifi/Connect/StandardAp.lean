import DsWifi.Connect.Agreement
import DsWifi.Crypto.Cipher
import DsWifi.Crypto.Hmac

/-!
# An access point of the standard (TWL)

The driver with the cryptography of mbedtls, and an access point that encrypts with AES by its
definition. The tables of the driver are made on its stack.

* `Network.standard` — the network of the two
* `groupKey_of_standard` — the group key arrives, and nothing else is taken for one
* `legal_exampleHandshake` — the two can finish a handshake
-/

namespace Wifi

open Infra Mem

/-- The cipher that `wpa_decrypt_gtk` sets up. -/
def kekCipher (stack : AesStack) (kek : List UInt8) : CipherUpdate :=
  kwCipher (aesGenTables stack) (nistKwSetkey (aesGenTables stack) .aes kek 128 false)

/-- The cipher of an access point, which has keys of 128 bits. -/
def fipsUpdate (kek : List UInt8) : CipherUpdate := fun x =>
  if kek.length = 16 then .ok (fipsCipher kek x) else .error mbedtlsErrCipherBadInputData

section

variable (stack : AesStack) {kek : List UInt8}

theorem fipsUpdate_eq (hkek : kek.length = 16) : fipsUpdate kek = fun x => .ok (fipsCipher kek x) :=
  funext fun _ => if_pos hkek

theorem kekCipher_eq_ok (hkek : kek.length = 16) {x y : Semiblock × Semiblock} :
    kekCipher stack kek y = .ok x ↔ fipsCipher kek x = y := by
  have hback := @nistKwSetkey_unwrap stack kek (.inl hkek) x y
  rwa [hkek] at hback

/-- **The driver decrypts what the access point encrypts.** -/
theorem decrypts_kekCipher (kek : List UInt8) :
    Decrypts (kekCipher stack kek) (fipsUpdate kek) := by
  intro x y h
  by_cases hkek : kek.length = 16
  · rw [fipsUpdate_eq hkek] at h
    exact (kekCipher_eq_ok stack hkek).mpr (Except.ok.inj h)
  · rw [fipsUpdate, if_neg hkek] at h
    cases h

theorem decrypts_fipsUpdate (hkek : kek.length = 16) :
    Decrypts (fipsUpdate kek) (kekCipher stack kek) := by
  intro y x h
  rw [fipsUpdate_eq hkek]
  exact congrArg _ ((kekCipher_eq_ok stack hkek).mp h)

/-- The driver as it is built, and an access point of the standard. -/
def Network.standard (pmk : List UInt8) (apMac staMac : MacAddr) : Network where
  sha1Hmac := Wifi.sha1Hmac
  enc := fipsUpdate
  dec := kekCipher stack
  pmk
  apMac
  staMac
  decrypts := decrypts_kekCipher stack

/-- A cipher that does not fail wraps every array. -/
theorem exists_foldlM_kwWrapStep (f : Semiblock × Semiblock → Semiblock × Semiblock)
    (ts : List Nat) (s : KwLoop) :
    ∃ s', ts.foldlM (kwWrapStep fun x => .ok (f x)) s = .ok s' := by
  induction ts generalizing s with
  | nil => exact ⟨s, rfl⟩
  | cons t ts ih =>
    obtain ⟨u, hu⟩ : ∃ u, kwWrapStep (fun x => .ok (f x)) s t = .ok u :=
      ⟨_, kwWrapStep_eq_ok.mpr ⟨_, rfl, rfl⟩⟩
    obtain ⟨s', hs'⟩ := ih u
    exact ⟨s', foldlM_cons_eq_ok.mpr ⟨u, hu, hs'⟩⟩

/-- Whole semiblocks, two at least, are wrapped. -/
theorem ret_nistKwWrap_kw (f : Semiblock × Semiblock → Semiblock × Semiblock) {input : List UInt8}
    {outSize : Nat} (hlen : 16 ≤ input.length) (hmod : input.length % 8 = 0)
    (hsize : input.length + 8 ≤ outSize) :
    (nistKwWrap (fun x => .ok (f x)) .kw input outSize).ret = 0 := by
  have hcount := length_semiblocksOf hmod
  have hroom : ¬ outSize < u32 (input.length + 8) := by
    unfold u32
    omega
  obtain ⟨s, hs⟩ := exists_foldlM_kwWrapStep f (kwTimes (semiblocksOf input).length)
    ⟨nistKwIcv1, semiblocksOf input, 0⟩
  unfold nistKwWrap
  dsimp only
  rw [if_neg hroom, if_neg (by omega)]
  unfold nistKwWrapString kwWrapLoop
  rw [hs, if_neg (by decide), if_neg (by unfold minSemiblocksCount; omega)]

/-- **A group key arrives from an access point of the standard**, in whatever elements it is sent
and whatever is on the stack of the driver. What the driver unwraps at all is what that access point
would have wrapped. -/
theorem groupKey_of_standard (hkek : kek.length = 16) :
    (∀ es outSize, 16 ≤ (elementsBytes es).length → (elementsBytes es).length % 8 = 0 →
      (elementsBytes es).length ≤ 0x200 → (elementsBytes es).length + 8 ≤ outSize →
      ∀ gtkDec, (Crypto.device (kekCipher stack)).wpaDecryptGtk kek
        (nistKwWrap (fipsUpdate kek) .kw (elementsBytes es) outSize).text gtkDec =
          .ofElements es) ∧
    ∀ data, data.length < 2 ^ 32 → (unwrapKeyData (kekCipher stack kek) data).ret = 0 →
      nistKwWrap (fipsUpdate kek) .kw (unwrapKeyData (kekCipher stack kek) data).text
        data.length = ⟨0, data.length, data⟩ := by
  constructor
  · intro es outSize hlen hmod hfits hsize gtkDec
    have hret := ret_nistKwWrap_kw (fipsCipher kek) hlen hmod hsize
    rw [← fipsUpdate_eq hkek] at hret
    exact wpaDecryptGtk_wrapped _ kek (decrypts_kekCipher stack kek) es hret hfits gtkDec
  · intro data hmem hret
    rw [unwrapKeyData, if_pos hmem] at hret ⊢
    exact nistKwWrap_kw_unwrapped (decrypts_fipsUpdate stack hkek) hmem hret (Nat.le_refl _)

/-- One element with a group key for AES, and a key of zeros. -/
theorem groupKey_of_standard_zeros : (Crypto.device (kekCipher .zero)).wpaDecryptGtk
    (List.replicate 16 0) (nistKwWrap (fipsUpdate (List.replicate 16 0)) .kw
      (elementsBytes [Wpa.aesKde]) 32).text (fun _ => 0) = .ofElements [Wpa.aesKde] :=
  (groupKey_of_standard .zero rfl).1 [Wpa.aesKde] 32 (by decide) (by decide) (by decide)
    (by decide) _

end

/-! ## One handshake -/

theorem length_kek_wpaCalcPtk (crypto : Crypto) (devMac apMac : MacAddr)
    (devNonce apNonce pmk : List UInt8) :
    (crypto.wpaCalcPtk devMac apMac devNonce apNonce pmk).kek.length = 16 := by
  simp [Crypto.wpaCalcPtk]

/-- The key that encrypts key data, when there is one. -/
def Phase.kek : Phase → List UInt8
  | .keyed ptk => ptk.kek
  | _ => []

namespace Authenticator

/-- The pairwise key can encrypt key data. -/
def Encrypts (ap : Authenticator) : Prop := ∀ ptk, ap.phase = .keyed ptk → ptk.kek.length = 16

theorem Encrypts.take {ap : Authenticator} (h : ap.Encrypts) {net : Network} {a : Answer}
    {ap' : Authenticator} (htaken : ap.take net a = some ap') : ap'.Encrypts := by
  intro ptk hphase
  unfold Authenticator.take at htaken
  split at htaken
  · cases htaken
  · split at htaken
    · cases htaken
      cases hphase
      exact length_kek_wpaCalcPtk ..
    · cases htaken
  · split at htaken
    · cases htaken
      exact h ptk (by assumption)
    · cases htaken

end Authenticator

namespace Link

theorem encrypts_step (net : Network) (l : Link) (e : Event) (h : l.ap.Encrypts) :
    (step net l e).ap.Encrypts := by
  cases e with
  | start =>
    intro ptk hphase
    cases hphase
  | sendKeys =>
    rw [step]
    split <;> exact h
  | handle =>
    rw [step]
    split <;> exact h
  | receive =>
    rw [step]
    split
    · exact h
    · next a _ _ =>
      -- This is the only event that can give the access point a key.
      dsimp only
      split
      · cases htaken : l.ap.take net a with
        | none => exact h
        | some ap' => exact h.take htaken
      · exact h
  | loseRequest => exact h
  | loseAnswer => exact h

/-- The console and the access point have the key of `joiningWpa`. -/
def exampleNetwork : Network := .standard .zero (.replicate 32 1) wifiReplyMac exampleMac

/-- What a message has in front of its key data. -/
def exampleHeader (keyinfo replay size : Nat) : List UInt8 :=
  [2, 3] ++ putbe16 (95 + size) ++ [2] ++ putbe16 keyinfo ++ putbe16 16 ++ putbe64 replay ++
    List.replicate 80 0 ++ putbe16 size

/-- A message with this key data. -/
def exampleMessage (keyinfo replay : Nat) (keydata : List UInt8) : EapolKey where
  pktData := Mem.storeBytes (Mem.storeBytes (fun _ => 0) 0
    (exampleHeader keyinfo replay keydata.length)) 99 keydata
  devBssid := exampleMac
  apBssid := wifiReplyMac
  stack := fun _ => 0

/-- Message 1/4. -/
def exampleFirst : EapolKey := exampleMessage keyinfoMessage1 1 []

/-- The first half of a handshake. -/
def exampleHalf : List Event := [.start (Vector.replicate 32 0) exampleFirst, .handle, .receive]

/-- The key that encrypts key data after it. -/
def exampleKek : List UInt8 :=
  (run (step exampleNetwork) (begin Wpa.joiningWpa 0) exampleHalf).ap.phase.kek

/-- An element with a group key, wrapped. -/
def exampleKeydata : List UInt8 :=
  (nistKwWrap (fipsUpdate exampleKek) .kw (elementsBytes [Wpa.aesKde]) 32).text

/-- Message 3/4. -/
def exampleThird : EapolKey := exampleMessage keyinfoMessage3 2 exampleKeydata

section

variable {keydata : List UInt8}

/-- The header is where the frame starts. -/
theorem pktData_exampleMessage {keyinfo replay a : Nat} (h : a < 99) :
    (exampleMessage keyinfo replay keydata).pktData a =
      Mem.storeBytes (fun _ => 0) 0 (exampleHeader keyinfo replay keydata.length) a :=
  storeBytes_of_lt h

/-- The key data is read back, whatever the wrapped bytes are. -/
theorem read_exampleMessage (hlen : keydata.length = 32) :
    (exampleMessage keyinfoMessage3 2 keydata).keyinfo = keyinfoMessage3 ∧
      (exampleMessage keyinfoMessage3 2 keydata).replay = 2 ∧
      (exampleMessage keyinfoMessage3 2 keydata).body = keydata := by
  have hhead : ∀ a < 99, (exampleMessage keyinfoMessage3 2 keydata).pktData a =
      Mem.storeBytes (fun _ => 0) 0 (exampleHeader keyinfoMessage3 2 32) a := by
    intro a h
    rw [pktData_exampleMessage h, hlen]
  have hsize : (exampleMessage keyinfoMessage3 2 keydata).keydataLen = 32 := by
    unfold EapolKey.keydataLen getbe16
    rw [hhead 97 (by decide), hhead 98 (by decide)]
    decide
  refine ⟨?_, ?_, ?_⟩
  · unfold EapolKey.keyinfo getbe16
    rw [hhead 5 (by decide), hhead 6 (by decide)]
    decide
  · have hload : loadBytes (exampleMessage keyinfoMessage3 2 keydata).pktData 9 8 =
        loadBytes (Mem.storeBytes (fun _ => 0) 0 (exampleHeader keyinfoMessage3 2 32)) 9 8 :=
      loadBytes_congr fun a ha => hhead a (by have := ha.2; omega)
    unfold EapolKey.replay getbe64
    rw [hload]
    decide
  · have hload : loadBytes (exampleMessage keyinfoMessage3 2 keydata).pktData 99 keydata.length =
        keydata := loadBytes_storeBytes _ _ _
    unfold EapolKey.body
    rwa [hsize, ← hlen]

end

/-- Both sides have a key, and the access point can encrypt with it. -/
theorem keyed_exampleHalf :
    Legal exampleNetwork (begin Wpa.joiningWpa 0) (.start (Vector.replicate 32 0) exampleFirst) ∧
    ∃ ptk, (run (step exampleNetwork) (begin Wpa.joiningWpa 0) exampleHalf).ap.phase =
        .keyed ptk ∧
      (run (step exampleNetwork) (begin Wpa.joiningWpa 0) exampleHalf).ap.replay = 1 ∧
      exampleKek = ptk.kek ∧ exampleKek.length = 16 := by
  have hfirst : Legal exampleNetwork (begin Wpa.joiningWpa 0)
      (.start (Vector.replicate 32 0) exampleFirst) :=
    ⟨by decide, by decide, by decide, rfl, rfl⟩
  have hbegin : Inv exampleNetwork (begin Wpa.joiningWpa 0) := .begin rfl rfl 0
  obtain ⟨-, -, hreplay, ptk, hphase⟩ := hbegin.keyed_of_start (idle_begin _ 0) hfirst
  have hhalf : exampleHalf = [.start (Vector.replicate 32 0) exampleFirst, .handle, .receive] := rfl
  rw [← hhalf] at hphase hreplay
  -- The key comes from the PRF, so that it has the length that AES asks for.
  have hencrypts : (run (step exampleNetwork) (begin Wpa.joiningWpa 0) exampleHalf).ap.Encrypts :=
    run_inv (fun l => l.ap.Encrypts) (fun _ => True)
      (fun l e h _ => encrypts_step exampleNetwork l e h) (by intro ptk h; cases h) (by simp)
  have hkek : exampleKek = ptk.kek := congrArg Phase.kek hphase
  have hlen : exampleKek.length = 16 := (congrArg List.length hkek).trans (hencrypts ptk hphase)
  exact ⟨hfirst, ptk, hphase, hreplay.trans (by decide), hkek, hlen⟩

theorem wraps_exampleThird (hkek : exampleKek.length = 16) :
    Wraps (fipsUpdate exampleKek) Wpa.aesKde exampleThird ∧
      exampleThird.keyinfo = keyinfoMessage3 ∧ exampleThird.replay = 2 := by
  have hkde : [Wpa.aesKde].filter IsGtkKde = [Wpa.aesKde] :=
    List.filter_cons_of_pos (by decide)
  have hret : (nistKwWrap (fipsUpdate exampleKek) .kw (elementsBytes [Wpa.aesKde]) 32).ret = 0 := by
    rw [fipsUpdate_eq hkek]
    exact ret_nistKwWrap_kw (fipsCipher exampleKek) (by decide) (by decide) (by decide)
  have hlen : exampleKeydata.length = 32 :=
    length_text_nistKwWrap_kw (decrypts_kekCipher .zero exampleKek) hret
  obtain ⟨hkeyinfo, hreplay, hbody⟩ := read_exampleMessage hlen
  exact ⟨⟨[Wpa.aesKde], 32, hkde, by decide, hret, hbody⟩, hkeyinfo, hreplay⟩

theorem legal_exampleHandshake : Along (step exampleNetwork) (Legal exampleNetwork)
    (begin Wpa.joiningWpa 0)
    (handshake (Vector.replicate 32 0) exampleFirst Wpa.aesKde exampleThird) := by
  obtain ⟨hfirst, ptk, hphase, hreplay, hkek, hlen⟩ := keyed_exampleHalf
  obtain ⟨hwraps, hkeyinfo, hnext⟩ := wraps_exampleThird hlen
  rw [hkek] at hwraps
  have hthird : Legal exampleNetwork
      (run (step exampleNetwork) (begin Wpa.joiningWpa 0) exampleHalf)
      (.sendKeys Wpa.aesKde exampleThird) :=
    ⟨.inl hkeyinfo, by rw [hreplay, hnext]; decide, ptk, hphase, hwraps⟩
  have hhalf : Along (step exampleNetwork) (Legal exampleNetwork) (begin Wpa.joiningWpa 0)
      exampleHalf := ⟨hfirst, trivial, trivial, trivial⟩
  have hrest : Along (step exampleNetwork) (Legal exampleNetwork)
      (run (step exampleNetwork) (begin Wpa.joiningWpa 0) exampleHalf)
      [.sendKeys Wpa.aesKde exampleThird, .handle, .receive] :=
    ⟨hthird, trivial, trivial, trivial⟩
  exact (along_append _ _).mpr ⟨hhalf, hrest⟩

theorem handshake_agrees_standard :
    Along (step exampleNetwork) (Agrees exampleNetwork) (begin Wpa.joiningWpa 0)
      (handshake (Vector.replicate 32 0) exampleFirst Wpa.aesKde exampleThird) ∧
    (run (step exampleNetwork) (begin Wpa.joiningWpa 0)
      (handshake (Vector.replicate 32 0) exampleFirst Wpa.aesKde exampleThird)).Settled :=
  handshake_agrees exampleNetwork Wpa.joiningWpa_connects rfl 0 legal_exampleHandshake

theorem handshake_completes_standard :
    (run (step exampleNetwork) (begin Wpa.joiningWpa 0)
      ([] ++ handshake (Vector.replicate 32 0) exampleFirst Wpa.aesKde exampleThird)).ap.done =
        true := by
  obtain ⟨-, -, -, -, -, hlen⟩ := keyed_exampleHalf
  exact handshake_completes exampleNetwork Wpa.joiningWpa_connects rfl 0 []
    (idle_begin Wpa.joiningWpa 0) (wraps_exampleThird hlen).2.1 legal_exampleHandshake

end Link

end Wifi
