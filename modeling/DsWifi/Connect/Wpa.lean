import DsWifi.Common.Random
import DsWifi.Connect.Twl
import DsWifi.Infra.Elements

/-!
# The WPA2 handshake (TWL)

`data_handle_auth` and what it calls (`source/arm7/twl/ath/wmi.twl.c`, `ieee/wpa.twl.c`). HMAC-SHA-1
and the AES key wrap of mbedtls are parameters. The packets that the handshake sends to the card are
kept in order.

* `Wpa.dataHandleAuth_toTwl` — the flags that the update looks at
-/

namespace Wifi

open Infra Infra.Mem

/-! ## Cryptography -/

/-- What `mbedtls_nist_kw_unwrap` leaves: its status, the length, and what it has written. -/
structure KwUnwrapped where
  status : Int
  outLen : Nat
  output : List UInt8
  outLen_le : outLen ≤ 0x200
  output_le : output.length ≤ 0x200

/-- What is used of mbedtls. -/
structure Crypto where
  /-- `sha1_hmac`. -/
  sha1Hmac (key input : List UInt8) : Vector UInt8 20
  /-- `mbedtls_nist_kw_unwrap`. -/
  nistKwUnwrap (kek data : List UInt8) : KwUnwrapped

/-- `ptk_keyinfo`. -/
structure PtkKeyinfo where
  kck : List UInt8
  kek : List UInt8
  tk : List UInt8
  micTx : List UInt8
  micRx : List UInt8
  deriving DecidableEq, Repr

/-- `gtk_keyinfo`: key type, index, an unknown byte and the key. -/
structure GtkKeyinfo where
  bytes : List UInt8
  deriving DecidableEq, Repr

namespace GtkKeyinfo

def zero : GtkKeyinfo := ⟨List.replicate 38 0⟩

def keyidx (gtk : GtkKeyinfo) : UInt8 := gtk.bytes.getD 4 0

def key (gtk : GtkKeyinfo) : List UInt8 := gtk.bytes.drop 6

end GtkKeyinfo

/-- Whether the first difference makes `a` the larger one. -/
def arrIsMax : List UInt8 → List UInt8 → Bool
  | x :: a, y :: b => if x = y then arrIsMax a b else decide (y < x)
  | _, _ => false

/-- `get_arr_min`. -/
def getArrMin (a b : List UInt8) : List UInt8 := if arrIsMax a b then b else a

/-- `get_arr_max`. -/
def getArrMax (a b : List UInt8) : List UInt8 := if arrIsMax a b then a else b

namespace Crypto

variable (crypto : Crypto)

/-- `wpa_calc_mic`. -/
def wpaCalcMic (kck data : List UInt8) : List UInt8 := (crypto.sha1Hmac kck data).toList.take 16

/-- `wpa_calc_ptk`. -/
def wpaCalcPtk (devMac apMac : MacAddr) (devNonce apNonce pmk : List UInt8) : PtkKeyinfo :=
  let ptkData (iteration : UInt8) : List UInt8 :=
    "Pairwise key expansion".toList.map (fun c => UInt8.ofNat c.toNat) ++ [0] ++
      getArrMin devMac.toList apMac.toList ++ getArrMax devMac.toList apMac.toList ++
      getArrMin apNonce devNonce ++ getArrMax apNonce devNonce ++ [iteration]
  let ptkOut := [0, 1, 2, 3].flatMap fun i => (crypto.sha1Hmac pmk (ptkData i)).toList
  { kck := ptkOut.take 0x10
    kek := (ptkOut.drop 0x10).take 0x10
    tk := (ptkOut.drop 0x20).take 0x10
    micTx := (ptkOut.drop 0x30).take 0x8
    micRx := (ptkOut.drop 0x38).take 0x8 }

/-- One entry of the decrypted key data. -/
def gtkEntry (gtkDec : Mem) (entType entSize i : Nat) (out : GtkKeyinfo) : GtkKeyinfo :=
  if entType = 0xDD ∧ loadBytes gtkDec i 4 = [0x00, 0x0F, 0xAC, 0x01] ∧
      (entSize = 0x16 ∨ entSize = 0x26) then
    ⟨loadBytes gtkDec i entSize ++ out.bytes.drop entSize⟩
  else out

/-- `wpa_decrypt_gtk`, with what is on the stack at `gtk_dec`. Nothing looks at the status. -/
def wpaDecryptGtk (kek data : List UInt8) (stack : Mem) : GtkKeyinfo :=
  let unwrapped := crypto.nistKwUnwrap kek data
  let gtkDec := stack.storeBytes 0 unwrapped.output
  walk gtkDec (gtkEntry gtkDec) unwrapped.outLen 0 .zero

end Crypto

/-! ## Frames -/

/-- `getbe16`. -/
def getbe16 (m : Mem) (a : Nat) : Nat := 2 ^ 8 * (m a).toNat + (m (a + 1)).toNat

/-- `getbe64`. -/
def getbe64 (m : Mem) (a : Nat) : Nat :=
  (loadBytes m a 8).foldl (fun n b => 2 ^ 8 * n + b.toNat) 0

/-- `putbe16`. -/
def putbe16 (v : Nat) : List UInt8 := [UInt8.ofNat (v / 2 ^ 8), UInt8.ofNat v]

/-- `putbe64`. -/
def putbe64 (v : Nat) : List UInt8 :=
  [56, 48, 40, 32, 24, 16, 8, 0].map fun k => UInt8.ofNat (v / 2 ^ k)

/-- The arguments of `data_handle_auth`, and what is on the stack. -/
structure EapolKey where
  /-- `pkt_data`, and what is behind it. -/
  pktData : Mem
  /-- `dev_bssid`. -/
  devBssid : MacAddr
  /-- `ap_bssid_`. -/
  apBssid : MacAddr
  stack : Mem

namespace EapolKey

variable (frame : EapolKey)

def keyinfo : Nat := getbe16 frame.pktData 5

/-- `replay_counter_be`. -/
def replay : Nat := getbe64 frame.pktData 9

def wpaNonce : List UInt8 := loadBytes frame.pktData 17 32

def wpaRsc : List UInt8 := loadBytes frame.pktData 65 8

def wpaKeyMic : List UInt8 := loadBytes frame.pktData 81 16

/-- `wpa_keydata_len_be`. -/
def keydataLen : Nat := getbe16 frame.pktData 97

/-- The key data. -/
def body : List UInt8 := loadBytes frame.pktData 99 frame.keydataLen

end EapolKey

/-- The part of an answer that is authenticated. -/
def authBytes (keyinfo replayCnt : Nat) (nonce mic keydata : List UInt8) : List UInt8 :=
  [1, 3] ++ putbe16 (95 + keydata.length) ++ [2] ++ putbe16 keyinfo ++ putbe16 0 ++
    putbe64 replayCnt ++ nonce ++ List.replicate 16 0 ++ List.replicate 8 0 ++ List.replicate 8 0 ++
    mic ++ putbe16 keydata.length ++ keydata

/-- The three answers differ in these fields. -/
def answerBytes (crypto : Crypto) (kck : List UInt8) (dstBssid srcBssid : MacAddr)
    (keyinfo replayCnt : Nat) (nonce keydata : List UInt8) : List UInt8 :=
  let mic := crypto.wpaCalcMic kck
    (authBytes keyinfo replayCnt nonce (List.replicate 16 0) keydata)
  [0x00, 0x1C] ++ dstBssid.toList ++ srcBssid.toList ++ putbe16 (8 + 4 + (95 + keydata.length)) ++
    [0xAA, 0xAA, 0x03, 0, 0, 0, 0x88, 0x8E] ++ authBytes keyinfo replayCnt nonce mic keydata

/-! ## The card -/

/-- The parameters of `WMI_ADD_CIPHER_KEY_CMD`. -/
structure CipherKey where
  keyIndex : UInt8
  keyType : ApCryptType
  keyUsage : Nat
  keyLength : Nat
  keyRsc : List UInt8
  key : List UInt8
  deriving DecidableEq, Repr

/-- A packet to the card. -/
inductive CardPacket
  /-- `WMI_SYNCHRONIZE_CMD`. -/
  | synchronize (value : UInt8)
  | data (bytes : List UInt8)
  /-- `WMI_ADD_CIPHER_KEY_CMD`. -/
  | addCipherKey (params : CipherKey)

/-- The driver, with the state of the handshake. -/
structure Wpa extends Twl where
  /-- `curAp.group_crypt_type`. -/
  groupCryptType : ApCryptType
  random7 : UInt32
  hasSentHs2 : Bool
  deviceApNonce : List UInt8
  deviceNonce : List UInt8
  deviceApMic : List UInt8
  deviceGtkKeyinfo : GtkKeyinfo
  devicePtk : PtkKeyinfo
  /-- What has been sent to the card by the handshake. -/
  sent : List CardPacket

/-- The low bytes of `n` random numbers, and the state after them. -/
def randomBytes : Nat → UInt32 → List UInt8 × UInt32
  | 0, x => ([], x)
  | n + 1, x =>
    let x := wifiRandom x
    let (bytes, y) := randomBytes n x
    (UInt8.ofNat x.toNat :: bytes, y)

namespace Wpa

/-- `data_send_pkt`. -/
def dataSendPkt (s : Wpa) (bytes : List UInt8) : Wpa := { s with sent := s.sent ++ [.data bytes] }

/-- `wmi_send_pkt` with `WMI_SYNCHRONIZE_CMD`. -/
def wmiSynchronize (s : Wpa) (value : UInt8) : Wpa :=
  { s with sent := s.sent ++ [.synchronize value] }

/-- The parameters that `wmi_add_cipher_key` fills in. -/
def cipherKey (s : Wpa) (idx : UInt8) (usage : Nat) (key : List UInt8)
    (rsc : Option (List UInt8)) : CipherKey :=
  let cryptType := if usage = 1 then s.groupCryptType else .aes
  let cryptKeylen := if cryptType = .tkip then 0x20 else 0x10
  let wep := s.curAp.securityType = .wep
  let cryptType := if wep then .wep else cryptType
  let cryptKeylen := if wep then s.curApSecurity.pass.length else cryptKeylen
  let low := key.take (min cryptKeylen 0x10)
  let high := if 0x10 < cryptKeylen then (key.drop 0x18).take 8 ++ (key.drop 0x10).take 8
    else List.replicate 16 0
  { keyIndex := idx
    keyType := cryptType
    keyUsage := usage
    keyLength := cryptKeylen
    keyRsc := rsc.getD (List.replicate 8 0)
    key := low ++ List.replicate (0x10 - low.length) 0 ++ high }

/-- `wmi_add_cipher_key`. -/
def wmiAddCipherKey (s : Wpa) (idx : UInt8) (usage : Nat) (key : List UInt8)
    (rsc : Option (List UInt8)) : Wpa :=
  { s with sent := s.sent ++ [.addCipherKey (s.cipherKey idx usage key rsc)] }

/-- `wmi_post_handshake`. -/
def wmiPostHandshake (s : Wpa) (tk : List UInt8) (gtkInfo : GtkKeyinfo) (rsc : List UInt8) : Wpa :=
  let s := s.wmiSynchronize 1
  let s := (s.dataSendPkt [0x00, 0x02]).dataSendPkt [0x00, 0x02]
  let s := if s.curAp.securityType = .wpa2 then
    (s.wmiAddCipherKey 0 0 tk none).wmiAddCipherKey gtkInfo.keyidx 1 gtkInfo.key (some rsc) else s
  s.wmiSynchronize 1

variable (crypto : Crypto)

/-- `data_send_wpa_handshake2`. -/
def dataSendWpaHandshake2 (s : Wpa) (dstBssid srcBssid : MacAddr) (replayCnt : Nat) : Wpa :=
  let (nonce, random7) := randomBytes 32 s.random7
  let keydata : List UInt8 := [0x30, 0x14, 0x01, 0x00, 0x00, 0x0F, 0xAC,
    if s.groupCryptType = .aes then 0x04 else 0x02, 0x01, 0x00, 0x00, 0x0F, 0xAC, 0x04, 0x01, 0x00,
    0x00, 0x0F, 0xAC, 0x02, 0x00, 0x00]
  let devicePtk := crypto.wpaCalcPtk srcBssid dstBssid nonce s.deviceApNonce s.curApSecurity.pmk
  let s := { s with random7, deviceNonce := nonce, devicePtk }
  let s := s.dataSendPkt
    (answerBytes crypto devicePtk.kck dstBssid srcBssid 0x010A replayCnt nonce keydata)
  { s with hasSentHs2 := true }

/-- The flag that is set by the last answer of a handshake and by the one to a group message. -/
def setSentHs4 (s : Wpa) : Wpa :=
  { s with hasSentHs4 := true, monitor := { s.monitor with handshakeSince := true } }

/-- `data_send_wpa_handshake4`. -/
def dataSendWpaHandshake4 (s : Wpa) (dstBssid srcBssid : MacAddr) (replayCnt : Nat) : Wpa :=
  (s.dataSendPkt (answerBytes crypto s.devicePtk.kck dstBssid srcBssid 0x030A replayCnt
    (List.replicate 32 0) [])).setSentHs4

/-- `data_send_wpa_gtkrenew`. -/
def dataSendWpaGtkrenew (s : Wpa) (dstBssid srcBssid : MacAddr) (replayCnt : Nat) : Wpa :=
  (s.dataSendPkt (answerBytes crypto s.devicePtk.kck dstBssid srcBssid 0x0302 replayCnt
    (List.replicate 32 0) [])).setSentHs4

/-- `wpa_decrypt_gtk` and `wmi_post_handshake` with the keys of the driver. -/
def loadKeys (s : Wpa) (frame : EapolKey) : Wpa :=
  let s := { s with
    deviceGtkKeyinfo := crypto.wpaDecryptGtk s.devicePtk.kek frame.body frame.stack }
  s.wmiPostHandshake s.devicePtk.tk s.deviceGtkKeyinfo frame.wpaRsc

/-- `data_handle_auth`. -/
def dataHandleAuth (s : Wpa) (frame : EapolKey) : Wpa :=
  if frame.keyinfo = 0x008A then
    { s with deviceApNonce := frame.wpaNonce }.dataSendWpaHandshake2 crypto frame.apBssid
      frame.devBssid frame.replay
  else if frame.keyinfo = 0x13CA then
    let s := { s with deviceApMic := frame.wpaKeyMic }
    (s.dataSendWpaHandshake4 crypto frame.apBssid frame.devBssid frame.replay).loadKeys crypto frame
  else if frame.keyinfo = 0x1382 then
    (s.dataSendWpaGtkrenew crypto frame.apBssid frame.devBssid frame.replay).loadKeys crypto frame
  else s

/-- `wmi_handshake_done`. -/
def wmiHandshakeDone (s : Wpa) : Bool := s.hasSentHs4

/-- `wmi_connect`, up to `wpa_calc_pmk` if the key isn't there yet. Also whether it has returned. -/
def wmiConnect (s : Wpa) : Wpa × Bool :=
  let (t, returned) := s.toTwl.wmiConnect
  let reset := returned && !s.apConnecting && decide (s.curAp.securityType = .wpa2)
  ({ s with toTwl := t, hasSentHs2 := s.hasSentHs2 && !reset }, returned)

/-- The rest of `wmi_connect`, from the end of `wpa_calc_pmk`. -/
def wmiConnectResume (pmk : List UInt8) (s : Wpa) : Wpa :=
  { s with toTwl := s.toTwl.wmiConnectResume pmk, hasSentHs2 := false }

/-! ## The flags of the update -/

variable {crypto}

@[simp] theorem dataSendPkt_toTwl (s : Wpa) (bytes : List UInt8) :
    (s.dataSendPkt bytes).toTwl = s.toTwl := rfl

@[simp] theorem wmiSynchronize_toTwl (s : Wpa) (value : UInt8) :
    (s.wmiSynchronize value).toTwl = s.toTwl := rfl

@[simp] theorem wmiAddCipherKey_toTwl (s : Wpa) (idx : UInt8) (usage : Nat) (key : List UInt8)
    (rsc : Option (List UInt8)) : (s.wmiAddCipherKey idx usage key rsc).toTwl = s.toTwl := rfl

@[simp] theorem wmiPostHandshake_toTwl (s : Wpa) (tk : List UInt8) (gtk : GtkKeyinfo)
    (rsc : List UInt8) : (s.wmiPostHandshake tk gtk rsc).toTwl = s.toTwl := by
  unfold wmiPostHandshake
  by_cases h : s.curAp.securityType = .wpa2
  · simp [h]
  · simp [h]

/-- **A frame does to the flags what the update's model says.** -/
theorem dataHandleAuth_toTwl (s : Wpa) (frame : EapolKey) :
    (s.dataHandleAuth crypto frame).toTwl = s.toTwl.dataHandleAuth frame.keyinfo := by
  unfold dataHandleAuth Twl.dataHandleAuth
  by_cases h1 : frame.keyinfo = 0x008A
  · rw [if_pos h1, if_pos h1]
    rfl
  · rw [if_neg h1, if_neg h1]
    by_cases h3 : frame.keyinfo = 0x13CA
    · rw [if_pos h3, if_pos (.inl h3)]
      exact wmiPostHandshake_toTwl _ _ _ _
    · rw [if_neg h3]
      by_cases hgroup : frame.keyinfo = 0x1382
      · rw [if_pos hgroup, if_pos (.inr hgroup)]
        exact wmiPostHandshake_toTwl _ _ _ _
      · rw [if_neg hgroup, if_neg (by rintro (h | h); exacts [h3 h, hgroup h])]

end Wpa

end Wifi
