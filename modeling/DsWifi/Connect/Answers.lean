import DsWifi.Connect.GroupKey
import DsWifi.Infra.BigEndian

/-!
# The answers of the handshake (TWL)

What the three `data_send_wpa_*` functions send, as an access point reads it: the key information,
the replay counter, the nonce, and the MIC with the bytes that it protects.

* `Answer.read_answerBytes` — an answer is read back
* `dataHandleAuth_answers` — what a frame is answered with
-/

namespace Wifi

open Infra Infra.Mem

/-! ## Numbers -/

theorem length_putbe16 (v : Nat) : (putbe16 v).length = 2 := rfl

theorem putbe16_eq (v : Nat) : putbe16 v = beBytes 2 v := by
  simp [putbe16, beBytes]

theorem beNumber_putbe16 {v : Nat} (h : v < 2 ^ 16) : beNumber (putbe16 v) = v := by
  rw [putbe16_eq]
  exact beNumber_beBytes h

theorem beNumber_putbe64 {v : Nat} (h : v < 2 ^ 64) : beNumber (putbe64 v) = v :=
  @beNumber_beBytes 8 v h

namespace EapolKey

theorem replay_lt (frame : EapolKey) : frame.replay < 2 ^ 64 := by
  have h := beNumber_lt (loadBytes frame.pktData 9 8)
  rwa [length_loadBytes] at h

end EapolKey

theorem length_randomBytes (n : Nat) (x : UInt32) : (randomBytes n x).1.length = n := by
  induction n generalizing x with
  | zero => rfl
  | succ n ih => exact congrArg (· + 1) (ih (wifiRandom x))

/-! ## Reading an answer -/

/-- What an access point reads of an answer. -/
structure Answer where
  keyinfo : Nat
  replay : Nat
  nonce : List UInt8
  mic : List UInt8
  /-- The authenticated part, with zeros in the place of the MIC. -/
  signed : List UInt8

/-- Read a data packet: 24 bytes of headers, then the authenticated part. -/
def Answer.read (packet : List UInt8) : Option Answer :=
  let auth := packet.drop 24
  if auth.length < 99 then none
  else some {
    keyinfo := beNumber ((auth.drop 5).take 2)
    replay := beNumber ((auth.drop 9).take 8)
    nonce := (auth.drop 17).take 32
    mic := (auth.drop 81).take 16
    signed := auth.take 81 ++ List.replicate 16 0 ++ auth.drop 97 }

/-- The MIC belongs to what has been signed. -/
def Answer.Verifies (crypto : Crypto) (kck : List UInt8) (a : Answer) : Prop :=
  a.mic = crypto.wpaCalcMic kck a.signed

instance (crypto : Crypto) (kck : List UInt8) (a : Answer) : Decidable (a.Verifies crypto kck) :=
  inferInstanceAs (Decidable (_ = _))

/-- What is to be read of an answer. -/
def Crypto.answer (crypto : Crypto) (kck : List UInt8) (keyinfo replayCnt : Nat)
    (nonce keydata : List UInt8) : Answer where
  keyinfo
  replay := replayCnt
  nonce
  mic := crypto.wpaCalcMic kck (authBytes keyinfo replayCnt nonce (List.replicate 16 0) keydata)
  signed := authBytes keyinfo replayCnt nonce (List.replicate 16 0) keydata

theorem Crypto.verifies_answer (crypto : Crypto) (kck : List UInt8) (keyinfo replayCnt : Nat)
    (nonce keydata : List UInt8) :
    (crypto.answer kck keyinfo replayCnt nonce keydata).Verifies crypto kck := rfl

/-- The authenticated part up to the nonce. -/
def authHead (keyinfo replayCnt : Nat) (keydata : List UInt8) : List UInt8 :=
  [1, 3] ++ putbe16 (95 + keydata.length) ++ [2] ++ putbe16 keyinfo ++ putbe16 0 ++
    putbe64 replayCnt

theorem length_authHead (keyinfo replayCnt : Nat) (keydata : List UInt8) :
    (authHead keyinfo replayCnt keydata).length = 17 := rfl

/-- The authenticated part up to the MIC, the MIC, and what is behind it. -/
theorem authBytes_eq (keyinfo replayCnt : Nat) (nonce mic keydata : List UInt8) :
    authBytes keyinfo replayCnt nonce mic keydata =
      (authHead keyinfo replayCnt keydata ++ nonce ++ List.replicate 32 0) ++
        (mic ++ (putbe16 keydata.length ++ keydata)) := by
  have hzeros : List.replicate 32 (0 : UInt8) = List.replicate 16 0 ++ (List.replicate 8 0 ++
      List.replicate 8 0) := rfl
  simp only [authBytes, authHead, hzeros, List.append_assoc]

section

variable {keyinfo replayCnt : Nat} {nonce mic keydata : List UInt8}

theorem length_authPrefix (hnonce : nonce.length = 32) :
    (authHead keyinfo replayCnt keydata ++ nonce ++ List.replicate 32 (0 : UInt8)).length = 81 := by
  rw [List.length_append, List.length_append, length_authHead, hnonce, List.length_replicate]

theorem length_authBytes (hnonce : nonce.length = 32) (hmic : mic.length = 16) :
    (authBytes keyinfo replayCnt nonce mic keydata).length = 99 + keydata.length := by
  rw [authBytes_eq, List.length_append, length_authPrefix hnonce, List.length_append, hmic,
    List.length_append, length_putbe16]
  omega

/-- The numbers are before the nonce. -/
theorem take_drop_authBytes {i n : Nat} (h : i + n ≤ 17) :
    ((authBytes keyinfo replayCnt nonce mic keydata).drop i).take n =
      ((authHead keyinfo replayCnt keydata).drop i).take n := by
  have hlen := length_authHead keyinfo replayCnt keydata
  rw [authBytes_eq, List.append_assoc, List.append_assoc,
    List.drop_append_of_le_length (by omega),
    List.take_append_of_le_length (by rw [List.length_drop]; omega)]

theorem nonce_authBytes (hnonce : nonce.length = 32) :
    ((authBytes keyinfo replayCnt nonce mic keydata).drop 17).take 32 = nonce := by
  rw [authBytes_eq, List.append_assoc, List.append_assoc,
    List.drop_left' (length_authHead _ _ _), List.take_left' hnonce]

theorem mic_authBytes (hnonce : nonce.length = 32) (hmic : mic.length = 16) :
    ((authBytes keyinfo replayCnt nonce mic keydata).drop 81).take 16 = mic := by
  rw [authBytes_eq, List.drop_left' (length_authPrefix hnonce), List.take_left' hmic]

/-- The MIC is replaced by zeros. -/
theorem signed_authBytes (hnonce : nonce.length = 32) (hmic : mic.length = 16) :
    (authBytes keyinfo replayCnt nonce mic keydata).take 81 ++ List.replicate 16 0 ++
      (authBytes keyinfo replayCnt nonce mic keydata).drop 97 =
    authBytes keyinfo replayCnt nonce (List.replicate 16 0) keydata := by
  have hdrop : (authBytes keyinfo replayCnt nonce mic keydata).drop 97 =
      putbe16 keydata.length ++ keydata := by
    rw [authBytes_eq, ← List.append_assoc _ mic]
    exact List.drop_left' (by rw [List.length_append, length_authPrefix hnonce, hmic])
  have htake : (authBytes keyinfo replayCnt nonce mic keydata).take 81 =
      authHead keyinfo replayCnt keydata ++ nonce ++ List.replicate 32 0 := by
    rw [authBytes_eq]
    exact List.take_left' (length_authPrefix hnonce)
  rw [hdrop, htake, authBytes_eq, List.append_assoc]

end

theorem length_wpaCalcMic (crypto : Crypto) (kck data : List UInt8) :
    (crypto.wpaCalcMic kck data).length = 16 := by
  simp [Crypto.wpaCalcMic]

/-- **An answer is read back.** -/
theorem Answer.read_answerBytes (crypto : Crypto) (kck : List UInt8) (dstBssid srcBssid : MacAddr)
    {keyinfo replayCnt : Nat} {nonce : List UInt8} (hinfo : keyinfo < 2 ^ 16)
    (hreplay : replayCnt < 2 ^ 64) (hnonce : nonce.length = 32) (keydata : List UInt8) :
    Answer.read (answerBytes crypto kck dstBssid srcBssid keyinfo replayCnt nonce keydata) =
      some (crypto.answer kck keyinfo replayCnt nonce keydata) := by
  let mic := crypto.wpaCalcMic kck
    (authBytes keyinfo replayCnt nonce (List.replicate 16 0) keydata)
  have hmic : mic.length = 16 := length_wpaCalcMic _ _ _
  have hdrop : (answerBytes crypto kck dstBssid srcBssid keyinfo replayCnt nonce keydata).drop 24 =
      authBytes keyinfo replayCnt nonce mic keydata := by
    unfold answerBytes
    dsimp only
    refine List.drop_left' ?_
    simp only [List.length_append, Vector.length_toList, length_putbe16]
    rfl
  have hlen : (authBytes keyinfo replayCnt nonce mic keydata).length = 99 + keydata.length :=
    length_authBytes hnonce hmic
  have hkeyinfo : ((authHead keyinfo replayCnt keydata).drop 5).take 2 = putbe16 keyinfo := rfl
  have hcounter : ((authHead keyinfo replayCnt keydata).drop 9).take 8 = putbe64 replayCnt := rfl
  unfold Answer.read
  dsimp only
  rw [hdrop, if_neg (by omega), take_drop_authBytes (by decide), take_drop_authBytes (by decide),
    hkeyinfo, hcounter, beNumber_putbe16 hinfo, beNumber_putbe64 hreplay, nonce_authBytes hnonce,
    mic_authBytes hnonce hmic, signed_authBytes hnonce hmic]
  rfl

/-! ## What is sent -/

/-- The answer that a packet to the card carries. -/
def CardPacket.answer? : CardPacket → Option Answer
  | .data bytes => Answer.read bytes
  | _ => none

namespace Wpa

variable {crypto : Crypto} {s : Wpa} {frame : EapolKey}

/-- The answers that have been sent. -/
def answers (s : Wpa) : List Answer := s.sent.filterMap CardPacket.answer?

/-- What a frame is answered with. -/
def newAnswers (crypto : Crypto) (s : Wpa) (frame : EapolKey) : List Answer :=
  (s.dataHandleAuth crypto frame).answers.drop s.answers.length

/-- The key data of a message 2/4. -/
def keydata2 (groupCryptType : ApCryptType) : List UInt8 :=
  [0x30, 0x14, 0x01, 0x00, 0x00, 0x0F, 0xAC, if groupCryptType = .aes then 0x04 else 0x02,
    0x01, 0x00, 0x00, 0x0F, 0xAC, 0x04, 0x01, 0x00, 0x00, 0x0F, 0xAC, 0x02, 0x00, 0x00]

theorem answers_dataSendPkt (s : Wpa) (bytes : List UInt8) :
    (s.dataSendPkt bytes).answers = s.answers ++ (Answer.read bytes).toList := by
  cases h : Answer.read bytes <;> simp [answers, dataSendPkt, CardPacket.answer?, h]

@[simp] theorem answers_dataSendPkt_empty (s : Wpa) :
    (s.dataSendPkt [0x00, 0x02]).answers = s.answers := by
  rw [answers_dataSendPkt]
  exact List.append_nil _

@[simp] theorem answers_wmiSynchronize (s : Wpa) (value : UInt8) :
    (s.wmiSynchronize value).answers = s.answers := by
  simp [answers, wmiSynchronize, CardPacket.answer?]

@[simp] theorem answers_wmiAddCipherKey (s : Wpa) (idx : UInt8) (usage : Nat) (key : List UInt8)
    (rsc : Option (List UInt8)) : (s.wmiAddCipherKey idx usage key rsc).answers = s.answers := by
  simp [answers, wmiAddCipherKey, CardPacket.answer?]

/-- Loading keys answers nothing. -/
theorem answers_loadKeys (s : Wpa) (frame : EapolKey) :
    (s.loadKeys crypto frame).answers = s.answers := by
  unfold loadKeys wmiPostHandshake
  dsimp only
  split <;> simp <;> rfl

/-- An answer is the only one that is new. -/
theorem newAnswers_eq {a : Answer}
    (h : (s.dataHandleAuth crypto frame).answers = s.answers ++ [a]) :
    newAnswers crypto s frame = [a] := by
  rw [newAnswers, h, List.drop_left]

theorem dataHandleAuth_message1 (hinfo : frame.keyinfo = keyinfoMessage1) :
    s.dataHandleAuth crypto frame = { s with deviceApNonce := frame.wpaNonce
      }.dataSendWpaHandshake2 crypto frame.apBssid frame.devBssid frame.replay :=
  if_pos hinfo

theorem dataHandleAuth_message3 (hinfo : frame.keyinfo = keyinfoMessage3) :
    s.dataHandleAuth crypto frame = ({ s with deviceApMic := frame.wpaKeyMic
      }.dataSendWpaHandshake4 crypto frame.apBssid frame.devBssid frame.replay).loadKeys
        crypto frame := by
  have hfirst : frame.keyinfo ≠ 0x008A := fun h => absurd (hinfo.symm.trans h) (by decide)
  exact (if_neg hfirst).trans (if_pos hinfo)

theorem dataHandleAuth_group (hinfo : frame.keyinfo = keyinfoGroup) :
    s.dataHandleAuth crypto frame =
      (s.dataSendWpaGtkrenew crypto frame.apBssid frame.devBssid frame.replay).loadKeys
        crypto frame := by
  have hfirst : frame.keyinfo ≠ 0x008A := fun h => absurd (hinfo.symm.trans h) (by decide)
  have hthird : frame.keyinfo ≠ 0x13CA := fun h => absurd (hinfo.symm.trans h) (by decide)
  exact ((if_neg hfirst).trans (if_neg hthird)).trans (if_pos hinfo)

/-- What is sent is read. -/
theorem answers_sent (crypto : Crypto) (s : Wpa) (frame : EapolKey) (kck : List UInt8)
    {keyinfo : Nat} (hinfo : keyinfo < 2 ^ 16) {nonce : List UInt8} (hnonce : nonce.length = 32)
    (keydata : List UInt8) :
    (s.dataSendPkt (answerBytes crypto kck frame.apBssid frame.devBssid keyinfo frame.replay nonce
      keydata)).answers =
      s.answers ++ [crypto.answer kck keyinfo frame.replay nonce keydata] := by
  rw [answers_dataSendPkt, Answer.read_answerBytes crypto kck _ _ hinfo frame.replay_lt hnonce]
  rfl

/-- **A message 1/4 is answered with the nonce that the key has been derived from.** -/
theorem newAnswers_message1 (crypto : Crypto) (s : Wpa)
    (hinfo : frame.keyinfo = keyinfoMessage1) :
    newAnswers crypto s frame = [crypto.answer (s.dataHandleAuth crypto frame).devicePtk.kck
      0x010A frame.replay (s.dataHandleAuth crypto frame).deviceNonce
      (keydata2 s.groupCryptType)] := by
  refine newAnswers_eq ?_
  rw [dataHandleAuth_message1 hinfo]
  exact answers_sent crypto s frame _ (by decide) (length_randomBytes 32 s.random7) _

/-- **A frame that loads keys is answered with the key that is there.** -/
theorem newAnswers_loads (crypto : Crypto) (s : Wpa) (hinfo : LoadsKeys frame.keyinfo) :
    newAnswers crypto s frame = [crypto.answer s.devicePtk.kck
      (if frame.keyinfo = keyinfoMessage3 then 0x030A else 0x0302) frame.replay
      (List.replicate 32 0) []] := by
  refine newAnswers_eq ?_
  have hzeros : (List.replicate 32 (0 : UInt8)).length = 32 := List.length_replicate
  rcases hinfo with hthird | hgroup
  · rw [dataHandleAuth_message3 hthird, answers_loadKeys, if_pos hthird]
    exact answers_sent crypto s frame _ (by decide) hzeros _
  · have hthird : frame.keyinfo ≠ keyinfoMessage3 := fun h =>
      absurd (hgroup.symm.trans h) (by decide)
    rw [dataHandleAuth_group hgroup, answers_loadKeys, if_neg hthird]
    exact answers_sent crypto s frame _ (by decide) hzeros _

theorem length_deviceNonce (crypto : Crypto) (s : Wpa) (hinfo : frame.keyinfo = keyinfoMessage1) :
    (s.dataHandleAuth crypto frame).deviceNonce.length = 32 := by
  rw [dataHandleAuth_message1 hinfo]
  exact length_randomBytes 32 s.random7

end Wpa

end Wifi
