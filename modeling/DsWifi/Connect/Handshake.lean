import DsWifi.Connect.Calls
import DsWifi.Connect.Wpa
import DsWifi.Infra.Run
import Mathlib.Data.List.Induction

/-!
# The order of the handshake

A message 1/4 is answered with a key that is derived from its nonce, and a message 3/4 or a group
message loads the key that has been derived last. Nothing asks whether this was in the same
connection. `has_sent_hs2` would tell, but it is only written.

* `handshake_in_order_iff` — which sequences of frames load keys in order
-/

namespace Wifi

open Infra Infra.Mem

/-! ## What is observed -/

/-- The key information of a message 1/4. -/
def keyinfoMessage1 : Nat := 0x008A

/-- The key information of a message 3/4. -/
def keyinfoMessage3 : Nat := 0x13CA

/-- The key information of a group message. -/
def keyinfoGroup : Nat := 0x1382

/-- The frame makes the driver load keys. -/
def LoadsKeys (keyinfo : Nat) : Prop := keyinfo = keyinfoMessage3 ∨ keyinfo = keyinfoGroup

instance (keyinfo : Nat) : Decidable (LoadsKeys keyinfo) := inferInstanceAs (Decidable (_ ∨ _))

theorem not_loadsKeys_message1 : ¬LoadsKeys keyinfoMessage1 := by decide

/-- The key that a packet hands to the card. -/
def CardPacket.key? : CardPacket → Option CipherKey
  | .addCipherKey params => some params
  | _ => none

namespace Wpa

variable {crypto : Crypto} {s : Wpa} {frame : EapolKey}

/-- The keys that have been handed to the card. -/
def cipherKeys (s : Wpa) : List CipherKey := s.sent.filterMap CardPacket.key?

/-- The pairwise key as it is handed to the card. -/
def pairwiseKey (ptk : PtkKeyinfo) : CipherKey where
  keyIndex := 0
  keyType := .aes
  keyUsage := 0
  keyLength := 0x10
  keyRsc := List.replicate 8 0
  key := ptk.tk.take 0x10 ++ List.replicate (0x10 - (ptk.tk.take 0x10).length) 0 ++
    List.replicate 16 0

/-- The group key of a frame as it is handed to the card. -/
def groupKey (crypto : Crypto) (s : Wpa) (ptk : PtkKeyinfo) (frame : EapolKey) : CipherKey :=
  let gtk := crypto.wpaDecryptGtk ptk.kek frame.body frame.stack
  s.cipherKey gtk.keyidx 1 gtk.key (some frame.wpaRsc)

/-! ## One frame -/

/-- What a frame does. -/
inductive Handles (crypto : Crypto) (s : Wpa) (frame : EapolKey) (s' : Wpa) : Prop
  | answered (hinfo : frame.keyinfo = keyinfoMessage1)
      (hptk : s'.devicePtk = crypto.wpaCalcPtk frame.devBssid frame.apBssid s'.deviceNonce
        frame.wpaNonce s.curApSecurity.pmk)
      (hs2 : s'.hasSentHs2 = true) (hs4 : s'.hasSentHs4 = s.hasSentHs4)
      (hkeys : s'.cipherKeys = s.cipherKeys)
  | loaded (hinfo : LoadsKeys frame.keyinfo) (hptk : s'.devicePtk = s.devicePtk)
      (hs2 : s'.hasSentHs2 = s.hasSentHs2) (hs4 : s'.hasSentHs4 = true)
      (hkeys : s'.cipherKeys = s.cipherKeys ++
        [pairwiseKey s.devicePtk, groupKey crypto s s.devicePtk frame])
  | ignored (hfirst : frame.keyinfo ≠ keyinfoMessage1) (hinfo : ¬LoadsKeys frame.keyinfo)
      (hs : s' = s)

@[simp] theorem cipherKeys_dataSendPkt (s : Wpa) (bytes : List UInt8) :
    (s.dataSendPkt bytes).cipherKeys = s.cipherKeys := by
  simp [cipherKeys, dataSendPkt, CardPacket.key?]

@[simp] theorem cipherKeys_wmiSynchronize (s : Wpa) (value : UInt8) :
    (s.wmiSynchronize value).cipherKeys = s.cipherKeys := by
  simp [cipherKeys, wmiSynchronize, CardPacket.key?]

theorem cipherKeys_wmiAddCipherKey (s : Wpa) (idx : UInt8) (usage : Nat) (key : List UInt8)
    (rsc : Option (List UInt8)) : (s.wmiAddCipherKey idx usage key rsc).cipherKeys =
      s.cipherKeys ++ [s.cipherKey idx usage key rsc] := by
  simp [cipherKeys, wmiAddCipherKey, CardPacket.key?]

/-- With WPA2 a key for the pair has the length of an AES key. -/
theorem cipherKey_pairwise (hsec : s.curAp.securityType = .wpa2) (ptk : PtkKeyinfo) :
    s.cipherKey 0 0 ptk.tk none = pairwiseKey ptk := by
  simp [cipherKey, hsec, pairwiseKey]

/-- What the handshake only reads. -/
structure SameConfig (s s' : Wpa) : Prop where
  curAp : s'.curAp = s.curAp
  curApSecurity : s'.curApSecurity = s.curApSecurity
  groupCryptType : s'.groupCryptType = s.groupCryptType

theorem SameConfig.refl (s : Wpa) : SameConfig s s := ⟨rfl, rfl, rfl⟩

theorem SameConfig.trans {s s' s'' : Wpa} (h : SameConfig s s') (h' : SameConfig s' s'') :
    SameConfig s s'' :=
  ⟨h'.curAp.trans h.curAp, h'.curApSecurity.trans h.curApSecurity,
    h'.groupCryptType.trans h.groupCryptType⟩

theorem SameConfig.groupKey_eq {s s' : Wpa} (h : SameConfig s s') (ptk : PtkKeyinfo)
    (frame : EapolKey) : groupKey crypto s' ptk frame = groupKey crypto s ptk frame := by
  simp only [groupKey, cipherKey, h.curAp, h.curApSecurity, h.groupCryptType]

/-- Nothing but what has been sent is another. -/
structure SameKeys (s s' : Wpa) : Prop extends SameConfig s s' where
  devicePtk : s'.devicePtk = s.devicePtk
  hasSentHs2 : s'.hasSentHs2 = s.hasSentHs2

theorem SameKeys.trans {s s' s'' : Wpa} (h : SameKeys s s') (h' : SameKeys s' s'') :
    SameKeys s s'' :=
  ⟨h.toSameConfig.trans h'.toSameConfig, h'.devicePtk.trans h.devicePtk,
    h'.hasSentHs2.trans h.hasSentHs2⟩

theorem sameKeys_dataSendPkt (s : Wpa) (bytes : List UInt8) : SameKeys s (s.dataSendPkt bytes) :=
  ⟨⟨rfl, rfl, rfl⟩, rfl, rfl⟩

theorem sameKeys_wmiSynchronize (s : Wpa) (value : UInt8) : SameKeys s (s.wmiSynchronize value) :=
  ⟨⟨rfl, rfl, rfl⟩, rfl, rfl⟩

theorem sameKeys_wmiAddCipherKey (s : Wpa) (idx : UInt8) (usage : Nat) (key : List UInt8)
    (rsc : Option (List UInt8)) : SameKeys s (s.wmiAddCipherKey idx usage key rsc) :=
  ⟨⟨rfl, rfl, rfl⟩, rfl, rfl⟩

/-- What is sent before the keys. -/
theorem sameKeys_prepared (s : Wpa) : SameKeys s
    (((s.wmiSynchronize 1).dataSendPkt [0x00, 0x02]).dataSendPkt [0x00, 0x02]) :=
  ((sameKeys_wmiSynchronize s 1).trans (sameKeys_dataSendPkt _ _)).trans (sameKeys_dataSendPkt _ _)

theorem wmiPostHandshake_sameKeys (s : Wpa) (tk : List UInt8) (gtk : GtkKeyinfo)
    (rsc : List UInt8) : SameKeys s (s.wmiPostHandshake tk gtk rsc) := by
  unfold wmiPostHandshake
  dsimp only
  refine SameKeys.trans ?_ (sameKeys_wmiSynchronize _ 1)
  split
  · exact ((sameKeys_prepared s).trans (sameKeys_wmiAddCipherKey _ _ _ _ _)).trans
      (sameKeys_wmiAddCipherKey _ _ _ _ _)
  · exact sameKeys_prepared s

/-- With WPA2 two keys are handed over. -/
theorem wmiPostHandshake_cipherKeys (hsec : s.curAp.securityType = .wpa2) (ptk : PtkKeyinfo)
    (gtk : GtkKeyinfo) (rsc : List UInt8) :
    (s.wmiPostHandshake ptk.tk gtk rsc).cipherKeys =
      s.cipherKeys ++ [pairwiseKey ptk, s.cipherKey gtk.keyidx 1 gtk.key (some rsc)] := by
  have hsec' : (((s.wmiSynchronize 1).dataSendPkt [0x00, 0x02]).dataSendPkt
      [0x00, 0x02]).curAp.securityType = .wpa2 := hsec
  unfold wmiPostHandshake
  dsimp only
  rw [if_pos hsec', cipherKeys_wmiSynchronize, cipherKeys_wmiAddCipherKey,
    cipherKeys_wmiAddCipherKey, cipherKeys_dataSendPkt, cipherKeys_dataSendPkt,
    cipherKeys_wmiSynchronize, cipherKey_pairwise hsec', List.append_assoc]
  rfl

/-- The frame loads the keys of the state after the answer. -/
theorem loadKeys_handles {t : Wpa} (hinfo : LoadsKeys frame.keyinfo)
    (hsec : s.curAp.securityType = .wpa2) (hsame : SameKeys s t) (hs4 : t.hasSentHs4 = true)
    (hkeys : t.cipherKeys = s.cipherKeys) : Handles crypto s frame (t.loadKeys crypto frame) := by
  let gtk := crypto.wpaDecryptGtk t.devicePtk.kek frame.body frame.stack
  let u : Wpa := { t with deviceGtkKeyinfo := gtk }
  have hload : t.loadKeys crypto frame = u.wmiPostHandshake t.devicePtk.tk gtk frame.wpaRsc := rfl
  have hsameu : SameKeys s u := ⟨⟨hsame.1.1, hsame.1.2, hsame.1.3⟩, hsame.2, hsame.3⟩
  have hkeysu : u.cipherKeys = s.cipherKeys := hkeys
  have hposted := hsameu.trans (wmiPostHandshake_sameKeys u t.devicePtk.tk gtk frame.wpaRsc)
  have htwl := congrArg Twl.hasSentHs4
    (wmiPostHandshake_toTwl u t.devicePtk.tk gtk frame.wpaRsc)
  rw [hload]
  refine .loaded hinfo hposted.devicePtk hposted.hasSentHs2 (htwl.trans hs4) ?_
  rw [wmiPostHandshake_cipherKeys (hsameu.curAp ▸ hsec), hkeysu, ← hsameu.groupKey_eq,
    ← hsame.devicePtk]
  rfl

theorem loadKeys_sameConfig (s : Wpa) (frame : EapolKey) :
    SameConfig s (s.loadKeys crypto frame) := by
  have h := wmiPostHandshake_sameKeys
    { s with deviceGtkKeyinfo := crypto.wpaDecryptGtk s.devicePtk.kek frame.body frame.stack }
    s.devicePtk.tk (crypto.wpaDecryptGtk s.devicePtk.kek frame.body frame.stack) frame.wpaRsc
  exact ⟨h.curAp, h.curApSecurity, h.groupCryptType⟩

/-- **What a frame does.** -/
theorem dataHandleAuth_handles (crypto : Crypto) (hsec : s.curAp.securityType = .wpa2)
    (frame : EapolKey) :
    Handles crypto s frame (s.dataHandleAuth crypto frame) := by
  unfold dataHandleAuth
  split
  · rename_i hinfo
    refine .answered hinfo rfl rfl rfl ?_
    exact cipherKeys_dataSendPkt _ _
  · rename_i hfirst
    split
    · rename_i hinfo
      exact loadKeys_handles (.inl hinfo) hsec ⟨⟨rfl, rfl, rfl⟩, rfl, rfl⟩ rfl
        (cipherKeys_dataSendPkt _ _)
    · split
      · rename_i hinfo
        exact loadKeys_handles (.inr hinfo) hsec ⟨⟨rfl, rfl, rfl⟩, rfl, rfl⟩ rfl
          (cipherKeys_dataSendPkt _ _)
      · rename_i hthird hgroup
        exact .ignored hfirst (by rintro (h | h); exacts [hthird h, hgroup h]) rfl

/-- A frame changes nothing of what the handshake only reads. -/
theorem dataHandleAuth_sameConfig (crypto : Crypto) (s : Wpa) (frame : EapolKey) :
    SameConfig s (s.dataHandleAuth crypto frame) := by
  unfold dataHandleAuth
  split
  · exact ⟨rfl, rfl, rfl⟩
  · split
    · have hsent : SameConfig s ({ s with deviceApMic := frame.wpaKeyMic }.dataSendWpaHandshake4
          crypto frame.apBssid frame.devBssid frame.replay) := ⟨rfl, rfl, rfl⟩
      exact hsent.trans (loadKeys_sameConfig _ frame)
    · split
      · have hsent : SameConfig s (s.dataSendWpaGtkrenew crypto frame.apBssid frame.devBssid
            frame.replay) := ⟨rfl, rfl, rfl⟩
        exact hsent.trans (loadKeys_sameConfig _ frame)
      · exact .refl s

/-! ## All frames -/

/-- A frame from whose nonce the key has been derived. -/
def Derived (crypto : Crypto) (s : Wpa) (es : List EapolKey) (ptk : PtkKeyinfo) : Prop :=
  ∃ frame ∈ es, frame.keyinfo = keyinfoMessage1 ∧ ∃ deviceNonce, ptk =
    crypto.wpaCalcPtk frame.devBssid frame.apBssid deviceNonce frame.wpaNonce s.curApSecurity.pmk

theorem Derived.append {es : List EapolKey} {ptk : PtkKeyinfo} (h : Derived crypto s es ptk)
    (es' : List EapolKey) : Derived crypto s (es ++ es') ptk := by
  obtain ⟨frame, hframe, hptk⟩ := h
  exact ⟨frame, List.mem_append_left _ hframe, hptk⟩

/-- The flags and the key after frames. -/
structure AfterFrames (crypto : Crypto) (s : Wpa) (es : List EapolKey) (s' : Wpa) : Prop where
  config : SameConfig s s'
  hs4 : s'.hasSentHs4 = true ↔ s.hasSentHs4 = true ∨ ∃ frame ∈ es, LoadsKeys frame.keyinfo
  answered : (∃ frame ∈ es, frame.keyinfo = keyinfoMessage1) →
    s'.hasSentHs2 = true ∧ Derived crypto s es s'.devicePtk

theorem AfterFrames.step {es : List EapolKey} {t : Wpa} (hsec : s.curAp.securityType = .wpa2)
    (h : AfterFrames crypto s es t) (frame : EapolKey) :
    AfterFrames crypto s (es ++ [frame]) (t.dataHandleAuth crypto frame) := by
  have hconfig := h.config.trans (dataHandleAuth_sameConfig crypto t frame)
  have hor (p : EapolKey → Prop) : (∃ e ∈ es ++ [frame], p e) ↔ (∃ e ∈ es, p e) ∨ p frame := by
    simp only [List.mem_append, List.mem_singleton, or_and_right, exists_or, exists_eq_left]
  refine ⟨hconfig, ?_, ?_⟩
  · rw [hor, ← or_assoc, ← h.hs4]
    cases dataHandleAuth_handles crypto (h.config.curAp ▸ hsec) frame with
    | answered hinfo _ _ hs4 _ =>
      rw [hs4, hinfo, or_iff_left not_loadsKeys_message1]
    | loaded hinfo _ _ hs4 _ => exact iff_of_true hs4 (.inr hinfo)
    | ignored _ hinfo hs => rw [hs, or_iff_left hinfo]
  · rw [hor]
    intro hmessage
    cases dataHandleAuth_handles crypto (h.config.curAp ▸ hsec) frame with
    | answered hinfo hptk hs2 _ _ =>
      rw [h.config.curApSecurity] at hptk
      exact ⟨hs2, frame, by simp, hinfo, _, hptk⟩
    | loaded hinfo hptk hs2 _ _ =>
      have hne : frame.keyinfo ≠ keyinfoMessage1 := fun hfirst =>
        absurd (hfirst ▸ hinfo) not_loadsKeys_message1
      obtain ⟨hs2', hderived⟩ := h.answered (hmessage.resolve_right hne)
      rw [hs2, hptk]
      exact ⟨hs2', hderived.append _⟩
    | ignored hne _ hs =>
      obtain ⟨hs2', hderived⟩ := h.answered (hmessage.resolve_right hne)
      rw [hs]
      exact ⟨hs2', hderived.append _⟩

/-- **The flags and the key after any frames.** -/
theorem run_afterFrames (crypto : Crypto) (hsec : s.curAp.securityType = .wpa2)
    (es : List EapolKey) :
    AfterFrames crypto s es (run (dataHandleAuth crypto) s es) :=
  history_inv (AfterFrames crypto s) (fun _ _ frame ih => ih.step hsec frame)
    ⟨.refl s, by simp, by simp⟩ es

/-- A key that is handed to the card comes from a derived one. -/
def KeyFrom (crypto : Crypto) (s : Wpa) (es : List EapolKey) (key : CipherKey) : Prop :=
  ∃ ptk, Derived crypto s es ptk ∧
    (key = pairwiseKey ptk ∨ ∃ frame ∈ es, key = groupKey crypto s ptk frame)

theorem KeyFrom.append {es : List EapolKey} {key : CipherKey} (h : KeyFrom crypto s es key)
    (es' : List EapolKey) : KeyFrom crypto s (es ++ es') key := by
  obtain ⟨ptk, hderived, hkey⟩ := h
  refine ⟨ptk, hderived.append es', hkey.imp_right ?_⟩
  rintro ⟨frame, hframe, hgroup⟩
  exact ⟨frame, List.mem_append_left _ hframe, hgroup⟩

end Wpa

/-! ## The order -/

/-- A message 1/4, and later a message 3/4. -/
def Completed (infos : List Nat) : Prop := [keyinfoMessage1, keyinfoMessage3].Sublist infos

instance (infos : List Nat) : Decidable (Completed infos) :=
  inferInstanceAs (Decidable (List.Sublist _ _))

theorem Completed.append {es : List EapolKey} (h : Completed (es.map EapolKey.keyinfo))
    (es' : List EapolKey) : Completed ((es ++ es').map EapolKey.keyinfo) := by
  rw [List.map_append]
  exact h.trans (List.sublist_append_left _ _)

/-- A frame that loads keys isn't the message 1/4 of a completed handshake. -/
theorem Completed.exists_message1 {es : List EapolKey} {frame : EapolKey}
    (h : Completed ((es ++ [frame]).map EapolKey.keyinfo)) (hload : LoadsKeys frame.keyinfo) :
    ∃ e ∈ es, e.keyinfo = keyinfoMessage1 := by
  have hmem := h.subset (List.mem_cons_self ..)
  obtain ⟨e, he, hinfo⟩ := List.mem_map.mp hmem
  rcases List.mem_append.mp he with he | he
  · exact ⟨e, he, hinfo⟩
  · rw [List.mem_singleton.mp he] at hinfo
    exact absurd (hinfo ▸ hload) not_loadsKeys_message1

/-- The first frame that loads keys is a message 3/4, and a message 1/4 has been before it. -/
def StartsInOrder (answered : Bool) : List Nat → Prop
  | [] => True
  | info :: infos =>
    if info = keyinfoMessage1 then StartsInOrder true infos
    else if LoadsKeys info then answered = true ∧ info = keyinfoMessage3
    else StartsInOrder answered infos

instance : ∀ (answered : Bool) (infos : List Nat), Decidable (StartsInOrder answered infos)
  | _, [] => .isTrue trivial
  | answered, info :: infos =>
    haveI := instDecidableStartsInOrder true infos
    haveI := instDecidableStartsInOrder answered infos
    inferInstanceAs (Decidable (if info = keyinfoMessage1 then StartsInOrder true infos
      else if LoadsKeys info then answered = true ∧ info = keyinfoMessage3
      else StartsInOrder answered infos))

/-- What is left of `Completed` after the answer. -/
def remaining (answered : Bool) : List Nat :=
  if answered then [keyinfoMessage3] else [keyinfoMessage1, keyinfoMessage3]

theorem remaining_sublist_message1 {answered : Bool} {infos : List Nat} :
    (remaining answered).Sublist (keyinfoMessage1 :: infos) ↔ keyinfoMessage3 ∈ infos := by
  cases answered with
  | false => exact List.cons_sublist_cons.trans List.singleton_sublist
  | true => simp [remaining, keyinfoMessage1, keyinfoMessage3]

/-- Only a message 3/4 that an answer has come before is all that remains. -/
theorem remaining_sublist_singleton {answered : Bool} {info : Nat} :
    (remaining answered).Sublist [info] ↔ answered = true ∧ info = keyinfoMessage3 := by
  cases answered with
  | false =>
    refine iff_of_false (fun h => ?_) (by simp)
    simpa [remaining] using h.length_le
  | true => simp [remaining, eq_comm]

/-- A frame that is ignored is not one that is looked for. -/
theorem remaining_sublist_ignored {answered : Bool} {info : Nat} {infos : List Nat}
    (hfirst : info ≠ keyinfoMessage1) (hload : ¬LoadsKeys info) :
    (remaining answered).Sublist (info :: infos) ↔ (remaining answered).Sublist infos := by
  have hthird : info ≠ keyinfoMessage3 := fun h => hload (.inl h)
  rw [List.sublist_cons_iff, or_iff_left]
  rintro ⟨rest, heq, -⟩
  cases answered with
  | false => exact hfirst (List.cons.inj heq).1.symm
  | true => exact hthird (List.cons.inj heq).1.symm

/-- What holds of every prefix that ends with a frame that loads keys. -/
theorem forall_loading_cons {q : List Nat → Prop} {first : Nat} {infos : List Nat} :
    (∀ pre info, pre ++ [info] <+: first :: infos → LoadsKeys info → q (pre ++ [info])) ↔
      (LoadsKeys first → q [first]) ∧
        ∀ pre info, pre ++ [info] <+: infos → LoadsKeys info → q (first :: (pre ++ [info])) := by
  constructor
  · intro h
    refine ⟨h [] first (by simp), fun pre info hpre => ?_⟩
    exact h (first :: pre) info (List.cons_prefix_cons.mpr ⟨rfl, hpre⟩)
  · rintro ⟨hfirst, hrest⟩ pre info hpre hload
    cases pre with
    | nil =>
      obtain ⟨rfl, -⟩ := List.cons_prefix_cons.mp hpre
      exact hfirst hload
    | cons other pre =>
      obtain ⟨rfl, htail⟩ := List.cons_prefix_cons.mp hpre
      exact hrest pre info htail hload

/-- **Frames start in order if both messages come before any key is loaded.** -/
theorem startsInOrder_iff (answered : Bool) (infos : List Nat) : StartsInOrder answered infos ↔
    ∀ pre info, pre ++ [info] <+: infos → LoadsKeys info →
      (remaining answered).Sublist (pre ++ [info]) := by
  induction infos generalizing answered with
  | nil => simp [StartsInOrder]
  | cons first infos ih =>
    rw [forall_loading_cons, StartsInOrder]
    split
    · -- A message 1/4 loads nothing, and only the message 3/4 remains.
      rename_i hfirst
      rw [ih, hfirst]
      simp only [not_loadsKeys_message1, false_imp_iff, true_and, remaining_sublist_message1]
      simp only [remaining, if_true, List.singleton_sublist]
    · rename_i hfirst
      split
      · -- The first frame that loads keys decides.
        rename_i hload
        rw [← remaining_sublist_singleton, imp_iff_right hload]
        exact (and_iff_left_of_imp fun h pre info _ _ =>
          h.trans (List.cons_sublist_cons.mpr (List.nil_sublist _))).symm
      · rename_i hload
        rw [ih]
        simp only [hload, false_imp_iff, true_and, remaining_sublist_ignored hfirst hload]

namespace Wpa

/-- The state in which `wmi_connect` has begun a connection to a WPA2 access point. -/
inductive Connects : Wpa → Prop
  | atOnce (s : Wpa) (hconnecting : s.apConnecting = false)
      (hsec : s.curAp.securityType = .wpa2) (hreturned : s.wmiConnect.2 = true) :
      Connects s.wmiConnect.1
  | resumed (pmk : List UInt8) (s : Wpa) (hsec : s.curAp.securityType = .wpa2) :
      Connects (s.wmiConnectResume pmk)

/-- A connection begins with the flags of the handshake cleared. -/
theorem Connects.cleared (h : Connects s) :
    s.curAp.securityType = .wpa2 ∧ s.hasSentHs2 = false ∧ s.hasSentHs4 = false := by
  cases h with
  | atOnce t hconnecting hsec hreturned =>
    revert hreturned
    unfold wmiConnect Twl.wmiConnect
    by_cases hpmk : t.curApSecurity.pmk.any (· != 0)
    · simp [hconnecting, hsec, hpmk]
    · simp [hconnecting, hsec, hpmk]
  | resumed pmk t hsec => exact ⟨hsec, rfl, rfl⟩

/-- The handshake is only done, and keys have only been handed to the card, after both messages.
The keys come from an answer of this connection. -/
structure InOrder (crypto : Crypto) (s : Wpa) (es : List EapolKey) : Prop where
  done : (run (dataHandleAuth crypto) s es).wmiHandshakeDone = true →
    Completed (es.map EapolKey.keyinfo) ∧
      (run (dataHandleAuth crypto) s es).hasSentHs2 = true
  keys : ∃ handed, (run (dataHandleAuth crypto) s es).cipherKeys = s.cipherKeys ++ handed ∧
    (handed ≠ [] → Completed (es.map EapolKey.keyinfo)) ∧
    ∀ key ∈ handed, KeyFrom crypto s es key

theorem InOrder.nil (hs4 : s.hasSentHs4 = false) : InOrder crypto s [] where
  done h := by
    have hs4' : s.hasSentHs4 = true := h
    rw [hs4] at hs4'
    contradiction
  keys := ⟨[], by simp [run], by simp, by simp⟩

/-- A frame that loads keys, after a message 1/4, hands over keys that come from an answer. -/
theorem InOrder.step_loaded {es : List EapolKey} {s' : Wpa} (h : InOrder crypto s es)
    (hafter : AfterFrames crypto s es (run (dataHandleAuth crypto) s es))
    (hrun : run (dataHandleAuth crypto) s (es ++ [frame]) = s') (hload : LoadsKeys frame.keyinfo)
    (hcompleted : Completed ((es ++ [frame]).map EapolKey.keyinfo))
    (hs2 : s'.hasSentHs2 = (run (dataHandleAuth crypto) s es).hasSentHs2)
    (hkeys : s'.cipherKeys = (run (dataHandleAuth crypto) s es).cipherKeys ++
      [pairwiseKey (run (dataHandleAuth crypto) s es).devicePtk,
        groupKey crypto (run (dataHandleAuth crypto) s es)
          (run (dataHandleAuth crypto) s es).devicePtk frame]) :
    InOrder crypto s (es ++ [frame]) := by
  obtain ⟨handed, hhanded, -, hfrom⟩ := h.keys
  obtain ⟨hsent, hderived⟩ := hafter.answered (hcompleted.exists_message1 hload)
  rw [hhanded, List.append_assoc, hafter.config.groupKey_eq] at hkeys
  subst hrun
  refine ⟨fun _ => ⟨hcompleted, hs2.trans hsent⟩, _, hkeys, fun _ => hcompleted, ?_⟩
  intro key hkey
  rcases List.mem_append.mp hkey with hkey | hkey
  · exact (hfrom key hkey).append _
  · refine ⟨_, hderived.append _, ?_⟩
    simp only [List.mem_cons, List.not_mem_nil, or_false] at hkey
    exact hkey.imp_right fun hgroup => ⟨frame, by simp, hgroup⟩

/-- A frame that loads no keys changes nothing that is asked for but `has_sent_hs2`. -/
theorem InOrder.step_other {es : List EapolKey} {s' : Wpa} (h : InOrder crypto s es)
    (hrun : run (dataHandleAuth crypto) s (es ++ [frame]) = s')
    (hs2 : (run (dataHandleAuth crypto) s es).hasSentHs2 = true → s'.hasSentHs2 = true)
    (hs4 : s'.hasSentHs4 = (run (dataHandleAuth crypto) s es).hasSentHs4)
    (hkeys : s'.cipherKeys = (run (dataHandleAuth crypto) s es).cipherKeys) :
    InOrder crypto s (es ++ [frame]) := by
  obtain ⟨handed, hhanded, hcompleted, hfrom⟩ := h.keys
  subst hrun
  refine ⟨fun hdone => ?_, handed, hkeys.trans hhanded, fun hne => (hcompleted hne).append _,
    fun key hkey => (hfrom key hkey).append _⟩
  obtain ⟨hcompleted', hsent⟩ := h.done (hs4.symm.trans hdone)
  exact ⟨hcompleted'.append _, hs2 hsent⟩

/-- **A frame keeps the order if it loads no keys or both messages have been there.** -/
theorem InOrder.step {es : List EapolKey} (hsec : s.curAp.securityType = .wpa2)
    (h : InOrder crypto s es) (frame : EapolKey)
    (hload : LoadsKeys frame.keyinfo → Completed ((es ++ [frame]).map EapolKey.keyinfo)) :
    InOrder crypto s (es ++ [frame]) := by
  have hafter := run_afterFrames crypto hsec es
  have hrun : run (dataHandleAuth crypto) s (es ++ [frame]) =
      (run (dataHandleAuth crypto) s es).dataHandleAuth crypto frame :=
    run_append_singleton ..
  cases dataHandleAuth_handles crypto (hafter.config.curAp ▸ hsec) frame with
  | answered _ _ hs2 hs4 hkeys => exact h.step_other hrun (fun _ => hs2) hs4 hkeys
  | loaded hinfo _ hs2 _ hkeys => exact h.step_loaded hafter hrun hinfo (hload hinfo) hs2 hkeys
  | ignored _ _ hs => exact h.step_other (hrun.trans hs) id rfl rfl

theorem inOrder_of_startsInOrder (hsec : s.curAp.securityType = .wpa2)
    (hs4 : s.hasSentHs4 = false) (es : List EapolKey)
    (hes : StartsInOrder false (es.map EapolKey.keyinfo)) : InOrder crypto s es := by
  rw [startsInOrder_iff] at hes
  induction es using List.reverseRecOn with
  | nil => exact .nil hs4
  | append_singleton es frame ih =>
    rw [List.map_append] at hes
    refine (ih fun pre info hpre => hes pre info (hpre.trans (List.prefix_append _ _))).step hsec
      frame fun hload => ?_
    rw [List.map_append]
    exact hes (es.map EapolKey.keyinfo) frame.keyinfo (List.prefix_refl _) hload

/-- **The law of the handshake holds at every time exactly if the frames start in order.** -/
theorem handshake_in_order_iff (h : Connects s) (frames : List EapolKey) :
    (∀ es, es <+: frames → InOrder crypto s es) ↔
      StartsInOrder false (frames.map EapolKey.keyinfo) := by
  obtain ⟨hsec, -, hs4⟩ := h.cleared
  constructor
  · intro hlaw
    rw [startsInOrder_iff]
    intro pre info hpre hload
    obtain ⟨es, hes, heq⟩ : ∃ es, es <+: frames ∧ pre ++ [info] = es.map EapolKey.keyinfo := by
      refine ⟨frames.take (pre ++ [info]).length, List.take_prefix _ _, ?_⟩
      rw [List.map_take]
      exact List.prefix_iff_eq_take.mp hpre
    have hdone : (run (dataHandleAuth crypto) s es).wmiHandshakeDone = true := by
      refine (run_afterFrames crypto hsec es).hs4.mpr (.inr ?_)
      have hmem : info ∈ es.map EapolKey.keyinfo := by
        rw [← heq]
        simp
      obtain ⟨frame, hframe, rfl⟩ := List.mem_map.mp hmem
      exact ⟨frame, hframe, hload⟩
    rw [heq]
    exact ((hlaw es hes).done hdone).1
  · intro hstart es hes
    refine inOrder_of_startsInOrder hsec hs4 es ?_
    rw [startsInOrder_iff] at hstart ⊢
    exact fun pre info hpre => hstart pre info (hpre.trans (hes.map _))

/-! ## Two connections -/

/-- The pairwise key has just been calculated from the password. -/
def joiningWpa : Wpa :=
  wmiConnectResume (.replicate 32 1)
    { Twl.init exampleMain with
      curAp := { AccessPoint.zero with securityType := .wpa2 }
      curApSecurity := ⟨[0x70, 0x77], .replicate 32 0⟩
      apConnecting := true
      calculating := 1
      groupCryptType := .aes
      random7 := 1
      hasSentHs2 := false
      deviceApNonce := .replicate 32 0
      deviceNonce := .replicate 32 0
      deviceApMic := .replicate 16 0
      deviceGtkKeyinfo := .zero
      devicePtk := ⟨.replicate 16 0, .replicate 16 0, .replicate 16 0, .replicate 8 0,
        .replicate 8 0⟩
      sent := [] }

theorem joiningWpa_connects : Connects joiningWpa := .resumed _ _ rfl

/-- A frame without key data. -/
def eapolFrame (keyinfo : Nat) : EapolKey where
  pktData := storeBytes (fun _ => 0) 0 ([2, 3, 0, 95, 2] ++ putbe16 keyinfo)
  devBssid := exampleMac
  apBssid := wifiReplyMac
  stack := fun _ => 0

theorem handshake_in_order_joined : Connects joiningWpa ∧ ∀ (crypto : Crypto) (es : List EapolKey),
    es <+: [eapolFrame 0x008A, eapolFrame 0x13CA, eapolFrame 0x1382] →
      InOrder crypto joiningWpa es :=
  ⟨joiningWpa_connects, fun _ => (handshake_in_order_iff joiningWpa_connects _).mpr (by decide)⟩

/-- A group message comes first. -/
theorem groupFrame_first_done : Connects joiningWpa ∧ ∀ crypto : Crypto,
    (run (dataHandleAuth crypto) joiningWpa [eapolFrame 0x1382]).wmiHandshakeDone = true ∧
      (run (dataHandleAuth crypto) joiningWpa [eapolFrame 0x1382]).cipherKeys ≠ [] ∧
      ¬InOrder crypto joiningWpa [eapolFrame 0x1382] := by
  refine ⟨joiningWpa_connects, fun crypto => ?_⟩
  have hdone : (run (dataHandleAuth crypto) joiningWpa
      [eapolFrame 0x1382]).wmiHandshakeDone = true :=
    (run_afterFrames crypto rfl _).hs4.mpr (.inr ⟨_, List.mem_singleton_self _, by decide⟩)
  refine ⟨hdone, ?_, fun horder => absurd (horder.done hdone).1 (by decide)⟩
  have hhandles : Handles crypto joiningWpa (eapolFrame 0x1382) _ :=
    dataHandleAuth_handles crypto rfl _
  cases hhandles with
  | answered hinfo => exact absurd hinfo (by decide)
  | loaded _ _ _ _ hkeys =>
    intro hnone
    exact absurd (hkeys.symm.trans hnone) (by simp)
  | ignored _ hinfo => exact absurd hinfo (by decide)

end Wpa

end Wifi
