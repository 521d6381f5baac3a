import DsWifi.Connect.Handshake
import DsWifi.Infra.Reads

/-!
# The group key (TWL)

A message 3/4 or a group message carries key data, wrapped with the key of the pair.
`wpa_decrypt_gtk` unwraps it, walks over the elements, and copies those with a group key into a
zeroed structure, a shorter one over a part of an earlier one. `wmi_post_handshake` gives the card
what is there in the end. The status of `mbedtls_nist_kw_unwrap` is not looked at.

* `GtkKeyinfo.foldl_copyKde` — what the elements leave in the structure
* `dataHandleAuth_authentic_iff` — the frames whose group key is an authenticated one
-/

namespace Wifi

open Infra Infra.Mem

/-! ## Key data elements -/

/-- A KDE with a group key. The one for TKIP is the longer one. -/
def IsGtkKde (e : Element) : Prop :=
  e.id.toNat = 0xDD ∧ e.body.take 4 = [0x00, 0x0F, 0xAC, 0x01] ∧
    (e.body.length = 0x16 ∨ e.body.length = 0x26)

instance (e : Element) : Decidable (IsGtkKde e) := inferInstanceAs (Decidable (_ ∧ _ ∧ _))

namespace GtkKeyinfo

/-- The first half of the key, which is all of it for AES. -/
def keyLow (gtk : GtkKeyinfo) : List UInt8 := gtk.key.take 16

/-- The second half of the key. -/
def keyHigh (gtk : GtkKeyinfo) : List UInt8 := gtk.key.drop 16

/-- Copy the bytes of a KDE over the structure. -/
def copyKde (out : GtkKeyinfo) (e : Element) : GtkKeyinfo :=
  ⟨e.body ++ out.bytes.drop e.body.length⟩

/-- A KDE in the zeroed structure. -/
def ofKde (e : Element) : GtkKeyinfo := zero.copyKde e

/-- The second half of the key of the last long KDE. -/
def lastHigh (kdes : List Element) : List UInt8 :=
  match (kdes.filter fun e => e.body.length = 0x26).getLast? with
  | some e => (ofKde e).keyHigh
  | none => List.replicate 16 0

variable {out : GtkKeyinfo} {e : Element} {kdes : List Element}

theorem length_zero : zero.bytes.length = 38 := List.length_replicate

theorem length_copyKde (hkde : IsGtkKde e) (hout : out.bytes.length = 38) :
    (out.copyKde e).bytes.length = 38 := by
  have hlen := hkde.2.2
  simp only [copyKde, List.length_append, List.length_drop]
  omega

theorem key_copyKde (hkde : IsGtkKde e) :
    (out.copyKde e).key = e.body.drop 6 ++ out.bytes.drop e.body.length := by
  have hlen := hkde.2.2
  exact List.drop_append_of_le_length (by omega)

theorem keyidx_copyKde (hkde : IsGtkKde e) : (out.copyKde e).keyidx = e.body.getD 4 0 := by
  have hlen := hkde.2.2
  simp only [keyidx, copyKde, List.getD_eq_getElem?_getD]
  rw [List.getElem?_append_left (by omega)]

theorem keyLow_copyKde (hkde : IsGtkKde e) : (out.copyKde e).keyLow = (e.body.drop 6).take 16 := by
  have hlen := hkde.2.2
  rw [keyLow, key_copyKde hkde, List.take_append_of_le_length (by rw [List.length_drop]; omega)]

/-- A short KDE leaves the second half of the key alone. -/
theorem keyHigh_copyKde_of_short (hkde : IsGtkKde e) (hshort : e.body.length = 0x16) :
    (out.copyKde e).keyHigh = out.keyHigh := by
  have hdrop : (e.body.drop 6).length = 16 := by rw [List.length_drop, hshort]
  rw [keyHigh, key_copyKde hkde, List.drop_left' hdrop, hshort, keyHigh, key, List.drop_drop]

theorem keyHigh_copyKde_of_long (hkde : IsGtkKde e) (hlong : e.body.length = 0x26)
    (hout : out.bytes.length = 38) : (out.copyKde e).keyHigh = e.body.drop 22 := by
  have hrest : out.bytes.drop e.body.length = [] := List.drop_eq_nil_of_le (by omega)
  rw [keyHigh, key_copyKde hkde, hrest, List.append_nil, List.drop_drop]

/-- **What KDEs leave in the structure**: index and first half of the last one, second half of the
last long one. -/
theorem foldl_copyKde (hkdes : ∀ e ∈ kdes, IsGtkKde e) :
    (kdes.foldl copyKde zero).bytes.length = 38 ∧
    (∀ last ∈ kdes.getLast?, (kdes.foldl copyKde zero).keyidx = (ofKde last).keyidx ∧
      (kdes.foldl copyKde zero).keyLow = (ofKde last).keyLow) ∧
    (kdes.foldl copyKde zero).keyHigh = lastHigh kdes := by
  induction kdes using List.reverseRecOn with
  | nil => exact ⟨length_zero, by simp, rfl⟩
  | append_singleton kdes e ih =>
    obtain ⟨hlen, -, hhigh⟩ := ih fun e he => hkdes e (List.mem_append_left _ he)
    have hkde : IsGtkKde e := hkdes e (List.mem_append_right _ (List.mem_singleton_self e))
    rw [List.foldl_append, List.foldl_cons, List.foldl_nil]
    refine ⟨length_copyKde hkde hlen, ?_, ?_⟩
    · rintro last hlast
      rw [List.getLast?_concat] at hlast
      obtain rfl : e = last := Option.some.inj hlast
      exact ⟨(keyidx_copyKde hkde).trans (keyidx_copyKde hkde).symm,
        (keyLow_copyKde hkde).trans (keyLow_copyKde hkde).symm⟩
    · rcases hkde.2.2 with hshort | hlong
      · have hfilter : (kdes ++ [e]).filter (fun e => e.body.length = 0x26) =
            kdes.filter fun e => e.body.length = 0x26 := by
          rw [List.filter_append, List.filter_singleton, hshort]
          exact List.append_nil _
        rw [keyHigh_copyKde_of_short hkde hshort, hhigh, lastHigh, lastHigh, hfilter]
      · have hfilter : (kdes ++ [e]).filter (fun e => e.body.length = 0x26) =
            (kdes.filter fun e => e.body.length = 0x26) ++ [e] := by
          rw [List.filter_append, List.filter_singleton, hlong]
          rfl
        rw [lastHigh, hfilter, List.getLast?_concat, keyHigh_copyKde_of_long hkde hlong hlen]
        exact (keyHigh_copyKde_of_long hkde hlong length_zero).symm

end GtkKeyinfo

/-! ## Unwrapped key data -/

section

open ReadM

/-- What the loop of `wpa_decrypt_gtk` reads at an element. -/
def readGtkEntry (entType entSize i : Nat) (out : GtkKeyinfo) : ReadM GtkKeyinfo :=
  if entType = 0xDD then do
    let keytype ← ReadM.bytes i 4
    if keytype = [0x00, 0x0F, 0xAC, 0x01] ∧ (entSize = 0x16 ∨ entSize = 0x26) then do
      let info ← ReadM.bytes i entSize
      return ⟨info ++ out.bytes.drop entSize⟩
    else return out
  else return out

/-- The loop of `wpa_decrypt_gtk`. -/
def readGtk (decryptedLength : Nat) : ReadM GtkKeyinfo :=
  ReadM.walk readGtkEntry decryptedLength 0 .zero

/-- The element at `k` ends below `n`, as far as the loop looks at it. -/
def KdeEnds (m : Mem) (n k : Nat) : Prop :=
  k + 1 < n ∧ (m k = 0xDD → k + 6 ≤ n) ∧
    (IsGtkKde (elementAt m k) → k + 2 + (m (k + 1)).toNat ≤ n)

variable {m : Mem} {n k : Nat} {out : GtkKeyinfo}

theorem length_body_elementAt (m : Mem) (k : Nat) :
    (elementAt m k).body.length = (m (k + 1)).toNat := length_loadBytes _ _ _

/-- The condition of the loop says that there is a KDE with a group key. -/
theorem isGtkKde_elementAt_iff : IsGtkKde (elementAt m k) ↔ (m k).toNat = 0xDD ∧
    loadBytes m (k + 2) 4 = [0x00, 0x0F, 0xAC, 0x01] ∧
      ((m (k + 1)).toNat = 0x16 ∨ (m (k + 1)).toNat = 0x26) := by
  unfold IsGtkKde
  rw [length_body_elementAt]
  refine and_congr_right fun _ => and_congr_left fun hlen => ?_
  rw [elementAt, take_loadBytes _ _ (by omega)]

/-- What the loop does at an element. -/
theorem eval_readGtkEntry (out : GtkKeyinfo) :
    eval m (readGtkEntry (m k).toNat (m (k + 1)).toNat (k + 2) out) =
      Crypto.gtkEntry m (m k).toNat (m (k + 1)).toNat (k + 2) out := by
  unfold readGtkEntry Crypto.gtkEntry
  simp only [eval_ite, eval_bind, eval_bytes, eval_pure]
  split_ifs <;> simp_all

/-- It is the loop of `Crypto.wpaDecryptGtk`. -/
theorem eval_readGtk (m : Mem) (n : Nat) :
    eval m (readGtk n) = walk m (Crypto.gtkEntry m) n 0 .zero := by
  rw [readGtk, eval_walk, walk_eq_foldl, walk_eq_foldl]
  simp only [eval_readGtkEntry]

theorem gtkEntry_eq (out : GtkKeyinfo) :
    Crypto.gtkEntry m (m k).toNat (m (k + 1)).toNat (k + 2) out =
      if IsGtkKde (elementAt m k) then out.copyKde (elementAt m k) else out := by
  simp only [Crypto.gtkEntry, isGtkKde_elementAt_iff]
  refine if_congr Iff.rfl ?_ rfl
  rw [GtkKeyinfo.copyKde, length_body_elementAt]
  rfl

/-- **What is copied** are the KDEs with a group key, one after the other. -/
theorem walk_gtkEntry (m : Mem) (n : Nat) : walk m (Crypto.gtkEntry m) n 0 .zero =
    ((readElements m n 0).filter IsGtkKde).foldl GtkKeyinfo.copyKde .zero := by
  rw [List.foldl_filter]
  refine map_walk id _ fun i out => ?_
  rw [gtkEntry_eq]
  simp only [id, decide_eq_true_eq]

/-- What the loop reads at an element. -/
theorem within_readGtkEntry (out : GtkKeyinfo) :
    (k + 1 < n ∧ Within n m (readGtkEntry (m k).toNat (m (k + 1)).toNat (k + 2) out)) ↔
      KdeEnds m n k := by
  have htype : (m k).toNat = 0xDD ↔ m k = 0xDD :=
    ⟨fun h => UInt8.toNat_inj.mp h, fun h => congrArg UInt8.toNat h⟩
  refine and_congr_right fun _ => ?_
  unfold readGtkEntry
  rw [isGtkKde_elementAt_iff, ← htype]
  simp only [within_ite, within_bind, within_bytes, eval_bytes, within_pure, and_true,
    implies_true]
  constructor
  · intro h
    refine ⟨fun hdd => ?_, ?_⟩
    · have hheader := (received_iff (by decide)).mp (h hdd).1
      omega
    · rintro ⟨hdd, hkeytype, hsize⟩
      exact (received_iff (by omega)).mp ((h hdd).2 ⟨hkeytype, hsize⟩)
  · rintro ⟨hheader, hbody⟩ hdd
    have hend := hheader hdd
    refine ⟨(received_iff (by decide)).mpr (by omega), ?_⟩
    rintro ⟨hkeytype, hsize⟩
    exact (received_iff (by omega)).mpr (hbody ⟨hdd, hkeytype, hsize⟩)

/-- **`wpa_decrypt_gtk` stays in the key data** exactly if its elements end there. -/
theorem within_readGtk_iff : Within n m (readGtk n) ↔ ∀ k, Visits m n 0 k → KdeEnds m n k :=
  within_walk_iff_visits fun _ out => within_readGtkEntry out

end

/-! ## Keys -/

namespace Wpa

variable (crypto : Crypto) (s : Wpa) (frame : EapolKey)

/-- What the key data of a frame is unwrapped to. -/
def unwrapped : KwUnwrapped := crypto.nistKwUnwrap s.devicePtk.kek frame.body

/-- `gtk_dec`. -/
def gtkDec : Mem := frame.stack.storeBytes 0 (unwrapped crypto s frame).output

/-- The KDEs with a group key, in the unwrapped data. -/
def gtkKdes : List Element :=
  (readElements (gtkDec crypto s frame) (unwrapped crypto s frame).outLen 0).filter IsGtkKde

/-- The keys that the card gets because of a frame. -/
def newKeys : List CipherKey :=
  (s.dataHandleAuth crypto frame).cipherKeys.drop s.cipherKeys.length

/-- A KDE with a group key lies at `k` in the unwrapped data. -/
def KdeInside (k : Nat) : Prop :=
  Visits (gtkDec crypto s frame) (unwrapped crypto s frame).outLen 0 k ∧
    IsGtkKde (elementAt (gtkDec crypto s frame) k) ∧
    k + 2 + (gtkDec crypto s frame (k + 1)).toNat ≤ (unwrapped crypto s frame).outLen

/-- The card gets the group key of a KDE or none, and nothing else than the unwrapped data is
read. -/
structure GroupKeyAuthentic : Prop where
  authentic : ∀ key ∈ newKeys crypto s frame, key.keyUsage = 1 →
    (unwrapped crypto s frame).status = 0 ∧ ∃ k, KdeInside crypto s frame k ∧
      key = s.cipherKey (GtkKeyinfo.ofKde (elementAt (gtkDec crypto s frame) k)).keyidx 1
        (GtkKeyinfo.ofKde (elementAt (gtkDec crypto s frame) k)).key (some frame.wpaRsc)
  reads : ReadM.Within (unwrapped crypto s frame).outLen (gtkDec crypto s frame)
    (readGtk (unwrapped crypto s frame).outLen)

/-- There is a KDE with index and first half of the key of the last one. For TKIP it also has the
second half of the key of the last long one. -/
def OneKde : Prop :=
  ∃ kde ∈ gtkKdes crypto s frame, ∃ last ∈ (gtkKdes crypto s frame).getLast?,
    (GtkKeyinfo.ofKde last).keyidx = (GtkKeyinfo.ofKde kde).keyidx ∧
    (GtkKeyinfo.ofKde last).keyLow = (GtkKeyinfo.ofKde kde).keyLow ∧
    (s.groupCryptType = .tkip →
      GtkKeyinfo.lastHigh (gtkKdes crypto s frame) = (GtkKeyinfo.ofKde kde).keyHigh)

variable {crypto s frame}

theorem length_keyLow {gtk : GtkKeyinfo} (h : gtk.bytes.length = 38) : gtk.keyLow.length = 16 := by
  simp only [GtkKeyinfo.keyLow, GtkKeyinfo.key, List.length_take, List.length_drop]
  omega

theorem length_keyHigh {gtk : GtkKeyinfo} (h : gtk.bytes.length = 38) :
    gtk.keyHigh.length = 16 := by
  simp only [GtkKeyinfo.keyHigh, GtkKeyinfo.key, List.length_drop]
  omega

/-- The halves of the second half change places. -/
theorem swapped_inj {a b : List UInt8} (ha : a.length = 16) (hb : b.length = 16) :
    (a.drop 8).take 8 ++ a.take 8 = (b.drop 8).take 8 ++ b.take 8 ↔ a = b := by
  constructor
  · intro h
    have hlen : ((a.drop 8).take 8).length = ((b.drop 8).take 8).length := by
      simp only [List.length_take, List.length_drop, ha, hb]
    obtain ⟨hback, hfront⟩ := List.append_inj h hlen
    rw [List.take_of_length_le (by rw [List.length_drop]; omega),
      List.take_of_length_le (by rw [List.length_drop]; omega)] at hback
    rw [← List.take_append_drop 8 a, ← List.take_append_drop 8 b, hfront, hback]
  · rintro rfl
    rfl

/-- The parameters of a group key. -/
theorem cipherKey_group (hsec : s.curAp.securityType = .wpa2) {gtk : GtkKeyinfo}
    (hlen : gtk.bytes.length = 38) (rsc : Option (List UInt8)) :
    s.cipherKey gtk.keyidx 1 gtk.key rsc = {
      keyIndex := gtk.keyidx
      keyType := s.groupCryptType
      keyUsage := 1
      keyLength := if s.groupCryptType = .tkip then 0x20 else 0x10
      keyRsc := rsc.getD (List.replicate 8 0)
      key := gtk.keyLow ++ if s.groupCryptType = .tkip then
        (gtk.keyHigh.drop 8).take 8 ++ gtk.keyHigh.take 8 else List.replicate 16 0 } := by
  have hwep : ¬ ApSecurityType.wpa2 = .wep := nofun
  have hlow := length_keyLow hlen
  have htake : gtk.key.take 16 = gtk.keyLow := rfl
  have hhigh : (gtk.key.drop 0x18).take 8 = (gtk.keyHigh.drop 8).take 8 := by
    rw [GtkKeyinfo.keyHigh, List.drop_drop]
  unfold cipherKey
  rw [hsec]
  simp only [if_true, if_neg hwep, CipherKey.mk.injEq, true_and]
  by_cases htkip : s.groupCryptType = .tkip
  · simp only [htkip, if_true, hhigh, show min 0x20 0x10 = 16 from rfl, htake, hlow]
    simp [GtkKeyinfo.keyHigh]
  · simp only [htkip, if_false, show min 0x10 0x10 = 16 from rfl, htake, hlow]
    simp

/-- What is installed of a group key. -/
theorem cipherKey_group_inj (hsec : s.curAp.securityType = .wpa2) {gtk gtk' : GtkKeyinfo}
    (hlen : gtk.bytes.length = 38) (hlen' : gtk'.bytes.length = 38) (rsc : Option (List UInt8)) :
    s.cipherKey gtk.keyidx 1 gtk.key rsc = s.cipherKey gtk'.keyidx 1 gtk'.key rsc ↔
      gtk.keyidx = gtk'.keyidx ∧ gtk.keyLow = gtk'.keyLow ∧
        (s.groupCryptType = .tkip → gtk.keyHigh = gtk'.keyHigh) := by
  have hlow : gtk.keyLow.length = gtk'.keyLow.length :=
    (length_keyLow hlen).trans (length_keyLow hlen').symm
  have happend (x y : List UInt8) : gtk.keyLow ++ x = gtk'.keyLow ++ y ↔
      gtk.keyLow = gtk'.keyLow ∧ x = y :=
    ⟨fun h => List.append_inj h hlow, fun ⟨h, h'⟩ => by rw [h, h']⟩
  rw [cipherKey_group hsec hlen, cipherKey_group hsec hlen']
  simp only [CipherKey.mk.injEq, true_and, happend]
  by_cases htkip : s.groupCryptType = .tkip
  · simp only [htkip, if_true, forall_const, swapped_inj (length_keyHigh hlen)
      (length_keyHigh hlen')]
  · simp [htkip]

theorem wmiPostHandshake_cipherKeys_of_ne (hsec : s.curAp.securityType ≠ .wpa2) (tk : List UInt8)
    (gtk : GtkKeyinfo) (rsc : List UInt8) :
    (s.wmiPostHandshake tk gtk rsc).cipherKeys = s.cipherKeys := by
  have hsec' : ¬ (((s.wmiSynchronize 1).dataSendPkt [0x00, 0x02]).dataSendPkt
      [0x00, 0x02]).curAp.securityType = .wpa2 := hsec
  unfold wmiPostHandshake
  dsimp only
  rw [if_neg hsec', cipherKeys_wmiSynchronize, cipherKeys_dataSendPkt, cipherKeys_dataSendPkt,
    cipherKeys_wmiSynchronize]

/-- Without WPA2 the card gets no key. -/
theorem newKeys_of_ne (hsec : s.curAp.securityType ≠ .wpa2) : newKeys crypto s frame = [] := by
  have hload {t : Wpa} (hconfig : t.curAp = s.curAp) (hkeys : t.cipherKeys = s.cipherKeys) :
      (t.loadKeys crypto frame).cipherKeys = s.cipherKeys := by
    let gtk := crypto.wpaDecryptGtk t.devicePtk.kek frame.body frame.stack
    let u : Wpa := { t with deviceGtkKeyinfo := gtk }
    have hne : u.curAp.securityType ≠ .wpa2 := by rwa [show u.curAp = s.curAp from hconfig]
    have hpost : (u.wmiPostHandshake t.devicePtk.tk gtk frame.wpaRsc).cipherKeys = u.cipherKeys :=
      wmiPostHandshake_cipherKeys_of_ne hne _ _ _
    exact hpost.trans hkeys
  have hkeys : (s.dataHandleAuth crypto frame).cipherKeys = s.cipherKeys := by
    unfold dataHandleAuth
    split_ifs
    · exact cipherKeys_dataSendPkt _ _
    · exact hload rfl (cipherKeys_dataSendPkt _ _)
    · exact hload rfl (cipherKeys_dataSendPkt _ _)
    · rfl
  rw [newKeys, hkeys, List.drop_length]

/-- With WPA2 the card gets the key of the pair and what the KDEs have left. -/
theorem newKeys_of_loads (hsec : s.curAp.securityType = .wpa2) (hinfo : LoadsKeys frame.keyinfo) :
    newKeys crypto s frame =
      [pairwiseKey s.devicePtk, groupKey crypto s s.devicePtk frame] := by
  unfold newKeys
  cases dataHandleAuth_handles crypto hsec frame with
  | answered hfirst => exact absurd (hfirst ▸ hinfo) not_loadsKeys_message1
  | loaded _ _ _ _ hkeys => rw [hkeys, List.drop_left]
  | ignored _ hnot => exact absurd hinfo hnot

/-- The structure that the group key is taken from. -/
theorem wpaDecryptGtk_eq : crypto.wpaDecryptGtk s.devicePtk.kek frame.body frame.stack =
    (gtkKdes crypto s frame).foldl GtkKeyinfo.copyKde .zero :=
  walk_gtkEntry _ _

/-- The card gets the group key of a KDE if and only if all its parts come from there. -/
theorem groupKey_eq_iff (hsec : s.curAp.securityType = .wpa2) {kde : Element}
    (hkde : kde ∈ gtkKdes crypto s frame) :
    groupKey crypto s s.devicePtk frame =
        s.cipherKey (GtkKeyinfo.ofKde kde).keyidx 1 (GtkKeyinfo.ofKde kde).key
          (some frame.wpaRsc) ↔
      ∃ last ∈ (gtkKdes crypto s frame).getLast?,
        (GtkKeyinfo.ofKde last).keyidx = (GtkKeyinfo.ofKde kde).keyidx ∧
        (GtkKeyinfo.ofKde last).keyLow = (GtkKeyinfo.ofKde kde).keyLow ∧
        (s.groupCryptType = .tkip →
          GtkKeyinfo.lastHigh (gtkKdes crypto s frame) = (GtkKeyinfo.ofKde kde).keyHigh) := by
  have hkdes : ∀ e ∈ gtkKdes crypto s frame, IsGtkKde e := by
    intro e he
    simpa using (List.mem_filter.mp he).2
  obtain ⟨hlen, hlast, hhigh⟩ := GtkKeyinfo.foldl_copyKde hkdes
  have hlen' : (GtkKeyinfo.ofKde kde).bytes.length = 38 :=
    GtkKeyinfo.length_copyKde (hkdes kde hkde) GtkKeyinfo.length_zero
  obtain ⟨last, hmem⟩ : ∃ last, (gtkKdes crypto s frame).getLast? = some last :=
    ⟨_, List.getLast?_eq_some_getLast (List.ne_nil_of_mem hkde)⟩
  obtain ⟨hidx, hlow⟩ := hlast last hmem
  have hkey : groupKey crypto s s.devicePtk frame =
      s.cipherKey ((gtkKdes crypto s frame).foldl GtkKeyinfo.copyKde .zero).keyidx 1
        ((gtkKdes crypto s frame).foldl GtkKeyinfo.copyKde .zero).key (some frame.wpaRsc) := by
    rw [← wpaDecryptGtk_eq]
    rfl
  rw [hkey, cipherKey_group_inj hsec hlen hlen', hidx, hlow, hhigh, hmem]
  simp only [Option.mem_def, Option.some.injEq, exists_eq_left']

/-- The KDEs that are copied lie in the unwrapped data, if it is all that is read. -/
theorem mem_gtkKdes_iff {kde : Element}
    (hends : ∀ k, Visits (gtkDec crypto s frame) (unwrapped crypto s frame).outLen 0 k →
      KdeEnds (gtkDec crypto s frame) (unwrapped crypto s frame).outLen k) :
    kde ∈ gtkKdes crypto s frame ↔
      ∃ k, KdeInside crypto s frame k ∧ kde = elementAt (gtkDec crypto s frame) k := by
  rw [gtkKdes, List.mem_filter, mem_readElements_iff]
  constructor
  · rintro ⟨⟨k, hvisits, rfl⟩, hkde⟩
    have hkde := of_decide_eq_true hkde
    exact ⟨k, ⟨hvisits, hkde, (hends k hvisits).2.2 hkde⟩, rfl⟩
  · rintro ⟨k, ⟨hvisits, hkde, -⟩, rfl⟩
    exact ⟨⟨k, hvisits, rfl⟩, decide_eq_true hkde⟩

/-- The card gets the group key of a KDE in the unwrapped data. -/
theorem oneKde_iff (hsec : s.curAp.securityType = .wpa2)
    (hends : ∀ k, Visits (gtkDec crypto s frame) (unwrapped crypto s frame).outLen 0 k →
      KdeEnds (gtkDec crypto s frame) (unwrapped crypto s frame).outLen k) :
    OneKde crypto s frame ↔
      ∃ k, KdeInside crypto s frame k ∧ groupKey crypto s s.devicePtk frame =
        s.cipherKey (GtkKeyinfo.ofKde (elementAt (gtkDec crypto s frame) k)).keyidx 1
          (GtkKeyinfo.ofKde (elementAt (gtkDec crypto s frame) k)).key (some frame.wpaRsc) := by
  constructor
  · rintro ⟨kde, hkde, hparts⟩
    obtain ⟨k, hinside, rfl⟩ := (mem_gtkKdes_iff hends).mp hkde
    exact ⟨k, hinside, (groupKey_eq_iff hsec hkde).mpr hparts⟩
  · rintro ⟨k, hinside, hkey⟩
    have hkde := (mem_gtkKdes_iff hends).mpr ⟨k, hinside, rfl⟩
    exact ⟨_, hkde, (groupKey_eq_iff hsec hkde).mp hkey⟩

/-- **The group key is an authenticated one** exactly if the unwrapped data ends with its elements
and, with WPA2, the unwrapping has succeeded and a KDE has the key that is installed. -/
theorem dataHandleAuth_authentic_iff (crypto : Crypto) (s : Wpa) (frame : EapolKey)
    (hinfo : LoadsKeys frame.keyinfo) :
    GroupKeyAuthentic crypto s frame ↔
      (∀ k, Visits (gtkDec crypto s frame) (unwrapped crypto s frame).outLen 0 k →
        KdeEnds (gtkDec crypto s frame) (unwrapped crypto s frame).outLen k) ∧
      (s.curAp.securityType = .wpa2 →
        (unwrapped crypto s frame).status = 0 ∧ OneKde crypto s frame) := by
  constructor
  · rintro ⟨hauthentic, hreads⟩
    have hends := within_readGtk_iff.mp hreads
    refine ⟨hends, fun hsec => ?_⟩
    have hmem : groupKey crypto s s.devicePtk frame ∈ newKeys crypto s frame := by
      rw [newKeys_of_loads hsec hinfo]
      simp
    obtain ⟨hstatus, hkde⟩ := hauthentic _ hmem rfl
    exact ⟨hstatus, (oneKde_iff hsec hends).mpr hkde⟩
  · rintro ⟨hends, hwpa2⟩
    refine ⟨fun key hmem husage => ?_, within_readGtk_iff.mpr hends⟩
    by_cases hsec : s.curAp.securityType = .wpa2
    · obtain ⟨hstatus, hone⟩ := hwpa2 hsec
      rw [newKeys_of_loads hsec hinfo, List.mem_pair] at hmem
      rcases hmem with rfl | rfl
      · -- The key of the pair is not for groups.
        exact absurd husage Nat.zero_ne_one
      · exact ⟨hstatus, (oneKde_iff hsec hends).mp hone⟩
    · rw [newKeys_of_ne hsec] at hmem
      cases hmem

/-- A KDE with a group key for AES. -/
def aesKde : Element where
  id := 0xDD
  body := [0x00, 0x0F, 0xAC, 0x01, 1, 0] ++ List.replicate 16 7
  length_lt := Nat.le_of_ble_eq_true rfl

/-- All key data is unwrapped to the KDE. -/
def unwrapsKde : Crypto where
  sha1Hmac _ _ := Vector.replicate 20 0
  nistKwUnwrap _ _ := {
    status := 0
    outLen := 24
    output := elementsBytes [aesKde]
    outLen_le := Nat.le_of_ble_eq_true rfl
    output_le := Nat.le_of_ble_eq_true rfl }

/-- No key data is authentic. -/
def unwrapsNothing : Crypto where
  sha1Hmac _ _ := Vector.replicate 20 0
  nistKwUnwrap _ _ := {
    status := -0x6300
    outLen := 0
    output := []
    outLen_le := Nat.zero_le _
    output_le := Nat.zero_le _ }

/-- The key of the KDE is installed. -/
theorem dataHandleAuth_authentic_aes :
    LoadsKeys (eapolFrame 0x13CA).keyinfo ∧
      GroupKeyAuthentic unwrapsKde joiningWpa (eapolFrame 0x13CA) := by
  have hinfo : LoadsKeys (eapolFrame 0x13CA).keyinfo := by decide
  have hstored : loadBytes (gtkDec unwrapsKde joiningWpa (eapolFrame 0x13CA)) 0
      (elementsBytes [aesKde]).length = elementsBytes [aesKde] := loadBytes_storeBytes _ _ _
  have hkdes : gtkKdes unwrapsKde joiningWpa (eapolFrame 0x13CA) = [aesKde] := by
    have hread := (readElements_elements hstored rfl : readElements _ 24 0 = _)
    exact (congrArg (List.filter _) hread).trans (List.filter_cons_of_pos (by decide))
  refine ⟨hinfo, (dataHandleAuth_authentic_iff _ _ _ hinfo).mpr ⟨fun k hvisits => ?_, fun _ => ?_⟩⟩
  · obtain ⟨pre, e, post, hsplit, rfl⟩ := (visits_elements hstored rfl).mp hvisits
    cases pre with
    | nil =>
      refine ⟨by decide, fun _ => by decide, fun _ => ?_⟩
      decide +kernel
    | cons e' pre => simp at hsplit
  · refine ⟨rfl, aesKde, ?_, aesKde, ?_, rfl, rfl, nofun⟩
    · rw [hkdes]
      simp
    · rw [hkdes]
      rfl

/-- A key of zeros is installed. -/
theorem dataHandleAuth_unauthentic :
    ¬ GroupKeyAuthentic unwrapsNothing joiningWpa (eapolFrame 0x13CA) := by
  intro h
  have hinfo : LoadsKeys (eapolFrame 0x13CA).keyinfo := by decide
  have hmem : groupKey unwrapsNothing joiningWpa joiningWpa.devicePtk (eapolFrame 0x13CA) ∈
      newKeys unwrapsNothing joiningWpa (eapolFrame 0x13CA) := by
    rw [newKeys_of_loads rfl hinfo]
    simp
  exact absurd (h.authentic _ hmem rfl).1 (by decide)

end Wpa

end Wifi
