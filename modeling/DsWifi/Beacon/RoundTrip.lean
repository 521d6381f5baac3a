import DsWifi.Beacon.Edits
import DsWifi.Beacon.Scan
import DsWifi.Host.Payload

/-!
# Beacons from the host to its clients

`Wifi_BeaconStart` writes the frame on the ARM9, `Wifi_BeaconSetup` and the functions behind it find
and change three bytes of it in MAC RAM, and `Wifi_ProcessBeaconOrProbeResponse` reads it on another
console.

* `beacon_round_trip` — what a client that looks for hosts adds to its list
-/

namespace Wifi

open Infra Infra.Mem Infra.TaggedRing

/-! ## Reading the fields -/

section

variable {m : Mem} {a : Nat}

/-- Halfwords in memory, one behind the other. -/
theorem load16_flatMap {xs : List Nat} (hxs : ∀ x ∈ xs, x < 2 ^ 16)
    (h : loadBytes m a (xs.flatMap halfBytes).length = xs.flatMap halfBytes) {i : Nat}
    (hi : i < xs.length) : load16 m (a + 2 * i) = xs[i] := by
  induction xs generalizing a i with
  | nil => exact absurd hi (Nat.not_lt_zero i)
  | cons x xs ih =>
    rw [List.flatMap_cons] at h
    obtain ⟨hx, htail⟩ := loadBytes_append.mp h
    cases i with
    | zero => exact load16_eq m a x (hxs x (List.mem_cons_self ..)) hx
    | succ i =>
      have hnext := ih (fun y hy => hxs y (List.mem_cons_of_mem x hy)) htail
        (Nat.lt_of_succ_lt_succ hi)
      rw [List.getElem_cons_succ, ← hnext, length_halfBytes]
      congr 1
      omega

/-- The addresses of a header. -/
theorem macAt_header {ieee : IeeeFrameHeader} (h : loadBytes m a ieee.bytes.length = ieee.bytes) :
    macAt m (a + hdrMgtSa) = ieee.addr2 ∧ macAt m (a + hdrMgtBssid) = ieee.addr3 := by
  unfold IeeeFrameHeader.bytes at h
  obtain ⟨h, -⟩ := loadBytes_append.mp h
  obtain ⟨h, hbssid⟩ := loadBytes_append.mp h
  obtain ⟨h, hsa⟩ := loadBytes_append.mp h
  simp only [List.length_append, length_halfBytes, Vector.length_toList] at hbssid hsa
  exact ⟨macAt_eq (by simpa [hdrMgtSa] using hsa), macAt_eq (by simpa [hdrMgtBssid] using hbssid)⟩

end

/-- What the information of a host is to say. -/
def BeaconFields.info (env : TxEnv) (gameId : Nat) (b : BeaconFields) : NintendoVendorInfo where
  playersMax := env.curMaxClients + 1
  playersCurrent := b.playersCurrent.toNat
  allowsConnections := b.allowsConnections.toNat
  gameId
  nameLen := env.hostPlayerNameLen
  name := env.hostPlayerName

/-- The fields that go into a beacon have values of their types, and there are at most 15
clients. -/
structure TxEnv.BeaconTypes (env : TxEnv) : Prop where
  curMaxClients_le : env.curMaxClients ≤ 15
  nameLen_lt : env.hostPlayerNameLen < 2 ^ 8
  name_lt : ∀ c ∈ env.hostPlayerName.toList, c < 2 ^ 16

variable {env : TxEnv} {ssid : List UInt8} {gameId : Nat} {b : BeaconFields} {m : Mem} {a : Nat}

/-- The information of a host is read as it was written. -/
theorem BeaconAt.info (h : BeaconAt env ssid gameId b m a) (htypes : env.BeaconTypes)
    (hgame : gameId < 2 ^ 32) :
    nintendoVendorInfo m (a + 53 + (ssidBytes ssid).length) = b.info env gameId := by
  have hhead (k : Nat) (byte : UInt8) (hk : (nintendoHead env gameId)[k]? = some byte) :
      m (a + 53 + (ssidBytes ssid).length + k) = byte :=
    apply_of_loadBytes h.nintendo hk
  have hplayersAt : a + playersIndex ssid = a + 53 + (ssidBytes ssid).length + 25 := by
    unfold playersIndex
    omega
  have hplayers := h.playersCurrent
  have hallows := h.allowsConnections
  have hname := h.name
  rw [hplayersAt] at hplayers hallows hname
  obtain ⟨hnameLen, hname⟩ := loadBytes_cons.mp hname
  have hmax := hhead 24 (UInt8.ofNat (env.curMaxClients + 1)) rfl
  have h0 := hhead 12 (UInt8.ofNat (gameId / 2 ^ 24)) rfl
  have h1 := hhead 13 (UInt8.ofNat (gameId / 2 ^ 16)) rfl
  have h2 := hhead 14 (UInt8.ofNat (gameId / 2 ^ 8)) rfl
  have h3 := hhead 15 (UInt8.ofNat gameId) rfl
  have hle := htypes.curMaxClients_le
  have hlen := htypes.nameLen_lt
  unfold nintendoVendorInfo BeaconFields.info
  congr 1
  · rw [hmax, UInt8.toNat_ofNat']
    omega
  · rw [hplayers]
  · rw [hallows]
  · rw [h0, h1, h2, h3]
    simp only [UInt8.toNat_ofNat']
    omega
  · rw [hnameLen, UInt8.toNat_ofNat']
    omega
  · ext i hi
    have hchar := load16_flatMap htypes.name_lt hname (i := i) (by simpa using hi)
    simpa using hchar

/-! ## Scanning a beacon -/

section

variable {segtype seglen curloc : Nat} {t : BeaconElements}

theorem process_ssid (seglen curloc : Nat) (t : BeaconElements) :
    t.process m 0 seglen curloc = { t with ptrSsid := curloc - 2 } := rfl

/-- The rates of a host are supported. -/
theorem process_rates (h : loadBytes m curloc 2 = [0x80 ||| 4, 0x80 ||| 2]) (t : BeaconElements) :
    t.process m 1 2 curloc = { t with compatible := true } := by
  have hprocess : t.process m 1 2 curloc =
      { t with compatible := BeaconElements.ratesCompatible false (loadBytes m curloc 2) } := rfl
  rw [hprocess, h]
  rfl

theorem process_channel (seglen curloc : Nat) (t : BeaconElements) :
    t.process m 3 seglen curloc = { t with channel := (m curloc).toNat } := rfl

theorem process_tim (seglen curloc : Nat) (t : BeaconElements) : t.process m 5 seglen curloc = t :=
  rfl

/-- The vendor is Nintendo. -/
theorem process_nintendo (h : loadBytes m curloc 4 = [0x00, 0x09, 0xBF, 0x00])
    (t : BeaconElements) :
    t.process m 221 48 curloc = { t with nintendoInfo := some (nintendoVendorInfo m curloc) } := by
  have hprocess : t.process m 221 48 curloc = t.processVendorTag m curloc 48 := rfl
  have hmicrosoft : isVendorMicrosoft m curloc 48 = false := by
    have h6 : loadBytes m curloc 6 = [0x00, 0x09, 0xBF, 0x00] ++ loadBytes m (curloc + 4) 2 := by
      rw [loadBytes_add m curloc 4 2, h]
    simp [isVendorMicrosoft, h6]
  have hnintendo : isVendorNintendo m curloc 48 = true := by
    rw [isVendorNintendo, h]
    rfl
  rw [hprocess, BeaconElements.processVendorTag, hmicrosoft, hnintendo]
  rfl

end

/-- What the elements of a beacon say. -/
theorem walk_process (hssid : ssid.length ≤ 32) {len : Nat} (htypes : env.BeaconTypes)
    (hgame : gameId < 2 ^ 32)
    (h : loadBytes m 0 (beaconBytes env ssid gameId b).length = beaconBytes env ssid gameId b)
    (hlen : len = (beaconBytes env ssid gameId b).length) (t : BeaconElements) :
    walk m (BeaconElements.process m) len elementsIndex t =
      { t with
        compatible := true
        ptrSsid := if 0 < ssid.length then 36 else t.ptrSsid
        channel := b.channel.toNat
        nintendoInfo := some (b.info env gameId) } := by
  have hat := BeaconAt.of_loadBytes h
  have helements := loadBytes_elements hssid h
  rw [Nat.zero_add] at helements
  rw [length_elements hssid] at hlen
  rw [walk_elements helements hlen, foldElements_beacon]
  have hrates : loadBytes m (elementsIndex + (ssidBytes ssid).length + 2) 2 =
      [0x80 ||| 4, 0x80 ||| 2] := by
    have hslice := loadBytes_slice hat.rates (show 2 + 2 ≤ ratesBytes.length by decide)
    rw [Nat.zero_add] at hslice
    exact hslice
  have hchannel : m (elementsIndex + (ssidBytes ssid).length + 6) = b.channel := by
    have haddr : elementsIndex + (ssidBytes ssid).length + 6 = 0 + channelIndex ssid := by
      unfold elementsIndex hdrMgtMacSize channelIndex
      omega
    rw [haddr]
    exact hat.channel
  have hinfoAt : elementsIndex + (ssidBytes ssid).length + 17 =
      0 + 53 + (ssidBytes ssid).length := by
    unfold elementsIndex hdrMgtMacSize
    omega
  have houi : loadBytes m (0 + 53 + (ssidBytes ssid).length) 4 = [0x00, 0x09, 0xBF, 0x00] := by
    have hlen := length_nintendoHead env gameId
    exact loadBytes_slice hat.nintendo (i := 0) (n := 4) (by omega)
  dsimp only
  rw [process_rates hrates, process_channel, process_tim, hinfoAt, process_nintendo houi,
    hat.info htypes hgame, hchannel, process_ssid]
  split <;> rfl

/-! ## The client -/

/-- What a client hears of the beacon. -/
def BeaconFields.args (env : TxEnv) (ssid : List UInt8) (gameId : Nat) (b : BeaconFields)
    (curChannel rssi : Nat) : AccessPointArgs where
  bssid := env.macAddr
  sa := env.macAddr
  ssid := if 0 < ssid.length then some ssid else none
  channel := b.channel.toNat
  rssi := if curChannel = b.channel.toNat then ((rssi % 2 ^ 8 : Nat) : Int) else intMin
  secType := .open
  groupCryptType := .none
  pairCryptType := .none
  authType := .none
  compatible := true
  nintendoInfo := some (b.info env gameId)

namespace ReceivedBeacon

variable {rx : ReceivedBeacon}

/-- The frame has been read to the stack. -/
theorem loadBytes_data (h : rx.byteLength ≤ 512) :
    loadBytes rx.data 0 rx.byteLength = loadBytes rx.frame 0 rx.byteLength := by
  have hdatalen : rx.datalen = rx.byteLength := Nat.min_eq_left h
  have hle : rx.byteLength ≤ (rx.byteLength + 1) / 2 * 2 := by omega
  have hstored := loadBytes_storeBytes rx.stack 0
    (loadBytes rx.frame 0 ((rx.byteLength + 1) / 2 * 2))
  rw [length_loadBytes] at hstored
  rw [data, hdatalen, ← take_loadBytes _ _ hle, hstored, take_loadBytes _ _ hle]

/-- The capabilities of a host announce no encryption. -/
theorem caps_beacon (hat : BeaconAt env ssid gameId b m 0) :
    load16 m capsIndex &&& capsPrivacy = 0 := by
  have hcaps : load16 m capsIndex = capsEss ||| capsShortPreamble := by
    refine load16_eq m capsIndex _ (by decide) ?_
    have hslice := loadBytes_slice hat.fixed (show 10 + 2 ≤ beaconFixedBytes.length by decide)
    rw [Nat.zero_add] at hslice
    exact hslice
  rw [hcaps]
  decide

/-- The SSID of a beacon. -/
theorem ssid_beacon (hssid : ssid.length ≤ 32) (hat : BeaconAt env ssid gameId b rx.data 0)
    {t : BeaconElements} (ht : t.ptrSsid = if 0 < ssid.length then 36 else 0) :
    rx.ssid t = if 0 < ssid.length then some ssid else none := by
  unfold ReceivedBeacon.ssid
  rw [ht]
  split
  · rename_i hpos
    have helement := hat.ssidElement
    unfold ssidBytes at helement
    rw [if_pos hpos, List.cons_append, List.singleton_append, Nat.zero_add] at helement
    obtain ⟨-, helement⟩ := loadBytes_cons.mp helement
    obtain ⟨hlength, hbody⟩ := loadBytes_cons.mp helement
    have hlen : (rx.data (36 + 1)).toNat = ssid.length := by
      rw [hlength, UInt8.toNat_ofNat']
      omega
    rw [if_pos (by decide), hlen]
    exact congrArg some hbody
  · rfl

/-- **A beacon is heard as it was sent**, by a client whose scan does not leave out hosts. -/
theorem process_beacon (hssid : ssid.length ≤ 32) (htypes : env.BeaconTypes)
    (hgame : gameId < 2 ^ 32)
    (hrx : loadBytes rx.frame 0 rx.byteLength = beaconBytes env ssid gameId b)
    (curChannel curApScanFlags : Nat) :
    rx.process curChannel curApScanFlags =
      if curApScanFlags &&& wscanListNdsHosts ≠ 0 then
        some (b.args env ssid gameId curChannel rx.rssi)
      else none := by
  have hle := length_ssidBytes_le ssid hssid
  have hlen : rx.byteLength = (beaconBytes env ssid gameId b).length := by
    rw [← hrx, length_loadBytes]
  have hshort : rx.byteLength ≤ 512 := by
    rw [hlen, length_beaconBytes]
    omega
  have hdatalen : rx.datalen = (beaconBytes env ssid gameId b).length := by
    rw [datalen, Nat.min_eq_left hshort, hlen]
  have hdata : loadBytes rx.data 0 (beaconBytes env ssid gameId b).length =
      beaconBytes env ssid gameId b := by
    rw [← hlen, loadBytes_data hshort, hrx]
  have hat := BeaconAt.of_loadBytes hdata
  obtain ⟨hsa, hbssid⟩ := macAt_header hat.header
  rw [Nat.zero_add] at hsa hbssid
  have hwalk := walk_process hssid htypes hgame hdata hdatalen {
    compatible := true
    secType := .open
    ptrSsid := 0
    channel := curChannel
    nintendoInfo := none }
  have helements : rx.elements curChannel = {
      compatible := true
      secType := .open
      ptrSsid := if 0 < ssid.length then 36 else 0
      channel := b.channel.toNat
      nintendoInfo := some (b.info env gameId) } := by
    rw [elements, caps_beacon hat]
    exact hwalk
  have hheard : rx.ssid (rx.elements curChannel) = if 0 < ssid.length then some ssid else none :=
    ssid_beacon hssid hat (by rw [helements])
  unfold process
  dsimp only
  rw [hheard, helements, hsa, hbssid]
  simp only [Option.isSome_some, if_true, decide_eq_true_eq]
  rfl

end ReceivedBeacon

/-! ## From the call to MAC RAM -/

/-- In some run of NTR mode `Wifi_BeaconStart` has returned `0`, and later, in the state `s`, the
next flush finds a beacon and copies the frame of the call. -/
def BeaconCopied (env : TxEnv) (ssid : List UInt8) (gameId : Nat) (arm7 : Arm7Env) (s : Arm7Tx) :
    Prop :=
  ∃ (before later : List (TxEvent false)) (hmode : env.dsiMode = false)
    (hobject : (TxCall.beaconStart ssid gameId).IsObject) (bytes : List UInt8),
    let s₀ := run (txStep false) .init before
    let s₁ := txStep false s₀ (.call env (.beaconStart ssid gameId) hmode hobject)
    (beaconStart env s₀.ring ssid gameId).2 = true ∧
    s₁.ring.queued.getLast? = some (wflagSendAsBeacon, bytes) ∧
    s = run (txStep false) s₁ later ∧
    s.headStatus = bytes.length ||| wflagSendAsBeacon ∧
    (s.txArm9QueueFlush arm7).1.handled = s.handled ++ [.copied macBeaconStartOffset bytes]

/-- The frame of an accepted call. -/
theorem beaconStart_stored {ring : TxRing} (hring : RingFlagged ring)
    (hok : (beaconStart env ring ssid gameId).2 = true) :
    ssid.length ≤ 32 ∧ ∃ gap : List UInt8, gap.length = 4 ∧
      (beaconStart env ring ssid gameId).1.queued.getLast? = some (wflagSendAsBeacon,
        (beaconTxHeader ssid).bytes ++ beaconBytes env ssid gameId (.start env) ++ gap) := by
  have hssid : ssid.length ≤ 32 := by
    by_contra hlong
    rw [beaconStart, if_pos (by omega)] at hok
    cases hok
  obtain ⟨e, q, hring⟩ := hring
  rw [beaconStart, if_neg (by omega)] at hok ⊢
  obtain ⟨gap, hgap, hqueued⟩ := hring.ring.stored (beaconRequest_valid env gameId hssid) hok
  rw [leadBytes_beaconRequest] at hgap hqueued
  refine ⟨hssid, gap, ?_, ?_⟩
  · have hlen := length_beaconBytes env ssid gameId (.start env)
    rw [beaconBytes_start, List.length_append, IeeeFrameHeader.length_bytes] at hlen
    rw [hgap, List.length_append, TxHeader.length_bytes, length_beaconBytes, ← hlen]
    simp only [beaconRequest]
    omega
  · rw [hqueued, List.getLast?_concat]
    rfl

/-- The type bits of a beacon. -/
theorem QueuedFrame.beacon_bits {f : Frame txGeometry} (hf : QueuedFrame f)
    (hbeacon : f.tag = f.body.length ||| wflagSendAsBeacon) :
    f.tag &&& wflagSendAsBeacon ≠ 0 ∧ f.tag &&& wflagSendAsReply = 0 := by
  constructor
  · rw [hbeacon, show wflagSendAsBeacon = 2 ^ 29 from rfl, tag_and_two_pow hf.size_lt (by decide)]
    decide
  · rw [hbeacon, show wflagSendAsReply = 2 ^ 30 from rfl, tag_and_two_pow hf.size_lt (by decide)]
    decide

/-- The flush of a beacon sets it up. -/
theorem TxInv.flush_beacon {s : Arm7Tx} {e : Nat} {f : Frame txGeometry}
    {fs : List (Frame txGeometry)} (h : TxInv s.ring e (f :: fs))
    (hbeacon : f.tag = f.body.length ||| wflagSendAsBeacon) (arm7 : Arm7Env) :
    ∃ t : Arm7Tx, (s.txArm9QueueFlush arm7).1 = t.beaconSetup arm7 ∧
      loadBytes t.ram macBeaconStartOffset f.body.length = f.body := by
  have hskip := h.skipWrap
  have hcap := h.view.reader_le
  have hcap' := hskip.view.reader_le
  rw [txGeometry_cap] at hcap hcap'
  have hne := h.view.load32_ne_zero (by decide)
  obtain ⟨-, hnil⟩ | ⟨g, gs, hcons, htag, hi⟩ := h.headStatus_cases
  · cases hnil
  obtain ⟨rfl, rfl⟩ := List.cons.inj hcons
  have htag' : load32 s.skipWrap.ring.txbufData s.skipWrap.ring.txbufRead = f.tag := htag
  have hq := h.queued f (List.mem_cons_self ..)
  obtain ⟨hbit, hreply⟩ := hq.beacon_bits hbeacon
  have hle := hq.le_of_beacon hbit
  have hsize := hq.le_size
  have hfits : f.body.length ≤ macBeaconEndOffset := by
    unfold macBeaconEndOffset
    omega
  have hcopy := hskip.copyFirst_eq hi (show macBeaconStartOffset ≤ 0xB00 by decide)
    (show macBeaconEndOffset ≤ 0xC00 by decide) hfits
  have hram := (loadBytes_macWrite (s := s.skipWrap) s.skipWrap.ring.txbufData
    (s.skipWrap.ring.txbufRead + 4)
    (show macBeaconStartOffset + f.body.length ≤ 0x2000 by unfold macBeaconStartOffset; omega)).1
  refine ⟨(s.skipWrap.txArm9QueueCopyFirstData macBeaconStartOffset macBeaconEndOffset).1, ?_, ?_⟩
  · unfold Arm7Tx.txArm9QueueFlush Arm7Tx.txArm9QueueSend
    simp only [Arm7Tx.touch_of_le hcap, Arm7Tx.touch_of_le hcap', if_neg hne, htag',
      if_neg f.tag_ne_zero, hreply, ne_eq, not_true, if_false, if_pos hbit]
    rw [hcopy]
    exact congrArg Prod.fst (if_neg (by omega))
  · rw [hcopy]
    exact hram.trans hi.stored.2

/-- The beacon of the call is announced after the flush. -/
theorem BeaconCopied.announces {s : Arm7Tx} {arm7 : Arm7Env}
    (h : BeaconCopied env ssid gameId arm7 s) (hchannel : arm7.curChannel < 2 ^ 8) :
    ssid.length ≤ 32 ∧ Announces env ssid gameId (s.txArm9QueueFlush arm7).1
      { BeaconFields.start env with channel := UInt8.ofNat arm7.curChannel } := by
  obtain ⟨before, later, hmode, hobject, bytes, hok, hlast, rfl, hstatus, hhandled⟩ := h
  have hbefore := RingFlagged.run (s := Arm7Tx.init) RingFlagged.init before
  obtain ⟨hssid, gap, hgap, hstored⟩ := beaconStart_stored hbefore hok
  have hbytes : bytes = (beaconTxHeader ssid).bytes ++ beaconBytes env ssid gameId (.start env) ++
      gap := by
    have hpair := Option.some.inj (hlast.symm.trans hstored)
    exact congrArg Prod.snd hpair
  refine ⟨hssid, ?_⟩
  have hring := (hbefore.step (.call env (.beaconStart ssid gameId) hmode hobject)).run later
  generalize run (txStep false) _ later = s at hring hstatus hhandled ⊢
  obtain ⟨e, q, hring⟩ := hring
  cases hring.ring.flush hring.flagged arm7 with
  | nothing _ _ _ _ hnone =>
    rw [hnone] at hhandled
    exact absurd hhandled (by simp)
  | rejected _ _ _ _ _ _ _ hrejected =>
    rw [hrejected] at hhandled
    exact absurd (List.append_cancel_left hhandled) (by simp)
  | @copied f fs hq htag _ _ _ _ hcopied =>
    subst hq
    rw [hcopied] at hhandled
    have hbody : f.body = bytes := by
      have heq := List.head_eq_of_cons_eq (List.append_cancel_left hhandled)
      exact (TxHandled.copied.inj heq).2
    have hbeacon : f.tag = f.body.length ||| wflagSendAsBeacon := by
      rw [← htag, hstatus, hbody]
    obtain ⟨t, ht, hram⟩ := hring.ring.flush_beacon hbeacon arm7
    rw [ht]
    rw [hbody, hbytes] at hram
    obtain ⟨hram, -⟩ := loadBytes_append.mp hram
    obtain ⟨hheader, hframe⟩ := loadBytes_append.mp hram
    exact Arm7Tx.beaconSetup_announces hssid hheader hframe hchannel

/-- A beacon goes to its place in MAC RAM, and fits there. -/
theorem QueuedFrame.beacon_target {f : Frame txGeometry} (hf : QueuedFrame f)
    (hbeacon : f.tag = f.body.length ||| wflagSendAsBeacon) (s : Arm7Tx) :
    s.target f.tag = (macBeaconStartOffset, macBeaconEndOffset) ∧ f.body.length ≤ 512 := by
  obtain ⟨hbit, hreply⟩ := hf.beacon_bits hbeacon
  refine ⟨?_, hf.le_of_beacon hbit⟩
  rw [Arm7Tx.target, if_neg (by rw [hreply]; exact not_not.mpr rfl), if_pos hbit]

/-- If the ARM7 has nothing else to send, the next flush copies the beacon. -/
theorem BeaconCopied.of_idle {before : List (TxEvent false)} {done : List (Nat × List UInt8)}
    (h : Flowing false (run (txStep false) .init before) done []) (hmode : env.dsiMode = false)
    (hobject : (TxCall.beaconStart ssid gameId).IsObject)
    (hok : (beaconStart env (run (txStep false) .init before).ring ssid gameId).2 = true)
    (arm7 : Arm7Env) : BeaconCopied env ssid gameId arm7
      (txStep false (run (txStep false) .init before)
        (.call env (.beaconStart ssid gameId) hmode hobject)) := by
  have henq := h.ring.call env (.beaconStart ssid gameId) hobject
  have hrun : (TxCall.beaconStart ssid gameId).run env (run (txStep false) .init before).ring =
      beaconStart env (run (txStep false) .init before).ring ssid gameId := rfl
  rw [hrun] at henq
  generalize hr : beaconStart env (run (txStep false) .init before).ring ssid gameId = r at hok henq
  cases henq with
  | refused _ _ _ => cases hok
  | stopped hne _ _ => exact absurd rfl hne
  | @queued ring' f hf htag hqueued _ hinv =>
    have hring : (txStep false (run (txStep false) .init before)
        (.call env (.beaconStart ssid gameId) hmode hobject)).ring = ring' := congrArg Prod.fst hr
    have hbeacon : f.tag = f.body.length ||| wflagSendAsBeacon := htag
    have hflag : ∀ g ∈ [] ++ [f], g.tag ≠ g.body.length := by
      rintro g hg
      rw [List.mem_singleton.mp hg]
      exact TxCall.tag_ne_size hmode _ hf htag
    refine ⟨before, [], hmode, hobject, f.body, hr ▸ rfl, ?_, rfl, ?_⟩
    · rw [hring, hqueued, List.getLast?_concat]
      rfl
    · rw [← hring] at hinv
      generalize txStep false (run (txStep false) .init before)
        (.call env (.beaconStart ssid gameId) hmode hobject) = s at hinv ⊢
      obtain ⟨htarget, hle⟩ := hf.beacon_target hbeacon s
      cases hinv.flush hflag arm7 with
      | nothing hq => cases hq
      | copied hq hstatus _ _ _ _ hhandled =>
        obtain ⟨rfl, -⟩ := List.cons.inj hq
        rw [htarget] at hhandled
        exact ⟨hstatus.trans hbeacon, hhandled⟩
      | rejected hq hstatus hbig =>
        obtain ⟨rfl, -⟩ := List.cons.inj hq
        refine absurd ?_ hbig
        rw [Arm7Tx.HeadFits, hstatus, htarget, show f.tag &&& wflagSendSizeMask = f.body.length from
          f.len_tag]
        exact hle.trans (by decide)

/-- **A client that looks for hosts hears what the host has last announced.** The other bytes of the
frame are those that `Wifi_BeaconStart` has written. -/
theorem beacon_round_trip {s : Arm7Tx} {arm7 : Arm7Env} (h : BeaconCopied env ssid gameId arm7 s)
    (htypes : env.BeaconTypes) (hgame : gameId < 2 ^ 32) (hchannel : arm7.curChannel < 2 ^ 8)
    (edits : List BeaconEdit) (rx : ReceivedBeacon) (hrx : loadBytes rx.frame 0 rx.byteLength =
      (edits.foldl Arm7Tx.editBeacon (s.txArm9QueueFlush arm7).1).beaconOnAir)
    (curChannel curApScanFlags : Nat) (hscan : curApScanFlags &&& wscanListNdsHosts ≠ 0) :
    let b := edits.foldl BeaconFields.edit
      { BeaconFields.start env with channel := UInt8.ofNat arm7.curChannel }
    loadBytes rx.frame 0 rx.byteLength =
        ((((beaconHeader env).bytes ++ beaconBody env ssid gameId).set (channelIndex ssid)
          b.channel).set (playersIndex ssid) b.playersCurrent).set (playersIndex ssid + 1)
          b.allowsConnections ∧
      rx.process curChannel curApScanFlags = some (b.args env ssid gameId curChannel rx.rssi) := by
  obtain ⟨hssid, hannounces⟩ := h.announces hchannel
  have hedits := hannounces.edits hssid edits
  rw [hedits.beaconOnAir] at hrx
  refine ⟨?_, ?_⟩
  · rw [hrx, ← beaconBytes_start, beaconBytes_set_channel, beaconBytes_set_playersCurrent,
      beaconBytes_set_allowsConnections]
  · rw [ReceivedBeacon.process_beacon hssid htypes hgame hrx, if_pos hscan]

/-- A client that hears these bytes. -/
def heard (bytes : List UInt8) : ReceivedBeacon where
  byteLength := bytes.length
  rssi := 0
  frame := fun k => bytes.getD k 0
  stack := fun _ => 0

theorem loadBytes_heard (bytes : List UInt8) :
    loadBytes (heard bytes).frame 0 (heard bytes).byteLength = bytes := by
  refine List.ext_getElem (by simp [heard]) fun k hk hk' => ?_
  simp [loadBytes, heard, hk']

/-- A host for three clients, on channel 6. -/
def quietHost : TxEnv := { TxEnv.zero 0 with curMaxClients := 3 }

def channelSix : Arm7Env := { Arm7Env.zero with curChannel := 6 }

theorem quietHost_types : quietHost.BeaconTypes := ⟨by decide, by decide, by decide⟩

/-- `Wifi_BeaconStart` has been called first. -/
def quietHostStarted : Arm7Tx :=
  txStep false .init (.call quietHost (.beaconStart [68, 83] 7) rfl (by decide))

theorem quietHost_copied : BeaconCopied quietHost [68, 83] 7 channelSix quietHostStarted :=
  .of_idle (show Flowing false (run (txStep false) .init []) [] [] from .init false) rfl (by decide)
    (by decide +kernel) channelSix

/-- What is on the air after a client has joined. -/
def quietHostJoined : List UInt8 :=
  ([.setBeaconCurrentPlayers 2].foldl Arm7Tx.editBeacon
    (quietHostStarted.txArm9QueueFlush channelSix).1).beaconOnAir

/-- A client that looks for hosts hears of two players. -/
theorem beacon_round_trip_joined :
    loadBytes (heard quietHostJoined).frame 0 (heard quietHostJoined).byteLength =
        ((((beaconHeader quietHost).bytes ++ beaconBody quietHost [68, 83] 7).set
          (channelIndex [68, 83]) 6).set (playersIndex [68, 83]) 2).set (playersIndex [68, 83] + 1)
          0 ∧
      (heard quietHostJoined).process 6 wscanListNdsHosts =
        some (BeaconFields.args quietHost [68, 83] 7 ⟨6, 2, 0⟩ 6 0) :=
  beacon_round_trip quietHost_copied quietHost_types (by decide) (by decide)
    [.setBeaconCurrentPlayers 2] (heard quietHostJoined) (loadBytes_heard _) 6 wscanListNdsHosts
    (by decide)

/-- A client on the same channel that looks for access points does not add the host. -/
theorem quietHost_filtered : BeaconCopied quietHost [68, 83] 7 channelSix quietHostStarted ∧
    (heard (quietHostStarted.txArm9QueueFlush channelSix).1.beaconOnAir).process 6 wscanListApAll =
      none := by
  refine ⟨quietHost_copied, ?_⟩
  obtain ⟨hssid, hannounces⟩ := quietHost_copied.announces (by decide)
  have hheard := loadBytes_heard (quietHostStarted.txArm9QueueFlush channelSix).1.beaconOnAir
  rw [hannounces.beaconOnAir] at hheard ⊢
  rw [ReceivedBeacon.process_beacon hssid quietHost_types (by decide) hheard]
  decide

end Wifi
