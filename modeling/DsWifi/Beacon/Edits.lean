import DsWifi.Beacon.Frame
import DsWifi.Tx.MacByte

/-!
# A beacon in MAC RAM

`Wifi_BeaconSetup` finds out where the channel and the information of DSWifi are in the frame that
has been copied to MAC RAM. The three functions that change the frame later go by these addresses.

* `Arm7Tx.beaconSetup_announces` — what the set-up leaves
* `Announces.edits` — what is left after any sequence of changes
-/

namespace Wifi

open Infra Infra.Mem

/-! ## The set-up as a walk -/

namespace Arm7Tx

/-- What the loop of `Wifi_BeaconSetup` does at an element. -/
def setupElement (data : Mem) (type seglen j : Nat) (s : Arm7Tx) : Arm7Tx :=
  match type with
  | 3 => { s with beaconChannelAddr := u16 (macBeaconStartOffset + j) }
  | 5 =>
    { s with
      txbufTim := u16 (j - hdrTxSize - hdrDataMacSize)
      listenint := (data (j + 1)).toNat
      listencount := if (data (j + 1)).toNat ≤ s.listencount then 0 else s.listencount }
  | 221 =>
    if 48 ≤ seglen ∧ (data j).toNat = 0x00 ∧ (data (j + 1)).toNat = 0x09 ∧
        (data (j + 2)).toNat = 0xBF ∧ (data (j + 3)).toNat = 0x00 then
      { s with dswifiInformationAddr := u16 (macBeaconStartOffset + j + (48 - 24)) }
    else s
  | _ => s

/-- Every turn of the loop goes at least two bytes further, so it does not run out of turns. -/
theorem beaconElements_eq_walk (data : List UInt8) {len fuel i : Nat} (s : Arm7Tx)
    (hfuel : len ≤ i + fuel) :
    s.beaconElements data len fuel i =
      walk (fun k => data.getD k 0) (setupElement fun k => data.getD k 0) len i s := by
  induction fuel generalizing i s with
  | zero => exact (walk_of_le (by omega)).symm
  | succ fuel ih =>
    by_cases hi : len ≤ i
    · rw [beaconElements, if_pos hi, walk_of_le hi]
    · rw [beaconElements, if_neg hi, walk_of_lt (by omega)]
      exact ih _ (by omega)

end Arm7Tx

/-! ## Where things are -/

/-- The beacon is on the air, and the ARM7 knows where to change it. -/
structure Announces (env : TxEnv) (ssid : List UInt8) (gameId : Nat) (s : Arm7Tx)
    (b : BeaconFields) : Prop where
  channelAddr : s.beaconChannelAddr = macBeaconStartOffset + hdrTxSize + channelIndex ssid
  informationAddr :
    s.dswifiInformationAddr + 1 = macBeaconStartOffset + hdrTxSize + playersIndex ssid
  enabled : s.txbufBeacon = txbufEnable ||| macBeaconStartOffset >>> 1
  size : load16 s.ram (macBeaconStartOffset + hdrTxIeeeFrameSize) =
    (beaconBytes env ssid gameId b).length + 4
  bytes : loadBytes s.ram (macBeaconStartOffset + hdrTxSize)
    (beaconBytes env ssid gameId b).length = beaconBytes env ssid gameId b

/-- What `W_TXBUF_BEACON` makes the hardware send, without the hardware header and the FCS. -/
def Arm7Tx.beaconOnAir (s : Arm7Tx) : List UInt8 :=
  let base := (s.txbufBeacon % txbufEnable) <<< 1
  loadBytes s.ram (base + hdrTxSize) (load16 s.ram (base + hdrTxIeeeFrameSize) - 4)

variable {env : TxEnv} {ssid : List UInt8} {gameId : Nat} {s : Arm7Tx} {b : BeaconFields}

theorem Announces.beaconOnAir (h : Announces env ssid gameId s b) :
    s.beaconOnAir = beaconBytes env ssid gameId b := by
  have hbase : (s.txbufBeacon % txbufEnable) <<< 1 = macBeaconStartOffset := by
    rw [h.enabled]
    decide
  rw [Arm7Tx.beaconOnAir, hbase, h.size, Nat.add_sub_cancel]
  exact h.bytes

/-! ## Changes -/

/-- A call of one of the functions that change the beacon, with a byte. -/
inductive BeaconEdit
  | setBeaconChannel (channel : UInt8)
  | setBeaconCurrentPlayers (num : UInt8)
  | setBeaconAllowsConnections (allows : UInt8)
  deriving DecidableEq, Repr

/-- What a client is to see afterwards. -/
def BeaconFields.edit (b : BeaconFields) : BeaconEdit → BeaconFields
  | .setBeaconChannel channel => { b with channel }
  | .setBeaconCurrentPlayers num => { b with playersCurrent := num }
  | .setBeaconAllowsConnections allows => { b with allowsConnections := allows }

/-- Perform the call. -/
def Arm7Tx.editBeacon (s : Arm7Tx) : BeaconEdit → Arm7Tx
  | .setBeaconChannel channel => s.setBeaconChannel channel.toNat
  | .setBeaconCurrentPlayers num => s.setBeaconCurrentPlayers num.toNat
  | .setBeaconAllowsConnections allows => s.setBeaconAllowsConnections allows.toNat

namespace Announces

/-- A byte of the frame changes. -/
theorem macWriteByte (h : Announces env ssid gameId s b) {b' : BeaconFields} {k : Nat}
    {value : UInt8} (hk : k < 2 ^ 8)
    (hset : (beaconBytes env ssid gameId b).set k value = beaconBytes env ssid gameId b') :
    Announces env ssid gameId (s.macWriteByte (macBeaconStartOffset + hdrTxSize + k) value.toNat)
      b' := by
  have hlt : macBeaconStartOffset + hdrTxSize + k < 2 ^ 16 := by
    unfold macBeaconStartOffset hdrTxSize
    omega
  have hlen : (beaconBytes env ssid gameId b').length = (beaconBytes env ssid gameId b).length := by
    rw [length_beaconBytes, length_beaconBytes]
  rw [Arm7Tx.macWriteByte_eq hlt value.toNat_lt, UInt8.ofNat_toNat]
  refine ⟨h.channelAddr, h.informationAddr, h.enabled, ?_, ?_⟩
  · -- The size is in front of the frame.
    rw [hlen, ← h.size]
    refine load16_congr (eqOn_storeByte fun hin => ?_)
    have := hin.2
    unfold hdrTxIeeeFrameSize hdrTxSize at this
    omega
  · dsimp only
    rw [loadBytes_storeByte, hlen, h.bytes, hset]

theorem enable_ne_zero (h : Announces env ssid gameId s b) : s.txbufBeacon &&& txbufEnable ≠ 0 := by
  rw [h.enabled]
  decide

theorem setBeaconChannel (h : Announces env ssid gameId s b) (hssid : ssid.length ≤ 32)
    (channel : UInt8) :
    Announces env ssid gameId (s.setBeaconChannel channel.toNat) { b with channel } := by
  have hle := length_ssidBytes_le ssid hssid
  have hk : channelIndex ssid < 2 ^ 8 := by
    unfold channelIndex
    omega
  have haddr : s.beaconChannelAddr ≠ 0 := by
    rw [h.channelAddr]
    unfold macBeaconStartOffset
    omega
  rw [Arm7Tx.setBeaconChannel, if_neg haddr, if_pos h.enable_ne_zero, h.channelAddr]
  exact h.macWriteByte hk (beaconBytes_set_channel env ssid gameId b channel)

/-- The information of DSWifi is somewhere. -/
theorem informationAddr_ne_zero (h : Announces env ssid gameId s b) :
    s.dswifiInformationAddr ≠ 0 := by
  have := h.informationAddr
  unfold macBeaconStartOffset at this
  omega

theorem playersIndex_lt (hssid : ssid.length ≤ 32) : playersIndex ssid + 1 < 2 ^ 8 := by
  have hle := length_ssidBytes_le ssid hssid
  unfold playersIndex
  omega

theorem setBeaconCurrentPlayers (h : Announces env ssid gameId s b) (hssid : ssid.length ≤ 32)
    (num : UInt8) : Announces env ssid gameId (s.setBeaconCurrentPlayers num.toNat)
      { b with playersCurrent := num } := by
  have hk := playersIndex_lt hssid
  rw [Arm7Tx.setBeaconCurrentPlayers, if_neg h.informationAddr_ne_zero, if_pos h.enable_ne_zero,
    h.informationAddr]
  exact h.macWriteByte (by omega) (beaconBytes_set_playersCurrent env ssid gameId b num)

theorem setBeaconAllowsConnections (h : Announces env ssid gameId s b) (hssid : ssid.length ≤ 32)
    (allows : UInt8) : Announces env ssid gameId (s.setBeaconAllowsConnections allows.toNat)
      { b with allowsConnections := allows } := by
  have hk := playersIndex_lt hssid
  have haddr : s.dswifiInformationAddr + 2 =
      macBeaconStartOffset + hdrTxSize + (playersIndex ssid + 1) := by
    rw [← Nat.add_assoc, ← h.informationAddr]
  rw [Arm7Tx.setBeaconAllowsConnections, if_neg h.informationAddr_ne_zero, if_pos h.enable_ne_zero,
    haddr]
  exact h.macWriteByte hk (beaconBytes_set_allowsConnections env ssid gameId b allows)

/-- **One change.** -/
theorem editBeacon (h : Announces env ssid gameId s b) (hssid : ssid.length ≤ 32)
    (edit : BeaconEdit) : Announces env ssid gameId (s.editBeacon edit) (b.edit edit) := by
  cases edit with
  | setBeaconChannel channel => exact h.setBeaconChannel hssid channel
  | setBeaconCurrentPlayers num => exact h.setBeaconCurrentPlayers hssid num
  | setBeaconAllowsConnections allows => exact h.setBeaconAllowsConnections hssid allows

/-- **Any sequence of changes.** -/
theorem edits (h : Announces env ssid gameId s b) (hssid : ssid.length ≤ 32)
    (es : List BeaconEdit) :
    Announces env ssid gameId (es.foldl Arm7Tx.editBeacon s) (es.foldl BeaconFields.edit b) := by
  induction es generalizing s b with
  | nil => exact h
  | cons edit es ih => exact ih (h.editBeacon hssid edit)

end Announces

/-! ## The set-up -/

namespace Arm7Tx

variable {arm7 : Arm7Env}

/-- Reading a copy of MAC RAM. -/
theorem loadBytes_copy (m : Mem) {a size i n : Nat} (h : i + n ≤ size) :
    loadBytes (fun k => (loadBytes m a size).getD k 0) i n = loadBytes m (a + i) n := by
  refine List.map_congr_left fun k hk => ?_
  have hlt := List.mem_range.mp hk
  dsimp only
  rw [List.getD_eq_getElem?_getD, getElem?_loadBytes (by omega), Option.getD_some, Nat.add_assoc]

section

variable {m : Mem} {j seglen : Nat}

theorem setupElement_ssid : setupElement m 0 seglen j s = s := rfl

theorem setupElement_rates : setupElement m 1 seglen j s = s := rfl

theorem setupElement_channel : setupElement m 3 seglen j s =
    { s with beaconChannelAddr := u16 (macBeaconStartOffset + j) } := rfl

theorem setupElement_tim (h : m (j + 1) = 0) : setupElement m 5 seglen j s =
    { s with
      txbufTim := u16 (j - hdrTxSize - hdrDataMacSize)
      listenint := 0
      listencount := 0 } := by
  unfold setupElement
  rw [h]
  rfl

theorem setupElement_nintendo (hseglen : 48 ≤ seglen) (h0 : m j = 0x00) (h1 : m (j + 1) = 0x09)
    (h2 : m (j + 2) = 0xBF) (h3 : m (j + 3) = 0x00) : setupElement m 221 seglen j s =
      { s with dswifiInformationAddr := u16 (macBeaconStartOffset + j + (48 - 24)) } := by
  unfold setupElement
  rw [h0, h1, h2, h3]
  exact if_pos ⟨hseglen, rfl, rfl, rfl, rfl⟩

end

/-- The set-up finds the elements of the frame. -/
theorem walk_beacon (hssid : ssid.length ≤ 32) {m : Mem} {len : Nat}
    (h : loadBytes m sizeofTxHeader (beaconBytes env ssid gameId b).length =
      beaconBytes env ssid gameId b)
    (hlen : len = sizeofTxHeader + (beaconBytes env ssid gameId b).length) :
    walk m (setupElement m) len (sizeofTxHeader + elementsIndex) s =
      { s with
        beaconChannelAddr := macBeaconStartOffset + hdrTxSize + channelIndex ssid
        txbufTim := 21 + (ssidBytes ssid).length
        listenint := 0
        listencount := 0
        dswifiInformationAddr := macBeaconStartOffset + hdrTxSize + (playersIndex ssid - 1) } := by
  have hle := length_ssidBytes_le ssid hssid
  have hat := BeaconAt.of_loadBytes h
  rw [length_elements hssid] at hlen
  rw [walk_elements (loadBytes_elements hssid h) (by omega), foldElements_beacon]
  generalize hn : (ssidBytes ssid).length = n at *
  have htimAt : sizeofTxHeader + elementsIndex + n + 9 + 1 = sizeofTxHeader + 43 + n + 3 := by
    unfold elementsIndex hdrMgtMacSize
    omega
  have htim : m (sizeofTxHeader + elementsIndex + n + 9 + 1) = 0 := by
    rw [htimAt, ← hn]
    exact apply_of_loadBytes hat.tim (show timBytes[3]? = some 0 from rfl)
  have hinfoAt : sizeofTxHeader + elementsIndex + n + 17 = sizeofTxHeader + 53 + n := by
    unfold elementsIndex hdrMgtMacSize
    omega
  have houi (k : Nat) (byte : UInt8) (hk : (nintendoHead env gameId)[k]? = some byte) :
      m (sizeofTxHeader + elementsIndex + n + 17 + k) = byte := by
    rw [hinfoAt, ← hn]
    exact apply_of_loadBytes hat.nintendo hk
  have hchannelAddr : u16 (macBeaconStartOffset + (sizeofTxHeader + elementsIndex + n + 6)) =
      macBeaconStartOffset + hdrTxSize + channelIndex ssid := by
    simp only [u16, macBeaconStartOffset, sizeofTxHeader, elementsIndex, hdrMgtMacSize, hdrTxSize,
      channelIndex, hn]
    omega
  have htxbufTim : u16 (sizeofTxHeader + elementsIndex + n + 9 - hdrTxSize - hdrDataMacSize) =
      21 + n := by
    simp only [u16, sizeofTxHeader, elementsIndex, hdrMgtMacSize, hdrTxSize, hdrDataMacSize]
    omega
  have hinformationAddr :
      u16 (macBeaconStartOffset + (sizeofTxHeader + elementsIndex + n + 17) + (48 - 24)) =
        macBeaconStartOffset + hdrTxSize + (playersIndex ssid - 1) := by
    simp only [u16, macBeaconStartOffset, sizeofTxHeader, elementsIndex, hdrMgtMacSize, hdrTxSize,
      playersIndex, hn]
    omega
  dsimp only
  rw [setupElement_ssid, ite_self, setupElement_rates, setupElement_channel, setupElement_tim htim,
    setupElement_nintendo (Nat.le_refl _) (houi 0 0x00 rfl) (houi 1 0x09 rfl) (houi 2 0xBF rfl)
    (houi 3 0x00 rfl), hchannelAddr, htxbufTim, hinformationAddr]

/-- **The set-up puts the beacon on the air**, with the channel that the ARM7 is on. -/
theorem beaconSetup_announces (hssid : ssid.length ≤ 32)
    (hheader : loadBytes s.ram macBeaconStartOffset (beaconTxHeader ssid).bytes.length =
      (beaconTxHeader ssid).bytes)
    (hbytes : loadBytes s.ram (macBeaconStartOffset + hdrTxSize)
      (beaconBytes env ssid gameId b).length = beaconBytes env ssid gameId b)
    {arm7 : Arm7Env} (hchannel : arm7.curChannel < 2 ^ 8) :
    Announces env ssid gameId (s.beaconSetup arm7)
      { b with channel := UInt8.ofNat arm7.curChannel } := by
  have hle := length_ssidBytes_le ssid hssid
  have hlen := length_beaconBytes env ssid gameId b
  have hpacketlen : load16 s.ram (macBeaconStartOffset + hdrTxIeeeFrameSize) =
      (beaconBytes env ssid gameId b).length + 4 := by
    rw [hlen]
    refine load16_eq _ _ _ (by omega) ?_
    have hsplit := hheader
    unfold TxHeader.bytes at hsplit
    exact (loadBytes_append.mp hsplit).2
  unfold beaconSetup
  dsimp only
  rw [hpacketlen]
  generalize hframe : hdrTxSize + ((beaconBytes env ssid gameId b).length + 4) - 4 = len
  have hframe' : len = sizeofTxHeader + (beaconBytes env ssid gameId b).length := hframe.symm
  have hlong : ¬ len ≤ hdrTxSize + hdrDataMacSize + 8 + 2 + 2 := by
    rw [hframe', hlen]
    unfold sizeofTxHeader hdrTxSize hdrDataMacSize
    omega
  have hcopy : loadBytes
      (fun k => (loadBytes s.ram macBeaconStartOffset (2 * ((len + 1) / 2))).getD k 0)
      sizeofTxHeader (beaconBytes env ssid gameId b).length = beaconBytes env ssid gameId b := by
    rw [loadBytes_copy _ (by omega)]
    exact hbytes
  have hannounces : Announces env ssid gameId
      (s.beaconElements (loadBytes s.ram macBeaconStartOffset (2 * ((len + 1) / 2))) len len
        (hdrTxSize + hdrDataMacSize + 8 + 2 + 2)).enableBeacon b := by
    rw [beaconElements_eq_walk _ _ (Nat.le_add_left _ _)]
    rw [show hdrTxSize + hdrDataMacSize + 8 + 2 + 2 = sizeofTxHeader + elementsIndex from rfl,
      walk_beacon hssid hcopy hframe']
    refine ⟨rfl, ?_, rfl, hpacketlen, hbytes⟩
    show macBeaconStartOffset + hdrTxSize + (playersIndex ssid - 1) + 1 = _
    unfold playersIndex
    omega
  have hset := hannounces.setBeaconChannel hssid (UInt8.ofNat arm7.curChannel)
  rw [UInt8.toNat_ofNat', Nat.mod_eq_of_lt hchannel] at hset
  rw [if_neg hlong]
  exact hset

end Arm7Tx

end Wifi
