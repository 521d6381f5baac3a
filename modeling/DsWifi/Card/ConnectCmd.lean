import DsWifi.Connect.AccessPoint
import DsWifi.Infra.CString

/-!
# The connect command

`wmi_connect_cmd` (`source/arm7/twl/ath/wmi.twl.c`). The parameters are a packed struct, and the
SSID is copied into it by `strcpy`.

* `describesAp_wmiParams_iff` — a name of 32 bytes spoils the channel, and a name with a zero byte
  is cut
* `wmiConnectCmd_describes_iff` — the names for which the command says what `curAp` says
-/

namespace Wifi

open Infra Infra.Mem

/-! ## The command -/

/-- `WifiData->curAp`, as it is in memory. -/
structure CurAp where
  ssid : Vector UInt8 33
  ssidLen : Nat
  bssid : MacAddr
  channel : Nat
  securityType : ApSecurityType
  groupCryptType : ApCryptType
  pairCryptType : ApCryptType
  /-- "Number of valid bytes in the ssid field (0-32)". -/
  ssidLen_le : ssidLen ≤ 32
  /-- "the last byte of the array must be zero". -/
  ssid_last : ssid.get 32 = 0

/-- The number of a `Wifi_ApCryptType`. -/
def ApCryptType.toByte : ApCryptType → UInt8
  | .none => 1
  | .wep => 2
  | .tkip => 3
  | .aes => 4

/-- `wifi_channel_to_mhz`. -/
def wifiChannelToMhz (channel : Nat) : Nat :=
  if channel = 14 then 2484 else (2412 + ((channel : Int) - 1) * 5).toNat

/-- `DEFAULT_WMI_CONNECT_CTRL_FLAGS`. -/
def defaultWmiConnectCtrlFlags : Nat := 0x0020

/-- What `wmi_connect_cmd` sends. -/
inductive ConnectCall
  /-- `wmi_add_cipher_key` with the index, the usage and `curApSecurity.pass`. -/
  | addCipherKey (idx usage : Nat)
  /-- `WMI_CONNECT_CMD` with the 52 bytes of `wmi_params`. -/
  | connect (wmiParams : Mem)

/-- `wmi_params` after the copies. Its first seven fields depend on the kind of security. -/
def wmiParams (types : List UInt8) (curAp : CurAp) : Mem :=
  let params : Mem := storeBytes (fun _ => 0) 0 types
  let params := params.storeByte 7 (UInt8.ofNat curAp.ssidLen)
  let params := params.store16 40 (wifiChannelToMhz curAp.channel)
  let params := params.store32 48 defaultWmiConnectCtrlFlags
  let params := params.storeBytes 8 (strcpyBytes curAp.ssid.toList)
  params.storeBytes 42 curAp.bssid.toList

/-- `wmi_connect_cmd`. -/
def wmiConnectCmd (curAp : CurAp) : List ConnectCall :=
  if curAp.securityType = .open then
    [.connect (wmiParams [1, 1, 1, 1, 0, 1, 0] curAp)]
  else if curAp.securityType = .wep then
    -- keys have to be set before connect
    [.addCipherKey 0 3, .addCipherKey 1 1, .addCipherKey 2 1, .addCipherKey 3 1,
      .connect (wmiParams [1, 2, 1, ApCryptType.wep.toByte, 0, ApCryptType.wep.toByte, 0] curAp)]
  else
    [.connect (wmiParams
      [1, 1, 5, curAp.pairCryptType.toByte, 0, curAp.groupCryptType.toByte, 0] curAp)]

/-! ## What it says -/

/-- The packets with parameters. -/
def connectPackets (calls : List ConnectCall) : List Mem :=
  calls.filterMap fun
    | .addCipherKey _ _ => none
    | .connect wmiParams => some wmiParams

/-- The parameters describe the access point. -/
structure DescribesAp (curAp : CurAp) (params : Mem) : Prop where
  ssidLength : (params 7).toNat = curAp.ssidLen
  ssid : loadBytes params 8 curAp.ssidLen = curAp.ssid.toList.take curAp.ssidLen
  channel : load16 params 40 = wifiChannelToMhz curAp.channel
  bssid : loadBytes params 42 6 = curAp.bssid.toList
  ctrlFlags : load32 params 48 = defaultWmiConnectCtrlFlags

/-- A name that `strcpy` copies without writing behind the field, and without losing a byte. -/
def CurAp.Copied (curAp : CurAp) : Prop :=
  (∃ k < 32, curAp.ssid.toList.getD k 0 = 0) ∧
    ∀ j k, j < k → k < curAp.ssidLen → curAp.ssid.toList.getD j 0 = 0 →
      curAp.ssid.toList.getD k 0 = 0

variable {curAp : CurAp} {types : List UInt8}

theorem CurAp.strlen_le (curAp : CurAp) : strlen curAp.ssid.toList ≤ 32 := by
  refine Infra.strlen_le ?_
  rw [List.getD_eq_getElem _ _ (by simp)]
  exact curAp.ssid_last

theorem wifiChannelToMhz_eq {channel : Nat} (hlow : 1 ≤ channel) (hhigh : channel ≤ 14) :
    ∃ k, 1 ≤ k ∧ k < 2 ^ 8 ∧ wifiChannelToMhz channel = 2 ^ 8 * 9 + k := by
  have hall : ∀ c ∈ List.range 15, 1 ≤ c →
      wifiChannelToMhz c / 2 ^ 8 = 9 ∧ wifiChannelToMhz c % 2 ^ 8 ≠ 0 := by decide
  obtain ⟨hdiv, hmod⟩ := hall channel (List.mem_range.mpr (by omega)) hlow
  exact ⟨wifiChannelToMhz channel % 2 ^ 8, by omega, by omega, by omega⟩

theorem wmiParams_ssidLength (curAp : CurAp) :
    (wmiParams types curAp 7).toNat = curAp.ssidLen := by
  have hlen := curAp.ssidLen_le
  have hbyte : wmiParams types curAp 7 = UInt8.ofNat curAp.ssidLen := by
    unfold wmiParams
    rw [storeBytes_of_lt (by decide), storeBytes_of_lt (by decide), store32,
      storeBytes_of_lt (by decide), store16, storeBytes_of_lt (by decide), storeByte_self]
  rw [hbyte, UInt8.toNat_ofNat', Nat.mod_eq_of_lt (by omega)]

/-- The field is zero behind the name. -/
theorem wmiParams_ssid (htypes : types.length = 7) (curAp : CurAp) {k : Nat} (hk : k < 32) :
    wmiParams types curAp (8 + k) =
      if k < strlen curAp.ssid.toList then curAp.ssid.toList.getD k 0 else 0 := by
  unfold wmiParams
  rw [storeBytes_of_lt (by omega), apply_strcpy, store32, storeBytes_of_lt (by omega), store16,
    storeBytes_of_lt (by omega), storeByte, Function.update_of_ne (by omega),
    storeBytes_of_le (by omega), ite_self]

theorem wmiParams_channel (hmhz : wifiChannelToMhz curAp.channel < 2 ^ 16)
    (hlt : strlen curAp.ssid.toList < 32) :
    load16 (wmiParams types curAp) 40 = wifiChannelToMhz curAp.channel := by
  have hlen := length_strcpyBytes curAp.ssid.toList
  have hsame : Set.EqOn (wmiParams types curAp)
      (((storeBytes (fun _ => 0) 0 types).storeByte 7 (UInt8.ofNat curAp.ssidLen)).store16 40
        (wifiChannelToMhz curAp.channel)) (Set.Ico 40 42) := by
    intro x hx
    obtain ⟨hlow, hhigh⟩ := hx
    unfold wmiParams
    rw [storeBytes_of_lt hhigh, storeBytes_of_le (by omega), store32,
      storeBytes_of_lt (by omega)]
  rw [load16_congr hsame, load16_store16 hmhz]

/-- The terminator of a name of 32 bytes is written to the channel. -/
theorem wmiParams_channel_full (heq : strlen curAp.ssid.toList = 32) :
    load16 (wmiParams types curAp) 40 = 2 ^ 8 * (wmiParams types curAp 41).toNat := by
  have hzero : wmiParams types curAp 40 = 0 := by
    unfold wmiParams
    have hat := apply_strcpy ((((storeBytes (fun _ => 0) 0 types).storeByte 7
      (UInt8.ofNat curAp.ssidLen)).store16 40 (wifiChannelToMhz curAp.channel)).store32 48
        defaultWmiConnectCtrlFlags) 8 curAp.ssid.toList 32
    rw [heq, if_neg (by decide), if_pos rfl] at hat
    rw [storeBytes_of_lt (by decide)]
    exact hat
  rw [load16, hzero, UInt8.toNat_zero, Nat.zero_add]

theorem wmiParams_bssid (curAp : CurAp) :
    loadBytes (wmiParams types curAp) 42 6 = curAp.bssid.toList := by
  have hstored := loadBytes_storeBytes (((((storeBytes (fun _ => 0) 0 types).storeByte 7
    (UInt8.ofNat curAp.ssidLen)).store16 40 (wifiChannelToMhz curAp.channel)).store32 48
      defaultWmiConnectCtrlFlags).storeBytes 8 (strcpyBytes curAp.ssid.toList)) 42
    curAp.bssid.toList
  rwa [Vector.length_toList] at hstored

theorem wmiParams_ctrlFlags (curAp : CurAp) :
    load32 (wmiParams types curAp) 48 = defaultWmiConnectCtrlFlags := by
  have hlen := length_strcpyBytes curAp.ssid.toList
  have hle := curAp.strlen_le
  have hsame : Set.EqOn (wmiParams types curAp)
      ((((storeBytes (fun _ => 0) 0 types).storeByte 7 (UInt8.ofNat curAp.ssidLen)).store16 40
        (wifiChannelToMhz curAp.channel)).store32 48 defaultWmiConnectCtrlFlags)
      (Set.Ico 48 52) := by
    intro x hx
    unfold wmiParams
    rw [storeBytes_of_le (by rw [Vector.length_toList]; exact hx.1),
      storeBytes_of_le (by have := hx.1; omega)]
  rw [load32_congr hsame, load32_store32 (by decide)]

/-- The name is copied whole. -/
theorem wmiParams_name_iff (htypes : types.length = 7) (curAp : CurAp) :
    loadBytes (wmiParams types curAp) 8 curAp.ssidLen = curAp.ssid.toList.take curAp.ssidLen ↔
      ∀ k < curAp.ssidLen, strlen curAp.ssid.toList ≤ k → curAp.ssid.toList.getD k 0 = 0 := by
  have hlen := curAp.ssidLen_le
  have hfield {k : Nat} (hk : k < curAp.ssidLen) := wmiParams_ssid htypes curAp (k := k) (by omega)
  constructor
  · intro h k hk hle
    have hget := congrArg (·[k]?) h
    rw [getElem?_loadBytes hk, hfield hk, if_neg (by omega), List.getElem?_take_of_lt hk,
      List.getElem?_eq_getElem (by simp; omega)] at hget
    rw [List.getD_eq_getElem _ _ (by simp; omega)]
    exact (Option.some.inj hget).symm
  · intro h
    refine List.ext_getElem (by simp; omega) fun k hk hk' => ?_
    rw [length_loadBytes] at hk
    have hlt : k < curAp.ssid.toList.length := by
      rw [Vector.length_toList]
      omega
    have hget : curAp.ssid.toList.getD k 0 = curAp.ssid.toList[k] := List.getD_eq_getElem _ _ hlt
    rw [List.getElem_take, ← hget]
    simp only [loadBytes, List.getElem_map, List.getElem_range, hfield hk]
    split
    · rfl
    · exact (h k hk (by omega)).symm

/-- **One set of parameters describes the access point if its name is copied.** -/
theorem describesAp_wmiParams_iff (htypes : types.length = 7) (hlow : 1 ≤ curAp.channel)
    (hhigh : curAp.channel ≤ 14) : DescribesAp curAp (wmiParams types curAp) ↔ curAp.Copied := by
  obtain ⟨k, hk1, hk8, hmhz⟩ := wifiChannelToMhz_eq hlow hhigh
  constructor
  · rintro ⟨-, hssid, hchannel, -, -⟩
    have hlt : strlen curAp.ssid.toList < 32 := by
      refine Nat.lt_of_le_of_ne curAp.strlen_le fun heq => ?_
      rw [wmiParams_channel_full heq, hmhz] at hchannel
      omega
    refine ⟨⟨_, hlt, (getD_strlen _).2⟩, fun i j hij hj hzero => ?_⟩
    refine (wmiParams_name_iff htypes curAp).mp hssid j hj ?_
    exact Nat.le_trans (Infra.strlen_le hzero) (Nat.le_of_lt hij)
  · rintro ⟨⟨i, hi, hzero⟩, htail⟩
    have hlt : strlen curAp.ssid.toList < 32 :=
      Nat.lt_of_le_of_lt (Infra.strlen_le hzero) hi
    refine ⟨wmiParams_ssidLength curAp, (wmiParams_name_iff htypes curAp).mpr ?_,
      wmiParams_channel (by omega) hlt, wmiParams_bssid curAp, wmiParams_ctrlFlags curAp⟩
    intro j hj hle
    rcases Nat.lt_or_eq_of_le hle with hlt' | heq
    · exact htail _ j hlt' hj (getD_strlen _).2
    · rw [← heq]
      exact (getD_strlen _).2

/-- Each kind of security sends the parameters once. -/
theorem connectPackets_wmiConnectCmd (curAp : CurAp) :
    ∃ types : List UInt8, types.length = 7 ∧
      connectPackets (wmiConnectCmd curAp) = [wmiParams types curAp] := by
  unfold wmiConnectCmd
  split_ifs
  · exact ⟨_, rfl, rfl⟩
  · exact ⟨_, rfl, rfl⟩
  · exact ⟨_, rfl, rfl⟩

/-- **The command describes `curAp` exactly if its name is copied.** -/
theorem wmiConnectCmd_describes_iff (curAp : CurAp) (hlow : 1 ≤ curAp.channel)
    (hhigh : curAp.channel ≤ 14) :
    (∃ params, connectPackets (wmiConnectCmd curAp) = [params] ∧ DescribesAp curAp params) ↔
      (∃ k < 32, curAp.ssid.toList.getD k 0 = 0) ∧
        ∀ j k, j < k → k < curAp.ssidLen → curAp.ssid.toList.getD j 0 = 0 →
          curAp.ssid.toList.getD k 0 = 0 := by
  obtain ⟨types, htypes, hpackets⟩ := connectPackets_wmiConnectCmd curAp
  have hiff := describesAp_wmiParams_iff htypes hlow hhigh
  constructor
  · rintro ⟨params, hparams, hdescribes⟩
    rw [hpackets] at hparams
    obtain rfl := List.singleton_inj.mp hparams
    exact hiff.mp hdescribes
  · intro hcopied
    exact ⟨_, hpackets, hiff.mpr hcopied⟩

/-- An open network on channel 1 with a name of four bytes. -/
def homeAp : CurAp where
  ssid := ⟨#[0x48, 0x6F, 0x6D, 0x65] ++ Array.replicate 29 0, rfl⟩
  ssidLen := 4
  bssid := #v[0x00, 0x1A, 0x2B, 0x3C, 0x4D, 0x5E]
  channel := 1
  securityType := .open
  groupCryptType := .none
  pairCryptType := .none
  ssidLen_le := Nat.le_of_ble_eq_true rfl
  ssid_last := rfl

/-- The same network with a name of 32 bytes. -/
def longNameAp : CurAp where
  ssid := ⟨Array.replicate 32 0x41 ++ #[0], rfl⟩
  ssidLen := 32
  bssid := #v[0x00, 0x1A, 0x2B, 0x3C, 0x4D, 0x5E]
  channel := 1
  securityType := .open
  groupCryptType := .none
  pairCryptType := .none
  ssidLen_le := Nat.le_of_ble_eq_true rfl
  ssid_last := rfl

theorem wmiConnectCmd_describes_homeAp :
    ∃ params, connectPackets (wmiConnectCmd homeAp) = [params] ∧ DescribesAp homeAp params := by
  refine (wmiConnectCmd_describes_iff homeAp (by decide) (by decide)).mpr
    ⟨⟨4, by decide, rfl⟩, fun j k hjk hk hzero => ?_⟩
  have hname : ∀ j < 4, homeAp.ssid.toList.getD j 0 ≠ 0 := by decide
  exact absurd hzero (hname j (Nat.lt_trans hjk hk))

/-- The channel of a name of 32 bytes is sent as 2304 MHz. -/
theorem wmiConnectCmd_longNameAp :
    ¬ ∃ params, connectPackets (wmiConnectCmd longNameAp) = [params] ∧
      DescribesAp longNameAp params := by
  rintro ⟨params, hparams, hdescribes⟩
  obtain ⟨types, htypes, hpackets⟩ := connectPackets_wmiConnectCmd longNameAp
  rw [hpackets] at hparams
  obtain rfl := List.singleton_inj.mp hparams
  obtain ⟨⟨k, hk, hzero⟩, -⟩ :=
    (describesAp_wmiParams_iff htypes (by decide) (by decide)).mp hdescribes
  have hname : ∀ k < 32, longNameAp.ssid.toList.getD k 0 ≠ 0 := by decide
  exact hname k hk hzero

end Wifi
