import DsWifi.Connect.Arm9
import DsWifi.Infra.Compact
import DsWifi.Infra.Memory
import DsWifi.Wfc.Crc

/-!
# Loading the WFC settings

`Wifi_NTR_GetWfcSettings` and `Wifi_TWL_GetWfcSettings` (`source/arm7/wfc.c`, `wfc.h`). There are
three entries for the DS and three more for the DSi. `readFirmware` belongs to libnds: it is a
parameter, that gives the bytes that a call writes to its destination.

* `wordBytes_subnetMask` — the mask that is made from the number of leading ones
* `wfcSettings_loaded` — what is in `WifiData->wfc` after both functions
-/

namespace Wifi

open Infra Infra.Mem

/-! ## The firmware -/

/-- `F_USER_SETTINGS_OFFSET`. -/
def fUserSettingsOffset : Nat := 0x020

variable (readFirmware : Nat → Nat → List UInt8)

/-- A read gives the bytes of the firmware. -/
def ReadsFirmware (firmware : Mem) : Prop :=
  ∀ address size, readFirmware address size = loadBytes firmware address size

/-- A zeroed variable with this size, after a call of `readFirmware` for it. -/
def readVariable (address size : Nat) : Mem := storeBytes (fun _ => 0) 0 (readFirmware address size)

/-- `wfcBase` with what is subtracted there. -/
def wfcBase (size : Nat) : Nat :=
  (load16 (readVariable readFirmware fUserSettingsOffset 2) 0 * 8 + 2 ^ 32 - size) % 2 ^ 32

/-- `ap_data` of the DS, for entry `i`. -/
def ntrApData (i : Nat) : Mem :=
  readVariable readFirmware ((wfcBase readFirmware 0x400 + i * 0x100) % 2 ^ 32) 0x100

/-- `ap_data` of the DSi, for entry `i`. -/
def twlApData (i : Nat) : Mem :=
  readVariable readFirmware ((wfcBase readFirmware 0xA00 + i * 0x200) % 2 ^ 32) 0x200

variable {readFirmware} in
theorem ReadsFirmware.eq_loadBytes {firmware : Mem} (h : ReadsFirmware readFirmware firmware) :
    readFirmware = loadBytes firmware :=
  funext fun address => funext fun size => h address size

/-! ## Entries

`nvram_cfg_ntr` and `nvram_cfg_twl` have the same fields in the first 256 bytes, but for `status`.
-/

namespace NvramCfg

variable (apData : Mem)

def ssid : List UInt8 := loadBytes apData 0x40 0x20

def wepKey1 : List UInt8 := loadBytes apData 0x80 0x10

def ip : Nat := load32 apData 0xC0

def gateway : Nat := load32 apData 0xC4

def primaryDns : Nat := load32 apData 0xC8

def secondaryDns : Nat := load32 apData 0xCC

def subnetMask : Nat := (apData 0xD0).toNat

def wepMode : Nat := (apData 0xE6).toNat

/-- `status` of `nvram_cfg_ntr`. -/
def status : UInt8 := apData 0xE7

/-- `wpa_mode` of `nvram_cfg_twl`. -/
def wpaMode : UInt8 := apData 0xE7

def slotIdx : UInt8 := apData 0xEF

def pmk : List UInt8 := loadBytes apData 0x100 0x20

def pass : List UInt8 := loadBytes apData 0x120 0x40

/-- `entry_is_zeroed`. -/
def entryIsZeroed (size : Nat) : Bool := (loadBytes apData 0 size).all (· == 0)

end NvramCfg

/-! ## Slots -/

/-- A member of `WifiData->wfc`. -/
structure WfcSlot where
  ssid : List UInt8
  ssidLen : Nat
  ip : Nat
  gateway : Nat
  subnetMask : UInt32
  dnsPrimary : Nat
  dnsSecondary : Nat
  pass : List UInt8
  passLen : Nat
  pmk : List UInt8
  deriving DecidableEq

/-- A slot of a cleared `WifiData`. -/
def WfcSlot.zero : WfcSlot where
  ssid := List.replicate 33 0
  ssidLen := 0
  ip := 0
  gateway := 0
  subnetMask := 0
  dnsPrimary := 0
  dnsSecondary := 0
  pass := List.replicate 64 0
  passLen := 0
  pmk := List.replicate 32 0

/-- `WIFI_MAX_WFC`. -/
def wifiMaxWfc : Nat := 6

/-- The part of `WifiData` that is filled in. -/
structure WfcData where
  wfc : List WfcSlot
  wfcNumberOfConfigs : Nat
  deriving DecidableEq

/-- A cleared `WifiData`. -/
def WfcData.zero : WfcData := ⟨List.replicate wifiMaxWfc .zero, 0⟩

/-- The first bytes of an array are overwritten. -/
def overwrite (bytes array : List UInt8) : List UInt8 := bytes ++ array.drop bytes.length

/-- `htonl`, as the source writes it out. -/
def swapBytes (s : UInt32) : UInt32 :=
  s <<< 24 ||| s >>> 24 ||| (s &&& 0xFF00) <<< 8 ||| (s &&& 0xFF0000) >>> 8

/-- The loop that makes a mask. Shifts by less than zero are undefined, they add nothing here. -/
def leadingOnes (count : Nat) : UInt32 :=
  (List.range count).foldl
    (fun s n => s ||| if n < 32 then 1 <<< UInt32.ofNat (31 - n) else 0) 0

namespace WfcSlot

/-- The SSID. -/
def storeSsid (slot : WfcSlot) (apData : Mem) : WfcSlot :=
  { slot with
    ssid := overwrite (NvramCfg.ssid apData) slot.ssid
    ssidLen := (NvramCfg.ssid apData).findIdx (· == 0) }

/-- The first `keyLen` bytes of a key. -/
def storePass (slot : WfcSlot) (key : List UInt8) (keyLen : Nat) : WfcSlot :=
  { slot with pass := overwrite (key.take keyLen) slot.pass, passLen := keyLen }

/-- The settings of IP. -/
def storeIp (slot : WfcSlot) (apData : Mem) : WfcSlot :=
  { slot with
    ip := NvramCfg.ip apData
    gateway := NvramCfg.gateway apData
    dnsPrimary := NvramCfg.primaryDns apData
    dnsSecondary := NvramCfg.secondaryDns apData
    subnetMask := swapBytes (leadingOnes (NvramCfg.subnetMask apData)) }

/-- What the DS function writes to a slot. -/
def storeNtr (apData : Mem) (slot : WfcSlot) : WfcSlot :=
  let slot := slot.storeSsid apData
  let keyLen := wepKeySizeFromMode (NvramCfg.wepMode apData)
  (slot.storePass (NvramCfg.wepKey1 apData) keyLen).storeIp apData

/-- What the DSi function writes to a slot. -/
def storeTwl (apData : Mem) (slot : WfcSlot) : WfcSlot :=
  let slot := slot.storeSsid apData
  let wepmode := NvramCfg.wepMode apData
  let slot := if wepmode ≠ 0 then
    slot.storePass (NvramCfg.wepKey1 apData) (wepKeySizeFromMode wepmode) else slot
  let slot := if NvramCfg.wpaMode apData ≠ 0 then
    { slot.storePass (NvramCfg.pass apData) 64 with
      pmk := overwrite (NvramCfg.pmk apData) slot.pmk }
    else slot
  slot.storeIp apData

end WfcSlot

/-! ## The functions -/

/-- One round of the loop for the DS. -/
def ntrEntry (s : Filling WfcSlot) (apData : Mem) : Filling WfcSlot :=
  if NvramCfg.entryIsZeroed apData 0x100 then s
  else if wifiCrc16Slow (loadBytes apData 0 256) ≠ 0 then s
  else if NvramCfg.status apData = 0x00 then
    if 7 < NvramCfg.wepMode apData then s else s.push (WfcSlot.storeNtr apData)
  else s

/-- `Wifi_NTR_GetWfcSettings`. -/
def ntrGetWfcSettings (data : WfcData) : WfcData :=
  let s := ((List.range 3).map (ntrApData readFirmware)).foldl ntrEntry ⟨data.wfc, 0⟩
  ⟨s.slots, s.count⟩

/-- One round of the loop for the DSi. -/
def twlEntry (allowWpa : Bool) (s : Filling WfcSlot) (apData : Mem) : Filling WfcSlot :=
  if NvramCfg.entryIsZeroed apData 0x200 then s
  else if wifiCrc16Slow (loadBytes apData 0 256) ≠ 0 then s
  else if wifiCrc16Slow (loadBytes apData 256 256) ≠ 0 then s
  else if NvramCfg.slotIdx apData = 0x00 then s
  else if 7 < NvramCfg.wepMode apData then s
  else if NvramCfg.wpaMode apData ≠ 0 ∧ ¬ allowWpa then s
  else s.push (WfcSlot.storeTwl apData)

/-- `Wifi_TWL_GetWfcSettings`. -/
def twlGetWfcSettings (allowWpa : Bool) (data : WfcData) : WfcData :=
  let s := ((List.range 3).map (twlApData readFirmware)).foldl (twlEntry allowWpa)
    ⟨data.wfc, data.wfcNumberOfConfigs⟩
  ⟨s.slots, s.count⟩

/-! ## Valid entries -/

/-- An entry for the DS that is valid. -/
def NtrValid (apData : Mem) : Prop :=
  (∃ k < 0x100, apData k ≠ 0) ∧ wifiCrc16Slow (loadBytes apData 0 0x100) = 0 ∧
    NvramCfg.status apData = 0 ∧ NvramCfg.wepMode apData ≤ 7

instance : DecidablePred NtrValid := fun _ => inferInstanceAs (Decidable (_ ∧ _ ∧ _ ∧ _))

/-- An entry for the DSi that is valid. -/
def TwlValid (allowWpa : Bool) (apData : Mem) : Prop :=
  (∃ k < 0x200, apData k ≠ 0) ∧ wifiCrc16Slow (loadBytes apData 0 0x100) = 0 ∧
    wifiCrc16Slow (loadBytes apData 0x100 0x100) = 0 ∧ NvramCfg.slotIdx apData ≠ 0 ∧
    NvramCfg.wepMode apData ≤ 7 ∧ (NvramCfg.wpaMode apData ≠ 0 → allowWpa = true)

instance (allowWpa : Bool) : DecidablePred (TwlValid allowWpa) := fun _ =>
  inferInstanceAs (Decidable (_ ∧ _ ∧ _ ∧ _ ∧ _ ∧ _))

/-- The WEP key of an entry: 40, 104 or 128 bits of it, in each case in two modes. -/
def wepPassword (apData : Mem) : List UInt8 :=
  match NvramCfg.wepMode apData with
  | 1 | 5 => (NvramCfg.wepKey1 apData).take 5
  | 2 | 6 => (NvramCfg.wepKey1 apData).take 13
  | 3 | 7 => NvramCfg.wepKey1 apData
  | _ => []

/-- The password of an entry for the DSi. -/
def twlPassword (apData : Mem) : List UInt8 :=
  if NvramCfg.wpaMode apData ≠ 0 then NvramCfg.pass apData else wepPassword apData

/-- The key of an entry for the DSi, if it uses WPA. -/
def twlPmk (apData : Mem) : List UInt8 :=
  if NvramCfg.wpaMode apData ≠ 0 then NvramCfg.pmk apData else List.replicate 32 0

/-- An entry, as it is stored. -/
def wfcConfig (apData : Mem) (password pmk : List UInt8) : WfcSlot where
  ssid := NvramCfg.ssid apData ++ [0]
  ssidLen := (NvramCfg.ssid apData).findIdx (· == 0)
  ip := NvramCfg.ip apData
  gateway := NvramCfg.gateway apData
  subnetMask := swapBytes (leadingOnes (NvramCfg.subnetMask apData))
  dnsPrimary := NvramCfg.primaryDns apData
  dnsSecondary := NvramCfg.secondaryDns apData
  pass := password ++ List.replicate (64 - password.length) 0
  passLen := password.length
  pmk := pmk

def ntrConfig (apData : Mem) : WfcSlot :=
  wfcConfig apData (wepPassword apData) (List.replicate 32 0)

def twlConfig (apData : Mem) : WfcSlot :=
  wfcConfig apData (twlPassword apData) (twlPmk apData)

/-- The valid entries for the DS. -/
def ntrEntries (firmware : Mem) : List Mem :=
  ((List.range 3).map (ntrApData (loadBytes firmware))).filter (decide <| NtrValid ·)

/-- The valid entries for the DSi. -/
def twlEntries (firmware : Mem) (allowWpa : Bool) : List Mem :=
  ((List.range 3).map (twlApData (loadBytes firmware))).filter (decide <| TwlValid allowWpa ·)

/-! ## What a slot holds -/

theorem wepKeySizeFromMode_cases (wepmode : Int) :
    wepKeySizeFromMode wepmode = 0 ∨ wepKeySizeFromMode wepmode = 5 ∨
      wepKeySizeFromMode wepmode = 13 ∨ wepKeySizeFromMode wepmode = 16 := by
  unfold wepKeySizeFromMode
  split_ifs <;> simp

theorem wepPassword_eq_take (apData : Mem) :
    wepPassword apData =
      (NvramCfg.wepKey1 apData).take (wepKeySizeFromMode (NvramCfg.wepMode apData)) := by
  have hfull : (NvramCfg.wepKey1 apData).take 16 = NvramCfg.wepKey1 apData :=
    List.take_of_length_le (Nat.le_of_eq (length_loadBytes _ _ _))
  unfold wepPassword
  generalize NvramCfg.wepMode apData = wepmode
  split
  · rfl
  · rfl
  · rfl
  · rfl
  · exact hfull.symm
  · exact hfull.symm
  · rename_i h1 h5 h2 h6 h3 h7
    simp only [imp_false] at h1 h5 h2 h6 h3 h7
    have hnone : wepKeySizeFromMode wepmode = 0 := by
      unfold wepKeySizeFromMode
      rw [if_neg (by omega), if_neg (by omega), if_neg (by omega)]
    rw [hnone, List.take_zero]

theorem length_wepPassword (apData : Mem) :
    (wepPassword apData).length = wepKeySizeFromMode (NvramCfg.wepMode apData) := by
  have := wepKeySizeFromMode_cases (NvramCfg.wepMode apData)
  rw [wepPassword_eq_take, NvramCfg.wepKey1, List.length_take, length_loadBytes]
  omega

theorem overwrite_replicate (bytes : List UInt8) (n : Nat) :
    overwrite bytes (List.replicate n 0) = bytes ++ List.replicate (n - bytes.length) 0 := by
  rw [overwrite, List.drop_replicate]

theorem overwrite_all {bytes array : List UInt8} (h : array.length ≤ bytes.length) :
    overwrite bytes array = bytes := by
  rw [overwrite, List.drop_eq_nil_of_le h, List.append_nil]

theorem storeNtr_zero (apData : Mem) : WfcSlot.storeNtr apData .zero = ntrConfig apData := by
  have hlen := length_wepPassword apData
  unfold WfcSlot.storeNtr ntrConfig wfcConfig
  rw [hlen]
  simp only [WfcSlot.storeSsid, WfcSlot.storePass, WfcSlot.storeIp, WfcSlot.zero,
    overwrite_replicate, ← wepPassword_eq_take, hlen]
  rfl

/-- Without WEP the empty password is there already. -/
theorem storeWep_eq {slot : WfcSlot} (hempty : slot.passLen = 0) (apData : Mem) :
    (if NvramCfg.wepMode apData ≠ 0 then
      slot.storePass (NvramCfg.wepKey1 apData) (wepKeySizeFromMode (NvramCfg.wepMode apData))
    else slot) =
      slot.storePass (NvramCfg.wepKey1 apData)
        (wepKeySizeFromMode (NvramCfg.wepMode apData)) := by
  by_cases hmode : NvramCfg.wepMode apData = 0
  · have hkeep : slot = { slot with passLen := 0 } := by rw [← hempty]
    rw [if_neg (not_not.mpr hmode), hmode]
    exact hkeep
  · rw [if_pos hmode]

theorem storeTwl_zero (apData : Mem) : WfcSlot.storeTwl apData .zero = twlConfig apData := by
  have hlen := length_wepPassword apData
  have hpass : (NvramCfg.pass apData).length = 64 := length_loadBytes _ _ _
  have hpmk : (NvramCfg.pmk apData).length = 32 := length_loadBytes _ _ _
  unfold WfcSlot.storeTwl twlConfig wfcConfig
  dsimp only
  rw [storeWep_eq rfl, twlPassword, twlPmk]
  by_cases hwpa : NvramCfg.wpaMode apData = 0
  · rw [if_neg (not_not.mpr hwpa), if_neg (not_not.mpr hwpa), if_neg (not_not.mpr hwpa), hlen]
    exact storeNtr_zero apData |>.trans (by rw [ntrConfig, wfcConfig, hlen])
  · rw [if_pos hwpa, if_pos hwpa, if_pos hwpa, hpass]
    have hfull : (NvramCfg.pass apData).take 64 = NvramCfg.pass apData :=
      List.take_of_length_le (Nat.le_of_eq hpass)
    have hover (array : List UInt8) (h : array.length ≤ 64) :
        overwrite ((NvramCfg.pass apData).take 64) array = NvramCfg.pass apData := by
      rw [hfull, overwrite_all (by omega)]
    have hkey : overwrite (NvramCfg.pmk apData) (List.replicate 32 0) = NvramCfg.pmk apData :=
      overwrite_all (by rw [hpmk]; rfl)
    simp only [WfcSlot.storeSsid, WfcSlot.storePass, WfcSlot.storeIp, WfcSlot.zero, hkey]
    rw [hover]
    · simp [overwrite, NvramCfg.ssid]
    · have := wepKeySizeFromMode_cases (NvramCfg.wepMode apData)
      simp only [overwrite_replicate, List.length_append, List.length_replicate,
        ← wepPassword_eq_take, hlen]
      omega

/-! ## The loops -/

theorem entryIsZeroed_eq_false_iff (apData : Mem) (size : Nat) :
    NvramCfg.entryIsZeroed apData size = false ↔ ∃ k < size, apData k ≠ 0 := by
  simp [NvramCfg.entryIsZeroed, loadBytes]

theorem ntrEntry_eq (s : Filling WfcSlot) (apData : Mem) :
    ntrEntry s apData =
      if decide (NtrValid apData) = true then s.push (WfcSlot.storeNtr apData) else s := by
  have hvalid : NtrValid apData ↔ NvramCfg.entryIsZeroed apData 0x100 = false ∧
      wifiCrc16Slow (loadBytes apData 0 256) = 0 ∧ NvramCfg.status apData = 0 ∧
      ¬ 7 < NvramCfg.wepMode apData := by
    rw [NtrValid, ← entryIsZeroed_eq_false_iff, Nat.not_lt]
  simp only [decide_eq_true_eq, hvalid]
  unfold ntrEntry
  by_cases hzero : NvramCfg.entryIsZeroed apData 0x100 = true
  · simp [hzero]
  by_cases hcrc : wifiCrc16Slow (loadBytes apData 0 256) = 0
  · by_cases hstatus : NvramCfg.status apData = 0
    · by_cases hmode : 7 < NvramCfg.wepMode apData
      · simp [hzero, hcrc, hstatus, hmode]
      · simp [hzero, hcrc, hstatus, hmode]
    · simp [hzero, hcrc, hstatus]
  · simp [hzero, hcrc]

theorem twlEntry_eq (allowWpa : Bool) (s : Filling WfcSlot) (apData : Mem) :
    twlEntry allowWpa s apData =
      if decide (TwlValid allowWpa apData) = true then s.push (WfcSlot.storeTwl apData) else s := by
  have hvalid : TwlValid allowWpa apData ↔ NvramCfg.entryIsZeroed apData 0x200 = false ∧
      wifiCrc16Slow (loadBytes apData 0 256) = 0 ∧
      wifiCrc16Slow (loadBytes apData 256 256) = 0 ∧ NvramCfg.slotIdx apData ≠ 0 ∧
      ¬ 7 < NvramCfg.wepMode apData ∧ ¬ (NvramCfg.wpaMode apData ≠ 0 ∧ ¬ allowWpa) := by
    rw [TwlValid, ← entryIsZeroed_eq_false_iff, Nat.not_lt, Classical.not_and_iff_not_or_not,
      Classical.not_not, Classical.not_not, Classical.or_iff_not_imp_left]
  simp only [decide_eq_true_eq, hvalid]
  unfold twlEntry
  by_cases hzero : NvramCfg.entryIsZeroed apData 0x200 = true
  · simp [hzero]
  by_cases hcrc : wifiCrc16Slow (loadBytes apData 0 256) = 0
  · by_cases hcrc' : wifiCrc16Slow (loadBytes apData 256 256) = 0
    · by_cases hslot : NvramCfg.slotIdx apData = 0
      · simp [hzero, hcrc, hcrc', hslot]
      · by_cases hmode : 7 < NvramCfg.wepMode apData
        · simp [hzero, hcrc, hcrc', hslot, hmode]
        · by_cases hwpa : NvramCfg.wpaMode apData ≠ 0 ∧ ¬ allowWpa
          · rw [if_neg hzero, if_neg (not_not.mpr hcrc), if_neg (not_not.mpr hcrc'), if_neg hslot,
              if_neg hmode, if_pos hwpa, if_neg fun h => h.2.2.2.2.2 hwpa]
          · rw [if_neg hzero, if_neg (not_not.mpr hcrc), if_neg (not_not.mpr hcrc'), if_neg hslot,
              if_neg hmode, if_neg hwpa,
              if_pos ⟨by simpa using hzero, hcrc, hcrc', hslot, hmode, hwpa⟩]
    · simp [hzero, hcrc, hcrc']
  · simp [hzero, hcrc]

/-- The array with the index of the next slot. -/
def WfcData.filling (data : WfcData) : Filling WfcSlot := ⟨data.wfc, data.wfcNumberOfConfigs⟩

theorem filling_ntrGetWfcSettings (data : WfcData) :
    (ntrGetWfcSettings readFirmware data).filling =
      Filling.fill (fun apData => decide (NtrValid apData)) WfcSlot.storeNtr ⟨data.wfc, 0⟩
        ((List.range 3).map (ntrApData readFirmware)) := by
  have hstep : ntrEntry = fun s apData =>
      if decide (NtrValid apData) = true then s.push (WfcSlot.storeNtr apData) else s := by
    funext s apData
    exact ntrEntry_eq s apData
  rw [Filling.fill, ← hstep, ntrGetWfcSettings, WfcData.filling]

theorem filling_twlGetWfcSettings (allowWpa : Bool) (data : WfcData) :
    (twlGetWfcSettings readFirmware allowWpa data).filling =
      Filling.fill (fun apData => decide (TwlValid allowWpa apData)) WfcSlot.storeTwl data.filling
        ((List.range 3).map (twlApData readFirmware)) := by
  have hstep : twlEntry allowWpa = fun s apData =>
      if decide (TwlValid allowWpa apData) = true then s.push (WfcSlot.storeTwl apData) else s := by
    funext s apData
    exact twlEntry_eq allowWpa s apData
  rw [Filling.fill, ← hstep, twlGetWfcSettings, WfcData.filling, WfcData.filling]

/-- Both functions together. -/
def loadedWfc (allowWpa : Bool) : WfcData :=
  twlGetWfcSettings readFirmware allowWpa (ntrGetWfcSettings readFirmware .zero)

/-- What they store. -/
def wfcConfigs (firmware : Mem) (allowWpa : Bool) : List WfcSlot :=
  (ntrEntries firmware).map ntrConfig ++ (twlEntries firmware allowWpa).map twlConfig

theorem wfcConfigs_eq (firmware : Mem) (allowWpa : Bool) :
    wfcConfigs firmware allowWpa =
      (ntrEntries firmware).map (fun apData => WfcSlot.storeNtr apData .zero) ++
        (twlEntries firmware allowWpa).map (fun apData => WfcSlot.storeTwl apData .zero) := by
  have hntr : (fun apData => WfcSlot.storeNtr apData .zero) = ntrConfig := funext storeNtr_zero
  have htwl : (fun apData => WfcSlot.storeTwl apData .zero) = twlConfig := funext storeTwl_zero
  rw [hntr, htwl, wfcConfigs]

section
variable {readFirmware} {firmware : Mem}

theorem filledWith_loadedWfc (h : ReadsFirmware readFirmware firmware) (allowWpa : Bool) :
    Filling.FilledWith wifiMaxWfc WfcSlot.zero (wfcConfigs firmware allowWpa)
      (loadedWfc readFirmware allowWpa).filling := by
  have hthree (f : Nat → Mem) : ((List.range 3).map f).length = 3 := by simp
  have hstart := Filling.filledWith_replicate wifiMaxWfc WfcSlot.zero
  have hntr := hstart.fill (fun apData => decide (NtrValid apData)) WfcSlot.storeNtr
    (show [].length + ((List.range 3).map (ntrApData (loadBytes firmware))).length ≤ wifiMaxWfc by
      rw [hthree]; decide)
  have hntr3 : (ntrEntries firmware).length ≤ 3 := by
    rw [← hthree (ntrApData (loadBytes firmware))]
    exact List.length_filter_le _ _
  rw [List.nil_append] at hntr
  have htwl := hntr.fill (fun apData => decide (TwlValid allowWpa apData)) WfcSlot.storeTwl
    (show _ + ((List.range 3).map (twlApData (loadBytes firmware))).length ≤ wifiMaxWfc by
      rw [List.length_map, hthree]
      exact Nat.add_le_add_right hntr3 3)
  rw [wfcConfigs_eq, loadedWfc, filling_twlGetWfcSettings, filling_ntrGetWfcSettings,
    h.eq_loadBytes]
  exact htwl

theorem loadedWfc_count (h : ReadsFirmware readFirmware firmware) (allowWpa : Bool) :
    (loadedWfc readFirmware allowWpa).wfcNumberOfConfigs =
      (wfcConfigs firmware allowWpa).length := by
  simpa only [WfcData.filling] using (filledWith_loadedWfc h allowWpa).count_eq

theorem loadedWfc_wfc (h : ReadsFirmware readFirmware firmware) (allowWpa : Bool) :
    (loadedWfc readFirmware allowWpa).wfc = wfcConfigs firmware allowWpa ++
      List.replicate (wifiMaxWfc - (wfcConfigs firmware allowWpa).length) .zero := by
  simpa only [WfcData.filling] using (filledWith_loadedWfc h allowWpa).slots_eq

end

/-! ## What is loaded -/

/-- The configurations that the connection looks at. -/
def WfcData.configs (data : WfcData) : List WfcConfig :=
  (data.wfc.take data.wfcNumberOfConfigs).map fun slot =>
    ⟨slot.ssid.take slot.ssidLen, ⟨slot.pass.take slot.passLen, slot.pmk⟩⟩

/-- The connection looks at the valid entries. -/
theorem configs_loadedWfc {readFirmware : Nat → Nat → List UInt8} {firmware : Mem}
    (h : ReadsFirmware readFirmware firmware) (allowWpa : Bool) :
    (loadedWfc readFirmware allowWpa).configs = (wfcConfigs firmware allowWpa).map fun slot =>
      ⟨slot.ssid.take slot.ssidLen, ⟨slot.pass.take slot.passLen, slot.pmk⟩⟩ := by
  rw [WfcData.configs, loadedWfc_count h, loadedWfc_wfc h, List.take_left' rfl]

end Wifi
