import DsWifi.Common.Ieee

/-!
# The list of access points

The ARM7 keeps what it hears in `aplist` (`source/arm7/access_point.c`), and the ARM9 looks for the
requested access point there (`source/arm9/access_point.c`). Entries get older with every channel
switch and inactive after a while.
-/

namespace Wifi

/-- `WIFI_MAX_AP`. -/
def wifiMaxAp : Nat := 32

/-- `WIFI_AP_TIMEOUT`. -/
def wifiApTimeout : Nat := 13 * 2 + 1

def wflagApdataWep : Nat := 0x0002

def wflagApdataWpa : Nat := 0x0004

def wflagApdataCompatible : Nat := 0x0008

def wflagApdataNintendoTag : Nat := 0x0040

def wflagApdataConfigInWfc : Nat := 0x0080

def wflagApdataActive : Nat := 0x8000

/-- `Wifi_ApSecurityType`. -/
inductive ApSecurityType
  | open
  | wep
  | wpa
  | wpa2
  deriving DecidableEq, Repr

/-- `Wifi_ApCryptType`. -/
inductive ApCryptType
  | none
  | wep
  | tkip
  | aes
  deriving DecidableEq, Repr

/-- `Wifi_ApAuthType`. -/
inductive ApAuthType
  | none
  | ieee8021x
  | psk
  deriving DecidableEq, Repr

/-- `Wifi_AccessPoint`. -/
structure AccessPoint where
  /-- The first `ssid_len` bytes of `ssid`. -/
  ssid : List UInt8
  bssid : MacAddr
  channel : Nat
  flags : Nat
  securityType : ApSecurityType
  timectr : Nat

/-- A zeroed entry. -/
def AccessPoint.zero : AccessPoint where
  ssid := []
  bssid := macAddrZero
  channel := 0
  flags := 0
  securityType := .open
  timectr := 0

/-- Whether `WFLAG_APDATA_ACTIVE` is set. -/
def AccessPoint.active (ap : AccessPoint) : Bool := decide (ap.flags &&& wflagApdataActive ≠ 0)

/-- `Wifi_ApSecurity`. -/
structure ApSecurity where
  /-- The first `pass_len` bytes of `pass`. -/
  pass : List UInt8
  pmk : List UInt8

def ApSecurity.zero : ApSecurity where
  pass := []
  pmk := List.replicate 32 0

/-- One of the `wfc_number_of_configs` stored configurations. -/
structure WfcConfig where
  ssid : List UInt8
  security : ApSecurity

/-- `Wifi_GetWfcAccessPointIndex`. -/
def getWfcAccessPointIndex (wfc : List WfcConfig) (ssid : List UInt8) : Option Nat :=
  wfc.findIdx? fun config => ssid.length == config.ssid.length && ssid == config.ssid

/-- `aplist`. -/
abbrev ApList := Vector AccessPoint wifiMaxAp

/-! ## The ARM7 -/

/-- `Wifi_AccessPointClearAll`. It clears the first half of each BSSID. -/
def accessPointClearAll (aplist : ApList) : ApList :=
  aplist.map fun ap =>
    { ap with flags := 0, bssid := #v[0, 0, 0, ap.bssid.get 3, ap.bssid.get 4, ap.bssid.get 5] }

/-- What a beacon or a probe response says. -/
structure BeaconInfo where
  bssid : MacAddr
  /-- The bytes of `ssid_ptr`, if it isn't `NULL`. -/
  ssid : Option (List UInt8)
  channel : Nat
  secType : ApSecurityType
  compatible : Bool
  hasNintendoInfo : Bool

/-- The slot that has gone the longest time without updates. -/
def oldestSlot (aplist : ApList) : Nat :=
  (aplist.toList.zipIdx.foldl (fun (best : Nat × Nat) (ap, i) =>
    if best.1 < ap.timectr then (ap.timectr, i) else best) (0, 0)).2

/-- The slot for an access point, and whether it is in the list already. -/
def chooseSlot (aplist : ApList) (bssid : MacAddr) : Nat × Bool :=
  match aplist.toList.findIdx? (·.bssid == bssid) with
  | some slot => (slot, true)
  | none =>
    match aplist.toList.findIdx? (!·.active) with
    | some slot => (slot, false)
    | none => (oldestSlot aplist, false)

/-- The entry of an access point, updated. -/
def updateEntry (wfc : List WfcConfig) (info : BeaconInfo) (inAplist : Bool) (ap : AccessPoint) :
    AccessPoint :=
  let ssid := match info.ssid with
    | some ssid => ssid.take 32
    | none => ap.ssid
  let flags := wflagApdataActive |||
    (if info.hasNintendoInfo then wflagApdataNintendoTag else 0) |||
    (if info.compatible then wflagApdataCompatible else 0) |||
    (match info.secType with
      | .wep => wflagApdataWep
      | .wpa | .wpa2 => wflagApdataWpa
      | .open => 0) |||
    (if info.ssid.isSome && (getWfcAccessPointIndex wfc ssid).isSome then
      wflagApdataConfigInWfc else 0)
  { ssid
    bssid := if inAplist then ap.bssid else info.bssid
    channel := info.channel
    flags
    securityType := info.secType
    timectr := 0 }

/-- `Wifi_AccessPointAdd`. Nothing is stored if the spinlock of the entry is taken. -/
def accessPointAdd (wfc : List WfcConfig) (aplist : ApList) (info : BeaconInfo)
    (acquired : Bool) : ApList :=
  let (slot, inAplist) := chooseSlot aplist info.bssid
  if acquired then
    aplist.mapIdx fun i ap => if i = slot then updateEntry wfc info inAplist ap else ap
  else aplist

/-- `Wifi_AccessPointTick`. -/
def accessPointTick (dsiMode : Bool) (aplist : ApList) : ApList :=
  let timeout := if dsiMode then wifiApTimeout * 10 else wifiApTimeout
  aplist.map fun ap =>
    if ap.active then
      let timectr := u32 (ap.timectr + 1)
      { ap with timectr, flags := if timeout < timectr then 0 else ap.flags }
    else ap

/-! ## The ARM9 -/

/-- `Wifi_GetNumAP`. -/
def getNumAp (aplist : ApList) : Nat := aplist.toList.countP (·.active)

/-- `Wifi_GetAPData`. -/
def getApData (aplist : ApList) (apnum : Nat) : Option AccessPoint :=
  (aplist.toList.filter (·.active))[apnum]?

/-- Whether an access point is the one that the user has described. -/
def AccessPoint.describes (apdata ap : AccessPoint) : Bool :=
  if apdata.bssid ≠ macAddrZero then apdata.bssid == ap.bssid
  else apdata.ssid.length != 0 && decide (apdata.ssid.length ≤ 32) &&
    apdata.ssid.length == ap.ssid.length && apdata.ssid == ap.ssid

/-- `Wifi_FindMatchingAP`: the index of the description, and the access point. -/
def findMatchingAp (aplist : ApList) (apdata : List AccessPoint) : Option (Nat × AccessPoint) :=
  (List.range (getNumAp aplist)).findSome? fun i =>
    let ap := (getApData aplist i).getD .zero
    (apdata.findIdx? (·.describes ap)).map fun j => (j, ap)

/-- `Wifi_FindMatchingAPFromWFC`. -/
def findMatchingApFromWfc (wfc : List WfcConfig) (aplist : ApList) : Option (Nat × AccessPoint) :=
  (List.range (getNumAp aplist)).findSome? fun i =>
    let ap := (getApData aplist i).getD .zero
    if ap.ssid.length = 0 then none
    else (getWfcAccessPointIndex wfc ap.ssid).map fun j => (j, ap)

end Wifi
