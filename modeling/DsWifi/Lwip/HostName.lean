import DsWifi.Common.Ieee
import DsWifi.Infra.CString
import DsWifi.Infra.Run

/-!
# The host name

`gethostname` and `sethostname` (`source/arm9/lwip/netif.c`) read and write the name that lwIP
gives to DHCP servers. `wifi_netif_set_up` makes a name out of the MAC address, and doesn't look
whether there is one already.

* `hostname_persists_iff` — the name that was set is there until the console connects again
-/

namespace Wifi

open Infra Infra.Mem

/-! ## Functions -/

/-- The size of `dswifi_netif_hostname`. -/
def hostnameSize : Nat := 64

/-- `dswifi_netif_hostname` and `dswifi_link_is_up`. -/
structure Netif where
  hostname : List UInt8
  length_hostname : hostname.length = hostnameSize
  linkIsUp : Bool

/-- A digit of `%02x`. -/
def lowerHexDigit (n : Nat) : UInt8 := UInt8.ofNat (if n < 10 then 0x30 + n else 0x61 + (n - 10))

/-- `nintendods-`. -/
def hostnameStart : List UInt8 :=
  [0x6E, 0x69, 0x6E, 0x74, 0x65, 0x6E, 0x64, 0x6F, 0x64, 0x73, 0x2D]

/-- The name for a MAC address. -/
def macHostname (mac : MacAddr) : List UInt8 :=
  hostnameStart ++
    mac.toList.flatMap fun b => [lowerHexDigit (b.toNat / 16), lowerHexDigit (b.toNat % 16)]

theorem length_macHostname (mac : MacAddr) : (macHostname mac).length = 23 := by
  rw [macHostname, List.length_append, List.length_flatMap]
  simp [hostnameStart]

theorem length_macHostname_lt (mac : MacAddr) : (macHostname mac).length < hostnameSize := by
  rw [length_macHostname]
  decide

theorem length_loadBytes_lt {name : Mem} {len : Nat} (h : ¬ hostnameSize - 1 < len) :
    (loadBytes name 0 len).length < hostnameSize := by
  rw [length_loadBytes]
  unfold hostnameSize at h ⊢
  omega

theorem length_storeName {hostname name : List UInt8} (h : hostname.length = hostnameSize)
    (hname : name.length < hostnameSize) :
    (name ++ 0 :: hostname.drop (name.length + 1)).length = hostnameSize := by
  rw [List.length_append, List.length_cons, List.length_drop, h]
  omega

namespace Netif

/-- Store a name with a terminator. -/
def storeName (s : Netif) (name : List UInt8) (h : name.length < hostnameSize) : Netif where
  hostname := name ++ 0 :: s.hostname.drop (name.length + 1)
  length_hostname := length_storeName s.length_hostname h
  linkIsUp := s.linkIsUp

/-- `wifi_refresh_mac`. -/
def refreshMac (s : Netif) (mac : MacAddr) : Netif :=
  s.storeName (macHostname mac) (length_macHostname_lt mac)

/-- `gethostname`, with what it writes to the buffer. -/
def gethostname (s : Netif) (isNull : Bool) (len : Nat) : Option (List UInt8) :=
  if isNull then none
  else if len < strlen s.hostname + 1 then none
  else some (strcpyBytes s.hostname)

/-- `sethostname`. -/
def sethostname (s : Netif) (name : Option Mem) (len : Nat) : Netif × Bool :=
  match name with
  | none => (s, false)
  | some name =>
    if h : hostnameSize - 1 < len then (s, false)
    else (s.storeName (loadBytes name 0 len) (length_loadBytes_lt h), true)

/-- `wifi_netif_set_up`, as far as the name is concerned. -/
def setUp (s : Netif) (mac : MacAddr) : Netif :=
  if s.linkIsUp then s else { s with linkIsUp := true }.refreshMac mac

/-- `wifi_netif_set_down`. -/
def setDown (s : Netif) : Netif := if !s.linkIsUp then s else { s with linkIsUp := false }

end Netif

/-! ## Runs -/

/-- The interface, and where its name comes from. -/
structure NamedNetif extends Netif where
  /-- The name of the last `sethostname` that has succeeded. -/
  set : Option (List UInt8)
  /-- The MAC address that a later `wifi_netif_set_up` has made a name of. -/
  refreshed : Option MacAddr

inductive NetifEvent
  | gethostname (isNull : Bool) (len : Nat)
  | sethostname (name : Option Mem) (len : Nat)
  /-- `wifi_netif_set_up`, when `MacAddr` has this value. -/
  | setUp (mac : MacAddr)
  | setDown

namespace NamedNetif

/-- Nothing has been set. -/
def init : NamedNetif where
  hostname := List.replicate hostnameSize 0
  length_hostname := List.length_replicate
  linkIsUp := false
  set := none
  refreshed := none

def step (s : NamedNetif) : NetifEvent → NamedNetif
  | .gethostname _ _ => s
  | .sethostname name len =>
    { toNetif := (s.toNetif.sethostname name len).1
      set := if (s.toNetif.sethostname name len).2 then name.map (loadBytes · 0 len) else s.set
      refreshed := if (s.toNetif.sethostname name len).2 then none else s.refreshed }
  | .setUp mac =>
    { toNetif := s.toNetif.setUp mac
      set := s.set
      refreshed := if s.linkIsUp then s.refreshed else some mac }
  | .setDown => { s with toNetif := s.toNetif.setDown }

/-- A buffer is large enough for the name that was set. -/
def Fits (s : NamedNetif) (isNull : Bool) (len : Nat) (name : List UInt8) : Prop :=
  s.set = some name ∧ isNull = false ∧ strlen name + 1 ≤ len

/-- What was set is read back, and nothing else changes the name. -/
def Persists (s : NamedNetif) : NetifEvent → Prop
  | .gethostname isNull len =>
    (∀ name, s.Fits isNull len name →
      s.toNetif.gethostname isNull len = some (strcpyBytes name)) ∧
    (s.toNetif.gethostname isNull len = none →
      (s.step (.gethostname isNull len)).hostname = s.hostname)
  | .sethostname name len =>
    (s.toNetif.sethostname name len).2 = false →
      (s.step (.sethostname name len)).hostname = s.hostname
  | _ => True

/-- The name is read before the console connects again, or it is the one that is made then. -/
def NotRefreshed (s : NamedNetif) : NetifEvent → Prop
  | .gethostname isNull len =>
    ∀ name mac, s.Fits isNull len name → s.refreshed = some mac →
      strcpyBytes (macHostname mac) = strcpyBytes name
  | _ => True

/-- The name is the one that was set, or one that was made after that. -/
structure Named (s : NamedNetif) : Prop where
  made : ∀ mac, s.refreshed = some mac → strcpyBytes s.hostname = strcpyBytes (macHostname mac)
  set : ∀ name, s.set = some name → s.refreshed = none →
    strcpyBytes s.hostname = strcpyBytes name

/-! ## Steps -/

theorem strcpyBytes_storeName (s : Netif) (name : List UInt8) (h : name.length < hostnameSize) :
    strcpyBytes (s.storeName name h).hostname = strcpyBytes name :=
  strcpyBytes_append_zero _ _

theorem strlen_eq_of_strcpyBytes {xs ys : List UInt8} (h : strcpyBytes xs = strcpyBytes ys) :
    strlen xs = strlen ys := by
  have hlength := congrArg List.length h
  rw [length_strcpyBytes, length_strcpyBytes] at hlength
  omega

/-- A buffer that is large enough gets the name if that is the name. -/
theorem gethostname_eq_iff {s : Netif} {len : Nat} {name : List UInt8}
    (hlen : strlen name + 1 ≤ len) :
    s.gethostname false len = some (strcpyBytes name) ↔
      strcpyBytes s.hostname = strcpyBytes name := by
  unfold Netif.gethostname
  rw [if_neg Bool.false_ne_true]
  constructor
  · intro h
    split at h
    · exact absurd h nofun
    · exact Option.some_inj.mp h
  · intro h
    have hstrlen := strlen_eq_of_strcpyBytes h
    rw [if_neg (by omega), h]

/-- A buffer isn't overrun. -/
theorem length_gethostname {s : Netif} {isNull : Bool} {len : Nat} {bytes : List UInt8}
    (h : s.gethostname isNull len = some bytes) : bytes.length ≤ len := by
  unfold Netif.gethostname at h
  split_ifs at h with hnull hshort
  obtain rfl := Option.some_inj.mp h
  rw [length_strcpyBytes]
  omega

/-- A name that isn't accepted changes nothing. -/
theorem sethostname_of_failed {s : Netif} {name : Option Mem} {len : Nat}
    (h : (s.sethostname name len).2 = false) : (s.sethostname name len).1 = s := by
  unfold Netif.sethostname at h ⊢
  cases name with
  | none => rfl
  | some name =>
    dsimp only at h ⊢
    split_ifs at h ⊢ with hlong
    rfl

/-- A name that is accepted can be read back. -/
theorem sethostname_of_succeeded {s : Netif} {name : Option Mem} {len : Nat}
    (h : (s.sethostname name len).2 = true) :
    ∃ source, name = some source ∧
      strcpyBytes (s.sethostname name len).1.hostname = strcpyBytes (loadBytes source 0 len) := by
  unfold Netif.sethostname at h ⊢
  cases name with
  | none => exact absurd h nofun
  | some source =>
    dsimp only at h ⊢
    split_ifs at h ⊢ with hlong
    exact ⟨source, rfl, strcpyBytes_storeName _ _ (length_loadBytes_lt hlong)⟩

variable {s : NamedNetif}

/-- One step. -/
theorem Named.persists_iff (h : s.Named) (e : NetifEvent) : s.Persists e ↔ s.NotRefreshed e := by
  cases e with
  | gethostname isNull len =>
    refine (and_iff_left fun _ => rfl).trans ?_
    constructor
    · rintro hpersists name mac ⟨hset, rfl, hlen⟩ hrefreshed
      rw [← h.made mac hrefreshed]
      exact (gethostname_eq_iff hlen).mp (hpersists name ⟨hset, rfl, hlen⟩)
    · rintro hnot name ⟨hset, rfl, hlen⟩
      refine (gethostname_eq_iff hlen).mpr ?_
      cases hrefreshed : s.refreshed with
      | none => exact h.set name hset hrefreshed
      | some mac => exact (h.made mac hrefreshed).trans (hnot name mac ⟨hset, rfl, hlen⟩ hrefreshed)
  | sethostname name len =>
    refine iff_of_true (fun hfailed => ?_) trivial
    exact congrArg Netif.hostname (sethostname_of_failed hfailed)
  | setUp mac => exact Iff.rfl
  | setDown => exact Iff.rfl

theorem named_init : init.Named := ⟨nofun, nofun⟩

theorem Named.step (h : s.Named) (e : NetifEvent) : (s.step e).Named := by
  cases e with
  | gethostname isNull len => exact h
  | sethostname name len =>
    cases hresult : (s.toNetif.sethostname name len).2 with
    | false =>
      have hsame := sethostname_of_failed hresult
      refine ⟨fun mac hmac => ?_, fun name' hset hrefreshed => ?_⟩
      · simp only [NamedNetif.step, hresult, hsame] at hmac ⊢
        exact h.made mac hmac
      · simp only [NamedNetif.step, hresult, hsame] at hset hrefreshed ⊢
        exact h.set name' hset hrefreshed
    | true =>
      obtain ⟨source, rfl, hbytes⟩ := sethostname_of_succeeded hresult
      refine ⟨fun mac hmac => ?_, fun name' hset _ => ?_⟩
      · simp [NamedNetif.step, hresult] at hmac
      · simp only [NamedNetif.step, hresult, if_true, Option.map_some, Option.some_inj] at hset
        rw [← hset]
        exact hbytes
  | setUp mac =>
    by_cases hup : s.linkIsUp = true
    · have hsame : s.step (.setUp mac) = s := by simp [NamedNetif.step, Netif.setUp, hup]
      rw [hsame]
      exact h
    · refine ⟨fun mac' hmac => ?_, fun name _ hrefreshed => ?_⟩
      · simp only [NamedNetif.step, if_neg hup, Option.some_inj] at hmac
        simp only [NamedNetif.step, Netif.setUp, if_neg hup]
        rw [← hmac]
        exact strcpyBytes_storeName ..
      · simp [NamedNetif.step, hup] at hrefreshed
  | setDown =>
    have hname : (s.step .setDown).hostname = s.hostname := by
      simp only [NamedNetif.step, Netif.setDown]
      split <;> rfl
    refine ⟨fun mac hmac => ?_, fun name hset hrefreshed => ?_⟩
    · rw [hname]
      exact h.made mac hmac
    · rw [hname]
      exact h.set name hset hrefreshed

end NamedNetif

/-- **The name that was set is there until the console connects again**: in a run it is read back
each time exactly if it is read before the next connection each time, or if it is the name that
belongs to the MAC address. A call that fails never changes the name. -/
theorem hostname_persists_iff (es : List NetifEvent) :
    Along NamedNetif.step NamedNetif.Persists .init es ↔
      Along NamedNetif.step NamedNetif.NotRefreshed .init es :=
  along_iff NamedNetif.Named (fun _ e h _ => h.step e) (fun _ e h => h.persists_iff e) es
    NamedNetif.named_init

/-- A name of two letters is set before the console connects. -/
def setThenConnect : List NetifEvent :=
  [.sethostname (some fun _ => 0x41) 2, .setUp (.replicate 6 9), .gethostname false 64]

/-- The name is gone. -/
theorem setThenConnect_lost :
    ¬ Along NamedNetif.step NamedNetif.Persists .init setThenConnect := by
  rintro ⟨-, -, ⟨hget, -⟩, -⟩
  have hname := hget [0x41, 0x41] ⟨by decide, rfl, by decide⟩
  revert hname
  decide

end Wifi
