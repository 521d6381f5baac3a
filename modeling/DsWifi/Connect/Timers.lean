import DsWifi.Connect.Association
import DsWifi.Infra.Run

/-!
# The timers of the update

While it scans and while it connects, `Wifi_NTR_Update` waits for `W_US_COUNT1` to get away from
`counter7`. The register has 16 bits, but the difference is taken in 32 bits, so that a register
that has started again from zero seems to be far away.

* `timers_kept_iff` — the channel is switched, and the association is retried, after the right time
  exactly if the register hasn't wrapped during a wait that is still too short
-/

namespace Wifi

open Infra

/-! ## When `counter7` is set -/

namespace Ntr

/-- The next channel isn't due yet, or the update switches to it. -/
structure WaitsToScan (s : Ntr) : Prop where
  mode : s.curMode = .scan
  request : s.reqMode = .scan
  library : s.curLibraryMode = s.reqLibraryMode

/-- The next retry isn't due yet, or the update does it. -/
structure WaitsToRetry (s : Ntr) : Prop where
  mode : s.curMode = .connecting
  library : s.curLibraryMode = s.reqLibraryMode
  request : s.reqMode = .connected
  notAssociated : s.authlevel ≠ .associated
  noError : s.authlevel ≠ .error

/-- The update starts a scan. -/
def StartsScan (s : Ntr) : Prop := s.curMode = .normal ∧ s.reqMode = .scan

/-- The update starts to connect. -/
def StartsConnecting (s : Ntr) : Prop :=
  s.curMode = .normal ∧ s.reqMode = .connected ∧
    (s.reqFlags &&& wflagReqLoadWfcKey ≠ 0 →
      getWfcAccessPointIndex s.wfc s.curAp.ssid ≠ none)

instance (s : Ntr) : Decidable s.WaitsToScan :=
  decidable_of_iff (s.curMode = .scan ∧ s.reqMode = .scan ∧ s.curLibraryMode = s.reqLibraryMode)
    ⟨fun h => ⟨h.1, h.2.1, h.2.2⟩, fun h => ⟨h.mode, h.request, h.library⟩⟩

instance (s : Ntr) : Decidable s.WaitsToRetry :=
  decidable_of_iff (s.curMode = .connecting ∧ s.curLibraryMode = s.reqLibraryMode ∧
      s.reqMode = .connected ∧ s.authlevel ≠ .associated ∧ s.authlevel ≠ .error)
    ⟨fun h => ⟨h.1, h.2.1, h.2.2.1, h.2.2.2.1, h.2.2.2.2⟩,
      fun h => ⟨h.mode, h.library, h.request, h.notAssociated, h.noError⟩⟩

instance (s : Ntr) : Decidable s.StartsScan :=
  inferInstanceAs (Decidable (s.curMode = .normal ∧ s.reqMode = .scan))

instance (s : Ntr) : Decidable s.StartsConnecting :=
  inferInstanceAs (Decidable (s.curMode = .normal ∧ s.reqMode = .connected ∧
    (s.reqFlags &&& wflagReqLoadWfcKey ≠ 0 →
      getWfcAccessPointIndex s.wfc s.curAp.ssid ≠ none)))

/-- The update reads `W_US_COUNT1` for `counter7`. -/
def StoresCount (s : Ntr) (usCount1 : Nat) : Prop :=
  s.StartsScan ∨ s.StartsConnecting ∨ s.WaitsToScan ∧ 1 < s.elapsed usCount1 ∨
    s.WaitsToRetry ∧ 20 < s.elapsed usCount1

instance (s : Ntr) (usCount1 : Nat) : Decidable (s.StoresCount usCount1) :=
  inferInstanceAs (Decidable (s.StartsScan ∨ s.StartsConnecting ∨
    s.WaitsToScan ∧ 1 < s.elapsed usCount1 ∨ s.WaitsToRetry ∧ 20 < s.elapsed usCount1))

/-- `Wifi_NTR_Update`, with the reading that is compared and the one that is stored. -/
def updateReading (s : Ntr) (compared stored : Nat) : Ntr :=
  if s.StoresCount compared then { s.update compared with counter7 := stored }
  else s.update compared

end Ntr

/-! ## Runs -/

/-- Both CPUs in NTR mode, and the time. -/
structure TimedNtr extends Ntr where
  /-- The ticks so far. `W_US_COUNT1` counts them in 16 bits. -/
  now : Nat
  /-- When `counter7` was set. -/
  counterSet : Option Nat

inductive TimedEvent
  /-- Time passes. -/
  | wait (ticks : Nat)
  | call (call : ApiCall)
  | assocStatus (env : LwipEnv)
  /-- `Wifi_NTR_Update`, with the ticks between its readings of `W_US_COUNT1`. -/
  | update (ticks : Nat)
  | receive (frame : Ntr.ReceivedFrame)

namespace TimedNtr

def init (main : MainStruct) (now : Nat) : TimedNtr where
  toNtr := .init main
  now
  counterSet := none

/-- `W_US_COUNT1` at a time. -/
def usCount1 (time : Nat) : Nat := time % 2 ^ 16

def step (s : TimedNtr) : TimedEvent → TimedNtr
  | .wait ticks => { s with now := s.now + ticks }
  | .call call => { s with toNtr := ntrStep s.toNtr (.call call) }
  | .assocStatus env => { s with toNtr := ntrStep s.toNtr (.assocStatus env) }
  | .update ticks =>
    { toNtr := s.toNtr.updateReading (usCount1 s.now) (usCount1 (s.now + ticks))
      now := s.now + ticks
      counterSet :=
        if s.toNtr.StoresCount (usCount1 s.now) then some (s.now + ticks) else s.counterSet }
  | .receive frame => { s with toNtr := ntrStep s.toNtr (.receive frame) }

/-- More than `n` ticks have passed since `counter7` was set. -/
def TicksPassed (s : TimedNtr) (n : Nat) : Prop := ∃ t ∈ s.counterSet, t + n < s.now

instance (s : TimedNtr) (n : Nat) : Decidable (s.TicksPassed n) :=
  inferInstanceAs (Decidable (∃ t ∈ s.counterSet, t + n < s.now))

/-- The register hasn't wrapped since `counter7` was set. -/
def Unwrapped (s : TimedNtr) : Prop := ∃ t ∈ s.counterSet, t / 2 ^ 16 = s.now / 2 ^ 16

/-- An update switches the channel, or retries, after the right time only. -/
def RespectsTimers (s : TimedNtr) (e : TimedEvent) : Prop :=
  ∀ ticks, e = .update ticks →
    (s.curMode = .scan → (s.step e).wifiScanIndex ≠ s.wifiScanIndex → s.TicksPassed 1) ∧
    (s.curMode = .connecting → (s.step e).authctr ≠ s.authctr → s.TicksPassed 20)

/-- If an update comes too early, the register hasn't wrapped. -/
def KeepsCount (s : TimedNtr) (e : TimedEvent) : Prop :=
  ∀ ticks, e = .update ticks →
    (s.toNtr.WaitsToScan → s.Unwrapped ∨ s.TicksPassed 1) ∧
    (s.toNtr.WaitsToRetry → s.Unwrapped ∨ s.TicksPassed 20)

/-- `counter7` holds the low bits of the time it was set, and it is set before it is looked at. -/
structure Counted (s : TimedNtr) : Prop where
  counter : ∀ t ∈ s.counterSet, t ≤ s.now ∧ s.counter7 = usCount1 t
  isSet : s.curMode = .scan ∨ s.curMode = .connecting → s.counterSet ≠ none

end TimedNtr

/-! ## What an update does -/

namespace Ntr

/-- What an update at this reading does to the timers. -/
structure Counts (s s' : Ntr) (usCount1 : Nat) : Prop where
  counter : s'.counter7 = if s.StoresCount usCount1 then usCount1 else s.counter7
  mode : s'.curMode = .scan ∨ s'.curMode = .connecting →
    s.StoresCount usCount1 ∨ s.curMode = .scan ∨ s.curMode = .connecting
  scanIndex : s.curMode = .scan →
    (s'.wifiScanIndex ≠ s.wifiScanIndex ↔ s.WaitsToScan ∧ 1 < s.elapsed usCount1)
  retry : s.curMode = .connecting →
    (s'.authctr ≠ s.authctr ↔ s.WaitsToRetry ∧ 20 < s.elapsed usCount1)

variable {s s' : Ntr} {usCount1 : Nat}

/-- In the other modes nothing is timed. -/
theorem Counts.of_mode (hnormal : s.curMode ≠ .normal) (hscan : s.curMode ≠ .scan)
    (hconnecting : s.curMode ≠ .connecting) (hcounter : s'.counter7 = s.counter7)
    (hscan' : s'.curMode ≠ .scan) (hconnecting' : s'.curMode ≠ .connecting) :
    Counts s s' usCount1 := by
  have hstores : ¬ s.StoresCount usCount1 := by
    rintro (h | h | ⟨h, -⟩ | ⟨h, -⟩)
    · exact hnormal h.1
    · exact hnormal h.1
    · exact hscan h.mode
    · exact hconnecting h.mode
  exact ⟨by rw [hcounter, if_neg hstores], fun h => (h.elim hscan' hconnecting').elim,
    fun h => (hscan h).elim, fun h => (hconnecting h).elim⟩

theorem storesCount_of_normal (usCount1 : Nat) (hmode : s.curMode = .normal) :
    s.StoresCount usCount1 ↔ s.StartsScan ∨ s.StartsConnecting := by
  constructor
  · rintro (h | h | ⟨h, -⟩ | ⟨h, -⟩)
    · exact .inl h
    · exact .inr h
    · exact absurd (hmode.symm.trans h.mode) (by decide)
    · exact absurd (hmode.symm.trans h.mode) (by decide)
  · rintro (h | h)
    · exact .inl h
    · exact .inr (.inl h)

theorem storesCount_of_scan (usCount1 : Nat) (hmode : s.curMode = .scan) :
    s.StoresCount usCount1 ↔ s.WaitsToScan ∧ 1 < s.elapsed usCount1 := by
  constructor
  · rintro (h | h | h | ⟨h, -⟩)
    · exact absurd (hmode.symm.trans h.1) (by decide)
    · exact absurd (hmode.symm.trans h.1) (by decide)
    · exact h
    · exact absurd (hmode.symm.trans h.mode) (by decide)
  · intro h
    exact .inr (.inr (.inl h))

theorem storesCount_of_connecting (usCount1 : Nat) (hmode : s.curMode = .connecting) :
    s.StoresCount usCount1 ↔ s.WaitsToRetry ∧ 20 < s.elapsed usCount1 := by
  constructor
  · rintro (h | h | ⟨h, -⟩ | h)
    · exact absurd (hmode.symm.trans h.1) (by decide)
    · exact absurd (hmode.symm.trans h.1) (by decide)
    · exact absurd (hmode.symm.trans h.mode) (by decide)
    · exact h
  · intro h
    exact .inr (.inr (.inr h))

/-- Without the timers, the mode can be anything. -/
theorem Counts.of_normal (hmode : s.curMode = .normal)
    (hcounter : s'.counter7 =
      if s.StartsScan ∨ s.StartsConnecting then usCount1 else s.counter7)
    (hmode' : s'.curMode = .scan ∨ s'.curMode = .connecting → s.StartsScan ∨ s.StartsConnecting) :
    Counts s s' usCount1 := by
  have hstores := storesCount_of_normal usCount1 hmode
  refine ⟨?_, fun h => .inl (hstores.mpr (hmode' h)), ?_, ?_⟩
  · rw [hcounter]
    exact if_congr hstores.symm rfl rfl
  · intro h
    exact absurd (hmode.symm.trans h) (by decide)
  · intro h
    exact absurd (hmode.symm.trans h) (by decide)

/-- A connection isn't started without the profile that is asked for. -/
theorem updateNormalConnect_cases (s : Ntr) (usCount1 : Nat) :
    if s.reqFlags &&& wflagReqLoadWfcKey ≠ 0 ∧ getWfcAccessPointIndex s.wfc s.curAp.ssid = none then
      (s.updateNormalConnect usCount1).counter7 = s.counter7 ∧
        (s.updateNormalConnect usCount1).curMode = .cannotConnect
    else (s.updateNormalConnect usCount1).counter7 = usCount1 := by
  unfold updateNormalConnect
  dsimp only
  by_cases hload : s.reqFlags &&& wflagReqLoadWfcKey ≠ 0
  · rw [if_pos hload]
    cases hindex : getWfcAccessPointIndex s.wfc s.curAp.ssid with
    | none =>
      rw [if_pos ⟨hload, rfl⟩]
      exact ⟨rfl, rfl⟩
    | some index =>
      rw [if_neg fun h => absurd h.2 (Option.some_ne_none index)]
      rfl
  · rw [if_neg hload, if_neg fun h => hload h.1]
    rfl

theorem updateNormal_counts (hmode : s.curMode = .normal) :
    Counts s (s.updateNormal usCount1) usCount1 := by
  have hother (hscan : s.reqMode ≠ .scan) (hconnected : s.reqMode ≠ .connected) :
      ¬ (s.StartsScan ∨ s.StartsConnecting) := by
    rintro (h | h)
    · exact hscan h.2
    · exact hconnected h.2.1
  unfold updateNormal
  dsimp only
  split
  · rename_i hreq
    refine .of_normal hmode (if_neg (hother ?_ ?_)).symm (by simp)
    · simp [hreq]
    · simp [hreq]
  · rename_i hreq
    refine .of_normal hmode (if_neg (hother ?_ ?_)).symm (by simp)
    · simp [hreq]
    · simp [hreq]
  · rename_i hreq
    have hstarts : s.StartsScan := ⟨hmode, hreq⟩
    exact .of_normal hmode (if_pos (.inl hstarts)).symm fun _ => .inl hstarts
  · rename_i hreq
    have hscan : ¬ s.StartsScan := fun h => absurd (hreq.symm.trans h.2) (by decide)
    have hcases := updateNormalConnect_cases { s with curLibraryMode := s.reqLibraryMode } usCount1
    split at hcases
    · rename_i hnone
      have hstarts : ¬ s.StartsConnecting := fun h => h.2.2 hnone.1 hnone.2
      refine .of_normal hmode ?_ (by simp [hcases.2])
      rw [if_neg (not_or.mpr ⟨hscan, hstarts⟩), hcases.1]
    · rename_i hsome
      have hstarts : s.StartsConnecting := ⟨hmode, hreq, fun hload hnone => hsome ⟨hload, hnone⟩⟩
      refine .of_normal hmode ?_ fun _ => .inr hstarts
      rw [if_pos (.inr hstarts), hcases]
  · rename_i hscan hconnected
    refine .of_normal hmode (if_neg (hother hscan hconnected)).symm ?_
    rw [hmode]
    simp

/-- The next channel of the list is another one. -/
theorem updateScan_late (hwaits : s.WaitsToScan) (hlate : 1 < s.elapsed usCount1) :
    (s.updateScan usCount1).counter7 = usCount1 ∧
      (s.updateScan usCount1).wifiScanIndex ≠ s.wifiScanIndex := by
  have hstay : ¬ (s.reqMode ≠ .scan ∨ s.curLibraryMode ≠ s.reqLibraryMode) :=
    not_or.mpr ⟨not_not.mpr hwaits.request, not_not.mpr hwaits.library⟩
  obtain ⟨channel, hchannel⟩ := setChannel_eq
    { s with counter7 := usCount1, reqChannel := scanlist.getD s.wifiScanIndex 0 }
    (scanlist.getD s.wifiScanIndex 0)
  unfold updateScan
  rw [if_neg hstay, if_pos hlate]
  dsimp only
  rw [hchannel]
  refine ⟨rfl, ?_⟩
  dsimp only
  split
  · rename_i hlast
    rw [show scanlist.length = 13 from rfl] at hlast
    omega
  · exact Nat.succ_ne_self _

theorem updateScan_early (hmode : s.curMode = .scan)
    (hnot : ¬ (s.WaitsToScan ∧ 1 < s.elapsed usCount1)) :
    (s.updateScan usCount1).counter7 = s.counter7 ∧
      (s.updateScan usCount1).wifiScanIndex = s.wifiScanIndex := by
  unfold updateScan
  split_ifs with hleave hlate
  · exact ⟨rfl, rfl⟩
  · rw [not_or, not_not, not_not] at hleave
    exact absurd ⟨⟨hmode, hleave.1, hleave.2⟩, hlate⟩ hnot
  · exact ⟨rfl, rfl⟩

theorem updateScan_counts (hmode : s.curMode = .scan) :
    Counts s (s.updateScan usCount1) usCount1 := by
  have hstores := storesCount_of_scan usCount1 hmode
  have hconnecting : s.curMode ≠ .connecting := by simp [hmode]
  refine ⟨?_, fun _ => .inr (.inl hmode), fun _ => ?_, fun h => (hconnecting h).elim⟩
  · rw [if_congr hstores rfl rfl]
    split
    · rename_i hlate
      exact (updateScan_late hlate.1 hlate.2).1
    · rename_i hnot
      exact (updateScan_early hmode hnot).1
  · constructor
    · intro hnext
      by_contra hnot
      exact hnext (updateScan_early hmode hnot).2
    · intro hlate
      exact (updateScan_late hlate.1 hlate.2).2

/-- A retry is counted. -/
theorem updateConnecting_late (hwaits : s.WaitsToRetry) (hlate : 20 < s.elapsed usCount1) :
    (s.updateConnecting usCount1).counter7 = usCount1 ∧
      (s.updateConnecting usCount1).authctr ≠ s.authctr := by
  unfold updateConnecting
  rw [if_neg (not_not.mpr hwaits.library), if_neg (not_not.mpr hwaits.request),
    if_neg hwaits.notAssociated, if_neg hwaits.noError, if_pos hlate]
  have hcount : (s.authctr + 1) % 2 ^ 8 ≠ s.authctr := by omega
  unfold associationUpdate
  dsimp only
  split
  · exact ⟨rfl, hcount⟩
  · split <;> exact ⟨rfl, hcount⟩

theorem updateConnecting_early (hmode : s.curMode = .connecting)
    (hnot : ¬ (s.WaitsToRetry ∧ 20 < s.elapsed usCount1)) :
    (s.updateConnecting usCount1).counter7 = s.counter7 ∧
      (s.updateConnecting usCount1).authctr = s.authctr := by
  unfold updateConnecting
  split_ifs with hlibrary hreq hassociated herror hlate
  · exact ⟨rfl, rfl⟩
  · exact ⟨rfl, rfl⟩
  · exact ⟨rfl, rfl⟩
  · exact ⟨rfl, rfl⟩
  · exact absurd ⟨⟨hmode, not_not.mp hlibrary, not_not.mp hreq, hassociated, herror⟩, hlate⟩ hnot
  · exact ⟨rfl, rfl⟩

theorem updateConnecting_counts (hmode : s.curMode = .connecting) :
    Counts s (s.updateConnecting usCount1) usCount1 := by
  have hstores := storesCount_of_connecting usCount1 hmode
  have hscan : s.curMode ≠ .scan := by simp [hmode]
  refine ⟨?_, fun _ => .inr (.inr hmode), fun h => (hscan h).elim, fun _ => ?_⟩
  · rw [if_congr hstores rfl rfl]
    split
    · rename_i hlate
      exact (updateConnecting_late hlate.1 hlate.2).1
    · rename_i hnot
      exact (updateConnecting_early hmode hnot).1
  · constructor
    · intro hretry
      by_contra hnot
      exact hretry (updateConnecting_early hmode hnot).2
    · intro hlate
      exact (updateConnecting_late hlate.1 hlate.2).2

/-- The other modes don't look at the register. -/
theorem updateMode_other (usCount1 : Nat) (hnormal : s.curMode ≠ .normal)
    (hscan : s.curMode ≠ .scan) (hconnecting : s.curMode ≠ .connecting) :
    (s.updateMode usCount1).counter7 = s.counter7 ∧
      (s.updateMode usCount1).curMode ≠ .scan ∧ (s.updateMode usCount1).curMode ≠ .connecting := by
  unfold updateMode
  cases hmode : s.curMode with
  | normal => exact absurd hmode hnormal
  | scan => exact absurd hmode hscan
  | connecting => exact absurd hmode hconnecting
  | disabled =>
    dsimp only
    split_ifs <;> simp [backToNormal, hmode]
  | connected =>
    dsimp only [updateConnected]
    split_ifs <;> simp [backToNormal, cannotConnect, hmode]
  | cannotConnect =>
    dsimp only [updateCannotConnect]
    split_ifs <;> simp [backToNormal, hmode]
  | accessPoint =>
    dsimp only [updateAccessPoint]
    split_ifs <;> simp [backToNormal, hmode]
  | disconnecting => simp [hmode]
  | initializing => simp [hmode]

theorem updateMode_counts (s : Ntr) (usCount1 : Nat) :
    Counts s (s.updateMode usCount1) usCount1 := by
  by_cases hnormal : s.curMode = .normal
  · rw [updateMode_of_normal usCount1 hnormal]
    exact updateNormal_counts hnormal
  by_cases hconnecting : s.curMode = .connecting
  · rw [updateMode_of_connecting usCount1 hconnecting]
    exact updateConnecting_counts hconnecting
  by_cases hscan : s.curMode = .scan
  · have hupdate : s.updateMode usCount1 = s.updateScan usCount1 := by
      unfold updateMode
      rw [hscan]
    rw [hupdate]
    exact updateScan_counts hscan
  · obtain ⟨hcounter, hscan', hconnecting'⟩ :=
      updateMode_other usCount1 hnormal hscan hconnecting
    exact .of_mode hnormal hscan hconnecting hcounter hscan' hconnecting'

theorem update_counts (s : Ntr) (usCount1 : Nat) : Counts s (s.update usCount1) usCount1 := by
  obtain ⟨channel, hupdate⟩ := update_eq s usCount1
  obtain ⟨hcounter, hmode, hindex, hretry⟩ := updateMode_counts s usCount1
  rw [hupdate]
  exact ⟨hcounter, hmode, hindex, hretry⟩

/-- With one reading for both, this is the update. -/
theorem updateReading_self (s : Ntr) (usCount1 : Nat) :
    s.updateReading usCount1 usCount1 = s.update usCount1 := by
  unfold updateReading
  split
  · rename_i hstores
    have hcounter := (update_counts s usCount1).counter
    rw [if_pos hstores] at hcounter
    generalize s.update usCount1 = s' at hcounter ⊢
    rw [← hcounter]
  · rfl

end Ntr

/-! ## What else happens -/

namespace Arm9

variable (s : Arm9)

@[simp] theorem scanMode_counter7 : s.scanMode.counter7 = s.counter7 := by
  unfold scanMode
  split <;> rfl

@[simp] theorem internetMode_counter7 (env : LwipEnv) :
    (s.internetMode env).counter7 = s.counter7 := by
  unfold internetMode
  split <;> rfl

@[simp] theorem search_counter7 (apdata : AccessPoint) (security : ApSecurity) (reqFlags : Nat) :
    (s.search apdata security reqFlags).counter7 = s.counter7 :=
  scanMode_counter7 _

@[simp] theorem connectSecureAp_counter7 (apdata : Option AccessPoint) (key : Option (List UInt8))
    (keyLen : Nat) : (s.connectSecureAp apdata key keyLen).1.counter7 = s.counter7 := by
  unfold connectSecureAp
  cases apdata with
  | none => rfl
  | some apdata =>
    dsimp only
    split_ifs <;> simp

@[simp] theorem connectWfcAp_counter7 (apdata : Option AccessPoint) :
    (s.connectWfcAp apdata).1.counter7 = s.counter7 := by
  unfold connectWfcAp
  cases apdata with
  | none => rfl
  | some apdata =>
    dsimp only
    split_ifs <;> simp

@[simp] theorem connectAp_counter7 (apdata : Option AccessPoint) (wepmode : Int)
    (wepkey : Option (List UInt8)) :
    (s.connectAp apdata wepmode wepkey).1.counter7 = s.counter7 := by
  unfold connectAp
  dsimp only
  split_ifs <;> simp

@[simp] theorem autoConnect_counter7 (env : LwipEnv) :
    (s.autoConnect env).counter7 = s.counter7 := by
  unfold autoConnect
  dsimp only
  split_ifs <;> simp

theorem assocStatus_counter7 (env : LwipEnv) :
    (s.assocStatus env).1.counter7 = s.counter7 := by
  unfold assocStatus
  cases s.connectState with
  | searching =>
    dsimp only [assocStatusSearching]
    split <;> rfl
  | associating =>
    dsimp only [assocStatusAssociating]
    split
    · rfl
    · split_ifs <;> rfl
    · rfl
    · rfl
  | dhcping =>
    dsimp only
    split_ifs <;> rfl
  | searchingWfc =>
    dsimp only [assocStatusSearchingWfc]
    split <;> rfl
  | error | done => rfl

end Arm9

theorem ApiCall.run_counter7 (s : Arm9) (call : ApiCall) : (call.run s).counter7 = s.counter7 := by
  cases call with
  | scanMode => exact s.scanMode_counter7
  | internetMode env => exact s.internetMode_counter7 env
  | connectSecureAp apdata key keyLen => exact s.connectSecureAp_counter7 apdata key keyLen
  | connectWfcAp apdata => exact s.connectWfcAp_counter7 apdata
  | connectAp apdata wepmode wepkey => exact s.connectAp_counter7 apdata wepmode wepkey
  | connectOpenAp apdata => exact s.connectSecureAp_counter7 apdata none 0
  | autoConnect env => exact s.autoConnect_counter7 env
  | disableWifi | enableWifi | scanModeFilter | idleMode | multiplayerAllowNewClients
  | disconnectAp => rfl
  | multiplayerClientMode clientPacketSize =>
    dsimp only [run, Arm9.multiplayerClientMode]
    split <;> rfl
  | multiplayerHostMode maxClients hostPacketSize clientPacketSize =>
    dsimp only [run, Arm9.multiplayerHostMode]
    split <;> rfl
  | setChannel channel =>
    dsimp only [run, Arm9.setChannel]
    split <;> rfl
  | beaconStart ssid =>
    dsimp only [run, Arm9.beaconStartSsid]
    split <;> rfl

/-! ## Readings -/

/-- **A difference in 32 bits is right until the register wraps**, and far too large from then
on. -/
theorem lt_elapsed_iff {t now n : Nat} (ht : t ≤ now) (hn : n < 2 ^ 15) :
    (n < u32 (now % 2 ^ 16 + 2 ^ 32 - t % 2 ^ 16) → t + n < now) ↔
      t / 2 ^ 16 = now / 2 ^ 16 ∨ t + n < now := by
  unfold u32
  constructor
  · intro h
    by_cases hsame : t / 2 ^ 16 = now / 2 ^ 16
    · exact .inl hsame
    · right
      by_contra hearly
      exact hearly (h (by omega))
  · rintro (hsame | hlate) hfires
    · omega
    · exact hlate

namespace TimedNtr

variable {s : TimedNtr}

/-- An update with a timer that is waiting does what it should exactly if the register hasn't
wrapped too early. -/
theorem Counted.lt_elapsed_iff (h : s.Counted)
    (hmode : s.curMode = .scan ∨ s.curMode = .connecting) {n : Nat} (hn : n < 2 ^ 15) :
    (n < s.toNtr.elapsed (usCount1 s.now) → s.TicksPassed n) ↔ s.Unwrapped ∨ s.TicksPassed n := by
  obtain ⟨t, ht⟩ := Option.ne_none_iff_exists'.mp (h.isSet hmode)
  obtain ⟨hle, hcounter⟩ := h.counter t ht
  unfold Ntr.elapsed TicksPassed Unwrapped
  rw [hcounter, ht]
  simp only [Option.mem_some_iff, exists_eq_left']
  exact Wifi.lt_elapsed_iff hle hn

/-- A timer that fires when it says so fires after the right time exactly if the register hasn't
wrapped too early. -/
theorem Counted.timer_iff (h : s.Counted) {mode fires waits : Prop} {n : Nat} (hn : n < 2 ^ 15)
    (hmode : mode → s.curMode = .scan ∨ s.curMode = .connecting) (hwaits : waits → mode)
    (hfires : mode → (fires ↔ waits ∧ n < s.toNtr.elapsed (usCount1 s.now))) :
    (mode → fires → s.TicksPassed n) ↔ (waits → s.Unwrapped ∨ s.TicksPassed n) := by
  constructor
  · intro hright hwait
    refine (h.lt_elapsed_iff (hmode (hwaits hwait)) hn).mp fun hlate => ?_
    exact hright (hwaits hwait) ((hfires (hwaits hwait)).mpr ⟨hwait, hlate⟩)
  · intro hkept hm hfire
    obtain ⟨hwait, hlate⟩ := (hfires hm).mp hfire
    exact (h.lt_elapsed_iff (hmode hm) hn).mpr (hkept hwait) hlate

theorem updateReading_fields (s : Ntr) (compared stored : Nat) :
    (s.updateReading compared stored).curMode = (s.update compared).curMode ∧
    (s.updateReading compared stored).wifiScanIndex = (s.update compared).wifiScanIndex ∧
    (s.updateReading compared stored).authctr = (s.update compared).authctr := by
  unfold Ntr.updateReading
  split <;> exact ⟨rfl, rfl, rfl⟩

/-- One step. -/
theorem Counted.respectsTimers_iff (h : s.Counted) (e : TimedEvent) :
    s.RespectsTimers e ↔ s.KeepsCount e := by
  refine forall_congr' fun ticks => imp_congr_right ?_
  rintro rfl
  obtain ⟨-, -, hscan, hretry⟩ := Ntr.update_counts s.toNtr (usCount1 s.now)
  obtain ⟨-, hindex, hctr⟩ := updateReading_fields s.toNtr (usCount1 s.now)
    (usCount1 (s.now + ticks))
  rw [← hindex] at hscan
  rw [← hctr] at hretry
  exact and_congr (h.timer_iff (by decide) .inl Ntr.WaitsToScan.mode hscan)
    (h.timer_iff (by decide) .inr Ntr.WaitsToRetry.mode hretry)

/-! ## Invariant -/

theorem counted_init (main : MainStruct) (hmode : main.curMode = .disabled) (now : Nat) :
    (init main now).Counted := by
  refine ⟨fun t ht => (Option.not_mem_none t ht).elim, ?_⟩
  rintro (h | h)
  · exact absurd (hmode.symm.trans h) (by decide)
  · exact absurd (hmode.symm.trans h) (by decide)

/-- Other events leave the mode and `counter7` alone. -/
theorem Counted.of_same (h : s.Counted) {s' : Ntr} (hmode : s'.curMode = s.curMode)
    (hcounter : s'.counter7 = s.counter7) : Counted { s with toNtr := s' } := by
  refine ⟨fun t ht => ?_, fun hm => ?_⟩
  · rw [hcounter]
    exact h.counter t ht
  · rw [hmode] at hm
    exact h.isSet hm

theorem Counted.update (h : s.Counted) (ticks : Nat) : (s.step (.update ticks)).Counted := by
  obtain ⟨hcounter, hmode, -, -⟩ := Ntr.update_counts s.toNtr (usCount1 s.now)
  by_cases hstores : s.toNtr.StoresCount (usCount1 s.now)
  · have hset : (s.step (.update ticks)).counterSet = some (s.now + ticks) := if_pos hstores
    refine ⟨fun t ht => ?_, fun _ => by simp [hset]⟩
    rw [hset, Option.mem_some_iff] at ht
    subst ht
    refine ⟨Nat.le_refl _, ?_⟩
    dsimp only [step, Ntr.updateReading]
    rw [if_pos hstores]
  · have hset : (s.step (.update ticks)).counterSet = s.counterSet := if_neg hstores
    have hsame : (s.step (.update ticks)).toNtr = s.toNtr.update (usCount1 s.now) :=
      if_neg hstores
    rw [if_neg hstores] at hcounter
    refine ⟨fun t ht => ?_, fun hm => ?_⟩
    · rw [hset] at ht
      obtain ⟨hle, hcount⟩ := h.counter t ht
      refine ⟨hle.trans (Nat.le_add_right _ _), ?_⟩
      rw [hsame, hcounter, hcount]
    · rw [hset]
      rw [hsame] at hm
      exact h.isSet ((hmode hm).resolve_left hstores)

theorem Counted.step (h : s.Counted) (e : TimedEvent) : (s.step e).Counted := by
  cases e with
  | wait ticks =>
    exact ⟨fun t ht => ⟨(h.counter t ht).1.trans (Nat.le_add_right _ _), (h.counter t ht).2⟩,
      h.isSet⟩
  | call call =>
    exact h.of_same (call.run_asks s.toArm9).mode (call.run_counter7 s.toArm9)
  | assocStatus env =>
    exact h.of_same (s.toArm9.assocStatus_mode_level env).1 (s.toArm9.assocStatus_counter7 env)
  | update ticks => exact h.update ticks
  | receive frame =>
    obtain ⟨hmode, -, -, -, -, -, hcounter⟩ := Ntr.processReceivedFrame_modes s.toNtr frame
    exact h.of_same hmode hcounter

end TimedNtr

/-- **The runs in which the timers are right**: no update switches the channel or retries the
association too early exactly if the register hasn't wrapped whenever an update finds a timer that
has to wait longer. -/
theorem timers_kept_iff (reqFlags : Nat) (reqLibraryMode : LibraryMode) (macAddr : MacAddr)
    (wfc : List WfcConfig) (now : Nat) (es : List TimedEvent) :
    let s := TimedNtr.init (.init reqFlags reqLibraryMode macAddr wfc) now
    Along TimedNtr.step TimedNtr.RespectsTimers s es ↔
      Along TimedNtr.step TimedNtr.KeepsCount s es :=
  along_iff TimedNtr.Counted (fun _ e h _ => h.step e) (fun _ e h => h.respectsTimers_iff e) es
    (TimedNtr.counted_init _ rfl now)

/-- A scan starts one tick before the register wraps. -/
def scanBeforeWrap : List TimedEvent :=
  [.call .enableWifi, .update 0, .call .scanMode, .update 0, .wait 1, .update 0]

/-- The channel is switched after one tick. -/
theorem scanBeforeWrap_tooEarly :
    ¬ Along TimedNtr.step TimedNtr.RespectsTimers (.init exampleMain 0xFFFF) scanBeforeWrap := by
  rintro ⟨-, -, -, -, -, hlast, -⟩
  have hpassed := (hlast 0 rfl).1 (by decide +kernel) (by decide +kernel)
  revert hpassed
  decide +kernel

end Wifi
