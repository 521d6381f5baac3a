import DsWifi.Connect.Twl
import DsWifi.Infra.Memory
import DsWifi.Infra.Run
import Mathlib.Data.List.GetD

/-!
# The channels that the card scans

`wmi_handle_get_channel_list` and `wmi_scan_mode_tick` (`source/arm7/twl/ath/wmi.twl.c`). The index
of the next channel goes back to zero only after it has been larger than the number of channels, so
that one more element of `channel_freqs` is read than there are channels.

* `CardScan.run_round` — a round over a list that has a zero behind it
* `cardScan_visits_iff` — the runs in which nothing but the listed channels is looked at
-/

namespace Wifi

open Infra Infra.Mem

/-- What has been done for the scan. -/
inductive ScanAction
  /-- `channel_freqs[idx]` is read, `numEntries` is what the latest list has said. -/
  | access (idx numEntries : Nat)
  /-- `num_rounds_scanned` is incremented, with these channels in the latest list. -/
  | round (channels : List Nat)
  /-- The scan of a channel is started. -/
  | scan (mhz : Nat)
  deriving DecidableEq, Repr

/-- The variables of the scan, and what has been done. -/
structure CardScan where
  deviceNumChannels : Nat
  deviceCurChannelIdx : Nat
  channelFreqs : Vector Nat 32
  numRoundsScanned : Nat
  wmiIsScanning : Bool
  log : List ScanAction

/-- What happens to the scan. -/
inductive ScanEvent
  | getChannelListResp (pktData : Mem)
  /-- A tick, and what is in memory behind `channel_freqs`. -/
  | tick (behind : Nat → Nat)
  | scanCompleteEvent

namespace CardScan

def init : CardScan where
  deviceNumChannels := 0
  deviceCurChannelIdx := 0
  channelFreqs := .replicate 32 0
  numRoundsScanned := 0
  wmiIsScanning := false
  log := []

/-- The channels of the latest list. -/
def listed (s : CardScan) : List Nat := s.channelFreqs.toList.take s.deviceNumChannels

/-- `wmi_handle_get_channel_list`. -/
def wmiHandleGetChannelList (pktData : Mem) (s : CardScan) : CardScan :=
  let numEntries := (pktData 1).toNat
  let copied := if 32 < numEntries then 32 else numEntries
  { s with
    deviceNumChannels := numEntries
    channelFreqs := .ofFn fun i =>
      if i.val < copied then load16 pktData (2 + 2 * i.val) else s.channelFreqs.get i }

/-- `channel_freqs[device_cur_channel_idx]`. -/
def nextMhz (behind : Nat → Nat) (s : CardScan) : Nat :=
  s.channelFreqs[s.deviceCurChannelIdx]?.getD (behind s.deviceCurChannelIdx)

/-- `wmi_scan_mode_tick`. -/
def wmiScanModeTick (behind : Nat → Nat) (s : CardScan) : CardScan :=
  if s.deviceNumChannels = 0 then s
  else if s.wmiIsScanning then s
  else
    let mhz := s.nextMhz behind
    let s := { s with
      deviceCurChannelIdx := (s.deviceCurChannelIdx + 1) % 2 ^ 8
      log := s.log ++ [.access s.deviceCurChannelIdx s.deviceNumChannels] }
    let s := if s.deviceNumChannels < s.deviceCurChannelIdx then
      { s with
        deviceCurChannelIdx := 0
        numRoundsScanned := (s.numRoundsScanned + 1) % 2 ^ 16
        log := s.log ++ [.round s.listed] }
      else s
    if mhz = 0 then s else { s with wmiIsScanning := true, log := s.log ++ [.scan mhz] }

/-- `wmi_handle_scan_complete`. -/
def wmiHandleScanComplete (s : CardScan) : CardScan := { s with wmiIsScanning := false }

def step (s : CardScan) : ScanEvent → CardScan
  | .getChannelListResp pktData => s.wmiHandleGetChannelList pktData
  | .tick behind => s.wmiScanModeTick behind
  | .scanCompleteEvent => s.wmiHandleScanComplete

/-- The tick of the connection's model is this one. -/
theorem wmiScanModeTick_twl (behind : Nat → Nat) (s : CardScan) (t : Twl) (initted : Bool)
    (hnum : t.deviceNumChannels = s.deviceNumChannels)
    (hscan : t.wmiIsScanning = s.wmiIsScanning) :
    (t.wmiScanModeTick ⟨s.nextMhz behind, initted⟩).wmiIsScanning =
      (s.wmiScanModeTick behind).wmiIsScanning := by
  unfold wmiScanModeTick Twl.wmiScanModeTick
  rw [hnum, hscan]
  by_cases hzero : s.deviceNumChannels = 0
  · rw [if_pos hzero, if_pos hzero, hscan]
  · rw [if_neg hzero, if_neg hzero]
    by_cases hscanning : s.wmiIsScanning = true
    · rw [if_pos hscanning, if_pos hscanning, hscan]
    · rw [if_neg hscanning, if_neg hscanning]
      dsimp only
      split_ifs with hmhz hwrap hwrap
      · simp [hmhz, hscanning]
      · simp [hmhz, hscanning]
      · simp [hmhz]
      · simp [hmhz]

/-- What a tick does before the index is too large. -/
theorem wmiScanModeTick_of_lt (behind : Nat → Nat) {s : CardScan}
    (hscan : s.wmiIsScanning = false) (hlt : s.deviceCurChannelIdx < min s.deviceNumChannels 32) :
    s.wmiScanModeTick behind =
      { s with
        deviceCurChannelIdx := s.deviceCurChannelIdx + 1
        wmiIsScanning := s.nextMhz behind != 0
        log := s.log ++ .access s.deviceCurChannelIdx s.deviceNumChannels ::
          if s.nextMhz behind = 0 then [] else [.scan (s.nextMhz behind)] } := by
  have hnum : s.deviceNumChannels ≠ 0 := by omega
  have hidx : (s.deviceCurChannelIdx + 1) % 2 ^ 8 = s.deviceCurChannelIdx + 1 := by omega
  have hwrap : ¬ s.deviceNumChannels < s.deviceCurChannelIdx + 1 := by omega
  rw [wmiScanModeTick, if_neg hnum, if_neg (by simp [hscan])]
  dsimp only
  rw [hidx, if_neg hwrap]
  by_cases hmhz : s.nextMhz behind = 0
  · simp [hmhz, hscan]
  · simp [hmhz]

/-- A tick that finds a scan or no list does nothing. -/
theorem wmiScanModeTick_idle {behind : Nat → Nat} {s : CardScan}
    (h : s.deviceNumChannels = 0 ∨ s.wmiIsScanning = true) : s.wmiScanModeTick behind = s := by
  unfold wmiScanModeTick
  split_ifs with hnum hscan
  · rfl
  · rfl
  · exact absurd h (by simp [hnum, hscan])

/-- What is read by a tick is put on record. -/
theorem access_mem_wmiScanModeTick {behind : Nat → Nat} {s : CardScan}
    (hnum : s.deviceNumChannels ≠ 0) (hscan : s.wmiIsScanning = false) :
    .access s.deviceCurChannelIdx s.deviceNumChannels ∈ (s.wmiScanModeTick behind).log := by
  rw [wmiScanModeTick, if_neg hnum, if_neg (by simp [hscan])]
  dsimp only
  split_ifs <;> simp

/-- The record only grows. -/
theorem log_subset_step (s : CardScan) (e : ScanEvent) : s.log ⊆ (s.step e).log := by
  cases e with
  | getChannelListResp pktData => exact List.Subset.refl _
  | tick behind =>
    show s.log ⊆ (s.wmiScanModeTick behind).log
    unfold wmiScanModeTick
    dsimp only
    intro action h
    split_ifs <;> simp [h]
  | scanCompleteEvent => exact List.Subset.refl _

end CardScan

/-! ## Rounds -/

/-- The channels whose scan has been started. -/
def scans (log : List ScanAction) : List Nat :=
  log.filterMap fun
    | .scan mhz => some mhz
    | _ => none

/-- The indices that have been read. -/
def accesses (log : List ScanAction) : List Nat :=
  log.filterMap fun
    | .access idx _ => some idx
    | _ => none

/-- Between two consecutive increments each listed channel is scanned once. -/
def RoundsComplete (log : List ScanAction) : Prop :=
  ∀ before channels between channels' after,
    log = before ++ .round channels :: (between ++ .round channels' :: after) →
    (∀ c, .round c ∉ between) → (scans between).Perm channels'

/-- Nothing is read but the elements of the latest list. -/
def ReadsListed (log : List ScanAction) : Prop :=
  ∀ idx numEntries, .access idx numEntries ∈ log → idx < min numEntries 32

/-- Only what is in the latest list is read, and the rounds are complete. -/
def VisitsChannels (log : List ScanAction) : Prop := ReadsListed log ∧ RoundsComplete log

namespace CardScan

/-- A tick that reads `channel_freqs` comes before the latest list has been read to its end. -/
def TickFits (s : CardScan) : ScanEvent → Prop
  | .tick _ => s.deviceNumChannels ≠ 0 → s.wmiIsScanning = false →
    (accesses s.log).length < min s.deviceNumChannels 32
  | _ => True

/-- What holds as long as all ticks have fitted. -/
structure FirstRound (s : CardScan) : Prop where
  idx_eq : s.deviceCurChannelIdx = (accesses s.log).length
  no_round : ∀ channels, .round channels ∉ s.log
  reads : ReadsListed s.log

theorem firstRound_init : FirstRound init where
  idx_eq := rfl
  no_round := by simp [init]
  reads := by simp [ReadsListed, init]

/-- A tick that fits goes on with the first round. -/
theorem FirstRound.step {s : CardScan} (h : FirstRound s) (e : ScanEvent) (hfits : s.TickFits e) :
    FirstRound (s.step e) := by
  cases e with
  | getChannelListResp pktData => exact ⟨h.idx_eq, h.no_round, h.reads⟩
  | scanCompleteEvent => exact ⟨h.idx_eq, h.no_round, h.reads⟩
  | tick behind =>
    show FirstRound (s.wmiScanModeTick behind)
    by_cases hidle : s.deviceNumChannels = 0 ∨ s.wmiIsScanning = true
    · rw [wmiScanModeTick_idle hidle]
      exact h
    · obtain ⟨hnum, hscan⟩ := not_or.mp hidle
      have hscan' : s.wmiIsScanning = false := by simpa using hscan
      have hlt : s.deviceCurChannelIdx < min s.deviceNumChannels 32 := by
        rw [h.idx_eq]
        exact hfits hnum hscan'
      rw [wmiScanModeTick_of_lt _ hscan' hlt]
      refine ⟨?_, ?_, ?_⟩
      · show s.deviceCurChannelIdx + 1 = _
        rw [h.idx_eq]
        split_ifs <;> simp [accesses]
      · intro channels hmem
        have := h.no_round channels
        split_ifs at hmem <;> simp_all
      · intro idx numEntries hmem
        have hold := h.reads idx numEntries
        rcases List.mem_append.mp hmem with hmem | hmem
        · exact hold hmem
        · have heq : idx = s.deviceCurChannelIdx ∧ numEntries = s.deviceNumChannels := by
            split_ifs at hmem <;> simpa using hmem
          obtain ⟨rfl, rfl⟩ := heq
          exact hlt

/-- Under the invariant a tick fits if nothing but the list is read by it. -/
theorem FirstRound.fits_iff {s : CardScan} (h : FirstRound s) (e : ScanEvent) :
    ReadsListed (s.step e).log ↔ s.TickFits e := by
  constructor
  · intro hlog
    cases e with
    | getChannelListResp pktData => trivial
    | scanCompleteEvent => trivial
    | tick behind =>
      intro hnum hscan
      rw [← h.idx_eq]
      exact hlog _ _ (access_mem_wmiScanModeTick hnum hscan)
  · intro hfits
    exact (h.step e hfits).reads

/-- **The runs that look at nothing else**: a round never ends without a look behind the list, so
that the list has to be longer than the number of channels that have been looked at. -/
theorem cardScan_visits_iff (es : List ScanEvent) :
    VisitsChannels (run CardScan.step init es).log ↔ Along CardScan.step TickFits init es := by
  constructor
  · rintro ⟨hlog, -⟩
    -- What has been read in a step is still in the record at the end.
    have hsteps : Along CardScan.step (fun s e => ReadsListed (CardScan.step s e).log) init es :=
      Along.of_last (R := fun s => ReadsListed s.log) (fun s e h idx numEntries hmem =>
        h idx numEntries (log_subset_step s e hmem)) hlog
    exact (along_iff FirstRound (fun s e h hfits => h.step e hfits) (fun s e h => h.fits_iff e) es
      firstRound_init).mp hsteps
  · intro hfits
    have hend := hfits.inv FirstRound (fun s e h hfits => h.step e hfits) firstRound_init
    refine ⟨hend.reads, ?_⟩
    -- No round has ended.
    rintro before channels between channels' after heq
    exact absurd (heq ▸ by simp) (hend.no_round channels)

/-- A list with one channel, 2412 MHz, is read a second time. -/
theorem cardScan_reads_behind :
    ¬ VisitsChannels (run CardScan.step init
      [.getChannelListResp fun k => [0, 1, 0x6C, 0x09].getD k 0, .tick fun _ => 0,
        .scanCompleteEvent, .tick fun _ => 0]).log := by
  intro h
  have hmem : ScanAction.access 1 1 ∈ (run CardScan.step init
      [.getChannelListResp fun k => [0, 1, 0x6C, 0x09].getD k 0, .tick fun _ => 0,
        .scanCompleteEvent, .tick fun _ => 0]).log := by decide +kernel
  exact absurd (h.1 1 1 hmem) (by decide)

/-! ## A list with a zero behind it -/

/-- A tick and the end of the scan, a number of times. -/
def scanTicks (behind : Nat → Nat) : Nat → List ScanEvent
  | 0 => []
  | k + 1 => scanTicks behind k ++ [.tick behind, .scanCompleteEvent]

/-- What is done for the first channels. -/
def roundLog (s : CardScan) : Nat → List ScanAction
  | 0 => []
  | k + 1 => s.roundLog k ++ [.access k s.deviceNumChannels, .scan (s.listed.getD k 0)]

theorem scans_roundLog {s : CardScan} {k : Nat} (hk : k ≤ s.listed.length) :
    scans (s.roundLog k) = s.listed.take k := by
  induction k with
  | zero => rfl
  | succ k ih =>
    have hk' : k < s.listed.length := hk
    have hlast : scans [.access k s.deviceNumChannels, .scan (s.listed.getD k 0)] =
        [s.listed[k]] := by
      simp [scans, hk']
    have happend : scans (s.roundLog (k + 1)) = scans (s.roundLog k) ++
        scans [.access k s.deviceNumChannels, .scan (s.listed.getD k 0)] :=
      List.filterMap_append
    rw [happend, ih (Nat.le_of_lt hk'), hlast, List.take_add_one, List.getElem?_eq_getElem hk']
    rfl

variable {s : CardScan} {behind : Nat → Nat}

theorem length_listed (s : CardScan) : s.listed.length = min s.deviceNumChannels 32 := by
  simp [listed]

theorem nextMhz_eq (hlt : s.deviceCurChannelIdx < s.listed.length) :
    s.nextMhz behind = s.listed.getD s.deviceCurChannelIdx 0 := by
  have hlen := length_listed s
  have hidx : s.deviceCurChannelIdx < 32 := by omega
  rw [List.getD_eq_getElem _ _ hlt, nextMhz, Vector.getElem?_eq_getElem hidx]
  simp [listed]

/-- The channels of the list are scanned in order. -/
theorem run_scanTicks (hscan : s.wmiIsScanning = false) (hidx : s.deviceCurChannelIdx = 0)
    (hchannels : ∀ mhz ∈ s.listed, mhz ≠ 0) {k : Nat} (hk : k ≤ s.listed.length) :
    run CardScan.step s (scanTicks behind k) =
      { s with deviceCurChannelIdx := k, log := s.log ++ s.roundLog k } := by
  induction k with
  | zero =>
    obtain ⟨num, idx, freqs, rounds, scanning, log⟩ := s
    obtain rfl : idx = 0 := hidx
    simp [roundLog, scanTicks, run]
  | succ k ih =>
    have hk' : k < s.listed.length := hk
    have hlen := length_listed s
    have hmhz : s.listed.getD k 0 ≠ 0 := by
      rw [List.getD_eq_getElem _ _ hk']
      exact hchannels _ (List.getElem_mem hk')
    rw [scanTicks, run_append, ih (Nat.le_of_lt hk')]
    have hlt : k < min s.deviceNumChannels 32 := by omega
    have htick := wmiScanModeTick_of_lt behind
      (s := { s with deviceCurChannelIdx := k, log := s.log ++ s.roundLog k }) hscan hlt
    have hnext : nextMhz behind { s with deviceCurChannelIdx := k, log := s.log ++ s.roundLog k } =
        s.listed.getD k 0 := nextMhz_eq (by exact hk')
    rw [hnext, if_neg hmhz] at htick
    show (wmiScanModeTick behind _).wmiHandleScanComplete = _
    rw [htick]
    simp [wmiHandleScanComplete, hscan, roundLog]

/-- **A round over a list with a zero behind it** scans each channel once, but it reads the zero. -/
theorem run_round (hscan : s.wmiIsScanning = false) (hidx : s.deviceCurChannelIdx = 0)
    (hchannels : ∀ mhz ∈ s.listed, mhz ≠ 0) (hnum : s.deviceNumChannels ≠ 0)
    (hlt : s.deviceNumChannels < 32) (hzero : s.channelFreqs[s.deviceNumChannels]? = some 0) :
    run CardScan.step s (scanTicks behind s.deviceNumChannels ++ [.tick behind]) =
        { s with
          numRoundsScanned := (s.numRoundsScanned + 1) % 2 ^ 16
          log := s.log ++ s.roundLog s.deviceNumChannels ++
            [.access s.deviceNumChannels s.deviceNumChannels, .round s.listed] } ∧
      scans (s.roundLog s.deviceNumChannels) = s.listed := by
  have hlen := length_listed s
  have hround : scans (s.roundLog s.deviceNumChannels) = s.listed := by
    rw [scans_roundLog (by omega), List.take_of_length_le (by omega)]
  refine ⟨?_, hround⟩
  rw [run_append_singleton, run_scanTicks hscan hidx hchannels (by omega)]
  have hwrap : s.deviceNumChannels < (s.deviceNumChannels + 1) % 256 := by omega
  show wmiScanModeTick behind _ = _
  rw [wmiScanModeTick, if_neg hnum, if_neg (by simp [hscan])]
  simp [nextMhz, hzero, hwrap, hidx, listed]

end CardScan

end Wifi
