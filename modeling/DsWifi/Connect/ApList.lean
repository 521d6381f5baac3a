import DsWifi.Connect.AccessPoint
import DsWifi.Infra.Run

/-!
# The list of access points over time

A slot of `aplist` that isn't active keeps its BSSID, or the second half of it, and is found again
by it. The first slot with a BSSID is the one that an update gets, so that an active slot is always
the first one with its BSSID.

* `apList_boundedMap` — the active entries are a map from BSSIDs, the one with the longest time
  without updates is given up when the list is full, and no entry outlives the timeout
* `apList_ownSsids_iff` — the runs in which an active entry only shows SSIDs of its own BSSID
-/

namespace Wifi

open Infra

/-! ## The slot for an access point -/

/-- How `Wifi_AccessPointAdd` arrives at a slot, and whether it is one with the BSSID. -/
inductive ChosenSlot (aplist : ApList) (bssid : MacAddr) (slot : Fin wifiMaxAp) : Bool → Prop
  /-- The first slot with the BSSID. -/
  | found (hslot : (aplist.get slot).bssid = bssid)
      (hfirst : ∀ i < slot, (aplist.get i).bssid ≠ bssid) : ChosenSlot aplist bssid slot true
  /-- A slot that isn't used. -/
  | unused (hnew : ∀ i, (aplist.get i).bssid ≠ bssid)
      (hslot : (aplist.get slot).active = false) : ChosenSlot aplist bssid slot false
  /-- The slot that has gone the longest time without updates. -/
  | oldest (hnew : ∀ i, (aplist.get i).bssid ≠ bssid)
      (hfull : ∀ i, (aplist.get i).active = true)
      (hslot : ∀ i, (aplist.get i).timectr ≤ (aplist.get slot).timectr) :
      ChosenSlot aplist bssid slot false

/-- The step of the loop that looks for the longest time without updates. -/
def older (best : Nat × Nat) (ap : AccessPoint × Nat) : Nat × Nat :=
  if best.1 < ap.1.timectr then (ap.1.timectr, ap.2) else best

theorem le_fst_older (best : Nat × Nat) (ap : AccessPoint × Nat) :
    best.1 ≤ (older best ap).1 ∧ ap.1.timectr ≤ (older best ap).1 := by
  unfold older
  split
  · exact ⟨by omega, Nat.le_refl _⟩
  · exact ⟨Nat.le_refl _, by omega⟩

theorem le_foldl_older (aps : List (AccessPoint × Nat)) (best : Nat × Nat) :
    best.1 ≤ (aps.foldl older best).1 ∧ ∀ ap ∈ aps, ap.1.timectr ≤ (aps.foldl older best).1 := by
  induction aps generalizing best with
  | nil => exact ⟨Nat.le_refl _, fun ap h => absurd h List.not_mem_nil⟩
  | cons ap aps ih =>
    obtain ⟨hbest, haps⟩ := ih (older best ap)
    have hstep := le_fst_older best ap
    rw [List.foldl_cons]
    refine ⟨hstep.1.trans hbest, fun ap' h => ?_⟩
    rcases List.mem_cons.mp h with rfl | h
    · exact hstep.2.trans hbest
    · exact haps ap' h

/-- The best so far stays, or it is replaced by one from the list. -/
theorem foldl_older_eq (aps : List (AccessPoint × Nat)) (best : Nat × Nat) :
    aps.foldl older best = best ∨
      ∃ ap ∈ aps, aps.foldl older best = (ap.1.timectr, ap.2) := by
  induction aps generalizing best with
  | nil => exact .inl rfl
  | cons ap aps ih =>
    rw [List.foldl_cons]
    rcases ih (older best ap) with h | ⟨ap', hmem, h⟩
    · rw [h]
      unfold older
      split
      · exact .inr ⟨ap, List.mem_cons_self, rfl⟩
      · exact .inl rfl
    · exact .inr ⟨ap', List.mem_cons_of_mem _ hmem, h⟩

theorem oldestSlot_eq (aplist : ApList) :
    oldestSlot aplist = (aplist.toList.zipIdx.foldl older (0, 0)).2 := rfl

/-- An entry and its index, as the loops see them. -/
theorem mem_zipIdx_iff {aplist : ApList} {ap : AccessPoint × Nat} :
    ap ∈ aplist.toList.zipIdx ↔ ∃ i : Fin wifiMaxAp, ap = (aplist.get i, i.val) := by
  rw [List.mem_zipIdx_iff_getElem?]
  constructor
  · intro h
    obtain ⟨hlt, h⟩ := List.getElem?_eq_some_iff.mp h
    rw [Vector.length_toList] at hlt
    exact ⟨⟨ap.2, hlt⟩, Prod.ext (by rw [← h, Vector.getElem_toList]; rfl) rfl⟩
  · rintro ⟨i, rfl⟩
    rw [List.getElem?_eq_some_iff]
    exact ⟨by rw [Vector.length_toList]; exact i.isLt, by rw [Vector.getElem_toList]; rfl⟩

theorem oldestSlot_spec (aplist : ApList) : ∃ slot : Fin wifiMaxAp,
    oldestSlot aplist = slot ∧ ∀ i, (aplist.get i).timectr ≤ (aplist.get slot).timectr := by
  have hle := (le_foldl_older aplist.toList.zipIdx (0, 0)).2
  have hle (i : Fin wifiMaxAp) := hle (aplist.get i, i.val) (mem_zipIdx_iff.mpr ⟨i, rfl⟩)
  rw [oldestSlot_eq]
  rcases foldl_older_eq aplist.toList.zipIdx (0, 0) with h | ⟨ap, hmem, h⟩
  · -- No time is longer than zero, and the first slot is as good as any other.
    rw [h] at hle ⊢
    exact ⟨⟨0, by decide⟩, rfl, fun i => (hle i).trans (Nat.zero_le _)⟩
  · obtain ⟨slot, rfl⟩ := mem_zipIdx_iff.mp hmem
    rw [h] at hle ⊢
    exact ⟨slot, rfl, hle⟩

/-- The first slot with a property. -/
theorem findIdx?_eq_some {aplist : ApList} {p : AccessPoint → Bool} {n : Nat}
    (h : aplist.toList.findIdx? p = some n) : ∃ slot : Fin wifiMaxAp,
    n = slot ∧ p (aplist.get slot) = true ∧ ∀ i < slot, p (aplist.get i) = false := by
  obtain ⟨hn, hp, hfirst⟩ := List.findIdx?_eq_some_iff_getElem.mp h
  have hlt : n < wifiMaxAp := by rwa [Vector.length_toList] at hn
  refine ⟨⟨n, hlt⟩, rfl, ?_, fun i hi => ?_⟩
  · rw [Vector.getElem_toList] at hp
    exact hp
  · have hi := hfirst i.val hi
    rw [Vector.getElem_toList] at hi
    exact Bool.eq_false_iff.mpr hi

theorem findIdx?_eq_none {aplist : ApList} {p : AccessPoint → Bool}
    (h : aplist.toList.findIdx? p = none) (i : Fin wifiMaxAp) : p (aplist.get i) = false := by
  refine List.findIdx?_eq_none_iff.mp h (aplist.get i) ?_
  rw [Vector.mem_toList_iff]
  exact Vector.getElem_mem i.isLt

theorem chooseSlot_spec (aplist : ApList) (bssid : MacAddr) : ∃ slot : Fin wifiMaxAp,
    ∃ inAplist, chooseSlot aplist bssid = (slot.val, inAplist) ∧
      ChosenSlot aplist bssid slot inAplist := by
  unfold chooseSlot
  cases hfound : aplist.toList.findIdx? (·.bssid == bssid) with
  | some n =>
    obtain ⟨slot, rfl, hslot, hfirst⟩ := findIdx?_eq_some hfound
    exact ⟨slot, true, rfl, .found (beq_iff_eq.mp hslot) fun i hi => beq_eq_false_iff_ne.mp
      (hfirst i hi)⟩
  | none =>
    have hnew (i : Fin wifiMaxAp) := beq_eq_false_iff_ne.mp (findIdx?_eq_none hfound i)
    cases hunused : aplist.toList.findIdx? (!·.active) with
    | some n =>
      obtain ⟨slot, rfl, hslot, -⟩ := findIdx?_eq_some hunused
      exact ⟨slot, false, rfl, .unused hnew (by simpa using hslot)⟩
    | none =>
      obtain ⟨slot, hslot, holdest⟩ := oldestSlot_spec aplist
      refine ⟨slot, false, Prod.ext hslot rfl, .oldest hnew (fun i => ?_) holdest⟩
      simpa using findIdx?_eq_none hunused i

/-- A slot without the BSSID has not been found by it. -/
theorem ChosenSlot.inAplist_iff {aplist : ApList} {bssid : MacAddr} {slot : Fin wifiMaxAp}
    {inAplist : Bool} (h : ChosenSlot aplist bssid slot inAplist) :
    inAplist = true ↔ (aplist.get slot).bssid = bssid := by
  cases h with
  | found hslot _ => exact ⟨fun _ => hslot, fun _ => rfl⟩
  | unused hnew _ => exact ⟨fun h => (Bool.false_ne_true h).elim, fun h => (hnew slot h).elim⟩
  | oldest hnew _ _ => exact ⟨fun h => (Bool.false_ne_true h).elim, fun h => (hnew slot h).elim⟩

/-- No slot before the chosen one has the BSSID, and no slot at all if the chosen one has not. -/
theorem ChosenSlot.first {aplist : ApList} {bssid : MacAddr} {slot : Fin wifiMaxAp}
    {inAplist : Bool} (h : ChosenSlot aplist bssid slot inAplist) {i : Fin wifiMaxAp}
    (hi : (aplist.get i).bssid = bssid) : slot ≤ i ∧ (aplist.get slot).bssid = bssid := by
  cases h with
  | found hslot hfirst => exact ⟨Fin.not_lt.mp fun hlt => hfirst i hlt hi, hslot⟩
  | unused hnew _ => exact (hnew i hi).elim
  | oldest hnew _ _ => exact (hnew i hi).elim

/-! ## What the functions do to an entry -/

theorem accessPointClearAll_active (aplist : ApList) (i : Fin wifiMaxAp) :
    ((accessPointClearAll aplist).get i).active = false := by
  have hget : (accessPointClearAll aplist).get i = { aplist.get i with
      flags := 0
      bssid := #v[0, 0, 0, (aplist.get i).bssid.get 3, (aplist.get i).bssid.get 4,
        (aplist.get i).bssid.get 5] } := Vector.getElem_map _ i.isLt
  rw [hget]
  simp [AccessPoint.active]

theorem updateEntry_active (wfc : List WfcConfig) (info : BeaconInfo) (inAplist : Bool)
    (ap : AccessPoint) : (updateEntry wfc info inAplist ap).active = true := by
  unfold AccessPoint.active
  rw [decide_eq_true_eq]
  intro h
  have hbit := congrArg (·.testBit 15) h
  have hactive : Nat.testBit wflagApdataActive 15 = true := by decide
  simp [updateEntry, Nat.testBit_and, Nat.testBit_or, hactive] at hbit

@[simp] theorem updateEntry_timectr (wfc : List WfcConfig) (info : BeaconInfo) (inAplist : Bool)
    (ap : AccessPoint) : (updateEntry wfc info inAplist ap).timectr = 0 := rfl

theorem ChosenSlot.updateEntry_bssid {aplist : ApList} {info : BeaconInfo} {slot : Fin wifiMaxAp}
    {inAplist : Bool} (h : ChosenSlot aplist info.bssid slot inAplist) (wfc : List WfcConfig) :
    (updateEntry wfc info inAplist (aplist.get slot)).bssid = info.bssid := by
  unfold updateEntry
  cases inAplist with
  | true => exact h.inAplist_iff.mp rfl
  | false => rfl

theorem accessPointAdd_get (wfc : List WfcConfig) {aplist : ApList} {info : BeaconInfo}
    {slot : Fin wifiMaxAp} {inAplist : Bool}
    (h : chooseSlot aplist info.bssid = (slot.val, inAplist)) (i : Fin wifiMaxAp) :
    (accessPointAdd wfc aplist info true).get i =
      if i = slot then updateEntry wfc info inAplist (aplist.get i) else aplist.get i := by
  have hget : (accessPointAdd wfc aplist info true).get i =
      if i.val = slot.val then updateEntry wfc info inAplist (aplist.get i) else aplist.get i := by
    unfold accessPointAdd
    rw [h]
    exact Vector.getElem_mapIdx i.isLt
  simp only [hget, Fin.ext_iff]

/-- The longest time without updates. -/
def apTimeout (dsiMode : Bool) : Nat := if dsiMode then wifiApTimeout * 10 else wifiApTimeout

theorem accessPointTick_get (dsiMode : Bool) (aplist : ApList) (i : Fin wifiMaxAp) :
    (accessPointTick dsiMode aplist).get i =
      if (aplist.get i).active then
        { aplist.get i with
          timectr := u32 ((aplist.get i).timectr + 1)
          flags :=
            if apTimeout dsiMode < u32 ((aplist.get i).timectr + 1) then 0
            else (aplist.get i).flags }
      else aplist.get i := Vector.getElem_map _ i.isLt

/-- What a tick leaves active is one tick older. -/
theorem accessPointTick_active {dsiMode : Bool} {aplist : ApList} {i : Fin wifiMaxAp}
    (hle : (aplist.get i).timectr ≤ apTimeout dsiMode)
    (h : ((accessPointTick dsiMode aplist).get i).active = true) :
    (aplist.get i).active = true ∧
      ((accessPointTick dsiMode aplist).get i).timectr = (aplist.get i).timectr + 1 ∧
      (aplist.get i).timectr + 1 ≤ apTimeout dsiMode := by
  have hwrap : u32 ((aplist.get i).timectr + 1) = (aplist.get i).timectr + 1 := by
    have hbound : apTimeout dsiMode ≤ wifiApTimeout * 10 := by cases dsiMode <;> decide
    have : wifiApTimeout * 10 + 1 < 2 ^ 32 := by decide
    unfold u32
    omega
  rw [accessPointTick_get] at h ⊢
  by_cases hactive : (aplist.get i).active = true
  · rw [if_pos hactive, hwrap] at h ⊢
    refine ⟨hactive, rfl, not_lt.mp fun hlt => ?_⟩
    simp [AccessPoint.active, hlt] at h
  · rw [if_neg hactive] at h
    exact (hactive h).elim

theorem accessPointTick_bssid (dsiMode : Bool) (aplist : ApList) (i : Fin wifiMaxAp) :
    ((accessPointTick dsiMode aplist).get i).bssid = (aplist.get i).bssid := by
  rw [accessPointTick_get]
  split <;> rfl

/-! ## Histories -/

/-- What the ARM7 does with the list. -/
inductive ApListEvent
  /-- `Wifi_AccessPointAdd`, and whether the spinlock of the entry is free. -/
  | add (info : BeaconInfo) (acquired : Bool)
  | tick
  | clearAll

def apListStep (wfc : List WfcConfig) (dsiMode : Bool) (aplist : ApList) : ApListEvent → ApList
  | .add info acquired => accessPointAdd wfc aplist info acquired
  | .tick => accessPointTick dsiMode aplist
  | .clearAll => accessPointClearAll aplist

/-- The list after what has happened to the zeroed one. -/
def apListAfter (wfc : List WfcConfig) (dsiMode : Bool) (events : List ApListEvent) : ApList :=
  run (apListStep wfc dsiMode) (.replicate wifiMaxAp .zero) events

/-- How an event changes the number of ticks since the last update of an access point. -/
def countTicks (bssid : MacAddr) (ticks : Option Nat) : ApListEvent → Option Nat
  | .add info acquired => if acquired ∧ info.bssid = bssid then some 0 else ticks
  | .tick => ticks.map (· + 1)
  | .clearAll => ticks

/-- The number of ticks since the last update of an access point, if there has been one. -/
def ticksSinceAdd (bssid : MacAddr) (events : List ApListEvent) : Option Nat :=
  events.foldl (countTicks bssid) none

theorem ticksSinceAdd_concat (bssid : MacAddr) (events : List ApListEvent) (event : ApListEvent) :
    ticksSinceAdd bssid (events ++ [event]) = countTicks bssid (ticksSinceAdd bssid events) event :=
  List.foldl_append

/-- Whether some active entry has the BSSID. -/
def InApList (aplist : ApList) (bssid : MacAddr) : Prop :=
  ∃ i, (aplist.get i).active = true ∧ (aplist.get i).bssid = bssid

/-- What holds of the list after some events. -/
structure ApListInv (dsiMode : Bool) (events : List ApListEvent) (aplist : ApList) : Prop where
  /-- An active entry is the first one with its BSSID, of the inactive ones too. -/
  first : ∀ i j, (aplist.get j).active = true → (aplist.get i).bssid = (aplist.get j).bssid → j ≤ i
  age : ∀ i, (aplist.get i).active = true →
    ticksSinceAdd (aplist.get i).bssid events = some (aplist.get i).timectr
  timeout : ∀ i, (aplist.get i).active = true → (aplist.get i).timectr ≤ apTimeout dsiMode

theorem apListZero_active (i : Fin wifiMaxAp) :
    ((.replicate wifiMaxAp .zero : ApList).get i).active = false := by
  have hget : (.replicate wifiMaxAp .zero : ApList).get i = .zero := Vector.getElem_replicate _
  rw [hget]
  decide

/-- Nothing is to be shown of a list without active entries. -/
theorem ApListInv.of_inactive {dsiMode : Bool} {events : List ApListEvent} {aplist : ApList}
    (h : ∀ i, (aplist.get i).active = false) : ApListInv dsiMode events aplist where
  first _ j hj _ := (Bool.eq_false_iff.mp (h j) hj).elim
  age i hi := (Bool.eq_false_iff.mp (h i) hi).elim
  timeout i hi := (Bool.eq_false_iff.mp (h i) hi).elim

theorem apListInv_nil (dsiMode : Bool) :
    ApListInv dsiMode [] (.replicate wifiMaxAp .zero) := .of_inactive apListZero_active

namespace ApListInv

variable {wfc : List WfcConfig} {dsiMode : Bool} {events : List ApListEvent} {aplist : ApList}

theorem failed (h : ApListInv dsiMode events aplist) (info : BeaconInfo) :
    ApListInv dsiMode (events ++ [.add info false]) aplist where
  first := h.first
  age i hi := by
    rw [ticksSinceAdd_concat, h.age i hi]
    simp [countTicks]
  timeout := h.timeout

theorem clearAll (aplist : ApList) :
    ApListInv dsiMode (events ++ [.clearAll]) (accessPointClearAll aplist) :=
  .of_inactive (accessPointClearAll_active aplist)

/-- An entry that a tick leaves active has been active before. -/
theorem active_of_tick {i : Fin wifiMaxAp}
    (hi : ((accessPointTick dsiMode aplist).get i).active = true) :
    (aplist.get i).active = true := by
  by_contra hinactive
  rw [accessPointTick_get, if_neg hinactive] at hi
  exact hinactive hi

theorem tick (h : ApListInv dsiMode events aplist) :
    ApListInv dsiMode (events ++ [.tick]) (accessPointTick dsiMode aplist) where
  first i j hj hij := by
    rw [accessPointTick_bssid, accessPointTick_bssid] at hij
    exact h.first i j (active_of_tick hj) hij
  age i hi := by
    have hactive := active_of_tick hi
    have htick := accessPointTick_active (h.timeout i hactive) hi
    rw [accessPointTick_bssid, ticksSinceAdd_concat, h.age i hactive, htick.2.1]
    rfl
  timeout i hi := by
    have htick := accessPointTick_active (h.timeout i (active_of_tick hi)) hi
    rw [htick.2.1]
    exact htick.2.2

/-- The active entries in the other slots have other BSSIDs. -/
theorem bssid_ne_of_chosen (h : ApListInv dsiMode events aplist) {bssid : MacAddr}
    {slot : Fin wifiMaxAp} {inAplist : Bool} (hslot : ChosenSlot aplist bssid slot inAplist)
    {i : Fin wifiMaxAp} (hne : i ≠ slot) (hactive : (aplist.get i).active = true) :
    (aplist.get i).bssid ≠ bssid := by
  intro heq
  obtain ⟨hle, hslotBssid⟩ := hslot.first heq
  exact hne (Fin.le_antisymm (h.first slot i hactive (hslotBssid.trans heq.symm)) hle)

theorem add (h : ApListInv dsiMode events aplist) (info : BeaconInfo) :
    ApListInv dsiMode (events ++ [.add info true]) (accessPointAdd wfc aplist info true) := by
  obtain ⟨slot, inAplist, hchoose, hslot⟩ := chooseSlot_spec aplist info.bssid
  have hget := accessPointAdd_get wfc hchoose
  have hbssid := hslot.updateEntry_bssid wfc
  have hself : (accessPointAdd wfc aplist info true).get slot =
      updateEntry wfc info inAplist (aplist.get slot) := by rw [hget, if_pos rfl]
  have hother {i : Fin wifiMaxAp} (hne : i ≠ slot) := h.bssid_ne_of_chosen hslot hne
  refine ⟨fun i j hj hij => ?_, fun i hi => ?_, fun i hi => ?_⟩
  · -- Only the chosen entry changes, and no other one has its BSSID.
    by_cases hjs : j = slot
    · subst hjs
      by_cases his : i = j
      · exact Fin.le_of_eq his.symm
      · rw [hself, hbssid, hget, if_neg his] at hij
        exact (hslot.first hij).1
    · rw [hget j, if_neg hjs] at hj hij
      by_cases his : i = slot
      · subst his
        rw [hself, hbssid] at hij
        exact (hother hjs hj hij.symm).elim
      · rw [hget, if_neg his] at hij
        exact h.first i j hj hij
  · rw [ticksSinceAdd_concat]
    -- The age of the chosen entry starts anew, and for the others the update is no tick.
    by_cases his : i = slot
    · subst his
      rw [hself, hbssid]
      simp [countTicks]
    · rw [hget, if_neg his] at hi ⊢
      rw [h.age i hi]
      simp [countTicks, (hother his hi).symm]
  · by_cases his : i = slot
    · subst his
      rw [hself, updateEntry_timectr]
      exact Nat.zero_le _
    · rw [hget, if_neg his] at hi ⊢
      exact h.timeout i hi

theorem step (h : ApListInv dsiMode events aplist) (event : ApListEvent) :
    ApListInv dsiMode (events ++ [event]) (apListStep wfc dsiMode aplist event) := by
  cases event with
  | add info acquired =>
    cases acquired with
    | true => exact h.add info
    | false => exact h.failed info
  | tick => exact h.tick
  | clearAll => exact clearAll aplist

end ApListInv

theorem apListInv_after (wfc : List WfcConfig) (dsiMode : Bool) (events : List ApListEvent) :
    ApListInv dsiMode events (apListAfter wfc dsiMode events) :=
  history_inv (ApListInv dsiMode) (fun _ _ event ih => ih.step event) (apListInv_nil dsiMode) events

/-- After any sequence of events, no two active entries have the same BSSID, and the age of an
active entry is the number of ticks since the last update for its BSSID and at most the timeout.
Another update changes one entry, which is then active with the BSSID. If the BSSID has not been
active, the update takes an active entry only if all of them are, and then one of maximal age. -/
theorem apList_boundedMap (wfc : List WfcConfig) (dsiMode : Bool) (events : List ApListEvent) :
    let aplist := apListAfter wfc dsiMode events
    (∀ i j, (aplist.get i).active = true → (aplist.get j).active = true →
      (aplist.get i).bssid = (aplist.get j).bssid → i = j) ∧
    (∀ i, (aplist.get i).active = true →
      ticksSinceAdd (aplist.get i).bssid events = some (aplist.get i).timectr ∧
      (aplist.get i).timectr ≤ apTimeout dsiMode) ∧
    ∀ info,
      accessPointAdd wfc aplist info false = aplist ∧
      ∃ slot,
        (∀ i, i ≠ slot → (accessPointAdd wfc aplist info true).get i = aplist.get i) ∧
        ((accessPointAdd wfc aplist info true).get slot).active = true ∧
        ((accessPointAdd wfc aplist info true).get slot).bssid = info.bssid ∧
        ((accessPointAdd wfc aplist info true).get slot).timectr = 0 ∧
        (¬ InApList aplist info.bssid → (aplist.get slot).active = true →
          (∀ i, (aplist.get i).active = true) ∧
          ∀ i, (aplist.get i).timectr ≤ (aplist.get slot).timectr) := by
  intro aplist
  have hinv : ApListInv dsiMode events aplist := apListInv_after wfc dsiMode events
  refine ⟨fun i j hi hj hij => ?_, fun i hi => ⟨hinv.age i hi, hinv.timeout i hi⟩,
    fun info => ⟨rfl, ?_⟩⟩
  · exact Fin.le_antisymm (hinv.first j i hi hij.symm) (hinv.first i j hj hij)
  · obtain ⟨slot, inAplist, hchoose, hslot⟩ := chooseSlot_spec aplist info.bssid
    have hself := accessPointAdd_get wfc hchoose slot
    rw [if_pos rfl] at hself
    refine ⟨slot, fun i hi => ?_, ?_, ?_, ?_, fun hnew hactive => ?_⟩
    · rw [accessPointAdd_get wfc hchoose, if_neg hi]
    · rw [hself, updateEntry_active]
    · rw [hself, hslot.updateEntry_bssid]
    · rw [hself, updateEntry_timectr]
    · cases hslot with
      | found hslot _ => exact (hnew ⟨slot, hactive, hslot⟩).elim
      | unused _ hslot =>
        rw [hslot] at hactive
        cases hactive
      | oldest _ hfull holdest => exact ⟨hfull, holdest⟩

/-! ## Whose SSID an entry shows -/

/-- The list, and the beacons that have been stored in it. -/
structure ApHistory where
  aplist : ApList
  stored : List BeaconInfo

def ApHistory.init : ApHistory where
  aplist := .replicate wifiMaxAp .zero
  stored := []

/-- An SSID that a beacon with the BSSID has had, or the empty one if no such beacon has had one. -/
def OwnSsid (stored : List BeaconInfo) (bssid : MacAddr) (ssid : List UInt8) : Prop :=
  (∃ info ∈ stored, info.bssid = bssid ∧ info.ssid.map (·.take 32) = some ssid) ∨
    ssid = [] ∧ ∀ info ∈ stored, info.bssid = bssid → info.ssid = none

instance (stored : List BeaconInfo) (bssid : MacAddr) (ssid : List UInt8) :
    Decidable (OwnSsid stored bssid ssid) := inferInstanceAs (Decidable (_ ∨ _))

namespace ApHistory

/-- A beacon that doesn't get the spinlock isn't stored. -/
def step (wfc : List WfcConfig) (dsiMode : Bool) (s : ApHistory) (event : ApListEvent) :
    ApHistory where
  aplist := apListStep wfc dsiMode s.aplist event
  stored :=
    match event with
    | .add info true => info :: s.stored
    | _ => s.stored

/-- Each active entry shows an SSID of its own. -/
def ShowsOwnSsids (s : ApHistory) : Prop :=
  ∀ i, (s.aplist.get i).active = true →
    OwnSsid s.stored (s.aplist.get i).bssid (s.aplist.get i).ssid

/-- The SSID in the slot that `Wifi_AccessPointAdd` chooses. -/
def slotSsid (aplist : ApList) (bssid : MacAddr) : List UInt8 :=
  (aplist.toList[(chooseSlot aplist bssid).1]?.map AccessPoint.ssid).getD []

/-- A beacon without an SSID that isn't for an active entry finds an SSID of its own in the slot. -/
def TakesOwnSsid (s : ApHistory) : ApListEvent → Prop
  | .add info true =>
    info.ssid = none → ¬ InApList s.aplist info.bssid →
      OwnSsid s.stored info.bssid (slotSsid s.aplist info.bssid)
  | _ => True

theorem slotSsid_eq {aplist : ApList} {bssid : MacAddr} {slot : Fin wifiMaxAp} {inAplist : Bool}
    (h : chooseSlot aplist bssid = (slot.val, inAplist)) :
    slotSsid aplist bssid = (aplist.get slot).ssid := by
  have hlt : slot.val < aplist.toList.length := by
    rw [Vector.length_toList]
    exact slot.isLt
  unfold slotSsid
  rw [h, List.getElem?_eq_getElem hlt, Vector.getElem_toList]
  rfl

/-! ### What later beacons change -/

/-- A beacon with another BSSID changes nothing. -/
theorem ownSsid_cons_of_ne {stored : List BeaconInfo} {bssid : MacAddr} {ssid : List UInt8}
    {info : BeaconInfo} (hne : info.bssid ≠ bssid) :
    OwnSsid (info :: stored) bssid ssid ↔ OwnSsid stored bssid ssid := by
  simp [OwnSsid, hne]

/-- Neither does one without an SSID. -/
theorem ownSsid_cons_of_none {stored : List BeaconInfo} {bssid : MacAddr} {ssid : List UInt8}
    {info : BeaconInfo} (hnone : info.ssid = none) :
    OwnSsid (info :: stored) bssid ssid ↔ OwnSsid stored bssid ssid := by
  simp [OwnSsid, hnone]

/-- The SSID that has just been stored is an own one. -/
theorem ownSsid_cons_self {stored : List BeaconInfo} {info : BeaconInfo} {ssid : List UInt8}
    (hssid : info.ssid = some ssid) : OwnSsid (info :: stored) info.bssid (ssid.take 32) :=
  .inl ⟨info, List.mem_cons_self, rfl, by rw [hssid]; rfl⟩

theorem updateEntry_ssid_none {wfc : List WfcConfig} {info : BeaconInfo} (hnone : info.ssid = none)
    (inAplist : Bool) (ap : AccessPoint) : (updateEntry wfc info inAplist ap).ssid = ap.ssid := by
  simp [updateEntry, hnone]

theorem updateEntry_ssid_some {wfc : List WfcConfig} {info : BeaconInfo} {ssid : List UInt8}
    (hssid : info.ssid = some ssid) (inAplist : Bool) (ap : AccessPoint) :
    (updateEntry wfc info inAplist ap).ssid = ssid.take 32 := by
  simp [updateEntry, hssid]

variable {wfc : List WfcConfig} {dsiMode : Bool} {s : ApHistory}

/-- The events that store nothing leave what is active as it is. -/
theorem ShowsOwnSsids.of_frame {s' : ApHistory} (h : s.ShowsOwnSsids)
    (hstored : s'.stored = s.stored)
    (hframe : ∀ i, (s'.aplist.get i).active = true → (s.aplist.get i).active = true ∧
      (s'.aplist.get i).bssid = (s.aplist.get i).bssid ∧
      (s'.aplist.get i).ssid = (s.aplist.get i).ssid) : s'.ShowsOwnSsids := by
  intro i hi
  obtain ⟨hactive, hbssid, hssid⟩ := hframe i hi
  rw [hstored, hbssid, hssid]
  exact h i hactive

theorem ShowsOwnSsids.tick (h : s.ShowsOwnSsids) : (s.step wfc dsiMode .tick).ShowsOwnSsids := by
  refine h.of_frame rfl fun i hi => ⟨ApListInv.active_of_tick hi, ?_, ?_⟩
  · exact accessPointTick_bssid dsiMode s.aplist i
  · show ((accessPointTick dsiMode s.aplist).get i).ssid = _
    rw [accessPointTick_get]
    split <;> rfl

theorem ShowsOwnSsids.clearAll (s : ApHistory) :
    (s.step wfc dsiMode .clearAll).ShowsOwnSsids := by
  intro i hi
  rw [show (s.step wfc dsiMode .clearAll).aplist = accessPointClearAll s.aplist from rfl,
    accessPointClearAll_active] at hi
  cases hi

/-- After an update, what counts is the entry of the access point. -/
theorem showsOwnSsids_add_iff {events : List ApListEvent} (h : s.ShowsOwnSsids)
    (hinv : ApListInv dsiMode events s.aplist) {info : BeaconInfo} {slot : Fin wifiMaxAp}
    {inAplist : Bool} (hchoose : chooseSlot s.aplist info.bssid = (slot.val, inAplist))
    (hslot : ChosenSlot s.aplist info.bssid slot inAplist) :
    (s.step wfc dsiMode (.add info true)).ShowsOwnSsids ↔
      OwnSsid (info :: s.stored) info.bssid
        (updateEntry wfc info inAplist (s.aplist.get slot)).ssid := by
  have hget (i : Fin wifiMaxAp) : (s.step wfc dsiMode (.add info true)).aplist.get i =
      if i = slot then updateEntry wfc info inAplist (s.aplist.get i) else s.aplist.get i :=
    accessPointAdd_get wfc hchoose i
  have hstored : (s.step wfc dsiMode (.add info true)).stored = info :: s.stored := rfl
  constructor
  · intro hown
    have hown := hown slot
    rw [hget, if_pos rfl, hslot.updateEntry_bssid, hstored] at hown
    exact hown (updateEntry_active ..)
  · intro hown i hi
    rw [hstored]
    by_cases his : i = slot
    · subst his
      rw [hget, if_pos rfl, hslot.updateEntry_bssid]
      exact hown
    · rw [hget, if_neg his] at hi ⊢
      refine (ownSsid_cons_of_ne (Ne.symm ?_)).mpr (h i hi)
      exact hinv.bssid_ne_of_chosen hslot his hi

/-- The entry of an access point is the one that it gets, if it is active. -/
theorem slot_active_of_inApList {events : List ApListEvent} {bssid : MacAddr}
    (hinv : ApListInv dsiMode events s.aplist) {slot : Fin wifiMaxAp} {inAplist : Bool}
    (hslot : ChosenSlot s.aplist bssid slot inAplist) (h : InApList s.aplist bssid) :
    (s.aplist.get slot).active = true ∧ (s.aplist.get slot).bssid = bssid := by
  obtain ⟨i, hactive, hbssid⟩ := h
  by_cases his : i = slot
  · subst his
    exact ⟨hactive, hbssid⟩
  · exact (hinv.bssid_ne_of_chosen hslot his hactive hbssid).elim

/-- From a state of the invariant, exactly the beacons that find an SSID of their own keep it. -/
theorem showsOwnSsids_step_iff {events : List ApListEvent} (h : s.ShowsOwnSsids)
    (hinv : ApListInv dsiMode events s.aplist) (event : ApListEvent) :
    (s.step wfc dsiMode event).ShowsOwnSsids ↔ s.TakesOwnSsid event := by
  cases event with
  | tick => exact iff_of_true h.tick trivial
  | clearAll => exact iff_of_true (ShowsOwnSsids.clearAll s) trivial
  | add info acquired =>
    cases acquired with
    | false => exact iff_of_true (h.of_frame rfl fun i hi => ⟨hi, rfl, rfl⟩) trivial
    | true =>
      obtain ⟨slot, inAplist, hchoose, hslot⟩ := chooseSlot_spec s.aplist info.bssid
      rw [showsOwnSsids_add_iff h hinv hchoose hslot,
        show s.TakesOwnSsid (.add info true) ↔ (info.ssid = none → ¬ InApList s.aplist info.bssid →
          OwnSsid s.stored info.bssid (slotSsid s.aplist info.bssid)) from Iff.rfl,
        slotSsid_eq hchoose]
      cases hssid : info.ssid with
      | some ssid =>
        rw [updateEntry_ssid_some hssid]
        exact iff_of_true (ownSsid_cons_self hssid) fun hnone =>
          (Option.some_ne_none ssid hnone).elim
      | none =>
        rw [updateEntry_ssid_none hssid, ownSsid_cons_of_none hssid]
        refine ⟨fun hown _ _ => hown, fun hown => ?_⟩
        by_cases hin : InApList s.aplist info.bssid
        · obtain ⟨hactive, hbssid⟩ := slot_active_of_inApList hinv hslot hin
          have hold := h slot hactive
          rwa [hbssid] at hold
        · exact hown rfl hin

end ApHistory

/-- **The active entries show SSIDs of their own all along exactly if each beacon without an SSID
that takes a slot finds an SSID of its own there.** -/
theorem apList_ownSsids_iff (wfc : List WfcConfig) (dsiMode : Bool) (events : List ApListEvent) :
    Along (ApHistory.step wfc dsiMode)
        (fun s event => (s.step wfc dsiMode event).ShowsOwnSsids) .init events ↔
      Along (ApHistory.step wfc dsiMode) ApHistory.TakesOwnSsid .init events := by
  refine along_iff
    (fun s => s.ShowsOwnSsids ∧ ∃ events, ApListInv dsiMode events s.aplist) ?_ ?_ events ?_
  · rintro s event ⟨h, past, hinv⟩ htakes
    exact ⟨(ApHistory.showsOwnSsids_step_iff h hinv event).mpr htakes, _, hinv.step event⟩
  · rintro s event ⟨h, past, hinv⟩
    exact ApHistory.showsOwnSsids_step_iff h hinv event
  · refine ⟨fun i hi => ?_, [], apListInv_nil dsiMode⟩
    have hzero := apListZero_active i
    rw [show ApHistory.init.aplist = .replicate wifiMaxAp .zero from rfl, hzero] at hi
    cases hi

/-- After a new search, a beacon without an SSID shows the one of another access point. -/
theorem apList_foreignSsid :
    let named : BeaconInfo := ⟨#v[0, 9, 191, 1, 2, 3], some [65, 66], 1, .open, true, false⟩
    let nameless : BeaconInfo := ⟨#v[0, 9, 191, 7, 8, 9], none, 1, .open, true, true⟩
    ¬ (run (ApHistory.step [] false) .init
      [.add named true, .clearAll, .add nameless true]).ShowsOwnSsids := by
  intro named nameless h
  exact absurd (h ⟨0, by decide⟩ (by decide +kernel)) (by decide +kernel)

end Wifi
