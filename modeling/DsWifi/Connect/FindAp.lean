import DsWifi.Connect.Calls
import DsWifi.Infra.Search

/-!
# Finding an access point

`Wifi_FindMatchingAP` (`source/arm9/access_point.c`) takes a list of descriptions and says that it
returns the first one that can be found. It goes through the access points first, so it returns the
first description of the first access point that has one.

* `findMatchingAp_eq` — the search as one through two lists
* `find_matching_ap_iff` — when the description that it returns is the first one
-/

namespace Wifi

open Infra

/-- The active entries. -/
def activeAps (aplist : ApList) : List AccessPoint := aplist.toList.filter (·.active)

/-- The entry has the BSSID of the description or, if there is none, its name. -/
def AccessPoint.Matches (apdata ap : AccessPoint) : Prop :=
  apdata.bssid ≠ macAddrZero ∧ apdata.bssid = ap.bssid ∨
    apdata.bssid = macAddrZero ∧ 0 < apdata.ssid.length ∧ apdata.ssid.length ≤ 32 ∧
      apdata.ssid = ap.ssid

theorem AccessPoint.describes_iff (apdata ap : AccessPoint) :
    apdata.describes ap = true ↔ apdata.Matches ap := by
  unfold describes Matches
  by_cases hbssid : apdata.bssid = macAddrZero
  · simp only [hbssid, ne_eq, not_true_eq_false, if_false, false_and, true_and, false_or,
      Bool.and_eq_true, bne_iff_ne, decide_eq_true_eq, beq_iff_eq]
    constructor
    · rintro ⟨⟨⟨hne, hle⟩, -⟩, hssid⟩
      exact ⟨Nat.pos_of_ne_zero hne, hle, hssid⟩
    · rintro ⟨hpos, hle, hssid⟩
      exact ⟨⟨⟨Nat.ne_of_gt hpos, hle⟩, congrArg List.length hssid⟩, hssid⟩
  · simp [hbssid]

/-- The description matches an active entry. -/
def AccessPoint.Present (aplist : ApList) (apdata : AccessPoint) : Prop :=
  ∃ ap ∈ activeAps aplist, apdata.Matches ap

/-- `Wifi_FindMatchingAP` finds the first description that matches an active entry. -/
structure FindsFirst (aplist : ApList) (apdata : List AccessPoint) : Prop where
  none_iff : findMatchingAp aplist apdata = none ↔ ∀ d ∈ apdata, ¬ d.Present aplist
  first (j : Nat) (ap : AccessPoint) (h : findMatchingAp aplist apdata = some (j, ap)) :
    (∃ d, apdata[j]? = some d ∧ d.Present aplist) ∧
      ∀ i < j, ∀ d, apdata[i]? = some d → ¬ d.Present aplist
  matched (j : Nat) (ap : AccessPoint) (h : findMatchingAp aplist apdata = some (j, ap)) :
    ap ∈ activeAps aplist ∧ ∃ d, apdata[j]? = some d ∧ d.Matches ap

/-- The two loops. -/
theorem findMatchingAp_eq (aplist : ApList) (apdata : List AccessPoint) :
    findMatchingAp aplist apdata =
      searchOffers AccessPoint.describes apdata (activeAps aplist) := by
  unfold findMatchingAp getNumAp getApData
  rw [List.countP_eq_length_filter]
  exact findSome?_range (activeAps aplist) .zero fun ap =>
    (apdata.findIdx? (·.describes ap)).map fun j => (j, ap)

section

variable {aplist : ApList} {apdata : List AccessPoint}

theorem isMet_iff (d : AccessPoint) :
    isMet AccessPoint.describes (activeAps aplist) d = true ↔ d.Present aplist := by
  unfold isMet AccessPoint.Present
  simp only [List.any_eq_true, AccessPoint.describes_iff]

/-- The first description that matches an active entry, by its index. -/
theorem findIdx?_isMet_iff (j : Nat) :
    apdata.findIdx? (isMet AccessPoint.describes (activeAps aplist)) = some j ↔
      (∃ d, apdata[j]? = some d ∧ d.Present aplist) ∧
        ∀ i < j, ∀ d, apdata[i]? = some d → ¬ d.Present aplist := by
  rw [List.findIdx?_eq_some_iff_getElem]
  simp only [isMet_iff]
  constructor
  · rintro ⟨hlt, hpresent, hbefore⟩
    refine ⟨⟨_, List.getElem?_eq_getElem hlt, hpresent⟩, fun i hi d hd => ?_⟩
    obtain ⟨hi', rfl⟩ := List.getElem?_eq_some_iff.mp hd
    exact hbefore i hi
  · rintro ⟨⟨d, hd, hpresent⟩, hbefore⟩
    obtain ⟨hlt, rfl⟩ := List.getElem?_eq_some_iff.mp hd
    refine ⟨hlt, hpresent, fun i hi => hbefore i hi _ (List.getElem?_eq_getElem _)⟩

end

/-- **The description that is returned is the first one that can be found exactly if** the first
active entry with a description has the first description with an active entry. -/
theorem find_matching_ap_iff (aplist : ApList) (apdata : List AccessPoint) :
    FindsFirst aplist apdata ↔
      ∀ ap d, (activeAps aplist).find? (isUseful AccessPoint.describes apdata) = some ap →
        apdata.find? (isMet AccessPoint.describes (activeAps aplist)) = some d →
          d.Matches ap := by
  have hmatches (ap d : AccessPoint) : d.describes ap = true ↔ d.Matches ap :=
    d.describes_iff ap
  constructor
  · intro h ap d hap hd
    cases hfind : searchOffers AccessPoint.describes apdata (activeAps aplist) with
    | none =>
      have hnone := h.none_iff.mp ((findMatchingAp_eq aplist apdata).trans hfind)
      exact absurd ((isMet_iff d).mp (List.find?_some hd)) (hnone d (List.mem_of_find?_eq_some hd))
    | some result =>
      obtain ⟨j, ap'⟩ := result
      have hfirst := h.first j ap' ((findMatchingAp_eq aplist apdata).trans hfind)
      obtain ⟨-, -, hap'⟩ := searchOffers_eq_some hfind
      obtain rfl : ap = ap' := Option.some.inj (hap.symm.trans hap')
      rw [← findIdx?_isMet_iff, searchOffers_first_iff hfind] at hfirst
      exact (hmatches ap d).mp (hfirst d hd)
  · intro h
    refine ⟨?_, fun j ap hfind => ?_, fun j ap hfind => ?_⟩
    · rw [findMatchingAp_eq, searchOffers_eq_none_iff]
      simp only [AccessPoint.Present, not_exists, not_and, ← hmatches, Bool.not_eq_true]
    · rw [findMatchingAp_eq] at hfind
      rw [← findIdx?_isMet_iff, searchOffers_first_iff hfind]
      intro d hd
      exact (hmatches ap d).mpr (h ap d (searchOffers_eq_some hfind).2.2 hd)
    · rw [findMatchingAp_eq] at hfind
      obtain ⟨hmem, hidx, -⟩ := searchOffers_eq_some hfind
      obtain ⟨hlt, hdescribes, -⟩ := List.findIdx?_eq_some_iff_getElem.mp hidx
      exact ⟨hmem, _, List.getElem?_eq_getElem hlt, (hmatches ap _).mp hdescribes⟩

/-- Two access points have been heard, the second one first. -/
def twoAps : ApList :=
  ((Vector.replicate wifiMaxAp AccessPoint.zero).set 0
    { exampleAp 2 with flags := wflagApdataActive }).set 1
    { exampleAp 1 with flags := wflagApdataActive }

/-- Both are there, and the second description is returned. -/
theorem twoAps_second : ¬ ∀ (aplist : ApList) (apdata : List AccessPoint),
    FindsFirst aplist apdata := by
  intro h
  have hfind : (findMatchingAp twoAps [exampleAp 1, exampleAp 2]).map Prod.fst = some 1 := by
    decide +kernel
  obtain ⟨⟨j, ap⟩, hsome, hj⟩ := Option.map_eq_some_iff.mp hfind
  obtain rfl : j = 1 := hj
  refine ((h twoAps [exampleAp 1, exampleAp 2]).first 1 ap hsome).2 0 (by decide) (exampleAp 1) rfl
    ⟨{ exampleAp 1 with flags := wflagApdataActive }, ?_, .inl ⟨by decide, rfl⟩⟩
  exact List.mem_of_getElem? (show (activeAps twoAps)[1]? = _ from rfl)

end Wifi
