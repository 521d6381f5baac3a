import DsWifi.Host.Payload
import DsWifi.Rx.OwnBytes

/-!
# The rates of an association request

`Wifi_MPHost_ProcessAssocRequest` starts to look for elements twelve bytes behind the first one, as
if a TX header were in front of the frame, and takes the first rate of an element for the number of
the rates behind it.

* `AssocRequest.elementsOk_eq_false_iff` — the loop as a search through the places it comes to
* `AssocRequest.WellFormed.hasPiece_iff` — the places are those of the elements if the first ones
  fill twelve bytes
* `bad_rates_iff` — when a request is turned down for its rates exactly if they are unsupported
-/

namespace Wifi

open Infra Infra.Mem

/-- A rates element without a rate that a host supports. -/
def LacksRates (e : Element) : Prop :=
  e.id.toNat = mgtFieIdSupportedRates ∧ ∀ rate ∈ e.body, isSupportedRate rate = false

namespace AssocRequest

/-- The frame is made of a header, the fixed fields and the elements. -/
structure WellFormed (req : AssocRequest) (es : List Element) : Prop where
  byteLength_eq : req.byteLength = hdrMgtMacSize + 4 + (elementsBytes es).length
  elements : loadBytes req.frame (hdrMgtMacSize + 4) (elementsBytes es).length = elementsBytes es

/-- The bytes at `k` look like a rates element, and none of the rates behind the first one is
supported, as many as the first one says. -/
def LacksRatesAt (req : AssocRequest) (k : Nat) : Prop :=
  (req.data k).toNat = mgtFieIdSupportedRates ∧
    ∀ j < (req.data (k + 2)).toNat, isSupportedRate (req.data (k + 3 + j)) = false

/-- Cut into elements, the bytes from the thirteenth one of the elements on have one at `k`. -/
def HasPiece (req : AssocRequest) (k : Nat) : Prop :=
  Visits req.data req.datalen (hdrMgtMacSize + 4 + sizeofTxHeader) k

variable {req : AssocRequest} {es : List Element}

/-! ## The loop -/

theorem ratesOk_eq_false_iff (k : Nat) : req.ratesOk (k + 2) = false ↔
    ∀ j < (req.data (k + 2)).toNat, isSupportedRate (req.data (k + 3 + j)) = false := by
  unfold ratesOk
  rw [List.any_eq_false]
  simp only [List.mem_range, Bool.not_eq_true]
  exact Iff.rfl

/-- The loop searches the places that the walk comes to. -/
theorem elementsOk_eq_false_iff (i : Nat) : req.elementsOk i = false ↔
    ∃ k, Visits req.data req.datalen i k ∧ req.LacksRatesAt k := by
  fun_induction elementsOk req i with
  | case1 i hlt type h =>
    obtain ⟨htype, hrates⟩ := h
    exact iff_of_true rfl ⟨i, .here hlt, htype, (ratesOk_eq_false_iff i).mp hrates⟩
  | case2 i hlt type seglen h ih =>
    have hhere : ¬ req.LacksRatesAt i := fun ⟨htype, hrates⟩ =>
      h ⟨htype, (ratesOk_eq_false_iff i).mpr hrates⟩
    rw [ih]
    constructor
    · rintro ⟨k, hvisits, hlacks⟩
      exact ⟨k, .next hlt hvisits, hlacks⟩
    · rintro ⟨k, hvisits, hlacks⟩
      rcases (visits_iff_of_lt hlt).mp hvisits with rfl | hvisits
      · exact absurd hlacks hhere
      · exact ⟨k, hvisits, hlacks⟩
  | case3 i hlt =>
    refine iff_of_false nofun ?_
    rintro ⟨k, hvisits, -⟩
    exact not_visits_of_le (Nat.le_of_not_lt hlt) hvisits

theorem refusal_eq_badRates_iff : req.refusal = some statusAssocBadRates ↔
    req.capsOk = true ∧ ∃ k, req.HasPiece k ∧ req.LacksRatesAt k := by
  have hloop : req.elementsOk (sizeofTxHeader + hdrMgtMacSize + 4) = false ↔ _ :=
    elementsOk_eq_false_iff _
  unfold refusal
  cases req.capsOk with
  | false => simp [statusUnsupportedCapabilities, statusAssocBadRates]
  | true =>
    cases hok : req.elementsOk (sizeofTxHeader + hdrMgtMacSize + 4) with
    | false => exact iff_of_true rfl ⟨rfl, hloop.mp hok⟩
    | true =>
      refine iff_of_false nofun ?_
      rintro ⟨-, hpiece⟩
      rw [hloop.mpr hpiece] at hok
      cases hok

end AssocRequest

namespace Host

variable {s : Host} {ended ended' : Option Bool} {req : AssocRequest}

/-- A response with the status is issued. -/
def Answers (s : Host) (ended ended' : Option Bool) (req : AssocRequest) (statusCode : Nat) :
    Prop :=
  ∃ r ∈ (s.processAssocRequest ended ended' req).2, r.statusCode = statusCode

/-- A response is the only new one. -/
theorem exists_sendAssocResponsePacket_iff {issued : List AssocResponse} {statusCode : Nat}
    (hissued : ∀ r ∈ issued, r.statusCode ≠ statusCode) (response : AssocResponse) :
    (∃ r ∈ (s.sendAssocResponsePacket issued ended response).2, r.statusCode = statusCode) ↔
      response.statusCode = statusCode := by
  constructor
  · rintro ⟨r, hr, hstatus⟩
    rcases List.mem_append.mp hr with hr | hr
    · exact absurd hstatus (hissued r hr)
    · rw [List.mem_singleton.mp hr] at hstatus
      exact hstatus
  · intro hstatus
    exact ⟨_, List.mem_append_right _ (List.mem_singleton_self _), hstatus⟩

/-- A request for another host is not answered. -/
theorem not_answers_of_not_sentTo (hto : ¬ req.SentTo s.macAddr) (statusCode : Nat) :
    ¬ s.Answers ended ended' req statusCode := by
  unfold Answers processAssocRequest
  rw [if_pos hto]
  rintro ⟨r, hr, -⟩
  cases hr

/-- A request to the host is turned down for its rates if they are what is wrong with it. -/
theorem answers_badRates_iff_refusal (hto : req.SentTo s.macAddr) :
    s.Answers ended ended' req statusAssocBadRates ↔
      req.refusal = some statusAssocBadRates := by
  have hdenied : statusAssocDenied ≠ statusAssocBadRates := by decide
  have hsuccess : statusSuccess ≠ statusAssocBadRates := by decide
  unfold Answers processAssocRequest
  rw [if_neg (not_not_intro hto)]
  generalize hfirst : (if s.clientGetByMacAddr req.clientMac = none then _ else _ :
    Host × List AssocResponse) = first
  -- A sender without a slot has been answered, but not for its rates.
  have hissued : ∀ r ∈ first.2, r.statusCode ≠ statusAssocBadRates := by
    intro r hr
    split at hfirst
    · rw [← hfirst] at hr
      rw [List.mem_singleton.mp hr]
      exact hdenied
    · rw [← hfirst] at hr
      cases hr
  cases hrefusal : req.refusal with
  | some statusCode =>
    rw [Option.some.injEq]
    exact exists_sendAssocResponsePacket_iff hissued ⟨req.clientMac, statusCode, 0⟩
  | none =>
    refine iff_of_false ?_ nofun
    dsimp only
    split
    · rw [exists_sendAssocResponsePacket_iff hissued]
      exact hdenied
    · rw [exists_sendAssocResponsePacket_iff hissued]
      exact hsuccess

/-- Which requests a host turns down for their rates. -/
theorem answers_badRates_iff : s.Answers ended ended' req statusAssocBadRates ↔
    req.SentTo s.macAddr ∧ req.capsOk = true ∧ ∃ k, req.HasPiece k ∧ req.LacksRatesAt k := by
  by_cases hto : req.SentTo s.macAddr
  · rw [answers_badRates_iff_refusal hto, AssocRequest.refusal_eq_badRates_iff,
      and_iff_right hto]
  · exact iff_of_false (not_answers_of_not_sentTo hto _) fun h => hto h.1

/-- Whether a host turns down a request with these elements for the rates in them. -/
theorem answers_badRates_right_iff (es : List Element) :
    (s.Answers ended ended' req statusAssocBadRates ↔ ∃ e ∈ es, LacksRates e) ↔
      ((∃ e ∈ es, LacksRates e) → req.SentTo s.macAddr ∧ req.capsOk = true ∧
        ∃ k, req.HasPiece k ∧ req.LacksRatesAt k) ∧
      (req.SentTo s.macAddr → req.capsOk = true →
        ∀ k, req.HasPiece k → req.LacksRatesAt k → ∃ e ∈ es, LacksRates e) := by
  rw [answers_badRates_iff]
  constructor
  · intro hiff
    exact ⟨hiff.mpr, fun hto hcaps k hpiece hlacks => hiff.mp ⟨hto, hcaps, k, hpiece, hlacks⟩⟩
  · rintro ⟨hfound, hreal⟩
    exact ⟨fun ⟨hto, hcaps, k, hpiece, hlacks⟩ => hreal hto hcaps k hpiece hlacks, hfound⟩

end Host

/-! ## The requests of the library -/

/-- What `Wifi_SendAssocPacket` sends, without the TX header. -/
def Console.assocFrame (c : Console) : List UInt8 := c.assocBytes.drop sizeofTxHeader

/-- The request is the one that the console sends. -/
structure AssocRequest.SentBy (req : AssocRequest) (c : Console) : Prop where
  byteLength_eq : req.byteLength = c.assocFrame.length
  frame_eq : loadBytes req.frame 0 c.assocFrame.length = c.assocFrame

/-- The capabilities that a console claims. -/
def Console.assocCaps (c : Console) : Nat :=
  if c.curAp.securityType = .wep then capsEss ||| capsPrivacy ||| capsShortPreamble
  else capsEss ||| capsShortPreamble

/-- The information elements that a console sends. -/
def Console.assocElements (c : Console) (hssid : c.curAp.ssid.length ≤ 32) : List Element :=
  [⟨UInt8.ofNat mgtFieIdSsid, c.curAp.ssid, by omega⟩,
    ⟨UInt8.ofNat mgtFieIdSupportedRates, c.claimedRates.map UInt8.ofNat, by
      unfold Console.claimedRates
      split <;> simp⟩]

theorem Console.assocFrame_eq (c : Console) (hssid : c.curAp.ssid.length ≤ 32) :
    ∃ ieee : IeeeFrameHeader, ieee.addr1 = c.curAp.bssid ∧ c.assocFrame =
      ieee.bytes ++ (halfBytes c.assocCaps ++ halfBytes c.listenint) ++
        elementsBytes (c.assocElements hssid) := by
  refine ⟨{
    frameControl := typeAssocRequest, addr1 := c.curAp.bssid, addr2 := c.macAddr,
    addr3 := c.curAp.bssid }, rfl, ?_⟩
  have hopen : ¬ typeAssocRequest &&& fcProtectedFrame ≠ 0 := by decide
  unfold assocFrame assocBytes genMgtHeader
  dsimp only
  rw [if_neg hopen]
  simp only [List.append_assoc]
  rw [List.drop_left' (TxHeader.length_bytes _)]
  simp [assocElements, Element.bytes, assocCaps]

/-- The element of a console has rates that a host supports. -/
theorem Console.not_lacksRates (c : Console) (hssid : c.curAp.ssid.length ≤ 32) :
    ¬ ∃ e ∈ c.assocElements hssid, LacksRates e := by
  rintro ⟨e, he, hid, hlacks⟩
  rcases List.mem_cons.mp he with rfl | he
  · exact absurd hid (show (0 : Nat) ≠ 1 by decide)
  · obtain rfl := List.mem_singleton.mp he
    have hsupported : isSupportedRate (UInt8.ofNat (rate1Mbps ||| rateMandatory)) = true := by
      decide
    have hmem : UInt8.ofNat (rate1Mbps ||| rateMandatory) ∈ c.claimedRates.map UInt8.ofNat := by
      unfold Console.claimedRates
      split <;> exact List.mem_cons_self ..
    rw [hlacks _ hmem] at hsupported
    cases hsupported

namespace AssocRequest

variable {req : AssocRequest} {c : Console}

/-- Up to `datalen`, `data` is the frame. -/
theorem eqOn_data (req : AssocRequest) : Set.EqOn req.data req.frame (Set.Iio req.datalen) :=
  ReceivedMgt.eqOn_buffer ⟨req.byteLength, 0, req.frame⟩ 128 req.stack

/-- If the first elements take up twelve bytes, the loop comes to the others, and to nothing
else. -/
theorem WellFormed.hasPiece_iff {lead rest : List Element} (h : req.WellFormed (lead ++ rest))
    (hfits : req.byteLength ≤ 128) (hlead : (elementsBytes lead).length = sizeofTxHeader)
    {k : Nat} : req.HasPiece k ↔ ∃ pre e post, rest = pre ++ e :: post ∧
      k = hdrMgtMacSize + 4 + sizeofTxHeader + (elementsBytes pre).length := by
  have hsize := h.byteLength_eq
  have helements := h.elements
  rw [elementsBytes_append] at hsize helements
  obtain ⟨-, hrest⟩ := loadBytes_append.mp helements
  rw [List.length_append, hlead] at hsize
  rw [hlead] at hrest
  have hdatalen : req.datalen = req.byteLength := Nat.min_eq_left hfits
  refine visits_elements ?_ (by omega)
  rw [loadBytes_congr (req.eqOn_data.mono fun x hx => ?_)]
  · exact hrest
  · exact Set.mem_Iio.mpr (by have := hx.2; omega)

/-- What a host reads of a request. -/
theorem SentBy.read (h : req.SentBy c) (hssid : c.curAp.ssid.length ≤ 32) :
    req.WellFormed (c.assocElements hssid) ∧ macAt req.data hdrMgtDa = c.curAp.bssid ∧
      load16 req.data hdrMgtMacSize = c.assocCaps := by
  obtain ⟨ieee, haddr, hframe⟩ := c.assocFrame_eq hssid
  have hbytes := h.frame_eq
  have hsize := h.byteLength_eq
  rw [hframe] at hbytes hsize
  obtain ⟨hfixed, helements⟩ := loadBytes_append.mp hbytes
  obtain ⟨hheader, hcaps⟩ := loadBytes_append.mp hfixed
  rw [IeeeFrameHeader.length_bytes] at hcaps
  obtain ⟨hcaps, -⟩ := loadBytes_append.mp hcaps
  simp only [List.length_append, IeeeFrameHeader.length_bytes, length_halfBytes,
    sizeofIeeeDataFrameHeader, Nat.zero_add] at helements hsize hcaps
  have hdatalen : 28 ≤ req.datalen := by
    unfold datalen
    omega
  have hdata {a n : Nat} (ha : a + n ≤ 28) : Set.EqOn req.data req.frame (Set.Ico a (a + n)) :=
    req.eqOn_data.mono fun x hx => show x < req.datalen from
      (hx.2.trans_le ha).trans_le hdatalen
  refine ⟨⟨hsize, helements⟩, ?_, ?_⟩
  · -- The destination is the third field of the header.
    unfold IeeeFrameHeader.bytes at hheader
    obtain ⟨hheader, -⟩ := loadBytes_append.mp hheader
    obtain ⟨hheader, -⟩ := loadBytes_append.mp hheader
    obtain ⟨hheader, -⟩ := loadBytes_append.mp hheader
    obtain ⟨-, hda⟩ := loadBytes_append.mp hheader
    rw [Vector.length_toList] at hda
    rw [← haddr]
    refine macAt_eq ?_
    rw [Vector.length_toList, loadBytes_congr (hdata (by decide))]
    exact hda
  · have hlt : c.assocCaps < 2 ^ 16 := by
      unfold Console.assocCaps
      split <;> decide
    rw [load16_congr (hdata (by decide))]
    exact load16_eq _ _ _ hlt hcaps

theorem SentBy.capsOk_eq (h : req.SentBy c) (hssid : c.curAp.ssid.length ≤ 32) :
    req.capsOk = true ↔ c.curAp.securityType ≠ .wep := by
  unfold capsOk
  rw [(h.read hssid).2.2, Console.assocCaps]
  by_cases hwep : c.curAp.securityType = .wep
  · rw [if_pos hwep]
    exact iff_of_false (by decide) (not_not.mpr hwep)
  · rw [if_neg hwep]
    exact iff_of_true (by decide) hwep

end AssocRequest

/-- **A host turns down the right requests for their rates exactly if** those whose elements lack
rates are those that are for it, have the capabilities that it wants, and lack rates where it looks
for them, from the thirteenth byte of the elements on. -/
theorem bad_rates_iff (s : Host) (ended ended' : Option Bool) (req : AssocRequest) :
    (∀ es, req.WellFormed es →
      ((s.Answers ended ended' req statusAssocBadRates ↔ ∃ e ∈ es, LacksRates e) ↔
        ((∃ e ∈ es, LacksRates e) → req.SentTo s.macAddr ∧ req.capsOk = true ∧
          ∃ k, req.HasPiece k ∧ req.LacksRatesAt k) ∧
        (req.SentTo s.macAddr → req.capsOk = true →
          ∀ k, req.HasPiece k → req.LacksRatesAt k → ∃ e ∈ es, LacksRates e))) ∧
    ∀ c : Console, c.curAp.ssid.length ≤ 32 → c.curAp.bssid = s.macAddr → req.SentBy c →
      (¬ s.Answers ended ended' req statusAssocBadRates ↔
        c.curAp.securityType = .wep ∨ ∀ k, req.HasPiece k → ¬ req.LacksRatesAt k) := by
  refine ⟨fun es _ => Host.answers_badRates_right_iff es, fun c hssid hmac h => ?_⟩
  have hto : req.SentTo s.macAddr := (h.read hssid).2.1.trans hmac
  have hnone := c.not_lacksRates hssid
  -- With the rates of a console the host is right if it does not turn the request down.
  rw [← iff_false (s.Answers ended ended' req _), ← iff_false_intro hnone,
    Host.answers_badRates_right_iff, iff_false_intro hnone]
  simp only [false_imp_iff, true_and, imp_false, hto, true_imp_iff, h.capsOk_eq hssid]
  rw [← or_iff_not_imp_left]

/-- A console that connects to the host with this SSID. -/
def guestOf (ssid : List UInt8) : Console where
  toStation := .init { exampleMain with curAp := { exampleAp 1 with ssid }, realRates := true }
  maxrate7 := wifiTransferRate2Mbps
  listenint := 1
  sent := []

/-- A request with these bytes, and zeros behind them. -/
def zeroPadded (bytes : List UInt8) : AssocRequest where
  byteLength := bytes.length
  frame := frameMem bytes
  stack _ := 0

theorem zeroPadded_frame (bytes : List UInt8) :
    loadBytes (zeroPadded bytes).frame 0 bytes.length = bytes :=
  loadBytes_frameMem bytes

theorem zeroPadded_sentBy (c : Console) : (zeroPadded c.assocFrame).SentBy c where
  byteLength_eq := by
    generalize c.assocFrame = bytes
    rfl
  frame_eq := zeroPadded_frame c.assocFrame

/-- Behind an SSID of ten bytes the rates are found. -/
theorem bad_rates_iff_tenBytes : ¬ (Host.init (exampleAp 1).bssid).Answers none none
    (zeroPadded (guestOf (List.replicate 10 65)).assocFrame) statusAssocBadRates := by
  refine ((bad_rates_iff (.init (exampleAp 1).bssid) none none _).2 (guestOf (.replicate 10 65))
    (by decide) rfl (zeroPadded_sentBy _)).mpr (.inr fun k hpiece hlacks => ?_)
  have hvisits := (visits_iff_of_lt (by decide +kernel)).mp hpiece
  rcases hvisits with rfl | hend
  · exact absurd (hlacks.2 0 (by decide +kernel)) (by decide +kernel)
  · exact not_visits_of_le (by decide +kernel) hend

/-- A request for 5.5 Mb/s only, to a host without a name. -/
def fastRequest : AssocRequest :=
  zeroPadded ((IeeeFrameHeader.mk 0 0 macAddrZero wifiCmdMac macAddrZero 0).bytes ++
    [0x21, 0, 0, 0, 0, 0, 1, 1, 11])

/-- A bad request is let in, and a console that connects to a host with a name of thirteen bytes
is turned down. -/
theorem bad_rates_misjudged :
    (¬ ∀ (s : Host) (ended ended' : Option Bool) (req : AssocRequest) (es : List Element),
      req.SentTo s.macAddr → req.capsOk = true → req.WellFormed es →
        (s.Answers ended ended' req statusAssocBadRates ↔ ∃ e ∈ es, LacksRates e)) ∧
    ¬ ∀ (s : Host) (ended ended' : Option Bool) (req : AssocRequest) (c : Console),
      c.curAp.ssid.length ≤ 32 → c.curAp.bssid = s.macAddr → req.SentBy c →
        ¬ s.Answers ended ended' req statusAssocBadRates := by
  constructor
  · intro h
    let es : List Element := [⟨0, [], by decide⟩, ⟨1, [11], by decide⟩]
    have hwf : fastRequest.WellFormed es := ⟨by decide +kernel, by decide +kernel⟩
    have hlacks : ∃ e ∈ es, LacksRates e :=
      ⟨⟨1, [11], by decide⟩, by simp [es], by decide, by decide +kernel⟩
    have hanswers := (h (.init macAddrZero) none none fastRequest es (by decide +kernel)
      (by decide +kernel) hwf).mpr hlacks
    obtain ⟨-, -, k, hpiece, -⟩ := Host.answers_badRates_iff.mp hanswers
    exact not_visits_of_le (by decide +kernel) hpiece
  · intro h
    let guest := guestOf [65, 65, 65, 65, 65, 65, 65, 65, 65, 65, 1, 65, 0]
    have hto : (zeroPadded guest.assocFrame).SentTo (Host.init (exampleAp 1).bssid).macAddr := by
      decide +kernel
    refine h (.init (exampleAp 1).bssid) none none _ guest (by decide) rfl
      (zeroPadded_sentBy _) ?_
    rw [Host.answers_badRates_iff]
    exact ⟨hto, by decide +kernel, 40, .here (by decide +kernel), by decide +kernel,
      by decide +kernel⟩

end Wifi
