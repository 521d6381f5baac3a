import DsWifi.Host.Invariant
import DsWifi.Host.Packets

/-!
# Association requests

`Wifi_MPHost_ProcessAssocRequest` (`source/arm7/ntr/ieee_802_11/association.c`). The frame is read
to the stack, and the function reads on behind it where a length of the frame says so. It answers a
sender that has not authenticated, and does not return then.

* `assoc_request_answered_iff` — which requests are answered once and truthfully
-/

namespace Wifi

open Infra Infra.Mem

/-! ## Fields of the frames -/

/-- `HDR_MGT_DA`. -/
def hdrMgtDa : Nat := 4

/-- `HDR_MGT_SA`. -/
def hdrMgtSa : Nat := 10

/-- `HDR_MGT_MAC_SIZE`. -/
def hdrMgtMacSize : Nat := 24

def capsEss : Nat := 2 ^ 0

def capsPrivacy : Nat := 2 ^ 4

def capsShortPreamble : Nat := 2 ^ 5

/-- `MGT_FIE_ID_SUPPORTED_RATES`. -/
def mgtFieIdSupportedRates : Nat := 1

def rateMandatory : Nat := 2 ^ 7

def rateOptional : Nat := 0

def rateSpeedMask : Nat := 0x7F

/-- `RATE_1_MBPS`. -/
def rate1Mbps : Nat := 2

/-- `RATE_2_MBPS`. -/
def rate2Mbps : Nat := 4

def statusSuccess : Nat := 0

def statusUnsupportedCapabilities : Nat := 10

def statusAssocDenied : Nat := 12

def statusAssocBadRates : Nat := 18

/-! ## Responses -/

/-- The arguments of `Wifi_MPHost_SendAssocResponsePacket`. -/
structure AssocResponse where
  clientMac : MacAddr
  statusCode : Nat
  associationId : Nat
  deriving DecidableEq

/-- The frame of `Wifi_MPHost_SendAssocResponsePacket`. -/
def assocResponseBytes (macAddr : MacAddr) (wep : Bool) (r : AssocResponse) : List UInt8 :=
  let caps := if wep then capsEss ||| capsPrivacy ||| capsShortPreamble
    else capsEss ||| capsShortPreamble
  let tx : TxHeader := { txRate := wifiTransferRate1Mbps, txLength := 24 + 6 + 4 + 4 }
  tx.bytes ++ (mpHostGenMgtHeader macAddr typeAssocResponse r.clientMac).bytes ++
    halfBytes caps ++ halfBytes r.statusCode ++ halfBytes r.associationId ++
    [UInt8.ofNat mgtFieIdSupportedRates, 2, UInt8.ofNat (rate1Mbps ||| rateMandatory),
      UInt8.ofNat (rate2Mbps ||| rateOptional)]

namespace Host

/-- `Wifi_MPHost_SendAssocResponsePacket`, which is added to the responses that have been issued. -/
def sendAssocResponsePacket (s : Host) (issued : List AssocResponse) (ended : Option Bool)
    (r : AssocResponse) : Host × List AssocResponse :=
  ({ s with tx := s.tx.mayComplete ended }.txArm7QueueAdd
    (assocResponseBytes s.macAddr s.wep r), issued ++ [r])

end Host

/-! ## Requests -/

/-- A received frame, and what is on the stack. -/
structure AssocRequest where
  /-- `packetheader->byteLength`. -/
  byteLength : Nat
  /-- What is read behind the RX header. -/
  frame : Mem
  /-- The stack from the address of `data` on, before the frame is read. -/
  stack : Mem

namespace AssocRequest

variable (req : AssocRequest)

def datalen : Nat := min req.byteLength 128

/-- `data`, and what is behind it. -/
def data : Mem := req.stack.storeBytes 0 (loadBytes req.frame 0 ((req.datalen + 1) / 2 * 2))

/-- Whether the packet is sent to the host. -/
def SentTo (macAddr : MacAddr) : Prop := macAt req.data hdrMgtDa = macAddr

instance (macAddr : MacAddr) : Decidable (req.SentTo macAddr) :=
  inferInstanceAs (Decidable (_ = _))

def clientMac : MacAddr := macAt req.data hdrMgtSa

/-- The capabilities are the required ones. -/
def capsOk : Bool :=
  load16 req.data hdrMgtMacSize &&& 0x00FF == (capsEss ||| capsShortPreamble)

/-- One of the rates of the element at `i` is supported. It skips the first one. -/
def ratesOk (i : Nat) : Bool :=
  (List.range (req.data i).toNat).any fun j =>
    let rate := (req.data (i + 1 + j)).toNat &&& rateSpeedMask
    rate == rate1Mbps || rate == rate2Mbps

/-- The loop over the information elements, up to the first one with unsupported rates. -/
def elementsOk (i : Nat) : Bool :=
  if i < req.datalen then
    let type := (req.data i).toNat
    let seglen := (req.data (i + 1)).toNat
    if type = mgtFieIdSupportedRates ∧ req.ratesOk (i + 2) = false then false
    else elementsOk (i + 2 + seglen)
  else true
termination_by req.datalen - i

/-- The status of a request that is turned down for what it contains. -/
def refusal : Option Nat :=
  if !req.capsOk then some statusUnsupportedCapabilities
  else if !req.elementsOk (sizeofTxHeader + hdrMgtMacSize + 4) then some statusAssocBadRates
  else none

end AssocRequest

namespace Host

/-- `Wifi_MPHost_ProcessAssocRequest`, and the responses that it issues. The hardware may end a
transfer before each of them. -/
def processAssocRequest (s : Host) (ended ended' : Option Bool) (req : AssocRequest) :
    Host × List AssocResponse :=
  if ¬ req.SentTo s.macAddr then (s, [])
  else
    -- Check that the packet comes from an authenticated device. There is no return.
    let (s, issued) :=
      if s.clientGetByMacAddr req.clientMac = none then
        s.sendAssocResponsePacket [] ended ⟨req.clientMac, statusAssocDenied, 0⟩
      else (s, [])
    match req.refusal with
    | some statusCode => s.sendAssocResponsePacket issued ended' ⟨req.clientMac, statusCode, 0⟩
    | none =>
      match s.clientAssociate req.clientMac with
      | (s, none) =>
        s.sendAssocResponsePacket issued ended' ⟨req.clientMac, statusAssocDenied, 0⟩
      | (s, some aid) =>
        s.sendAssocResponsePacket issued ended' ⟨req.clientMac, statusSuccess, aid⟩

/-- The sender has the AID. -/
def IsAssociated (s : Host) (macaddr : MacAddr) (aid : Nat) : Prop :=
  ∃ i : Slot, s.clientGetByMacAddr macaddr = some i ∧ (s.client i).state = .associated ∧
    aid = i.val + 1

/-- The sender gets one response, which tells it whether it is associated. -/
def Answered (s : Host) (ended ended' : Option Bool) (req : AssocRequest) : Prop :=
  ∃ r, (s.processAssocRequest ended ended' req).2 = [r] ∧ r.clientMac = req.clientMac ∧
    (∀ aid, r.statusCode = statusSuccess ∧ r.associationId = aid ↔
      (s.processAssocRequest ended ended' req).1.IsAssociated req.clientMac aid) ∧
    (r.statusCode ≠ statusSuccess →
      (s.processAssocRequest ended ended' req).1.clients = s.clients)

variable {s s' : Host} {req : AssocRequest}

/-! ## The table -/

theorem SameTable.clientGetByMacAddr (hs : SameTable s s') (macaddr : MacAddr) :
    s'.clientGetByMacAddr macaddr = s.clientGetByMacAddr macaddr := by
  unfold Host.clientGetByMacAddr Host.slots
  rw [hs.curMaxClients]
  simp only [hs.client]

theorem sameTable_sendAssocResponsePacket (s : Host) (issued : List AssocResponse)
    (ended : Option Bool) (r : AssocResponse) :
    SameTable s (s.sendAssocResponsePacket issued ended r).1 :=
  (SameTable.setTx s (s.tx.mayComplete ended)).trans (.txArm7QueueAdd _ _)

theorem clients_sendAssocResponsePacket (s : Host) (issued : List AssocResponse)
    (ended : Option Bool) (r : AssocResponse) :
    (s.sendAssocResponsePacket issued ended r).1.clients = s.clients :=
  rfl

theorem isAssociated_sendAssocResponsePacket (s : Host) (issued : List AssocResponse)
    (ended : Option Bool) (r : AssocResponse) (macaddr : MacAddr) (aid : Nat) :
    (s.sendAssocResponsePacket issued ended r).1.IsAssociated macaddr aid ↔
      s.IsAssociated macaddr aid := by
  have hsame := sameTable_sendAssocResponsePacket s issued ended r
  unfold IsAssociated
  simp only [hsame.clientGetByMacAddr, hsame.client]

/-- Only clients that have authenticated are associated. -/
theorem clientAssociate_none {macaddr : MacAddr} (h : s.clientGetByMacAddr macaddr = none) :
    s.clientAssociate macaddr = (s, none) := by
  unfold Host.clientAssociate
  rw [h]
  split <;> rfl

theorem clientAssociate_closed (hallow : s.allowClients = false) (macaddr : MacAddr) :
    s.clientAssociate macaddr = (s, none) := by
  simp [Host.clientAssociate, hallow]

/-- A client stays where it is when its state changes. -/
theorem clientGetByMacAddr_setClient {macaddr : MacAddr} {i : Slot} {c : ConnectedClient}
    (hi : s.clientGetByMacAddr macaddr = some i) (hc : c.state ≠ .disconnected)
    (hmac : c.macaddr = (s.client i).macaddr) :
    (s.setClient i c).clientGetByMacAddr macaddr = some i := by
  obtain ⟨-, hstate, -⟩ := clientGetByMacAddr_some hi
  rw [← hi]
  refine congrArg (List.find? · s.slots) (funext fun j => ?_)
  rw [client_setClient]
  split
  · rename_i hj
    rw [hj, hmac, bne_iff_ne.mpr hc, bne_iff_ne.mpr hstate]
  · rfl

/-- As long as clients are allowed, one that has authenticated gets the AID of its slot. -/
theorem clientAssociate_open (h : s.Consistent) (hallow : s.allowClients = true)
    {macaddr : MacAddr} {i : Slot} (hi : s.clientGetByMacAddr macaddr = some i) :
    (s.clientAssociate macaddr).2 = some (i.val + 1) ∧
      (s.clientAssociate macaddr).1.clientGetByMacAddr macaddr = some i ∧
      ((s.clientAssociate macaddr).1.client i).state = .associated := by
  obtain ⟨-, hstate, -⟩ := clientGetByMacAddr_some hi
  unfold Host.clientAssociate
  rw [if_neg (by simp [hallow]), hi]
  dsimp only
  split
  · rename_i hassoc
    exact ⟨congrArg some (h.table.associationId i hassoc), hi, hassoc⟩
  · refine ⟨rfl, clientGetByMacAddr_setClient hi nofun rfl, ?_⟩
    show ((s.setClient i _).client i).state = _
    rw [client_setClient, if_pos rfl]
  · rename_i hdisc
    exact absurd hdisc hstate

/-! ## The responses -/

theorem refusal_ne_success {statusCode : Nat} (h : req.refusal = some statusCode) :
    statusCode ≠ statusSuccess := by
  unfold AssocRequest.refusal at h
  split at h
  · cases h
    decide
  · split at h
    · cases h
      decide
    · cases h

variable {ended ended' : Option Bool}

/-- A sender without a slot gets two responses. -/
theorem not_answered_of_none (hto : req.SentTo s.macAddr)
    (hnone : s.clientGetByMacAddr req.clientMac = none) : ¬ s.Answered ended ended' req := by
  have hlen : (s.processAssocRequest ended ended' req).2.length = 2 := by
    have hsame := sameTable_sendAssocResponsePacket s [] ended
      ⟨req.clientMac, statusAssocDenied, 0⟩
    have hassoc := clientAssociate_none ((hsame.clientGetByMacAddr req.clientMac).trans hnone)
    unfold Host.processAssocRequest
    rw [if_neg (not_not_intro hto)]
    simp only [hnone, if_true]
    split
    · rfl
    · rw [hassoc]
      rfl
  rintro ⟨r, hr, -⟩
  rw [hr] at hlen
  cases hlen

/-- A request that is turned down is answered truthfully unless the sender is associated. -/
theorem answered_refused {i : Slot} (hi : s.clientGetByMacAddr req.clientMac = some i)
    {statusCode : Nat} (hne : statusCode ≠ statusSuccess)
    (heq : s.processAssocRequest ended ended' req =
      s.sendAssocResponsePacket [] ended' ⟨req.clientMac, statusCode, 0⟩) :
    s.Answered ended ended' req ↔ (s.client i).state ≠ .associated := by
  have hassoc (aid : Nat) : s.IsAssociated req.clientMac aid ↔
      (s.client i).state = .associated ∧ aid = i.val + 1 := by
    unfold IsAssociated
    simp [hi]
  unfold Answered
  rw [heq]
  simp only [isAssociated_sendAssocResponsePacket, clients_sendAssocResponsePacket, hassoc]
  constructor
  · rintro ⟨r, hr, -, htrue, -⟩ hstate
    cases hr
    exact hne ((htrue (i.val + 1)).mpr ⟨hstate, rfl⟩).1
  · intro hstate
    refine ⟨_, rfl, rfl, fun aid => iff_of_false (fun hs => hne hs.1) fun hs => hstate hs.1, ?_⟩
    exact fun _ => trivial

/-- A client that is let in is told its AID. -/
theorem answered_accepted (h : s.Consistent) (hallow : s.allowClients = true)
    (hi : s.clientGetByMacAddr req.clientMac = some i)
    (hproc : s.processAssocRequest ended ended' req =
      match s.clientAssociate req.clientMac with
      | (s, none) => s.sendAssocResponsePacket [] ended' ⟨req.clientMac, statusAssocDenied, 0⟩
      | (s, some aid) => s.sendAssocResponsePacket [] ended' ⟨req.clientMac, statusSuccess, aid⟩) :
    s.Answered ended ended' req := by
  obtain ⟨haid, hget, hassoc⟩ := clientAssociate_open h hallow hi
  have hpair : s.clientAssociate req.clientMac =
      ((s.clientAssociate req.clientMac).1, some (i.val + 1)) := by
    rw [← haid]
  rw [hpair] at hproc
  have hproc : s.processAssocRequest ended ended' req =
    (s.clientAssociate req.clientMac).1.sendAssocResponsePacket [] ended'
      ⟨req.clientMac, statusSuccess, i.val + 1⟩ := hproc
  refine ⟨⟨req.clientMac, statusSuccess, i.val + 1⟩, ?_, rfl, fun aid => ?_,
    fun hne => absurd rfl hne⟩
  · rw [hproc]
    rfl
  · rw [hproc, isAssociated_sendAssocResponsePacket]
    constructor
    · rintro ⟨-, rfl⟩
      exact ⟨i, hget, hassoc, rfl⟩
    · rintro ⟨j, hj, -, rfl⟩
      rw [hget] at hj
      cases hj
      exact ⟨rfl, rfl⟩

/-- **A request is answered exactly if** its sender has a slot, and is not turned down while it is
associated. -/
theorem answered_iff (h : s.Consistent) (hto : req.SentTo s.macAddr) :
    s.Answered ended ended' req ↔ ∃ i, s.clientGetByMacAddr req.clientMac = some i ∧
      ((s.client i).state = .associated → req.refusal = none ∧ s.allowClients = true) := by
  cases hi : s.clientGetByMacAddr req.clientMac with
  | none => exact iff_of_false (not_answered_of_none hto hi) fun ⟨i, hi', _⟩ => nomatch hi'
  | some i =>
    have hproc : s.processAssocRequest ended ended' req =
        match req.refusal with
        | some statusCode => s.sendAssocResponsePacket [] ended' ⟨req.clientMac, statusCode, 0⟩
        | none =>
          match s.clientAssociate req.clientMac with
          | (s, none) => s.sendAssocResponsePacket [] ended' ⟨req.clientMac, statusAssocDenied, 0⟩
          | (s, some aid) => s.sendAssocResponsePacket [] ended' ⟨req.clientMac, statusSuccess, aid⟩
        := by
      unfold Host.processAssocRequest
      rw [if_neg (not_not_intro hto), hi]
      rfl
    have hexists (p : Slot → Prop) : (∃ j, some i = some j ∧ p j) ↔ p i := by simp
    rw [hexists]
    cases hrefusal : req.refusal with
    | some statusCode =>
      -- Turned down for the capabilities or the rates.
      rw [hrefusal] at hproc
      rw [answered_refused hi (refusal_ne_success hrefusal) hproc]
      simp
    | none =>
      rw [hrefusal] at hproc
      cases hallow : s.allowClients with
      | false =>
        rw [clientAssociate_closed hallow] at hproc
        rw [answered_refused hi (by decide) hproc]
        simp
      | true => exact iff_of_true (answered_accepted h hallow hi hproc) fun _ => ⟨rfl, rfl⟩

end Host

/-- **An association request is answered once and truthfully exactly if** the sender has a slot and,
if it is associated already, the request is not turned down and clients are allowed. -/
theorem assoc_request_answered_iff (macAddr : MacAddr) (es : List HostEvent) (req : AssocRequest)
    (ended ended' : Option Bool)
    (hto : req.SentTo (run hostStep (.init macAddr) es).macAddr) :
    (run hostStep (.init macAddr) es).Answered ended ended' req ↔
      ∃ i, (run hostStep (.init macAddr) es).clientGetByMacAddr req.clientMac = some i ∧
        (((run hostStep (.init macAddr) es).client i).state = .associated →
          req.refusal = none ∧ (run hostStep (.init macAddr) es).allowClients = true) :=
  Host.answered_iff ((Host.Consistent.init macAddr).run es) hto

/-- A request with the required capabilities and no elements. -/
def emptyRequest (sa : MacAddr) : AssocRequest where
  byteLength := 28
  frame := frameMem ((IeeeFrameHeader.mk 0 0 macAddrZero sa macAddrZero 0).bytes ++ [0x21, 0, 0, 0])
  stack _ := 0

/-- A client that has authenticated is answered. -/
theorem assoc_request_answered_emptyRequest :
    (run hostStep (.init macAddrZero)
      [.resetClients 1, .allowNewClients true, .clientAuthenticate wifiCmdMac]).Answered none none
        (emptyRequest wifiCmdMac) :=
  (assoc_request_answered_iff macAddrZero
    [.resetClients 1, .allowNewClients true, .clientAuthenticate wifiCmdMac]
    (emptyRequest wifiCmdMac) none none (by decide +kernel)).mpr
      ⟨⟨0, by decide⟩, by decide +kernel, fun h => absurd h (by decide +kernel)⟩

/-- A sender that has not authenticated gets two responses. -/
theorem emptyRequest_two :
    (emptyRequest wifiCmdMac).SentTo (run hostStep (.init macAddrZero) []).macAddr ∧
      ¬ (run hostStep (.init macAddrZero) []).Answered none none (emptyRequest wifiCmdMac) := by
  have hto : (emptyRequest wifiCmdMac).SentTo (Host.init macAddrZero).macAddr := by decide +kernel
  exact ⟨hto, Host.not_answered_of_none hto (by decide +kernel)⟩

end Wifi
