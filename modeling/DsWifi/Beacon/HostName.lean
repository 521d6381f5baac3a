import DsWifi.Beacon.RoundTrip
import Mathlib.Data.List.FinRange

/-!
# The name of the host

`WifiData` keeps the name that beacons carry and its length. `Wifi_InitIPC` takes both from the
firmware settings and `Wifi_MultiplayerHostName` sets both. `Wifi_BeaconStart` puts them in its
frame, and afterwards copies the name of the firmware settings over the one in `WifiData`.

* `beaconNames_configured_iff` — the beacons of a run carry the configured name if and only if each
  one is the first that was started since the last `Wifi_MultiplayerHostName`, or the configured
  name starts as the one of the firmware settings does
-/

namespace Wifi

open Infra Infra.Mem

/-! ## Names -/

/-- `hostPlayerName` and `hostPlayerNameLen`. -/
structure PlayerName where
  units : Vector UInt16 10
  len : UInt8
  deriving DecidableEq

/-- `PersonalData->name` and `PersonalData->nameLen`. -/
structure FirmwareName where
  name : Vector UInt16 10
  nameLen : Nat
  nameLen_le : nameLen ≤ 10

namespace PlayerName

/-- The fields `name_len` and `name` of a beacon. -/
def bytes (n : PlayerName) : List UInt8 := n.len :: n.units.toList.flatMap (halfBytes ·.toNat)

/-- The loop that copies the name of the firmware settings. The length is not its business. -/
def copyFirmware (fw : FirmwareName) (n : PlayerName) : PlayerName :=
  { n with
    units := Vector.ofFn fun i =>
      if i.val < fw.nameLen then fw.name.get i else n.units.get i }

/-- What `Wifi_InitIPC` leaves. -/
def initIpc (fw : FirmwareName) : PlayerName :=
  copyFirmware fw { units := Vector.replicate 10 0, len := UInt8.ofNat fw.nameLen }

/-- What `Wifi_MultiplayerHostName` leaves. -/
def multiplayerHostName (buffer : Mem) (len : UInt8) : PlayerName where
  units := Vector.ofFn fun i => UInt16.ofNat (load16 buffer (2 * i.val))
  len

/-- The name starts as the one of the firmware settings does. -/
def StartsAs (fw : FirmwareName) (n : PlayerName) : Prop :=
  ∀ i : Fin 10, i.val < fw.nameLen → n.units.get i = fw.name.get i

instance (fw : FirmwareName) (n : PlayerName) : Decidable (n.StartsAs fw) :=
  inferInstanceAs (Decidable (∀ i : Fin 10, i.val < fw.nameLen → n.units.get i = fw.name.get i))

variable {fw : FirmwareName} {n n' : PlayerName}

theorem ext_get (hunits : ∀ i, n.units.get i = n'.units.get i) (hlen : n.len = n'.len) :
    n = n' := by
  obtain ⟨units, len⟩ := n
  obtain ⟨units', len'⟩ := n'
  obtain rfl : len = len' := hlen
  obtain rfl : units = units' := Vector.ext fun i hi => hunits ⟨i, hi⟩
  rfl

theorem get_copyFirmware (fw : FirmwareName) (n : PlayerName) (i : Fin 10) :
    (n.copyFirmware fw).units.get i =
      if i.val < fw.nameLen then fw.name.get i else n.units.get i := by
  exact Vector.getElem_ofFn i.isLt

/-- The copy changes nothing exactly when the name starts as that of the firmware settings. -/
theorem copyFirmware_eq_iff : n.copyFirmware fw = n ↔ n.StartsAs fw := by
  constructor
  · intro h i hi
    have hget := get_copyFirmware fw n i
    rw [h, if_pos hi] at hget
    exact hget
  · intro h
    refine ext_get (fun i => ?_) rfl
    rw [get_copyFirmware]
    split
    · rename_i hi
      exact (h i hi).symm
    · rfl

theorem startsAs_copyFirmware : (n.copyFirmware fw).StartsAs fw := by
  intro i hi
  rw [get_copyFirmware, if_pos hi]

theorem copyFirmware_copyFirmware : (n.copyFirmware fw).copyFirmware fw = n.copyFirmware fw :=
  copyFirmware_eq_iff.mpr startsAs_copyFirmware

/-- The fields show the buffer of the call. -/
theorem bytes_multiplayerHostName (buffer : Mem) (len : UInt8) :
    (multiplayerHostName buffer len).bytes = len :: loadBytes buffer 0 20 := by
  have hunit (i : Nat) : (UInt16.ofNat (load16 buffer i)).toNat = load16 buffer i := by
    have hlow := (buffer i).toNat_lt
    have hhigh := (buffer (i + 1)).toNat_lt
    rw [UInt16.toNat_ofNat', Nat.mod_eq_of_lt]
    unfold load16
    omega
  have hpairs : loadBytes buffer 0 20 =
      (List.range 10).flatMap fun i => loadBytes buffer (2 * i) 2 := by
    simp [loadBytes, List.range_succ]
  have hunits : (multiplayerHostName buffer len).units.toList =
      (List.range 10).map fun i => UInt16.ofNat (load16 buffer (2 * i)) := by
    rw [multiplayerHostName, Vector.toList_ofFn, ← List.map_coe_finRange_eq_range, List.map_map,
      List.ofFn_eq_map]
    rfl
  rw [bytes, hunits, List.flatMap_map, hpairs]
  refine congrArg _ (List.flatMap_congr fun i _ => ?_)
  rw [hunit, halfBytes_load16]

theorem halfBytes_toNat_inj {u v : UInt16} (h : halfBytes u.toNat = halfBytes v.toNat) :
    u = v := by
  have hu := u.toNat_lt
  have hv := v.toNat_lt
  obtain ⟨hlow, hhigh, -⟩ := by simpa only [halfBytes, List.cons.injEq] using h
  have hlow' := congrArg UInt8.toNat hlow
  have hhigh' := congrArg UInt8.toNat hhigh
  simp only [UInt8.toNat_ofNat'] at hlow' hhigh'
  refine UInt16.toNat_inj.mp ?_
  omega

theorem flatMap_halfBytes_inj {us vs : List UInt16} (hlen : us.length = vs.length)
    (h : us.flatMap (halfBytes ·.toNat) = vs.flatMap (halfBytes ·.toNat)) : us = vs := by
  induction us generalizing vs with
  | nil => exact (List.eq_nil_of_length_eq_zero hlen.symm).symm
  | cons u us ih =>
    cases vs with
    | nil => cases hlen
    | cons v vs =>
      obtain ⟨hunit, hrest⟩ := List.append_inj h rfl
      rw [halfBytes_toNat_inj hunit, ih (Nat.succ.inj hlen) hrest]

/-- The fields determine the name. -/
theorem bytes_inj : n.bytes = n'.bytes ↔ n = n' := by
  constructor
  · intro h
    obtain ⟨hlen, hunits⟩ := List.cons.inj h
    obtain ⟨units, len⟩ := n
    obtain ⟨units', len'⟩ := n'
    obtain rfl : len = len' := hlen
    have hlist : units.toList = units'.toList := flatMap_halfBytes_inj (by simp) hunits
    rw [Vector.toList_inj.mp hlist]
  · exact congrArg bytes

end PlayerName

/-! ## Beacons -/

/-- `WifiData` as `Wifi_BeaconStart` finds it. -/
def TxEnv.withName (env : TxEnv) (n : PlayerName) : TxEnv :=
  { env with
    hostPlayerName := n.units.map UInt16.toNat
    hostPlayerNameLen := n.len.toNat }

/-- The fields `name_len` and `name` of a beacon in the queue. Only the FCS comes behind them. -/
def nameFields (frame : List UInt8) : List UInt8 := (frame.drop (frame.length - 25)).take 21

/-- The SSID of the call is short enough, and the ring has room for the frame. -/
def BeaconFits (ring : TxRing) (ssid : List UInt8) : Prop :=
  ssid.length ≤ 32 ∧
    (txBufferAllocBuffer ring (u32 (4 + roundUp32 (117 + (ssidBytes ssid).length) + 4))).2.isSome

instance (ring : TxRing) (ssid : List UInt8) : Decidable (BeaconFits ring ssid) :=
  inferInstanceAs (Decidable (_ ∧ _))

section

variable (env : TxEnv) (ring : TxRing) (ssid : List UInt8) (gameId : Nat) (n : PlayerName)

theorem nintendoTail_withName : nintendoTail (env.withName n) = n.bytes := by
  simp only [nintendoTail, TxEnv.withName, PlayerName.bytes, Vector.toList_map, List.flatMap_map,
    UInt8.ofNat_toNat]

theorem nameFields_append (start : List UInt8) {fields fcs : List UInt8}
    (hfields : fields.length = 21) (hfcs : fcs.length = 4) :
    nameFields (start ++ fields ++ fcs) = fields := by
  have hlen : (start ++ fields ++ fcs).length - 25 = start.length := by
    rw [List.length_append, List.length_append]
    omega
  rw [nameFields, hlen, List.append_assoc, List.drop_left, ← hfields, List.take_left]

theorem beaconRequest_frameSize :
    (beaconRequest env ssid gameId).frameSize = 117 + (ssidBytes ssid).length := by
  have hlen := length_beaconBytes env ssid gameId (.start env)
  rw [beaconBytes_start, List.length_append, IeeeFrameHeader.length_bytes] at hlen
  simp only [beaconRequest, sizeofTxHeader]
  omega

theorem beaconStart_ok_iff :
    (beaconStart env ring ssid gameId).2 = true ↔ BeaconFits ring ssid := by
  unfold beaconStart BeaconFits
  split_ifs with hlong
  · exact iff_of_false nofun fun h => absurd h.1 (Nat.not_le.mpr hlong)
  · rw [and_iff_right (Nat.le_of_not_lt hlong), txEnqueue, beaconRequest_frameSize]
    rcases txBufferAllocBuffer ring _ with ⟨ring', idx⟩
    cases idx with
    | none => simp
    | some idx => simp

variable {env ring ssid gameId n}

/-- An allocation queues nothing. -/
theorem txBufferAllocBuffer_queued {ring' : TxRing} {totalSize idx : Nat}
    (h : txBufferAllocBuffer ring totalSize = (ring', some idx)) :
    ring'.queued = ring.queued := by
  unfold txBufferAllocBuffer at h
  split_ifs at h <;> cases h <;> rfl

/-- A frame queues itself or nothing. -/
theorem txEnqueue_queued (ring : TxRing) (req : TxRequest) :
    (txEnqueue ring req).1.queued = ring.queued ∧ (txEnqueue ring req).2 = false ∨
      (txEnqueue ring req).2 = true ∧
        ∃ frame, (txEnqueue ring req).1.queued = ring.queued ++ [(req.flags, frame)] := by
  rcases halloc : txBufferAllocBuffer ring (u32 (4 + roundUp32 req.frameSize + 4)) with ⟨ring', idx⟩
  cases idx with
  | none =>
    obtain rfl := eq_of_txBufferAllocBuffer_eq_none halloc
    simp only [txEnqueue, halloc]
    exact .inl ⟨trivial, trivial⟩
  | some idx =>
    simp only [txEnqueue, halloc]
    rw [txBufferAllocBuffer_queued halloc]
    exact .inr ⟨trivial, _, rfl⟩

/-- The frame of an accepted call carries the name of `WifiData`. -/
theorem beaconStart_name (env : TxEnv) (gameId : Nat) (n : PlayerName) (hring : RingFlagged ring)
    (hfits : BeaconFits ring ssid) :
    ∃ frame, (beaconStart (env.withName n) ring ssid gameId).1.queued =
      ring.queued ++ [(wflagSendAsBeacon, frame)] ∧ nameFields frame = n.bytes := by
  have hok := (beaconStart_ok_iff (env.withName n) ring ssid gameId).mpr hfits
  obtain ⟨-, gap, hgap, hlast⟩ := beaconStart_stored hring hok
  rw [beaconStart, if_neg (Nat.not_lt.mpr hfits.1)] at hok hlast ⊢
  rcases txEnqueue_queued ring (beaconRequest (env.withName n) ssid gameId) with
    ⟨-, hrefused⟩ | ⟨-, frame, hqueued⟩
  · exact absurd hok (by rw [hrefused]; exact Bool.false_ne_true)
  · rw [hqueued, List.getLast?_concat] at hlast
    have hframe : frame = _ := congrArg Prod.snd (Option.some.inj hlast)
    refine ⟨frame, hqueued, ?_⟩
    rw [hframe, beaconBytes, nintendoTail_withName]
    have hbytes : n.bytes.length = 21 := by
      rw [← nintendoTail_withName (.zero 0), length_nintendoTail]
    have happend := nameFields_append ((beaconTxHeader ssid).bytes ++
      (beaconHead (env.withName n) ssid ++ (BeaconFields.start (env.withName n)).channel ::
        (beaconMid (env.withName n) gameId ++
          (BeaconFields.start (env.withName n)).playersCurrent ::
            [(BeaconFields.start (env.withName n)).allowsConnections]))) hbytes hgap
    simpa only [List.append_assoc, List.cons_append, List.nil_append] using happend

end

/-! ## Calls -/

/-- What can happen. The ARM9 sets a name, or something happens to the queue. -/
inductive NameEvent
  | multiplayerHostName (buffer : Mem) (len : UInt8)
  | tx (ev : TxEvent false)

/-- The TX side in NTR mode and the name in `WifiData`. -/
structure HostName where
  tx : Arm7Tx
  name : PlayerName

namespace HostName

/-- After `Wifi_InitIPC`. -/
def init (fw : FirmwareName) : HostName where
  tx := .init
  name := .initIpc fw

/-- The event with what the calls of the ARM9 read of the name. -/
def reading (n : PlayerName) : TxEvent false → TxEvent false
  | .call env call hmode hobject => .call (env.withName n) call hmode hobject
  | .flush env => .flush env
  | .replySwap => .replySwap

/-- A call of `Wifi_BeaconStart` that gets as far as its frame. -/
def startsBeacon : TxEvent false → Bool
  | .call _ (.beaconStart ssid _) _ _ => decide (ssid.length ≤ 32)
  | _ => false

def step (fw : FirmwareName) (s : HostName) : NameEvent → HostName
  | .multiplayerHostName buffer len => { s with name := .multiplayerHostName buffer len }
  | .tx ev => {
      tx := txStep false s.tx (reading s.name ev)
      -- Also when the ring has no room for the frame.
      name := if startsBeacon ev then s.name.copyFirmware fw else s.name }

/-- The name of the last call of `Wifi_MultiplayerHostName`, or the one of the firmware settings. -/
def configured (fw : FirmwareName) (es : List NameEvent) : PlayerName :=
  es.foldl (fun n ev => match ev with
    | .multiplayerHostName buffer len => .multiplayerHostName buffer len
    | .tx _ => n) (.initIpc fw)

/-- A beacon has been started since the name was configured. -/
def startedSince (es : List NameEvent) : Bool :=
  es.foldl (fun started ev => match ev with
    | .multiplayerHostName _ _ => false
    | .tx ev => started || startsBeacon ev) false

/-- A beacon that the event queues carries the name `n`. -/
def Names (fw : FirmwareName) (n : PlayerName) (s : HostName) (ev : NameEvent) : Prop :=
  ∀ frame, (s.step fw ev).tx.ring.queued = s.tx.ring.queued ++ [(wflagSendAsBeacon, frame)] →
    nameFields frame = n.bytes

/-- The event queues a beacon. -/
def QueuesBeacon (s : HostName) : NameEvent → Prop
  | .tx (.call _ (.beaconStart ssid _) _ _) => BeaconFits s.tx.ring ssid
  | _ => False

variable {fw : FirmwareName} {s : HostName} {es : List NameEvent} {ev : NameEvent}

/-! ## Steps -/

theorem queued_flush (hring : RingFlagged s.tx.ring) (env : Arm7Env) :
    (s.tx.txArm9QueueFlush env).1.ring.queued = s.tx.ring.queued := by
  obtain ⟨e, q, hring⟩ := hring
  cases hring.ring.flush hring.flagged env with
  | nothing _ hw => exact hw.queued
  | copied _ _ _ hw => exact hw.queued
  | rejected _ _ _ hw => exact hw.queued

/-- Only a beacon has the type bits of a beacon. -/
theorem eq_beaconStart {env : TxEnv} {call : TxCall} (hmode : env.dsiMode = false)
    (h : call.flags env = wflagSendAsBeacon) : ∃ ssid gameId, call = .beaconStart ssid gameId := by
  cases call with
  | beaconStart ssid gameId => exact ⟨ssid, gameId, rfl⟩
  | transmitFunctionLink src =>
    rw [TxCall.flags, if_neg (of_decide_eq_false hmode)] at h
    exact absurd h (by decide)
  | _ => cases h

/-- The call that queues a beacon. -/
theorem beaconFits_of_queued {env : TxEnv} {call : TxCall} {ring : TxRing} {frame : List UInt8}
    (hmode : env.dsiMode = false) (hobject : call.IsObject)
    (h : (call.run env ring).1.queued = ring.queued ++ [(wflagSendAsBeacon, frame)]) :
    ∃ ssid gameId, call = .beaconStart ssid gameId ∧ BeaconFits ring ssid := by
  rcases call.run_cases env ring hobject with hrun | ⟨req, -, hflags, hrun⟩
  · rw [hrun] at h
    simp at h
  rcases txEnqueue_queued ring req with ⟨hsame, -⟩ | ⟨hok, frame', hqueued⟩
  · rw [hrun, hsame] at h
    simp at h
  rw [hrun, hqueued] at h
  have htag : req.flags = wflagSendAsBeacon :=
    congrArg Prod.fst (List.singleton_inj.mp (List.append_cancel_left h))
  obtain ⟨ssid, gameId, rfl⟩ := eq_beaconStart hmode (hflags.symm.trans htag)
  refine ⟨ssid, gameId, rfl, (beaconStart_ok_iff env ring ssid gameId).mp ?_⟩
  rw [← hrun] at hok
  exact hok

/-- A call of the ARM9 that queues a beacon. -/
theorem names_call_iff {env : TxEnv} {call : TxCall} (hmode : env.dsiMode = false)
    (hobject : call.IsObject) (hring : RingFlagged s.tx.ring) (n : PlayerName) :
    Names fw n s (.tx (.call env call hmode hobject)) ↔
      (s.QueuesBeacon (.tx (.call env call hmode hobject)) → s.name = n) := by
  have hstep : (s.step fw (.tx (.call env call hmode hobject))).tx.ring.queued =
      (call.run (env.withName s.name) s.tx.ring).1.queued := rfl
  unfold Names
  rw [hstep]
  constructor
  · intro h hfits
    cases call with
    | beaconStart ssid gameId =>
      obtain ⟨frame, hqueued, hname⟩ := beaconStart_name env gameId s.name hring hfits
      exact PlayerName.bytes_inj.mp (hname.symm.trans (h frame hqueued))
    | _ => exact hfits.elim
  · intro h frame hframe
    -- Nothing but `Wifi_BeaconStart` queues a frame with these bits, and it queues one frame.
    have hmode' : (env.withName s.name).dsiMode = false := hmode
    obtain ⟨ssid, gameId, rfl, hfits⟩ := beaconFits_of_queued hmode' hobject hframe
    obtain ⟨frame', hqueued, hname⟩ := beaconStart_name env gameId s.name hring hfits
    have hsame : [(wflagSendAsBeacon, frame)] = [(wflagSendAsBeacon, frame')] :=
      List.append_cancel_left (hframe.symm.trans hqueued)
    obtain rfl : frame = frame' := congrArg Prod.snd (List.singleton_inj.mp hsame)
    rw [hname, h hfits]

/-- **What an event queues** carries the name in `WifiData`. -/
theorem names_iff (hring : RingFlagged s.tx.ring) (n : PlayerName) :
    Names fw n s ev ↔ (s.QueuesBeacon ev → s.name = n) := by
  have hnothing (h : (s.step fw ev).tx.ring.queued = s.tx.ring.queued) : Names fw n s ev := by
    intro frame hframe
    rw [h] at hframe
    simp at hframe
  rcases ev with ⟨buffer, len⟩ | ev
  · exact iff_of_true (hnothing rfl) False.elim
  cases ev with
  | call env call hmode hobject => exact names_call_iff hmode hobject hring n
  | flush env => exact iff_of_true (hnothing (queued_flush hring env)) False.elim
  | replySwap => exact iff_of_true (hnothing rfl) False.elim

/-! ## Runs -/

/-- What the history says about the state. -/
structure Kept (fw : FirmwareName) (es : List NameEvent) (s : HostName) : Prop where
  ring : RingFlagged s.tx.ring
  name : s.name = if startedSince es then (configured fw es).copyFirmware fw else configured fw es

theorem Kept.init (fw : FirmwareName) : Kept fw [] (init fw) where
  ring := .init
  name := rfl

theorem configured_append_singleton : configured fw (es ++ [ev]) = match ev with
    | .multiplayerHostName buffer len => .multiplayerHostName buffer len
    | .tx _ => configured fw es := by
  rw [configured, List.foldl_append]
  rfl

theorem startedSince_append_singleton : startedSince (es ++ [ev]) = match ev with
    | .multiplayerHostName _ _ => false
    | .tx ev => startedSince es || startsBeacon ev := by
  rw [startedSince, List.foldl_append]
  rfl

theorem Kept.step (h : Kept fw es s) (ev : NameEvent) : Kept fw (es ++ [ev]) (s.step fw ev) := by
  cases ev with
  | multiplayerHostName buffer len =>
    refine ⟨h.ring, ?_⟩
    rw [configured_append_singleton, startedSince_append_singleton]
    rfl
  | tx ev =>
    refine ⟨h.ring.step _, ?_⟩
    rw [configured_append_singleton, startedSince_append_singleton]
    dsimp only [HostName.step]
    rw [h.name]
    -- A second copy changes nothing.
    by_cases hstarts : startsBeacon ev = true <;> by_cases hstarted : startedSince es = true <;>
      simp [hstarts, hstarted, PlayerName.copyFirmware_copyFirmware]

/-- When the name in `WifiData` is the configured one. -/
theorem Kept.name_eq_iff (h : Kept fw es s) :
    s.name = configured fw es ↔ startedSince es = false ∨ (configured fw es).StartsAs fw := by
  rw [h.name]
  cases startedSince es with
  | false => exact iff_of_true rfl (.inl rfl)
  | true =>
    rw [if_pos rfl, PlayerName.copyFirmware_eq_iff]
    exact (or_iff_right Bool.noConfusion).symm

end HostName

/-- **Beacons carry the configured name** in exactly the runs in which every queued beacon is the
first one started since the name was configured, or the name starts as that of the firmware
settings. -/
theorem beaconNames_configured_iff (fw : FirmwareName) (es : List NameEvent) :
    Recorded (HostName.step fw)
        (fun pre s ev => HostName.Names fw (HostName.configured fw pre) s ev) (.init fw) es ↔
      Recorded (HostName.step fw)
        (fun pre s ev => s.QueuesBeacon ev → HostName.startedSince pre = false ∨
          (HostName.configured fw pre).StartsAs fw) (.init fw) es := by
  refine recorded_iff (HostName.Kept fw) (fun _ _ ev h => h.step ev) (fun pre s ev h => ?_)
    (.init fw) es
  rw [HostName.names_iff h.ring, h.name_eq_iff]

/-- The firmware settings name the console `A`. -/
def firmwareA : FirmwareName where
  name := #v[0x41, 0, 0, 0, 0, 0, 0, 0, 0, 0]
  nameLen := 1
  nameLen_le := Nat.le_of_ble_eq_true rfl

/-- The game calls the host `B`. -/
def nameB : NameEvent := .multiplayerHostName (fun a => if a = 0 then 0x42 else 0) 1

theorem isObject_startDs : (TxCall.beaconStart [68, 83] 7).IsObject := by decide

/-- `Wifi_BeaconStart` with the SSID `DS`. -/
def startDs : NameEvent := .tx (.call (.zero 0) (.beaconStart [68, 83] 7) rfl isObject_startDs)

/-- The second of two equal calls queues a beacon with the name of the firmware settings. -/
theorem beaconNames_startedTwice :
    ¬ Recorded (HostName.step firmwareA)
        (fun pre s ev => HostName.Names firmwareA (HostName.configured firmwareA pre) s ev)
        (.init firmwareA) [nameB, startDs, startDs] := by
  intro h
  have hkept : HostName.Kept firmwareA [nameB, startDs]
      (run (HostName.step firmwareA) (.init firmwareA) [nameB, startDs]) :=
    ((HostName.Kept.init firmwareA).step nameB).step startDs
  have hfits : HostName.QueuesBeacon
      (run (HostName.step firmwareA) (.init firmwareA) [nameB, startDs]) startDs := by
    change BeaconFits _ _
    decide +kernel
  have hname := (HostName.names_iff hkept.ring _).mp (h [nameB, startDs] startDs [] rfl) hfits
  exact absurd (hkept.name_eq_iff.mp hname) (by decide +kernel)

end Wifi
