import DsWifi.Host.Update

/-!
# Multiplayer packets on the ARM9

The handlers of received packets, and the look-ups in the client table that they need
(`source/arm9/ntr/multiplayer.c`). The ARM9 reads the table in a critical section and with the
spinlock of the table, which the ARM7 waits for.

* `client_table_unlocked_iff` — the table is unlocked and the interrupts are back when a look-up
  returns, exactly for the AIDs up to the limit for clients
-/

namespace Wifi

open Infra Infra.Mem

/-- The owners of a spinlock. -/
inductive SpinlockOwner
  | nobody
  | arm7
  | arm9
  deriving DecidableEq, Repr

/-- `Wifi_MPPacketType`. -/
inductive MpPacketType
  | cmd
  | reply
  | data
  deriving DecidableEq, Repr

/-- What the ARM9 knows when it looks at a packet. -/
structure PacketEnv where
  /-- `clients.list`, and what lies behind it. -/
  client : Nat → ConnectedClient
  curMaxClients : Nat
  /-- `clients.spinlock`. -/
  spinlock : SpinlockOwner
  /-- `REG_IME`. -/
  ime : Nat
  macAddr : MacAddr
  /-- `curAp.bssid`. -/
  bssid : MacAddr

/-- What a host knows. -/
def Host.packetEnv (s : Host) : PacketEnv where
  client i := if h : i < wifiMaxMultiplayerClients then s.client ⟨i, h⟩ else .zero
  curMaxClients := s.curMaxClients
  spinlock := .nobody
  ime := 1
  macAddr := s.macAddr
  bssid := macAddrZero

/-- The six bytes of a MAC address. -/
def macAt (m : Mem) (a : Nat) : MacAddr := Vector.ofFn fun i => m (a + i.val)

/-- `sizeof(MultiplayerHostIeeeDataFrame)`. -/
def sizeofMultiplayerHostIeeeDataFrame : Nat := 28

/-- `sizeof(MultiplayerClientIeeeDataFrame)`, with the byte that pads it. -/
def sizeofMultiplayerClientIeeeDataFrame : Nat := 26

namespace PacketEnv

/-! ## Locking -/

/-- `enterCriticalSection`. -/
def enterCriticalSection (s : PacketEnv) : PacketEnv × Nat := ({ s with ime := 0 }, s.ime)

/-- `leaveCriticalSection`. -/
def leaveCriticalSection (s : PacketEnv) (oldIme : Nat) : PacketEnv := { s with ime := oldIme }

/-- `Spinlock_Acquire`, until it returns `SPINLOCK_OK`. -/
def acquire (s : PacketEnv) : PacketEnv := { s with spinlock := .arm9 }

/-- `Spinlock_Release`. -/
def release (s : PacketEnv) : PacketEnv := { s with spinlock := .nobody }

/-! ## Looking up clients -/

/-- The body that the two look-ups share, from the check of the AID on. -/
def lookUp {α : Type} (s : PacketEnv) (aid : Int) (fail : α) (read : ConnectedClient → α) :
    PacketEnv × α :=
  if aid < 1 then (s, fail)
  else
    let (s, oldIme) := s.enterCriticalSection
    let s := s.acquire
    if s.curMaxClients < aid then (s, fail)
    else
      let ret := read (s.client (aid - 1).toNat)
      (s.release.leaveCriticalSection oldIme, ret)

/-- `Wifi_MultiplayerClientGetMacFromAID`. The flag says whether `dest_macaddr` isn't `NULL`. -/
def multiplayerClientGetMacFromAid (s : PacketEnv) (aid : Int) (destMacaddr : Bool) :
    PacketEnv × Option MacAddr :=
  if !destMacaddr then (s, none)
  else
    s.lookUp aid none fun client =>
      if client.state = .associated then some client.macaddr else none

/-- `Wifi_MultiplayerClientMatchesMacAndAID`, where `none` stands for `NULL`. -/
def multiplayerClientMatchesMacAndAid (s : PacketEnv) (aid : Int) (macaddr : Option MacAddr) :
    PacketEnv × Bool :=
  match macaddr with
  | none => (s, false)
  | some macaddr =>
    s.lookUp aid false fun client =>
      decide (client.state = .associated ∧ macaddr = client.macaddr)

/-! ## Packets -/

/-- The bits of the frame control that tell the packets apart. -/
def frameControl (packet : Mem) : Nat :=
  load16 packet 0 &&& (fcToDs ||| fcFromDs ||| fcTypeSubtypeMask)

/-- The type of a packet from a client, if it is meant for this host. -/
def clientPacketType (s : PacketEnv) (packet : Mem) (size : Nat) : Option MpPacketType :=
  if size < sizeofMultiplayerClientIeeeDataFrame then none
  else if frameControl packet = typeDataCfAck ||| fcToDs then
    if macAt packet 16 = wifiReplyMac then some .reply else none
  else if frameControl packet = typeData ||| fcToDs then
    if macAt packet 16 = s.macAddr then some .data else none
  else none

/-- What the handler of the user is called with. -/
structure Delivery where
  type : MpPacketType
  /-- The AID of the sender, if it is a client. -/
  aid : Option Nat
  data : List UInt8
  deriving DecidableEq

/-- `Wifi_MultiplayerHandlePacketFromClient`. The flag says whether there is a handler. -/
def multiplayerHandlePacketFromClient (s : PacketEnv) (handler : Bool) (packet : Mem)
    (size : Nat) : PacketEnv × Option Delivery :=
  if !handler then (s, none)
  else
    match s.clientPacketType packet size with
    | none => (s, none)
    | some type =>
      let headerSize := sizeofMultiplayerClientIeeeDataFrame
      let aid := (packet 24).toNat
      let (s, ok) := s.multiplayerClientMatchesMacAndAid aid (some (macAt packet 10))
      if ok then
        (s, some { type, aid := some aid, data := loadBytes packet headerSize (size - headerSize) })
      else (s, none)

/-- `Wifi_MultiplayerHandlePacketFromHost`. The flag says whether there is a handler. -/
def multiplayerHandlePacketFromHost (s : PacketEnv) (handler : Bool) (packet : Mem) (size : Nat) :
    Option Delivery :=
  let deliver (type : MpPacketType) (headerSize : Nat) (dest : MacAddr) : Option Delivery :=
    if macAt packet 4 ≠ dest then none
    -- Check that the source MAC is the BSSID we're connected to.
    else if macAt packet 16 ≠ s.bssid then none
    else some { type, aid := none, data := loadBytes packet headerSize (size - headerSize) }
  if !handler then none
  else if size < sizeofMultiplayerHostIeeeDataFrame then none
  else if frameControl packet = typeDataCfPoll ||| fcFromDs then
    deliver .cmd sizeofMultiplayerHostIeeeDataFrame wifiCmdMac
  else if frameControl packet = typeData ||| fcFromDs then
    deliver .data sizeofIeeeDataFrameHeader s.macAddr
  else none

/-! ## The lock -/

/-- The lock is not kept, and the interrupts are as they were. -/
def Unlocked (s s' : PacketEnv) : Prop := s'.spinlock ≠ .arm9 ∧ s'.ime = s.ime

variable {s : PacketEnv}

theorem unlocked_self (h : s.spinlock ≠ .arm9) : s.Unlocked s := ⟨h, rfl⟩

/-- What is left behind on each of the three ways out. -/
theorem lookUp_eq {α : Type} (s : PacketEnv) (aid : Int) (fail : α) (read : ConnectedClient → α) :
    s.lookUp aid fail read =
      if aid < 1 then (s, fail)
      else if s.curMaxClients < aid then ({ s with spinlock := .arm9, ime := 0 }, fail)
      else ({ s with spinlock := .nobody }, read (s.client (aid - 1).toNat)) :=
  rfl

/-- The early return in the middle is the only one that keeps the lock. -/
theorem lookUp_unlocked_iff {α : Type} (h : s.spinlock ≠ .arm9) (aid : Int) (fail : α)
    (read : ConnectedClient → α) :
    s.Unlocked (s.lookUp aid fail read).1 ↔ aid < 1 ∨ aid ≤ s.curMaxClients := by
  rw [lookUp_eq]
  split
  · rename_i haid
    exact iff_of_true (unlocked_self h) (.inl haid)
  · rename_i haid
    split
    · exact iff_of_false (fun hu => hu.1 rfl) (by omega)
    · rename_i hle
      exact iff_of_true ⟨nofun, rfl⟩ (.inr (Int.not_lt.mp hle))

/-- What a look-up within the limit reads. -/
theorem lookUp_of_le {α : Type} {aid : Int} (h1 : 1 ≤ aid) (hle : aid ≤ s.curMaxClients) (fail : α)
    (read : ConnectedClient → α) :
    (s.lookUp aid fail read).2 = read (s.client (aid - 1).toNat) := by
  rw [lookUp_eq, if_neg (by omega), if_neg (by omega)]

/-- Other AIDs are not found. -/
theorem lookUp_of_not_le {α : Type} {aid : Int} (h : ¬ (1 ≤ aid ∧ aid ≤ s.curMaxClients))
    (fail : α) (read : ConnectedClient → α) : (s.lookUp aid fail read).2 = fail := by
  rw [lookUp_eq]
  split
  · rfl
  · rw [if_pos (by omega)]

theorem multiplayerClientGetMacFromAid_unlocked_iff (h : s.spinlock ≠ .arm9) (aid : Int)
    (destMacaddr : Bool) : s.Unlocked (s.multiplayerClientGetMacFromAid aid destMacaddr).1 ↔
      destMacaddr = false ∨ aid < 1 ∨ aid ≤ s.curMaxClients := by
  unfold multiplayerClientGetMacFromAid
  cases destMacaddr with
  | false => exact iff_of_true (unlocked_self h) (.inl rfl)
  | true =>
    simp only [Bool.not_true, Bool.false_eq_true, if_false, reduceCtorEq, false_or]
    exact lookUp_unlocked_iff h aid none _

theorem multiplayerClientMatchesMacAndAid_unlocked_iff (h : s.spinlock ≠ .arm9) (aid : Int)
    (macaddr : Option MacAddr) :
    s.Unlocked (s.multiplayerClientMatchesMacAndAid aid macaddr).1 ↔
      macaddr = none ∨ aid < 1 ∨ aid ≤ s.curMaxClients := by
  unfold multiplayerClientMatchesMacAndAid
  cases macaddr with
  | none => exact iff_of_true (unlocked_self h) (.inl rfl)
  | some macaddr =>
    simp only [reduceCtorEq, false_or]
    exact lookUp_unlocked_iff h aid false _

/-- A packet locks the table if it gets as far as the look-up, with an AID beyond the limit. -/
theorem multiplayerHandlePacketFromClient_unlocked_iff (h : s.spinlock ≠ .arm9) (handler : Bool)
    (packet : Mem) (size : Nat) :
    s.Unlocked (s.multiplayerHandlePacketFromClient handler packet size).1 ↔
      handler = false ∨ s.clientPacketType packet size = none ∨
        (packet 24).toNat ≤ s.curMaxClients := by
  unfold multiplayerHandlePacketFromClient
  cases handler with
  | false => exact iff_of_true (unlocked_self h) (.inl rfl)
  | true =>
    simp only [Bool.not_true, Bool.false_eq_true, if_false]
    cases htype : s.clientPacketType packet size with
    | none => exact iff_of_true (unlocked_self h) (.inr (.inl rfl))
    | some type =>
      have hm : s.Unlocked (s.multiplayerClientMatchesMacAndAid (packet 24).toNat
          (some (macAt packet 10))).1 ↔ (packet 24).toNat ≤ s.curMaxClients := by
        rw [multiplayerClientMatchesMacAndAid_unlocked_iff h]
        simp only [reduceCtorEq, false_or]
        omega
      simp only [Bool.true_eq_false, reduceCtorEq, false_or]
      split <;> exact hm

/-- In a host, the look-up finds what the TX functions send to. -/
theorem multiplayerClientGetMacFromAid_packetEnv (s : Host) (aid : Int) :
    (s.packetEnv.multiplayerClientGetMacFromAid aid true).2 = s.clientGetMacFromAid aid := by
  have hmax := s.curMaxClients.isLt
  unfold wifiMaxMultiplayerClients at hmax
  unfold multiplayerClientGetMacFromAid Host.clientGetMacFromAid
  simp only [Bool.not_true, Bool.false_eq_true, if_false]
  by_cases haid : 1 ≤ aid ∧ aid ≤ s.curMaxClients.val
  · have hidx : (aid - 1).toNat < wifiMaxMultiplayerClients := by
      unfold wifiMaxMultiplayerClients
      omega
    have hclient : s.packetEnv.client (aid - 1).toNat = s.client ⟨(aid - 1).toNat, hidx⟩ :=
      dif_pos hidx
    rw [dif_pos haid, lookUp_of_le haid.1 haid.2, hclient]
  · rw [dif_neg haid, lookUp_of_not_le haid]

end PacketEnv

/-- **The table is unlocked and the interrupts are restored exactly if the AID is within the
limit**, or the function does not get as far as the look-up. -/
theorem client_table_unlocked_iff (s : PacketEnv) (h : s.spinlock ≠ .arm9) :
    (∀ aid destMacaddr, s.Unlocked (s.multiplayerClientGetMacFromAid aid destMacaddr).1 ↔
      destMacaddr = false ∨ aid < 1 ∨ aid ≤ s.curMaxClients) ∧
    (∀ aid macaddr, s.Unlocked (s.multiplayerClientMatchesMacAndAid aid macaddr).1 ↔
      macaddr = none ∨ aid < 1 ∨ aid ≤ s.curMaxClients) ∧
    (∀ handler packet size,
      s.Unlocked (s.multiplayerHandlePacketFromClient handler packet size).1 ↔
        handler = false ∨ s.clientPacketType packet size = none ∨
          (packet 24).toNat ≤ s.curMaxClients) :=
  ⟨PacketEnv.multiplayerClientGetMacFromAid_unlocked_iff h,
    PacketEnv.multiplayerClientMatchesMacAndAid_unlocked_iff h,
    PacketEnv.multiplayerHandlePacketFromClient_unlocked_iff h⟩

/-- A look-up of AID 2 without clients, and of AID 0. -/
theorem client_table_unlocked_init :
    (Host.init macAddrZero).packetEnv.spinlock ≠ .arm9 ∧
    ¬ (Host.init macAddrZero).packetEnv.Unlocked
      ((Host.init macAddrZero).packetEnv.multiplayerClientGetMacFromAid 2 true).1 ∧
    (Host.init macAddrZero).packetEnv.Unlocked
      ((Host.init macAddrZero).packetEnv.multiplayerClientMatchesMacAndAid 0 (some wifiCmdMac)).1 :=
  ⟨by decide,
    fun hu => absurd ((client_table_unlocked_iff _ (by decide)).1 2 true |>.mp hu) (by decide),
    ((client_table_unlocked_iff _ (by decide)).2.1 0 (some wifiCmdMac)).mpr
      (.inr (.inl (by decide)))⟩

/-- A REPLY packet that claims to come from AID 2. -/
def replyFromAid2 : Mem :=
  frameMem ((IeeeFrameHeader.mk (typeDataCfAck ||| fcToDs) 0 macAddrZero wifiCmdMac wifiReplyMac
    0).bytes ++ [2, 0])

/-- With at most one client, the packet leaves the table locked for the ARM7. -/
theorem replyFromAid2_locks :
    ¬ (∀ (s : PacketEnv) (handler : Bool) (packet : Mem) (size : Nat), s.spinlock ≠ .arm9 →
      s.Unlocked (s.multiplayerHandlePacketFromClient handler packet size).1) := by
  intro hall
  have hu := hall { (Host.init macAddrZero).packetEnv with curMaxClients := 1 } true replyFromAid2
    26 (by decide)
  exact hu.1 (by decide +kernel)

end Wifi
