import DsWifi.Connect.Arm9
import DsWifi.Tx.Arm7
import DsWifi.Tx.Frames

/-!
# The sizes of multiplayer packets

`Wifi_MultiplayerClientMode` and `Wifi_MultiplayerHostMode` (`source/arm9/ipc.c`) add up the sizes
of the frames by hand, in 32 bits, and keep them in 16. They count the AID of a REPLY frame as one
byte, where the structure has two, and compare the size without the TX header with the size of the
buffer. The size of CMD frames isn't checked at all.

* `ModeCall.accepts_iff` — which sizes are accepted
* `client_sizes_never` — the reply size that is kept is never the one of the frames
* `cmd_times_iff` — when the times of `Wifi_TxArm9QueueFlushByCmd` are those of the sizes asked for
-/

namespace Wifi

open Infra

/-! ## Asking for a size -/

/-- The two functions that take the size of the packets of clients. -/
inductive ModeCall
  | client
  | host (maxClients : Int) (hostPacketSize : Nat)

namespace ModeCall

/-- Perform the call. -/
def run (s : Arm9) (clientPacketSize : Nat) : ModeCall → Arm9 × Bool
  | client => s.multiplayerClientMode clientPacketSize
  | host maxClients hostPacketSize =>
    s.multiplayerHostMode maxClients hostPacketSize clientPacketSize

variable {s : Arm9} {clientPacketSize : Nat}

/-- Both make the same check, and keep the same size. -/
theorem run_cases (mode : ModeCall) :
    Arm9.macClientRxSize < u32 (29 + clientPacketSize) ∧ (mode.run s clientPacketSize).2 = false ∨
      u32 (29 + clientPacketSize) ≤ Arm9.macClientRxSize ∧
        (mode.run s clientPacketSize).2 = true ∧
        (mode.run s clientPacketSize).1.reqReplyDataSize = u32 (29 + clientPacketSize) := by
  have hsum : 24 + 1 + clientPacketSize + 4 = 29 + clientPacketSize := by omega
  rcases Nat.lt_or_ge Arm9.macClientRxSize (u32 (29 + clientPacketSize)) with hlarge | hfits
  · refine .inl ⟨hlarge, ?_⟩
    cases mode with
    | client => rw [run, Arm9.multiplayerClientMode, hsum, if_pos hlarge]
    | host maxClients hostPacketSize =>
      rw [run, Arm9.multiplayerHostMode, hsum]
      exact congrArg Prod.snd (if_pos hlarge)
  · refine .inr ⟨hfits, ?_⟩
    cases mode with
    | client =>
      rw [run, Arm9.multiplayerClientMode, hsum, if_neg (Nat.not_lt.mpr hfits)]
      exact ⟨rfl, rfl⟩
    | host maxClients hostPacketSize =>
      rw [run, Arm9.multiplayerHostMode, hsum, if_neg (Nat.not_lt.mpr hfits)]
      exact ⟨rfl, rfl⟩

/-- Small sizes are accepted, and those that wrap around. -/
theorem accepts_iff (hlt : clientPacketSize < 2 ^ 32) (mode : ModeCall) :
    (mode.run s clientPacketSize).2 = true ↔
      clientPacketSize ≤ 227 ∨ 2 ^ 32 - 29 ≤ clientPacketSize := by
  have hfits : u32 (29 + clientPacketSize) ≤ Arm9.macClientRxSize ↔
      clientPacketSize ≤ 227 ∨ 2 ^ 32 - 29 ≤ clientPacketSize := by
    unfold u32 Arm9.macClientRxSize
    omega
  rw [← hfits]
  rcases run_cases (s := s) mode with
    ⟨hlarge, hrun⟩ | ⟨hle, hrun, -⟩
  · exact iff_of_false (by rw [hrun]; exact nofun) (Nat.not_le.mpr hlarge)
  · exact iff_of_true hrun hle

end ModeCall

/-! ## REPLY frames -/

/-- What `Wifi_MultiplayerClientReplyTxFrame` builds. -/
def clientReplyRequest (env : TxEnv) (data : List UInt8) : TxRequest :=
  let ieee : IeeeFrameHeader := {
    frameControl := typeDataCfAck ||| fcToDs
    addr1 := env.bssid
    addr2 := env.macAddr
    addr3 := wifiReplyMac }
  multiplayerTxRequest ieee [UInt8.ofNat env.curClientAid, 0] data
    sizeofTxMultiplayerClientIeeeDataFrame wflagSendAsReply

theorem multiplayerClientReplyTxFrame_eq (env : TxEnv) (ring : TxRing) (data : List UInt8) :
    multiplayerClientReplyTxFrame env ring data = txEnqueue ring (clientReplyRequest env data) :=
  rfl

/-- The size of the whole frame. -/
def TxRequest.size (req : TxRequest) : Nat := (req.parts.map TxPart.length).sum

/-- The size of the IEEE frame, with the FCS. -/
def TxRequest.ieeeSize (req : TxRequest) : Nat := req.size - sizeofTxHeader

theorem clientReplyRequest_size (env : TxEnv) (data : List UInt8) :
    (clientReplyRequest env data).size = 42 + data.length ∧
      (clientReplyRequest env data).ieeeSize = 30 + data.length := by
  have hsize : (clientReplyRequest env data).size = 42 + data.length := by
    simp only [TxRequest.size, clientReplyRequest, multiplayerTxRequest, List.map_cons,
      List.map_nil, List.sum_cons, List.sum_nil, TxPart.length, List.length_append,
      TxHeader.length_bytes, IeeeFrameHeader.length_bytes, sizeofTxHeader,
      sizeofIeeeDataFrameHeader, List.length_cons, List.length_nil]
    omega
  refine ⟨hsize, ?_⟩
  rw [TxRequest.ieeeSize, hsize, sizeofTxHeader]
  omega

/-- **The reply size that is kept is never the one of the frames**, and a frame of an accepted size
fits in its buffer up to 214 bytes of data. -/
theorem client_sizes_never (mode : ModeCall) (s : Arm9) (env : TxEnv) {data : List UInt8}
    (hlt : data.length < 2 ^ 32) :
    ((mode.run s data.length).2 = true ↔ data.length ≤ 227 ∨ 2 ^ 32 - 29 ≤ data.length) ∧
      ((mode.run s data.length).2 = true →
        ((clientReplyRequest env data).size ≤ Arm9.macClientRxSize ↔ data.length ≤ 214) ∧
        (mode.run s data.length).1.reqReplyDataSize ≠ (clientReplyRequest env data).ieeeSize) := by
  obtain ⟨hsize, hieee⟩ := clientReplyRequest_size env data
  refine ⟨mode.accepts_iff hlt, fun haccepted => ⟨?_, ?_⟩⟩
  · rw [hsize, Arm9.macClientRxSize]
    omega
  · rcases mode.run_cases with ⟨-, hrefused⟩ | ⟨-, -, hkept⟩
    · rw [hrefused] at haccepted
      cases haccepted
    · rw [hkept, hieee]
      unfold u32
      omega

/-- A console before its first call. -/
def idleArm9 : Arm9 := .init (.init 0 .internet macAddrZero [])

theorem client_sizes_never_hundred : (ModeCall.client.run idleArm9 100).2 = true ∧
    (ModeCall.client.run idleArm9 100).1.reqReplyDataSize ≠
      (clientReplyRequest (.zero 0) (.replicate 100 0)).ieeeSize := by
  have hlt : (List.replicate 100 (0 : UInt8)).length < 2 ^ 32 := by
    rw [List.length_replicate]
    decide
  have h := (client_sizes_never .client idleArm9 (.zero 0) hlt).2
  rw [List.length_replicate] at h
  exact ⟨rfl, (h rfl).2⟩

/-- With 215 bytes of data the frame is larger than its buffer. -/
theorem largeReply_accepted : ¬ ∀ (mode : ModeCall) (s : Arm9) (env : TxEnv) (data : List UInt8),
    data.length < 2 ^ 32 → (mode.run s data.length).2 = true →
      (clientReplyRequest env data).size ≤ Arm9.macClientRxSize ∧
        (mode.run s data.length).1.reqReplyDataSize = (clientReplyRequest env data).ieeeSize := by
  intro h
  have hlt : (List.replicate 215 (0 : UInt8)).length < 2 ^ 32 := by
    rw [List.length_replicate]
    decide
  have hfits := h .client idleArm9 (.zero 0) (.replicate 215 0) hlt
  rw [(clientReplyRequest_size _ _).1, List.length_replicate] at hfits
  exact absurd (hfits rfl).1 (by decide)

/-! ## The times of a CMD -/

namespace Arm7Env

variable (env : Arm7Env)

/-- `host_time`. -/
def hostTime : Nat := u16 (env.curCmdDataSize * 4 + 0x60)

/-- `client_time`. -/
def clientTime : Nat := u16 (env.curReplyDataSize * 4 + 0xD2)

/-- `all_client_time`. -/
def allClientTime : Nat := u16 (0xF0 + (env.clientTime + 0xA) * env.numConnected)

/-- `count`. -/
def count : Nat :=
  u16 ((0x388 + env.numConnected * env.clientTime + env.hostTime + 0x32) >>> 3)

/-- The times that `Wifi_TxArm9QueueFlushByCmd` computes are those of frames with these sizes. -/
structure HasTimes (hostSize clientSize : Nat) : Prop where
  hostTime_eq : env.hostTime = hostSize * 4 + 0x60
  clientTime_eq : env.clientTime = clientSize * 4 + 0xD2
  allClientTime_eq :
    env.allClientTime = 0xF0 + (clientSize * 4 + 0xD2 + 0xA) * env.numConnected
  count_eq : env.count =
    (0x388 + env.numConnected * (clientSize * 4 + 0xD2) + (hostSize * 4 + 0x60) + 0x32) / 8
  cmdCount_eq (tx : Arm7Tx) : (tx.txArm9QueueFlushByCmd env).cmdCount = 0x180 +
    (0x388 + env.numConnected * (clientSize * 4 + 0xD2) + (hostSize * 4 + 0x60) + 0x32) / 8

/-- The host is in the mode that has been asked for, with some of its clients. -/
structure Serves (s : Arm9) : Prop where
  cmdDataSize : env.curCmdDataSize = s.reqCmdDataSize
  replyDataSize : env.curReplyDataSize = s.reqReplyDataSize
  numConnected_le : env.numConnected ≤ s.reqMaxClients

variable {env}

/-- What the registers are set to. -/
theorem flushByCmd_times (tx : Arm7Tx) :
    (tx.txArm9QueueFlushByCmd env).cmdTotaltime = env.allClientTime ∧
      (tx.txArm9QueueFlushByCmd env).cmdReplytime = env.clientTime ∧
      (tx.txArm9QueueFlushByCmd env).cmdCount = u16 (0x180 + env.count) :=
  ⟨rfl, rfl, rfl⟩

/-- The times of a CMD don't overflow where the replies fit in their buffer. -/
theorem times_of_le (hreply : env.curReplyDataSize ≤ Arm9.macClientRxSize)
    (hclients : env.numConnected ≤ 15) :
    env.clientTime = env.curReplyDataSize * 4 + 0xD2 ∧
      env.allClientTime = 0xF0 + (env.clientTime + 0xA) * env.numConnected ∧
      env.count = (0x388 + env.numConnected * env.clientTime + env.hostTime + 0x32) / 8 ∧
      ∀ tx : Arm7Tx, (tx.txArm9QueueFlushByCmd env).cmdCount = 0x180 + env.count := by
  unfold Arm9.macClientRxSize at hreply
  have hclient : env.clientTime = env.curReplyDataSize * 4 + 0xD2 := by
    unfold clientTime u16
    omega
  have hhost : env.hostTime < 2 ^ 16 := Nat.mod_lt _ (by decide)
  have hall : (env.clientTime + 0xA) * env.numConnected ≤ 1244 * 15 :=
    Nat.mul_le_mul (by omega) hclients
  have hsum : env.numConnected * env.clientTime ≤ 15 * 1234 :=
    Nat.mul_le_mul hclients (by omega)
  have hcount : env.count =
      (0x388 + env.numConnected * env.clientTime + env.hostTime + 0x32) / 8 := by
    unfold count u16
    rw [Nat.shiftRight_eq_div_pow]
    omega
  refine ⟨hclient, ?_, hcount, fun tx => ?_⟩
  · unfold allClientTime u16
    omega
  · rw [(flushByCmd_times tx).2.2, u16]
    omega

/-- The other times are right if the two of the frames are. -/
theorem hasTimes_iff (hreply : env.curReplyDataSize ≤ Arm9.macClientRxSize)
    (hclients : env.numConnected ≤ 15) (hostSize clientSize : Nat) :
    env.HasTimes hostSize clientSize ↔
      env.hostTime = hostSize * 4 + 0x60 ∧ env.clientTime = clientSize * 4 + 0xD2 := by
  obtain ⟨-, hall, hcount, hcmdCount⟩ := times_of_le hreply hclients
  constructor
  · intro h
    exact ⟨h.hostTime_eq, h.clientTime_eq⟩
  · rintro ⟨hhost, hclient⟩
    rw [hclient] at hall hcount
    rw [hhost] at hcount
    exact ⟨hhost, hclient, hall, hcount, fun tx => by rw [hcmdCount tx, hcount]⟩

/-- The sizes that a host gets. -/
theorem Serves.sizes {s : Arm9} {maxClients : Int} {hostPacketSize clientPacketSize : Nat}
    (haccepted : (s.multiplayerHostMode maxClients hostPacketSize clientPacketSize).2 = true)
    (h : env.Serves (s.multiplayerHostMode maxClients hostPacketSize clientPacketSize).1) :
    env.curCmdDataSize = u16 (u32 (32 + hostPacketSize)) ∧
      env.curReplyDataSize = u32 (29 + clientPacketSize) ∧
      u32 (29 + clientPacketSize) ≤ Arm9.macClientRxSize ∧ env.numConnected ≤ 15 := by
  have hclients := h.numConnected_le
  have hcmd := h.cmdDataSize
  have hreply := h.replyDataSize
  have hhost : 24 + 2 + 2 + hostPacketSize + 4 = 32 + hostPacketSize := by omega
  have hclient : 24 + 1 + clientPacketSize + 4 = 29 + clientPacketSize := by omega
  unfold Arm9.multiplayerHostMode at haccepted hclients hcmd hreply
  rw [hhost, hclient] at haccepted hclients hcmd hreply
  dsimp only at haccepted hclients hcmd hreply
  split at haccepted
  · cases haccepted
  · rename_i hfits
    rw [if_neg hfits] at hclients hcmd hreply
    refine ⟨hcmd, hreply, Nat.le_of_not_lt hfits, hclients.trans ?_⟩
    dsimp only
    split_ifs <;> omega

end Arm7Env

/-- **The times of a CMD are those of the sizes asked for exactly if** the size of the host's
packets is at most 16327 and that of the clients' doesn't wrap around. With the padding that REPLY
frames have they never are. -/
theorem cmd_times_iff (s : Arm9) (maxClients : Int) {hostPacketSize clientPacketSize : Nat}
    (hhost : hostPacketSize < 2 ^ 32) (hclient : clientPacketSize < 2 ^ 32)
    (haccepted : (s.multiplayerHostMode maxClients hostPacketSize clientPacketSize).2 = true)
    {env : Arm7Env}
    (henv : env.Serves (s.multiplayerHostMode maxClients hostPacketSize clientPacketSize).1) :
    (env.HasTimes (32 + hostPacketSize) (29 + clientPacketSize) ↔
        hostPacketSize ≤ 16327 ∧ clientPacketSize ≤ 227) ∧
      ¬ env.HasTimes (32 + hostPacketSize) (30 + clientPacketSize) := by
  obtain ⟨hcmd, hreply, hfits, hclients⟩ := henv.sizes haccepted
  have hle : env.curReplyDataSize ≤ Arm9.macClientRxSize := hreply.trans_le hfits
  rw [Arm7Env.hasTimes_iff hle hclients, Arm7Env.hasTimes_iff hle hclients,
    (Arm7Env.times_of_le hle hclients).1, hreply, Arm7Env.hostTime, hcmd]
  unfold Arm9.macClientRxSize at hfits
  unfold u16 u32 at *
  constructor
  · omega
  · omega

/-- A host with three clients that has asked for packets of these sizes. -/
def servingEnv (hostPacketSize clientPacketSize : Nat) : Arm7Env :=
  { Arm7Env.zero with
    curCmdDataSize := u16 (u32 (32 + hostPacketSize))
    curReplyDataSize := u32 (29 + clientPacketSize)
    numConnected := 3 }

theorem cmd_times_iff_small : (servingEnv 100 50).HasTimes 132 79 :=
  (cmd_times_iff idleArm9 3 (by decide) (by decide) rfl ⟨rfl, rfl, by decide⟩).1.mpr
    ⟨show 100 ≤ 16327 by decide, show 50 ≤ 227 by decide⟩

/-- With 16328 bytes the time of the host is zero. -/
theorem largeCmd_overflows : ¬ ∀ (s : Arm9) (maxClients : Int)
    (hostPacketSize clientPacketSize : Nat) (env : Arm7Env),
    hostPacketSize < 2 ^ 32 → clientPacketSize < 2 ^ 32 →
    (s.multiplayerHostMode maxClients hostPacketSize clientPacketSize).2 = true →
    env.Serves (s.multiplayerHostMode maxClients hostPacketSize clientPacketSize).1 →
    env.HasTimes (32 + hostPacketSize) (29 + clientPacketSize) := by
  intro h
  have htimes := h idleArm9 3 16328 50 (servingEnv 16328 50) (by decide) (by decide) rfl
    ⟨rfl, rfl, by decide⟩
  exact absurd htimes.hostTime_eq (by decide)

end Wifi
