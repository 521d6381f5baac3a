import DsWifi.Infra.Interrupt
import DsWifi.Infra.Run
import DsWifi.Rx.Traversal

/-!
# Interrupts (NTR)

`Wifi_Interrupt` of `source/arm7/ntr/interrupts.c`, after `Wifi_NTR_Start` has enabled the
interrupts. The hardware may raise one between any two accesses to its registers, and it may receive
a frame there. `Wifi_NTR_Update` goes through the RX ring as well, while interrupts are disabled.

* `interrupts_handled` — nothing has been missed when the handler has returned
-/

namespace Wifi

open Infra Infra.Interrupt

/-! ## Sources -/

/-- The bits of `W_IF` and `W_IE`. -/
inductive WifiIrq
  | rxComplete
  | txComplete
  | rxEventIncrement
  | txEventIncrement
  | rxEventHalfOverflow
  | txErrorHalfOverflow
  | rxStart
  | txStart
  | txbufCountEnd
  | rxbufCountEnd
  | unused
  | rfWakeup
  | multiplayCmdDone
  | postBeaconTimeslot
  | beaconTimeslot
  | preBeaconTimeslot
  deriving DecidableEq

namespace WifiIrq

/-- The sources, the one of bit 0 in front. -/
def all : List WifiIrq :=
  [rxComplete, txComplete, rxEventIncrement, txEventIncrement, rxEventHalfOverflow,
    txErrorHalfOverflow, rxStart, txStart, txbufCountEnd, rxbufCountEnd, unused, rfWakeup,
    multiplayCmdDone, postBeaconTimeslot, beaconTimeslot, preBeaconTimeslot]

/-- The sources of a register. -/
def ofRegister (value : Nat) : Finset WifiIrq :=
  (all.filter fun i => value.testBit (all.idxOf i)).toFinset

end WifiIrq

/-! ## The handler -/

/-- What the loop of `Wifi_Interrupt` does for each source. The calls are
`Wifi_Intr_MultiplayCmdDone`, `Wifi_Intr_RxEnd`, `Wifi_Intr_TxEnd` and `Wifi_Intr_CntOverflow`. -/
def wifiServices : List (WifiIrq × List (Action WifiIrq)) :=
  [(.multiplayCmdDone, [.call .multiplayCmdDone, .ack .multiplayCmdDone]),
    (.rxComplete, [.ack .rxComplete, .call .rxComplete]),
    (.txComplete, [.ack .txComplete, .call .txComplete]),
    (.rxEventIncrement, [.ack .rxEventIncrement]),
    (.txEventIncrement, [.ack .txEventIncrement]),
    -- These two are acknowledged after the counters have been read.
    (.rxEventHalfOverflow, [.call .rxEventHalfOverflow, .ack .rxEventHalfOverflow]),
    (.txErrorHalfOverflow, [.call .txErrorHalfOverflow, .ack .txErrorHalfOverflow]),
    (.rxStart, [.ack .rxStart]),
    (.txStart, [.ack .txStart]),
    (.txbufCountEnd, [.ack .txbufCountEnd]),
    (.rxbufCountEnd, [.ack .rxbufCountEnd]),
    (.unused, [.ack .unused]),
    (.rfWakeup, [.ack .rfWakeup]),
    (.postBeaconTimeslot, [.ack .postBeaconTimeslot]),
    (.beaconTimeslot, [.ack .beaconTimeslot]),
    (.preBeaconTimeslot, [.ack .preBeaconTimeslot])]

/-- The body of the loop of `Wifi_Interrupt`, behind the check for interrupts that are left to
handle. -/
def wifiInterrupt (wIF : Finset WifiIrq) : List (Action WifiIrq) :=
  wifiServices.flatMap fun service => if service.1 ∈ wIF then service.2 else []

/-! ## State -/

/-- The interrupts and the RX ring of the hardware. -/
structure RxIrq where
  line : Line WifiIrq
  mac : RxMac
  /-- The last flush has stopped at its limit of packets. -/
  cutShort : Bool

/-- `Wifi_NTR_Start`. It acknowledges everything and sets `W_IE`. -/
def RxIrq.init : RxIrq where
  line := {
    raised := ∅
    enabled := WifiIrq.ofRegister 0x40B3
    flag := false
    position := .away
    unserved := ∅ }
  mac := .init
  cutShort := false

/-- What can happen. -/
inductive RxIrqEvent
  /-- The hardware receives a frame. -/
  | receive (f : RxMacFrame)
  /-- It raises another interrupt. -/
  | raise (i : WifiIrq)
  /-- `Wifi_NTR_Update` sets the bit of `IRQ_MULTIPLAY_CMD_DONE` in `W_IE`. -/
  | cmdDone (enable : Bool)
  /-- The CPU calls `Wifi_Interrupt`. -/
  | interrupt
  /-- `Wifi_NTR_Update` calls `Wifi_RxQueueFlush`. -/
  | rxQueueFlush
  /-- What is running goes on. -/
  | turn

/-- A frame has a header. -/
theorem RxMac.unread_eq_nil {s : RxMac} (h : s.unreadSize = 0) : s.unread = [] := by
  rw [RxMac.unreadSize] at h
  cases hunread : s.unread with
  | nil => rfl
  | cons fa fs =>
    have hpos := fa.1.size_pos
    rw [hunread, List.map_cons, List.sum_cons] at h
    omega

namespace RxIrq

def lineStep (s : RxIrq) (e : Interrupt.Event WifiIrq) : RxIrq :=
  { s with line := s.line.step wifiInterrupt e }

/-- What is running goes on: a flush, or else the handler. -/
def turn (s : RxIrq) : RxIrq :=
  match s.mac.flush with
  | .idle =>
    match s.line.position with
    -- `Wifi_Intr_RxEnd` calls `Wifi_RxQueueFlush`.
    | .serving (.call .rxComplete :: _) =>
      { s.lineStep .turn with mac := rxMacStep s.mac .rxQueueFlush }
    | _ => s.lineStep .turn
  | .loop _ => { s with mac := rxMacStep s.mac .turn, cutShort := false }
  | .handling _ _ cut =>
    { s with
      mac := rxMacStep s.mac .turn
      cutShort := decide (wifiRxPacketsPerInterrupt < cut) }

def step (s : RxIrq) : RxIrqEvent → RxIrq
  | .receive f =>
    -- A frame for which there is no room is lost.
    if s.mac.unreadSize + f.size ≤ rxbufEnd - rxbufBegin then
      { s.lineStep (.raise .rxComplete) with mac := s.mac.append f }
    else s
  | .raise i => s.lineStep (.raise i)
  | .cmdDone enable =>
    s.lineStep (if enable then .enable .multiplayCmdDone else .disable .multiplayCmdDone)
  | .interrupt =>
    match s.mac.flush with
    | .idle => s.lineStep .enter
    | _ => s
  | .rxQueueFlush =>
    match s.line.position with
    | .away => { s with mac := rxMacStep s.mac .rxQueueFlush }
    | _ => s
  | .turn => s.turn

/-- Frames have a payload, and they don't fill the ring to its last byte. -/
def Legal (s : RxIrq) : RxIrqEvent → Prop
  | .receive f => f.payload ≠ [] ∧ s.mac.unreadSize + f.size ≠ rxbufEnd - rxbufBegin
  | .raise i => i ≠ .rxComplete
  | _ => True

instance (s : RxIrq) : (e : RxIrqEvent) → Decidable (s.Legal e)
  | .receive f => inferInstanceAs
      (Decidable (f.payload ≠ [] ∧ s.mac.unreadSize + f.size ≠ rxbufEnd - rxbufBegin))
  | .raise i => inferInstanceAs (Decidable (i ≠ .rxComplete))
  | .cmdDone _ | .interrupt | .rxQueueFlush | .turn => .isTrue trivial

/-- Nothing is running, and the CPU has no interrupt to take. -/
structure Quiet (s : RxIrq) : Prop where
  position : s.line.position = .away
  flag : s.line.flag = false
  flush : s.mac.flush = .idle

/-- What has happened has been handled: nothing keeps the line of the interrupt up,
`Wifi_TxAllQueueFlush` has been called since the last transfer has ended, and
`Wifi_ProcessReceivedFrame` once for each frame, unless the last flush has stopped at its limit. -/
structure Handled (s : RxIrq) : Prop where
  pending : s.line.pending = ∅
  txComplete : .txComplete ∉ s.line.unserved
  frames : s.cutShort = false → List.Forall₂ CallFor s.mac.calls s.mac.appended

/-! ## The invariant -/

/-- The ends of receptions and of transfers are acknowledged before they are handled. -/
theorem acksFirst_wifiInterrupt {i : WifiIrq} (hi : i = .rxComplete ∨ i = .txComplete)
    (wIF : Finset WifiIrq) : AcksFirst i (wifiInterrupt wIF) := by
  have hservices : ∀ service ∈ wifiServices, AcksFirst i service.2 := by
    rcases hi with rfl | rfl <;> decide
  refine AcksFirst.flatMap fun service hservice => ?_
  split
  · exact hservices service hservice
  · trivial

/-- The flush that is running hasn't missed a frame, or the handler will be back for it. -/
def Announced (s : RxIrq) : Prop :=
  s.mac.unread = [] ∨ s.cutShort = true ∨ s.mac.flush ≠ .idle ∨ .rxComplete ∈ s.line.unserved

structure Inv (s : RxIrq) : Prop where
  line : s.line.Inv wifiInterrupt
  mac : ∃ rd, RxMacInv s.mac rd
  payload : ∀ fa ∈ s.mac.unread, fa.1.payload ≠ []
  notFull : s.mac.unreadSize < rxbufSize
  enabled : .rxComplete ∈ s.line.enabled ∧ .txComplete ∈ s.line.enabled
  announced : s.Announced

theorem Inv.init : Inv .init where
  line := ⟨fun _ => .inr rfl, nofun, nofun⟩
  mac := ⟨0, .init⟩
  payload := nofun
  notFull := by decide
  enabled := by decide +kernel
  announced := .inl rfl

variable {s : RxIrq}

theorem Inv.sees (h : s.Inv) (e : RxMacEvent) : StepSeesFrame s.mac e := by
  unfold StepSeesFrame
  split
  · intro fa hfa
    exact ⟨h.payload fa (List.mem_of_mem_head? hfa), h.notFull⟩
  · trivial

/-- The interrupts change, and the ring doesn't. -/
theorem Inv.lineStep (h : s.Inv) (e : Interrupt.Event WifiIrq)
    (henabled : s.line.enabled ⊆ (s.line.step wifiInterrupt e).enabled ∪ {.multiplayCmdDone})
    (hunserved : .rxComplete ∈ s.line.unserved →
      .rxComplete ∈ (s.line.step wifiInterrupt e).unserved) : (s.lineStep e).Inv where
  line := h.line.step e
  mac := h.mac
  payload := h.payload
  notFull := h.notFull
  enabled := by
    have hrx := henabled h.enabled.1
    have htx := henabled h.enabled.2
    simp only [Finset.mem_union, Finset.mem_singleton, reduceCtorEq, or_false] at hrx htx
    exact ⟨hrx, htx⟩
  announced := by
    rcases h.announced with hnone | hcut | hflush | hmem
    · exact .inl hnone
    · exact .inr (.inl hcut)
    · exact .inr (.inr (.inl hflush))
    · exact .inr (.inr (.inr (hunserved hmem)))

theorem Inv.receive (h : s.Inv) {f : RxMacFrame} (hlegal : s.Legal (.receive f)) :
    (s.step (.receive f)).Inv := by
  obtain ⟨hpayload, hne⟩ := hlegal
  obtain ⟨rd, hmac⟩ := h.mac
  unfold RxIrq.step
  dsimp only
  split
  · rename_i hroom
    obtain ⟨addr, hunread⟩ := RxMac.unread_append hmac.passed_le hroom
    have hline := h.line.raise .rxComplete
    refine ⟨hline, ⟨rd, hmac.append f⟩, ?_, ?_, h.enabled, ?_⟩
    · intro fa hfa
      dsimp only at hfa
      rw [hunread] at hfa
      rcases List.mem_append.mp hfa with hold | hnew
      · exact h.payload fa hold
      · rw [List.mem_singleton.mp hnew]
        exact hpayload
    · have hsize : (s.mac.append f).unreadSize = s.mac.unreadSize + f.size := by
        rw [RxMac.unreadSize, hunread, List.map_append, List.sum_append]
        simp [RxMac.unreadSize]
      dsimp only
      rw [hsize]
      exact Nat.lt_of_le_of_ne hroom hne
    · exact .inr (.inr (.inr (Finset.mem_insert_self _ _)))
  · exact h

/-- A flush starts. -/
theorem Inv.startFlush (h : s.Inv) {line : Line WifiIrq} (hline : line.Inv wifiInterrupt)
    (henabled : line.enabled = s.line.enabled) :
    Inv { s with line, mac := rxMacStep s.mac .rxQueueFlush } := by
  obtain ⟨rd, hmac⟩ := h.mac
  have hunread : (rxMacStep s.mac .rxQueueFlush).unread = s.mac.unread := by
    unfold rxMacStep
    dsimp only
    split <;> rfl
  refine ⟨hline, hmac.step .rxQueueFlush (h.sees _), ?_, ?_, ?_, ?_⟩
  · dsimp only
    rw [hunread]
    exact h.payload
  · dsimp only
    rw [RxMac.unreadSize, hunread]
    exact h.notFull
  · dsimp only
    rw [henabled]
    exact h.enabled
  · refine .inr (.inr (.inl ?_))
    dsimp only
    unfold rxMacStep
    dsimp only
    split
    · intro hidle
      cases hidle
    · assumption

/-- The flush looks at the ring. If it stops there, there are no frames. -/
theorem Inv.flushLoop (h : s.Inv) {cut : Nat} (hflush : s.mac.flush = .loop cut) :
    Inv { s with mac := rxMacStep s.mac .turn, cutShort := false } := by
  obtain ⟨rd, hmac⟩ := h.mac
  have hinv := hmac.step .turn (h.sees _)
  have hunread : (s.mac.rxQueueTurn cut).unread = s.mac.unread := by
    unfold RxMac.rxQueueTurn
    split <;> rfl
  rw [RxMacInv.rxMacStep_turn hflush] at hinv ⊢
  refine ⟨h.line, hinv, ?_, ?_, h.enabled, ?_⟩
  · dsimp only
    rw [hunread]
    exact h.payload
  · dsimp only
    rw [RxMac.unreadSize, hunread]
    exact h.notFull
  · by_cases hcursors : s.mac.wrcsr = s.mac.readcsr
    · refine .inl ?_
      rcases hmac.cursors_eq_iff.mp hcursors with hsize | hfull
      · dsimp only
        rw [hunread]
        exact RxMac.unread_eq_nil hsize
      · exact absurd hfull (Nat.ne_of_lt h.notFull)
    · refine .inr (.inr (.inl ?_))
      dsimp only
      rw [RxMac.rxQueueTurn, if_pos hcursors]
      intro hidle
      cases hidle

/-- The flush goes to the next frame. It stops there only at its limit. -/
theorem Inv.flushNext (h : s.Inv) {base packetlen cut : Nat}
    (hflush : s.mac.flush = .handling base packetlen cut) :
    Inv { s with
      mac := rxMacStep s.mac .turn
      cutShort := decide (wifiRxPacketsPerInterrupt < cut) } := by
  obtain ⟨rd, hmac⟩ := h.mac
  have hinv := hmac.step .turn (h.sees _)
  have hstep : rxMacStep s.mac .turn = s.mac.rxQueueNext base packetlen cut := by
    unfold rxMacStep
    rw [hflush]
  have hunread : (s.mac.rxQueueNext base packetlen cut).unread = s.mac.unread.tail :=
    (List.tail_drop ..).symm
  rw [hstep] at hinv ⊢
  refine ⟨h.line, hinv, ?_, ?_, h.enabled, ?_⟩
  · dsimp only
    rw [hunread]
    exact fun fa hfa => h.payload fa (List.mem_of_mem_tail hfa)
  · have hle : (s.mac.unread.tail.map (·.1.size)).sum ≤ s.mac.unreadSize := by
      rw [RxMac.unreadSize]
      cases s.mac.unread with
      | nil => exact Nat.le_refl _
      | cons fa fs => exact Nat.le_add_left ..
    dsimp only
    rw [RxMac.unreadSize, hunread]
    exact Nat.lt_of_le_of_lt hle h.notFull
  · by_cases hlimit : wifiRxPacketsPerInterrupt < cut
    · exact .inr (.inl (decide_eq_true hlimit))
    · refine .inr (.inr (.inl ?_))
      dsimp only
      rw [RxMac.rxQueueNext, if_neg hlimit]
      intro hidle
      cases hidle

theorem Inv.turn (h : s.Inv) : s.turn.Inv := by
  unfold RxIrq.turn
  split
  · split
    · exact h.startFlush (h.line.step .turn) (Line.enabled_turn _)
    · rename_i hcall
      refine h.lineStep .turn ?_ fun hmem => Line.mem_unserved_turn hmem hcall
      rw [Line.enabled_turn]
      exact Finset.subset_union_left
  · exact h.flushLoop ‹_›
  · exact h.flushNext ‹_›

/-- **Every step keeps the invariant.** -/
theorem Inv.step (h : s.Inv) {e : RxIrqEvent} (hlegal : s.Legal e) : (s.step e).Inv := by
  cases e with
  | receive f => exact h.receive hlegal
  | raise i =>
    exact h.lineStep (.raise i) Finset.subset_union_left fun hmem => Finset.mem_insert_of_mem hmem
  | cmdDone enable =>
    cases enable with
    | true =>
      refine h.lineStep (.enable .multiplayCmdDone) ?_ id
      exact (Finset.subset_insert _ _).trans Finset.subset_union_left
    | false =>
      refine h.lineStep (.disable .multiplayCmdDone) ?_ id
      intro i hi
      by_cases hcmd : i = .multiplayCmdDone
      · exact Finset.mem_union_right _ (Finset.mem_singleton.mpr hcmd)
      · exact Finset.mem_union_left _ (Finset.mem_erase.mpr ⟨hcmd, hi⟩)
  | interrupt =>
    unfold RxIrq.step
    dsimp only
    split
    · refine h.lineStep .enter ?_ ?_
      · rw [Line.enabled_enter]
        exact Finset.subset_union_left
      · rw [Line.unserved_enter]
        exact id
    · exact h
  | rxQueueFlush =>
    unfold RxIrq.step
    dsimp only
    split
    · exact h.startFlush h.line rfl
    · exact h
  | turn => exact h.turn

theorem Inv.handled (h : s.Inv) (hquiet : s.Quiet) : s.Handled := by
  obtain ⟨haway, hflag, hflush⟩ := hquiet
  have hserved {i : WifiIrq} (hi : i = .rxComplete ∨ i = .txComplete)
      (henabled : i ∈ s.line.enabled) : i ∉ s.line.unserved :=
    h.line.served haway hflag (acksFirst_wifiInterrupt hi) henabled
  refine ⟨h.line.pending_eq_empty haway hflag, hserved (.inr rfl) h.enabled.2, fun hcut => ?_⟩
  have hunread : s.mac.unread = [] := by
    rcases h.announced with hnone | hset | hrunning | hmem
    · exact hnone
    · rw [hcut] at hset
      cases hset
    · exact absurd hflush hrunning
    · exact absurd hmem (hserved (.inl rfl) h.enabled.1)
  obtain ⟨rd, hmac⟩ := h.mac
  have hcalls := hmac.calls
  have hall : s.mac.appended.length ≤ s.mac.passed := List.drop_eq_nil_iff.mp hunread
  rwa [hmac.phase_idle hflush, List.take_of_length_le hall] at hcalls

end RxIrq

/-- **Interrupts are not lost**, wherever the hardware raises them: when the handler has returned
and the CPU has none to take, everything that has been raised has been handled. -/
theorem interrupts_handled {es : List RxIrqEvent} (hlegal : Along RxIrq.step RxIrq.Legal .init es)
    (hquiet : (run RxIrq.step .init es).Quiet) : (run RxIrq.step .init es).Handled := by
  have hinv := hlegal.inv RxIrq.Inv (fun _ _ h hlegal => h.step hlegal) .init
  exact hinv.handled hquiet

/-- A frame without a body. -/
def shortMacFrame : RxMacFrame where
  head := .replicate 8 0
  tail := .replicate 2 0
  payload := [0x08, 0x02]
  pad := [0, 0]
  length_pad := rfl
  size_lt := by decide

/-- A frame is received, and another one when the handler has acknowledged the first one and is
going to look at the ring. -/
def secondFrame : List RxIrqEvent :=
  [.receive shortMacFrame, .interrupt, .turn, .turn, .turn, .receive shortMacFrame,
    .raise .txComplete] ++ List.replicate 17 .turn

set_option maxRecDepth 8000 in
theorem interrupts_handled_secondFrame : (run RxIrq.step .init secondFrame).Handled :=
  interrupts_handled (by decide) ⟨rfl, rfl, rfl⟩

end Wifi
