import DsWifi.Common.Shared
import DsWifi.Infra.RingQueue
import DsWifi.Infra.Run
import Mathlib.Data.List.FinRange

/-!
# Mailboxes

The mailboxes of lwIP (`source/arm9/lwip/sys.c`) are rings of messages in memory from `malloc`, and
`dswifi_mbox` has the addresses of ten of them. A handle is an index of this table with a constant
in the upper bytes.

The size that is passed to `malloc` is calculated in 32 bits, and nothing looks at whether it has
wrapped.

* `mailboxes_fifo_iff` — the mailboxes are queues of their own until a message is written behind
  the memory that its mailbox has got
-/

namespace Wifi

open Infra Infra.RingQueue

/-! ## Functions -/

/-- `MBOX_NUMBER`. -/
def mboxNumber : Nat := 10

/-- `MBOX_MAGIC`. -/
def mboxMagic : UInt32 := 0xB10C4500

/-- `err_t`, as far as these functions return it. -/
inductive MboxErr
  | ok
  | mem
  | val
  deriving DecidableEq

/-- `dswifi_mbox`, and the words of memory. Each field of `sys_mbox_internal` is a word. -/
structure MboxSys where
  dswifiMbox : Fin mboxNumber → Option Nat
  mem : Nat → Nat

/-- Writes to memory, the first one in front. -/
abbrev Writes : Type := List (Nat × Nat)

def applyWrites (mem : Nat → Nat) (writes : Writes) : Nat → Nat :=
  writes.foldl (fun mem w => Function.update mem w.1 w.2) mem

/-- The number of words that `sys_mbox_new` asks for. -/
def mboxWords (size : Nat) : Nat := u32 (12 + 4 * size) / 4

/-- The index of a handle. An index of `MBOX_NUMBER`, which the check lets through, is behind the
table, and no handle has it. -/
def mboxIndex (value : UInt32) : Option (Fin mboxNumber) :=
  let index := (value &&& 0xFF).toNat
  if value &&& 0xFFFFFF00 ≠ mboxMagic then none
  else if h : index < mboxNumber then some ⟨index, h⟩
  else none

/-- The handle of an index. -/
def mboxHandle (i : Fin mboxNumber) : UInt32 := mboxMagic ||| UInt32.ofNat i.val

/-- What `sys_mbox_new` does. -/
structure NewMbox where
  err : MboxErr
  /-- What is written to `*mbox`, if anything is. -/
  mbox : Option UInt32
  dswifiMbox : Fin mboxNumber → Option Nat
  writes : Writes

namespace MboxSys

/-- `get_mbox`. -/
def getMbox (s : MboxSys) (value : UInt32) : Option Nat := (mboxIndex value).bind s.dswifiMbox

/-- The first free index. -/
def chosen (s : MboxSys) : Option (Fin mboxNumber) :=
  (List.finRange mboxNumber).find? fun i => (s.dswifiMbox i).isNone

/-- `sys_mbox_new`, when `malloc` returns `m`. -/
def new (s : MboxSys) (size : Nat) (m : Option Nat) : NewMbox :=
  match s.chosen with
  | none => { err := .mem, mbox := none, dswifiMbox := s.dswifiMbox, writes := [] }
  | some i =>
    match m with
    | none => { err := .mem, mbox := some 0, dswifiMbox := s.dswifiMbox, writes := [] }
    | some m =>
      { err := .ok
        mbox := some (mboxHandle i)
        dswifiMbox := Function.update s.dswifiMbox i (some m)
        writes := [(m, size), (m + 1, 0), (m + 2, 0)] }

/-- `sys_mbox_trypost`. -/
def trypost (s : MboxSys) (mbox : UInt32) (msg : Nat) : MboxErr × Writes :=
  match s.getMbox mbox with
  | none => (.val, [])
  | some m =>
    let size := s.mem m
    let inPtr := s.mem (m + 1)
    let outPtr := s.mem (m + 2)
    let nextInPtr := if u32 (inPtr + 1) = size then 0 else u32 (inPtr + 1)
    if nextInPtr = outPtr then (.mem, [])
    else (.ok, [(m + 3 + inPtr, msg), (m + 1, nextInPtr)])

/-- `sys_arch_mbox_tryfetch`. It returns nothing for `SYS_MBOX_EMPTY`, else what has been written to
`*msg`. -/
def tryfetch (s : MboxSys) (mbox : UInt32) (isNull : Bool) : Option (Option Nat) × Writes :=
  match s.getMbox mbox with
  | none => (none, [])
  | some m =>
    let size := s.mem m
    let inPtr := s.mem (m + 1)
    let outPtr := s.mem (m + 2)
    if inPtr = outPtr then (none, [])
    else
      let nextOutPtr := if u32 (outPtr + 1) = size then 0 else u32 (outPtr + 1)
      (some (if isNull then none else some (s.mem (m + 3 + outPtr))), [(m + 2, nextOutPtr)])

/-- `sys_mbox_free`. The handle is zero afterwards. -/
def free (s : MboxSys) (mbox : UInt32) : MboxSys :=
  match mboxIndex mbox with
  | none => s
  | some i => { s with dswifiMbox := Function.update s.dswifiMbox i none }

end MboxSys

/-! ## Runs -/

/-- What has happened to a mailbox since `sys_mbox_new`. -/
structure MboxLog where
  size : Nat
  /-- The messages that `sys_mbox_trypost` has accepted. -/
  accepted : List Nat
  /-- The messages that `sys_arch_mbox_tryfetch` has returned, or dropped. -/
  fetched : List (Option Nat)

/-- The mailboxes and their histories. -/
structure LoggedMbox extends MboxSys where
  log : Fin mboxNumber → MboxLog

inductive MboxEvent
  /-- `sys_mbox_new`, with what `malloc` returns. -/
  | new (size : Nat) (m : Option Nat)
  | trypost (mbox : UInt32) (msg : Nat)
  | tryfetch (mbox : UInt32) (isNull : Bool)
  | free (mbox : UInt32)

namespace MboxLog

/-- The number of messages in the mailbox. -/
def held (l : MboxLog) : Nat := l.accepted.length - l.fetched.length

/-- The messages that have been fetched are the ones that were accepted, in order. -/
structure InOrder (l : MboxLog) : Prop where
  length_le : l.fetched.length ≤ l.accepted.length
  eq : ∀ k msg : Nat, l.fetched[k]? = some (some msg) → l.accepted[k]? = some msg

end MboxLog

namespace LoggedMbox

/-- No mailboxes. -/
def init (mem : Nat → Nat) : LoggedMbox where
  dswifiMbox := fun _ => none
  mem
  log := fun _ => { size := 0, accepted := [], fetched := [] }

/-- Change one of the histories. -/
def setLog (log : Fin mboxNumber → MboxLog) (i : Option (Fin mboxNumber))
    (f : MboxLog → MboxLog) : Fin mboxNumber → MboxLog :=
  match i with
  | none => log
  | some i => Function.update log i (f (log i))

/-- The writes to memory of an event. -/
def writes (s : LoggedMbox) : MboxEvent → Writes
  | .new size m => (s.toMboxSys.new size m).writes
  | .trypost mbox msg => (s.toMboxSys.trypost mbox msg).2
  | .tryfetch mbox isNull => (s.toMboxSys.tryfetch mbox isNull).2
  | .free _ => []

/-- The history after an event. -/
def nextLog (s : LoggedMbox) : MboxEvent → Fin mboxNumber → MboxLog
  | .new size m =>
    if (s.toMboxSys.new size m).err = .ok then
      setLog s.log s.chosen fun _ => { size, accepted := [], fetched := [] }
    else s.log
  | .trypost mbox msg =>
    if (s.toMboxSys.trypost mbox msg).1 = .ok then
      setLog s.log (mboxIndex mbox) fun l => { l with accepted := l.accepted ++ [msg] }
    else s.log
  | .tryfetch mbox isNull =>
    match (s.toMboxSys.tryfetch mbox isNull).1 with
    | none => s.log
    | some msg => setLog s.log (mboxIndex mbox) fun l => { l with fetched := l.fetched ++ [msg] }
  | .free _ => s.log

/-- `dswifi_mbox` after an event. -/
def nextTable (s : LoggedMbox) : MboxEvent → Fin mboxNumber → Option Nat
  | .new size m => (s.toMboxSys.new size m).dswifiMbox
  | .free mbox => (s.toMboxSys.free mbox).dswifiMbox
  | _ => s.dswifiMbox

def step (s : LoggedMbox) (e : MboxEvent) : LoggedMbox where
  dswifiMbox := s.nextTable e
  mem := applyWrites s.mem (s.writes e)
  log := s.nextLog e

/-! ## What is promised -/

/-- The memory of a mailbox. -/
def Owns (s : LoggedMbox) (i : Fin mboxNumber) (a : Nat) : Prop :=
  ∃ m, s.dswifiMbox i = some m ∧ m ≤ a ∧ a < m + mboxWords (s.log i).size

/-- A handle is used between its creation and the time it is freed. -/
def IsHandle (s : LoggedMbox) (mbox : UInt32) : Prop :=
  ∃ i, mbox = mboxHandle i ∧ s.dswifiMbox i ≠ none

/-- A mailbox has two places or more, and `malloc` returns memory that is free. Handles are used
while there are their mailboxes. -/
def Legal (s : LoggedMbox) : MboxEvent → Prop
  | .new size m =>
    2 ≤ size ∧ size < 2 ^ 31 ∧
      ∀ a, m = some a → ∀ k < mboxWords size, ∀ i, ¬ s.Owns i (a + k)
  | .trypost mbox _ => s.IsHandle mbox
  | .tryfetch mbox _ => s.IsHandle mbox
  | .free mbox => s.IsHandle mbox

instance (s : LoggedMbox) (i : Fin mboxNumber) (a : Nat) : Decidable (s.Owns i a) :=
  match h : s.dswifiMbox i with
  | none => .isFalse fun ⟨_, hm, _⟩ => nomatch h.symm.trans hm
  | some m =>
    decidable_of_iff (m ≤ a ∧ a < m + mboxWords (s.log i).size)
      ⟨fun ha => ⟨m, h, ha⟩, fun ⟨_, hm, ha⟩ => Option.some_inj.mp (h.symm.trans hm) ▸ ha⟩

instance (s : LoggedMbox) (mbox : UInt32) : Decidable (s.IsHandle mbox) :=
  inferInstanceAs (Decidable (∃ i, mbox = mboxHandle i ∧ s.dswifiMbox i ≠ none))

instance (s : LoggedMbox) : (e : MboxEvent) → Decidable (s.Legal e)
  | .new size none =>
    decidable_of_iff (2 ≤ size ∧ size < 2 ^ 31)
      ⟨fun h => ⟨h.1, h.2, fun _ ha => nomatch ha⟩, fun h => ⟨h.1, h.2.1⟩⟩
  | .new size (some a) =>
    decidable_of_iff
      (2 ≤ size ∧ size < 2 ^ 31 ∧ ∀ k < mboxWords size, ∀ i, ¬ s.Owns i (a + k))
      ⟨fun h => ⟨h.1, h.2.1, fun _ ha => Option.some_inj.mp ha ▸ h.2.2⟩,
        fun h => ⟨h.1, h.2.1, h.2.2 a rfl⟩⟩
  | .trypost mbox _ => inferInstanceAs (Decidable (s.IsHandle mbox))
  | .tryfetch mbox _ => inferInstanceAs (Decidable (s.IsHandle mbox))
  | .free mbox => inferInstanceAs (Decidable (s.IsHandle mbox))

/-! ## What is expected -/

/-- The mailbox that an event is about. -/
def target (s : LoggedMbox) : MboxEvent → Option (Fin mboxNumber)
  | .new _ _ => s.chosen
  | .trypost mbox _ => mboxIndex mbox
  | .tryfetch mbox _ => mboxIndex mbox
  | .free mbox => mboxIndex mbox

/-- The mailbox that an event is about behaves as a queue with `size - 1` places, and the event
leaves the other mailboxes and their memory alone. -/
structure Behaves (s : LoggedMbox) (e : MboxEvent) : Prop where
  trypost : ∀ mbox msg i, e = .trypost mbox msg → mboxIndex mbox = some i →
    (s.toMboxSys.trypost mbox msg).1 =
      if (s.log i).held = (s.log i).size - 1 then .mem else .ok
  tryfetch : ∀ mbox isNull i, e = .tryfetch mbox isNull → mboxIndex mbox = some i →
    ((s.toMboxSys.tryfetch mbox isNull).1 = none ↔ (s.log i).held = 0) ∧
    ∀ msg, (s.toMboxSys.tryfetch mbox isNull).1 = some msg →
      msg = if isNull then none else (s.log i).accepted[(s.log i).fetched.length]?
  inOrder : ∀ i, ((s.step e).log i).InOrder
  new : ∀ size m, e = .new size m →
    ((s.toMboxSys.new size m).err = .ok ↔ (∃ i, s.dswifiMbox i = none) ∧ m ≠ none)
  fresh : ∀ size m mbox, e = .new size m → (s.toMboxSys.new size m).err = .ok →
    (s.toMboxSys.new size m).mbox = some mbox → ¬ s.IsHandle mbox ∧ (s.step e).IsHandle mbox
  count_le : ((List.finRange mboxNumber).filter fun i =>
    ((s.step e).dswifiMbox i).isSome).length ≤ mboxNumber
  inside : ∀ w ∈ s.writes e, ∃ i, s.target e = some i ∧ (s.step e).Owns i w.1
  others : ∀ i, s.target e ≠ some i →
    (s.step e).dswifiMbox i = s.dswifiMbox i ∧ (s.step e).log i = s.log i

/-- A new mailbox has room for its indices, and a message that is accepted is written to a place
that its mailbox has memory for. -/
def HasRoom (s : LoggedMbox) : MboxEvent → Prop
  | .new size m => s.chosen ≠ none → m ≠ none → 3 ≤ mboxWords size
  | .trypost mbox _ => ∀ i m, mboxIndex mbox = some i → s.dswifiMbox i = some m →
      (s.log i).held ≠ (s.log i).size - 1 → 3 + s.mem (m + 1) < mboxWords (s.log i).size
  | _ => True

end LoggedMbox

/-! ## Handles -/

theorem mboxIndex_mboxHandle : ∀ i, mboxIndex (mboxHandle i) = some i := by decide

/-! ## Memory -/

/-- What isn't written stays. -/
theorem applyWrites_of_ne {mem : Nat → Nat} {writes : Writes} {a : Nat}
    (h : ∀ w ∈ writes, w.1 ≠ a) : applyWrites mem writes a = mem a := by
  induction writes generalizing mem with
  | nil => rfl
  | cons w writes ih =>
    rw [List.forall_mem_cons] at h
    exact (ih h.2).trans (Function.update_of_ne h.1.symm w.2 mem)

/-- The messages in a mailbox. -/
def MboxLog.messages (l : MboxLog) : List Nat := l.accepted.drop l.fetched.length

theorem MboxLog.length_messages (l : MboxLog) : l.messages.length = l.held := List.length_drop

/-- A mailbox in memory. -/
structure MboxStored (mem : Nat → Nat) (m : Nat) (l : MboxLog) : Prop where
  size_ge : 2 ≤ l.size
  size_lt : l.size < 2 ^ 31
  words_ge : 3 ≤ mboxWords l.size
  size_eq : mem m = l.size
  holds : Holds l.size (fun k => mem (m + 3 + k)) (mem (m + 1)) (mem (m + 2)) l.messages
  inside : ∀ k < l.held, 3 + place l.size (mem (m + 2)) k < mboxWords l.size

namespace MboxStored

variable {mem mem' : Nat → Nat} {m : Nat} {l : MboxLog}

/-- Only its own memory matters to a mailbox. -/
theorem congr (h : MboxStored mem m l)
    (hsame : ∀ k < mboxWords l.size, mem' (m + k) = mem (m + k)) : MboxStored mem' m l := by
  have hwords := h.words_ge
  have h0 : mem' m = mem m := hsame 0 (by omega)
  have h1 : mem' (m + 1) = mem (m + 1) := hsame 1 (by omega)
  have h2 : mem' (m + 2) = mem (m + 2) := hsame 2 (by omega)
  refine ⟨h.size_ge, h.size_lt, hwords, h0.trans h.size_eq, ?_, ?_⟩
  · rw [h1, h2]
    refine h.holds.congr fun k hk => ?_
    rw [l.length_messages] at hk
    have hlt := h.inside k hk
    rw [Nat.add_assoc]
    exact hsame _ hlt
  · rw [h2]
    exact h.inside

theorem u32_succ {p size : Nat} (hp : p < size) (hsize : size < 2 ^ 31) :
    (if u32 (p + 1) = size then 0 else u32 (p + 1)) = next size p := by
  rw [u32_of_lt (by omega)]
  rfl

/-! What the functions find. -/

variable {s : LoggedMbox} {mbox : UInt32} {i : Fin mboxNumber}

theorem getMbox_eq (hindex : mboxIndex mbox = some i) (hm : s.dswifiMbox i = some m) :
    s.toMboxSys.getMbox mbox = some m := by
  rw [MboxSys.getMbox, hindex]
  exact hm

/-- A message is accepted unless the mailbox is full. -/
theorem trypost_eq (h : MboxStored s.mem m (s.log i)) (hindex : mboxIndex mbox = some i)
    (hm : s.dswifiMbox i = some m) (msg : Nat) :
    s.toMboxSys.trypost mbox msg =
      if (s.log i).held = (s.log i).size - 1 then (.mem, [])
      else (.ok, [(m + 3 + s.mem (m + 1), msg),
        (m + 1, next (s.log i).size (s.mem (m + 1)))]) := by
  have hfull := h.holds.next_eq_iff
  rw [MboxLog.length_messages] at hfull
  unfold MboxSys.trypost
  rw [getMbox_eq hindex hm]
  dsimp only
  rw [h.size_eq, u32_succ h.holds.inPtr_lt h.size_lt]
  exact if_congr hfull rfl rfl

/-- A message is fetched unless the mailbox is empty. -/
theorem tryfetch_eq (h : MboxStored s.mem m (s.log i)) (hindex : mboxIndex mbox = some i)
    (hm : s.dswifiMbox i = some m) (isNull : Bool) :
    s.toMboxSys.tryfetch mbox isNull =
      if (s.log i).held = 0 then (none, [])
      else (some (if isNull then none else (s.log i).accepted[(s.log i).fetched.length]?),
        [(m + 2, next (s.log i).size (s.mem (m + 2)))]) := by
  have hempty := h.holds.eq_iff
  rw [← List.length_eq_zero_iff, MboxLog.length_messages] at hempty
  unfold MboxSys.tryfetch
  rw [getMbox_eq hindex hm]
  dsimp only
  rw [h.size_eq, u32_succ h.holds.outPtr_lt h.size_lt, if_congr hempty rfl rfl]
  by_cases hheld : (s.log i).held = 0
  · rw [if_pos hheld, if_pos hheld]
  · rw [if_neg hheld, if_neg hheld]
    have hpos : 0 < (s.log i).messages.length := by
      rw [MboxLog.length_messages]
      omega
    have hfirst := h.holds.elements 0 hpos
    rw [place_zero h.holds.outPtr_lt, MboxLog.messages, List.getElem?_drop, Nat.add_zero] at hfirst
    rw [hfirst]

/-- **A message goes in.** -/
theorem post (h : MboxStored mem m l) (hlength : l.fetched.length ≤ l.accepted.length)
    (hheld : l.held ≠ l.size - 1) (msg : Nat) (hroom : 3 + mem (m + 1) < mboxWords l.size) :
    MboxStored
      (applyWrites mem [(m + 3 + mem (m + 1), msg), (m + 1, next l.size (mem (m + 1)))]) m
      { l with accepted := l.accepted ++ [msg] } := by
  obtain ⟨hge, hlt, hwords, hsize, hholds, hinside⟩ := h
  have hfull := hholds.next_eq_iff
  rw [MboxLog.length_messages] at hfull
  have hinPtr := hholds.inPtr_eq
  rw [MboxLog.length_messages] at hinPtr
  generalize hmem' : applyWrites mem _ = mem'
  have hother (a : Nat) (harray : m + 3 + mem (m + 1) ≠ a) (hindex : m + 1 ≠ a) :
      mem' a = mem a := by
    rw [← hmem']
    exact applyWrites_of_ne (by simp [harray, hindex])
  have h1 : mem' (m + 1) = next l.size (mem (m + 1)) := by
    rw [← hmem']
    exact Function.update_self ..
  have hnew : mem' (m + 3 + mem (m + 1)) = msg := by
    rw [← hmem']
    exact (Function.update_of_ne (by omega) ..).trans (Function.update_self ..)
  have h2 : mem' (m + 2) = mem (m + 2) := hother _ (by omega) (by omega)
  have hmessages : ({ l with accepted := l.accepted ++ [msg] } : MboxLog).messages =
      l.messages ++ [msg] := List.drop_append_of_le_length hlength
  have hheld' : ({ l with accepted := l.accepted ++ [msg] } : MboxLog).held = l.held + 1 := by
    rw [← MboxLog.length_messages, hmessages, List.length_append, MboxLog.length_messages]
    rfl
  refine ⟨hge, hlt, hwords, (hother _ (by omega) (by omega)).trans hsize, ?_, fun k hk => ?_⟩
  · rw [h1, h2, hmessages]
    refine hholds.push (hfull.not.mpr hheld) (fun p hp => ?_) hnew
    exact hother _ (by omega) (by omega)
  · rw [h2]
    rw [hheld'] at hk
    by_cases hlast : k = l.held
    · rw [hlast, ← hinPtr]
      exact hroom
    · exact hinside k (by omega)

/-- **A message comes out.** -/
theorem fetch (h : MboxStored mem m l) (hheld : l.held ≠ 0) (msg : Option Nat) :
    MboxStored (applyWrites mem [(m + 2, next l.size (mem (m + 2)))]) m
      { l with fetched := l.fetched ++ [msg] } := by
  obtain ⟨hge, hlt, hwords, hsize, hholds, hinside⟩ := h
  have hother (a : Nat) (hindex : m + 2 ≠ a) :
      applyWrites mem [(m + 2, next l.size (mem (m + 2)))] a = mem a :=
    applyWrites_of_ne (by simp [hindex])
  have h2 : applyWrites mem [(m + 2, next l.size (mem (m + 2)))] (m + 2) =
      next l.size (mem (m + 2)) := Function.update_self ..
  have hmessages : ({ l with fetched := l.fetched ++ [msg] } : MboxLog).messages =
      l.messages.tail := by
    rw [MboxLog.messages, MboxLog.messages, List.tail_drop, List.length_append]
    rfl
  have hheld' : ({ l with fetched := l.fetched ++ [msg] } : MboxLog).held = l.held - 1 := by
    rw [← MboxLog.length_messages, hmessages, List.length_tail, MboxLog.length_messages]
  obtain ⟨x, xs, hxs⟩ : ∃ x xs, l.messages = x :: xs := by
    refine List.exists_cons_of_length_pos ?_
    rw [MboxLog.length_messages]
    omega
  refine ⟨hge, hlt, hwords, (hother _ (by omega)).trans hsize, ?_, fun k hk => ?_⟩
  · rw [hother (m + 1) (by omega), h2, hmessages]
    rw [hxs] at hholds ⊢
    refine hholds.pop.2.congr fun k _ => ?_
    exact hother _ (by omega)
  · rw [hheld'] at hk
    have hlt' := hholds.length_lt
    rw [MboxLog.length_messages] at hlt'
    rw [h2, place_next (show k + 1 < l.size by omega)]
    exact hinside (k + 1) (by omega)

/-- A new mailbox is empty. -/
theorem created (mem : Nat → Nat) (m : Nat) {size : Nat} (hge : 2 ≤ size) (hlt : size < 2 ^ 31)
    (hwords : 3 ≤ mboxWords size) :
    MboxStored (applyWrites mem [(m, size), (m + 1, 0), (m + 2, 0)]) m
      { size, accepted := [], fetched := [] } := by
  have h0 : applyWrites mem [(m, size), (m + 1, 0), (m + 2, 0)] m = size := by
    simp [applyWrites]
  have h1 : applyWrites mem [(m, size), (m + 1, 0), (m + 2, 0)] (m + 1) = 0 := by
    simp [applyWrites]
  have h2 : applyWrites mem [(m, size), (m + 1, 0), (m + 2, 0)] (m + 2) = 0 := by
    simp [applyWrites]
  refine ⟨hge, hlt, hwords, h0, ?_, fun k hk => absurd hk (Nat.not_lt_zero k)⟩
  rw [h1, h2]
  exact .nil _ (Nat.zero_lt_of_lt hge)

end MboxStored

/-! ## The table -/

/-- The first free index is free. -/
theorem MboxSys.chosen_spec {s : MboxSys} {i : Fin mboxNumber} (h : s.chosen = some i) :
    s.dswifiMbox i = none := by
  simpa using List.find?_some h

theorem MboxSys.chosen_ne_none_iff {s : MboxSys} :
    s.chosen ≠ none ↔ ∃ i, s.dswifiMbox i = none := by
  simp [MboxSys.chosen]

namespace LoggedMbox

variable {s s' : LoggedMbox} {i j : Fin mboxNumber} {mbox : UInt32}

theorem update_of_some_ne {α : Type} (f : Fin mboxNumber → α) (x : α) (h : some j ≠ some i) :
    Function.update f j x i = f i :=
  Function.update_of_ne (fun hij => h (congrArg some hij.symm)) ..

theorem setLog_of_ne (log : Fin mboxNumber → MboxLog) {target : Option (Fin mboxNumber)}
    (f : MboxLog → MboxLog) (h : target ≠ some i) : setLog log target f i = log i := by
  cases target with
  | none => rfl
  | some j => exact update_of_some_ne log _ h

/-- A handle that is in use is the one of a mailbox. -/
theorem IsHandle.exists (h : s.IsHandle mbox) :
    ∃ i m, mboxIndex mbox = some i ∧ s.dswifiMbox i = some m := by
  obtain ⟨i, rfl, hi⟩ := h
  obtain ⟨m, hm⟩ := Option.ne_none_iff_exists'.mp hi
  exact ⟨i, m, mboxIndex_mboxHandle i, hm⟩

/-! ## All mailboxes -/

/-- The mailboxes are in memory, each in a place of its own. -/
structure Sound (s : LoggedMbox) : Prop where
  inOrder : ∀ i, (s.log i).InOrder
  stored : ∀ i m, s.dswifiMbox i = some m → MboxStored s.mem m (s.log i)
  disjoint : ∀ i j a, s.Owns i a → s.Owns j a → i = j

theorem sound_init (mem : Nat → Nat) : (init mem).Sound where
  inOrder _ := ⟨Nat.le_refl 0, fun _ _ h => nomatch h⟩
  stored _ _ h := nomatch h
  disjoint _ _ _ := fun ⟨_, h, _⟩ => nomatch h

/-- Nothing else changes if one mailbox does, and it keeps away from the memory of the others. -/
theorem Sound.change (h : s.Sound) (i : Fin mboxNumber)
    (htable : ∀ j, j ≠ i → s'.dswifiMbox j = s.dswifiMbox j)
    (hlog : ∀ j, j ≠ i → s'.log j = s.log j)
    (hmem : ∀ j a, j ≠ i → s.Owns j a → s'.mem a = s.mem a)
    (hinOrder : (s'.log i).InOrder)
    (hstored : ∀ m, s'.dswifiMbox i = some m → MboxStored s'.mem m (s'.log i))
    (howns : ∀ j a, s'.Owns i a → s.Owns j a → j = i) : s'.Sound := by
  have hold {j a} (hj : j ≠ i) (ha : s'.Owns j a) : s.Owns j a := by
    rw [Owns, htable j hj, hlog j hj] at ha
    exact ha
  refine ⟨fun j => ?_, fun j m hm => ?_, fun j k a hj hk => ?_⟩
  · by_cases hj : j = i
    · rw [hj]
      exact hinOrder
    · rw [hlog j hj]
      exact h.inOrder j
  · by_cases hj : j = i
    · rw [hj] at hm ⊢
      exact hstored m hm
    · rw [htable j hj] at hm
      rw [hlog j hj]
      exact (h.stored j m hm).congr fun k hk =>
        hmem j _ hj ⟨m, hm, Nat.le_add_right .., Nat.add_lt_add_left hk m⟩
  · by_cases hji : j = i <;> by_cases hki : k = i
    · rw [hji, hki]
    · rw [hji] at hj ⊢
      exact (howns k a hj (hold hki hk)).symm
    · rw [hki] at hk ⊢
      exact howns j a hk (hold hji hj)
    · exact h.disjoint j k a (hold hji hj) (hold hki hk)

/-! What a step does. -/

theorem step_new {size a : Nat} (hi : s.chosen = some i) :
    s.step (.new size (some a)) =
      { dswifiMbox := Function.update s.dswifiMbox i (some a)
        mem := applyWrites s.mem [(a, size), (a + 1, 0), (a + 2, 0)]
        log := Function.update s.log i { size, accepted := [], fetched := [] } } := by
  simp [step, nextTable, writes, nextLog, MboxSys.new, hi, setLog]

theorem step_new_of_none {size : Nat} {m : Option Nat} (h : s.chosen = none ∨ m = none) :
    s.step (.new size m) = s := by
  rcases h with h | rfl
  · simp [step, nextTable, writes, nextLog, MboxSys.new, h, applyWrites]
  · rcases hi : s.chosen with _ | i <;>
      simp [step, nextTable, writes, nextLog, MboxSys.new, hi, applyWrites]

theorem step_trypost {msg : Nat} {writes : Writes} (hi : mboxIndex mbox = some i)
    (h : s.toMboxSys.trypost mbox msg = (.ok, writes)) :
    s.step (.trypost mbox msg) =
      { s with
        mem := applyWrites s.mem writes
        log := Function.update s.log i
          { s.log i with accepted := (s.log i).accepted ++ [msg] } } := by
  simp [step, nextTable, LoggedMbox.writes, nextLog, h, hi, setLog]

theorem step_trypost_of_mem {msg : Nat} (h : s.toMboxSys.trypost mbox msg = (.mem, [])) :
    s.step (.trypost mbox msg) = s := by
  simp [step, nextTable, writes, nextLog, h, applyWrites]

theorem step_tryfetch {isNull : Bool} {msg : Option Nat} {writes : Writes}
    (hi : mboxIndex mbox = some i)
    (h : s.toMboxSys.tryfetch mbox isNull = (some msg, writes)) :
    s.step (.tryfetch mbox isNull) =
      { s with
        mem := applyWrites s.mem writes
        log := Function.update s.log i
          { s.log i with fetched := (s.log i).fetched ++ [msg] } } := by
  simp [step, nextTable, LoggedMbox.writes, nextLog, h, hi, setLog]

theorem step_tryfetch_of_none {isNull : Bool}
    (h : s.toMboxSys.tryfetch mbox isNull = (none, [])) :
    s.step (.tryfetch mbox isNull) = s := by
  simp [step, nextTable, writes, nextLog, h, applyWrites]

theorem step_free (hi : mboxIndex mbox = some i) :
    s.step (.free mbox) =
      { s with dswifiMbox := Function.update s.dswifiMbox i none } := by
  simp [step, nextTable, writes, nextLog, MboxSys.free, hi, applyWrites]

/-! What a step leaves alone. -/

/-- A message goes in at the end of the history. -/
theorem inOrder_post {l : MboxLog} (h : l.InOrder) (msg : Nat) :
    ({ l with accepted := l.accepted ++ [msg] } : MboxLog).InOrder := by
  have hlength : (l.accepted ++ [msg]).length = l.accepted.length + 1 := List.length_append
  refine ⟨hlength ▸ Nat.le_succ_of_le h.length_le, fun k x hk => ?_⟩
  have hold := h.eq k x hk
  rw [List.getElem?_append_left (List.getElem?_eq_some_iff.mp hold).1]
  exact hold

/-- The oldest message comes out. -/
theorem inOrder_fetch {l : MboxLog} (h : l.InOrder) (hheld : l.held ≠ 0) {msg : Option Nat}
    (hmsg : ∀ x, msg = some x → l.accepted[l.fetched.length]? = some x) :
    ({ l with fetched := l.fetched ++ [msg] } : MboxLog).InOrder := by
  have hlength : (l.fetched ++ [msg]).length = l.fetched.length + 1 := List.length_append
  refine ⟨?_, fun k x hk => ?_⟩
  · rw [MboxLog.held] at hheld
    dsimp only
    omega
  · dsimp only at hk
    rcases Nat.lt_trichotomy k l.fetched.length with hlt | rfl | hgt
    · rw [List.getElem?_append_left hlt] at hk
      exact h.eq k x hk
    · rw [List.getElem?_concat_length] at hk
      exact hmsg x (Option.some_inj.mp hk)
    · rw [List.getElem?_eq_none (by omega)] at hk
      cases hk

/-- A write to the memory of one mailbox keeps away from the others. -/
theorem Sound.write_of_ne (h : s.Sound) {writes : Writes}
    (hinside : ∀ w ∈ writes, s.Owns i w.1) {a : Nat} (hji : j ≠ i) (ha : s.Owns j a) :
    applyWrites s.mem writes a = s.mem a := by
  refine applyWrites_of_ne fun w hw heq => hji ?_
  rw [← heq] at ha
  exact h.disjoint j i w.1 ha (hinside w hw)

/-- One mailbox has a new history and new contents. -/
theorem Sound.update (h : s.Sound) {m : Nat} (hm : s.dswifiMbox i = some m) {writes : Writes}
    {l : MboxLog} (hsize : l.size = (s.log i).size) (hinside : ∀ w ∈ writes, s.Owns i w.1)
    (hinOrder : l.InOrder) (hstored : MboxStored (applyWrites s.mem writes) m l) :
    ({ s with mem := applyWrites s.mem writes, log := Function.update s.log i l } :
      LoggedMbox).Sound := by
  refine h.change i (fun _ _ => rfl) (fun j hj => Function.update_of_ne hj ..)
    (fun j a hj ha => h.write_of_ne hinside hj ha) ?_ (fun m' hm' => ?_) fun j a hi hj => ?_
  · dsimp only
    rw [Function.update_self]
    exact hinOrder
  · obtain rfl : m = m' := Option.some_inj.mp (hm.symm.trans hm')
    dsimp only
    rw [Function.update_self]
    exact hstored
  · refine h.disjoint j i a hj ?_
    rw [Owns] at hi
    dsimp only at hi
    rw [Function.update_self, hsize] at hi
    exact hi

theorem owns_iff {m a : Nat} (hm : s.dswifiMbox i = some m) :
    s.Owns i a ↔ m ≤ a ∧ a < m + mboxWords (s.log i).size := by
  rw [Owns, hm]
  constructor
  · rintro ⟨m', hm', ha⟩
    rw [Option.some_inj.mp hm']
    exact ha
  · intro ha
    exact ⟨m, rfl, ha⟩

/-- A new mailbox is in memory that was free. -/
theorem Sound.create (h : s.Sound) {size a : Nat} (hge : 2 ≤ size) (hlt : size < 2 ^ 31)
    (hfree : ∀ k < mboxWords size, ∀ j, ¬ s.Owns j (a + k)) (hwords : 3 ≤ mboxWords size) :
    ({ dswifiMbox := Function.update s.dswifiMbox i (some a)
       mem := applyWrites s.mem [(a, size), (a + 1, 0), (a + 2, 0)]
       log := Function.update s.log i { size, accepted := [], fetched := [] } } :
      LoggedMbox).Sound := by
  refine h.change i (fun j hj => Function.update_of_ne hj ..)
    (fun j hj => Function.update_of_ne hj ..) (fun j b _ hb => applyWrites_of_ne ?_) ?_
    (fun m hm => ?_) fun j b hi hj => ?_
  · have hne (k : Nat) (hk : k < 3) : a + k ≠ b := by
      rintro rfl
      exact hfree k (by omega) j hb
    have h0 : a ≠ b := hne 0 (by omega)
    simp [h0, hne 1, hne 2]
  · dsimp only
    rw [Function.update_self]
    exact ⟨Nat.le_refl 0, fun _ _ hk => nomatch hk⟩
  · dsimp only at hm
    rw [Function.update_self] at hm
    obtain rfl : a = m := Option.some_inj.mp hm
    dsimp only
    rw [Function.update_self]
    exact .created s.mem a hge hlt hwords
  · rw [owns_iff (Function.update_self ..)] at hi
    dsimp only at hi
    rw [Function.update_self] at hi
    dsimp only at hi
    have hb : a + (b - a) = b := by omega
    refine absurd ?_ (hfree (b - a) (by omega) j)
    rw [hb]
    exact hj

/-- A mailbox that is freed has no memory any more. -/
theorem Sound.free (h : s.Sound) (i : Fin mboxNumber) :
    ({ s with dswifiMbox := Function.update s.dswifiMbox i none } : LoggedMbox).Sound := by
  refine h.change i (fun j hj => Function.update_of_ne hj ..) (fun _ _ => rfl)
    (fun _ _ _ _ => rfl) (h.inOrder i) (fun m hm => ?_) fun j a hi _ => ?_
  · dsimp only at hm
    rw [Function.update_self] at hm
    cases hm
  · obtain ⟨m, hm, -⟩ := hi
    dsimp only at hm
    rw [Function.update_self] at hm
    cases hm

/-- The writes of a message that is accepted stay inside. -/
theorem Sound.post_inside (h : s.Sound) {m msg : Nat} (hm : s.dswifiMbox i = some m)
    (hroom : 3 + s.mem (m + 1) < mboxWords (s.log i).size) :
    ∀ w ∈ [(m + 3 + s.mem (m + 1), msg),
      (m + 1, next (s.log i).size (s.mem (m + 1)))], s.Owns i w.1 := by
  have hwords := (h.stored i m hm).words_ge
  intro w hw
  rw [owns_iff hm]
  simp only [List.mem_cons, List.not_mem_nil, or_false] at hw
  rcases hw with rfl | rfl <;> dsimp only <;> omega

/-- The write of a message that is fetched stays inside. -/
theorem Sound.fetch_inside (h : s.Sound) {m : Nat} (hm : s.dswifiMbox i = some m) :
    ∀ w ∈ [(m + 2, next (s.log i).size (s.mem (m + 2)))], s.Owns i w.1 := by
  have hwords := (h.stored i m hm).words_ge
  intro w hw
  rw [owns_iff hm, List.mem_singleton.mp hw]
  dsimp only
  omega

/-- **Each event leaves the mailboxes where they should be.** -/
theorem Sound.step (h : s.Sound) {e : MboxEvent} (hlegal : s.Legal e) (hroom : s.HasRoom e) :
    (s.step e).Sound := by
  cases e with
  | new size m =>
    obtain ⟨hge, hlt, hfree⟩ := hlegal
    rcases hi : s.chosen with _ | i
    · rw [step_new_of_none (.inl hi)]
      exact h
    · rcases m with _ | a
      · rw [step_new_of_none (.inr rfl)]
        exact h
      · rw [step_new hi]
        refine h.create hge hlt (hfree a rfl) (hroom ?_ (Option.some_ne_none a))
        rw [hi]
        exact Option.some_ne_none i
  | trypost mbox msg =>
    obtain ⟨i, m, hi, hm⟩ := hlegal.exists
    have hstored := h.stored i m hm
    have heq := hstored.trypost_eq hi hm msg
    by_cases hheld : (s.log i).held = (s.log i).size - 1
    · rw [if_pos hheld] at heq
      rw [step_trypost_of_mem heq]
      exact h
    · rw [if_neg hheld] at heq
      rw [step_trypost hi heq]
      have hlt := hroom i m hi hm hheld
      exact h.update hm rfl (h.post_inside hm hlt) (inOrder_post (h.inOrder i) msg)
        (hstored.post (h.inOrder i).length_le hheld msg hlt)
  | tryfetch mbox isNull =>
    obtain ⟨i, m, hi, hm⟩ := hlegal.exists
    have hstored := h.stored i m hm
    have heq := hstored.tryfetch_eq hi hm isNull
    by_cases hheld : (s.log i).held = 0
    · rw [if_pos hheld] at heq
      rw [step_tryfetch_of_none heq]
      exact h
    · rw [if_neg hheld] at heq
      rw [step_tryfetch hi heq]
      refine h.update hm rfl (h.fetch_inside hm) (inOrder_fetch (h.inOrder i) hheld ?_)
        (hstored.fetch hheld _)
      intro x hx
      cases isNull with
      | true => cases hx
      | false => exact hx
  | free mbox =>
    obtain ⟨i, m, hi, hm⟩ := hlegal.exists
    rw [step_free hi]
    exact h.free i

/-! ## What the mailboxes do -/

/-- `sys_mbox_new` makes a mailbox if there is an index and there is memory. -/
theorem new_err_eq_ok_iff (size : Nat) (m : Option Nat) :
    (s.toMboxSys.new size m).err = .ok ↔ (∃ i, s.dswifiMbox i = none) ∧ m ≠ none := by
  rw [← MboxSys.chosen_ne_none_iff]
  rcases hi : s.chosen with _ | i
  · simp [MboxSys.new, hi]
  · rcases m with _ | a <;> simp [MboxSys.new, hi]

/-- The handle of a new mailbox wasn't one before. -/
theorem new_mbox_fresh {size : Nat} {m : Option Nat}
    (hok : (s.toMboxSys.new size m).err = .ok)
    (hmbox : (s.toMboxSys.new size m).mbox = some mbox) :
    ¬ s.IsHandle mbox ∧ (s.step (.new size m)).IsHandle mbox := by
  rcases hi : s.chosen with _ | i
  · simp [MboxSys.new, hi] at hok
  rcases m with _ | a
  · simp [MboxSys.new, hi] at hok
  obtain rfl : mboxHandle i = mbox := by simpa [MboxSys.new, hi] using hmbox
  constructor
  · intro hhandle
    obtain ⟨j, m, hj, hm⟩ := hhandle.exists
    rw [mboxIndex_mboxHandle, Option.some_inj] at hj
    rw [← hj, MboxSys.chosen_spec hi] at hm
    cases hm
  · rw [step_new hi]
    refine ⟨i, rfl, ?_⟩
    dsimp only
    rw [Function.update_self]
    exact Option.some_ne_none a

/-- What an event isn't about stays. -/
theorem step_of_ne {e : MboxEvent} (h : s.target e ≠ some i) :
    (s.step e).dswifiMbox i = s.dswifiMbox i ∧ (s.step e).log i = s.log i := by
  cases e with
  | new size m =>
    rcases hi : s.chosen with _ | j
    · rw [step_new_of_none (.inl hi)]
      exact ⟨rfl, rfl⟩
    · rw [target, hi] at h
      rcases m with _ | a
      · rw [step_new_of_none (.inr rfl)]
        exact ⟨rfl, rfl⟩
      · rw [step_new hi]
        exact ⟨update_of_some_ne _ _ h, update_of_some_ne _ _ h⟩
  | trypost mbox msg =>
    refine ⟨rfl, ?_⟩
    dsimp only [LoggedMbox.step, nextLog]
    split
    · exact setLog_of_ne _ _ h
    · rfl
  | tryfetch mbox isNull =>
    refine ⟨rfl, ?_⟩
    dsimp only [LoggedMbox.step, nextLog]
    rcases (s.toMboxSys.tryfetch mbox isNull).1 with _ | msg
    · rfl
    · exact setLog_of_ne _ _ h
  | free mbox =>
    refine ⟨?_, rfl⟩
    rw [target] at h
    rcases hj : mboxIndex mbox with _ | j
    · simp [LoggedMbox.step, nextTable, MboxSys.free, hj]
    · rw [step_free hj]
      rw [hj] at h
      exact update_of_some_ne _ _ h

theorem hasRoom_trypost_iff {m msg : Nat} (hi : mboxIndex mbox = some i)
    (hm : s.dswifiMbox i = some m) :
    s.HasRoom (.trypost mbox msg) ↔ ((s.log i).held ≠ (s.log i).size - 1 →
      3 + s.mem (m + 1) < mboxWords (s.log i).size) := by
  constructor
  · intro h
    exact h i m hi hm
  · intro h j m' hj hm'
    obtain rfl : i = j := Option.some_inj.mp (hi.symm.trans hj)
    obtain rfl : m = m' := Option.some_inj.mp (hm.symm.trans hm')
    exact h

/-- Nothing is written behind the memory of the mailbox. -/
theorem Sound.inside_iff (h : s.Sound) {e : MboxEvent} (hlegal : s.Legal e) :
    (∀ w ∈ s.writes e, ∃ i, s.target e = some i ∧ (s.step e).Owns i w.1) ↔ s.HasRoom e := by
  cases e with
  | new size m =>
    rcases hi : s.chosen with _ | i
    · simp [writes, MboxSys.new, HasRoom, hi]
    rcases m with _ | a
    · simp [writes, MboxSys.new, HasRoom, hi]
    have howns (b : Nat) : (s.step (.new size (some a))).Owns i b ↔
        a ≤ b ∧ b < a + mboxWords size := by
      rw [step_new hi, owns_iff (Function.update_self ..)]
      dsimp only
      rw [Function.update_self]
    simp [writes, MboxSys.new, HasRoom, target, hi, howns]
    omega
  | trypost mbox msg =>
    obtain ⟨i, m, hi, hm⟩ := hlegal.exists
    have heq := (h.stored i m hm).trypost_eq hi hm msg
    rw [hasRoom_trypost_iff hi hm]
    by_cases hheld : (s.log i).held = (s.log i).size - 1
    · rw [if_pos hheld] at heq
      simp [writes, heq, hheld]
    · rw [if_neg hheld] at heq
      have howns (b : Nat) : (s.step (.trypost mbox msg)).Owns i b ↔ s.Owns i b := by
        rw [step_trypost hi heq, Owns]
        dsimp only
        rw [Function.update_self]
        rfl
      have hwords := (h.stored i m hm).words_ge
      simp [writes, target, heq, hi, hheld, howns, owns_iff hm]
      omega
  | tryfetch mbox isNull =>
    obtain ⟨i, m, hi, hm⟩ := hlegal.exists
    have heq := (h.stored i m hm).tryfetch_eq hi hm isNull
    by_cases hheld : (s.log i).held = 0
    · rw [if_pos hheld] at heq
      simp [writes, HasRoom, heq]
    · rw [if_neg hheld] at heq
      have hinside := h.fetch_inside hm
      refine iff_of_true (fun w hw => ⟨i, hi, ?_⟩) trivial
      dsimp only [writes] at hw
      rw [heq] at hw
      have hw' := hinside w hw
      rw [step_tryfetch hi heq, Owns]
      dsimp only
      rw [Function.update_self]
      exact hw'
  | free mbox => exact iff_of_true (fun w hw => nomatch hw) trivial

/-- **Only room is missing.** -/
theorem Sound.behaves_iff (h : s.Sound) {e : MboxEvent} (hlegal : s.Legal e) :
    s.Behaves e ↔ s.HasRoom e := by
  rw [← h.inside_iff hlegal]
  refine ⟨Behaves.inside, fun hinside => ?_⟩
  have hstep : (s.step e).Sound := h.step hlegal ((h.inside_iff hlegal).mp hinside)
  constructor
  case trypost =>
    rintro mbox msg i rfl hi
    obtain ⟨j, m, hj, hm⟩ := hlegal.exists
    obtain rfl : i = j := Option.some_inj.mp (hi.symm.trans hj)
    rw [(h.stored i m hm).trypost_eq hi hm]
    split <;> rfl
  case tryfetch =>
    rintro mbox isNull i rfl hi
    obtain ⟨j, m, hj, hm⟩ := hlegal.exists
    obtain rfl : i = j := Option.some_inj.mp (hi.symm.trans hj)
    rw [(h.stored i m hm).tryfetch_eq hi hm]
    by_cases hheld : (s.log i).held = 0
    · rw [if_pos hheld]
      exact ⟨iff_of_true rfl hheld, fun msg hmsg => nomatch hmsg⟩
    · rw [if_neg hheld]
      exact ⟨iff_of_false (Option.some_ne_none _) hheld,
        fun msg hmsg => (Option.some_inj.mp hmsg).symm⟩
  case inOrder => exact hstep.inOrder
  case new =>
    rintro size m rfl
    exact new_err_eq_ok_iff size m
  case fresh =>
    rintro size m mbox rfl hok hmbox
    exact new_mbox_fresh hok hmbox
  case count_le =>
    exact (List.length_filter_le ..).trans_eq List.length_finRange
  case inside => exact hinside
  case others => exact fun i hi => step_of_ne hi

/-! ## All runs -/

/-! ## Small mailboxes -/

/-- The size of the memory of a new mailbox doesn't wrap. -/
def Small (e : MboxEvent) : Prop := ∀ size m, e = .new size m → 12 + 4 * size < 2 ^ 32

theorem mboxWords_of_small {size : Nat} (h : 12 + 4 * size < 2 ^ 32) :
    mboxWords size = 3 + size := by
  rw [mboxWords, u32_of_lt h]
  omega

/-- All mailboxes are small. -/
structure Fits (s : LoggedMbox) : Prop where
  sound : s.Sound
  small : ∀ i, 12 + 4 * (s.log i).size < 2 ^ 32

/-- There is room in small mailboxes. -/
theorem Fits.hasRoom (h : s.Fits) {e : MboxEvent} (hsmall : Small e) : s.HasRoom e := by
  cases e with
  | new size m =>
    intro _ _
    rw [mboxWords_of_small (hsmall size m rfl)]
    omega
  | trypost mbox msg =>
    intro i m _ hm _
    have hlt := (h.sound.stored i m hm).holds.inPtr_lt
    rw [mboxWords_of_small (h.small i)]
    omega
  | tryfetch mbox isNull => trivial
  | free mbox => trivial

/-- The size of a mailbox is the one it has been created with. -/
theorem size_step (s : LoggedMbox) (e : MboxEvent) (i : Fin mboxNumber) :
    ((s.step e).log i).size = (s.log i).size ∨
      ∃ size m, e = .new size m ∧ ((s.step e).log i).size = size := by
  by_cases hi : s.target e = some i
  · cases e with
    | new size m =>
      rcases m with _ | a
      · rw [step_new_of_none (.inr rfl)]
        exact .inl rfl
      · rw [step_new hi]
        refine .inr ⟨size, some a, rfl, ?_⟩
        dsimp only
        rw [Function.update_self]
    | trypost mbox msg =>
      left
      rw [target] at hi
      dsimp only [LoggedMbox.step, nextLog]
      rw [hi]
      split
      · rw [setLog, Function.update_self]
      · rfl
    | tryfetch mbox isNull =>
      left
      rw [target] at hi
      dsimp only [LoggedMbox.step, nextLog]
      rw [hi]
      rcases (s.toMboxSys.tryfetch mbox isNull).1 with _ | msg
      · rfl
      · dsimp only
        rw [setLog, Function.update_self]
    | free mbox => exact .inl rfl
  · rw [(step_of_ne hi).2]
    exact .inl rfl

/-- Small mailboxes stay small. -/
theorem Fits.step (h : s.Fits) {e : MboxEvent} (hlegal : s.Legal e) (hsmall : Small e) :
    (s.step e).Fits := by
  refine ⟨h.sound.step hlegal (h.hasRoom hsmall), fun i => ?_⟩
  rcases size_step s e i with hsame | ⟨size, m, rfl, hnew⟩
  · rw [hsame]
    exact h.small i
  · rw [hnew]
    exact hsmall size m rfl

/-- **Small mailboxes are queues.** -/
theorem behaves_of_small (mem : Nat → Nat) {es : List MboxEvent}
    (hlegal : Along LoggedMbox.step LoggedMbox.Legal (init mem) es)
    (hsmall : ∀ e ∈ es, Small e) :
    Along LoggedMbox.step LoggedMbox.Behaves (init mem) es := by
  have hinit : (init mem).Fits := ⟨sound_init mem, fun _ => show 12 + 4 * 0 < 2 ^ 32 by decide⟩
  refine Along.of_inv Fits (fun s e h hq => h.step hq.1 hq.2) (fun s e h hq => ?_) hinit
    (hlegal.and_forall hsmall)
  exact (h.sound.behaves_iff hq.1).mpr (h.hasRoom hq.2)

/-- **The mailboxes are queues exactly if** they have room: in a run in which they are used as they
should be, they don't affect each other and keep the order of the messages if and only if each of
them has memory for its indices, and for the places that messages are written to. They have if they
are small. -/
theorem mailboxes_fifo_iff (mem : Nat → Nat) (es : List MboxEvent)
    (hlegal : Along LoggedMbox.step LoggedMbox.Legal (init mem) es) :
    (Along LoggedMbox.step LoggedMbox.Behaves (init mem) es ↔
        Along LoggedMbox.step LoggedMbox.HasRoom (init mem) es) ∧
      ((∀ e ∈ es, Small e) → Along LoggedMbox.step LoggedMbox.Behaves (init mem) es) :=
  ⟨along_iff_of_legal Sound (fun _ _ h hlegal hroom => h.step hlegal hroom)
      (fun _ _ h hlegal => h.behaves_iff hlegal) (sound_init mem) hlegal,
    behaves_of_small mem hlegal⟩

/-- A mailbox with three places that wraps around, is freed, and whose index is used again. -/
def reusedMbox : List MboxEvent :=
  [.new 3 (some 16), .trypost 0xB10C4500 1, .trypost 0xB10C4500 2, .trypost 0xB10C4500 3,
    .tryfetch 0xB10C4500 false, .trypost 0xB10C4500 4, .tryfetch 0xB10C4500 true,
    .tryfetch 0xB10C4500 false, .free 0xB10C4500, .new 2 (some 17)]

theorem mailboxes_fifo_iff_reused :
    Along LoggedMbox.step LoggedMbox.Legal (init fun _ => 0) reusedMbox ∧
      (Along LoggedMbox.step LoggedMbox.Behaves (init fun _ => 0) reusedMbox ↔
        Along LoggedMbox.step LoggedMbox.HasRoom (init fun _ => 0) reusedMbox) ∧
      Along LoggedMbox.step LoggedMbox.Behaves (init fun _ => 0) reusedMbox := by
  have hlegal : Along LoggedMbox.step LoggedMbox.Legal (init fun _ => 0) reusedMbox := by
    decide +kernel
  have hsmall : ∀ e ∈ reusedMbox, Small e := by
    rintro e he size m rfl
    simp only [reusedMbox, List.mem_cons, MboxEvent.new.injEq, reduceCtorEq, false_or,
      List.not_mem_nil, or_false] at he
    omega
  obtain ⟨hiff, hqueues⟩ := mailboxes_fifo_iff _ _ hlegal
  exact ⟨hlegal, hiff, hqueues hsmall⟩

/-- Two mailboxes next to each other. The first one is so large that `malloc` is asked for 12 bytes
only, and a message for it is written to the size of the second one, which is empty and doesn't
accept a message any more. -/
def wrappedMbox : List MboxEvent :=
  [.new (2 ^ 30) (some 16), .new 4 (some 19), .trypost 0xB10C4500 1, .trypost 0xB10C4501 2]

theorem wrappedMbox_full :
    Along LoggedMbox.step LoggedMbox.Legal (init fun _ => 0) wrappedMbox ∧
      ¬ Along LoggedMbox.step LoggedMbox.Behaves (init fun _ => 0) wrappedMbox := by
  refine ⟨by decide +kernel, fun h => ?_⟩
  have hlast := h.2.2.2.1.trypost 0xB10C4501 2 ⟨1, by decide⟩ rfl (by decide)
  revert hlast
  decide +kernel

end LoggedMbox

end Wifi
