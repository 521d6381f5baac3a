import DsWifi.Infra.Run
import Mathlib.Data.List.Nodup
import Mathlib.Logic.Function.Basic

/-!
# The spinlock

`source/common/spinlock.s`. The lock is a word of memory with the value of its owner in it. A failed
`SLasm_Acquire` can overwrite the word for a while: it looks at the word, swaps its own value in,
and swaps what it has got back. Each `ldr` and each `swp` is one step, and the steps of the
contenders come in any order.

* `spinlock_kept_iff` — the lock is kept in all runs in which nobody releases it while a failed
  attempt is under way, and failed attempts that overlap put the word back in the opposite order
* `spinlock_stuck` — nobody ever gets a lock that has been lost
-/

namespace Wifi

open Infra

/-! ## Steps -/

/-- `SPINLOCK_OWNER_NOBODY`. -/
def spinlockOwnerNobody : UInt32 := 0x0000

/-- `SPINLOCK_OWNER_ARM7`. -/
def spinlockOwnerArm7 : UInt32 := 0x0001

/-- `SPINLOCK_OWNER_ARM9`. -/
def spinlockOwnerArm9 : UInt32 := 0x0002

/-- `SPINLOCK_OK`, `SPINLOCK_INUSE` and `SPINLOCK_ERROR`. -/
inductive SpinlockResult
  | ok
  | inuse
  | error
  deriving DecidableEq

/-- The end of one of the functions, with its result. -/
inductive SpinlockReturn
  | acquire (result : SpinlockResult)
  | release (result : SpinlockResult)
  deriving DecidableEq

/-- What a contender does next. -/
inductive SpinlockPc
  /-- It doesn't have the lock. Next is the `ldr` of `SLasm_Acquire`. -/
  | outside
  /-- The first `swp` of `SLasm_Acquire`. -/
  | acquireSwap
  /-- The second `swp` of `SLasm_Acquire`, with the value that the first one has got. -/
  | acquireRestore (old : UInt32)
  /-- It has the lock. Next is the `ldr` of `SLasm_Release`. -/
  | inside
  /-- The `swp` of `SLasm_Release`. -/
  | releaseSwap
  deriving DecidableEq

/-- `SLasm_Acquire` and `SLasm_Release`, up to the next access to the lock. -/
def slStep (own lock : UInt32) : SpinlockPc → UInt32 × SpinlockPc × Option SpinlockReturn
  | .outside =>
    if lock ≠ spinlockOwnerNobody then (lock, .outside, some (.acquire .inuse))
    else (lock, .acquireSwap, none)
  | .acquireSwap =>
    if lock = spinlockOwnerNobody ∨ lock = own then (own, .inside, some (.acquire .ok))
    else (own, .acquireRestore lock, none)
  -- Nobody looks at what the second `swp` has got.
  | .acquireRestore old => (old, .outside, some (.acquire .inuse))
  | .inside =>
    if lock ≠ own then (lock, .outside, some (.release .error)) else (lock, .releaseSwap, none)
  | .releaseSwap =>
    (spinlockOwnerNobody, .outside, some (.release (if lock = own then .ok else .error)))

/-- Those that use the lock. Each one has a value of its own. -/
structure Contenders (ι : Type) where
  owner : ι → UInt32
  injective : Function.Injective owner
  ne_nobody : ∀ i, owner i ≠ spinlockOwnerNobody

/-- The lock, and where the contenders are. -/
structure Spinlock (ι : Type) where
  lock : UInt32
  pc : ι → SpinlockPc

variable {ι : Type} [DecidableEq ι]

namespace Spinlock

def init : Spinlock ι := ⟨spinlockOwnerNobody, fun _ => .outside⟩

/-- Mutual exclusion, and a lock that nobody uses is free. -/
structure Sound (s : Spinlock ι) : Prop where
  exclusive : ∀ i j, s.pc i = .inside → s.pc j = .inside → i = j
  free : (∀ i, s.pc i = .outside) → s.lock = spinlockOwnerNobody

/-- The lock isn't being released while a failed attempt is under way. -/
def Undisturbed (s : Spinlock ι) (i : ι) : Prop :=
  s.pc i = .inside ∨ s.pc i = .releaseSwap → ∀ j old, s.pc j ≠ .acquireRestore old

end Spinlock

namespace Contenders

variable (c : Contenders ι)

/-- A contender goes on. -/
def step (s : Spinlock ι) (i : ι) : Spinlock ι × Option SpinlockReturn :=
  let (lock, pc, returned) := slStep (c.owner i) s.lock (s.pc i)
  (⟨lock, Function.update s.pc i pc⟩, returned)

def next (s : Spinlock ι) (i : ι) : Spinlock ι := (c.step s i).1

/-- The lock isn't lost in this step: a release by the holder succeeds. -/
def KeepsLock (s : Spinlock ι) (i : ι) : Prop :=
  (c.step s i).2 ≠ some (.release .error) ∧ (c.next s i).Sound

/-- Of the failed attempts that overlap the last one is the first to put the word back. -/
def Nested (s : Spinlock ι) (i : ι) : Prop :=
  ∀ old, s.pc i = .acquireRestore old → s.lock = c.owner i

/-! ## The word while attempts fail -/

/-- What the word is if these contenders have written their values, the last one first. -/
def word : List ι → UInt32
  | [] => spinlockOwnerNobody
  | p :: _ => c.owner p

/-- Each contender puts the value of the one before it back. The first one has the lock. -/
def Linked (pc : ι → SpinlockPc) : List ι → Prop
  | [] => True
  | [h] => pc h = .inside ∨ pc h = .releaseSwap
  | p :: q :: ps => pc p = .acquireRestore (c.owner q) ∧ Linked pc (q :: ps)

/-- The contenders whose values are in the word or are going to be put back. -/
structure Chain (s : Spinlock ι) (ps : List ι) : Prop where
  lock : s.lock = c.word ps
  nodup : ps.Nodup
  mem : ∀ i, i ∈ ps ↔ s.pc i ≠ .outside ∧ s.pc i ≠ .acquireSwap
  linked : c.Linked s.pc ps

variable {c} {s : Spinlock ι} {ps : List ι} {i j : ι}

omit [DecidableEq ι] in
theorem Linked.congr {pc pc' : ι → SpinlockPc} (h : c.Linked pc ps)
    (hpc : ∀ i ∈ ps, pc' i = pc i) : c.Linked pc' ps := by
  induction ps with
  | nil => trivial
  | cons p ps ih =>
    cases ps with
    | nil => rwa [Linked, hpc p (List.mem_singleton_self p)]
    | cons q ps =>
      obtain ⟨hp, hq⟩ := h
      exact ⟨by rw [hpc p (List.mem_cons_self ..), hp],
        ih hq fun i hi => hpc i (List.mem_cons_of_mem _ hi)⟩

omit [DecidableEq ι] in
/-- The one that has the lock is the first one of the chain. -/
theorem Linked.getLast {pc : ι → SpinlockPc} (h : c.Linked pc ps) (hi : i ∈ ps)
    (hpc : pc i = .inside ∨ pc i = .releaseSwap) : ps.getLast? = some i := by
  induction ps with
  | nil => cases hi
  | cons p ps ih =>
    cases ps with
    | nil => rw [List.mem_singleton.mp hi]; rfl
    | cons q ps =>
      obtain ⟨hp, hq⟩ := h
      rcases List.mem_cons.mp hi with rfl | hi
      · rw [hp] at hpc
        simp at hpc
      · rw [List.getLast?_cons_cons]
        exact ih hq hi

omit [DecidableEq ι] in
/-- All others have failed. -/
theorem Linked.eq_or_restores {pc : ι → SpinlockPc} (h : c.Linked pc ps) (hi : i ∈ ps)
    (hpc : pc i = .inside ∨ pc i = .releaseSwap) (hj : j ∈ ps) :
    j = i ∨ ∃ old, pc j = .acquireRestore old := by
  induction ps with
  | nil => cases hi
  | cons p ps ih =>
    cases ps with
    | nil => exact .inl ((List.mem_singleton.mp hj).trans (List.mem_singleton.mp hi).symm)
    | cons q ps =>
      obtain ⟨hp, hq⟩ := h
      rcases List.mem_cons.mp hi with rfl | hi
      · rw [hp] at hpc
        simp at hpc
      · rcases List.mem_cons.mp hj with rfl | hj
        · exact .inr ⟨_, hp⟩
        · exact ih hq hi hj

namespace Chain

omit [DecidableEq ι] in
theorem sound (h : c.Chain s ps) : s.Sound where
  exclusive := by
    intro i j hi hj
    have hlast := h.linked.getLast ((h.mem i).mpr (by simp [hi])) (.inl hi)
    rw [h.linked.getLast ((h.mem j).mpr (by simp [hj])) (.inl hj)] at hlast
    exact (Option.some.inj hlast).symm
  free := by
    intro hout
    cases ps with
    | nil => exact h.lock
    | cons p ps => exact absurd (hout p) ((h.mem p).mp (List.mem_cons_self ..)).1

omit [DecidableEq ι] in
theorem owner_eq_lock (h : c.Chain s ps) (hi : s.lock = c.owner i) : ∃ qs, ps = i :: qs := by
  rw [h.lock] at hi
  cases ps with
  | nil => exact absurd hi.symm (c.ne_nobody i)
  | cons p ps => exact ⟨ps, by rw [c.injective hi]⟩

omit [DecidableEq ι] in
/-- While no attempt fails only the holder is in the chain. -/
theorem eq_singleton (h : c.Chain s ps) (hi : s.pc i = .inside ∨ s.pc i = .releaseSwap)
    (hfails : ∀ j old, s.pc j ≠ .acquireRestore old) : ps = [i] := by
  have hmem : i ∈ ps := (h.mem i).mpr (by rcases hi with hi | hi <;> simp [hi])
  have hall : ∀ j ∈ ps, j = i := by
    intro j hj
    rcases h.linked.eq_or_restores hmem hi hj with rfl | ⟨old, hold⟩
    · rfl
    · exact absurd hold (hfails j old)
  cases ps with
  | nil => cases hmem
  | cons p qs =>
    cases qs with
    | nil => rw [hall p (List.mem_singleton_self p)]
    | cons q qs =>
      have hp := hall p (List.mem_cons_self ..)
      have hq := hall q (List.mem_cons_of_mem _ (List.mem_cons_self ..))
      have hnodup := (List.nodup_cons.mp h.nodup).1
      rw [hp, hq] at hnodup
      exact absurd (List.mem_cons_self ..) hnodup

omit [DecidableEq ι] in
/-- The one that puts the word back is the last one of the chain if its value is still there. -/
theorem eq_cons_cons (h : c.Chain s ps) {old : UInt32} (hi : s.pc i = .acquireRestore old)
    (hlock : s.lock = c.owner i) : ∃ q qs, ps = i :: q :: qs ∧ old = c.owner q := by
  obtain ⟨qs, rfl⟩ := h.owner_eq_lock hlock
  cases qs with
  | nil =>
    have hlinked := h.linked
    simp [Linked, hi] at hlinked
  | cons q qs =>
    obtain ⟨hq, -⟩ := h.linked
    rw [hi] at hq
    exact ⟨q, qs, rfl, SpinlockPc.acquireRestore.inj hq⟩

/-! ## One step -/

/-- The chain after a step of a contender outside of it that stays outside. -/
theorem update_outside (h : c.Chain s ps) {pc : SpinlockPc} (hi : i ∉ ps)
    (hpc : pc = .outside ∨ pc = .acquireSwap) :
    c.Chain ⟨s.lock, Function.update s.pc i pc⟩ ps where
  lock := h.lock
  nodup := h.nodup
  mem := by
    intro j
    rcases eq_or_ne j i with rfl | hj
    · rcases hpc with rfl | rfl <;> simp [hi]
    · simp [Function.update_of_ne hj, h.mem j]
  linked := h.linked.congr fun j hj => Function.update_of_ne (ne_of_mem_of_not_mem hj hi) _ _

/-- A contender writes its value. -/
theorem push (h : c.Chain s ps) {pc : SpinlockPc} (hi : i ∉ ps)
    (hpc : c.Linked (Function.update s.pc i pc) (i :: ps))
    (hbusy : pc ≠ .outside ∧ pc ≠ .acquireSwap) :
    c.Chain ⟨c.owner i, Function.update s.pc i pc⟩ (i :: ps) where
  lock := rfl
  nodup := List.nodup_cons.mpr ⟨hi, h.nodup⟩
  mem := by
    intro j
    rcases eq_or_ne j i with rfl | hj
    · simpa using hbusy
    · simp [hj, h.mem j]
  linked := hpc

/-- The holder starts to release the lock. -/
theorem hold (h : c.Chain s [i]) :
    c.Chain ⟨s.lock, Function.update s.pc i .releaseSwap⟩ [i] where
  lock := h.lock
  nodup := h.nodup
  mem := by
    intro j
    rcases eq_or_ne j i with rfl | hj
    · simp
    · simpa [Function.update_of_ne hj] using h.mem j
  linked := by simp [Linked]

/-- The last contender of the chain leaves it. -/
theorem pop (h : c.Chain s (i :: ps)) :
    c.Chain ⟨c.word ps, Function.update s.pc i .outside⟩ ps where
  lock := rfl
  nodup := (List.nodup_cons.mp h.nodup).2
  mem := by
    intro j
    have hmem := h.mem j
    rcases eq_or_ne j i with rfl | hj
    · simpa using (List.nodup_cons.mp h.nodup).1
    · simpa [Function.update_of_ne hj, hj] using hmem
  linked := by
    have hi := (List.nodup_cons.mp h.nodup).1
    have hlinked : c.Linked s.pc ps := by
      cases ps with
      | nil => trivial
      | cons q qs => exact h.linked.2
    exact hlinked.congr fun j hj => Function.update_of_ne (ne_of_mem_of_not_mem hj hi) _ _

end Chain

theorem step_eq {s : Spinlock ι} {lock : UInt32} {pc : SpinlockPc}
    {returned : Option SpinlockReturn}
    (h : slStep (c.owner i) s.lock (s.pc i) = (lock, pc, returned)) :
    c.step s i = (⟨lock, Function.update s.pc i pc⟩, returned) := by
  rw [step, h]

/-- A step that disturbs nobody keeps the chain. -/
theorem Chain.step (h : c.Chain s ps) (hu : s.Undisturbed i) (hn : c.Nested s i) :
    (c.step s i).2 ≠ some (.release .error) ∧ ∃ qs, c.Chain (c.next s i) qs := by
  have hmem := h.mem i
  unfold Contenders.next
  cases hi : s.pc i with
  | outside =>
    have hps : i ∉ ps := by simp [hmem, hi]
    by_cases hlock : s.lock = spinlockOwnerNobody
    · rw [step_eq (by rw [hi, slStep, if_neg (not_not_intro hlock)])]
      exact ⟨by simp, ps, h.update_outside hps (.inr rfl)⟩
    · rw [step_eq (by rw [hi, slStep, if_pos hlock])]
      exact ⟨by simp, ps, h.update_outside hps (.inl rfl)⟩
  | acquireSwap =>
    have hps : i ∉ ps := by simp [hmem, hi]
    cases ps with
    | nil =>
      have hlock : s.lock = spinlockOwnerNobody := h.lock
      rw [step_eq (by rw [hi, slStep, if_pos (.inl hlock)])]
      exact ⟨by simp, [i], h.push hps (by simp [Linked]) (by simp)⟩
    | cons q qs =>
      -- The word is in use, so the attempt fails.
      have hlock : s.lock = c.owner q := h.lock
      have hfails : ¬ (s.lock = spinlockOwnerNobody ∨ s.lock = c.owner i) := by
        rw [hlock]
        rintro (hq | hq)
        · exact c.ne_nobody q hq
        · exact hps (c.injective hq ▸ List.mem_cons_self ..)
      rw [step_eq (by rw [hi, slStep, if_neg hfails])]
      refine ⟨by simp, i :: q :: qs, h.push hps ⟨by simp [hlock], ?_⟩ (by simp)⟩
      exact h.linked.congr fun j hj => Function.update_of_ne (ne_of_mem_of_not_mem hj hps) _ _
  | acquireRestore old =>
    -- Nobody has written to the word since.
    obtain ⟨q, qs, rfl, rfl⟩ := h.eq_cons_cons hi (hn old hi)
    rw [step_eq (by rw [hi, slStep])]
    exact ⟨by simp, q :: qs, h.pop⟩
  | inside =>
    -- No attempt is failing, so the value in the word is the holder's.
    obtain rfl := h.eq_singleton (.inl hi) (hu (.inl hi))
    have hlock : s.lock = c.owner i := h.lock
    rw [step_eq (by rw [hi, slStep, if_neg (not_not_intro hlock)])]
    exact ⟨by simp, [i], h.hold⟩
  | releaseSwap =>
    obtain rfl := h.eq_singleton (.inr hi) (hu (.inr hi))
    have hlock : s.lock = c.owner i := h.lock
    rw [step_eq (by rw [hi, slStep, if_pos hlock])]
    exact ⟨by simp, [], h.pop⟩

omit [DecidableEq ι] in
/-- While an attempt fails the value of the holder isn't in the word. -/
theorem Chain.lock_ne (h : c.Chain s ps) (hi : s.pc i = .inside ∨ s.pc i = .releaseSwap)
    {old : UInt32} (hj : s.pc j = .acquireRestore old) : s.lock ≠ c.owner i := by
  intro hlock
  obtain ⟨qs, rfl⟩ := h.owner_eq_lock hlock
  cases qs with
  | nil =>
    obtain rfl := List.mem_singleton.mp ((h.mem j).mpr (by simp [hj]))
    rw [hj] at hi
    simp at hi
  | cons q qs =>
    obtain ⟨hq, -⟩ := h.linked
    rw [hq] at hi
    simp at hi

/-- The release of a lock fails while an attempt fails. -/
theorem Chain.undisturbed (h : c.Chain s ps) (hkept : (c.step s i).2 ≠ some (.release .error)) :
    s.Undisturbed i := by
  intro hi j old hj
  have hlock := h.lock_ne hi hj
  rcases hi with hi | hi
  · rw [step_eq (by rw [hi, slStep, if_pos hlock])] at hkept
    exact hkept rfl
  · rw [step_eq (by rw [hi, slStep, if_neg hlock])] at hkept
    exact hkept rfl

omit [DecidableEq ι] in
/-- The failed attempts of two contenders don't overlap: one of them has the lock. -/
theorem Chain.nested_of_two (h : c.Chain s ps) (htwo : ∀ i j k : ι, i = j ∨ i = k ∨ j = k) :
    c.Nested s i := by
  intro old hi
  have hmem : i ∈ ps := (h.mem i).mpr (by simp [hi])
  obtain ⟨hlock, hnodup, -, hlinked⟩ := h
  rcases ps with - | ⟨p, - | ⟨q, - | ⟨r, ps⟩⟩⟩
  · cases hmem
  · rw [List.mem_singleton.mp hmem, hlock]
    rfl
  · rcases List.mem_cons.mp hmem with rfl | hmem
    · exact hlock
    · obtain ⟨-, hq⟩ := hlinked
      rw [← List.mem_singleton.mp hmem, Linked, hi] at hq
      simp at hq
  · have hthree := htwo p q r
    simp at hnodup
    tauto

end Contenders

/-! ## All runs -/

namespace Contenders

/-- The lock isn't lost in this run. -/
def Kept (c : Contenders ι) (es : List ι) : Prop :=
  (Spinlock.init : Spinlock ι).Sound ∧ Along c.next c.KeepsLock .init es

/-- Nobody releases the lock while a failed attempt is under way, and failed attempts are nested. -/
def Apart (c : Contenders ι) (es : List ι) : Prop :=
  Along c.next (fun s i => s.Undisturbed i ∧ c.Nested s i) .init es

omit [DecidableEq ι] in
theorem chain_init (c : Contenders ι) : c.Chain .init [] where
  lock := rfl
  nodup := List.nodup_nil
  mem := by simp [Spinlock.init]
  linked := trivial

theorem Chain.keepsLock {c : Contenders ι} {s : Spinlock ι} {ps : List ι} {i : ι}
    (h : c.Chain s ps) (hu : s.Undisturbed i) (hn : c.Nested s i) : c.KeepsLock s i := by
  obtain ⟨hreturned, qs, hqs⟩ := h.step hu hn
  exact ⟨hreturned, hqs.sound⟩

end Contenders

/-- **The lock is kept if nobody releases it while a failed attempt is under way**, and failed
attempts are nested. With two contenders it is kept in these runs only. -/
theorem spinlock_kept_iff (c : Contenders ι) (es : List ι) :
    (c.Apart es → c.Kept es) ∧
      ((∀ i j k : ι, i = j ∨ i = k ∨ j = k) → c.Kept es → c.Apart es) := by
  have hinv : ∀ s i, (∃ ps, c.Chain s ps) → s.Undisturbed i ∧ c.Nested s i →
      ∃ ps, c.Chain (c.next s i) ps := by
    rintro s i ⟨ps, h⟩ ⟨hu, hn⟩
    exact (h.step hu hn).2
  constructor
  · intro hapart
    refine ⟨c.chain_init.sound, hapart.of_inv _ hinv ?_ ⟨[], c.chain_init⟩⟩
    rintro s i ⟨ps, h⟩ ⟨hu, hn⟩
    exact h.keepsLock hu hn
  · rintro htwo ⟨-, hkept⟩
    refine (along_iff _ hinv ?_ es ⟨[], c.chain_init⟩).mp hkept
    rintro s i ⟨ps, h⟩
    constructor
    · intro hkeeps
      exact ⟨h.undisturbed hkeeps.1, h.nested_of_two htwo⟩
    · rintro ⟨hu, hn⟩
      exact h.keepsLock hu hn

/-- The two CPUs. -/
inductive Cpu
  | arm7
  | arm9
  deriving DecidableEq

def cpus : Contenders Cpu where
  owner
    | .arm7 => spinlockOwnerArm7
    | .arm9 => spinlockOwnerArm9
  injective := by rintro (_ | _) (_ | _) h <;> first | rfl | exact absurd h (by decide)
  ne_nobody := by rintro (_ | _) <;> decide

theorem spinlock_kept_iff_cpus : cpus.Kept [.arm9, .arm7, .arm7, .arm9, .arm9, .arm7, .arm7] := by
  refine (spinlock_kept_iff cpus _).1 ?_
  simp [Contenders.Apart, Along, Spinlock.Undisturbed, Contenders.Nested, Contenders.next,
    Contenders.step, slStep, Spinlock.init, cpus, spinlockOwnerNobody, spinlockOwnerArm7,
    spinlockOwnerArm9, Function.update]
  constructor <;> rintro (_ | _) old <;> simp

/-- The ARM7 releases the lock between the two swaps of the ARM9. -/
theorem spinlock_lost :
    ¬ (∀ (ι : Type) (_ : DecidableEq ι) (c : Contenders ι) (es : List ι), c.Kept es) ∧
      run cpus.next .init [.arm7, .arm9, .arm7, .arm9, .arm7, .arm9] =
        ⟨spinlockOwnerArm7, fun _ => .outside⟩ := by
  constructor
  · intro h
    obtain ⟨-, -, -, -, -, hrelease, -⟩ :=
      h Cpu inferInstance cpus [.arm7, .arm9, .arm7, .arm9, .arm7, .arm9]
    exact hrelease.1 rfl
  · refine congrArg (Spinlock.mk spinlockOwnerArm7) (funext fun i => ?_)
    cases i <;> rfl

/-! ## A lost lock -/

/-- **A lost lock is lost forever.** Every attempt finds the word in use and leaves it as it is. -/
theorem spinlock_stuck (c : Contenders ι) {s : Spinlock ι} (hlost : s.lock ≠ spinlockOwnerNobody)
    (hout : ∀ i, s.pc i = .outside) (es : List ι) :
    run c.next s es = s ∧
      Along c.next (fun s i => (c.step s i).2 = some (.acquire .inuse)) s es := by
  have hstep : ∀ i, c.step s i = (s, some (.acquire .inuse)) := by
    intro i
    rw [Contenders.step_eq (by rw [hout i, slStep, if_pos hlost]), ← hout i,
      Function.update_eq_self]
  induction es with
  | nil => exact ⟨rfl, trivial⟩
  | cons i es ih =>
    have hnext : c.next s i = s := congrArg Prod.fst (hstep i)
    refine ⟨?_, congrArg Prod.snd (hstep i), by rw [hnext]; exact ih.2⟩
    rw [run, List.foldl_cons, hnext]
    exact ih.1

end Wifi
