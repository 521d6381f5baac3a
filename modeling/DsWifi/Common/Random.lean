import DsWifi.Infra.Run
import DsWifi.Infra.Xorshift

/-!
# Random numbers

`source/common/random.c`. Each processor has a word of its own that `Wifi_Random` steps through,
and `Wifi_RandomAddEntropy` mixes a value into both of them. A word that is zero stays zero.

* `random_ne_zero` — the words stay different from zero once there has been some entropy
-/

namespace Wifi

open Infra Infra.Xorshift

/-! ## Functions -/

/-- `Wifi_Random`. -/
def wifiRandom (x : UInt32) : UInt32 :=
  let x := x ^^^ (x <<< 13)
  let x := x ^^^ (x >>> 17)
  x ^^^ (x <<< 5)

/-- `hardware_rng_seed`, `random7` and `random9` of `Wifi_MainStruct`. -/
structure RandomState where
  hardwareRngSeed : UInt32
  random7 : UInt32
  random9 : UInt32
  deriving DecidableEq

/-- The processor that calls a function. -/
inductive RandomCpu
  | arm7
  | arm9
  deriving DecidableEq

/-- A word of a processor after some entropy. -/
def mixRandom (random seed : UInt32) : UInt32 :=
  let random := random ^^^ seed
  if random = 0 then random - 1 else random

namespace RandomState

/-- The struct is cleared in the beginning. -/
def zero : RandomState where
  hardwareRngSeed := 0
  random7 := 0
  random9 := 0

/-- `Wifi_RandomAddEntropy`. A shift by 32 places gives `shifted`. -/
def randomAddEntropy (s : RandomState) (value shifted : UInt32) : RandomState :=
  let shift := (s.hardwareRngSeed + value) &&& 31
  let seed := s.hardwareRngSeed ^^^
    ((value <<< shift) ||| if shift = 0 then shifted else value >>> (32 - shift))
  { hardwareRngSeed := seed
    random7 := mixRandom s.random7 seed
    random9 := mixRandom s.random9 seed }

/-- `Wifi_Random`, with what it returns. -/
def random (s : RandomState) : RandomCpu → UInt32 × RandomState
  | .arm7 => (wifiRandom s.random7, { s with random7 := wifiRandom s.random7 })
  | .arm9 => (wifiRandom s.random9, { s with random9 := wifiRandom s.random9 })

end RandomState

/-! ## Runs -/

inductive RandomEvent
  | addEntropy (value shifted : UInt32)
  | random (cpu : RandomCpu)

namespace RandomState

def step (s : RandomState) : RandomEvent → RandomState
  | .addEntropy value shifted => s.randomAddEntropy value shifted
  | .random cpu => (s.random cpu).2

/-- No word is zero. -/
structure Alive (s : RandomState) : Prop where
  random7 : s.random7 ≠ 0
  random9 : s.random9 ≠ 0

/-- An event leaves no zero behind and returns none. -/
structure StaysAlive (s : RandomState) (e : RandomEvent) : Prop where
  alive : (s.step e).Alive
  returned : ∀ cpu, e = .random cpu → (s.random cpu).1 ≠ 0

end RandomState

/-! ## Words -/

theorem toBitVec_wifiRandom (x : UInt32) :
    (wifiRandom x).toBitVec = next [.left 13, .right 17, .left 5] x.toBitVec := rfl

theorem wifiRandom_places : ∀ s ∈ [Shift.left 13, .right 17, .left 5], 0 < s.places := by decide

/-- Only zero is followed by zero. -/
theorem wifiRandom_eq_zero_iff (x : UInt32) : wifiRandom x = 0 ↔ x = 0 := by
  rw [← UInt32.toBitVec_inj, ← UInt32.toBitVec_inj, toBitVec_wifiRandom]
  exact next_eq_zero_iff wifiRandom_places x.toBitVec

/-- Every word follows exactly one word. -/
theorem wifiRandom_bijective : Function.Bijective wifiRandom := by
  have hnext : Function.Bijective (next [.left 13, .right 17, .left 5] : BitVec 32 → BitVec 32) :=
    next_bijective wifiRandom_places
  constructor
  · intro x y h
    apply UInt32.toBitVec_inj.mp
    apply hnext.1
    rw [← toBitVec_wifiRandom, ← toBitVec_wifiRandom, h]
  · intro y
    obtain ⟨x, hx⟩ := hnext.2 y.toBitVec
    refine ⟨⟨x⟩, UInt32.toBitVec_inj.mp ?_⟩
    rw [toBitVec_wifiRandom]
    exact hx

/-- A zero is repaired. -/
theorem mixRandom_ne_zero (random seed : UInt32) : mixRandom random seed ≠ 0 := by
  unfold mixRandom
  dsimp only
  split
  · rename_i hzero
    rw [hzero]
    decide
  · assumption

/-! ## States -/

namespace RandomState

theorem alive_randomAddEntropy (s : RandomState) (value shifted : UInt32) :
    (s.randomAddEntropy value shifted).Alive :=
  ⟨mixRandom_ne_zero _ _, mixRandom_ne_zero _ _⟩

/-- What one event does. -/
theorem Alive.staysAlive {s : RandomState} (h : s.Alive) (e : RandomEvent) : s.StaysAlive e := by
  have h7 : wifiRandom s.random7 ≠ 0 := (wifiRandom_eq_zero_iff _).not.mpr h.random7
  have h9 : wifiRandom s.random9 ≠ 0 := (wifiRandom_eq_zero_iff _).not.mpr h.random9
  cases e with
  | addEntropy value shifted => exact ⟨s.alive_randomAddEntropy value shifted, nofun⟩
  | random cpu =>
    cases cpu with
    | arm7 =>
      refine ⟨⟨h7, h.random9⟩, ?_⟩
      rintro cpu ⟨⟩
      exact h7
    | arm9 =>
      refine ⟨⟨h.random7, h9⟩, ?_⟩
      rintro cpu ⟨⟩
      exact h9

end RandomState

/-- **The random numbers never die**: after some entropy, whatever has been before, no event leaves
a zero behind or returns one. Nothing is lost in a step. -/
theorem random_ne_zero (before after : List RandomEvent) (value shifted : UInt32) :
    let s := run RandomState.step .zero (before ++ [.addEntropy value shifted])
    s.Alive ∧ Along RandomState.step RandomState.StaysAlive s after ∧
      Function.Bijective wifiRandom := by
  intro s
  have hs : s.Alive := by
    rw [show s = _ from run_append_singleton _ _ _]
    exact RandomState.alive_randomAddEntropy _ value shifted
  refine ⟨hs, ?_, wifiRandom_bijective⟩
  refine along_of_inv RandomState.Alive ?_ ?_ hs after
  · intro s e halive
    exact (halive.staysAlive e).alive
  · intro s e halive
    exact halive.staysAlive e

end Wifi
