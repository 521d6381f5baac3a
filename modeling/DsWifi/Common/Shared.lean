import DsWifi.Infra.TaggedRing

/-!
# Definitions shared by both CPUs

`source/common/wifi_shared.h`. The sizes of the circular buffers, the marker that restarts them, and
the arithmetic on `u32` that their indices use.
-/

namespace Wifi

open Infra Infra.TaggedRing

/-- Reduction to an unsigned 32 bit integer (`u32`, `size_t`). -/
def u32 (n : Nat) : Nat := n % 2 ^ 32

theorem u32_of_lt {n : Nat} (h : n < 2 ^ 32) : u32 n = n := Nat.mod_eq_of_lt h

/-- Reduction to an unsigned 8 bit integer (`u8`). -/
def u8 (n : Nat) : Nat := n % 2 ^ 8

/-- Reduction to an unsigned 16 bit integer (`u16`). -/
def u16 (n : Nat) : Nat := n % 2 ^ 16

/-- `round_up_32`: `(value + 3) & ~3`. -/
def roundUp32 (value : Nat) : Nat := u32 (value + 3) / 4 * 4

theorem roundUp32_eq {n : Nat} (h : n + 3 < 2 ^ 32) : roundUp32 n = roundUp n := by
  rw [roundUp32, u32_of_lt h, roundUp]

/-- Space reserved for incoming packets. -/
def wifiRxBufferSize : Nat := 1024 * 12

/-- Space reserved for outgoing packets. -/
def wifiTxBufferSize : Nat := 1024 * 24

/-- Value written in the buffers to restart the pointer to the beginning. -/
def wifiSizeWrap : Nat := 0xFFFFFFFF

end Wifi
