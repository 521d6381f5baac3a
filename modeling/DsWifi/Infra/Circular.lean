import DsWifi.Infra.Memory

/-!
# Circular memory

A region of `size` bytes from `start` on. Its bytes are counted by positions that grow for ever, and
the position `p` is at the address `start + p % size`. Less than a revolution apart, positions are
different bytes, so what is written there does not meet what is read.

* `loadRing_storeRing` — bytes that have been written
* `loadRing_storeRing_of_disjoint` — bytes that have not
* `ringNext_ringAddr`, `ringWrap_ringAddr` — addresses that wrap at the end of the region
-/

namespace Infra.Mem

variable {start size p q k n : Nat} {m : Mem} {bs : List UInt8}

/-- The address of a position. -/
def ringAddr (start size p : Nat) : Nat := start + p % size

/-- The address after `a`. -/
def ringNext (start size a : Nat) : Nat := if a + 1 = start + size then start else a + 1

/-- An address less than a revolution behind the end. -/
def ringWrap (start size a : Nat) : Nat := if start + size ≤ a then a - size else a

/-- Load `n` bytes from a position on. -/
def loadRing (m : Mem) (start size p n : Nat) : List UInt8 :=
  (List.range n).map fun k => m (ringAddr start size (p + k))

/-- Store bytes from a position on. -/
def storeRing (start size : Nat) : Mem → Nat → List UInt8 → Mem
  | m, _, [] => m
  | m, p, b :: bs => storeRing start size (m.storeByte (ringAddr start size p) b) (p + 1) bs

/-! ## Addresses -/

/-- Less than a revolution apart, positions have different addresses. -/
theorem ringAddr_ne (hlt : p < q) (hle : q < p + size) :
    ringAddr start size p ≠ ringAddr start size q := by
  intro heq
  have hmod : p % size = q % size := Nat.add_left_cancel heq
  have hdvd : size ∣ q - p := Nat.dvd_of_mod_eq_zero (Nat.sub_mod_eq_zero_of_mod_eq hmod.symm)
  have := Nat.le_of_dvd (by omega) hdvd
  omega

theorem ringNext_ringAddr (h : 0 < size) :
    ringNext start size (ringAddr start size p) = ringAddr start size (p + 1) := by
  have hlt := Nat.mod_lt p h
  have hmod := Nat.mod_add_mod p size 1
  unfold ringNext ringAddr
  rw [← hmod]
  split
  · rename_i hend
    rw [show p % size + 1 = size by omega, Nat.mod_self, Nat.add_zero]
  · rename_i hinner
    rw [Nat.mod_eq_of_lt (show p % size + 1 < size by omega), Nat.add_assoc]

theorem ringWrap_ringAddr (h : 0 < size) (hk : k ≤ size) :
    ringWrap start size (ringAddr start size p + k) = ringAddr start size (p + k) := by
  have hlt := Nat.mod_lt p h
  have hmod := Nat.mod_add_mod p size k
  unfold ringWrap ringAddr
  rw [← hmod]
  split
  · rename_i houter
    rw [Nat.mod_eq_sub_mod (show size ≤ p % size + k by omega),
      Nat.mod_eq_of_lt (show p % size + k - size < size by omega)]
    omega
  · rename_i hinner
    rw [Nat.mod_eq_of_lt (show p % size + k < size by omega), Nat.add_assoc]

/-! ## Loads and stores -/

@[simp] theorem length_loadRing : (loadRing m start size p n).length = n := by
  simp [loadRing]

theorem loadRing_add (m : Mem) (start size p n k : Nat) :
    loadRing m start size p (n + k) = loadRing m start size p n ++
      loadRing m start size (p + n) k := by
  simp [loadRing, List.range_add, Nat.add_assoc]

/-- What is in the ring in one piece is there in two. -/
theorem loadRing_append {xs ys : List UInt8} :
    loadRing m start size p (xs ++ ys).length = xs ++ ys ↔
      loadRing m start size p xs.length = xs ∧
        loadRing m start size (p + xs.length) ys.length = ys := by
  rw [List.length_append, loadRing_add]
  constructor
  · intro h
    exact List.append_inj h length_loadRing
  · rintro ⟨hx, hy⟩
    rw [hx, hy]

theorem take_loadRing (m : Mem) (start size p : Nat) (h : k ≤ n) :
    (loadRing m start size p n).take k = loadRing m start size p k := by
  simp [loadRing, ← List.map_take, List.take_range, Nat.min_eq_left h]

theorem storeRing_of_ne {a : Nat} (h : ∀ k < bs.length, a ≠ ringAddr start size (p + k)) :
    storeRing start size m p bs a = m a := by
  induction bs generalizing m p with
  | nil => rfl
  | cons b bs ih =>
    have htail : ∀ k < bs.length, a ≠ ringAddr start size (p + 1 + k) := by
      intro k hk
      rw [Nat.add_assoc, Nat.add_comm 1]
      exact h (k + 1) (Nat.succ_lt_succ hk)
    rw [storeRing, ih htail]
    exact Function.update_of_ne (h 0 (Nat.zero_lt_succ _)) b m

theorem storeRing_self (hsize : bs.length ≤ size) (hk : k < bs.length) :
    storeRing start size m p bs (ringAddr start size (p + k)) = bs[k] := by
  induction bs generalizing m p k with
  | nil => exact absurd hk (Nat.not_lt_zero k)
  | cons b bs ih =>
    rw [List.length_cons] at hsize hk
    rw [storeRing]
    cases k with
    | zero =>
      rw [storeRing_of_ne fun k hk => ringAddr_ne (by omega) (by omega)]
      exact storeByte_self m _ b
    | succ k =>
      rw [show p + (k + 1) = p + 1 + k by omega]
      exact ih (by omega) (by omega)

/-- **What has been written is read.** -/
theorem loadRing_storeRing (h : bs.length ≤ size) :
    loadRing (storeRing start size m p bs) start size p bs.length = bs := by
  refine List.ext_getElem (by simp) fun k hk hk' => ?_
  simp [loadRing, storeRing_self h hk']

/-- **What is less than a revolution in front stays.** -/
theorem loadRing_storeRing_of_disjoint (h : q + n ≤ p) (h' : p + bs.length ≤ q + size) :
    loadRing (storeRing start size m p bs) start size q n = loadRing m start size q n := by
  refine List.map_congr_left fun k hk => ?_
  have hlt := List.mem_range.mp hk
  exact storeRing_of_ne fun j hj => ringAddr_ne (by omega) (by omega)

end Infra.Mem
