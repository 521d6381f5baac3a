import Mathlib.Algebra.Order.Ring.Nat
import Mathlib.Data.List.Forall2
import Mathlib.Data.Set.Function
import Mathlib.Order.Interval.Set.Basic
import Mathlib.Tactic.Common

/-!
# Byte memories

A memory is a total function from addresses to bytes. The words that two processors exchange
through it are 32 bits wide and little endian.

Every frame fact of this file has the same shape: what is read from a range of addresses only
depends on that range. The layouts built on top of it (`Infra/TaggedRing.lean`) are carried over a
write by `Set.EqOn` on the addresses they read.
-/

namespace Infra

/-- A byte memory. -/
abbrev Mem := Nat → UInt8

namespace Mem

/-! ## Stores and loads -/

/-- Store one byte. -/
def storeByte (m : Mem) (a : Nat) (b : UInt8) : Mem := Function.update m a b

/-- Store consecutive bytes. -/
def storeBytes (m : Mem) (a : Nat) (bs : List UInt8) : Mem :=
  fun x => if a ≤ x then (bs[x - a]?).getD (m x) else m x

/-- The four bytes of a 32 bit word, least significant first. -/
def wordBytes (v : Nat) : List UInt8 :=
  [UInt8.ofNat v, UInt8.ofNat (v / 2 ^ 8), UInt8.ofNat (v / 2 ^ 16), UInt8.ofNat (v / 2 ^ 24)]

/-- The two bytes of a 16 bit halfword, least significant first. -/
def halfBytes (v : Nat) : List UInt8 := [UInt8.ofNat v, UInt8.ofNat (v / 2 ^ 8)]

/-- Store a 16 bit halfword. -/
def store16 (m : Mem) (a v : Nat) : Mem := storeBytes m a (halfBytes v)

/-- Store a 32 bit word. -/
def store32 (m : Mem) (a v : Nat) : Mem := storeBytes m a (wordBytes v)

/-- Load a 16 bit halfword. -/
def load16 (m : Mem) (a : Nat) : Nat := (m a).toNat + 2 ^ 8 * (m (a + 1)).toNat

/-- Load a 32 bit word. -/
def load32 (m : Mem) (a : Nat) : Nat := load16 m a + 2 ^ 16 * load16 m (a + 2)

/-- Load `n` consecutive bytes. -/
def loadBytes (m : Mem) (a n : Nat) : List UInt8 := (List.range n).map fun k => m (a + k)

@[simp] theorem length_halfBytes (v : Nat) : (halfBytes v).length = 2 := rfl

@[simp] theorem length_wordBytes (v : Nat) : (wordBytes v).length = 4 := rfl

@[simp] theorem length_loadBytes (m : Mem) (a n : Nat) : (loadBytes m a n).length = n := by
  simp [loadBytes]

theorem loadBytes_succ (m : Mem) (a n : Nat) :
    loadBytes m a (n + 1) = loadBytes m a n ++ [m (a + n)] := by
  simp [loadBytes, List.range_succ]

theorem loadBytes_add (m : Mem) (a n k : Nat) :
    loadBytes m a (n + k) = loadBytes m a n ++ loadBytes m (a + n) k := by
  simp [loadBytes, List.range_add, Nat.add_assoc]

theorem loadBytes_cons (m : Mem) (a n : Nat) :
    loadBytes m a (n + 1) = m a :: loadBytes m (a + 1) n := by
  rw [Nat.add_comm, loadBytes_add]
  rfl

/-- What is in memory in one piece is there in two. -/
theorem loadBytes_append {m : Mem} {a : Nat} {xs ys : List UInt8} :
    loadBytes m a (xs ++ ys).length = xs ++ ys ↔
      loadBytes m a xs.length = xs ∧ loadBytes m (a + xs.length) ys.length = ys := by
  rw [List.length_append, loadBytes_add]
  constructor
  · intro h
    exact List.append_inj h (length_loadBytes m a xs.length)
  · rintro ⟨hx, hy⟩
    rw [hx, hy]

/-- A part of what is in memory. -/
theorem loadBytes_slice {m : Mem} {a i n : Nat} {xs : List UInt8}
    (h : loadBytes m a xs.length = xs) (hle : i + n ≤ xs.length) :
    loadBytes m (a + i) n = (xs.drop i).take n := by
  obtain ⟨k, hk⟩ := Nat.exists_eq_add_of_le hle
  rw [hk, loadBytes_add, loadBytes_add, List.append_assoc] at h
  rw [← h, List.drop_left' (length_loadBytes m a i),
    List.take_left' (length_loadBytes m (a + i) n)]

theorem getElem?_loadBytes {m : Mem} {a n k : Nat} (h : k < n) :
    (loadBytes m a n)[k]? = some (m (a + k)) := by
  simp [loadBytes, h]

/-- Reading a shorter range gives a prefix. -/
theorem take_loadBytes (m : Mem) (a : Nat) {k n : Nat} (h : k ≤ n) :
    (loadBytes m a n).take k = loadBytes m a k := by
  simp [loadBytes, ← List.map_take, List.take_range, Nat.min_eq_left h]

/-! ## Frames -/

theorem storeBytes_of_lt {m : Mem} {a x : Nat} {bs : List UInt8} (h : x < a) :
    storeBytes m a bs x = m x := by
  simp [storeBytes, Nat.not_le.mpr h]

theorem storeBytes_of_le {m : Mem} {a x : Nat} {bs : List UInt8} (h : a + bs.length ≤ x) :
    storeBytes m a bs x = m x := by
  have hn : bs[x - a]? = none := List.getElem?_eq_none (by omega)
  simp [storeBytes, hn]

/-- `storeBytes` writes nothing outside `[a, a + bs.length)`. -/
theorem eqOn_storeBytes {m : Mem} {a : Nat} {bs : List UInt8} {S : Set Nat}
    (h : ∀ x ∈ S, x < a ∨ a + bs.length ≤ x) : Set.EqOn (storeBytes m a bs) m S := by
  intro x hx
  rcases h x hx with hlt | hle
  · exact storeBytes_of_lt hlt
  · exact storeBytes_of_le hle

theorem storeBytes_nil (m : Mem) (a : Nat) : storeBytes m a [] = m := by
  funext x
  simp [storeBytes]

/-- Bytes are stored in one piece or in two. -/
theorem storeBytes_append (m : Mem) (a : Nat) (xs ys : List UInt8) :
    storeBytes m a (xs ++ ys) = storeBytes (storeBytes m a xs) (a + xs.length) ys := by
  funext x
  by_cases hlt : x < a + xs.length
  · rw [storeBytes_of_lt hlt]
    simp only [storeBytes]
    split
    · rw [List.getElem?_append_left (by omega)]
    · rfl
  · obtain ⟨k, rfl⟩ := Nat.exists_eq_add_of_le (Nat.not_lt.mp hlt)
    have hk : a + xs.length + k - a = xs.length + k := by omega
    rw [storeBytes, storeBytes, storeBytes_of_le (by omega), if_pos (by omega), if_pos (by omega),
      hk, List.getElem?_append_right (by omega), Nat.add_sub_cancel_left, Nat.add_sub_cancel_left]

theorem storeBytes_self {m : Mem} {a k : Nat} {bs : List UInt8} (h : k < bs.length) :
    storeBytes m a bs (a + k) = bs[k] := by
  simp [storeBytes, h]

/-- `store32` writes nothing outside its word. -/
theorem eqOn_store32 {m : Mem} {a v : Nat} {S : Set Nat} (h : ∀ x ∈ S, x < a ∨ a + 4 ≤ x) :
    Set.EqOn (store32 m a v) m S :=
  eqOn_storeBytes h

theorem eqOn_storeByte {m : Mem} {a : Nat} {b : UInt8} {S : Set Nat} (h : a ∉ S) :
    Set.EqOn (storeByte m a b) m S := by
  intro x hx
  have hne : x ≠ a := fun he => h (he ▸ hx)
  exact Function.update_of_ne hne b m

@[simp] theorem storeByte_self (m : Mem) (a : Nat) (b : UInt8) : storeByte m a b a = b :=
  Function.update_self a _ m

theorem load16_congr {m m' : Mem} {a : Nat} (h : Set.EqOn m' m (Set.Ico a (a + 2))) :
    load16 m' a = load16 m a := by
  rw [load16, load16, h ⟨by omega, by omega⟩, h ⟨by omega, by omega⟩]

theorem load32_congr {m m' : Mem} {a : Nat} (h : Set.EqOn m' m (Set.Ico a (a + 4))) :
    load32 m' a = load32 m a := by
  have hlow : load16 m' a = load16 m a :=
    load16_congr (h.mono (Set.Ico_subset_Ico_right (by omega)))
  have hhigh : load16 m' (a + 2) = load16 m (a + 2) :=
    load16_congr (h.mono (Set.Ico_subset_Ico (by omega) (by omega)))
  rw [load32, load32, hlow, hhigh]

theorem loadBytes_congr {m m' : Mem} {a n : Nat} (h : Set.EqOn m' m (Set.Ico a (a + n))) :
    loadBytes m' a n = loadBytes m a n := by
  refine List.map_congr_left fun k hk => ?_
  exact h ⟨by omega, by have := List.mem_range.mp hk; omega⟩

/-! ## What a store leaves to be loaded -/

/-- A stored halfword is loaded back. -/
theorem load16_store16 {m : Mem} {a v : Nat} (h : v < 2 ^ 16) : load16 (store16 m a v) a = v := by
  have h0 : store16 m a v a = UInt8.ofNat v := storeBytes_self (k := 0) (by simp)
  have h1 : store16 m a v (a + 1) = UInt8.ofNat (v / 2 ^ 8) := storeBytes_self (by simp)
  simp only [load16, h0, h1, UInt8.toNat_ofNat']
  omega

/-- A stored word is loaded back. -/
theorem load32_store32 {m : Mem} {a v : Nat} (h : v < 2 ^ 32) : load32 (store32 m a v) a = v := by
  have h0 : store32 m a v a = UInt8.ofNat v := storeBytes_self (k := 0) (by simp)
  have h1 : store32 m a v (a + 1) = UInt8.ofNat (v / 2 ^ 8) := storeBytes_self (by simp)
  have h2 : store32 m a v (a + 2) = UInt8.ofNat (v / 2 ^ 16) := storeBytes_self (by simp)
  have h3 : store32 m a v (a + 2 + 1) = UInt8.ofNat (v / 2 ^ 24) :=
    storeBytes_self (k := 3) (by simp)
  simp only [load32, load16, h0, h1, h2, h3, UInt8.toNat_ofNat']
  omega

/-- Storing zero where zero is loaded changes nothing. -/
theorem store32_of_load32_eq_zero {m : Mem} {a : Nat} (h : load32 m a = 0) : m.store32 a 0 = m := by
  simp only [load32, load16] at h
  have hb (x : Nat) (hx : (m x).toNat = 0) : m x = 0 := UInt8.toNat_inj.mp hx
  have h0 : m a = 0 := hb _ (by omega)
  have h1 : m (a + 1) = 0 := hb _ (by omega)
  have h2 : m (a + 2) = 0 := hb _ (by omega)
  have h3 : m (a + 2 + 1) = 0 := hb _ (by omega)
  funext x
  by_cases hlt : x < a
  · exact storeBytes_of_lt hlt
  · by_cases hle : a + 4 ≤ x
    · exact storeBytes_of_le hle
    · obtain ⟨k, hk, rfl⟩ : ∃ k < 4, x = a + k := ⟨x - a, by omega, by omega⟩
      rw [store32, storeBytes_self (by simpa using hk)]
      match k, hk with
      | 0, _ => exact h0.symm
      | 1, _ => exact h1.symm
      | 2, _ => exact h2.symm
      | 3, _ => exact h3.symm

/-- A byte stored inside the range is replaced. -/
theorem loadBytes_storeByte (m : Mem) (a n k : Nat) (b : UInt8) :
    loadBytes (storeByte m (a + k) b) a n = (loadBytes m a n).set k b := by
  refine List.ext_getElem (by simp) fun j hj hj' => ?_
  by_cases hjk : k = j
  · subst hjk
    simp [loadBytes]
  · have hne : a + j ≠ a + k := by omega
    simp [loadBytes, hjk, storeByte, Function.update_of_ne hne]

theorem load16_eq (m : Mem) (a v : Nat) (hv : v < 2 ^ 16) (h : loadBytes m a 2 = halfBytes v) :
    load16 m a = v := by
  have h0 : m a = UInt8.ofNat v := by
    have := congrArg (·[0]?) h
    simpa [loadBytes, halfBytes, List.range_succ] using this
  have h1 : m (a + 1) = UInt8.ofNat (v / 2 ^ 8) := by
    have := congrArg (·[1]?) h
    simpa [loadBytes, halfBytes, List.range_succ] using this
  rw [load16, h0, h1]
  simp
  omega

/-- The bytes of a halfword that is loaded. -/
theorem halfBytes_load16 (m : Mem) (a : Nat) : halfBytes (load16 m a) = loadBytes m a 2 := by
  have hlow := (m a).toNat_lt
  have hhigh := (m (a + 1)).toNat_lt
  have h0 : UInt8.ofNat (load16 m a) = m a := by
    refine UInt8.toNat_inj.mp ?_
    rw [load16, UInt8.toNat_ofNat']
    omega
  have h1 : UInt8.ofNat (load16 m a / 2 ^ 8) = m (a + 1) := by
    refine UInt8.toNat_inj.mp ?_
    rw [load16, UInt8.toNat_ofNat']
    omega
  rw [halfBytes, h0, h1]
  rfl

/-- Stored bytes are loaded back. -/
theorem loadBytes_storeBytes (m : Mem) (a : Nat) (bs : List UInt8) :
    loadBytes (storeBytes m a bs) a bs.length = bs := by
  refine List.ext_getElem (by simp) fun k hk hk' => ?_
  simp [loadBytes, storeBytes_self hk']

end Mem

end Infra
