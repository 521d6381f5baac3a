import DsWifi.Infra.Elements

/-!
# Programs that read a byte memory

A program of type `ReadM α` reads one byte after the other and decides what to read next by what
it has read. It can be run on a memory (`eval`), and the addresses that it reads there can be listed
(`reads`).

* `Within.congr` — a program that stays below `n` does the same on memories that agree below `n`
* `eval_lastWord`, `within_lastWord` — a loop that stops at the first word of a kind
* `within_walk_iff`, `within_walk_iff_visits` — what a walk over information elements reads
-/

namespace Infra

open Mem

/-- A program that reads bytes. -/
inductive ReadM (α : Type)
  | pure (a : α)
  | read (i : Nat) (next : UInt8 → ReadM α)

namespace ReadM

variable {α β : Type}

def bind : ReadM α → (α → ReadM β) → ReadM β
  | pure a, f => f a
  | read i next, f => read i fun b => (next b).bind f

instance : Monad ReadM where
  pure := .pure
  bind := .bind

/-- The result. -/
def eval (m : Mem) : ReadM α → α
  | pure a => a
  | read i next => (next (m i)).eval m

/-- The addresses that are read. -/
def reads (m : Mem) : ReadM α → List Nat
  | pure _ => []
  | read i next => i :: (next (m i)).reads m

/-- Nothing from `n` on is read. -/
def Within (n : Nat) (m : Mem) (p : ReadM α) : Prop := ∀ i ∈ p.reads m, i < n

variable {n : Nat} {m m' : Mem}

@[simp] theorem eval_pure (a : α) : eval m (Pure.pure a : ReadM α) = a := by
  rw [Pure.pure, Applicative.toPure]
  rfl

@[simp] theorem eval_bind (p : ReadM α) (f : α → ReadM β) :
    eval m (p >>= f) = eval m (f (eval m p)) := by
  induction p with
  | pure a => rfl
  | read i next ih => exact ih (m i)

@[simp] theorem eval_ite (c : Prop) [Decidable c] (p q : ReadM α) :
    eval m (if c then p else q) = if c then eval m p else eval m q := by
  split <;> rfl

@[simp] theorem within_pure (a : α) : Within n m (Pure.pure a : ReadM α) := by
  intro i hi
  cases hi

theorem within_read {i : Nat} {next : UInt8 → ReadM α} :
    Within n m (read i next) ↔ i < n ∧ Within n m (next (m i)) :=
  List.forall_mem_cons

@[simp] theorem within_bind (p : ReadM α) (f : α → ReadM β) :
    Within n m (p >>= f) ↔ Within n m p ∧ Within n m (f (eval m p)) := by
  induction p with
  | pure a =>
    have hpure : Within n m (pure a : ReadM α) := within_pure a
    exact (and_iff_right hpure).symm
  | read i next ih =>
    have hbind : Within n m (read i next >>= f) ↔ i < n ∧ Within n m (next (m i) >>= f) :=
      within_read
    rw [hbind, ih, within_read, and_assoc]
    rfl

@[simp] theorem within_ite (c : Prop) [Decidable c] (p q : ReadM α) :
    Within n m (if c then p else q) ↔ (c → Within n m p) ∧ (¬ c → Within n m q) := by
  split <;> simp [*]

/-- **A program that stays below `n`** only depends on what is there. -/
theorem Within.congr {p : ReadM α} (h : Within n m p) (he : Set.EqOn m' m (Set.Iio n)) :
    eval m' p = eval m p ∧ Within n m' p := by
  induction p with
  | pure a => exact ⟨rfl, h⟩
  | read i next ih =>
    obtain ⟨hi, hnext⟩ := within_read.mp h
    have hbyte : m' i = m i := he hi
    obtain ⟨heval, hwithin⟩ := ih (m i) hnext
    refine ⟨?_, within_read.mpr ⟨hi, ?_⟩⟩
    · rw [eval, eval, hbyte, heval]
    · rwa [hbyte]

theorem within_congr {p : ReadM α} (he : Set.EqOn m' m (Set.Iio n)) :
    Within n m' p ↔ Within n m p :=
  ⟨fun h => (h.congr he.symm).2, fun h => (h.congr he).2⟩

/-! ## Fields -/

/-- The `k` bytes from `i` on lie below `n`. -/
def Received (n i k : Nat) : Prop := ∀ j < k, i + j < n

theorem received_zero (n i : Nat) : Received n i 0 := fun _ hj => absurd hj (Nat.not_lt_zero _)

theorem received_succ {i k : Nat} : Received n i (k + 1) ↔ i < n ∧ Received n (i + 1) k := by
  constructor
  · intro h
    refine ⟨h 0 (Nat.succ_pos k), fun j hj => ?_⟩
    have := h (j + 1) (by omega)
    omega
  · rintro ⟨hi, h⟩ j hj
    cases j with
    | zero => exact hi
    | succ j =>
      have := h j (by omega)
      omega

theorem received_iff {i k : Nat} (hk : 0 < k) : Received n i k ↔ i + k ≤ n := by
  constructor
  · intro h
    have := h (k - 1) (by omega)
    omega
  · intro h j hj
    omega

theorem received_add {i j k : Nat} :
    Received n i (j + k) ↔ Received n i j ∧ Received n (i + j) k := by
  constructor
  · intro h
    refine ⟨fun l hl => h l (by omega), fun l hl => ?_⟩
    have := h (j + l) (by omega)
    omega
  · rintro ⟨hfirst, hrest⟩ l hl
    by_cases hlt : l < j
    · exact hfirst l hlt
    · have := hrest (l - j) (by omega)
      omega

instance (n i k : Nat) : Decidable (Received n i k) :=
  inferInstanceAs (Decidable (∀ j < k, i + j < n))

def byte (i : Nat) : ReadM UInt8 := read i .pure

@[simp] theorem eval_byte (i : Nat) : eval m (byte i) = m i := by
  rw [byte, eval, eval]

@[simp] theorem within_byte (i : Nat) : Within n m (byte i) ↔ i < n := by
  rw [byte, within_read]
  exact and_iff_left (within_pure _)

/-- A halfword, least significant byte first. -/
def half (i : Nat) : ReadM Nat := do
  let low ← byte i
  let high ← byte (i + 1)
  return low.toNat + 2 ^ 8 * high.toNat

@[simp] theorem eval_half (i : Nat) : eval m (half i) = load16 m i := by
  simp only [half, eval_bind, eval_byte, eval_pure, load16]

@[simp] theorem within_half (i : Nat) : Within n m (half i) ↔ i + 2 ≤ n := by
  simp only [half, within_bind, within_byte, within_pure, and_true]
  omega

def bytes (i : Nat) : Nat → ReadM (List UInt8)
  | 0 => return []
  | k + 1 => do
    let b ← byte i
    let bs ← bytes (i + 1) k
    return b :: bs

@[simp] theorem eval_bytes (i k : Nat) : eval m (bytes i k) = loadBytes m i k := by
  induction k generalizing i with
  | zero => rfl
  | succ k ih => simp only [bytes, eval_bind, eval_byte, eval_pure, ih, loadBytes_cons]

@[simp] theorem within_bytes (i k : Nat) : Within n m (bytes i k) ↔ Received n i k := by
  induction k generalizing i with
  | zero => exact iff_of_true (within_pure _) (received_zero _ _)
  | succ k ih =>
    simp only [bytes, within_bind, within_byte, within_pure, and_true, ih, received_succ]

/-- A word, least significant byte first. -/
def word (i : Nat) : ReadM Nat := do
  let low ← half i
  let high ← half (i + 2)
  return low + 2 ^ 16 * high

@[simp] theorem eval_word (i : Nat) : eval m (word i) = load32 m i := by
  simp only [word, eval_bind, eval_half, eval_pure, load32]

@[simp] theorem within_word (i : Nat) : Within n m (word i) ↔ i + 4 ≤ n := by
  simp only [word, within_bind, within_half, within_pure, and_true]
  omega

/-- A word, most significant byte first. -/
def beWord (i : Nat) : ReadM Nat := do
  let bs ← bytes i 4
  return bs.foldl (fun n b => 2 ^ 8 * n + b.toNat) 0

/-- The word at `i`, most significant byte first. -/
def beWordAt (m : Mem) (i : Nat) : Nat :=
  (loadBytes m i 4).foldl (fun n b => 2 ^ 8 * n + b.toNat) 0

@[simp] theorem eval_beWord (i : Nat) : eval m (beWord i) = beWordAt m i := by
  simp only [beWord, eval_bind, eval_bytes, eval_pure, beWordAt]

@[simp] theorem within_beWord (i : Nat) : Within n m (beWord i) ↔ i + 4 ≤ n := by
  simp only [beWord, within_bind, within_bytes, within_pure, and_true]
  exact received_iff (by decide)

/-! ## Loops -/

/-- Look for a byte among the `k` bytes from `i` on, up to the first one. -/
def search (p : UInt8 → Bool) (i : Nat) : Nat → ReadM Bool
  | 0 => return false
  | k + 1 => do
    let b ← byte i
    if p b then return true else search p (i + 1) k

/-- The number of bytes that `search` looks at. -/
def searched (m : Mem) (p : UInt8 → Bool) (i : Nat) : Nat → Nat
  | 0 => 0
  | k + 1 => if p (m i) then 1 else searched m p (i + 1) k + 1

@[simp] theorem eval_search (p : UInt8 → Bool) (i k : Nat) :
    eval m (search p i k) = (List.range k).any fun j => p (m (i + j)) := by
  induction k generalizing i with
  | zero => rfl
  | succ k ih =>
    have hshift : (List.range k).any (fun j => p (m (i + (j + 1)))) =
        (List.range k).any fun j => p (m (i + 1 + j)) := by
      simp only [Nat.add_assoc, Nat.add_comm 1]
    simp only [search, eval_bind, eval_byte, eval_ite, eval_pure, ih, List.range_succ_eq_map,
      List.any_cons, List.any_map, Function.comp_def, Nat.add_zero, Nat.succ_eq_add_one, hshift]
    split
    · rename_i hp
      rw [hp, Bool.true_or]
    · rename_i hp
      rw [Bool.not_eq_true] at hp
      rw [hp, Bool.false_or]

theorem received_searched_succ {p : UInt8 → Bool} {i k : Nat} :
    Received n i (searched m p i (k + 1)) ↔
      i < n ∧ (p (m i) = false → Received n (i + 1) (searched m p (i + 1) k)) := by
  rw [searched]
  by_cases hp : p (m i)
  · simp [hp, received_succ, received_zero]
  · simp [hp, received_succ]

@[simp] theorem within_search (p : UInt8 → Bool) (i k : Nat) :
    Within n m (search p i k) ↔ Received n i (searched m p i k) := by
  induction k generalizing i with
  | zero => exact iff_of_true (within_pure _) (received_zero _ _)
  | succ k ih =>
    simp only [search, received_searched_succ, within_bind, within_byte, eval_byte, within_ite,
      within_pure, implies_true, true_and, ih, Bool.not_eq_true]

/-- A list up to the first element that `p` accepts. -/
def upTo (p : Nat → Bool) : List Nat → List Nat
  | [] => []
  | w :: ws => if p w then [w] else w :: upTo p ws

theorem length_upTo_le (p : Nat → Bool) (ws : List Nat) : (upTo p ws).length ≤ ws.length := by
  induction ws with
  | nil => exact Nat.le_refl 0
  | cons w ws ih =>
    rw [upTo]
    split
    · simp
    · simpa using ih

/-- The last element is the first one that `p` accepts, if there is one. -/
theorem getLast?_upTo (p : Nat → Bool) (ws : List Nat) :
    (upTo p ws).getLast? = (ws.find? p).or ws.getLast? := by
  induction ws with
  | nil => rfl
  | cons w ws ih =>
    rw [upTo]
    by_cases hw : p w
    · rw [if_pos hw, List.find?_cons_of_pos hw]
      rfl
    · rw [if_neg hw, List.find?_cons_of_neg hw, List.getLast?_cons, List.getLast?_cons, ih]
      cases ws.find? p with
      | none => rfl
      | some w' => rfl

theorem isSome_getLast?_upTo {p : Nat → Bool} {ws : List Nat} :
    (upTo p ws).getLast?.isSome ↔ ws ≠ [] := by
  rw [getLast?_upTo]
  cases ws with
  | nil => simp
  | cons w ws => simp

/-- The `k` words from `i` on. -/
def beWordsAt (m : Mem) (i : Nat) : Nat → List Nat
  | 0 => []
  | k + 1 => beWordAt m i :: beWordsAt m (i + 4) k

@[simp] theorem length_beWordsAt (m : Mem) (i k : Nat) : (beWordsAt m i k).length = k := by
  induction k generalizing i with
  | zero => rfl
  | succ k ih => exact congrArg Nat.succ (ih (i + 4))

theorem take_beWordsAt (m : Mem) (i k j : Nat) :
    (beWordsAt m i k).take j = beWordsAt m i (min j k) := by
  induction j generalizing i k with
  | zero => rw [Nat.zero_min, List.take_zero, beWordsAt]
  | succ j ih =>
    cases k with
    | zero => rfl
    | succ k => rw [Nat.succ_min_succ, beWordsAt, beWordsAt, List.take_succ_cons, ih]

/-- Look at the `k` words from `i` on, up to the first one that `p` accepts. The last one is
kept. -/
def lastWord (p : Nat → Bool) (i : Nat) : Nat → Option Nat → ReadM (Option Nat)
  | 0, last => return last
  | k + 1, _ => do
    let w ← beWord i
    if p w then return some w else lastWord p (i + 4) k (some w)

@[simp] theorem eval_lastWord (p : Nat → Bool) (i k : Nat) (last : Option Nat) :
    eval m (lastWord p i k last) = ((upTo p (beWordsAt m i k)).getLast?).or last := by
  induction k generalizing i last with
  | zero => rfl
  | succ k ih =>
    simp only [lastWord, eval_bind, eval_beWord, eval_ite, eval_pure, beWordsAt, upTo, ih]
    split
    · rfl
    · rw [List.getLast?_cons]
      cases (upTo p (beWordsAt m (i + 4) k)).getLast? with
      | none => rfl
      | some w => rfl

@[simp] theorem within_lastWord (p : Nat → Bool) (i k : Nat) (last : Option Nat) :
    Within n m (lastWord p i k last) ↔
      Received n i (4 * (upTo p (beWordsAt m i k)).length) := by
  induction k generalizing i last with
  | zero => exact iff_of_true (within_pure _) (received_zero _ _)
  | succ k ih =>
    simp only [lastWord, within_bind, within_beWord, eval_beWord, within_ite, within_pure, ih,
      beWordsAt, upTo, implies_true, true_and]
    have hword : Received n i 4 ↔ i + 4 ≤ n := received_iff (Nat.succ_pos 3)
    by_cases hw : p (beWordAt m i)
    · rw [if_pos hw, List.length_singleton, Nat.mul_one, hword]
      exact and_iff_left fun hnot => absurd hw hnot
    · rw [if_neg hw, List.length_cons, Nat.mul_succ, Nat.add_comm (4 * _), received_add, hword,
        imp_iff_right hw]

/-- Compare bytes with the ones from `i` on, up to the first difference. -/
def matchBytes (i : Nat) : List UInt8 → ReadM Bool
  | [] => return true
  | b :: bs => do
    let b' ← byte i
    if b' = b then matchBytes (i + 1) bs else return false

/-- The number of bytes that `matchBytes` looks at. -/
def matched (m : Mem) (i : Nat) : List UInt8 → Nat
  | [] => 0
  | b :: bs => if m i = b then matched m (i + 1) bs + 1 else 1

@[simp] theorem eval_matchBytes (i : Nat) (bs : List UInt8) :
    eval m (matchBytes i bs) = (loadBytes m i bs.length == bs) := by
  induction bs generalizing i with
  | nil => rfl
  | cons b bs ih =>
    rw [List.length_cons, loadBytes_cons]
    simp only [matchBytes, eval_bind, eval_byte, eval_ite, eval_pure, ih, List.cons_beq_cons]
    by_cases hb : m i = b
    · simp [hb]
    · simp [hb]

@[simp] theorem within_matchBytes (i : Nat) (bs : List UInt8) :
    Within n m (matchBytes i bs) ↔ Received n i (matched m i bs) := by
  induction bs generalizing i with
  | nil => exact iff_of_true (within_pure _) (received_zero _ _)
  | cons b bs ih =>
    simp only [matchBytes, matched, within_bind, within_byte, eval_byte, within_ite, within_pure,
      ih]
    by_cases hb : m i = b
    · simp [hb, received_succ]
    · simp [hb, received_succ, received_zero]

theorem matched_of_eq {i : Nat} {bs : List UInt8} (h : loadBytes m i bs.length = bs) :
    matched m i bs = bs.length := by
  induction bs generalizing i with
  | nil => rfl
  | cons b bs ih =>
    rw [List.length_cons, loadBytes_cons] at h
    obtain ⟨hb, hbs⟩ := List.cons.inj h
    rw [matched, if_pos hb, ih hbs, List.length_cons]

/-- Walk over information elements. -/
def walk {σ : Type} (handle : Nat → Nat → Nat → σ → ReadM σ) (len i : Nat) (s : σ) : ReadM σ :=
  if i < len then do
    let id ← byte i
    let seglen ← byte (i + 1)
    let s ← handle id.toNat seglen.toNat (i + 2) s
    walk handle len (i + 2 + seglen.toNat) s
  else return s
termination_by len - i

/-- From each element below `n` on there are the two bytes of its header and what `need` says. -/
def ElementsReceived (m : Mem) (n : Nat) (need : Nat → Nat → Nat → Prop) (i : Nat) : Prop :=
  if i < n then
    i + 1 < n ∧ need (m i).toNat (m (i + 1)).toNat (i + 2) ∧
      ElementsReceived m n need (i + 2 + (m (i + 1)).toNat)
  else True
termination_by n - i

theorem eval_walk {σ : Type} {handle : Nat → Nat → Nat → σ → ReadM σ} {len i : Nat} {s : σ} :
    eval m (walk handle len i s) =
      Infra.walk m (fun id seglen j s => eval m (handle id seglen j s)) len i s := by
  fun_induction walk handle len i s with
  | case1 i s hlt ih =>
    rw [walk_of_lt hlt]
    simp only [eval_bind, eval_byte]
    exact ih _ _
  | case2 i s hlt => rw [walk_of_le (Nat.not_lt.mp hlt), eval_pure]

theorem within_walk {σ : Type} {handle : Nat → Nat → Nat → σ → ReadM σ}
    {need : Nat → Nat → Nat → Prop}
    (hneed : ∀ id seglen j s, Within n m (handle id seglen j s) ↔ need id seglen j) {i : Nat}
    {s : σ} : Within n m (walk handle n i s) ↔ ElementsReceived m n need i := by
  fun_induction walk handle n i s with
  | case1 i s hlt ih =>
    rw [ElementsReceived, if_pos hlt]
    simp only [within_bind, within_byte, eval_byte, hneed, ih, hlt, true_and]
  | case2 i s hlt =>
    rw [ElementsReceived, if_neg hlt]
    exact iff_of_true (within_pure _) trivial

/-- **What a walk reads** is what it reads wherever it comes. -/
theorem within_walk_iff {σ : Type} {handle : Nat → Nat → Nat → σ → ReadM σ} {i : Nat} {s : σ} :
    Within n m (walk handle n i s) ↔
      ∀ k t, Reaches m (fun id seglen j s => eval m (handle id seglen j s)) n i s k t →
        k + 1 < n ∧ Within n m (handle (m k).toNat (m (k + 1)).toNat (k + 2) t) := by
  fun_induction walk handle n i s with
  | case1 i s hlt ih =>
    simp only [within_bind, within_byte, eval_byte, hlt, true_and, ih]
    constructor
    · rintro ⟨hheader, hhandle, hrest⟩ k t hreach
      cases hreach with
      | here _ => exact ⟨hheader, hhandle⟩
      | next _ h => exact hrest k t h
    · intro h
      obtain ⟨hheader, hhandle⟩ := h i s (.here hlt)
      exact ⟨hheader, hhandle, fun k t hreach => h k t (.next hlt hreach)⟩
  | case2 i s hlt =>
    exact iff_of_true (within_pure _) fun k t hreach => absurd hreach.start_lt hlt

/-- What an element needs may not depend on the state. -/
theorem within_walk_iff_visits {σ : Type} {handle : Nat → Nat → Nat → σ → ReadM σ}
    {Ends : Nat → Prop} (h : ∀ k t,
      (k + 1 < n ∧ Within n m (handle (m k).toNat (m (k + 1)).toNat (k + 2) t)) ↔ Ends k)
    {i : Nat} {s : σ} : Within n m (walk handle n i s) ↔ ∀ k, Visits m n i k → Ends k := by
  rw [within_walk_iff]
  constructor
  · intro hwithin k hvisits
    obtain ⟨t, hreach⟩ := visits_iff_reaches.mp hvisits
    exact (h k t).mp (hwithin k t hreach)
  · intro hends k t hreach
    exact (h k t).mpr (hends k (visits_iff_reaches.mpr ⟨t, hreach⟩))

end ReadM

end Infra
