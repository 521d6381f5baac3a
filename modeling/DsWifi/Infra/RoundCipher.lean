import Mathlib.Tactic.Common

/-!
# Ciphers made of rounds

A round substitutes, mixes and adds a key, and the last one does not mix. When mixing keeps sums,
the inverse can be computed by rounds of the same shape, with the mixed keys in reverse order.

* `decrypt_encrypt`, `encrypt_decrypt` — the two take each other back
-/

namespace Infra

/-- The operations of a round, and how they are taken back. -/
structure RoundCipher (S : Type) where
  add : S → S → S
  sub : S → S
  subInv : S → S
  mix : S → S
  mixInv : S → S
  add_add : ∀ x k, add (add x k) k = x
  subInv_sub : ∀ x, subInv (sub x) = x
  sub_subInv : ∀ x, sub (subInv x) = x
  mixInv_mix : ∀ x, mixInv (mix x) = x
  mix_mixInv : ∀ x, mix (mixInv x) = x
  mixInv_add : ∀ x k, mixInv (add x k) = add (mixInv x) (mixInv k)

/-- The keys of the rounds: one that is added first, those of the rounds that mix, and the last. -/
structure RoundKeys (S : Type) where
  first : S
  middle : List S
  last : S
  deriving DecidableEq, Repr

namespace RoundCipher

variable {S : Type} (c : RoundCipher S)

def round (x k : S) : S := c.add (c.mix (c.sub x)) k

def invRound (x k : S) : S := c.add (c.mixInv (c.subInv x)) k

def encrypt (ks : RoundKeys S) (x : S) : S :=
  c.add (c.sub (ks.middle.foldl c.round (c.add x ks.first))) ks.last

/-- The inverse by rounds of the same shape. -/
def decrypt (ks : RoundKeys S) (x : S) : S :=
  c.add (c.subInv (ks.middle.foldl c.invRound (c.add x ks.first))) ks.last

/-- The keys for the inverse. -/
def invKeys (ks : RoundKeys S) : RoundKeys S :=
  ⟨ks.last, (ks.middle.map c.mixInv).reverse, ks.first⟩

variable {c}

theorem invRound_round (x k : S) : c.invRound (c.sub (c.round x k)) (c.mixInv k) = c.sub x := by
  rw [invRound, round, c.subInv_sub, c.mixInv_add, c.mixInv_mix, c.add_add]

theorem round_invRound (x k : S) :
    c.round (c.subInv (c.invRound x (c.mixInv k))) k = c.subInv x := by
  have hkey : c.invRound x (c.mixInv k) = c.mixInv (c.add (c.subInv x) k) := (c.mixInv_add _ _).symm
  rw [round, c.sub_subInv, hkey, c.mix_mixInv, c.add_add]

/-- The rounds of the inverse, behind those of the cipher. -/
theorem foldl_invRound_foldl_round (ks : List S) (x : S) :
    (ks.map c.mixInv).reverse.foldl c.invRound (c.sub (ks.foldl c.round x)) = c.sub x := by
  induction ks generalizing x with
  | nil => rfl
  | cons k ks ih =>
    have hfold := congrArg (c.invRound · (c.mixInv k)) (ih (c.round x k))
    rw [List.map_cons, List.reverse_cons, List.foldl_append]
    exact hfold.trans (invRound_round x k)

/-- The rounds of the cipher, behind those of the inverse. -/
theorem foldl_round_foldl_invRound (ks : List S) (x : S) :
    ks.foldl c.round (c.subInv ((ks.map c.mixInv).reverse.foldl c.invRound x)) = c.subInv x := by
  induction ks generalizing x with
  | nil => rfl
  | cons k ks ih =>
    rw [List.map_cons, List.reverse_cons, List.foldl_append, List.foldl_cons]
    show ks.foldl c.round (c.round (c.subInv (c.invRound _ (c.mixInv k))) k) = _
    rw [round_invRound, ih]

/-- **The inverse takes the cipher back.** -/
theorem decrypt_encrypt (ks : RoundKeys S) (x : S) :
    c.decrypt (c.invKeys ks) (c.encrypt ks x) = x := by
  rw [decrypt, encrypt, invKeys]
  dsimp only
  rw [c.add_add, foldl_invRound_foldl_round, c.subInv_sub, c.add_add]

/-- **The cipher takes the inverse back.** -/
theorem encrypt_decrypt (ks : RoundKeys S) (x : S) :
    c.encrypt ks (c.decrypt (c.invKeys ks) x) = x := by
  rw [decrypt, encrypt, invKeys]
  dsimp only
  rw [c.add_add, foldl_round_foldl_invRound, c.sub_subInv, c.add_add]

end RoundCipher

end Infra
