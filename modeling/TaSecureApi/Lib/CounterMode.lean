import Mathlib.Data.BitVec
import Mathlib.Tactic.Ring

namespace CounterMode
set_option autoImplicit true

/-- The bytes of the blocks from `start` on, as one counter of all bits. -/
def wideStream (size : Nat) (E : BitVec w → Nat → β) (start : BitVec w) (i : Nat) : β :=
  E (start + BitVec.ofNat w (i / size)) (i % size)

/-- The bytes of the blocks from `nonce ++ counter` on, where only the counter moves. -/
def splitStream (size : Nat) (E : BitVec (n + m) → Nat → β) (nonce : BitVec n)
    (counter : BitVec m) (i : Nat) : β :=
  E (nonce ++ (counter + BitVec.ofNat m (i / size))) (i % size)

/-- Without a rollover of the lower half, adding to the whole is adding to the lower half. -/
theorem append_add (nonce : BitVec n) (counter : BitVec m) (h : counter.toNat + k < 2 ^ m) :
    (nonce ++ counter) + BitVec.ofNat (n + m) k = nonce ++ (counter + BitVec.ofNat m k) := by
  have hk : k < 2 ^ m := by omega
  have hsum : (counter.toNat + k) % 2 ^ m = counter.toNat + k := Nat.mod_eq_of_lt h
  apply BitVec.eq_of_toNat_eq
  have hlow : (counter + BitVec.ofNat m k).toNat = counter.toNat + k := by
    rw [BitVec.toNat_add, BitVec.toNat_ofNat, Nat.mod_eq_of_lt hk, hsum]
  have hor : ∀ y : BitVec m, (nonce ++ y).toNat = nonce.toNat * 2 ^ m + y.toNat := by
    intro y
    rw [BitVec.toNat_append, Nat.shiftLeft_eq, Nat.mul_comm,
      ← Nat.two_pow_add_eq_or_of_lt y.isLt, Nat.mul_comm]
  have hlt : nonce.toNat * 2 ^ m + (counter.toNat + k) < 2 ^ (n + m) := by
    have h₁ : (nonce.toNat + 1) * 2 ^ m ≤ 2 ^ n * 2 ^ m :=
      Nat.mul_le_mul_right _ nonce.isLt
    rw [pow_add]
    calc nonce.toNat * 2 ^ m + (counter.toNat + k)
        < nonce.toNat * 2 ^ m + 2 ^ m := by omega
      _ = (nonce.toNat + 1) * 2 ^ m := by ring
      _ ≤ 2 ^ n * 2 ^ m := h₁
  have hk' : k < 2 ^ (n + m) := by omega
  rw [BitVec.toNat_add, BitVec.toNat_ofNat, Nat.mod_eq_of_lt hk', hor, hor, hlow, Nat.add_assoc,
    Nat.mod_eq_of_lt hlt]

theorem ofNat_add_ofNat (x : BitVec w) (a b : Nat) :
    x + BitVec.ofNat w a + BitVec.ofNat w b = x + BitVec.ofNat w (a + b) := by
  rw [BitVec.add_assoc, ← BitVec.ofNat_add]

theorem add_mul_div (size k i : Nat) (hs : 0 < size) : (size * k + i) / size = k + i / size := by
  rw [Nat.add_comm, Nat.add_mul_div_left _ _ hs, Nat.add_comm]

section Streams

variable {size : Nat} {β : Type}

theorem wideStream_eq_split {E : BitVec (n + m) → Nat → β} {nonce : BitVec n}
    {counter : BitVec m} (h : counter.toNat + i / size < 2 ^ m) :
    wideStream size E (nonce ++ counter) i = splitStream size E nonce counter i := by
  rw [wideStream, splitStream, append_add nonce counter h]

theorem splitStream_add {E : BitVec (n + m) → Nat → β} (nonce : BitVec n) (counter : BitVec m)
    (hs : 0 < size) (k i : Nat) :
    splitStream size E nonce counter (size * k + i) =
      splitStream size E nonce (counter + BitVec.ofNat m k) i := by
  rw [splitStream, splitStream, add_mul_div size k i hs, Nat.mul_add_mod, ofNat_add_ofNat]

theorem wideStream_add {E : BitVec w → Nat → β} (start : BitVec w) (hs : 0 < size) (k i : Nat) :
    wideStream size E start (size * k + i) = wideStream size E (start + BitVec.ofNat w k) i := by
  rw [wideStream, wideStream, add_mul_div size k i hs, Nat.mul_add_mod, ofNat_add_ofNat]

/-- The stream of a counter that has moved on by the blocks before byte `j`, from the byte within
its block, is the stream from byte `j`. -/
theorem splitStream_resume {E : BitVec (n + m) → Nat → β} (nonce : BitVec n)
    (counter : BitVec m) (hs : 0 < size) (j i : Nat) :
    splitStream size E nonce (counter + BitVec.ofNat m (j / size)) (j % size + i) =
      splitStream size E nonce counter (j + i) := by
  rw [← splitStream_add nonce counter hs, ← Nat.add_assoc, Nat.div_add_mod]

theorem wideStream_resume {E : BitVec (n + m) → Nat → β} {nonce : BitVec n} {counter : BitVec m}
    (hs : 0 < size) {j : Nat} (h : counter.toNat + j / size < 2 ^ m) (i : Nat) :
    wideStream size E (nonce ++ (counter + BitVec.ofNat m (j / size))) (j % size + i) =
      wideStream size E (nonce ++ counter) (j + i) := by
  rw [← append_add nonce counter h, ← wideStream_add _ hs, ← Nat.add_assoc, Nat.div_add_mod]

end Streams

end CounterMode
