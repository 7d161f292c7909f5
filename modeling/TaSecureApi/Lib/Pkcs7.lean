import Mathlib.Data.List.Basic
import Mathlib.Data.List.Lemmas
import Mathlib.Tactic.Ring

namespace Pkcs7
set_option autoImplicit true

/-- The number of bytes that complete a length to whole blocks, at least one of them. -/
def padValue (b length : Nat) : Nat := b * (length / b + 1) - length

def pad (b : Nat) (bytes : List UInt8) : List UInt8 :=
  bytes ++ List.replicate (padValue b bytes.length) (UInt8.ofNat (padValue b bytes.length))

/-- The number that the last byte of a block gives, if the end of the block has that many of it. -/
def check (b : Nat) (block : List UInt8) : Option Nat :=
  let value := (block.getD (b - 1) 0).toNat
  if value < 1 ∨ value > b then none
  else if (block.drop (b - value)).all (fun byte => byte.toNat == value) then some value
  else none

section Lemmas

variable {b n : Nat} (bytes : List UInt8)

theorem check_bounds (h : check b block = some n) : 1 ≤ n ∧ n ≤ b := by
  unfold check at h
  simp only [Option.ite_none_left_eq_some, Option.ite_none_right_eq_some, Option.some.injEq] at h
  omega

theorem padValue_spec (hb : 0 < b) : n + padValue b n = b * (n / b + 1) ∧ 1 ≤ padValue b n ∧
    padValue b n ≤ b := by
  have hdiv := Nat.div_add_mod n b
  have hmod := Nat.mod_lt n hb
  have hmul : b * (n / b + 1) = b * (n / b) + b := by ring
  unfold padValue
  omega

theorem length_pad (hb : 0 < b) : (pad b bytes).length = b * (bytes.length / b + 1) := by
  rw [pad, List.length_append, List.length_replicate]
  exact (padValue_spec hb).1

theorem length_pad_mod (hb : 0 < b) : (pad b bytes).length % b = 0 := by
  rw [length_pad bytes hb, Nat.mul_mod_right]

theorem le_length_pad (hb : 0 < b) : b ≤ (pad b bytes).length := by
  rw [length_pad bytes hb]
  exact Nat.le_mul_of_pos_right b (Nat.succ_pos _)

theorem take_pad : (pad b bytes).take ((pad b bytes).length - padValue b bytes.length) =
    bytes := by
  have hlen : (pad b bytes).length - padValue b bytes.length = bytes.length := by
    rw [pad, List.length_append, List.length_replicate, Nat.add_sub_cancel]
  rw [hlen, pad, List.take_left']
  rfl

theorem check_pad (hb : 0 < b) (hbyte : b < 256) :
    check b ((pad b bytes).drop ((pad b bytes).length - b)) = some (padValue b bytes.length) := by
  obtain ⟨-, hpos, hle⟩ := padValue_spec (n := bytes.length) hb
  have hblock : b ≤ (pad b bytes).length := le_length_pad bytes hb
  have hlength : (pad b bytes).length = bytes.length + padValue b bytes.length := by
    rw [pad, List.length_append, List.length_replicate]
  have hvalue : (UInt8.ofNat (padValue b bytes.length)).toNat = padValue b bytes.length := by
    rw [UInt8.toNat_ofNat']
    exact Nat.mod_eq_of_lt (by omega)
  have hadded : ∀ i, bytes.length ≤ i → i < (pad b bytes).length →
      (pad b bytes).getD i 0 = UInt8.ofNat (padValue b bytes.length) := by
    intro i hi hlt
    have hi' : i - bytes.length < padValue b bytes.length := by omega
    rw [pad, List.getD_eq_getElem?_getD, List.getElem?_append_right hi,
      List.getElem?_replicate_of_lt hi', Option.getD_some]
  have hlast : ((pad b bytes).drop ((pad b bytes).length - b)).getD (b - 1) 0 =
      UInt8.ofNat (padValue b bytes.length) := by
    rw [List.getD_eq_getElem?_getD, List.getElem?_drop, ← List.getD_eq_getElem?_getD]
    exact hadded _ (by omega) (by omega)
  have hend : ((pad b bytes).drop ((pad b bytes).length - b)).drop (b - padValue b bytes.length) =
      List.replicate (padValue b bytes.length) (UInt8.ofNat (padValue b bytes.length)) := by
    rw [List.drop_drop]
    have hdrop : (pad b bytes).length - b + (b - padValue b bytes.length) = bytes.length := by
      omega
    rw [hdrop, pad, List.drop_left']
    rfl
  have hrange : ¬ (padValue b bytes.length < 1 ∨ padValue b bytes.length > b) := by omega
  simp only [check, hlast, hvalue, hrange, if_false, hend]
  rw [if_pos]
  rw [List.all_eq_true]
  intro byte hbyte
  rw [List.eq_of_mem_replicate hbyte, hvalue]
  exact beq_self_eq_true _

end Lemmas

end Pkcs7
