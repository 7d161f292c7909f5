import Mathlib.Data.List.Lex
import Mathlib.Tactic.Ring

namespace Decimal
set_option autoImplicit true

def IsDigit (c : UInt8) : Prop := 48 ≤ c ∧ c ≤ 57

instance : DecidablePred IsDigit := fun c => inferInstanceAs (Decidable (48 ≤ c ∧ c ≤ 57))

def digit (c : UInt8) : Nat := c.toNat - 48

def numberFrom (n : Nat) (digits : List UInt8) : Nat :=
  digits.foldl (fun n c => n * 10 + digit c) n

def number (digits : List UInt8) : Nat := numberFrom 0 digits

def Digits (digits : List UInt8) : Prop := ∀ c ∈ digits, IsDigit c

instance (digits : List UInt8) : Decidable (Digits digits) :=
  List.decidableBAll IsDigit digits

section Numbers

variable {c c' : UInt8} {digits digits' rest rest' : List UInt8}

theorem IsDigit.digit_lt (h : IsDigit c) : digit c < 10 := by
  have hle : c.toNat ≤ 57 := UInt8.le_iff_toNat_le.1 h.2
  unfold digit
  omega

theorem IsDigit.digit_lt_digit (h : IsDigit c) (hlt : c < c') : digit c < digit c' := by
  have hle : 48 ≤ c.toNat := UInt8.le_iff_toNat_le.1 h.1
  have hlt' : c.toNat < c'.toNat := UInt8.lt_iff_toNat_lt.1 hlt
  unfold digit
  omega

@[simp] theorem number_nil : number [] = 0 := rfl

theorem numberFrom_cons (n : Nat) (c : UInt8) (digits : List UInt8) :
    numberFrom n (c :: digits) = numberFrom (n * 10 + digit c) digits := by
  rw [numberFrom, List.foldl_cons, numberFrom]

theorem number_cons_eq (c : UInt8) (digits : List UInt8) :
    number (c :: digits) = numberFrom (digit c) digits := by
  rw [number, numberFrom_cons, Nat.zero_mul, Nat.zero_add]

theorem numberFrom_eq (n : Nat) (digits : List UInt8) :
    numberFrom n digits = n * 10 ^ digits.length + number digits := by
  induction digits generalizing n with
  | nil => simp [numberFrom]
  | cons d digits ih =>
    rw [number_cons_eq, numberFrom_cons, ih, ih (digit d), List.length_cons]
    ring

theorem le_numberFrom (n : Nat) (digits : List UInt8) : n ≤ numberFrom n digits := by
  rw [numberFrom_eq]
  exact (Nat.le_mul_of_pos_right n (Nat.pow_pos (by decide))).trans (Nat.le_add_right _ _)

theorem number_cons (c : UInt8) (digits : List UInt8) :
    number (c :: digits) = digit c * 10 ^ digits.length + number digits := by
  rw [number_cons_eq, numberFrom_eq]

theorem number_lt (h : Digits digits) : number digits < 10 ^ digits.length := by
  induction digits with
  | nil => decide
  | cons c digits ih =>
    have hdigit := (h c List.mem_cons_self).digit_lt
    have hrest := ih fun d hd => h d (List.mem_cons_of_mem c hd)
    rw [number_cons, List.length_cons, Nat.pow_succ]
    calc digit c * 10 ^ digits.length + number digits
        < digit c * 10 ^ digits.length + 10 ^ digits.length := Nat.add_lt_add_left hrest _
      _ = (digit c + 1) * 10 ^ digits.length := by ring
      _ ≤ 10 * 10 ^ digits.length := Nat.mul_le_mul_right _ hdigit
      _ = 10 ^ digits.length * 10 := Nat.mul_comm _ _

theorem number_lt_number (h : Digits digits) (hlength : digits.length = digits'.length)
    (hlt : List.Lex (· < ·) digits digits') : number digits < number digits' := by
  induction hlt with
  | nil => simp at hlength
  | @cons c digits digits' hlt ih =>
    have hlength' : digits.length = digits'.length := Nat.succ.inj hlength
    rw [number_cons, number_cons, hlength']
    exact Nat.add_lt_add_left (ih (fun d hd => h d (List.mem_cons_of_mem c hd)) hlength') _
  | @rel c digits c' digits' hlt =>
    have hlength' : digits.length = digits'.length := Nat.succ.inj hlength
    have hdigit := (h c List.mem_cons_self).digit_lt_digit hlt
    have hrest := number_lt fun d hd => h d (List.mem_cons_of_mem c hd)
    rw [number_cons, number_cons, ← hlength']
    calc digit c * 10 ^ digits.length + number digits
        < digit c * 10 ^ digits.length + 10 ^ digits.length := Nat.add_lt_add_left hrest _
      _ = (digit c + 1) * 10 ^ digits.length := by ring
      _ ≤ digit c' * 10 ^ digits.length := Nat.mul_le_mul_right _ hdigit
      _ ≤ digit c' * 10 ^ digits.length + number digits' := Nat.le_add_right _ _

theorem lex_append (hlength : digits.length = digits'.length)
    (hlt : List.Lex (· < ·) (digits ++ rest) (digits' ++ rest')) :
    List.Lex (· < ·) digits digits' ∨ digits = digits' ∧ List.Lex (· < ·) rest rest' := by
  induction digits generalizing digits' with
  | nil =>
    obtain rfl := List.length_eq_zero_iff.1 hlength.symm
    exact .inr ⟨rfl, hlt⟩
  | cons c digits ih =>
    cases digits' with
    | nil => simp at hlength
    | cons c' digits' =>
      cases hlt with
      | rel hlt => exact .inl (.rel hlt)
      | cons hlt =>
        obtain hlt | ⟨rfl, hrest⟩ := ih (Nat.succ.inj hlength) hlt
        · exact .inl (.cons hlt)
        · exact .inr ⟨rfl, hrest⟩

end Numbers

end Decimal
