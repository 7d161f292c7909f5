import Mathlib.Order.Monotone.Basic
import Mathlib.Tactic.Ring

namespace Calendar
set_option autoImplicit true

def isLeap (year : Nat) : Bool := year % 4 = 0 ∧ (year % 100 ≠ 0 ∨ year % 400 = 0)

def yearLength (year : Nat) : Nat := if isLeap year then 366 else 365

def monthLength (year : Nat) : Nat → Nat
  | 2 => if isLeap year then 29 else 28
  | 4 | 6 | 9 | 11 => 30
  | _ => 31

def daysBeforeYear : Nat → Nat
  | 0 => 0
  | year + 1 => daysBeforeYear year + yearLength year

/-- The days of a year that are before a month, which are counted from one. -/
def daysBeforeMonth (year : Nat) : Nat → Nat
  | 0 | 1 => 0
  | month + 2 => daysBeforeMonth year (month + 1) + monthLength year (month + 1)

/-- A date and a time of day, in fields that may not go together. -/
structure DateTime where
  year : Nat
  month : Nat
  day : Nat
  hour : Nat
  minute : Nat
  second : Nat
  deriving DecidableEq

namespace DateTime

structure Valid (t : DateTime) : Prop where
  month_pos : 1 ≤ t.month
  month_le : t.month ≤ 12
  day_pos : 1 ≤ t.day
  day_le : t.day ≤ monthLength t.year t.month
  hour : t.hour < 24
  minute : t.minute < 60
  second : t.second < 60

instance (t : DateTime) : Decidable t.Valid :=
  decidable_of_iff (1 ≤ t.month ∧ t.month ≤ 12 ∧ 1 ≤ t.day ∧ t.day ≤ monthLength t.year t.month ∧
      t.hour < 24 ∧ t.minute < 60 ∧ t.second < 60)
    ⟨fun ⟨h1, h2, h3, h4, h5, h6, h7⟩ => ⟨h1, h2, h3, h4, h5, h6, h7⟩,
      fun ⟨h1, h2, h3, h4, h5, h6, h7⟩ => ⟨h1, h2, h3, h4, h5, h6, h7⟩⟩

def days (t : DateTime) : Nat :=
  daysBeforeYear t.year + (daysBeforeMonth t.year t.month + (t.day - 1))

def secondOfDay (t : DateTime) : Nat := (t.hour * 60 + t.minute) * 60 + t.second

def epochDays : Nat := daysBeforeYear 1970

def epochSeconds (t : DateTime) : Int :=
  ((t.days : Int) - epochDays) * 86400 + t.secondOfDay

def Before (t t' : DateTime) : Prop :=
  t.year < t'.year ∨ t.year = t'.year ∧ (t.month < t'.month ∨ t.month = t'.month ∧
    (t.day < t'.day ∨ t.day = t'.day ∧ (t.hour < t'.hour ∨ t.hour = t'.hour ∧
      (t.minute < t'.minute ∨ t.minute = t'.minute ∧ t.second < t'.second))))

end DateTime

section Lengths

variable {year month : Nat}

theorem lt_of_blocks {start : Nat → Nat} (hstart : Monotone start) (h : a < a')
    (hr : start a + r < start (a + 1)) : start a + r < start a' + r' :=
  calc start a + r < start (a + 1) := hr
    _ ≤ start a' := hstart h
    _ ≤ start a' + r' := Nat.le_add_right _ _

theorem daysBeforeYear_mono : Monotone daysBeforeYear :=
  monotone_nat_of_le_succ fun _ => Nat.le_add_right _ _

theorem daysBeforeMonth_succ (h : 1 ≤ month) :
    daysBeforeMonth year (month + 1) = daysBeforeMonth year month + monthLength year month := by
  obtain ⟨month, rfl⟩ := Nat.exists_eq_add_of_le' h
  rfl

theorem daysBeforeMonth_mono : Monotone (daysBeforeMonth year) :=
  monotone_nat_of_le_succ fun month => by
    cases month with
    | zero => exact Nat.le_refl 0
    | succ month => exact Nat.le_add_right _ _

theorem daysBeforeMonth_year : daysBeforeMonth year 13 = yearLength year := by
  unfold yearLength
  cases h : isLeap year with
  | true => simp [daysBeforeMonth, monthLength, h]
  | false => simp [daysBeforeMonth, monthLength, h]

theorem multiples_succ (k year : Nat) :
    (year + 1 + k) / (k + 1) = (year + k) / (k + 1) + if k + 1 ∣ year then 1 else 0 := by
  rw [Nat.add_right_comm, Nat.succ_div]
  simp only [Nat.add_assoc, Nat.dvd_add_self_right]

/-- The leap years are every fourth one, without three of each four hundred. -/
theorem daysBeforeYear_eq (year : Nat) : daysBeforeYear year + (year + 99) / 100 =
    365 * year + (year + 3) / 4 + (year + 399) / 400 := by
  induction year with
  | zero => rfl
  | succ year ih =>
    rw [daysBeforeYear, yearLength, multiples_succ 99, multiples_succ 3, multiples_succ 399]
    by_cases hleap : isLeap year
    · rw [if_pos hleap]
      rw [isLeap, decide_eq_true_eq] at hleap
      split_ifs <;> omega
    · rw [if_neg hleap]
      rw [isLeap, decide_eq_true_eq] at hleap
      split_ifs <;> omega

theorem epochDays_eq : DateTime.epochDays = 719528 := by
  have hyears := daysBeforeYear_eq 1970
  rw [← DateTime.epochDays] at hyears
  omega

end Lengths

section Order

variable {t t' : DateTime}

theorem DateTime.Valid.dayOfYear_lt (h : t.Valid) :
    daysBeforeMonth t.year t.month + (t.day - 1) < daysBeforeMonth t.year (t.month + 1) := by
  have hday := h.day_pos
  have hlast := h.day_le
  rw [daysBeforeMonth_succ h.month_pos]
  omega

theorem DateTime.Valid.days_lt (h : t.Valid) : t.days < daysBeforeYear (t.year + 1) := by
  have hmonth : daysBeforeMonth t.year (t.month + 1) ≤ yearLength t.year := by
    rw [← daysBeforeMonth_year]
    exact daysBeforeMonth_mono (Nat.succ_le_succ h.month_le)
  exact Nat.add_lt_add_left (Nat.lt_of_lt_of_le h.dayOfYear_lt hmonth) _

theorem DateTime.Valid.secondOfDay_lt (h : t.Valid) : t.secondOfDay < 86400 := by
  have hhour := h.hour
  have hminute := h.minute
  have hsecond := h.second
  unfold DateTime.secondOfDay
  omega

theorem DateTime.Before.epochSeconds_lt (h : t.Before t') (ht : t.Valid) :
    t.epochSeconds < t'.epochSeconds := by
  have hlater (hlt : t.days < t'.days) :
      t.days * 86400 + t.secondOfDay < t'.days * 86400 + t'.secondOfDay := by
    have hsecond := ht.secondOfDay_lt
    omega
  have hseconds : t.days * 86400 + t.secondOfDay < t'.days * 86400 + t'.secondOfDay := by
    obtain h | ⟨hyear, h | ⟨hmonth, h | ⟨hday, h⟩⟩⟩ := h
    · exact hlater (lt_of_blocks daysBeforeYear_mono h ht.days_lt)
    · have hdays : daysBeforeMonth t.year t.month + (t.day - 1) <
          daysBeforeMonth t.year t'.month + (t'.day - 1) :=
        lt_of_blocks daysBeforeMonth_mono h ht.dayOfYear_lt
      apply hlater
      unfold DateTime.days
      rw [← hyear]
      exact Nat.add_lt_add_left hdays _
    · have hpos := ht.day_pos
      apply hlater
      unfold DateTime.days
      rw [hyear, hmonth]
      omega
    · have hminute := ht.minute
      have hsecond := ht.second
      have hdays : t.days = t'.days := by
        rw [DateTime.days, DateTime.days, hyear, hmonth, hday]
      unfold DateTime.secondOfDay
      omega
  unfold DateTime.epochSeconds
  omega

end Order

end Calendar
