import Mathlib.Data.List.TakeWhile
import Mathlib.Tactic.IntervalCases
import TaSecureApi.ContainerTags
import TaSecureApi.Lib.Calendar
import TaSecureApi.Lib.Decimal

namespace TaSecureApi
set_option autoImplicit true
open Calendar Decimal

/-- `struct tm`, as far as it is read. -/
structure Tm where
  tmYear : Int
  tmMon : Nat
  tmMday : Nat
  tmHour : Nat
  tmMin : Nat
  tmSec : Nat

/-- The parts of a format of `strptime`. -/
inductive Directive
  | literal (c : UInt8)
  | year
  | month
  | day
  | hour
  | minute
  | second

/-- `ISO_TIME_FORMAT`: "%Y-%m-%dT%H:%M:%S". -/
def isoTimeFormat : List Directive :=
  [.year, .literal 45, .month, .literal 45, .day, .literal 84, .hour, .literal 58, .minute,
    .literal 58, .second]

def IsSpace (c : UInt8) : Prop := c = 32 ∨ (9 ≤ c ∧ c ≤ 13)

instance : DecidablePred IsSpace := fun c => inferInstanceAs (Decidable (c = 32 ∨ (9 ≤ c ∧ c ≤ 13)))

/-- The other digits of a number, of which no more are read once ten times the number is out of
range. -/
def getDigits (high : Nat) : (count value : Nat) → List UInt8 → Nat × List UInt8
  | 0, value, text => (value, text)
  | _ + 1, value, [] => (value, [])
  | count + 1, value, c :: text =>
    if value * 10 ≤ high ∧ IsDigit c then getDigits high count (value * 10 + digit c) text
    else (value, c :: text)

/-- `get_number` of `strptime`: white space, and so many digits at most for a number in a range. -/
def getNumber (low high count : Nat) (text : List UInt8) : Option (Nat × List UInt8) :=
  match text.dropWhile IsSpace with
  | [] => none
  | c :: text =>
    if IsDigit c then
      let (value, text) := getDigits high (count - 1) (digit c) text
      if low ≤ value ∧ value ≤ high then some (value, text) else none
    else none

def getLiteral (c : UInt8) : List UInt8 → Option (List UInt8)
  | d :: text => if d = c then some text else none
  | [] => none

/-- `strptime` of a text: the fields, and what is behind the match. -/
def strptime : List Directive → List UInt8 → Tm → Option (Tm × List UInt8)
  | [], text, tm => some (tm, text)
  | .literal c :: format, text, tm => do
    let text ← getLiteral c text
    strptime format text tm
  | .year :: format, text, tm => do
    let (year, text) ← getNumber 0 9999 4 text
    strptime format text { tm with tmYear := year - 1900 }
  | .month :: format, text, tm => do
    let (month, text) ← getNumber 1 12 2 text
    strptime format text { tm with tmMon := month - 1 }
  | .day :: format, text, tm => do
    let (day, text) ← getNumber 1 31 2 text
    strptime format text { tm with tmMday := day }
  | .hour :: format, text, tm => do
    let (hour, text) ← getNumber 0 23 2 text
    strptime format text { tm with tmHour := hour }
  | .minute :: format, text, tm => do
    let (minute, text) ← getNumber 0 59 2 text
    strptime format text { tm with tmMin := minute }
  | .second :: format, text, tm => do
    let (second, text) ← getNumber 0 61 2 text
    strptime format text { tm with tmSec := second }

/-- The days of a year before its months, by `tm_mon`. -/
def monYday (leap : Bool) : List Nat :=
  if leap then [0, 31, 60, 91, 121, 152, 182, 213, 244, 274, 305, 335]
  else [0, 31, 59, 90, 120, 151, 181, 212, 243, 273, 304, 334]

/-- `timegm`. A day that the month does not have is one of the next month. -/
def timegm (tm : Tm) : Int :=
  let year := tm.tmYear + 1900
  let leap : Bool := year % 4 = 0 ∧ (year % 100 ≠ 0 ∨ year % 400 = 0)
  let leapDays := ((year - 1) / 4 - 492) - ((year - 1) / 100 - 19) + ((year - 1) / 400 - 4)
  let days := 365 * (year - 1970) + leapDays + (monYday leap).getD tm.tmMon 0 + (tm.tmMday - 1)
  ((days * 24 + tm.tmHour) * 60 + tm.tmMin) * 60 + tm.tmSec

/-- What `iso8601_to_epoch_time` does with the C library: the character behind the match has to be a
`Z`. The text is in memory, with other bytes behind it. -/
def parseIsoTime (behind iso8601 : List UInt8) : Option Int := do
  let (tm, strptimeResult) ← strptime isoTimeFormat (iso8601 ++ behind) ⟨0, 0, 0, 0, 0, 0⟩
  guard (strptimeResult.head? = some 90)
  pure (timegm tm)

def Libraries.withTimes (libraries : Libraries) (behind : List UInt8) : Libraries :=
  { libraries with parseTime := parseIsoTime behind }

structure TimeText where
  year : List UInt8
  month : List UInt8
  day : List UInt8
  hour : List UInt8
  minute : List UInt8
  second : List UInt8

namespace TimeText

def text (f : TimeText) : List UInt8 :=
  f.year ++ 45 :: (f.month ++ 45 :: (f.day ++ 84 :: (f.hour ++ 58 :: (f.minute ++ 58 ::
    (f.second ++ [90])))))

def dateTime (f : TimeText) : DateTime where
  year := number f.year
  month := number f.month
  day := number f.day
  hour := number f.hour
  minute := number f.minute
  second := number f.second

/-- One digit at least and so many at most, for a number in a range. -/
structure Field (digits : List UInt8) (low high count : Nat) : Prop where
  ne_nil : digits ≠ []
  length_le : digits.length ≤ count
  all_digits : Digits digits
  low_le : low ≤ number digits
  le_high : number digits ≤ high

instance (digits : List UInt8) (low high count : Nat) : Decidable (Field digits low high count) :=
  decidable_of_iff (digits ≠ [] ∧ digits.length ≤ count ∧ Digits digits ∧ low ≤ number digits ∧
      number digits ≤ high)
    ⟨fun ⟨h1, h2, h3, h4, h5⟩ => ⟨h1, h2, h3, h4, h5⟩,
      fun ⟨h1, h2, h3, h4, h5⟩ => ⟨h1, h2, h3, h4, h5⟩⟩

/-- What `strptime` reads, behind white space. -/
structure Readable (f : TimeText) : Prop where
  year : Field f.year 0 9999 4
  month : Field f.month 1 12 2
  day : Field f.day 1 31 2
  hour : Field f.hour 0 23 2
  minute : Field f.minute 0 59 2
  second : Field f.second 0 61 2

def Spaces (text : List UInt8) : Prop := ∀ c ∈ text, IsSpace c

structure Blank (f : TimeText) : Prop where
  year : Spaces f.year
  month : Spaces f.month
  day : Spaces f.day
  hour : Spaces f.hour
  minute : Spaces f.minute
  second : Spaces f.second

def after (spaces f : TimeText) : TimeText where
  year := spaces.year ++ f.year
  month := spaces.month ++ f.month
  day := spaces.day ++ f.day
  hour := spaces.hour ++ f.hour
  minute := spaces.minute ++ f.minute
  second := spaces.second ++ f.second

structure Full (f : TimeText) : Prop where
  year : f.year.length = 4 ∧ Digits f.year
  month : f.month.length = 2 ∧ Digits f.month
  day : f.day.length = 2 ∧ Digits f.day
  hour : f.hour.length = 2 ∧ Digits f.hour
  minute : f.minute.length = 2 ∧ Digits f.minute
  second : f.second.length = 2 ∧ Digits f.second

end TimeText

def IsTimestamp (iso8601 : List UInt8) (t : DateTime) : Prop :=
  t.Valid ∧ ∃ f : TimeText, f.Full ∧ iso8601 = f.text ∧ t = f.dateTime

/-- The text is accepted if and only if it is a timestamp of 1970 or later, and for its epoch
seconds. -/
def TimestampExact (libraries : Libraries) (behind iso8601 : List UInt8) : Prop :=
  ∀ epochTime : Nat, iso8601ToEpochTime (libraries.withTimes behind) iso8601 = some epochTime ↔
    ∃ t, IsTimestamp iso8601 t ∧ t.epochSeconds = epochTime

/-- Twenty bytes that are accepted and are no timestamp of 1970 or later: white space before a
field, short fields with something behind the `Z`, a day that the month does not have, a leap
second, or the last second of 1969. -/
def Misread (behind iso8601 : List UInt8) : Prop :=
  ∃ (spaces f : TimeText) (rest : List UInt8), spaces.Blank ∧ f.Readable ∧
    iso8601 ++ behind = (spaces.after f).text ++ rest ∧ iso8601.length = 20 ∧
    -1 ≤ f.dateTime.epochSeconds ∧
    (iso8601 ≠ f.text ∨ monthLength f.dateTime.year f.dateTime.month < f.dateTime.day ∨
      60 ≤ f.dateTime.second ∨ f.dateTime.epochSeconds = -1)

section Numbers

variable {low high count n : Nat} {text rest digits : List UInt8}

theorem getLiteral_eq_some : getLiteral c text = some rest ↔ text = c :: rest := by
  cases text with
  | nil => simp [getLiteral]
  | cons d text => simp [getLiteral]

theorem IsSpace.not_isDigit (h : IsSpace c) : ¬ IsDigit c := by
  rintro ⟨hlow, -⟩
  have hle : 48 ≤ c.toNat := UInt8.le_iff_toNat_le.1 hlow
  rcases h with rfl | ⟨-, hhigh⟩
  · exact absurd hle (by decide)
  · have hle' : c.toNat ≤ 13 := UInt8.le_iff_toNat_le.1 hhigh
    omega

/-- Digits in front of a character that is none are read to their end, where their number is in
range. -/
theorem getDigits_eq (hc : ¬ IsDigit c) (hn : n ≤ high) :
    getDigits high count value text = (n, c :: rest) ↔
      ∃ digits, digits.length ≤ count ∧ Digits digits ∧ text = digits ++ c :: rest ∧
        n = numberFrom value digits := by
  induction count generalizing value text with
  | zero =>
    simp only [getDigits, Prod.mk.injEq, Nat.le_zero, List.length_eq_zero_iff]
    constructor
    · intro ⟨hvalue, htext⟩
      exact ⟨[], rfl, by simp [Digits], htext, hvalue.symm⟩
    · rintro ⟨digits, hnil, -, htext, hvalue⟩
      subst hnil
      exact ⟨hvalue.symm, htext⟩
  | succ count ih =>
    cases text with
    | nil => simp [getDigits]
    | cons d text =>
      rw [getDigits]
      split_ifs with hd
      · rw [ih]
        constructor
        · intro ⟨digits, hlength, hdigits, htext, hvalue⟩
          refine ⟨d :: digits, Nat.succ_le_succ hlength, ?_, by rw [htext]; rfl, hvalue⟩
          exact List.forall_mem_cons.2 ⟨hd.2, hdigits⟩
        · intro ⟨digits, hlength, hdigits, htext, hvalue⟩
          cases digits with
          | nil =>
            obtain ⟨rfl, -⟩ := List.cons.inj htext
            exact absurd hd.2 hc
          | cons d' digits =>
            obtain ⟨rfl, htail⟩ := List.cons.inj htext
            exact ⟨digits, Nat.le_of_succ_le_succ hlength, (List.forall_mem_cons.1 hdigits).2,
              htail, hvalue⟩
      · constructor
        · intro h
          obtain ⟨hvalue, htext⟩ := Prod.mk.inj h
          exact ⟨[], Nat.zero_le _, by simp [Digits], htext, hvalue.symm⟩
        · rintro ⟨digits, -, hdigits, htext, hvalue⟩
          cases digits with
          | nil => exact Prod.ext hvalue.symm htext
          | cons d' digits =>
            -- the number would be out of range with one more digit
            obtain ⟨rfl, -⟩ := List.cons.inj htext
            have hout := not_and'.1 hd (List.forall_mem_cons.1 hdigits).1
            have hle := le_numberFrom (value * 10 + digit d) digits
            rw [numberFrom_cons] at hvalue
            omega

theorem getNumber_eq_some (hc : ¬ IsDigit c) (hcount : 0 < count) :
    getNumber low high count text = some (n, c :: rest) ↔
      ∃ spaces digits, TimeText.Spaces spaces ∧ TimeText.Field digits low high count ∧
        text = spaces ++ (digits ++ c :: rest) ∧ n = number digits := by
  constructor
  · intro h
    have hspaces : TimeText.Spaces (text.takeWhile (IsSpace ·)) := by
      intro c hc
      simpa using List.mem_takeWhile_imp hc
    have htext := List.takeWhile_append_dropWhile (p := (IsSpace ·)) (l := text)
    rw [getNumber] at h
    split at h
    · cases h
    · rename_i d text' hdrop
      split_ifs at h with hd
      generalize hread : getDigits high (count - 1) (digit d) text' = read at h
      obtain ⟨value, left⟩ := read
      dsimp only at h
      split_ifs at h with hrange
      obtain ⟨rfl, rfl⟩ := Prod.mk.inj (Option.some.inj h)
      obtain ⟨digits, hlength, hdigits, rfl, hn⟩ := (getDigits_eq hc hrange.2).1 hread
      have hnumber : value = number (d :: digits) := by
        rw [hn, number_cons_eq]
      refine ⟨_, d :: digits, hspaces, ⟨List.cons_ne_nil _ _, ?_, ?_, ?_, ?_⟩, ?_, hnumber⟩
      · rw [List.length_cons]
        omega
      · exact List.forall_mem_cons.2 ⟨hd, hdigits⟩
      · exact hnumber ▸ hrange.1
      · exact hnumber ▸ hrange.2
      · rw [hdrop] at htext
        exact htext.symm
  · intro ⟨spaces, digits, hspaces, h, htext, hn⟩
    obtain ⟨hne, hlength, hdigits, hlow, hhigh⟩ := h
    obtain ⟨d, digits, rfl⟩ := List.exists_cons_of_ne_nil hne
    have hd := (List.forall_mem_cons.1 hdigits).1
    have hdrop : text.dropWhile (IsSpace ·) = d :: (digits ++ c :: rest) := by
      have hnot : ¬ IsSpace d := fun hspace => hspace.not_isDigit hd
      rw [htext, List.dropWhile_append_of_pos (by simpa [TimeText.Spaces] using hspaces),
        List.cons_append,
        List.dropWhile_cons_of_neg (by simpa using hnot)]
    have hread : getDigits high (count - 1) (digit d) (digits ++ c :: rest) = (n, c :: rest) := by
      apply (getDigits_eq hc (hn ▸ hhigh)).2
      refine ⟨digits, ?_, (List.forall_mem_cons.1 hdigits).2, rfl, ?_⟩
      · rw [List.length_cons] at hlength
        omega
      · rw [hn, number_cons_eq]
    rw [getNumber, hdrop]
    dsimp only
    rw [if_pos hd, hread]
    dsimp only
    rw [hn, if_pos ⟨hlow, hhigh⟩]

end Numbers

section Times

variable {f f' : TimeText} {text rest iso8601 behind : List UInt8} {time : Int}

/-- What `strptime` makes of the fields. -/
def TimeText.tm (f : TimeText) : Tm where
  tmYear := number f.year - 1900
  tmMon := number f.month - 1
  tmMday := number f.day
  tmHour := number f.hour
  tmMin := number f.minute
  tmSec := number f.second

/-- The format is matched, with a `Z` behind it, by the texts of readable fields, with white space
before them. -/
theorem strptime_eq_some {tm₀ tm : Tm} : strptime isoTimeFormat text tm₀ = some (tm, 90 :: rest) ↔
    ∃ spaces f : TimeText, spaces.Blank ∧ f.Readable ∧ text = (spaces.after f).text ++ rest ∧
      tm = f.tm := by
  have h45 : ¬ IsDigit 45 := by decide
  have h58 : ¬ IsDigit 58 := by decide
  have h84 : ¬ IsDigit 84 := by decide
  have h90 : ¬ IsDigit 90 := by decide
  have two : 0 < 2 := by decide
  have four : 0 < 4 := by decide
  simp only [isoTimeFormat, strptime, Option.bind_eq_bind, Option.bind_eq_some_iff, Prod.exists,
    getLiteral_eq_some, Option.some.injEq, Prod.mk.injEq]
  constructor
  · intro ⟨_, _, hyear, _, rfl, _, _, hmonth, _, rfl, _, _, hday, _, rfl, _, _, hhour, _, rfl,
      _, _, hminute, _, rfl, _, _, hsecond, htm, rfl⟩
    obtain ⟨s₁, year, b₁, fieldYear, htext, rfl⟩ := (getNumber_eq_some h45 four).1 hyear
    obtain ⟨s₂, month, b₂, fieldMonth, rfl, rfl⟩ := (getNumber_eq_some h45 two).1 hmonth
    obtain ⟨s₃, day, b₃, fieldDay, rfl, rfl⟩ := (getNumber_eq_some h84 two).1 hday
    obtain ⟨s₄, hour, b₄, fieldHour, rfl, rfl⟩ := (getNumber_eq_some h58 two).1 hhour
    obtain ⟨s₅, minute, b₅, fieldMinute, rfl, rfl⟩ := (getNumber_eq_some h58 two).1 hminute
    obtain ⟨s₆, second, b₆, fieldSecond, rfl, rfl⟩ := (getNumber_eq_some h90 two).1 hsecond
    refine ⟨⟨s₁, s₂, s₃, s₄, s₅, s₆⟩, ⟨year, month, day, hour, minute, second⟩,
      ⟨b₁, b₂, b₃, b₄, b₅, b₆⟩,
      ⟨fieldYear, fieldMonth, fieldDay, fieldHour, fieldMinute, fieldSecond⟩, ?_, htm.symm⟩
    simp [htext, TimeText.text, TimeText.after]
  · intro ⟨spaces, f, b, h, htext, htm⟩
    refine ⟨number f.year, _,
      (getNumber_eq_some h45 four).2 ⟨spaces.year, f.year, b.year, h.year, ?_, rfl⟩, _, rfl,
      number f.month, _,
      (getNumber_eq_some h45 two).2 ⟨spaces.month, f.month, b.month, h.month, rfl, rfl⟩, _, rfl,
      number f.day, _,
      (getNumber_eq_some h84 two).2 ⟨spaces.day, f.day, b.day, h.day, rfl, rfl⟩, _, rfl,
      number f.hour, _,
      (getNumber_eq_some h58 two).2 ⟨spaces.hour, f.hour, b.hour, h.hour, rfl, rfl⟩, _, rfl,
      number f.minute, _,
      (getNumber_eq_some h58 two).2 ⟨spaces.minute, f.minute, b.minute, h.minute, rfl, rfl⟩, _,
      rfl, number f.second, _,
      (getNumber_eq_some h90 two).2 ⟨spaces.second, f.second, b.second, h.second, rfl, rfl⟩,
      htm.symm, rfl⟩
    simp [htext, TimeText.text, TimeText.after]

theorem monYday_eq {year month : Nat} (h : month < 12) :
    (monYday (isLeap year)).getD month 0 = daysBeforeMonth year (month + 1) := by
  cases hleap : isLeap year with
  | true =>
    interval_cases month <;> simp [monYday, daysBeforeMonth, monthLength, hleap]
  | false =>
    interval_cases month <;> simp [monYday, daysBeforeMonth, monthLength, hleap]

theorem timegm_eq (h : f.Readable) : timegm f.tm = f.dateTime.epochSeconds := by
  have hmonth := h.month.low_le
  have hmonth' := h.month.le_high
  have hday := h.day.low_le
  have hyear := daysBeforeYear_eq (number f.year)
  have htm : f.tm.tmYear + 1900 = number f.year := Int.sub_add_cancel _ _
  have hleap : (decide (((number f.year : Nat) : Int) % 4 = 0 ∧
      (((number f.year : Nat) : Int) % 100 ≠ 0 ∨ ((number f.year : Nat) : Int) % 400 = 0))) =
        isLeap (number f.year) := by
    rw [isLeap, decide_eq_decide]
    omega
  have hdays : (monYday (isLeap (number f.year))).getD f.tm.tmMon 0 =
      daysBeforeMonth (number f.year) (number f.month) := by
    have hmon : number f.month - 1 < 12 := by omega
    change (monYday (isLeap (number f.year))).getD (number f.month - 1) 0 = _
    rw [monYday_eq hmon, Nat.sub_add_cancel hmonth]
  have hmday : f.tm.tmMday = number f.day := rfl
  have hhour : f.tm.tmHour = number f.hour := rfl
  have hmin : f.tm.tmMin = number f.minute := rfl
  have hsec : f.tm.tmSec = number f.second := rfl
  simp only [timegm, htm, hleap, hdays, hmday, hhour, hmin, hsec, DateTime.epochSeconds,
    DateTime.days, DateTime.secondOfDay, TimeText.dateTime, epochDays_eq]
  omega

theorem parseIsoTime_eq_some : parseIsoTime behind iso8601 = some time ↔
    ∃ (spaces f : TimeText) (rest : List UInt8), spaces.Blank ∧ f.Readable ∧
      iso8601 ++ behind = (spaces.after f).text ++ rest ∧ time = f.dateTime.epochSeconds := by
  simp only [parseIsoTime, Option.bind_eq_bind, Option.bind_eq_some_iff, Prod.exists,
    Option.guard_eq_some', exists_const, Option.pure_def, Option.some.injEq]
  constructor
  · intro ⟨tm, stopped, hmatch, hz, htime⟩
    obtain ⟨rest, rfl⟩ := List.head?_eq_some_iff.1 hz
    obtain ⟨spaces, f, b, h, htext, rfl⟩ := strptime_eq_some.1 hmatch
    exact ⟨spaces, f, rest, b, h, htext, by rw [← htime, timegm_eq h]⟩
  · intro ⟨spaces, f, rest, b, h, htext, htime⟩
    exact ⟨f.tm, 90 :: rest, strptime_eq_some.2 ⟨spaces, f, b, h, htext, rfl⟩, rfl, by
      rw [htime, timegm_eq h]⟩

example : parseIsoTime [] (ascii "2024-02-29T12:30:45Z") = some 1709209845 := by decide +kernel

example : parseIsoTime [] (ascii "2024- 2- 3T12:30:61Z") = some 1706963461 := by decide +kernel

theorem TimeText.Readable.full (h : f.Readable) (hlength : f.text.length = 20) : f.Full := by
  have hyear := h.year.length_le
  have hmonth := h.month.length_le
  have hday := h.day.length_le
  have hhour := h.hour.length_le
  have hminute := h.minute.length_le
  have hsecond := h.second.length_le
  simp only [TimeText.text, List.length_append, List.length_cons, List.length_nil] at hlength
  exact ⟨⟨by omega, h.year.all_digits⟩, ⟨by omega, h.month.all_digits⟩,
    ⟨by omega, h.day.all_digits⟩, ⟨by omega, h.hour.all_digits⟩,
    ⟨by omega, h.minute.all_digits⟩, ⟨by omega, h.second.all_digits⟩⟩

theorem monthLength_le (year month : Nat) : monthLength year month ≤ 31 := by
  unfold monthLength
  split
  · split <;> decide
  all_goals decide

theorem TimeText.Full.readable (h : f.Full) (hvalid : f.dateTime.Valid) : f.Readable := by
  have hfield {digits : List UInt8} {low high count : Nat}
      (hdigits : digits.length = count ∧ Digits digits) (hcount : 0 < count)
      (hlow : low ≤ number digits) (hhigh : number digits ≤ high) :
      Field digits low high count :=
    ⟨List.length_pos_iff.1 (hdigits.1 ▸ hcount), hdigits.1.le, hdigits.2, hlow, hhigh⟩
  have hyear := number_lt h.year.2
  rw [h.year.1] at hyear
  exact ⟨hfield h.year (by decide) (Nat.zero_le _) (Nat.le_of_lt_succ hyear),
    hfield h.month (by decide) hvalid.month_pos hvalid.month_le,
    hfield h.day (by decide) hvalid.day_pos (hvalid.day_le.trans (monthLength_le _ _)),
    hfield h.hour (by decide) (Nat.zero_le _) (Nat.le_of_lt_succ hvalid.hour),
    hfield h.minute (by decide) (Nat.zero_le _) (Nat.le_of_lt_succ hvalid.minute),
    hfield h.second (by decide) (Nat.zero_le _) (Nat.le_succ_of_le hvalid.second.le)⟩

theorem TimeText.Full.length (h : f.Full) : f.text.length = 20 := by
  simp [TimeText.text, h.year.1, h.month.1, h.day.1, h.hour.1, h.minute.1, h.second.1]

def TimeText.empty : TimeText := ⟨[], [], [], [], [], []⟩

theorem TimeText.empty_blank : TimeText.empty.Blank :=
  ⟨List.forall_mem_nil _, List.forall_mem_nil _, List.forall_mem_nil _, List.forall_mem_nil _,
    List.forall_mem_nil _, List.forall_mem_nil _⟩

theorem TimeText.empty_after (f : TimeText) : TimeText.empty.after f = f := rfl

theorem readable_unique {spaces spaces' : TimeText} (b : spaces.Blank) (b' : spaces'.Blank)
    (h : f.Readable) (h' : f'.Readable) {rest rest' : List UInt8}
    (htext : (spaces.after f).text ++ rest = (spaces'.after f').text ++ rest') :
    f.dateTime = f'.dateTime ∧ rest = rest' := by
  have hread : strptime isoTimeFormat ((spaces.after f).text ++ rest) ⟨0, 0, 0, 0, 0, 0⟩ =
      some (f.tm, 90 :: rest) := strptime_eq_some.2 ⟨spaces, f, b, h, rfl, rfl⟩
  have hread' : strptime isoTimeFormat ((spaces.after f).text ++ rest) ⟨0, 0, 0, 0, 0, 0⟩ =
      some (f'.tm, 90 :: rest') := strptime_eq_some.2 ⟨spaces', f', b', h', htext, rfl⟩
  simp only [hread, Option.some.injEq, Prod.mk.injEq, List.cons.injEq, true_and, TimeText.tm,
    Tm.mk.injEq] at hread'
  obtain ⟨⟨hyear, hmonth, hday, hhour, hminute, hsecond⟩, hrest⟩ := hread'
  have hpos := h.month.low_le
  have hpos' := h'.month.low_le
  refine ⟨?_, hrest⟩
  simp only [TimeText.dateTime, DateTime.mk.injEq]
  exact ⟨by omega, by omega, hday, hhour, hminute, hsecond⟩

theorem TimeText.Full.not_isSpace (h : f.Full) (hc : c ∈ f.text) : ¬ IsSpace c := by
  have hdigits {digits : List UInt8} (hdigits : Digits digits) (hc : c ∈ digits) : ¬ IsSpace c :=
    fun hspace => hspace.not_isDigit (hdigits c hc)
  simp only [text, List.mem_append, List.mem_cons, List.not_mem_nil, or_false] at hc
  rcases hc with hc | rfl | hc | rfl | hc | rfl | hc | rfl | hc | rfl | hc | rfl
  · exact hdigits h.year.2 hc
  · decide
  · exact hdigits h.month.2 hc
  · decide
  · exact hdigits h.day.2 hc
  · decide
  · exact hdigits h.hour.2 hc
  · decide
  · exact hdigits h.minute.2 hc
  · decide
  · exact hdigits h.second.2 hc
  · decide

theorem after_of_full {spaces : TimeText} (b : spaces.Blank) (h : f'.Full)
    (htext : (spaces.after f).text = f'.text) : spaces.after f = f := by
  have hnil {part : List UInt8} (hpart : TimeText.Spaces part)
      (hsub : ∀ c ∈ part, c ∈ (spaces.after f).text) : part = [] := by
    apply List.eq_nil_iff_forall_not_mem.2
    intro c hc
    exact h.not_isSpace (htext ▸ hsub c hc) (hpart c hc)
  have hyear : spaces.year = [] := hnil b.year fun c hc => by
    simp [TimeText.text, TimeText.after, hc]
  have hmonth : spaces.month = [] := hnil b.month fun c hc => by
    simp [TimeText.text, TimeText.after, hc]
  have hday : spaces.day = [] := hnil b.day fun c hc => by simp [TimeText.text, TimeText.after, hc]
  have hhour : spaces.hour = [] := hnil b.hour fun c hc => by
    simp [TimeText.text, TimeText.after, hc]
  have hminute : spaces.minute = [] := hnil b.minute fun c hc => by
    simp [TimeText.text, TimeText.after, hc]
  have hsecond : spaces.second = [] := hnil b.second fun c hc => by
    simp [TimeText.text, TimeText.after, hc]
  simp [TimeText.after, hyear, hmonth, hday, hhour, hminute, hsecond]

theorem not_refused_iff : ¬ (time < 0 ∧ time ≠ -1) ↔ -1 ≤ time := by omega

theorem iso8601ToEpochTime_eq_some {libraries : Libraries} {epochTime : Nat} :
    iso8601ToEpochTime (libraries.withTimes behind) iso8601 = some epochTime ↔
      iso8601.length = 20 ∧ ∃ (spaces f : TimeText) (rest : List UInt8), spaces.Blank ∧
        f.Readable ∧ iso8601 ++ behind = (spaces.after f).text ++ rest ∧
        -1 ≤ f.dateTime.epochSeconds ∧ (f.dateTime.epochSeconds % 2 ^ 64).toNat = epochTime := by
  have hparse : (libraries.withTimes behind).parseTime = parseIsoTime behind := rfl
  simp only [iso8601ToEpochTime, hparse, Option.bind_eq_bind, Option.bind_eq_some_iff,
    Option.guard_eq_some', exists_const, parseIsoTime_eq_some, not_refused_iff, Option.pure_def,
    Option.some.injEq]
  constructor
  · intro ⟨hlength, time, ⟨spaces, f, rest, b, h, htext, htime⟩, hpast, hepoch⟩
    rw [htime] at hpast hepoch
    exact ⟨hlength, spaces, f, rest, b, h, htext, hpast, hepoch⟩
  · intro ⟨hlength, spaces, f, rest, b, h, htext, hpast, hepoch⟩
    exact ⟨hlength, _, ⟨spaces, f, rest, b, h, htext, rfl⟩, hpast, hepoch⟩

theorem epochSeconds_lt (h : f.Readable) (hvalid : f.dateTime.Valid) :
    f.dateTime.epochSeconds < 2 ^ 64 := by
  have hyears := daysBeforeYear_eq (number f.year + 1)
  have hyear := h.year.le_high
  have hdays : f.dateTime.days < daysBeforeYear (number f.year + 1) := hvalid.days_lt
  have hsecond := hvalid.secondOfDay_lt
  unfold DateTime.epochSeconds
  omega

theorem timestampExact_iff {libraries : Libraries} :
    TimestampExact libraries behind iso8601 ↔ ¬ Misread behind iso8601 := by
  constructor
  · intro hexact ⟨spaces, f, rest, b, h, htext, hlength, hpast, hbad⟩
    obtain ⟨t, ⟨hvalid, f', hfull, htext', rfl⟩, hepoch⟩ :=
      (hexact _).1 (iso8601ToEpochTime_eq_some.2
        ⟨hlength, spaces, f, rest, b, h, htext, hpast, rfl⟩)
    have hwhole : (spaces.after f).text ++ rest = (TimeText.empty.after f').text ++ behind := by
      rw [← htext, htext', TimeText.empty_after]
    obtain ⟨hdate, hrest⟩ :=
      readable_unique b TimeText.empty_blank h (hfull.readable hvalid) hwhole
    rw [hrest, TimeText.empty_after, List.append_cancel_right_eq] at hwhole
    have hself : iso8601 = f.text := by
      rw [htext', ← hwhole, after_of_full b hfull hwhole]
    rw [hdate] at hbad
    obtain hbad | hbad | hbad | hbad := hbad
    · exact hbad hself
    · exact Nat.not_lt.2 hvalid.day_le hbad
    · exact Nat.not_lt.2 hbad hvalid.second
    · rw [hbad] at hepoch
      exact absurd hepoch (by omega)
  · intro hgood epochTime
    rw [iso8601ToEpochTime_eq_some]
    constructor
    · intro ⟨hlength, spaces, f, rest, b, h, htext, hpast, hepoch⟩
      have hnone (hbad) : False := hgood ⟨spaces, f, rest, b, h, htext, hlength, hpast, hbad⟩
      have hself : iso8601 = f.text := by
        by_contra hbad
        exact hnone (.inl hbad)
      have hday : f.dateTime.day ≤ monthLength f.dateTime.year f.dateTime.month := by
        by_contra hbad
        exact hnone (.inr (.inl (Nat.not_le.1 hbad)))
      have hsecond : f.dateTime.second < 60 := by
        by_contra hbad
        exact hnone (.inr (.inr (.inl (Nat.not_lt.1 hbad))))
      have hlast : f.dateTime.epochSeconds ≠ -1 := fun hbad => hnone (.inr (.inr (.inr hbad)))
      have hvalid : f.dateTime.Valid := ⟨h.month.low_le, h.month.le_high, h.day.low_le, hday,
        Nat.lt_succ_of_le h.hour.le_high, Nat.lt_succ_of_le h.minute.le_high, hsecond⟩
      have hlt := epochSeconds_lt h hvalid
      rw [Int.emod_eq_of_lt (by omega) hlt] at hepoch
      refine ⟨f.dateTime, ⟨hvalid, f, h.full (hself ▸ hlength), hself, rfl⟩, ?_⟩
      omega
    · intro ⟨t, ⟨hvalid, f, hfull, htext, ht⟩, hepoch⟩
      subst ht
      have h := hfull.readable hvalid
      have hlt := epochSeconds_lt h hvalid
      refine ⟨htext ▸ hfull.length, .empty, f, behind, TimeText.empty_blank, h, ?_, by omega, ?_⟩
      · rw [htext, TimeText.empty_after]
      · rw [Int.emod_eq_of_lt (by omega) hlt, hepoch, Int.toNat_natCast]

theorem lex_field {digits digits' rest rest' : List UInt8} {count : Nat}
    (h : digits.length = count ∧ Digits digits) (h' : digits'.length = count ∧ Digits digits')
    (hlt : List.Lex (· < ·) (digits ++ c :: rest) (digits' ++ c :: rest')) :
    number digits < number digits' ∨
      number digits = number digits' ∧ List.Lex (· < ·) rest rest' := by
  have hlength := h.1.trans h'.1.symm
  obtain hlt | ⟨heq, hlt⟩ := lex_append hlength hlt
  · exact .inl (number_lt_number h.2 hlength hlt)
  · cases hlt with
    | rel hlt => exact absurd hlt (UInt8.lt_irrefl c)
    | cons hlt => exact .inr ⟨congrArg number heq, hlt⟩

theorem TimeText.Full.before (h : f.Full) (h' : f'.Full)
    (hlt : List.Lex (· < ·) f.text f'.text) : f.dateTime.Before f'.dateTime := by
  obtain hlt | ⟨hyear, hlt⟩ := lex_field h.year h'.year hlt
  · exact .inl hlt
  refine .inr ⟨hyear, ?_⟩
  obtain hlt | ⟨hmonth, hlt⟩ := lex_field h.month h'.month hlt
  · exact .inl hlt
  refine .inr ⟨hmonth, ?_⟩
  obtain hlt | ⟨hday, hlt⟩ := lex_field h.day h'.day hlt
  · exact .inl hlt
  refine .inr ⟨hday, ?_⟩
  obtain hlt | ⟨hhour, hlt⟩ := lex_field h.hour h'.hour hlt
  · exact .inl hlt
  refine .inr ⟨hhour, ?_⟩
  obtain hlt | ⟨hminute, hlt⟩ := lex_field h.minute h'.minute hlt
  · exact .inl hlt
  refine .inr ⟨hminute, ?_⟩
  obtain hlt | ⟨_, hlt⟩ := lex_field h.second h'.second hlt
  · exact hlt
  · cases hlt

theorem IsTimestamp.epochSeconds_lt {iso8601' : List UInt8} {t t' : DateTime}
    (h : IsTimestamp iso8601 t) (h' : IsTimestamp iso8601' t')
    (hlt : List.Lex (· < ·) iso8601 iso8601') : t.epochSeconds < t'.epochSeconds := by
  obtain ⟨hvalid, f, hfull, rfl, rfl⟩ := h
  obtain ⟨_, f', hfull', rfl, rfl⟩ := h'
  exact (hfull.before hfull' hlt).epochSeconds_lt hvalid

end Times

/-- Every text but those that are misread is accepted if and only if it is a timestamp of 1970 or
later, for its epoch seconds, and later timestamps are accepted for greater ones. -/
theorem timestamps_exact (libraries : Libraries) (behind iso8601 : List UInt8) :
    (TimestampExact libraries behind iso8601 ↔ ¬ Misread behind iso8601) ∧
    ∀ behind' iso8601' epochTime epochTime', ¬ Misread behind iso8601 →
      ¬ Misread behind' iso8601' →
      iso8601ToEpochTime (libraries.withTimes behind) iso8601 = some epochTime →
      iso8601ToEpochTime (libraries.withTimes behind') iso8601' = some epochTime' →
      List.Lex (· < ·) iso8601 iso8601' → epochTime < epochTime' := by
  refine ⟨timestampExact_iff, ?_⟩
  intro behind' iso8601' epochTime epochTime' hgood hgood' haccepted haccepted' hlt
  obtain ⟨t, ht, hepoch⟩ := (timestampExact_iff.2 hgood _).1 haccepted
  obtain ⟨t', ht', hepoch'⟩ := (timestampExact_iff.2 hgood' _).1 haccepted'
  have hseconds := ht.epochSeconds_lt ht' hlt
  rw [hepoch, hepoch'] at hseconds
  exact Int.ofNat_lt.1 hseconds

/-- The last second of 1969 is accepted, for the greatest epoch time that there is. -/
theorem timestamps_not_exact :
    ¬ ∀ libraries behind iso8601, TimestampExact libraries behind iso8601 := by
  intro h
  let f : TimeText := ⟨ascii "1969", ascii "12", ascii "31", ascii "23", ascii "59", ascii "59"⟩
  have hreadable : f.Readable :=
    ⟨by decide, by decide, by decide, by decide, by decide, by decide⟩
  have hseconds : f.dateTime.epochSeconds = -1 := by decide +kernel
  apply timestampExact_iff.1 (h (plainLibraries [] fun _ => none) [] f.text)
  exact ⟨.empty, f, [], TimeText.empty_blank, hreadable, rfl, by decide, by rw [hseconds],
    .inr (.inr (.inr hseconds))⟩

end TaSecureApi
