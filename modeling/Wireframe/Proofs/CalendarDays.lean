import Wireframe.Calendar
import Mathlib.Algebra.Order.BigOperators.Group.List
import Mathlib.Algebra.Order.Group.Nat
import Mathlib.Data.List.GetD
import Mathlib.Logic.Function.Iterate
import Mathlib.Order.Monotone.Basic
import Mathlib.Tactic.Common

/-!
# The days of the calendar

The calendar goes from one date to the next: through the days of a month, through the months of a year,
and from one year to the next. The number of a day counts these steps, so the difference of two numbers
is how many days one date is after the other (`Calendar.Date.dayNumber_sub_eq_iff`).
-/

namespace Wireframe.Calendar

lemma isLeapYear_iff {year : Int} :
    isLeapYear year = true ↔ year % 4 = 0 ∧ (year % 100 ≠ 0 ∨ year % 400 = 0) := by
  simp [isLeapYear]

/-- The number of days of a month. -/
def monthLength (year : Int) (month : Nat) : Nat :=
  (monthLengths year).getD (month - 1) 0

/-- The number of days of a year before the first of a month. -/
def daysBeforeMonth (year : Int) (month : Nat) : Nat :=
  ((monthLengths year).take (month - 1)).foldr (· + ·) 0

lemma daysBeforeYear_succ (year : Int) : daysBeforeYear (year + 1)
    = daysBeforeYear year + (daysBeforeMonth year 12 + monthLength year 12 : Nat) := by
  have hyear : daysBeforeMonth year 12 + monthLength year 12
      = if isLeapYear year then 366 else 365 := by
    simp only [daysBeforeMonth, monthLength, monthLengths]
    split <;> rfl
  rw [hyear]
  simp only [isLeapYear_iff, daysBeforeYear]
  split <;> omega

lemma daysBeforeMonth_succ (year : Int) {month : Nat} (h : 1 ≤ month ∧ month ≤ 12) :
    daysBeforeMonth year (month + 1) = daysBeforeMonth year month + monthLength year month := by
  obtain ⟨before, rfl⟩ := Nat.exists_eq_add_of_le' h.1
  have hlength : before < (monthLengths year).length := h.2
  simp only [daysBeforeMonth, monthLength, Nat.add_sub_cancel]
  rw [List.getD_eq_getElem _ _ hlength]
  exact List.sum_take_succ _ _ hlength

lemma daysBeforeYear_le {year other : Int} (h : year ≤ other) :
    daysBeforeYear year ≤ daysBeforeYear other := by
  refine monotone_int_of_le_succ (fun year => ?_) h
  rw [daysBeforeYear_succ]
  omega

lemma daysBeforeMonth_le (year : Int) {month other : Nat} (h : month ≤ other) :
    daysBeforeMonth year month ≤ daysBeforeMonth year other :=
  List.monotone_sum_take (monthLengths year) (Nat.sub_le_sub_right h 1)

namespace Date

variable {date other : Date}

/-- Whether the year of a date has its month and this its day. -/
structure InCalendar (date : Date) : Prop where
  month : 1 ≤ date.month ∧ date.month ≤ 12
  day : 1 ≤ date.day ∧ date.day ≤ monthLength date.year date.month

/-- The day after a date. -/
def next (date : Date) : Date :=
  if date.day < monthLength date.year date.month then { date with day := date.day + 1 }
  else if date.month < 12 then ⟨date.year, date.month + 1, 1⟩
  else ⟨date.year + 1, 1, 1⟩

/-- Whether a date is so many days after another one; before it, their number is negative. -/
def IsAfter (date other : Date) (days : Int) : Prop :=
  ∃ n : Nat, days = n ∧ next^[n] other = date ∨ days = -n ∧ next^[n] date = other

lemma isValid_iff : date.isValid = true
    ↔ date.InCalendar ∧ yearRange.1 ≤ date.year ∧ date.year ≤ yearRange.2 := by
  simp only [isValid, Bool.and_eq_true, decide_eq_true_eq]
  constructor
  · rintro ⟨⟨⟨⟨⟨hleast, hmost⟩, hmonth⟩, hmonth'⟩, hday⟩, hday'⟩
    exact ⟨⟨⟨hmonth, hmonth'⟩, ⟨hday, hday'⟩⟩, hleast, hmost⟩
  · rintro ⟨⟨⟨hmonth, hmonth'⟩, ⟨hday, hday'⟩⟩, hleast, hmost⟩
    exact ⟨⟨⟨⟨⟨hleast, hmost⟩, hmonth⟩, hmonth'⟩, hday⟩, hday'⟩

lemma dayNumber_eq (date : Date) : date.dayNumber
    = daysBeforeYear date.year + daysBeforeMonth date.year date.month + date.day := rfl

lemma one_le_monthLength (year : Int) {month : Nat} (h : 1 ≤ month ∧ month ≤ 12) :
    1 ≤ monthLength year month := by
  obtain ⟨before, rfl⟩ := Nat.exists_eq_add_of_le' h.1
  have hlength : before < (monthLengths year).length := h.2
  have hlengths : ∀ length ∈ monthLengths year, 1 ≤ length := by
    simp only [monthLengths]
    split <;> decide
  rw [monthLength, Nat.add_sub_cancel, List.getD_eq_getElem _ _ hlength]
  exact hlengths _ (List.getElem_mem hlength)

/-- Each month has a first day. -/
lemma inCalendar_first (year : Int) {month : Nat} (h : 1 ≤ month ∧ month ≤ 12) :
    InCalendar ⟨year, month, 1⟩ :=
  ⟨h, ⟨Nat.le_refl _, one_le_monthLength _ h⟩⟩

lemma InCalendar.next (h : date.InCalendar) : date.next.InCalendar := by
  obtain ⟨hmonth, hday⟩ := h
  unfold Date.next
  split
  · next hlt => exact ⟨hmonth, ⟨Nat.le_add_left _ _, hlt⟩⟩
  split
  · next hlt => exact inCalendar_first _ ⟨Nat.le_add_left _ _, hlt⟩
  · exact inCalendar_first _ (by decide)

/-- Going on by one date, the number of the day grows by one. -/
theorem dayNumber_next (h : date.InCalendar) : date.next.dayNumber = date.dayNumber + 1 := by
  obtain ⟨hmonth, hday⟩ := h
  unfold next
  split
  · simp only [dayNumber_eq]
    omega
  split
  · next hlast _ =>
    have hdays := daysBeforeMonth_succ date.year hmonth
    simp only [dayNumber_eq]
    omega
  · next hlast hdecember =>
    obtain hmonth : date.month = 12 := by omega
    have hdays := daysBeforeYear_succ date.year
    have hfirst : daysBeforeMonth (date.year + 1) 1 = 0 := rfl
    rw [hmonth] at hlast hday
    simp only [dayNumber_eq, hmonth, hfirst]
    omega

lemma InCalendar.iterate_next (h : date.InCalendar) (n : Nat) :
    (Date.next^[n] date).InCalendar ∧ (Date.next^[n] date).dayNumber = date.dayNumber + n := by
  induction n with
  | zero => exact ⟨h, (Int.add_zero _).symm⟩
  | succ n ih =>
    rw [Function.iterate_succ_apply']
    refine ⟨ih.1.next, ?_⟩
    rw [dayNumber_next ih.1, ih.2, Int.natCast_succ, Int.add_assoc]

/-! ### Dates and their numbers -/

lemma InCalendar.dayNumber_le_month (h : date.InCalendar) : date.dayNumber
    ≤ daysBeforeYear date.year + daysBeforeMonth date.year (date.month + 1) := by
  rw [dayNumber_eq, daysBeforeMonth_succ _ h.month]
  have hday := h.day
  omega

lemma InCalendar.dayNumber_le_year (h : date.InCalendar) :
    date.dayNumber ≤ daysBeforeYear (date.year + 1) := by
  have hmonth := h.dayNumber_le_month
  have hle := daysBeforeMonth_le date.year (Nat.add_le_add_right h.month.2 1)
  have hdecember := daysBeforeMonth_succ date.year (show 1 ≤ 12 ∧ 12 ≤ 12 by decide)
  rw [daysBeforeYear_succ]
  omega

lemma InCalendar.dayNumber_lt_of_year (h : date.InCalendar) (hother : other.InCalendar)
    (hyear : date.year < other.year) : date.dayNumber < other.dayNumber := by
  have hle := h.dayNumber_le_year
  have hyears := daysBeforeYear_le (Int.add_one_le_iff.mpr hyear)
  have hday := hother.day
  rw [dayNumber_eq other]
  omega

lemma InCalendar.dayNumber_lt_of_month (h : date.InCalendar) (hother : other.InCalendar)
    (hyear : date.year = other.year) (hmonth : date.month < other.month) :
    date.dayNumber < other.dayNumber := by
  have hle := h.dayNumber_le_month
  have hmonths := daysBeforeMonth_le date.year (Nat.add_one_le_iff.mpr hmonth)
  have hday := hother.day
  rw [dayNumber_eq other, ← hyear]
  omega

/-- No two dates of the calendar have the same number. -/
theorem InCalendar.dayNumber_inj (h : date.InCalendar) (hother : other.InCalendar) :
    date.dayNumber = other.dayNumber ↔ date = other := by
  refine ⟨fun heq => ?_, fun heq => heq ▸ rfl⟩
  have hyear : date.year = other.year := by
    rcases lt_trichotomy date.year other.year with hlt | heq | hlt
    · exact absurd heq (h.dayNumber_lt_of_year hother hlt).ne
    · exact heq
    · exact absurd heq (hother.dayNumber_lt_of_year h hlt).ne'
  have hmonth : date.month = other.month := by
    rcases lt_trichotomy date.month other.month with hlt | heq | hlt
    · exact absurd heq (h.dayNumber_lt_of_month hother hyear hlt).ne
    · exact heq
    · exact absurd heq (hother.dayNumber_lt_of_month h hyear.symm hlt).ne'
  rw [dayNumber_eq, dayNumber_eq, hyear, hmonth] at heq
  obtain ⟨year, month, day⟩ := date
  obtain ⟨year', month', day'⟩ := other
  obtain rfl : year = year' := hyear
  obtain rfl : month = month' := hmonth
  obtain rfl : day = day' := Int.natCast_inj.mp (Int.add_left_cancel heq)
  rfl

/-- Each number is that of a date. -/
theorem exists_dayNumber_eq (number : Int) :
    ∃ date : Date, date.InCalendar ∧ date.dayNumber = number := by
  -- The first of January of a year that is early enough; the date is so many days after it.
  let first : Date := ⟨-number.natAbs, 1, 1⟩
  have hfirst : first.InCalendar := inCalendar_first _ (by decide)
  have hle : first.dayNumber ≤ number := by
    have hjanuary : daysBeforeMonth first.year 1 = 0 := rfl
    rw [dayNumber_eq, show first.month = 1 from rfl, hjanuary]
    simp only [first, daysBeforeYear]
    omega
  obtain ⟨hcalendar, hnumber⟩ := hfirst.iterate_next (number - first.dayNumber).toNat
  exact ⟨_, hcalendar, by omega⟩

/-- The difference of two numbers is how many days one date is after the other. -/
theorem dayNumber_sub_eq_iff (h : date.InCalendar) (hother : other.InCalendar) (days : Int) :
    date.dayNumber - other.dayNumber = days ↔ date.IsAfter other days := by
  constructor
  · intro hdays
    obtain ⟨n, rfl | rfl⟩ := Int.eq_nat_or_neg days
    · obtain ⟨hcalendar, hnumber⟩ := hother.iterate_next n
      exact ⟨n, .inl ⟨rfl, (hcalendar.dayNumber_inj h).mp (by omega)⟩⟩
    · obtain ⟨hcalendar, hnumber⟩ := h.iterate_next n
      exact ⟨n, .inr ⟨rfl, (hcalendar.dayNumber_inj hother).mp (by omega)⟩⟩
  · rintro ⟨n, ⟨rfl, rfl⟩ | ⟨rfl, rfl⟩⟩
    · rw [(hother.iterate_next n).2]
      omega
    · rw [(h.iterate_next n).2]
      omega

end Date

end Wireframe.Calendar
