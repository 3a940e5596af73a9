import Mathlib.Data.Nat.Find
import Mathlib.Order.Monotone.Basic
import Mathlib.Tactic.Common

/-!
# The Gregorian calendar

A date carries the proofs that it exists.  `Date.days` counts the days since the first of January of
the year 1, `Date.ofDays` finds the date of such a number, and the order of dates, year before month
before day, is the order of these numbers.
-/

namespace Library.Calendar

def isLeap (year : Nat) : Bool := year % 4 = 0 ∧ (year % 100 ≠ 0 ∨ year % 400 = 0)

def daysInMonth (leap : Bool) : Nat → Nat
  | 2 => if leap then 29 else 28
  | 4 => 30
  | 6 => 30
  | 9 => 30
  | 11 => 30
  | _ => 31

def daysInYear (leap : Bool) : Nat := if leap then 366 else 365

/-- The days before the first of January of a year from 1 on. -/
def daysBeforeYear (year : Nat) : Nat :=
  let y := year - 1
  y * 365 + y / 4 - y / 100 + y / 400

/-- The days of the year before a month from 1 on. -/
def daysBeforeMonth (leap : Bool) : Nat → Nat
  | 0 => 0
  | 1 => 0
  | m + 2 => daysBeforeMonth leap (m + 1) + daysInMonth leap (m + 1)

theorem succ_div_eq (y k : Nat) :
    (y + 1) / k = y / k + if (y + 1) % k = 0 then 1 else 0 := by
  rw [Nat.succ_div]
  simp only [Nat.dvd_iff_mod_eq_zero]

theorem daysBeforeYear_succ {year : Nat} (hyear : 1 ≤ year) :
    daysBeforeYear (year + 1) = daysBeforeYear year + daysInYear (isLeap year) := by
  obtain ⟨y, rfl⟩ : ∃ y, year = y + 1 := ⟨year - 1, by omega⟩
  have h100 : (y + 1) % 400 = 0 → (y + 1) % 100 = 0 := by omega
  have h4 : (y + 1) % 100 = 0 → (y + 1) % 4 = 0 := by omega
  have hle : y / 100 ≤ y * 365 := by omega
  unfold daysBeforeYear
  dsimp only
  rw [Nat.add_sub_cancel, Nat.add_sub_cancel, succ_div_eq y 4, succ_div_eq y 100,
    succ_div_eq y 400]
  generalize y / 4 = q4, y / 100 = q100, y / 400 = q400 at *
  -- the rule has three exceptions, one inside the other
  by_cases hr4 : (y + 1) % 4 = 0
  · by_cases hr100 : (y + 1) % 100 = 0
    · by_cases hr400 : (y + 1) % 400 = 0
      · have hleap : daysInYear (isLeap (y + 1)) = 366 := by simp [daysInYear, isLeap, *]
        rw [hleap, if_pos hr4, if_pos hr100, if_pos hr400]
        omega
      · have hleap : daysInYear (isLeap (y + 1)) = 365 := by simp [daysInYear, isLeap, *]
        rw [hleap, if_pos hr4, if_pos hr100, if_neg hr400]
        omega
    · have hr400 : ¬(y + 1) % 400 = 0 := fun h => hr100 (h100 h)
      have hleap : daysInYear (isLeap (y + 1)) = 366 := by simp [daysInYear, isLeap, *]
      rw [hleap, if_pos hr4, if_neg hr100, if_neg hr400]
      omega
  · have hr100 : ¬(y + 1) % 100 = 0 := fun h => hr4 (h4 h)
    have hr400 : ¬(y + 1) % 400 = 0 := fun h => hr100 (h100 h)
    have hleap : daysInYear (isLeap (y + 1)) = 365 := by simp [daysInYear, isLeap, *]
    rw [hleap, if_neg hr4, if_neg hr100, if_neg hr400]
    omega

theorem daysBeforeYear_mono : Monotone daysBeforeYear := by
  apply monotone_nat_of_le_succ
  intro year
  cases year with
  | zero => exact le_rfl
  | succ y =>
      rw [daysBeforeYear_succ (Nat.le_add_left 1 y)]
      exact Nat.le_add_right _ _

theorem le_daysBeforeYear (year : Nat) : (year - 1) * 365 ≤ daysBeforeYear year := by
  unfold daysBeforeYear
  dsimp only
  omega

theorem daysBeforeMonth_succ (leap : Bool) {month : Nat} (hmonth : 1 ≤ month) :
    daysBeforeMonth leap (month + 1) =
      daysBeforeMonth leap month + daysInMonth leap month := by
  obtain ⟨m, rfl⟩ : ∃ m, month = m + 1 := ⟨month - 1, by omega⟩
  rfl

theorem daysBeforeMonth_mono (leap : Bool) : Monotone (daysBeforeMonth leap) := by
  apply monotone_nat_of_le_succ
  intro m
  cases m with
  | zero => exact le_rfl
  | succ m =>
      rw [daysBeforeMonth_succ leap (Nat.le_add_left 1 m)]
      exact Nat.le_add_right _ _

theorem daysBeforeMonth_thirteen (leap : Bool) : daysBeforeMonth leap 13 = daysInYear leap := by
  cases leap <;> decide

structure Date where
  year : Nat
  month : Nat
  day : Nat
  year_pos : 1 ≤ year
  month_pos : 1 ≤ month
  month_le : month ≤ 12
  day_pos : 1 ≤ day
  day_le : day ≤ daysInMonth (isLeap year) month

namespace Date

/-- The days from the first of January of the year 1 to the date. -/
def days (d : Date) : Nat :=
  daysBeforeYear d.year + daysBeforeMonth (isLeap d.year) d.month + (d.day - 1)

/-! ## The order of dates -/

theorem days_lt_nextMonth (d : Date) :
    d.days < daysBeforeYear d.year + daysBeforeMonth (isLeap d.year) (d.month + 1) := by
  have hday := d.day_le
  have hpos := d.day_pos
  rw [days, daysBeforeMonth_succ _ d.month_pos]
  omega

theorem days_lt_nextYear (d : Date) : d.days < daysBeforeYear (d.year + 1) := by
  have hlt := d.days_lt_nextMonth
  have hmonth : d.month + 1 ≤ 13 := by
    have := d.month_le
    omega
  have hle := daysBeforeMonth_mono (isLeap d.year) hmonth
  rw [daysBeforeMonth_thirteen] at hle
  rw [daysBeforeYear_succ d.year_pos]
  omega

theorem days_lt_of_year_lt {d e : Date} (h : d.year < e.year) : d.days < e.days := by
  have hle := daysBeforeYear_mono (show d.year + 1 ≤ e.year from h)
  have hlt := d.days_lt_nextYear
  unfold days at *
  omega

theorem days_lt_of_month_lt {d e : Date} (hyear : d.year = e.year) (h : d.month < e.month) :
    d.days < e.days := by
  have hle := daysBeforeMonth_mono (isLeap e.year) (show d.month + 1 ≤ e.month from h)
  have hlt := d.days_lt_nextMonth
  rw [hyear] at hlt
  rw [days, hyear] at *
  unfold days
  omega

theorem days_lt_of_day_lt {d e : Date} (hyear : d.year = e.year) (hmonth : d.month = e.month)
    (h : d.day < e.day) : d.days < e.days := by
  have hpos := d.day_pos
  unfold days
  rw [hyear, hmonth]
  omega

theorem days_eq {d e : Date} (hyear : d.year = e.year) (hmonth : d.month = e.month)
    (hday : d.day = e.day) : d.days = e.days := by
  unfold days
  rw [hyear, hmonth, hday]

/-- **The order of dates** is the order of their numbers of days. -/
theorem days_lt_iff (d e : Date) : d.days < e.days ↔
    d.year < e.year ∨ (d.year = e.year ∧
      (d.month < e.month ∨ (d.month = e.month ∧ d.day < e.day))) := by
  rcases Nat.lt_trichotomy d.year e.year with hlt | heq | hgt
  · exact iff_of_true (days_lt_of_year_lt hlt) (.inl hlt)
  · rcases Nat.lt_trichotomy d.month e.month with hmlt | hmeq | hmgt
    · exact iff_of_true (days_lt_of_month_lt heq hmlt) (.inr ⟨heq, .inl hmlt⟩)
    · rcases Nat.lt_trichotomy d.day e.day with hdlt | hdeq | hdgt
      · exact iff_of_true (days_lt_of_day_lt heq hmeq hdlt) (.inr ⟨heq, .inr ⟨hmeq, hdlt⟩⟩)
      · have hdays := days_eq heq hmeq hdeq
        exact iff_of_false (by omega) (by omega)
      · have hdays := days_lt_of_day_lt heq.symm hmeq.symm hdgt
        exact iff_of_false (by omega) (by omega)
    · have hdays := days_lt_of_month_lt heq.symm hmgt
      exact iff_of_false (by omega) (by omega)
  · have hdays := days_lt_of_year_lt hgt
    exact iff_of_false (by omega) (by omega)

end Date

/-! ## The date of a number of days -/

/-- The year of the day `n`.  A year has at least 365 days, so the search starts close to it. -/
def yearOf (n : Nat) : Nat := Nat.findGreatest (fun y => daysBeforeYear y ≤ n) (n / 365 + 1)

def dayOfYear (n : Nat) : Nat := n - daysBeforeYear (yearOf n)

def monthOf (leap : Bool) (n : Nat) : Nat :=
  Nat.findGreatest (fun m => daysBeforeMonth leap m ≤ n) 12

theorem one_le_yearOf (n : Nat) : 1 ≤ yearOf n :=
  Nat.le_findGreatest (by omega) (Nat.zero_le n)

theorem daysBeforeYear_yearOf_le (n : Nat) : daysBeforeYear (yearOf n) ≤ n := by
  have hfirst : daysBeforeYear 1 ≤ n := Nat.zero_le n
  exact Nat.findGreatest_spec (P := fun y => daysBeforeYear y ≤ n) (by omega) hfirst

theorem lt_daysBeforeYear_yearOf (n : Nat) : n < daysBeforeYear (yearOf n + 1) := by
  by_cases hbound : yearOf n + 1 ≤ n / 365 + 1
  · exact not_le.mp (Nat.findGreatest_is_greatest (P := fun y => daysBeforeYear y ≤ n)
      (Nat.lt_succ_self (yearOf n)) hbound)
  · have hle := le_daysBeforeYear (yearOf n + 1)
    omega

theorem dayOfYear_lt (n : Nat) : dayOfYear n < daysInYear (isLeap (yearOf n)) := by
  have hle := daysBeforeYear_yearOf_le n
  have hlt := lt_daysBeforeYear_yearOf n
  rw [daysBeforeYear_succ (one_le_yearOf n)] at hlt
  unfold dayOfYear
  omega

section Month

variable (leap : Bool) (n : Nat)

theorem one_le_monthOf : 1 ≤ monthOf leap n :=
  Nat.le_findGreatest (by omega) (Nat.zero_le n)

theorem monthOf_le : monthOf leap n ≤ 12 := Nat.findGreatest_le 12

theorem daysBeforeMonth_monthOf_le : daysBeforeMonth leap (monthOf leap n) ≤ n := by
  have hfirst : daysBeforeMonth leap 1 ≤ n := Nat.zero_le n
  exact Nat.findGreatest_spec (P := fun m => daysBeforeMonth leap m ≤ n) (by omega) hfirst

theorem lt_daysBeforeMonth_monthOf {n : Nat} (h : n < daysInYear leap) :
    n < daysBeforeMonth leap (monthOf leap n + 1) := by
  by_cases hbound : monthOf leap n + 1 ≤ 12
  · exact not_le.mp (Nat.findGreatest_is_greatest (P := fun m => daysBeforeMonth leap m ≤ n)
      (Nat.lt_succ_self (monthOf leap n)) hbound)
  · have hlast : monthOf leap n = 12 := by
      have := monthOf_le leap n
      omega
    rw [hlast, daysBeforeMonth_thirteen]
    exact h

end Month

def Date.ofDays (n : Nat) : Date where
  year := yearOf n
  month := monthOf (isLeap (yearOf n)) (dayOfYear n)
  day := dayOfYear n - daysBeforeMonth (isLeap (yearOf n))
    (monthOf (isLeap (yearOf n)) (dayOfYear n)) + 1
  year_pos := one_le_yearOf n
  month_pos := one_le_monthOf _ _
  month_le := monthOf_le _ _
  day_pos := by omega
  day_le := by
    have hlt := lt_daysBeforeMonth_monthOf _ (dayOfYear_lt n)
    have hle := daysBeforeMonth_monthOf_le (isLeap (yearOf n)) (dayOfYear n)
    rw [daysBeforeMonth_succ _ (one_le_monthOf _ _)] at hlt
    omega

/-- **The date of a day** is the date with that number of days. -/
theorem Date.days_ofDays (n : Nat) : (Date.ofDays n).days = n := by
  have hyear := daysBeforeYear_yearOf_le n
  have hmonth := daysBeforeMonth_monthOf_le (isLeap (yearOf n)) (dayOfYear n)
  unfold Date.days Date.ofDays
  dsimp only
  unfold dayOfYear at *
  omega

theorem yearOf_lt_iff {n year : Nat} : yearOf n < year ↔ n < daysBeforeYear year := by
  apply Iff.intro
  · intro h
    exact (lt_daysBeforeYear_yearOf n).trans_le (daysBeforeYear_mono h)
  · intro h
    by_contra hge
    have hmono := daysBeforeYear_mono (not_lt.mp hge)
    have hle := daysBeforeYear_yearOf_le n
    omega

example : (Date.ofDays 737483).year = 2020 ∧ (Date.ofDays 737483).month = 2 ∧
    (Date.ofDays 737483).day = 29 := by decide

end Library.Calendar
