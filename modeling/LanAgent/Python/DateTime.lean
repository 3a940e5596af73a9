import LanAgent.Library.Calendar
import LanAgent.Library.Decimals
import Mathlib.Tactic.Common

/-!
# `datetime` as text

A naive moment is the number of microseconds since the beginning of the year 1.  The two texts of it
that meet in a comparison are the cutoff of the server, down to the second, and what SQLAlchemy
stores, down to the microsecond.  Both are of fixed width, so their order is that of the moments, to
the second.
-/

namespace Python

open Library.Calendar Library.Decimals

/-- The whole seconds since the beginning of the year 1. -/
def wholeSeconds (t : Int) : Nat := (t / 1000000).toNat

def dateOf (seconds : Nat) : Date := Date.ofDays (seconds / 86400)

/-- The years of four digits that do not start with a zero. -/
def InYears (t : Int) : Prop :=
  0 ≤ t ∧ 1000 ≤ (dateOf (wholeSeconds t)).year ∧ (dateOf (wholeSeconds t)).year ≤ 9999

instance (t : Int) : Decidable (InYears t) := inferInstanceAs (Decidable (_ ∧ _ ∧ _))

/-- `%Y-%m-%d %H:%M:%S`. -/
def secondsText (seconds : Nat) : List Char :=
  zeroPadded 4 (dateOf seconds).year ++ '-' :: (zeroPadded 2 (dateOf seconds).month ++ '-' ::
    (zeroPadded 2 (dateOf seconds).day ++ ' ' :: (zeroPadded 2 (seconds % 86400 / 3600) ++ ':' ::
      (zeroPadded 2 (seconds % 3600 / 60) ++ ':' :: zeroPadded 2 (seconds % 60)))))

/-- `strftime('%Y-%m-%d %H:%M:%S')`, with `%Y` as documented: the year with four digits.  Some
platforms leave out the zeros in front of a year before 1000. -/
def strftime (t : Int) : String := String.ofList (secondsText (wholeSeconds t))

/-- What SQLAlchemy stores in a `DateTime` column of SQLite, the microseconds behind the rest. -/
def storedText (t : Int) : String :=
  String.ofList (secondsText (wholeSeconds t) ++ '.' :: zeroPadded 6 (t % 1000000).toNat)

theorem daysInMonth_le (leap : Bool) (month : Nat) : daysInMonth leap month ≤ 31 := by
  unfold daysInMonth
  split
  · cases leap <;> decide
  all_goals decide

/-- Dates compare as their parts do. -/
theorem dateOf_lt_iff (s t : Nat) (P : Prop) :
    (dateOf s).year < (dateOf t).year ∨ ((dateOf s).year = (dateOf t).year ∧
      ((dateOf s).month < (dateOf t).month ∨ ((dateOf s).month = (dateOf t).month ∧
        ((dateOf s).day < (dateOf t).day ∨ ((dateOf s).day = (dateOf t).day ∧ P))))) ↔
      s / 86400 < t / 86400 ∨ (s / 86400 = t / 86400 ∧ P) := by
  have hlt := Date.days_lt_iff (dateOf s) (dateOf t)
  have hsame : s / 86400 = t / 86400 ↔ (dateOf s).year = (dateOf t).year ∧
      (dateOf s).month = (dateOf t).month ∧ (dateOf s).day = (dateOf t).day := by
    apply Iff.intro
    · intro h
      unfold dateOf
      rw [h]
      exact ⟨rfl, rfl, rfl⟩
    · intro h
      have hdays := Date.days_eq h.1 h.2.1 h.2.2
      unfold dateOf at hdays
      rwa [Date.days_ofDays, Date.days_ofDays] at hdays
  have hdays : ∀ n, (dateOf n).days = n / 86400 := fun n => Date.days_ofDays _
  rw [hdays, hdays] at hlt
  rw [hlt, hsame]
  simp only [and_or_left, or_assoc, and_assoc]

/-- Times of day compare as their parts do. -/
theorem timeOfDay_lt_iff (s t : Nat) (P : Prop) :
    s % 86400 / 3600 < t % 86400 / 3600 ∨ (s % 86400 / 3600 = t % 86400 / 3600 ∧
      (s % 3600 / 60 < t % 3600 / 60 ∨ (s % 3600 / 60 = t % 3600 / 60 ∧
        (s % 60 < t % 60 ∨ (s % 60 = t % 60 ∧ P))))) ↔
      s % 86400 < t % 86400 ∨ (s % 86400 = t % 86400 ∧ P) := by
  have hminute : ∀ n, n % 60 = n % 3600 % 60 := fun n => by omega
  have hhour : ∀ n, n % 3600 = n % 86400 % 3600 := fun n => by omega
  rw [hminute s, hminute t, div_mod_lt_iff P, hhour s, hhour t, div_mod_lt_iff P]

/-- **The order of the texts** is that of the seconds, and what follows them decides last. -/
theorem secondsText_append_lt_iff {s t : Nat} (hs : (dateOf s).year ≤ 9999)
    (ht : (dateOf t).year ≤ 9999) {x y : List Char} :
    secondsText s ++ x < secondsText t ++ y ↔ s < t ∨ (s = t ∧ x < y) := by
  have hmonth : ∀ d : Date, d.month < 10 ^ 2 := fun d => by
    have hle := d.month_le
    omega
  have hday : ∀ d : Date, d.day < 10 ^ 2 := fun d => by
    have hle := d.day_le
    have hmax := daysInMonth_le (isLeap d.year) d.month
    omega
  have hcons : ∀ {c : Char} {a b : List Char}, c :: a < c :: b ↔ a < b := by
    intro c a b
    rw [List.cons_lt_cons_iff]
    simp
  unfold secondsText
  simp only [List.append_assoc, List.cons_append]
  rw [zeroPadded_append_lt_iff (by decide) (by omega) (by omega), hcons,
    zeroPadded_append_lt_iff (by decide) (hmonth _) (hmonth _), hcons,
    zeroPadded_append_lt_iff (by decide) (hday _) (hday _), hcons,
    zeroPadded_append_lt_iff (by decide) (by omega) (by omega), hcons,
    zeroPadded_append_lt_iff (by decide) (by omega) (by omega), hcons,
    zeroPadded_append_lt_iff (by decide) (by omega) (by omega)]
  rw [dateOf_lt_iff, timeOfDay_lt_iff, div_mod_lt_iff]

theorem wholeSeconds_sub {t : Int} {n : Nat} (h : (n : Int) * 1000000 ≤ t) :
    wholeSeconds (t - n * 1000000) = wholeSeconds t - n := by
  unfold wholeSeconds
  omega

theorem year_mono {s t : Nat} (h : s ≤ t) : (dateOf s).year ≤ (dateOf t).year := by
  have hyear : ∀ n, (dateOf n).year = yearOf (n / 86400) := fun n => rfl
  rw [hyear, hyear, ← not_lt, yearOf_lt_iff]
  have hle := daysBeforeYear_yearOf_le (s / 86400)
  have hdays := Nat.div_le_div_right (c := 86400) h
  omega

/-- A moment of those years is years after the first. -/
theorem InYears.seconds_le {t : Int} (h : InYears t) : 86400 * 364877 ≤ wholeSeconds t := by
  have hyear : ¬yearOf (wholeSeconds t / 86400) < 1000 := not_lt.mpr h.2.1
  rw [yearOf_lt_iff] at hyear
  have hdays : daysBeforeYear 1000 = 364877 := by decide
  omega

/-- **The comparison of the sweep.**  A stored moment is before a cutoff, a few seconds before
another moment, as a text exactly when it is by its whole seconds. -/
theorem storedText_lt_strftime_iff {t now : Int} (ht : InYears t) (hnow : InYears now) {n : Nat}
    (hn : n ≤ 86400) :
    (storedText t).toList < (strftime (now - n * 1000000)).toList ↔
      wholeSeconds t < wholeSeconds now - n := by
  have hbound := hnow.seconds_le
  have hle : (n : Int) * 1000000 ≤ now := by
    have hnonneg := hnow.1
    unfold wholeSeconds at hbound
    omega
  have hyear : (dateOf (wholeSeconds now - n)).year ≤ 9999 :=
    (year_mono (Nat.sub_le _ _)).trans hnow.2.2
  rw [storedText, strftime, String.toList_ofList, String.toList_ofList, wholeSeconds_sub hle,
    ← List.append_nil (secondsText (wholeSeconds now - n)),
    secondsText_append_lt_iff ht.2.2 hyear]
  simp

/-- Stored moments compare as texts as they do as moments. -/
theorem storedText_lt_iff {s t : Int} (hs : InYears s) (ht : InYears t) :
    (storedText s).toList < (storedText t).toList ↔ s < t := by
  have hfraction : ∀ u : Int, (u % 1000000).toNat < 10 ^ 6 := fun u => by omega
  have hfractions := zeroPadded_append_lt_iff (by decide) (hfraction s) (hfraction t) (x := [])
    (y := [])
  rw [List.append_nil, List.append_nil, or_iff_left fun h => List.not_lt_nil [] h.2] at hfractions
  have hdot : ¬( '.' < '.') := by decide
  rw [storedText, storedText, String.toList_ofList, String.toList_ofList,
    secondsText_append_lt_iff hs.2.2 ht.2.2, List.cons_lt_cons_iff, hfractions, or_iff_right hdot,
    and_iff_right rfl]
  have hs₀ := hs.1
  have ht₀ := ht.1
  unfold wholeSeconds
  omega

section Cutoff

variable {t now : Int} (ht : InYears t) (hnow : InYears now) {n : Nat} (hn : n ≤ 86400)
include ht hnow hn

/-- A text before the cutoff belongs to a moment before it. -/
theorem lt_of_storedText_lt
    (h : (storedText t).toList < (strftime (now - n * 1000000)).toList) :
    t < now - n * 1000000 := by
  rw [storedText_lt_strftime_iff ht hnow hn] at h
  unfold wholeSeconds at h
  omega

/-- The other texts belong to moments less than a second before the cutoff, or after it. -/
theorem lt_of_not_storedText_lt
    (h : ¬(storedText t).toList < (strftime (now - n * 1000000)).toList) :
    now - (n + 1) * 1000000 < t := by
  have hbound := hnow.seconds_le
  have hnonneg := ht.1
  rw [storedText_lt_strftime_iff ht hnow hn] at h
  unfold wholeSeconds at h hbound
  omega

end Cutoff

end Python
