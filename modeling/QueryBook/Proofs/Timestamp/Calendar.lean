import Mathlib.Order.Monotone.Basic
import Mathlib.Tactic.IntervalCases
import QueryBook.Proofs.Decimal.Places
import QueryBook.Timestamp

namespace QueryBook

/-!
# The order of days

* `Date.monthNumber`, `monthStart` — the months, counted from March of year 0, and the number of the
  first day of a month.
* `monthStart_succ` — a month is followed by the next one after the days that it has.
* `Date.compare_dayNumber` — the order of days in time is that of year, month and day.
-/

/-- The number of months from March of year 0 to the month of a day. -/
def Date.monthNumber (d : Date) : Int := 12 * d.year + d.month - 3

/-- The number of the first day of a month. -/
def monthStart (k : Int) : Int :=
  365 * (k / 12) + k / 12 / 4 - k / 12 / 100 + k / 12 / 400 + (153 * (k % 12) + 2) / 5

/-- A day is counted from the first one of its month. -/
theorem Date.dayNumber_eq (d : Date) :
    d.dayNumber = monthStart d.monthNumber + (d.day - 1) := by
  have hpos := d.month_pos
  have hle := d.month_le
  unfold dayNumber monthStart monthNumber
  by_cases hearly : d.month ≤ 2
  · have hyear : (12 * d.year + d.month - 3) / 12 = d.year - 1 := by omega
    have hmonth : (12 * d.year + d.month - 3) % 12 = d.month + 9 := by omega
    simp only [if_pos hearly, hyear, hmonth]
    omega
  · have hyear : (12 * d.year + d.month - 3) / 12 = d.year := by omega
    have hmonth : (12 * d.year + d.month - 3) % 12 = d.month - 3 := by omega
    simp only [if_neg hearly, hyear, hmonth]
    omega

/-- A month has the days that the calendar gives it. -/
theorem monthStart_succ (year : Int) (month : Nat) (hpos : 1 ≤ month) (hle : month ≤ 12) :
    monthStart (12 * year + month - 3 + 1) =
      monthStart (12 * year + month - 3) + daysInMonth year month := by
  by_cases hfebruary : month = 2
  · -- The year that is counted from March ends, with a leap day if the next one has one.
    subst hfebruary
    have hlast : (12 * year + (2 : Nat) - 3) / 12 = year - 1 ∧
        (12 * year + (2 : Nat) - 3) % 12 = 11 := by omega
    have hnext : (12 * year + (2 : Nat) - 3 + 1) / 12 = year ∧
        (12 * year + (2 : Nat) - 3 + 1) % 12 = 0 := by omega
    simp only [monthStart, hlast, hnext, daysInMonth, if_true]
    by_cases hleap : isLeapYear year = true
    · rw [if_pos hleap]
      simp only [isLeapYear, Bool.and_eq_true, Bool.or_eq_true, beq_iff_eq, bne_iff_ne] at hleap
      omega
    · rw [if_neg hleap]
      simp only [isLeapYear, Bool.and_eq_true, Bool.or_eq_true, beq_iff_eq, bne_iff_ne] at hleap
      omega
  · have hyear : (12 * year + month - 3 + 1) / 12 = (12 * year + month - 3) / 12 := by omega
    have hmonth : (12 * year + month - 3 + 1) % 12 = (12 * year + month - 3) % 12 + 1 := by omega
    have hlength : (153 * ((12 * year + month - 3) % 12 + 1) + 2) / 5 =
        (153 * ((12 * year + month - 3) % 12) + 2) / 5 + daysInMonth year month := by
      rw [daysInMonth, if_neg hfebruary]
      interval_cases month <;> simp <;> omega
    simp only [monthStart, hyear, hmonth, hlength]
    omega

/-- The months are in order. -/
theorem monthStart_lt_succ (k : Int) : monthStart k < monthStart (k + 1) := by
  -- The month `k` is the month `(k + 2) % 12 + 1` of the year `(k + 2) / 12`.
  obtain ⟨month, hmonth⟩ : ∃ month : Nat, (k + 2) % 12 = month :=
    Int.eq_ofNat_of_zero_le (by omega)
  have hsucc := monthStart_succ ((k + 2) / 12) (month + 1) (by omega) (by omega)
  have hk : 12 * ((k + 2) / 12) + ((month + 1 : Nat) : Int) - 3 = k := by omega
  have hdays : 28 ≤ daysInMonth ((k + 2) / 12) (month + 1) := by
    unfold daysInMonth
    split_ifs <;> decide
  rw [hk] at hsucc
  omega

/-- A later month starts on a later day. -/
theorem monthStart_le {k l : Int} (h : k ≤ l) : monthStart k ≤ monthStart l :=
  monotone_int_of_le_succ (fun k => Int.le_of_lt (monthStart_lt_succ k)) h

/-- A day comes before the next month starts, and so before the days of all later months. -/
theorem Date.dayNumber_lt {d e : Date} (h : d.monthNumber < e.monthNumber) :
    d.dayNumber < e.dayNumber := by
  have hnext : monthStart (d.monthNumber + 1) =
      monthStart d.monthNumber + daysInMonth d.year d.month :=
    monthStart_succ d.year d.month d.month_pos d.month_le
  have hlater := monthStart_le (Int.add_one_le_of_lt h)
  have hlast := d.day_le
  have hfirst := e.day_pos
  rw [dayNumber_eq, dayNumber_eq]
  omega

/-- Months compare by their years and then by their numbers. -/
theorem Date.compare_monthNumber (d e : Date) :
    compare d.monthNumber e.monthNumber =
      (compare d.year e.year).then (compare d.month e.month) := by
  have hd := And.intro d.month_pos d.month_le
  have he := And.intro e.month_pos e.month_le
  unfold monthNumber
  refine compare_eq_then ?_ ?_ fun h => compare_congr ?_ ?_ ?_ <;> omega

/-- **Days compare in time as year, month and day do.** -/
theorem Date.compare_dayNumber (d e : Date) :
    compare d.dayNumber e.dayNumber =
      (compare d.year e.year).then ((compare d.month e.month).then (compare d.day e.day)) := by
  rw [← Ordering.then_assoc, ← compare_monthNumber]
  refine compare_eq_then dayNumber_lt dayNumber_lt fun h => ?_
  rw [dayNumber_eq, dayNumber_eq, h]
  refine compare_congr ?_ ?_ ?_ <;> omega

/-- No two days have one number. -/
theorem Date.dayNumber_inj {d e : Date} : d.dayNumber = e.dayNumber ↔ d = e := by
  constructor
  · intro h
    have hfields := Date.compare_dayNumber d e
    rw [compare_eq_iff_eq.2 h, eq_comm, Ordering.then_eq_eq, Ordering.then_eq_eq,
      compare_eq_iff_eq, compare_eq_iff_eq, compare_eq_iff_eq] at hfields
    obtain ⟨hyear, hmonth, hday⟩ := hfields
    cases d
    cases e
    simp only [mk.injEq]
    exact ⟨hyear, hmonth, hday⟩
  · rintro rfl
    rfl

end QueryBook
