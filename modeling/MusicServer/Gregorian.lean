/-
# The Gregorian calendar

Dates of the proleptic Gregorian calendar and the number of days from 1970-01-01 to each.

* `Date.dayNumber_next`: the day after a date has the next number;
* `Date.dayNumber_lt`: a later date has a greater number, so a number has one date;
* `Date.dayNumber_of_march`: the number of a date from the year that begins with its March.
-/
import Mathlib.Tactic.IntervalCases
import Mathlib.Data.Int.Notation

namespace Gregorian

def IsLeap (year : ℤ) : Prop := year % 4 = 0 ∧ (year % 100 ≠ 0 ∨ year % 400 = 0)

instance : DecidablePred IsLeap := fun year =>
  inferInstanceAs (Decidable (year % 4 = 0 ∧ (year % 100 ≠ 0 ∨ year % 400 = 0)))

def monthLength (year month : ℤ) : ℤ :=
  if month = 2 then if IsLeap year then 29 else 28
  else if month = 4 ∨ month = 6 ∨ month = 9 ∨ month = 11 then 30
  else 31

structure Date where
  year : ℤ
  month : ℤ
  day : ℤ
  month_mem : 1 ≤ month ∧ month ≤ 12
  day_mem : 1 ≤ day ∧ day ≤ monthLength year month

@[ext]
theorem Date.ext {date date' : Date} (hyear : date.year = date'.year)
    (hmonth : date.month = date'.month) (hday : date.day = date'.day) : date = date' := by
  cases date
  cases date'
  simp only at hyear hmonth hday
  subst hyear hmonth hday
  rfl

theorem monthLength_pos (year month : ℤ) : 28 ≤ monthLength year month := by
  unfold monthLength
  split
  · split <;> omega
  · split <;> omega

/-! ## Counting days -/

/-- The days from 0000-01-01 to the first day of a year. -/
def daysBeforeYear (year : ℤ) : ℤ :=
  365 * year + (year + 3) / 4 - (year + 99) / 100 + (year + 399) / 400

/-- The days of a year before the first of a month, of twelve. -/
def daysBeforeMonth (year month : ℤ) : ℤ :=
  ((List.range (month - 1).toNat).map fun k : ℕ => monthLength year (k + 1)).sum

theorem daysBeforeMonth_succ (year : ℤ) {month : ℤ} (h : 1 ≤ month) :
    daysBeforeMonth year (month + 1) = daysBeforeMonth year month + monthLength year month := by
  have hnat : (month + 1 - 1).toNat = (month - 1).toNat + 1 := by omega
  have hcast : (((month - 1).toNat : ℕ) : ℤ) + 1 = month := by omega
  rw [daysBeforeMonth, hnat, List.range_succ, List.map_append, List.sum_append,
    List.map_singleton, List.sum_singleton, hcast, daysBeforeMonth]

theorem daysBeforeMonth_eq (year : ℤ) {month : ℤ} (h : 1 ≤ month ∧ month ≤ 12) :
    daysBeforeMonth year month =
      if month ≤ 2 then 31 * (month - 1)
      else (if IsLeap year then 60 else 59) + (153 * (month - 3) + 2) / 5 := by
  obtain ⟨hlow, hhigh⟩ := h
  interval_cases month <;> simp [daysBeforeMonth, monthLength, List.range_succ] <;> split <;> rfl

theorem daysBeforeYear_succ (year : ℤ) :
    daysBeforeYear (year + 1) = daysBeforeYear year + if IsLeap year then 366 else 365 := by
  by_cases hleap : IsLeap year
  · rw [if_pos hleap]
    unfold daysBeforeYear
    unfold IsLeap at hleap
    omega
  · rw [if_neg hleap]
    unfold daysBeforeYear
    unfold IsLeap at hleap
    omega

namespace Date

def dayNumber (date : Date) : ℤ :=
  daysBeforeYear date.year + daysBeforeMonth date.year date.month + (date.day - 1) - 719528

def epoch : Date := ⟨1970, 1, 1, by decide, by decide⟩

example : epoch.dayNumber = 0 := by decide

def next (date : Date) : Date :=
  if hday : date.day < monthLength date.year date.month then
    ⟨date.year, date.month, date.day + 1, date.month_mem, by
      have := date.day_mem
      omega⟩
  else if hmonth : date.month < 12 then
    ⟨date.year, date.month + 1, 1, by
      have := date.month_mem
      omega, by
      have := monthLength_pos date.year (date.month + 1)
      omega⟩
  else
    ⟨date.year + 1, 1, 1, by omega, by
      have := monthLength_pos (date.year + 1) 1
      omega⟩

theorem dayNumber_next (date : Date) : date.next.dayNumber = date.dayNumber + 1 := by
  have hmonths := date.month_mem
  have hdays := date.day_mem
  unfold next
  split
  · simp only [dayNumber]
    omega
  · next hlast =>
    split
    · simp only [dayNumber, daysBeforeMonth_succ date.year hmonths.1]
      omega
    · next hdecember =>
      have hmonth : date.month = 12 := by omega
      have hlength : monthLength date.year 12 = 31 := rfl
      rw [hmonth, hlength] at hlast hdays
      have hfirst : daysBeforeMonth (date.year + 1) 1 = 0 := rfl
      have htwelfth := daysBeforeMonth_eq date.year (show (1 : ℤ) ≤ 12 ∧ (12 : ℤ) ≤ 12 by decide)
      simp only [dayNumber, hmonth, daysBeforeYear_succ, hfirst, htwelfth]
      split <;> omega

def Before (date date' : Date) : Prop :=
  date.year < date'.year ∨ (date.year = date'.year ∧
    (date.month < date'.month ∨ (date.month = date'.month ∧ date.day < date'.day)))

theorem before_total (date date' : Date) :
    date.Before date' ∨ date = date' ∨ date'.Before date := by
  rw [Date.ext_iff]
  unfold Before
  omega

theorem dayNumber_lt {date date' : Date} (h : date.Before date') :
    date.dayNumber < date'.dayNumber := by
  have hmonths := date.month_mem
  have hmonths' := date'.month_mem
  have hdays := date.day_mem
  have hdays' := date'.day_mem
  rcases h with hyear | ⟨hyear, hmonth | ⟨hmonth, hday⟩⟩
  · have hstart : 0 ≤ daysBeforeMonth date'.year date'.month := by
      rw [daysBeforeMonth_eq _ hmonths']
      split
      · omega
      · split <;> omega
    have hend : daysBeforeMonth date.year (date.month + 1) ≤
        if IsLeap date.year then 366 else 365 := by
      rw [daysBeforeMonth_succ _ hmonths.1, daysBeforeMonth_eq _ hmonths, monthLength]
      split <;> split <;> omega
    rw [daysBeforeMonth_succ _ hmonths.1] at hend
    have hyears : daysBeforeYear (date.year + 1) ≤ daysBeforeYear date'.year := by
      unfold daysBeforeYear
      omega
    rw [daysBeforeYear_succ] at hyears
    unfold dayNumber
    omega
  · have hmono : daysBeforeMonth date.year (date.month + 1) ≤
        daysBeforeMonth date.year date'.month := by
      rw [daysBeforeMonth_eq _ (show 1 ≤ date.month + 1 ∧ date.month + 1 ≤ 12 by omega),
        daysBeforeMonth_eq _ hmonths']
      split <;> split <;> omega
    rw [daysBeforeMonth_succ _ hmonths.1] at hmono
    unfold dayNumber
    rw [← hyear]
    omega
  · unfold dayNumber
    rw [← hyear, ← hmonth]
    omega

theorem dayNumber_injective {date date' : Date} (h : date.dayNumber = date'.dayNumber) :
    date = date' := by
  rcases before_total date date' with hlt | heq | hlt
  · have := dayNumber_lt hlt
    omega
  · exact heq
  · have := dayNumber_lt hlt
    omega

theorem dayNumber_of_march (date : Date) {year month : ℤ}
    (h : (date.month ≤ 2 ∧ date.year = year + 1 ∧ date.month = month - 9) ∨
      (3 ≤ date.month ∧ date.year = year ∧ date.month = month + 3)) :
    date.dayNumber = 365 * year + year / 4 - year / 100 + year / 400 +
      (153 * month + 2) / 5 + (date.day - 1) - 719468 := by
  have hmonths := date.month_mem
  unfold dayNumber
  rw [daysBeforeMonth_eq _ hmonths]
  rcases h with ⟨hmonth, hyear, hshift⟩ | ⟨hmonth, hyear, hshift⟩
  · rw [if_pos hmonth, hyear]
    unfold daysBeforeYear
    omega
  · have hearly : ¬ date.month ≤ 2 := by omega
    have hsame : date.month - 3 = month := by omega
    rw [if_neg hearly, hyear, hsame]
    by_cases hleap : IsLeap year
    · rw [if_pos hleap]
      unfold daysBeforeYear
      unfold IsLeap at hleap
      omega
    · rw [if_neg hleap]
      unfold daysBeforeYear
      unfold IsLeap at hleap
      omega

end Date

end Gregorian
