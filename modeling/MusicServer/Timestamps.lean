/-
# Timestamps in RFC 3339

`auth.rs`: how a second of the Unix clock is written as a date and a time of day.  Every step
is an operation on 64 bits with a sign; `none` is an overflow.

* `formatRfc3339_gregorian`: no step overflows, the date is the one of the Gregorian calendar,
  and later times of the years 0 to 9999 are later texts.
-/
import MusicServer.Gregorian
import MusicServer.PaddedDecimals

namespace MusicServer.Timestamps

open Gregorian PaddedDecimals

/-! ## The source -/

inductive ApiError where
  | internal
  deriving DecidableEq

def InI64 (value : ℤ) : Prop := -2 ^ 63 ≤ value ∧ value < 2 ^ 63

instance : DecidablePred InI64 := fun value =>
  inferInstanceAs (Decidable (-2 ^ 63 ≤ value ∧ value < 2 ^ 63))

def i64 (value : ℤ) : Option ℤ := if InI64 value then some value else none

/-- The 400 years a day is in; division rounds towards zero. -/
def eraOf (shifted : ℤ) : Option ℤ :=
  (if 0 ≤ shifted then some shifted else i64 (shifted - 146096)).map fun days => days.tdiv 146097

def yearOfEra (dayOfEra : ℤ) : Option ℤ := do
  let withoutQuads ← i64 (dayOfEra - dayOfEra.tdiv 1460)
  let withCenturies ← i64 (withoutQuads + dayOfEra.tdiv 36524)
  let withoutEras ← i64 (withCenturies - dayOfEra.tdiv 146096)
  return withoutEras.tdiv 365

def dayOfYear (dayOfEra yearOfEra : ℤ) : Option ℤ := do
  let plainDays ← i64 (365 * yearOfEra)
  let leapDays ← i64 (plainDays + yearOfEra.tdiv 4)
  let yearDays ← i64 (leapDays - yearOfEra.tdiv 100)
  i64 (dayOfEra - yearDays)

/-- The month, counted from March, and the day in it. -/
def monthPieceDay (dayOfYear : ℤ) : Option (ℤ × ℤ) := do
  let fiveDays ← i64 (5 * dayOfYear)
  let numerator ← i64 (fiveDays + 2)
  let monthPiece := numerator.tdiv 153
  let monthDays ← i64 (153 * monthPiece)
  let monthNumerator ← i64 (monthDays + 2)
  let dayBefore ← i64 (dayOfYear - monthNumerator.tdiv 5)
  let day ← i64 (dayBefore + 1)
  return (monthPiece, day)

def civilFromDays (daysSinceEpoch : ℤ) : Option (ℤ × ℤ × ℤ) := do
  let shifted ← i64 (daysSinceEpoch + 719468)
  let era ← eraOf shifted
  let eraDays ← i64 (era * 146097)
  let dayOfEra ← i64 (shifted - eraDays)
  let yearOfEra ← yearOfEra dayOfEra
  let eraYears ← i64 (era * 400)
  let year ← i64 (yearOfEra + eraYears)
  let dayOfYear ← dayOfYear dayOfEra yearOfEra
  let (monthPiece, day) ← monthPieceDay dayOfYear
  let month ← i64 (monthPiece + if monthPiece < 10 then 3 else -9)
  let year ← i64 (year + if month ≤ 2 then 1 else 0)
  return (year, month, day)

/-- `format!("{value:0width$}")`, with the sign in the width. -/
def padded (width : ℕ) (value : ℤ) : List Char :=
  if value < 0 then '-' :: zeroPadded (width - 1) value.natAbs else zeroPadded width value.toNat

def formatRfc3339 (timestamp : ℤ) : Option (Except ApiError String) := do
  let days := timestamp / 86400
  let secondsInDay := timestamp % 86400
  let (year, month, day) ← civilFromDays days
  if ¬ (0 ≤ year ∧ year ≤ 9999) then return .error .internal
  else
    let hour := secondsInDay.tdiv 3600
    let minute := (secondsInDay.tmod 3600).tdiv 60
    let second := secondsInDay.tmod 60
    return .ok (.ofList (padded 4 year ++ '-' :: padded 2 month ++ '-' :: padded 2 day ++ 'T' ::
      padded 2 hour ++ ':' :: padded 2 minute ++ ':' :: padded 2 second ++ ['Z']))

/-! ## The date of a day -/

theorem i64_bind {α : Type} {value : ℤ} (h : InI64 value) (f : ℤ → Option α) :
    (i64 value >>= f) = f value := by
  rw [i64, if_pos h]
  rfl

theorem some_bind {α β : Type} (a : α) (f : α → Option β) : (some a >>= f) = f a := rfl

theorem eraOf_eq {shifted : ℤ} (h : -2 ^ 62 ≤ shifted ∧ shifted ≤ 2 ^ 62) :
    eraOf shifted = some (shifted / 146097) := by
  unfold eraOf
  by_cases hsign : 0 ≤ shifted
  · rw [if_pos hsign, Option.map_some, Int.tdiv_eq_ediv_of_nonneg hsign]
  · have hdivide : (shifted - 146096).tdiv 146097 = shifted / 146097 := by
      rw [← Int.neg_neg (shifted - 146096), Int.neg_tdiv, Int.tdiv_eq_ediv_of_nonneg (by omega)]
      omega
    rw [if_neg hsign, i64, if_pos (show InI64 (shifted - 146096) by unfold InI64; omega),
      Option.map_some, hdivide]

/-- A day of the four centuries of an era, by its century, its four years and its year, all of
them from March. -/
theorem exists_march_year {dayOfEra : ℤ} (h : 0 ≤ dayOfEra ∧ dayOfEra < 146097) :
    ∃ century quad year day : ℤ, (0 ≤ century ∧ century ≤ 3) ∧ (0 ≤ quad ∧ quad ≤ 24) ∧
      (0 ≤ year ∧ year ≤ 3) ∧ 0 ≤ day ∧
      (day < 365 ∨ (day = 365 ∧ year = 3 ∧ (quad < 24 ∨ century = 3))) ∧
      dayOfEra = 36524 * century + 1461 * quad + 365 * year + day := by
  obtain ⟨century, hcentury⟩ : ∃ century, century = min (dayOfEra / 36524) 3 := ⟨_, rfl⟩
  obtain ⟨rest, hrest⟩ : ∃ rest, rest = dayOfEra - 36524 * century := ⟨_, rfl⟩
  obtain ⟨quad, hquad⟩ : ∃ quad, quad = rest / 1461 := ⟨_, rfl⟩
  obtain ⟨left, hleft⟩ : ∃ left, left = rest - 1461 * quad := ⟨_, rfl⟩
  refine ⟨century, quad, min (left / 365) 3, left - 365 * min (left / 365) 3, ?_, ?_, ?_, ?_, ?_, ?_⟩
  · omega
  · omega
  · omega
  · omega
  · omega
  · omega

theorem yearOfEra_eq {century quad year day : ℤ} (hcentury : 0 ≤ century ∧ century ≤ 3)
    (hquad : 0 ≤ quad ∧ quad ≤ 24) (hyear : 0 ≤ year ∧ year ≤ 3) (hday : 0 ≤ day)
    (hlast : day < 365 ∨ (day = 365 ∧ year = 3 ∧ (quad < 24 ∨ century = 3))) {dayOfEra : ℤ}
    (h : dayOfEra = 36524 * century + 1461 * quad + 365 * year + day) :
    yearOfEra dayOfEra = some (100 * century + 4 * quad + year) := by
  have hrest : 1461 * quad + 365 * year + day < 36524 ∨ dayOfEra = 146096 ∧ century = 3 := by omega
  have hcenturies : dayOfEra / 36524 = century + dayOfEra / 146096 := by
    rcases hrest with hrest | ⟨heq, hthree⟩
    · obtain ⟨hlow, hhigh⟩ := hcentury
      interval_cases century <;> omega
    · omega
  -- the quotient by 1460 runs ahead of the years by at most one
  have hquads : dayOfEra / 1460 =
      25 * century + quad + (24 * century + quad + 365 * year + day) / 1460 := by omega
  have hquotient : (dayOfEra - dayOfEra / 1460 + dayOfEra / 36524 - dayOfEra / 146096) / 365 =
      100 * century + 4 * quad + year := by
    rw [hcenturies, hquads]
    obtain ⟨hlow, hhigh⟩ := hcentury
    interval_cases century <;> omega
  have hnonneg : 0 ≤ dayOfEra := by omega
  unfold yearOfEra
  rw [Int.tdiv_eq_ediv_of_nonneg hnonneg, Int.tdiv_eq_ediv_of_nonneg hnonneg,
    Int.tdiv_eq_ediv_of_nonneg hnonneg, i64_bind (by unfold InI64; omega),
    i64_bind (by unfold InI64; omega), i64_bind (by unfold InI64; omega),
    Int.tdiv_eq_ediv_of_nonneg (by omega), hquotient]
  rfl

theorem dayOfYear_eq {century quad year day : ℤ} (hcentury : 0 ≤ century ∧ century ≤ 3)
    (hquad : 0 ≤ quad ∧ quad ≤ 24) (hyear : 0 ≤ year ∧ year ≤ 3) (hday : 0 ≤ day ∧ day ≤ 365) :
    dayOfYear (36524 * century + 1461 * quad + 365 * year + day)
      (100 * century + 4 * quad + year) = some day := by
  have hquads : (100 * century + 4 * quad + year).tdiv 4 = 25 * century + quad := by
    rw [Int.tdiv_eq_ediv_of_nonneg (by omega)]
    omega
  have hcenturies : (100 * century + 4 * quad + year).tdiv 100 = century := by
    rw [Int.tdiv_eq_ediv_of_nonneg (by omega)]
    omega
  unfold dayOfYear
  rw [hquads, hcenturies, i64_bind (by unfold InI64; omega), i64_bind (by unfold InI64; omega),
    i64_bind (by unfold InI64; omega), i64, if_pos (by unfold InI64; omega)]
  congr 1
  omega

theorem monthPieceDay_eq {day : ℤ} (h : 0 ≤ day ∧ day ≤ 365) :
    monthPieceDay day =
      some ((5 * day + 2) / 153, day - (153 * ((5 * day + 2) / 153) + 2) / 5 + 1) := by
  unfold monthPieceDay
  rw [i64_bind (by unfold InI64; omega), i64_bind (by unfold InI64; omega)]
  dsimp only
  rw [Int.tdiv_eq_ediv_of_nonneg (by omega), i64_bind (by unfold InI64; omega),
    i64_bind (by unfold InI64; omega), Int.tdiv_eq_ediv_of_nonneg (by omega),
    i64_bind (by unfold InI64; omega), i64_bind (by unfold InI64; omega)]
  rfl

theorem civilFromDays_eq {days : ℤ} (h : -2 ^ 60 ≤ days ∧ days ≤ 2 ^ 60) :
    ∃ date : Date, date.dayNumber = days ∧
      civilFromDays days = some (date.year, date.month, date.day) := by
  obtain ⟨era, hera⟩ : ∃ era, era = (days + 719468) / 146097 := ⟨_, rfl⟩
  obtain ⟨century, quad, year, day, hcentury, hquad, hyear, hday, hlast, hdoe⟩ :=
    @exists_march_year (days + 719468 - era * 146097) (by omega)
  have hdays : 0 ≤ day ∧ day ≤ 365 := by omega
  obtain ⟨march, hmarch⟩ : ∃ march, march = 100 * century + 4 * quad + year + era * 400 := ⟨_, rfl⟩
  obtain ⟨piece, hpiece⟩ : ∃ piece, piece = (5 * day + 2) / 153 := ⟨_, rfl⟩
  have hpieces : 0 ≤ piece ∧ piece ≤ 11 := by omega
  have hmonthDay := monthPieceDay_eq hdays
  rw [← hpiece] at hmonthDay
  have hcivil : civilFromDays days = some
      (march + if (piece + if piece < 10 then 3 else -9) ≤ 2 then 1 else 0,
        piece + (if piece < 10 then 3 else -9), day - (153 * piece + 2) / 5 + 1) := by
    unfold civilFromDays
    rw [i64_bind (by unfold InI64; omega), eraOf_eq (by omega), ← hera, some_bind,
      i64_bind (by unfold InI64; omega), i64_bind (by unfold InI64; omega),
      yearOfEra_eq hcentury hquad hyear hday hlast hdoe, some_bind,
      i64_bind (by unfold InI64; omega), i64_bind (by unfold InI64; omega), hdoe,
      dayOfYear_eq hcentury hquad hyear hdays, some_bind, hmonthDay,
      some_bind, ← hmarch]
    dsimp only
    rw [i64_bind (by unfold InI64; split <;> omega),
      i64_bind (by unfold InI64; split <;> split <;> omega)]
    rfl
  -- only a leap year has a day 365
  have hleap : day = 365 → IsLeap (march + 1) := by
    intro hend
    unfold IsLeap
    omega
  obtain ⟨hfirst, hlength⟩ : 1 ≤ day - (153 * piece + 2) / 5 + 1 ∧
      day - (153 * piece + 2) / 5 + 1 ≤
        monthLength (march + if (piece + if piece < 10 then 3 else -9) ≤ 2 then 1 else 0)
          (piece + if piece < 10 then 3 else -9) := by
    refine ⟨by omega, ?_⟩
    obtain ⟨hlow, hhigh⟩ := hpieces
    unfold monthLength
    interval_cases piece
    case «11» =>
      by_cases hend : day = 365
      · simp [hleap hend, hend]
      · simp
        split <;> omega
    all_goals
      simp
      omega
  have hfours : march / 4 = 100 * era + 25 * century + quad := by omega
  have hhundreds : march / 100 = 4 * era + century := by omega
  have heras : march / 400 = era := by omega
  refine ⟨⟨_, _, _, ?_, hfirst, hlength⟩, ?_, hcivil⟩
  · split <;> omega
  · rw [@Date.dayNumber_of_march _ march piece, hfours, hhundreds, heras]
    · dsimp only
      omega
    · dsimp only
      split <;> split <;> omega

/-! ## The text of a time -/

theorem padded_toNat {width : ℕ} {value : ℤ} (h : 0 ≤ value) :
    padded width value = zeroPadded width value.toNat := if_neg (by omega)

/-- The fields of a date and of a second of its day. -/
def stampOf (date : Date) (second : ℤ) : List Field :=
  [⟨4, date.year.toNat, '-'⟩, ⟨2, date.month.toNat, '-'⟩, ⟨2, date.day.toNat, 'T'⟩,
    ⟨2, (second / 3600).toNat, ':'⟩, ⟨2, (second % 3600 / 60).toNat, ':'⟩,
    ⟨2, (second % 60).toNat, 'Z'⟩]

theorem formatRfc3339_eq {timestamp : ℤ} {date : Date}
    (h : civilFromDays (timestamp / 86400) = some (date.year, date.month, date.day)) :
    formatRfc3339 timestamp = some (if 0 ≤ date.year ∧ date.year ≤ 9999 then
      .ok (.ofList (render (stampOf date (timestamp % 86400)))) else .error .internal) := by
  have hmonths := date.month_mem
  have hdays := date.day_mem
  have hsecond : 0 ≤ timestamp % 86400 := by omega
  unfold formatRfc3339
  dsimp only
  rw [h, some_bind]
  dsimp only
  by_cases hyear : 0 ≤ date.year ∧ date.year ≤ 9999
  · rw [if_neg (not_not.mpr hyear), if_pos hyear, Int.tdiv_eq_ediv_of_nonneg hsecond,
      Int.tmod_eq_emod_of_nonneg hsecond, Int.tmod_eq_emod_of_nonneg hsecond,
      Int.tdiv_eq_ediv_of_nonneg (by omega), padded_toNat hyear.1, padded_toNat (by omega),
      padded_toNat (by omega), padded_toNat (by omega), padded_toNat (by omega),
      padded_toNat (by omega)]
    simp [render, stampOf]
  · rw [if_pos hyear, if_neg hyear]
    rfl

theorem stampOf_lt {date date' : Date} {second second' : ℤ}
    (hyear : 0 ≤ date.year) (hyear' : date'.year ≤ 9999)
    (hsecond : 0 ≤ second) (hsecond' : second' < 86400)
    (h : date.Before date' ∨ (date = date' ∧ second < second')) :
    FieldsLt (stampOf date second) (stampOf date' second') := by
  have hmonths := date.month_mem
  have hmonths' := date'.month_mem
  have hdays := date.day_mem
  have hdays' := date'.day_mem
  have hlength : monthLength date'.year date'.month ≤ 31 := by
    unfold monthLength
    split
    · split <;> omega
    · split <;> omega
  unfold stampOf
  rcases h with (hyears | ⟨hyears, hmonth | ⟨hmonth, hday⟩⟩) | ⟨rfl, hlt⟩
  · exact .head (by omega) (by omega) (by omega)
  · rw [hyears]
    exact .tail (.head (by omega) (by omega) (by omega))
  · rw [hyears, hmonth]
    exact .tail (.tail (.head (by omega) (by omega) (by omega)))
  · refine .tail (.tail (.tail ?_))
    by_cases hhour : second / 3600 < second' / 3600
    · exact .head (by omega) (by omega) (by omega)
    · have hhours : second / 3600 = second' / 3600 := by omega
      rw [hhours]
      refine .tail ?_
      by_cases hminute : second % 3600 / 60 < second' % 3600 / 60
      · exact .head (by omega) (by omega) (by omega)
      · have hminutes : second % 3600 / 60 = second' % 3600 / 60 := by omega
        rw [hminutes]
        exact .tail (.head (by omega) (by omega) (by omega))

/-- No step overflows; a day has one date, the day after it the next; a time is written exactly
where its year is 0 to 9999; and later times are later texts. -/
theorem formatRfc3339_gregorian :
    (∀ timestamp, InI64 timestamp → ∃ date : Date,
      (∀ date' : Date, date'.dayNumber = timestamp / 86400 ↔ date' = date) ∧
      civilFromDays (timestamp / 86400) = some (date.year, date.month, date.day) ∧
      civilFromDays (timestamp / 86400 + 1) =
        some (date.next.year, date.next.month, date.next.day) ∧
      formatRfc3339 timestamp = some (if 0 ≤ date.year ∧ date.year ≤ 9999 then
        .ok (.ofList (render (stampOf date (timestamp % 86400)))) else .error .internal)) ∧
    ∀ timestamp timestamp' text text', InI64 timestamp → InI64 timestamp' →
      timestamp < timestamp' → formatRfc3339 timestamp = some (.ok text) →
        formatRfc3339 timestamp' = some (.ok text') → text < text' := by
  constructor
  · intro timestamp hrange
    unfold InI64 at hrange
    obtain ⟨date, hnumber, hcivil⟩ := @civilFromDays_eq (timestamp / 86400) (by omega)
    obtain ⟨after, hafter, hnext⟩ := @civilFromDays_eq (timestamp / 86400 + 1) (by omega)
    have hsame : after = date.next := by
      apply Date.dayNumber_injective
      rw [Date.dayNumber_next, hafter, hnumber]
    rw [hsame] at hnext
    refine ⟨date, fun date' => ⟨fun h => ?_, ?_⟩, hcivil, hnext, formatRfc3339_eq hcivil⟩
    · exact Date.dayNumber_injective (h.trans hnumber.symm)
    · rintro rfl
      exact hnumber
  · intro timestamp timestamp' text text' hrange hrange' hlt htext htext'
    unfold InI64 at hrange hrange'
    obtain ⟨date, hnumber, hcivil⟩ := @civilFromDays_eq (timestamp / 86400) (by omega)
    obtain ⟨date', hnumber', hcivil'⟩ := @civilFromDays_eq (timestamp' / 86400) (by omega)
    rw [formatRfc3339_eq hcivil, Option.some.injEq] at htext
    rw [formatRfc3339_eq hcivil', Option.some.injEq] at htext'
    split at htext
    · next hyear =>
      split at htext'
      · next hyear' =>
        cases htext
        cases htext'
        rw [String.lt_iff, String.toList_ofList, String.toList_ofList]
        apply render_lt
        apply stampOf_lt hyear.1 hyear'.2 (by omega) (by omega)
        rcases Date.before_total date date' with hbefore | hsame | hafter
        · exact .inl hbefore
        · refine .inr ⟨hsame, ?_⟩
          have : date.dayNumber = date'.dayNumber := by rw [hsame]
          omega
        · have := Date.dayNumber_lt hafter
          omega
      · cases htext'
    · cases htext

theorem formatRfc3339_gregorian_epoch :
    (∃ date : Date, civilFromDays (0 / 86400) = some (date.year, date.month, date.day)) ∧
      "1970-01-01T00:00:00Z" < "2027-01-15T08:00:00Z" := by
  obtain ⟨date, -, hcivil, -⟩ := formatRfc3339_gregorian.1 0 (by decide)
  exact ⟨⟨date, hcivil⟩, formatRfc3339_gregorian.2 0 1800000000 _ _ (by decide) (by decide)
    (by decide) rfl rfl⟩

end MusicServer.Timestamps
