/-
# Dates in tags

The date parser of the server, the one of the browser and the reader of years accept the dates
of the calendar; and what the resolver of the year field leaves in the date field.

* `metadataDateYear_eq_some`, `validMetadataDate_iff`: both parsers accept `CalendarText`;
* `dates_agree_iff`: a year edit leaves a date of the year it asks for, unless it writes the
  year 0 or keeps a date the file holds that is none.
-/
import MusicServer.Gregorian
import MusicServer.PaddedDecimals
import MusicServer.TagUpdate

namespace MusicServer

open PaddedDecimals

/-! ## The browser's check -/

/-- `\d{count}` at the front of a text, and what follows. -/
def matchDigits (count : ℕ) (text : List Char) : Option (List Char × List Char) :=
  if (text.take count).length = count ∧ (text.take count).all Char.isDigit then
    some (text.take count, text.drop count)
  else none

/-- `/^(\d{4})(?:-(\d{2})(?:-(\d{2}))?)?$/`. -/
def dateMatch (text : List Char) :
    Option (List Char × Option (List Char × Option (List Char))) :=
  match matchDigits 4 text with
  | some (year, []) => some (year, none)
  | some (year, '-' :: rest) =>
    match matchDigits 2 rest with
    | some (month, []) => some (year, some (month, none))
    | some (month, '-' :: rest) =>
      match matchDigits 2 rest with
      | some (day, []) => some (year, some (month, some day))
      | _ => none
    | _ => none
  | _ => none

def numberOf (text : List Char) : ℕ := Nat.ofDigitChars 10 text 0

def validMetadataDate (value : String) : Bool :=
  match dateMatch value.toList with
  | none => false
  | some (year, rest) =>
    if numberOf year = 0 then false
    else
      match rest with
      | none => true
      | some (month, rest) =>
        if numberOf month < 1 ∨ 12 < numberOf month then false
        else
          match rest with
          | none => true
          | some day =>
            let leap := numberOf year % 4 = 0 ∧ (numberOf year % 100 ≠ 0 ∨ numberOf year % 400 = 0)
            let days := [31, if leap then 29 else 28, 31, 30, 31, 30, 31, 31, 30, 31, 30, 31]
            1 ≤ numberOf day && numberOf day ≤ (days[numberOf month - 1]?).getD 0

/-! ## Dates as texts -/

/-- YYYY, YYYY-MM or YYYY-MM-DD, of a date of the years 1 to 9999. -/
def CalendarText (text : List Char) (year : ℕ) : Prop :=
  ∃ date : Gregorian.Date, date.year = year ∧ 1 ≤ year ∧ year ≤ 9999 ∧
    (text = zeroPadded 4 year ∨
      text = zeroPadded 4 year ++ '-' :: zeroPadded 2 date.month.toNat ∨
      text = zeroPadded 4 year ++ '-' :: (zeroPadded 2 date.month.toNat ++
        '-' :: zeroPadded 2 date.day.toNat))

structure IsField (width : ℕ) (text : List Char) : Prop where
  length : text.length = width
  digits : ∀ c ∈ text, c.isDigit = true

theorem isField_zeroPadded {width n : ℕ} (hwidth : 0 < width) (h : n < 10 ^ width) :
    IsField width (zeroPadded width n) :=
  ⟨length_zeroPadded hwidth h, fun _ hc => isDigit_of_mem_zeroPadded hc⟩

namespace IsField

variable {width : ℕ} {text : List Char}

theorem padded (h : IsField width text) (hwidth : 0 < width) :
    zeroPadded width (numberOf text) = text := by
  have hne : text ≠ [] := by
    intro hnil
    have := h.length
    rw [hnil] at this
    simp at this
    omega
  rw [← h.length, numberOf, zeroPadded_ofDigitChars h.digits hne]

theorem numberOf_lt (h : IsField width text) (hwidth : 0 < width) : numberOf text < 10 ^ width := by
  have hlength := h.length
  rw [← h.padded hwidth, zeroPadded, List.length_append, List.length_replicate] at hlength
  exact (Nat.length_toDigits_le_iff (by omega) hwidth).mp (by omega)

theorem not_mem (h : IsField width text) {c : Char} (hc : c.isDigit = false) : c ∉ text := by
  intro hmem
  rw [h.digits c hmem] at hc
  cases hc

theorem parseU32 (h : IsField width text) (hwidth : 0 < width) (hsmall : width ≤ 4) :
    MusicServer.parseU32 text = some (numberOf text) := by
  have hplus : '+' ∉ text := h.not_mem rfl
  have hvalue : text.foldl (fun value c => value * 10 + (c.toNat - '0'.toNat)) 0 = numberOf text := by
    rw [numberOf, Nat.ofDigitChars_eq_foldl]
    congr 1
    funext value c
    rw [Nat.mul_comm]
  have hlt : numberOf text < 10 ^ 4 :=
    Nat.lt_of_lt_of_le (h.numberOf_lt hwidth) (Nat.pow_le_pow_right (by omega) hsmall)
  have hall : text.all Char.isDigit = true := List.all_eq_true.mpr h.digits
  have hne : text ≠ [] := by
    rintro rfl
    have := h.length
    simp at this
    omega
  unfold MusicServer.parseU32
  split
  · next rest => exact absurd List.mem_cons_self hplus
  · dsimp only
    rw [if_neg (by simp [hne, hall]), hvalue, if_pos (by omega)]

theorem matchDigits (h : IsField width text) (rest : List Char) :
    MusicServer.matchDigits width (text ++ rest) = some (text, rest) := by
  have htake : (text ++ rest).take width = text := by rw [← h.length, List.take_left]
  have hdrop : (text ++ rest).drop width = rest := by rw [← h.length, List.drop_left]
  unfold MusicServer.matchDigits
  rw [htake, hdrop, if_pos ⟨h.length, List.all_eq_true.mpr h.digits⟩]

end IsField

theorem matchDigits_eq_some {count : ℕ} {text front rest : List Char}
    (h : matchDigits count text = some (front, rest)) :
    IsField count front ∧ text = front ++ rest := by
  unfold matchDigits at h
  split at h
  · next hdigits =>
    cases h
    exact ⟨⟨hdigits.1, List.all_eq_true.mp hdigits.2⟩, (List.take_append_drop count text).symm⟩
  · cases h

/-- The texts both parsers read numbers from. -/
inductive DateFields : List Char → List Char → Option (List Char × Option (List Char)) → Prop
  | year {year : List Char} : IsField 4 year → DateFields year year none
  | month {year month : List Char} : IsField 4 year → IsField 2 month →
    DateFields (year ++ '-' :: month) year (some (month, none))
  | day {year month day : List Char} : IsField 4 year → IsField 2 month → IsField 2 day →
    DateFields (year ++ '-' :: (month ++ '-' :: day)) year (some (month, some day))

variable {rest : Option (List Char × Option (List Char))}

theorem dateMatch_eq_some {text year : List Char} :
    dateMatch text = some (year, rest) ↔ DateFields text year rest := by
  constructor
  · intro h
    unfold dateMatch at h
    split at h
    · next hyear =>
      cases h
      obtain ⟨hfield, rfl⟩ := matchDigits_eq_some hyear
      rw [List.append_nil]
      exact .year hfield
    · next hyear =>
      obtain ⟨hfield, rfl⟩ := matchDigits_eq_some hyear
      split at h
      · next hmonth =>
        cases h
        obtain ⟨hfield', rfl⟩ := matchDigits_eq_some hmonth
        rw [List.append_nil]
        exact .month hfield hfield'
      · next hmonth =>
        obtain ⟨hfield', rfl⟩ := matchDigits_eq_some hmonth
        split at h
        · next hday =>
          cases h
          obtain ⟨hfield'', rfl⟩ := matchDigits_eq_some hday
          rw [List.append_nil]
          exact .day hfield hfield' hfield''
        · cases h
      · cases h
    · cases h
  · intro h
    unfold dateMatch
    cases h with
    | year hyear =>
      have hmatch := hyear.matchDigits []
      rw [List.append_nil] at hmatch
      rw [hmatch]
    | month hyear hmonth =>
      have hmatch := hmonth.matchDigits []
      rw [List.append_nil] at hmatch
      simp only [hyear.matchDigits, hmatch]
    | day hyear hmonth hday =>
      have hmatch := hday.matchDigits []
      rw [List.append_nil] at hmatch
      simp only [hyear.matchDigits, hmonth.matchDigits, hmatch]

/-- The numbers of the fields are a month and a day of the year. -/
def RealFields (year : ℕ) : Option (List Char × Option (List Char)) → Prop
  | none => True
  | some (month, none) => 1 ≤ numberOf month ∧ numberOf month ≤ 12
  | some (month, some day) => (1 ≤ numberOf month ∧ numberOf month ≤ 12) ∧
    1 ≤ numberOf day ∧ numberOf day ≤ daysOfMonth year (numberOf month)

/-- A text of the fields of a date of the calendar. -/
def IsDate (text : List Char) (year : ℕ) : Prop :=
  ∃ digits rest, DateFields text digits rest ∧ numberOf digits = year ∧ 1 ≤ year ∧
    RealFields year rest

theorem daysOfMonth_eq (year month : ℕ) :
    (daysOfMonth year month : ℤ) = Gregorian.monthLength year month := by
  unfold daysOfMonth Gregorian.monthLength Gregorian.IsLeap
  split
  · split <;> split <;> omega
  · split <;> split <;> omega

variable {year : ℕ}

theorem isDate_iff_calendarText {text : List Char} :
    IsDate text year ↔ CalendarText text year := by
  constructor
  · rintro ⟨digits, rest, hfields, rfl, hpos, hreal⟩
    cases hfields with
    | year hyear =>
      have hlt := hyear.numberOf_lt (by omega)
      refine ⟨⟨numberOf text, 1, 1, by omega, ?_⟩, rfl, hpos, by omega, .inl ?_⟩
      · have := Gregorian.monthLength_pos (numberOf text) 1
        omega
      · exact (hyear.padded (by omega)).symm
    | month hyear hmonth =>
      have hlt := hyear.numberOf_lt (by omega)
      rename_i month
      have hmonths : 1 ≤ numberOf month ∧ numberOf month ≤ 12 := hreal
      refine ⟨⟨numberOf digits, numberOf month, 1, by omega, ?_⟩, rfl, hpos, by omega,
        .inr (.inl ?_)⟩
      · have := Gregorian.monthLength_pos (numberOf digits) (numberOf month)
        omega
      · dsimp only
        rw [Int.toNat_natCast, hyear.padded (by omega), hmonth.padded (by omega)]
    | day hyear hmonth hday =>
      have hlt := hyear.numberOf_lt (by omega)
      rename_i month day
      obtain ⟨hmonths, hfirst, hlast⟩ : (1 ≤ numberOf month ∧ numberOf month ≤ 12) ∧
        1 ≤ numberOf day ∧ numberOf day ≤ daysOfMonth (numberOf digits) (numberOf month) := hreal
      refine ⟨⟨numberOf digits, numberOf month, numberOf day, by omega, by omega, ?_⟩, rfl, hpos,
        by omega, .inr (.inr ?_)⟩
      · rw [← daysOfMonth_eq]
        omega
      · dsimp only
        rw [Int.toNat_natCast, Int.toNat_natCast, hyear.padded (by omega),
          hmonth.padded (by omega), hday.padded (by omega)]
  · rintro ⟨date, hyear, hpos, hlimit, htext⟩
    have hmonths := date.month_mem
    have hdays := date.day_mem
    have hlength := daysOfMonth_eq year date.month.toNat
    rw [Int.toNat_of_nonneg (by omega), ← hyear] at hlength
    have hupper : daysOfMonth year date.month.toNat ≤ 31 := by
      unfold daysOfMonth
      split
      · split <;> omega
      · split <;> omega
    have hfield : IsField 4 (zeroPadded 4 year) := isField_zeroPadded (by omega) (by omega)
    have hfield' : IsField 2 (zeroPadded 2 date.month.toNat) :=
      isField_zeroPadded (by omega) (by omega)
    have hfield'' : IsField 2 (zeroPadded 2 date.day.toNat) :=
      isField_zeroPadded (by omega) (by omega)
    have hnumber : ∀ width n, numberOf (zeroPadded width n) = n := ofDigitChars_zeroPadded
    rcases htext with rfl | rfl | rfl
    · exact ⟨_, _, .year hfield, hnumber 4 year, hpos, trivial⟩
    · refine ⟨_, _, .month hfield hfield', hnumber 4 year, hpos, ?_⟩
      rw [RealFields, hnumber]
      omega
    · refine ⟨_, _, .day hfield hfield' hfield'', hnumber 4 year, hpos, ?_⟩
      rw [RealFields, hnumber, hnumber]
      omega

/-! ## The server's parser -/

theorem splitOn_fields {parts : List (List Char)} (h : ∀ part ∈ parts, ∀ c ∈ part, c.isDigit = true)
    (hne : parts ≠ []) : (['-'].intercalate parts).splitOn '-' = parts := by
  apply List.splitOn_intercalate '-' (fun part hpart hdash => ?_) hne
  exact absurd (h part hpart '-' hdash) (by decide)

variable {value : String}

theorem metadataDateYear_eq_some :
    metadataDateYear value = some year ↔ IsDate value.toList year := by
  constructor
  · intro h
    obtain ⟨parts, hparts⟩ : ∃ parts, parts = value.toList.splitOn '-' := ⟨_, rfl⟩
    have htext : value.toList = ['-'].intercalate parts := by
      rw [hparts, List.intercalate_splitOn]
    unfold metadataDateYear at h
    dsimp only at h
    rw [← hparts] at h
    split at h
    · cases h
    · next hall =>
      have hdigits : ∀ part ∈ parts, part.all Char.isDigit = true := by simpa using hall
      split at h
      · next hlengths hnumbers =>
        obtain ⟨p, rest, rfl, hp, hrest⟩ := List.map_eq_cons_iff.mp hlengths
        rw [List.map_eq_nil_iff] at hrest
        subst hrest
        have hfield : IsField 4 p := ⟨hp, List.all_eq_true.mp (hdigits p (by simp))⟩
        rw [List.map_singleton, hfield.parseU32 (by omega) (by omega), List.singleton_inj,
          Option.some.injEq] at hnumbers
        subst hnumbers
        split at h
        · next hyear =>
          cases h
          rw [htext, List.intercalate_singleton]
          exact ⟨p, none, .year hfield, rfl, hyear, trivial⟩
        · cases h
      · next hlengths hnumbers =>
        obtain ⟨p, tail, rfl, hp, htail⟩ := List.map_eq_cons_iff.mp hlengths
        obtain ⟨q, rest, rfl, hq, hrest⟩ := List.map_eq_cons_iff.mp htail
        rw [List.map_eq_nil_iff] at hrest
        subst hrest
        have hfield : IsField 4 p := ⟨hp, List.all_eq_true.mp (hdigits p (by simp))⟩
        have hfield' : IsField 2 q := ⟨hq, List.all_eq_true.mp (hdigits q (by simp))⟩
        simp only [List.map_cons, List.map_nil, hfield.parseU32 (by omega) (by omega),
          hfield'.parseU32 (by omega) (by omega), List.cons.injEq, Option.some.injEq, and_true]
          at hnumbers
        obtain ⟨rfl, rfl⟩ := hnumbers
        split at h
        · next hdate =>
          cases h
          rw [htext, List.intercalate_cons_cons, List.intercalate_singleton, List.append_assoc]
          exact ⟨p, _, .month hfield hfield', rfl, hdate.1, hdate.2⟩
        · cases h
      · next hlengths hnumbers =>
        obtain ⟨p, tail, rfl, hp, htail⟩ := List.map_eq_cons_iff.mp hlengths
        obtain ⟨q, tail', rfl, hq, htail'⟩ := List.map_eq_cons_iff.mp htail
        obtain ⟨r, rest, rfl, hr, hrest⟩ := List.map_eq_cons_iff.mp htail'
        rw [List.map_eq_nil_iff] at hrest
        subst hrest
        have hfield : IsField 4 p := ⟨hp, List.all_eq_true.mp (hdigits p (by simp))⟩
        have hfield' : IsField 2 q := ⟨hq, List.all_eq_true.mp (hdigits q (by simp))⟩
        have hfield'' : IsField 2 r := ⟨hr, List.all_eq_true.mp (hdigits r (by simp))⟩
        simp only [List.map_cons, List.map_nil, hfield.parseU32 (by omega) (by omega),
          hfield'.parseU32 (by omega) (by omega), hfield''.parseU32 (by omega) (by omega),
          List.cons.injEq, Option.some.injEq, and_true] at hnumbers
        obtain ⟨rfl, rfl, rfl⟩ := hnumbers
        split at h
        · next hdate =>
          cases h
          obtain ⟨hyear, hfirst, hlast, hday⟩ := hdate
          rw [htext, List.intercalate_cons_cons, List.intercalate_cons_cons,
            List.intercalate_singleton]
          simp only [List.append_assoc, List.singleton_append]
          exact ⟨p, _, .day hfield hfield' hfield'', rfl, hyear, ⟨hfirst, hlast⟩, hday⟩
        · cases h
      · cases h
  · rintro ⟨digits, rest, hfields, rfl, hpos, hreal⟩
    unfold metadataDateYear
    generalize value.toList = text at hfields
    cases hfields with
    | year hyear =>
      have hsplit := @splitOn_fields [digits] (by simpa using hyear.digits) (by simp)
      rw [List.intercalate_singleton] at hsplit
      have hall : digits.all Char.isDigit = true := List.all_eq_true.mpr hyear.digits
      simp [hsplit, hall, hyear.length, hyear.parseU32, hpos]
    | month hyear hmonth =>
      rename_i month
      have hsplit := @splitOn_fields [digits, month] (by
        simpa using ⟨hyear.digits, hmonth.digits⟩) (by simp)
      rw [List.intercalate_cons_cons, List.intercalate_singleton, List.append_assoc,
        List.singleton_append] at hsplit
      have hall : digits.all Char.isDigit = true := List.all_eq_true.mpr hyear.digits
      have hall' : month.all Char.isDigit = true := List.all_eq_true.mpr hmonth.digits
      have hmonths : 1 ≤ numberOf month ∧ numberOf month ≤ 12 := hreal
      simp [hsplit, hall, hall', hyear.length, hmonth.length, hyear.parseU32, hmonth.parseU32,
        hpos, hmonths]
    | day hyear hmonth hday =>
      rename_i month day
      have hsplit := @splitOn_fields [digits, month, day] (by
        simpa using ⟨hyear.digits, hmonth.digits, hday.digits⟩) (by simp)
      rw [List.intercalate_cons_cons, List.intercalate_cons_cons, List.intercalate_singleton] at hsplit
      simp only [List.append_assoc, List.singleton_append] at hsplit
      have hall : digits.all Char.isDigit = true := List.all_eq_true.mpr hyear.digits
      have hall' : month.all Char.isDigit = true := List.all_eq_true.mpr hmonth.digits
      have hall'' : day.all Char.isDigit = true := List.all_eq_true.mpr hday.digits
      obtain ⟨hmonths, hfirst, hlast⟩ : (1 ≤ numberOf month ∧ numberOf month ≤ 12) ∧
        1 ≤ numberOf day ∧ numberOf day ≤ daysOfMonth (numberOf digits) (numberOf month) := hreal
      simp [hsplit, hall, hall', hall'', hyear.length, hmonth.length, hday.length, hyear.parseU32,
        hmonth.parseU32, hday.parseU32, hpos, hmonths, hfirst, hlast]

/-! ## The browser's check and the reader of years -/

theorem days_eq (year : ℕ) {month : ℕ} (h : 1 ≤ month ∧ month ≤ 12) :
    ([31, if year % 4 = 0 ∧ (year % 100 ≠ 0 ∨ year % 400 = 0) then 29 else 28, 31, 30, 31, 30, 31,
      31, 30, 31, 30, 31][month - 1]?).getD 0 = daysOfMonth year month := by
  obtain ⟨hlow, hhigh⟩ := h
  unfold daysOfMonth
  interval_cases month <;> simp
  split <;> split <;> omega

theorem validMetadataDate_iff :
    validMetadataDate value = true ↔ ∃ year, IsDate value.toList year := by
  unfold validMetadataDate
  rcases hmatch : dateMatch value.toList with - | ⟨digits, rest⟩
  · refine iff_of_false (by simp) ?_
    rintro ⟨year, digits, rest, hfields, -⟩
    rw [dateMatch_eq_some.mpr hfields] at hmatch
    cases hmatch
  · have honly : (∃ year, IsDate value.toList year) ↔
        1 ≤ numberOf digits ∧ RealFields (numberOf digits) rest := by
      constructor
      · rintro ⟨year, digits', rest', hfields, rfl, hpos, hreal⟩
        rw [dateMatch_eq_some.mpr hfields] at hmatch
        cases hmatch
        exact ⟨hpos, hreal⟩
      · rintro ⟨hpos, hreal⟩
        exact ⟨_, digits, rest, dateMatch_eq_some.mp hmatch, rfl, hpos, hreal⟩
    rw [honly]
    dsimp only
    by_cases hzero : numberOf digits = 0
    · rw [if_pos hzero, hzero]
      simp
    · have hpos : 1 ≤ numberOf digits := by omega
      rw [if_neg hzero]
      rcases rest with - | ⟨month, rest⟩
      · simp [RealFields, hpos]
      · by_cases hmonth : numberOf month < 1 ∨ 12 < numberOf month
        · have hnot : ¬ (1 ≤ numberOf month ∧ numberOf month ≤ 12) := by omega
          dsimp only
          rw [if_pos hmonth]
          cases rest <;> simp [RealFields, hnot]
        · have hmonths : 1 ≤ numberOf month ∧ numberOf month ≤ 12 := by omega
          dsimp only
          rw [if_neg hmonth]
          cases rest with
          | none => simp [RealFields, hpos, hmonths]
          | some day =>
            dsimp only
            rw [days_eq _ hmonths]
            simp [RealFields, hpos, hmonths]

theorem dropWhile_of_forall {p : Char → Bool} {text : List Char} (h : ∀ c ∈ text, p c = false) :
    text.dropWhile p = text := by
  cases text with
  | nil => rfl
  | cons c rest => rw [List.dropWhile_cons_of_neg (by simp [h c List.mem_cons_self])]

theorem trimChars_of_forall {text : List Char} (h : ∀ c ∈ text, Enrichment.isWhiteSpace c = false) :
    Enrichment.trimChars text = text := by
  rw [Enrichment.trimChars, dropWhile_of_forall h,
    dropWhile_of_forall (fun c hc => h c (List.mem_reverse.mp hc)), List.reverse_reverse]

def DateChar (c : Char) : Prop := c.isDigit = true ∨ c = '-'

theorem DateChar.not_space {c : Char} (h : DateChar c) : Enrichment.isWhiteSpace c = false := by
  rcases h with hdigit | rfl
  · have hbounds : 48 ≤ c.toNat ∧ c.toNat ≤ 57 := Char.isDigit_iff_toNat.mp hdigit
    unfold Enrichment.isWhiteSpace
    simp
    omega
  · decide

theorem IsField.dateChar {width : ℕ} {text : List Char} (h : IsField width text) :
    ∀ c ∈ text, DateChar c := fun c hc => .inl (h.digits c hc)

variable {text digits : List Char}

theorem DateFields.dateChar (h : DateFields text digits rest) : ∀ c ∈ text, DateChar c := by
  have hdash : DateChar '-' := .inr rfl
  cases h with
  | year hyear => exact hyear.dateChar
  | month hyear hmonth =>
    simp only [List.forall_mem_append, List.forall_mem_cons]
    exact ⟨hyear.dateChar, hdash, hmonth.dateChar⟩
  | day hyear hmonth hday =>
    simp only [List.forall_mem_append, List.forall_mem_cons]
    exact ⟨hyear.dateChar, hdash, hmonth.dateChar, hdash, hday.dateChar⟩

theorem DateFields.isField (h : DateFields text digits rest) : IsField 4 digits := by
  cases h <;> assumption

theorem DateFields.takeWhile (h : DateFields text digits rest) :
    text.takeWhile (· ≠ '-') = digits := by
  have hdigits : ∀ c ∈ digits, decide (c ≠ '-') = true := by
    intro c hc
    have hne : c ≠ '-' := by
      rintro rfl
      exact absurd (h.isField.digits _ hc) (by decide)
    exact decide_eq_true hne
  cases h with
  | year hyear => exact List.takeWhile_eq_self_iff.mpr hdigits
  | month hyear hmonth | day hyear hmonth hday =>
    rw [List.takeWhile_append_of_pos hdigits, List.takeWhile_cons_of_neg (by simp), List.append_nil]

theorem coerceNumber_date (h : IsDate value.toList year) :
    coerceNumber value = some year := by
  obtain ⟨digits, rest, hfields, rfl, -⟩ := h
  have hfield := hfields.isField
  have hslash : value.toList.takeWhile (· ≠ '/') = value.toList := by
    rw [List.takeWhile_eq_self_iff]
    intro c hc
    rw [decide_eq_true_eq]
    rintro rfl
    rcases hfields.dateChar _ hc with h | h <;> exact absurd h (by decide)
  have hne : digits ≠ [] := by
    rintro rfl
    exact absurd hfield.length (by decide)
  unfold coerceNumber
  rw [trimChars_of_forall fun c hc => (hfields.dateChar c hc).not_space, hslash,
    hfields.takeWhile, trimChars_of_forall fun c hc => (hfield.dateChar c hc).not_space]
  dsimp only
  rw [if_neg hne, hfield.parseU32 (by omega) (by omega)]

theorem coerceNumber_of_metadataDateYear (h : metadataDateYear value = some year) :
    coerceNumber value = some year :=
  coerceNumber_date (metadataDateYear_eq_some.mp h)

theorem metadataDateYear_formatYear (h : year ≤ maxNumericValue) :
    metadataDateYear (formatYear year) = if year = 0 then none else some year := by
  have hlt : year < 10 ^ 4 := by
    unfold maxNumericValue at h
    omega
  by_cases hzero : year = 0
  · subst hzero
    decide
  · rw [if_neg hzero, metadataDateYear_eq_some, formatYear, String.toList_ofList]
    exact ⟨_, _, .year (isField_zeroPadded (by omega) hlt), ofDigitChars_zeroPadded 4 year,
      by omega, trivial⟩

/-! ## Patches -/

namespace TagPatch

def clear (patch : TagPatch) (field : TagField) : Except MetadataError TagPatch :=
  patch.insertChange field none

inductive Accepted : TagPatch → Prop
  | empty : Accepted .empty
  | text {patch patch' : TagPatch} {field : TagField} {value : String} :
    Accepted patch → patch.insertText field value = .ok patch' → Accepted patch'
  | number {patch patch' : TagPatch} {field : TagField} {value : ℕ} :
    Accepted patch → patch.insertNumber field value = .ok patch' → Accepted patch'
  | clear {patch patch' : TagPatch} {field : TagField} :
    Accepted patch → patch.clear field = .ok patch' → Accepted patch'

/-- What such a patch may change the year and the date to. -/
structure DateChanges (patch : TagPatch) : Prop where
  year : ∀ change, patch .year = some change →
    change = none ∨ ∃ year ≤ maxNumericValue, change = some (.number year)
  releaseDate : ∀ change, patch .releaseDate = some change →
    change = none ∨ ∃ value year, metadataDateYear value = some year ∧ change = some (.text value)

theorem DateChanges.insertChange {patch patch' : TagPatch} {field : TagField}
    {value : Option TagValue} (h : patch.DateChanges)
    (hyear : field = .year → value = none ∨ ∃ year ≤ maxNumericValue, value = some (.number year))
    (hdate : field = .releaseDate → value = none ∨
      ∃ text year, metadataDateYear text = some year ∧ value = some (.text text))
    (hinsert : patch.insertChange field value = .ok patch') : patch'.DateChanges := by
  unfold TagPatch.insertChange at hinsert
  split at hinsert
  · cases hinsert
  · cases hinsert
    constructor
    · intro change hchange
      rw [insert, Function.update_apply] at hchange
      split at hchange
      · next hfield =>
        cases hchange
        exact hyear hfield.symm
      · exact h.year change hchange
    · intro change hchange
      rw [insert, Function.update_apply] at hchange
      split at hchange
      · next hfield =>
        cases hchange
        exact hdate hfield.symm
      · exact h.releaseDate change hchange

theorem Accepted.dateChanges {patch : TagPatch} (h : patch.Accepted) : patch.DateChanges := by
  induction h with
  | empty => exact ⟨(fun _ h => by cases h), (fun _ h => by cases h)⟩
  | @text patch patch' field value _ hinsert ih =>
    unfold insertText at hinsert
    split at hinsert
    · cases hinsert
    · next htext =>
      have hnot : field ≠ .year := by
        rintro rfl
        exact htext rfl
      split at hinsert
      · exact ih.insertChange (fun _ => .inl rfl) (fun _ => .inl rfl) hinsert
      · split at hinsert
        · cases hinsert
        · next hvalid =>
          split at hinsert
          · cases hinsert
          · split at hinsert
            · cases hinsert
            · refine ih.insertChange (fun hyear => absurd hyear hnot) (fun hdate => ?_) hinsert
              obtain ⟨year, hyear⟩ : ∃ year, metadataDateYear value = some year :=
                Option.ne_none_iff_exists'.mp (by simpa [hdate] using hvalid)
              exact .inr ⟨value, year, hyear, rfl⟩
  | @number patch patch' field value _ hinsert ih =>
    unfold insertNumber at hinsert
    split at hinsert
    · cases hinsert
    · next hnumeric =>
      split at hinsert
      · cases hinsert
      · refine ih.insertChange (fun _ => .inr ⟨value, by omega, rfl⟩) (fun hdate => ?_) hinsert
        rw [hdate] at hnumeric
        exact absurd rfl hnumeric
  | clear _ hinsert ih => exact ih.insertChange (fun _ => .inl rfl) (fun _ => .inl rfl) hinsert

def dateYear : Option TagValue → Option ℕ
  | some (.text value) => metadataDateYear value
  | _ => none

/-- The year a patch asks for, or the one that is there. -/
def askedYear (patch : TagPatch) (current : AudioMetadata) : Option ℕ :=
  match patch .year, patch .releaseDate with
  | some year, _ => requestedYear year
  | none, some date => dateYear date
  | none, none => current.year

/-- The date of a file after a resolved patch. -/
def dateLeft (resolved : TagPatch) (current : AudioMetadata) : String :=
  match resolved .releaseDate with
  | none => current.releaseDate
  | some (some (.text value)) => value
  | some _ => ""

structure DateKept (patch resolved : TagPatch) (current : AudioMetadata) : Prop where
  noYear : resolved .year = none
  date : resolved.dateLeft current = "" ∨ ∃ year,
    metadataDateYear (resolved.dateLeft current) = some year ∧ patch.askedYear current = some year
  precision : 4 < current.releaseDate.utf8ByteSize → resolved.dateLeft current ≠ current.releaseDate →
    (patch .releaseDate).isSome = true

/-- A patch without a date writes no year 0, and keeps no date of the file that is none. -/
def KeepsDate (patch : TagPatch) (current : AudioMetadata) : Prop :=
  patch .releaseDate = none →
    match patch .year with
    | none => current.releaseDate = "" ∨ (metadataDateYear current.releaseDate).isSome = true
    | some (some (.number year)) =>
      if some year = current.year ∧ current.releaseDate ≠ "" then
        (metadataDateYear current.releaseDate).isSome = true
      else year ≠ 0 ∨ 4 < current.releaseDate.utf8ByteSize
    | some _ => True

variable {patch : TagPatch} {current : AudioMetadata}

theorem dateKept_of_date (hchanges : patch.DateChanges) {change : Option TagValue}
    (hdate : patch .releaseDate = some change) {resolved : TagPatch}
    (hyear : resolved .year = none) (hsame : resolved .releaseDate = patch .releaseDate)
    (hasked : patch.askedYear current = dateYear change) : DateKept patch resolved current := by
  refine ⟨hyear, ?_, fun _ _ => by rw [hdate]; rfl⟩
  rw [dateLeft, hsame, hdate, hasked]
  rcases hchanges.releaseDate change hdate with rfl | ⟨value, year, hvalue, rfl⟩
  · exact .inl rfl
  · exact .inr ⟨year, hvalue, hvalue⟩

theorem dateKept_iff (hchanges : patch.DateChanges) :
    (∀ resolved, resolvePatch patch current = .ok resolved → DateKept patch resolved current) ↔
      KeepsDate patch current := by
  have hkept : ∀ year, metadataDateYear current.releaseDate = some year →
      current.year = some year := fun _ => coerceNumber_of_metadataDateYear
  unfold resolvePatch KeepsDate
  cases hyear : patch .year with
  | none =>
    cases hdate : patch .releaseDate with
    | some change =>
      refine iff_of_true ?_ (fun h => by cases h)
      rintro _ ⟨⟩
      exact dateKept_of_date hchanges hdate hyear rfl (by rw [askedYear, hyear, hdate])
    | none =>
      have hasked : patch.askedYear current = current.year := by rw [askedYear, hyear, hdate]
      have hleft : patch.dateLeft current = current.releaseDate := by rw [dateLeft, hdate]
      constructor
      · intro h _
        rcases (h patch rfl).date with hempty | ⟨year, hvalid, -⟩
        · exact .inl (hleft.symm.trans hempty)
        · rw [hleft] at hvalid
          exact .inr (by rw [hvalid]; rfl)
      · rintro h _ ⟨⟩
        refine ⟨hyear, ?_, fun _ hdiffer => absurd hleft hdiffer⟩
        rw [hleft, hasked]
        refine (h rfl).imp_right fun hvalid => ?_
        obtain ⟨year, hyear⟩ := Option.isSome_iff_exists.mp hvalid
        exact ⟨year, hyear, hkept year hyear⟩
  | some change =>
    cases hdate : patch .releaseDate with
    | some date =>
      refine iff_of_true (fun resolved h => ?_) (fun h => by cases h)
      by_cases hagree : requestedYear change = dateYear date
      · have hresolved : Except.ok (Function.update patch .year none) = Except.ok resolved :=
          (if_neg (not_not.mpr hagree)).symm.trans h
        cases hresolved
        refine dateKept_of_date hchanges hdate rfl rfl ?_
        simp only [askedYear, hyear]
        exact hagree
      · have herror : Except.error MetadataError.conflictingDate = Except.ok resolved :=
          (if_pos hagree).symm.trans h
        cases herror
    | none =>
      have hasked : patch.askedYear current = requestedYear change := by
        simp only [askedYear, hyear]
      rcases hchanges.year change hyear with rfl | ⟨year, hlimit, rfl⟩
      · refine iff_of_true (fun resolved h => ?_) (fun _ => trivial)
        simp only [requestedYear, Option.isSome_none, Bool.false_eq_true, false_and, if_false] at h
        split at h
        · cases h
        · next hshort =>
          cases h
          exact ⟨rfl, .inl rfl, fun hlong => absurd hlong hshort⟩
      · simp only [requestedYear, Option.isSome_some, true_and, forall_const]
        by_cases hsame : some year = current.year ∧ current.releaseDate ≠ ""
        · rw [if_pos hsame, if_pos hsame]
          constructor
          · intro h
            rcases (h _ rfl).date with hempty | ⟨_, hvalid, -⟩
            · exact absurd hempty hsame.2
            · exact Option.isSome_iff_exists.mpr ⟨_, hvalid⟩
          · rintro h _ ⟨⟩
            obtain ⟨_, hvalid⟩ := Option.isSome_iff_exists.mp h
            refine ⟨rfl, .inr ⟨_, hvalid, ?_⟩, fun _ hdiffer => absurd rfl hdiffer⟩
            rw [hasked, requestedYear, hsame.1, hkept _ hvalid]
        · rw [if_neg hsame, if_neg hsame]
          by_cases hlong : 4 < current.releaseDate.utf8ByteSize
          · rw [if_pos hlong]
            exact iff_of_true (fun _ h => by cases h) (.inr hlong)
          · have hformat := metadataDateYear_formatYear hlimit
            have hne : formatYear year ≠ "" := by
              intro hempty
              have hlength := congrArg (fun text => text.toList.length) hempty
              rw [formatYear, String.toList_ofList, List.length_append, List.length_replicate] at hlength
              have := @Nat.length_toDigits_pos 10 year
              simp at hlength
            rw [if_neg hlong]
            constructor
            · intro h
              refine .inl fun hzero => ?_
              rw [if_pos hzero] at hformat
              rcases (h _ rfl).date with hempty | ⟨_, hvalid, -⟩
              · exact hne hempty
              · rw [show dateLeft _ current = formatYear year from rfl, hformat] at hvalid
                cases hvalid
            · rintro h _ ⟨⟩
              rw [if_neg (h.resolve_right hlong)] at hformat
              exact ⟨rfl, .inr ⟨year, hformat, hasked⟩, fun hlong' => absurd hlong' hlong⟩

end TagPatch

/-- The parsers agree on every text; and a patch the insertions build keeps the date of a file
right exactly where it writes no year 0 and keeps no date that is none. -/
theorem dates_agree_iff (value : String) (patch : TagPatch) (current : AudioMetadata) :
    ((metadataDateYear value).isSome = validMetadataDate value ∧
      ∀ year, (metadataDateYear value = some year ↔ CalendarText value.toList year) ∧
        (metadataDateYear value = some year → coerceNumber value = some year)) ∧
    (patch.Accepted →
      ((∀ resolved, resolvePatch patch current = .ok resolved →
          patch.DateKept resolved current) ↔ patch.KeepsDate current)) := by
  refine ⟨⟨?_, fun year => ⟨?_, coerceNumber_of_metadataDateYear⟩⟩,
    fun haccepted => TagPatch.dateKept_iff haccepted.dateChanges⟩
  · rw [Bool.eq_iff_iff, Option.isSome_iff_exists, validMetadataDate_iff]
    simp only [metadataDateYear_eq_some]
  · rw [metadataDateYear_eq_some, isDate_iff_calendarText]

def untagged : AudioMetadata where
  title := ""
  artist := ""
  albumArtist := ""
  album := ""
  releaseDate := ""
  originalReleaseDate := ""
  composer := ""
  trackNo := none
  discNo := none
  genre := ""
  bpm := none
  duration := 0

def releasedInJune : AudioMetadata :=
  { untagged with releaseDate := "2025-06", originalReleaseDate := "2024-11-02" }

theorem dates_agree_iff_released :
    (metadataDateYear "2025-06").isSome = validMetadataDate "2025-06" ∧ ∀ resolved,
      resolvePatch (TagPatch.empty.insert .year (some (.number 2025))) releasedInJune =
          .ok resolved →
        (TagPatch.empty.insert .year (some (.number 2025))).DateKept resolved releasedInJune := by
  have h := dates_agree_iff "2025-06" (TagPatch.empty.insert .year (some (.number 2025)))
    releasedInJune
  refine ⟨h.1.1, (h.2 (@TagPatch.Accepted.number _ _ .year 2025 .empty rfl)).mpr ?_⟩
  intro _
  exact show (metadataDateYear "2025-06").isSome = true by decide

/-- The year 0 is a number of a tag, and is written as a date that is none. -/
theorem year_zero_written : ¬ ∀ (patch : TagPatch) (current : AudioMetadata), patch.Accepted →
    ∀ resolved, resolvePatch patch current = .ok resolved → patch.DateKept resolved current := by
  intro h
  have hkept := h _ untagged (@TagPatch.Accepted.number _ _ .year 0 .empty rfl) _ rfl
  rcases hkept.date with hempty | ⟨year, hvalid, -⟩
  · exact absurd hempty (by decide)
  · have hnone : metadataDateYear "0000" = none := by decide
    exact absurd (hnone.symm.trans hvalid) (by simp)

end MusicServer
