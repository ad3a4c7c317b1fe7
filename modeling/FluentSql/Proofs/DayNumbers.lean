import FluentSql.Calendar
import Mathlib.Tactic.IntervalCases
/-!
# `FluentSql.Proofs.DayNumbers` — dates and their numbers

The day number of a date counts the days from the first of January 1970. Dates are in the order of their
numbers, and each number has its date. Years are counted from March in between, because there the leap day
is the last of its year.

* `dayNumber_lt_iff` — dates are in the order of their numbers;
* `isReal_ofDayNumber`, `dayNumber_ofDayNumber` — the date of a number exists and has this number.
-/

namespace FluentSql.Date

/-! ## Dates -/

/-- **A date that exists**, in any year. -/
structure IsReal (d : Date) : Prop where
  one_le_month : 1 ≤ d.month
  month_le : d.month ≤ 12
  one_le_day : 1 ≤ d.day
  day_le : d.day ≤ daysInMonth d.year d.month

/-- **The order of dates**: by year, month and day. -/
def Before (d e : Date) : Prop :=
  d.year < e.year ∨ d.year = e.year ∧ (d.month < e.month ∨ d.month = e.month ∧ d.day < e.day)

variable {d e : Date}

theorem isValid_iff : d.isValid = true ↔ d.IsReal ∧ firstYear ≤ d.year ∧ d.year ≤ lastYear := by
  simp only [isValid, Bool.and_eq_true, decide_eq_true_eq]
  constructor
  · rintro ⟨⟨⟨⟨⟨hfirst, hlast⟩, hmonth⟩, hmonth'⟩, hday⟩, hday'⟩
    exact ⟨⟨hmonth, hmonth', hday, hday'⟩, hfirst, hlast⟩
  · rintro ⟨⟨hmonth, hmonth', hday, hday'⟩, hfirst, hlast⟩
    exact ⟨⟨⟨⟨⟨hfirst, hlast⟩, hmonth⟩, hmonth'⟩, hday⟩, hday'⟩

/-! ## Years from March -/

/-- **The days before a year** that begins with March, from the beginning of year zero on. -/
def yearDays (year : Int) : Int := 365 * year + year / 4 - year / 100 + year / 400

/-- The year from March that a date is in. -/
def marchYear (d : Date) : Int := if d.month ≤ 2 then d.year - 1 else d.year

/-- The month of a date, counted from March on. -/
def marchMonth (d : Date) : Int := if d.month ≤ 2 then d.month + 9 else d.month - 3

/-- The days between the first of March and a month, counted from March on. -/
def monthDays (month : Int) : Int := (153 * month + 2) / 5

/-- A year from March ends with the February of the next year. -/
theorem yearDays_succ (year : Int) :
    yearDays (year + 1) = yearDays year + if isLeapYear (year + 1) then 366 else 365 := by
  unfold yearDays isLeapYear
  split
  · rename_i h
    simp only [Bool.and_eq_true, Bool.or_eq_true, beq_iff_eq, bne_iff_ne] at h
    omega
  · rename_i h
    simp only [Bool.and_eq_true, Bool.or_eq_true, beq_iff_eq, bne_iff_ne] at h
    omega

theorem yearDays_mono {year later : Int} (h : year ≤ later) : yearDays year ≤ yearDays later := by
  unfold yearDays
  omega

/-- **The parts of a day number.** -/
theorem dayNumber_eq (d : Date) :
    d.dayNumber = yearDays d.marchYear + monthDays d.marchMonth + d.day - 1 - 719468 := by
  have hera (year : Int) : year / 400 * 146097 + ((year - year / 400 * 400) * 365 +
      (year - year / 400 * 400) / 4 - (year - year / 400 * 400) / 100) = yearDays year := by
    unfold yearDays
    omega
  have hyear := hera d.marchYear
  simp only [dayNumber, marchYear, marchMonth, monthDays] at hyear ⊢
  omega

/-- **A month ends where the next begins**, but for February. -/
theorem monthDays_succ (hone : 1 ≤ d.month) (htwelve : d.month ≤ 12) (hfebruary : d.month ≠ 2) :
    monthDays (d.marchMonth + 1) = monthDays d.marchMonth + daysInMonth d.year d.month := by
  obtain ⟨year, month, day⟩ := d
  dsimp only at hone htwelve hfebruary
  interval_cases month
  all_goals simp [marchMonth, monthDays, daysInMonth] at hfebruary ⊢

/-- **February ends where the next year from March begins.** -/
theorem yearDays_succ_of_february (hfebruary : d.month = 2) :
    yearDays (d.marchYear + 1) =
      yearDays d.marchYear + monthDays d.marchMonth + daysInMonth d.year d.month := by
  have hyear := yearDays_succ (d.year - 1)
  simp only [marchYear, marchMonth, monthDays, hfebruary, daysInMonth, sub_add_cancel] at hyear ⊢
  rw [if_pos (le_refl 2), if_pos (le_refl 2), sub_add_cancel, hyear]
  cases isLeapYear d.year
  · rw [if_neg nofun, if_neg nofun]
    omega
  · rw [if_pos rfl, if_pos rfl]
    omega

/-! ## The order of dates -/

/-- A month of the same year from March is over before a later one. -/
theorem monthDays_add_day_le (h : d.IsReal) {later : Int} (hlater : d.marchMonth < later) (hle : later ≤ 11) :
    monthDays d.marchMonth + d.day ≤ monthDays later := by
  have hday := h.day_le
  have hfebruary : d.month ≠ 2 := by
    intro hfebruary
    simp only [marchMonth, hfebruary] at hlater
    omega
  have hmonth := monthDays_succ h.one_le_month h.month_le hfebruary
  have hmono : monthDays (d.marchMonth + 1) ≤ monthDays later := by
    unfold monthDays
    omega
  omega

/-- A year from March is over before the next one. -/
theorem yearDays_add_day_le (h : d.IsReal) :
    yearDays d.marchYear + monthDays d.marchMonth + d.day ≤ yearDays (d.marchYear + 1) := by
  have hday := h.day_le
  by_cases hfebruary : d.month = 2
  · have hyear := yearDays_succ_of_february hfebruary
    omega
  · have hone := h.one_le_month
    have htwelve := h.month_le
    have hmonth := monthDays_succ hone htwelve hfebruary
    have hend : monthDays (d.marchMonth + 1) ≤ 337 := by
      unfold monthDays marchMonth
      omega
    have hyear := yearDays_succ d.marchYear
    split at hyear <;> omega

/-- **The number of a later date is greater.** -/
theorem dayNumber_lt (hd : d.IsReal) (he : e.IsReal) (h : d.Before e) : d.dayNumber < e.dayNumber := by
  have hone := hd.one_le_month
  have htwelve := he.month_le
  have hday := he.one_le_day
  have hmonths : 0 ≤ monthDays e.marchMonth := by
    unfold monthDays marchMonth
    omega
  -- seen from March the order is the same: by year, by month, by day
  have hparts : d.marchYear < e.marchYear ∨ d.marchYear = e.marchYear ∧
      (d.marchMonth < e.marchMonth ∨ d.marchMonth = e.marchMonth ∧ d.day < e.day) := by
    simp only [Before] at h
    simp only [marchYear, marchMonth]
    have := hd.month_le
    have := he.one_le_month
    split <;> split <;> omega
  rw [dayNumber_eq, dayNumber_eq]
  obtain hyear | ⟨hyear, hmonth | ⟨hmonth, hbefore⟩⟩ := hparts
  · have hover := yearDays_add_day_le hd
    have hmono := yearDays_mono (Int.add_one_le_iff.mpr hyear)
    omega
  · have hle : e.marchMonth ≤ 11 := by
      simp only [marchMonth]
      split <;> omega
    have hover := monthDays_add_day_le hd hmonth hle
    rw [hyear]
    omega
  · rw [hyear, hmonth]
    omega

/-- One of two dates is before the other, or they are the same. -/
theorem before_trichotomy (d e : Date) : d.Before e ∨ d = e ∨ e.Before d := by
  obtain ⟨year, month, day⟩ := d
  obtain ⟨year', month', day'⟩ := e
  simp only [Before, Date.mk.injEq]
  omega

/-- **Dates are in the order of their numbers.** -/
theorem dayNumber_lt_iff (hd : d.IsReal) (he : e.IsReal) : d.dayNumber < e.dayNumber ↔ d.Before e := by
  constructor
  · intro h
    obtain hbefore | rfl | hafter := before_trichotomy d e
    · exact hbefore
    · omega
    · have := dayNumber_lt he hd hafter
      omega
  · exact dayNumber_lt hd he

/-- **Dates with the same number are the same.** -/
theorem dayNumber_inj (hd : d.IsReal) (he : e.IsReal) : d.dayNumber = e.dayNumber ↔ d = e := by
  constructor
  · intro h
    obtain hbefore | rfl | hafter := before_trichotomy d e
    · have := dayNumber_lt hd he hbefore
      omega
    · rfl
    · have := dayNumber_lt he hd hafter
      omega
  · rintro rfl
    rfl

/-! ## The date of a number -/

/-- **The year of an era** that a day other than the last one is in. -/
theorem yearOfEra_spec {day century year : Int} (hlow : 0 ≤ day) (hhigh : day < 146096)
    (hcentury : century = day / 36524) (hyear : year = (day - day / 1460 + century) / 365) :
    yearDays year ≤ day ∧ day < yearDays (year + 1) := by
  -- within a known century, only every fourth year has a leap day
  have hcases : century = 0 ∨ century = 1 ∨ century = 2 ∨ century = 3 := by omega
  have hof : year / 100 = century := by
    obtain rfl | rfl | rfl | rfl := hcases <;> omega
  have hera : year / 400 = 0 := by omega
  have hnext : (year + 1) / 100 = century ∧ (year + 1) / 400 = 0 ∨ year = 100 * century + 99 := by omega
  unfold yearDays
  obtain rfl | rfl | rfl | rfl := hcases <;> omega

theorem yearDays_add_era (year era : Int) : yearDays (year + era * 400) = yearDays year + era * 146097 := by
  unfold yearDays
  omega

/-- The date of a day of a year from March. -/
def ofMarch (year day : Int) : Date :=
  let month := (5 * day + 2) / 153
  let dayOfMonth := day - (153 * month + 2) / 5 + 1
  let month := if month < 10 then month + 3 else month - 9
  ⟨if month ≤ 2 then year + 1 else year, month.toNat, dayOfMonth.toNat⟩

/-- **Each day number is in one year from March**, and its date is found in this year. -/
theorem exists_ofDayNumber_eq (n : Int) : ∃ year, yearDays year ≤ n + 719468 ∧
    n + 719468 < yearDays (year + 1) ∧ ofDayNumber n = ofMarch year (n + 719468 - yearDays year) := by
  obtain ⟨era, hera⟩ : ∃ era, era = (n + 719468) / 146097 := ⟨_, rfl⟩
  obtain ⟨day, hday⟩ : ∃ day, day = n + 719468 - era * 146097 := ⟨_, rfl⟩
  obtain ⟨year, hyear⟩ : ∃ year, year = (day - day / 1460 + day / 36524 - day / 146096) / 365 := ⟨_, rfl⟩
  have hrange : 0 ≤ day ∧ day < 146097 := by omega
  have hspec : yearDays year ≤ day ∧ day < yearDays (year + 1) := by
    by_cases hlast : day = 146096
    · rw [hyear, hlast]
      decide
    · exact yearOfEra_spec hrange.1 (by omega) rfl (by omega)
  have hwithin : yearDays year = 365 * year + year / 4 - year / 100 := by
    unfold yearDays
    omega
  refine ⟨year + era * 400, ?_, ?_, ?_⟩
  · rw [yearDays_add_era]
    omega
  · rw [add_right_comm, yearDays_add_era]
    omega
  · have hrest : n + 719468 - yearDays (year + era * 400) = day - (365 * year + year / 4 - year / 100) := by
      rw [yearDays_add_era]
      omega
    rw [hrest, ofMarch, ofDayNumber, ← hera, ← hday, ← hyear]

/-- **The date of a day of a year from March** exists and is on this day. -/
theorem ofMarch_spec {year day : Int} (hlow : 0 ≤ day) (hhigh : yearDays year + day < yearDays (year + 1)) :
    (ofMarch year day).IsReal ∧ (ofMarch year day).dayNumber = yearDays year + day - 719468 := by
  have hyear := yearDays_succ year
  obtain ⟨month, hmonth⟩ : ∃ month, month = (5 * day + 2) / 153 := ⟨_, rfl⟩
  have hrange : 0 ≤ month ∧ month ≤ 11 := by
    split at hyear <;> omega
  have hmarchYear : (ofMarch year day).marchYear = year := by
    simp only [ofMarch, marchYear, ← hmonth]
    split <;> split <;> omega
  have hmarchMonth : (ofMarch year day).marchMonth = month := by
    simp only [ofMarch, marchMonth, ← hmonth]
    split <;> omega
  have hday : ((ofMarch year day).day : Int) = day - monthDays month + 1 := by
    simp only [ofMarch, monthDays, ← hmonth]
    omega
  have hbegun : monthDays month ≤ day ∧ day < monthDays (month + 1) := by
    unfold monthDays
    omega
  have hof : 1 ≤ (ofMarch year day).month ∧ (ofMarch year day).month ≤ 12 := by
    simp only [ofMarch, ← hmonth]
    omega
  constructor
  · refine ⟨hof.1, hof.2, by omega, ?_⟩
    by_cases hfebruary : (ofMarch year day).month = 2
    · have hend := yearDays_succ_of_february hfebruary
      rw [hmarchYear, hmarchMonth] at hend
      omega
    · have hend := monthDays_succ hof.1 hof.2 hfebruary
      rw [hmarchMonth] at hend
      omega
  · rw [dayNumber_eq, hmarchYear, hmarchMonth, hday]
    omega

theorem isReal_ofDayNumber (n : Int) : (ofDayNumber n).IsReal := by
  obtain ⟨year, hlow, hhigh, heq⟩ := exists_ofDayNumber_eq n
  rw [heq]
  exact (ofMarch_spec (by omega) (by omega)).1

/-- **The date of a number has this number.** -/
theorem dayNumber_ofDayNumber (n : Int) : (ofDayNumber n).dayNumber = n := by
  obtain ⟨year, hlow, hhigh, heq⟩ := exists_ofDayNumber_eq n
  rw [heq, (ofMarch_spec (by omega) (by omega)).2]
  omega

end FluentSql.Date
