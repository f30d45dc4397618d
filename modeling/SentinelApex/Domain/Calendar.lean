import SentinelApex.Domain.Numbers

/-!
# UTC dates

The days since 1 January 1970 as years, months and days of the proleptic Gregorian calendar, which
is what `getUTCMonth` and `setUTCMonth` compute with. Years are counted from March, so that the
day that a leap year adds is the last one of its year.
-/

namespace SentinelApex

namespace Calendar

def msPerDay : ℤ := 86400000

/-- The number of the day; `month` is between 1 and 12, `day` may lie outside of its month. -/
def daysFromCivil (year month day : ℤ) : ℤ :=
  let y := if month ≤ 2 then year - 1 else year
  let era := y / 400
  let yearOfEra := y % 400
  let dayOfYear := (153 * (if 2 < month then month - 3 else month + 9) + 2) / 5 + day - 1
  era * 146097 + (yearOfEra * 365 + yearOfEra / 4 - yearOfEra / 100 + dayOfYear) - 719468

/-- The year, the month (from 1) and the day of the month (from 1) of a day. -/
def civilFromDays (days : ℤ) : ℤ × ℤ × ℤ :=
  let z := days + 719468
  let era := z / 146097
  let dayOfEra := z % 146097
  let yearOfEra := (dayOfEra - dayOfEra / 1460 + dayOfEra / 36524 - dayOfEra / 146096) / 365
  let dayOfYear := dayOfEra - (365 * yearOfEra + yearOfEra / 4 - yearOfEra / 100)
  let mp := (5 * dayOfYear + 2) / 153
  let month := if mp < 10 then mp + 3 else mp - 9
  let year := yearOfEra + era * 400
  (if month ≤ 2 then year + 1 else year, month, dayOfYear - (153 * mp + 2) / 5 + 1)

def monthIndex (days : ℤ) : ℤ :=
  let (year, month, _) := civilFromDays days
  12 * year + month - 1

def dayOfMonth (days : ℤ) : ℤ :=
  let (_, _, day) := civilFromDays days
  day

def firstDay (index : ℤ) : ℤ := daysFromCivil (index / 12) (index % 12 + 1) 1

def daysInMonth (index : ℤ) : ℤ := firstDay (index + 1) - firstDay index

/-! ## Years that begin in March -/

def daysBefore (year : ℤ) : ℤ := 365 * year + year / 4 - year / 100 + year / 400

def yearOfEra (dayOfEra : ℤ) : ℤ :=
  (dayOfEra - dayOfEra / 1460 + dayOfEra / 36524 - dayOfEra / 146096) / 365

variable {a b : ℤ} (days : ℤ)

theorem yearOfEra_mono (h : a ≤ b) : yearOfEra a ≤ yearOfEra b := by
  have hleap : a - a / 1460 ≤ b - b / 1460 := by omega
  have hcentury : a / 36524 ≤ b / 36524 := by omega
  have ha : a / 146096 = a / 36524 / 4 := by omega
  have hb : b / 146096 = b / 36524 / 4 := by omega
  apply Int.ediv_le_ediv (by norm_num)
  omega

/-- The years of an era change where they should: each has its first and its last day. -/
theorem yearOfEra_daysBefore :
    ∀ k : Fin 400, yearOfEra (daysBefore k) = k ∧ yearOfEra (daysBefore (k + 1) - 1) = k := by
  decide +kernel

theorem yearOfEra_spec {dayOfEra : ℤ} (h : 0 ≤ dayOfEra) (h' : dayOfEra < 146097) :
    0 ≤ yearOfEra dayOfEra ∧ yearOfEra dayOfEra < 400 ∧
      daysBefore (yearOfEra dayOfEra) ≤ dayOfEra ∧
      dayOfEra < daysBefore (yearOfEra dayOfEra + 1) := by
  have hrange : 0 ≤ yearOfEra dayOfEra ∧ yearOfEra dayOfEra < 400 := by
    unfold yearOfEra
    omega
  refine ⟨hrange.1, hrange.2, ?_, ?_⟩
  · -- the last day of the year before is in the year before
    by_contra hlt
    rcases hrange.1.eq_or_lt with hzero | hpos
    · rw [← hzero, daysBefore] at hlt
      omega
    · have hlast := (yearOfEra_daysBefore ⟨(yearOfEra dayOfEra - 1).toNat, by omega⟩).2
      rw [Int.toNat_of_nonneg (by omega), sub_add_cancel] at hlast
      have := yearOfEra_mono (Int.le_sub_one_of_lt (lt_of_not_ge hlt))
      omega
  · by_contra hle
    rcases (Int.le_sub_one_of_lt hrange.2).eq_or_lt with hlast | hlt
    · rw [hlast, daysBefore] at hle
      omega
    · have hfirst := (yearOfEra_daysBefore ⟨(yearOfEra dayOfEra + 1).toNat, by omega⟩).1
      rw [Int.toNat_of_nonneg (by omega)] at hfirst
      have := yearOfEra_mono (le_of_not_gt hle)
      omega

theorem daysBefore_eq_eras (year : ℤ) :
    daysBefore year = year / 400 * 146097 +
      (year % 400 * 365 + year % 400 / 4 - year % 400 / 100) := by
  unfold daysBefore
  omega

theorem daysBefore_add_eras (year era : ℤ) :
    daysBefore (year + era * 400) = daysBefore year + era * 146097 := by
  unfold daysBefore
  omega

theorem daysBefore_succ (year : ℤ) : daysBefore year + 365 ≤ daysBefore (year + 1) := by
  unfold daysBefore
  omega

/-! ## Months -/

theorem firstDay_eq (index : ℤ) :
    firstDay index =
      daysBefore ((index - 2) / 12) + (153 * ((index - 2) % 12) + 2) / 5 - 719468 := by
  rw [firstDay, daysFromCivil, daysBefore_eq_eras]
  by_cases hjan : index % 12 + 1 ≤ 2
  · -- January and February belong to the year that began in the March before
    have hyear : (index - 2) / 12 = index / 12 - 1 := by omega
    have hmonth : (index - 2) % 12 = index % 12 + 1 + 9 := by omega
    rw [if_pos hjan, if_neg (by omega), hyear, hmonth]
    ring
  · have hyear : (index - 2) / 12 = index / 12 := by omega
    have hmonth : (index - 2) % 12 = index % 12 + 1 - 3 := by omega
    rw [if_neg hjan, if_pos (by omega), hyear, hmonth]
    ring

theorem firstDay_lt_succ (index : ℤ) : firstDay index + 28 ≤ firstDay (index + 1) := by
  rw [firstDay_eq, firstDay_eq]
  by_cases hfeb : (index - 2) % 12 = 11
  · have hyear : (index + 1 - 2) / 12 = (index - 2) / 12 + 1 := by omega
    have hmonth : (index + 1 - 2) % 12 = 0 := by omega
    have := daysBefore_succ ((index - 2) / 12)
    rw [hyear, hmonth, hfeb]
    omega
  · have hyear : (index + 1 - 2) / 12 = (index - 2) / 12 := by omega
    have hmonth : (index + 1 - 2) % 12 = (index - 2) % 12 + 1 := by omega
    rw [hyear, hmonth]
    omega

theorem firstDay_lt (h : a < b) : firstDay a + 28 ≤ firstDay b := by
  induction b, Int.add_one_le_of_lt h using Int.leInduction with
  | base => exact firstDay_lt_succ a
  | succ b hb ih =>
    have := ih (by omega)
    have := firstDay_lt_succ b
    omega

theorem firstDay_le (h : a ≤ b) : firstDay a ≤ firstDay b := by
  rcases h.eq_or_lt with rfl | h
  · rfl
  · have := firstDay_lt h
    omega

theorem daysFromCivil_eq (year month day : ℤ) :
    daysFromCivil year month day = daysFromCivil year month 1 + (day - 1) := by
  simp only [daysFromCivil]
  ring

def marchYear (days : ℤ) : ℤ :=
  yearOfEra ((days + 719468) % 146097) + (days + 719468) / 146097 * 400

def dayOfMarchYear (days : ℤ) : ℤ := days + 719468 - daysBefore (marchYear days)

theorem dayOfMarchYear_spec :
    0 ≤ dayOfMarchYear days ∧
      dayOfMarchYear days < daysBefore (marchYear days + 1) - daysBefore (marchYear days) := by
  obtain ⟨-, -, hle, hlt⟩ := yearOfEra_spec (Int.emod_nonneg (days + 719468) (by norm_num))
    (Int.emod_lt_of_pos (days + 719468) (by norm_num))
  rw [dayOfMarchYear, marchYear, add_right_comm, daysBefore_add_eras, daysBefore_add_eras]
  omega

theorem civilFromDays_eq :
    civilFromDays days =
      let mp := (5 * dayOfMarchYear days + 2) / 153
      let month := if mp < 10 then mp + 3 else mp - 9
      (if month ≤ 2 then marchYear days + 1 else marchYear days, month,
        dayOfMarchYear days - (153 * mp + 2) / 5 + 1) := by
  have hday : dayOfMarchYear days = (days + 719468) % 146097 -
      (365 * yearOfEra ((days + 719468) % 146097) + yearOfEra ((days + 719468) % 146097) / 4 -
        yearOfEra ((days + 719468) % 146097) / 100) := by
    obtain ⟨hzero, hlt, -, -⟩ := yearOfEra_spec (Int.emod_nonneg (days + 719468) (by norm_num))
      (Int.emod_lt_of_pos (days + 719468) (by norm_num))
    unfold dayOfMarchYear marchYear daysBefore
    omega
  rw [hday]
  rfl

theorem monthIndex_eq :
    monthIndex days = 12 * marchYear days + 2 + (5 * dayOfMarchYear days + 2) / 153 := by
  rw [monthIndex, civilFromDays_eq]
  dsimp only
  have := dayOfMarchYear_spec days
  have hlength : daysBefore (marchYear days + 1) - daysBefore (marchYear days) ≤ 366 := by
    unfold daysBefore
    omega
  split_ifs <;> omega

/-- Each day is in its month, and the days of a month are counted from its first. -/
theorem civilFromDays_spec :
    firstDay (monthIndex days) ≤ days ∧ days < firstDay (monthIndex days + 1) ∧
      dayOfMonth days = days - firstDay (monthIndex days) + 1 := by
  obtain ⟨hzero, hlt⟩ := dayOfMarchYear_spec days
  have hlength : daysBefore (marchYear days + 1) - daysBefore (marchYear days) ≤ 366 := by
    unfold daysBefore
    omega
  have hday : days = daysBefore (marchYear days) + dayOfMarchYear days - 719468 := by
    rw [dayOfMarchYear]
    ring
  have hyear : (monthIndex days - 2) / 12 = marchYear days := by
    rw [monthIndex_eq]
    omega
  have hmonth : (monthIndex days - 2) % 12 = (5 * dayOfMarchYear days + 2) / 153 := by
    rw [monthIndex_eq]
    omega
  have hfirst := firstDay_eq (monthIndex days)
  rw [hyear, hmonth] at hfirst
  refine ⟨by omega, ?_, ?_⟩
  · have hnext := firstDay_eq (monthIndex days + 1)
    by_cases hfeb : (monthIndex days - 2) % 12 = 11
    · rw [show (monthIndex days + 1 - 2) / 12 = marchYear days + 1 by omega,
        show (monthIndex days + 1 - 2) % 12 = 0 by omega] at hnext
      omega
    · rw [show (monthIndex days + 1 - 2) / 12 = marchYear days by omega,
        show (monthIndex days + 1 - 2) % 12 = (monthIndex days - 2) % 12 + 1 by omega] at hnext
      omega
  · rw [dayOfMonth, civilFromDays_eq]
    dsimp only
    omega

theorem monthIndex_eq_iff (days index : ℤ) :
    monthIndex days = index ↔ firstDay index ≤ days ∧ days < firstDay (index + 1) := by
  obtain ⟨hle, hlt, -⟩ := civilFromDays_spec days
  constructor
  · rintro rfl
    exact ⟨hle, hlt⟩
  · rintro ⟨hle', hlt'⟩
    rcases lt_trichotomy (monthIndex days) index with h | h | h
    · have := firstDay_le (Int.add_one_le_of_lt h)
      omega
    · exact h
    · have := firstDay_le (Int.add_one_le_of_lt h)
      omega

theorem monthIndex_mono (h : a ≤ b) : monthIndex a ≤ monthIndex b := by
  by_contra hlt
  have := firstDay_le (Int.add_one_le_of_lt (lt_of_not_ge hlt))
  have := civilFromDays_spec a
  have := civilFromDays_spec b
  omega

end Calendar

open Calendar in
/-- `setUTCMonth(getUTCMonth() + months)`: the day of the month and the time of the day stay, and a
day beyond the end of the month runs over into the next one. -/
def addMonths (value : Date) (months : ℤ) : Date :=
  let (year, month, day) := civilFromDays (value / msPerDay)
  let month0 := month - 1 + months
  daysFromCivil (year + month0 / 12) (month0 % 12 + 1) day * msPerDay + value % msPerDay

namespace Calendar

def monthOf (value : Date) : ℤ := monthIndex (value / msPerDay)

/-- The month that lies `months` after that of `value` has the day of `value`. -/
def HasDay (value : Date) (months : ℤ) : Prop :=
  dayOfMonth (value / msPerDay) ≤ daysInMonth (monthOf value + months)

instance (value : Date) (months : ℤ) : Decidable (HasDay value months) :=
  inferInstanceAs (Decidable (_ ≤ _))

theorem addMonths_eq (value : Date) (months : ℤ) :
    addMonths value months =
      (firstDay (monthOf value + months) + (dayOfMonth (value / msPerDay) - 1)) * msPerDay +
        value % msPerDay := by
  rw [addMonths, monthOf, monthIndex, dayOfMonth]
  obtain ⟨year, month, day⟩ := civilFromDays (value / msPerDay)
  have hyear : (12 * year + month - 1 + months) / 12 = year + (month - 1 + months) / 12 := by omega
  have hmonth : (12 * year + month - 1 + months) % 12 = (month - 1 + months) % 12 := by omega
  dsimp only
  rw [daysFromCivil_eq, firstDay, hyear, hmonth]

theorem addMonths_div (value : Date) (months : ℤ) :
    addMonths value months / msPerDay =
      firstDay (monthOf value + months) + (dayOfMonth (value / msPerDay) - 1) := by
  have hrest : value % msPerDay / msPerDay = 0 :=
    Int.ediv_eq_zero_of_lt (Int.emod_nonneg _ (by norm_num [msPerDay]))
      (Int.emod_lt_of_pos _ (by norm_num [msPerDay]))
  rw [addMonths_eq, add_comm, Int.add_mul_ediv_right _ _ (by norm_num [msPerDay]), hrest, zero_add]

theorem monthOf_addMonths_iff (value : Date) (months : ℤ) :
    monthOf (addMonths value months) = monthOf value + months ↔ HasDay value months := by
  have := civilFromDays_spec (value / msPerDay)
  rw [monthOf, monthIndex_eq_iff, addMonths_div, HasDay, daysInMonth]
  omega

/-- Months keep the order of two instants where the earlier one does not run over. -/
theorem addMonths_le {a b : Date} {months : ℤ} (h : a ≤ b) (ha : HasDay a months) :
    addMonths a months ≤ addMonths b months := by
  obtain ⟨-, -, hda⟩ := civilFromDays_spec (a / msPerDay)
  obtain ⟨hle, -, hdb⟩ := civilFromDays_spec (b / msPerDay)
  have hdays : a / msPerDay ≤ b / msPerDay := Int.ediv_le_ediv (by norm_num [msPerDay]) h
  rcases (monthIndex_mono hdays).eq_or_lt with hsame | hlt
  · -- in one month both are moved by the same number of days
    rw [addMonths_eq, addMonths_eq, hda, hdb, monthOf, monthOf, hsame]
    have hsplit (value : Date) : value = value / msPerDay * msPerDay + value % msPerDay :=
      (Int.ediv_mul_add_emod value msPerDay).symm
    linarith [hsplit a, hsplit b]
  · have hnext := firstDay_le (show monthOf a + months + 1 ≤ monthOf b + months by
      unfold monthOf
      omega)
    have hday : firstDay (monthOf a + months) + (dayOfMonth (a / msPerDay) - 1) <
        firstDay (monthOf b + months) + (dayOfMonth (b / msPerDay) - 1) := by
      unfold HasDay daysInMonth at ha
      omega
    rw [← addMonths_div, ← addMonths_div] at hday
    by_contra hle
    exact not_le.2 hday (Int.ediv_le_ediv (by norm_num [msPerDay]) (le_of_not_ge hle))

end Calendar

/-- Three months after 30 November 2025 is 2 March 2026. -/
example : addMonths (Calendar.daysFromCivil 2025 11 30 * Calendar.msPerDay + 5) 3 =
    Calendar.daysFromCivil 2026 3 2 * Calendar.msPerDay + 5 := by decide

end SentinelApex
