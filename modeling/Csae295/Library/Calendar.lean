import Mathlib.Algebra.BigOperators.Intervals
import Mathlib.Algebra.Order.BigOperators.Group.Finset
import Mathlib.Tactic.IntervalCases
import Mathlib.Tactic.Linarith

/-! The Gregorian calendar: dates, times of day and the seconds that lie before them.

Days are counted by adding up the lengths of years and months. The count has a closed form in
the year that begins in March, and it is monotone in calendar order. -/

namespace Csae295.Library

/-- Every fourth year is a leap year, of the full centuries every fourth one. -/
def IsLeap (year : ℕ) : Prop := year % 4 = 0 ∧ (year % 100 ≠ 0 ∨ year % 400 = 0)

instance (year : ℕ) : Decidable (IsLeap year) := inferInstanceAs (Decidable (_ ∧ _))

def yearLength (year : ℕ) : ℕ := if IsLeap year then 366 else 365

def monthLength (year month : ℕ) : ℕ :=
  if month = 2 then if IsLeap year then 29 else 28
  else if month = 4 ∨ month = 6 ∨ month = 9 ∨ month = 11 then 30
  else 31

/-- A day of the calendar. -/
structure Date where
  year : ℕ
  month : ℕ
  day : ℕ
  month_pos : 1 ≤ month
  month_le : month ≤ 12
  day_pos : 1 ≤ day
  day_le : day ≤ monthLength year month

/-- A date and a time of day. -/
structure DateTime extends Date where
  hour : ℕ
  minute : ℕ
  second : ℕ
  hour_lt : hour < 24
  minute_lt : minute < 60
  second_lt : second < 60

/-- The days of the year before a month. -/
def daysBeforeMonth (year month : ℕ) : ℕ := ∑ m ∈ Finset.Ico 1 month, monthLength year m

/-- The days from the beginning of one year to the beginning of another. -/
def daysBeforeYear (epoch year : ℕ) : ℕ := ∑ y ∈ Finset.Ico epoch year, yearLength y

/-- The days from the beginning of the year `epoch` to the date. -/
def Date.daysSince (epoch : ℕ) (date : Date) : ℕ :=
  daysBeforeYear epoch date.year + daysBeforeMonth date.year date.month + (date.day - 1)

/-- The seconds from the beginning of the year `epoch`. -/
def DateTime.secondsSince (epoch : ℕ) (t : DateTime) : ℕ :=
  86400 * t.daysSince epoch + 3600 * t.hour + 60 * t.minute + t.second

/-! ## Closed forms -/

theorem daysBeforeYear_succ {epoch year : ℕ} (h : epoch ≤ year) :
    daysBeforeYear epoch (year + 1) = daysBeforeYear epoch year + yearLength year :=
  Finset.sum_Ico_succ_top h _

theorem add_div_succ (year period : ℕ) (h : 0 < period) :
    (year + 1 + (period - 1)) / period =
      (year + (period - 1)) / period + if year % period = 0 then 1 else 0 := by
  rw [Nat.add_right_comm, Nat.succ_div]
  have hdvd : period ∣ year + (period - 1) + 1 ↔ year % period = 0 := by
    rw [Nat.add_assoc, Nat.sub_add_cancel h, Nat.dvd_add_left (dvd_refl period),
      Nat.dvd_iff_mod_eq_zero]
  simp only [hdvd]

/-- A year is longer than 365 days by the leap day, which two of the three rules grant. -/
theorem yearLength_add (year : ℕ) :
    yearLength year + (if year % 100 = 0 then 1 else 0) =
      365 + (if year % 4 = 0 then 1 else 0) + if year % 400 = 0 then 1 else 0 := by
  have hcentury : year % 100 = 0 → year % 4 = 0 := by omega
  have hfour : year % 400 = 0 → year % 100 = 0 := by omega
  unfold yearLength IsLeap
  by_cases h100 : year % 100 = 0
  · simp [h100, hcentury h100]
    split <;> rfl
  · simp [h100, mt hfour h100]
    split <;> rfl

/-- The leap years among the years before `year`, less those before `epoch`. -/
theorem daysBeforeYear_eq {epoch year : ℕ} (h : epoch ≤ year) :
    daysBeforeYear epoch year + (365 * epoch + (epoch + 3) / 4 + (epoch + 399) / 400) +
        (year + 99) / 100 =
      365 * year + (year + 3) / 4 + (year + 399) / 400 + (epoch + 99) / 100 := by
  induction year, h using Nat.le_induction with
  | base =>
      rw [daysBeforeYear, Finset.Ico_self, Finset.sum_empty, Nat.zero_add]
  | succ year h ih =>
      have hlength := yearLength_add year
      have hfour := add_div_succ year 4 (by decide)
      have hcentury := add_div_succ year 100 (by decide)
      have hcycle := add_div_succ year 400 (by decide)
      rw [daysBeforeYear_succ h]
      generalize (if year % 4 = 0 then 1 else 0) = four at hlength hfour
      generalize (if year % 100 = 0 then 1 else 0) = century at hlength hcentury
      generalize (if year % 400 = 0 then 1 else 0) = cycle at hlength hcycle
      simp only [Nat.reduceSub] at hfour hcentury hcycle
      rw [hfour, hcentury, hcycle]
      linarith

theorem daysBeforeMonth_succ (year : ℕ) {month : ℕ} (h : 1 ≤ month) :
    daysBeforeMonth year (month + 1) = daysBeforeMonth year month + monthLength year month :=
  Finset.sum_Ico_succ_top h _

/-- January and February come before the leap day, the other months behind it. -/
theorem daysBeforeMonth_eq (year : ℕ) {month : ℕ} (hpos : 1 ≤ month) (hle : month ≤ 12) :
    daysBeforeMonth year month =
      if month ≤ 2 then 31 * (month - 1)
      else yearLength year - 306 + (153 * (month - 3) + 2) / 5 := by
  by_cases hleap : IsLeap year <;> interval_cases month <;>
    simp [daysBeforeMonth, Finset.sum_Ico_succ_top, monthLength, yearLength, hleap]

theorem add_div_pred (year period : ℕ) (h : 0 < period) :
    (year + (period - 1)) / period + (if year % period = 0 then 1 else 0) = year / period + 1 := by
  rw [← add_div_succ year period h, Nat.add_assoc, Nat.add_sub_cancel' h, Nat.add_div_right _ h]

/-- The year that begins in March and contains a date. -/
def Date.marchYear (date : Date) : ℕ := if date.month ≤ 2 then date.year - 1 else date.year

/-- The number of a date's month in that year. -/
def Date.marchMonth (date : Date) : ℕ := if date.month ≤ 2 then date.month + 9 else date.month - 3

/-- Counted from March on, the months fall on a straight line and the leap day comes last. -/
theorem Date.daysSince_eq {epoch : ℕ} (date : Date) (hpos : 0 < date.year)
    (h : epoch ≤ date.year) :
    date.daysSince epoch + (365 * epoch + (epoch + 3) / 4 + (epoch + 399) / 400) +
        date.marchYear / 100 =
      365 * date.marchYear + date.marchYear / 4 + date.marchYear / 400 +
        (153 * date.marchMonth + 2) / 5 + (date.day - 1) + 60 + (epoch + 99) / 100 := by
  have hyear := daysBeforeYear_eq h
  have hmonth := daysBeforeMonth_eq date.year date.month_pos date.month_le
  unfold Date.daysSince Date.marchYear Date.marchMonth
  by_cases hwinter : date.month ≤ 2
  · simp only [hwinter, if_true] at hmonth ⊢
    obtain ⟨year, hprev⟩ := Nat.exists_eq_succ_of_ne_zero hpos.ne'
    have hfour : (year + 1 + 3) / 4 = year / 4 + 1 := Nat.add_div_right (z := 4) year (by decide)
    have hcentury : (year + 1 + 99) / 100 = year / 100 + 1 := Nat.add_div_right (z := 100) year (by decide)
    have hcycle : (year + 1 + 399) / 400 = year / 400 + 1 := Nat.add_div_right (z := 400) year (by decide)
    have hmonths : 31 * (date.month - 1) + 306 = (153 * (date.month + 9) + 2) / 5 := by
      have hmonthPos := date.month_pos
      generalize date.month = month at hwinter hmonthPos ⊢
      interval_cases month <;> rfl
    rw [hprev, Nat.succ_eq_add_one, hfour, hcentury, hcycle] at hyear
    rw [hprev, Nat.succ_eq_add_one] at hmonth ⊢
    rw [hmonth, ← hmonths, Nat.add_sub_cancel]
    linarith
  · simp only [hwinter, if_false] at hmonth ⊢
    have hlength := yearLength_add date.year
    have hfour := add_div_pred date.year 4 (by decide)
    have hcentury := add_div_pred date.year 100 (by decide)
    have hcycle := add_div_pred date.year 400 (by decide)
    generalize (if date.year % 4 = 0 then 1 else 0) = four at hlength hfour
    generalize (if date.year % 100 = 0 then 1 else 0) = century at hlength hcentury
    generalize (if date.year % 400 = 0 then 1 else 0) = cycle at hlength hcycle
    have hlong : 306 ≤ yearLength date.year := by
      unfold yearLength
      split <;> decide
    simp only [Nat.reduceSub] at hfour hcentury hcycle
    rw [hmonth]
    generalize (153 * (date.month - 3) + 2) / 5 = months
    omega

/-! ## Calendar order -/

/-- The numbers of a point in time, of which the first ones weigh most. -/
def DateTime.fields (t : DateTime) : List ℕ :=
  [t.year, t.month, t.day, t.hour, t.minute, t.second]

theorem daysBeforeMonth_mono (year : ℕ) {month month' : ℕ} (h : month ≤ month') :
    daysBeforeMonth year month ≤ daysBeforeMonth year month' :=
  Finset.sum_le_sum_of_subset (Finset.Ico_subset_Ico_right h)

theorem daysBeforeYear_mono (epoch : ℕ) {year year' : ℕ} (h : year ≤ year') :
    daysBeforeYear epoch year ≤ daysBeforeYear epoch year' :=
  Finset.sum_le_sum_of_subset (Finset.Ico_subset_Ico_right h)

theorem daysBeforeMonth_thirteen (year : ℕ) : daysBeforeMonth year 13 = yearLength year := by
  rw [daysBeforeMonth_succ year (by decide), daysBeforeMonth_eq year (by decide) (by decide),
    if_neg (by decide)]
  unfold yearLength
  split <;> rfl

/-- A day lies before the month behind its own. -/
theorem Date.lt_daysBeforeMonth (date : Date) :
    daysBeforeMonth date.year date.month + (date.day - 1) <
      daysBeforeMonth date.year (date.month + 1) := by
  have hpos := date.day_pos
  have hle := date.day_le
  rw [daysBeforeMonth_succ date.year date.month_pos]
  omega

theorem Date.lt_yearLength (date : Date) :
    daysBeforeMonth date.year date.month + (date.day - 1) < yearLength date.year := by
  have hmono := daysBeforeMonth_mono date.year (Nat.succ_le_succ date.month_le)
  rw [Nat.succ_eq_add_one, daysBeforeMonth_thirteen] at hmono
  exact date.lt_daysBeforeMonth.trans_le hmono

section

variable {epoch : ℕ} {date date' : Date}

theorem Date.daysSince_lt_of_year (hepoch : epoch ≤ date.year) (h : date.year < date'.year) :
    date.daysSince epoch < date'.daysSince epoch := by
  have hyear := daysBeforeYear_mono epoch (Nat.succ_le_of_lt h)
  rw [Nat.succ_eq_add_one, daysBeforeYear_succ hepoch] at hyear
  have hlt := date.lt_yearLength
  unfold Date.daysSince
  omega

theorem Date.daysSince_lt_of_month (hyear : date.year = date'.year)
    (h : date.month < date'.month) : date.daysSince epoch < date'.daysSince epoch := by
  have hmonth := daysBeforeMonth_mono date.year (Nat.succ_le_of_lt h)
  rw [Nat.succ_eq_add_one] at hmonth
  have hlt := date.lt_daysBeforeMonth
  rw [Date.daysSince, Date.daysSince, ← hyear]
  omega

theorem Date.daysSince_lt_of_day (hyear : date.year = date'.year)
    (hmonth : date.month = date'.month) (h : date.day < date'.day) :
    date.daysSince epoch < date'.daysSince epoch := by
  have hpos := date.day_pos
  rw [Date.daysSince, Date.daysSince, ← hyear, ← hmonth]
  omega

end

/-- Later points in time have more seconds before them. -/
theorem DateTime.secondsSince_lt {epoch : ℕ} {t t' : DateTime} (hepoch : epoch ≤ t.year)
    (h : t.fields < t'.fields) : t.secondsSince epoch < t'.secondsSince epoch := by
  have hhour := t.hour_lt
  have hminute := t.minute_lt
  have hsecond := t.second_lt
  have hminute' := t'.minute_lt
  have hsecond' := t'.second_lt
  have hdays : t.daysSince epoch < t'.daysSince epoch →
      t.secondsSince epoch < t'.secondsSince epoch := by
    unfold DateTime.secondsSince
    omega
  simp only [DateTime.fields, List.cons_lt_cons_iff, List.not_lt_nil, and_false, or_false] at h
  rcases h with h | ⟨hyear, h⟩
  · exact hdays (Date.daysSince_lt_of_year hepoch h)
  rcases h with h | ⟨hmonth, h⟩
  · exact hdays (Date.daysSince_lt_of_month hyear h)
  rcases h with h | ⟨hday, h⟩
  · exact hdays (Date.daysSince_lt_of_day hyear hmonth h)
  have hsame : t.daysSince epoch = t'.daysSince epoch := by
    rw [Date.daysSince, Date.daysSince, hyear, hmonth, hday]
  unfold DateTime.secondsSince
  omega

end Csae295.Library
