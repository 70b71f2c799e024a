import Csae295.Library.Calendar
import Csae295.Model.Converter

/-! The conversion of a packed time of day in Beijing to milliseconds.

For the code of an existing date the closed form of the source is the calendar's count of days.
For anything else it is a number of days as well: every year is 2000 or later, so that nothing
makes the result zero. -/

namespace Csae295

open Library

/-! ## Packed bytes -/

/-- The code of a number of two digits. -/
def bcdByte (n : ℕ) : Byte := BitVec.ofNat 8 (16 * (n / 10) + n % 10)

theorem fromBcd_bcdByte {n : ℕ} (h : n < 100) : fromBcd (bcdByte n) = n := by
  revert n
  decide

theorem fromBcd_bounds (b : Byte) : 0 ≤ fromBcd b ∧ fromBcd b ≤ 165 := by
  revert b
  decide +kernel

/-! ## Days -/

/-- The day of an era, as long as it is not negative. -/
theorem doe_toNat {yoe : ℕ} {doy : ℤ} (hyoe : yoe < 400)
    (hpos : 0 ≤ (yoe * 365 + yoe / 4 - yoe / 100 : ℤ) + doy) (hle : doy < 2 ^ 31) :
    (((BitVec.ofInt (8 * 4) yoe * 365 + BitVec.ofInt (8 * 4) yoe / 4 -
      BitVec.ofInt (8 * 4) yoe / 100 + BitVec.ofInt (8 * 4) doy : Word 4).toNat : ℕ) : ℤ) =
        yoe * 365 + yoe / 4 - yoe / 100 + doy := by
  have hnat : (BitVec.ofInt (8 * 4) (yoe : ℤ)).toNat = yoe := by
    rw [BitVec.toNat_ofInt]
    omega
  have h365 : (365 : Word 4).toNat = 365 := rfl
  have h4 : (4 : Word 4).toNat = 4 := rfl
  have h100 : (100 : Word 4).toNat = 100 := rfl
  simp only [BitVec.toNat_add, BitVec.toNat_sub, BitVec.toNat_mul, BitVec.toNat_udiv, hnat, h365,
    h4, h100, BitVec.toNat_ofInt]
  omega

/-- The year that the source counts from March on. -/
def yearOf (year month : ℤ) : ℤ := if month ≤ 2 then year - 1 else year

/-- The days of that year up to the date, less one. -/
def doyOf (month day : ℤ) : ℤ := (153 * (month + if month > 2 then -3 else 9) + 2).tdiv 5 + day - 1

/-- Where the day of the era is not negative, the days are counted without wrapping around. -/
theorem daysOf_eq {year month day : ℤ} (hyear : 0 ≤ yearOf year month)
    (hpos : 0 ≤ yearOf year month % 400 * 365 + yearOf year month % 400 / 4 -
      yearOf year month % 400 / 100 + doyOf month day) (hle : doyOf month day < 2 ^ 31) :
    daysOf year month day = yearOf year month / 400 * 146097 +
      (yearOf year month % 400 * 365 + yearOf year month % 400 / 4 -
        yearOf year month % 400 / 100 + doyOf month day) - 719468 := by
  obtain ⟨yoe, hyoe⟩ := Int.eq_ofNat_of_zero_le (Int.emod_nonneg (yearOf year month)
    (show (400 : ℤ) ≠ 0 by decide))
  have hlt : yoe < 400 := by
    have hmod := Int.emod_lt_of_pos (yearOf year month) (show (0 : ℤ) < 400 by decide)
    omega
  have hera : (if 0 ≤ yearOf year month then yearOf year month else yearOf year month - 399).tdiv 400 =
      yearOf year month / 400 := by
    rw [if_pos hyear, Int.tdiv_eq_ediv_of_nonneg hyear]
  have hrest : yearOf year month - yearOf year month / 400 * 400 = yoe := by
    rw [← hyoe]
    omega
  rw [hyoe] at hpos ⊢
  rw [← doe_toNat hlt hpos hle, ← hrest, ← hera]
  rfl

theorem monthLength_le (year month : ℕ) : monthLength year month ≤ 31 := by
  unfold monthLength
  split_ifs <;> decide

theorem yearOf_date (date : Date) (h : 0 < date.year) :
    yearOf date.year date.month = date.marchYear := by
  unfold yearOf Date.marchYear
  split <;> split <;> omega

theorem doyOf_date (date : Date) :
    doyOf date.month date.day = ((153 * date.marchMonth + 2) / 5 + (date.day - 1) : ℕ) := by
  have hpos := date.day_pos
  have hmonth : (153 * ((date.month : ℤ) + if (date.month : ℤ) > 2 then -3 else 9) + 2) =
      (153 * date.marchMonth + 2 : ℕ) := by
    unfold Date.marchMonth
    split <;> split <;> omega
  rw [doyOf, hmonth, Int.tdiv_eq_ediv_of_nonneg (Int.natCast_nonneg _)]
  omega

/-- Of an existing date the source counts the days that the calendar counts. -/
theorem daysOf_date (date : Date) (h : 1970 ≤ date.year) :
    daysOf date.year date.month date.day = date.daysSince 1970 := by
  have hday := date.day_le.trans (monthLength_le date.year date.month)
  have hmonth := date.month_le
  have hmarch : date.marchMonth ≤ 11 := by
    unfold Date.marchMonth
    split <;> omega
  have hcount := date.daysSince_eq (by omega) h
  rw [daysOf_eq, yearOf_date date (by omega), doyOf_date]
  · generalize date.marchYear = year at hcount ⊢
    generalize (153 * date.marchMonth + 2) / 5 = months at hcount ⊢
    generalize date.daysSince 1970 = days at hcount ⊢
    have hfour : year / 4 = 100 * (year / 400) + year % 400 / 4 := by omega
    have hcentury : year / 100 = 4 * (year / 400) + year % 400 / 100 := by omega
    have hyear : year = 400 * (year / 400) + year % 400 := by omega
    rw [hfour, hcentury] at hcount
    omega
  · rw [yearOf_date date (by omega)]
    exact Int.natCast_nonneg _
  · rw [yearOf_date date (by omega), doyOf_date]
    omega
  · rw [doyOf_date]
    omega

theorem toNat_ofInt_of_bounds {x : ℤ} (hpos : 0 ≤ x) (hlt : x < 2 ^ 64) :
    ((BitVec.ofInt (8 * 8) x).toNat : ℤ) = x := by
  rw [BitVec.toNat_ofInt]
  omega

/-! ## Existing dates and times -/

/-- The code of a point in time, two digits for each of its numbers. -/
def bcdCode (t : DateTime) : List Byte :=
  [t.year - 2000, t.month, t.day, t.hour, t.minute, t.second].map bcdByte

/-- The years that two digits stand for. -/
def InCentury (t : DateTime) : Prop := 2000 ≤ t.year ∧ t.year ≤ 2099

instance (t : DateTime) : Decidable (InCentury t) := inferInstanceAs (Decidable (_ ∧ _))

section

variable {t : DateTime} (h : InCentury t)

include h

theorem daysSince_bounds : 10957 ≤ t.daysSince 1970 ∧ t.daysSince 1970 < 50000 := by
  have hday := t.day_le.trans (monthLength_le t.year t.month)
  have hmonth := daysBeforeMonth_mono t.year (t.month_le.trans (Nat.le_succ 12))
  rw [daysBeforeMonth_thirteen, yearLength] at hmonth
  have hlong : (if IsLeap t.year then 366 else 365) ≤ 366 := by
    split <;> decide
  have hyear := daysBeforeYear_eq (show 1970 ≤ t.year from le_trans (by decide) h.1)
  have hle := h.1
  have hge := h.2
  unfold Date.daysSince
  omega

theorem utcMilliseconds_bcdByte :
    ((utcMilliseconds (bcdByte (t.year - 2000)) (bcdByte t.month) (bcdByte t.day) (bcdByte t.hour)
      (bcdByte t.minute) (bcdByte t.second)).toNat : ℤ) =
        1000 * ((t.secondsSince 1970 : ℤ) - 8 * 3600) := by
  obtain ⟨hearly, hlate⟩ := daysSince_bounds h
  obtain ⟨hle, hge⟩ := h
  have hday := t.day_le.trans (monthLength_le t.year t.month)
  have hmonth := t.month_le
  have hhour := t.hour_lt
  have hminute := t.minute_lt
  have hsecond := t.second_lt
  have hyear : fromBcd (bcdByte (t.year - 2000)) + 2000 = t.year := by
    rw [fromBcd_bcdByte (by omega)]
    omega
  have hdays := daysOf_date t.toDate (by omega)
  simp only [utcMilliseconds, hyear, fromBcd_bcdByte (show t.month < 100 by omega),
    fromBcd_bcdByte (show t.day < 100 by omega), fromBcd_bcdByte (show t.hour < 100 by omega),
    fromBcd_bcdByte (show t.minute < 100 by omega), fromBcd_bcdByte (show t.second < 100 by omega),
    hdays]
  rw [toNat_ofInt_of_bounds, DateTime.secondsSince] <;> push_cast <;> omega

theorem bcdTime_bcdCode (rest : List Byte) {size : ℕ} (hsize : 6 ≤ size) :
    ∃ ms : Word 8, bcdTimeToUtcMilliseconds (some (bcdCode t ++ rest)) size = .ok ms ∧
      (ms.toNat : ℤ) = 1000 * ((t.secondsSince 1970 : ℤ) - 8 * 3600) := by
  refine ⟨_, ?_, utcMilliseconds_bcdByte h⟩
  simp [bcdTimeToUtcMilliseconds, bcdCode, Nat.not_lt_of_ge hsize]

end

/-- The code of a point in time becomes the milliseconds that lie between the beginning of 1970
and it, eight hours less; and so later points in time have larger results. -/
theorem bcdTime_counts_seconds :
    (∀ t, InCentury t → ∀ (rest : List Byte) (size : ℕ), 6 ≤ size →
      ∃ ms : Word 8, bcdTimeToUtcMilliseconds (some (bcdCode t ++ rest)) size = .ok ms ∧
        (ms.toNat : ℤ) = 1000 * ((t.secondsSince 1970 : ℤ) - 8 * 3600)) ∧
    ∀ t t', InCentury t → InCentury t' → t.fields < t'.fields →
      ∃ ms ms' : Word 8, bcdTimeToUtcMilliseconds (some (bcdCode t)) 6 = .ok ms ∧
        bcdTimeToUtcMilliseconds (some (bcdCode t')) 6 = .ok ms' ∧ ms < ms' := by
  refine ⟨fun t h rest size hsize => bcdTime_bcdCode h rest hsize, fun t t' h h' hlt => ?_⟩
  obtain ⟨ms, hms, hvalue⟩ := bcdTime_bcdCode h [] le_rfl
  obtain ⟨ms', hms', hvalue'⟩ := bcdTime_bcdCode h' [] le_rfl
  rw [List.append_nil] at hms hms'
  have hepoch : 1970 ≤ t.year := le_trans (by decide) h.1
  have hseconds := DateTime.secondsSince_lt hepoch hlt
  refine ⟨ms, ms', hms, hms', ?_⟩
  rw [BitVec.lt_def]
  omega

/-- The leap day of 2024, 54 years and 59 days after the beginning of 1970. -/
def leapDay : DateTime where
  year := 2024
  month := 2
  day := 29
  month_pos := by decide
  month_le := by decide
  day_pos := by decide
  day_le := by decide
  hour := 12
  minute := 34
  second := 56
  hour_lt := by decide
  minute_lt := by decide
  second_lt := by decide

theorem bcdTime_leapDay :
    bcdCode leapDay = [0x24, 0x02, 0x29, 0x12, 0x34, 0x56] ∧
      ∃ ms : Word 8, bcdTimeToUtcMilliseconds (some (bcdCode leapDay ++ [])) 6 = .ok ms ∧
        (ms.toNat : ℤ) = 1709181296000 := by
  refine ⟨rfl, ?_⟩
  obtain ⟨ms, hms, hvalue⟩ := bcdTime_counts_seconds.1 leapDay (by decide) [] 6 le_rfl
  have hseconds : leapDay.secondsSince 1970 = 1709210096 := by decide +kernel
  rw [hseconds] at hvalue
  exact ⟨ms, hms, hvalue⟩

/-! ## Everything else -/

/-- In whichever way the day of the era comes out, it is an unsigned number. -/
theorem daysOf_doe {year month : ℤ} (day : ℤ) (hyear : 0 ≤ yearOf year month) :
    ∃ doe : ℕ, doe < 2 ^ 32 ∧
      daysOf year month day = yearOf year month / 400 * 146097 + doe - 719468 := by
  have hera : (if 0 ≤ yearOf year month then yearOf year month else yearOf year month - 399).tdiv 400 =
      yearOf year month / 400 := by
    rw [if_pos hyear, Int.tdiv_eq_ediv_of_nonneg hyear]
  rw [← hera]
  exact ⟨_, BitVec.isLt _, rfl⟩

/-- Every year is 1999 or later, so the days are never the first of 1970. -/
theorem daysOf_bounds {year month day : ℤ} (hyear : 2000 ≤ year ∧ year ≤ 2165)
    (hmonth : 0 ≤ month ∧ month ≤ 165) (hday : 0 ≤ day ∧ day ≤ 165) :
    0 < daysOf year month day ∧ daysOf year month day < 2 ^ 33 := by
  have hyears : 1999 ≤ yearOf year month ∧ yearOf year month ≤ 2165 := by
    unfold yearOf
    split <;> omega
  by_cases hlast : yearOf year month = 1999
  · have hwinter : month ≤ 2 := by
      by_contra hmonth
      rw [yearOf, if_neg hmonth] at hlast
      omega
    have hdoy : 0 ≤ doyOf month day ∧ doyOf month day < 2 ^ 31 := by
      rw [doyOf, if_neg (by omega), Int.tdiv_eq_ediv_of_nonneg (by omega)]
      omega
    rw [daysOf_eq (by omega) (by rw [hlast]; omega) hdoy.2, hlast]
    omega
  · obtain ⟨doe, hdoe, hdays⟩ := daysOf_doe day (show 0 ≤ yearOf year month by omega)
    rw [hdays]
    omega

theorem utcMilliseconds_ne_zero (yearBcd monthBcd dayBcd hourBcd minBcd secBcd : Byte) :
    utcMilliseconds yearBcd monthBcd dayBcd hourBcd minBcd secBcd ≠ 0 := by
  have hyear := fromBcd_bounds yearBcd
  have hdays := daysOf_bounds
    (show 2000 ≤ fromBcd yearBcd + 2000 ∧ fromBcd yearBcd + 2000 ≤ 2165 by omega)
    (fromBcd_bounds monthBcd) (fromBcd_bounds dayBcd)
  have hhour := fromBcd_bounds hourBcd
  have hmin := fromBcd_bounds minBcd
  have hsec := fromBcd_bounds secBcd
  intro hzero
  have hvalue := congrArg (fun ms => (ms.toNat : ℤ)) hzero
  simp only [utcMilliseconds] at hvalue
  rw [toNat_ofInt_of_bounds (by omega) (by omega)] at hvalue
  have hnat : ((0 : Word 8).toNat : ℤ) = 0 := rfl
  rw [hnat] at hvalue
  omega

/-- No array is reported as invalid, whether its first six bytes are the code of an existing date
and time or not. -/
theorem bcdTime_ne_zero {mem : List Byte} {size : ℕ} (hsize : 6 ≤ size) (hmem : size ≤ mem.length) :
    ∃ ms : Word 8, bcdTimeToUtcMilliseconds (some mem) size = .ok ms ∧ ms ≠ 0 := by
  obtain ⟨yearBcd, monthBcd, dayBcd, hourBcd, minBcd, secBcd, rest, rfl⟩ :
      ∃ a b c d e f rest, mem = a :: b :: c :: d :: e :: f :: rest := by
    match mem, hsize.trans hmem with
    | a :: b :: c :: d :: e :: f :: rest, _ => exact ⟨a, b, c, d, e, f, rest, rfl⟩
  refine ⟨_, ?_, utcMilliseconds_ne_zero yearBcd monthBcd dayBcd hourBcd minBcd secBcd⟩
  simp [bcdTimeToUtcMilliseconds, Nat.not_lt_of_ge hsize]

/-- The first six bytes are the code of an existing date and time. -/
def IsBcdTime (mem : List Byte) : Prop := ∃ t, InCentury t ∧ mem.take 6 = bcdCode t

theorem not_isBcdTime_zero : ¬ IsBcdTime (List.replicate 6 0) := by
  rintro ⟨t, -, hcode⟩
  simp only [bcdCode, List.map_cons, List.map_nil] at hcode
  have hmonth : bcdByte t.month = 0 := (List.cons.inj (List.cons.inj hcode).2).1.symm
  have hlt : t.month < 100 := t.month_le.trans_lt (by decide)
  have hvalue := fromBcd_bcdByte hlt
  rw [hmonth] at hvalue
  have hzero : (t.month : ℤ) = 0 := hvalue.symm
  have hpos := t.month_pos
  omega

/-- Day 0 of March 2000 lies more than eleven million years after 1970. -/
theorem bcdTime_ne_zero_march :
    ∃ ms : Word 8, bcdTimeToUtcMilliseconds (some [0x00, 0x03, 0x00, 0x00, 0x00, 0x00]) 6 = .ok ms ∧
      ms ≠ 0 := bcdTime_ne_zero le_rfl (by decide)

/-- Six zero bytes are no date, but not reported as invalid. -/
theorem bcdTime_accepts_invalid :
    ¬ ∀ (mem : List Byte) (size : ℕ), 6 ≤ size → size ≤ mem.length → ¬ IsBcdTime mem →
      bcdTimeToUtcMilliseconds (some mem) size = .ok 0 := by
  intro hall
  have hzero := hall (List.replicate 6 0) 6 le_rfl (by decide) not_isBcdTime_zero
  have hne := utcMilliseconds_ne_zero 0 0 0 0 0 0
  exact hne (Except.ok.inj hzero)

end Csae295
