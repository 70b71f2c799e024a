import Csae295.Verification.Bcd
import Csae295.Verification.BcdTime

/-! A point in time from its decimal digits to milliseconds: `string_to_bcd` packs the text, and
`bcd_time_to_utc_milliseconds` reads what has been packed. -/

namespace Csae295

open Library

/-! ## Numbers of two digits -/

/-- The decimal digits of a number below 100. -/
def digitPair (n : ℕ) : List Byte :=
  [BitVec.ofNat 8 (0x30 + n / 10), BitVec.ofNat 8 (0x30 + n % 10)]

theorem digitPair_isDecimal {n : ℕ} (h : n < 100) : IsDecimal (digitPair n) := by
  have hdigit : ∀ d < 10, 0x30 ≤ BitVec.ofNat 8 (0x30 + d) ∧ BitVec.ofNat 8 (0x30 + d) ≤ 0x39 := by
    decide
  exact List.forall_mem_cons.mpr ⟨hdigit _ (Nat.div_lt_of_lt_mul h),
    List.forall_mem_singleton.mpr (hdigit _ (Nat.mod_lt n (by decide)))⟩

theorem digitPair_value {n : ℕ} (h : n < 100) :
    (digitPair n).map digitValue = nibbles [bcdByte n] := by
  revert n
  decide

variable {ns : List ℕ}

theorem flatMap_digitPair_length (ns : List ℕ) : (ns.flatMap digitPair).length = 2 * ns.length := by
  induction ns with
  | nil => rfl
  | cons n ns ih =>
      rw [List.flatMap_cons, List.length_append, ih, List.length_cons, Nat.mul_succ, Nat.add_comm]
      rfl

theorem flatMap_digitPair_isDecimal (h : ∀ n ∈ ns, n < 100) : IsDecimal (ns.flatMap digitPair) := by
  intro c hc
  obtain ⟨n, hn, hc⟩ := List.mem_flatMap.mp hc
  exact digitPair_isDecimal (h n hn) c hc

theorem flatMap_digitPair_value (h : ∀ n ∈ ns, n < 100) :
    (ns.flatMap digitPair).map digitValue = nibbles (ns.map bcdByte) := by
  induction ns with
  | nil => rfl
  | cons n ns ih =>
      obtain ⟨hn, hns⟩ := List.forall_mem_cons.mp h
      rw [List.flatMap_cons, List.map_append, digitPair_value hn, ih hns]
      rfl

/-- Numbers of two digits are packed one to a byte, and nothing behind them is touched. -/
theorem stringToBcd_pairs {atoi : Byte → ℤ}
    (hatoi : ∀ c : Byte, 0x30 ≤ c → c ≤ 0x39 → atoi c = digitValue c) (h : ∀ n ∈ ns, n < 100)
    (rest : List Byte) {bcd : List Byte} (hsize : 2 * ns.length ≤ intMax)
    (hbcd : ns.length ≤ bcd.length) :
    stringToBcd atoi (ns.flatMap digitPair ++ 0 :: rest) (some bcd) ns.length =
      .ok (some (ns.map bcdByte ++ bcd.drop ns.length)) := by
  have hdecimal := flatMap_digitPair_isDecimal h
  have hlength := flatMap_digitPair_length ns
  have hclear : clear ((some bcd).getD []) ns.length =
      .ok (List.replicate ns.length 0 ++ bcd.drop ns.length) := if_pos hbcd
  obtain ⟨packed, hrun, -, hnibbles⟩ := packDigits_packs hatoi (bcd.drop ns.length) rest hsize hsize
    le_rfl (ns.flatMap digitPair) [] (List.replicate ns.length 0)
    (by rw [hlength, List.length_nil, Nat.zero_add]) hdecimal List.length_replicate
    (by rw [nibbles_replicate_zero, hlength, Nat.sub_self]; rfl)
  rw [Nat.sub_self, List.nil_append, List.replicate_zero, List.nil_append,
    flatMap_digitPair_value h] at hnibbles
  rw [List.nil_append, List.length_nil, hlength, nibbles_injective hnibbles] at hrun
  rw [stringToBcd, strlen_of_decimal rest hdecimal, ok_bind, hclear, ok_bind, hlength,
    hrun, ok_bind]
  rfl

/-! ## Points in time -/

/-- Two digits for each number of a point in time. -/
def timeText (t : DateTime) : List Byte :=
  [t.year - 2000, t.month, t.day, t.hour, t.minute, t.second].flatMap digitPair

/-- The text of a point in time in Beijing becomes the milliseconds from the beginning of 1970 to
it, whatever the buffer has held. -/
theorem textTime_counts_seconds {atoi : Byte → ℤ}
    (hatoi : ∀ c : Byte, 0x30 ≤ c → c ≤ 0x39 → atoi c = digitValue c) {t : DateTime}
    (h : InCentury t)
    (rest : List Byte) {bcd : List Byte} (hbcd : 6 ≤ bcd.length) :
    ∃ packed, stringToBcd atoi (timeText t ++ 0 :: rest) (some bcd) 6 = .ok packed ∧
      ∃ ms : Word 8, bcdTimeToUtcMilliseconds packed 6 = .ok ms ∧
        (ms.toNat : ℤ) = 1000 * ((t.secondsSince 1970 : ℤ) - 8 * 3600) := by
  have hdigits : ∀ n ∈ [t.year - 2000, t.month, t.day, t.hour, t.minute, t.second], n < 100 := by
    have hday := t.day_le.trans (monthLength_le t.year t.month)
    have hmonth := t.month_le
    have hhour := t.hour_lt
    have hminute := t.minute_lt
    have hsecond := t.second_lt
    obtain ⟨hle, hge⟩ := h
    simp only [List.forall_mem_cons]
    refine ⟨by omega, by omega, by omega, by omega, by omega, by omega, nofun⟩
  exact ⟨_, stringToBcd_pairs hatoi hdigits rest (show 12 ≤ intMax by decide) hbcd,
    bcdTime_bcdCode h _ le_rfl⟩

/-- 240229123456 -/
theorem textTime_counts_seconds_leapDay :
    timeText leapDay = ascii ['2', '4', '0', '2', '2', '9', '1', '2', '3', '4', '5', '6'] ∧
      ∃ packed,
        stringToBcd atoiDigit (timeText leapDay ++ 0 :: []) (some (List.replicate 8 0xEE)) 6 =
          .ok packed ∧
        ∃ ms : Word 8, bcdTimeToUtcMilliseconds packed 6 = .ok ms ∧
          (ms.toNat : ℤ) = 1000 * ((leapDay.secondsSince 1970 : ℤ) - 8 * 3600) :=
  ⟨by decide, textTime_counts_seconds (fun _ => atoiDigit_digit) (by decide) [] (by decide)⟩

end Csae295
