import Csae295.Library.Nibbles
import Csae295.Model.Converter

/-! The packed digits that `string_to_bcd` leaves in the buffer.

The digits fill the halves of the bytes from the right. A string that is too long is found out at
its first digit: the difference of the sizes has wrapped around, and the byte it names, read as an
`int`, is negative. -/

namespace Csae295

open Library

/-- The largest `int`. -/
def intMax : ℕ := 2 ^ 31 - 1

/-- The number that a decimal digit stands for. -/
def digitValue (c : Byte) : ℕ := c.toNat - 0x30

/-- A string of decimal digits. -/
def IsDecimal (digits : List Byte) : Prop := ∀ c ∈ digits, 0x30 ≤ c ∧ c ≤ 0x39

instance (digits : List Byte) : Decidable (IsDecimal digits) :=
  inferInstanceAs (Decidable (∀ c ∈ digits, _))

theorem digitValue_lt {c : Byte} (h : 0x30 ≤ c ∧ c ≤ 0x39) : digitValue c < 10 := by
  have hle : c.toNat ≤ 0x39 := h.2
  unfold digitValue
  omega

/-! ## The byte a digit goes to -/

/-- The position that the source computes. -/
def bcdIndex (size len i : ℕ) : Word 8 :=
  (2 * BitVec.ofNat (8 * 8) size - BitVec.ofNat (8 * 8) len + BitVec.ofNat (8 * 8) i) / 2

theorem bcdIndex_toNat (size i : ℕ) {len : ℕ} (hlen : len ≤ intMax) :
    (bcdIndex size len i).toNat = (2 * size + i + (2 ^ 64 - len)) % 2 ^ 64 / 2 := by
  unfold intMax at hlen
  have htwo : (2 : Word 8).toNat = 2 := rfl
  simp only [bcdIndex, BitVec.toNat_udiv, BitVec.toNat_add, BitVec.toNat_sub, BitVec.toNat_mul,
    BitVec.toNat_ofNat, htwo]
  omega

section

variable {size len i : ℕ} (hlen : len ≤ intMax) (hsize : 2 * size ≤ intMax)

include hlen hsize

theorem bcdIndex_of_fits (hfits : len ≤ 2 * size) (hi : i < len) :
    (bcdIndex size len i).toNat = (2 * size - len + i) / 2 := by
  rw [bcdIndex_toNat size i hlen]
  unfold intMax at hlen hsize
  omega

theorem bcdIndex_of_long (hlong : 2 * size < len) :
    (bcdIndex size len 0).toNat = 2 ^ 63 - (len - 2 * size + 1) / 2 := by
  rw [bcdIndex_toNat size 0 hlen]
  unfold intMax at hlen hsize
  omega

end

/-- A position is compared as an `int` that is read as unsigned again. -/
theorem toNat_signExtend_setWidth (x : Word 8) :
    ((x.setWidth (8 * 4)).signExtend (8 * 8)).toNat =
      x.toNat % 2 ^ 32 + if 2 ^ 31 ≤ x.toNat % 2 ^ 32 then 2 ^ 64 - 2 ^ 32 else 0 := by
  have hmod : x.toNat % 2 ^ 32 < 2 ^ 64 := (Nat.mod_lt _ (by decide)).trans (by decide)
  rw [BitVec.toNat_signExtend, BitVec.msb_eq_decide, BitVec.toNat_setWidth, BitVec.toNat_setWidth]
  simp only [Nat.reduceMul, Nat.mod_eq_of_lt hmod, decide_eq_true_eq]

/-! ## One digit -/

theorem shifted_digit : ∀ v < 10, ∀ k < 2,
    (((BitVec.ofInt (8 * 4) (v : ℕ) : Word 4) <<< (4 * k)).setWidth 8 : Byte) =
      BitVec.ofNat 8 v <<< (4 * k) := by
  decide +kernel

/-- A pass of the loop, with the position it goes to. -/
theorem packDigits_succ (atoi : Byte → ℤ) {str : List Byte} (size len : ℕ) {i : ℕ} (n : ℕ)
    {c : Byte} (bcd : List Byte) (hstr : str[i]? = some c) :
    packDigits atoi str size len i (n + 1) bcd =
      if (((bcdIndex size len i).setWidth (8 * 4)).signExtend (8 * 8)).toNat ≥ size then .ok bcd
      else
        match bcd[(bcdIndex size len i).toNat]? with
        | none => .error .write
        | some old =>
          packDigits atoi str size len (i + 1) n (bcd.set (bcdIndex size len i).toNat
            (old ||| ((BitVec.ofInt (8 * 4) (atoi c) : Word 4) <<<
              (4 * ((if len % 2 = 0 then i + 1 else i) % 2))).setWidth 8)) := by
  rw [packDigits, hstr]
  rfl

/-- A string that is too long is given up at its first digit. -/
theorem packDigits_of_long (atoi : Byte → ℤ) {str : List Byte} {size len n : ℕ} {c : Byte}
    {bcd : List Byte} (hlen : len ≤ intMax) (hsize : 2 * size ≤ intMax) (hlong : 2 * size < len)
    (hstr : str[0]? = some c) : packDigits atoi str size len 0 (n + 1) bcd = .ok bcd := by
  have hindex := bcdIndex_of_long hlen hsize hlong
  have hj : (((bcdIndex size len 0).setWidth (8 * 4)).signExtend (8 * 8)).toNat ≥ size := by
    rw [toNat_signExtend_setWidth, hindex]
    unfold intMax at hlen hsize
    rw [if_pos (by omega)]
    omega
  rw [packDigits_succ atoi size len n bcd hstr, if_pos hj]

section

variable {atoi : Byte → ℤ}
  (hatoi : ∀ c : Byte, 0x30 ≤ c → c ≤ 0x39 → atoi c = digitValue c)

include hatoi

/-- A digit of a string that fits goes to its half of a byte. -/
theorem packDigits_of_fits {str : List Byte} {size len i n : ℕ} {c old : Byte} {bcd : List Byte}
    (hlen : len ≤ intMax) (hsize : 2 * size ≤ intMax) (hfits : len ≤ 2 * size) (hi : i < len)
    (hstr : str[i]? = some c) (hc : 0x30 ≤ c ∧ c ≤ 0x39)
    (hold : bcd[(2 * size - len + i) / 2]? = some old) :
    packDigits atoi str size len i (n + 1) bcd =
      packDigits atoi str size len (i + 1) n (bcd.set ((2 * size - len + i) / 2)
        (old ||| BitVec.ofNat 8 (digitValue c) <<< (4 * ((2 * size - len + i + 1) % 2)))) := by
  have hindex := bcdIndex_of_fits hlen hsize hfits hi
  have hsmall : (2 * size - len + i) / 2 < 2 ^ 31 := by
    unfold intMax at hsize
    omega
  have hj : ¬ (((bcdIndex size len i).setWidth (8 * 4)).signExtend (8 * 8)).toNat ≥ size := by
    rw [toNat_signExtend_setWidth, hindex, Nat.mod_eq_of_lt (by omega), if_neg (by omega)]
    omega
  have hshift : (if len % 2 = 0 then i + 1 else i) % 2 = (2 * size - len + i + 1) % 2 := by
    split <;> omega
  rw [packDigits_succ atoi size len n bcd hstr, if_neg hj, hindex, hold, hatoi c hc.1 hc.2, hshift,
    shifted_digit _ (digitValue_lt hc) _ (Nat.mod_lt _ (by decide))]

/-! ## All digits -/

/-- When the digits in `done` have been packed, the halves that are left for the others are
empty. -/
theorem packDigits_packs (behind rest : List Byte) {size len : ℕ} (hlen : len ≤ intMax)
    (hsize : 2 * size ≤ intMax) (hfits : len ≤ 2 * size) (digits done front : List Byte)
    (hcount : done.length + digits.length = len) (hdigits : IsDecimal digits)
    (hfront : front.length = size)
    (hpacked : nibbles front = List.replicate (2 * size - len) 0 ++ done.map digitValue ++
      List.replicate digits.length 0) :
    ∃ packed : List Byte,
      packDigits atoi (done ++ digits ++ 0 :: rest) size len done.length digits.length
        (front ++ behind) = .ok (packed ++ behind) ∧ packed.length = size ∧
      nibbles packed = List.replicate (2 * size - len) 0 ++ (done ++ digits).map digitValue := by
  induction digits generalizing done front with
  | nil => exact ⟨front, rfl, hfront, by simpa using hpacked⟩
  | cons c digits ih =>
      rw [List.length_cons] at hcount
      obtain ⟨hc, hdigits⟩ := List.forall_mem_cons.mp hdigits
      have hplace : (List.replicate (2 * size - len) 0 ++ done.map digitValue).length =
          2 * size - len + done.length := by
        rw [List.length_append, List.length_replicate, List.length_map]
      rw [List.length_cons, List.replicate_succ] at hpacked
      obtain ⟨old, hold, hset⟩ := nibbles_or_at ((digitValue_lt hc).trans (by decide)) hpacked
      rw [hplace] at hold hset
      have hk := (List.getElem?_eq_some_iff.mp hold).1
      have hstr : (done ++ c :: digits ++ 0 :: rest)[done.length]? = some c := by
        rw [List.append_assoc, List.getElem?_append_right le_rfl, Nat.sub_self, List.cons_append,
          List.getElem?_cons_zero]
      have hbcd : (front ++ behind)[(2 * size - len + done.length) / 2]? = some old := by
        rw [List.getElem?_append_left hk, hold]
      have hnext := ih (done ++ [c]) _ (by
        rw [List.length_append, List.length_singleton]
        omega) hdigits ((List.length_set ..).trans hfront) (by
        rw [hset, List.map_append, ← List.append_assoc, List.append_assoc _ (List.map _ [c])]
        rfl)
      rw [List.length_cons, packDigits_of_fits hatoi hlen hsize hfits (by omega) hstr hc hbcd,
        List.set_append_left _ _ hk]
      simpa only [List.append_assoc, List.length_append, List.length_singleton, List.cons_append,
        List.nil_append] using hnext

end

/-- The terminator is no digit. -/
theorem strlen_of_decimal {digits : List Byte} (rest : List Byte) (h : IsDecimal digits) :
    strlen (digits ++ 0 :: rest) = .ok digits.length := by
  have hnonzero : ∀ c ∈ digits, decide (c ≠ 0) = true := by
    intro c hc
    have hpos := (h c hc).1
    rw [decide_eq_true_eq]
    rintro rfl
    exact absurd hpos (by decide)
  rw [strlen, if_pos (List.mem_append_right _ List.mem_cons_self), cString,
    List.takeWhile_append_of_pos hnonzero]
  simp

/-- A string of digits is packed at the right end of the buffer, behind zeros. If it is too long,
the whole buffer is zero. Nothing behind the buffer is touched. -/
theorem stringToBcd_packs {atoi : Byte → ℤ}
    (hatoi : ∀ c : Byte, 0x30 ≤ c → c ≤ 0x39 → atoi c = digitValue c) {digits : List Byte}
    (hdigits : IsDecimal digits) (rest : List Byte) {bcd : List Byte} {size : ℕ}
    (hlen : digits.length ≤ intMax) (hsize : 2 * size ≤ intMax) (hbcd : size ≤ bcd.length) :
    ∃ packed : List Byte,
      stringToBcd atoi (digits ++ 0 :: rest) (some bcd) size =
        .ok (some (packed ++ bcd.drop size)) ∧ packed.length = size ∧
      (digits.length ≤ 2 * size → nibbles packed =
        List.replicate (2 * size - digits.length) 0 ++ digits.map digitValue) ∧
      (2 * size < digits.length → packed = List.replicate size 0) := by
  have hclear : clear ((some bcd).getD []) size = .ok (List.replicate size 0 ++ bcd.drop size) :=
    if_pos hbcd
  rw [stringToBcd, strlen_of_decimal rest hdigits, ok_bind, hclear, ok_bind]
  rcases Nat.lt_or_ge (2 * size) digits.length with hlong | hfits
  · obtain ⟨c, digits, rfl⟩ := List.exists_cons_of_length_pos ((Nat.zero_le _).trans_lt hlong)
    refine ⟨List.replicate size 0, ?_, List.length_replicate, fun h => absurd h (by omega),
      fun _ => rfl⟩
    rw [List.length_cons] at hlong hlen ⊢
    rw [List.cons_append, packDigits_of_long atoi hlen hsize hlong List.getElem?_cons_zero, ok_bind]
    rfl
  · obtain ⟨packed, hrun, hlength, hnibbles⟩ := packDigits_packs hatoi (bcd.drop size) rest hlen
      hsize hfits digits [] (List.replicate size 0) (Nat.zero_add _) hdigits List.length_replicate
      (by
        rw [nibbles_replicate_zero, List.map_nil, List.append_nil, List.replicate_append_replicate,
          Nat.sub_add_cancel hfits])
    refine ⟨packed, ?_, hlength, fun _ => hnibbles, fun h => absurd h (by omega)⟩
    rw [List.nil_append, List.length_nil] at hrun
    rw [hrun, ok_bind]
    rfl

/-- The conversion of a single digit, zero for anything else. -/
def atoiDigit (c : Byte) : ℤ := if 0x30 ≤ c ∧ c ≤ 0x39 then digitValue c else 0

theorem atoiDigit_digit {c : Byte} (hle : 0x30 ≤ c) (hge : c ≤ 0x39) :
    atoiDigit c = digitValue c := if_pos ⟨hle, hge⟩

/-- Three digits fit into two bytes, five do not. -/
theorem stringToBcd_packs_two :
    (∃ packed : List Byte,
      stringToBcd atoiDigit (ascii ['1', '2', '3'] ++ 0 :: []) (some [0xEE, 0xEE, 0xEE]) 2 =
          .ok (some (packed ++ [0xEE])) ∧
        nibbles packed = [0, 1, 2, 3]) ∧
      stringToBcd atoiDigit (ascii ['1', '2', '3', '4', '5'] ++ 0 :: [])
          (some [0xEE, 0xEE, 0xEE]) 2 =
        .ok (some [0x00, 0x00, 0xEE]) := by
  have hlength : 2 ≤ [0xEE, 0xEE, (0xEE : Byte)].length := by decide
  constructor
  · obtain ⟨packed, hrun, -, hnibbles, -⟩ := stringToBcd_packs (fun _ => atoiDigit_digit)
      (show IsDecimal (ascii ['1', '2', '3']) by decide) [] (by decide) (by decide) hlength
    exact ⟨packed, hrun, hnibbles (by decide)⟩
  · obtain ⟨packed, hrun, -, -, hzero⟩ := stringToBcd_packs (fun _ => atoiDigit_digit)
      (show IsDecimal (ascii ['1', '2', '3', '4', '5']) by decide) [] (by decide) (by decide)
      hlength
    rw [hzero (by decide)] at hrun
    exact hrun

end Csae295
