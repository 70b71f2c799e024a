import Csae295.Verification.PrintSafety
import Csae295.Verification.StringToBytes

/-! `bytes_to_string` and `string_to_bytes` undo each other.

Each byte is written as a pair of digits, so that the text of an array is a sequence of pairs with
the array's bytes as their values. Writing the values of any sequence of pairs leaves its digits in
upper case. -/

namespace Csae295

open Library

/-- The upper case of a letter, and any other character itself. -/
def upper (c : Byte) : Byte := if 0x61 ≤ c ∧ c ≤ 0x7A then c - 0x20 else c

/-- Pairs of digits with optional white space before each and at the end. -/
def HexText (s bs : List Byte) : Prop :=
  ∃ pre ws, s = pre ++ ws ∧ Words HexPair pre bs ∧ ∀ x ∈ ws, isSpace x

/-- A text without white space and in upper case. -/
def normalized (s : List Byte) : List Byte := (s.filter fun c => !isSpace c).map upper

theorem normalized_append (s t : List Byte) : normalized (s ++ t) = normalized s ++ normalized t := by
  rw [normalized, List.filter_append, List.map_append, normalized, normalized]

theorem normalized_spaces {ws : List Byte} (h : ∀ x ∈ ws, isSpace x) : normalized ws = [] := by
  rw [normalized, List.map_eq_nil_iff, List.filter_eq_nil_iff]
  intro x hx
  simp [h x hx]

/-! ## Digits -/

/-- The digit in upper case. -/
def upperDigit (v : ℕ) : Byte := (ascii "0123456789ABCDEF".toList).getD v 0

theorem hexUpper_byte : ∀ b : Byte,
    hexUpper 2 b.toNat = [upperDigit (b.toNat / 16), upperDigit (b.toNat % 16)] := by
  decide +kernel

theorem hexDigit_upperDigit : ∀ v < 16, HexDigit (upperDigit v) v := by
  decide +kernel

theorem upper_of_hexDigit : ∀ c : Byte, ∀ v < 16, HexDigit c v → upper c = upperDigit v := by
  decide +kernel

theorem pair_toNat {v w : ℕ} (hv : v < 16) (hw : w < 16) :
    (BitVec.ofNat 8 (16 * v + w)).toNat = 16 * v + w := by
  rw [BitVec.toNat_ofNat]
  omega

/-! ## Bytes to text to bytes -/

/-- Every byte is written as a pair. -/
theorem hexPair_hexUpper (b : Byte) : HexPair (hexUpper 2 b.toNat) b := by
  have hb := b.isLt
  refine ⟨[], _, _, _, _, nofun, hexDigit_upperDigit (b.toNat / 16) (by omega),
    hexDigit_upperDigit (b.toNat % 16) (by omega), hexUpper_byte b, ?_⟩
  rw [Nat.div_add_mod, BitVec.ofNat_toNat, BitVec.setWidth_eq]

theorem words_hexOf (bytes : List Byte) : Words HexPair (hexOf bytes) bytes := by
  induction bytes with
  | nil => exact .nil
  | cons b bytes ih =>
      rw [hexOf, List.flatMap_cons]
      exact .cons (hexPair_hexUpper b) ih

/-! ## Text to bytes to text -/

theorem HexPair.normalized_eq {u : List Byte} {b : Byte} (h : HexPair u b) :
    normalized u = hexUpper 2 b.toNat := by
  obtain ⟨ws, c, d, v, w, hws, hc, hd, rfl, rfl⟩ := h
  have hv := hc.lt
  have hw := hd.lt
  have hdigits : normalized [c, d] = [upper c, upper d] := by
    simp [normalized, Bool.eq_false_iff.mpr hc.not_space,
      Bool.eq_false_iff.mpr hd.not_space]
  rw [normalized_append, normalized_spaces hws, List.nil_append, hdigits, hexUpper_byte,
    pair_toNat hv hw, upper_of_hexDigit c v hv hc, upper_of_hexDigit d w hw hd]
  have hhigh : (16 * v + w) / 16 = v := by omega
  have hlow : (16 * v + w) % 16 = w := by omega
  rw [hhigh, hlow]

theorem words_normalized {s bs : List Byte} (h : Words HexPair s bs) : normalized s = hexOf bs := by
  induction h with
  | nil => rfl
  | cons hu _ ih =>
      rw [normalized_append, hu.normalized_eq, ih]
      rfl

theorem HexPair.zero_notMem {u : List Byte} {b : Byte} (h : HexPair u b) : 0 ∉ u := by
  obtain ⟨ws, c, d, v, w, hws, hc, hd, rfl, rfl⟩ := h
  rw [List.mem_append]
  rintro (hmem | hmem)
  · exact absurd (hws 0 hmem) (by decide)
  · rcases List.mem_cons.mp hmem with hzero | hmem
    · exact hc.ne_zero hzero.symm
    · exact hd.ne_zero (List.mem_singleton.mp hmem).symm

theorem words_zero_notMem {s bs : List Byte} (h : Words HexPair s bs) : 0 ∉ s := by
  induction h with
  | nil => exact List.not_mem_nil
  | cons hu _ ih =>
      rw [List.mem_append]
      exact not_or.mpr ⟨hu.zero_notMem, ih⟩

section

variable {s bs : List Byte} (h : HexText s bs)

include h

theorem HexText.normalized_eq : normalized s = hexOf bs := by
  obtain ⟨pre, ws, rfl, hpre, hws⟩ := h
  rw [normalized_append, normalized_spaces hws, List.append_nil, words_normalized hpre]

theorem HexText.zero_notMem : 0 ∉ s := by
  obtain ⟨pre, ws, rfl, hpre, hws⟩ := h
  rw [List.mem_append]
  exact not_or.mpr ⟨words_zero_notMem hpre, fun hmem => absurd (hws 0 hmem) (by decide)⟩

theorem HexText.longest : ∃ pre, LongestWords HexPair s pre bs := by
  obtain ⟨pre, ws, rfl, hpre, hws⟩ := h
  refine ⟨pre, hpre.longest_append hexPair_prefixFree ?_⟩
  intro u b hu hprefix
  obtain ⟨c, d, v, w, rest, hc, _, hrest, _⟩ := hu.of_prefix hprefix
  have hnil : ws.dropWhile isSpace = [] := List.dropWhile_eq_nil_iff.mpr hws
  rw [hnil] at hrest
  cases hrest

end

/-! ## Both directions -/

/-- The text of an array is read back as the array, and the bytes of a text are written as the text
without its white space and in upper case. -/
theorem bytesToString_stringToBytes :
    (∀ (bytes rest out : List Byte) (size capacity : ℕ), 1 ≤ bytes.length → bytes.length ≤ size →
      size ≤ out.length → 2 * bytes.length < capacity →
      ∃ str, bytesToString capacity bytes bytes.length = .ok str ∧
        stringToBytes (some (str ++ 0 :: rest)) (some out) size =
          .ok (some (bytes ++ List.replicate (size - bytes.length) 0 ++ out.drop size),
            bytes.length)) ∧
    ∀ (s bs rest out : List Byte) (size capacity : ℕ), HexText s bs → 1 ≤ bs.length →
      bs.length ≤ size → size ≤ out.length → 2 * bs.length < capacity →
      ∃ bytes, stringToBytes (some (s ++ 0 :: rest)) (some out) size =
          .ok (some bytes, bs.length) ∧
        bytesToString capacity bytes bs.length = .ok (normalized s) := by
  refine ⟨?_, ?_⟩
  · intro bytes rest out size capacity hpos hsize hout hcapacity
    have htext : HexText (hexOf bytes) bytes :=
      ⟨hexOf bytes, [], (List.append_nil _).symm, words_hexOf bytes, nofun⟩
    obtain ⟨pre, hlongest⟩ := htext.longest
    refine ⟨hexOf bytes, ?_, ?_⟩
    · rw [bytesToString_of_fits le_rfl hcapacity, List.take_length]
    · rw [stringToBytes_of_longest rest htext.zero_notMem (by omega) hout hlongest,
        List.take_of_length_le hsize, Nat.min_eq_left hsize]
  · intro s bs rest out size capacity htext hpos hsize hout hcapacity
    obtain ⟨pre, hlongest⟩ := htext.longest
    refine ⟨bs ++ List.replicate (size - bs.length) 0 ++ out.drop size, ?_, ?_⟩
    · rw [stringToBytes_of_longest rest htext.zero_notMem (by omega) hout hlongest,
        List.take_of_length_le hsize, Nat.min_eq_left hsize]
    · rw [bytesToString_of_fits (by simp) hcapacity, List.append_assoc, List.take_left',
        htext.normalized_eq]
      rfl

theorem hexText_two : HexText (ascii " 4a7F ".toList) [0x4A, 0x7F] := by
  have hfirst : HexPair (ascii " 4a".toList) 0x4A :=
    ⟨[0x20], 0x34, 0x61, 4, 10, by decide, by decide +kernel, by decide +kernel, by decide +kernel,
      rfl⟩
  have hsecond : HexPair (ascii "7F".toList) 0x7F :=
    ⟨[], 0x37, 0x46, 7, 15, by decide, by decide +kernel, by decide +kernel, by decide +kernel, rfl⟩
  exact ⟨ascii " 4a7F".toList, [0x20], by decide +kernel, .cons hfirst (.cons hsecond .nil),
    by decide⟩

theorem bytesToString_stringToBytes_two :
    (∃ str, bytesToString 5 [0x4A, 0x7F] 2 = .ok str ∧
      stringToBytes (some (str ++ 0 :: [])) (some (List.replicate 4 0xEE)) 3 =
        .ok (some [0x4A, 0x7F, 0, 0xEE], 2)) ∧
    ∃ bytes, stringToBytes (some (ascii " 4a7F ".toList ++ 0 :: []))
        (some (List.replicate 4 0xEE)) 3 = .ok (some bytes, 2) ∧
      bytesToString 5 bytes 2 = .ok (ascii "4A7F".toList) := by
  have hnormalized : normalized (ascii " 4a7F ".toList) = ascii "4A7F".toList := by decide +kernel
  rw [← hnormalized]
  exact ⟨bytesToString_stringToBytes.1 [0x4A, 0x7F] [] (List.replicate 4 0xEE) 3 5 (by decide)
      (by decide) (by decide) (by decide),
    bytesToString_stringToBytes.2 _ [0x4A, 0x7F] [] (List.replicate 4 0xEE) 3 5 hexText_two
      (by decide) (by decide) (by decide) (by decide)⟩

end Csae295
