import Csae295.Library.Words
import Csae295.Model.Converter
import Mathlib.Data.List.TakeWhile

/-! What `string_to_bytes` makes of a terminated string.

The scanner takes a pair of digits whenever the rest of the string begins with one. No pair is
a proper prefix of another one, so what it takes is the longest sequence of pairs. -/

namespace Csae295

open Library

/-! ## Pairs of hexadecimal digits -/

/-- A hexadecimal digit in either case, and its value. -/
def HexDigit (c : Byte) (v : ℕ) : Prop :=
  (ascii "0123456789abcdef".toList)[v]? = some c ∨ (ascii "0123456789ABCDEF".toList)[v]? = some c

instance (c : Byte) (v : ℕ) : Decidable (HexDigit c v) := inferInstanceAs (Decidable (_ ∨ _))

/-- White space and two digits, with the value of the digits. -/
def HexPair (u : List Byte) (b : Byte) : Prop :=
  ∃ ws c d v w, (∀ x ∈ ws, isSpace x) ∧ HexDigit c v ∧ HexDigit d w ∧
    u = ws ++ [c, d] ∧ b = BitVec.ofNat 8 (16 * v + w)

theorem hexDigit_iff : ∀ c : Byte, ∀ v < 16, HexDigit c v ↔ hexCharToVal c = v := by
  decide +kernel

theorem hexCharToVal_lt : ∀ c : Byte, hexCharToVal c < 16 := by
  decide +kernel

theorem hexCharToVal_zero : hexCharToVal 0 < 0 := by decide

theorem isSpace_hexCharToVal : ∀ c : Byte, isSpace c → hexCharToVal c < 0 := by
  decide +kernel

namespace HexDigit

variable {c : Byte} {v w : ℕ}

theorem lt (h : HexDigit c v) : v < 16 := by
  rcases h with h | h
  · exact (List.getElem?_eq_some_iff.mp h).1
  · exact (List.getElem?_eq_some_iff.mp h).1

theorem value (h : HexDigit c v) : hexCharToVal c = v := (hexDigit_iff c v h.lt).mp h

theorem unique (h : HexDigit c v) (h' : HexDigit c w) : v = w := by
  have hvalue := h.value.symm.trans h'.value
  omega

theorem not_neg (h : HexDigit c v) : ¬ hexCharToVal c < 0 := by
  rw [h.value]
  omega

theorem not_space (h : HexDigit c v) : ¬ isSpace c := fun hspace =>
  h.not_neg (isSpace_hexCharToVal c hspace)

theorem ne_zero (h : HexDigit c v) : c ≠ 0 := by
  rintro rfl
  exact h.not_neg hexCharToVal_zero

theorem of_nonneg (h : ¬ hexCharToVal c < 0) : ∃ v, HexDigit c v := by
  have hlt := hexCharToVal_lt c
  obtain ⟨v, hv⟩ := Int.eq_ofNat_of_zero_le (Int.not_lt.mp h)
  exact ⟨v, (hexDigit_iff c v (by omega)).mpr hv⟩

end HexDigit

/-- A pair in front of a text starts behind the white space there. -/
theorem HexPair.of_prefix {u s : List Byte} {b : Byte} (h : HexPair u b) (hu : u <+: s) :
    ∃ c d v w rest, HexDigit c v ∧ HexDigit d w ∧ s.dropWhile isSpace = c :: d :: rest ∧
      u = s.takeWhile isSpace ++ [c, d] ∧ b = BitVec.ofNat 8 (16 * v + w) := by
  obtain ⟨ws, c, d, v, w, hws, hc, hd, rfl, rfl⟩ := h
  obtain ⟨rest, rfl⟩ := hu
  have hstop : isSpace c = false := Bool.eq_false_iff.mpr hc.not_space
  refine ⟨c, d, v, w, rest, hc, hd, ?_, ?_, rfl⟩
  · rw [List.append_assoc, List.dropWhile_append_of_pos hws]
    simp [hstop]
  · rw [List.append_assoc, List.takeWhile_append_of_pos hws]
    simp [hstop]

theorem hexPair_of_dropWhile {s rest : List Byte} {c d : Byte} {v w : ℕ} (hc : HexDigit c v)
    (hd : HexDigit d w) (h : s.dropWhile isSpace = c :: d :: rest) :
    HexPair (s.takeWhile isSpace ++ [c, d]) (BitVec.ofNat 8 (16 * v + w)) ∧
      s = s.takeWhile isSpace ++ [c, d] ++ rest := by
  refine ⟨⟨_, c, d, v, w, fun x hx => List.mem_takeWhile_imp hx, hc, hd, rfl, rfl⟩, ?_⟩
  rw [List.append_assoc, List.cons_append, List.cons_append, List.nil_append, ← h,
    List.takeWhile_append_dropWhile]

theorem HexPair.unique {u v s : List Byte} {x y : Byte} (hu : HexPair u x) (hv : HexPair v y)
    (hus : u <+: s) (hvs : v <+: s) : u = v ∧ x = y := by
  obtain ⟨c, d, n, m, _, hc, hd, hrest, rfl, rfl⟩ := hu.of_prefix hus
  obtain ⟨c', d', n', m', _, hc', hd', hrest', rfl, rfl⟩ := hv.of_prefix hvs
  rw [hrest] at hrest'
  obtain ⟨rfl, htail⟩ := List.cons.inj hrest'
  obtain ⟨rfl, -⟩ := List.cons.inj htail
  rw [hc.unique hc', hd.unique hd']
  exact ⟨rfl, rfl⟩

theorem hexPair_prefixFree : PrefixFree HexPair := by
  refine ⟨?_, ?_, ?_⟩
  · rintro b ⟨ws, c, d, v, w, -, -, -, hnil, -⟩
    simp at hnil
  · intro u v x y hu hv huv
    exact (hu.unique hv huv List.prefix_rfl).1
  · intro u x y hx hy
    exact (hx.unique hy List.prefix_rfl List.prefix_rfl).2

/-! ## One pair -/

theorem skipSpaces_append {s : List Byte} (rest : List Byte) (hs : 0 ∉ s) :
    skipSpaces (s ++ 0 :: rest) = .ok (s.dropWhile isSpace ++ 0 :: rest) := by
  induction s with
  | nil => simp [skipSpaces]
  | cons c s ih =>
      obtain ⟨hc, hs⟩ := List.ne_and_not_mem_of_not_mem_cons hs
      rw [List.cons_append, skipSpaces]
      by_cases hspace : isSpace c
      · rw [if_pos ⟨hc.symm, hspace⟩, ih hs, List.dropWhile_cons_of_pos hspace]
      · rw [if_neg (fun h => hspace h.2), List.dropWhile_cons_of_neg hspace, List.cons_append]

/-- The byte that is put together from two digits. -/
def pairByte (first second : Byte) : Byte :=
  (BitVec.ofInt 32 (hexCharToVal first) <<< 4 ||| BitVec.ofInt 32 (hexCharToVal second)).setWidth 8

theorem pairByte_digits {first second : Byte} {v w : ℕ} (hfirst : HexDigit first v)
    (hsecond : HexDigit second w) : pairByte first second = BitVec.ofNat 8 (16 * v + w) := by
  have hvalues : ∀ v < 16, ∀ w < 16,
      ((BitVec.ofInt 32 (v : ℕ) <<< 4 ||| BitVec.ofInt 32 (w : ℕ)).setWidth 8 : Byte) =
        BitVec.ofNat 8 (16 * v + w) := by
    decide +kernel
  rw [pairByte, hfirst.value, hsecond.value]
  exact hvalues v hfirst.lt w hsecond.lt

section

variable {size count : ℕ} {p q out : List Byte} {first second : Byte}

/-- What the scanner does behind the white space. The terminator is no digit, so that it need not
be told from the other characters that end the scan. -/
theorem scanPairs_of_skip (h : skipSpaces p = .ok (first :: q)) :
    scanPairs size p out count =
      if hexCharToVal first < 0 then .ok (out, count)
      else
        match q with
        | [] => .error .read
        | second :: rest =>
          if hexCharToVal second < 0 then .ok (out, count)
          else if count < size then
            (setByte out count (pairByte first second)).bind fun out =>
              scanPairs size rest out (count + 1)
          else .ok (out, count) := by
  cases p with
  | nil => cases h
  | cons c p =>
      rw [scanPairs]
      by_cases hc : c = 0
      · subst hc
        cases h
        rw [if_pos rfl, if_pos hexCharToVal_zero]
      · rw [if_neg hc]
        split
        · next h' => rw [h] at h'; cases h'
        · next h' => rw [h] at h'; cases h'
        · next h' =>
            cases h.symm.trans h'
            by_cases hfirst : hexCharToVal first < 0
            · rw [if_pos hfirst, if_pos hfirst, ite_self]
            · have hne : first ≠ 0 := fun hzero => hfirst (hzero ▸ hexCharToVal_zero)
              simp only [if_neg hfirst, if_neg hne]
              cases q with
              | nil => rfl
              | cons second q =>
                  by_cases hsecond : hexCharToVal second < 0
                  · simp only [if_pos hsecond, ite_self]
                  · have hne : second ≠ 0 := fun hzero => hsecond (hzero ▸ hexCharToVal_zero)
                    simp only [if_neg hsecond, if_neg hne]
                    split
                    · unfold pairByte
                      cases setByte out count _ with
                      | error e => rfl
                      | ok out => rfl
                    · rfl

end

/-- Where no pair starts, the scanner stops. -/
theorem scanPairs_none (size : ℕ) {s : List Byte} (rest : List Byte) (hs : 0 ∉ s)
    (h : ∀ u b, HexPair u b → ¬ u <+: s) (out : List Byte) (count : ℕ) :
    scanPairs size (s ++ 0 :: rest) out count = .ok (out, count) := by
  have hskip := skipSpaces_append rest hs
  cases hrest : s.dropWhile isSpace with
  | nil =>
      rw [hrest] at hskip
      exact (scanPairs_of_skip hskip).trans (if_pos hexCharToVal_zero)
  | cons first q =>
      rw [hrest] at hskip
      rw [scanPairs_of_skip hskip]
      by_cases hfirst : hexCharToVal first < 0
      · exact if_pos hfirst
      · rw [if_neg hfirst]
        cases q with
        | nil => exact if_pos hexCharToVal_zero
        | cons second q =>
            by_cases hsecond : hexCharToVal second < 0
            · exact if_pos hsecond
            · obtain ⟨v, hv⟩ := HexDigit.of_nonneg hfirst
              obtain ⟨w, hw⟩ := HexDigit.of_nonneg hsecond
              obtain ⟨hpair, hsplit⟩ := hexPair_of_dropWhile hv hw hrest
              exact absurd ⟨q, hsplit.symm⟩ (h _ _ hpair)

/-- Where a pair starts, the scanner takes it as long as there is room for its value. -/
theorem scanPairs_cons (size : ℕ) {u s : List Byte} (rest : List Byte) {b : Byte}
    (hs : 0 ∉ u ++ s) (h : HexPair u b) (out : List Byte) (count : ℕ) :
    scanPairs size (u ++ s ++ 0 :: rest) out count =
      if count < size then
        (setByte out count b).bind fun out => scanPairs size (s ++ 0 :: rest) out (count + 1)
      else .ok (out, count) := by
  obtain ⟨c, d, v, w, q, hc, hd, hrest, hu, rfl⟩ := h.of_prefix (List.prefix_append u s)
  have hskip := skipSpaces_append rest hs
  rw [hrest] at hskip
  have hq : q = s := by
    have hsplit := (hexPair_of_dropWhile hc hd hrest).2
    rw [← hu] at hsplit
    exact (List.append_cancel_left hsplit).symm
  subst hq
  rw [← pairByte_digits hc hd]
  exact (scanPairs_of_skip hskip).trans ((if_neg hc.not_neg).trans (if_neg hd.not_neg))

/-! ## All pairs -/

theorem setByte_append (done post : List Byte) (old byte : Byte) :
    setByte (done ++ old :: post) done.length byte = .ok (done ++ byte :: post) := by
  rw [setByte, if_pos (by simp), List.set_append_right _ _ le_rfl, Nat.sub_self, List.set_cons_zero]

/-- The bytes from position `done.length` on are the values of the longest sequence of pairs, as
far as there is room, and then what `memset` left. -/
theorem scanPairs_longest (size : ℕ) (s rest : List Byte) (hs : 0 ∉ s) :
    ∃ pre bs, LongestWords HexPair s pre bs ∧ ∀ done behind : List Byte, done.length ≤ size →
      scanPairs size (s ++ 0 :: rest)
          (done ++ List.replicate (size - done.length) 0 ++ behind) done.length =
        .ok (done ++ bs.take (size - done.length) ++
            List.replicate (size - done.length - bs.length) 0 ++ behind,
          min (done.length + bs.length) size) := by
  induction hlength : s.length using Nat.strong_induction_on generalizing s with
  | _ n ih =>
      by_cases hpair : ∃ u b, HexPair u b ∧ u <+: s
      · obtain ⟨u, b, hu, s, rfl⟩ := hpair
        have hshort : s.length < n := by
          have hpos := List.length_pos_of_ne_nil fun hnil => hexPair_prefixFree.ne_nil b (hnil ▸ hu)
          rw [← hlength, List.length_append]
          omega
        obtain ⟨pre, bs, hlongest, hscan⟩ :=
          ih _ hshort s (fun hmem => hs (List.mem_append_right u hmem)) rfl
        refine ⟨u ++ pre, b :: bs, hlongest.cons hexPair_prefixFree hu, ?_⟩
        intro done behind hdone
        rw [scanPairs_cons size rest hs hu]
        split
        · next hlt =>
            have hroom : size - done.length = size - (done ++ [b]).length + 1 := by
              rw [List.length_append, List.length_singleton]
              omega
            have hnext := hscan (done ++ [b]) behind (by
              rw [List.length_append, List.length_singleton]
              omega)
            rw [hroom, List.replicate_succ, List.append_assoc, List.cons_append, setByte_append]
            rw [List.take_succ_cons, List.length_cons, Nat.add_sub_add_right]
            rw [List.length_append, List.length_singleton] at hnext ⊢
            simp only [List.append_assoc, List.cons_append, List.nil_append] at hnext ⊢
            rw [Nat.add_comm bs.length 1, ← Nat.add_assoc]
            exact hnext
        · next hfull =>
            have hnone : size - done.length = 0 := by omega
            have hmin : min (done.length + (b :: bs).length) size = done.length := by
              rw [List.length_cons]
              omega
            rw [hnone, hmin]
            simp
      · refine ⟨[], [], .nil fun u b hu hprefix => hpair ⟨u, b, hu, hprefix⟩, ?_⟩
        intro done behind hdone
        rw [scanPairs_none size rest hs fun u b hu hprefix => hpair ⟨u, b, hu, hprefix⟩]
        simp [hdone]

section

variable {s : List Byte} (rest : List Byte) (hs : 0 ∉ s) {out : List Byte} {size : ℕ}
  (hsize : 0 < size) (hout : size ≤ out.length)

include hs hsize hout

theorem stringToBytes_of_longest {pre bs : List Byte} (h : LongestWords HexPair s pre bs) :
    stringToBytes (some (s ++ 0 :: rest)) (some out) size =
      .ok (some (bs.take size ++ List.replicate (size - bs.length) 0 ++ out.drop size),
        min bs.length size) := by
  obtain ⟨pre', bs', hlongest, hscan⟩ := scanPairs_longest size s rest hs
  obtain ⟨-, rfl⟩ := h.unique hexPair_prefixFree hlongest
  have hrun := hscan [] (out.drop size) (Nat.zero_le size)
  simp only [List.nil_append, List.length_nil, Nat.sub_zero, Nat.zero_add] at hrun
  rw [stringToBytes, if_neg (Nat.pos_iff_ne_zero.mp hsize), clear, if_pos hout]
  dsimp only
  rw [hrun]
  rfl

/-- In a terminated string the longest sequence of pairs is decoded, as far as the buffer has room
for it, whatever stands behind the terminator. The rest of the buffer is zero, and nothing behind
it is touched. -/
theorem stringToBytes_longest : ∃ pre bs, LongestWords HexPair s pre bs ∧
    (∀ pre' bs', LongestWords HexPair s pre' bs' → pre' = pre ∧ bs' = bs) ∧
    stringToBytes (some (s ++ 0 :: rest)) (some out) size =
      .ok (some (bs.take size ++ List.replicate (size - bs.length) 0 ++ out.drop size),
        min bs.length size) := by
  obtain ⟨pre, bs, h, -⟩ := scanPairs_longest size s rest hs
  exact ⟨pre, bs, h, fun _ _ h' => h'.unique hexPair_prefixFree h,
    stringToBytes_of_longest rest hs hsize hout h⟩

end

/-- Two pairs in front of a single digit. -/
theorem longest_two : LongestWords HexPair (ascii "4a 7F 1".toList) (ascii "4a 7F".toList)
    [0x4A, 0x7F] := by
  have hfirst : HexPair (ascii "4a".toList) 0x4A :=
    ⟨[], 0x34, 0x61, 4, 10, by decide, by decide +kernel, by decide +kernel, by decide +kernel, rfl⟩
  have hsecond : HexPair (ascii " 7F".toList) 0x7F :=
    ⟨[0x20], 0x37, 0x46, 7, 15, by decide, by decide +kernel, by decide +kernel, by decide +kernel,
      rfl⟩
  have hwords : Words HexPair (ascii "4a 7F".toList) [0x4A, 0x7F] := .cons hfirst (.cons hsecond .nil)
  have hnone : ∀ u b, HexPair u b → ¬ u <+: ascii " 1".toList := by
    intro u b hu hprefix
    obtain ⟨c, d, _, _, _, _, _, hrest, _⟩ := hu.of_prefix hprefix
    have hsingle : (ascii " 1".toList).dropWhile isSpace = [0x31] := by decide +kernel
    rw [hsingle] at hrest
    cases hrest
  exact hwords.longest_append hexPair_prefixFree hnone

theorem stringToBytes_longest_two :
    stringToBytes (some (ascii "4a 7F 1".toList ++ 0 :: [])) (some (List.replicate 5 0xEE)) 4 =
      .ok (some [0x4A, 0x7F, 0, 0, 0xEE], 2) := by
  obtain ⟨pre, bs, -, hunique, hrun⟩ := stringToBytes_longest (s := ascii "4a 7F 1".toList) []
    (by decide +kernel) (show 0 < 4 by decide)
    (show 4 ≤ (List.replicate 5 (0xEE : Byte)).length by decide)
  obtain ⟨-, rfl⟩ := hunique _ _ longest_two
  exact hrun

end Csae295
