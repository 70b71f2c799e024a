import Csae295.Library.Word

/-! The two halves of each byte, as numbers below 16. -/

namespace Csae295.Library

/-- The halves of the bytes in order, the high half of each first. -/
def nibbles (bs : List Byte) : List ℕ := bs.flatMap fun b => [b.toNat / 16, b.toNat % 16]

@[simp] theorem nibbles_nil : nibbles [] = [] := rfl

@[simp] theorem nibbles_cons (b : Byte) (bs : List Byte) :
    nibbles (b :: bs) = b.toNat / 16 :: b.toNat % 16 :: nibbles bs := rfl

@[simp] theorem nibbles_length (bs : List Byte) : (nibbles bs).length = 2 * bs.length := by
  induction bs with
  | nil => rfl
  | cons b bs ih =>
      simp only [nibbles_cons, List.length_cons, ih]
      omega

theorem nibbles_injective {bs bs' : List Byte} (h : nibbles bs = nibbles bs') : bs = bs' := by
  induction bs generalizing bs' with
  | nil =>
      cases bs' with
      | nil => rfl
      | cons => cases h
  | cons b bs ih =>
      cases bs' with
      | nil => cases h
      | cons b' bs' =>
          simp only [nibbles_cons, List.cons.injEq] at h
          obtain ⟨hhigh, hlow, hrest⟩ := h
          have hbyte : b = b' := by
            apply BitVec.eq_of_toNat_eq
            omega
          rw [hbyte, ih hrest]

theorem nibbles_replicate_zero (n : ℕ) :
    nibbles (List.replicate n 0) = List.replicate (2 * n) 0 := by
  induction n with
  | zero => rfl
  | succ n ih =>
      rw [List.replicate_succ, nibbles_cons, ih, Nat.mul_succ, List.replicate_succ,
        List.replicate_succ]
      rfl

theorem or_high_nibble : ∀ b : Byte, b.toNat / 16 = 0 → ∀ v < 16,
    (b ||| BitVec.ofNat 8 v <<< 4).toNat / 16 = v ∧
      (b ||| BitVec.ofNat 8 v <<< 4).toNat % 16 = b.toNat % 16 := by
  decide +kernel

theorem or_low_nibble : ∀ b : Byte, b.toNat % 16 = 0 → ∀ v < 16,
    (b ||| BitVec.ofNat 8 v).toNat / 16 = b.toNat / 16 ∧
      (b ||| BitVec.ofNat 8 v).toNat % 16 = v := by
  decide +kernel

/-- A number that is put into an empty half of a byte changes only this half. -/
theorem nibbles_or {bs : List Byte} {old : Byte} {k v : ℕ} (hv : v < 16)
    (hold : bs[k / 2]? = some old) (hzero : (nibbles bs)[k]? = some 0) :
    nibbles (bs.set (k / 2) (old ||| BitVec.ofNat 8 v <<< (4 * ((k + 1) % 2)))) =
      (nibbles bs).set k v := by
  induction bs generalizing k with
  | nil => cases hzero
  | cons b bs ih =>
      match k with
      | 0 =>
          cases hold
          obtain ⟨hhigh, hlow⟩ := or_high_nibble old (Option.some.inj hzero) v hv
          change nibbles ((old ||| BitVec.ofNat 8 v <<< 4) :: bs) = v :: old.toNat % 16 :: nibbles bs
          rw [nibbles_cons, hhigh, hlow]
      | 1 =>
          cases hold
          obtain ⟨hhigh, hlow⟩ := or_low_nibble old (Option.some.inj hzero) v hv
          change nibbles ((old ||| BitVec.ofNat 8 v <<< 0) :: bs) = old.toNat / 16 :: v :: nibbles bs
          rw [BitVec.shiftLeft_zero, nibbles_cons, hhigh, hlow]
      | k + 2 =>
          have hhalf : (k + 2) / 2 = k / 2 + 1 := by omega
          have hparity : (k + 2 + 1) % 2 = (k + 1) % 2 := by omega
          rw [hhalf, List.getElem?_cons_succ] at hold
          rw [hhalf, hparity, List.set_cons_succ, nibbles_cons, ih hold hzero]
          rfl

theorem nibbles_or_at {bs : List Byte} {pre post : List ℕ} {v : ℕ} (hv : v < 16)
    (h : nibbles bs = pre ++ 0 :: post) :
    ∃ old, bs[pre.length / 2]? = some old ∧
      nibbles (bs.set (pre.length / 2)
        (old ||| BitVec.ofNat 8 v <<< (4 * ((pre.length + 1) % 2)))) = pre ++ v :: post := by
  have hlength := congrArg List.length h
  rw [nibbles_length, List.length_append, List.length_cons] at hlength
  have hlt : pre.length / 2 < bs.length := by omega
  have hzero : (nibbles bs)[pre.length]? = some 0 := by
    rw [h, List.getElem?_append_right le_rfl, Nat.sub_self, List.getElem?_cons_zero]
  refine ⟨bs[pre.length / 2], List.getElem?_eq_getElem hlt, ?_⟩
  rw [nibbles_or hv (List.getElem?_eq_getElem hlt) hzero, h, List.set_append_right _ _ le_rfl,
    Nat.sub_self, List.set_cons_zero]

end Csae295.Library
