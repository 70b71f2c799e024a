import Mathlib.Data.List.Basic

/-! Texts made of words that carry a value, and what reading them from the left finds.

When no word is a proper prefix of another, taking the word that a text begins with is never
a mistake: the longest prefix that is a sequence of words begins with it as well. -/

namespace Csae295.Library

variable {α β : Type*}

/-- Words are not empty, none is a proper prefix of another one, and each has one value. -/
structure PrefixFree (word : List α → β → Prop) : Prop where
  ne_nil : ∀ x, ¬ word [] x
  eq_of_prefix : ∀ {u v x y}, word u x → word v y → u <+: v → u = v
  value_unique : ∀ {u x y}, word u x → word u y → x = y

theorem PrefixFree.unique {word : List α → β → Prop} (h : PrefixFree word) {s u v : List α}
    {x y : β} (hu : word u x) (hv : word v y) (hus : u <+: s) (hvs : v <+: s) :
    u = v ∧ x = y := by
  have heq : u = v := by
    rcases List.prefix_or_prefix_of_prefix hus hvs with huv | hvu
    · exact h.eq_of_prefix hu hv huv
    · exact (h.eq_of_prefix hv hu hvu).symm
  subst heq
  exact ⟨rfl, h.value_unique hu hv⟩

/-- Words that announce their length at a place before which none of them ends are prefix-free. -/
theorem PrefixFree.of_length {word : List α → β → Prop} {n : ℕ} (size : List α → ℕ) (hn : 0 < n)
    (hlength : ∀ {u x}, word u x → n ≤ u.length ∧ u.length = size (u.take n))
    (hvalue : ∀ {u x y}, word u x → word u y → x = y) : PrefixFree word := by
  refine ⟨?_, ?_, hvalue⟩
  · intro x hx
    exact absurd (hlength hx).1 (Nat.not_le_of_lt hn)
  · intro u v x y hu hv hpre
    obtain ⟨hle, hsize⟩ := hlength hu
    obtain ⟨-, hsize'⟩ := hlength hv
    obtain ⟨rest, rfl⟩ := hpre
    rw [List.take_append_of_le_length hle, ← hsize] at hsize'
    have hnil : rest = [] := by
      apply List.eq_nil_of_length_eq_zero
      rw [List.length_append] at hsize'
      omega
    rw [hnil, List.append_nil]

/-- A text that is a sequence of words, with their values in order. -/
inductive Words (word : List α → β → Prop) : List α → List β → Prop where
  | nil : Words word [] []
  | cons {u s : List α} {x : β} {xs : List β} : word u x → Words word s xs →
      Words word (u ++ s) (x :: xs)

/-- A prefix of a text is a sequence of words, and no longer prefix is one. -/
structure LongestWords (word : List α → β → Prop) (s pre : List α) (xs : List β) : Prop where
  isPrefix : pre <+: s
  words : Words word pre xs
  longest : ∀ pre' xs', pre' <+: s → Words word pre' xs' → pre'.length ≤ pre.length

section

variable {word : List α → β → Prop}

/-- A text that no word begins has only the empty sequence in front. -/
theorem LongestWords.nil {s : List α} (h : ∀ u x, word u x → ¬ u <+: s) :
    LongestWords word s [] [] := by
  refine ⟨List.nil_prefix, .nil, ?_⟩
  intro pre' xs' hpre hwords
  cases hwords with
  | nil => exact Nat.le_refl _
  | cons hu _ => exact absurd ((List.prefix_append _ _).trans hpre) (h _ _ hu)

variable (hfree : PrefixFree word)

include hfree

/-- The word a text begins with is the first one of the longest sequence. -/
theorem LongestWords.cons {s u pre : List α} {x : β} {xs : List β} (hu : word u x)
    (h : LongestWords word s pre xs) : LongestWords word (u ++ s) (u ++ pre) (x :: xs) := by
  refine ⟨(List.prefix_append_right_inj u).mpr h.isPrefix, .cons hu h.words, ?_⟩
  intro pre' xs' hpre hwords
  cases hwords with
  | nil => exact Nat.zero_le _
  | cons hv hrest =>
      obtain ⟨rfl, -⟩ := hfree.unique hv hu ((List.prefix_append _ _).trans hpre)
        (List.prefix_append u s)
      have hle := h.longest _ _ ((List.prefix_append_right_inj _).mp hpre) hrest
      simp only [List.length_append]
      omega

/-- The values are determined by the text. -/
theorem Words.value_unique {s : List α} {xs ys : List β} (h : Words word s xs) (h' : Words word s ys) : xs = ys := by
  induction h generalizing ys with
  | nil =>
      generalize hs : ([] : List α) = s at h'
      cases h' with
      | nil => rfl
      | cons hv _ =>
          obtain ⟨rfl, -⟩ := List.append_eq_nil_iff.mp hs.symm
          exact absurd hv (hfree.ne_nil _)
  | @cons u s x xs hu _ ih =>
      generalize ht : u ++ s = t at h'
      cases h' with
      | nil =>
          obtain ⟨rfl, -⟩ := List.append_eq_nil_iff.mp ht
          exact absurd hu (hfree.ne_nil _)
      | cons hv hrest =>
          obtain ⟨rfl, rfl⟩ := hfree.unique hu hv (List.prefix_append u s)
            (ht ▸ List.prefix_append _ _)
          rw [List.append_cancel_left ht] at ih
          rw [ih hrest]

/-- So are the values of a text that a longer one begins with. -/
theorem Words.values_mono {s t : List α} {xs ys : List β} (h : Words word s xs)
    (h' : Words word t ys) (hpre : s <+: t) : xs <+: ys := by
  induction h generalizing t ys with
  | nil => exact List.nil_prefix
  | @cons u s x xs hu _ ih =>
      cases h' with
      | nil =>
          obtain ⟨rfl, -⟩ := List.append_eq_nil_iff.mp (List.prefix_nil.mp hpre)
          exact absurd hu (hfree.ne_nil _)
      | @cons v t y ys hv hrest =>
          obtain ⟨rfl, rfl⟩ := hfree.unique hu hv ((List.prefix_append u s).trans hpre)
            (List.prefix_append v t)
          rw [List.prefix_cons_inj]
          exact ih hrest ((List.prefix_append_right_inj u).mp hpre)

theorem LongestWords.unique {s pre pre' : List α} {xs ys : List β}
    (h : LongestWords word s pre xs) (h' : LongestWords word s pre' ys) :
    pre = pre' ∧ xs = ys := by
  have hlength : pre.length = pre'.length :=
    Nat.le_antisymm (h'.longest _ _ h.isPrefix h.words) (h.longest _ _ h'.isPrefix h'.words)
  have hpre : pre = pre' := by
    rw [List.prefix_iff_eq_take.mp h.isPrefix, List.prefix_iff_eq_take.mp h'.isPrefix, hlength]
  subst hpre
  exact ⟨rfl, h.words.value_unique hfree h'.words⟩

/-- A sequence of words is the longest one in front of a text that no word begins. -/
theorem Words.longest_append {pre post : List α} {xs : List β} (h : Words word pre xs)
    (hpost : ∀ u x, word u x → ¬ u <+: post) : LongestWords word (pre ++ post) pre xs := by
  induction h with
  | nil => exact .nil hpost
  | cons hu _ ih =>
      rw [List.append_assoc]
      exact .cons hfree hu ih

end

end Csae295.Library
