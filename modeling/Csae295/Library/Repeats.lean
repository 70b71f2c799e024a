import Mathlib.Data.List.Destutter

/-! Sequences with consecutive repeats removed, as they grow at the end. -/

namespace Csae295.Library

variable {α : Type*} [DecidableEq α]

theorem destutter'_concat (a b : α) (l : List α) :
    (l ++ [b]).destutter' (· ≠ ·) a =
      if (l.destutter' (· ≠ ·) a).getLast? = some b then l.destutter' (· ≠ ·) a
      else l.destutter' (· ≠ ·) a ++ [b] := by
  induction l generalizing a with
  | nil => by_cases h : a = b <;> simp [h]
  | cons c l ih =>
      by_cases h : a = c
      · rw [List.cons_append, List.destutter'_cons_neg _ (not_not.mpr h),
          List.destutter'_cons_neg _ (not_not.mpr h), ih]
      · have hne : l.destutter' (· ≠ ·) c ≠ [] := List.destutter'_ne_nil _ _
        rw [List.cons_append, List.destutter'_cons_pos _ h, List.destutter'_cons_pos _ h, ih,
          List.getLast?_cons_of_ne_nil hne]
        split <;> rfl

/-- The last element is kept unless it repeats the last one that was kept. -/
theorem destutter_concat (b : α) (l : List α) :
    (l ++ [b]).destutter (· ≠ ·) =
      if (l.destutter (· ≠ ·)).getLast? = some b then l.destutter (· ≠ ·)
      else l.destutter (· ≠ ·) ++ [b] := by
  cases l with
  | nil => simp
  | cons a l => exact destutter'_concat a b l

end Csae295.Library
