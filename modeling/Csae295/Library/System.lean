import Mathlib.Order.Basic

/-! Systems that take labelled steps: their runs and the invariant rule. -/

namespace Csae295.Library

/-- The initial states, and a step function that is `none` where a label is not enabled. -/
structure System (σ α : Type*) where
  Init : σ → Prop
  step : σ → α → Option σ

namespace System

variable {σ α : Type*} (sys : System σ α)

/-- The states of the runs whose steps all meet a condition on the state before the step and
on its label. -/
inductive Reaches (allowed : σ → α → Prop) : σ → Prop where
  | init {s : σ} (h : sys.Init s) : Reaches allowed s
  | step {s s' : σ} {a : α} (h : Reaches allowed s) (hallowed : allowed s a)
      (hstep : sys.step s a = some s') : Reaches allowed s'

/-- The states of all runs. -/
def Reachable : σ → Prop := sys.Reaches fun _ _ => True

/-- Take the given steps one after another. -/
def run : σ → List α → Option σ
  | s, [] => some s
  | s, a :: as => (sys.step s a).bind fun s' => run s' as

/-- The given steps meet the condition, as far as they can be taken. -/
def Along (allowed : σ → α → Prop) : σ → List α → Prop
  | _, [] => True
  | s, a :: as => allowed s a ∧ (sys.step s a).elim True fun s' => Along allowed s' as

instance decidableAlong {allowed : σ → α → Prop} [∀ s a, Decidable (allowed s a)] :
    (s : σ) → (as : List α) → Decidable (sys.Along allowed s as)
  | _, [] => inferInstanceAs (Decidable True)
  | s, a :: as =>
    match h : sys.step s a with
    | none => decidable_of_iff (allowed s a) (by simp [Along, h])
    | some s' =>
      have : Decidable (sys.Along allowed s' as) := decidableAlong s' as
      decidable_of_iff (allowed s a ∧ sys.Along allowed s' as) (by simp [Along, h])

/-- Every state the given steps lead through has the property. -/
def Throughout (Good : σ → Prop) : σ → List α → Prop
  | s, [] => Good s
  | s, a :: as => Good s ∧ (sys.step s a).elim True fun s' => Throughout Good s' as

variable {sys} {allowed : σ → α → Prop}

/-- What holds initially and is kept by every allowed step holds in every state of a run. -/
theorem Reaches.invariant {Inv : σ → Prop} (hinit : ∀ s, sys.Init s → Inv s)
    (hstep : ∀ s a s', Inv s → allowed s a → sys.step s a = some s' → Inv s') {s : σ}
    (h : sys.Reaches allowed s) : Inv s := by
  induction h with
  | init h => exact hinit _ h
  | step _ hallowed hnext ih => exact hstep _ _ _ ih hallowed hnext

theorem Reaches.reachable {s : σ} (h : sys.Reaches allowed s) : sys.Reachable s := by
  induction h with
  | init h => exact .init h
  | step _ _ hnext ih => exact .step ih trivial hnext

theorem Reaches.run {s s' : σ} (h : sys.Reaches allowed s) (as : List α)
    (halong : sys.Along allowed s as) (hrun : sys.run s as = some s') :
    sys.Reaches allowed s' := by
  induction as generalizing s with
  | nil =>
      cases hrun
      exact h
  | cons a as ih =>
      obtain ⟨next, hnext, hrest⟩ := Option.bind_eq_some_iff.mp hrun
      obtain ⟨hallowed, halong⟩ := halong
      rw [hnext] at halong
      exact ih (h.step hallowed hnext) halong hrest

/-- What allowed steps keep holds behind a run of them. -/
theorem invariant_run {Inv : σ → Prop}
    (hstep : ∀ s a s', Inv s → allowed s a → sys.step s a = some s' → Inv s') {s s' : σ} (h : Inv s)
    {as : List α} (halong : sys.Along allowed s as) (hrun : sys.run s as = some s') : Inv s' := by
  induction as generalizing s with
  | nil =>
      cases hrun
      exact h
  | cons a as ih =>
      obtain ⟨next, hnext, hrest⟩ := Option.bind_eq_some_iff.mp hrun
      obtain ⟨hallowed, halong⟩ := halong
      rw [hnext] at halong
      exact ih (hstep s a next h hallowed hnext) halong hrest

/-- Steps that are allowed in every state are allowed along a run. -/
theorem along_of_forall {as : List α} (h : ∀ a ∈ as, ∀ s, allowed s a) (s : σ) :
    sys.Along allowed s as := by
  induction as generalizing s with
  | nil => trivial
  | cons a as ih =>
      refine ⟨h a List.mem_cons_self s, ?_⟩
      cases sys.step s a with
      | none => trivial
      | some s' => exact ih (fun b hb => h b (List.mem_cons_of_mem a hb)) s'

@[simp] theorem along_singleton {s : σ} {a : α} : sys.Along allowed s [a] ↔ allowed s a := by
  cases h : sys.step s a <;> simp [Along, h]

theorem Reachable.run {s s' : σ} (h : sys.Reachable s) (as : List α)
    (hrun : sys.run s as = some s') : sys.Reachable s' :=
  Reaches.run h as (along_of_forall (fun _ _ _ => trivial) s) hrun

/-- A relation between the states of two systems under which runs of the second match the steps of
the first holds, over every run of the first, with a state of some run of the second. -/
theorem Reachable.simulate {σ' α' : Type*} {sys' : System σ' α'} {R : σ → σ' → Prop}
    (hinit : ∀ s, sys.Init s → ∃ t, sys'.Init t ∧ R s t)
    (hstep : ∀ s a s' t, R s t → sys.step s a = some s' →
      ∃ as t', sys'.run t as = some t' ∧ R s' t')
    {s : σ} (h : sys.Reachable s) : ∃ t, sys'.Reachable t ∧ R s t := by
  induction h with
  | init h =>
      obtain ⟨t, ht, hrelated⟩ := hinit _ h
      exact ⟨t, .init ht, hrelated⟩
  | step _ _ hnext ih =>
      obtain ⟨t, ht, hrelated⟩ := ih
      obtain ⟨as, t', hrun, hrelated'⟩ := hstep _ _ _ t hrelated hnext
      exact ⟨t', Reachable.run ht as hrun, hrelated'⟩

/-- Where allowed steps keep an invariant and every other step leads to a bad state, a run
stays among good states exactly when its steps are allowed. -/
theorem throughout_iff_along (Inv : σ → Prop) {Good : σ → Prop} (hgood : ∀ s, Inv s → Good s)
    (hstep : ∀ s a s', Inv s → allowed s a → sys.step s a = some s' → Inv s')
    (hbad : ∀ s a s', Inv s → ¬ allowed s a → sys.step s a = some s' → ¬ Good s') {s : σ}
    (h : Inv s) {as : List α} (hrun : (sys.run s as).isSome) :
    sys.Throughout Good s as ↔ sys.Along allowed s as := by
  induction as generalizing s with
  | nil => exact iff_of_true (hgood s h) trivial
  | cons a as ih =>
      obtain ⟨last, hlast⟩ := Option.isSome_iff_exists.mp hrun
      obtain ⟨next, hnext, hrest⟩ := Option.bind_eq_some_iff.mp hlast
      simp only [Throughout, Along, hnext, Option.elim_some]
      by_cases hallowed : allowed s a
      · have hiff := ih (hstep s a next h hallowed hnext)
          (Option.isSome_iff_exists.mpr ⟨last, hrest⟩)
        exact and_congr (iff_of_true (hgood s h) hallowed) hiff
      · refine iff_of_false ?_ fun halong => hallowed halong.1
        rintro ⟨-, hthrough⟩
        apply hbad s a next h hallowed hnext
        cases as with
        | nil => exact hthrough
        | cons a' as => exact hthrough.1

/-- So it does from a state that may be bad itself, where that has a condition of its own. -/
theorem throughout_iff_and_along {Good : σ → Prop} {P : Prop}
    (hstep : ∀ s a s', Good s → sys.step s a = some s' → (Good s' ↔ allowed s a)) {s : σ}
    (hs : Good s ↔ P) {as : List α} (hrun : (sys.run s as).isSome) :
    sys.Throughout Good s as ↔ P ∧ sys.Along allowed s as := by
  by_cases h : Good s
  · rw [throughout_iff_along Good (fun _ => id)
      (fun s a s' hgood hallowed hnext => (hstep s a s' hgood hnext).mpr hallowed)
      (fun s a s' hgood hnot hnext hgood' => hnot ((hstep s a s' hgood hnext).mp hgood')) h hrun]
    exact (and_iff_right (hs.mp h)).symm
  · refine iff_of_false (fun hthrough => h ?_) fun hand => h (hs.mpr hand.1)
    cases as with
    | nil => exact hthrough
    | cons a as => exact hthrough.1

/-- Work that every counted step lessens, and that no other step adds to, is done behind as many
counted steps. -/
theorem work_le {Inv : σ → Prop} {work : σ → ℕ} {counts : α → Bool}
    (hstep : ∀ s a s', Inv s → allowed s a → sys.step s a = some s' →
      Inv s' ∧ work s' ≤ work s - if counts a then 1 else 0) {s s' : σ} (h : Inv s) {as : List α}
    (halong : sys.Along allowed s as) (hrun : sys.run s as = some s') :
    Inv s' ∧ work s' ≤ work s - as.countP counts := by
  induction as generalizing s with
  | nil =>
      cases hrun
      exact ⟨h, Nat.le_refl _⟩
  | cons a as ih =>
      obtain ⟨next, hnext, hrest⟩ := Option.bind_eq_some_iff.mp hrun
      obtain ⟨hallowed, halong⟩ := halong
      rw [hnext] at halong
      obtain ⟨hinv, hwork⟩ := hstep s a next h hallowed hnext
      obtain ⟨hinv', hwork'⟩ := ih hinv halong hrest
      refine ⟨hinv', ?_⟩
      rw [List.countP_cons]
      omega

end System

end Csae295.Library
