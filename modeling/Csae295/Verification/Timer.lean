import Csae295.Model.Timer

/-! The timer's flag against the operating system's timers that are live.

One handle and one flag describe at most one timer. A `start` over a running timer overwrites the
handle, and a `start` that fails behind `timer_create` leaves the flag as it is; in both cases a
timer is live that no later `stop` deletes. -/

namespace Csae295

open Library

namespace Timer

/-- The timer has been created and not deleted, and nothing else is live. -/
def Created (self : Timer) : Prop := ∃ t, self.timer = some t ∧ self.timers.live = [t]

/-- Between `start` and `stop` the flag tells whether the timer is live. -/
def Settled (self : Timer) : Prop :=
  if self.stopped then self.timers.live = [] else self.Created

theorem Settled.live_of_stopped {self : Timer} (h : self.Settled) (hstopped : self.stopped = true) :
    self.timers.live = [] := by
  simpa only [Settled, hstopped, if_true] using h

theorem settled_of_live {self : Timer} (hstopped : self.stopped = true)
    (hlive : self.timers.live = []) : self.Settled := by
  simpa only [Settled, hstopped, if_true] using hlive

theorem Created.timerDelete {self : Timer} (h : self.Created) :
    (self.stopStep .timerDelete).1.timers.live = [] := by
  obtain ⟨t, htimer, hlive⟩ := h
  simp only [stopStep, htimer]
  exact Handles.release_live_of_singleton hlive

theorem timerCreate_created {self : Timer} (h : self.timers.live = []) :
    (self.startStep .timerCreate true).1.Created :=
  ⟨self.timers.created, rfl, Handles.create_live_of_nil h⟩

/-- As many timers are live as the flag tells. -/
def Counted (self : Timer) : Prop := self.timers.live.length = if self.stopped then 0 else 1

theorem Settled.counted {self : Timer} (h : self.Settled) : self.Counted := by
  unfold Settled at h
  unfold Counted
  split at h
  · next hstopped => rw [if_pos hstopped, h, List.length_nil]
  · next hrunning =>
      obtain ⟨t, -, hlive⟩ := h
      rw [if_neg hrunning, hlive, List.length_singleton]

instance (self : Timer) : Decidable self.Counted := inferInstanceAs (Decidable (_ = _))

/-- A timer that is created is so by a stopped object, and is set. -/
def Orderly (self : Timer) : Call → Prop
  | .start timerCreate timerSettime =>
    timerCreate = true → self.stopped = true ∧ timerSettime = true
  | .stop _ => True

instance (self : Timer) (call : Call) : Decidable (self.Orderly call) :=
  match call with
  | .start _ _ => inferInstanceAs (Decidable (_ → _ ∧ _))
  | .stop _ => inferInstanceAs (Decidable True)

theorem stop_stopped (self : Timer) (timerDelete : Bool) :
    (self.stop timerDelete).1.stopped = true := by
  cases hstopped : self.stopped <;> simp [stop, stopStep, hstopped]

theorem Settled.stop {self : Timer} (h : self.Settled) (timerDelete : Bool) :
    (self.stop timerDelete).1.Settled := by
  apply settled_of_live (self.stop_stopped timerDelete)
  cases hstopped : self.stopped with
  | true =>
      have hstop : (self.stop timerDelete).1 = self := by simp [Timer.stop, stopStep, hstopped]
      rw [hstop]
      exact h.live_of_stopped hstopped
  | false =>
      simp only [Settled, hstopped, Bool.false_eq_true, if_false] at h
      have hcreated : Created { self with stopped := true } := h
      simpa [Timer.stop, stopStep, hstopped] using hcreated.timerDelete

/-- A `start` behind which the timer is set. -/
theorem Settled.start {self : Timer} (h : self.Settled) (hstopped : self.stopped = true) :
    (self.start true true).1.Settled := by
  have hcreated := timerCreate_created (h.live_of_stopped hstopped)
  obtain ⟨t, htimer, hlive⟩ := hcreated
  exact ⟨t, htimer, hlive⟩

theorem Settled.call {self : Timer} (h : self.Settled) {call : Call} (horderly : self.Orderly call) :
    (self.call call).1.Settled := by
  cases call with
  | start timerCreate timerSettime =>
      cases timerCreate with
      | true =>
          obtain ⟨hstopped, rfl⟩ := horderly rfl
          exact h.start hstopped
      | false => exact h
  | stop timerDelete => exact h.stop timerDelete

/-- Every other call leaves a timer live that the flag does not tell of. -/
theorem Settled.not_counted {self : Timer} (h : self.Settled) {call : Call}
    (hnot : ¬ self.Orderly call) : ¬ (self.call call).1.Counted := by
  cases call with
  | start timerCreate timerSettime =>
      cases timerCreate with
      | true =>
          have hlength : (self.timers.live ++ [self.timers.created]).length =
              self.timers.live.length + 1 := List.length_append
          have hcounted := h.counted
          unfold Counted at hcounted
          cases hstopped : self.stopped with
          | true =>
              have hset : timerSettime = false := by
                refine Bool.eq_false_iff.mpr fun hset => hnot fun _ => ⟨hstopped, hset⟩
              rw [hstopped] at hcounted
              simp [Counted, Timer.call, Timer.start, startStep, hset, hstopped, Handles.create]
          | false =>
              have hone : self.timers.live.length = 1 := by simpa [hstopped] using hcounted
              have htwo : (self.call (.start true timerSettime)).1.timers.live.length =
                  self.timers.live.length + 1 := by
                cases timerSettime <;> exact hlength
              have hflag : (self.call (.start true timerSettime)).1.stopped = false := by
                cases timerSettime with
                | true => rfl
                | false => exact hstopped
              simp [Counted, htwo, hone, hflag]
      | false => exact absurd (fun hcreate => absurd hcreate Bool.false_ne_true) hnot
  | stop timerDelete => exact absurd trivial hnot

theorem run_isSome (self : Timer) (cs : List Call) : (calls.run self cs).isSome := by
  induction cs generalizing self with
  | nil => rfl
  | cons c cs ih => exact ih _

/-- What an orderly sequence of calls leads to. -/
theorem settled_of_along {cs : List Call} (horderly : calls.Along Orderly new cs) {self : Timer}
    (hrun : calls.run new cs = some self) : self.Settled := by
  have hreaches : calls.Reaches Orderly self := (System.Reaches.init rfl).run cs horderly hrun
  refine hreaches.invariant ?_ ?_
  · rintro _ rfl
    exact settled_of_live rfl rfl
  · rintro self call _ h horderly ⟨⟩
    exact h.call horderly

/-- The flag tells of every live timer throughout the calls on an object exactly when each call
that creates a timer finds the object stopped and sets the timer; and then no timer is live
behind a `stop`. -/
theorem flag_counts_live_iff (cs : List Call) :
    (calls.Throughout Counted new cs ↔ calls.Along Orderly new cs) ∧
      (calls.Along Orderly new cs → ∀ self timerDelete, calls.run new cs = some self →
        (self.stop timerDelete).1.timers.live = []) := by
  constructor
  · have hnew : new.Settled := settled_of_live rfl rfl
    refine System.throughout_iff_along Settled (fun _ h => h.counted) ?_ ?_ hnew (run_isSome new cs)
    · rintro self call _ h horderly ⟨⟩
      exact h.call horderly
    · rintro self call _ h hnot ⟨⟩
      exact h.not_counted hnot
  · intro horderly self timerDelete hrun
    have hsettled := (settled_of_along horderly hrun).stop timerDelete
    exact hsettled.live_of_stopped (self.stop_stopped timerDelete)

/-- A timer that is started, stopped with a failed `timer_delete` and started again. -/
theorem counted_restarted :
    let cs : List Call := [.start true true, .stop false, .start false true, .start true true]
    calls.Throughout Counted new cs ∧
      ∀ self, calls.run new cs = some self → (self.stop true).1.timers.live = [] := by
  intro cs
  have horderly : calls.Along Orderly new cs :=
    ⟨fun _ => ⟨rfl, rfl⟩, trivial, nofun, fun _ => ⟨rfl, rfl⟩, trivial⟩
  exact ⟨(flag_counts_live_iff cs).1.mpr horderly, fun self => (flag_counts_live_iff cs).2 horderly self true⟩

/-- Started twice, and started without being set: a timer stays live behind `stop`. -/
theorem stop_leaves_timer :
    ¬ calls.Throughout Counted new [.start true true, .start true true, .stop true] ∧
      ¬ calls.Throughout Counted new [.start true false, .stop true] := by
  refine ⟨?_, ?_⟩
  · rintro ⟨-, -, htwice, -⟩
    exact absurd htwice (by decide)
  · rintro ⟨-, hunset, -⟩
    exact absurd hunset (by decide)

end Timer

end Csae295
