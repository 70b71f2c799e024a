import Csae295.Model.Callback
import Csae295.Verification.Timer

/-! How often the example announces the vehicle, and when it falls silent.

The count is tested, and incremented behind the message, in the INH timer's thread, and cleared in
others. A tick alone takes one message from the three that the test allows, and clearing the count
allows three more. Of a stopped timer only the ticks are left that have begun. -/

namespace Csae295

open Library

/-! ## Timers of the callback -/

namespace ControllerCallback

@[simp] theorem timer_setTimer_self (self : ControllerCallback) (timer : Alarm) (task : Task) :
    (self.setTimer timer task).timer task = timer := by
  cases task <;> rfl

theorem timer_setTimer_of_ne (self : ControllerCallback) (timer : Alarm) {task task' : Task}
    (h : task' ≠ task) : (self.setTimer timer task').timer task = self.timer task := by
  cases task <;> cases task' <;> first | rfl | exact absurd rfl h

@[simp] theorem setTimer_inhCount (self : ControllerCallback) (timer : Alarm) (task : Task) :
    (self.setTimer timer task).inhCount = self.inhCount := by
  cases task <;> rfl

@[simp] theorem setTimer_sent (self : ControllerCallback) (timer : Alarm) (task : Task) :
    (self.setTimer timer task).sent = self.sent := by
  cases task <;> rfl

@[simp] theorem setTimer_cleared (self : ControllerCallback) (timer : Alarm) (task : Task) :
    (self.setTimer timer task).cleared = self.cleared := by
  cases task <;> rfl

end ControllerCallback

namespace Alarm

/-- The flag tells whether a timer is live, and every live timer has been set. -/
structure Settled (alarm : Alarm) : Prop where
  timer : alarm.toTimer.Settled
  armed : alarm.armed = alarm.timers.live

theorem Settled.start {self : Alarm} (h : self.Settled) {timerCreate timerSettime : Bool}
    (horderly : self.toTimer.Orderly (.start timerCreate timerSettime)) :
    (self.start timerCreate timerSettime).Settled := by
  refine ⟨h.timer.call horderly, ?_⟩
  cases timerCreate with
  | true =>
      obtain ⟨-, rfl⟩ := horderly rfl
      exact congrArg (· ++ [self.timers.created]) h.armed
  | false => exact h.armed

theorem stop_of_stopped {self : Alarm} (h : self.stopped = true) (timerDelete : Bool) :
    self.stop timerDelete = self := by
  simp [Alarm.stop, Timer.stop, Timer.stopStep, h]

theorem stop_stopped (self : Alarm) (timerDelete : Bool) :
    (self.stop timerDelete).stopped = true :=
  self.toTimer.stop_stopped timerDelete

theorem Settled.stop {self : Alarm} (h : self.Settled) (timerDelete : Bool) :
    (self.stop timerDelete).Settled := by
  refine ⟨h.timer.stop timerDelete, ?_⟩
  cases hstopped : self.stopped with
  | true =>
      rw [stop_of_stopped hstopped]
      exact h.armed
  | false =>
      simp [Alarm.stop, Timer.stop, Timer.stopStep, hstopped, Handles.release, h.armed]

/-- No timer is left that could expire. -/
theorem Settled.armed_of_stopped {self : Alarm} (h : self.Settled)
    (hstopped : self.stopped = true) :
    self.armed = [] := by
  rw [h.armed]
  exact h.timer.live_of_stopped hstopped

end Alarm

/-- The message is one of the task's timer. -/
def Task.Sends : Task → Message → Bool
  | .inh, .inh _ => true
  | .state, .state _ => true
  | _, _ => false

/-- The messages that a timer's ticks have sent. -/
def ControllerCallback.sentBy (self : ControllerCallback) (task : Task) : ℕ :=
  self.sent.countP task.Sends

namespace Example

variable {τ : Type} [DecidableEq τ]

/-! ## Steps -/

/-- The thread comes to the statements. -/
def goto (self : Example τ) (callback : ControllerCallback) (t : τ) (stmts : List CallbackStmt) :
    Example τ :=
  { callback, threads := Function.update self.threads t stmts }

@[simp] theorem goto_self (self : Example τ) (callback : ControllerCallback) (t : τ)
    (stmts : List CallbackStmt) : (self.goto callback t stmts).threads t = stmts :=
  Function.update_self ..

theorem goto_of_ne (self : Example τ) (callback : ControllerCallback) {t t' : τ} (h : t' ≠ t)
    (stmts : List CallbackStmt) : (self.goto callback t stmts).threads t' = self.threads t' :=
  Function.update_of_ne h ..

/-- The events and the states they lead to. -/
inductive Step (s : Example τ) : ExampleEvent τ → Example τ → Prop where
  | onUpConnectState {t : τ} (state : ConnectState) (hidle : s.threads t = []) :
      Step s (.onUpConnectState t state)
        (s.goto s.callback t (ControllerCallback.onUpConnectState state))
  | onCloud2VehInhRes {t : τ} (hidle : s.threads t = []) :
      Step s (.onCloud2VehInhRes t) (s.goto s.callback t ControllerCallback.onCloud2VehInhRes)
  | destroy {t : τ} (hidle : s.threads t = []) :
      Step s (.destroy t) (s.goto s.callback t ControllerCallback.destroy)
  | expire {t : τ} {task : Task} (hidle : s.threads t = [])
      (harmed : (s.callback.timer task).armed ≠ []) :
      Step s (.expire t task) (s.goto s.callback t (ControllerCallback.tick task))
  | go {t : τ} (outcome : Outcome) {stmt : CallbackStmt} {rest : List CallbackStmt}
      (hthread : s.threads t = stmt :: rest) :
      Step s (.go t outcome)
        (s.goto (s.callback.perform outcome stmt) t (s.callback.next rest stmt))

theorem enter_eq {s s' : Example τ} {t : τ} {handler : List CallbackStmt}
    (h : s.enter t handler = some s') : s.threads t = [] ∧ s.goto s.callback t handler = s' := by
  unfold enter at h
  split at h
  · next hidle => exact ⟨hidle, Option.some.inj h⟩
  · cases h

theorem step_of_eq {s s' : Example τ} {event : ExampleEvent τ} (h : s.step event = some s') :
    s.Step event s' := by
  cases event with
  | onUpConnectState t state =>
      obtain ⟨hidle, rfl⟩ := enter_eq h
      exact .onUpConnectState state hidle
  | onCloud2VehInhRes t =>
      obtain ⟨hidle, rfl⟩ := enter_eq h
      exact .onCloud2VehInhRes hidle
  | destroy t =>
      obtain ⟨hidle, rfl⟩ := enter_eq h
      exact .destroy hidle
  | expire t task =>
      simp only [step] at h
      split at h
      · cases h
      · next harmed =>
          obtain ⟨hidle, rfl⟩ := enter_eq h
          exact .expire hidle harmed
  | go t outcome =>
      simp only [step] at h
      split at h
      · cases h
      · next hthread =>
          cases h
          exact .go outcome hthread

/-! ## The count -/

/-- The statements of the INH timer that have to do with the count. -/
def Counts : CallbackStmt → Bool
  | .testCount | .send .inh | .incCount => true
  | _ => false

/-- A thread in a tick of the INH timer, before the test, the message or the increment. -/
inductive Ticking : List CallbackStmt → Prop where
  | testCount : Ticking ControllerCallback.inhTick
  | send : Ticking [.send .inh, .incCount]
  | incCount : Ticking [.incCount]

/-- Ticks of the INH timer do not overlap. -/
def Apart (s : Example τ) : ExampleEvent τ → Prop
  | .expire _ .inh => ∀ t, ¬ Ticking (s.threads t)
  | _ => True

/-- The count, and the messages sent since there were `sent` of them and the count had been
cleared `cleared` times. A tick behind the test has room for its message, and one behind the message
is counted too. -/
structure Counting (sent cleared : ℕ) (s : Example τ) : Prop where
  threads : ∀ t, Ticking (s.threads t) ∨ ∀ stmt ∈ s.threads t, Counts stmt = false
  alone : ∀ t t', Ticking (s.threads t) → Ticking (s.threads t') → t = t'
  count : s.callback.inhCount.toNat ≤ 3
  room : ∀ t, Ticking (s.threads t) → s.threads t ≠ ControllerCallback.inhTick →
    s.callback.inhCount.toNat ≤ 2
  counted : (∀ t, s.threads t ≠ [.incCount]) →
    s.callback.sentBy .inh + 3 * cleared ≤ sent + 3 * s.callback.cleared + s.callback.inhCount.toNat
  uncounted : s.callback.sentBy .inh + 3 * cleared ≤
    sent + 3 * s.callback.cleared + s.callback.inhCount.toNat + 1

variable {sent cleared : ℕ} {s : Example τ}

theorem not_ticking_of_counts {stmts : List CallbackStmt}
    (h : ∀ stmt ∈ stmts, Counts stmt = false) : ¬ Ticking stmts := by
  intro hticking
  cases hticking with
  | testCount => exact absurd (h .testCount List.mem_cons_self) nofun
  | send => exact absurd (h (.send .inh) List.mem_cons_self) nofun
  | incCount => exact absurd (h .incCount List.mem_cons_self) nofun

/-- A thread that is in no tick behind the step. -/
theorem Counting.leave {callback : ControllerCallback} {t : τ} {stmts : List CallbackStmt}
    (h : s.Counting sent cleared) (hstmts : ∀ stmt ∈ stmts, Counts stmt = false)
    (hcount : callback.inhCount.toNat ≤ 3)
    (hroom : ∀ t' ≠ t, Ticking (s.threads t') → s.threads t' ≠ ControllerCallback.inhTick →
      callback.inhCount.toNat ≤ 2)
    (hcounted : (∀ t' ≠ t, s.threads t' ≠ [.incCount]) → callback.sentBy .inh + 3 * cleared ≤
      sent + 3 * callback.cleared + callback.inhCount.toNat)
    (huncounted : callback.sentBy .inh + 3 * cleared ≤
      sent + 3 * callback.cleared + callback.inhCount.toNat + 1) :
    (s.goto callback t stmts).Counting sent cleared := by
  have hothers : ∀ t', Ticking ((s.goto callback t stmts).threads t') →
      t' ≠ t ∧ (s.goto callback t stmts).threads t' = s.threads t' := by
    intro t' hticking
    have ht : t' ≠ t := by
      intro ht
      rw [ht, goto_self] at hticking
      exact not_ticking_of_counts hstmts hticking
    exact ⟨ht, s.goto_of_ne callback ht stmts⟩
  refine ⟨?_, ?_, hcount, ?_, ?_, huncounted⟩
  · intro t'
    by_cases ht : t' = t
    · rw [ht, goto_self]
      exact .inr hstmts
    · rw [s.goto_of_ne callback ht]
      exact h.threads t'
  · intro t' t'' hticking hticking'
    obtain ⟨-, hsame⟩ := hothers t' hticking
    obtain ⟨-, hsame'⟩ := hothers t'' hticking'
    exact h.alone t' t'' (hsame ▸ hticking) (hsame' ▸ hticking')
  · intro t' hticking hne
    obtain ⟨ht, hsame⟩ := hothers t' hticking
    exact hroom t' ht (hsame ▸ hticking) (hsame ▸ hne)
  · intro hnone
    apply hcounted
    intro t' ht
    rw [← s.goto_of_ne callback ht stmts]
    exact hnone t'

/-- A thread that was in no tick before the step either, or has left one at its test. -/
theorem Counting.goto {callback : ControllerCallback} {t : τ} {stmts : List CallbackStmt}
    (h : s.Counting sent cleared) (hstmts : ∀ stmt ∈ stmts, Counts stmt = false)
    (hthread : s.threads t ≠ [.incCount])
    (hsent : callback.sentBy .inh = s.callback.sentBy .inh)
    (hcount : callback.inhCount.toNat ≤ s.callback.inhCount.toNat)
    (hallowed : 3 * s.callback.cleared + s.callback.inhCount.toNat ≤
      3 * callback.cleared + callback.inhCount.toNat) :
    (s.goto callback t stmts).Counting sent cleared := by
  have huncounted := h.uncounted
  refine h.leave hstmts (hcount.trans h.count) ?_ ?_ (by omega)
  · intro t' _ hticking hne
    exact hcount.trans (h.room t' hticking hne)
  · intro hnone
    have hcounted := h.counted fun t' => by
      by_cases ht : t' = t
      · rw [ht]
        exact hthread
      · exact hnone t' ht
    omega

/-- The one thread that is in a tick behind the step. -/
theorem Counting.ticking {callback : ControllerCallback} {t : τ} {stmts : List CallbackStmt}
    (h : s.Counting sent cleared) (hstmts : Ticking stmts)
    (halone : ∀ t', Ticking (s.threads t') → t' = t) (hcount : callback.inhCount.toNat ≤ 3)
    (hroom : stmts ≠ ControllerCallback.inhTick → callback.inhCount.toNat ≤ 2)
    (hcounted : stmts ≠ [.incCount] → callback.sentBy .inh + 3 * cleared ≤
      sent + 3 * callback.cleared + callback.inhCount.toNat)
    (huncounted : callback.sentBy .inh + 3 * cleared ≤
      sent + 3 * callback.cleared + callback.inhCount.toNat + 1) :
    (s.goto callback t stmts).Counting sent cleared := by
  have hthread : ∀ t', Ticking ((s.goto callback t stmts).threads t') → t' = t := by
    intro t' hticking
    by_contra ht
    rw [s.goto_of_ne callback ht] at hticking
    exact ht (halone t' hticking)
  refine ⟨?_, ?_, hcount, ?_, ?_, huncounted⟩
  · intro t'
    by_cases ht : t' = t
    · rw [ht, goto_self]
      exact .inl hstmts
    · rw [s.goto_of_ne callback ht]
      exact h.threads t'
  · intro t' t'' hticking hticking'
    rw [hthread t' hticking, hthread t'' hticking']
  · intro t' hticking hne
    rw [hthread t' hticking, goto_self] at hne
    exact hroom hne
  · intro hnone
    have hne := hnone t
    rw [goto_self] at hne
    exact hcounted hne

/-- The statements that have nothing to do with the count but to clear it. -/
theorem perform_of_counts {self : ControllerCallback} (outcome : Outcome) {stmt : CallbackStmt}
    (h : Counts stmt = false) (hcount : self.inhCount.toNat ≤ 3) :
    (self.perform outcome stmt).sentBy .inh = self.sentBy .inh ∧
      (self.perform outcome stmt).inhCount.toNat ≤ self.inhCount.toNat ∧
      3 * self.cleared + self.inhCount.toNat ≤
        3 * (self.perform outcome stmt).cleared + (self.perform outcome stmt).inhCount.toNat := by
  cases stmt with
  | start task => simp [ControllerCallback.perform, ControllerCallback.sentBy]
  | stop task => simp [ControllerCallback.perform, ControllerCallback.sentBy]
  | clearCount =>
      refine ⟨rfl, Nat.zero_le _, ?_⟩
      change 3 * self.cleared + self.inhCount.toNat ≤ 3 * (self.cleared + 1) + 0
      omega
  | send task =>
      cases task with
      | inh => cases h
      | state =>
          simp [ControllerCallback.perform, ControllerCallback.sentBy, ControllerCallback.message,
            Task.Sends]
  | testCount => cases h
  | incCount => cases h

theorem Counting.call {t : τ} {handler : List CallbackStmt} (h : s.Counting sent cleared)
    (hidle : s.threads t = []) (hhandler : ∀ stmt ∈ handler, Counts stmt = false) :
    (s.goto s.callback t handler).Counting sent cleared :=
  h.goto hhandler (by rw [hidle]; nofun) rfl le_rfl le_rfl

/-- A step of a tick: the test takes it on or gives up, the message and the increment follow. -/
theorem Counting.tick {t : τ} (outcome : Outcome) {stmt : CallbackStmt} {rest : List CallbackStmt}
    (h : s.Counting sent cleared) (hthread : s.threads t = stmt :: rest)
    (hticking : Ticking (stmt :: rest)) :
    (s.goto (s.callback.perform outcome stmt) t (s.callback.next rest stmt)).Counting sent
      cleared := by
  have halone : ∀ t', Ticking (s.threads t') → t' = t := fun t' hticking' =>
    h.alone t' t hticking' (hthread ▸ hticking)
  have hcounted : stmt :: rest ≠ [.incCount] → s.callback.sentBy .inh + 3 * cleared ≤
      sent + 3 * s.callback.cleared + s.callback.inhCount.toNat := by
    intro hne
    apply h.counted
    intro t' heq
    rw [halone t' (heq ▸ .incCount), hthread] at heq
    exact hne heq
  cases hticking with
  | testCount =>
      by_cases hthree : 3 ≤ s.callback.inhCount
      · have hnext : s.callback.next [.send .inh, .incCount] .testCount =
            ControllerCallback.giveUp := if_pos hthree
        rw [hnext]
        exact h.goto (by decide) (by rw [hthread]; nofun) rfl le_rfl le_rfl
      · have hnext : s.callback.next [.send .inh, .incCount] .testCount = [.send .inh, .incCount] :=
          if_neg hthree
        have hroom : s.callback.inhCount.toNat ≤ 2 := by
          rw [BitVec.le_def] at hthree
          simp at hthree
          omega
        rw [hnext]
        exact h.ticking .send halone h.count (fun _ => hroom) (fun _ => hcounted nofun) h.uncounted
  | send =>
      have hroom := h.room t (hthread ▸ .send) (by rw [hthread]; nofun)
      have hsent : (s.callback.perform outcome (.send .inh)).sentBy .inh =
          s.callback.sentBy .inh + 1 := by
        simp [ControllerCallback.perform, ControllerCallback.sentBy, ControllerCallback.message,
          Task.Sends]
      refine h.ticking .incCount halone h.count (fun _ => hroom) (fun hne => absurd rfl hne) ?_
      rw [hsent]
      have hle := hcounted nofun
      change _ ≤ sent + 3 * s.callback.cleared + s.callback.inhCount.toNat + 1
      omega
  | incCount =>
      have hroom := h.room t (hthread ▸ .incCount) (by rw [hthread]; nofun)
      have huncounted := h.uncounted
      have hcount : (s.callback.inhCount + 1).toNat = s.callback.inhCount.toNat + 1 := by
        rw [BitVec.toNat_add]
        exact Nat.mod_eq_of_lt (by simp; omega)
      have hle : s.callback.sentBy .inh + 3 * cleared ≤
          sent + 3 * s.callback.cleared + (s.callback.inhCount + 1).toNat := by
        rw [hcount]
        exact huncounted
      exact h.leave nofun (hcount.trans_le (Nat.succ_le_succ hroom))
        (fun t' ht hticking' => absurd (halone t' hticking') ht) (fun _ => hle)
        (Nat.le_succ_of_le hle)

theorem Counting.step {s' : Example τ} {event : ExampleEvent τ} (h : s.Counting sent cleared)
    (hapart : s.Apart event) (hstep : s.step event = some s') : s'.Counting sent cleared := by
  cases step_of_eq hstep with
  | onUpConnectState state hidle => exact h.call hidle (by cases state <;> decide)
  | onCloud2VehInhRes hidle => exact h.call hidle (by decide)
  | destroy hidle => exact h.call hidle (by decide)
  | @expire t task hidle harmed =>
      cases task with
      | inh =>
          have hnone : ∀ t', s.threads t' ≠ [.incCount] := fun t' heq =>
            hapart t' (heq ▸ .incCount)
          exact h.ticking .testCount (fun t' hticking => absurd hticking (hapart t')) h.count
            (fun hne => absurd rfl hne) (fun _ => h.counted hnone) h.uncounted
      | state => exact h.call hidle (by decide)
  | @go t outcome stmt rest hthread =>
      rcases h.threads t with hticking | hcounts
      · rw [hthread] at hticking
        exact h.tick outcome hthread hticking
      · rw [hthread] at hcounts
        obtain ⟨hstmt, hrest⟩ := List.forall_mem_cons.mp hcounts
        obtain ⟨hsent, hcount, hallowed⟩ := perform_of_counts outcome hstmt h.count
        have hnext : s.callback.next rest stmt = rest := by
          cases stmt with
          | testCount => cases hstmt
          | _ => rfl
        rw [hnext]
        refine h.goto hrest ?_ hsent hcount hallowed
        intro heq
        rw [hthread] at heq
        cases heq
        cases hstmt

theorem counting_of_reaches (h : (system τ).Reaches Apart s) :
    s.Counting (s.callback.sentBy .inh) s.callback.cleared := by
  have hcounting : s.Counting 0 0 := by
    refine h.invariant ?_ fun _ _ _ h hapart hstep => h.step hapart hstep
    intro s hs
    cases hs
    exact ⟨fun _ => .inr nofun, nofun, Nat.zero_le _, nofun, fun _ => le_rfl, Nat.zero_le _⟩
  exact { hcounting with counted := fun _ => Nat.le_add_right _ _, uncounted := by omega }

/-- In every run in which no tick of the INH timer begins before the last one has counted its
message, the count never passes three, and in a stretch in which it is cleared `n` times, by a
response, a lost connection or a tick that gives up, at most `3 * (n + 1)` messages are sent. -/
theorem inh_attempts_le {s' : Example τ} {events : List (ExampleEvent τ)}
    (h : (system τ).Reaches Apart s) (halong : (system τ).Along Apart s events)
    (hrun : (system τ).run s events = some s') :
    s'.callback.inhCount.toNat ≤ 3 ∧ s'.callback.sentBy .inh + 3 * s.callback.cleared ≤
      s.callback.sentBy .inh + 3 * (s'.callback.cleared + 1) := by
  have hstart := counting_of_reaches h
  have hcounting : s'.Counting (s.callback.sentBy .inh) s.callback.cleared :=
    System.invariant_run (fun _ _ _ h hapart hstep => h.step hapart hstep) hstart halong hrun
  refine ⟨hcounting.count, ?_⟩
  have hcount := hcounting.count
  by_cases hnone : ∀ t, s'.threads t ≠ [.incCount]
  · have hcounted := hcounting.counted hnone
    omega
  · obtain ⟨t, ht⟩ := not_forall_not.mp hnone
    have hroom := hcounting.room t (ht ▸ .incCount) (by rw [ht]; nofun)
    have huncounted := hcounting.uncounted
    omega

/-- Whatever calls of the system in it succeed. -/
def someOutcome : Outcome :=
  { timerCreate := true, timerSettime := true, timerDelete := true, timestamp := 0 }

/-- A connection on which two ticks send a message and the response comes then. -/
theorem inh_attempts_le_response : ∃ s' : Example Unit, s'.callback.sentBy .inh = 2 ∧
    s'.callback.inhCount = 0 ∧ s'.callback.cleared = 1 ∧
    s'.callback.sentBy .inh ≤ 3 * (s'.callback.cleared + 1) := by
  let go : ExampleEvent Unit := .go () someOutcome
  let events : List (ExampleEvent Unit) := [.onUpConnectState () .connected, go, go,
    .expire () .inh, go, go, go, .expire () .inh, go, go, go, .onCloud2VehInhRes (), go, go]
  have hidle : ∀ _ : Unit, ¬ Ticking [] := fun _ hticking => nomatch hticking
  have halong : (system Unit).Along Apart { callback := .new, threads := fun _ => [] } events :=
    ⟨trivial, trivial, trivial, hidle, trivial, trivial, trivial, hidle, trivial, trivial, trivial,
      trivial, trivial, trivial, trivial⟩
  obtain ⟨-, hle⟩ := inh_attempts_le (.init rfl) halong rfl
  exact ⟨_, rfl, rfl, rfl, hle⟩

/-! ## Silence -/

/-- A timer is created when it is stopped, and it is set then. -/
def Orderly (s : Example τ) : ExampleEvent τ → Prop
  | .go t outcome => ∀ task rest, s.threads t = .start task :: rest →
      (s.callback.timer task).toTimer.Orderly (.start outcome.timerCreate outcome.timerSettime)
  | _ => True

theorem perform_settled {self : ControllerCallback} {outcome : Outcome} {stmt : CallbackStmt}
    (h : ∀ task, (self.timer task).Settled)
    (horderly : ∀ task, stmt = .start task →
      (self.timer task).toTimer.Orderly (.start outcome.timerCreate outcome.timerSettime))
    (task : Task) : ((self.perform outcome stmt).timer task).Settled := by
  have hset : ∀ (task' : Task) (timer : Alarm), timer.Settled →
      ((self.setTimer timer task').timer task).Settled := by
    intro task' timer htimer
    by_cases htask : task' = task
    · rw [htask, ControllerCallback.timer_setTimer_self]
      exact htimer
    · rw [ControllerCallback.timer_setTimer_of_ne _ _ htask]
      exact h task
  cases stmt with
  | start task' => exact hset task' _ ((h task').start (horderly task' rfl))
  | stop task' => exact hset task' _ ((h task').stop _)
  | clearCount | testCount | send | incCount => exact h task

/-- Both timers are settled. -/
def Settled (s : Example τ) : Prop := ∀ task, (s.callback.timer task).Settled

theorem Settled.step {s' : Example τ} {event : ExampleEvent τ} (h : s.Settled)
    (horderly : s.Orderly event) (hstep : s.step event = some s') : s'.Settled := by
  cases step_of_eq hstep with
  | go outcome hthread =>
      apply perform_settled h
      intro task hstmt
      exact horderly task _ (hstmt ▸ hthread)
  | _ => exact h

/-- The statement is about to send a message of the task or to start its timer. -/
def Wakes (task : Task) (stmt : CallbackStmt) : Bool := stmt = .send task || stmt = .start task

/-- The timer is stopped, no thread is in a tick of it or about to start it, and so many messages
have been sent. -/
structure Silent (task : Task) (sent : ℕ) (s : Example τ) : Prop where
  settled : (s.callback.timer task).Settled
  stopped : (s.callback.timer task).stopped = true
  threads : ∀ t, ∀ stmt ∈ s.threads t, Wakes task stmt = false
  sent : s.callback.sentBy task = sent

theorem Silent.goto {task : Task} {callback : ControllerCallback} {t : τ}
    {stmts : List CallbackStmt}
    (h : s.Silent task sent) (htimer : callback.timer task = s.callback.timer task)
    (hsent : callback.sentBy task = s.callback.sentBy task)
    (hstmts : ∀ stmt ∈ stmts, Wakes task stmt = false) :
    (s.goto callback t stmts).Silent task sent := by
  refine ⟨htimer ▸ h.settled, htimer ▸ h.stopped, ?_, hsent.trans h.sent⟩
  intro t'
  by_cases ht : t' = t
  · rw [ht, goto_self]
    exact hstmts
  · rw [s.goto_of_ne callback ht]
    exact h.threads t'

/-- A statement that does not wake the timer leaves it and its messages as they are. -/
theorem perform_of_wakes {self : ControllerCallback} {task : Task} (outcome : Outcome)
    {stmt : CallbackStmt} (h : Wakes task stmt = false)
    (hstopped : (self.timer task).stopped = true) :
    (self.perform outcome stmt).timer task = self.timer task ∧
      (self.perform outcome stmt).sentBy task = self.sentBy task := by
  cases stmt with
  | start task' =>
      have htask : task' ≠ task := by simpa [Wakes] using h
      exact ⟨self.timer_setTimer_of_ne _ htask,
        by simp [ControllerCallback.perform, ControllerCallback.sentBy]⟩
  | stop task' =>
      refine ⟨?_, by simp [ControllerCallback.perform, ControllerCallback.sentBy]⟩
      by_cases htask : task' = task
      · rw [htask, ControllerCallback.perform, ControllerCallback.timer_setTimer_self]
        exact Alarm.stop_of_stopped hstopped _
      · exact self.timer_setTimer_of_ne _ htask
  | send task' =>
      have htask : task' ≠ task := by simpa [Wakes] using h
      have hmessage : task.Sends (ControllerCallback.message outcome.timestamp task') = false := by
        cases task <;> cases task' <;> first | rfl | exact absurd rfl htask
      refine ⟨by cases task <;> rfl, ?_⟩
      simp [ControllerCallback.perform, ControllerCallback.sentBy, List.countP_append, hmessage]
  | clearCount | testCount | incCount => exact ⟨by cases task <;> rfl, rfl⟩

/-- Nothing but a new connection wakes a timer. -/
def Connects : ExampleEvent τ → Bool
  | .onUpConnectState _ .connected => true
  | _ => false

theorem Silent.step {task : Task} {s' : Example τ} {event : ExampleEvent τ} (h : s.Silent task sent)
    (hevent : Connects event = false) (hstep : s.step event = some s') : s'.Silent task sent := by
  cases step_of_eq hstep with
  | onUpConnectState state hidle =>
      cases state with
      | connected => cases hevent
      | closed | lost => exact h.goto rfl rfl (by cases task <;> decide)
  | onCloud2VehInhRes hidle => exact h.goto rfl rfl (by cases task <;> decide)
  | destroy hidle => exact h.goto rfl rfl (by cases task <;> decide)
  | @expire t task' hidle harmed =>
      have htask : task' ≠ task := by
        intro heq
        rw [heq] at harmed
        exact harmed (h.settled.armed_of_stopped h.stopped)
      apply h.goto rfl rfl
      cases task <;> cases task' <;> first | exact absurd rfl htask | decide
  | @go t outcome stmt rest hthread =>
      have hthreads := h.threads t
      rw [hthread] at hthreads
      obtain ⟨hstmt, hrest⟩ := List.forall_mem_cons.mp hthreads
      obtain ⟨htimer, hsent⟩ := perform_of_wakes outcome hstmt h.stopped
      apply h.goto htimer hsent
      cases stmt with
      | testCount =>
          simp only [ControllerCallback.next]
          split
          · cases task <;> decide
          · exact hrest
      | _ => exact hrest

end Example

end Csae295
