import Csae295.Verification.Callback
import Csae295.Verification.Notifications

/-! The example's timers on the up channel.

The client calls the callback with CONNECTED only when it was not connected before, and behind every
other connect state both timers are stopped. So a timer is never started twice, as long as the
handlers of connect states run one after another; ticks and responses may come at any time. The
owner's `close` calls no callback: a timer that runs then is not stopped. -/

namespace Csae295

open Library

/-- A timer that is stopped stays so unless it is started. -/
theorem ControllerCallback.perform_stopped {self : ControllerCallback} (outcome : Outcome)
    {stmt : CallbackStmt} (hstart : ∀ task, stmt ≠ .start task) {task : Task}
    (h : (self.timer task).stopped = true) :
    ((self.perform outcome stmt).timer task).stopped = true := by
  cases stmt with
  | start task' => exact absurd rfl (hstart task')
  | stop task' =>
      by_cases htask : task' = task
      · rw [htask, perform, timer_setTimer_self]
        exact Alarm.stop_stopped _ _
      · rw [perform, timer_setTimer_of_ne _ _ htask]
        exact h
  | clearCount | testCount | send | incCount => cases task <;> exact h

namespace UpExample

variable {τ : Type}

/-- What is left of the handler of a connect state, and what it has done. -/
inductive Handling (state : ConnectState) (callback : ControllerCallback) :
    List CallbackStmt → Prop where
  | connected (hstate : state = .connected)
      (hstopped : ∀ task, (callback.timer task).stopped = true) :
      Handling state callback [.start .inh, .start .state]
  | started (hstate : state = .connected) (hstopped : (callback.timer .state).stopped = true) :
      Handling state callback [.start .state]
  | lost (hstate : state ≠ .connected) :
      Handling state callback [.stop .state, .stop .inh, .clearCount]
  | stateStopped (hstate : state ≠ .connected) (hstopped : (callback.timer .state).stopped = true) :
      Handling state callback [.stop .inh, .clearCount]
  | stopped (hstate : state ≠ .connected)
      (hstopped : ∀ task, (callback.timer task).stopped = true) :
      Handling state callback [.clearCount]

theorem Handling.mono {state : ConnectState} {callback callback' : ControllerCallback}
    {stmts : List CallbackStmt} (h : Handling state callback stmts)
    (hstopped : ∀ task, (callback.timer task).stopped = true →
      (callback'.timer task).stopped = true) :
    Handling state callback' stmts := by
  cases h with
  | connected hstate h => exact .connected hstate fun task => hstopped task (h task)
  | started hstate h => exact .started hstate (hstopped _ h)
  | lost hstate => exact .lost hstate
  | stateStopped hstate h => exact .stateStopped hstate (hstopped _ h)
  | stopped hstate h => exact .stopped hstate fun task => hstopped task (h task)

/-- Behind every state but CONNECTED the handler is the same. -/
theorem Handling.of_ne {state state' : ConnectState} {callback : ControllerCallback}
    {stmts : List CallbackStmt} (h : Handling state callback stmts) (hstate : state ≠ .connected)
    (hstate' : state' ≠ .connected) : Handling state' callback stmts := by
  cases h with
  | connected hconnected | started hconnected => exact absurd hconnected hstate
  | lost => exact .lost hstate'
  | stateStopped _ hstopped => exact .stateStopped hstate' hstopped
  | stopped _ hstopped => exact .stopped hstate' hstopped

theorem Handling.ne_nil {state : ConnectState} {callback : ControllerCallback}
    {stmts : List CallbackStmt} (h : Handling state callback stmts) : stmts ≠ [] := by
  cases h <;> nofun

/-- The statements of the other handlers. -/
def Starts : CallbackStmt → Bool
  | .start _ => true
  | _ => false

/-- Where the client is not connected the timers are stopped, by the handler at the latest. -/
structure Kept (s : UpExample τ) : Prop where
  callback : s.client.callback = true
  settled : s.app.Settled
  others : ∀ t, s.listener ≠ some t → ∀ stmt ∈ s.app.threads t, Starts stmt = false
  handling : ∀ t, s.listener = some t → Handling s.client.state s.app.callback (s.app.threads t)
  idle : s.listener = none → s.client.state ≠ .connected →
    ∀ task, (s.app.callback.timer task).stopped = true

/-- The handlers of connect states do not overlap, the owner does not close a connection in front
of a handler or a timer that goes on, and a timer that has been created can be set. -/
def Alone (s : UpExample τ) : UpEvent τ → Prop
  | .close => s.client.state = .connected →
    s.listener = none ∧ ∀ task, (s.app.callback.timer task).stopped = true
  | .listen _ _ _ => s.listener = none
  | .app (.go _ outcome) => outcome.timerCreate = true → outcome.timerSettime = true
  | _ => True

variable {s : UpExample τ}

theorem Kept.open (h : s.Kept) (succeeds : Client.OpenStage → Bool) :
    Kept { s with client := (s.client.open succeeds).1 } := by
  obtain ⟨hstate, hcallback⟩ := s.client.open_state succeeds
  refine ⟨hcallback.trans h.callback, h.settled, h.others, ?_, ?_⟩
  · intro t ht
    have hhandling := h.handling t ht
    rwa [← hstate] at hhandling
  · intro hnone hnot
    exact h.idle hnone (hstate ▸ hnot)

theorem Kept.close (h : s.Kept) (halone : s.Alone .close) :
    Kept { s with client := s.client.close } := by
  obtain ⟨hstate, hcallback⟩ := s.client.close_state
  refine ⟨hcallback.trans h.callback, h.settled, h.others, ?_, ?_⟩
  · intro t ht
    have hnot : s.client.state ≠ .connected := by
      intro hconnected
      cases ht.symm.trans (halone hconnected).1
    exact (h.handling t ht).of_ne hnot (by rw [hstate]; nofun)
  · intro hnone _
    by_cases hconnected : s.client.state = .connected
    · exact (halone hconnected).2
    · exact h.idle hnone hconnected

/-- A listener in its handler is not through with it. -/
theorem Kept.settle (h : s.Kept) : s.settle = s := by
  unfold UpExample.settle
  cases hlistener : s.listener with
  | none => rw [Option.filter_none, ← hlistener]
  | some t =>
      have hne := (h.handling t hlistener).ne_nil
      rw [Option.filter_some, if_pos (by simpa using hne), ← hlistener]

/-- A thread that comes to a handler is no listener. -/
theorem Kept.listener_ne (h : s.Kept) {t : τ} (hidle : s.app.threads t = []) :
    s.listener ≠ some t := fun ht => (h.handling t ht).ne_nil hidle

variable [DecidableEq τ]

/-- A thread of the callback comes to the statements. -/
def goto (self : UpExample τ) (callback : ControllerCallback) (t : τ) (stmts : List CallbackStmt) :
    UpExample τ :=
  { self with app := self.app.goto callback t stmts }

theorem goto_self (self : UpExample τ) (callback : ControllerCallback) (t : τ)
    (stmts : List CallbackStmt) : (self.goto callback t stmts).app.threads t = stmts :=
  Function.update_self ..

theorem goto_of_ne (self : UpExample τ) (callback : ControllerCallback) {t t' : τ} (h : t' ≠ t)
    (stmts : List CallbackStmt) :
    (self.goto callback t stmts).app.threads t' = self.app.threads t' :=
  Function.update_of_ne h ..

/-- Other threads start no timer. -/
theorem Kept.goto {callback : ControllerCallback} {t : τ} {stmts : List CallbackStmt} (h : s.Kept)
    (ht : s.listener ≠ some t) (hstmts : ∀ stmt ∈ stmts, Starts stmt = false)
    (hsettled : (s.app.goto callback t stmts).Settled)
    (hstopped : ∀ task, (s.app.callback.timer task).stopped = true →
      (callback.timer task).stopped = true) :
    (s.goto callback t stmts).Kept := by
  refine ⟨h.callback, hsettled, ?_, ?_, ?_⟩
  · intro t' ht'
    by_cases hsame : t' = t
    · rw [hsame, UpExample.goto_self]
      exact hstmts
    · rw [s.goto_of_ne callback hsame]
      exact h.others t' ht'
  · intro t' ht'
    have hne : t' ≠ t := by
      intro hsame
      exact ht (hsame ▸ ht')
    rw [s.goto_of_ne callback hne]
    exact (h.handling t' ht').mono hstopped
  · intro hnone hnot task
    exact hstopped task (h.idle hnone hnot task)

/-- A timer that is started is stopped. -/
theorem Kept.orderly (h : s.Kept) {event : ExampleEvent τ} (halone : s.Alone (.app event)) :
    s.app.Orderly event := by
  cases event with
  | go t outcome =>
      intro task rest hthread hcreate
      have ht : s.listener = some t := by
        by_contra ht
        have hstmt := h.others t ht (.start task) (by rw [hthread]; exact List.mem_cons_self)
        cases hstmt
      refine ⟨?_, halone hcreate⟩
      have hhandling := h.handling t ht
      rw [hthread] at hhandling
      cases hhandling with
      | connected hstate hstopped => exact hstopped .inh
      | started hstate hstopped => exact hstopped
  | _ => trivial

/-- The listener goes on with its handler, or is through with it. -/
theorem Kept.listen {callback : ControllerCallback} {t : τ} {stmts : List CallbackStmt} (h : s.Kept)
    (ht : s.listener = some t) (hsettled : (s.app.goto callback t stmts).Settled)
    (hstmts : Handling s.client.state callback stmts ∨ stmts = [] ∧
      (s.client.state ≠ .connected → ∀ task, (callback.timer task).stopped = true)) :
    (s.goto callback t stmts).settle.Kept := by
  have hothers : ∀ t', s.listener ≠ some t' →
      ∀ stmt ∈ (s.goto callback t stmts).app.threads t', Starts stmt = false := by
    intro t' ht'
    have hne : t' ≠ t := by
      intro hsame
      exact ht' (hsame ▸ ht)
    rw [s.goto_of_ne callback hne]
    exact h.others t' ht'
  rcases hstmts with hhandling | ⟨rfl, hstopped⟩
  · have hkept : (s.goto callback t stmts).Kept := by
      refine ⟨h.callback, hsettled, hothers, ?_, ?_⟩
      · intro t' ht'
        obtain rfl : t = t' := Option.some.inj (ht.symm.trans ht')
        rw [UpExample.goto_self]
        exact hhandling
      · intro hnone
        cases ht.symm.trans hnone
    rw [hkept.settle]
    exact hkept
  · have hnone : (s.goto callback t []).settle.listener = none := by
      simp [UpExample.settle, UpExample.goto, ht]
    refine ⟨h.callback, hsettled, ?_, ?_, fun _ => hstopped⟩
    · intro t' _
      by_cases hsame : t' = t
      · change ∀ stmt ∈ (s.goto callback t []).app.threads t', _
        rw [hsame, UpExample.goto_self]
        nofun
      · apply hothers
        rw [ht]
        exact fun heq => hsame (Option.some.inj heq).symm
    · intro t' ht'
      rw [hnone] at ht'
      cases ht'

/-- A statement of the handler leads to the next one. -/
theorem Handling.perform {state : ConnectState} {callback : ControllerCallback} (outcome : Outcome)
    {stmt : CallbackStmt} {rest : List CallbackStmt} (h : Handling state callback (stmt :: rest)) :
    callback.next rest stmt = rest ∧ (Handling state (callback.perform outcome stmt) rest ∨
      rest = [] ∧ (state ≠ .connected →
        ∀ task, ((callback.perform outcome stmt).timer task).stopped = true)) := by
  cases h with
  | connected hstate hstopped => exact ⟨rfl, .inl (.started hstate (hstopped .state))⟩
  | started hstate => exact ⟨rfl, .inr ⟨rfl, fun hnot => absurd hstate hnot⟩⟩
  | lost hstate => exact ⟨rfl, .inl (.stateStopped hstate (Alarm.stop_stopped _ _))⟩
  | stateStopped hstate hstopped =>
      refine ⟨rfl, .inl (.stopped hstate ?_)⟩
      intro task
      cases task with
      | inh => exact Alarm.stop_stopped _ _
      | state => exact hstopped
  | stopped hstate hstopped => exact ⟨rfl, .inr ⟨rfl, fun _ => hstopped⟩⟩

theorem Kept.go {t : τ} (outcome : Outcome) {stmt : CallbackStmt} {rest : List CallbackStmt}
    (h : s.Kept) (hthread : s.app.threads t = stmt :: rest)
    (hsettled : (s.app.goto (s.app.callback.perform outcome stmt) t
      (s.app.callback.next rest stmt)).Settled) :
    (s.goto (s.app.callback.perform outcome stmt) t
      (s.app.callback.next rest stmt)).settle.Kept := by
  by_cases ht : s.listener = some t
  · have hhandling := h.handling t ht
    rw [hthread] at hhandling
    obtain ⟨hnext, hrest⟩ := hhandling.perform outcome
    rw [hnext] at hsettled ⊢
    exact h.listen ht hsettled hrest
  · have hothers := h.others t ht
    rw [hthread] at hothers
    obtain ⟨hstmt, hrest⟩ := List.forall_mem_cons.mp hothers
    have hstart : ∀ task, stmt ≠ .start task := by
      intro task heq
      rw [heq] at hstmt
      cases hstmt
    have hnext : ∀ stmt' ∈ s.app.callback.next rest stmt, Starts stmt' = false := by
      cases stmt with
      | testCount =>
          simp only [ControllerCallback.next]
          split
          · decide
          · exact hrest
      | _ => exact hrest
    have hkept :=
      h.goto ht hnext hsettled fun _ => ControllerCallback.perform_stopped outcome hstart
    rw [hkept.settle]
    exact hkept

/-- The callback is called with a state only when the client was in another, and with CONNECTED
when it was not connected. -/
theorem Kept.notify {s' : UpExample τ} {t : τ} {state : ConnectState} {closes : Bool} (h : s.Kept)
    (hlistener : s.listener = none) (hstate : state ≠ s.client.state) (hclosed : state ≠ .closed)
    (hstep :
      UpExample.notify { s with client := { s.client with state } } t state closes = some s') :
    s'.Kept := by
  obtain ⟨app, happ, rfl⟩ := Option.map_eq_some_iff.mp hstep
  obtain ⟨hidle, rfl⟩ := Example.enter_eq happ
  refine ⟨?_, h.settled, ?_, ?_, nofun⟩
  · split
    · exact (Client.close_state _).2.trans h.callback
    · exact h.callback
  · intro t' ht'
    have hne : t' ≠ t := fun hsame => ht' (congrArg some hsame.symm)
    change ∀ stmt ∈ (s.app.goto _ t _).threads t', _
    rw [s.app.goto_of_ne _ hne]
    exact h.others t' (by rw [hlistener]; nofun)
  · intro t' ht'
    obtain rfl : t = t' := Option.some.inj ht'
    change Handling _ _ ((s.app.goto _ t _).threads t)
    rw [Example.goto_self]
    cases state with
    | closed => exact absurd rfl hclosed
    | connected => exact .connected rfl (h.idle hlistener (Ne.symm hstate))
    | lost =>
        apply Handling.lost
        split
        · rw [(Client.close_state _).1]
          nofun
        · nofun

theorem Kept.step {s' : UpExample τ} {event : UpEvent τ} (h : s.Kept) (halone : s.Alone event)
    (hstep : s.step event = some s') : s'.Kept := by
  cases event with
  | «open» succeeds =>
      cases hstep
      exact h.open succeeds
  | close =>
      cases hstep
      exact h.close halone
  | listen t tcpiState closes =>
      simp only [UpExample.step, UpExample.listen, Client.listen] at hstep
      cases hreported : s.client.reported tcpiState with
      | none =>
          rw [hreported] at hstep
          cases hstep
          exact h
      | some state =>
          simp only [hreported] at hstep
          by_cases hstate : state = s.client.state
          · rw [if_neg fun hnew => hnew.1 hstate] at hstep
            cases hstep
            exact h
          · rw [if_pos ⟨hstate, h.callback⟩] at hstep
            exact h.notify halone hstate (Client.reported_ne_closed hreported) hstep
  | app event =>
      have horderly := h.orderly halone
      have hmap :
          (s.app.step event).map (fun app => UpExample.settle { s with app }) = some s' := by
        cases event with
        | onUpConnectState | destroy => cases hstep
        | _ => exact hstep
      obtain ⟨app, happ, rfl⟩ := Option.map_eq_some_iff.mp hmap
      have hsettled := h.settled.step horderly happ
      cases Example.step_of_eq happ with
      | onUpConnectState | destroy => cases hstep
      | onCloud2VehInhRes hidle =>
          have hkept := h.goto (h.listener_ne hidle) (by decide) hsettled fun _ => id
          exact hkept.settle ▸ hkept
      | @expire t task hidle harmed =>
          have hkept := h.goto (h.listener_ne hidle) (by cases task <;> decide) hsettled fun _ => id
          exact hkept.settle ▸ hkept
      | go outcome hthread => exact h.go outcome hthread hsettled

end UpExample

end Csae295
