import Csae295.Verification.Client
import Csae295.Verification.Coordination

/-! The socket, the timer and the threads of a channel over its reconnects.

What a call holds follows the stage it has come to: `start` creates the socket and the timer one
after the other, `stop` releases them in the opposite order, and nobody else touches either. So
a reconnect leaves nothing behind, as long as `open` succeeds and `close` is not skipped. -/

namespace Csae295

open Library

/-- What of a connection is there. -/
inductive Holding where
  | nothing
  | socket
  | timer
  | armed
  deriving DecidableEq, Repr

namespace Client

/-- What is there in front of a stage of `open`. -/
def OpenStage.before : OpenStage → Holding
  | .socket => .nothing
  | .inetPton | .connect | .timerCreate => .socket
  | .timerSettime => .timer

/-- What is there behind a stage of `open` that has succeeded. -/
def OpenStage.behind : OpenStage → Holding
  | .socket | .inetPton | .connect => .socket
  | .timerCreate => .timer
  | .timerSettime => .armed

/-- What is there in front of a statement of `close`. -/
def CloseStage.before : CloseStage → Holding
  | .timerDelete => .armed
  | .shutdown | .close => .socket
  | .setClosed => .nothing

/-- What is there behind a statement of `close`. -/
def CloseStage.behind : CloseStage → Holding
  | .timerDelete | .shutdown => .socket
  | .close | .setClosed => .nothing

/-- What is there while the given stages of `open` are left. -/
def opened (stages : List OpenStage) : Holding := stages.head?.elim .armed OpenStage.before

/-- What is there while the given statements of `close` are left. -/
def closed (stages : List CloseStage) : Holding := stages.head?.elim .nothing CloseStage.before

theorem opened_of_suffix {stage : OpenStage} {stages : List OpenStage}
    (h : stage :: stages <:+ openStages) : opened stages = stage.behind := by
  have htails : ∀ rest ∈ openStages.tails, ∀ stage ∈ rest.head?,
      opened rest.tail = stage.behind := by decide
  exact htails _ ((List.mem_tails _ _).mpr h) stage rfl

theorem closed_of_suffix {stage : CloseStage} {stages : List CloseStage}
    (h : stage :: stages <:+ closeStages) : closed stages = stage.behind := by
  have htails : ∀ rest ∈ closeStages.tails, ∀ stage ∈ rest.head?,
      closed rest.tail = stage.behind := by decide
  exact htails _ ((List.mem_tails _ _).mpr h) stage rfl

/-- What is there is the members', and nothing else is live. -/
inductive Owns (c : Client) : Holding → Prop where
  | nothing (hsockets : c.sockets.live = []) (htimers : c.timers.live = [])
      (harmed : c.armed = []) :
      Owns c .nothing
  | socket {sockfd : ℕ} (hsockfd : c.sockfd = some sockfd) (hsockets : c.sockets.live = [sockfd])
      (htimers : c.timers.live = []) (harmed : c.armed = []) : Owns c .socket
  | timer {sockfd timer : ℕ} (hsockfd : c.sockfd = some sockfd)
      (hsockets : c.sockets.live = [sockfd]) (htimer : c.timer = some timer)
      (htimers : c.timers.live = [timer]) (harmed : c.armed = []) : Owns c .timer
  | armed {sockfd timer : ℕ} (hsockfd : c.sockfd = some sockfd)
      (hsockets : c.sockets.live = [sockfd]) (htimer : c.timer = some timer)
      (htimers : c.timers.live = [timer]) (harmed : c.armed = [timer]) : Owns c .armed

variable {c : Client} {holding : Holding}

/-- The state and the callback are nothing that is held. -/
theorem Owns.congr {c' : Client} (h : c.Owns holding)
    (heq : c' = { c with state := c'.state, callback := c'.callback }) : c'.Owns holding := by
  rw [heq]
  cases h with
  | nothing hsockets htimers harmed => exact .nothing hsockets htimers harmed
  | socket hsockfd hsockets htimers harmed => exact .socket hsockfd hsockets htimers harmed
  | timer hsockfd hsockets htimer htimers harmed =>
      exact .timer hsockfd hsockets htimer htimers harmed
  | armed hsockfd hsockets htimer htimers harmed =>
      exact .armed hsockfd hsockets htimer htimers harmed

theorem Owns.listen (h : c.Owns holding) (tcpiState : Byte) :
    (c.listen tcpiState).1.Owns holding := by
  obtain ⟨state, hlisten⟩ := c.listen_eq tcpiState
  rw [hlisten]
  exact h.congr rfl

theorem Owns.perform {stage : OpenStage} (h : c.Owns stage.before) :
    (c.perform stage).Owns stage.behind := by
  cases stage with
  | socket =>
      cases h with
      | nothing hsockets htimers harmed =>
          exact .socket rfl (Handles.create_live_of_nil hsockets) htimers harmed
  | inetPton => exact h
  | connect => exact h
  | timerCreate =>
      cases h with
      | socket hsockfd hsockets htimers harmed =>
          exact .timer hsockfd hsockets rfl (Handles.create_live_of_nil htimers) harmed
  | timerSettime =>
      cases h with
      | timer hsockfd hsockets htimer htimers harmed =>
          refine .armed hsockfd hsockets htimer htimers ?_
          rw [Client.perform, harmed, htimer]
          rfl

theorem Owns.performClose {stage : CloseStage} (h : c.Owns stage.before) :
    (c.performClose stage).Owns stage.behind := by
  cases stage with
  | timerDelete =>
      cases h with
      | armed hsockfd hsockets htimer htimers harmed =>
          refine .socket hsockfd hsockets ?_ ?_
          · rw [Client.performClose, htimer]
            exact Handles.release_live_of_singleton htimers
          · simp [Client.performClose, htimer, harmed]
  | shutdown => exact h
  | close =>
      cases h with
      | socket hsockfd hsockets htimers harmed =>
          refine .nothing ?_ htimers harmed
          rw [Client.performClose, hsockfd]
          exact Handles.release_live_of_singleton hsockets
  | setClosed =>
      cases h with
      | nothing hsockets htimers harmed => exact .nothing hsockets htimers harmed

theorem Owns.length_le (h : c.Owns holding) :
    c.sockets.live.length ≤ 1 ∧ c.timers.live.length ≤ 1 := by
  cases h with
  | nothing hsockets htimers _ => simp [hsockets, htimers]
  | socket _ hsockets htimers _ => simp [hsockets, htimers]
  | timer _ hsockets _ htimers _ => simp [hsockets, htimers]
  | armed _ hsockets _ htimers _ => simp [hsockets, htimers]

end Client

/-! ## One call -/

/-- What a call holds at the statement it has come to. -/
def Thread.Owning (c : Client) : Thread → Prop
  | .start (.opening stages) => stages <:+ Client.openStages ∧ c.Owns (Client.opened stages)
  | .stop (.closing stages) => stages <:+ Client.closeStages ∧ c.Owns (Client.closed stages)
  | .start _ | .stop _ => c.Owns .armed
  | .respawn | .sleeping => c.Owns .nothing
  | .idle | .ticking | .connected _ => True

theorem Thread.Owning.mono {c c' : Client} {thread : Thread} (h : thread.Owning c)
    (hmono : ∀ holding, c.Owns holding → c'.Owns holding) : thread.Owning c' := by
  unfold Thread.Owning at h ⊢
  split at h
  · exact ⟨h.1, hmono _ h.2⟩
  · exact ⟨h.1, hmono _ h.2⟩
  · exact hmono _ h
  · exact hmono _ h
  · exact hmono _ h
  · exact hmono _ h
  all_goals trivial

theorem Thread.Quiet.owning {thread : Thread} (h : thread.Quiet) (c : Client) :
    thread.Owning c := by
  cases thread with
  | idle | ticking | connected => trivial
  | stop | respawn | sleeping | start => exact h.elim

theorem Link.startStep_owning {link link' : Link} {pc : StartPc} {next : Option StartPc}
    (hflags : link.flags = pc.flags) (h : (Thread.start pc).Owning link.client)
    (hstep : link.startStep true pc = some (link', next)) :
    link'.aborted = link.aborted ∧
      next.elim (link'.client.Owns .armed) fun pc' => (Thread.start pc').Owning link'.client := by
  cases pc with
  | opening stages =>
      obtain ⟨hsuffix, howns⟩ := h
      cases stages with
      | nil =>
          cases hstep
          exact ⟨rfl, howns⟩
      | cons stage stages =>
          simp only [Link.startStep, if_true] at hstep
          split at hstep
          · cases hstep
            refine ⟨rfl, (List.suffix_cons stage stages).trans hsuffix, ?_⟩
            rw [Client.opened_of_suffix hsuffix]
            exact howns.perform
          · cases hstep
  | recvThread =>
      simp only [Link.flags, StartPc.flags, Prod.mk.injEq] at hflags
      simp only [Link.startStep, hflags, Bool.false_eq_true, if_false] at hstep
      cases hstep
      exact ⟨rfl, h⟩
  | sendThread =>
      simp only [Link.flags, StartPc.flags, Prod.mk.injEq] at hflags
      simp only [Link.startStep, hflags, Bool.false_eq_true, if_false] at hstep
      cases hstep
      exact ⟨rfl, h⟩

theorem Link.stopStep_owning {link : Link} {pc : StopPc} (hflags : link.flags = pc.flags)
    (h : (Thread.stop pc).Owning link.client)
    (hstate : pc = .closeTest → link.client.state ≠ .closed) :
    (link.stopStep pc).1.aborted = link.aborted ∧
      (link.stopStep pc).2.elim ((link.stopStep pc).1.client.Owns .nothing)
        fun pc' => (Thread.stop pc').Owning (link.stopStep pc).1.client := by
  cases pc with
  | test =>
      simp only [Link.flags, StopPc.flags, Prod.mk.injEq] at hflags
      simp only [Link.stopStep, hflags, Bool.false_eq_true, if_false, Option.elim_some]
      split <;> exact ⟨trivial, h⟩
  | heartbeat stage =>
      refine ⟨rfl, ?_⟩
      simp only [Link.stopStep, Option.elim_some]
      cases (link.heartbeat.stopStep stage).2 <;> exact h
  | setStopped => exact ⟨rfl, h⟩
  | joinRecv =>
      simp only [Link.flags, StopPc.flags, Prod.mk.injEq] at hflags
      simp only [Link.stopStep, hflags, if_true]
      exact ⟨trivial, h⟩
  | joinSend =>
      simp only [Link.flags, StopPc.flags, Prod.mk.injEq] at hflags
      simp only [Link.stopStep, hflags, if_true]
      exact ⟨trivial, h⟩
  | closeTest =>
      simp only [Link.stopStep, if_neg (hstate rfl)]
      exact ⟨trivial, List.suffix_refl _, h⟩
  | closing stages =>
      obtain ⟨hsuffix, howns⟩ := h
      cases stages with
      | nil => exact ⟨rfl, howns⟩
      | cons stage stages =>
          refine ⟨rfl, (List.suffix_cons stage stages).trans hsuffix, ?_⟩
          rw [Client.closed_of_suffix hsuffix]
          exact howns.performClose

/-! ## Runs -/

namespace Lifecycle

variable {τ : Type}

/-- Calls and losses do not meet, no call of `open` fails, and every `stop` that comes to `close`
finds that the callback has been told of a state. -/
def Reliable (s : Lifecycle τ) (event : LifecycleEvent τ) : Prop :=
  s.Uncontended event ∧ match event with
    | .go a succeeds => (∀ pc, s.threads a = .start pc → succeeds = true) ∧
        (s.threads a = .stop .closeTest → s.link.client.state ≠ .closed)
    | _ => True

/-- The process has not ended, and what is held follows the owner's last call or the call that is
under way. -/
structure Provided (s : Lifecycle τ) : Prop where
  coordinated : s.Coordinated
  alive : s.link.aborted = false
  rest : (∀ a, (s.threads a).Quiet) → s.link.client.Owns (if s.wanted then .armed else .nothing)
  owning : ∀ a, (s.threads a).Owning s.link.client

variable {s : Lifecycle τ}

theorem Provided.length_le (h : s.Provided) :
    s.link.client.sockets.live.length ≤ 1 ∧ s.link.client.timers.live.length ≤ 1 := by
  by_cases hquiet : ∀ a, (s.threads a).Quiet
  · exact (h.rest hquiet).length_le
  · obtain ⟨a, hactive⟩ := not_forall.mp hquiet
    have howning := h.owning a
    unfold Thread.Owning at howning
    split at howning
    · exact howning.2.length_le
    · exact howning.2.length_le
    · exact howning.length_le
    · exact howning.length_le
    · exact howning.length_le
    · exact howning.length_le
    all_goals
      next hthread =>
        rw [hthread] at hactive
        exact absurd trivial hactive

variable [DecidableEq τ]

/-- A quiet thread that stays quiet takes nothing away. -/
theorem Provided.goto_quiet {a : Actor τ} {link : Link} {thread : Thread} (h : s.Provided)
    (hcoordinated : (s.goto a link thread).Coordinated) (hold : (s.threads a).Quiet)
    (hthread : thread.Quiet) (hlink : link.aborted = s.link.aborted)
    (hmono : ∀ holding, s.link.client.Owns holding → link.client.Owns holding) :
    (s.goto a link thread).Provided := by
  refine ⟨hcoordinated, hlink.trans h.alive, ?_, ?_⟩
  · intro hquiet
    have hothers := ((forall_goto_iff s a link thread fun _ thread => thread.Quiet).mp hquiet).2
    apply hmono
    apply h.rest
    intro b
    by_cases hb : b = a
    · rw [hb]
      exact hold
    · exact hothers b hb
  · exact (forall_goto_iff s a link thread fun _ thread => thread.Owning link.client).mpr
      ⟨hthread.owning _, fun b _ => (h.owning b).mono hmono⟩

/-- The one actor under way goes on, or ends its call. -/
theorem provided_goto_active {a : Actor τ} {link : Link} {thread : Thread}
    (hcoordinated : (s.goto a link thread).Coordinated) (hothers : ∀ b, b ≠ a → (s.threads b).Quiet)
    (hlink : link.aborted = false) (howning : thread.Owning link.client)
    (hrest : thread.Quiet → link.client.Owns (if s.wanted then .armed else .nothing)) :
    (s.goto a link thread).Provided := by
  refine ⟨hcoordinated, hlink, ?_, ?_⟩
  · intro hquiet
    have hthread := hquiet a
    rw [goto_threads_self] at hthread
    exact hrest hthread
  · exact (forall_goto_iff s a link thread fun _ thread => thread.Owning link.client).mpr
      ⟨howning, fun b hb => (hothers b hb).owning _⟩

theorem Provided.step {s' : Lifecycle τ} {event : LifecycleEvent τ} (h : s.Provided)
    (hallowed : s.Reliable event) (hstep : s.step event = some s') : s'.Provided := by
  obtain ⟨huncontended, hreliable⟩ := hallowed
  have hcoordinated := h.coordinated.step huncontended hstep
  cases step_cases hstep with
  | ownerStart hidle hwanted =>
      have howns := h.rest huncontended
      rw [hwanted] at howns
      have howning : (Thread.start (.opening Client.openStages)).Owning s.link.begin.client :=
        ⟨List.suffix_refl _, howns.congr rfl⟩
      exact provided_goto_active (s := { s with wanted := true }) hcoordinated
        (fun b _ => huncontended b) h.alive howning False.elim
  | ownerStop hidle hwanted =>
      have howns := h.rest huncontended
      rw [hwanted] at howns
      have howning : (Thread.stop .test).Owning s.link.client := howns
      exact provided_goto_active (s := { s with wanted := false }) hcoordinated
        (fun b _ => huncontended b) h.alive howning False.elim
  | expire hidle harmed =>
      exact h.goto_quiet hcoordinated (by rw [hidle]; trivial) trivial rfl fun _ => id
  | @listen t tcpiState hticking =>
      have hquiet : (s.threads (.thread t)).Quiet := by
        rw [hticking]
        trivial
      have hmono : ∀ holding, s.link.client.Owns holding →
          (s.link.client.listen tcpiState).1.Owns holding := fun _ howns => howns.listen tcpiState
      cases hstate : (s.link.client.listen tcpiState).2 with
      | none =>
          rw [hstate] at hcoordinated
          exact h.goto_quiet hcoordinated hquiet trivial rfl hmono
      | some state =>
          rw [hstate] at hcoordinated
          cases state with
          | closed => exact h.goto_quiet hcoordinated hquiet trivial rfl hmono
          | connected =>
              exact h.goto_quiet hcoordinated hquiet (Thread.notified_connected_quiet _) rfl hmono
          | lost =>
              obtain ⟨hwanted, hall⟩ := huncontended hstate
              have howns := h.rest hall
              rw [hwanted] at howns
              exact provided_goto_active hcoordinated (fun b _ => hall b) h.alive
                (hmono _ howns) False.elim
  | @connected a succeeds stage hthread =>
      refine h.goto_quiet hcoordinated (by rw [hthread]; trivial) ?_ rfl fun _ => id
      cases (s.link.heartbeat.startStep stage succeeds).2 <;> trivial
  | @stop a succeeds pc hthread =>
      obtain ⟨hcarries, hothers⟩ := h.coordinated.carries (a := a)
        (by rw [hthread]; exact not_false)
      simp only [Carries, hthread] at hcarries
      have howning := h.owning a
      rw [hthread] at howning
      obtain ⟨hlink, hnext⟩ := Link.stopStep_owning hcarries.1 howning fun hpc =>
        hreliable.2 (by rw [hthread, hpc])
      cases hpc : (s.link.stopStep pc).2 with
      | some pc' =>
          rw [hpc] at hcoordinated hnext
          exact provided_goto_active hcoordinated hothers (hlink.trans h.alive) hnext False.elim
      | none =>
          rw [hpc] at hcoordinated hnext
          refine provided_goto_active hcoordinated hothers (hlink.trans h.alive) ?_ ?_
          · cases a with
            | owner => trivial
            | thread t => exact hnext
          · intro hquiet
            cases a with
            | owner =>
                have hwanted : s.wanted = false := by simpa using hcarries.2
                rw [hwanted]
                exact hnext
            | thread t => exact hquiet.elim
  | @wake a succeeds hthread =>
      obtain ⟨-, hothers⟩ := h.coordinated.carries (a := a) (by rw [hthread]; exact not_false)
      have howns := h.owning a
      rw [hthread] at howns
      exact provided_goto_active hcoordinated hothers h.alive
        ⟨List.suffix_refl _, Client.Owns.congr howns rfl⟩ False.elim
  | @start a succeeds pc link next hthread hlink =>
      obtain ⟨hcarries, hothers⟩ := h.coordinated.carries (a := a)
        (by rw [hthread]; exact not_false)
      simp only [Carries, hthread] at hcarries
      have howning := h.owning a
      rw [hthread] at howning
      rw [hreliable.1 pc hthread] at hlink
      obtain ⟨haborted, hnext⟩ := Link.startStep_owning hcarries.1 howning hlink
      cases next with
      | some pc' =>
          exact provided_goto_active hcoordinated hothers (haborted.trans h.alive) hnext False.elim
      | none =>
          refine provided_goto_active hcoordinated hothers (haborted.trans h.alive) trivial ?_
          intro _
          rw [hcarries.2]
          exact hnext
  | @spawn t t' hrespawn hidle =>
      obtain ⟨-, hothers⟩ := h.coordinated.carries (a := .thread t)
        (by rw [hrespawn]; exact not_false)
      have howns := h.owning (.thread t)
      rw [hrespawn] at howns
      have hrest : ∀ b, ((s.goto (.thread t) s.link .idle).threads b).Quiet :=
        quiet_goto hothers trivial
      exact provided_goto_active hcoordinated (fun b _ => hrest b) h.alive howns False.elim

end Lifecycle

end Csae295
