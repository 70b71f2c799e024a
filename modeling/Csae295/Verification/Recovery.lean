import Csae295.Verification.Client
import Csae295.Verification.Lifecycle

/-! Whether a started channel is watched.

The listen timer of a started channel watches its socket, or somebody is on the way to open the
socket and to arm the timer. What breaks this is a call that fails in `open`: `start` goes on
behind it, and nobody comes back. -/

namespace Csae295

open Library

namespace Client

/-- The listen timer is armed. -/
def Armed (self : Client) : Prop := ∃ t ∈ self.timers.live, self.timer = some t ∧ t ∈ self.armed

/-- The listen timer is armed on the open socket. -/
def Watched (self : Client) : Prop := self.sockets.Holds self.sockfd ∧ self.Armed

/-- What a stage of `open` is for is there. -/
def Has (self : Client) : OpenStage → Prop
  | .socket => self.sockets.Holds self.sockfd
  | .timerSettime => self.Armed
  | _ => True

theorem perform_has {self : Client} {stage : OpenStage} (h : self.Ready stage) :
    (self.perform stage).Has stage := by
  cases stage with
  | socket => exact ⟨self.sockets.created, List.mem_append_right _ List.mem_cons_self, rfl⟩
  | timerSettime =>
      obtain ⟨t, hlive, htimer⟩ := h
      refine ⟨t, hlive, htimer, List.mem_append_right _ ?_⟩
      rw [htimer]
      exact List.mem_cons_self
  | inetPton | connect | timerCreate => trivial

/-- Of what is there, `open` replaces the timer only. -/
theorem Has.perform {self : Client} {stage need : OpenStage} (h : self.Has need)
    (hstage : stage = .timerCreate → need ≠ .timerSettime) : (self.perform stage).Has need := by
  cases need with
  | inetPton | connect | timerCreate => trivial
  | socket =>
      cases stage with
      | socket => exact ⟨self.sockets.created, List.mem_append_right _ List.mem_cons_self, rfl⟩
      | inetPton | connect | timerCreate | timerSettime => exact h
  | timerSettime =>
      cases stage with
      | timerCreate => exact absurd rfl (hstage rfl)
      | socket | inetPton | connect => exact h
      | timerSettime =>
          obtain ⟨t, hlive, htimer, harmed⟩ := h
          exact ⟨t, hlive, htimer, List.mem_append_left _ harmed⟩

/-- Of what is there, a failure takes away the descriptor only. -/
theorem Has.fail {self : Client} {stage need : OpenStage} (h : self.Has need)
    (hstage : stage = .socket → need ≠ .socket) : (self.fail stage).Has need := by
  cases stage with
  | inetPton | connect | timerCreate | timerSettime => exact h
  | socket =>
      cases need with
      | socket => exact absurd rfl (hstage rfl)
      | inetPton | connect | timerCreate => trivial
      | timerSettime => exact h

theorem Has.listen {self : Client} {need : OpenStage} (h : self.Has need) (tcpiState : Byte) :
    (self.listen tcpiState).1.Has need := by
  obtain ⟨state, hlisten⟩ := self.listen_eq tcpiState
  rw [hlisten]
  cases need <;> exact h

theorem mem_openStages (stage : OpenStage) : stage ∈ openStages := by
  cases stage <;> decide

/-- Behind the creation of the timer comes its arming. -/
theorem timerSettime_mem {stages : List OpenStage} (h : .timerCreate :: stages <:+ openStages) :
    .timerSettime ∈ stages := by
  have htails : ∀ rest ∈ openStages.tails,
      rest.head? = some .timerCreate → .timerSettime ∈ rest.tail := by decide
  exact htails _ ((List.mem_tails _ _).mpr h) rfl

end Client

/-- `start` performs a stage of `open`, or meets a failure, or leaves the client alone. -/
inductive Link.Opening (link link' : Link) (succeeds : Bool) (next : Option StartPc) :
    StartPc → Prop where
  | perform {stage : Client.OpenStage} {stages : List Client.OpenStage}
      (hready : link.client.Ready stage) (hclient : link'.client = link.client.perform stage)
      (hnext : next = some (.opening stages)) : Opening link link' succeeds next
        (.opening (stage :: stages))
  | fail {stage : Client.OpenStage} {stages : List Client.OpenStage} (hfails : succeeds = false)
      (hclient : link'.client = link.client.fail stage) (hnext : next = some (.opening [])) :
      Opening link link' succeeds next (.opening (stage :: stages))
  | behind {pc : StartPc} (hpc : ∀ stage stages, pc ≠ .opening (stage :: stages))
      (hclient : link'.client = link.client) (hnext : ∀ stages, next ≠ some (.opening stages)) :
      Opening link link' succeeds next pc

theorem Link.startStep_opening {link link' : Link} {succeeds : Bool} {pc : StartPc}
    {next : Option StartPc} (h : link.startStep succeeds pc = some (link', next)) :
    link.Opening link' succeeds next pc := by
  unfold Link.startStep at h
  split at h
  · split_ifs at h with hsucceeds hready
    · cases h
      exact .perform hready rfl rfl
    · cases h
      exact .fail (Bool.not_eq_true _ ▸ hsucceeds) rfl rfl
  · cases h
    exact .behind nofun rfl nofun
  · cases h
    refine .behind nofun ?_ nofun
    split <;> rfl
  · cases h
    refine .behind nofun ?_ nofun
    split <;> rfl

/-- The thread will come to this stage of `open`, unless the owner starts anew. -/
def Thread.Ahead {τ : Type} (a : Actor τ) (stage : Client.OpenStage) : Thread → Prop
  | .start (.opening stages) => stage ∈ stages
  | .stop _ | .respawn | .sleeping => a ≠ .owner
  | _ => False

/-- A thread that is in no call and in no handler. -/
def Thread.Outside : Thread → Prop
  | .idle | .ticking | .sleeping => True
  | _ => False

namespace Lifecycle

variable {τ : Type}

/-- Of a channel that has been started, everything `open` is for is there or still to come. -/
structure Kept (s : Lifecycle τ) : Prop where
  stopping : ∀ pc, s.threads .owner = .stop pc → s.wanted = false
  stages : ∀ a stages, s.threads a = .start (.opening stages) → stages <:+ Client.openStages
  held : s.wanted = true → ∀ stage,
    s.link.client.Has stage ∨ ∃ a, (s.threads a).Ahead a stage

/-- Where a stage of `open` fails, everything `open` is for is there nevertheless, or somebody
else will come to it. -/
def Backed (s : Lifecycle τ) (a : Actor τ) (stage : Client.OpenStage) : Prop :=
  ∀ need, s.link.client.Has need ∧ (stage = .socket → need ≠ .socket) ∨
    ∃ b, b ≠ a ∧ (s.threads b).Ahead b need

/-- On a channel that has been started, every failure in `open` has a backing. -/
def Retried (s : Lifecycle τ) : LifecycleEvent τ → Prop
  | .go a succeeds => succeeds = false → s.wanted = true → ∀ stage stages,
      s.threads a = .start (.opening (stage :: stages)) → s.Backed a stage
  | _ => True

/-- A started channel is watched, or a reconnect is pending. -/
def Guarded (s : Lifecycle τ) : Prop :=
  s.wanted = true → (∀ a, (s.threads a).Outside) →
    s.link.client.Watched ∨ ∃ t, s.threads (.thread t) = .sleeping

theorem notified_ne_start (ch : Byte) (state : Option ConnectState) (pc : StartPc) :
    Thread.notified ch state ≠ .start pc := by
  unfold Thread.notified
  split
  · nofun
  · split <;> nofun
  · nofun

theorem ahead_of_outside {a : Actor τ} {stage : Client.OpenStage} {thread : Thread}
    (hahead : thread.Ahead a stage) (houtside : thread.Outside) : thread = .sleeping ∧ a ≠ .owner := by
  cases thread with
  | sleeping => exact ⟨rfl, hahead⟩
  | idle | ticking | connected | stop | respawn | start =>
      first
      | exact absurd houtside not_false
      | exact absurd hahead not_false

theorem Kept.guarded {s : Lifecycle τ} (h : s.Kept) : s.Guarded := by
  intro hwanted houtside
  by_cases hpending : ∃ t, s.threads (.thread t) = .sleeping
  · exact .inr hpending
  have hhas : ∀ stage, s.link.client.Has stage := by
    intro stage
    rcases h.held hwanted stage with hhas | ⟨a, hahead⟩
    · exact hhas
    obtain ⟨hsleeping, howner⟩ := ahead_of_outside hahead (houtside a)
    cases a with
    | owner => exact absurd rfl howner
    | thread t => exact absurd ⟨t, hsleeping⟩ hpending
  exact .inl ⟨hhas .socket, hhas .timerSettime⟩

/-! ## Steps -/

variable [DecidableEq τ]

/-- One actor goes on, and the others are where they were. -/
theorem Kept.goto {s : Lifecycle τ} {a : Actor τ} {link : Link} {thread : Thread} (h : s.Kept)
    (hstopping : a = .owner → ∀ pc, thread = .stop pc → s.wanted = false)
    (hstages : ∀ stages, thread = .start (.opening stages) → stages <:+ Client.openStages)
    (hheld : s.wanted = true → ∀ stage, link.client.Has stage ∨ thread.Ahead a stage ∨
      ∃ b, b ≠ a ∧ (s.threads b).Ahead b stage) : (s.goto a link thread).Kept := by
  constructor
  · intro pc hpc
    by_cases ha : .owner = a
    · subst ha
      rw [goto_threads_self] at hpc
      exact hstopping rfl pc hpc
    · rw [goto_threads_ne s a link thread ha] at hpc
      exact h.stopping pc hpc
  · exact (forall_goto_iff s a link thread fun _ thread => ∀ stages,
      thread = .start (.opening stages) → stages <:+ Client.openStages).mpr
        ⟨hstages, fun b _ => h.stages b⟩
  · intro hwanted stage
    rcases hheld hwanted stage with hhas | hahead
    · exact .inl hhas
    · exact .inr ((exists_goto_iff s a link thread fun b thread => thread.Ahead b stage).mpr hahead)

/-- What is there or to come, seen from one actor. -/
theorem Kept.held_cases {s : Lifecycle τ} (h : s.Kept) (a : Actor τ) (hwanted : s.wanted = true)
    (stage : Client.OpenStage) : s.link.client.Has stage ∨ (s.threads a).Ahead a stage ∨
      ∃ b, b ≠ a ∧ (s.threads b).Ahead b stage := by
  rcases h.held hwanted stage with hhas | ⟨b, hahead⟩
  · exact .inl hhas
  by_cases hba : b = a
  · subst hba
    exact .inr (.inl hahead)
  · exact .inr (.inr ⟨b, hba, hahead⟩)

/-- An actor that does not touch the client and has as much ahead as before. -/
theorem Kept.goto_same {s : Lifecycle τ} {a : Actor τ} {link : Link} {thread : Thread} (h : s.Kept)
    (hstopping : a = .owner → ∀ pc, thread = .stop pc → s.wanted = false)
    (hstages : ∀ stages, thread = .start (.opening stages) → stages <:+ Client.openStages)
    (hclient : ∀ stage, s.link.client.Has stage → link.client.Has stage)
    (hahead : s.wanted = true → ∀ stage, (s.threads a).Ahead a stage → thread.Ahead a stage) :
    (s.goto a link thread).Kept := by
  refine h.goto hstopping hstages fun hwanted stage => ?_
  rcases h.held_cases a hwanted stage with hhas | hself | hother
  · exact .inl (hclient stage hhas)
  · exact .inr (.inl (hahead hwanted stage hself))
  · exact .inr (.inr hother)

theorem Kept.start {s : Lifecycle τ} {a : Actor τ} {succeeds : Bool} {pc : StartPc} {link : Link}
    {next : Option StartPc} (h : s.Kept) (hretried : s.Retried (.go a succeeds))
    (hthread : s.threads a = .start pc) (hlink : s.link.startStep succeeds pc = some (link, next)) :
    (s.goto a link (next.elim .idle .start)).Kept := by
  have hstopping : a = .owner → ∀ pc, next.elim .idle .start = Thread.stop pc → s.wanted = false := by
    intro _ pc hpc
    cases next <;> cases hpc
  cases Link.startStep_opening hlink with
  | @perform stage stages hready hclient hnext =>
      subst hnext
      have hsuffix := h.stages a _ hthread
      refine h.goto hstopping ?_ fun hwanted need => ?_
      · rintro _ ⟨⟩
        exact (List.suffix_cons stage stages).trans hsuffix
      rw [hclient]
      rcases h.held_cases a hwanted need with hhas | hself | hother
      · by_cases hcreate : stage = .timerCreate ∧ need = .timerSettime
        -- A new timer replaces the armed one, and this actor is about to arm it.
        · obtain ⟨rfl, rfl⟩ := hcreate
          exact .inr (.inl (Client.timerSettime_mem hsuffix))
        · exact .inl (hhas.perform fun hstage hneed => hcreate ⟨hstage, hneed⟩)
      · rw [hthread] at hself
        rcases List.mem_cons.mp hself with rfl | hmem
        · exact .inl (Client.perform_has hready)
        · exact .inr (.inl hmem)
      · exact .inr (.inr hother)
  | @fail stage stages hfails hclient hnext =>
      subst hnext
      refine h.goto hstopping ?_ fun hwanted need => ?_
      · rintro _ ⟨⟩
        exact List.nil_suffix
      rw [hclient]
      rcases hretried hfails hwanted stage stages hthread need with ⟨hhas, hstage⟩ | hother
      · exact .inl (hhas.fail hstage)
      · exact .inr (.inr hother)
  | behind hpc hclient hnext =>
      refine h.goto_same hstopping ?_ (fun stage hhas => hclient ▸ hhas) fun _ stage hself => ?_
      · intro stages hstages
        cases next with
        | none => cases hstages
        | some pc' => exact absurd (congrArg some (Thread.start.inj hstages)) (hnext stages)
      · rw [hthread] at hself
        cases pc with
        | opening stages =>
            cases stages with
            | nil => cases hself
            | cons stage' stages => exact absurd rfl (hpc stage' stages)
        | recvThread | sendThread => exact absurd hself not_false

/-- The owner's `stop` comes with its wish; behind any other `stop` the channel is opened. -/
theorem Kept.stop {s : Lifecycle τ} {a : Actor τ} {pc : StopPc} (h : s.Kept)
    (hthread : s.threads a = .stop pc) :
    (s.goto a (s.link.stopStep pc).1 ((s.link.stopStep pc).2.elim a.stopped .stop)).Kept := by
  have howner : a = .owner → s.wanted = false := by
    rintro rfl
    exact h.stopping pc hthread
  refine h.goto (fun ha _ _ => howner ha) ?_ fun hwanted stage => .inr (.inl ?_)
  · intro stages hstages
    cases hnext : (s.link.stopStep pc).2 <;> rw [hnext] at hstages
    · cases a <;> cases hstages
    · cases hstages
  · cases a with
    | owner =>
        rw [howner rfl] at hwanted
        cases hwanted
    | thread t => cases (s.link.stopStep pc).2 <;> exact nofun

theorem Kept.step {s s' : Lifecycle τ} {event : LifecycleEvent τ} (h : s.Kept)
    (hretried : s.Retried event) (hstep : s.step event = some s') : s'.Kept := by
  cases step_cases hstep with
  | ownerStart hidle hwanted =>
      refine ⟨fun pc hpc => ?_, fun a stages ha => ?_, fun _ stage => .inr ⟨.owner, ?_⟩⟩
      · simp only [goto_threads_self, reduceCtorEq] at hpc
      · by_cases howner : a = .owner
        · simp only [howner, goto_threads_self, Thread.start.injEq, StartPc.opening.injEq] at ha
          rw [← ha]
        · simp only [goto_threads_ne s _ _ _ howner] at ha
          exact h.stages a stages ha
      · simp only [goto_threads_self]
        exact Client.mem_openStages stage
  | ownerStop hidle hwanted =>
      refine ⟨fun _ _ => rfl, fun a stages ha => ?_, nofun⟩
      by_cases howner : a = .owner
      · simp only [howner, goto_threads_self, reduceCtorEq] at ha
      · simp only [goto_threads_ne s _ _ _ howner] at ha
        exact h.stages a stages ha
  | @expire t hidle harmed =>
      refine h.goto_same nofun nofun (fun _ => id) fun _ stage hself => ?_
      rw [hidle] at hself
      exact absurd hself not_false
  | @listen t tcpiState hticking =>
      refine h.goto_same nofun ?_ (fun stage hhas => hhas.listen tcpiState) fun _ stage hself => ?_
      · intro stages hstages
        exact absurd hstages (notified_ne_start _ _ _)
      · rw [hticking] at hself
        exact absurd hself not_false
  | @connected a succeeds stage hthread =>
      refine h.goto_same ?_ ?_ (fun _ => id) fun _ stage hself => ?_
      · intro _ pc hpc
        cases hnext : (s.link.heartbeat.startStep stage succeeds).2 <;> rw [hnext] at hpc
        · cases hpc
        · cases hpc
      · intro stages hstages
        cases hnext : (s.link.heartbeat.startStep stage succeeds).2 <;> rw [hnext] at hstages
        · cases hstages
        · cases hstages
      · rw [hthread] at hself
        exact absurd hself not_false
  | stop hthread => exact h.stop hthread
  | @wake a succeeds hthread =>
      refine h.goto_same nofun ?_ ?_ fun _ stage _ => ?_
      · rintro _ ⟨⟩
        exact List.suffix_rfl
      · intro stage hhas
        cases stage <;> exact hhas
      · exact Client.mem_openStages stage
  | start hthread hlink => exact h.start hretried hthread hlink
  | @spawn t t' hrespawn hidle =>
      have hne : Actor.thread t ≠ .thread t' :=
        ne_of_apply_ne s.threads (by rw [hrespawn, hidle]; nofun)
      -- The thread that reconnects comes first, so that it backs the one that ends.
      rw [goto_comm s (.thread t) s.link .idle hne .sleeping]
      have hpending : (s.goto (.thread t') s.link .sleeping).Kept :=
        h.goto_same nofun nofun (fun _ => id) fun _ _ _ => nofun
      refine hpending.goto nofun nofun fun _ stage => .inr (.inr ⟨.thread t', hne.symm, ?_⟩)
      rw [goto_threads_self]
      exact nofun

/-! ## Runs -/

theorem Kept.reaches {s : Lifecycle τ} (h : (system τ).Reaches Retried s) : s.Kept := by
  refine h.invariant ?_ fun _ _ _ hinv hretried hstep => hinv.step hretried hstep
  rintro s (rfl | rfl)
  · exact ⟨nofun, nofun, nofun⟩
  · exact ⟨nofun, nofun, nofun⟩

/-- In every run whose failures in `open` have a backing, a started channel is watched, or a
reconnect is pending. -/
theorem start_guarded {s : Lifecycle τ} (h : (system τ).Reaches Retried s) : s.Guarded :=
  (Kept.reaches h).guarded

/-- The connection is lost, and while the thread that reconnects is asleep the owner stops the
channel and starts it again: its `connect` fails, and the channel is not watched, but about to be
retried. -/
theorem start_guarded_connect_fails : ∃ s : Lifecycle Bool, (system Bool).Reaches Retried s ∧
    s.wanted = true ∧ s.link.client.timers.live = [] ∧
      ∃ t, s.threads (.thread t) = .sleeping := by
  have hinit : (system Bool).Reaches Retried (.new Bool upChannel) := .init (.inl rfl)
  have hbegun := hinit.run [.ownerStart] ⟨trivial, trivial⟩ rfl
  have hstarted := hbegun.run (goes .owner 8) (along_goes (fun _ => nofun) 8 _) rfl
  have hlost := hstarted.run [.expire false, .listen false 7] ⟨trivial, trivial, trivial⟩ rfl
  have hstopped := hlost.run (goes (.thread false) 10) (along_goes (fun _ => nofun) 10 _) rfl
  have hsleeping := hstopped.run [.spawn false true, .ownerStop] ⟨trivial, trivial, trivial⟩ rfl
  have hagain := hsleeping.run (goes .owner 2) (along_goes (fun _ => nofun) 2 _) rfl
  have hopening := hagain.run (.ownerStart :: goes .owner 2)
    ⟨trivial, along_goes (fun _ => nofun) 2 _⟩ rfl
  -- the thread in its five seconds has all of `open` ahead
  have hbacked : ∀ s : Lifecycle Bool, s.threads (.thread true) = .sleeping →
      s.Retried (.go .owner false) := by
    intro s hthread _ _ stage stages _ need
    exact .inr ⟨.thread true, nofun, by rw [hthread]; exact nofun⟩
  have hfailed := hopening.run [.go .owner false] ⟨hbacked _ rfl, trivial⟩ rfl
  have hreturned := hfailed.run (goes .owner 3) (along_goes (fun _ => nofun) 3 _) rfl
  refine ⟨_, hreturned, rfl, rfl, (start_guarded hreturned rfl ?_).resolve_left ?_⟩
  · rintro (_ | _ | _) <;> trivial
  · rintro ⟨-, t, hlive, -⟩
    cases hlive

/-- The server does not answer the owner's `connect`. -/
theorem connect_fails_unguarded :
    ¬ ∀ s : Lifecycle Bool, (system Bool).Reachable s → s.Guarded := by
  intro hall
  have hinit : (system Bool).Reachable (.new Bool upChannel) := .init (.inl rfl)
  have hstarted := hinit.run (.ownerStart :: goes .owner 2 ++ [.go .owner false] ++ goes .owner 3) rfl
  rcases hall _ hstarted rfl (by rintro (_ | _ | _) <;> trivial) with hwatched | ⟨t, ht⟩
  · obtain ⟨-, t, hlive, -⟩ := hwatched
    cases hlive
  · cases t <;> cases ht

end Lifecycle

end Csae295
