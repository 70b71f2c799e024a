import Csae295.Verification.Lifecycle

/-! Who opens a channel, and over which threads.

The owner, the handler of LOST and the reconnecting threads know of each other by the flag
alone, which `start` clears behind `open` and which makes `stop` return at once. As long as one
of them is under way at a time, the flag and the two threads follow the statement it has come
to. -/

namespace Csae295

open Library

/-! ## One call at a time -/

/-- The flag, and whether the threads are joinable. -/
def Link.flags (link : Link) : Bool × Bool × Bool := (link.stopped, link.recvThread, link.sendThread)

/-- Before each statement of a `start` that runs alone. -/
def StartPc.flags : StartPc → Bool × Bool × Bool
  | .opening _ => (true, false, false)
  | .recvThread => (false, false, false)
  | .sendThread => (false, true, false)

/-- Before each statement of a `stop` that runs alone. -/
def StopPc.flags : StopPc → Bool × Bool × Bool
  | .test | .heartbeat _ | .setStopped => (false, true, true)
  | .joinRecv => (true, true, true)
  | .joinSend => (true, false, true)
  | .closeTest | .closing _ => (true, false, false)

theorem Link.startStep_flags {link link' : Link} {succeeds : Bool} {pc : StartPc}
    {next : Option StartPc} (h : link.flags = pc.flags)
    (hstep : link.startStep succeeds pc = some (link', next)) :
    link'.flags = next.elim (false, true, true) StartPc.flags := by
  unfold Link.startStep at hstep
  split at hstep
  · split_ifs at hstep <;> cases hstep <;> exact h
  · cases hstep
    simp only [Link.flags, StartPc.flags, Prod.mk.injEq] at h
    simp only [Link.flags, StartPc.flags, Option.elim_some, h.2]
  · cases hstep
    simp only [Link.flags, StartPc.flags, Prod.mk.injEq] at h
    simp only [Link.flags, StartPc.flags, Option.elim_some, h, Bool.false_eq_true, if_false]
  · cases hstep
    simp only [Link.flags, StartPc.flags, Prod.mk.injEq] at h
    simp only [Link.flags, Option.elim_none, h, Bool.false_eq_true, if_false]

theorem Link.stopStep_flags {link : Link} {pc : StopPc} (h : link.flags = pc.flags) :
    (link.stopStep pc).1.flags =
      (link.stopStep pc).2.elim (true, false, false) StopPc.flags := by
  unfold Link.stopStep
  split <;> simp only [Link.flags, StopPc.flags, Prod.mk.injEq] at h
  · simp only [Link.flags, h, Bool.false_eq_true, if_false, Option.elim_some]
    split <;> rfl
  · next stage =>
      simp only [Link.flags, h, Option.elim_some]
      cases (link.heartbeat.stopStep stage).2 <;> rfl
  · simp only [Link.flags, h, Option.elim_some, StopPc.flags]
  · simp only [h, if_true, Link.flags, Option.elim_some, StopPc.flags]
  · simp only [h, if_true, Link.flags, Option.elim_some, StopPc.flags]
  · simp only [Link.flags, h, Option.elim_some, StopPc.flags]
  · simp only [Link.flags, h, Option.elim_some, StopPc.flags]
  · simp only [Link.flags, h, Option.elim_none]

/-- A thread that is in no call and leads to none. -/
def Thread.Quiet : Thread → Prop
  | .idle | .ticking | .connected _ => True
  | _ => False

theorem Thread.notified_connected_quiet (ch : Byte) :
    (Thread.notified ch (some .connected)).Quiet := by
  unfold Thread.notified
  simp only
  split <;> trivial

namespace Lifecycle

variable {τ : Type}

/-- The owner's call or the recovery from a loss has come to this actor. -/
def Carries (s : Lifecycle τ) (a : Actor τ) : Prop :=
  match s.threads a with
  | .start pc => s.link.flags = pc.flags ∧ s.wanted = true
  | .stop pc => s.link.flags = pc.flags ∧ (s.wanted = true ↔ a ≠ .owner)
  | .respawn | .sleeping => s.link.flags = (true, false, false) ∧ s.wanted = true ∧ a ≠ .owner
  | _ => False

/-- Nobody is in a call, or one actor is. -/
inductive Coordinated (s : Lifecycle τ) : Prop where
  | rest (hquiet : ∀ a, (s.threads a).Quiet)
      (hflags : s.link.flags = if s.wanted then (false, true, true) else (true, false, false))
  | active (a : Actor τ) (hcarries : s.Carries a) (hothers : ∀ b, b ≠ a → (s.threads b).Quiet)

/-- The owner calls, and a loss is notified, only while nobody is in `start` or `stop` or on the
way to it; and a loss is notified on a channel that the owner has started. -/
def Uncontended (s : Lifecycle τ) : LifecycleEvent τ → Prop
  | .ownerStart | .ownerStop => ∀ a, (s.threads a).Quiet
  | .listen _ tcpiState => (s.link.client.listen tcpiState).2 = some .lost →
      s.wanted = true ∧ ∀ a, (s.threads a).Quiet
  | _ => True

/-- Behind the owner's `stop` nobody opens the channel, and no `start` runs over a thread that
has not been joined. -/
structure Confined (s : Lifecycle τ) : Prop where
  closed : s.wanted = false → s.threads .owner = .idle →
    ∀ a stage stages, s.threads a ≠ .start (.opening (stage :: stages))
  joined : ∀ a pc, s.threads a = .start pc →
    s.link.sendThread = false ∧ (pc ≠ .sendThread → s.link.recvThread = false)

theorem Carries.not_quiet {s : Lifecycle τ} {a : Actor τ} (h : s.Carries a) :
    ¬ (s.threads a).Quiet := by
  unfold Carries at h
  cases hthread : s.threads a <;> simp only [hthread] at h <;> exact not_false

theorem Coordinated.flags_of_quiet {s : Lifecycle τ} (h : s.Coordinated)
    (hquiet : ∀ a, (s.threads a).Quiet) :
    s.link.flags = if s.wanted then (false, true, true) else (true, false, false) := by
  cases h with
  | rest _ hflags => exact hflags
  | active a hcarries _ => exact absurd (hquiet a) hcarries.not_quiet

theorem Coordinated.carries {s : Lifecycle τ} (h : s.Coordinated) {a : Actor τ}
    (hactive : ¬ (s.threads a).Quiet) :
    s.Carries a ∧ ∀ b, b ≠ a → (s.threads b).Quiet := by
  cases h with
  | rest hquiet _ => exact absurd (hquiet a) hactive
  | active b hcarries hothers =>
      by_cases hab : a = b
      · rw [hab]
        exact ⟨hcarries, hothers⟩
      · exact absurd (hothers a hab) hactive

theorem Coordinated.confined {s : Lifecycle τ} (h : s.Coordinated) : s.Confined := by
  have hstart : ∀ a pc, s.threads a = .start pc → s.link.flags = pc.flags ∧ s.wanted = true := by
    intro a pc hthread
    have hcarries := (h.carries (a := a) (by rw [hthread]; exact not_false)).1
    simpa only [Carries, hthread] using hcarries
  constructor
  · intro hwanted _ a stage stages hthread
    have hcarried := (hstart a _ hthread).2
    rw [hwanted] at hcarried
    cases hcarried
  · intro a pc hthread
    have hflags := (hstart a pc hthread).1
    cases pc <;> simp only [Link.flags, StartPc.flags, Prod.mk.injEq] at hflags <;> simp [hflags]

/-! ## Steps -/

variable [DecidableEq τ]

theorem quiet_goto {s : Lifecycle τ} {a : Actor τ} {link : Link} {thread : Thread}
    (hothers : ∀ b, b ≠ a → (s.threads b).Quiet) (hthread : thread.Quiet) :
    ∀ b, ((s.goto a link thread).threads b).Quiet :=
  (forall_goto_iff s a link thread fun _ thread => thread.Quiet).mpr ⟨hthread, hothers⟩

/-- A quiet thread that stays quiet and leaves the flags alone is in nobody's way. -/
theorem Coordinated.goto_quiet {s : Lifecycle τ} {a : Actor τ} {link : Link} {thread : Thread}
    (h : s.Coordinated) (hold : (s.threads a).Quiet) (hthread : thread.Quiet)
    (hflags : link.flags = s.link.flags) : (s.goto a link thread).Coordinated := by
  cases h with
  | rest hquiet hrest =>
      exact .rest (quiet_goto (fun b _ => hquiet b) hthread) (by
        rw [goto_link, hflags, hrest, goto_wanted])
  | active b hcarries hothers =>
      have hne : b ≠ a := by
        rintro rfl
        exact hcarries.not_quiet hold
      refine .active b ?_ ?_
      · simp only [Carries, goto_threads_ne s a link thread hne, goto_link, goto_wanted, hflags]
        exact hcarries
      · exact (forall_goto_iff s a link thread fun c thread => c ≠ b → thread.Quiet).mpr
          ⟨fun _ => hthread, fun c _ => hothers c⟩

/-- The one actor under way goes on. -/
theorem coordinated_goto_active {s : Lifecycle τ} {a : Actor τ} {link : Link} {thread : Thread}
    (hothers : ∀ b, b ≠ a → (s.threads b).Quiet)
    (hcarries : (s.goto a link thread).Carries a) : (s.goto a link thread).Coordinated := by
  refine .active a hcarries fun b hb => ?_
  rw [goto_threads_ne s a link thread hb]
  exact hothers b hb

/-- The one `stop` under way goes on. -/
theorem Coordinated.stop {s : Lifecycle τ} {a : Actor τ} {pc : StopPc} (h : s.Coordinated)
    (hthread : s.threads a = .stop pc) :
    (s.goto a (s.link.stopStep pc).1
      ((s.link.stopStep pc).2.elim a.stopped .stop)).Coordinated := by
  obtain ⟨hcarries, hothers⟩ := h.carries (a := a) (by rw [hthread]; exact not_false)
  simp only [Carries, hthread] at hcarries
  have hflags := Link.stopStep_flags hcarries.1
  cases hnext : (s.link.stopStep pc).2 with
  | some pc' =>
      rw [hnext, Option.elim_some] at hflags
      apply coordinated_goto_active hothers
      simp only [Carries, goto_threads_self, Option.elim_some, goto_link, goto_wanted]
      exact ⟨hflags, hcarries.2⟩
  | none =>
      rw [hnext, Option.elim_none] at hflags
      cases a with
      | owner =>
          have hwanted : s.wanted = false := by simpa using hcarries.2
          refine .rest (quiet_goto hothers trivial) ?_
          rw [goto_link, goto_wanted, hflags, hwanted]
          rfl
      | thread t =>
          apply coordinated_goto_active hothers
          simp only [Carries, goto_threads_self, Option.elim_none, Actor.stopped, goto_link,
            goto_wanted]
          exact ⟨hflags, hcarries.2.mpr nofun, nofun⟩

/-- The one `start` under way goes on. -/
theorem Coordinated.start {s : Lifecycle τ} {a : Actor τ} {succeeds : Bool} {pc : StartPc}
    {link : Link} {next : Option StartPc} (h : s.Coordinated) (hthread : s.threads a = .start pc)
    (hlink : s.link.startStep succeeds pc = some (link, next)) :
    (s.goto a link (next.elim .idle .start)).Coordinated := by
  obtain ⟨hcarries, hothers⟩ := h.carries (a := a) (by rw [hthread]; exact not_false)
  simp only [Carries, hthread] at hcarries
  have hflags := Link.startStep_flags hcarries.1 hlink
  cases next with
  | some pc' =>
      apply coordinated_goto_active hothers
      simp only [Carries, goto_threads_self, Option.elim_some, goto_link, goto_wanted]
      exact ⟨hflags, hcarries.2⟩
  | none =>
      refine .rest (quiet_goto hothers trivial) ?_
      rw [goto_link, goto_wanted, hflags, hcarries.2]
      rfl

theorem Coordinated.step {s s' : Lifecycle τ} {event : LifecycleEvent τ} (h : s.Coordinated)
    (hallowed : s.Uncontended event) (hstep : s.step event = some s') : s'.Coordinated := by
  cases step_cases hstep with
  | ownerStart hidle hwanted =>
      have hflags := h.flags_of_quiet hallowed
      rw [hwanted] at hflags
      refine .active .owner ?_ fun b hb => ?_
      · simp only [Carries, goto_threads_self]
        exact ⟨hflags, trivial⟩
      · simp only [goto_threads_ne s _ _ _ hb]
        exact hallowed b
  | ownerStop hidle hwanted =>
      have hflags := h.flags_of_quiet hallowed
      rw [hwanted] at hflags
      refine .active .owner ?_ fun b hb => ?_
      · simp only [Carries, goto_threads_self]
        exact ⟨hflags, by simp⟩
      · simp only [goto_threads_ne s _ _ _ hb]
        exact hallowed b
  | expire hidle harmed =>
      exact h.goto_quiet (by rw [hidle]; trivial) trivial rfl
  | @listen t tcpiState hticking =>
      have hquiet : (s.threads (.thread t)).Quiet := by
        rw [hticking]
        trivial
      cases hstate : (s.link.client.listen tcpiState).2 with
      | none => exact h.goto_quiet hquiet trivial rfl
      | some state =>
          cases state with
          | closed => exact h.goto_quiet hquiet trivial rfl
          | connected =>
              exact h.goto_quiet hquiet (Thread.notified_connected_quiet _) rfl
          | lost =>
              obtain ⟨hwanted, hall⟩ := hallowed hstate
              have hflags := h.flags_of_quiet hall
              rw [hwanted] at hflags
              apply coordinated_goto_active (fun b _ => hall b)
              simp only [Carries, goto_threads_self, Thread.notified, goto_link, goto_wanted]
              exact ⟨hflags, by simp [hwanted]⟩
  | @connected a succeeds stage hthread =>
      refine h.goto_quiet (by rw [hthread]; trivial) ?_ rfl
      cases (s.link.heartbeat.startStep stage succeeds).2 <;> trivial
  | stop hthread => exact h.stop hthread
  | @wake a succeeds hthread =>
      obtain ⟨hcarries, hothers⟩ := h.carries (a := a) (by rw [hthread]; exact not_false)
      simp only [Carries, hthread] at hcarries
      apply coordinated_goto_active hothers
      simp only [Carries, goto_threads_self, goto_link, goto_wanted]
      exact ⟨hcarries.1, hcarries.2.1⟩
  | start hthread hlink => exact h.start hthread hlink
  | @spawn t t' hrespawn hidle =>
      obtain ⟨hcarries, hothers⟩ := h.carries (a := .thread t) (by rw [hrespawn]; exact not_false)
      simp only [Carries, hrespawn] at hcarries
      have hrest : ∀ b, ((s.goto (.thread t) s.link .idle).threads b).Quiet :=
        quiet_goto hothers trivial
      apply coordinated_goto_active (fun b _ => hrest b)
      simp only [Carries, goto_threads_self, goto_link, goto_wanted]
      exact ⟨hcarries.1, hcarries.2.1, nofun⟩

/-! ## Runs -/

theorem Coordinated.reaches {s : Lifecycle τ} (h : (system τ).Reaches Uncontended s) :
    s.Coordinated := by
  refine h.invariant ?_ fun _ _ _ hinv hallowed hstep => hinv.step hallowed hstep
  rintro s (rfl | rfl)
  · exact .rest (fun _ => trivial) rfl
  · exact .rest (fun _ => trivial) rfl

/-- In every run whose calls and losses do not meet, a stopped channel stays closed and no
`start` runs over threads that have not been joined. -/
theorem start_confined {s : Lifecycle τ} (h : (system τ).Reaches Uncontended s) : s.Confined :=
  (Coordinated.reaches h).confined

/-- The owner starts the channel, which is lost, and a thread is about to reconnect. -/
theorem start_confined_lost : ∃ s : Lifecycle Bool, (system Bool).Reaches Uncontended s ∧
    s.threads (.thread true) = .sleeping ∧ s.Confined := by
  have hinit : (system Bool).Reaches Uncontended (.new Bool upChannel) := .init (.inl rfl)
  have hbegun := hinit.run [.ownerStart] ⟨fun _ => trivial, trivial⟩ rfl
  have hstarted := hbegun.run (goes .owner 8) (along_goes (fun _ => trivial) 8 _) rfl
  have hlost := hstarted.run [.expire false, .listen false 7]
    ⟨trivial, fun _ => ⟨rfl, by rintro (_ | _ | _) <;> trivial⟩, trivial⟩ rfl
  have hstopped := hlost.run (goes (.thread false) 10) (along_goes (fun _ => trivial) 10 _) rfl
  have hsleeping := hstopped.run [.spawn false true] ⟨trivial, trivial⟩ rfl
  exact ⟨_, hsleeping, rfl, start_confined hsleeping⟩

/-- The owner stops the channel while a thread is about to reconnect, and the thread opens it. -/
theorem stop_then_reopened : ¬ ∀ s : Lifecycle Bool, (system Bool).Reachable s → s.Confined := by
  intro hall
  have hinit : (system Bool).Reachable (.new Bool upChannel) := .init (.inl rfl)
  have hreopened := hinit.run (.ownerStart :: goes .owner 8 ++ [.expire false, .listen false 7]
    ++ goes (.thread false) 10 ++ [.spawn false true, .ownerStop] ++ goes .owner 2
    ++ [.go (.thread true) true]) rfl
  exact (hall _ hreopened).closed rfl rfl (.thread true) _ _ rfl

end Lifecycle

end Csae295
