import Csae295.Verification.Lifecycle
import Csae295.Verification.Timer

/-! The balance of the heartbeat's timers.

The handler of CONNECTED starts the heartbeat and `stop` stops it, each in several statements
with the timer's flag between them. They balance as long as they do not overlap, `stop` does
not return early over a running heartbeat, and CONNECTED comes once for each `stop`. -/

namespace Csae295

open Library

/-- The thread stands between the test of the heartbeat's flag and the flag's next value. -/
def Thread.Switching : Thread → Prop
  | .connected _ | .stop (.heartbeat .setStopped) | .stop (.heartbeat .timerDelete) => True
  | _ => False

/-- The thread is in `stop` and has the heartbeat behind it. -/
def Thread.Past : Thread → Prop
  | .stop .setStopped | .stop .joinRecv | .stop .joinSend | .stop .closeTest
  | .stop (.closing _) => True
  | _ => False

/-- What a thread that is switching the heartbeat has before it. -/
def Thread.Finds (heartbeat : Timer) : Thread → Prop
  | .connected .timerCreate => heartbeat.stopped = true ∧ heartbeat.timers.live = []
  | .connected .timerSettime | .connected .clearStopped | .stop (.heartbeat .timerDelete) =>
    heartbeat.stopped = true ∧ heartbeat.Created
  | .stop (.heartbeat .setStopped) => heartbeat.stopped = false ∧ heartbeat.Created
  | _ => False

theorem Thread.Finds.switching {heartbeat : Timer} {thread : Thread} (h : thread.Finds heartbeat) :
    thread.Switching := by
  cases thread with
  | connected stage => trivial
  | stop pc =>
      cases pc with
      | heartbeat stage =>
          cases stage with
          | test => exact absurd h not_false
          | setStopped | timerDelete => trivial
      | test | setStopped | joinRecv | joinSend | closeTest | closing _ => exact absurd h not_false
  | idle | ticking | respawn | sleeping | start _ => exact absurd h not_false

theorem Thread.Finds.length_le {heartbeat : Timer} {thread : Thread} (h : thread.Finds heartbeat) :
    heartbeat.timers.live.length ≤ 1 := by
  have hcreated : heartbeat.Created → heartbeat.timers.live.length ≤ 1 := by
    rintro ⟨t, -, hlive⟩
    rw [hlive]
    exact le_rfl
  cases thread with
  | connected stage =>
      cases stage with
      | timerCreate => exact (congrArg List.length h.2).trans_le (Nat.zero_le 1)
      | timerSettime | clearStopped => exact hcreated h.2
  | stop pc =>
      cases pc with
      | heartbeat stage =>
          cases stage with
          | test => exact absurd h not_false
          | setStopped | timerDelete => exact hcreated h.2
      | test | setStopped | joinRecv | joinSend | closeTest | closing _ => exact absurd h not_false
  | idle | ticking | respawn | sleeping | start _ => exact absurd h not_false

theorem Thread.Switching.not_past {thread : Thread} (h : thread.Switching) : ¬ thread.Past := by
  cases thread with
  | stop pc =>
      cases pc with
      | test | heartbeat _ => exact not_false
      | setStopped | joinRecv | joinSend | closeTest | closing _ => exact absurd h not_false
  | connected _ | idle | ticking | respawn | sleeping | start _ => exact not_false

/-- Behind the statements about the heartbeat, `stop` does not come back to them. -/
theorem Link.stopStep_past (link : Link) {pc : StopPc} (h : (Thread.stop pc).Past) :
    (link.stopStep pc).1.heartbeat = link.heartbeat ∧
      ∀ pc', (link.stopStep pc).2 = some pc' → (Thread.stop pc').Past := by
  unfold Link.stopStep
  split
  · exact absurd h not_false
  · exact absurd h not_false
  · exact ⟨rfl, by rintro _ ⟨⟩; trivial⟩
  · refine ⟨?_, by rintro _ ⟨⟩; trivial⟩
    split <;> rfl
  · refine ⟨?_, by rintro _ ⟨⟩; trivial⟩
    split <;> rfl
  · exact ⟨rfl, by rintro _ ⟨⟩; trivial⟩
  · exact ⟨rfl, by rintro _ ⟨⟩; trivial⟩
  · exact ⟨rfl, nofun⟩

namespace Lifecycle

variable {τ : Type}

/-- The channel is stopped, or will be when a `stop` that is under way returns. -/
def Ended (s : Lifecycle τ) : Prop := s.link.halted = true ∨ ∃ a, (s.threads a).Past

theorem not_ended {s : Lifecycle τ} (hhalted : s.link.halted = false)
    (hpast : ∀ a, ¬ (s.threads a).Past) : ¬ s.Ended := by
  rintro (h | ⟨a, ha⟩)
  · rw [hhalted] at h
    cases h
  · exact hpast a ha

/-- Nobody switches the heartbeat, or one actor does; and it is off where the channel has ended. -/
inductive Balanced (s : Lifecycle τ) : Prop where
  | rest (hnone : ∀ a, ¬ (s.threads a).Switching) (hsettled : s.link.heartbeat.Settled)
      (hended : s.Ended → s.link.heartbeat.stopped = true)
  | switching (a : Actor τ) (hfinds : (s.threads a).Finds s.link.heartbeat)
      (hothers : ∀ b, b ≠ a → ¬ (s.threads b).Switching) (hended : ¬ s.Ended)

/-- CONNECTED finds the channel started, the heartbeat off and no `stop` behind it; `stop` tests
the heartbeat while nobody switches it, and does so wherever it runs; and no arming fails. -/
def Orderly (s : Lifecycle τ) : LifecycleEvent τ → Prop
  | .listen _ tcpiState => (s.link.client.listen tcpiState).2 = some .connected →
      ¬ s.Ended ∧ s.link.heartbeat.stopped = true ∧ ∀ a, ¬ (s.threads a).Switching
  | .go a succeeds => match s.threads a with
    | .connected .timerSettime => succeeds = true
    | .stop .test => s.link.stopped = true →
        s.link.heartbeat.stopped = true ∧ ∀ b, ¬ (s.threads b).Switching
    | .stop (.heartbeat .test) => ∀ b, ¬ (s.threads b).Switching
    | _ => True
  | _ => True

theorem Balanced.live {s : Lifecycle τ} (h : s.Balanced) :
    s.link.heartbeat.timers.live.length ≤ 1 ∧
      (s.link.halted = true → s.link.heartbeat.timers.live = []) := by
  cases h with
  | rest _ hsettled hended =>
      refine ⟨?_, fun hhalted => hsettled.live_of_stopped (hended (.inl hhalted))⟩
      unfold Timer.Settled at hsettled
      split at hsettled
      · rw [hsettled]
        exact Nat.zero_le 1
      · obtain ⟨t, -, hlive⟩ := hsettled
        rw [hlive]
        exact le_rfl
  | switching a hfinds _ hended =>
      exact ⟨hfinds.length_le, fun hhalted => absurd (.inl hhalted) hended⟩

/-- Whether the owner wants the channel started does not matter to the heartbeat. -/
theorem Balanced.withWanted {s : Lifecycle τ} (h : s.Balanced) (wanted : Bool) :
    Balanced { s with wanted } := by
  cases h with
  | rest hnone hsettled hended => exact .rest hnone hsettled hended
  | switching a hfinds hothers hended => exact .switching a hfinds hothers hended

/-- Whoever switches the heartbeat is alone in it. -/
theorem Balanced.of_switching {s : Lifecycle τ} (h : s.Balanced) {a : Actor τ}
    (hswitching : (s.threads a).Switching) : (s.threads a).Finds s.link.heartbeat ∧
      (∀ b, b ≠ a → ¬ (s.threads b).Switching) ∧ ¬ s.Ended := by
  cases h with
  | rest hnone _ _ => exact absurd hswitching (hnone a)
  | switching b hfinds hothers hended =>
      by_cases hab : a = b
      · subst hab
        exact ⟨hfinds, hothers, hended⟩
      · exact absurd hswitching (hothers a hab)

/-- Where nobody switches the heartbeat, its flag tells whether it is live. -/
theorem Balanced.of_none {s : Lifecycle τ} (h : s.Balanced)
    (hnone : ∀ a, ¬ (s.threads a).Switching) :
    s.link.heartbeat.Settled ∧ (s.Ended → s.link.heartbeat.stopped = true) := by
  cases h with
  | rest _ hsettled hended => exact ⟨hsettled, hended⟩
  | switching a hfinds _ _ => exact absurd hfinds.switching (hnone a)

/-! ## Steps -/

variable [DecidableEq τ]

section

variable {s : Lifecycle τ} {a : Actor τ} {link : Link} {thread : Thread}

theorem ended_of_goto (hhalted : link.halted = true → s.Ended) (hpast : thread.Past → s.Ended)
    (h : (s.goto a link thread).Ended) : s.Ended := by
  rcases h with h | h
  · exact hhalted h
  · rcases (exists_goto_iff s a link thread fun _ thread => thread.Past).mp h with h | ⟨b, -, hb⟩
    · exact hpast h
    · exact .inr ⟨b, hb⟩

theorem not_switching_goto (hnew : ¬ thread.Switching)
    (hothers : ∀ b, b ≠ a → ¬ (s.threads b).Switching) :
    ∀ b, ¬ ((s.goto a link thread).threads b).Switching :=
  (forall_goto_iff s a link thread fun _ thread => ¬ thread.Switching).mpr ⟨hnew, hothers⟩

/-- The one actor that switches the heartbeat goes on. -/
theorem balanced_goto_switching (hothers : ∀ b, b ≠ a → ¬ (s.threads b).Switching)
    (hended : ¬ s.Ended) (hhalted : link.halted = s.link.halted)
    (hfinds : thread.Finds link.heartbeat) : (s.goto a link thread).Balanced := by
  refine .switching a ?_ (fun b hba => ?_) fun hgoto => hended (ended_of_goto ?_ ?_ hgoto)
  · rw [goto_threads_self]
    exact hfinds
  · rw [goto_threads_ne s a link thread hba]
    exact hothers b hba
  · intro h
    exact .inl (hhalted ▸ h)
  · intro hpast
    exact absurd hpast hfinds.switching.not_past

/-- An actor that does not touch the heartbeat. -/
theorem Balanced.goto (h : s.Balanced) (hold : ¬ (s.threads a).Switching)
    (hnew : ¬ thread.Switching) (hheartbeat : link.heartbeat = s.link.heartbeat)
    (hhalted : link.halted = true → s.Ended) (hpast : thread.Past → s.Ended) :
    (s.goto a link thread).Balanced := by
  cases h with
  | rest hnone hsettled hended =>
      refine .rest (not_switching_goto hnew fun b _ => hnone b) ?_ fun hgoto => ?_
      · rw [goto_link, hheartbeat]
        exact hsettled
      · rw [goto_link, hheartbeat]
        exact hended (ended_of_goto hhalted hpast hgoto)
  | switching b hfinds hothers hended =>
      have hba : b ≠ a := by
        rintro rfl
        exact hold hfinds.switching
      refine .switching b ?_ ?_ fun hgoto => hended (ended_of_goto hhalted hpast hgoto)
      · rw [goto_threads_ne s a link thread hba, goto_link, hheartbeat]
        exact hfinds
      · exact (forall_goto_iff s a link thread fun c thread => c ≠ b → ¬ thread.Switching).mpr
          ⟨fun _ => hnew, fun c _ => hothers c⟩

end

/-- The handler of CONNECTED goes on. -/
theorem Balanced.connected {s : Lifecycle τ} {a : Actor τ} {succeeds : Bool}
    {stage : Timer.StartStage} (h : s.Balanced) (horderly : s.Orderly (.go a succeeds))
    (hthread : s.threads a = .connected stage) :
    (s.goto a { s.link with heartbeat := (s.link.heartbeat.startStep stage succeeds).1 }
      ((s.link.heartbeat.startStep stage succeeds).2.elim .idle .connected)).Balanced := by
  obtain ⟨hfinds, hothers, hended⟩ := h.of_switching (a := a) (by rw [hthread]; trivial)
  rw [hthread] at hfinds
  cases stage with
  | timerCreate =>
      obtain ⟨hstopped, hlive⟩ := hfinds
      cases succeeds with
      | true =>
          exact balanced_goto_switching hothers hended rfl
            ⟨hstopped, Timer.timerCreate_created hlive⟩
      | false =>
          exact .rest (not_switching_goto not_false hothers) (Timer.settled_of_live hstopped hlive)
            fun _ => hstopped
  | timerSettime =>
      have hsucceeds : succeeds = true := by simpa only [Orderly, hthread] using horderly
      subst hsucceeds
      exact balanced_goto_switching hothers hended rfl hfinds
  | clearStopped =>
      have hidle : Thread.idle.Past → s.Ended := False.elim
      exact .rest (not_switching_goto not_false hothers) hfinds.2 fun hgoto =>
        absurd (ended_of_goto .inl hidle hgoto) hended

/-- `stop` tests the flag of the channel. -/
theorem Balanced.stopTest {s : Lifecycle τ} {a : Actor τ} {succeeds : Bool} (h : s.Balanced)
    (hch : s.link.ch = downChannel) (horderly : s.Orderly (.go a succeeds))
    (hthread : s.threads a = .stop .test) :
    (s.goto a s.link (.stop (if s.link.stopped then .closing []
      else if downChannel = s.link.ch then .heartbeat .test else .setStopped))).Balanced := by
  simp only [Orderly, hthread] at horderly
  split
  · next hstopped =>
      obtain ⟨hoff, hnone⟩ := horderly hstopped
      exact .rest (not_switching_goto not_false fun b _ => hnone b) (h.of_none hnone).1 fun _ => hoff
  · rw [if_pos hch.symm]
    exact h.goto (by rw [hthread]; exact not_false) not_false rfl .inl False.elim

/-- `stop` stops the heartbeat. -/
theorem Balanced.stopHeartbeat {s : Lifecycle τ} {a : Actor τ} {succeeds : Bool}
    {stage : Timer.StopStage} (h : s.Balanced) (horderly : s.Orderly (.go a succeeds))
    (hthread : s.threads a = .stop (.heartbeat stage)) :
    (s.goto a { s.link with heartbeat := (s.link.heartbeat.stopStep stage).1 }
      (.stop ((s.link.heartbeat.stopStep stage).2.elim .setStopped .heartbeat))).Balanced := by
  cases stage with
  | test =>
      have hnone : ∀ b, ¬ (s.threads b).Switching := by simpa only [Orderly, hthread] using horderly
      obtain ⟨hsettled, hended⟩ := h.of_none hnone
      cases hstopped : s.link.heartbeat.stopped with
      | true =>
          simp only [Timer.stopStep, hstopped, if_true]
          exact .rest (not_switching_goto not_false fun b _ => hnone b) hsettled fun _ => hstopped
      | false =>
          simp only [Timer.stopStep, hstopped, Bool.false_eq_true, if_false]
          refine balanced_goto_switching (fun b _ => hnone b) (fun hend => ?_) rfl ⟨hstopped, ?_⟩
          · rw [hended hend] at hstopped
            cases hstopped
          · simpa only [Timer.Settled, hstopped, Bool.false_eq_true, if_false] using hsettled
  | setStopped =>
      obtain ⟨hfinds, hothers, hended⟩ := h.of_switching (a := a) (by rw [hthread]; trivial)
      rw [hthread] at hfinds
      exact balanced_goto_switching hothers hended rfl ⟨rfl, hfinds.2⟩
  | timerDelete =>
      obtain ⟨hfinds, hothers, -⟩ := h.of_switching (a := a) (by rw [hthread]; trivial)
      rw [hthread] at hfinds
      exact .rest (not_switching_goto not_false hothers)
        (Timer.settled_of_live hfinds.1 hfinds.2.timerDelete) fun _ => hfinds.1

/-- `stop` goes on behind the heartbeat. -/
theorem Balanced.stopPast {s : Lifecycle τ} {a : Actor τ} {pc : StopPc} (h : s.Balanced)
    (hthread : s.threads a = .stop pc) (hpast : (Thread.stop pc).Past) :
    (s.goto a (s.link.stopStep pc).1 ((s.link.stopStep pc).2.elim a.stopped .stop)).Balanced := by
  obtain ⟨hheartbeat, hnext⟩ := s.link.stopStep_past hpast
  have hended : s.Ended := .inr ⟨a, by rw [hthread]; exact hpast⟩
  refine h.goto ?_ ?_ hheartbeat (fun _ => hended) fun _ => hended
  · rw [hthread]
    exact fun hswitching => hswitching.not_past hpast
  · cases hpc : (s.link.stopStep pc).2 with
    | some pc' => exact fun hswitching => hswitching.not_past (hnext pc' hpc)
    | none => cases a <;> exact not_false

theorem Balanced.step {s s' : Lifecycle τ} {event : LifecycleEvent τ} (h : s.Balanced)
    (hch : s.link.ch = downChannel) (horderly : s.Orderly event)
    (hstep : s.step event = some s') : s'.Balanced := by
  cases step_cases hstep with
  | ownerStart hidle hwanted =>
      have hgoto : (s.goto .owner s.link.begin (.start (.opening Client.openStages))).Balanced :=
        h.goto (by rw [hidle]; exact not_false) not_false rfl nofun False.elim
      exact hgoto.withWanted true
  | ownerStop hidle hwanted =>
      have hgoto : (s.goto .owner s.link (.stop .test)).Balanced :=
        h.goto (by rw [hidle]; exact not_false) not_false rfl .inl False.elim
      exact hgoto.withWanted false
  | expire hidle harmed =>
      exact h.goto (by rw [hidle]; exact not_false) not_false rfl .inl False.elim
  | @listen t tcpiState hticking =>
      have hticks : ¬ (s.threads (.thread t)).Switching := by
        rw [hticking]
        exact not_false
      cases hstate : (s.link.client.listen tcpiState).2 with
      | none => exact h.goto hticks not_false rfl .inl False.elim
      | some state =>
          cases state with
          | closed | lost => exact h.goto hticks not_false rfl .inl False.elim
          | connected =>
              obtain ⟨hended, hoff, hnone⟩ := horderly hstate
              simp only [Thread.notified, hch, if_true]
              exact balanced_goto_switching (fun b _ => hnone b) hended rfl
                ⟨hoff, (h.of_none hnone).1.live_of_stopped hoff⟩
  | connected hthread => exact h.connected horderly hthread
  | @stop a succeeds pc hthread =>
      cases pc with
      | test => exact h.stopTest hch horderly hthread
      | heartbeat stage => exact h.stopHeartbeat horderly hthread
      | setStopped | joinRecv | joinSend | closeTest | closing _ => exact h.stopPast hthread trivial
  | wake hthread =>
      exact h.goto (by rw [hthread]; exact not_false) not_false rfl nofun False.elim
  | @start a succeeds pc link next hthread hlink =>
      obtain ⟨-, hheartbeat, hhalted⟩ := Link.startStep_frame hlink
      refine h.goto (by rw [hthread]; exact not_false) ?_ hheartbeat (fun hend => ?_) fun hpast => ?_
      · cases next <;> exact not_false
      · exact .inl (hhalted ▸ hend)
      · cases next <;> exact absurd hpast not_false
  | @spawn t t' hrespawn hidle =>
      have hgone : (s.goto (.thread t) s.link .idle).Balanced :=
        h.goto (by rw [hrespawn]; exact not_false) not_false rfl .inl False.elim
      have hne : Actor.thread t' ≠ .thread t :=
        ne_of_apply_ne s.threads (by rw [hrespawn, hidle]; nofun)
      refine hgone.goto ?_ not_false rfl .inl False.elim
      rw [goto_threads_ne s _ s.link .idle hne, hidle]
      exact not_false

/-! ## Runs -/

theorem Balanced.reaches {s : Lifecycle τ} (h : (system τ).Reaches Orderly s)
    (hch : s.link.ch = downChannel) : s.Balanced := by
  have hinit : ∀ s : Lifecycle τ, (system τ).Init s → s.link.ch = downChannel → s.Balanced := by
    rintro s (rfl | rfl) _
    · exact .rest (fun _ => not_false) rfl fun _ => rfl
    · exact .rest (fun _ => not_false) rfl fun _ => rfl
  refine h.invariant hinit ?_ hch
  intro s event s' hbalanced horderly hstep hch'
  rw [step_ch hstep] at hch'
  exact (hbalanced hch').step hch' horderly hstep

/-- In every run in which the handler of CONNECTED and `stop` keep out of each other's way, at
most one timer of the heartbeat is live, and none while the down channel is stopped. -/
theorem heartbeat_live {s : Lifecycle τ} (h : (system τ).Reaches Orderly s)
    (hch : s.link.ch = downChannel) : s.link.heartbeat.timers.live.length ≤ 1 ∧
      (s.link.halted = true → s.link.heartbeat.timers.live = []) :=
  (Balanced.reaches h hch).live

/-- The owner starts the down channel, a tick finds it connected, and the owner stops it. -/
theorem heartbeat_live_stopped : ∃ s : Lifecycle Bool, (system Bool).Reaches Orderly s ∧
    s.link.ch = downChannel ∧ s.link.halted = true ∧ s.link.heartbeat.timers.created = 1 ∧
    s.link.heartbeat.timers.live.length ≤ 1 ∧
    (s.link.halted = true → s.link.heartbeat.timers.live = []) := by
  have hinit : (system Bool).Reaches Orderly (.new Bool downChannel) := .init (.inr rfl)
  have hstarted := hinit.run (.ownerStart :: goes .owner 8)
    ⟨trivial, trivial, trivial, trivial, trivial, trivial, trivial, trivial, trivial, trivial⟩ rfl
  have hconnected := hstarted.run [.expire false, .listen false 1]
    ⟨trivial, fun _ => ⟨not_ended rfl (by rintro (_ | _ | _) <;> exact not_false), rfl,
      by rintro (_ | _ | _) <;> exact not_false⟩, trivial⟩ rfl
  have hbeating := hconnected.run (goes (.thread false) 3) ⟨trivial, rfl, trivial, trivial⟩ rfl
  have htested := hbeating.run (.ownerStop :: goes .owner 2)
    ⟨trivial, nofun, by rintro (_ | _ | _) <;> exact not_false, trivial⟩ rfl
  have hstopped := htested.run (goes .owner 11)
    ⟨trivial, trivial, trivial, trivial, trivial, trivial, trivial, trivial, trivial, trivial,
      trivial, trivial⟩ rfl
  have hlive := heartbeat_live hstopped rfl
  exact ⟨_, hstopped, rfl, rfl, rfl, hlive⟩

/-- The owner stops the down channel before the first tick, which finds it connected. -/
theorem heartbeat_behind_stop : ¬ ∀ s : Lifecycle Bool, (system Bool).Reachable s →
    s.link.ch = downChannel → s.link.heartbeat.timers.live.length ≤ 1 ∧
      (s.link.halted = true → s.link.heartbeat.timers.live = []) := by
  intro hall
  have hinit : (system Bool).Reachable (.new Bool downChannel) := .init (.inr rfl)
  have hstopped := hinit.run (.ownerStart :: goes .owner 8 ++ [.ownerStop] ++ goes .owner 7) rfl
  have hbeating := hstopped.run ([.expire false, .listen false 1] ++ goes (.thread false) 3) rfl
  exact absurd ((hall _ hbeating rfl).2 rfl) (by decide)

end Lifecycle

end Csae295
