import Csae295.Model.Lifecycle

/-! What one step of a channel's life can do. -/

namespace Csae295

open Library

/-- `start` touches neither the channel nor the heartbeat, and it does not end a stop. -/
theorem Link.startStep_frame {link link' : Link} {succeeds : Bool} {pc : StartPc}
    {next : Option StartPc} (h : link.startStep succeeds pc = some (link', next)) :
    link'.ch = link.ch ∧ link'.heartbeat = link.heartbeat ∧ link'.halted = link.halted := by
  unfold Link.startStep at h
  split at h
  · split_ifs at h <;> cases h <;> exact ⟨rfl, rfl, rfl⟩
  · cases h
    exact ⟨rfl, rfl, rfl⟩
  · cases h
    split <;> exact ⟨rfl, rfl, rfl⟩
  · cases h
    split <;> exact ⟨rfl, rfl, rfl⟩

theorem Link.stopStep_ch (link : Link) (pc : StopPc) : (link.stopStep pc).1.ch = link.ch := by
  unfold Link.stopStep
  split
  case h_4 | h_5 => split <;> rfl
  all_goals rfl

namespace Lifecycle

variable {τ : Type} [DecidableEq τ]

section

variable (s : Lifecycle τ) (a : Actor τ) (link : Link) (thread : Thread)

@[simp] theorem goto_link : (s.goto a link thread).link = link := rfl

@[simp] theorem goto_wanted : (s.goto a link thread).wanted = s.wanted := rfl

@[simp] theorem goto_threads_self : (s.goto a link thread).threads a = thread := by
  simp only [goto, Function.update_self]

theorem goto_threads_ne {b : Actor τ} (h : b ≠ a) :
    (s.goto a link thread).threads b = s.threads b := by
  simp only [goto, Function.update_of_ne h]

/-- What holds of every thread behind a step of one actor. -/
theorem forall_goto_iff (P : Actor τ → Thread → Prop) :
    (∀ b, P b ((s.goto a link thread).threads b)) ↔
      P a thread ∧ ∀ b, b ≠ a → P b (s.threads b) :=
  Function.forall_update_iff s.threads P

theorem exists_goto_iff (P : Actor τ → Thread → Prop) :
    (∃ b, P b ((s.goto a link thread).threads b)) ↔
      P a thread ∨ ∃ b, b ≠ a ∧ P b (s.threads b) :=
  Function.exists_update_iff s.threads P

theorem goto_comm {b : Actor τ} (h : a ≠ b) (other : Thread) :
    (s.goto a link thread).goto b link other = (s.goto b link other).goto a link thread := by
  simp only [goto, Function.update_comm h]

end

/-- The steps, the states they are taken in and the states they lead to. -/
inductive Step (s : Lifecycle τ) : LifecycleEvent τ → Lifecycle τ → Prop where
  | ownerStart (hidle : s.threads .owner = .idle) (hwanted : s.wanted = false) :
      Step s .ownerStart
        { s.goto .owner s.link.begin (.start (.opening Client.openStages)) with wanted := true }
  | ownerStop (hidle : s.threads .owner = .idle) (hwanted : s.wanted = true) :
      Step s .ownerStop { s.goto .owner s.link (.stop .test) with wanted := false }
  | expire {t : τ} (hidle : s.threads (.thread t) = .idle) (harmed : s.link.client.armed ≠ []) :
      Step s (.expire t) (s.goto (.thread t) s.link .ticking)
  | listen {t : τ} {tcpiState : Byte} (hticking : s.threads (.thread t) = .ticking) :
      Step s (.listen t tcpiState)
        (s.goto (.thread t) { s.link with client := (s.link.client.listen tcpiState).1 }
          (.notified s.link.ch (s.link.client.listen tcpiState).2))
  | connected {a : Actor τ} {succeeds : Bool} {stage : Timer.StartStage}
      (hthread : s.threads a = .connected stage) :
      Step s (.go a succeeds)
        (s.goto a { s.link with heartbeat := (s.link.heartbeat.startStep stage succeeds).1 }
          ((s.link.heartbeat.startStep stage succeeds).2.elim .idle .connected))
  | stop {a : Actor τ} {succeeds : Bool} {pc : StopPc} (hthread : s.threads a = .stop pc) :
      Step s (.go a succeeds)
        (s.goto a (s.link.stopStep pc).1 ((s.link.stopStep pc).2.elim a.stopped .stop))
  | wake {a : Actor τ} {succeeds : Bool} (hthread : s.threads a = .sleeping) :
      Step s (.go a succeeds) (s.goto a s.link.begin (.start (.opening Client.openStages)))
  | start {a : Actor τ} {succeeds : Bool} {pc : StartPc} {link : Link} {next : Option StartPc}
      (hthread : s.threads a = .start pc) (hlink : s.link.startStep succeeds pc = some (link, next)) :
      Step s (.go a succeeds) (s.goto a link (next.elim .idle .start))
  | spawn {t t' : τ} (hrespawn : s.threads (.thread t) = .respawn)
      (hidle : s.threads (.thread t') = .idle) :
      Step s (.spawn t t')
        ((s.goto (.thread t) s.link .idle).goto (.thread t') s.link .sleeping)

theorem step_go {s s' : Lifecycle τ} {a : Actor τ} {succeeds : Bool}
    (h : s.goStep a succeeds = some s') : Step s (.go a succeeds) s' := by
  unfold goStep at h
  split at h
  · next hthread =>
      cases h
      exact .connected hthread
  · next hthread =>
      cases h
      exact .stop hthread
  · next hthread =>
      cases h
      exact .wake hthread
  · next hthread =>
      obtain ⟨⟨link, next⟩, hlink, rfl⟩ := Option.map_eq_some_iff.mp h
      exact .start hthread hlink
  all_goals cases h

theorem step_cases {s s' : Lifecycle τ} {event : LifecycleEvent τ}
    (h : s.step event = some s') : Step s event s' := by
  unfold step at h
  split at h
  · cases h
  split at h
  · split at h
    · next hguard =>
        cases h
        exact .ownerStart hguard.1 hguard.2
    · cases h
  · split at h
    · next hguard =>
        cases h
        exact .ownerStop hguard.1 hguard.2
    · cases h
  · split at h
    · next hguard =>
        cases h
        exact .expire hguard.1 hguard.2
    · cases h
  · split at h
    · next hguard =>
        cases h
        exact .listen hguard
    · cases h
  · exact step_go h
  · split at h
    · next hguard =>
        cases h
        exact .spawn hguard.1 hguard.2
    · cases h

theorem step_ch {s s' : Lifecycle τ} {event : LifecycleEvent τ} (h : s.step event = some s') :
    s'.link.ch = s.link.ch := by
  cases step_cases h with
  | ownerStart | ownerStop | expire | listen | connected | wake | spawn => rfl
  | stop hthread => exact Link.stopStep_ch _ _
  | start hthread hlink => exact (Link.startStep_frame hlink).1

/-- The actor goes on `n` times, and every call of the system succeeds. -/
def goes (a : Actor τ) (n : ℕ) : List (LifecycleEvent τ) := List.replicate n (.go a true)

theorem along_goes {allowed : Lifecycle τ → LifecycleEvent τ → Prop} {a : Actor τ}
    (h : ∀ s, allowed s (.go a true)) (n : ℕ) (s : Lifecycle τ) :
    (system τ).Along allowed s (goes a n) := by
  refine System.along_of_forall (fun event hevent s => ?_) s
  rw [List.eq_of_mem_replicate hevent]
  exact h s

end Lifecycle

end Csae295
