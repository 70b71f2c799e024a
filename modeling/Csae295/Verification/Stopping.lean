import Csae295.Model.Stopping

/-! When `stop` waits for its threads forever.

The flag is looked at between calls only and the notification reaches a waiting thread only,
so a thread that is behind the test of the flag when it is set goes into its call all the
same, and nothing in `stop` brings it back from there. -/

namespace Csae295.Stopping

open Library

/-- The flag is set with the receive thread outside an idle `recv`, and while `stop` waits for a
thread this does not enter an idle `recv` or the wait of an empty queue. -/
def Returns (s : Stopping) : StopEvent → Prop
  | .stop => s.stopper = .setStopped → ¬ (s.receiver = .receiving ∧ s.socket.Idle)
  | .receiver .call => s.stopper = .joinRecv → ¬ s.socket.Idle
  | .sender .take => s.stopper = .joinSend → s.queue.elements ≠ []
  | _ => True

/-! ## What can be waited for -/

theorem not_deadlocked {s : Stopping}
    (hreceiver : s.stopper = .joinRecv → s.receiver = .receiving → ¬ s.socket.Idle)
    (hsender : s.stopper = .joinSend → s.sender = .waiting → s.queue.elements ≠ []) :
    ¬ s.Deadlocked := by
  rintro (⟨hstopper, hloop, hidle⟩ | ⟨hstopper, hloop, hqueue⟩)
  · exact hreceiver hstopper hloop hidle
  · exact hsender hstopper hloop hqueue

section

variable {s : Stopping} (h : ¬ s.Deadlocked)

include h

theorem receiver_of_not_deadlocked (hstopper : s.stopper = .joinRecv)
    (hloop : s.receiver = .receiving) : ¬ s.socket.Idle :=
  fun hidle => h (.inl ⟨hstopper, hloop, hidle⟩)

theorem sender_of_not_deadlocked (hstopper : s.stopper = .joinSend)
    (hloop : s.sender = .waiting) : s.queue.elements ≠ [] :=
  fun hqueue => h (.inr ⟨hstopper, hloop, hqueue⟩)

end

theorem notifyAll_ne_waiting (sender : Sender) : sender.notifyAll ≠ .waiting := by
  cases sender <;> nofun

theorem taken_ne_waiting (taken : Except Fault (Option SharedBuffer)) :
    Sender.taken taken ≠ .waiting := by
  rcases taken with e | (_ | p) <;> nofun

theorem received_ne_receiving (received : Socket.Received) :
    Receiver.received received ≠ .receiving := by
  cases received with
  | error errno => cases errno <;> nofun
  | _ => nofun

/-! ## Steps of the three threads -/

theorem stopStep_not_deadlocked {s s' : Stopping} (hreturns : s.Returns .stop)
    (hstep : s.stopStep = some s') : ¬ s'.Deadlocked := by
  unfold stopStep at hstep
  split at hstep
  · -- before the flag is set, behind either test
    have htest : s'.stopper = .returned ∨ s'.stopper = .setStopped ∨ s'.stopper = .heartbeat := by
      split_ifs at hstep <;> cases hstep <;> simp
    rcases htest with hstopper | hstopper | hstopper <;>
      exact not_deadlocked (by rw [hstopper]; nofun) (by rw [hstopper]; nofun)
  · cases hstep
    exact not_deadlocked nofun nofun
  · next hstopper =>
      cases hstep
      exact not_deadlocked (fun _ hloop hidle => hreturns hstopper ⟨hloop, hidle⟩) nofun
  · split_ifs at hstep
    cases hstep
    exact not_deadlocked nofun nofun
  · cases hstep
    exact not_deadlocked nofun fun _ hloop => absurd hloop (notifyAll_ne_waiting _)
  · split_ifs at hstep
    cases hstep
    exact not_deadlocked nofun nofun
  · cases hstep
    exact not_deadlocked nofun nofun
  · cases hstep

theorem receiverStep_not_deadlocked {s s' : Stopping} {event : ReceiverEvent}
    (h : ¬ s.Deadlocked) (hreturns : s.Returns (.receiver event))
    (hstep : s.receiverStep event = some s') : ¬ s'.Deadlocked := by
  have hsender := sender_of_not_deadlocked h
  unfold receiverStep at hstep
  split at hstep
  · cases hstep
    refine not_deadlocked (fun _ hloop => ?_) hsender
    simp only at hloop
    split at hloop <;> cases hloop
  · cases hstep
    exact not_deadlocked (fun hstopper _ => hreturns hstopper) hsender
  · obtain ⟨socket, -, rfl⟩ := Option.map_eq_some_iff.mp hstep
    exact not_deadlocked (fun _ hloop => absurd hloop (received_ne_receiving _)) hsender
  · cases hstep
    exact not_deadlocked (fun _ => nofun) hsender
  · cases hstep

theorem senderStep_not_deadlocked {s s' : Stopping} {event : SenderEvent}
    (h : ¬ s.Deadlocked) (hreturns : s.Returns (.sender event))
    (hstep : s.senderStep event = some s') : ¬ s'.Deadlocked := by
  have hreceiver := receiver_of_not_deadlocked h
  unfold senderStep at hstep
  split at hstep
  · cases hstep
    refine not_deadlocked hreceiver fun _ hloop => ?_
    simp only at hloop
    split at hloop <;> cases hloop
  · split at hstep
    · cases hstep
      exact not_deadlocked hreceiver fun hstopper _ => hreturns hstopper
    · cases hstep
      exact not_deadlocked hreceiver fun _ hloop => absurd hloop (taken_ne_waiting _)
  · cases hstep
    exact not_deadlocked hreceiver fun _ hloop => absurd hloop (taken_ne_waiting _)
  · cases hstep
    exact not_deadlocked hreceiver fun _ => nofun
  · cases hstep
    exact not_deadlocked hreceiver fun _ => nofun
  · cases hstep

/-- What arrives does not make a socket idle. -/
theorem not_idle_peerSend {socket : Socket} (h : ¬ socket.Idle) (size : ℕ) :
    ¬ Socket.Idle { socket with incoming := socket.incoming + size } := by
  rintro ⟨hincoming, hclosed⟩
  exact h ⟨Nat.eq_zero_of_add_eq_zero_right hincoming, hclosed⟩

theorem step_not_deadlocked {s s' : Stopping} {event : StopEvent} (h : ¬ s.Deadlocked)
    (hreturns : s.Returns event) (hstep : s.step event = some s') : ¬ s'.Deadlocked := by
  have hreceiver := receiver_of_not_deadlocked h
  have hsender := sender_of_not_deadlocked h
  cases event with
  | stop => exact stopStep_not_deadlocked hreturns hstep
  | receiver event => exact receiverStep_not_deadlocked h hreturns hstep
  | sender event => exact senderStep_not_deadlocked h hreturns hstep
  | spurious =>
      simp only [step] at hstep
      split at hstep
      · cases hstep
        exact not_deadlocked hreceiver fun _ => nofun
      · cases hstep
  | put buf =>
      cases hstep
      exact not_deadlocked hreceiver fun _ hloop => absurd hloop (notifyAll_ne_waiting _)
  | peerSend size =>
      simp only [step] at hstep
      split_ifs at hstep
      cases hstep
      exact not_deadlocked (fun hstopper hloop => not_idle_peerSend (hreceiver hstopper hloop) size)
        hsender
  | peerClose =>
      cases hstep
      exact not_deadlocked (fun _ _ => nofun) hsender

theorem receiverStep_call {s s' : Stopping} (h : s.receiverStep .call = some s') :
    s' = { s with receiver := .receiving } := by
  cases hloop : s.receiver <;> simp only [receiverStep, hloop, reduceCtorEq, Option.some.injEq] at h
  exact h.symm

theorem senderStep_take {s s' : Stopping} (hqueue : s.queue.elements = [])
    (h : s.senderStep .take = some s') : s' = { s with sender := .waiting } := by
  have htake : s.queue.take = none := by simp only [BlockQueue.take, BlockQueue.size, hqueue]; rfl
  cases hloop : s.sender <;>
    simp only [senderStep, hloop, htake, reduceCtorEq, Option.some.injEq] at h
  exact h.symm

/-- Every other step leaves `stop` waiting for a thread that does not come back. -/
theorem deadlocked_of_not_returns {s s' : Stopping} {event : StopEvent}
    (hreturns : ¬ s.Returns event) (hstep : s.step event = some s') : s'.Deadlocked := by
  cases event with
  | stop =>
      obtain ⟨hstopper, hblocked⟩ := Classical.not_imp.mp hreturns
      simp only [step, stopStep, hstopper] at hstep
      cases hstep
      exact .inl ⟨rfl, not_not.mp hblocked⟩
  | receiver event =>
      cases event with
      | call =>
          obtain ⟨hstopper, hidle⟩ := Classical.not_imp.mp hreturns
          rw [receiverStep_call hstep]
          exact .inl ⟨hstopper, rfl, not_not.mp hidle⟩
      | test | recv | handled => exact absurd trivial hreturns
  | sender event =>
      cases event with
      | take =>
          obtain ⟨hstopper, hqueue⟩ := Classical.not_imp.mp hreturns
          rw [senderStep_take (not_not.mp hqueue) hstep]
          exact .inr ⟨hstopper, rfl, not_not.mp hqueue⟩
      | test | resume | sent | pull => exact absurd trivial hreturns
  | spurious | put | peerSend | peerClose => exact absurd trivial hreturns

/-! ## Runs -/

/-- A run is free of deadlocks exactly when no thread that `stop` waits for is or comes to be
behind the test of the flag in a call that has nothing to return for. -/
theorem not_deadlocked_iff {s : Stopping} (hinit : system.Init s) {events : List StopEvent}
    (hrun : (system.run s events).isSome) :
    system.Throughout (fun s => ¬ s.Deadlocked) s events ↔ system.Along Returns s events := by
  have hstart : ¬ s.Deadlocked := by
    obtain ⟨-, hstopper, -, -⟩ := hinit
    exact not_deadlocked (by rw [hstopper]; nofun) (by rw [hstopper]; nofun)
  refine System.throughout_iff_along _ (fun s (h : ¬ s.Deadlocked) => h) ?_ ?_ hstart hrun
  · intro s event s' h hreturns hstep
    exact step_not_deadlocked h hreturns hstep
  · intro s event s' _ hreturns hstep h
    exact h (deadlocked_of_not_returns hreturns hstep)

/-- The first channel on a connection with a silent peer and an empty queue. -/
def silent : Stopping :=
  { ch := upChannel, stopped := false, stopper := .test, receiver := .top, sender := .top
    queue := ⟨[]⟩, socket := { incoming := 0, peerClosed := false, shutDown := false } }

/-- The peer closes before the flag is set, and both threads see it. -/
theorem not_deadlocked_iff_peer_closes :
    system.Throughout (fun s => ¬ s.Deadlocked) silent
      [.receiver .test, .receiver .call, .peerClose, .stop, .stop, .sender .test,
        .receiver (.recv .shutdown), .stop, .stop, .stop, .stop] :=
  (not_deadlocked_iff ⟨rfl, rfl, rfl, rfl⟩ rfl).mpr
    ⟨trivial, nofun, trivial, nofun, fun _ => by decide, trivial, trivial, nofun, nofun, nofun,
      nofun, trivial⟩

/-- The flag is set while the receive thread is in `recv` and the peer is silent. -/
theorem stop_waits_for_recv : ¬ ∀ s : Stopping, system.Reachable s → ¬ s.Deadlocked := by
  intro hall
  have hstart : system.Reachable silent := .init ⟨rfl, rfl, rfl, rfl⟩
  have hreachable := hstart.run [.receiver .test, .receiver .call, .stop, .stop]
    rfl
  exact hall _ hreachable (.inl ⟨rfl, rfl, rfl, rfl, rfl⟩)

end Csae295.Stopping
