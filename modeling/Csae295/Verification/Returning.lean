import Csae295.Verification.Stopping

/-! How `stop` ends.

Behind the flag each thread goes through its loop at most once more, so the three threads come to
rest, whatever the peer sends and other threads put; and where they rest `stop` has returned, or
waits for a thread that does not come back. -/

namespace Csae295

open Library

/-- The statements of `stop` that are left, at most. -/
def Stopper.left : Stopper → ℕ
  | .test => 7
  | .heartbeat => 6
  | .setStopped => 5
  | .joinRecv => 4
  | .notify => 3
  | .joinSend => 2
  | .close => 1
  | .returned => 0

/-- The steps a receive thread takes that finds the flag set. -/
def Receiver.left : Receiver → ℕ
  | .calling => 4
  | .receiving => 3
  | .handling => 2
  | .top => 1
  | .exited => 0

/-- The steps a send thread takes that finds the flag set, with the end of its wait. -/
def Sender.left : Sender → ℕ
  | .taking => 6
  | .waiting => 5
  | .notified => 4
  | .sending _ => 3
  | .sent _ => 2
  | .top => 1
  | .exited | .fault _ => 0

theorem Sender.taken_left (taken : Except Fault (Option SharedBuffer)) :
    (Sender.taken taken).left ≤ 3 := by
  rcases taken with e | (_ | p)
  · exact Nat.zero_le 3
  · exact Nat.le_of_ble_eq_true rfl
  · exact le_rfl

theorem Receiver.received_left (received : Socket.Received) :
    (Receiver.received received).left ≤ 2 := by
  cases received with
  | data size => exact le_rfl
  | shutdown => exact Nat.zero_le 2
  | error errno => cases errno <;> decide

namespace Stopping

/-- One of the three threads goes on. -/
def Goes : StopEvent → Bool
  | .stop | .receiver _ | .sender _ => true
  | _ => false

def left (s : Stopping) : ℕ := s.stopper.left + s.receiver.left + s.sender.left

/-- The statements of `stop`, and what a step of another thread leaves. -/
inductive Moves (s : Stopping) : StopEvent → Stopping → Prop where
  | test {stopper : Stopper} (h : s.stopper = .test)
      (hstopper : stopper = .returned ∨ stopper = .heartbeat ∨ stopper = .setStopped) :
      Moves s .stop { s with stopper }
  | heartbeat (h : s.stopper = .heartbeat) : Moves s .stop { s with stopper := .setStopped }
  | setStopped (h : s.stopper = .setStopped) :
      Moves s .stop { s with stopped := true, stopper := .joinRecv }
  | joinRecv (h : s.stopper = .joinRecv) (hexited : s.receiver = .exited) :
      Moves s .stop { s with stopper := .notify }
  | notify (h : s.stopper = .notify) :
      Moves s .stop { s with sender := s.sender.notifyAll, stopper := .joinSend }
  | joinSend (h : s.stopper = .joinSend) (hexited : s.sender = .exited) :
      Moves s .stop { s with stopper := .close }
  | close (h : s.stopper = .close) (socket : Socket) :
      Moves s .stop { s with socket, stopper := .returned }
  | receiver {event : ReceiverEvent} {receiver : Receiver} (socket : Socket)
      (hrunning : s.receiver ≠ .exited)
      (hleft : s.stopped = true → receiver.left + 1 ≤ s.receiver.left) :
      Moves s (.receiver event) { s with socket, receiver }
  | sender {event : SenderEvent} {sender : Sender} (queue : BlockQueue (Option SharedBuffer))
      (hrunning : s.sender ≠ .exited)
      (hleft : s.stopped = true → sender.left + 1 ≤ s.sender.left)
      (hwaiting : sender = .waiting → queue.elements = []) :
      Moves s (.sender event) { s with queue, sender }
  | spurious (h : s.sender = .waiting) : Moves s .spurious { s with sender := .notified }
  | put (buf : Option SharedBuffer) :
      Moves s (.put buf) { s with queue := s.queue.put buf, sender := s.sender.notifyAll }
  | peer {event : StopEvent} (socket : Socket) (hevent : Goes event = false) :
      Moves s event { s with socket }

theorem moves_of_stopStep {s s' : Stopping} (h : s.stopStep = some s') : s.Moves .stop s' := by
  unfold stopStep at h
  split at h
  · next hstopper => split_ifs at h <;> cases h <;> exact .test hstopper (by simp)
  · next hstopper =>
      cases h
      exact .heartbeat hstopper
  · next hstopper =>
      cases h
      exact .setStopped hstopper
  · next hstopper =>
      split_ifs at h with hexited
      cases h
      exact .joinRecv hstopper hexited
  · next hstopper =>
      cases h
      exact .notify hstopper
  · next hstopper =>
      split_ifs at h with hexited
      cases h
      exact .joinSend hstopper hexited
  · next hstopper =>
      cases h
      exact .close hstopper _
  · cases h

theorem moves_of_receiverStep {s s' : Stopping} {event : ReceiverEvent}
    (h : s.receiverStep event = some s') : s.Moves (.receiver event) s' := by
  unfold receiverStep at h
  split at h
  · next hreceiver =>
      cases h
      refine .receiver s.socket (by rw [hreceiver]; nofun) ?_
      intro hstopped
      rw [if_pos hstopped, hreceiver]
      exact le_rfl
  · next hreceiver =>
      cases h
      exact .receiver s.socket (by rw [hreceiver]; nofun) fun _ => by rw [hreceiver]; exact le_rfl
  · next received hreceiver =>
      obtain ⟨socket, -, rfl⟩ := Option.map_eq_some_iff.mp h
      refine .receiver socket (by rw [hreceiver]; nofun) ?_
      intro _
      rw [hreceiver]
      exact Nat.succ_le_succ (Receiver.received_left received)
  · next hreceiver =>
      cases h
      exact .receiver s.socket (by rw [hreceiver]; nofun) fun _ => by rw [hreceiver]; exact le_rfl
  · cases h

theorem moves_of_senderStep {s s' : Stopping} {event : SenderEvent}
    (h : s.senderStep event = some s') : s.Moves (.sender event) s' := by
  unfold senderStep at h
  split at h
  · next hsender =>
      cases h
      refine .sender s.queue (by rw [hsender]; nofun) ?_ (by split <;> nofun)
      intro hstopped
      rw [if_pos hstopped, hsender]
      exact le_rfl
  · next hsender =>
      split at h
      · next htake =>
          cases h
          refine .sender s.queue (by rw [hsender]; nofun)
            (fun _ => by rw [hsender]; exact le_rfl) ?_
          intro _
          unfold BlockQueue.take at htake
          split at htake
          · next hsize => exact List.length_eq_zero_iff.mp hsize.symm
          · cases htake
      · next taken _ =>
          cases h
          have hle := Sender.taken_left taken
          refine .sender s.queue (by rw [hsender]; nofun) ?_
            fun hw => absurd hw (taken_ne_waiting _)
          intro _
          rw [hsender]
          exact (Nat.succ_le_succ hle).trans (Nat.le_of_ble_eq_true rfl)
  · next hsender =>
      cases h
      refine .sender s.queue (by rw [hsender]; nofun) ?_ fun hw => absurd hw (taken_ne_waiting _)
      intro _
      rw [hsender]
      exact Nat.succ_le_succ (Sender.taken_left _)
  · next hsender =>
      cases h
      exact .sender s.queue (by rw [hsender]; nofun) (fun _ => by rw [hsender]; exact le_rfl) nofun
  · next hsender =>
      cases h
      exact .sender s.queue.pull (by rw [hsender]; nofun)
        (fun _ => by rw [hsender]; exact le_rfl) nofun
  · cases h

theorem moves_of_step {s s' : Stopping} {event : StopEvent} (h : s.step event = some s') :
    s.Moves event s' := by
  cases event with
  | stop => exact moves_of_stopStep h
  | receiver event => exact moves_of_receiverStep h
  | sender event => exact moves_of_senderStep h
  | spurious =>
      simp only [Stopping.step] at h
      split at h
      · next hsender =>
          cases h
          exact .spurious hsender
      · cases h
  | put buf =>
      cases h
      exact .put buf
  | peerSend size =>
      simp only [Stopping.step] at h
      split_ifs at h
      cases h
      exact .peer _ rfl
  | peerClose =>
      cases h
      exact .peer _ rfl

/-! ## The three threads come to rest -/

/-- What `stop` has waited for, and what the send thread waits for. -/
structure Waited (s : Stopping) : Prop where
  unset : 5 ≤ s.stopper.left → s.stopped = false
  received : s.stopped = true → s.stopper.left ≤ 3 → s.receiver = .exited
  sent : s.stopped = true → s.stopper.left ≤ 1 → s.sender = .exited
  waiting : s.sender = .waiting → s.queue.elements = []

theorem Waited.step {s s' : Stopping} {event : StopEvent} (h : s.Waited)
    (hstep : s.step event = some s') : s'.Waited := by
  cases moves_of_step hstep with
  | test hstopper hnext =>
      have hunset := h.unset (by rw [hstopper]; exact Nat.le_of_ble_eq_true rfl)
      refine ⟨fun _ => hunset, ?_, ?_, h.waiting⟩ <;>
        exact fun hstopped => absurd (hunset.symm.trans hstopped) nofun
  | heartbeat hstopper =>
      have hunset := h.unset (by rw [hstopper]; exact Nat.le_of_ble_eq_true rfl)
      refine ⟨fun _ => hunset, ?_, ?_, h.waiting⟩ <;>
        exact fun hstopped => absurd (hunset.symm.trans hstopped) nofun
  | setStopped hstopper =>
      exact ⟨by simp [Stopper.left], by simp [Stopper.left], by simp [Stopper.left], h.waiting⟩
  | joinRecv hstopper hexited =>
      exact ⟨by simp [Stopper.left], fun _ _ => hexited, by simp [Stopper.left], h.waiting⟩
  | notify hstopper =>
      refine ⟨by simp [Stopper.left], ?_, by simp [Stopper.left],
        fun hw => absurd hw (notifyAll_ne_waiting _)⟩
      exact fun hstopped _ => h.received hstopped (by rw [hstopper]; exact le_rfl)
  | joinSend hstopper hexited =>
      refine ⟨by simp [Stopper.left], ?_, fun _ _ => hexited, h.waiting⟩
      exact fun hstopped _ => h.received hstopped (by rw [hstopper]; exact Nat.le_succ 2)
  | close hstopper =>
      refine ⟨by simp [Stopper.left], ?_, ?_, h.waiting⟩
      · exact fun hstopped _ =>
          h.received hstopped (by rw [hstopper]; exact Nat.le_of_ble_eq_true rfl)
      · exact fun hstopped _ => h.sent hstopped (by rw [hstopper]; exact le_rfl)
  | receiver socket hrunning =>
      refine ⟨h.unset, ?_, h.sent, h.waiting⟩
      exact fun hstopped hleft => absurd (h.received hstopped hleft) hrunning
  | sender queue hrunning hleft hwaiting =>
      refine ⟨h.unset, h.received, ?_, hwaiting⟩
      exact fun hstopped hleft => absurd (h.sent hstopped hleft) hrunning
  | spurious hsender =>
      refine ⟨h.unset, h.received, ?_, nofun⟩
      intro hstopped hleft
      have hexited := h.sent hstopped hleft
      rw [hsender] at hexited
      cases hexited
  | put buf =>
      refine ⟨h.unset, h.received, ?_, fun hw => absurd hw (notifyAll_ne_waiting _)⟩
      intro hstopped hleft
      simp only [h.sent hstopped hleft, Sender.notifyAll]
  | peer socket => exact ⟨h.unset, h.received, h.sent, h.waiting⟩

end Stopping

end Csae295
