import Csae295.Model.SharedQueue

/-! What the consumer of a blocking queue sees, over every run of its threads.

`take` looks at the size before its wait and not behind it, while `pull` does: whatever wakes
the consumer has to leave an element in the queue. -/

namespace Csae295.SharedQueue

open Library

variable {α : Type}

/-- The consumer has not come to the front of an empty queue. It has seen the elements in the
order they were put, each once, and it has pulled those and no others but the one it holds,
which is the oldest in the queue. -/
structure InOrder (s : SharedQueue α) : Prop where
  defined : ∀ e, s.consumer ≠ .fault e
  seen : s.seen <+: s.put
  pulled : s.seen = s.pulled ++ s.consumer.held
  recorded : s.put = s.pulled ++ s.queue.elements
  oldest : s.consumer.held <+: s.queue.elements

/-- The wait of `take` returns to a queue with an element. -/
def ReturnsElement (s : SharedQueue α) : QueueEvent α → Prop
  | .resume => s.queue.elements ≠ []
  | _ => True

/-- The order follows from what is held and what has been pulled. -/
theorem InOrder.of_front {s : SharedQueue α} (defined : ∀ e, s.consumer ≠ .fault e)
    (pulled : s.seen = s.pulled ++ s.consumer.held)
    (recorded : s.put = s.pulled ++ s.queue.elements)
    (oldest : s.consumer.held <+: s.queue.elements) : s.InOrder := by
  refine ⟨defined, ?_, pulled, recorded, oldest⟩
  rw [pulled, recorded, List.prefix_append_right_inj]
  exact oldest

/-! ## One step -/

/-- The consumer may move on as long as it holds what it held. -/
theorem InOrder.goto {s : SharedQueue α} {consumer : Consumer α} (h : s.InOrder)
    (hdefined : ∀ e, consumer ≠ .fault e) (hheld : consumer.held = s.consumer.held) :
    InOrder { s with consumer } :=
  .of_front hdefined (by rw [h.pulled, hheld]) h.recorded (by rw [hheld]; exact h.oldest)

theorem notifyAll_held (consumer : Consumer α) : consumer.notifyAll.held = consumer.held := by
  cases consumer <;> rfl

theorem notifyAll_defined {consumer : Consumer α} (h : ∀ e, consumer ≠ .fault e) (e : Fault) :
    consumer.notifyAll ≠ .fault e := by
  cases consumer with
  | waiting => nofun
  | _ => exact h e

theorem InOrder.notifyStep {s : SharedQueue α} (h : s.InOrder) : s.notifyStep.InOrder :=
  h.goto (notifyAll_defined h.defined) (notifyAll_held _)

/-- A put goes behind what the consumer holds. -/
theorem InOrder.putStep {s : SharedQueue α} (h : s.InOrder) (t : α) : (s.putStep t).InOrder := by
  refine .of_front (notifyAll_defined h.defined) ?_ ?_ ?_
  · simp only [SharedQueue.putStep, h.pulled, notifyAll_held]
  · simp only [SharedQueue.putStep, BlockQueue.put, h.recorded, List.append_assoc]
  · simp only [SharedQueue.putStep, BlockQueue.put, notifyAll_held]
    exact h.oldest.trans (List.prefix_append _ _)

/-- Behind an empty hand the front of a nonempty queue is the next element in order. -/
theorem InOrder.takeReturn {s : SharedQueue α} (h : s.InOrder) (hheld : s.consumer.held = [])
    (hqueue : s.queue.elements ≠ []) : (s.takeReturn s.queue.front).InOrder := by
  obtain ⟨t, rest, hcons⟩ := List.exists_cons_of_ne_nil hqueue
  have hfront : s.queue.front = .ok t := by simp only [BlockQueue.front, hcons]
  rw [hfront]
  refine .of_front nofun ?_ h.recorded ?_
  · simp only [SharedQueue.takeReturn, Consumer.taken, h.pulled, hheld, List.append_nil]
  · simp only [SharedQueue.takeReturn, Consumer.taken, Consumer.held, hcons]
    exact ⟨rest, rfl⟩

theorem InOrder.takeStep {s : SharedQueue α} (h : s.InOrder) (hloop : s.consumer = .outside) :
    s.takeStep.InOrder := by
  have hheld : s.consumer.held = [] := by rw [hloop]; rfl
  unfold SharedQueue.takeStep BlockQueue.take
  by_cases hsize : 0 = s.queue.size
  · rw [if_pos hsize]
    exact h.goto nofun hheld.symm
  · rw [if_neg hsize]
    exact h.takeReturn hheld fun hnil => hsize (List.length_eq_zero_iff.mpr hnil).symm

/-- What is pulled is what is held: nobody else takes from the queue. -/
theorem InOrder.pullStep {s : SharedQueue α} {t : α} (h : s.InOrder)
    (hloop : s.consumer = .holding t) : s.pullStep.InOrder := by
  have hheld : s.consumer.held = [t] := by rw [hloop]; rfl
  obtain ⟨rest, hcons⟩ := hheld ▸ h.oldest
  rw [List.singleton_append] at hcons
  have hpull : s.queue.pull.elements = rest := by
    simp [BlockQueue.pull, BlockQueue.size, ← hcons]
  refine .of_front nofun ?_ ?_ List.nil_prefix
  · have hseen := h.pulled
    rw [hheld] at hseen
    simp only [SharedQueue.pullStep, hseen, ← hcons, List.take_succ_cons, List.take_zero,
      Consumer.held, List.append_nil]
  · simp only [SharedQueue.pullStep, hpull, h.recorded, ← hcons, List.take_succ_cons,
      List.take_zero, List.append_assoc, List.singleton_append]

theorem InOrder.step {s s' : SharedQueue α} {event : QueueEvent α} (h : s.InOrder)
    (hreturns : s.ReturnsElement event) (hstep : s.step event = some s') : s'.InOrder := by
  cases event with
  | put t =>
      cases hstep
      exact h.putStep t
  | notify =>
      cases hstep
      exact h.notifyStep
  | spurious =>
      simp only [SharedQueue.step] at hstep
      split at hstep
      · next hloop =>
          cases hstep
          exact h.goto nofun (by rw [hloop]; rfl)
      · cases hstep
  | take =>
      simp only [SharedQueue.step] at hstep
      split at hstep
      · next hloop =>
          cases hstep
          exact h.takeStep hloop
      · cases hstep
  | resume =>
      simp only [SharedQueue.step] at hstep
      split at hstep
      · next hloop =>
          cases hstep
          exact h.takeReturn (by rw [hloop]; rfl) hreturns
      · cases hstep
  | pull =>
      simp only [SharedQueue.step] at hstep
      split at hstep
      · next hloop =>
          cases hstep
          exact h.pullStep hloop
      · cases hstep

/-- A wait that returns to an empty queue leaves `take` at a front that is not there. -/
theorem not_inOrder_of_empty {s s' : SharedQueue α} {event : QueueEvent α}
    (hreturns : ¬ s.ReturnsElement event) (hstep : s.step event = some s') : ¬ s'.InOrder := by
  cases event with
  | put | notify | spurious | take | pull => exact absurd trivial hreturns
  | resume =>
      have hnil : s.queue.elements = [] := not_not.mp hreturns
      have hfront : s.queue.wake = .error .index := by
        simp only [BlockQueue.wake, BlockQueue.front, hnil]
      simp only [SharedQueue.step] at hstep
      split at hstep
      · cases hstep
        intro horder
        exact horder.defined .index (by simp only [SharedQueue.takeReturn, hfront, Consumer.taken])
      · cases hstep

/-! ## Runs -/

theorem init_inOrder {s : SharedQueue α} (h : (system α).Init s) : s.InOrder := by
  obtain ⟨hloop, hput, hseen, hpulled⟩ := h
  refine .of_front ?_ ?_ ?_ ?_
  · intro e
    rw [hloop]
    nofun
  · rw [hseen, hpulled, hloop]
    rfl
  · rw [hput, hpulled, List.nil_append]
  · rw [hloop]
    exact List.nil_prefix

/-- A run keeps the order in all of its states exactly when no wait returns to an empty queue. -/
theorem inOrder_iff {s : SharedQueue α} (hinit : (system α).Init s) {events : List (QueueEvent α)}
    (hrun : ((system α).run s events).isSome) :
    (system α).Throughout InOrder s events ↔ (system α).Along ReturnsElement s events :=
  System.throughout_iff_along InOrder (fun _ => id) (fun _ _ _ h => h.step)
    (fun _ _ _ _ => not_inOrder_of_empty) (init_inOrder hinit) hrun

/-- An empty queue of numbers whose consumer has not called anything. -/
def empty : SharedQueue ℕ :=
  { queue := ⟨[]⟩, consumer := .outside, put := [], seen := [], pulled := [] }

/-- Two elements, of which the first finds the consumer waiting. -/
theorem inOrder_iff_two_puts :
    (system ℕ).Throughout InOrder empty [.take, .put 1, .put 2, .resume, .pull, .take, .pull] :=
  (inOrder_iff ⟨rfl, rfl, rfl, rfl⟩ rfl).mpr
    ⟨trivial, trivial, trivial, List.cons_ne_nil 1 [2], trivial, trivial, trivial, trivial⟩

/-- The consumer waits for an element and is notified without one. -/
theorem notify_without_element :
    ¬ ∀ (s : SharedQueue ℕ), (system ℕ).Reachable s → s.InOrder := by
  intro hall
  have hstart : (system ℕ).Reachable empty := .init ⟨rfl, rfl, rfl, rfl⟩
  have hreachable := hstart.run [.take, .notify, .resume] rfl
  exact (hall _ hreachable).defined .index rfl

end Csae295.SharedQueue
