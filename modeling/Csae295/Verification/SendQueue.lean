import Csae295.Model.SharedQueue
import Csae295.Verification.Draining

/-! The send loop is the consumer of its queue.

Between `take` and `pull` the loop holds a buffer, and nothing else of it concerns the queue; so
what holds of a consumer that takes and pulls in turn holds of the send loop, as long as no null
pointer takes the loop back to `take` without a `pull`. -/

namespace Csae295

open Library

/-- Where the consumer of the queue stands, for a send loop. A consumer that waits may have been
notified. -/
inductive SendLoop.Consumes : SendLoop → Consumer (Option SharedBuffer) → Prop where
  | top : Consumes .top .outside
  | exited : Consumes .exited .outside
  | waiting : Consumes .waiting .waiting
  | notified : Consumes .waiting .notified
  | sending (p : SharedBuffer) : Consumes (.sending p) (.holding (some p))
  | sent (p : SharedBuffer) : Consumes (.sent p) (.holding (some p))
  | fault (e : Fault) : Consumes (.fault e) (.fault e)

/-- The channel's queue, and the queue with its consumer. -/
structure Channel.Refines (c : Channel) (q : SharedQueue (Option SharedBuffer)) : Prop where
  queue : q.queue = c.queue
  put : q.put = c.put
  pulled : q.pulled = c.pulled
  consumer : c.sendLoop.Consumes q.consumer

namespace Channel

variable {c c' : Channel} {q : SharedQueue (Option SharedBuffer)}

theorem Refines.enqueue (h : c.Refines q) (buf : Option SharedBuffer) :
    (c.enqueue buf).Refines (q.putStep buf) := by
  refine ⟨by simp only [SharedQueue.putStep, Channel.enqueue, h.queue], by
    simp only [SharedQueue.putStep, Channel.enqueue, h.put], h.pulled, ?_⟩
  have hconsumer := h.consumer
  change c.sendLoop.Consumes q.consumer.notifyAll
  generalize c.sendLoop = loop, q.consumer = consumer at hconsumer
  cases hconsumer with
  | waiting => exact .notified
  | top => exact .top
  | exited => exact .exited
  | notified => exact .notified
  | sending p => exact .sending p
  | sent p => exact .sent p
  | fault e => exact .fault e

/-- Behind `take` the loop holds what the consumer holds. -/
theorem Refines.takeReturn (h : c.Refines q) {taken : Except Fault (Option SharedBuffer)}
    (htaken : taken ≠ .ok none) :
    Refines { c with sendLoop := .taken taken } (q.takeReturn taken) := by
  refine ⟨h.queue, h.put, h.pulled, ?_⟩
  rcases taken with e | (_ | p)
  · exact .fault e
  · exact absurd rfl htaken
  · exact .sending p

/-- `take` of a queue without null pointers does not return one. -/
theorem front_ne_none (hsome : ∀ buf ∈ c.queue.elements, buf.isSome) :
    c.queue.front ≠ .ok none := by
  unfold BlockQueue.front
  cases helements : c.queue.elements with
  | nil => nofun
  | cons buf rest =>
      intro hnone
      have hbuf := hsome buf (by rw [helements]; exact List.mem_cons_self)
      cases hnone
      cases hbuf

theorem Refines.takeStep (h : c.Refines q) (hfront : c.queue.front ≠ .ok none) :
    c.takeStep.Refines q.takeStep := by
  unfold Channel.takeStep SharedQueue.takeStep
  rw [h.queue]
  cases htake : c.queue.take with
  | none => exact ⟨rfl, h.put, h.pulled, .waiting⟩
  | some taken =>
      apply h.takeReturn
      intro hnone
      unfold BlockQueue.take at htake
      split at htake
      · cases htake
      · exact hfront (Option.some.inj htake ▸ hnone)

theorem Refines.pullStep (h : c.Refines q) : c.pullStep.Refines q.pullStep := by
  refine ⟨?_, h.put, ?_, .top⟩
  · simp only [Channel.pullStep, SharedQueue.pullStep, h.queue]
  · simp only [Channel.pullStep, SharedQueue.pullStep, h.queue, h.pulled]

/-- Every step of the loop is one of the consumer's, or two where the wait returns by itself, or
none. -/
theorem Refines.sendStep (h : c.Refines q) (hsome : ∀ buf ∈ c.queue.elements, buf.isSome)
    {event : SendEvent} (hstep : c.sendStep event = some c') :
    ∃ events q', (SharedQueue.system _).run q events = some q' ∧ c'.Refines q' := by
  have hfront := front_ne_none hsome
  have hconsumer := h.consumer
  cases sendStep_iff.mp hstep with
  | stopped hloop =>
      rw [hloop] at hconsumer
      refine ⟨[], q, rfl, h.queue, h.put, h.pulled, ?_⟩
      generalize q.consumer = consumer at hconsumer
      cases hconsumer
      exact .exited
  | take hloop =>
      rw [hloop] at hconsumer
      have houtside : q.consumer = .outside := by
        generalize q.consumer = consumer at hconsumer
        cases hconsumer
        rfl
      refine ⟨[.take], q.takeStep, ?_, h.takeStep hfront⟩
      simp [System.run, SharedQueue.system, SharedQueue.step, houtside]
  | wake hloop =>
      rw [hloop] at hconsumer
      have hreturn := h.takeReturn hfront
      have hwait : q.consumer = .waiting ∨ q.consumer = .notified := by
        generalize q.consumer = consumer at hconsumer
        cases hconsumer with
        | waiting => exact .inl rfl
        | notified => exact .inr rfl
      rcases hwait with hwait | hnotified
      · refine ⟨[.spurious, .resume], _, ?_, hreturn⟩
        simp [System.run, SharedQueue.system, SharedQueue.step, hwait, SharedQueue.takeReturn,
          BlockQueue.wake, h.queue]
      · refine ⟨[.resume], _, ?_, hreturn⟩
        simp [System.run, SharedQueue.system, SharedQueue.step, hnotified, BlockQueue.wake, h.queue]
  | @socketSend p size hloop hsize =>
      rw [hloop] at hconsumer
      refine ⟨[], q, rfl, h.queue, h.put, h.pulled, ?_⟩
      generalize q.consumer = consumer at hconsumer
      cases hconsumer
      exact .sent p
  | @pull p hloop =>
      rw [hloop] at hconsumer
      have hholding : q.consumer = .holding (some p) := by
        generalize q.consumer = consumer at hconsumer
        cases hconsumer
        rfl
      refine ⟨[.pull], q.pullStep, ?_, h.pullStep⟩
      simp [System.run, SharedQueue.system, SharedQueue.step, hholding]

theorem Refines.moves (h : c.Refines q) (hsome : ∀ buf ∈ c.queue.elements, buf.isSome)
    {event : Option SendEvent} (hmoves : c.Moves event c') :
    ∃ events q', (SharedQueue.system _).run q events = some q' ∧ c'.Refines q' := by
  cases hmoves with
  | still => exact ⟨[], q, rfl, h⟩
  | enqueue buf => exact ⟨[.put buf], _, rfl, h.enqueue buf⟩
  | loop hstep => exact h.sendStep hsome hstep

theorem Connected.refines (h : c.Connected) : ∃ q, (SharedQueue.system _).Init q ∧ c.Refines q := by
  obtain ⟨hloop, -, hput, hpulled⟩ := h
  refine ⟨{ queue := c.queue, consumer := .outside, put := c.put, seen := [], pulled := [] },
    ⟨rfl, hput, rfl, rfl⟩, rfl, rfl, hpulled.symm, ?_⟩
  rw [hloop]
  exact .top

end Channel

namespace Controller

variable {τ : Type} [DecidableEq τ]

/-- Whatever the threads do, the send loop of a channel is the consumer of its queue in some run of
the queue, as long as no null pointer has been put: the same queue, the same elements put and
pulled, and what the loop holds between `take` and `pull` is what the consumer holds. -/
theorem loop_refines_consumer {self : Controller τ} (h : (system τ).Reachable self) :
    ∀ ch ∈ [upChannel, downChannel], (∀ buf ∈ (self.channel ch).put, buf.isSome) →
      ∃ q, (SharedQueue.system (Option SharedBuffer)).Reachable q ∧
        (self.channel ch).Refines q := by
  intro ch hch hsome
  let Related (s : Controller τ) (q : SharedQueue (Option SharedBuffer)) : Prop :=
    (s.channel ch).Ordered ∧ ((∀ buf ∈ (s.channel ch).put, buf.isSome) → (s.channel ch).Refines q)
  have hinit : ∀ s, (system τ).Init s → ∃ q, (SharedQueue.system _).Init q ∧ Related s q := by
    intro s hinit
    obtain ⟨q, hq, hrefines⟩ := (connected_of_init hinit ch).refines
    exact ⟨q, hq, ordered_of_init hinit ch, fun _ => hrefines⟩
  have hstep : ∀ s action s' q, Related s q → (system τ).step s action = some s' →
      ∃ events q', (SharedQueue.system _).run q events = some q' ∧ Related s' q' := by
    intro s action s' q hrelated hnext
    obtain ⟨hordered, hrefines⟩ := hrelated
    have hmoves := channel_moves hch hnext
    have hordered' := hordered.moves hmoves
    by_cases hsome' : ∀ buf ∈ (s'.channel ch).put, buf.isSome
    · have hsome : ∀ buf ∈ (s.channel ch).put, buf.isSome := fun buf hbuf =>
        hsome' buf (hmoves.put_mono.subset hbuf)
      have helements : ∀ buf ∈ (s.channel ch).queue.elements, buf.isSome := by
        intro buf hbuf
        apply hsome
        rw [hordered.recorded]
        exact List.mem_append_right _ hbuf
      obtain ⟨events, q', hrun, hrefines'⟩ := (hrefines hsome).moves helements hmoves
      exact ⟨events, q', hrun, hordered', fun _ => hrefines'⟩
    · exact ⟨[], q, rfl, hordered', fun hall => absurd hall hsome'⟩
  obtain ⟨q, hq, -, hrefines⟩ := System.Reachable.simulate hinit hstep h
  exact ⟨q, hq, hrefines hsome⟩

/-- The loop holds the first of two frames. -/
theorem loop_refines_consumer_sent : ∃ q : SharedQueue (Option SharedBuffer),
    (SharedQueue.system _).Reachable q ∧ q.put = [some twoBytes, some twoBytes] ∧
      q.consumer = .holding (some twoBytes) := by
  have hstart : (system Unit).Reachable quiet := .init quiet_init
  have hreachable := hstart.run [.batch () [some twoBytes, some twoBytes] upChannel, .send (),
    .send (), .up .take, .up (.socketSend (some 2))] rfl
  obtain ⟨q, hq, -, hput, -, hconsumer⟩ :=
    loop_refines_consumer hreachable upChannel List.mem_cons_self (by decide)
  refine ⟨q, hq, hput, ?_⟩
  have hsent : SendLoop.Consumes (.sent twoBytes) q.consumer := hconsumer
  generalize q.consumer = consumer at hsent
  cases hsent
  rfl

end Controller

end Csae295
