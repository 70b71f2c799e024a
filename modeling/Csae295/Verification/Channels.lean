import Csae295.Verification.Sending

/-! The two channels of the controller, one at a time: a step of the whole puts at most one buffer
into a queue or lets its send loop go on. -/

namespace Csae295

open Library

/-! ## One channel -/

namespace Channel

variable {c c' : Channel}

/-- The loop puts nothing. -/
theorem sendStep_put {event : SendEvent} (h : c.sendStep event = some c') : c'.put = c.put := by
  cases sendStep_iff.mp h with
  | take =>
      unfold takeStep
      split <;> rfl
  | _ => rfl

/-- What a step does to a channel: nothing, a buffer is put, or the send loop goes on. -/
inductive Moves (c : Channel) : Option SendEvent → Channel → Prop where
  | still : Moves c none c
  | enqueue (buf : Option SharedBuffer) : Moves c none (c.enqueue buf)
  | loop {c' : Channel} {event : SendEvent} (h : c.sendStep event = some c') :
      Moves c (some event) c'

theorem Moves.put_mono {event : Option SendEvent} (h : c.Moves event c') : c.put <+: c'.put := by
  cases h with
  | still => exact List.prefix_rfl
  | enqueue buf => exact List.prefix_append _ _
  | loop hstep => rw [sendStep_put hstep]

end Channel

/-! ## Both channels -/

/-- The step of the channel's send loop that an action is. -/
def Action.loopEvent {τ : Type} (ch : Byte) : Action τ → Option SendEvent
  | .up event => if upChannel = ch then some event else none
  | .down event => if downChannel = ch then some event else none
  | _ => none

namespace Controller

variable {τ : Type}

def channel (self : Controller τ) (ch : Byte) : Channel :=
  if upChannel = ch then self.up else self.down

theorem Invariant.channel {self : Controller τ} (h : self.Invariant) (ch : Byte) :
    (self.channel ch).Invariant := by
  unfold Controller.channel
  split
  · exact h.1
  · exact h.2

/-- `send` puts the buffer into the queue of its channel and leaves the other one alone. -/
theorem send_channel (self : Controller τ) (buf : Option SharedBuffer) {ch : Byte}
    (hch : ch ∈ [upChannel, downChannel]) (ch' : Byte) :
    (self.send buf ch').channel ch =
      if ch' = ch then (self.channel ch).enqueue buf else self.channel ch := by
  simp only [List.mem_cons, List.not_mem_nil, or_false] at hch
  have hne : upChannel ≠ downChannel := by decide
  unfold Controller.send Controller.channel
  rcases hch with rfl | rfl
  · by_cases hup : upChannel = ch'
    · simp [← hup]
    · rw [if_neg hup, if_neg (Ne.symm hup), if_pos rfl, if_pos rfl]
      split <;> rfl
  · rw [if_neg hne, if_neg hne]
    by_cases hdown : downChannel = ch'
    · rw [if_pos hdown.symm, ← hdown, if_neg hne, if_pos rfl]
    · rw [if_neg hdown, if_neg (Ne.symm hdown)]
      split <;> rfl

variable [DecidableEq τ]

theorem channel_moves {self self' : Controller τ} {action : Action τ} {ch : Byte}
    (hch : ch ∈ [upChannel, downChannel]) (h : self.step action = some self') :
    (self.channel ch).Moves (action.loopEvent ch) (self'.channel ch) := by
  cases action with
  | batch t bufs ch' =>
      simp only [Controller.step] at h
      split at h
      · cases h
        exact .still
      · cases h
  | send t =>
      simp only [Controller.step] at h
      split at h
      · cases h
      · next buf ch' rest _ =>
          cases h
          change (self.channel ch).Moves none ((self.send buf ch').channel ch)
          rw [send_channel self buf hch]
          split
          · exact .enqueue buf
          · exact .still
  | up event =>
      obtain ⟨up, hup, rfl⟩ := Option.map_eq_some_iff.mp h
      unfold Action.loopEvent channel
      split
      · exact .loop hup
      · exact .still
  | down event =>
      obtain ⟨down, hdown, rfl⟩ := Option.map_eq_some_iff.mp h
      simp only [List.mem_cons, List.not_mem_nil, or_false] at hch
      unfold Action.loopEvent channel
      rcases hch with rfl | rfl
      · exact .still
      · exact .loop hdown

theorem connected_of_init {self : Controller τ} (h : (system τ).Init self) (ch : Byte) :
    (self.channel ch).Connected := by
  unfold channel
  split
  · exact h.1
  · exact h.2

end Controller

end Csae295
