import Csae295.Library.Interleaving
import Csae295.Verification.Channels

/-! What the threads' calls of `send` and `batch` put into the two queues.

A call of `batch` is a loop of `send`s, between which other threads may send as well; so a queue
gets an interleaving of what the threads send to its channel. -/

namespace Csae295

open Library

/-- What has gone into the queue since the channel was connected, and what it held then. -/
def Channel.through (c : Channel) : List (Option SharedBuffer) := c.pulled ++ c.queue.elements

theorem Channel.pull_through (c : Channel) : c.pullStep.through = c.through := by
  unfold Channel.through Channel.pullStep BlockQueue.pull
  cases helements : c.queue.elements with
  | nil => simp [BlockQueue.size, helements]
  | cons buf rest => simp [BlockQueue.size, helements]

/-- The send loop takes nothing from the queue but by `pull`, and adds nothing. -/
theorem Channel.sendStep_through {c c' : Channel} {event : SendEvent}
    (h : c.sendStep event = some c') : c'.through = c.through := by
  cases sendStep_iff.mp h with
  | take =>
      unfold takeStep
      split <;> rfl
  | pull => exact c.pull_through
  | _ => rfl

theorem Channel.enqueue_through (c : Channel) (buf : Option SharedBuffer) :
    (c.enqueue buf).through = c.through ++ [buf] :=
  (List.append_assoc _ _ _).symm

namespace Controller

variable {τ : Type}

/-- The buffers of the channel that are left of the thread's call. -/
def pending (self : Controller τ) (t : τ) (ch : Byte) : List (Option SharedBuffer) :=
  ((self.calls t).filter (·.2 = ch)).map Prod.fst

/-- The buffers that the thread has called `batch` with for the channel. -/
def issued [DecidableEq τ] (t : τ) (ch : Byte) : List (Action τ) → List (Option SharedBuffer)
  | [] => []
  | .batch t' bufs ch' :: actions =>
    if t' = t ∧ ch' = ch then bufs ++ issued t ch actions else issued t ch actions
  | _ :: actions => issued t ch actions

/-- What has gone through the queue of the channel. -/
def through (self : Controller τ) (ch : Byte) : List (Option SharedBuffer) :=
  (self.channel ch).through

theorem send_through (self : Controller τ) (buf : Option SharedBuffer) {ch : Byte}
    (hch : ch ∈ [upChannel, downChannel]) (ch' : Byte) :
    (self.send buf ch').through ch =
      if ch' = ch then self.through ch ++ [buf] else self.through ch := by
  rw [through, send_channel self buf hch]
  split
  · exact (self.channel ch).enqueue_through buf
  · rfl

variable [DecidableEq τ]

/-- What a step makes of a queue and of what its threads have left to send: nothing, a call of
`batch`, or the first buffer of some thread. -/
inductive Sent (self self' : Controller τ) (ch : Byte) : Action τ → Prop where
  | none {action : Action τ}
      (hissued : ∀ t actions, issued t ch (action :: actions) = issued t ch actions)
      (hthrough : self'.through ch = self.through ch)
      (hpending : ∀ t, self'.pending t ch = self.pending t ch) : Sent self self' ch action
  | batch (t : τ) (bufs : List (Option SharedBuffer))
      (hthrough : self'.through ch = self.through ch)
      (hdone : self.pending t ch = []) (hpending : self'.pending t ch = bufs)
      (hothers : ∀ t' ≠ t, self'.pending t' ch = self.pending t' ch) :
      Sent self self' ch (.batch t bufs ch)
  | send (t : τ) (buf : Option SharedBuffer)
      (hthrough : self'.through ch = self.through ch ++ [buf])
      (hpending : self.pending t ch = buf :: self'.pending t ch)
      (hothers : ∀ t' ≠ t, self'.pending t' ch = self.pending t' ch) : Sent self self' ch (.send t)

theorem pending_batch (bufs : List (Option SharedBuffer)) (ch ch' : Byte) :
    ((batch bufs ch').filter (·.2 = ch)).map Prod.fst = if ch' = ch then bufs else [] := by
  by_cases hch : ch' = ch
  · simp [batch, hch, List.filter_map, Function.comp_def]
  · simp [batch, hch, List.filter_map, Function.comp_def]

theorem sent_of_step {self self' : Controller τ} {action : Action τ} {ch : Byte}
    (hch : ch ∈ [upChannel, downChannel]) (h : self.step action = some self') :
    Sent self self' ch action := by
  cases action with
  | batch t bufs ch' =>
      simp only [Controller.step] at h
      split at h
      · next hidle =>
          cases h
          have hself : ((Function.update self.calls t (batch bufs ch') t).filter (·.2 = ch)).map
              Prod.fst = if ch' = ch then bufs else [] := by
            rw [Function.update_self, pending_batch]
          have hothers : ∀ t' ≠ t, ((Function.update self.calls t (batch bufs ch') t').filter
              (·.2 = ch)).map Prod.fst = self.pending t' ch := by
            intro t' ht
            rw [Function.update_of_ne ht]
            rfl
          have hdone : self.pending t ch = [] := by
            rw [pending, hidle]
            rfl
          by_cases hsame : ch' = ch
          · subst hsame
            rw [if_pos rfl] at hself
            exact .batch t bufs rfl hdone hself hothers
          · rw [if_neg hsame] at hself
            refine .none (fun t' actions => ?_) rfl fun t' => ?_
            · rw [issued, if_neg fun hand => hsame hand.2]
            · by_cases ht : t' = t
              · subst ht
                exact hself.trans hdone.symm
              · exact hothers t' ht
      · cases h
  | send t =>
      simp only [Controller.step] at h
      split at h
      · cases h
      · next buf ch' rest hcalls =>
          cases h
          have hthrough : (self.send buf ch').through ch =
              if ch' = ch then self.through ch ++ [buf] else self.through ch :=
            self.send_through buf hch ch'
          have hpending : self.pending t ch = (if ch' = ch then [buf] else []) ++
              (rest.filter (·.2 = ch)).map Prod.fst := by
            rw [pending, hcalls]
            by_cases hsame : ch' = ch <;> simp [hsame]
          have hothers : ∀ t' ≠ t, ((Function.update self.calls t rest t').filter
              (·.2 = ch)).map Prod.fst = self.pending t' ch := by
            intro t' ht
            rw [Function.update_of_ne ht]
            rfl
          have hself : ((Function.update self.calls t rest t).filter (·.2 = ch)).map Prod.fst =
              (rest.filter (·.2 = ch)).map Prod.fst := by
            rw [Function.update_self]
          by_cases hsame : ch' = ch
          · rw [if_pos hsame] at hthrough hpending
            refine .send t buf hthrough ?_ hothers
            rw [hpending, ← hself]
            rfl
          · rw [if_neg hsame] at hthrough hpending
            refine .none (fun _ _ => rfl) hthrough fun t' => ?_
            by_cases ht : t' = t
            · subst ht
              exact hself.trans hpending.symm
            · exact hothers t' ht
  | up event =>
      obtain ⟨up, hup, rfl⟩ := Option.map_eq_some_iff.mp h
      refine .none (fun _ _ => rfl) ?_ fun _ => rfl
      unfold Controller.through Controller.channel
      split
      · exact Channel.sendStep_through hup
      · rfl
  | down event =>
      obtain ⟨down, hdown, rfl⟩ := Option.map_eq_some_iff.mp h
      refine .none (fun _ _ => rfl) ?_ fun _ => rfl
      unfold Controller.through Controller.channel
      split
      · rfl
      · exact Channel.sendStep_through hdown

/-- Over every run, what goes into a channel's queue is an interleaving of what the threads send
to that channel: of each thread, every buffer of its calls once and in its order, but for those
that its present call has not come to. -/
theorem sends_interleave (self : Controller τ) {self' : Controller τ} {actions : List (Action τ)}
    (hrun : (system τ).run self actions = some self') : ∀ ch ∈ [upChannel, downChannel],
      ∃ parts new, Interleaving parts new ∧ self'.through ch = self.through ch ++ new ∧
        ∀ t, self.pending t ch ++ issued t ch actions = parts t ++ self'.pending t ch := by
  intro ch hch
  induction actions generalizing self with
  | nil =>
      cases hrun
      exact ⟨fun _ => [], [], .nil, (List.append_nil _).symm, fun t => List.append_nil _⟩
  | cons action actions ih =>
      obtain ⟨next, hnext, hrest⟩ := Option.bind_eq_some_iff.mp hrun
      obtain ⟨parts, new, hparts, hnew, hpending⟩ := ih next hrest
      cases sent_of_step hch hnext with
      | none hissued hthrough hsame =>
          refine ⟨parts, new, hparts, by rw [hnew, hthrough], ?_⟩
          intro t
          rw [hissued, ← hsame, hpending]
      | batch t bufs hthrough hdone hstart hothers =>
          refine ⟨parts, new, hparts, by rw [hnew, hthrough], ?_⟩
          intro t'
          rw [← hpending, issued]
          by_cases ht : t' = t
          · subst ht
            rw [if_pos ⟨rfl, rfl⟩, hdone, hstart, List.nil_append]
          · rw [if_neg fun hand => ht hand.1.symm, hothers t' ht]
      | send t buf hthrough hfirst hothers =>
          refine ⟨Function.update parts t (buf :: parts t), buf :: new, hparts.cons t buf, ?_, ?_⟩
          · rw [hnew, hthrough, List.append_assoc, List.singleton_append]
          · intro t'
            change self.pending t' ch ++ issued t' ch actions = _
            by_cases ht : t' = t
            · subst ht
              rw [Function.update_self, hfirst, List.cons_append, hpending, List.cons_append]
            · rw [Function.update_of_ne ht, ← hothers t' ht, hpending]

/-- One thread sends a buffer between the two that another thread sends in one call. -/
theorem sends_interleave_two_threads : ∃ parts : Bool → List (Option SharedBuffer),
    Interleaving parts [some twoBytes, none, some twoBytes] ∧
      parts false = [some twoBytes, some twoBytes] ∧ parts true = [none] := by
  let idle : Controller Bool := { up := quiet.up, down := quiet.down, calls := fun _ => [] }
  obtain ⟨parts, new, hparts, hnew, hpending⟩ := sends_interleave idle
    (show (system Bool).run idle [.batch false [some twoBytes, some twoBytes] upChannel,
      .batch true [none] upChannel, .send false, .send true, .send false] = some _ from rfl)
    upChannel List.mem_cons_self
  obtain rfl : [some twoBytes, none, some twoBytes] = new := hnew
  refine ⟨parts, hparts, ?_, ?_⟩
  · have hfalse := hpending false
    exact (hfalse.trans (List.append_nil _)).symm
  · have htrue := hpending true
    exact (htrue.trans (List.append_nil _)).symm

end Controller

end Csae295
