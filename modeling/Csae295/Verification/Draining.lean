import Csae295.Verification.Channels

/-! What of a queue gets out, and when.

The send loop drops nothing, so nothing passes a frame that it cannot send: a null pointer is taken
again and again and never pulled. In front of it every frame takes the loop three steps. -/

namespace Csae295

open Library

/-- The frames in front of the first null pointer. -/
def frontFrames (bufs : List (Option SharedBuffer)) : List (Option SharedBuffer) :=
  bufs.takeWhile Option.isSome

theorem frontFrames_append {bufs : List (Option SharedBuffer)} (h : ∀ buf ∈ bufs, buf.isSome)
    (rest : List (Option SharedBuffer)) : frontFrames (bufs ++ rest) = bufs ++ frontFrames rest :=
  List.takeWhile_append_of_pos h

theorem begins_frontFrames {bufs bufs' : List (Option SharedBuffer)} (h : bufs <+: bufs')
    (hsome : ∀ buf ∈ bufs, buf.isSome) : bufs <+: frontFrames bufs' := by
  obtain ⟨rest, rfl⟩ := h
  rw [frontFrames_append hsome]
  exact List.prefix_append _ _

theorem frontFrames_mono {bufs bufs' : List (Option SharedBuffer)} (h : bufs <+: bufs') :
    frontFrames bufs <+: frontFrames bufs' :=
  begins_frontFrames ((List.takeWhile_prefix _).trans h)
    fun _ hbuf => List.all_eq_true.mp List.all_takeWhile _ hbuf

theorem stream_mono {bufs bufs' : List (Option SharedBuffer)} (h : bufs <+: bufs') :
    stream bufs <+: stream bufs' := by
  obtain ⟨rest, rfl⟩ := h
  rw [stream_append]
  exact List.prefix_append _ _

theorem stream_sublist {bufs bufs' : List (Option SharedBuffer)} (h : bufs <+: bufs') :
    (stream bufs).Sublist (stream bufs') := (stream_mono h).sublist

namespace Channel

/-- The loop has sent, whole or in part, and pulled the frames in front of the queue one after
another, and the frame it holds is the next one. -/
structure Ordered (c : Channel) : Prop where
  recorded : c.put = c.pulled ++ c.queue.elements
  sendable : ∀ buf ∈ c.pulled, buf.isSome
  held : ∀ p, c.sendLoop.held = some p → c.queue.elements.head? = some (some p)
  accepted : c.accepted.Sublist (stream c.pulled ++ c.sendLoop.handed)

theorem Connected.ordered {c : Channel} (h : c.Connected) : c.Ordered := by
  obtain ⟨hloop, haccepted, hput, hpulled⟩ := h
  refine ⟨by rw [hput, hpulled, List.nil_append], ?_, ?_, ?_⟩
  · rw [hpulled]
    exact fun buf hbuf => absurd hbuf List.not_mem_nil
  · intro p hp
    rw [hloop] at hp
    cases hp
  · rw [haccepted]
    exact List.nil_sublist _

theorem Ordered.enqueue {c : Channel} (h : c.Ordered) (buf : Option SharedBuffer) :
    (c.enqueue buf).Ordered := by
  refine ⟨?_, h.sendable, ?_, h.accepted⟩
  · simp only [Channel.enqueue, BlockQueue.put, h.recorded, List.append_assoc]
  · intro p hp
    simp only [Channel.enqueue, BlockQueue.put, List.head?_append, h.held p hp, Option.some_or]

/-- The loop may move on as long as it has handed nothing over and holds the front. -/
theorem Ordered.goto {c : Channel} {loop : SendLoop} (h : c.Ordered)
    (hhanded : c.sendLoop.handed = [])
    (hheld : ∀ p, loop.held = some p → c.queue.elements.head? = some (some p)) :
    Ordered { c with sendLoop := loop } := by
  refine ⟨h.recorded, h.sendable, hheld, ?_⟩
  have haccepted := h.accepted
  rw [hhanded, List.append_nil] at haccepted
  exact haccepted.trans (List.sublist_append_left _ _)

/-- What `take` returns is the front, or the front of an empty queue. -/
theorem Ordered.taken {c : Channel} (h : c.Ordered) (hhanded : c.sendLoop.handed = []) :
    Ordered { c with sendLoop := .taken c.queue.front } := by
  apply h.goto hhanded
  intro p hp
  unfold BlockQueue.front at hp
  cases helements : c.queue.elements with
  | nil =>
      rw [helements] at hp
      cases hp
  | cons buf rest =>
      rw [helements] at hp
      cases buf with
      | none => cases hp
      | some q =>
          cases hp
          rfl

theorem Ordered.takeStep {c : Channel} (h : c.Ordered) (hhanded : c.sendLoop.handed = []) :
    c.takeStep.Ordered := by
  unfold Channel.takeStep BlockQueue.take
  by_cases hsize : 0 = c.queue.size
  · rw [if_pos hsize]
    exact h.goto hhanded fun _ hp => by cases hp
  · rw [if_neg hsize]
    exact h.taken hhanded

theorem Ordered.socketSend {c : Channel} {p : SharedBuffer} (h : c.Ordered)
    (hloop : c.sendLoop = .sending p) (size : Option ℕ) : (c.socketSend p size).Ordered := by
  refine ⟨h.recorded, h.sendable, fun p' hp => h.held p' (by rw [hloop]; exact hp), ?_⟩
  have haccepted : c.accepted.Sublist (stream c.pulled ++ []) := by
    rw [← show c.sendLoop.handed = [] by rw [hloop]; rfl]
    exact h.accepted
  rw [List.append_nil] at haccepted
  exact haccepted.append (List.take_sublist _ _)

theorem Ordered.sendable_snoc {c : Channel} (h : c.Ordered) (p : SharedBuffer) :
    ∀ buf ∈ c.pulled ++ [some p], buf.isSome := by
  intro buf hbuf
  rcases List.mem_append.mp hbuf with hbuf | hbuf
  · exact h.sendable buf hbuf
  · rw [List.mem_singleton.mp hbuf]
    rfl

theorem Ordered.pullStep {c : Channel} {p : SharedBuffer} (h : c.Ordered)
    (hloop : c.sendLoop = .sent p) : c.pullStep.Ordered := by
  obtain ⟨rest, hcons⟩ := List.head?_eq_some_iff.mp (h.held p (by rw [hloop]; rfl))
  have hpull : c.queue.pull.elements = rest := by
    simp [BlockQueue.pull, BlockQueue.size, hcons]
  have hpulled : c.pullStep.pulled = c.pulled ++ [some p] := by
    simp only [Channel.pullStep, hcons, List.take_succ_cons, List.take_zero]
  refine ⟨?_, ?_, ?_, ?_⟩
  · rw [hpulled, List.append_assoc, List.singleton_append]
    simp only [Channel.pullStep, hpull, h.recorded, hcons]
  · rw [hpulled]
    exact h.sendable_snoc p
  · intro p' hp
    cases hp
  · have haccepted := h.accepted
    rw [hloop] at haccepted
    rw [hpulled, stream_append, stream_singleton]
    exact haccepted.trans (List.sublist_append_left _ _)

theorem Ordered.sendStep {c c' : Channel} {event : SendEvent} (h : c.Ordered)
    (hstep : c.sendStep event = some c') : c'.Ordered := by
  cases sendStep_iff.mp hstep with
  | stopped hloop => exact h.goto (by rw [hloop]; rfl) fun _ hp => by cases hp
  | take hloop => exact h.takeStep (by rw [hloop]; rfl)
  | wake hloop => exact h.taken (by rw [hloop]; rfl)
  | socketSend hloop => exact h.socketSend hloop _
  | pull hloop => exact h.pullStep hloop

/-- Nothing behind the first null pointer is pulled or sent. -/
theorem Ordered.front {c : Channel} (h : c.Ordered) : c.pulled <+: frontFrames c.put ∧
    c.accepted.Sublist (stream (frontFrames c.put)) := by
  have hput : c.pulled <+: c.put := by
    rw [h.recorded]
    exact List.prefix_append _ _
  refine ⟨begins_frontFrames hput h.sendable, ?_⟩
  cases hloop : c.sendLoop with
  | sent p =>
      obtain ⟨rest, hcons⟩ := List.head?_eq_some_iff.mp (h.held p (by rw [hloop]; rfl))
      have hheld : c.pulled ++ [some p] <+: c.put := by
        rw [h.recorded, hcons, List.prefix_append_right_inj]
        exact ⟨rest, rfl⟩
      have haccepted := h.accepted
      rw [hloop] at haccepted
      refine haccepted.trans ?_
      change (stream c.pulled ++ p.bytes).Sublist _
      rw [← stream_singleton, ← stream_append]
      exact stream_sublist (begins_frontFrames hheld (h.sendable_snoc p))
  | _ =>
      have haccepted := h.accepted
      rw [hloop] at haccepted
      refine haccepted.trans ?_
      change (stream c.pulled ++ []).Sublist _
      rw [List.append_nil]
      exact stream_sublist (begins_frontFrames hput h.sendable)

/-! ## Three steps a frame -/

/-- The steps the loop has taken with the frame at the front of the queue. -/
def phase : SendLoop → ℕ
  | .sending _ => 1
  | .sent _ => 2
  | _ => 0

/-- The steps left until as many frames have been pulled. -/
def work (frames : ℕ) (c : Channel) : ℕ := 3 * (frames - c.pulled.length) - phase c.sendLoop

/-- In front of the first null pointer there is a frame at the front of the queue until all have
been pulled. -/
theorem Ordered.next {c : Channel} (h : c.Ordered)
    (hlength : c.pulled.length < (frontFrames c.put).length) :
    ∃ p rest, c.queue.elements = some p :: rest := by
  rw [h.recorded, frontFrames_append h.sendable] at hlength
  cases helements : c.queue.elements with
  | nil => simp [helements, frontFrames] at hlength
  | cons buf rest =>
      cases buf with
      | none => simp [helements, frontFrames] at hlength
      | some p => exact ⟨p, rest, rfl⟩

/-- Every step of the loop but its last one brings it nearer. -/
theorem Ordered.work_lt {c c' : Channel} {event : SendEvent} (h : c.Ordered)
    (hevent : event ≠ .stopped)
    (hstep : c.sendStep event = some c') {frames : ℕ}
    (hframes : frames ≤ (frontFrames c.put).length) :
    c'.work frames ≤ c.work frames - 1 := by
  by_cases hdone : frames ≤ c.pulled.length
  · have hpulled : c.pulled.length ≤ c'.pulled.length := by
      cases sendStep_iff.mp hstep with
      | take =>
          unfold Channel.takeStep
          split <;> exact le_rfl
      | pull => simp [Channel.pullStep]
      | _ => exact le_rfl
    simp only [work, Nat.sub_eq_zero_of_le hdone, Nat.sub_eq_zero_of_le (hdone.trans hpulled)]
    omega
  · obtain ⟨p, rest, hcons⟩ := h.next (by omega)
    have hfront : c.queue.front = .ok (some p) := by simp only [BlockQueue.front, hcons]
    cases sendStep_iff.mp hstep with
    | stopped => exact absurd rfl hevent
    | take hloop =>
        have hsize : 0 ≠ c.queue.size := by simp [BlockQueue.size, hcons]
        simp only [work, Channel.takeStep, BlockQueue.take, if_neg hsize, hfront, hloop,
          SendLoop.taken, phase]
        omega
    | wake hloop =>
        simp only [work, BlockQueue.wake, hfront, hloop, SendLoop.taken, phase]
        omega
    | socketSend hloop =>
        simp only [work, Channel.socketSend, hloop, phase]
        omega
    | pull hloop =>
        simp only [work, Channel.pullStep, hloop, phase, hcons, List.length_append,
          List.take_succ_cons, List.take_zero, List.length_singleton]
        omega

/-- When nothing is left to be done, the frames have been accepted. -/
theorem Invariant.accepted_of_work {c : Channel} (h : c.Invariant)
    {frames : List (Option SharedBuffer)}
    (hput : frames <+: c.put) (hwork : c.work frames.length = 0) :
    stream frames <+: c.accepted := by
  have hlength : frames.length ≤ c.pulled.length := by
    have hphase : phase c.sendLoop ≤ 2 := by cases c.sendLoop <;> simp [phase]
    unfold work at hwork
    omega
  have hpulled : frames <+: c.pulled := by
    apply List.prefix_of_prefix_length_le hput _ hlength
    rw [h.recorded]
    exact List.prefix_append _ _
  exact (stream_mono hpulled).trans h.inOrder.pulled

/-- The loop can go on unless it has left, or waits for an element. -/
theorem Invariant.goes_on {c : Channel} (h : c.Invariant) (hexited : c.sendLoop ≠ .exited)
    (hwaiting : c.sendLoop = .waiting → c.queue.elements ≠ []) :
    ∃ event, event ≠ .stopped ∧ c.Whole event ∧ (c.sendStep event).isSome := by
  cases hloop : c.sendLoop with
  | top => exact ⟨.take, by simp, trivial, by simp [Channel.sendStep, hloop]⟩
  | waiting => exact ⟨.wake, by simp, hwaiting hloop, by simp [Channel.sendStep, hloop]⟩
  | sending p =>
      refine ⟨.socketSend (some p.bytes.length), by simp, ?_, by simp [Channel.sendStep, hloop]⟩
      intro p' hp
      rw [hloop] at hp
      cases hp
      rfl
  | sent p => exact ⟨.pull, by simp, trivial, by simp [Channel.sendStep, hloop]⟩
  | exited => exact absurd hloop hexited
  | fault e => exact absurd hloop (h.defined e)

/-- Frames that have been put in front of the first null pointer stay there, and are pulled by
as many steps of the loop as are left. -/
theorem Ordered.work_le {c c' : Channel} {event : Option SendEvent} (h : c.Ordered)
    (hmoves : c.Moves event c') {frames : List (Option SharedBuffer)}
    (hframes : frames <+: frontFrames c.put) : frames <+: frontFrames c'.put ∧
      c'.work frames.length ≤ c.work frames.length - if event.any (· ≠ .stopped) then 1 else 0 := by
  cases hmoves with
  | still => exact ⟨hframes, le_rfl⟩
  | enqueue buf => exact ⟨hframes.trans (frontFrames_mono (List.prefix_append _ _)), le_rfl⟩
  | @loop _ event hstep =>
      refine ⟨by rw [sendStep_put hstep]; exact hframes, ?_⟩
      by_cases hevent : event = .stopped
      · subst hevent
        cases sendStep_iff.mp hstep with
        | stopped hloop => simp [work, hloop, phase]
      · simpa [hevent] using h.work_lt hevent hstep hframes.length_le

theorem Ordered.moves {c c' : Channel} {event : Option SendEvent} (h : c.Ordered)
    (hmoves : c.Moves event c') : c'.Ordered := by
  cases hmoves with
  | still => exact h
  | enqueue buf => exact h.enqueue buf
  | loop hstep => exact h.sendStep hstep

end Channel

/-! ## Both channels -/

namespace Controller

variable {τ : Type} [DecidableEq τ]

theorem ordered_of_init {self : Controller τ} (h : (system τ).Init self) (ch : Byte) :
    (self.channel ch).Ordered := (connected_of_init h ch).ordered

theorem ordered_of_reachable {self : Controller τ} (h : (system τ).Reachable self) {ch : Byte}
    (hch : ch ∈ [upChannel, downChannel]) : (self.channel ch).Ordered := by
  have hstep : ∀ (s : Controller τ) (action : Action τ) (s' : Controller τ),
      (s.channel ch).Ordered → True → (system τ).step s action = some s' →
      (s'.channel ch).Ordered := by
    intro s action s' hordered _ hstep
    exact hordered.moves (channel_moves hch hstep)
  exact h.invariant (fun _ hinit => ordered_of_init hinit ch) hstep

/-- In every state of every run, whatever the threads send: on either channel no frame has been
pulled or sent, not even in part, that was put behind a null pointer. -/
theorem null_blocks {self : Controller τ} (h : (system τ).Reachable self) :
    ∀ ch ∈ [upChannel, downChannel],
      (self.channel ch).pulled <+: frontFrames (self.channel ch).put ∧
      (self.channel ch).accepted.Sublist (stream (frontFrames (self.channel ch).put)) :=
  fun _ hch => (ordered_of_reachable h hch).front

/-- A null pointer is put in front of a frame, and the loop takes it twice. -/
theorem null_blocks_frame : ∃ self : Controller Unit,
    self.up.put = [none, some twoBytes] ∧ self.up.pulled = [] ∧ self.up.accepted = [] := by
  have hstart : (system Unit).Reachable quiet := .init quiet_init
  have hreachable := hstart.run
    [.batch () [none, some twoBytes] upChannel, .send (), .send (), .up .take, .up .take] rfl
  obtain ⟨hpulled, haccepted⟩ := null_blocks hreachable upChannel List.mem_cons_self
  exact ⟨_, rfl, List.prefix_nil.mp hpulled, List.sublist_nil.mp haccepted⟩

/-! ## Progress -/

/-- The loop of the channel takes a step and does not leave. -/
def goesOn (ch : Byte) (action : Action τ) : Bool := (action.loopEvent ch).any (· ≠ .stopped)

theorem exists_action {self : Controller τ} {ch : Byte} (hch : ch ∈ [upChannel, downChannel])
    {event : SendEvent} (hevent : event ≠ .stopped) (hwhole : (self.channel ch).Whole event)
    (hstep : ((self.channel ch).sendStep event).isSome) :
    ∃ action, goesOn ch action ∧ self.Whole action ∧ (self.step action).isSome := by
  simp only [List.mem_cons, List.not_mem_nil, or_false] at hch
  rcases hch with rfl | rfl
  · have hstep' : (self.up.sendStep event).isSome := hstep
    exact ⟨.up event, by simpa [goesOn, Action.loopEvent] using hevent, hwhole, by
      simpa [Controller.step] using hstep'⟩
  · have hstep' : (self.down.sendStep event).isSome := hstep
    exact ⟨.down event, by simpa [goesOn, Action.loopEvent] using hevent, hwhole, by
      simpa [Controller.step] using hstep'⟩

/-- Over every run, whatever the threads do meanwhile: once the loop of a channel has gone on three
times for each frame in front of the first null pointer that was not pulled, all these frames have
been accepted, and as long as the loop has not left and does not wait for an element it can go
on. -/
theorem queue_drains {self self' : Controller τ} {actions : List (Action τ)}
    (h : (system τ).Reaches Whole self) (halong : (system τ).Along Whole self actions)
    (hrun : (system τ).run self actions = some self') :
    ∀ ch ∈ [upChannel, downChannel],
      (3 * ((frontFrames (self.channel ch).put).length - (self.channel ch).pulled.length) ≤
        actions.countP (goesOn ch) →
        stream (frontFrames (self.channel ch).put) <+: (self'.channel ch).accepted) ∧
      ((self'.channel ch).sendLoop ≠ .exited →
        ((self'.channel ch).sendLoop = .waiting → (self'.channel ch).queue.elements ≠ []) →
        ∃ action, goesOn ch action ∧ self'.Whole action ∧ (self'.step action).isSome) := by
  intro ch hch
  have hinv : (self'.channel ch).Invariant :=
    (Invariant.reaches (h.run actions halong hrun)).channel ch
  constructor
  · intro hcount
    let frames := frontFrames (self.channel ch).put
    have hstep : ∀ (s : Controller τ) (action : Action τ) (s' : Controller τ),
        (s.channel ch).Ordered ∧ frames <+: frontFrames (s.channel ch).put → s.Whole action →
        (system τ).step s action = some s' →
        ((s'.channel ch).Ordered ∧ frames <+: frontFrames (s'.channel ch).put) ∧
          (s'.channel ch).work frames.length ≤
            (s.channel ch).work frames.length - if goesOn ch action then 1 else 0 := by
      intro s action s' hs _ hstep
      have hmoves := channel_moves hch hstep
      obtain ⟨hframes, hwork⟩ := hs.1.work_le hmoves hs.2
      exact ⟨⟨hs.1.moves hmoves, hframes⟩, hwork⟩
    obtain ⟨⟨-, hframes⟩, hwork⟩ := System.work_le hstep
      ⟨ordered_of_reachable h.reachable hch, List.prefix_rfl⟩ halong hrun
    apply hinv.accepted_of_work (hframes.trans (List.takeWhile_prefix _))
    have hfirst : (self.channel ch).work frames.length ≤ actions.countP (goesOn ch) :=
      (Nat.sub_le _ _).trans hcount
    omega
  · intro hexited hwaiting
    obtain ⟨event, hevent, hwhole, hstep⟩ := hinv.goes_on hexited hwaiting
    exact exists_action hch hevent hwhole hstep

/-- Behind the third step the frame has been accepted, and the loop can go on. -/
theorem queue_drains_one_frame : ∃ self : Controller Unit, [1, 2] <+: self.up.accepted ∧
    ∃ action, goesOn upChannel action ∧ self.Whole action ∧ (self.step action).isSome := by
  have hsocket : ∀ p, SendLoop.sending twoBytes = .sending p → 2 = p.bytes.length := by
    intro p hp
    cases hp
    rfl
  have hstart : (system Unit).Reaches Whole quiet := .init quiet_init
  have hreaches := hstart.run [.batch () [some twoBytes] upChannel, .send ()]
    ⟨trivial, trivial, trivial⟩ rfl
  let actions : List (Action Unit) := [.up .take, .up (.socketSend (some 2)), .up .pull]
  obtain ⟨hdrained, hgoes⟩ := queue_drains hreaches
    (show (system Unit).Along Whole _ actions from ⟨trivial, hsocket, trivial, trivial⟩) rfl
    upChannel List.mem_cons_self
  exact ⟨_, hdrained (by decide), hgoes nofun nofun⟩

end Controller

end Csae295
