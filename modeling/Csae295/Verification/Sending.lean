import Csae295.Model.Controller

/-! What the socket of a channel accepts, whatever threads send and however the send loops
are scheduled.

A frame is pulled behind one call of the socket's `send`, whatever that call accepted, so
the stream of accepted bytes is the stream of queued frames as long as every call accepts
the whole frame. -/

namespace Csae295

open Library

/-- The bytes of queued frames, of which null pointers have none. -/
def stream (bufs : List (Option SharedBuffer)) : List Byte :=
  bufs.flatMap fun buf => buf.elim [] SharedBuffer.bytes

theorem stream_append (bufs bufs' : List (Option SharedBuffer)) :
    stream (bufs ++ bufs') = stream bufs ++ stream bufs' := List.flatMap_append

theorem stream_singleton (p : SharedBuffer) : stream [some p] = p.bytes := by
  simp [stream]

/-- The buffer a send loop has taken and not yet pulled. -/
def SendLoop.held : SendLoop → Option SharedBuffer
  | .sending p | .sent p => some p
  | _ => none

/-- What the socket has accepted of it when it accepts whole frames. -/
def SendLoop.handed : SendLoop → List Byte
  | .sent p => p.bytes
  | _ => []

namespace Channel

/-! ## Steps of the send loop -/

/-- The steps of a send loop and the states they are taken in. -/
inductive SendStep (c : Channel) : SendEvent → Channel → Prop where
  | stopped (h : c.sendLoop = .top) : SendStep c .stopped { c with sendLoop := .exited }
  | take (h : c.sendLoop = .top) : SendStep c .take c.takeStep
  | wake (h : c.sendLoop = .waiting) :
      SendStep c .wake { c with sendLoop := .taken c.queue.wake }
  | socketSend {p : SharedBuffer} {size : Option ℕ} (h : c.sendLoop = .sending p)
      (hsize : size.getD 0 ≤ p.bytes.length) :
      SendStep c (.socketSend size) (c.socketSend p size)
  | pull {p : SharedBuffer} (h : c.sendLoop = .sent p) : SendStep c .pull c.pullStep

theorem sendStep_iff {c c' : Channel} {event : SendEvent} :
    c.sendStep event = some c' ↔ SendStep c event c' := by
  constructor
  · intro h
    unfold sendStep at h
    split at h
    · next hloop =>
        cases h
        exact .stopped hloop
    · next hloop =>
        cases h
        exact .take hloop
    · next hloop =>
        cases h
        exact .wake hloop
    · next hloop =>
        split at h
        · next hsize =>
            cases h
            exact .socketSend hloop hsize
        · cases h
    · next hloop =>
        cases h
        exact .pull hloop
    · cases h
  · intro h
    cases h with
    | stopped h => simp only [sendStep, h]
    | take h => simp only [sendStep, h]
    | wake h => simp only [sendStep, h]
    | socketSend h hsize => simp only [sendStep, h, if_pos hsize]
    | pull h => simp only [sendStep, h]

/-! ## The accepted stream -/

/-- The frames that have left the queue have been accepted whole and in order, and nothing
has been accepted but a front part of the frames that were put. -/
structure InOrder (c : Channel) : Prop where
  defined : ∀ e, c.sendLoop ≠ .fault e
  pulled : stream c.pulled <+: c.accepted
  accepted : c.accepted <+: stream c.put

/-- The socket accepts the whole frame, and the loop does not wake up to an empty queue. -/
def Whole (c : Channel) : SendEvent → Prop
  | .socketSend size => ∀ p, c.sendLoop = .sending p → size.getD 0 = p.bytes.length
  | .wake => c.queue.elements ≠ []
  | _ => True

structure Invariant (c : Channel) : Prop where
  defined : ∀ e, c.sendLoop ≠ .fault e
  recorded : c.put = c.pulled ++ c.queue.elements
  accepted : c.accepted = stream c.pulled ++ c.sendLoop.handed
  held : ∀ p, c.sendLoop.held = some p → c.queue.elements.head? = some (some p)

theorem Connected.invariant {c : Channel} (h : c.Connected) : c.Invariant := by
  obtain ⟨hloop, haccepted, hput, hpulled⟩ := h
  refine ⟨?_, ?_, ?_, ?_⟩
  · intro e
    rw [hloop]
    exact SendLoop.noConfusion
  · rw [hput, hpulled, List.nil_append]
  · rw [haccepted, hpulled, hloop]
    rfl
  · intro p hp
    rw [hloop] at hp
    cases hp

/-- Producers append behind the buffer the loop holds. -/
theorem Invariant.enqueue {c : Channel} (h : c.Invariant) (buf : Option SharedBuffer) :
    (c.enqueue buf).Invariant := by
  refine ⟨h.defined, ?_, h.accepted, ?_⟩
  · simp only [Channel.enqueue, BlockQueue.put, h.recorded, List.append_assoc]
  · intro p hp
    simp only [Channel.enqueue, BlockQueue.put, List.head?_append, h.held p hp, Option.some_or]

/-- The loop may move on with the same stream when it holds nothing new. -/
theorem Invariant.goto {c : Channel} {loop : SendLoop} (h : c.Invariant)
    (hdefined : ∀ e, loop ≠ .fault e) (hhanded : loop.handed = c.sendLoop.handed)
    (hheld : ∀ p, loop.held = some p → c.queue.elements.head? = some (some p)) :
    Invariant { c with sendLoop := loop } :=
  ⟨hdefined, h.recorded, by rw [h.accepted, ← hhanded], hheld⟩

/-- Taking the front of a nonempty queue makes it the buffer the loop holds. -/
theorem Invariant.taken {c : Channel} (h : c.Invariant) (hhanded : c.sendLoop.handed = [])
    (hqueue : c.queue.elements ≠ []) :
    Invariant { c with sendLoop := .taken c.queue.front } := by
  obtain ⟨buf, rest, hcons⟩ := List.exists_cons_of_ne_nil hqueue
  have hfront : c.queue.front = .ok buf := by simp only [BlockQueue.front, hcons]
  rw [hfront]
  cases buf with
  | none => exact h.goto (fun _ => SendLoop.noConfusion) hhanded.symm fun _ hp => by cases hp
  | some p =>
      refine h.goto (fun _ => SendLoop.noConfusion) hhanded.symm ?_
      intro p' hp
      cases hp
      rw [hcons, List.head?_cons]

theorem Invariant.takeStep {c : Channel} (h : c.Invariant) (hhanded : c.sendLoop.handed = []) :
    c.takeStep.Invariant := by
  unfold Channel.takeStep BlockQueue.take
  by_cases hsize : 0 = c.queue.size
  · rw [if_pos hsize]
    exact h.goto (fun _ => SendLoop.noConfusion) hhanded.symm fun _ hp => by cases hp
  · rw [if_neg hsize]
    exact h.taken hhanded fun hnil => hsize (List.length_eq_zero_iff.mpr hnil).symm

theorem Invariant.socketSend {c : Channel} {p : SharedBuffer} {size : Option ℕ} (h : c.Invariant)
    (hloop : c.sendLoop = .sending p) (hall : size.getD 0 = p.bytes.length) :
    (c.socketSend p size).Invariant := by
  refine ⟨fun _ => SendLoop.noConfusion, h.recorded, ?_, ?_⟩
  · have haccepted := h.accepted
    rw [hloop] at haccepted
    simp only [Channel.socketSend, hall, List.take_length, haccepted, SendLoop.handed,
      List.append_nil]
  · intro p' hp
    exact h.held p' (by rw [hloop]; exact hp)

/-- The buffer that is pulled is the one that was sent: only the loop takes from the queue. -/
theorem Invariant.pullStep {c : Channel} {p : SharedBuffer} (h : c.Invariant)
    (hloop : c.sendLoop = .sent p) : c.pullStep.Invariant := by
  obtain ⟨rest, hcons⟩ := List.head?_eq_some_iff.mp (h.held p (by rw [hloop]; rfl))
  have hpull : c.queue.pull.elements = rest := by
    simp [BlockQueue.pull, BlockQueue.size, hcons]
  refine ⟨fun _ => SendLoop.noConfusion, ?_, ?_, fun _ hp => by cases hp⟩
  · simp only [Channel.pullStep, hpull, h.recorded, hcons, List.take_succ_cons, List.take_zero,
      List.append_assoc, List.singleton_append]
  · have haccepted := h.accepted
    rw [hloop] at haccepted
    simp only [Channel.pullStep, haccepted, hcons, List.take_succ_cons, List.take_zero,
      stream_append, stream_singleton, SendLoop.handed, List.append_nil]

theorem Invariant.sendStep {c c' : Channel} {event : SendEvent} (h : c.Invariant)
    (hwhole : c.Whole event) (hstep : c.sendStep event = some c') : c'.Invariant := by
  cases sendStep_iff.mp hstep with
  | stopped hloop =>
      exact h.goto (fun _ => SendLoop.noConfusion) (by rw [hloop]; rfl) fun _ hp => by cases hp
  | take hloop => exact h.takeStep (by rw [hloop]; rfl)
  | wake hloop => exact h.taken (by rw [hloop]; rfl) hwhole
  | socketSend hloop hsize => exact h.socketSend hloop (hwhole _ hloop)
  | pull hloop => exact h.pullStep hloop

theorem Invariant.inOrder {c : Channel} (h : c.Invariant) : c.InOrder := by
  have hhanded : c.sendLoop.handed <+: stream c.queue.elements := by
    cases hloop : c.sendLoop with
    | sent p =>
        obtain ⟨rest, hcons⟩ := List.head?_eq_some_iff.mp (h.held p (by rw [hloop]; rfl))
        rw [hcons, ← List.singleton_append, stream_append, stream_singleton]
        exact List.prefix_append _ _
    | _ => exact List.nil_prefix
  refine ⟨h.defined, ?_, ?_⟩
  · rw [h.accepted]
    exact List.prefix_append _ _
  · rw [h.accepted, h.recorded, stream_append, List.prefix_append_right_inj]
    exact hhanded

/-! ## Every other step breaks the order -/

/-- A frame that was not accepted whole is pulled all the same. -/
theorem Invariant.not_inOrder_of_short {c : Channel} {p : SharedBuffer} {size : Option ℕ}
    (h : c.Invariant) (hloop : c.sendLoop = .sending p) (hshort : size.getD 0 < p.bytes.length) :
    ¬ (c.socketSend p size).pullStep.InOrder := by
  intro horder
  obtain ⟨rest, hcons⟩ := List.head?_eq_some_iff.mp (h.held p (by rw [hloop]; rfl))
  have haccepted := h.accepted
  rw [hloop] at haccepted
  have hle := horder.pulled.length_le
  simp only [Channel.pullStep, Channel.socketSend, haccepted, hcons, List.take_succ_cons,
    List.take_zero, stream_append, stream_singleton, SendLoop.handed, List.append_nil,
    List.length_append, List.length_take] at hle
  omega

/-- A step that is not whole leads out of order, at the latest when the frame is pulled. -/
theorem Invariant.not_inOrder {c c' : Channel} {event : SendEvent} (h : c.Invariant)
    (hwhole : ¬ c.Whole event) (hstep : c.sendStep event = some c') :
    ¬ c'.InOrder ∨ ∃ c'', c'.sendStep .pull = some c'' ∧ ¬ c''.InOrder := by
  cases sendStep_iff.mp hstep with
  | stopped | take | pull => exact absurd trivial hwhole
  | wake hloop =>
      have hnil : c.queue.elements = [] := not_not.mp hwhole
      have hfront : c.queue.wake = .error .index := by
        simp only [BlockQueue.wake, BlockQueue.front, hnil]
      left
      intro horder
      exact horder.defined .index (by simp only [hfront, SendLoop.taken])
  | @socketSend p size hloop hsize =>
      have hshort : size.getD 0 ≠ p.bytes.length := by
        intro hall
        refine hwhole fun p' hp => ?_
        rw [hloop] at hp
        cases hp
        exact hall
      exact .inr ⟨_, sendStep_iff.mpr (.pull rfl),
        h.not_inOrder_of_short hloop (lt_of_le_of_ne hsize hshort)⟩

end Channel

/-! ## Runs of the controller -/

namespace Controller

variable {τ : Type}

/-- Both channels are in order. -/
def InOrder (self : Controller τ) : Prop := self.up.InOrder ∧ self.down.InOrder

/-- A step of a send loop is whole on its channel. -/
def Whole (self : Controller τ) : Action τ → Prop
  | .up event => self.up.Whole event
  | .down event => self.down.Whole event
  | _ => True

def Invariant (self : Controller τ) : Prop := self.up.Invariant ∧ self.down.Invariant

theorem Invariant.send {self : Controller τ} (h : self.Invariant) (buf : Option SharedBuffer)
    (ch : Byte) : (self.send buf ch).Invariant := by
  unfold Controller.send
  split
  · exact ⟨h.1.enqueue buf, h.2⟩
  · split
    · exact ⟨h.1, h.2.enqueue buf⟩
    · exact h

variable [DecidableEq τ]

theorem Invariant.step {self self' : Controller τ} {action : Action τ} (h : self.Invariant)
    (hwhole : self.Whole action) (hstep : self.step action = some self') : self'.Invariant := by
  cases action with
  | batch t bufs ch =>
      simp only [Controller.step] at hstep
      split at hstep
      · cases hstep
        exact h
      · cases hstep
  | send t =>
      simp only [Controller.step] at hstep
      split at hstep
      · cases hstep
      · next buf ch rest _ =>
          cases hstep
          exact h.send buf ch
  | up event =>
      obtain ⟨up, hup, rfl⟩ := Option.map_eq_some_iff.mp hstep
      exact ⟨h.1.sendStep hwhole hup, h.2⟩
  | down event =>
      obtain ⟨down, hdown, rfl⟩ := Option.map_eq_some_iff.mp hstep
      exact ⟨h.1, h.2.sendStep hwhole hdown⟩

theorem Invariant.reaches {self : Controller τ} (h : (system τ).Reaches Whole self) :
    self.Invariant :=
  h.invariant (fun _ hinit => ⟨hinit.1.invariant, hinit.2.invariant⟩)
    fun _ _ _ hinv hwhole hstep => hinv.step hwhole hstep

/-- A controller on fresh connections whose only thread has not called anything. -/
def quiet : Controller Unit where
  up := { queue := ⟨[]⟩, sendLoop := .top, accepted := [], put := [], pulled := [] }
  down := { queue := ⟨[]⟩, sendLoop := .top, accepted := [], put := [], pulled := [] }
  calls _ := []

theorem quiet_init : (system Unit).Init quiet := ⟨⟨rfl, rfl, rfl, rfl⟩, ⟨rfl, rfl, rfl, rfl⟩⟩

/-- A frame of two bytes. -/
def twoBytes : SharedBuffer := { size := 2, data := [1, 2], holds := by decide }

/-- In every run whose steps are whole each channel stays in order, and from every state of
such a run any other step leads out of order. -/
theorem send_inOrder {self : Controller τ} (h : (system τ).Reaches Whole self) :
    self.InOrder ∧ ∀ action self', self.step action = some self' → ¬ self.Whole action →
      ∃ actions self'', (system τ).run self' actions = some self'' ∧ ¬ self''.InOrder := by
  have hinv := Invariant.reaches h
  refine ⟨⟨hinv.1.inOrder, hinv.2.inOrder⟩, ?_⟩
  intro action self' hstep hwhole
  cases action with
  | batch | send => exact absurd trivial hwhole
  | up event =>
      obtain ⟨up, hup, rfl⟩ := Option.map_eq_some_iff.mp hstep
      rcases hinv.1.not_inOrder hwhole hup with hout | ⟨up', hpull, hout⟩
      · exact ⟨[], _, rfl, fun horder => hout horder.1⟩
      · refine ⟨[.up .pull], { self with up := up' }, ?_, fun horder => hout horder.1⟩
        simp [System.run, system, Controller.step, hpull]
  | down event =>
      obtain ⟨down, hdown, rfl⟩ := Option.map_eq_some_iff.mp hstep
      rcases hinv.2.not_inOrder hwhole hdown with hout | ⟨down', hpull, hout⟩
      · exact ⟨[], _, rfl, fun horder => hout horder.2⟩
      · refine ⟨[.down .pull], { self with down := down' }, ?_, fun horder => hout horder.2⟩
        simp [System.run, system, Controller.step, hpull]

/-- A frame of three bytes. -/
def threeBytes : SharedBuffer := { size := 3, data := [3, 4, 5], holds := by decide }

/-- Two threads put three frames on the up channel while its loop sends the first of them, and one
of them a frame on the down channel, whose loop has been waiting. -/
theorem send_inOrder_two_threads : ∃ self : Controller Bool,
    self.up.accepted = [1, 2, 3, 4, 5] ∧ self.up.queue.elements = [some twoBytes] ∧
    self.down.accepted = [1, 2] ∧ self.InOrder := by
  have htwo : ∀ p, SendLoop.sending twoBytes = .sending p → 2 = p.bytes.length := by
    rintro p ⟨⟩
    rfl
  have hthree : ∀ p, SendLoop.sending threeBytes = .sending p → 3 = p.bytes.length := by
    rintro p ⟨⟩
    rfl
  let idle : Controller Bool := { up := quiet.up, down := quiet.down, calls := fun _ => [] }
  have hstart : (system Bool).Reaches Whole idle :=
    .init ⟨⟨rfl, rfl, rfl, rfl⟩, ⟨rfl, rfl, rfl, rfl⟩⟩
  have hreaches := hstart.run
    [.batch false [some twoBytes, some twoBytes] upChannel, .batch true [some threeBytes] upChannel,
      .down .take, .send false, .up .take, .send true, .up (.socketSend (some 2)), .send false,
      .up .pull, .batch true [some twoBytes] downChannel, .send true, .up .take, .down .wake,
      .up (.socketSend (some 3)), .down (.socketSend (some 2)), .up .pull]
    ⟨trivial, trivial, trivial, trivial, trivial, trivial, htwo, trivial, trivial, trivial, trivial,
      trivial, List.cons_ne_nil _ _, hthree, htwo, trivial, trivial⟩ rfl
  exact ⟨_, rfl, rfl, rfl, (send_inOrder hreaches).1⟩

/-- The socket accepts one byte of the frame, and the frame is pulled. -/
theorem send_truncates_frame :
    ¬ ∀ self : Controller Unit, (system Unit).Reachable self → self.InOrder := by
  intro hall
  have hstart : (system Unit).Reachable quiet := .init quiet_init
  have hreachable := hstart.run
    [.batch () [some twoBytes] upChannel, .send (), .up .take, .up (.socketSend (some 1)), .up .pull]
    rfl
  exact absurd (hall _ hreachable).1.pulled.length_le (by decide)

end Controller

end Csae295
