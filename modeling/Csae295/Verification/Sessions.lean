import Csae295.Verification.Sending

/-! Frames over the connections of a channel.

The send loop looks at the flag only where it holds no frame, so a connection ends between two
frames, and the next one goes on with the queue where it was left. -/

namespace Csae295

open Library

namespace Channel

/-- The channel with what earlier connections have put and pulled. -/
def behind (bufs : List (Option SharedBuffer)) (c : Channel) : Channel :=
  { c with put := bufs ++ c.put, pulled := bufs ++ c.pulled }

theorem behind_enqueue (bufs : List (Option SharedBuffer)) (c : Channel)
    (buf : Option SharedBuffer) :
    (c.behind bufs).enqueue buf = (c.enqueue buf).behind bufs := by
  simp only [behind, enqueue, List.append_assoc]

/-- The loop does not look at the record. -/
theorem sendStep_of_behind {bufs : List (Option SharedBuffer)} {c c' : Channel} {event : SendEvent}
    (h : (c.behind bufs).sendStep event = some c') :
    ∃ next, c.sendStep event = some next ∧ c' = next.behind bufs := by
  cases sendStep_iff.mp h with
  | stopped hloop => exact ⟨_, sendStep_iff.mpr (.stopped hloop), rfl⟩
  | take hloop =>
      refine ⟨_, sendStep_iff.mpr (.take hloop), ?_⟩
      simp only [takeStep, behind]
      split <;> rfl
  | wake hloop => exact ⟨_, sendStep_iff.mpr (.wake hloop), rfl⟩
  | socketSend hloop hsize => exact ⟨_, sendStep_iff.mpr (.socketSend hloop hsize), rfl⟩
  | pull hloop =>
      refine ⟨_, sendStep_iff.mpr (.pull hloop), ?_⟩
      simp only [pullStep, behind, List.append_assoc]

end Channel

namespace Reconnecting

/-- The condition on the steps of the loop, over all connections. -/
def Whole (s : Reconnecting) : ReconnectEvent → Prop
  | .loop event => s.channel.Whole event
  | _ => True

/-- What the earlier connections have carried, and the present one by itself. -/
structure Carries (s : Reconnecting) (earlier : List (List (Option SharedBuffer)))
    (present : Channel) : Prop where
  invariant : present.Invariant
  channel : s.channel = present.behind earlier.flatten
  sessions : s.sessions = earlier.map stream

/-- The present connection goes on where the earlier ones have ended. -/
def Continues (s : Reconnecting) : Prop := ∃ earlier present, s.Carries earlier present

theorem Continues.step {s s' : Reconnecting} {event : ReconnectEvent}
    (h : s.Continues) (hwhole : s.Whole event) (hstep : s.step event = some s') : s'.Continues := by
  obtain ⟨earlier, present, hinv, hchannel, hsessions⟩ := h
  cases event with
  | put buf =>
      cases hstep
      refine ⟨earlier, present.enqueue buf, hinv.enqueue buf, ?_, hsessions⟩
      rw [hchannel]
      exact present.behind_enqueue _ buf
  | loop event =>
      obtain ⟨channel, hchannel', rfl⟩ := Option.map_eq_some_iff.mp hstep
      rw [hchannel] at hchannel'
      obtain ⟨present', hpresent, rfl⟩ := Channel.sendStep_of_behind hchannel'
      have hwhole' : present.Whole event := by
        have hwhole : s.channel.Whole event := hwhole
        rw [hchannel] at hwhole
        exact hwhole
      exact ⟨earlier, present', hinv.sendStep hwhole' hpresent, rfl, hsessions⟩
  | restart =>
      simp only [Reconnecting.step] at hstep
      split_ifs at hstep with hexited
      cases hstep
      rw [hchannel] at hexited
      have hexited' : present.sendLoop = .exited := hexited
      have haccepted := hinv.accepted
      rw [hexited'] at haccepted
      let next : Channel := { present with
        sendLoop := .top, accepted := [], put := present.queue.elements, pulled := [] }
      have hconnected : next.Connected := ⟨rfl, rfl, rfl, rfl⟩
      refine ⟨earlier ++ [present.pulled], next, hconnected.invariant, ?_, ?_⟩
      · rw [hchannel]
        simp [Channel.behind, next, hinv.recorded, List.append_assoc]
      · rw [hchannel]
        simp [Channel.behind, hsessions, haccepted, SendLoop.handed]

/-- Over any number of connections on which the loop's steps are whole: each connection that has
ended has carried a run of whole frames, the present one is in front of or behind the frame at the
front of the queue, which is the one the loop holds, and together they carry the frames in the order
they were put, each once. -/
theorem sessions_split {s : Reconnecting} (h : system.Reaches Whole s) :
    ∃ (earlier : List (List (Option SharedBuffer))) (present : List (Option SharedBuffer)),
      s.sessions = earlier.map stream ∧
      s.channel.accepted = stream present ++ s.channel.sendLoop.handed ∧
      s.channel.put = earlier.flatten ++ present ++ s.channel.queue.elements ∧
      ∀ p, s.channel.sendLoop.held = some p → s.channel.queue.elements.head? = some (some p) := by
  have hcontinues : s.Continues := by
    refine h.invariant ?_ fun _ _ _ h hwhole hstep => h.step hwhole hstep
    intro s hinit
    obtain ⟨hconnected, hsessions⟩ := hinit
    exact ⟨[], s.channel, hconnected.invariant, rfl, hsessions⟩
  obtain ⟨earlier, present, hinv, hchannel, hsessions⟩ := hcontinues
  refine ⟨earlier, present.pulled, hsessions, ?_, ?_, ?_⟩
  · rw [hchannel]
    exact hinv.accepted
  · rw [hchannel]
    simp [Channel.behind, hinv.recorded, List.append_assoc]
  · rw [hchannel]
    exact hinv.held

/-- Two frames of which the connection carries the first, and the next connection the second. -/
theorem sessions_split_two : ∃ s : Reconnecting,
    s.sessions = [[1, 2]] ∧ s.channel.accepted = [1, 2] ∧
    ∃ (earlier : List (List (Option SharedBuffer))) (present : List (Option SharedBuffer)),
      s.sessions = earlier.map stream ∧
      s.channel.accepted = stream present ++ s.channel.sendLoop.handed ∧
      s.channel.put = earlier.flatten ++ present ++ s.channel.queue.elements ∧
      ∀ p, s.channel.sendLoop.held = some p → s.channel.queue.elements.head? = some (some p) := by
  have hsocket : ∀ p, SendLoop.sending Controller.twoBytes = .sending p → 2 = p.bytes.length := by
    intro p hp
    cases hp
    rfl
  let start : Reconnecting := { channel := Controller.quiet.up, sessions := [] }
  have hstart : system.Reaches Whole start := .init ⟨⟨rfl, rfl, rfl, rfl⟩, rfl⟩
  have hreaches := hstart.run [.put (some Controller.twoBytes), .put (some Controller.twoBytes),
    .loop .take, .loop (.socketSend (some 2)), .loop .pull, .loop .stopped, .restart, .loop .take,
    .loop (.socketSend (some 2))]
    ⟨trivial, trivial, trivial, hsocket, trivial, trivial, trivial, trivial, hsocket, trivial⟩ rfl
  exact ⟨_, rfl, rfl, sessions_split hreaches⟩

end Reconnecting

end Csae295
