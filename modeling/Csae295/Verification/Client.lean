import Csae295.Model.Client

/-! The balance of a client's descriptors and timers over runs of `open`, ticks and `close`.

`close` takes the state for the sign that there is something to release, and the state is set
by the first tick that has a callback: a socket whose timer was not armed, or has not ticked
yet, stays behind. -/

namespace Csae295

open Library

namespace Client

/-- Nothing is held, and no timer ticks. -/
structure Released (c : Client) : Prop where
  sockets : c.sockets.live = []
  timers : c.timers.live = []
  armed : c.armed = []
  state : c.state = .closed

/-- Nothing is held, or the socket, or the socket and the timer. -/
inductive Held (c : Client) : Prop where
  | nothing (h : c.Released)
  | socket {sockfd : ℕ} (hsockfd : c.sockfd = some sockfd) (hsockets : c.sockets.live = [sockfd])
      (htimers : c.timers.live = []) (harmed : c.armed = []) (hstate : c.state = .closed)
  | timer {sockfd timer : ℕ} (hsockfd : c.sockfd = some sockfd)
      (hsockets : c.sockets.live = [sockfd]) (htimer : c.timer = some timer)
      (htimers : c.timers.live = [timer]) (harmed : c.armed = [] ∨ c.armed = [timer])

variable {c : Client}

theorem Released.setConnectStateCallback (h : c.Released) :
    c.setConnectStateCallback.Released := ⟨h.sockets, h.timers, h.armed, h.state⟩

theorem Held.setConnectStateCallback (h : c.Held) : c.setConnectStateCallback.Held := by
  cases h with
  | nothing h => exact .nothing h.setConnectStateCallback
  | socket hsockfd hsockets htimers harmed hstate =>
      exact .socket hsockfd hsockets htimers harmed hstate
  | timer hsockfd hsockets htimer htimers harmed =>
      exact .timer hsockfd hsockets htimer htimers harmed

/-- Wherever `open` fails, it leaves what the stages before have created. -/
theorem Released.open (h : c.Released) (succeeds : OpenStage → Bool) :
    (c.open succeeds).1.Held := by
  have hsockets := Handles.create_live_of_nil h.sockets
  have htimers := Handles.create_live_of_nil h.timers
  simp only [Client.open, openStages, runOpen]
  split_ifs
  · refine .timer rfl hsockets rfl htimers (.inr ?_)
    simp only [perform, h.armed]
    rfl
  · exact .timer rfl hsockets rfl htimers (.inl h.armed)
  · exact .socket rfl hsockets h.timers h.armed h.state
  · exact .socket rfl hsockets h.timers h.armed h.state
  · exact .socket rfl hsockets h.timers h.armed h.state
  · exact .nothing ⟨h.sockets, h.timers, h.armed, h.state⟩

/-- A tick changes the state only. -/
theorem listen_eq (c : Client) (tcpiState : Byte) :
    ∃ state, (c.listen tcpiState).1 = { c with state } := by
  unfold listen
  split
  · exact ⟨c.state, rfl⟩
  · next state _ =>
      split
      · exact ⟨state, rfl⟩
      · exact ⟨c.state, rfl⟩

theorem Held.tick {c' : Client} {tcpiState : Byte} (h : c.Held) (htick : c.tick tcpiState = some c') :
    c'.Held := by
  unfold Client.tick at htick
  split at htick
  · cases htick
  · next hnot =>
      cases htick
      obtain ⟨state, hlisten⟩ := c.listen_eq tcpiState
      rw [hlisten]
      cases h with
      | nothing h => exact absurd h.armed hnot
      | socket _ _ _ harmed _ => exact absurd harmed hnot
      | timer hsockfd hsockets htimer htimers harmed =>
          exact .timer hsockfd hsockets htimer htimers harmed

theorem Released.tick (h : c.Released) (tcpiState : Byte) : c.tick tcpiState = none :=
  if_pos h.armed

/-- What `close` does behind its test. -/
theorem close_of_ne (h : c.state ≠ .closed) : c.close =
    { c with
      state := .closed, timers := c.timers.release c.timer
      armed := c.timer.elim c.armed c.armed.erase, sockets := c.sockets.release c.sockfd } :=
  if_neg h

theorem close_of_eq (h : c.state = .closed) : c.close = c := if_pos h

/-- `close` releases whatever is held if a tick has set the state. -/
theorem Held.close (h : c.Held) (hstate : c.state ≠ .closed) : c.close.Released := by
  rw [close_of_ne hstate]
  cases h with
  | nothing h => exact absurd h.state hstate
  | socket _ _ _ _ hclosed => exact absurd hclosed hstate
  | timer hsockfd hsockets htimer htimers harmed =>
      refine ⟨?_, ?_, ?_, rfl⟩
      · rw [hsockfd]
        exact Handles.release_live_of_singleton hsockets
      · rw [htimer]
        exact Handles.release_live_of_singleton htimers
      · rw [htimer]
        rcases harmed with harmed | harmed <;> simp [harmed]

theorem Held.released (h : c.Held) (hsockets : c.sockets.live = []) : c.Released := by
  cases h with
  | nothing h => exact h
  | socket _ hlive _ _ _ | timer _ hlive _ _ _ =>
      rw [hsockets] at hlive
      cases hlive

theorem Held.length_le (h : c.Held) : c.sockets.live.length ≤ 1 ∧ c.timers.live.length ≤ 1 := by
  cases h with
  | nothing h => simp [h.sockets, h.timers]
  | socket _ hsockets htimers _ _ => simp [hsockets, htimers]
  | timer _ hsockets _ htimers _ => simp [hsockets, htimers]

end Client

/-! ## Runs -/

namespace OwnedClient

open Client

/-- At most one descriptor and one timer have been created and not released, and none behind
`close`, where no timer ticks. -/
structure Balanced (s : OwnedClient) : Prop where
  sockets : s.client.sockets.live.length ≤ 1
  timers : s.client.timers.live.length ≤ 1
  released : s.opened = false → s.client.sockets.live = [] ∧ s.client.timers.live = []
  silent : s.opened = false → ∀ tcpiState, s.client.tick tcpiState = none

/-- `close` finds a state that a tick has set, or nothing to release. -/
def Releases (s : OwnedClient) : ClientCall → Prop
  | .close => s.client.state ≠ .closed ∨ s.client.sockets.live = [] ∧ s.client.timers.live = []
  | _ => True

structure Invariant (s : OwnedClient) : Prop where
  held : s.client.Held
  released : s.opened = false → s.client.Released

theorem Invariant.balanced {s : OwnedClient} (h : s.Invariant) : s.Balanced :=
  ⟨h.held.length_le.1, h.held.length_le.2,
    fun hopened => ⟨(h.released hopened).sockets, (h.released hopened).timers⟩,
    fun hopened => (h.released hopened).tick⟩

theorem Invariant.step {s s' : OwnedClient} {call : ClientCall} (h : s.Invariant)
    (hreleases : s.Releases call) (hstep : s.step call = some s') : s'.Invariant := by
  cases call with
  | setCallback =>
      cases hstep
      exact ⟨h.held.setConnectStateCallback,
        fun hopened => (h.released hopened).setConnectStateCallback⟩
  | «open» succeeds =>
      simp only [OwnedClient.step] at hstep
      split at hstep
      · cases hstep
      · next hopened =>
          cases hstep
          exact ⟨(h.released (Bool.not_eq_true _ ▸ hopened)).open succeeds, nofun⟩
  | tick tcpiState =>
      obtain ⟨client, htick, rfl⟩ := Option.map_eq_some_iff.mp hstep
      refine ⟨h.held.tick htick, fun hopened => ?_⟩
      rw [(h.released hopened).tick] at htick
      cases htick
  | close =>
      simp only [OwnedClient.step] at hstep
      split at hstep
      · cases hstep
        have hclose : s.client.close.Released := by
          rcases hreleases with hstate | ⟨hsockets, -⟩
          · exact h.held.close hstate
          · have hreleased := h.held.released hsockets
            rw [close_of_eq hreleased.state]
            exact hreleased
        exact ⟨.nothing hclose, fun _ => hclose⟩
      · cases hstep

/-- A `close` that finds the state unset skips what there is to release. -/
theorem not_balanced_of_not_releases {s s' : OwnedClient} {call : ClientCall}
    (hreleases : ¬ s.Releases call) (hstep : s.step call = some s') : ¬ s'.Balanced := by
  cases call with
  | setCallback | «open» | tick => exact absurd trivial hreleases
  | close =>
      obtain ⟨hstate, hlive⟩ := not_or.mp hreleases
      simp only [OwnedClient.step] at hstep
      split at hstep
      · cases hstep
        intro hbalanced
        have hreleased := hbalanced.released rfl
        simp only [close_of_eq (not_not.mp hstate)] at hreleased
        exact hlive hreleased
      · cases hstep

/-- A run is balanced in all of its states exactly when every `close` finds the state set or
nothing to release. -/
theorem balanced_iff {s : OwnedClient} (hinit : system.Init s) {calls : List ClientCall}
    (hrun : (system.run s calls).isSome) :
    system.Throughout Balanced s calls ↔ system.Along Releases s calls := by
  have hstart : s.Invariant := by
    cases hinit
    have hnew : Released Client.new := ⟨rfl, rfl, rfl, rfl⟩
    exact ⟨.nothing hnew, fun _ => hnew⟩
  refine System.throughout_iff_along Invariant (fun _ h => h.balanced) ?_ ?_ hstart hrun
  · intro s call s' h hreleases hstep
    exact h.step hreleases hstep
  · intro s call s' _ hreleases hstep
    exact not_balanced_of_not_releases hreleases hstep

/-- A client without a callback whose socket was not created, and one whose timer has ticked. -/
theorem balanced_iff_tick :
    system.Throughout Balanced { client := Client.new, opened := false }
      [.open (fun _ => false), .close, .setCallback, .open (fun _ => true), .tick 1, .close] :=
  (balanced_iff rfl rfl).mpr
    ⟨trivial, .inr ⟨rfl, rfl⟩, trivial, trivial, trivial, .inl (by decide), trivial⟩

/-- A connection that is closed before the first tick. -/
theorem close_skips_release :
    ¬ ∀ s : OwnedClient, system.Reachable s → s.Balanced := by
  intro hall
  have hstart : system.Reachable { client := Client.new, opened := false } := .init rfl
  have hreachable := hstart.run [.setCallback, .open (fun _ => true), .close] rfl
  exact absurd ((hall _ hreachable).released rfl).1 (by decide)

end OwnedClient

end Csae295
