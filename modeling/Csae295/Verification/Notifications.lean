import Csae295.Library.Repeats
import Csae295.Verification.Client

/-! What the callback is told of the connection.

The stored state is at once the last state delivered and, as CLOSED, the sign that nothing has
been delivered since `close`. So what is delivered is what the observations stand for, without
repeats, and the reset of `close` comes at the right time even from within the callback. -/

namespace Csae295

open Library

/-- TCP_ESTABLISHED stands for a connection, every other state up to TCP_CLOSING for a lost one,
and a value that is no state for a connection only as long as the client is closed. -/
def Observation.meaning (o : Observation) : Option ConnectState :=
  if o.tcpiState = 1 then some .connected
  else if o.tcpiState.toNat < 12 then some .lost
  else match o.state with
    | .closed => some .connected
    | .connected | .lost => none

namespace Client

/-- `listen` makes of an observation what it stands for. -/
theorem reported_eq_meaning (c : Client) (tcpiState : Byte) :
    c.reported tcpiState = Observation.meaning ⟨tcpiState, c.state⟩ := by
  unfold reported Observation.meaning
  by_cases hestablished : tcpiState = 1
  · rw [if_pos hestablished, if_pos hestablished, if_pos (by rw [hestablished]; decide)]
  · rw [if_neg hestablished, if_neg hestablished]
    by_cases hrange : tcpiState.toNat ≤ 11
    · rw [if_pos hrange, if_pos (Nat.lt_succ_of_le hrange)]
    · rw [if_neg hrange, if_neg fun hlt => hrange (Nat.le_of_lt_succ hlt)]
      cases c.state <;> rfl

theorem reported_ne_closed {c : Client} {tcpiState : Byte} {state : ConnectState}
    (h : c.reported tcpiState = some state) : state ≠ .closed := by
  unfold reported at h
  split at h
  · cases h
    split <;> nofun
  · split at h
    · cases h
      nofun
    · cases h

theorem open_state (c : Client) (succeeds : OpenStage → Bool) :
    (c.open succeeds).1.state = c.state ∧ (c.open succeeds).1.callback = c.callback := by
  simp only [Client.open, openStages, runOpen]
  split_ifs <;> exact ⟨rfl, rfl⟩

theorem close_of_closed {c : Client} (h : c.state = .closed) : c.close = c := if_pos h

theorem close_state (c : Client) : c.close.state = .closed ∧ c.close.callback = c.callback := by
  unfold close
  split
  · next hclosed => exact ⟨hclosed, rfl⟩
  · exact ⟨rfl, rfl⟩

end Client

namespace WatchedClient

/-- Two notices in a row do not call the callback with the same state. -/
def Differ (e e' : Notice) : Prop := ∀ state, e = .callback state → e' ≠ .callback state

/-- What the history of a client has to do with its state. -/
structure Told (w : WatchedClient) : Prop where
  callback : w.client.callback = true
  delivered : w.delivered = (w.observed.filterMap Observation.meaning).destutter (· ≠ ·)
  state : w.client.state = w.delivered.getLast?.getD .closed
  log : w.log.IsChain Differ
  last : ∀ state, w.log.getLast? = some (.callback state) → w.client.state = state
  not_closed : .callback .closed ∉ w.log

variable {w : WatchedClient}

theorem Told.open (h : w.Told) (succeeds : Client.OpenStage → Bool) :
    (w.step (.open succeeds)).Told := by
  obtain ⟨hstate, hcallback⟩ := w.client.open_state succeeds
  exact ⟨hcallback.trans h.callback, h.delivered, hstate.trans h.state, h.log,
    fun state hlast => hstate.trans (h.last state hlast), h.not_closed⟩

theorem Told.close (h : w.Told) : w.close.Told := by
  unfold WatchedClient.close
  split
  · next hclosed =>
      rw [Client.close_of_closed hclosed]
      exact h
  · obtain ⟨hstate, hcallback⟩ := w.client.close_state
    refine ⟨hcallback.trans h.callback, rfl, hstate, ?_, ?_, ?_⟩
    · exact List.isChain_append.mpr ⟨h.log, .singleton _, by simp [Differ]⟩
    · intro state hlast
      rw [List.getLast?_concat] at hlast
      cases hlast
    · simpa using h.not_closed

/-- A state that an observation stands for is delivered unless it is the last one delivered. -/
theorem Told.getLast?_iff (h : w.Told) {state : ConnectState} (hstate : state ≠ .closed) :
    w.delivered.getLast? = some state ↔ state = w.client.state := by
  rw [h.state]
  cases hlast : w.delivered.getLast? with
  | none => simp [hstate]
  | some last => simp [eq_comm]

theorem filterMap_meaning_concat (observed : List Observation) (o : Observation) :
    (observed ++ [o]).filterMap Observation.meaning =
      observed.filterMap Observation.meaning ++ o.meaning.toList := by
  rw [List.filterMap_append, List.filterMap_cons]
  cases o.meaning <;> rfl

/-- An observation that stands for nothing. -/
theorem Told.skip (h : w.Told) {o : Observation} (hnone : o.meaning = none) :
    Told { w with observed := w.observed ++ [o] } := by
  refine ⟨h.callback, ?_, h.state, h.log, h.last, h.not_closed⟩
  rw [filterMap_meaning_concat, hnone, Option.toList_none, List.append_nil]
  exact h.delivered

/-- An observation that stands for the state there is. -/
theorem Told.observe (h : w.Told) {o : Observation} {state : ConnectState}
    (hmeaning : o.meaning = some state) (hstate : state ≠ .closed)
    (hrepeat : state = w.client.state) : Told { w with observed := w.observed ++ [o] } := by
  refine ⟨h.callback, ?_, h.state, h.log, h.last, h.not_closed⟩
  have hlast := (h.getLast?_iff hstate).mpr hrepeat
  rw [h.delivered] at hlast
  rw [filterMap_meaning_concat, hmeaning, Option.toList_some,
    destutter_concat, if_pos hlast]
  exact h.delivered

/-- An observation that stands for a new state, with which the callback is called. -/
theorem Told.deliver (h : w.Told) {o : Observation} {state : ConnectState}
    (hmeaning : o.meaning = some state) (hstate : state ≠ .closed)
    (hnew : state ≠ w.client.state) :
    Told { client := { w.client with state }, observed := w.observed ++ [o],
           delivered := w.delivered ++ [state], log := w.log ++ [.callback state] } := by
  refine ⟨h.callback, ?_, ?_, ?_, ?_, ?_⟩
  · have hlast := mt (h.getLast?_iff hstate).mp hnew
    rw [h.delivered] at hlast
    rw [filterMap_meaning_concat, hmeaning, Option.toList_some,
      destutter_concat, if_neg hlast]
    exact congrArg (· ++ [state]) h.delivered
  · rw [List.getLast?_concat, Option.getD_some]
  · refine List.isChain_append.mpr ⟨h.log, .singleton _, ?_⟩
    rintro e hlast _ ⟨⟩ state' rfl hsame
    cases hsame
    exact hnew (h.last state hlast).symm
  · intro state' hlast
    rw [List.getLast?_concat] at hlast
    cases hlast
    rfl
  · intro hmem
    rcases List.mem_append.mp hmem with hmem | hmem
    · exact h.not_closed hmem
    · cases List.mem_singleton.mp hmem
      exact hstate rfl

theorem Told.listen (h : w.Told) (tcpiState : Byte) (closes : Bool) :
    (w.listen tcpiState closes).Told := by
  unfold WatchedClient.listen Client.listen
  have hmeaning := w.client.reported_eq_meaning tcpiState
  cases hreported : w.client.reported tcpiState with
  | none => exact h.skip (hmeaning.symm.trans hreported)
  | some state =>
      have hstate := Client.reported_ne_closed hreported
      rw [hreported] at hmeaning
      simp only
      by_cases hrepeat : state = w.client.state
      · rw [if_neg fun hnew => hnew.1 hrepeat]
        exact h.observe hmeaning.symm hstate hrepeat
      · rw [if_pos ⟨hrepeat, h.callback⟩]
        have hdelivered := h.deliver hmeaning.symm hstate hrepeat
        cases closes with
        | true => exact hdelivered.close
        | false => exact hdelivered

theorem Told.step (h : w.Told) (call : WatchedCall) : (w.step call).Told := by
  cases call with
  | «open» succeeds => exact h.open succeeds
  | close => exact h.close
  | listen tcpiState closes => exact h.listen tcpiState closes

theorem told_of_reachable (h : system.Reachable w) : w.Told := by
  refine h.invariant ?_ ?_
  · rintro _ rfl
    exact ⟨rfl, rfl, rfl, .nil, nofun, nofun⟩
  · rintro w call _ h - ⟨⟩
    exact h.step call

/-- In every run the callback has been called, since the last effective `close`, with what the
observations of that time stand for, without the repeats, and the state is the last one of them;
it has never been called with CLOSED, nor twice in a row with one state. -/
theorem delivered_eq_destutter (h : system.Reachable w) :
    w.delivered = (w.observed.filterMap Observation.meaning).destutter (· ≠ ·) ∧
      w.client.state = w.delivered.getLast?.getD .closed ∧ .callback .closed ∉ w.log ∧
      w.log.IsChain Differ := by
  have htold := told_of_reachable h
  exact ⟨htold.delivered, htold.state, htold.not_closed, htold.log⟩

/-- A connection that is established, lost, closed by the callback and, with a value out of range,
taken for established again. -/
theorem delivered_eq_destutter_reopened :
    let init : WatchedClient := { client := Client.new.setConnectStateCallback, observed := [],
                                  delivered := [], log := [] }
    let calls : List WatchedCall := [.open fun _ => true, .listen 1 false, .listen 1 false,
      .listen 200 false, .listen 7 true, .listen 200 false, .listen 1 false, .listen 12 false,
      .listen 8 false]
    let observed : List Observation := [⟨200, .closed⟩, ⟨1, .connected⟩, ⟨12, .connected⟩,
      ⟨8, .connected⟩]
    ∃ w, system.run init calls = some w ∧ w.observed = observed ∧
      w.delivered = (observed.filterMap Observation.meaning).destutter (· ≠ ·) ∧
      w.client.state = w.delivered.getLast?.getD .closed ∧ w.log.IsChain Differ := by
  intro init calls observed
  obtain ⟨w, hrun⟩ := Option.isSome_iff_exists.mp (show (system.run init calls).isSome from rfl)
  have hreachable : system.Reachable w := System.Reachable.run (.init rfl) calls hrun
  obtain ⟨hdelivered, hstate, -, hlog⟩ := delivered_eq_destutter hreachable
  have hobserved : w.observed = observed := by
    cases hrun
    rfl
  rw [hobserved] at hdelivered
  exact ⟨w, hrun, hobserved, hdelivered, hstate, hlog⟩

end WatchedClient

end Csae295
