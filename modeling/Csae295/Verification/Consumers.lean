import Csae295.Model.SharedQueue

/-! The blocking queue between any number of consumers.

`put` wakes every consumer, so none sleeps over an element. But `take` leaves its element in the
queue until `pull` removes it, and another consumer that takes in between gets the same one. -/

namespace Csae295.PooledQueue

open Library

variable {κ α : Type} [DecidableEq κ]

/-! ## Steps -/

/-- The events and the states they lead to. -/
inductive Step (s : PooledQueue κ α) : PoolEvent κ α → PooledQueue κ α → Prop where
  | put (t : α) : Step s (.put t) (s.putStep t)
  | notify : Step s .notify s.notifyStep
  | spurious {k : κ} (h : s.consumers k = .waiting) : Step s (.spurious k) (s.goto k .notified)
  | wait {k : κ} (h : s.consumers k = .outside) (hempty : s.queue.elements = []) :
      Step s (.take k) (s.goto k .waiting)
  | take {k : κ} {t : Placed α} {rest : List (Placed α)} (h : s.consumers k = .outside)
      (hcons : s.queue.elements = t :: rest) : Step s (.take k) (s.takeReturn k (.ok t))
  | resume {k : κ} {t : Placed α} {rest : List (Placed α)} (h : s.consumers k = .notified)
      (hcons : s.queue.elements = t :: rest) : Step s (.resume k) (s.takeReturn k (.ok t))
  | resumeEmpty {k : κ} (h : s.consumers k = .notified) (hempty : s.queue.elements = []) :
      Step s (.resume k) (s.takeReturn k (.error .index))
  | pull {k : κ} {t : Placed α} (h : s.consumers k = .holding t) : Step s (.pull k) (s.pullStep k)

variable {s s' : PooledQueue κ α} {event : PoolEvent κ α}

theorem step_of_eq (h : s.step event = some s') : s.Step event s' := by
  cases event with
  | put t =>
      cases h
      exact .put t
  | notify =>
      cases h
      exact .notify
  | spurious k =>
      simp only [step] at h
      split at h
      · next hloop =>
          cases h
          exact .spurious hloop
      · cases h
  | take k =>
      simp only [step] at h
      split at h
      · next hloop =>
          cases h
          unfold takeStep BlockQueue.take
          cases helements : s.queue.elements with
          | nil =>
              rw [if_pos (by rw [BlockQueue.size, helements]; rfl)]
              exact .wait hloop helements
          | cons t rest =>
              rw [if_neg (by rw [BlockQueue.size, helements]; nofun)]
              simp only [BlockQueue.front, helements]
              exact .take hloop helements
      · cases h
  | resume k =>
      simp only [step] at h
      split at h
      · next hloop =>
          cases h
          cases helements : s.queue.elements with
          | nil =>
              simp only [BlockQueue.wake, BlockQueue.front, helements]
              exact .resumeEmpty hloop helements
          | cons t rest =>
              simp only [BlockQueue.wake, BlockQueue.front, helements]
              exact .resume hloop helements
      · cases h
  | pull k =>
      simp only [step] at h
      split at h
      · next hloop =>
          cases h
          exact .pull hloop
      · cases h

@[simp] theorem goto_self (s : PooledQueue κ α) (k : κ) (consumer : Consumer (Placed α)) :
    (s.goto k consumer).consumers k = consumer := Function.update_self ..

theorem goto_of_ne (s : PooledQueue κ α) {k k' : κ} (h : k' ≠ k) (consumer : Consumer (Placed α)) :
    (s.goto k consumer).consumers k' = s.consumers k' := Function.update_of_ne h ..

/-! ## Nobody sleeps over an element -/

/-- The queue holds what has been put and not pulled, which is nothing while a consumer waits. -/
structure Awake (s : PooledQueue κ α) : Prop where
  recorded : s.queue.elements = s.put.drop s.pulled
  pulled : s.pulled ≤ s.put.length
  placed : s.put.map Prod.fst = List.range s.put.length
  waiting : ∀ k, s.consumers k = .waiting → s.queue.elements = []

theorem notifyAll_ne_waiting (consumer : Consumer (Placed α)) : consumer.notifyAll ≠ .waiting := by
  cases consumer <;> nofun

theorem taken_ne_waiting (taken : Except Fault (Placed α)) : Consumer.taken taken ≠ .waiting := by
  cases taken <;> nofun

theorem Awake.goto (h : s.Awake) {k : κ} {consumer : Consumer (Placed α)}
    (hwaiting : consumer = .waiting → s.queue.elements = []) : (s.goto k consumer).Awake := by
  refine ⟨h.recorded, h.pulled, h.placed, ?_⟩
  intro k' hk
  by_cases hsame : k' = k
  · rw [hsame, goto_self] at hk
    exact hwaiting hk
  · rw [s.goto_of_ne hsame] at hk
    exact h.waiting k' hk

theorem Awake.takeReturn (h : s.Awake) (k : κ) (taken : Except Fault (Placed α)) :
    (s.takeReturn k taken).Awake := by
  obtain ⟨hrecorded, hpulled, hplaced, hwaiting⟩ :=
    h.goto (k := k) fun hwait => absurd hwait (taken_ne_waiting taken)
  exact ⟨hrecorded, hpulled, hplaced, hwaiting⟩

theorem Awake.pullStep (h : s.Awake) (k : κ) : (s.pullStep k).Awake := by
  have hawake : (s.goto k .outside).Awake := h.goto nofun
  have hpull : s.queue.pull.elements = s.queue.elements.drop 1 := by
    cases helements : s.queue.elements with
    | nil => simp [BlockQueue.pull, BlockQueue.size, helements]
    | cons t rest => simp [BlockQueue.pull, BlockQueue.size, helements]
  have hle := congrArg List.length h.recorded
  rw [List.length_drop] at hle
  have hpulled := h.pulled
  refine ⟨?_, ?_, h.placed, ?_⟩
  · change s.queue.pull.elements = s.put.drop (s.pulled + (s.queue.elements.take 1).length)
    rw [hpull, List.length_take]
    cases helements : s.queue.elements with
    | nil =>
        rw [helements] at hle
        rw [List.drop_nil, List.drop_of_length_le]
        simp at hle ⊢
        omega
    | cons t rest =>
        rw [← helements, h.recorded, List.drop_drop]
        congr 1
        rw [← h.recorded, helements, List.length_cons]
        omega
  · change s.pulled + (s.queue.elements.take 1).length ≤ s.put.length
    rw [List.length_take]
    omega
  · intro k' hk
    change s.queue.pull.elements = []
    rw [hpull, show s.queue.elements = [] from hawake.waiting k' hk, List.drop_nil]

theorem Awake.step (h : s.Awake) (hstep : s.step event = some s') : s'.Awake := by
  cases step_of_eq hstep with
  | put t =>
      refine ⟨?_, ?_, ?_, fun k hk => absurd hk (notifyAll_ne_waiting _)⟩
      · change s.queue.elements ++ [(s.put.length, t)] =
          (s.put ++ [(s.put.length, t)]).drop s.pulled
        rw [h.recorded, List.drop_append_of_le_length h.pulled]
      · change s.pulled ≤ (s.put ++ [(s.put.length, t)]).length
        rw [List.length_append]
        exact h.pulled.trans (Nat.le_add_right _ _)
      · change (s.put ++ [(s.put.length, t)]).map Prod.fst =
          List.range (s.put ++ [(s.put.length, t)]).length
        rw [List.map_append, h.placed, List.length_append]
        exact List.range_succ.symm
  | notify => exact ⟨h.recorded, h.pulled, h.placed, fun k hk => absurd hk (notifyAll_ne_waiting _)⟩
  | spurious => exact h.goto nofun
  | wait hloop hempty => exact h.goto fun _ => hempty
  | take | resume | resumeEmpty => exact h.takeReturn _ _
  | pull => exact h.pullStep _

theorem init_awake (hinit : (system κ α).Init s) : s.Awake := by
  obtain ⟨hconsumers, hput, hplaced, -, hpulled⟩ := hinit
  refine ⟨by rw [hput, hpulled, List.drop_zero], by rw [hpulled]; exact Nat.zero_le _, hplaced, ?_⟩
  intro k hk
  rw [hconsumers] at hk
  cases hk

theorem awake_of_reachable (h : (system κ α).Reachable s) : s.Awake :=
  h.invariant (fun _ => init_awake) fun _ _ _ h _ hstep => h.step hstep

/-- In every state of every run, whatever the threads do: the queue holds what has been put and not
pulled, in this order, and while a consumer waits that has not been notified all of it has been
pulled. -/
theorem no_lost_wakeup (h : (system κ α).Reachable s) :
    s.queue.elements = s.put.drop s.pulled ∧
      ∀ k, s.consumers k = .waiting → s.pulled = s.put.length := by
  have hawake := awake_of_reachable h
  refine ⟨hawake.recorded, ?_⟩
  intro k hk
  have hlength := congrArg List.length (hawake.recorded.symm.trans (hawake.waiting k hk))
  rw [List.length_drop, List.length_nil] at hlength
  exact le_antisymm hawake.pulled (Nat.sub_eq_zero_iff_le.mp hlength)

/-! ## One at a time -/

/-- No consumer has come to the front of an empty queue, and `take` has returned the elements in the
order they were put, each once. -/
structure InTurn (s : PooledQueue κ α) : Prop where
  defined : ∀ k e, s.consumers k ≠ .fault e
  seen : s.seen <+: s.put

/-- `take` returns while no other consumer holds an element, and to a queue with one. -/
def Exclusive (s : PooledQueue κ α) : PoolEvent κ α → Prop
  | .take _ => ∀ k t, s.consumers k ≠ .holding t
  | .resume _ => (∀ k t, s.consumers k ≠ .holding t) ∧ s.queue.elements ≠ []
  | _ => True

/-- The consumers have seen what has been pulled, and one of them may hold the next element. -/
structure Turn (s : PooledQueue κ α) : Prop where
  awake : s.Awake
  inTurn : s.InTurn
  alone : ∀ k k' t t', s.consumers k = .holding t → s.consumers k' = .holding t' → k = k'
  free : (∀ k t, s.consumers k ≠ .holding t) → s.seen.length = s.pulled
  taken : ∀ k t, s.consumers k = .holding t → s.seen.length = s.pulled + 1 ∧ s.queue.elements ≠ []

omit [DecidableEq κ] in
/-- The front of the queue is what has been put at the next place to be pulled. -/
theorem Awake.front_place (h : s.Awake) {t : Placed α} {rest : List (Placed α)}
    (hcons : s.queue.elements = t :: rest) : t.1 = s.pulled := by
  have hdrop := congrArg (List.map Prod.fst) h.recorded
  rw [hcons, List.map_cons, List.map_drop, h.placed] at hdrop
  have hhead := congrArg List.head? hdrop
  rw [List.head?_cons, List.head?_drop] at hhead
  obtain ⟨hlt, hget⟩ := List.getElem?_eq_some_iff.mp hhead.symm
  rw [← hget, List.getElem_range]

theorem notifyAll_holding {consumer : Consumer (Placed α)} {t : Placed α} :
    consumer.notifyAll = .holding t ↔ consumer = .holding t := by
  cases consumer <;> simp [Consumer.notifyAll]

omit [DecidableEq κ] in
/-- `put` and `notify` change no consumer that holds an element. -/
theorem Turn.notify (h : s.Turn) {queue : BlockQueue (Placed α)} {put : List (Placed α)}
    (hawake : Awake { s with queue, consumers := fun k => (s.consumers k).notifyAll, put })
    (hqueue : s.queue.elements <+: queue.elements) (hput : s.put <+: put) :
    Turn { s with queue, consumers := fun k => (s.consumers k).notifyAll, put } := by
  refine ⟨hawake, ⟨?_, h.inTurn.seen.trans hput⟩, ?_, ?_, ?_⟩
  · intro k e
    have hdefined := h.inTurn.defined k e
    change (s.consumers k).notifyAll ≠ .fault e
    cases hconsumer : s.consumers k with
    | fault e' => rwa [hconsumer] at hdefined
    | _ => nofun
  · intro k k' t t' hk hk'
    exact h.alone k k' t t' (notifyAll_holding.mp hk) (notifyAll_holding.mp hk')
  · intro hfree
    exact h.free fun k t hk => hfree k t (notifyAll_holding.mpr hk)
  · intro k t hk
    obtain ⟨hseen, helements⟩ := h.taken k t (notifyAll_holding.mp hk)
    exact ⟨hseen, fun hnil => helements (List.prefix_nil.mp (hnil ▸ hqueue))⟩

/-- A consumer goes on that holds nothing before and behind the step. -/
theorem Turn.goto (h : s.Turn) {k : κ} {consumer : Consumer (Placed α)}
    (hawake : (s.goto k consumer).Awake) (hbefore : ∀ t, s.consumers k ≠ .holding t)
    (hbehind : ∀ t, consumer ≠ .holding t) (hdefined : ∀ e, consumer ≠ .fault e) :
    (s.goto k consumer).Turn := by
  have hsame : ∀ k' t,
      (s.goto k consumer).consumers k' = .holding t ↔ s.consumers k' = .holding t := by
    intro k' t
    by_cases hk : k' = k
    · rw [hk, goto_self]
      exact iff_of_false (hbehind t) (hbefore t)
    · rw [s.goto_of_ne hk]
  refine ⟨hawake, ⟨?_, h.inTurn.seen⟩, ?_, ?_, ?_⟩
  · intro k' e
    by_cases hk : k' = k
    · rw [hk, goto_self]
      exact hdefined e
    · rw [s.goto_of_ne hk]
      exact h.inTurn.defined k' e
  · intro k' k'' t t' hk' hk''
    exact h.alone k' k'' t t' ((hsame k' t).mp hk') ((hsame k'' t').mp hk'')
  · intro hfree
    exact h.free fun k' t hk' => hfree k' t ((hsame k' t).mpr hk')
  · intro k' t hk'
    exact h.taken k' t ((hsame k' t).mp hk')

/-- `take` returns the element that is next. -/
theorem Turn.takeReturn (h : s.Turn) (hfree : ∀ k t, s.consumers k ≠ .holding t) {t : Placed α}
    {rest : List (Placed α)} (hcons : s.queue.elements = t :: rest) (k : κ) :
    (s.takeReturn k (.ok t)).Turn := by
  have hlength := h.free hfree
  have hothers : ∀ k' t', (s.goto k (.holding t)).consumers k' = .holding t' → k' = k := by
    intro k' t' hk'
    by_contra hne
    rw [s.goto_of_ne hne] at hk'
    exact hfree k' t' hk'
  have hput : s.put = s.seen ++ t :: rest := by
    have hseen := List.prefix_iff_eq_take.mp h.inTurn.seen
    rw [hlength] at hseen
    calc s.put = s.put.take s.pulled ++ s.put.drop s.pulled := (List.take_append_drop _ _).symm
      _ = s.seen ++ t :: rest := by rw [← hseen, ← h.awake.recorded, hcons]
  refine ⟨h.awake.takeReturn k _, ⟨?_, ?_⟩, ?_, ?_, ?_⟩
  · intro k' e
    change (s.goto k (.holding t)).consumers k' ≠ .fault e
    by_cases hk : k' = k
    · rw [hk, goto_self]
      nofun
    · rw [s.goto_of_ne hk]
      exact h.inTurn.defined k' e
  · change s.seen ++ [t] <+: s.put
    rw [hput]
    exact ⟨rest, by simp⟩
  · intro k' k'' t' t'' hk' hk''
    rw [hothers k' t' hk', hothers k'' t'' hk'']
  · intro hnone
    exact absurd (s.goto_self k (.holding t)) (hnone k t)
  · intro k' t' hk'
    refine ⟨?_, ?_⟩
    · change (s.seen ++ [t]).length = s.pulled + 1
      rw [List.length_append, hlength, List.length_singleton]
    · change s.queue.elements ≠ []
      rw [hcons]
      nofun

theorem Turn.pullStep (h : s.Turn) {k : κ} {t : Placed α} (hk : s.consumers k = .holding t) :
    (s.pullStep k).Turn := by
  obtain ⟨hseen, helements⟩ := h.taken k t hk
  have hnone : ∀ k' t', (s.goto k .outside).consumers k' ≠ .holding t' := by
    intro k' t' hk'
    by_cases hsame : k' = k
    · rw [hsame, goto_self] at hk'
      cases hk'
    · rw [s.goto_of_ne hsame] at hk'
      exact hsame (h.alone k' k t' t hk' hk)
  refine ⟨h.awake.pullStep k, ⟨?_, h.inTurn.seen⟩, ?_, ?_, ?_⟩
  · intro k' e
    change (s.goto k .outside).consumers k' ≠ .fault e
    by_cases hsame : k' = k
    · rw [hsame, goto_self]
      nofun
    · rw [s.goto_of_ne hsame]
      exact h.inTurn.defined k' e
  · intro k' k'' t' t'' hk' _
    exact absurd hk' (hnone k' t')
  · intro _
    change s.seen.length = s.pulled + (s.queue.elements.take 1).length
    have hpos := List.length_pos_iff.mpr helements
    rw [hseen, List.length_take]
    omega
  · intro k' t' hk'
    exact absurd hk' (hnone k' t')

theorem Turn.step (h : s.Turn) (hexclusive : s.Exclusive event) (hstep : s.step event = some s') :
    s'.Turn := by
  have hawake := h.awake.step hstep
  cases step_of_eq hstep with
  | put t => exact h.notify hawake (List.prefix_append _ _) (List.prefix_append _ _)
  | notify => exact h.notify hawake (List.prefix_refl _) (List.prefix_refl _)
  | spurious hloop => exact h.goto hawake (by rw [hloop]; nofun) nofun nofun
  | wait hloop => exact h.goto hawake (by rw [hloop]; nofun) nofun nofun
  | take hloop hcons => exact h.takeReturn hexclusive hcons _
  | resume hloop hcons => exact h.takeReturn hexclusive.1 hcons _
  | resumeEmpty hloop hempty => exact absurd hempty hexclusive.2
  | pull hloop => exact h.pullStep hloop

/-! ## Any other step gives an element twice -/

/-- The element that another consumer holds is the front still: it has been seen already, and the
next to be seen is the one behind it. -/
theorem Turn.not_inTurn_of_holding (h : s.Turn) {k k' : κ} {t t' : Placed α}
    {rest : List (Placed α)} (hk : s.consumers k = .holding t)
    (hcons : s.queue.elements = t' :: rest) : ¬ (s.takeReturn k' (.ok t')).InTurn := by
  intro hturn
  have hseen : s.seen ++ [t'] <+: s.put := hturn.seen
  have hplaces : (s.seen ++ [t']).map Prod.fst <+: List.range s.put.length :=
    h.awake.placed ▸ hseen.map Prod.fst
  have hlength := (h.taken k t hk).1
  -- the place of the last element seen is the number of those seen before it
  have hlast := hplaces.getElem (i := s.seen.length) (by simp)
  simp only [List.map_append, List.map_cons, List.map_nil, List.getElem_range,
    List.getElem_concat_length, List.length_map] at hlast
  rw [h.awake.front_place hcons] at hlast
  omega

theorem Turn.not_inTurn (h : s.Turn) (hexclusive : ¬ s.Exclusive event)
    (hstep : s.step event = some s') : ¬ s'.InTurn := by
  cases step_of_eq hstep with
  | put | notify | spurious | pull => exact absurd trivial hexclusive
  | wait hloop hempty =>
      simp only [Exclusive, not_forall, not_not] at hexclusive
      obtain ⟨k', t', hk'⟩ := hexclusive
      exact absurd hempty (h.taken k' t' hk').2
  | take hloop hcons =>
      simp only [Exclusive, not_forall, not_not] at hexclusive
      obtain ⟨k', t', hk'⟩ := hexclusive
      exact h.not_inTurn_of_holding hk' hcons
  | resume hloop hcons =>
      have hholding : ∃ k' t', s.consumers k' = .holding t' := by
        by_contra hnone
        apply hexclusive
        refine ⟨fun k' t' hk' => hnone ⟨k', t', hk'⟩, ?_⟩
        rw [hcons]
        exact List.cons_ne_nil _ _
      obtain ⟨k', t', hk'⟩ := hholding
      exact h.not_inTurn_of_holding hk' hcons
  | @resumeEmpty k hloop hempty =>
      intro hturn
      exact hturn.defined k .index (s.goto_self k (.fault .index))

theorem init_turn (hinit : (system κ α).Init s) : s.Turn := by
  have hawake := init_awake hinit
  obtain ⟨hconsumers, -, -, hseen, hpulled⟩ := hinit
  have hnone : ∀ k t, s.consumers k ≠ .holding t := by
    intro k t
    rw [hconsumers]
    nofun
  refine ⟨hawake, ⟨?_, by rw [hseen]; exact List.nil_prefix⟩, ?_, ?_, ?_⟩
  · intro k e
    rw [hconsumers]
    nofun
  · intro k k' t t' hk
    exact absurd hk (hnone k t)
  · intro _
    rw [hseen, hpulled]
    rfl
  · intro k t hk
    exact absurd hk (hnone k t)

/-- A run lets the consumers see the elements in turn exactly when `take` only ever returns while no
other consumer is between its own `take` and its `pull`, and never to an empty queue. -/
theorem inTurn_iff (hinit : (system κ α).Init s) {events : List (PoolEvent κ α)}
    (hrun : ((system κ α).run s events).isSome) :
    (system κ α).Throughout InTurn s events ↔ (system κ α).Along Exclusive s events :=
  System.throughout_iff_along Turn (fun _ h => h.inTurn) (fun _ _ _ h => h.step)
    (fun _ _ _ h => h.not_inTurn) (init_turn hinit) hrun

/-- An empty queue of numbers with two consumers. -/
def twoConsumers : PooledQueue Bool ℕ :=
  { queue := ⟨[]⟩, consumers := fun _ => .outside, put := [], seen := [], pulled := 0 }

/-- The consumers take one element each, of two that are equal. -/
theorem inTurn_iff_two_consumers : (system Bool ℕ).Throughout InTurn twoConsumers
    [.take true, .put 1, .put 1, .resume true, .pull true, .take false, .pull false] := by
  have hfirst : ∀ k : Bool, ∀ t,
      (Function.update (fun _ => Consumer.outside) true .waiting k).notifyAll.notifyAll ≠
        .holding (t : Placed ℕ) := by
    intro k t
    cases k <;> nofun
  refine (inTurn_iff ⟨fun _ => rfl, rfl, rfl, rfl, rfl⟩ rfl).mpr ⟨fun _ _ => nofun, trivial,
    trivial, ⟨hfirst, List.cons_ne_nil (0, 1) [(1, 1)]⟩, trivial, ?_, trivial, trivial⟩
  intro k t
  cases k <;> nofun

/-- Both are notified of one element. -/
theorem no_lost_wakeup_two_consumers : ∃ s : PooledQueue Bool ℕ,
    s.consumers true = .waiting ∧ s.pulled = s.put.length := by
  have hstart : (system Bool ℕ).Reachable twoConsumers :=
    .init ⟨fun _ => rfl, rfl, rfl, rfl, rfl⟩
  have hreachable := hstart.run [.take false, .put 1, .resume false, .pull false, .take true] rfl
  exact ⟨_, rfl, (no_lost_wakeup hreachable).2 true rfl⟩

end Csae295.PooledQueue
