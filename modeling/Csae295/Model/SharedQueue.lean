import Mathlib.Logic.Function.Basic
import Csae295.Library.System
import Csae295.Model.BlockQueue

/-! The blocking queue between its threads: any number that put and notify, and one that takes
and then pulls, or any number of these. Every step holds the mutex. -/

namespace Csae295

open Library

/-- Where the consumer stands: outside the queue, waiting inside `take`, woken there and about
to lock the mutex again, outside with the element `take` returned, or behind the front of an
empty queue. -/
inductive Consumer (α : Type) where
  | outside
  | waiting
  | notified
  | holding (t : α)
  | fault (e : Fault)
  deriving DecidableEq, Repr

namespace Consumer

variable {α : Type}

/-- `notify_all` reaches the threads that are waiting. -/
def notifyAll : Consumer α → Consumer α
  | .waiting => .notified
  | self => self

def taken : Except Fault α → Consumer α
  | .ok t => .holding t
  | .error e => .fault e

/-- The element the consumer has taken and not yet pulled. -/
def held : Consumer α → List α
  | .holding t => [t]
  | _ => []

end Consumer

/-- The queue and its consumer and, for the record, the elements that have been put, that
`take` has returned, and that `pull` has removed. -/
structure SharedQueue (α : Type) where
  queue : BlockQueue α
  consumer : Consumer α
  put : List α
  seen : List α
  pulled : List α
  deriving DecidableEq, Repr

/-- Some thread calls `put` or `notify`, the wait returns without a notification, or the
consumer goes on: it calls `take`, returns from the wait, calls `pull`. -/
inductive QueueEvent (α : Type) where
  | put (t : α)
  | notify
  | spurious
  | take
  | resume
  | pull
  deriving DecidableEq, Repr

namespace SharedQueue

variable {α : Type}

def putStep (self : SharedQueue α) (t : α) : SharedQueue α :=
  { self with
    queue := self.queue.put t, consumer := self.consumer.notifyAll, put := self.put ++ [t] }

def notifyStep (self : SharedQueue α) : SharedQueue α :=
  { self with consumer := self.consumer.notifyAll }

/-- `take` returns. -/
def takeReturn (self : SharedQueue α) (taken : Except Fault α) : SharedQueue α :=
  { self with consumer := .taken taken, seen := self.seen ++ (Consumer.taken taken).held }

def takeStep (self : SharedQueue α) : SharedQueue α :=
  match self.queue.take with
  | none => { self with consumer := .waiting }
  | some taken => self.takeReturn taken

def pullStep (self : SharedQueue α) : SharedQueue α :=
  { self with
    queue := self.queue.pull, consumer := .outside
    pulled := self.pulled ++ self.queue.elements.take 1 }

def step (self : SharedQueue α) : QueueEvent α → Option (SharedQueue α)
  | .put t => some (self.putStep t)
  | .notify => some self.notifyStep
  | .spurious =>
    match self.consumer with
    | .waiting => some { self with consumer := .notified }
    | _ => none
  | .take =>
    match self.consumer with
    | .outside => some self.takeStep
    | _ => none
  | .resume =>
    match self.consumer with
    | .notified => some (self.takeReturn self.queue.wake)
    | _ => none
  | .pull =>
    match self.consumer with
    | .holding _ => some self.pullStep
    | _ => none

/-- The consumer starts outside the queue, which holds what has been put before. -/
def system (α : Type) : System (SharedQueue α) (QueueEvent α) where
  Init self := self.consumer = .outside ∧ self.put = self.queue.elements ∧ self.seen = [] ∧
    self.pulled = []
  step := step

end SharedQueue

/-! ## Any number of consumers -/

/-- An element with its place in the order of the calls of `put`, by which equal ones are told
apart. The queue does not look at its elements. -/
abbrev Placed (α : Type) : Type := ℕ × α

/-- The queue and its consumers and, for the record, the elements that have been put and those
that `take` has returned, and how many `pull` has removed. -/
structure PooledQueue (κ α : Type) where
  queue : BlockQueue (Placed α)
  consumers : κ → Consumer (Placed α)
  put : List (Placed α)
  seen : List (Placed α)
  pulled : ℕ

/-- As for one consumer; a consumer's events name it. -/
inductive PoolEvent (κ α : Type) where
  | put (t : α)
  | notify
  | spurious (k : κ)
  | take (k : κ)
  | resume (k : κ)
  | pull (k : κ)

namespace PooledQueue

variable {κ α : Type}

def putStep (self : PooledQueue κ α) (t : α) : PooledQueue κ α :=
  let placed : Placed α := (self.put.length, t)
  { self with
    queue := self.queue.put placed, consumers := fun k => (self.consumers k).notifyAll
    put := self.put ++ [placed] }

def notifyStep (self : PooledQueue κ α) : PooledQueue κ α :=
  { self with consumers := fun k => (self.consumers k).notifyAll }

variable [DecidableEq κ]

def goto (self : PooledQueue κ α) (k : κ) (consumer : Consumer (Placed α)) : PooledQueue κ α :=
  { self with consumers := Function.update self.consumers k consumer }

/-- `take` returns. -/
def takeReturn (self : PooledQueue κ α) (k : κ) (taken : Except Fault (Placed α)) :
    PooledQueue κ α :=
  { self.goto k (.taken taken) with seen := self.seen ++ (Consumer.taken taken).held }

def takeStep (self : PooledQueue κ α) (k : κ) : PooledQueue κ α :=
  match self.queue.take with
  | none => self.goto k .waiting
  | some taken => self.takeReturn k taken

def pullStep (self : PooledQueue κ α) (k : κ) : PooledQueue κ α :=
  { self.goto k .outside with
    queue := self.queue.pull, pulled := self.pulled + (self.queue.elements.take 1).length }

def step (self : PooledQueue κ α) : PoolEvent κ α → Option (PooledQueue κ α)
  | .put t => some (self.putStep t)
  | .notify => some self.notifyStep
  | .spurious k =>
    match self.consumers k with
    | .waiting => some (self.goto k .notified)
    | _ => none
  | .take k =>
    match self.consumers k with
    | .outside => some (self.takeStep k)
    | _ => none
  | .resume k =>
    match self.consumers k with
    | .notified => some (self.takeReturn k self.queue.wake)
    | _ => none
  | .pull k =>
    match self.consumers k with
    | .holding _ => some (self.pullStep k)
    | _ => none

/-- The consumers start outside the queue, which holds what has been put before. -/
def system (κ α : Type) [DecidableEq κ] : System (PooledQueue κ α) (PoolEvent κ α) where
  Init self := (∀ k, self.consumers k = .outside) ∧ self.put = self.queue.elements ∧
    self.put.map Prod.fst = List.range self.put.length ∧ self.seen = [] ∧ self.pulled = 0
  step := step

end PooledQueue

end Csae295
