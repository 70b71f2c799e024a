import Csae295.Library.Handles
import Csae295.Library.System
import Mathlib.Data.Int.Notation

/-! The timer behind the heartbeat: `start` and `stop`, statement by statement and as whole
calls. -/

namespace Csae295

open Library

/-- A timer with the operating system's timers that have been created and not released. A
handle that has not been set yet is `none`. -/
structure Timer where
  stopped : Bool
  timer : Option ℕ
  timers : Handles
  deriving DecidableEq, Repr

namespace Timer

def new : Timer := { stopped := true, timer := none, timers := .none }

/-- The statements of `start`, of which the first two can fail. -/
inductive StartStage where
  | timerCreate
  | timerSettime
  | clearStopped
  deriving DecidableEq, Repr

/-- What a statement of `start` leaves, and the next one; `start` returns at a failure. -/
def startStep (self : Timer) (stage : StartStage) (succeeds : Bool) :
    Timer × Option StartStage :=
  match stage with
  | .timerCreate =>
    if succeeds then
      ({ self with timer := some self.timers.created, timers := self.timers.create },
        some .timerSettime)
    else (self, none)
  | .timerSettime => (self, if succeeds then some .clearStopped else none)
  | .clearStopped => ({ self with stopped := false }, none)

/-- The statements of `stop`. -/
inductive StopStage where
  | test
  | setStopped
  | timerDelete
  deriving DecidableEq, Repr

def stopStep (self : Timer) : StopStage → Timer × Option StopStage
  | .test => (self, if self.stopped then none else some .setStopped)
  | .setStopped => ({ self with stopped := true }, some .timerDelete)
  | .timerDelete => ({ self with timers := self.timers.release self.timer }, none)

/-! ## Whole calls -/

/-- The calls, with the outcomes of the operating system's calls in them. -/
inductive Call where
  | start (timerCreate timerSettime : Bool)
  | stop (timerDelete : Bool)
  deriving DecidableEq, Repr

/-- `start`, which returns -1 at the first statement that fails. -/
def start (self : Timer) (timerCreate timerSettime : Bool) : Timer × ℤ :=
  match self.startStep .timerCreate timerCreate with
  | (self, none) => (self, -1)
  | (self, some stage) =>
    match self.startStep stage timerSettime with
    | (self, none) => (self, -1)
    | (self, some stage) => ((self.startStep stage true).1, 0)

/-- `stop`: the flag is set before the timer is deleted, and a failed `timer_delete` leaves no
timer behind. -/
def stop (self : Timer) (timerDelete : Bool) : Timer × ℤ :=
  match self.stopStep .test with
  | (self, none) => (self, 0)
  | (self, some stage) =>
    match self.stopStep stage with
    | (self, none) => (self, 0)
    | (self, some stage) => ((self.stopStep stage).1, if timerDelete then 0 else -1)

def call (self : Timer) : Call → Timer × ℤ
  | .start timerCreate timerSettime => self.start timerCreate timerSettime
  | .stop timerDelete => self.stop timerDelete

/-- An object and the calls on it, one after another. -/
def calls : System Timer Call where
  Init := (· = new)
  step self call := some (self.call call).1

end Timer

end Csae295
