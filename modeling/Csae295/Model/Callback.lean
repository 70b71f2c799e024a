import Mathlib.Logic.Function.Basic
import Csae295.Model.Client
import Csae295.Model.Controller
import Csae295.Model.Timer

/-! The example's callback. While the up channel is connected it announces the vehicle until the
cloud responds, and reports its state. -/

namespace Csae295

open Library

/-! ## Messages -/

/-- CTRL_PRIORITY_7 and CTRL_ENCRYPTION_NONE. -/
def exampleCtrl : Byte := (7 <<< 2) ||| (0 <<< 5)

/-- The message of the INH timer: COMM_TYPE_4G, TIME_SYNC_GNSS and GNSS_TYPE_GCJ02. -/
def exampleInh (timestamp : Word 8) : Veh2CloudInh :=
  .new 0x01 timestamp exampleCtrl (utf8 "Q1001") (utf8 "sw_v1.0") (utf8 "hw_v1.0") (utf8 "ad_v1.0")
    0 15 2 0 (utf8 "VEH2CLOUD_INH")

/-- The message of the state timer. -/
def exampleState (timestamp : Word 8) : Veh2CloudState :=
  .new 0x01 timestamp exampleCtrl (utf8 "Q1001") [1] timestamp 4000
    { longitude := 90, latitude := 90, elevation := 700 } 100000 31 200000 4100 500 400 300 200 500
    3000 50000 1 500 20000 1000 1 { longitude := 80, latitude := 80 } []

/-! ## Timers -/

/-- A timer with those of the operating system's timers that have been set. -/
structure Alarm extends Timer where
  armed : List ℕ
  deriving DecidableEq, Repr

namespace Alarm

def new : Alarm := { Timer.new with armed := [] }

def start (self : Alarm) (timerCreate timerSettime : Bool) : Alarm :=
  { (self.toTimer.start timerCreate timerSettime).1 with
    armed :=
      if timerCreate && timerSettime then self.armed ++ [self.timers.created] else self.armed }

def stop (self : Alarm) (timerDelete : Bool) : Alarm :=
  { (self.toTimer.stop timerDelete).1 with
    armed := if self.stopped then self.armed else self.timer.elim self.armed self.armed.erase }

end Alarm

/-! ## Callback -/

/-- What the callback has a timer for. -/
inductive Task where
  | inh
  | state
  deriving DecidableEq, Repr

/-- The members and, for the record, the messages sent to the up channel and how often the count
has been cleared. -/
structure ControllerCallback where
  stateTimer : Alarm
  inhTimer : Alarm
  inhCount : Word 8
  sent : List Message
  cleared : ℕ
  deriving DecidableEq, Repr

/-- The statements of the handlers. -/
inductive CallbackStmt where
  | start (task : Task)
  | stop (task : Task)
  | clearCount
  | testCount
  | send (task : Task)
  | incCount
  deriving DecidableEq, Repr

/-- What the system makes of a statement: whether its calls succeed, and the time. -/
structure Outcome where
  timerCreate : Bool
  timerSettime : Bool
  timerDelete : Bool
  timestamp : Word 8
  deriving DecidableEq, Repr

namespace ControllerCallback

def new : ControllerCallback :=
  { stateTimer := .new, inhTimer := .new, inhCount := 0, sent := [], cleared := 0 }

def onUpConnectState (state : ConnectState) : List CallbackStmt :=
  if .connected = state then [.start .inh, .start .state]
  else [.stop .state, .stop .inh, .clearCount]

/-- `on_message` of the response; the other overloads do nothing. -/
def onCloud2VehInhRes : List CallbackStmt := [.stop .inh, .clearCount]

/-- The handler of the INH timer, which gives up behind a third message. -/
def inhTick : List CallbackStmt := [.testCount, .send .inh, .incCount]

def giveUp : List CallbackStmt := [.stop .inh, .clearCount, .stop .state]

/-- The handler of the state timer. -/
def stateTick : List CallbackStmt := [.send .state]

def tick : Task → List CallbackStmt
  | .inh => inhTick
  | .state => stateTick

/-- The destructor. -/
def destroy : List CallbackStmt := [.stop .state, .stop .inh]

def timer (self : ControllerCallback) : Task → Alarm
  | .inh => self.inhTimer
  | .state => self.stateTimer

def setTimer (self : ControllerCallback) (timer : Alarm) : Task → ControllerCallback
  | .inh => { self with inhTimer := timer }
  | .state => { self with stateTimer := timer }

/-- The message of a tick. -/
def message (timestamp : Word 8) : Task → Message
  | .inh => .inh (exampleInh timestamp)
  | .state => .state (exampleState timestamp)

def perform (self : ControllerCallback) (outcome : Outcome) : CallbackStmt → ControllerCallback
  | .start task =>
    self.setTimer ((self.timer task).start outcome.timerCreate outcome.timerSettime) task
  | .stop task => self.setTimer ((self.timer task).stop outcome.timerDelete) task
  | .clearCount => { self with inhCount := 0, cleared := self.cleared + 1 }
  | .testCount => self
  | .send task => { self with sent := self.sent ++ [message outcome.timestamp task] }
  | .incCount => { self with inhCount := self.inhCount + 1 }

/-- What follows a statement. -/
def next (self : ControllerCallback) (rest : List CallbackStmt) : CallbackStmt → List CallbackStmt
  | .testCount => if 3 ≤ self.inhCount then giveUp else rest
  | _ => rest

end ControllerCallback

/-- The callback, and what is left of the handler every thread is in. -/
structure Example (τ : Type) where
  callback : ControllerCallback
  threads : τ → List CallbackStmt

/-- A thread calls the callback with a connect state or with the response, or destroys it; a timer
expires in a thread; or a thread goes on with its handler. -/
inductive ExampleEvent (τ : Type) where
  | onUpConnectState (t : τ) (state : ConnectState)
  | onCloud2VehInhRes (t : τ)
  | destroy (t : τ)
  | expire (t : τ) (task : Task)
  | go (t : τ) (outcome : Outcome)

namespace Example

variable {τ : Type} [DecidableEq τ]

/-- An idle thread comes to a handler. -/
def enter (self : Example τ) (t : τ) (handler : List CallbackStmt) : Option (Example τ) :=
  if self.threads t = [] then
    some { self with threads := Function.update self.threads t handler }
  else none

def step (self : Example τ) : ExampleEvent τ → Option (Example τ)
  | .onUpConnectState t state => self.enter t (ControllerCallback.onUpConnectState state)
  | .onCloud2VehInhRes t => self.enter t ControllerCallback.onCloud2VehInhRes
  | .destroy t => self.enter t ControllerCallback.destroy
  | .expire t task =>
    if (self.callback.timer task).armed = [] then none
    else self.enter t (ControllerCallback.tick task)
  | .go t outcome =>
    match self.threads t with
    | [] => none
    | stmt :: rest =>
      some { callback := self.callback.perform outcome stmt
             threads := Function.update self.threads t (self.callback.next rest stmt) }

/-- A new callback, called from any number of threads. -/
def system (τ : Type) [DecidableEq τ] : System (Example τ) (ExampleEvent τ) where
  Init self := self = { callback := .new, threads := fun _ => [] }
  step := step

end Example

/-! ## On the up channel -/

/-- The up channel's client with the callback, and the thread that is in the handler of a connect
state. -/
structure UpExample (τ : Type) where
  client : Client
  app : Example τ
  listener : Option τ

/-- `open`, of which the given stages succeed, or `close`, both by the owner; `listen` in a thread,
where the controller may call `close` when the connection is lost; or an event of the callback. -/
inductive UpEvent (τ : Type) where
  | open (succeeds : Client.OpenStage → Bool)
  | close
  | listen (t : τ) (tcpiState : Byte) (closes : Bool)
  | app (event : ExampleEvent τ)

namespace UpExample

variable {τ : Type} [DecidableEq τ]

/-- The callback is called with the state of the connection, behind the controller's handler. -/
def notify (self : UpExample τ) (t : τ) (state : ConnectState) (closes : Bool) :
    Option (UpExample τ) :=
  (self.app.step (.onUpConnectState t state)).map fun app =>
    { client := if .connected ≠ state ∧ closes then self.client.close else self.client
      app, listener := some t }

def listen (self : UpExample τ) (t : τ) (tcpiState : Byte) (closes : Bool) :
    Option (UpExample τ) :=
  match self.client.listen tcpiState with
  | (client, none) => some { self with client }
  | (client, some state) => { self with client }.notify t state closes

/-- The thread in the handler is through with it. -/
def settle (self : UpExample τ) : UpExample τ :=
  { self with listener := self.listener.filter fun t => self.app.threads t ≠ [] }

def step (self : UpExample τ) : UpEvent τ → Option (UpExample τ)
  | .open succeeds => some { self with client := (self.client.open succeeds).1 }
  | .close => some { self with client := self.client.close }
  | .listen t tcpiState closes => self.listen t tcpiState closes
  | .app (.onUpConnectState _ _) | .app (.destroy _) => none
  | .app event => (self.app.step event).map fun app => { self with app }.settle

/-- A new client with a callback that is not destroyed. -/
def system (τ : Type) [DecidableEq τ] : System (UpExample τ) (UpEvent τ) where
  Init self := self = { client := Client.new.setConnectStateCallback
                        app := { callback := .new, threads := fun _ => [] }
                        listener := none }
  step := step

end UpExample

end Csae295
