import Mathlib.Logic.Function.Basic
import Csae295.Model.Client
import Csae295.Model.Controller
import Csae295.Model.Timer

/-! The life of a channel: the owner's calls of `start` and `stop`, the ticks of the listen timer
with the handler of the connect state, and the threads that reconnect. -/

namespace Csae295

open Library

/-- What `start` and `stop` of one channel work on: its flag, whether its two threads have been
started and not joined, its socket and the heartbeat. An assignment to a thread that is still
joinable, or a join of one that is not, ends the process. For the record, `halted` tells that
some `stop` has returned and no `start` has begun since. -/
structure Link where
  ch : Byte
  stopped : Bool
  recvThread : Bool
  sendThread : Bool
  client : Client
  heartbeat : Timer
  halted : Bool
  aborted : Bool
  deriving DecidableEq, Repr

/-- The statements of `start`: the stages of `open` that are left, with the assignment of the
flag behind the last, and the assignments of the two threads. -/
inductive StartPc where
  | opening (stages : List Client.OpenStage)
  | recvThread
  | sendThread
  deriving DecidableEq, Repr

/-- The statements of `stop`. The stages of `close` are followed by the return, and so are the
tests that return early. The notification between the joins changes nothing here. -/
inductive StopPc where
  | test
  | heartbeat (stage : Timer.StopStage)
  | setStopped
  | joinRecv
  | joinSend
  | closeTest
  | closing (stages : List Client.CloseStage)
  deriving DecidableEq, Repr

/-- Where a thread stands: at rest, in a tick before `listen`, in the handler of CONNECTED, in
`stop`, behind the `stop` of the handler of LOST, in the five seconds before a reconnect, or in
`start`. -/
inductive Thread where
  | idle
  | ticking
  | connected (stage : Timer.StartStage)
  | stop (pc : StopPc)
  | respawn
  | sleeping
  | start (pc : StartPc)
  deriving DecidableEq, Repr

/-- The owner, and the threads of timers and reconnects. -/
inductive Actor (τ : Type) where
  | owner
  | thread (t : τ)
  deriving DecidableEq, Repr

namespace Client

/-- `connect` needs an open socket and `timer_settime` a timer. -/
def Ready (self : Client) : OpenStage → Prop
  | .connect => self.sockets.Holds self.sockfd
  | .timerSettime => self.timers.Holds self.timer
  | _ => True

instance (self : Client) (stage : OpenStage) : Decidable (self.Ready stage) :=
  match stage with
  | .connect => inferInstanceAs (Decidable (self.sockets.Holds self.sockfd))
  | .timerSettime => inferInstanceAs (Decidable (self.timers.Holds self.timer))
  | .socket | .inetPton | .timerCreate => inferInstanceAs (Decidable True)

end Client

namespace Link

/-- `start` sets the callback and comes to `open`. -/
def begin (self : Link) : Link :=
  { self with client := self.client.setConnectStateCallback, halted := false }

/-- One statement of `start`, which succeeds or fails, and the next one. The result of `open` is
not looked at. -/
def startStep (self : Link) (succeeds : Bool) : StartPc → Option (Link × Option StartPc)
  | .opening (stage :: stages) =>
    if succeeds then
      if self.client.Ready stage then
        some ({ self with client := self.client.perform stage }, some (.opening stages))
      else none
    else some ({ self with client := self.client.fail stage }, some (.opening []))
  | .opening [] => some ({ self with stopped := false }, some .recvThread)
  | .recvThread =>
    some (if self.recvThread then { self with aborted := true } else { self with recvThread := true },
      some .sendThread)
  | .sendThread =>
    some (if self.sendThread then { self with aborted := true } else { self with sendThread := true },
      none)

/-- One statement of `stop`, and the next one. -/
def stopStep (self : Link) : StopPc → Link × Option StopPc
  | .test =>
    (self, some (if self.stopped then .closing []
      else if downChannel = self.ch then .heartbeat .test else .setStopped))
  | .heartbeat stage =>
    ({ self with heartbeat := (self.heartbeat.stopStep stage).1 },
      some ((self.heartbeat.stopStep stage).2.elim .setStopped .heartbeat))
  | .setStopped => ({ self with stopped := true }, some .joinRecv)
  | .joinRecv =>
    (if self.recvThread then { self with recvThread := false } else { self with aborted := true },
      some .joinSend)
  | .joinSend =>
    (if self.sendThread then { self with sendThread := false } else { self with aborted := true },
      some .closeTest)
  | .closeTest =>
    (self, some (.closing (if self.client.state = .closed then [] else Client.closeStages)))
  | .closing (stage :: stages) =>
    ({ self with client := self.client.performClose stage }, some (.closing stages))
  | .closing [] => ({ self with halted := true }, none)

end Link

/-- A channel, whether the owner's last call was `start`, and its threads. -/
structure Lifecycle (τ : Type) where
  link : Link
  wanted : Bool
  threads : Actor τ → Thread

/-- The owner calls `start` or `stop`; a listen timer expires in a thread, which runs `listen`;
an actor goes on with its call or its handler, where the call of the system succeeds or fails;
the handler of LOST starts the thread that reconnects. -/
inductive LifecycleEvent (τ : Type) where
  | ownerStart
  | ownerStop
  | expire (t : τ)
  | listen (t : τ) (tcpiState : Byte)
  | go (a : Actor τ) (succeeds : Bool)
  | spawn (t t' : τ)

/-- Behind `stop` the owner returns, and the handler of LOST starts a thread. -/
def Actor.stopped {τ : Type} : Actor τ → Thread
  | .owner => .idle
  | .thread _ => .respawn

/-- Where a tick goes on that has called the callback with the given state. -/
def Thread.notified (ch : Byte) : Option ConnectState → Thread
  | some .lost => .stop .test
  | some .connected => if downChannel = ch then .connected .timerCreate else .idle
  | _ => .idle

namespace Lifecycle

variable {τ : Type} [DecidableEq τ]

def goto (self : Lifecycle τ) (a : Actor τ) (link : Link) (thread : Thread) : Lifecycle τ :=
  { self with link, threads := Function.update self.threads a thread }

/-- The actor goes on. -/
def goStep (self : Lifecycle τ) (a : Actor τ) (succeeds : Bool) : Option (Lifecycle τ) :=
  match self.threads a with
  | .connected stage =>
    let (heartbeat, next) := self.link.heartbeat.startStep stage succeeds
    some (self.goto a { self.link with heartbeat } (next.elim .idle .connected))
  | .stop pc =>
    let (link, next) := self.link.stopStep pc
    some (self.goto a link (next.elim a.stopped .stop))
  | .sleeping => some (self.goto a self.link.begin (.start (.opening Client.openStages)))
  | .start pc =>
    (self.link.startStep succeeds pc).map fun (link, next) =>
      self.goto a link (next.elim .idle .start)
  | .idle | .ticking | .respawn => none

def step (self : Lifecycle τ) (event : LifecycleEvent τ) : Option (Lifecycle τ) :=
  if self.link.aborted then none
  else match event with
  | .ownerStart =>
    if self.threads .owner = .idle ∧ self.wanted = false then
      some { self.goto .owner self.link.begin (.start (.opening Client.openStages)) with
        wanted := true }
    else none
  | .ownerStop =>
    if self.threads .owner = .idle ∧ self.wanted = true then
      some { self.goto .owner self.link (.stop .test) with wanted := false }
    else none
  | .expire t =>
    if self.threads (.thread t) = .idle ∧ self.link.client.armed ≠ [] then
      some (self.goto (.thread t) self.link .ticking)
    else none
  | .listen t tcpiState =>
    if self.threads (.thread t) = .ticking then
      let (client, state) := self.link.client.listen tcpiState
      some (self.goto (.thread t) { self.link with client } (.notified self.link.ch state))
    else none
  | .go a succeeds => self.goStep a succeeds
  | .spawn t t' =>
    if self.threads (.thread t) = .respawn ∧ self.threads (.thread t') = .idle then
      some ((self.goto (.thread t) self.link .idle).goto (.thread t') self.link .sleeping)
    else none

end Lifecycle

/-- A channel that has never been started. -/
def Link.new (ch : Byte) : Link :=
  { ch, stopped := true, recvThread := false, sendThread := false, client := .new
    heartbeat := .new, halted := true, aborted := false }

def Lifecycle.new (τ : Type) (ch : Byte) : Lifecycle τ :=
  { link := .new ch, wanted := false, threads := fun _ => .idle }

/-- One of the two channels; its owner calls `start` first. -/
def Lifecycle.system (τ : Type) [DecidableEq τ] :
    System (Lifecycle τ) (LifecycleEvent τ) where
  Init self := self = .new τ upChannel ∨ self = .new τ downChannel
  step := step

end Csae295
