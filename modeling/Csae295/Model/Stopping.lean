import Csae295.Model.Controller

/-! A thread in `stop` between the receive thread and the send thread it joins. -/

namespace Csae295

open Library

/-- The connected socket: the bytes that have arrived and not been received, whether the peer has
closed, and whether this end has been shut down. -/
structure Socket where
  incoming : ℕ
  peerClosed : Bool
  shutDown : Bool
  deriving DecidableEq, Repr

namespace Socket

/-- `recv` has nothing to return for. -/
def Idle (self : Socket) : Prop :=
  self.incoming = 0 ∧ self.peerClosed = false ∧ self.shutDown = false

instance (self : Socket) : Decidable self.Idle := inferInstanceAs (Decidable (_ ∧ _ ∧ _))

/-- What `recv` returns for, and what it leaves to be received. -/
inductive Received where
  | data (size : ℕ)
  | shutdown
  | error (errno : Errno)
  deriving DecidableEq, Repr

def recv (self : Socket) : Received → Option Socket
  | .data size =>
    if 0 < size ∧ size ≤ 4096 ∧ size ≤ self.incoming then
      some { self with incoming := self.incoming - size }
    else none
  | .shutdown => if 0 = self.incoming ∧ (self.peerClosed || self.shutDown) then some self else none
  | .error _ => if self.peerClosed || self.shutDown then some self else none

end Socket

/-- The next statement of `stop`. A join is passed once the thread has exited. -/
inductive Stopper where
  | test
  | heartbeat
  | setStopped
  | joinRecv
  | notify
  | joinSend
  | close
  | returned
  deriving DecidableEq, Repr

/-- Where a receive thread stands: at the test of the flag, before `recv`, inside it, behind it
with data to unpack, or behind its loop. -/
inductive Receiver where
  | top
  | calling
  | receiving
  | handling
  | exited
  deriving DecidableEq, Repr

/-- Behind `recv` the loop handles what it got, goes on or returns. -/
def Receiver.received : Socket.Received → Receiver
  | .data _ => .handling
  | .shutdown => .exited
  | .error errno => if errno.retry then .top else .exited

/-- Where a send thread stands: at the test of the flag, before `take`, waiting inside it, woken
there, before and behind the socket's `send`, behind its loop, or behind the front of an empty
queue. -/
inductive Sender where
  | top
  | taking
  | waiting
  | notified
  | sending (p : SharedBuffer)
  | sent (p : SharedBuffer)
  | exited
  | fault (e : Fault)
  deriving DecidableEq, Repr

namespace Sender

def notifyAll : Sender → Sender
  | .waiting => .notified
  | self => self

def taken : Except Fault (Option SharedBuffer) → Sender
  | .ok (some p) => .sending p
  | .ok none => .top
  | .error e => .fault e

end Sender

/-- A channel with a thread in `stop` and the two threads of the last `start`. -/
structure Stopping where
  ch : Byte
  stopped : Bool
  stopper : Stopper
  receiver : Receiver
  sender : Sender
  queue : BlockQueue (Option SharedBuffer)
  socket : Socket
  deriving DecidableEq, Repr

/-- The receive thread tests the flag, enters `recv`, returns from it, or has unpacked. -/
inductive ReceiverEvent where
  | test
  | call
  | recv (received : Socket.Received)
  | handled
  deriving DecidableEq, Repr

/-- The send thread tests the flag, calls `take`, returns from its wait, has sent, or pulls. -/
inductive SenderEvent where
  | test
  | take
  | resume
  | sent
  | pull
  deriving DecidableEq, Repr

/-- One of the three threads goes on, the wait returns without a notification, some thread puts
a buffer into the queue, or the peer sends or closes. -/
inductive StopEvent where
  | stop
  | receiver (event : ReceiverEvent)
  | sender (event : SenderEvent)
  | spurious
  | put (buf : Option SharedBuffer)
  | peerSend (size : ℕ)
  | peerClose
  deriving DecidableEq, Repr

namespace Stopping

/-- The next statement of `stop` for the channel. -/
def stopStep (self : Stopping) : Option Stopping :=
  match self.stopper with
  | .test =>
    if upChannel = self.ch then
      some { self with stopper := if self.stopped then .returned else .setStopped }
    else if downChannel = self.ch then
      some { self with stopper := if self.stopped then .returned else .heartbeat }
    else some { self with stopper := .returned }
  | .heartbeat => some { self with stopper := .setStopped }
  | .setStopped => some { self with stopped := true, stopper := .joinRecv }
  | .joinRecv => if self.receiver = .exited then some { self with stopper := .notify } else none
  | .notify => some { self with sender := self.sender.notifyAll, stopper := .joinSend }
  | .joinSend => if self.sender = .exited then some { self with stopper := .close } else none
  | .close =>
    some { self with socket := { self.socket with shutDown := true }, stopper := .returned }
  | .returned => none

/-- One step of `up_socket_recv_thread` or `down_socket_recv_thread`. -/
def receiverStep (self : Stopping) (event : ReceiverEvent) : Option Stopping :=
  match self.receiver, event with
  | .top, .test => some { self with receiver := if self.stopped then .exited else .calling }
  | .calling, .call => some { self with receiver := .receiving }
  | .receiving, .recv received =>
    (self.socket.recv received).map fun socket =>
      { self with socket, receiver := .received received }
  | .handling, .handled => some { self with receiver := .top }
  | _, _ => none

/-- One step of `up_socket_send_thread` or `down_socket_send_thread`. -/
def senderStep (self : Stopping) (event : SenderEvent) : Option Stopping :=
  match self.sender, event with
  | .top, .test => some { self with sender := if self.stopped then .exited else .taking }
  | .taking, .take =>
    match self.queue.take with
    | none => some { self with sender := .waiting }
    | some taken => some { self with sender := .taken taken }
  | .notified, .resume => some { self with sender := .taken self.queue.wake }
  | .sending p, .sent => some { self with sender := .sent p }
  | .sent _, .pull => some { self with queue := self.queue.pull, sender := .top }
  | _, _ => none

def step (self : Stopping) : StopEvent → Option Stopping
  | .stop => self.stopStep
  | .receiver event => self.receiverStep event
  | .sender event => self.senderStep event
  | .spurious =>
    match self.sender with
    | .waiting => some { self with sender := .notified }
    | _ => none
  | .put buf => some { self with queue := self.queue.put buf, sender := self.sender.notifyAll }
  | .peerSend size =>
    if self.socket.peerClosed then none
    else some { self with socket := { self.socket with incoming := self.socket.incoming + size } }
  | .peerClose => some { self with socket := { self.socket with peerClosed := true } }

/-- `stop` is called on a channel that has been started, whatever its socket and its queue hold. -/
def system : System Stopping StopEvent where
  Init self := self.stopped = false ∧ self.stopper = .test ∧ self.receiver = .top ∧
    self.sender = .top
  step := step

/-- `stop` waits for a thread that is in `recv` with nothing to return for, or that is in the
wait of an empty queue behind the notification. -/
def Deadlocked (self : Stopping) : Prop :=
  self.stopper = .joinRecv ∧ self.receiver = .receiving ∧ self.socket.Idle ∨
    self.stopper = .joinSend ∧ self.sender = .waiting ∧ self.queue.elements = []

end Stopping

end Csae295
