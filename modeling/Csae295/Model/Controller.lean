import Csae295.Library.System
import Csae295.Model.BlockQueue
import Csae295.Model.Print

/-! The controller: the handler of received messages and, for each channel, the receive loop,
the send queue and the send loop. -/

namespace Csae295

open Library

/-! ## Handler -/

/-- Whether a callback is set, what has been inserted into `std::cout`, and the messages the
callback's `on_message` overloads have been called with. What `printf` writes besides, line breaks,
dumps of the buffers and log lines, is not in the record. -/
structure Handler where
  callback : Bool
  os : List Byte
  calls : List Message
  deriving DecidableEq, Repr

namespace Handler

/-- The body the overloads share: insert the message into `std::cout`, behind a line break, and hand
it to the callback. -/
def handle (print : List Byte → Except Fault (List Byte)) (msg : Message) (self : Handler) :
    Except Fault Handler := do
  let os ← print (self.os ++ utf8 "\n")
  pure { self with os, calls := if self.callback then self.calls ++ [msg] else self.calls }

/-- The switch on the data type has nothing to do for a heartbeat response. -/
def onMessageHeader (msg : MessageHeader) : Handler → Except Fault Handler :=
  handle msg.print (.header msg)

def onVeh2CloudInh (msg : Veh2CloudInh) : Handler → Except Fault Handler :=
  handle msg.print (.inh msg)

def onCloud2VehInhRes (msg : Cloud2VehInhRes) : Handler → Except Fault Handler :=
  handle msg.print (.inhRes msg)

def onVeh2CloudState (msg : Veh2CloudState) : Handler → Except Fault Handler :=
  handle msg.print (.state msg)

/-- The controller does not override this overload, and the handler's body is empty. -/
def onVeh2CloudState2 (_ : Veh2CloudState2) (self : Handler) : Except Fault Handler := .ok self

/-- The overload for the message's class. -/
def onMessage : Message → Handler → Except Fault Handler
  | .header msg => onMessageHeader msg
  | .inh msg => onVeh2CloudInh msg
  | .inhRes msg => onCloud2VehInhRes msg
  | .state msg => onVeh2CloudState msg
  | .state2 msg => onVeh2CloudState2 msg

/-- The calls `unpack` makes, one after another. -/
def onMessages : List Message → Handler → Except Fault Handler
  | [], self => .ok self
  | msg :: msgs, self => do
    let self ← onMessage msg self
    onMessages msgs self

end Handler

/-! ## Receive loop -/

/-- The bytes of one `recv` into a buffer of 4096. -/
structure Chunk where
  bytes : List Byte
  pos : 0 < bytes.length
  le : bytes.length ≤ 4096
  deriving DecidableEq, Repr

/-- The buffer after the chunk has been received into it. -/
def Chunk.into (chunk : Chunk) (buf : Vector Byte 4096) : Vector Byte 4096 :=
  arrayOf 4096 (chunk.bytes ++ buf.toList.drop chunk.bytes.length)

inductive Errno where
  | again
  | wouldBlock
  | intr
  | other
  deriving DecidableEq, Repr

/-- The errors behind which the loop receives again. -/
def Errno.retry : Errno → Bool
  | .again | .wouldBlock | .intr => true
  | .other => false

/-- What `recv` returns: a positive size with what the heap then holds for the message to be
built in, 0, or a negative size. -/
inductive RecvResult where
  | data (heap : Storage) (chunk : Chunk)
  | shutdown
  | error (errno : Errno)

/-- The loop around `recv`. The list of results ends where the loop finds the channel stopped. The
loop itself inserts nothing into `std::cout`: its line breaks, the dumps of what has come and its
log lines are written by `printf`. -/
def recvLoop (self : Handler) (buf : Vector Byte 4096) : List RecvResult → Except Fault Handler
  | [] => .ok self
  | .shutdown :: _ => .ok self
  | .error errno :: results => if errno.retry then recvLoop self buf results else .ok self
  | .data heap chunk :: results => do
    let buf := chunk.into buf
    let unpacked ← Packer.unpack heap (some buf.toList) chunk.bytes.length true
    let self ← Handler.onMessages unpacked.calls self
    recvLoop self buf results

def upSocketRecvThread (self : Handler) (results : List RecvResult) : Except Fault Handler :=
  recvLoop self (Vector.replicate 4096 0) results

def downSocketRecvThread (self : Handler) (results : List RecvResult) : Except Fault Handler :=
  recvLoop self (Vector.replicate 4096 0) results

/-! ## Send queue and send loop -/

/-- A message buffer that holds the bytes its size announces. -/
structure SharedBuffer extends Packer.MessageBuffer where
  holds : size.toNat ≤ data.length
  deriving DecidableEq, Repr

/-- A packed buffer as it is shared with the queue, where the size it announces is read. -/
def Packer.MessageBuffer.share (buf : Packer.MessageBuffer) : Except Fault SharedBuffer :=
  if h : buf.size.toNat ≤ buf.data.length then .ok { buf with holds := h } else .error .read

/-- The buffer `send` makes of a message. -/
def Packer.packShared (msg : Message) (stack : (n : ℕ) → Vector Byte n) :
    Except Fault SharedBuffer := do
  let buf ← Packer.pack msg.toMessageHeader msg.toBytes stack
  buf.share

/-- The bytes the send loop hands to the socket. -/
def SharedBuffer.bytes (p : SharedBuffer) : List Byte := p.data.take p.size.toNat

/-- Where a send loop stands: before `take`, waiting inside it, before and behind the socket's
`send` of the buffer it took, or behind the front of an empty queue. -/
inductive SendLoop where
  | top
  | waiting
  | sending (p : SharedBuffer)
  | sent (p : SharedBuffer)
  | exited
  | fault (e : Fault)
  deriving DecidableEq, Repr

/-- A null pointer takes the loop back to its top. -/
def SendLoop.taken : Except Fault (Option SharedBuffer) → SendLoop
  | .ok (some p) => .sending p
  | .ok none => .top
  | .error e => .fault e

/-- A channel's queue and send loop on one connection, with the bytes the socket has accepted
and, for the record, the pointers that have been put into the queue and that have left it. -/
structure Channel where
  queue : BlockQueue (Option SharedBuffer)
  sendLoop : SendLoop
  accepted : List Byte
  put : List (Option SharedBuffer)
  pulled : List (Option SharedBuffer)
  deriving DecidableEq, Repr

/-- What happens to a send loop: it finds the channel stopped, or it goes on. The socket
accepts a number of bytes or fails. -/
inductive SendEvent where
  | stopped
  | take
  | wake
  | socketSend (size : Option ℕ)
  | pull
  deriving DecidableEq, Repr

namespace Channel

def enqueue (self : Channel) (buf : Option SharedBuffer) : Channel :=
  { self with queue := self.queue.put buf, put := self.put ++ [buf] }

def takeStep (self : Channel) : Channel :=
  match self.queue.take with
  | none => { self with sendLoop := .waiting }
  | some taken => { self with sendLoop := .taken taken }

/-- The result of the socket's `send` is not looked at. -/
def socketSend (self : Channel) (p : SharedBuffer) (size : Option ℕ) : Channel :=
  { self with accepted := self.accepted ++ p.bytes.take (size.getD 0), sendLoop := .sent p }

def pullStep (self : Channel) : Channel :=
  { self with
    queue := self.queue.pull, sendLoop := .top
    pulled := self.pulled ++ self.queue.elements.take 1 }

/-- One step of `up_socket_send_thread` or `down_socket_send_thread`. -/
def sendStep (self : Channel) (event : SendEvent) : Option Channel :=
  match self.sendLoop, event with
  | .top, .stopped => some { self with sendLoop := .exited }
  | .top, .take => some self.takeStep
  | .waiting, .wake => some { self with sendLoop := .taken self.queue.wake }
  | .sending p, .socketSend size =>
    if size.getD 0 ≤ p.bytes.length then some (self.socketSend p size) else none
  | .sent _, .pull => some self.pullStep
  | _, _ => none

end Channel

/-! ## Controller -/

def upChannel : Byte := 0
def downChannel : Byte := 1

/-- The two channels, and what is left of the call every thread is in. -/
structure Controller (τ : Type) where
  up : Channel
  down : Channel
  calls : τ → List (Option SharedBuffer × Byte)

/-- A thread calls `batch`, with one buffer to `send` it, or goes on with its call, or a send
loop takes a step. -/
inductive Action (τ : Type) where
  | batch (t : τ) (bufs : List (Option SharedBuffer)) (ch : Byte)
  | send (t : τ)
  | up (event : SendEvent)
  | down (event : SendEvent)

namespace Controller

variable {τ : Type}

def send (self : Controller τ) (buf : Option SharedBuffer) (ch : Byte) : Controller τ :=
  if upChannel = ch then { self with up := self.up.enqueue buf }
  else if downChannel = ch then { self with down := self.down.enqueue buf }
  else self

/-- `send` of a message: it is packed, and the buffer is sent. -/
def sendMessage (self : Controller τ) (msg : Message) (stack : (n : ℕ) → Vector Byte n) (ch : Byte) :
    Except Fault (Controller τ) := do
  let buf ← Packer.packShared msg stack
  pure (self.send (some buf) ch)

/-- The loop of `batch`, of which the calls left are run one by one. -/
def batch (bufs : List (Option SharedBuffer)) (ch : Byte) : List (Option SharedBuffer × Byte) :=
  bufs.map fun buf => (buf, ch)

variable [DecidableEq τ]

def step (self : Controller τ) : Action τ → Option (Controller τ)
  | .batch t bufs ch =>
    if self.calls t = [] then
      some { self with calls := Function.update self.calls t (batch bufs ch) }
    else none
  | .send t =>
    match self.calls t with
    | [] => none
    | (buf, ch) :: rest =>
      some { self.send buf ch with calls := Function.update self.calls t rest }
  | .up event => (self.up.sendStep event).map fun up => { self with up }
  | .down event => (self.down.sendStep event).map fun down => { self with down }

end Controller

/-- A connection starts at the top of the loop, with nothing accepted and with whatever an
earlier connection has left in the queue. -/
def Channel.Connected (self : Channel) : Prop :=
  self.sendLoop = .top ∧ self.accepted = [] ∧ self.put = self.queue.elements ∧ self.pulled = []

/-- Any number of threads calling `send` and `batch`, interleaved with both send loops. -/
def Controller.system (τ : Type) [DecidableEq τ] : System (Controller τ) (Action τ) where
  Init self := self.up.Connected ∧ self.down.Connected
  step := step

/-! ## Reconnects -/

/-- A channel over its connections: what the sockets of the earlier ones have accepted. The record of
what has been put and pulled runs on. -/
structure Reconnecting where
  channel : Channel
  sessions : List (List Byte)
  deriving DecidableEq, Repr

/-- Some thread puts a buffer, the send loop takes a step, or `start` runs the loop again on a new
socket, with the queue as it was left. -/
inductive ReconnectEvent where
  | put (buf : Option SharedBuffer)
  | loop (event : SendEvent)
  | restart
  deriving DecidableEq, Repr

namespace Reconnecting

def step (self : Reconnecting) : ReconnectEvent → Option Reconnecting
  | .put buf => some { self with channel := self.channel.enqueue buf }
  | .loop event => (self.channel.sendStep event).map fun channel => { self with channel }
  | .restart =>
    if self.channel.sendLoop = .exited then
      some { channel := { self.channel with sendLoop := .top, accepted := [] }
             sessions := self.sessions ++ [self.channel.accepted] }
    else none

def system : System Reconnecting ReconnectEvent where
  Init self := self.channel.Connected ∧ self.sessions = []
  step := step

end Reconnecting

end Csae295
