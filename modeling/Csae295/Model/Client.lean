import Csae295.Library.Handles
import Csae295.Library.System
import Csae295.Library.Word

/-! The socket client: `open` and `close`, stage by stage, and the listen timer's handler. -/

namespace Csae295

open Library

inductive ConnectState where
  | closed
  | connected
  | lost
  deriving DecidableEq, Repr

/-- A client with the descriptors and the timers that have been created and not released, and
the timers that have been armed. A descriptor of -1 and a member that has not been set yet are
`none`. -/
structure Client where
  sockfd : Option ℕ
  state : ConnectState
  timer : Option ℕ
  callback : Bool
  sockets : Handles
  timers : Handles
  armed : List ℕ
  deriving DecidableEq, Repr

namespace Client

def new : Client :=
  { sockfd := none, state := .closed, timer := none, callback := false
    sockets := .none, timers := .none, armed := [] }

def setConnectStateCallback (self : Client) : Client := { self with callback := true }

/-- The calls of `open` that can fail. -/
inductive OpenStage where
  | socket
  | inetPton
  | connect
  | timerCreate
  | timerSettime
  deriving DecidableEq, Repr

def openStages : List OpenStage := [.socket, .inetPton, .connect, .timerCreate, .timerSettime]

/-- What a stage leaves that has succeeded. -/
def perform (self : Client) : OpenStage → Client
  | .socket =>
    { self with sockfd := some self.sockets.created, sockets := self.sockets.create }
  | .inetPton => self
  | .connect => self
  | .timerCreate =>
    { self with timer := some self.timers.created, timers := self.timers.create }
  | .timerSettime => { self with armed := self.armed ++ self.timer.toList }

/-- What a stage leaves that has failed. -/
def fail (self : Client) : OpenStage → Client
  | .socket => { self with sockfd := none }
  | _ => self

/-- The rest of `open`, which returns at the first stage that fails. -/
def runOpen (succeeds : OpenStage → Bool) : List OpenStage → Client → Client × ℤ
  | [], self => (self, 0)
  | stage :: stages, self =>
    if succeeds stage then runOpen succeeds stages (self.perform stage)
    else (self.fail stage, -1)

def «open» (self : Client) (succeeds : OpenStage → Bool) : Client × ℤ :=
  runOpen succeeds openStages self

/-- The statements of `close` behind its test of the state. -/
inductive CloseStage where
  | timerDelete
  | shutdown
  | close
  | setClosed
  deriving DecidableEq, Repr

def closeStages : List CloseStage := [.timerDelete, .shutdown, .close, .setClosed]

def performClose (self : Client) : CloseStage → Client
  | .timerDelete =>
    { self with
      timers := self.timers.release self.timer
      armed := self.timer.elim self.armed self.armed.erase }
  | .shutdown => self
  | .close => { self with sockets := self.sockets.release self.sockfd }
  | .setClosed => { self with state := .closed }

def close (self : Client) : Client :=
  if self.state = .closed then self else closeStages.foldl performClose self

/-- The state `listen` makes of the state of the connection; TCP_CLOSING is 11 and
TCP_ESTABLISHED is 1. -/
def reported (self : Client) (tcpiState : Byte) : Option ConnectState :=
  if tcpiState.toNat ≤ 11 then some (if tcpiState = 1 then .connected else .lost)
  else if self.state = .closed then some .connected
  else none

/-- The client behind `listen`, and the state the callback is called with. -/
def listen (self : Client) (tcpiState : Byte) : Client × Option ConnectState :=
  match self.reported tcpiState with
  | none => (self, none)
  | some state =>
    if state ≠ self.state ∧ self.callback then ({ self with state }, some state)
    else (self, none)

/-- A tick of an armed timer. -/
def tick (self : Client) (tcpiState : Byte) : Option Client :=
  if self.armed = [] then none else some (self.listen tcpiState).1

end Client

/-- A client, and whether `open` has been called last. -/
structure OwnedClient where
  client : Client
  opened : Bool
  deriving DecidableEq, Repr

/-- The owner sets the callback, calls `open`, of which the given stages succeed, or calls
`close`; or an armed timer ticks. -/
inductive ClientCall where
  | setCallback
  | open (succeeds : Client.OpenStage → Bool)
  | tick (tcpiState : Byte)
  | close

namespace OwnedClient

def step (self : OwnedClient) : ClientCall → Option OwnedClient
  | .setCallback => some { self with client := self.client.setConnectStateCallback }
  | .open succeeds =>
    if self.opened then none
    else some { self with client := (self.client.open succeeds).1, opened := true }
  | .tick tcpiState => (self.client.tick tcpiState).map fun client => { self with client }
  | .close => if self.opened then some { client := self.client.close, opened := false } else none

/-- Calls of `open` and `close` alternate, from a new client on. -/
def system : System OwnedClient ClientCall where
  Init self := self = { client := Client.new, opened := false }
  step := step

end OwnedClient

/-! ## What the callback is told -/

/-- A call of the callback, or a `close` that does not find the client closed. -/
inductive Notice where
  | callback (state : ConnectState)
  | closed
  deriving DecidableEq, Repr

/-- What `listen` has read: the state of the connection, and the client's own state then. -/
structure Observation where
  tcpiState : Byte
  state : ConnectState
  deriving DecidableEq, Repr

/-- A client with what `listen` has read and the states the callback has been called with, both
since the last effective `close`, and all calls of the callback and effective `close`s since the
beginning. -/
structure WatchedClient where
  client : Client
  observed : List Observation
  delivered : List ConnectState
  log : List Notice
  deriving DecidableEq, Repr

/-- `open`, of which the given stages succeed, `close`, or `listen`, from within whose callback
the owner may call `close`. -/
inductive WatchedCall where
  | open (succeeds : Client.OpenStage → Bool)
  | close
  | listen (tcpiState : Byte) (closes : Bool)

namespace WatchedClient

def close (self : WatchedClient) : WatchedClient :=
  if self.client.state = .closed then { self with client := self.client.close }
  else
    { client := self.client.close, observed := [], delivered := [], log := self.log ++ [.closed] }

def listen (self : WatchedClient) (tcpiState : Byte) (closes : Bool) : WatchedClient :=
  let observed := self.observed ++ [⟨tcpiState, self.client.state⟩]
  match self.client.listen tcpiState with
  | (client, none) => { self with client, observed }
  | (client, some state) =>
    let self : WatchedClient :=
      { client, observed, delivered := self.delivered ++ [state]
        log := self.log ++ [.callback state] }
    if closes then self.close else self

def step (self : WatchedClient) : WatchedCall → WatchedClient
  | .open succeeds => { self with client := (self.client.open succeeds).1 }
  | .close => self.close
  | .listen tcpiState closes => self.listen tcpiState closes

/-- The calls on a new client that has a callback. -/
def system : System WatchedClient WatchedCall where
  Init self := self = { client := Client.new.setConnectStateCallback, observed := []
                        delivered := [], log := [] }
  step self call := some (self.step call)

end WatchedClient

end Csae295
