import Csae295.Model.Inh
import Csae295.Model.State2

/-! The packer: frames out of messages, and messages out of buffers. -/

namespace Csae295

open Library

/-- A message of any class, as `unpack` hands it on. -/
inductive Message where
  | header (msg : MessageHeader)
  | inh (msg : Veh2CloudInh)
  | inhRes (msg : Cloud2VehInhRes)
  | state (msg : Veh2CloudState)
  | state2 (msg : Veh2CloudState2)
  deriving DecidableEq, Repr

/-- What the heap holds where `unpack` allocates an object of each class. -/
structure Storage where
  header : MessageHeader
  inh : Veh2CloudInh
  inhRes : Cloud2VehInhRes
  state : Veh2CloudState
  state2 : Veh2CloudState2
  deriving Inhabited

/-- The pointer `unpack` returns and the messages it calls the handler's `on_message`
overloads with. -/
structure Unpacked where
  msg : Option Message
  calls : List Message
  deriving DecidableEq, Repr

namespace Packer

/-- Call the handler, when there is one, and return the message. -/
def deliver (handler : Bool) (msg : Message) : Unpacked :=
  { msg := some msg, calls := if handler then [msg] else [] }

/-- Return a null pointer. -/
def reject : Unpacked := { msg := none, calls := [] }

def unpack (storage : Storage) (buf : Buffer) (size : ℕ) (handler : Bool) :
    Except Fault Unpacked :=
  if buf.isNone || size = 0 then .ok reject
  else do
    let (id, _) ← loadByte.loadFrom buf 0
    if 0xF2 ≠ id then .ok reject
    else do
      let (dataType, _) ← loadByte.loadFrom buf 5
      if dataType = heartbeat then do
        let msg ← MessageHeader.ofBuffer storage.header buf size true
        pure (deliver handler (.header msg))
      else if dataType = heartbeatRes then do
        let msg ← MessageHeader.ofBuffer storage.header buf size true
        pure (deliver handler (.header msg))
      else if dataType = veh2cloudInh then do
        let msg ← Veh2CloudInh.ofBuffer storage.inh buf size true
        pure (deliver handler (.inh msg))
      else if dataType = cloud2vehInhRes then do
        let msg ← Cloud2VehInhRes.ofBuffer storage.inhRes buf size true
        pure (deliver handler (.inhRes msg))
      else if dataType = veh2cloudState then do
        let (version, _) ← loadByte.loadFrom buf 6
        if 0x01 = version then do
          let msg ← Veh2CloudState.ofBuffer storage.state buf size true
          pure (deliver handler (.state msg))
        else if 0x02 = version then do
          let msg ← Veh2CloudState2.ofBuffer storage.state2 buf size true
          pure (deliver handler (.state2 msg))
        else .ok reject
      else .ok reject

/-- `MessageBuffer`: a 32-bit size and the bytes behind it. -/
structure MessageBuffer where
  size : Word 4
  data : List Byte
  deriving DecidableEq, Repr

/-- `pack` for a message of any class. `stack` is the uninitialised local array of
`header_length() + data_length()` bytes, and the bytes `to_bytes` reports are copied out
of it. -/
def pack (header : MessageHeader) (toBytes : Buffer → ℕ → Bool → Except Fault (Buffer × ℕ))
    (stack : (n : ℕ) → Vector Byte n) : Except Fault MessageBuffer := do
  let size := header.headerLength + header.dataLength
  let (buf, size) ← toBytes (some (stack size).toList) size true
  -- `v.insert(v.end(), buf, buf + size)` reads the array up to the reported size
  let (v, _) ← (load size).loadFrom buf 0
  pure { size := BitVec.ofNat (8 * 4) v.length, data := v }

end Packer

namespace Message

/-- The part that the messages of all classes have. -/
def toMessageHeader : Message → MessageHeader
  | .header msg => msg
  | .inh msg => msg.toMessageHeader
  | .inhRes msg => msg.toMessageHeader
  | .state msg => msg.toMessageHeader
  | .state2 msg => msg.toMessageHeader

/-- `pack` is a template, which calls the `to_bytes` of the message's class. -/
def toBytes : Message → Buffer → ℕ → Bool → Except Fault (Buffer × ℕ)
  | .header msg => msg.toBytes
  | .inh msg => msg.toBytes
  | .inhRes msg => msg.toBytes
  | .state msg => msg.toBytes
  | .state2 msg => msg.toBytes

end Message

end Csae295
