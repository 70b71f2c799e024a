import Csae295.Library.Memory

/-! The message header. -/

namespace Csae295

open Library

/-! ## Data types -/

def veh2cloudInh : Byte := 0x34
def cloud2vehInhRes : Byte := 0x35
def veh2cloudState : Byte := 0x15
def heartbeat : Byte := 0x0C
def heartbeatRes : Byte := 0x0D

/-! ## Storage of the host -/

/-- Size of a `std::vector` object. -/
def sizeofVector : ℕ := 24

/-- Size of a `std::string` object. -/
def sizeofString : ℕ := 32

/-- `strncpy` of at most the eight bytes of the field from a terminated string. Copying
stops at the first zero, the rest of the copied range is filled with zeros, and the bytes
behind it keep what they held. -/
def strncpyField (field : Vector Byte 8) (s : List Byte) : Vector Byte 8 :=
  let n := if 8 ≤ s.length then 8 else s.length
  let copied := (s.take n).takeWhile (· ≠ 0)
  arrayOf 8 (copied ++ List.replicate (n - copied.length) 0 ++ field.toList.drop n)

/-- `memcpy` of at most the eight bytes of the field. -/
def memcpyField (field : Vector Byte 8) (v : List Byte) : Vector Byte 8 :=
  let n := if 8 ≤ v.length then 8 else v.length
  arrayOf 8 (v.take n ++ field.toList.drop n)

/-- A length byte announces a string unless it is 0 or 0xFF. -/
def announced (len : Byte) : Bool := 0 != len && 0xFF != len

/-- The user data behind its length byte: only the length 0 announces no string. -/
def loadUserData (old : List Byte) (len : Byte) : Access (List Byte) :=
  if 0 ≠ len then load len.toNat else pure old

/-- Copy `len` characters of the user data unless the length is 0. -/
def storeUserData (s : List Byte) (len : Byte) : Access Unit :=
  if 0 ≠ len then charsOf s len.toNat >>= store else pure ()

/-! ## Message header -/

structure MessageHeader where
  id : Byte
  dataLen : Word 4
  dataType : Byte
  version : Byte
  timestamp : Word 8
  ctrl : Byte
  deriving DecidableEq, Inhabited, Repr

namespace MessageHeader

def new (dataLen : Word 4) (dataType version : Byte) (timestamp : Word 8) (ctrl : Byte) :
    MessageHeader :=
  { id := 0xF2, dataLen, dataType, version, timestamp, ctrl }

/-- An object built in uninitialised storage: only `id` has an initialiser. -/
def fresh (storage : MessageHeader) : MessageHeader := { storage with id := 0xF2 }

/-- The packed size of the header. -/
def sizeof : ℕ := 1 + 4 + 1 + 1 + 8 + 1

def headerLength (_ : MessageHeader) : ℕ := sizeof

def dataLength (self : MessageHeader) : ℕ := self.dataLen.toNat

def length (_ : MessageHeader) : ℕ := sizeof

def loadFields (be : Bool) : Access MessageHeader := do
  let id ← loadByte
  let dataLen ← loadWord 4 be
  let dataType ← loadByte
  let version ← loadByte
  let timestamp ← loadWord 8 be
  let ctrl ← loadByte
  pure { id, dataLen, dataType, version, timestamp, ctrl }

def fromBytes (self : MessageHeader) (buf : Buffer) (size : ℕ) (be : Bool) :
    Except Fault (MessageHeader × ℕ) :=
  if buf.isNone then .ok (self, 0)
  else if size < self.length then .ok (self, 0)
  else (loadFields be).loadFrom buf 0

def storeFields (self : MessageHeader) (be : Bool) : Access Unit := do
  store [self.id]
  storeWord be self.dataLen
  store [self.dataType]
  store [self.version]
  storeWord be self.timestamp
  store [self.ctrl]

def toBytes (self : MessageHeader) (buf : Buffer) (size : ℕ) (be : Bool) :
    Except Fault (Buffer × ℕ) :=
  if buf.isNone then .ok (buf, 0)
  else if size < self.length then .ok (buf, 0)
  else (self.storeFields be).storeTo buf 0

/-- The constructor from a buffer, which drops the offset `fromBytes` returns. -/
def ofBuffer (storage : MessageHeader) (buf : Buffer) (size : ℕ) (be : Bool) :
    Except Fault MessageHeader := do
  let (self, _) ← (fresh storage).fromBytes buf size be
  pure self

end MessageHeader

end Csae295
