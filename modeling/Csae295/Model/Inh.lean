import Csae295.Model.Message

/-! The vehicle information messages `Veh2CloudInh` and `Cloud2VehInhRes`. -/

namespace Csae295

open Library

structure Veh2CloudInh extends MessageHeader where
  vehicleId : Vector Byte 8
  swVerLen : Byte
  swVer : List Byte
  hwVerLen : Byte
  hwVer : List Byte
  adVerLen : Byte
  adVer : List Byte
  comType : Byte
  posConfidence : Byte
  timeSync : Byte
  gnssType : Byte
  userDataLen : Byte
  userData : List Byte
  deriving DecidableEq, Inhabited, Repr

namespace Veh2CloudInh

/-- The packed size of the object, its four strings included. -/
def sizeof : ℕ := MessageHeader.sizeof + 8 + 1 + sizeofString + 1 + sizeofString + 1 +
  sizeofString + 1 + 1 + 1 + 1 + 1 + sizeofString

/-- The length byte the constructor sets for a string. -/
def stringLen (s : List Byte) : Byte :=
  if 0xFF ≤ s.length then 0 else BitVec.ofNat 8 s.length

def new (version : Byte) (timestamp : Word 8) (ctrl : Byte) (vehicleId swVer hwVer adVer : List Byte)
    (comType posConfidence timeSync gnssType : Byte) (userData : List Byte) : Veh2CloudInh :=
  let swVerLen := stringLen swVer
  let hwVerLen := stringLen hwVer
  let adVerLen := stringLen adVer
  let userDataLen := stringLen userData
  let dataLen : Word 4 := BitVec.ofNat (8 * 4)
    (sizeof - MessageHeader.sizeof - sizeofString - sizeofString - sizeofString - sizeofString)
  let dataLen := dataLen + swVerLen.setWidth (8 * 4)
  let dataLen := dataLen + hwVerLen.setWidth (8 * 4)
  let dataLen := dataLen + adVerLen.setWidth (8 * 4)
  let dataLen := dataLen + userDataLen.setWidth (8 * 4)
  { MessageHeader.new dataLen veh2cloudInh version timestamp ctrl with
    vehicleId := strncpyField (Vector.replicate 8 0) vehicleId
    swVerLen, swVer, hwVerLen, hwVer, adVerLen, adVer
    comType, posConfidence, timeSync, gnssType, userDataLen, userData }

/-- An object built in uninitialised storage: strings are empty, `id` and `vehicleId` have
initialisers, and everything else keeps what the storage held. -/
def fresh (storage : Veh2CloudInh) : Veh2CloudInh :=
  { storage with
    id := 0xF2, vehicleId := Vector.replicate 8 0
    swVer := [], hwVer := [], adVer := [], userData := [] }

def length (self : Veh2CloudInh) : ℕ :=
  sizeof - sizeofString + self.swVer.length - sizeofString + self.hwVer.length - sizeofString +
    self.adVer.length - sizeofString + self.userData.length

/-- A version string behind its length byte. -/
def loadVersion (old : List Byte) (len : Byte) : Access (List Byte) :=
  if announced len then load len.toNat else pure old

def loadFields (self : Veh2CloudInh) : Access Veh2CloudInh := do
  let vehicleId ← loadArray 8
  let swVerLen ← loadByte
  let swVer ← loadVersion self.swVer swVerLen
  let hwVerLen ← loadByte
  let hwVer ← loadVersion self.hwVer hwVerLen
  let adVerLen ← loadByte
  let adVer ← loadVersion self.adVer adVerLen
  let comType ← loadByte
  let posConfidence ← loadByte
  let timeSync ← loadByte
  let gnssType ← loadByte
  let userDataLen ← loadByte
  let userData ← loadUserData self.userData userDataLen
  pure { self with
    vehicleId, swVerLen, swVer, hwVerLen, hwVer, adVerLen, adVer
    comType, posConfidence, timeSync, gnssType, userDataLen, userData }

def fromBytes (self : Veh2CloudInh) (buf : Buffer) (size : ℕ) (be : Bool) :
    Except Fault (Veh2CloudInh × ℕ) :=
  if buf.isNone then .ok (self, 0)
  else do
    let (header, offset) ← self.toMessageHeader.fromBytes buf size be
    let self := { self with toMessageHeader := header }
    let len := self.length - header.length
    let rest := remaining size offset
    if rest < len then .ok (self, offset)
    else self.loadFields.loadFrom buf offset

/-- Copy `len` characters of a version string unless the length announces no string. -/
def storeVersion (s : List Byte) (len : Byte) : Access Unit :=
  if announced len then charsOf s len.toNat >>= store else pure ()

def storeFields (self : Veh2CloudInh) : Access Unit := do
  store self.vehicleId.toList
  store [self.swVerLen]
  storeVersion self.swVer self.swVerLen
  -- the hardware version goes out under the software version's length and characters,
  -- and so do the characters of the autonomous-driving version
  store [self.swVerLen]
  storeVersion self.swVer self.hwVerLen
  store [self.adVerLen]
  storeVersion self.swVer self.adVerLen
  store [self.comType]
  store [self.posConfidence]
  store [self.timeSync]
  store [self.gnssType]
  store [self.userDataLen]
  storeUserData self.userData self.userDataLen

def toBytes (self : Veh2CloudInh) (buf : Buffer) (size : ℕ) (be : Bool) :
    Except Fault (Buffer × ℕ) :=
  if buf.isNone then .ok (buf, 0)
  else do
    let (buf, offset) ← self.toMessageHeader.toBytes buf size be
    let len := self.length - self.toMessageHeader.length
    let rest := remaining size offset
    if rest < len then .ok (buf, offset)
    else self.storeFields.storeTo buf offset

def ofBuffer (storage : Veh2CloudInh) (buf : Buffer) (size : ℕ) (be : Bool) :
    Except Fault Veh2CloudInh := do
  let (self, _) ← (fresh storage).fromBytes buf size be
  pure self

end Veh2CloudInh

structure Cloud2VehInhRes extends MessageHeader where
  vehicleId : Vector Byte 8
  res : Byte
  deriving DecidableEq, Inhabited, Repr

namespace Cloud2VehInhRes

def sizeof : ℕ := MessageHeader.sizeof + 8 + 1

/-- `vehicleId` has no initialiser here: `storage` shows through behind a short identifier. -/
def new (storage : Vector Byte 8) (version : Byte) (timestamp : Word 8) (ctrl : Byte)
    (vehicleId : List Byte) (res : Byte) : Cloud2VehInhRes :=
  { MessageHeader.new (BitVec.ofNat (8 * 4) (sizeof - MessageHeader.sizeof)) cloud2vehInhRes
      version timestamp ctrl with
    vehicleId := strncpyField storage vehicleId
    res }

def fresh (storage : Cloud2VehInhRes) : Cloud2VehInhRes := { storage with id := 0xF2 }

def length (_ : Cloud2VehInhRes) : ℕ := sizeof

def loadFields (self : Cloud2VehInhRes) : Access Cloud2VehInhRes := do
  let vehicleId ← loadArray 8
  let res ← loadByte
  pure { self with vehicleId, res }

def fromBytes (self : Cloud2VehInhRes) (buf : Buffer) (size : ℕ) (be : Bool) :
    Except Fault (Cloud2VehInhRes × ℕ) := do
  let (header, offset) ← self.toMessageHeader.fromBytes buf size be
  let self := { self with toMessageHeader := header }
  let rest := remaining size offset
  if rest < self.dataLen.toNat then .ok (self, offset)
  else self.loadFields.loadFrom buf offset

def storeFields (self : Cloud2VehInhRes) : Access Unit := do
  store self.vehicleId.toList
  store [self.res]

/-- The byte order is not passed on to the header. -/
def toBytes (self : Cloud2VehInhRes) (buf : Buffer) (size : ℕ) (_be : Bool) :
    Except Fault (Buffer × ℕ) := do
  let (buf, offset) ← self.toMessageHeader.toBytes buf size true
  let rest := remaining size offset
  if rest < self.dataLen.toNat then .ok (buf, offset)
  else self.storeFields.storeTo buf offset

def ofBuffer (storage : Cloud2VehInhRes) (buf : Buffer) (size : ℕ) (be : Bool) :
    Except Fault Cloud2VehInhRes := do
  let (self, _) ← (fresh storage).fromBytes buf size be
  pure self

end Cloud2VehInhRes

end Csae295
