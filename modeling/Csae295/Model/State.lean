import Csae295.Model.Message

/-! The vehicle state message `Veh2CloudState`. -/

namespace Csae295

open Library

structure Position where
  longitude : Word 4
  latitude : Word 4
  elevation : Word 4
  deriving DecidableEq, Inhabited, Repr

structure Position2D where
  longitude : Word 4
  latitude : Word 4
  deriving DecidableEq, Inhabited, Repr

structure Veh2CloudState extends MessageHeader where
  vehicleId : Vector Byte 8
  messageId : Vector Byte 8
  gnssTimestamp : Word 8
  gnssVelocity : Word 2
  position : Position
  heading : Word 4
  gear : Byte
  steeringAngle : Word 4
  velocity : Word 2
  accLon : Word 2
  accLat : Word 2
  accVer : Word 2
  yawRate : Word 2
  accelPos : Word 2
  engineSpeed : Word 2
  engineTorque : Word 4
  breakFlag : Byte
  breakPos : Word 2
  breakPressure : Word 2
  fuelConsume : Word 2
  driveMode : Byte
  destLocation : Position2D
  passPosNum : Byte
  passPos : List Position2D
  deriving DecidableEq, Inhabited, Repr

namespace Veh2CloudState

/-- The packed size of the object, its vector included. -/
def sizeof : ℕ := MessageHeader.sizeof + 8 + 8 + 8 + 2 + (4 + 4 + 4) + 4 + 1 + 4 + 2 + 2 + 2 + 2 +
  2 + 2 + 2 + 4 + 1 + 2 + 2 + 2 + 1 + (4 + 4) + 1 + sizeofVector

def new (version : Byte) (timestamp : Word 8) (ctrl : Byte) (vehicleId messageId : List Byte)
    (gnssTimestamp : Word 8) (gnssVelocity : Word 2) (position : Position) (heading : Word 4)
    (gear : Byte) (steeringAngle : Word 4)
    (velocity accLon accLat accVer yawRate accelPos engineSpeed : Word 2) (engineTorque : Word 4)
    (breakFlag : Byte) (breakPos breakPressure fuelConsume : Word 2) (driveMode : Byte)
    (destLocation : Position2D) (passPos : List Position2D) : Veh2CloudState :=
  { MessageHeader.new
      (BitVec.ofNat (8 * 4) (sizeof - MessageHeader.sizeof - sizeofVector + passPos.length))
      veh2cloudState version timestamp ctrl with
    vehicleId := strncpyField (Vector.replicate 8 0) vehicleId
    messageId := memcpyField (Vector.replicate 8 0) messageId
    gnssTimestamp, gnssVelocity, position, heading, gear, steeringAngle
    velocity, accLon, accLat, accVer, yawRate, accelPos, engineSpeed, engineTorque
    breakFlag, breakPos, breakPressure, fuelConsume, driveMode, destLocation
    passPosNum := BitVec.ofNat 8 passPos.length
    passPos }

def fresh (storage : Veh2CloudState) : Veh2CloudState :=
  { storage with
    id := 0xF2, vehicleId := Vector.replicate 8 0, messageId := Vector.replicate 8 0
    passPos := [] }

def length (self : Veh2CloudState) : ℕ := sizeof - sizeofVector + self.passPos.length

/-- The loop that appends `n` pass points. -/
def loadPassPos (be : Bool) : ℕ → List Position2D → Access (List Position2D)
  | 0, passPos => pure passPos
  | n + 1, passPos => do
    let longitude ← loadWord 4 be
    let latitude ← loadWord 4 be
    loadPassPos be n (passPos ++ [{ longitude, latitude }])

def loadFields (self : Veh2CloudState) (be : Bool) : Access Veh2CloudState := do
  let vehicleId ← loadArray 8
  let v ← loadArray 8
  let messageId := if be then v.reverse else v
  let gnssTimestamp ← loadWord 8 be
  let gnssVelocity ← loadWord 2 be
  let positionLongitude ← loadWord 4 be
  let positionLatitude ← loadWord 4 be
  let positionElevation ← loadWord 4 be
  let heading ← loadWord 4 be
  let gear ← loadByte
  let steeringAngle ← loadWord 4 be
  let velocity ← loadWord 2 be
  let accLon ← loadWord 2 be
  let accLat ← loadWord 2 be
  let accVer ← loadWord 2 be
  let yawRate ← loadWord 2 be
  let accelPos ← loadWord 2 be
  let engineSpeed ← loadWord 2 be
  let engineTorque ← loadWord 4 be
  let breakFlag ← loadByte
  let breakPos ← loadWord 2 be
  let breakPressure ← loadWord 2 be
  let fuelConsume ← loadWord 2 be
  let driveMode ← loadByte
  let destLocationLongitude ← loadWord 4 be
  let destLocationLatitude ← loadWord 4 be
  let passPosNum ← loadByte
  let passPos ← loadPassPos be passPosNum.toNat self.passPos
  pure { self with
    vehicleId, messageId, gnssTimestamp, gnssVelocity
    position := ⟨positionLongitude, positionLatitude, positionElevation⟩
    heading, gear, steeringAngle, velocity, accLon, accLat, accVer, yawRate, accelPos
    engineSpeed, engineTorque, breakFlag, breakPos, breakPressure, fuelConsume, driveMode
    destLocation := ⟨destLocationLongitude, destLocationLatitude⟩
    passPosNum, passPos }

def fromBytes (self : Veh2CloudState) (buf : Buffer) (size : ℕ) (be : Bool) :
    Except Fault (Veh2CloudState × ℕ) :=
  if buf.isNone then .ok (self, 0)
  else do
    let (header, offset) ← self.toMessageHeader.fromBytes buf size be
    let self := { self with toMessageHeader := header }
    let len := self.length - header.length
    let rest := remaining size offset
    if rest < len then .ok (self, offset)
    else (self.loadFields be).loadFrom buf offset

/-- The loop that writes `n` pass points from position `i` on. -/
def storePassPos (be : Bool) (passPos : List Position2D) : ℕ → ℕ → Access Unit
  | _, 0 => pure ()
  | i, n + 1 => do
    let pos ← elementAt passPos i
    storeWord be pos.longitude
    storeWord be pos.latitude
    storePassPos be passPos (i + 1) n

def storeFields (self : Veh2CloudState) (be : Bool) : Access Unit := do
  store self.vehicleId.toList
  store (if be then self.messageId.reverse else self.messageId).toList
  storeWord be self.gnssTimestamp
  storeWord be self.gnssVelocity
  storeWord be self.position.longitude
  storeWord be self.position.latitude
  storeWord be self.position.elevation
  storeWord be self.heading
  store [self.gear]
  storeWord be self.steeringAngle
  storeWord be self.velocity
  storeWord be self.accLon
  storeWord be self.accLat
  storeWord be self.accVer
  storeWord be self.yawRate
  storeWord be self.accelPos
  storeWord be self.engineSpeed
  storeWord be self.engineTorque
  store [self.breakFlag]
  storeWord be self.breakPos
  storeWord be self.breakPressure
  storeWord be self.fuelConsume
  store [self.driveMode]
  storeWord be self.destLocation.longitude
  storeWord be self.destLocation.latitude
  store [self.passPosNum]
  storePassPos be self.passPos 0 self.passPosNum.toNat

def toBytes (self : Veh2CloudState) (buf : Buffer) (size : ℕ) (be : Bool) :
    Except Fault (Buffer × ℕ) :=
  if buf.isNone then .ok (buf, 0)
  else do
    let (buf, offset) ← self.toMessageHeader.toBytes buf size be
    let len := self.length - self.toMessageHeader.length
    let rest := remaining size offset
    if rest < len then .ok (buf, offset)
    else (self.storeFields be).storeTo buf offset

def ofBuffer (storage : Veh2CloudState) (buf : Buffer) (size : ℕ) (be : Bool) :
    Except Fault Veh2CloudState := do
  let (self, _) ← (fresh storage).fromBytes buf size be
  pure self

end Veh2CloudState

end Csae295
