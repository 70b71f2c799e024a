import Csae295.Model.State

/-! Version 2 of the vehicle state message, which extends the first version. -/

namespace Csae295

open Library

structure Veh2CloudState2 extends Veh2CloudState where
  absFlag : Byte
  tcsFlag : Byte
  espFlag : Byte
  lkaFlag : Byte
  accFlag : Byte
  fcwFlag : Byte
  ldwFlag : Byte
  aebFlag : Byte
  lcaFlag : Byte
  dmsFlag : Byte
  mileage : Word 4
  fuelGauge : Word 2
  soc : Word 2
  temperature : Byte
  endurance : Word 4
  vehfault : Word 2
  motorspeed : Word 2
  motortorque : Word 4
  vehMode : Byte
  chargeState : Byte
  battVol : Word 2
  battCur : Word 2
  hornState : Byte
  wheelNum : Byte
  wheelVelocity : List (Word 2)
  tirePressure : List (Word 2)
  lights : Word 2
  doors : Word 2
  userDataLen : Byte
  userData : List Byte
  deriving DecidableEq, Inhabited, Repr

namespace Veh2CloudState2

/-- The packed size of the object, its three vectors and its string included. -/
def sizeof : ℕ := Veh2CloudState.sizeof + 10 + 4 + 2 + 2 + 1 + 4 + 2 + 2 + 4 + 1 + 1 + 2 + 2 + 1 +
  1 + sizeofVector + sizeofVector + 2 + 2 + 1 + sizeofString

def length (self : Veh2CloudState2) : ℕ :=
  sizeof - sizeofVector + self.passPos.length - sizeofVector + self.wheelVelocity.length -
    sizeofVector + self.tirePressure.length - sizeofString + self.userData.length

def new (version : Byte) (timestamp : Word 8) (ctrl : Byte) (vehicleId messageId : List Byte)
    (gnssTimestamp : Word 8) (gnssVelocity : Word 2) (position : Position) (heading : Word 4)
    (gear : Byte) (steeringAngle : Word 4)
    (velocity accLon accLat accVer yawRate accelPos engineSpeed : Word 2) (engineTorque : Word 4)
    (breakFlag : Byte) (breakPos breakPressure fuelConsume : Word 2) (driveMode : Byte)
    (destLocation : Position2D) (passPos : List Position2D)
    (absFlag tcsFlag espFlag lkaFlag accFlag fcwFlag ldwFlag aebFlag lcaFlag dmsFlag : Byte)
    (mileage : Word 4) (fuelGauge soc : Word 2) (temperature : Byte) (endurance : Word 4)
    (vehfault motorspeed : Word 2) (motortorque : Word 4) (vehMode chargeState : Byte)
    (battVol battCur : Word 2) (hornState : Byte) (wheelVelocity tirePressure : List (Word 2))
    (lights doors : Word 2) (userdefinedData : List Byte) : Veh2CloudState2 :=
  let base := Veh2CloudState.new version timestamp ctrl vehicleId messageId gnssTimestamp
    gnssVelocity position heading gear steeringAngle velocity accLon accLat accVer yawRate accelPos
    engineSpeed engineTorque breakFlag breakPos breakPressure fuelConsume driveMode destLocation
    passPos
  { base with
    -- the two fields are copied a second time over what the base constructor left
    vehicleId := strncpyField base.vehicleId vehicleId
    messageId := memcpyField base.messageId messageId
    dataLen := BitVec.ofNat (8 * 4) (sizeof - MessageHeader.sizeof - sizeofVector +
      passPos.length - sizeofVector + wheelVelocity.length - sizeofVector + tirePressure.length -
      sizeofString + userdefinedData.length)
    absFlag, tcsFlag, espFlag, lkaFlag, accFlag, fcwFlag, ldwFlag, aebFlag, lcaFlag, dmsFlag
    mileage, fuelGauge, soc, temperature, endurance, vehfault, motorspeed, motortorque
    vehMode, chargeState, battVol, battCur, hornState
    wheelNum := BitVec.ofNat 8 wheelVelocity.length
    wheelVelocity, tirePressure, lights, doors
    userDataLen := BitVec.ofNat 8 userdefinedData.length
    userData := userdefinedData }

def fresh (storage : Veh2CloudState2) : Veh2CloudState2 :=
  { storage with
    toVeh2CloudState := Veh2CloudState.fresh storage.toVeh2CloudState
    wheelVelocity := [], tirePressure := [], userData := [] }

/-- The loop that assigns the elements from position `i` on, `n` of them. -/
def loadElements (be : Bool) : ℕ → ℕ → List (Word 2) → Access (List (Word 2))
  | _, 0, elements => pure elements
  | i, n + 1, elements => do
    let value ← loadWord 2 be
    let elements ← assignAt elements i value
    loadElements be (i + 1) n elements

def loadFields (self : Veh2CloudState2) (be : Bool) : Access Veh2CloudState2 := do
  let absFlag ← loadByte
  let tcsFlag ← loadByte
  let espFlag ← loadByte
  let lkaFlag ← loadByte
  let accFlag ← loadByte
  let fcwFlag ← loadByte
  let ldwFlag ← loadByte
  let aebFlag ← loadByte
  let lcaFlag ← loadByte
  let dmsFlag ← loadByte
  let mileage ← loadWord 4 be
  let fuelGauge ← loadWord 2 be
  let soc ← loadWord 2 be
  let temperature ← loadByte
  let endurance ← loadWord 4 be
  let vehfault ← loadWord 2 be
  let motorspeed ← loadWord 2 be
  let motortorque ← loadWord 4 be
  let vehMode ← loadByte
  let chargeState ← loadByte
  let battVol ← loadWord 2 be
  let battCur ← loadWord 2 be
  let hornState ← loadByte
  let wheelNum ← loadByte
  let wheelVelocity ← loadElements be 0 wheelNum.toNat self.wheelVelocity
  let tirePressure ← loadElements be 0 wheelNum.toNat self.tirePressure
  let lights ← loadWord 2 be
  let doors ← loadWord 2 be
  let userDataLen ← loadByte
  let userData ← loadUserData self.userData userDataLen
  pure { self with
    absFlag, tcsFlag, espFlag, lkaFlag, accFlag, fcwFlag, ldwFlag, aebFlag, lcaFlag, dmsFlag
    mileage, fuelGauge, soc, temperature, endurance, vehfault, motorspeed, motortorque
    vehMode, chargeState, battVol, battCur, hornState, wheelNum, wheelVelocity, tirePressure
    lights, doors, userDataLen, userData }

def fromBytes (self : Veh2CloudState2) (buf : Buffer) (size : ℕ) (be : Bool) :
    Except Fault (Veh2CloudState2 × ℕ) :=
  if buf.isNone then .ok (self, 0)
  else do
    let (base, offset) ← self.toVeh2CloudState.fromBytes buf size be
    let self := { self with toVeh2CloudState := base }
    let len := self.length - base.length
    let rest := remaining size offset
    if rest < len then .ok (self, offset)
    else (self.loadFields be).loadFrom buf offset

/-- The loop that writes the elements from position `i` on, `n` of them. -/
def storeElements (be : Bool) (elements : List (Word 2)) : ℕ → ℕ → Access Unit
  | _, 0 => pure ()
  | i, n + 1 => do
    let value ← elementAt elements i
    storeWord be value
    storeElements be elements (i + 1) n

def storeFields (self : Veh2CloudState2) (be : Bool) : Access Unit := do
  store [self.absFlag]
  store [self.tcsFlag]
  store [self.espFlag]
  store [self.lkaFlag]
  store [self.accFlag]
  store [self.fcwFlag]
  store [self.ldwFlag]
  store [self.aebFlag]
  store [self.lcaFlag]
  store [self.dmsFlag]
  storeWord be self.mileage
  storeWord be self.fuelGauge
  storeWord be self.soc
  store [self.temperature]
  storeWord be self.endurance
  storeWord be self.vehfault
  storeWord be self.motorspeed
  storeWord be self.motortorque
  store [self.vehMode]
  store [self.chargeState]
  storeWord be self.battVol
  storeWord be self.battCur
  store [self.hornState]
  store [self.wheelNum]
  storeElements be self.wheelVelocity 0 self.wheelNum.toNat
  storeElements be self.tirePressure 0 self.wheelNum.toNat
  storeWord be self.lights
  storeWord be self.doors
  store [self.userDataLen]
  storeUserData self.userData self.userDataLen

def toBytes (self : Veh2CloudState2) (buf : Buffer) (size : ℕ) (be : Bool) :
    Except Fault (Buffer × ℕ) :=
  if buf.isNone then .ok (buf, 0)
  else do
    let (buf, offset) ← self.toVeh2CloudState.toBytes buf size be
    let len := self.length - self.toVeh2CloudState.length
    let rest := remaining size offset
    if rest < len then .ok (buf, offset)
    else (self.storeFields be).storeTo buf offset

def ofBuffer (storage : Veh2CloudState2) (buf : Buffer) (size : ℕ) (be : Bool) :
    Except Fault Veh2CloudState2 := do
  let (self, _) ← (fresh storage).fromBytes buf size be
  pure self

end Veh2CloudState2

end Csae295
