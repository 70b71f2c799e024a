import Csae295.Model.Converter
import Csae295.Model.Packer

/-! Printing of messages: `operator<<` of every class. -/

namespace Csae295

open Library

/-- The offset of the next field and the text that has been printed. -/
structure Printer where
  offset : Word 8
  os : List Byte

/-- A computation that prints. -/
abbrev Print := StateT Printer (Except Fault)

namespace Print

/-- Format a line into the local buffer `ostr`, print it and advance the offset. -/
def line (size : ℕ) (text : Word 8 → List Byte) : Print Unit := fun printer => do
  let ostr ← inBuffer 1024 (text printer.offset)
  pure ((), ⟨printer.offset + BitVec.ofNat (8 * 8) size, printer.os ++ ostr⟩)

/-- A number of `size` bytes, in hexadecimal with at least `digits` digits and in decimal. -/
def number (digits size : ℕ) (label : List Byte) (value : ℕ) : Print Unit :=
  line size fun offset => decimalLeft offset ++ utf8 "[" ++ hexUpper digits value ++ utf8 "] " ++
    label ++ utf8 ": " ++ decimal value ++ utf8 "\n"

/-- Two texts in the form of a number's line. -/
def texts (size : ℕ) (label first second : List Byte) : Print Unit :=
  line size fun offset => decimalLeft offset ++ utf8 "[" ++ first ++ utf8 "] " ++ label ++
    utf8 ": " ++ second ++ utf8 "\n"

/-- The digits of `len` bytes in the local buffer `str`. -/
def digits (bytes : List Byte) (len : ℕ) : Print (List Byte) :=
  liftM (bytesToString 256 bytes len)

/-- A string of the announced length, in digits and in characters. -/
def string (label s : List Byte) (len : Byte) : Print Unit :=
  if announced len then do
    let str ← digits (s ++ [0]) len.toNat
    texts len.toNat label str (cString s)
  else pure ()

/-- An element of a vector, which has to exist. -/
def element {α : Type} (xs : List α) (i : ℕ) : Print α :=
  match xs[i]? with
  | some x => pure x
  | none => throw .index

/-- Print from an offset on. -/
def start (offset : ℕ) (os : List Byte) (p : Print Unit) : Except Fault (List Byte) := do
  let (_, printer) ← p.run ⟨BitVec.ofNat (8 * 8) offset, os⟩
  pure printer.os

end Print

open Print

def MessageHeader.print (self : MessageHeader) (os : List Byte) : Except Fault (List Byte) :=
  start 0 os do
    number 2 1 (utf8 "标识位") self.id.toNat
    number 8 4 (utf8 "数据段长度") self.dataLen.toNat
    number 2 1 (utf8 "数据类别") self.dataType.toNat
    number 2 1 (utf8 "版本号") self.version.toNat
    number 16 8 (utf8 "时间戳") self.timestamp.toNat
    number 2 1 (utf8 "控制内容") self.ctrl.toNat

def Veh2CloudInh.print (self : Veh2CloudInh) (os : List Byte) : Except Fault (List Byte) := do
  let os ← self.toMessageHeader.print os
  start self.toMessageHeader.length os do
    let str ← digits self.vehicleId.toList 8
    texts 8 (utf8 "车辆编号") str (cString self.vehicleId.toList)
    number 2 1 (utf8 "车载终端设备软件版本号长度") self.swVerLen.toNat
    string (utf8 "车辆软件版本") self.swVer self.swVerLen
    number 2 1 (utf8 "自动驾驶系统硬件版本号长度") self.hwVerLen.toNat
    string (utf8 "自动驾驶系统硬件版本") self.hwVer self.hwVerLen
    number 2 1 (utf8 "自动驾驶系统软件版本号长度") self.adVerLen.toNat
    string (utf8 "自动驾驶系统软件版本号") self.adVer self.adVerLen
    number 2 1 (utf8 "无线通讯类型") self.comType.toNat
    number 2 1 (utf8 "定位精度") self.posConfidence.toNat
    number 2 1 (utf8 "时间同步方式") self.timeSync.toNat
    number 2 1 (utf8 "坐标系类型") self.gnssType.toNat
    number 2 1 (utf8 "自定义字段长度") self.userDataLen.toNat
    string (utf8 "自定义字段内容") self.userData self.userDataLen

def Cloud2VehInhRes.print (self : Cloud2VehInhRes) (os : List Byte) :
    Except Fault (List Byte) := do
  let os ← self.toMessageHeader.print os
  start self.toMessageHeader.length os do
    let str ← digits self.vehicleId.toList 8
    texts 8 (utf8 "车辆编号") str (cString self.vehicleId.toList)
    number 2 1 (utf8 "执行标志") self.res.toNat

namespace Veh2CloudState

/-- The loop that prints `n` pass points from position `i` on. -/
def printPassPos (passPos : List Position2D) : ℕ → ℕ → Print Unit
  | _, 0 => pure ()
  | i, n + 1 => do
    let pos ← element passPos i
    number 8 4 (utf8 "途经点" ++ decimal i ++ utf8 "-经度") pos.longitude.toNat
    number 8 4 (utf8 "途经点" ++ decimal i ++ utf8 "-纬度") pos.latitude.toNat
    printPassPos passPos (i + 1) n

def print (self : Veh2CloudState) (os : List Byte) : Except Fault (List Byte) := do
  let os ← self.toMessageHeader.print os
  start self.toMessageHeader.length os do
    let str ← digits self.vehicleId.toList 8
    texts 8 (utf8 "车辆编号") str (cString self.vehicleId.toList)
    let str ← digits self.messageId.toList 8
    let tmp := str.reverse
    texts 8 (utf8 "消息编号") tmp tmp
    number 16 8 (utf8 "GNSS时间戳") self.gnssTimestamp.toNat
    number 4 2 (utf8 "GNSS速度") self.gnssVelocity.toNat
    number 8 4 (utf8 "位置-经度") self.position.longitude.toNat
    number 8 4 (utf8 "位置-纬度") self.position.latitude.toNat
    number 8 4 (utf8 "位置-高程") self.position.elevation.toNat
    number 8 4 (utf8 "航向角") self.heading.toNat
    number 2 1 (utf8 "档位") self.gear.toNat
    number 2 4 (utf8 "方向盘转角") self.steeringAngle.toNat
    number 4 2 (utf8 "当前车速") self.velocity.toNat
    number 4 2 (utf8 "纵向加速度") self.accLon.toNat
    number 4 2 (utf8 "横向加速度") self.accLat.toNat
    number 4 2 (utf8 "垂向加速度") self.accVer.toNat
    number 4 2 (utf8 "横摆角速度") self.yawRate.toNat
    number 4 2 (utf8 "油门开度") self.accelPos.toNat
    number 4 2 (utf8 "发动机输出转速") self.engineSpeed.toNat
    number 8 4 (utf8 "发动机扭矩") self.engineTorque.toNat
    number 2 1 (utf8 "制动踏板开关") self.breakFlag.toNat
    number 4 2 (utf8 "制动踏板开度") self.breakPos.toNat
    number 4 2 (utf8 "制动主缸压力") self.breakPressure.toNat
    number 4 2 (utf8 "油耗") self.fuelConsume.toNat
    number 2 1 (utf8 "车辆驾驶模式") self.driveMode.toNat
    number 8 4 (utf8 "目的地位置-经度") self.destLocation.longitude.toNat
    number 8 4 (utf8 "目的地位置-纬度") self.destLocation.latitude.toNat
    number 2 1 (utf8 "途经点数量") self.passPosNum.toNat
    printPassPos self.passPos 0 self.passPosNum.toNat

end Veh2CloudState

namespace Veh2CloudState2

/-- The loop that prints `n` values of the wheels from position `i` on. -/
def printElements (label : List Byte) (elements : List (Word 2)) : ℕ → ℕ → Print Unit
  | _, 0 => pure ()
  | i, n + 1 => do
    let value ← element elements i
    number 4 2 (utf8 "车轮" ++ decimal i ++ label) value.toNat
    printElements label elements (i + 1) n

def print (self : Veh2CloudState2) (os : List Byte) : Except Fault (List Byte) := do
  let os ← self.toVeh2CloudState.print os
  start self.toVeh2CloudState.length os do
    number 2 1 (utf8 "ABS状态") self.absFlag.toNat
    number 2 1 (utf8 "TCS状态") self.tcsFlag.toNat
    number 2 1 (utf8 "ESP状态") self.espFlag.toNat
    number 2 1 (utf8 "LKA状态") self.lkaFlag.toNat
    number 2 1 (utf8 "ACC工作模式") self.accFlag.toNat
    number 2 1 (utf8 "FCW状态") self.fcwFlag.toNat
    number 2 1 (utf8 "LDW状态") self.ldwFlag.toNat
    number 2 1 (utf8 "AEB状态") self.aebFlag.toNat
    number 2 1 (utf8 "LCA状态") self.lcaFlag.toNat
    number 2 1 (utf8 "DMS状态") self.dmsFlag.toNat
    number 8 4 (utf8 "里程") self.mileage.toNat
    number 4 2 (utf8 "油量") self.fuelGauge.toNat
    number 4 2 (utf8 "电池剩余电量") self.soc.toNat
    number 2 1 (utf8 "电池温度") self.temperature.toNat
    number 8 4 (utf8 "预计续航里程") self.endurance.toNat
    number 4 2 (utf8 "车辆故障状态") self.vehfault.toNat
    number 4 2 (utf8 "电机转速") self.motorspeed.toNat
    number 8 4 (utf8 "电机转矩") self.motortorque.toNat
    number 2 1 (utf8 "运行模式") self.vehMode.toNat
    number 2 1 (utf8 "充电状态") self.chargeState.toNat
    number 4 2 (utf8 "动力电池实时电压") self.battVol.toNat
    number 4 2 (utf8 "动力电池实时电流") self.battCur.toNat
    number 2 1 (utf8 "喇叭状态") self.hornState.toNat
    number 2 1 (utf8 "车轮数") self.wheelNum.toNat
    printElements (utf8 "-轮速") self.wheelVelocity 0 self.wheelNum.toNat
    printElements (utf8 "-胎压") self.tirePressure 0 self.wheelNum.toNat
    number 4 2 (utf8 "车灯状态") self.lights.toNat
    number 4 2 (utf8 "车门状态") self.doors.toNat
    number 2 1 (utf8 "自定义字段长度") self.userDataLen.toNat
    string (utf8 "自定义字段内容") self.userData self.userDataLen

end Veh2CloudState2

/-- `operator<<` of the message's class. -/
def Message.print : Message → List Byte → Except Fault (List Byte)
  | .header msg => msg.print
  | .inh msg => msg.print
  | .inhRes msg => msg.print
  | .state msg => msg.print
  | .state2 msg => msg.print

end Csae295
