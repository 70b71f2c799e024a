import Csae295.Model.Packer
import Csae295.Verification.InhCodec

/-! What `pack` makes of messages built by their field constructors.

The buffer has the length the constructor announced, the guard of the encoder asks for the
length of the object, and the loops write what the count bytes say. -/

namespace Csae295

open Library

namespace Packer

/-- The buffer `pack` returns for the bytes an encoder has written. -/
def frame (bytes : List Byte) : MessageBuffer :=
  { size := BitVec.ofNat (8 * 4) bytes.length, data := bytes }

section

variable {header : MessageHeader} {toBytes : Encoder} (stack : (n : ℕ) → Vector Byte n)

theorem pack_of_written {bytes : List Byte}
    (hto : ∀ mem : List Byte, mem.length = 16 + header.dataLen.toNat →
      toBytes (some mem) mem.length true = .ok (written bytes mem)) :
    pack header toBytes stack = .ok (frame bytes) := by
  have hlen : (stack (16 + header.dataLen.toNat)).toList.length = 16 + header.dataLen.toNat :=
    Vector.length_toList
  have hwritten := hto _ hlen
  rw [hlen] at hwritten
  have hload := loadFrom_written bytes (stack (16 + header.dataLen.toNat)).toList
  simp only [pack, MessageHeader.headerLength, MessageHeader.dataLength, MessageHeader.sizeof,
    hwritten, written, ok_bind] at hload ⊢
  simp only [hload, ok_bind, pure_eq_ok, frame]

theorem pack_of_error
    (herr : ∀ mem : List Byte, mem.length = 16 + header.dataLen.toNat →
      ∃ e, toBytes (some mem) mem.length true = .error e) :
    ∃ e, pack header toBytes stack = .error e := by
  have hlen : (stack (16 + header.dataLen.toNat)).toList.length = 16 + header.dataLen.toNat :=
    Vector.length_toList
  obtain ⟨e, he⟩ := herr _ hlen
  rw [hlen] at he
  exact ⟨e, by simp only [pack, MessageHeader.headerLength, MessageHeader.dataLength,
    MessageHeader.sizeof, he, error_bind]⟩

end

end Packer

/-! ## Vehicle information -/

namespace Veh2CloudInh

/-- The messages the field constructor builds. -/
inductive Constructed : Veh2CloudInh → Prop where
  | new (version : Byte) (timestamp : Word 8) (ctrl : Byte)
      (vehicleId swVer hwVer adVer : List Byte)
      (comType posConfidence timeSync gnssType : Byte) (userData : List Byte) :
      Constructed (Veh2CloudInh.new version timestamp ctrl vehicleId swVer hwVer adVer comType
        posConfidence timeSync gnssType userData)

theorem Constructed.built {m : Veh2CloudInh} (h : m.Constructed) : m.Built := by
  cases h
  apply new_built

section

variable {m : Veh2CloudInh} (hbuilt : m.Built) (stack : (n : ℕ) → Vector Byte n)

include hbuilt

/-- A string that is too long leaves nothing but the header. -/
theorem pack_of_overlong (h : m.Overlong) :
    Packer.pack m.toMessageHeader m.toBytes stack =
      .ok (Packer.frame ((MessageHeader.format true).enc m.toMessageHeader)) := by
  apply Packer.pack_of_written stack
  intro mem hmem
  have hlt : mem.length < m.length := by
    have hsw := stringLen_toNat_le m.swVer
    have hhw := stringLen_toNat_le m.hwVer
    have had := stringLen_toNat_le m.adVer
    have huser := stringLen_toNat_le m.userData
    rw [hmem, hbuilt.dataLen, hbuilt.swVerLen, hbuilt.hwVerLen, hbuilt.adVerLen,
      hbuilt.userDataLen, length_eq]
    unfold Overlong at h
    omega
  exact toBytes_of_lt m true (by omega) hlt

variable (hshort : ¬ m.Overlong)

include hshort

/-- Otherwise the constructor announces the length of the object. -/
theorem Built.dataLen_eq : 16 + m.dataLen.toNat = m.length := by
  unfold Overlong at hshort
  rw [hbuilt.dataLen, hbuilt.swVerLen, hbuilt.hwVerLen, hbuilt.adVerLen, hbuilt.userDataLen,
    stringLen_toNat (by omega), stringLen_toNat (by omega), stringLen_toNat (by omega),
    stringLen_toNat (by omega), length_eq]
  omega

theorem pack_of_covered (hcovered : m.Covered) :
    Packer.pack m.toMessageHeader m.toBytes stack = .ok (Packer.frame (m.wireBytes true)) := by
  apply Packer.pack_of_written stack
  intro mem hmem
  rw [hbuilt.dataLen_eq hshort] at hmem
  have hlen := wireBytes_length m true (hbuilt.body_valid hshort) hcovered
  exact toBytes_of_fits m true hmem.ge hcovered (hlen.trans hmem.symm).le

theorem pack_of_not_covered (h : ¬ m.Covered) :
    ∃ e, Packer.pack m.toMessageHeader m.toBytes stack = .error e := by
  apply Packer.pack_of_error stack
  intro mem hmem
  rw [hbuilt.dataLen_eq hshort] at hmem
  exact toBytes_of_not_fits m true hmem.ge fun hcovered => h hcovered.1

end

end Veh2CloudInh

/-! ## Vehicle state -/

namespace Veh2CloudState

/-- What the field constructor establishes: the pass points are counted by elements in the
data length and modulo 256 in the count byte. -/
structure Built (m : Veh2CloudState) : Prop where
  dataLen : m.dataLen.toNat = (82 + m.passPos.length) % 2 ^ 32
  passPosNum : m.passPosNum.toNat = m.passPos.length % 256

/-- The messages the field constructor builds. -/
inductive Constructed : Veh2CloudState → Prop where
  | new (version : Byte) (timestamp : Word 8) (ctrl : Byte) (vehicleId messageId : List Byte)
      (gnssTimestamp : Word 8) (gnssVelocity : Word 2) (position : Position) (heading : Word 4)
      (gear : Byte) (steeringAngle : Word 4)
      (velocity accLon accLat accVer yawRate accelPos engineSpeed : Word 2)
      (engineTorque : Word 4) (breakFlag : Byte) (breakPos breakPressure fuelConsume : Word 2)
      (driveMode : Byte) (destLocation : Position2D) (passPos : List Position2D) :
      Constructed (Veh2CloudState.new version timestamp ctrl vehicleId messageId gnssTimestamp
        gnssVelocity position heading gear steeringAngle velocity accLon accLat accVer yawRate
        accelPos engineSpeed engineTorque breakFlag breakPos breakPressure fuelConsume driveMode
        destLocation passPos)

theorem Constructed.built {m : Veh2CloudState} (h : m.Constructed) : m.Built := by
  cases h
  exact ⟨BitVec.toNat_ofNat _ _, BitVec.toNat_ofNat _ _⟩

section

variable {m : Veh2CloudState} (hbuilt : m.Built) (stack : (n : ℕ) → Vector Byte n)

theorem pack_of_wrapped (h : m.dataLen.toNat < 82 + m.passPos.length) :
    Packer.pack m.toMessageHeader m.toBytes stack =
      .ok (Packer.frame ((MessageHeader.format true).enc m.toMessageHeader)) := by
  apply Packer.pack_of_written stack
  intro mem hmem
  apply toBytes_of_lt m true (by omega)
  rw [length_eq]
  omega

include hbuilt

theorem Built.covered : m.passPosNum.toNat ≤ m.passPos.length :=
  hbuilt.passPosNum.trans_le (Nat.mod_le _ _)

theorem pack_of_fits (hguard : 82 + m.passPos.length ≤ m.dataLen.toNat)
    (hfits : 82 + 8 * m.passPosNum.toNat ≤ m.dataLen.toNat) :
    Packer.pack m.toMessageHeader m.toBytes stack = .ok (Packer.frame (m.wireBytes true)) := by
  apply Packer.pack_of_written stack
  intro mem hmem
  refine toBytes_of_fits m true hbuilt.covered ?_ (by omega)
  rw [length_eq]
  omega

theorem pack_of_not_fits (hguard : 82 + m.passPos.length ≤ m.dataLen.toNat)
    (h : m.dataLen.toNat < 82 + 8 * m.passPosNum.toNat) :
    ∃ e, Packer.pack m.toMessageHeader m.toBytes stack = .error e := by
  apply Packer.pack_of_error stack
  intro mem hmem
  refine ⟨.write, toBytes_of_not_fits m true hbuilt.covered ?_ (by omega)⟩
  rw [length_eq]
  omega

end

end Veh2CloudState

/-! ## Vehicle state, version 2 -/

namespace Veh2CloudState2

/-- What the field constructor establishes. -/
structure Built (m : Veh2CloudState2) : Prop where
  dataLen : m.dataLen.toNat =
    (126 + m.passPos.length + m.wheelVelocity.length + m.tirePressure.length +
      m.userData.length) % 2 ^ 32
  passPosNum : m.passPosNum.toNat = m.passPos.length % 256
  wheelNum : m.wheelNum.toNat = m.wheelVelocity.length % 256
  userDataLen : m.userDataLen.toNat = m.userData.length % 256

/-- The messages the field constructor builds. -/
inductive Constructed : Veh2CloudState2 → Prop where
  | new (version : Byte) (timestamp : Word 8) (ctrl : Byte) (vehicleId messageId : List Byte)
      (gnssTimestamp : Word 8) (gnssVelocity : Word 2) (position : Position) (heading : Word 4)
      (gear : Byte) (steeringAngle : Word 4)
      (velocity accLon accLat accVer yawRate accelPos engineSpeed : Word 2)
      (engineTorque : Word 4) (breakFlag : Byte) (breakPos breakPressure fuelConsume : Word 2)
      (driveMode : Byte) (destLocation : Position2D) (passPos : List Position2D)
      (absFlag tcsFlag espFlag lkaFlag accFlag fcwFlag ldwFlag aebFlag lcaFlag dmsFlag : Byte)
      (mileage : Word 4) (fuelGauge soc : Word 2) (temperature : Byte) (endurance : Word 4)
      (vehfault motorspeed : Word 2) (motortorque : Word 4) (vehMode chargeState : Byte)
      (battVol battCur : Word 2) (hornState : Byte) (wheelVelocity tirePressure : List (Word 2))
      (lights doors : Word 2) (userdefinedData : List Byte) :
      Constructed (Veh2CloudState2.new version timestamp ctrl vehicleId messageId gnssTimestamp
        gnssVelocity position heading gear steeringAngle velocity accLon accLat accVer yawRate
        accelPos engineSpeed engineTorque breakFlag breakPos breakPressure fuelConsume driveMode
        destLocation passPos absFlag tcsFlag espFlag lkaFlag accFlag fcwFlag ldwFlag aebFlag
        lcaFlag dmsFlag mileage fuelGauge soc temperature endurance vehfault motorspeed
        motortorque vehMode chargeState battVol battCur hornState wheelVelocity tirePressure
        lights doors userdefinedData)

theorem Constructed.built {m : Veh2CloudState2} (h : m.Constructed) : m.Built := by
  cases h
  refine ⟨?_, BitVec.toNat_ofNat _ _, BitVec.toNat_ofNat _ _, BitVec.toNat_ofNat _ _⟩
  simp only [Veh2CloudState2.new, Veh2CloudState.new, BitVec.toNat_ofNat, sizeof, Veh2CloudState.sizeof,
    MessageHeader.sizeof, sizeofVector, sizeofString]
  congr 1
  omega

/-- How far behind the header the second version starts: the first version is left out
when its guard does not pass. -/
def start (m : Veh2CloudState2) : ℕ :=
  if m.dataLen.toNat < 82 + m.passPos.length then 0 else 82 + 8 * m.passPosNum.toNat

/-- What the first version's encoder writes. -/
def baseBytes (m : Veh2CloudState2) : List Byte :=
  if m.dataLen.toNat < 82 + m.passPos.length then
    (MessageHeader.format true).enc m.toMessageHeader
  else m.toVeh2CloudState.wireBytes true

section

variable {m : Veh2CloudState2} (hbuilt : m.Built) (stack : (n : ℕ) → Vector Byte n)

include hbuilt

theorem Built.passPos_covered : m.passPosNum.toNat ≤ m.passPos.length :=
  hbuilt.passPosNum.trans_le (Nat.mod_le _ _)

theorem Built.covered_iff : m.Covered ↔ m.wheelNum.toNat ≤ m.tirePressure.length := by
  have hwheel : m.wheelNum.toNat ≤ m.wheelVelocity.length :=
    hbuilt.wheelNum.trans_le (Nat.mod_le _ _)
  have huser : m.userDataLen.toNat ≤ m.userData.length + 1 :=
    (hbuilt.userDataLen.trans_le (Nat.mod_le _ _)).trans (Nat.le_succ _)
  simp only [Covered, hwheel, huser, true_and, and_true]

theorem baseBytes_length : m.baseBytes.length = 16 + m.start := by
  unfold baseBytes start
  split
  · rw [MessageHeader.enc_length]
  · rw [Veh2CloudState.wireBytes_length _ true hbuilt.passPos_covered]
    omega

theorem base_toBytes (hstart : m.start ≤ m.dataLen.toNat) {mem : List Byte}
    (hmem : mem.length = 16 + m.dataLen.toNat) :
    m.toVeh2CloudState.toBytes (some mem) mem.length true = .ok (written m.baseBytes mem) := by
  unfold start at hstart
  unfold baseBytes
  have hlength := Veh2CloudState.length_eq m.toVeh2CloudState
  split
  · exact Veh2CloudState.toBytes_of_lt _ true (by omega) (by omega)
  · next hguard =>
      rw [if_neg hguard] at hstart
      exact Veh2CloudState.toBytes_of_fits _ true hbuilt.passPos_covered (by omega) (by omega)

theorem pack_of_base_error (hstart : m.dataLen.toNat < m.start) :
    ∃ e, Packer.pack m.toMessageHeader m.toBytes stack = .error e := by
  apply Packer.pack_of_error stack
  intro mem hmem
  unfold start at hstart
  have hlength := Veh2CloudState.length_eq m.toVeh2CloudState
  split at hstart
  · omega
  · exact ⟨.write, toBytes_of_base_error m (Veh2CloudState.toBytes_of_not_fits _ true
      hbuilt.passPos_covered (by omega) (by omega))⟩

variable (hstart : m.start ≤ m.dataLen.toNat)

include hstart

theorem pack_of_lt (h : m.dataLen.toNat < m.start + m.restLength) :
    Packer.pack m.toMessageHeader m.toBytes stack = .ok (Packer.frame m.baseBytes) := by
  apply Packer.pack_of_written stack
  intro mem hmem
  have hlen := baseBytes_length hbuilt
  exact toBytes_of_lt m (base_toBytes hbuilt hstart hmem) (by omega) (by omega)

variable (hrest : m.start + m.restLength ≤ m.dataLen.toNat)

include hrest

theorem pack_of_fits (hcovered : m.Covered)
    (hfits : m.start + 44 + 4 * m.wheelNum.toNat + m.userDataLen.toNat ≤ m.dataLen.toNat) :
    Packer.pack m.toMessageHeader m.toBytes stack =
      .ok (Packer.frame (m.baseBytes ++ (bodyFormat true).enc m.body)) := by
  apply Packer.pack_of_written stack
  intro mem hmem
  have hlen := baseBytes_length hbuilt
  exact toBytes_of_fits m (base_toBytes hbuilt hstart hmem) (by omega) (by omega) hcovered
    (by omega)

theorem pack_of_not_fits
    (h : ¬ (m.Covered ∧
      m.start + 44 + 4 * m.wheelNum.toNat + m.userDataLen.toNat ≤ m.dataLen.toNat)) :
    ∃ e, Packer.pack m.toMessageHeader m.toBytes stack = .error e := by
  apply Packer.pack_of_error stack
  intro mem hmem
  have hlen := baseBytes_length hbuilt
  exact toBytes_of_not_fits m (base_toBytes hbuilt hstart hmem) (by omega) (by omega)
    fun hfits => h ⟨hfits.1, by omega⟩

end

end Veh2CloudState2

end Csae295
