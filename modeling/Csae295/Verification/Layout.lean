import Csae295.Library.Format
import Csae295.Model.Inh
import Csae295.Model.State2

/-! The wire layout of every message as a format, and the decoders as its readers. -/

namespace Csae295

open Library

/-! ## Header -/

namespace MessageHeader

def format (be : Bool) : Format MessageHeader :=
  (Format.byte.seq <| (Format.word 4 be).seq <| Format.byte.seq <| Format.byte.seq <|
    (Format.word 8 be).seq Format.byte).imap
    (fun (id, dataLen, dataType, version, timestamp, ctrl) =>
      { id, dataLen, dataType, version, timestamp, ctrl })
    (fun h => (h.id, h.dataLen, h.dataType, h.version, h.timestamp, h.ctrl))
    (fun _ => rfl) (fun _ => rfl)

theorem format_read (be : Bool) : (format be).read = loadFields be := by
  simp [format, Format.imap, loadFields]

end MessageHeader

/-! ## User data -/

theorem announced_iff {len : Byte} : announced len ↔ 0 ≠ len ∧ 0xFF ≠ len := by
  rw [announced, Bool.and_eq_true, bne_iff_ne, bne_iff_ne]

theorem loadUserData_eq (old : List Byte) (len : Byte) :
    loadUserData old len = (do
      let s ← load len.toNat
      pure (if 0 ≠ len then s else old)) := by
  by_cases h : 0 ≠ len
  · simp only [loadUserData, if_pos h, bind_pure]
  · have hlen : len = 0 := (not_ne_iff.mp h).symm
    simp [loadUserData, hlen, load_zero]

/-! ## Vehicle information -/

namespace Veh2CloudInh

/-- The characters a version length byte announces. -/
def versionChars (len : Byte) : ℕ := if announced len then len.toNat else 0

/-- The wire fields behind the header: the vehicle identifier, three version strings and
the user data with their length bytes, and four flags. -/
abbrev Body := Vector Byte 8 × (Byte × List Byte) × (Byte × List Byte) × (Byte × List Byte) ×
  Byte × Byte × Byte × Byte × Byte × List Byte

def bodyFormat : Format Body :=
  (Format.array 8).seq <|
    (Format.tagged fun len => Format.chars (versionChars len)).seq <|
    (Format.tagged fun len => Format.chars (versionChars len)).seq <|
    (Format.tagged fun len => Format.chars (versionChars len)).seq <|
    Format.byte.seq <| Format.byte.seq <| Format.byte.seq <| Format.byte.seq <|
    Format.tagged fun len => Format.chars len.toNat

/-- The object after its wire fields have been read: a string that was not announced stays
what it was. -/
def assign (self : Veh2CloudInh) : Body → Veh2CloudInh
  | (vehicleId, (swVerLen, swVer), (hwVerLen, hwVer), (adVerLen, adVer), comType, posConfidence,
      timeSync, gnssType, userDataLen, userData) =>
    { self with
      vehicleId, swVerLen, hwVerLen, adVerLen, comType, posConfidence, timeSync, gnssType
      userDataLen
      swVer := if announced swVerLen then swVer else self.swVer
      hwVer := if announced hwVerLen then hwVer else self.hwVer
      adVer := if announced adVerLen then adVer else self.adVer
      userData := if 0 ≠ userDataLen then userData else self.userData }

theorem loadVersion_eq (old : List Byte) (len : Byte) :
    loadVersion old len = (do
      let s ← load (versionChars len)
      pure (if announced len then s else old)) := by
  cases h : announced len <;> simp [loadVersion, versionChars, h, load_zero]

theorem loadFields_eq (self : Veh2CloudInh) :
    self.loadFields = (do
      let body ← bodyFormat.read
      pure (self.assign body)) := by
  simp [loadFields, bodyFormat, loadVersion_eq, loadUserData_eq, assign]

end Veh2CloudInh

namespace Cloud2VehInhRes

def bodyFormat : Format (Vector Byte 8 × Byte) := (Format.array 8).seq Format.byte

def assign (self : Cloud2VehInhRes) : Vector Byte 8 × Byte → Cloud2VehInhRes
  | (vehicleId, res) => { self with vehicleId, res }

theorem loadFields_eq (self : Cloud2VehInhRes) :
    self.loadFields = (do
      let body ← bodyFormat.read
      pure (self.assign body)) := by
  simp [loadFields, bodyFormat, assign]

@[simp] theorem bodyFormat_span (bs : List Byte) : bodyFormat.span bs = 9 := rfl

end Cloud2VehInhRes

/-! ## Vehicle state -/

namespace Position2D

def format (be : Bool) : Format Position2D :=
  ((Format.word 4 be).seq (Format.word 4 be)).imap
    (fun (longitude, latitude) => { longitude, latitude })
    (fun pos => (pos.longitude, pos.latitude)) (fun _ => rfl) (fun _ => rfl)

@[simp] theorem format_span (be : Bool) (bs : List Byte) : (format be).span bs = 8 := rfl

end Position2D

namespace Veh2CloudState

/-- The wire fields behind the header, in their order on the wire. -/
abbrev Body := Vector Byte 8 × Vector Byte 8 × Word 8 × Word 2 × Word 4 × Word 4 × Word 4 ×
  Word 4 × Byte × Word 4 × Word 2 × Word 2 × Word 2 × Word 2 × Word 2 × Word 2 × Word 2 ×
  Word 4 × Byte × Word 2 × Word 2 × Word 2 × Byte × Word 4 × Word 4 × Byte × List Position2D

def bodyFormat (be : Bool) : Format Body :=
  (Format.array 8).seq <| (Format.array 8).seq <| (Format.word 8 be).seq <|
    (Format.word 2 be).seq <| (Format.word 4 be).seq <| (Format.word 4 be).seq <|
    (Format.word 4 be).seq <| (Format.word 4 be).seq <| Format.byte.seq <|
    (Format.word 4 be).seq <| (Format.word 2 be).seq <| (Format.word 2 be).seq <|
    (Format.word 2 be).seq <| (Format.word 2 be).seq <| (Format.word 2 be).seq <|
    (Format.word 2 be).seq <| (Format.word 2 be).seq <| (Format.word 4 be).seq <|
    Format.byte.seq <| (Format.word 2 be).seq <| (Format.word 2 be).seq <|
    (Format.word 2 be).seq <| Format.byte.seq <| (Format.word 4 be).seq <|
    (Format.word 4 be).seq <| Format.tagged fun n => Format.many n.toNat (Position2D.format be)

/-- The object after its wire fields have been read: pass points are appended. -/
def assign (self : Veh2CloudState) (be : Bool) : Body → Veh2CloudState
  | (vehicleId, v, gnssTimestamp, gnssVelocity, positionLongitude, positionLatitude,
      positionElevation, heading, gear, steeringAngle, velocity, accLon, accLat, accVer, yawRate,
      accelPos, engineSpeed, engineTorque, breakFlag, breakPos, breakPressure, fuelConsume,
      driveMode, destLocationLongitude, destLocationLatitude, passPosNum, passPos) =>
    { self with
      vehicleId
      messageId := if be then v.reverse else v
      gnssTimestamp, gnssVelocity
      position := ⟨positionLongitude, positionLatitude, positionElevation⟩
      heading, gear, steeringAngle, velocity, accLon, accLat, accVer, yawRate, accelPos
      engineSpeed, engineTorque, breakFlag, breakPos, breakPressure, fuelConsume, driveMode
      destLocation := ⟨destLocationLongitude, destLocationLatitude⟩
      passPosNum
      passPos := self.passPos ++ passPos }

theorem loadPassPos_eq (be : Bool) (n : ℕ) (old : List Position2D) :
    loadPassPos be n old = (do
      let passPos ← Format.readMany (Position2D.format be) n
      pure (old ++ passPos)) := by
  induction n generalizing old with
  | zero => simp [loadPassPos, Format.readMany]
  | succ n ih => simp [loadPassPos, Format.readMany, ih, Position2D.format, Format.imap]

theorem loadFields_eq (self : Veh2CloudState) (be : Bool) :
    self.loadFields be = (do
      let body ← (bodyFormat be).read
      pure (self.assign be body)) := by
  simp [loadFields, bodyFormat, loadPassPos_eq, assign]

end Veh2CloudState

/-! ## Vehicle state, version 2 -/

namespace Veh2CloudState2

/-- The fields of the second version up to the number of wheels. -/
abbrev Head := Byte × Byte × Byte × Byte × Byte × Byte × Byte × Byte × Byte × Byte × Word 4 ×
  Word 2 × Word 2 × Byte × Word 4 × Word 2 × Word 2 × Word 4 × Byte × Byte × Word 2 × Word 2 ×
  Byte

/-- The number of wheels, their velocities and their pressures. -/
abbrev Wheels := Byte × List (Word 2) × List (Word 2)

/-- The lights, the doors and the user data behind its length byte. -/
abbrev Tail := Word 2 × Word 2 × Byte × List Byte

def headFormat (be : Bool) : Format Head :=
  Format.byte.seq <| Format.byte.seq <| Format.byte.seq <| Format.byte.seq <| Format.byte.seq <|
    Format.byte.seq <| Format.byte.seq <| Format.byte.seq <| Format.byte.seq <|
    Format.byte.seq <| (Format.word 4 be).seq <| (Format.word 2 be).seq <|
    (Format.word 2 be).seq <| Format.byte.seq <| (Format.word 4 be).seq <|
    (Format.word 2 be).seq <| (Format.word 2 be).seq <| (Format.word 4 be).seq <|
    Format.byte.seq <| Format.byte.seq <| (Format.word 2 be).seq <| (Format.word 2 be).seq
    Format.byte

def wheelsFormat (be : Bool) : Format Wheels :=
  Format.tagged fun n =>
    (Format.many n.toNat (Format.word 2 be)).seq (Format.many n.toNat (Format.word 2 be))

def tailFormat (be : Bool) : Format Tail :=
  (Format.word 2 be).seq <| (Format.word 2 be).seq <|
    Format.tagged fun len => Format.chars len.toNat

def bodyFormat (be : Bool) : Format (Head × Wheels × Tail) :=
  (headFormat be).seq <| (wheelsFormat be).seq (tailFormat be)

/-- The object after the fields of the second version have been read. -/
def assign (self : Veh2CloudState2) : Head × Wheels × Tail → Veh2CloudState2
  | ((absFlag, tcsFlag, espFlag, lkaFlag, accFlag, fcwFlag, ldwFlag, aebFlag, lcaFlag, dmsFlag,
      mileage, fuelGauge, soc, temperature, endurance, vehfault, motorspeed, motortorque, vehMode,
      chargeState, battVol, battCur, hornState), (wheelNum, wheelVelocity, tirePressure),
      (lights, doors, userDataLen, userData)) =>
    { self with
      absFlag, tcsFlag, espFlag, lkaFlag, accFlag, fcwFlag, ldwFlag, aebFlag, lcaFlag, dmsFlag
      mileage, fuelGauge, soc, temperature, endurance, vehfault, motorspeed, motortorque, vehMode
      chargeState, battVol, battCur, hornState, wheelNum, wheelVelocity, tirePressure
      lights, doors, userDataLen
      userData := if 0 ≠ userDataLen then userData else self.userData }

theorem loadFields_eq (self : Veh2CloudState2) (be : Bool) :
    self.loadFields be = (do
      let head ← (headFormat be).read
      let wheelNum ← loadByte
      let wheelVelocity ← loadElements be 0 wheelNum.toNat self.wheelVelocity
      let tirePressure ← loadElements be 0 wheelNum.toNat self.tirePressure
      let tail ← (tailFormat be).read
      pure (self.assign (head, (wheelNum, wheelVelocity, tirePressure), tail))) := by
  simp [loadFields, headFormat, tailFormat, loadUserData_eq, assign]

/-- The loop replaces the elements it passes by the values it reads. -/
theorem loadElements_of_le (be : Bool) (i n : ℕ) (elements : List (Word 2))
    (h : i + n ≤ elements.length) :
    loadElements be i n elements = (do
      let values ← Format.readMany (Format.word 2 be) n
      pure (elements.take i ++ values ++ elements.drop (i + n))) := by
  induction n generalizing i elements with
  | zero => simp [loadElements, Format.readMany]
  | succ n ih =>
      have hi : i < elements.length := by omega
      have hset : ∀ value, (elements.set i value).take (i + 1) = elements.take i ++ [value] := by
        intro value
        rw [List.take_succ_eq_append_getElem (by simpa using hi), List.getElem_set_self,
          List.take_set_of_le le_rfl]
      have hdrop : ∀ value,
          (elements.set i value).drop (i + 1 + n) = elements.drop (i + (n + 1)) := by
        intro value
        rw [List.drop_set_of_lt (by omega), Nat.add_assoc, Nat.add_comm 1 n]
      have hrest : ∀ value, loadElements be (i + 1) n (elements.set i value) = _ := fun value =>
        ih (i + 1) (elements.set i value) (by rw [List.length_set]; omega)
      simp only [loadElements, assignAt, if_pos hi, pure_bind, hrest, hset, hdrop,
        Format.readMany, Format.word_read, bind_assoc, List.append_assoc, List.singleton_append]

/-- It stops when it comes to the end of the vector. -/
theorem loadElements_fails (be : Bool) (i n : ℕ) (elements : List (Word 2))
    (hi : i ≤ elements.length) (h : elements.length < i + n) :
    (loadElements be i n elements).Fails := by
  induction n generalizing i elements with
  | zero => omega
  | succ n ih =>
      refine Access.fails_bind _ fun value => ?_
      by_cases hlt : i < elements.length
      · rw [assignAt, if_pos hlt, pure_bind]
        exact ih (i + 1) _ (by rw [List.length_set]; omega) (by rw [List.length_set]; omega)
      · rw [assignAt, if_neg hlt]
        exact Access.fails_fault _

end Veh2CloudState2

end Csae295
