import Csae295.Library.Codec
import Csae295.Verification.Encode

/-! The codecs of the vehicle state messages.

Version 1 is a bijection between messages and frames in both byte orders. Version 2
writes a frame for every message, but reads it back only when there are no wheels. -/

namespace Csae295

open Library

/-! ## Vehicle state -/

namespace Veh2CloudState

/-- A fresh object that reads a message's header and fields becomes the message. -/
theorem assign_body (self storage : Veh2CloudState) (be : Bool)
    (h : self.passPosNum.toNat = self.passPos.length) :
    { fresh storage with toMessageHeader := self.toMessageHeader }.assign be (self.body be) =
      self := by
  have hpos : self.passPos.take self.passPosNum.toNat = self.passPos :=
    List.take_of_length_le h.ge
  cases be <;> simp only [assign, body, hpos, fresh, List.nil_append, if_true,
    Bool.false_eq_true, if_false, Vector.reverse_reverse]

/-- The frame is decoded from any size that covers it, whatever follows. -/
theorem fromBytes_wireBytes_of_le (self storage : Veh2CloudState) (be : Bool)
    (h : self.passPosNum.toNat = self.passPos.length) (rest : List Byte) {size : ℕ}
    (hle : 98 + 8 * self.passPos.length ≤ size)
    (hsize : size ≤ (self.wireBytes be ++ rest).length) :
    (fresh storage).fromBytes (some (self.wireBytes be ++ rest)) size be =
      .ok (self, 98 + 8 * self.passPos.length) := by
  have hguard : (fresh storage).length ≤ size := by
    rw [fresh_length]
    omega
  rw [fromBytes_of_le _ be hsize hguard]
  have hheader : MessageHeader.decode be (self.wireBytes be ++ rest) = self.toMessageHeader := by
    rw [wireBytes, List.append_assoc, MessageHeader.decode_enc]
  have hload := (bodyFormat be).loadFrom_enc
    (loadFields_eq { fresh storage with toMessageHeader := self.toMessageHeader } be)
    (self.body_valid be h.le) ((MessageHeader.format be).enc self.toMessageHeader) rest
  rw [MessageHeader.enc_length, assign_body self storage be h, body_length self be h.le,
    ← List.append_assoc, ← wireBytes] at hload
  rw [hheader, hload, h]
  congr 2
  omega

theorem fromBytes_wireBytes (self storage : Veh2CloudState) (be : Bool)
    (h : self.passPosNum.toNat = self.passPos.length) (rest : List Byte) :
    (fresh storage).fromBytes (some (self.wireBytes be ++ rest))
        (self.wireBytes be ++ rest).length be =
      .ok (self, 98 + 8 * self.passPos.length) := by
  refine self.fromBytes_wireBytes_of_le storage be h rest ?_ le_rfl
  rw [List.length_append, wireBytes_length self be h.le]
  omega

theorem roundTrips (self storage : Veh2CloudState) (be : Bool)
    (h : self.passPosNum.toNat = self.passPos.length) :
    RoundTrips self.toBytes (fresh storage).fromBytes be self (98 + 8 * self.passPos.length) := by
  refine roundTrips_of_written (self.wireBytes be) (by rw [wireBytes_length self be h.le, h]) ?_
    (self.fromBytes_wireBytes storage be h)
  intro mem hmem
  refine toBytes_of_fits self be h.le ?_ (by omega)
  rw [length_eq]
  omega

/-- What a fresh object has read are the fields it writes. -/
theorem body_assign (storage : Veh2CloudState) (header : MessageHeader) (be : Bool) {body : Body}
    (h : (bodyFormat be).Valid body) :
    let self := { fresh storage with toMessageHeader := header }.assign be body
    self.passPosNum.toNat = self.passPos.length ∧ self.body be = body := by
  obtain ⟨vehicleId, v, gnssTimestamp, gnssVelocity, positionLongitude, positionLatitude,
    positionElevation, heading, gear, steeringAngle, velocity, accLon, accLat, accVer, yawRate,
    accelPos, engineSpeed, engineTorque, breakFlag, breakPos, breakPressure, fuelConsume,
    driveMode, destLocationLongitude, destLocationLatitude, passPosNum, passPos⟩ := body
  simp only [bodyFormat, Format.seq_valid, Format.tagged_valid, Format.many_valid,
    Format.word_valid, Format.byte_valid, Format.array_valid, true_and] at h
  refine ⟨h.1.symm, ?_⟩
  have hpos : passPos.take passPosNum.toNat = passPos := List.take_of_length_le h.1.le
  cases be <;> simp only [assign, Veh2CloudState.body, fresh, List.nil_append, hpos, if_true,
    Bool.false_eq_true, if_false, Vector.reverse_reverse]

theorem reproduces (storage : Veh2CloudState) (be : Bool) {mem : List Byte}
    (h : mem.length = passPosEnd mem) :
    Reproduces (fresh storage).fromBytes toBytes be mem := by
  have hguard : 98 ≤ mem.length := by
    rw [h, passPosEnd]
    omega
  obtain ⟨body, hbody, hread, hsplit⟩ :=
    fromBytes_fresh_of_fits be le_rfl hguard h.ge
  replace hread := hread storage
  obtain ⟨hcount, hfields⟩ := body_assign storage (MessageHeader.decode be mem) be hbody
  refine ⟨_, by rw [hread, ← h], ?_⟩
  generalize hself : { fresh storage with toMessageHeader := MessageHeader.decode be mem }.assign
    be body = self at hread hcount hfields ⊢
  have hwire : self.wireBytes be = mem := by
    have hheader : self.toMessageHeader = MessageHeader.decode be mem := by
      rw [← hself]
      rfl
    rw [wireBytes, hheader, hfields]
    rw [← h, List.drop_length, List.append_nil] at hsplit
    rw [← hsplit]
    exact (MessageHeader.split_decode be (by omega)).symm
  intro out hout
  have hlen := wireBytes_length self be hcount.le
  rw [hwire] at hlen
  rw [toBytes_of_fits self be hcount.le ?_ (by omega), hwire]
  rw [length_eq]
  omega

/-- Version 1 messages and their frames correspond one to one. -/
theorem codec_bijection (storage : Veh2CloudState) (be : Bool) :
    (∀ m : Veh2CloudState, m.passPosNum.toNat = m.passPos.length →
      RoundTrips m.toBytes (fresh storage).fromBytes be m (98 + 8 * m.passPos.length)) ∧
    ∀ mem : List Byte, mem.length = 98 + 8 * (byteAt mem 97).toNat →
      Reproduces (fresh storage).fromBytes toBytes be mem :=
  ⟨fun m h => m.roundTrips storage be h, fun _ h => reproduces storage be h⟩

/-- A message with one pass point, and the frame of zeros. -/
theorem codec_bijection_one_pass_point :
    RoundTrips { (default : Veh2CloudState) with passPosNum := 1, passPos := [default] }.toBytes
        (fresh default).fromBytes true
        { (default : Veh2CloudState) with passPosNum := 1, passPos := [default] } 106 ∧
      Reproduces (fresh default).fromBytes toBytes true (List.replicate 98 0) :=
  ⟨(codec_bijection default true).1 _ rfl, (codec_bijection default true).2 _ rfl⟩

end Veh2CloudState

/-! ## Vehicle state, version 2 -/

namespace Veh2CloudState2

/-- The counts of a message match its containers. -/
structure Matched (m : Veh2CloudState2) : Prop where
  passPos : m.passPosNum.toNat = m.passPos.length
  wheelVelocity : m.wheelNum.toNat = m.wheelVelocity.length
  tirePressure : m.wheelNum.toNat = m.tirePressure.length
  userData : m.userDataLen.toNat = m.userData.length

section

variable {m : Veh2CloudState2} (h : m.Matched)

include h

theorem Matched.take_wheelVelocity : m.wheelVelocity.take m.wheelNum.toNat = m.wheelVelocity :=
  List.take_of_length_le h.wheelVelocity.ge

theorem Matched.take_tirePressure : m.tirePressure.take m.wheelNum.toNat = m.tirePressure :=
  List.take_of_length_le h.tirePressure.ge

/-- The user data is read with its terminator behind it. -/
theorem Matched.take_userData : (m.userData ++ [0]).take m.userDataLen.toNat = m.userData :=
  List.take_left' h.userData.symm

end

/-- The length of a message's frame. -/
def frameLength (m : Veh2CloudState2) : ℕ :=
  142 + 8 * m.passPos.length + 4 * m.wheelVelocity.length + m.userData.length

/-- The header and the fields of both versions on the wire. -/
def wireBytes (m : Veh2CloudState2) (be : Bool) : List Byte :=
  m.toVeh2CloudState.wireBytes be ++ (bodyFormat be).enc m.body

section

variable {m : Veh2CloudState2} (be : Bool) (h : m.Matched)

include h

theorem Matched.covered : m.Covered :=
  ⟨h.wheelVelocity.le, h.tirePressure.le, h.userData.le.trans (Nat.le_succ _)⟩

theorem wireBytes_length : (m.wireBytes be).length = m.frameLength := by
  rw [wireBytes, List.length_append, Veh2CloudState.wireBytes_length _ be h.passPos.le,
    body_length m be h.covered, frameLength, ← h.passPos, ← h.wheelVelocity, ← h.userData]
  omega

theorem toBytes_wireBytes {mem : List Byte} (hmem : m.frameLength ≤ mem.length) :
    m.toBytes (some mem) mem.length be = .ok (written (m.wireBytes be) mem) := by
  unfold frameLength at hmem
  have hbase := Veh2CloudState.toBytes_of_fits m.toVeh2CloudState be h.passPos.le
    (show m.toVeh2CloudState.length ≤ mem.length by rw [Veh2CloudState.length_eq]; omega)
    (by rw [h.passPos]; omega)
  have hlen := Veh2CloudState.wireBytes_length m.toVeh2CloudState be h.passPos.le
  rw [h.passPos] at hlen
  have htire := h.tirePressure
  rw [h.wheelVelocity] at htire
  refine toBytes_of_fits m hbase (by omega) ?_ h.covered ?_
  · rw [restLength]
    omega
  · rw [h.wheelVelocity, h.userData]
    omega

/-- What the second version's decoder of a fresh object sees behind the first version. -/
theorem fromBytes_wireBytes (storage : Veh2CloudState2) (rest : List Byte) :
    (fresh storage).fromBytes (some (m.wireBytes be ++ rest)) (m.wireBytes be ++ rest).length be =
      ({ fresh storage with toVeh2CloudState := m.toVeh2CloudState }.loadFields be).loadFrom
        (some (m.wireBytes be ++ rest)) (98 + 8 * m.passPos.length) := by
  have hbase := Veh2CloudState.fromBytes_wireBytes m.toVeh2CloudState storage.toVeh2CloudState be
    h.passPos ((bodyFormat be).enc m.body ++ rest)
  rw [← List.append_assoc, ← wireBytes] at hbase
  have hlen : (m.wireBytes be ++ rest).length = m.frameLength + rest.length := by
    rw [List.length_append, wireBytes_length be h]
  have hframe : 142 + 8 * m.passPos.length ≤ m.frameLength := by
    rw [frameLength]
    omega
  rw [fromBytes_of_base (fresh storage) hbase (by omega), fresh_restLength, if_neg (by omega)]

theorem byteAt_wheelNum (rest : List Byte) :
    byteAt (m.wireBytes be ++ rest) (98 + 8 * m.passPos.length + 38) = m.wheelNum := by
  have hpre : (m.toVeh2CloudState.wireBytes be ++ (headFormat be).enc m.head).length =
      98 + 8 * m.passPos.length + 38 := by
    rw [List.length_append, Veh2CloudState.wireBytes_length _ be h.passPos.le, h.passPos]
    simp only [headFormat, head, Format.seq_enc, Format.word_enc, Format.byte_enc,
      List.length_append, List.length_cons, List.length_nil, wordBytes_length]
  rw [← hpre, wireBytes, bodyFormat, body, Format.seq_enc, ← List.append_assoc, List.append_assoc]
  exact byteAt_append _ _ 0

end

theorem assign_body {m : Veh2CloudState2} (storage : Veh2CloudState2) (h : m.Matched) :
    { fresh storage with toVeh2CloudState := m.toVeh2CloudState }.assign m.body = m := by
  simp only [assign, body, head, fresh, h.take_wheelVelocity, h.take_tirePressure,
    h.take_userData, userData_of_length h.userData.symm]

theorem roundTrips_of_no_wheels {m : Veh2CloudState2} (storage : Veh2CloudState2) (be : Bool)
    (h : m.Matched) (hw : m.wheelNum = 0) :
    RoundTrips m.toBytes (fresh storage).fromBytes be m m.frameLength := by
  refine roundTrips_of_written (m.wireBytes be) (wireBytes_length be h)
    (fun mem hmem => toBytes_wireBytes be h hmem) ?_
  intro rest
  have hpre : (m.toVeh2CloudState.wireBytes be).length = 98 + 8 * m.passPos.length := by
    rw [Veh2CloudState.wireBytes_length _ be h.passPos.le, h.passPos]
  have hoff : 98 + 8 * m.passPos.length ≤ (m.wireBytes be ++ rest).length := by
    rw [wireBytes, List.append_assoc, List.length_append, hpre]
    exact Nat.le_add_right _ _
  have hrun := loadFields_run { fresh storage with toVeh2CloudState := m.toVeh2CloudState } be rfl
    rfl hoff (by rw [byteAt_wheelNum be h, hw])
  have hload := (bodyFormat be).loadFrom_enc
    (f := { fresh storage with toVeh2CloudState := m.toVeh2CloudState }.assign) rfl
    (body_valid m be h.covered) (m.toVeh2CloudState.wireBytes be) rest
  rw [assign_body storage h, ← List.append_assoc, ← wireBytes, ← List.length_append, ← wireBytes,
    wireBytes_length be h, hpre] at hload
  rw [fromBytes_wireBytes be h storage rest, ← hload, Access.loadFrom, Access.loadFrom,
    Option.getD_some, hrun]

/-- With wheels the decoder assigns to elements that are not there. -/
theorem not_roundTrips_of_wheels {m : Veh2CloudState2} (storage : Veh2CloudState2) (be : Bool)
    (h : m.Matched) (hw : m.wheelNum ≠ 0) :
    ¬ RoundTrips m.toBytes (fresh storage).fromBytes be m m.frameLength := by
  intro hround
  have hmem : m.frameLength ≤ (List.replicate m.frameLength (0 : Byte)).length := by simp
  have hread := hround.decodes hmem (toBytes_wireBytes be h hmem) []
  have hlen := wireBytes_length be h
  have hoff : 98 + 8 * m.passPos.length ≤ (m.wireBytes be ++ []).length := by
    rw [List.append_nil, hlen, frameLength]
    omega
  obtain ⟨e, he⟩ := loadFields_run_error
    { fresh storage with toVeh2CloudState := m.toVeh2CloudState } be rfl hoff
    (by rw [byteAt_wheelNum be h]; exact hw)
  rw [fromBytes_wireBytes be h storage, Access.loadFrom, Option.getD_some, he] at hread
  cases hread

/-- A message whose counts match its containers comes back exactly when it has no wheels. -/
theorem codec_roundTrips_iff (m storage : Veh2CloudState2) (be : Bool) (h : m.Matched) :
    RoundTrips m.toBytes (fresh storage).fromBytes be m m.frameLength ↔ m.wheelNum = 0 := by
  constructor
  · intro hround
    by_contra hw
    exact not_roundTrips_of_wheels storage be h hw hround
  · exact roundTrips_of_no_wheels storage be h

/-- A moving vehicle with two pass points and user data. -/
theorem codec_roundTrips_moving :
    let m := new 2 0x0102030405060708 3 [0x56, 0x31] [1, 2, 3] 4 500 ⟨116, 40, 50⟩ 90 1 0x10000000
      600 7 8 9 10 11 1200 13 1 14 15 16 2 ⟨117, 41⟩ [⟨118, 42⟩, ⟨119, 43⟩] 1 0 1 0 1 0 1 0 1 0
      20000 21 22 23 24 25 26 27 1 2 28 29 1 [] [] 30 31 [0x78, 0x79, 0x7A]
    RoundTrips m.toBytes (fresh default).fromBytes false m 161 := by
  intro m
  exact (codec_roundTrips_iff m default false ⟨rfl, rfl, rfl, rfl⟩).mpr rfl

/-- A message with one wheel. -/
theorem codec_loses_wheels :
    ¬ ∀ (m storage : Veh2CloudState2) (be : Bool), m.Matched →
      RoundTrips m.toBytes (fresh storage).fromBytes be m m.frameLength := by
  intro hall
  have hmatched : Matched { (default : Veh2CloudState2) with
      wheelNum := 1, wheelVelocity := [0], tirePressure := [0] } := ⟨rfl, rfl, rfl, rfl⟩
  exact not_roundTrips_of_wheels default true hmatched (by decide) (hall _ default true hmatched)

end Veh2CloudState2

end Csae295
