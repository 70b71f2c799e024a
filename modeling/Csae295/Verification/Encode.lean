import Csae295.Verification.Decode

/-! The bytes every encoder stores, and when it has an element too few to store. -/

namespace Csae295

open Library

theorem storeWord_eq {n : ℕ} (be : Bool) (x : Word n) :
    storeWord be x = store (wordBytes be x) := rfl

theorem charsOf_of_le {s : List Byte} {n : ℕ} (h : n ≤ s.length + 1) :
    charsOf s n = pure ((s ++ [0]).take n) := if_pos h

theorem charsOf_fails {s : List Byte} {n : ℕ} (h : ¬ n ≤ s.length + 1) :
    (charsOf s n).Fails := by
  rw [charsOf, if_neg h]
  exact Access.fails_fault _

theorem storeUserData_of_le {s : List Byte} {len : Byte} (h : len.toNat ≤ s.length + 1) :
    storeUserData s len = store ((s ++ [0]).take len.toNat) := by
  by_cases hlen : 0 ≠ len
  · rw [storeUserData, if_pos hlen, charsOf_of_le h, pure_bind]
  · have hzero : len = 0 := (not_ne_iff.mp hlen).symm
    simp [storeUserData, hzero]

theorem storeUserData_fails {s : List Byte} {len : Byte} (h : ¬ len.toNat ≤ s.length + 1) :
    (storeUserData s len).Fails := by
  have hlen : 0 ≠ len := by
    rintro rfl
    exact h (Nat.zero_le _)
  rw [storeUserData, if_pos hlen]
  exact (charsOf_fails h).bind _

/-- User data that is not announced is empty, as in a fresh object. -/
theorem userData_of_length {s : List Byte} {len : Byte} (h : s.length = len.toNat) :
    (if 0 ≠ len then s else []) = s := by
  split
  · rfl
  · next hzero =>
      rw [← not_ne_iff.mp hzero] at h
      exact (List.eq_nil_of_length_eq_zero h).symm

/-! ## Header -/

namespace MessageHeader

theorem storeFields_eq (self : MessageHeader) (be : Bool) :
    self.storeFields be = store ((format be).enc self) := by
  simp only [storeFields, storeWord_eq, store_store]
  rfl

@[simp] theorem enc_length (self : MessageHeader) (be : Bool) :
    ((format be).enc self).length = 16 := by
  simp [format, Format.imap]

theorem format_valid (self : MessageHeader) (be : Bool) : (format be).Valid self :=
  ⟨trivial, trivial, trivial, trivial, trivial, trivial⟩

theorem decode_enc (self : MessageHeader) (be : Bool) (rest : List Byte) :
    decode be ((format be).enc self ++ rest) = self := by
  have hread := (format be).read_enc self [] rest (format_valid self be)
  have hrun := loadFields_run be (show 16 ≤ ((format be).enc self ++ rest).length by
    rw [List.length_append, enc_length]; omega)
  rw [format_read, List.nil_append, List.length_nil, hrun] at hread
  exact congrArg Prod.fst (Except.ok.inj hread)

/-- The bytes that `unpack` looks at before it knows the class. -/
theorem byteAt_enc (self : MessageHeader) (rest : List Byte) :
    byteAt ((format true).enc self ++ rest) 0 = self.id ∧
      byteAt ((format true).enc self ++ rest) 5 = self.dataType ∧
      byteAt ((format true).enc self ++ rest) 6 = self.version := by
  have hid : (decode true ((format true).enc self ++ rest)).id = self.id := by rw [decode_enc]
  have htype : (decode true ((format true).enc self ++ rest)).dataType = self.dataType := by
    rw [decode_enc]
  have hversion : (decode true ((format true).enc self ++ rest)).version = self.version := by
    rw [decode_enc]
  exact ⟨hid, htype, hversion⟩

theorem toBytes_of_le (self : MessageHeader) {mem : List Byte} (be : Bool)
    (h : 16 ≤ mem.length) :
    self.toBytes (some mem) mem.length be = .ok (written ((format be).enc self) mem) := by
  have hlt : ¬ mem.length < 16 := by omega
  have hstore : (store ((format be).enc self)).storeTo (some mem) 0 = _ :=
    storeTo_written [] _ mem (by simpa using h)
  simp only [toBytes, length, sizeof, Option.isNone_some, Bool.false_eq_true, if_false, if_neg hlt,
    storeFields_eq]
  exact hstore

end MessageHeader

/-! ## Vehicle information -/

namespace Veh2CloudInh

/-- The characters that go out behind a length byte. -/
def versionBytes (s : List Byte) (len : Byte) : List Byte := (s ++ [0]).take (versionChars len)

theorem storeVersion_of_le {s : List Byte} {len : Byte}
    (h : versionChars len ≤ s.length + 1) : storeVersion s len = store (versionBytes s len) := by
  unfold storeVersion versionBytes
  unfold versionChars at h ⊢
  cases hlen : announced len with
  | true =>
      simp only [hlen, if_true] at h
      simp only [if_true, charsOf_of_le h, pure_bind]
  | false => simp

theorem storeVersion_fails {s : List Byte} {len : Byte}
    (h : ¬ versionChars len ≤ s.length + 1) : (storeVersion s len).Fails := by
  unfold storeVersion
  unfold versionChars at h
  cases hlen : announced len with
  | true =>
      simp only [hlen, if_true] at h
      simp only [if_true]
      exact (charsOf_fails h).bind _
  | false =>
      simp only [hlen] at h
      exact absurd (Nat.zero_le _) h

/-- What the encoder stores behind the header. -/
def fieldBytes (self : Veh2CloudInh) : List Byte :=
  self.vehicleId.toList ++ ([self.swVerLen] ++ (versionBytes self.swVer self.swVerLen ++
    ([self.swVerLen] ++ (versionBytes self.swVer self.hwVerLen ++
    ([self.adVerLen] ++ (versionBytes self.swVer self.adVerLen ++
    ([self.comType] ++ ([self.posConfidence] ++ ([self.timeSync] ++ ([self.gnssType] ++
    ([self.userDataLen] ++ (self.userData ++ [0]).take self.userDataLen.toNat)))))))))))

/-- The software version and the user data have the characters the length bytes announce. -/
def Covered (self : Veh2CloudInh) : Prop :=
  versionChars self.swVerLen ≤ self.swVer.length + 1 ∧
    versionChars self.hwVerLen ≤ self.swVer.length + 1 ∧
    versionChars self.adVerLen ≤ self.swVer.length + 1 ∧
    self.userDataLen.toNat ≤ self.userData.length + 1

theorem storeFields_eq (self : Veh2CloudInh) (h : self.Covered) :
    self.storeFields = store self.fieldBytes := by
  obtain ⟨hsw, hhw, had, huser⟩ := h
  simp only [storeFields, storeVersion_of_le hsw, storeVersion_of_le hhw, storeVersion_of_le had,
    storeUserData_of_le huser, store_store]
  rfl

theorem storeFields_fails (self : Veh2CloudInh) (h : ¬ self.Covered) :
    self.storeFields.Fails := by
  unfold storeFields
  refine Access.fails_bind _ fun _ => Access.fails_bind _ fun _ => ?_
  by_cases hsw : versionChars self.swVerLen ≤ self.swVer.length + 1
  swap
  · exact (storeVersion_fails hsw).bind _
  refine Access.fails_bind _ fun _ => Access.fails_bind _ fun _ => ?_
  by_cases hhw : versionChars self.hwVerLen ≤ self.swVer.length + 1
  swap
  · exact (storeVersion_fails hhw).bind _
  refine Access.fails_bind _ fun _ => Access.fails_bind _ fun _ => ?_
  by_cases had : versionChars self.adVerLen ≤ self.swVer.length + 1
  swap
  · exact (storeVersion_fails had).bind _
  refine Access.fails_bind _ fun _ => Access.fails_bind _ fun _ => Access.fails_bind _ fun _ =>
    Access.fails_bind _ fun _ => Access.fails_bind _ fun _ => Access.fails_bind _ fun _ => ?_
  exact storeUserData_fails fun huser => h ⟨hsw, hhw, had, huser⟩

theorem fieldBytes_length (self : Veh2CloudInh) (h : self.Covered) :
    self.fieldBytes.length = 16 + versionChars self.swVerLen + versionChars self.hwVerLen +
      versionChars self.adVerLen + self.userDataLen.toNat := by
  obtain ⟨hsw, hhw, had, huser⟩ := h
  simp only [fieldBytes, versionBytes, List.length_append, List.length_take, List.length_cons,
    List.length_nil, Vector.length_toList]
  omega

section

variable (self : Veh2CloudInh) {mem : List Byte} (be : Bool)

theorem toBytes_of_lt (h : 16 ≤ mem.length) (hlt : mem.length < self.length) :
    self.toBytes (some mem) mem.length be =
      .ok (written ((MessageHeader.format be).enc self.toMessageHeader) mem) := by
  have hlen : mem.length - 16 < self.length - 16 := by omega
  simp only [length] at hlen
  simp [toBytes, MessageHeader.toBytes_of_le _ be h, written, remaining_of_le h,
    MessageHeader.length, MessageHeader.sizeof, length, hlen]

theorem toBytes_of_le (hle : self.length ≤ mem.length) :
    self.toBytes (some mem) mem.length be =
      self.storeFields.storeTo
        (some ((MessageHeader.format be).enc self.toMessageHeader ++ mem.drop 16)) 16 := by
  have h : 16 ≤ mem.length := by
    rw [length_eq] at hle
    omega
  have hlen : ¬ mem.length - 16 < self.length - 16 := by omega
  simp only [length] at hlen
  simp [toBytes, MessageHeader.toBytes_of_le _ be h, written, remaining_of_le h,
    MessageHeader.length, MessageHeader.sizeof, length, hlen]

/-- The header and the fields of a message on the wire. -/
def wireBytes : List Byte :=
  (MessageHeader.format be).enc self.toMessageHeader ++ self.fieldBytes

theorem toBytes_of_fits (hle : self.length ≤ mem.length) (hcovered : self.Covered)
    (hfits : (self.wireBytes be).length ≤ mem.length) :
    self.toBytes (some mem) mem.length be = .ok (written (self.wireBytes be) mem) := by
  have hstore := storeTo_written _ _ mem hfits
  rw [MessageHeader.enc_length] at hstore
  rw [toBytes_of_le self be hle, storeFields_eq self hcovered, hstore, wireBytes]

theorem toBytes_of_not_fits (hle : self.length ≤ mem.length)
    (h : ¬ (self.Covered ∧ (self.wireBytes be).length ≤ mem.length)) :
    ∃ e, self.toBytes (some mem) mem.length be = .error e := by
  rw [toBytes_of_le self be hle]
  by_cases hcovered : self.Covered
  · have hlt : mem.length < (self.wireBytes be).length :=
      Nat.lt_of_not_ge fun hfits => h ⟨hcovered, hfits⟩
    have hheader : 16 ≤ mem.length := by
      rw [length_eq] at hle
      omega
    have herr := storeTo_written_error _ _ mem (by rwa [MessageHeader.enc_length]) hlt
    rw [MessageHeader.enc_length] at herr
    exact ⟨.write, by rw [storeFields_eq self hcovered, herr]⟩
  · exact (storeFields_fails self hcovered).storeTo _ _

end

end Veh2CloudInh

namespace Cloud2VehInhRes

def body (self : Cloud2VehInhRes) : Vector Byte 8 × Byte := (self.vehicleId, self.res)

theorem storeFields_eq (self : Cloud2VehInhRes) :
    self.storeFields = store (bodyFormat.enc self.body) := by
  simp only [storeFields, store_store]
  rfl

/-- The header is written in network order whatever order was asked for. -/
def wireBytes (self : Cloud2VehInhRes) : List Byte :=
  (MessageHeader.format true).enc self.toMessageHeader ++ bodyFormat.enc self.body

theorem wireBytes_length (self : Cloud2VehInhRes) : self.wireBytes.length = 25 := by
  simp [wireBytes, bodyFormat, body]

theorem toBytes_of_le (self : Cloud2VehInhRes) {mem : List Byte} (be : Bool)
    (hdata : 16 + self.dataLen.toNat ≤ mem.length) (h : 25 ≤ mem.length) :
    self.toBytes (some mem) mem.length be = .ok (written self.wireBytes mem) := by
  have hguard : ¬ mem.length - 16 < self.dataLen.toNat := by omega
  have hstore := storeTo_written ((MessageHeader.format true).enc self.toMessageHeader)
    (bodyFormat.enc self.body) mem (by rw [← wireBytes, wireBytes_length]; exact h)
  rw [MessageHeader.enc_length, ← storeFields_eq] at hstore
  simp [toBytes, MessageHeader.toBytes_of_le _ true (show 16 ≤ mem.length by omega), written,
    remaining_of_le (show 16 ≤ mem.length by omega), hguard, hstore, wireBytes]

end Cloud2VehInhRes

/-! ## Vehicle state -/

namespace Veh2CloudState

/-- The wire fields of a message. -/
def body (self : Veh2CloudState) (be : Bool) : Body :=
  (self.vehicleId, if be then self.messageId.reverse else self.messageId, self.gnssTimestamp,
    self.gnssVelocity, self.position.longitude, self.position.latitude, self.position.elevation,
    self.heading, self.gear, self.steeringAngle, self.velocity, self.accLon, self.accLat,
    self.accVer, self.yawRate, self.accelPos, self.engineSpeed, self.engineTorque, self.breakFlag,
    self.breakPos, self.breakPressure, self.fuelConsume, self.driveMode,
    self.destLocation.longitude, self.destLocation.latitude, self.passPosNum,
    self.passPos.take self.passPosNum.toNat)

theorem body_valid (self : Veh2CloudState) (be : Bool)
    (h : self.passPosNum.toNat ≤ self.passPos.length) :
    (bodyFormat be).Valid (self.body be) := by
  have hpos : ∀ pos, (Position2D.format be).Valid pos := fun _ => ⟨trivial, trivial⟩
  simp only [bodyFormat, body, Format.seq_valid, Format.tagged_valid, Format.many_valid,
    Format.word_valid, Format.byte_valid, Format.array_valid, true_and, hpos, implies_true,
    and_true, List.length_take]
  omega

/-- The loop stores the encodings of the elements it passes. -/
theorem storePassPos_of_le (be : Bool) (passPos : List Position2D) (i n : ℕ)
    (h : i + n ≤ passPos.length) :
    storePassPos be passPos i n =
      store (((passPos.drop i).take n).flatMap (Position2D.format be).enc) := by
  induction n generalizing i with
  | zero => simp [storePassPos]
  | succ n ih =>
      have hi : i < passPos.length := by omega
      rw [storePassPos, elementAt, List.getElem?_eq_getElem hi, ih (i + 1) (by omega),
        List.drop_eq_getElem_cons hi, List.take_succ_cons, List.flatMap_cons]
      simp only [pure_bind, storeWord_eq, store_store]
      rfl

theorem storeFields_eq (self : Veh2CloudState) (be : Bool)
    (h : self.passPosNum.toNat ≤ self.passPos.length) :
    self.storeFields be = store ((bodyFormat be).enc (self.body be)) := by
  rw [storeFields, storePassPos_of_le be _ _ _ (by omega), List.drop_zero]
  simp only [storeWord_eq, store_store]
  cases be <;> rfl

theorem body_length (self : Veh2CloudState) (be : Bool)
    (h : self.passPosNum.toNat ≤ self.passPos.length) :
    ((bodyFormat be).enc (self.body be)).length = 82 + 8 * self.passPosNum.toNat := by
  have hpos : ∀ pos, ((Position2D.format be).enc pos).length = 8 := by
    intro pos
    simp [Position2D.format, Format.imap]
  simp only [bodyFormat, body, Format.seq_enc, Format.tagged_enc, Format.many_enc,
    Format.word_enc, Format.byte_enc, Format.array_enc, List.length_append, List.length_cons,
    List.length_nil, Vector.length_toList, wordBytes_length,
    Format.length_flatMap_of_const hpos, List.length_take]
  omega

section

variable (self : Veh2CloudState) {mem : List Byte} (be : Bool)

theorem toBytes_of_lt (h : 16 ≤ mem.length) (hlt : mem.length < self.length) :
    self.toBytes (some mem) mem.length be =
      .ok (written ((MessageHeader.format be).enc self.toMessageHeader) mem) := by
  have hlen : mem.length - 16 < self.length - 16 := by omega
  simp only [length] at hlen
  simp [toBytes, MessageHeader.toBytes_of_le _ be h, written, remaining_of_le h,
    MessageHeader.length, MessageHeader.sizeof, length, hlen]

theorem toBytes_of_le (hle : self.length ≤ mem.length) :
    self.toBytes (some mem) mem.length be =
      (self.storeFields be).storeTo
        (some ((MessageHeader.format be).enc self.toMessageHeader ++ mem.drop 16)) 16 := by
  have h : 16 ≤ mem.length := by
    rw [length_eq] at hle
    omega
  have hlen : ¬ mem.length - 16 < self.length - 16 := by omega
  simp only [length] at hlen
  simp [toBytes, MessageHeader.toBytes_of_le _ be h, written, remaining_of_le h,
    MessageHeader.length, MessageHeader.sizeof, length, hlen]

/-- The header and the fields of a message on the wire. -/
def wireBytes : List Byte :=
  (MessageHeader.format be).enc self.toMessageHeader ++ (bodyFormat be).enc (self.body be)

variable (hcovered : self.passPosNum.toNat ≤ self.passPos.length)

include hcovered

theorem wireBytes_length : (self.wireBytes be).length = 98 + 8 * self.passPosNum.toNat := by
  rw [wireBytes, List.length_append, MessageHeader.enc_length, body_length self be hcovered]
  omega

theorem toBytes_of_fits (hle : self.length ≤ mem.length)
    (hfits : 98 + 8 * self.passPosNum.toNat ≤ mem.length) :
    self.toBytes (some mem) mem.length be = .ok (written (self.wireBytes be) mem) := by
  have hstore := storeTo_written ((MessageHeader.format be).enc self.toMessageHeader)
    ((bodyFormat be).enc (self.body be)) mem
    (by rw [← wireBytes, wireBytes_length self be hcovered]; exact hfits)
  rw [MessageHeader.enc_length] at hstore
  rw [toBytes_of_le self be hle, storeFields_eq self be hcovered, hstore, wireBytes]

theorem toBytes_of_not_fits (hle : self.length ≤ mem.length)
    (h : mem.length < 98 + 8 * self.passPosNum.toNat) :
    self.toBytes (some mem) mem.length be = .error .write := by
  have hheader : 16 ≤ mem.length := by
    rw [length_eq] at hle
    omega
  have herr := storeTo_written_error ((MessageHeader.format be).enc self.toMessageHeader)
    ((bodyFormat be).enc (self.body be)) mem (by rwa [MessageHeader.enc_length])
    (by rw [← wireBytes, wireBytes_length self be hcovered]; exact h)
  rw [MessageHeader.enc_length] at herr
  rw [toBytes_of_le self be hle, storeFields_eq self be hcovered, herr]

end

end Veh2CloudState

/-! ## Vehicle state, version 2 -/

namespace Veh2CloudState2

def head (self : Veh2CloudState2) : Head :=
  (self.absFlag, self.tcsFlag, self.espFlag, self.lkaFlag, self.accFlag, self.fcwFlag,
    self.ldwFlag, self.aebFlag, self.lcaFlag, self.dmsFlag, self.mileage, self.fuelGauge, self.soc,
    self.temperature, self.endurance, self.vehfault, self.motorspeed, self.motortorque,
    self.vehMode, self.chargeState, self.battVol, self.battCur, self.hornState)

/-- The wire fields of the second version. The one wheel number counts both lists. -/
def body (self : Veh2CloudState2) : Head × Wheels × Tail :=
  (self.head,
    (self.wheelNum, self.wheelVelocity.take self.wheelNum.toNat,
      self.tirePressure.take self.wheelNum.toNat),
    (self.lights, self.doors, self.userDataLen,
      (self.userData ++ [0]).take self.userDataLen.toNat))

theorem storeElements_of_le (be : Bool) (elements : List (Word 2)) (i n : ℕ)
    (h : i + n ≤ elements.length) :
    storeElements be elements i n =
      store (((elements.drop i).take n).flatMap (Format.word 2 be).enc) := by
  induction n generalizing i with
  | zero => simp [storeElements]
  | succ n ih =>
      have hi : i < elements.length := by omega
      rw [storeElements, elementAt, List.getElem?_eq_getElem hi, ih (i + 1) (by omega),
        List.drop_eq_getElem_cons hi, List.take_succ_cons, List.flatMap_cons]
      simp only [pure_bind, storeWord_eq, store_store]
      rfl

theorem storeElements_fails (be : Bool) (elements : List (Word 2)) (i n : ℕ)
    (hi : i ≤ elements.length) (h : elements.length < i + n) :
    (storeElements be elements i n).Fails := by
  induction n generalizing i with
  | zero => omega
  | succ n ih =>
      rw [storeElements, elementAt]
      by_cases hlt : i < elements.length
      · rw [List.getElem?_eq_getElem hlt]
        exact Access.fails_bind _ fun _ => Access.fails_bind _ fun _ => ih (i + 1) hlt (by omega)
      · rw [List.getElem?_eq_none (Nat.le_of_not_lt hlt)]
        exact (Access.fails_fault _).bind _

/-- Both lists and the user data have the elements their counts announce. -/
def Covered (self : Veh2CloudState2) : Prop :=
  self.wheelNum.toNat ≤ self.wheelVelocity.length ∧
    self.wheelNum.toNat ≤ self.tirePressure.length ∧
    self.userDataLen.toNat ≤ self.userData.length + 1

theorem body_valid (self : Veh2CloudState2) (be : Bool) (h : self.Covered) :
    (bodyFormat be).Valid self.body := by
  obtain ⟨hwheel, htire, huser⟩ := h
  simp only [bodyFormat, headFormat, wheelsFormat, tailFormat, body, head, Format.seq_valid,
    Format.tagged_valid, Format.many_valid, Format.word_valid, Format.byte_valid,
    Format.chars_valid, true_and, implies_true, and_true, List.length_take, List.length_append,
    List.length_singleton]
  omega

theorem storeFields_eq (self : Veh2CloudState2) (be : Bool) (h : self.Covered) :
    self.storeFields be = store ((bodyFormat be).enc self.body) := by
  obtain ⟨hwheel, htire, huser⟩ := h
  rw [storeFields, storeElements_of_le be _ _ _ (by omega),
    storeElements_of_le be _ _ _ (by omega), storeUserData_of_le huser]
  simp only [storeWord_eq, store_store, List.drop_zero, bodyFormat, headFormat, wheelsFormat,
    tailFormat, body, head, Format.seq_enc, Format.tagged_enc, Format.many_enc, Format.word_enc,
    Format.byte_enc, Format.chars_enc, List.append_assoc, List.cons_append, List.nil_append]

theorem storeFields_fails (self : Veh2CloudState2) (be : Bool) (h : ¬ self.Covered) :
    (self.storeFields be).Fails := by
  unfold storeFields
  simp only [storeWord_eq, store_store_bind]
  refine Access.fails_bind _ fun _ => ?_
  by_cases hwheel : self.wheelNum.toNat ≤ self.wheelVelocity.length
  swap
  · exact (storeElements_fails be _ 0 _ (Nat.zero_le _) (by omega)).bind _
  refine Access.fails_bind _ fun _ => ?_
  by_cases htire : self.wheelNum.toNat ≤ self.tirePressure.length
  swap
  · exact (storeElements_fails be _ 0 _ (Nat.zero_le _) (by omega)).bind _
  refine Access.fails_bind _ fun _ => Access.fails_bind _ fun _ => ?_
  exact storeUserData_fails fun huser => h ⟨hwheel, htire, huser⟩

theorem body_length (self : Veh2CloudState2) (be : Bool) (h : self.Covered) :
    ((bodyFormat be).enc self.body).length =
      44 + 4 * self.wheelNum.toNat + self.userDataLen.toNat := by
  obtain ⟨hwheel, htire, huser⟩ := h
  have hword : ∀ x, ((Format.word 2 be).enc x).length = 2 := by simp
  simp only [bodyFormat, headFormat, wheelsFormat, tailFormat, body, head, Format.seq_enc,
    Format.tagged_enc, Format.many_enc, Format.byte_enc, Format.chars_enc, List.length_append,
    List.length_cons, List.length_nil, Format.length_flatMap_of_const hword, List.length_take,
    Format.word_enc, wordBytes_length]
  omega

section

variable (self : Veh2CloudState2) {mem bytes : List Byte} {be : Bool}
variable (hbase : self.toVeh2CloudState.toBytes (some mem) mem.length be =
  .ok (written bytes mem)) (hbytes : bytes.length ≤ mem.length)

include hbase hbytes

/-- The second version goes out behind whatever the first version's encoder has written. -/
theorem toBytes_of_base :
    self.toBytes (some mem) mem.length be =
      if mem.length - bytes.length < self.restLength then .ok (written bytes mem)
      else (self.storeFields be).storeTo (some (bytes ++ mem.drop bytes.length))
        bytes.length := by
  have hlen : self.length - self.toVeh2CloudState.length = self.restLength := by
    rw [length_eq, Veh2CloudState.length_eq, restLength]
    omega
  simp only [length] at hlen
  simp [toBytes, hbase, written, remaining_of_le hbytes, length, hlen]

theorem toBytes_of_lt (h : mem.length < bytes.length + self.restLength) :
    self.toBytes (some mem) mem.length be = .ok (written bytes mem) := by
  rw [toBytes_of_base self hbase hbytes, if_pos (by omega)]

theorem toBytes_of_fits (h : bytes.length + self.restLength ≤ mem.length)
    (hcovered : self.Covered)
    (hfits : bytes.length + 44 + 4 * self.wheelNum.toNat + self.userDataLen.toNat ≤ mem.length) :
    self.toBytes (some mem) mem.length be =
      .ok (written (bytes ++ (bodyFormat be).enc self.body) mem) := by
  have hlen := body_length self be hcovered
  rw [toBytes_of_base self hbase hbytes, if_neg (by omega), storeFields_eq self be hcovered,
    storeTo_written _ _ mem (by rw [List.length_append, hlen]; omega)]

theorem toBytes_of_not_fits (h : bytes.length + self.restLength ≤ mem.length)
    (hnot : ¬ (self.Covered ∧
      bytes.length + 44 + 4 * self.wheelNum.toNat + self.userDataLen.toNat ≤ mem.length)) :
    ∃ e, self.toBytes (some mem) mem.length be = .error e := by
  rw [toBytes_of_base self hbase hbytes, if_neg (by omega)]
  by_cases hcovered : self.Covered
  · have hlen := body_length self be hcovered
    have hlt := Nat.lt_of_not_ge fun hfits => hnot ⟨hcovered, hfits⟩
    exact ⟨.write, by rw [storeFields_eq self be hcovered,
      storeTo_written_error _ _ mem hbytes (by rw [List.length_append, hlen]; omega)]⟩
  · exact (storeFields_fails self be hcovered).storeTo _ _

end

theorem toBytes_of_base_error (self : Veh2CloudState2) {mem : List Byte} {be : Bool} {e : Fault}
    (h : self.toVeh2CloudState.toBytes (some mem) mem.length be = .error e) :
    self.toBytes (some mem) mem.length be = .error e := by
  simp [toBytes, h]

end Veh2CloudState2

end Csae295
