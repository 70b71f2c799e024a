import Csae295.Verification.Encode

/-! The two layers of version 2 of the vehicle state.

The first version's calls tell that they have stopped early by a smaller offset only. The
second version takes the offset for a position and looks at nothing but its own remaining
length, so it goes on behind the header whenever the buffer is long enough for its own fields
and too short for the first version's. -/

namespace Csae295

open Library

/-! ## The first version on any object -/

namespace Veh2CloudState

theorem body_enc_length {be : Bool} {body : Body} (h : (bodyFormat be).Valid body)
    (self : Veh2CloudState) :
    ((bodyFormat be).enc body).length = 82 + 8 * (self.assign be body).passPosNum.toNat := by
  have hpos : ∀ pos, ((Position2D.format be).enc pos).length = 8 := by
    intro pos
    simp [Position2D.format, Format.imap]
  obtain ⟨vehicleId, v, gnssTimestamp, gnssVelocity, positionLongitude, positionLatitude,
    positionElevation, heading, gear, steeringAngle, velocity, accLon, accLat, accVer, yawRate,
    accelPos, engineSpeed, engineTorque, breakFlag, breakPos, breakPressure, fuelConsume,
    driveMode, destLocationLongitude, destLocationLatitude, passPosNum, passPos⟩ := body
  simp only [bodyFormat, Format.seq_valid, Format.tagged_valid, Format.many_valid,
    Format.word_valid, Format.byte_valid, Format.array_valid, true_and] at h
  simp only [bodyFormat, assign, Format.seq_enc, Format.tagged_enc, Format.many_enc,
    Format.word_enc, Format.byte_enc, Format.array_enc, List.length_append, List.length_cons,
    List.length_nil, Vector.length_toList, wordBytes_length, Format.length_flatMap_of_const hpos,
    h.1]
  omega

section

variable (self : Veh2CloudState) (be : Bool) {mem : List Byte}

/-- Behind its guard the decoder stops at the end of the pass points it has counted. -/
theorem fromBytes_passPosEnd {base : Veh2CloudState} {offset : ℕ}
    (hguard : self.length ≤ mem.length)
    (h : self.fromBytes (some mem) mem.length be = .ok (base, offset)) :
    offset = 98 + 8 * base.passPosNum.toNat := by
  rw [fromBytes_of_le self be le_rfl hguard] at h
  by_cases hfits : 16 + (bodyFormat be).span (mem.drop 16) ≤ mem.length
  · obtain ⟨body, hbody, hload, hsplit⟩ := (bodyFormat be).loadFrom_of_le hfits
    rw [hload (loadFields_eq _ be)] at h
    obtain ⟨rfl, rfl⟩ := Prod.mk.inj (Except.ok.inj h)
    rw [hsplit, (bodyFormat be).span_enc hbody,
      body_enc_length hbody { self with toMessageHeader := MessageHeader.decode be mem }]
    omega
  · rw [length_eq] at hguard
    rw [(bodyFormat be).loadFrom_of_lt (loadFields_eq _ be) (by omega)
      (Nat.lt_of_not_ge hfits)] at h
    cases h

theorem storePassPos_fails (passPos : List Position2D) (i n : ℕ) (hi : i ≤ passPos.length)
    (h : passPos.length < i + n) : (storePassPos be passPos i n).Fails := by
  induction n generalizing i with
  | zero => omega
  | succ n ih =>
      by_cases hlt : i < passPos.length
      · rw [storePassPos, elementAt, List.getElem?_eq_getElem hlt, pure_bind]
        exact Access.fails_bind _ fun _ => Access.fails_bind _ fun _ =>
          ih (i + 1) (by omega) (by omega)
      · rw [storePassPos, elementAt, List.getElem?_eq_none (Nat.le_of_not_lt hlt)]
        exact (Access.fails_fault _).bind _

theorem storeFields_fails (h : ¬ self.passPosNum.toNat ≤ self.passPos.length) :
    (self.storeFields be).Fails := by
  unfold storeFields
  simp only [storeWord_eq, store_store_bind]
  exact Access.fails_bind _ fun _ =>
    storePassPos_fails be self.passPos 0 _ (Nat.zero_le _) (by omega)

/-- Behind its guard the encoder writes all of the message or faults. -/
theorem toBytes_written (hguard : self.length ≤ mem.length) {out : Buffer × ℕ}
    (h : self.toBytes (some mem) mem.length be = .ok out) :
    out = written (self.wireBytes be) mem ∧
      (self.wireBytes be).length = 98 + 8 * self.passPosNum.toNat := by
  by_cases hcovered : self.passPosNum.toNat ≤ self.passPos.length
  · by_cases hfits : 98 + 8 * self.passPosNum.toNat ≤ mem.length
    · rw [toBytes_of_fits self be hcovered hguard hfits] at h
      exact ⟨(Except.ok.inj h).symm, wireBytes_length self be hcovered⟩
    · rw [toBytes_of_not_fits self be hcovered hguard (Nat.lt_of_not_ge hfits)] at h
      cases h
  · obtain ⟨e, he⟩ := (storeFields_fails self be hcovered).storeTo
      (some ((MessageHeader.format be).enc self.toMessageHeader ++ mem.drop 16)) 16
    rw [toBytes_of_le self be hguard, he] at h
    cases h

theorem toBytes_of_lt_header (h : mem.length < 16) :
    self.toBytes (some mem) mem.length be = .ok (written [] mem) := by
  have hlen : mem.length < self.length - 16 := by
    rw [length_eq]
    omega
  simp only [length] at hlen
  simp [toBytes, MessageHeader.toBytes, MessageHeader.length, MessageHeader.sizeof, h,
    remaining_of_le, length, hlen, written]

end

end Veh2CloudState

/-! ## The second version behind it -/

namespace Veh2CloudState2

/-- Unless the first version was decoded in full, the decoder returns what the first version's
decoder returned, with every field of the second version as it was. -/
def DecodesInLayers (self : Veh2CloudState2) (be : Bool) (buf : Buffer) (size : ℕ) : Prop :=
  ∀ base offset, self.toVeh2CloudState.fromBytes buf size be = .ok (base, offset) →
    offset ≠ 98 + 8 * base.passPosNum.toNat →
    self.fromBytes buf size be = .ok ({ self with toVeh2CloudState := base }, offset)

/-- Unless the first version was encoded in full, the encoder returns what the first version's
encoder returned, with every byte of the buffer behind that as it was. -/
def EncodesInLayers (self : Veh2CloudState2) (be : Bool) (buf : Buffer) (size : ℕ) : Prop :=
  ∀ out offset, self.toVeh2CloudState.toBytes buf size be = .ok (out, offset) →
    offset ≠ 98 + 8 * self.passPosNum.toNat →
    self.toBytes buf size be = .ok (out, offset) ∧
      out.map (List.drop offset) = buf.map (List.drop offset)

/-- A size that the first version's guard turns away and the second version's lets through. -/
def Gap (self : Veh2CloudState2) (size : ℕ) : Prop :=
  16 + self.restLength ≤ size ∧ size < self.toVeh2CloudState.length

section

variable (self : Veh2CloudState2) (be : Bool) {mem : List Byte}

/-- What the decoder reads it reads forward, past the second version's fixed part. -/
theorem offset_of_loadFields {off : ℕ} (hoff : off ≤ mem.length) {r : Veh2CloudState2 × ℕ}
    (h : (self.loadFields be).loadFrom (some mem) off = .ok r) : off + 44 ≤ r.2 := by
  by_cases hread : self.HasWheels mem off ∧ off + (bodyFormat be).span (mem.drop off) ≤ mem.length
  · obtain ⟨body, -, hload, -⟩ := loadFields_of_wheels be hread.2
    rw [hload self hread.1] at h
    cases h
    rw [bodyFormat_span]
    omega
  · obtain ⟨e, he⟩ := loadFields_of_not_wheels self be hoff hread
    rw [he] at h
    cases h

theorem decodesInLayers_iff : self.DecodesInLayers be (some mem) mem.length ↔
    ¬ self.Gap mem.length := by
  have hlength := Veh2CloudState.length_eq self.toVeh2CloudState
  by_cases hheader : mem.length < 16
  · have hbase : self.toVeh2CloudState.fromBytes (some mem) mem.length be =
        .ok (self.toVeh2CloudState, 0) := Veh2CloudState.fromBytes_of_lt_header _ be hheader
    have hgap : ¬ self.Gap mem.length := by
      rintro ⟨hle, -⟩
      omega
    simp only [hgap, not_false_eq_true, iff_true]
    intro base offset h _
    rw [hbase] at h
    cases h
    rw [fromBytes_of_base self hbase (Nat.zero_le _), if_pos (by rw [restLength]; omega)]
  have h16 : 16 ≤ mem.length := Nat.le_of_not_lt hheader
  by_cases hguard : mem.length < self.toVeh2CloudState.length
  · have hbase := Veh2CloudState.fromBytes_of_lt self.toVeh2CloudState be h16 le_rfl hguard
    have hfrom := fromBytes_of_base self hbase h16
    by_cases hrest : mem.length - 16 < self.restLength
    · have hgap : ¬ self.Gap mem.length := by
        rintro ⟨hle, -⟩
        omega
      simp only [hgap, not_false_eq_true, iff_true]
      intro base offset h _
      rw [hbase] at h
      cases h
      rw [hfrom, if_pos hrest]
    · have hgap : self.Gap mem.length := ⟨by omega, hguard⟩
      simp only [hgap, not_true_eq_false, iff_false]
      intro hlayers
      have hread := hlayers _ _ hbase (by omega)
      rw [hfrom, if_neg hrest] at hread
      have hoffset := offset_of_loadFields _ be h16 hread
      simp only at hoffset
      omega
  · have hgap : ¬ self.Gap mem.length := fun h => hguard h.2
    simp only [hgap, not_false_eq_true, iff_true]
    intro base offset h hoffset
    exact absurd (Veh2CloudState.fromBytes_passPosEnd _ be (Nat.le_of_not_lt hguard) h) hoffset

/-- What the encoder writes behind an offset it reports. -/
theorem offset_of_storeFields {bytes : List Byte} (hbytes : bytes.length ≤ mem.length)
    {out : Buffer × ℕ}
    (h : (self.storeFields be).storeTo (some (bytes ++ mem.drop bytes.length)) bytes.length =
      .ok out) : bytes.length + 44 ≤ out.2 := by
  by_cases hcovered : self.Covered
  · have hlen := body_length self be hcovered
    rw [storeFields_eq self be hcovered] at h
    by_cases hfits : (bytes ++ (bodyFormat be).enc self.body).length ≤ mem.length
    · rw [storeTo_written _ _ mem hfits] at h
      cases h
      simp only [written, List.length_append]
      omega
    · rw [storeTo_written_error _ _ mem hbytes (Nat.lt_of_not_ge hfits)] at h
      cases h
  · obtain ⟨e, he⟩ := (storeFields_fails self be hcovered).storeTo
      (some (bytes ++ mem.drop bytes.length)) bytes.length
    rw [he] at h
    cases h

/-- The bytes behind a rewritten front are the old ones. -/
theorem map_drop_written (bytes : List Byte) :
    (some (bytes ++ mem.drop bytes.length)).map (List.drop bytes.length) =
      (some mem).map (List.drop bytes.length) := by
  simp

theorem encodesInLayers_iff : self.EncodesInLayers be (some mem) mem.length ↔
    ¬ self.Gap mem.length := by
  have hlength := Veh2CloudState.length_eq self.toVeh2CloudState
  by_cases hheader : mem.length < 16
  · have hbase := Veh2CloudState.toBytes_of_lt_header self.toVeh2CloudState be hheader
    have hgap : ¬ self.Gap mem.length := by
      rintro ⟨hle, -⟩
      omega
    simp only [hgap, not_false_eq_true, iff_true]
    intro out offset h _
    rw [hbase] at h
    obtain ⟨rfl, rfl⟩ := Prod.mk.inj (Except.ok.inj h)
    refine ⟨toBytes_of_lt self hbase (Nat.zero_le _) ?_, map_drop_written []⟩
    rw [restLength, List.length_nil]
    omega
  have h16 : 16 ≤ mem.length := Nat.le_of_not_lt hheader
  by_cases hguard : mem.length < self.toVeh2CloudState.length
  · have hbase := Veh2CloudState.toBytes_of_lt self.toVeh2CloudState be h16 hguard
    have henc := self.toMessageHeader.enc_length be
    have hto := toBytes_of_base self hbase (henc.trans_le h16)
    by_cases hrest : mem.length - 16 < self.restLength
    · have hgap : ¬ self.Gap mem.length := by
        rintro ⟨hle, -⟩
        omega
      simp only [hgap, not_false_eq_true, iff_true]
      intro out offset h _
      rw [hbase] at h
      obtain ⟨rfl, rfl⟩ := Prod.mk.inj (Except.ok.inj h)
      exact ⟨toBytes_of_lt self hbase (henc.trans_le h16) (by omega), map_drop_written _⟩
    · have hgap : self.Gap mem.length := ⟨by omega, hguard⟩
      simp only [hgap, not_true_eq_false, iff_false]
      intro hlayers
      have hwritten := (hlayers _ _ hbase (by simp only [henc]; omega)).1
      rw [hto, henc, if_neg hrest, ← henc] at hwritten
      have hoffset := offset_of_storeFields self be (henc.trans_le h16) hwritten
      simp only at hoffset
      omega
  · have hgap : ¬ self.Gap mem.length := fun h => hguard h.2
    simp only [hgap, not_false_eq_true, iff_true]
    intro out offset h hoffset
    obtain ⟨hout, hlen⟩ := Veh2CloudState.toBytes_written _ be (Nat.le_of_not_lt hguard) h
    obtain ⟨rfl, rfl⟩ := Prod.mk.inj hout
    exact absurd hlen hoffset

end

/-- Both calls stop with the first version's exactly outside the gap between the two guards. -/
theorem layers_iff (self : Veh2CloudState2) (be : Bool) :
    (∀ size, self.DecodesInLayers be none size ∧ self.EncodesInLayers be none size) ∧
      ∀ mem : List Byte,
        (self.DecodesInLayers be (some mem) mem.length ↔ ¬ self.Gap mem.length) ∧
          (self.EncodesInLayers be (some mem) mem.length ↔ ¬ self.Gap mem.length) := by
  refine ⟨fun size => ⟨?_, ?_⟩, fun mem => ⟨self.decodesInLayers_iff be, self.encodesInLayers_iff be⟩⟩
  · intro base offset h _
    cases h
    rfl
  · intro out offset h _
    cases h
    exact ⟨rfl, rfl⟩

/-- A buffer of 60 bytes is too short for the first version and long enough for the second. -/
theorem layers_skip_base :
    ¬ ∀ (self : Veh2CloudState2) (be : Bool),
      (∀ size, self.DecodesInLayers be none size ∧ self.EncodesInLayers be none size) ∧
        ∀ mem : List Byte, self.DecodesInLayers be (some mem) mem.length ∧
          self.EncodesInLayers be (some mem) mem.length := by
  intro hall
  have hlayers := ((hall default true).2 (List.replicate 60 0)).1
  exact (decodesInLayers_iff default true).mp hlayers ⟨by decide, by decide⟩

end Veh2CloudState2

end Csae295
