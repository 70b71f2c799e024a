import Csae295.Verification.PackSafety

/-! Which packed frames are complete: the buffer, the announced data length and the counts
inside the frame agree on where it ends. -/

namespace Csae295

open Library

namespace Packer

/-- The size of the buffer is the size the header announces and the size the frame's own
count and length bytes add up to. -/
structure Complete (frameSpan : List Byte → ℕ) (buf : MessageBuffer) : Prop where
  announced : buf.size.toNat = 16 + (MessageHeader.decode true buf.data).dataLen.toNat
  counted : buf.size.toNat = frameSpan buf.data

/-- Packing the message gives a complete frame, whatever the stack holds. -/
def PacksComplete (header : MessageHeader) (toBytes : Encoder) (frameSpan : List Byte → ℕ) :
    Prop :=
  ∀ stack, ∃ buf, pack header toBytes stack = .ok buf ∧ Complete frameSpan buf

section

variable {header : MessageHeader} {toBytes : Encoder} {frameSpan : List Byte → ℕ}

theorem not_packsComplete_of_error (h : ∀ stack, ∃ e, pack header toBytes stack = .error e) :
    ¬ PacksComplete header toBytes frameSpan :=
  fun hall => not_safe_of_error h fun stack => (hall stack).imp fun _ hbuf => hbuf.1

/-- A packed frame is complete if the bytes behind the header are as many as it announces
and as the counts among them say. -/
theorem packsComplete_iff (fields : List Byte) (hfields : fields.length < 2 ^ 32 - 16)
    (h : ∀ stack, pack header toBytes stack =
      .ok (frame ((MessageHeader.format true).enc header ++ fields))) :
    PacksComplete header toBytes frameSpan ↔ fields.length = header.dataLen.toNat ∧
      16 + fields.length = frameSpan ((MessageHeader.format true).enc header ++ fields) := by
  have hlen : ((MessageHeader.format true).enc header ++ fields).length = 16 + fields.length := by
    rw [List.length_append, MessageHeader.enc_length]
  have hsize : (frame ((MessageHeader.format true).enc header ++ fields)).size.toNat =
      16 + fields.length := by
    rw [frame, BitVec.toNat_ofNat, hlen, Nat.mod_eq_of_lt (by omega)]
  constructor
  · intro hall
    obtain ⟨buf, hbuf, hcomplete⟩ := hall fun n => Vector.replicate n 0
    rw [h, Except.ok.injEq] at hbuf
    subst hbuf
    obtain ⟨hannounced, hcounted⟩ := hcomplete
    rw [hsize] at hannounced hcounted
    simp only [frame, MessageHeader.decode_enc] at hannounced
    exact ⟨by omega, hcounted⟩
  · rintro ⟨hannounced, hcounted⟩ stack
    refine ⟨_, h stack, ?_, ?_⟩
    · rw [hsize]
      simp only [frame, MessageHeader.decode_enc]
      omega
    · rw [hsize]
      exact hcounted

end

end Packer

/-! ## Vehicle information -/

namespace Veh2CloudInh

/-- What the encoder writes behind the length byte of the hardware version. -/
def behindHwVerLen (m : Veh2CloudInh) : List Byte :=
  versionBytes m.swVer m.hwVerLen ++ ([m.adVerLen] ++ (versionBytes m.swVer m.adVerLen ++
    ([m.comType] ++ ([m.posConfidence] ++ ([m.timeSync] ++ ([m.gnssType] ++
    ([m.userDataLen] ++ (m.userData ++ [0]).take m.userDataLen.toNat)))))))

/-- A reader that skips the software version's length where the hardware version's
characters stand finds two length bytes on its way; with them it ends where the frame does. -/
def Resynchronises (m : Veh2CloudInh) : Prop :=
  let ad := versionChars (byteAt m.behindHwVerLen m.swVer.length)
  m.swVer.length + ad + (byteAt m.behindHwVerLen (m.swVer.length + 5 + ad)).toNat =
    m.hwVer.length + m.adVer.length + m.userData.length

theorem fieldBytes_span {m : Veh2CloudInh} (hbody : bodyFormat.Valid m.body) :
    bodyFormat.span m.fieldBytes =
      let ad := versionChars (byteAt m.behindHwVerLen m.swVer.length)
      16 + 2 * m.swVer.length + ad +
        (byteAt m.behindHwVerLen (m.swVer.length + 5 + ad)).toNat := by
  obtain ⟨hsw, -, -, -⟩ := (body_valid_iff m).mp hbody
  have hvehicle : m.vehicleId.toList.length = 8 := Vector.length_toList
  have hsplit : m.fieldBytes = (m.vehicleId.toList ++ ([m.swVerLen] ++ (m.swVer ++
      [m.swVerLen]))) ++ m.behindHwVerLen := by
    rw [fieldBytes, versionBytes_of_length hsw]
    simp only [behindHwVerLen, List.append_assoc]
  have hpre : (m.vehicleId.toList ++ ([m.swVerLen] ++ (m.swVer ++ [m.swVerLen]))).length =
      10 + m.swVer.length := by
    simp only [List.length_append, hvehicle, List.length_singleton]
    omega
  have hswLen : byteAt m.fieldBytes 8 = m.swVerLen :=
    byteAt_of_split m.vehicleId.toList (hsplit.trans (List.append_assoc _ _ _)) hvehicle
  have hhwLen : byteAt m.fieldBytes (9 + m.swVer.length) = m.swVerLen := by
    refine byteAt_of_split (m.vehicleId.toList ++ ([m.swVerLen] ++ m.swVer))
      (hsplit.trans (by simp only [List.append_assoc]; rfl)) ?_
    simp only [List.length_append, List.length_singleton, hvehicle]
    omega
  have hbehind : ∀ i, byteAt m.fieldBytes (10 + m.swVer.length + i) =
      byteAt m.behindHwVerLen i := by
    intro i
    rw [hsplit, ← hpre, byteAt_append]
  simp only [bodyFormat_span, hswLen, ← hsw, hhwLen]
  have hindex : ∀ ad, 15 + m.swVer.length + m.swVer.length + ad =
      10 + m.swVer.length + (m.swVer.length + 5 + ad) := by omega
  simp only [hindex, hbehind]
  omega

/-- Versions of one length are skipped as they were written, although the software version's length
byte stands for both. -/
theorem resynchronises_of_length_eq {m : Veh2CloudInh} (hbody : bodyFormat.Valid m.body)
    (hhw : m.hwVer.length = m.swVer.length) (had : m.adVer.length ≤ m.swVer.length + 1) :
    m.Resynchronises := by
  obtain ⟨-, hhwLen, hadLen, huser⟩ := (body_valid_iff m).mp hbody
  have hhwBytes : (versionBytes m.swVer m.hwVerLen).length = m.swVer.length := by
    rw [versionBytes_length (by omega), ← hhwLen, hhw]
  have hadBytes : (versionBytes m.swVer m.adVerLen).length = m.adVer.length := by
    rw [versionBytes_length (by omega), hadLen]
  have hadByte : byteAt m.behindHwVerLen m.swVer.length = m.adVerLen :=
    byteAt_of_split (versionBytes m.swVer m.hwVerLen) rfl hhwBytes
  have huserByte : byteAt m.behindHwVerLen (m.swVer.length + 5 + m.adVer.length) =
      m.userDataLen := by
    refine byteAt_of_split (versionBytes m.swVer m.hwVerLen ++ ([m.adVerLen] ++
      (versionBytes m.swVer m.adVerLen ++ ([m.comType] ++ ([m.posConfidence] ++ ([m.timeSync] ++
      [m.gnssType])))))) (by simp only [behindHwVerLen, List.append_assoc]; rfl) ?_
    simp only [List.length_append, List.length_singleton, hhwBytes, hadBytes]
    omega
  unfold Resynchronises
  simp only [hadByte, ← hadLen, huserByte, ← huser]
  omega

/-- No string is overlong, the hardware version has the length of the software version, from which
it is copied, and the autonomous-driving version is not longer than that with its terminator. -/
structure FrameFits (m : Veh2CloudInh) : Prop where
  short : ¬ m.Overlong
  hwVer : m.hwVer.length = m.swVer.length
  adVer : m.adVer.length ≤ m.swVer.length + 1

/-- Overlong strings leave the header alone; otherwise the frame has the announced length,
and its own length bytes have to lead through the mixed-up versions to the same end. -/
theorem packsComplete_iff {m : Veh2CloudInh} (h : m.Constructed) :
    Packer.PacksComplete m.toMessageHeader m.toBytes frameSpan ↔ ¬ m.Overlong ∧
      m.hwVer.length ≤ m.swVer.length + 1 ∧ m.adVer.length ≤ m.swVer.length + 1 ∧
      m.Resynchronises := by
  have hbuilt := h.built
  by_cases hlong : m.Overlong
  · have hdata : 16 ≤ m.dataLen.toNat := by
      rw [hbuilt.dataLen]
      omega
    rw [Packer.packsComplete_iff [] (by simp) fun stack => by
      rw [List.append_nil]
      exact pack_of_overlong hbuilt stack hlong]
    simp only [List.length_nil, hlong, not_true_eq_false, false_and, iff_false, not_and]
    omega
  have hbody := hbuilt.body_valid hlong
  rw [← and_assoc (a := m.hwVer.length ≤ _), ← covered_iff m hbody]
  by_cases hcovered : m.Covered
  swap
  · simp only [hcovered, false_and, and_false, iff_false]
    exact Packer.not_packsComplete_of_error fun stack =>
      pack_of_not_covered hbuilt stack hlong hcovered
  have hwire := wireBytes_length m true hbody hcovered
  have hdata := hbuilt.dataLen_eq hlong
  have hlength := length_eq m
  rw [wireBytes, List.length_append, MessageHeader.enc_length] at hwire
  have hdrop : frameSpan (m.wireBytes true) = 16 + bodyFormat.span m.fieldBytes := by
    rw [frameSpan, wireBytes, List.drop_left' (MessageHeader.enc_length _ _)]
  have hfields : m.fieldBytes.length < 2 ^ 32 - 16 := by
    have hlt := m.dataLen.isLt
    unfold Overlong at hlong
    omega
  rw [Packer.packsComplete_iff m.fieldBytes hfields
      fun stack => pack_of_covered hbuilt stack hlong hcovered,
    ← wireBytes, hdrop, fieldBytes_span hbody]
  simp only [hlong, not_false_eq_true, hcovered, true_and, Resynchronises]
  omega

theorem packsComplete_of_fits {m : Veh2CloudInh} (h : m.Constructed) (hfits : m.FrameFits) :
    Packer.PacksComplete m.toMessageHeader m.toBytes frameSpan :=
  (packsComplete_iff h).mpr ⟨hfits.short, by rw [hfits.hwVer]; exact Nat.le_succ _, hfits.adVer,
    resynchronises_of_length_eq (h.built.body_valid hfits.short) hfits.hwVer hfits.adVer⟩

end Veh2CloudInh

namespace Cloud2VehInhRes

/-- The messages the field constructor builds in whatever storage. -/
inductive Constructed : Cloud2VehInhRes → Prop where
  | new (storage : Vector Byte 8) (version : Byte) (timestamp : Word 8) (ctrl : Byte)
      (vehicleId : List Byte) (res : Byte) :
      Constructed (Cloud2VehInhRes.new storage version timestamp ctrl vehicleId res)

theorem packsComplete {m : Cloud2VehInhRes} (h : m.Constructed) :
    Packer.PacksComplete m.toMessageHeader m.toBytes frameSpan := by
  have hdata : m.dataLen.toNat = 9 := by
    cases h
    rfl
  have hlen : (bodyFormat.enc m.body).length = 9 := by simp [bodyFormat, body]
  have hpack : ∀ stack, Packer.pack m.toMessageHeader m.toBytes stack =
      .ok (Packer.frame ((MessageHeader.format true).enc m.toMessageHeader ++
        bodyFormat.enc m.body)) := by
    intro stack
    apply Packer.pack_of_written stack
    intro mem hmem
    exact toBytes_of_le m true hmem.ge (by omega)
  rw [Packer.packsComplete_iff (bodyFormat.enc m.body) (by omega) hpack, hlen, hdata, frameSpan,
    bodyFormat_span]
  exact ⟨rfl, rfl⟩

end Cloud2VehInhRes

/-! ## Vehicle state -/

namespace Veh2CloudState

/-- The data length counts pass points and the frame counts their bytes, so the two agree
on no pass points only. -/
theorem packsComplete_iff {m : Veh2CloudState} (h : m.Constructed) :
    Packer.PacksComplete m.toMessageHeader m.toBytes frameSpan ↔ m.passPos = [] := by
  obtain ⟨hdata, hnum⟩ := h.built
  rw [← List.length_eq_zero_iff]
  by_cases hguard : m.dataLen.toNat < 82 + m.passPos.length
  · have hne : m.passPos.length ≠ 0 := by
      intro hzero
      rw [hzero] at hdata
      omega
    rw [Packer.packsComplete_iff [] (by simp) fun stack => by
      rw [List.append_nil]
      exact pack_of_wrapped stack hguard]
    simp only [hne, iff_false, not_and, frameSpan, bodyFormat_span, List.length_nil]
    omega
  have hexact : m.dataLen.toNat = 82 + m.passPos.length :=
    le_antisymm (hdata.trans_le (Nat.mod_le _ _)) (Nat.le_of_not_lt hguard)
  by_cases hfits : 82 + 8 * m.passPosNum.toNat ≤ m.dataLen.toNat
  swap
  · have hne : m.passPos.length ≠ 0 := by omega
    simp only [hne, iff_false]
    exact Packer.not_packsComplete_of_error fun stack => pack_of_not_fits ⟨hdata, hnum⟩ stack
      (Nat.le_of_not_lt hguard) (Nat.lt_of_not_ge hfits)
  have hcovered : m.passPosNum.toNat ≤ m.passPos.length := Built.covered ⟨hdata, hnum⟩
  have hlen := body_length m true hcovered
  have hspan := (bodyFormat true).span_enc (m.body_valid true hcovered) []
  rw [List.append_nil] at hspan
  have hbyte := m.passPosNum.isLt
  rw [Packer.packsComplete_iff ((bodyFormat true).enc (m.body true)) (by omega)
      fun stack => pack_of_fits ⟨hdata, hnum⟩ stack (Nat.le_of_not_lt hguard) hfits, frameSpan,
    List.drop_left' (MessageHeader.enc_length _ _), hspan, hlen]
  omega

end Veh2CloudState

/-! ## Vehicle state, version 2 -/

namespace Veh2CloudState2

/-- What the count bytes among fields of the second version add up to when they stand
directly behind the header, where a reader expects the first version. -/
def misreadLength (fields : List Byte) : ℕ :=
  let base := 82 + 8 * (byteAt fields 81).toNat
  let wheels := 4 * (byteAt fields (base + 38)).toNat
  base + 44 + wheels + (byteAt fields (base + 43 + wheels)).toNat

theorem frameSpan_eq (mem : List Byte) :
    frameSpan mem = 16 + misreadLength (mem.drop 16) := by
  simp only [frameSpan, Veh2CloudState.frameSpan, Veh2CloudState.bodyFormat_span, bodyFormat_span,
    misreadLength, byteAt_drop]
  have hindex : ∀ x y, 16 + (82 + x) + y = 16 + (82 + x + y) := by omega
  have hwheels : ∀ x y, 82 + x + (43 + y) = 82 + x + 43 + y := by omega
  simp only [hindex, hwheels]
  omega

section

variable {m : Veh2CloudState2} (hbuilt : m.Built)

include hbuilt

theorem frameSpan_wireBytes (rest : List Byte) :
    Veh2CloudState.frameSpan (m.toVeh2CloudState.wireBytes true ++ rest) =
      (m.toVeh2CloudState.wireBytes true).length := by
  rw [Veh2CloudState.frameSpan, Veh2CloudState.wireBytes, List.append_assoc,
    List.drop_left' (MessageHeader.enc_length _ _), Format.span_enc _
    (Veh2CloudState.body_valid _ true hbuilt.passPos_covered), List.length_append,
    MessageHeader.enc_length]

/-- The first version alone is no complete frame: the fields of the second are missing. -/
theorem length_lt_frameSpan : m.baseBytes.length < frameSpan m.baseBytes := by
  have hspan : Veh2CloudState.frameSpan m.baseBytes + 44 ≤ frameSpan m.baseBytes := by
    rw [frameSpan, bodyFormat_span]
    omega
  suffices m.baseBytes.length ≤ Veh2CloudState.frameSpan m.baseBytes by omega
  unfold baseBytes
  split
  · rw [MessageHeader.enc_length, Veh2CloudState.frameSpan]
    exact Nat.le_add_right _ _
  · have hbase := frameSpan_wireBytes hbuilt []
    rw [List.append_nil] at hbase
    exact hbase.ge

/-- Behind the first version the second is counted as it was written. -/
theorem frameSpan_of_base (hcovered : m.Covered) :
    frameSpan (m.toVeh2CloudState.wireBytes true ++ (bodyFormat true).enc m.body) =
      (m.toVeh2CloudState.wireBytes true ++ (bodyFormat true).enc m.body).length := by
  have hspan := (bodyFormat true).span_enc (m.body_valid true hcovered) []
  rw [List.append_nil] at hspan
  rw [frameSpan, frameSpan_wireBytes hbuilt, List.drop_left, hspan, List.length_append]

/-- The bytes behind the header of a packed frame. -/
theorem baseBytes_split : ∃ fields, m.baseBytes =
      (MessageHeader.format true).enc m.toMessageHeader ++ fields ∧ fields.length = m.start := by
  have hlen := baseBytes_length hbuilt
  have hsplit : ∃ fields, m.baseBytes =
      (MessageHeader.format true).enc m.toMessageHeader ++ fields := by
    unfold baseBytes
    split
    · exact ⟨[], (List.append_nil _).symm⟩
    · exact ⟨_, rfl⟩
  obtain ⟨fields, hfields⟩ := hsplit
  rw [hfields, List.length_append, MessageHeader.enc_length] at hlen
  exact ⟨fields, hfields, by omega⟩

end

/-- The two versions fill the announced length exactly, and the frame's counts lead
there. -/
def FillsFrame (m : Veh2CloudState2) : Prop :=
  let n := m.passPos.length
  let w := m.wheelVelocity.length
  let t := m.tirePressure.length
  let u := m.userData.length
  announcedStart n w t u + 44 + w + t + u ≤ announcedLength n w t u ∧ w % 256 ≤ t ∧
    announcedLength n w t u = announcedStart n w t u + 44 + 4 * (w % 256) + u % 256 ∧
    (announcedLength n w t u < 82 + n →
      misreadLength ((bodyFormat true).enc m.body) = announcedLength n w t u)

theorem packsComplete_iff {m : Veh2CloudState2} (h : m.Constructed) :
    Packer.PacksComplete m.toMessageHeader m.toBytes frameSpan ↔ m.FillsFrame := by
  have hbuilt := h.built
  unfold FillsFrame
  simp only [← hbuilt.start_eq, ← hbuilt.dataLen_eq, ← hbuilt.wheelNum, ← hbuilt.userDataLen,
    ← hbuilt.covered_iff]
  have hlen : m.start + m.restLength = m.start + 44 + m.wheelVelocity.length +
      m.tirePressure.length + m.userData.length := by
    rw [restLength]
    omega
  rw [← hlen]
  obtain ⟨fields, hbase, hfields⟩ := baseBytes_split hbuilt
  have hstartLt : m.start < 2 ^ 16 := by
    have hbyte := m.passPosNum.isLt
    unfold start
    split <;> omega
  by_cases hstart : m.start ≤ m.dataLen.toNat
  swap
  · have hnot : ¬ m.start + m.restLength ≤ m.dataLen.toNat := by omega
    simp only [hnot, false_and, iff_false]
    exact Packer.not_packsComplete_of_error fun stack =>
      pack_of_base_error hbuilt stack (Nat.lt_of_not_ge hstart)
  by_cases hrest : m.dataLen.toNat < m.start + m.restLength
  · have hnot : ¬ m.start + m.restLength ≤ m.dataLen.toNat := by omega
    have hspan := length_lt_frameSpan hbuilt
    have hbaseLen := baseBytes_length hbuilt
    rw [Packer.packsComplete_iff fields (by omega) fun stack => by
      rw [← hbase]
      exact pack_of_lt hbuilt stack hstart hrest]
    simp only [hnot, false_and, iff_false, not_and, ← hbase]
    omega
  have hle := Nat.le_of_not_lt hrest
  by_cases hfits : m.Covered ∧
      m.start + 44 + 4 * m.wheelNum.toNat + m.userDataLen.toNat ≤ m.dataLen.toNat
  swap
  · have hnot : ¬ (m.Covered ∧ m.dataLen.toNat =
        m.start + 44 + 4 * m.wheelNum.toNat + m.userDataLen.toNat) :=
      fun hexact => hfits ⟨hexact.1, hexact.2.ge⟩
    simp only [hle, true_and, ← and_assoc, hnot, false_and, iff_false]
    exact Packer.not_packsComplete_of_error fun stack =>
      pack_of_not_fits hbuilt stack hstart hle hfits
  obtain ⟨hcovered, hfits⟩ := hfits
  have hbody := body_length m true hcovered
  have hwheelLt := m.wheelNum.isLt
  have huserLt := m.userDataLen.isLt
  have hall : (fields ++ (bodyFormat true).enc m.body).length =
      m.start + 44 + 4 * m.wheelNum.toNat + m.userDataLen.toNat := by
    rw [List.length_append, hfields, hbody]
    omega
  rw [Packer.packsComplete_iff (fields ++ (bodyFormat true).enc m.body) (by omega)
    fun stack => by
      rw [← List.append_assoc, ← hbase]
      exact pack_of_fits hbuilt stack hstart hle hcovered hfits,
    ← List.append_assoc, ← hbase, hall]
  simp only [hle, hcovered, true_and]
  by_cases hguard : m.dataLen.toNat < 82 + m.passPos.length
  · have hheader : m.baseBytes = (MessageHeader.format true).enc m.toMessageHeader := by
      rw [baseBytes, if_pos hguard]
    rw [hheader, frameSpan_eq, List.drop_left' (MessageHeader.enc_length _ _)]
    simp only [hguard, true_implies]
    omega
  · have hwire : m.baseBytes = m.toVeh2CloudState.wireBytes true := by
      rw [baseBytes, if_neg hguard]
    have hcount := frameSpan_of_base hbuilt hcovered
    rw [← hwire, List.length_append, hbody, baseBytes_length hbuilt] at hcount
    simp only [hguard, false_implies, and_true, hcount]
    omega

/-- With `n` pass points, `w` wheel velocities, `t` tire pressures and `u` bytes of user data, the
announced length fits its word, the pass points and wheels that the count bytes tell are there, and
what they take on the wire makes up for what was announced for all of them. -/
structure FrameFits (n w t u : ℕ) : Prop where
  announced : 126 + n + w + t + u < 2 ^ 32
  passPos : 8 * (n % 256) ≤ n
  tirePressure : w % 256 ≤ t
  counted : n + w + t + u = 8 * (n % 256) + 4 * (w % 256) + u % 256

/-- Only an announced length that has wrapped around leaves room for anything else. -/
theorem fillsFrame_iff {m : Veh2CloudState2} (h : 126 + m.passPos.length + m.wheelVelocity.length +
      m.tirePressure.length + m.userData.length < 2 ^ 32) :
    m.FillsFrame ↔ FrameFits m.passPos.length m.wheelVelocity.length m.tirePressure.length
      m.userData.length := by
  unfold FillsFrame announcedStart announcedLength
  simp only [Nat.mod_eq_of_lt h, if_neg (show ¬ 126 + m.passPos.length + m.wheelVelocity.length +
    m.tirePressure.length + m.userData.length < 82 + m.passPos.length by omega)]
  constructor
  · rintro ⟨hrest, hwheels, hcounted, -⟩
    exact ⟨h, by omega, hwheels, by omega⟩
  · rintro ⟨-, hpassPos, hwheels, hcounted⟩
    exact ⟨by omega, hwheels, by omega, fun hwrapped => by omega⟩

end Veh2CloudState2

namespace Packer

/-- Constructed messages whose lengths fit are packed into complete frames. Of the others only two
kinds can be, by an accident of their contents: information whose hardware version goes out under
the length of another software version, and a state whose announced length has wrapped around. -/
theorem pack_complete {inh : Veh2CloudInh} (hinh : inh.Constructed) {res : Cloud2VehInhRes}
    (hres : res.Constructed) {state : Veh2CloudState} (hstate : state.Constructed)
    {state2 : Veh2CloudState2} (hstate2 : state2.Constructed) :
    ((inh.FrameFits → PacksComplete inh.toMessageHeader inh.toBytes Veh2CloudInh.frameSpan) ∧
      (PacksComplete inh.toMessageHeader inh.toBytes Veh2CloudInh.frameSpan → inh.FrameFits ∨
        ¬ inh.Overlong ∧ inh.hwVer.length ≠ inh.swVer.length ∧
          inh.hwVer.length ≤ inh.swVer.length + 1 ∧ inh.adVer.length ≤ inh.swVer.length + 1)) ∧
    PacksComplete res.toMessageHeader res.toBytes Cloud2VehInhRes.frameSpan ∧
    (PacksComplete state.toMessageHeader state.toBytes Veh2CloudState.frameSpan ↔
      state.passPos = []) ∧
    let n := state2.passPos.length
    let w := state2.wheelVelocity.length
    let t := state2.tirePressure.length
    let u := state2.userData.length
    (Veh2CloudState2.FrameFits n w t u →
      PacksComplete state2.toMessageHeader state2.toBytes Veh2CloudState2.frameSpan) ∧
    (PacksComplete state2.toMessageHeader state2.toBytes Veh2CloudState2.frameSpan →
      Veh2CloudState2.FrameFits n w t u ∨ 2 ^ 32 ≤ 126 + n + w + t + u) := by
  refine ⟨⟨Veh2CloudInh.packsComplete_of_fits hinh, ?_⟩, Cloud2VehInhRes.packsComplete hres,
    Veh2CloudState.packsComplete_iff hstate, ?_, ?_⟩
  · intro hcomplete
    obtain ⟨hshort, hhw, had, -⟩ := (Veh2CloudInh.packsComplete_iff hinh).mp hcomplete
    by_cases hsame : inh.hwVer.length = inh.swVer.length
    · exact .inl ⟨hshort, hsame, had⟩
    · exact .inr ⟨hshort, hsame, hhw, had⟩
  · intro hfits
    exact (Veh2CloudState2.packsComplete_iff hstate2).mpr
      ((Veh2CloudState2.fillsFrame_iff hfits.announced).mpr hfits)
  · intro hcomplete
    have hfills := (Veh2CloudState2.packsComplete_iff hstate2).mp hcomplete
    rcases Nat.lt_or_ge (126 + state2.passPos.length + state2.wheelVelocity.length +
      state2.tirePressure.length + state2.userData.length) (2 ^ 32) with hlt | hge
    · exact .inl ((Veh2CloudState2.fillsFrame_iff hlt).mp hfills)
    · exact .inr hge

/-- Information with four strings, an answer, a state without pass points, and a state with a wheel
velocity, three tire pressures and user data. -/
theorem pack_complete_filled :
    let inh := Veh2CloudInh.new 1 0x0102030405060708 3 [0x56, 0x31] [0x61, 0x62] [0x63, 0x64] [0x61]
      1 2 3 4 [0x78, 0x79, 0x7A]
    let res := Cloud2VehInhRes.new (Vector.replicate 8 0xEE) 1 5 6 [0x56, 0x31] 1
    let state := Veh2CloudState.new 1 0x0102030405060708 3 [0x56, 0x31] [1, 2, 3] 4 500
      ⟨116, 40, 50⟩ 90 1 0x10000000 600 7 8 9 10 11 1200 13 1 14 15 16 2 ⟨117, 41⟩ []
    let state2 := Veh2CloudState2.new 2 0x0102030405060708 3 [0x56, 0x31] [1, 2, 3] 4 500
      ⟨116, 40, 50⟩ 90 1 0x10000000 600 7 8 9 10 11 1200 13 1 14 15 16 2 ⟨117, 41⟩ []
      1 0 1 0 1 0 1 0 1 0 20000 21 22 23 24 25 26 27 1 2 28 29 1 [600] [220, 221, 222] 30 31
      [0x78, 0x79, 0x7A]
    PacksComplete inh.toMessageHeader inh.toBytes Veh2CloudInh.frameSpan ∧
      PacksComplete res.toMessageHeader res.toBytes Cloud2VehInhRes.frameSpan ∧
      PacksComplete state.toMessageHeader state.toBytes Veh2CloudState.frameSpan ∧
      PacksComplete state2.toMessageHeader state2.toBytes Veh2CloudState2.frameSpan := by
  intro inh res state state2
  obtain ⟨hinh, hres, hstate, hstate2⟩ := pack_complete (show inh.Constructed from .new ..)
    (show res.Constructed from .new ..) (show state.Constructed from .new ..)
    (show state2.Constructed from .new ..)
  have hshort : ¬ inh.Overlong := by
    unfold Veh2CloudInh.Overlong
    decide
  exact ⟨hinh.1 ⟨hshort, rfl, by decide⟩, hres, hstate.mpr rfl,
    hstate2.1 ⟨by decide, by decide, by decide, rfl⟩⟩

/-- A frame with one pass point announces seven bytes less than it counts. -/
theorem pack_miscounts_pass_points :
    ¬ ((∀ m : Veh2CloudInh, m.Constructed →
        PacksComplete m.toMessageHeader m.toBytes Veh2CloudInh.frameSpan) ∧
      (∀ m : Cloud2VehInhRes, m.Constructed →
        PacksComplete m.toMessageHeader m.toBytes Cloud2VehInhRes.frameSpan) ∧
      (∀ m : Veh2CloudState, m.Constructed →
        PacksComplete m.toMessageHeader m.toBytes Veh2CloudState.frameSpan) ∧
      ∀ m : Veh2CloudState2, m.Constructed →
        PacksComplete m.toMessageHeader m.toBytes Veh2CloudState2.frameSpan) := by
  rintro ⟨-, -, hstate, -⟩
  have hbuilt := Veh2CloudState.Constructed.new 1 0 0 [] [] 0 0 default 0 0 0 0 0 0 0 0 0 0 0 0 0 0
    0 0 default [default]
  have hempty := (Veh2CloudState.packsComplete_iff hbuilt).mp (hstate _ hbuilt)
  cases hempty

end Packer

end Csae295
