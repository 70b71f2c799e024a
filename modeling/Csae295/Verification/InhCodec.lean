import Csae295.Library.Codec
import Csae295.Verification.Encode

/-! The codec of the vehicle information message.

The encoder takes the length byte of the hardware version and the characters of both later
versions from the software version, so a message comes back only if that makes no
difference. -/

namespace Csae295.Veh2CloudInh

open Library

/-- The wire fields of a message as its decoder expects them. -/
def body (self : Veh2CloudInh) : Body :=
  (self.vehicleId, (self.swVerLen, self.swVer), (self.hwVerLen, self.hwVer),
    (self.adVerLen, self.adVer), self.comType, self.posConfidence, self.timeSync, self.gnssType,
    self.userDataLen, self.userData)

/-- The hardware version repeats the software version, and the autonomous-driving version
is a prefix of the software version and its terminating zero. -/
def Echoes : Body → Prop
  | (_, (swVerLen, swVer), (hwVerLen, hwVer), (_, adVer), _) =>
    hwVerLen = swVerLen ∧ hwVer = swVer ∧ adVer <+: swVer ++ [0]

theorem body_valid_iff (self : Veh2CloudInh) : bodyFormat.Valid self.body ↔
    self.swVer.length = versionChars self.swVerLen ∧
      self.hwVer.length = versionChars self.hwVerLen ∧
      self.adVer.length = versionChars self.adVerLen ∧
      self.userData.length = self.userDataLen.toNat := by
  simp only [bodyFormat, body, Format.seq_valid, Format.tagged_valid, Format.chars_valid,
    Format.byte_valid, Format.array_valid, true_and]

theorem versionBytes_of_length {s : List Byte} {len : Byte} (h : s.length = versionChars len) :
    versionBytes s len = s := by
  rw [versionBytes, ← h, List.take_left]

theorem versionBytes_length {s : List Byte} {len : Byte} (h : versionChars len ≤ s.length + 1) :
    (versionBytes s len).length = versionChars len := by
  rw [versionBytes, List.length_take, List.length_append, List.length_singleton, min_eq_left h]

section

variable (self : Veh2CloudInh) (hbody : bodyFormat.Valid self.body)

include hbody

theorem covered_iff : self.Covered ↔
    self.hwVer.length ≤ self.swVer.length + 1 ∧ self.adVer.length ≤ self.swVer.length + 1 := by
  obtain ⟨hsw, hhw, had, huser⟩ := (body_valid_iff self).mp hbody
  unfold Covered
  omega

theorem covered_of_echoes (h : Echoes self.body) : self.Covered := by
  obtain ⟨-, hhw, had⟩ := h
  have hlen := had.length_le
  rw [List.length_append, List.length_singleton] at hlen
  rw [covered_iff self hbody, hhw]
  exact ⟨Nat.le_succ _, hlen⟩

omit hbody in
theorem enc_body_length : (bodyFormat.enc self.body).length + 16 = self.length := by
  simp only [bodyFormat, body, Format.seq_enc, Format.tagged_enc, Format.chars_enc,
    Format.byte_enc, Format.array_enc, List.length_append, List.length_cons, List.length_nil,
    Vector.length_toList, length_eq]
  omega

/-- The encoder stores what the decoder expects exactly for messages that echo. -/
theorem fieldBytes_eq_iff (hcovered : self.Covered) :
    self.fieldBytes = bodyFormat.enc self.body ↔ Echoes self.body := by
  obtain ⟨hsw, hhw, had, huser⟩ := (body_valid_iff self).mp hbody
  obtain ⟨-, hhwCovered, hadCovered, -⟩ := hcovered
  have hswBytes := versionBytes_of_length hsw
  have huserBytes : (self.userData ++ [0]).take self.userDataLen.toNat = self.userData :=
    List.take_left' huser
  have hhwLen : (versionBytes self.swVer self.hwVerLen).length = self.hwVer.length := by
    rw [versionBytes_length hhwCovered, hhw]
  have hadLen : (versionBytes self.swVer self.adVerLen).length = self.adVer.length := by
    rw [versionBytes_length hadCovered, had]
  have hbytes : self.fieldBytes = bodyFormat.enc self.body ↔
      self.swVerLen = self.hwVerLen ∧ versionBytes self.swVer self.hwVerLen = self.hwVer ∧
        versionBytes self.swVer self.adVerLen = self.adVer := by
    simp only [fieldBytes, bodyFormat, body, Format.seq_enc, Format.tagged_enc, Format.chars_enc,
      Format.byte_enc, Format.array_enc, hswBytes, huserBytes, List.cons_append, List.nil_append,
      List.append_cancel_left_eq, List.cons.injEq, true_and]
    refine and_congr_right fun _ => ?_
    constructor
    · intro h
      obtain ⟨hfirst, hrest⟩ := List.append_inj h hhwLen
      exact ⟨hfirst, (List.append_inj (List.cons.inj hrest).2 hadLen).1⟩
    · rintro ⟨hfirst, hsecond⟩
      rw [hfirst, hsecond]
  rw [hbytes]
  constructor
  · rintro ⟨hlen, hfirst, hsecond⟩
    refine ⟨hlen.symm, ?_, ?_⟩
    · rw [← hfirst, ← hlen, hswBytes]
    · rw [List.prefix_iff_eq_take, had]
      exact hsecond.symm
  · rintro ⟨hlen, hfirst, hsecond⟩
    refine ⟨hlen.symm, ?_, ?_⟩
    · rw [hlen, hswBytes]
      exact hfirst.symm
    · rw [List.prefix_iff_eq_take, had] at hsecond
      exact hsecond.symm

end

/-- A version that is not announced is empty, as in a fresh object. -/
theorem version_of_length {s : List Byte} {len : Byte} (h : s.length = versionChars len) :
    (if announced len then s else []) = s := by
  unfold versionChars at h
  split
  · rfl
  · next hnot =>
      rw [if_neg hnot] at h
      exact (List.eq_nil_of_length_eq_zero h).symm

/-- A fresh object that reads a message's header and fields becomes the message. -/
theorem assign_body (self storage : Veh2CloudInh) (hbody : bodyFormat.Valid self.body) :
    { fresh storage with toMessageHeader := self.toMessageHeader }.assign self.body = self := by
  obtain ⟨hsw, hhw, had, huser⟩ := (body_valid_iff self).mp hbody
  rw [body]
  simp only [assign, fresh, version_of_length hsw, version_of_length hhw, version_of_length had,
    userData_of_length huser]

/-- What a fresh object has read are the fields it should write. -/
theorem body_assign (storage : Veh2CloudInh) (header : MessageHeader) {b : Body}
    (h : bodyFormat.Valid b) :
    ({ fresh storage with toMessageHeader := header }.assign b).body = b := by
  obtain ⟨vehicleId, ⟨swVerLen, swVer⟩, ⟨hwVerLen, hwVer⟩, ⟨adVerLen, adVer⟩, comType,
    posConfidence, timeSync, gnssType, userDataLen, userData⟩ := b
  obtain ⟨-, hsw, hhw, had, -, -, -, -, huser⟩ := h
  rw [assign]
  simp only [body, fresh, version_of_length hsw, version_of_length hhw, version_of_length had,
    userData_of_length huser]

/-- The frame the decoder expects of a message. -/
def frameBytes (self : Veh2CloudInh) (be : Bool) : List Byte :=
  (MessageHeader.format be).enc self.toMessageHeader ++ bodyFormat.enc self.body

theorem frameBytes_length (self : Veh2CloudInh) (be : Bool) :
    (self.frameBytes be).length = self.length := by
  rw [frameBytes, List.length_append, MessageHeader.enc_length, ← enc_body_length, Nat.add_comm]

/-- The frame is decoded from any size that covers it, whatever follows. -/
theorem fromBytes_frameBytes_of_le (self storage : Veh2CloudInh) (be : Bool)
    (hbody : bodyFormat.Valid self.body) (rest : List Byte) {size : ℕ}
    (hle : self.length ≤ size) (hsize : size ≤ (self.frameBytes be ++ rest).length) :
    (fresh storage).fromBytes (some (self.frameBytes be ++ rest)) size be =
      .ok (self, self.length) := by
  have hguard : (fresh storage).length ≤ size := by
    rw [length_eq] at hle
    rw [fresh_length]
    omega
  have hheader : MessageHeader.decode be (self.frameBytes be ++ rest) = self.toMessageHeader := by
    rw [frameBytes, List.append_assoc, MessageHeader.decode_enc]
  have hload := bodyFormat.loadFrom_enc
    (loadFields_eq { fresh storage with toMessageHeader := self.toMessageHeader }) hbody
    ((MessageHeader.format be).enc self.toMessageHeader) rest
  rw [MessageHeader.enc_length, assign_body self storage hbody, ← List.append_assoc,
    ← frameBytes, Nat.add_comm, enc_body_length] at hload
  rw [fromBytes_of_le _ be hsize hguard, hheader, hload]

theorem fromBytes_frameBytes (self storage : Veh2CloudInh) (be : Bool)
    (hbody : bodyFormat.Valid self.body) (rest : List Byte) :
    (fresh storage).fromBytes (some (self.frameBytes be ++ rest))
        (self.frameBytes be ++ rest).length be = .ok (self, self.length) := by
  refine fromBytes_frameBytes_of_le self storage be hbody rest ?_ le_rfl
  rw [List.length_append, frameBytes_length]
  exact Nat.le_add_right _ _

section

variable (self : Veh2CloudInh) (be : Bool) (hbody : bodyFormat.Valid self.body)

include hbody

/-- An encoder that succeeds has written the length of the message, right or wrong. -/
theorem wireBytes_length (hcovered : self.Covered) :
    (self.wireBytes be).length = self.length := by
  obtain ⟨hsw, hhw, had, huser⟩ := (body_valid_iff self).mp hbody
  rw [wireBytes, List.length_append, MessageHeader.enc_length, fieldBytes_length self hcovered,
    length_eq]
  omega

theorem toBytes_iff {mem : List Byte} (hle : self.length ≤ mem.length) :
    self.toBytes (some mem) mem.length be = .ok (written (self.frameBytes be) mem) ↔
      Echoes self.body := by
  constructor
  · intro hto
    by_cases hcovered : self.Covered
    · rw [toBytes_of_fits self be hle hcovered
        ((wireBytes_length self be hbody hcovered).trans_le hle)] at hto
      have hbytes := written_inj (Except.ok.inj hto)
      rw [wireBytes, frameBytes, List.append_cancel_left_eq] at hbytes
      exact (fieldBytes_eq_iff self hbody hcovered).mp hbytes
    · obtain ⟨e, he⟩ := toBytes_of_not_fits self be hle fun h => hcovered h.1
      rw [hto] at he
      cases he
  · intro hechoes
    have hcovered := covered_of_echoes self hbody hechoes
    rw [toBytes_of_fits self be hle hcovered
      ((wireBytes_length self be hbody hcovered).trans_le hle), wireBytes, frameBytes,
      (fieldBytes_eq_iff self hbody hcovered).mpr hechoes]

omit hbody in
/-- Whatever else the encoder writes, the decoder does not turn it into the message. -/
theorem eq_frameBytes_of_decodes {bytes : List Byte} {storage : Veh2CloudInh}
    (hlen : bytes.length = self.length)
    (hfrom : (fresh storage).fromBytes (some bytes) bytes.length be = .ok (self, self.length)) :
    bytes = self.frameBytes be := by
  have h : 32 ≤ bytes.length := by
    rw [hlen, length_eq]
    omega
  by_cases hfits : 16 + bodyFormat.span (bytes.drop 16) ≤ bytes.length
  · obtain ⟨b, hb, hread, hsplit⟩ := fromBytes_fresh_of_fits be le_rfl h hfits
    replace hread := hread storage
    rw [hfrom] at hread
    obtain ⟨hself, hspan⟩ := Prod.mk.inj (Except.ok.inj hread)
    rw [← hspan, ← hlen, List.drop_length, List.append_nil] at hsplit
    have hfields : self.body = b := by
      rw [hself, body_assign storage _ hb]
    have hheader : self.toMessageHeader = MessageHeader.decode be bytes := by
      rw [hself]
      rfl
    rw [frameBytes, hheader, hfields, ← hsplit]
    exact MessageHeader.split_decode be (by omega)
  · rw [fromBytes_fresh_of_not_fits storage be le_rfl h hfits] at hfrom
    cases hfrom

theorem roundTrips_iff (storage : Veh2CloudInh) :
    RoundTrips self.toBytes (fresh storage).fromBytes be self self.length ↔
      Echoes self.body := by
  constructor
  · intro hround
    have hmem : self.length ≤ (List.replicate self.length (0 : Byte)).length := by simp
    obtain ⟨bytes, hlen, hto, hfrom⟩ := hround _ hmem
    have hread := hfrom []
    rw [List.append_nil] at hread
    rw [eq_frameBytes_of_decodes self be hlen hread] at hto
    exact (toBytes_iff self be hbody hmem).mp hto
  · intro hechoes
    exact roundTrips_of_written (self.frameBytes be) (frameBytes_length self be)
      (fun _ hmem => (toBytes_iff self be hbody hmem).mpr hechoes)
      (fromBytes_frameBytes self storage be hbody)

theorem reproduces_iff (storage : Veh2CloudInh) :
    Reproduces (fresh storage).fromBytes toBytes be (self.frameBytes be) ↔
      Echoes self.body := by
  have hread := fromBytes_frameBytes self storage be hbody []
  rw [List.append_nil] at hread
  have hlen := frameBytes_length self be
  constructor
  · rintro ⟨m, hfrom, hto⟩
    rw [hread] at hfrom
    obtain ⟨rfl, -⟩ := Prod.mk.inj (Except.ok.inj hfrom)
    exact (toBytes_iff self be hbody hlen.ge).mp (hto _ le_rfl)
  · intro hechoes
    refine ⟨self, by rw [hread, hlen], ?_⟩
    intro mem hmem
    exact (toBytes_iff self be hbody (hlen.symm.trans_le hmem)).mpr hechoes

end

/-! ## Constructed messages and complete frames -/

theorem stringLen_toNat {s : List Byte} (h : s.length ≤ 254) :
    (stringLen s).toNat = s.length := by
  rw [stringLen, if_neg (by omega), BitVec.toNat_ofNat, Nat.mod_eq_of_lt (by omega)]

theorem stringLen_toNat_of_ge {s : List Byte} (h : 255 ≤ s.length) : (stringLen s).toNat = 0 := by
  rw [stringLen, if_pos h]
  rfl

theorem stringLen_toNat_le (s : List Byte) :
    (stringLen s).toNat ≤ s.length ∧ (stringLen s).toNat ≤ 254 := by
  by_cases h : s.length ≤ 254
  · rw [stringLen_toNat h]
    omega
  · rw [stringLen_toNat_of_ge (by omega)]
    omega

theorem versionChars_of_ne {len : Byte} (h : len ≠ 0xFF) : versionChars len = len.toNat := by
  unfold versionChars
  split
  · rfl
  · next hnot =>
      have hzero : len = 0 := by
        by_contra hne
        exact hnot (announced_iff.mpr ⟨Ne.symm hne, h.symm⟩)
      rw [hzero]
      rfl

/-- The length byte of a string is never the reserved 0xFF. -/
theorem stringLen_ne (s : List Byte) : stringLen s ≠ 0xFF := by
  intro h
  have hnat := congrArg BitVec.toNat h
  have hle := (stringLen_toNat_le s).2
  rw [hnat] at hle
  exact absurd hle (by decide)

/-- What the field constructor establishes. -/
structure Built (m : Veh2CloudInh) : Prop where
  swVerLen : m.swVerLen = stringLen m.swVer
  hwVerLen : m.hwVerLen = stringLen m.hwVer
  adVerLen : m.adVerLen = stringLen m.adVer
  userDataLen : m.userDataLen = stringLen m.userData
  dataLen : m.dataLen.toNat = 16 + m.swVerLen.toNat + m.hwVerLen.toNat + m.adVerLen.toNat +
    m.userDataLen.toNat

theorem new_built (version : Byte) (timestamp : Word 8) (ctrl : Byte)
    (vehicleId swVer hwVer adVer : List Byte) (comType posConfidence timeSync gnssType : Byte)
    (userData : List Byte) :
    (new version timestamp ctrl vehicleId swVer hwVer adVer comType posConfidence timeSync
      gnssType userData).Built where
  swVerLen := rfl
  hwVerLen := rfl
  adVerLen := rfl
  userDataLen := rfl
  dataLen := by
    have hsw := stringLen_toNat_le swVer
    have hhw := stringLen_toNat_le hwVer
    have had := stringLen_toNat_le adVer
    have huser := stringLen_toNat_le userData
    simp only [new, MessageHeader.new, BitVec.toNat_add, BitVec.toNat_setWidth,
      BitVec.toNat_ofNat, sizeof, MessageHeader.sizeof, sizeofString]
    omega

/-- Some string is too long for a length byte, which makes its length byte 0. -/
def Overlong (m : Veh2CloudInh) : Prop :=
  255 ≤ m.swVer.length ∨ 255 ≤ m.hwVer.length ∨ 255 ≤ m.adVer.length ∨ 255 ≤ m.userData.length

theorem Built.body_valid {m : Veh2CloudInh} (h : m.Built) (hshort : ¬ m.Overlong) :
    bodyFormat.Valid m.body := by
  unfold Overlong at hshort
  rw [body_valid_iff, h.swVerLen, h.hwVerLen, h.adVerLen, h.userDataLen,
    versionChars_of_ne (stringLen_ne _), versionChars_of_ne (stringLen_ne _),
    versionChars_of_ne (stringLen_ne _), stringLen_toNat (by omega), stringLen_toNat (by omega),
    stringLen_toNat (by omega), stringLen_toNat (by omega)]
  exact ⟨rfl, rfl, rfl, rfl⟩

theorem Built.echoes_iff {m : Veh2CloudInh} (h : m.Built) :
    Echoes m.body ↔ m.hwVer = m.swVer ∧ m.adVer <+: m.swVer ++ [0] := by
  refine ⟨fun hechoes => hechoes.2, fun hechoes => ⟨?_, hechoes⟩⟩
  rw [h.hwVerLen, h.swVerLen, hechoes.1]

/-- A constructed message comes back exactly when its hardware version repeats the software
version and its autonomous-driving version is a prefix of it, and the same holds of the
complete frames that come back. -/
theorem codec_iff (storage : Veh2CloudInh) (be : Bool) :
    (∀ (version : Byte) (timestamp : Word 8) (ctrl : Byte) (vehicleId swVer hwVer adVer : List Byte)
      (comType posConfidence timeSync gnssType : Byte) (userData : List Byte),
      swVer.length ≤ 254 → hwVer.length ≤ 254 → adVer.length ≤ 254 → userData.length ≤ 254 →
      let m := new version timestamp ctrl vehicleId swVer hwVer adVer comType posConfidence
        timeSync gnssType userData
      RoundTrips m.toBytes (fresh storage).fromBytes be m m.length ↔
        hwVer = swVer ∧ adVer <+: swVer ++ [0]) ∧
    ∀ (header : MessageHeader) (b : Body), bodyFormat.Valid b →
      (Reproduces (fresh storage).fromBytes toBytes be
        ((MessageHeader.format be).enc header ++ bodyFormat.enc b) ↔ Echoes b) := by
  constructor
  · intro version timestamp ctrl vehicleId swVer hwVer adVer comType posConfidence timeSync
      gnssType userData hsw hhw had huser m
    have hbuilt : m.Built := new_built _ _ _ _ _ _ _ _ _ _ _ _
    have hshort : ¬ m.Overlong := by
      change ¬ (255 ≤ swVer.length ∨ 255 ≤ hwVer.length ∨ 255 ≤ adVer.length ∨
        255 ≤ userData.length)
      omega
    rw [roundTrips_iff m be (hbuilt.body_valid hshort) storage]
    exact hbuilt.echoes_iff
  · intro header b hb
    have hfields := body_assign storage header hb
    have hiff := reproduces_iff ({ fresh storage with toMessageHeader := header }.assign b) be
      (by rw [hfields]; exact hb) storage
    rw [frameBytes, hfields] at hiff
    exact hiff

/-- A message with four strings, and a frame with four others: each hardware version repeats the
software version, and each autonomous-driving version begins it. -/
theorem codec_iff_echoed :
    let m := new 1 0x0102030405060708 3 [0x56, 0x31] [0x61, 0x62] [0x61, 0x62] [0x61] 1 2 3 4
      [0x78, 0x79, 0x7A]
    let body : Body := (Vector.replicate 8 0x56, (3, [0x31, 0x2E, 0x30]), (3, [0x31, 0x2E, 0x30]),
      (2, [0x31, 0x2E]), 1, 0, 1, 2, 1, [0x7A])
    RoundTrips m.toBytes (fresh default).fromBytes true m 40 ∧
      Reproduces (fresh default).fromBytes toBytes false
        ((MessageHeader.format false).enc (.new 41 veh2cloudInh 1 5 6) ++ bodyFormat.enc body) := by
  intro m body
  have hbody : bodyFormat.Valid body :=
    ⟨trivial, rfl, rfl, rfl, trivial, trivial, trivial, trivial, rfl⟩
  refine ⟨((codec_iff default true).1 _ _ _ _ _ _ _ _ _ _ _ _ (by decide) (by decide) (by decide)
    (by decide)).mpr ⟨rfl, by decide⟩, ?_⟩
  exact ((codec_iff default false).2 _ body hbody).mpr ⟨rfl, rfl, by decide⟩

/-- A hardware version longer than the software version does not come back. -/
theorem codec_mixes_versions :
    ¬ ∀ (version : Byte) (timestamp : Word 8) (ctrl : Byte)
      (vehicleId swVer hwVer adVer : List Byte)
      (comType posConfidence timeSync gnssType : Byte) (userData : List Byte)
      (storage : Veh2CloudInh) (be : Bool),
      swVer.length ≤ 254 → hwVer.length ≤ 254 → adVer.length ≤ 254 → userData.length ≤ 254 →
      let m := new version timestamp ctrl vehicleId swVer hwVer adVer comType posConfidence
        timeSync gnssType userData
      RoundTrips m.toBytes (fresh storage).fromBytes be m m.length := by
  intro hall
  have hround := hall 1 0 0 [] [0x31] [0x31, 0x32] [] 0 0 0 0 [] default true (by decide)
    (by decide) (by decide) (by decide)
  have hbuilt := new_built 1 0 0 [] [0x31] [0x31, 0x32] [] 0 0 0 0 []
  have hvalid := hbuilt.body_valid (by unfold Overlong; decide)
  have hechoes := (roundTrips_iff _ true hvalid default).mp hround
  exact absurd (hbuilt.echoes_iff.mp hechoes).1 (by decide)

end Csae295.Veh2CloudInh
