import Csae295.Verification.ClassVersion
import Csae295.Verification.InhResCodec
import Csae295.Verification.PackFrame
import Csae295.Verification.Representation

/-! Which messages come back from `pack` and `unpack` as they were.

The data length that the constructors announce decides how much room the encoder gets, so lists
come back in no class; the strings come back where the encoder's mix-up of the versions makes no
difference; and the type and version bytes decide which decoder sees the frame. -/

namespace Csae295

open Library

/-- The messages that the field constructors of the classes build. -/
inductive Message.Constructed : Message → Prop where
  | header (dataLen : Word 4) (dataType version : Byte) (timestamp : Word 8) (ctrl : Byte) :
      Constructed (.header (.new dataLen dataType version timestamp ctrl))
  | inh {m : Veh2CloudInh} (h : m.Constructed) : Constructed (.inh m)
  | inhRes {m : Cloud2VehInhRes} (h : m.Constructed) : Constructed (.inhRes m)
  | state {m : Veh2CloudState} (h : m.Constructed) : Constructed (.state m)
  | state2 {m : Veh2CloudState2} (h : m.Constructed) : Constructed (.state2 m)

/-- Packed and unpacked, the message is returned as it was and handed to its own overload,
whatever the stack and the heap held. -/
def Message.ComesBack (msg : Message) : Prop :=
  ∀ stack storage handler,
    Packer.unpackPacked msg.toMessageHeader msg.toBytes stack storage handler =
      .ok (Packer.deliver handler msg)

namespace Packer

/-! ## The decoder that saw the frame -/

/-- Where a message of each class comes from: the type byte, and the version byte where it
matters, have chosen the class's own constructor. -/
inductive Unpacks (storage : Storage) (mem : List Byte) (size : ℕ) : Message → Prop where
  | header {m : MessageHeader}
      (htype : byteAt mem 5 = heartbeat ∨ byteAt mem 5 = heartbeatRes)
      (h : MessageHeader.ofBuffer storage.header (some mem) size true = .ok m) :
      Unpacks storage mem size (.header m)
  | inh {m : Veh2CloudInh} (htype : byteAt mem 5 = veh2cloudInh)
      (h : Veh2CloudInh.ofBuffer storage.inh (some mem) size true = .ok m) :
      Unpacks storage mem size (.inh m)
  | inhRes {m : Cloud2VehInhRes} (htype : byteAt mem 5 = cloud2vehInhRes)
      (h : Cloud2VehInhRes.ofBuffer storage.inhRes (some mem) size true = .ok m) :
      Unpacks storage mem size (.inhRes m)
  | state {m : Veh2CloudState} (htype : byteAt mem 5 = veh2cloudState)
      (hversion : byteAt mem 6 = 0x01)
      (h : Veh2CloudState.ofBuffer storage.state (some mem) size true = .ok m) :
      Unpacks storage mem size (.state m)
  | state2 {m : Veh2CloudState2} (htype : byteAt mem 5 = veh2cloudState)
      (hversion : byteAt mem 6 = 0x02)
      (h : Veh2CloudState2.ofBuffer storage.state2 (some mem) size true = .ok m) :
      Unpacks storage mem size (.state2 m)

theorem deliver_ok_inj {α : Type} {x : Except Fault α} {wrap : α → Message} {handler : Bool}
    {msg : Message}
    (h : (do
      let a ← x
      .ok (deliver handler (wrap a))) = .ok (deliver handler msg)) :
    ∃ a, x = .ok a ∧ wrap a = msg := by
  cases x with
  | error e => cases h
  | ok a => exact ⟨a, rfl, Option.some.inj (congrArg Unpacked.msg (Except.ok.inj h))⟩

theorem reject_ne_deliver (handler : Bool) (msg : Message) : reject ≠ deliver handler msg := by
  intro h
  cases congrArg Unpacked.msg h

/-- A message that `unpack` delivers comes from the decoder of its class. -/
theorem unpacks_of_deliver {storage : Storage} {mem : List Byte} {size : ℕ} {handler : Bool}
    {msg : Message} (hmem : 6 ≤ mem.length)
    (h : unpack storage (some mem) size handler = .ok (deliver handler msg)) :
    Unpacks storage mem size msg := by
  have hreject : unpack storage (some mem) size handler ≠ .ok reject := by
    rw [h]
    exact fun heq => reject_ne_deliver handler msg (Except.ok.inj heq).symm
  by_cases hsize : size = 0
  · rw [hsize, unpack_empty] at hreject
    exact absurd rfl hreject
  cases route mem with
  | noMarker hid => exact absurd (unpack_of_no_marker storage handler (by omega) hid) hreject
  | cut hid hcut => omega
  | header hid h6 htype =>
      rw [unpack_header storage handler hsize hid h6 htype] at h
      obtain ⟨m, hread, rfl⟩ := deliver_ok_inj h
      exact .header htype hread
  | inh hid h6 htype =>
      rw [unpack_inh storage handler hsize hid h6 htype] at h
      obtain ⟨m, hread, rfl⟩ := deliver_ok_inj h
      exact .inh htype hread
  | inhRes hid h6 htype =>
      rw [unpack_inhRes storage handler hsize hid h6 htype] at h
      obtain ⟨m, hread, rfl⟩ := deliver_ok_inj h
      exact .inhRes htype hread
  | stateCut hid h6 htype =>
      rw [unpack_state_of_cut storage handler hsize hid h6 htype] at h
      cases h
  | state hid h7 htype hversion =>
      rw [unpack_state storage handler hsize hid h7 htype hversion] at h
      obtain ⟨m, hread, rfl⟩ := deliver_ok_inj h
      exact .state htype hversion hread
  | state2 hid h7 htype hversion =>
      rw [unpack_state2 storage handler hsize hid h7 htype hversion] at h
      obtain ⟨m, hread, rfl⟩ := deliver_ok_inj h
      exact .state2 htype hversion hread
  | stateOther hid h7 htype hone htwo =>
      exact absurd (unpack_state_other storage handler hsize hid h7 htype hone htwo) hreject
  | other hid h6 hbeat hbeatRes hinh hinhRes hstate =>
      exact absurd (unpack_other storage handler hsize hid h6 hbeat hbeatRes hinh hinhRes hstate)
        hreject

end Packer

/-! ## What coming back asks of the frame -/

namespace Message

variable {msg : Message}

theorem ComesBack.packs (h : msg.ComesBack) (stack : (n : ℕ) → Vector Byte n) :
    ∃ buf, Packer.pack msg.toMessageHeader msg.toBytes stack = .ok buf := by
  have hback := h stack default true
  unfold Packer.unpackPacked at hback
  cases hpack : Packer.pack msg.toMessageHeader msg.toBytes stack with
  | error e =>
      rw [hpack] at hback
      cases hback
  | ok buf => exact ⟨buf, rfl⟩

theorem not_comesBack_of_error
    (herr : ∀ stack, ∃ e, Packer.pack msg.toMessageHeader msg.toBytes stack = .error e) :
    ¬ msg.ComesBack := by
  intro h
  obtain ⟨e, he⟩ := herr fun n => Vector.replicate n 0
  obtain ⟨buf, hbuf⟩ := h.packs fun n => Vector.replicate n 0
  rw [he] at hbuf
  cases hbuf

theorem comesBack_of_unpack {bytes : List Byte}
    (hpack : ∀ stack, Packer.pack msg.toMessageHeader msg.toBytes stack = .ok (Packer.frame bytes))
    (hlen : bytes.length < 2 ^ 32)
    (h : ∀ storage handler, Packer.unpack storage (some bytes) bytes.length handler =
      .ok (Packer.deliver handler msg)) : msg.ComesBack := by
  intro stack storage handler
  rw [Packer.unpackPacked_of_pack (hpack stack) hlen]
  exact h storage handler

/-- The decoder of its class makes the message of the packed bytes, whatever the heap held. -/
theorem ComesBack.unpacks (h : msg.ComesBack) {bytes : List Byte}
    (hpack : ∀ stack, Packer.pack msg.toMessageHeader msg.toBytes stack = .ok (Packer.frame bytes))
    (hlen : bytes.length < 2 ^ 32) (hmem : 6 ≤ bytes.length) (storage : Storage) :
    Packer.Unpacks storage bytes bytes.length msg := by
  have hback := h (fun n => Vector.replicate n 0) storage true
  rw [Packer.unpackPacked_of_pack (hpack _) hlen] at hback
  exact Packer.unpacks_of_deliver hmem hback

end Message

/-! ## Header -/

namespace MessageHeader

theorem pack_eq (m : MessageHeader) (stack : (n : ℕ) → Vector Byte n) :
    Packer.pack m m.toBytes stack = .ok (Packer.frame ((format true).enc m)) := by
  apply Packer.pack_of_written stack
  intro mem hmem
  exact m.toBytes_of_le true (by omega)

theorem comesBack_iff {m : MessageHeader} (hid : m.id = 0xF2) :
    (Message.header m).ComesBack ↔ m.dataType = heartbeat ∨ m.dataType = heartbeatRes := by
  have hlen := m.enc_length true
  obtain ⟨hmarker, htype, -⟩ := m.byteAt_enc []
  rw [List.append_nil] at hmarker htype
  constructor
  · intro hback
    cases hback.unpacks m.pack_eq (by rw [hlen]; decide) (by omega) default with
    | header hbeat => rwa [htype] at hbeat
  · intro hbeat
    refine Message.comesBack_of_unpack m.pack_eq (by rw [hlen]; decide) ?_
    intro storage handler
    have hdecode := m.decode_enc true []
    rw [List.append_nil] at hdecode
    rw [Packer.unpack_header storage handler (by omega) (hmarker.trans hid) (by omega)
      (by rwa [htype]), ofBuffer, fromBytes_of_le _ true hlen.ge le_rfl, hdecode]
    rfl

end MessageHeader

/-! ## Vehicle information -/

namespace Veh2CloudInh

theorem Constructed.byteAt_enc {m : Veh2CloudInh} (h : m.Constructed) (rest : List Byte) :
    byteAt ((MessageHeader.format true).enc m.toMessageHeader ++ rest) 0 = 0xF2 ∧
      byteAt ((MessageHeader.format true).enc m.toMessageHeader ++ rest) 5 = veh2cloudInh := by
  obtain ⟨hid, htype, -⟩ := m.toMessageHeader.byteAt_enc rest
  cases h
  exact ⟨hid, htype⟩

/-- A buffer of the message's length that is decoded into the message is its frame. -/
theorem eq_frameBytes_of_ofBuffer {m storage : Veh2CloudInh} {bytes : List Byte}
    (hlen : bytes.length = m.length)
    (h : ofBuffer storage (some bytes) bytes.length true = .ok m) : bytes = m.frameBytes true := by
  have hheader : 32 ≤ bytes.length := by
    rw [hlen, length_eq]
    omega
  obtain ⟨offset, hread⟩ := ok_of_constructor h
  by_cases hfits : 16 + bodyFormat.span (bytes.drop 16) ≤ bytes.length
  swap
  · rw [fromBytes_fresh_of_not_fits storage true le_rfl hheader hfits] at hread
    cases hread
  obtain ⟨body, hbody, hassign, hsplit⟩ := fromBytes_fresh_of_fits true le_rfl hheader hfits
  rw [hassign storage] at hread
  obtain ⟨hself, -⟩ := Prod.mk.inj (Except.ok.inj hread)
  have hfields : m.body = body := by
    rw [← hself]
    exact body_assign storage _ hbody
  have hspan : 16 + bodyFormat.span (bytes.drop 16) = bytes.length := by
    rw [hsplit, bodyFormat.span_enc hbody, ← hfields, Nat.add_comm, enc_body_length, hlen]
  have hfrom : (fresh storage).fromBytes (some bytes) bytes.length true = .ok (m, m.length) := by
    rw [hassign storage, hself, hspan, hlen]
  exact eq_frameBytes_of_decodes m true hlen hfrom

/-- The versions repeat what the encoder takes for them. -/
def Repeats (m : Veh2CloudInh) : Prop :=
  ¬ m.Overlong ∧ m.hwVer = m.swVer ∧ m.adVer <+: m.swVer ++ [0]

theorem pack_of_repeats {m : Veh2CloudInh} (h : m.Constructed) (hrepeats : m.Repeats)
    (stack : (n : ℕ) → Vector Byte n) : Packer.pack m.toMessageHeader m.toBytes stack =
      .ok (Packer.frame (m.frameBytes true)) := by
  obtain ⟨hshort, hversions⟩ := hrepeats
  have hbody := h.built.body_valid hshort
  have hechoes := h.built.echoes_iff.mpr hversions
  have hcovered := covered_of_echoes m hbody hechoes
  rw [pack_of_covered h.built stack hshort hcovered, wireBytes, frameBytes,
    (fieldBytes_eq_iff m hbody hcovered).mpr hechoes]

theorem length_lt_of_short {m : Veh2CloudInh} (h : ¬ m.Overlong) : m.length < 2 ^ 32 := by
  unfold Overlong at h
  rw [length_eq]
  omega

theorem comesBack_of_repeats {m : Veh2CloudInh} (h : m.Constructed) (hrepeats : m.Repeats) :
    (Message.inh m).ComesBack := by
  have hlen := m.frameBytes_length true
  have hlt := length_lt_of_short hrepeats.1
  refine Message.comesBack_of_unpack (pack_of_repeats h hrepeats) (by omega) ?_
  intro storage handler
  have hread := fromBytes_frameBytes m storage.inh true (h.built.body_valid hrepeats.1) []
  rw [List.append_nil] at hread
  obtain ⟨hid, htype⟩ := h.byteAt_enc (bodyFormat.enc m.body)
  rw [← frameBytes] at hid htype
  have hlength := m.length_eq
  rw [Packer.unpack_inh storage handler (by omega) hid (by omega) htype, ofBuffer, hread]
  rfl

/-- With a string that is too long only the header is packed, and otherwise what is packed is
the frame that the decoder takes for the message's only if the versions repeat. -/
theorem repeats_of_comesBack {m : Veh2CloudInh} (h : m.Constructed)
    (hback : (Message.inh m).ComesBack) : m.Repeats := by
  have hbuilt := h.built
  by_cases hlong : m.Overlong
  · have hlen := m.toMessageHeader.enc_length true
    cases hback.unpacks (fun stack => pack_of_overlong hbuilt stack hlong)
      (by rw [hlen]; decide) (by omega) default with
    | inh _ hread =>
        obtain ⟨offset, hread⟩ := ok_of_constructor hread
        rw [fromBytes_of_lt _ true hlen.ge le_rfl (by rw [fresh_length]; omega)] at hread
        obtain ⟨hself, -⟩ := Prod.mk.inj (Except.ok.inj hread)
        rw [← hself] at hlong
        unfold Overlong at hlong
        simp only [fresh, List.length_nil] at hlong
        omega
  have hbody := hbuilt.body_valid hlong
  by_cases hcovered : m.Covered
  swap
  · exact absurd hback (Message.not_comesBack_of_error fun stack =>
      pack_of_not_covered hbuilt stack hlong hcovered)
  have hwire := wireBytes_length m true hbody hcovered
  have hlt := length_lt_of_short hlong
  have hlength := m.length_eq
  cases hback.unpacks (fun stack => pack_of_covered hbuilt stack hlong hcovered) (by omega)
    (by omega) default with
  | inh _ hread =>
      have hframe := eq_frameBytes_of_ofBuffer hwire hread
      rw [wireBytes, frameBytes, List.append_cancel_left_eq] at hframe
      exact ⟨hlong, hbuilt.echoes_iff.mp ((fieldBytes_eq_iff m hbody hcovered).mp hframe)⟩

theorem comesBack_iff {m : Veh2CloudInh} (h : m.Constructed) :
    (Message.inh m).ComesBack ↔ m.Repeats :=
  ⟨repeats_of_comesBack h, comesBack_of_repeats h⟩

end Veh2CloudInh

/-! ## Answer to the vehicle information -/

namespace Cloud2VehInhRes

theorem Constructed.dataLen_eq {m : Cloud2VehInhRes} (h : m.Constructed) :
    m.dataLen.toNat = 9 := by
  cases h
  rfl

theorem pack_eq {m : Cloud2VehInhRes} (h : m.Constructed) (stack : (n : ℕ) → Vector Byte n) :
    Packer.pack m.toMessageHeader m.toBytes stack = .ok (Packer.frame m.wireBytes) := by
  have hdata := h.dataLen_eq
  apply Packer.pack_of_written stack
  intro mem hmem
  exact m.toBytes_of_le true hmem.ge (by omega)

theorem comesBack {m : Cloud2VehInhRes} (h : m.Constructed) : (Message.inhRes m).ComesBack := by
  have hlen := m.wireBytes_length
  obtain ⟨hid, htype, -⟩ := m.toMessageHeader.byteAt_enc (bodyFormat.enc m.body)
  rw [← wireBytes] at hid htype
  refine Message.comesBack_of_unpack (pack_eq h) (by rw [hlen]; decide) ?_
  intro storage handler
  have hread := m.fromBytes_wireBytes storage.inhRes h.dataLen_eq [] hlen.ge
    (by rw [List.append_nil])
  rw [List.append_nil] at hread
  have hmarker : byteAt m.wireBytes 0 = 0xF2 ∧ byteAt m.wireBytes 5 = cloud2vehInhRes := by
    rw [hid, htype]
    cases h
    exact ⟨rfl, rfl⟩
  rw [Packer.unpack_inhRes storage handler (by omega) hmarker.1 (by omega) hmarker.2, ofBuffer,
    hread]
  rfl

end Cloud2VehInhRes

/-! ## Vehicle state -/

namespace Veh2CloudState

theorem comesBack_iff {m : Veh2CloudState} (h : m.Constructed) :
    (Message.state m).ComesBack ↔ m.version = 0x01 ∧ m.passPos = [] := by
  have hbuilt := h.built
  have hdata := hbuilt.dataLen
  constructor
  · intro hback
    by_cases hguard : m.dataLen.toNat < 82 + m.passPos.length
    · -- only the header is packed, and a fresh object has no pass points
      have hlen := m.toMessageHeader.enc_length true
      obtain ⟨-, -, hversion⟩ := m.toMessageHeader.byteAt_enc []
      rw [List.append_nil] at hversion
      cases hback.unpacks (fun stack => pack_of_wrapped stack hguard) (by rw [hlen]; decide)
          (by omega) default with
      | state _ hone hread =>
          obtain ⟨offset, hread⟩ := ok_of_constructor hread
          rw [fromBytes_of_lt _ true hlen.ge le_rfl (by rw [fresh_length]; omega)] at hread
          obtain ⟨hself, -⟩ := Prod.mk.inj (Except.ok.inj hread)
          exact ⟨hversion.symm.trans hone, by rw [← hself]; rfl⟩
    by_cases hfits : 82 + 8 * m.passPosNum.toNat ≤ m.dataLen.toNat
    swap
    · exact absurd hback (Message.not_comesBack_of_error fun stack => pack_of_not_fits hbuilt stack
        (Nat.le_of_not_lt hguard) (Nat.lt_of_not_ge hfits))
    have hlen := wireBytes_length m true hbuilt.covered
    have hbyte := m.passPosNum.isLt
    cases hback.unpacks (fun stack => pack_of_fits hbuilt stack (Nat.le_of_not_lt hguard) hfits)
        (by omega) (by omega) default with
    | state _ hone hread =>
        obtain ⟨-, -, hversion⟩ := h.byteAt_wireBytes []
        rw [List.append_nil] at hversion
        have hcall : Call.Proper ⟨some (m.wireBytes true), (m.wireBytes true).length, true⟩ := by
          rintro _ ⟨⟩
          exact le_rfl
        have hcounted := (counted_ofBuffer_iff hcall hread).mpr (.inr rfl)
        rw [h.counted_iff] at hcounted
        have hnum := hbuilt.passPosNum
        exact ⟨hversion.symm.trans hone, List.eq_nil_of_length_eq_zero (by omega)⟩
  · rintro ⟨hone, hpos⟩ stack storage handler
    have hunpack := unpackPacked_eq h hpos stack storage handler
    rwa [if_pos hone] at hunpack

end Veh2CloudState

/-! ## Vehicle state, version 2 -/

namespace Veh2CloudState2

/-- A frame that ends behind the first version leaves the fields of the second as they were. -/
theorem absFlag_of_base {m storage : Veh2CloudState2} {base : Veh2CloudState}
    (hpos : base.passPosNum.toNat = base.passPos.length)
    (h : ofBuffer storage (some (base.wireBytes true)) (base.wireBytes true).length true = .ok m) :
    m.absFlag = storage.absFlag := by
  obtain ⟨offset, hread⟩ := ok_of_constructor h
  have hbase := base.fromBytes_wireBytes storage.toVeh2CloudState true hpos []
  have hlen := base.wireBytes_length true hpos.le
  rw [List.append_nil, ← hpos, ← hlen] at hbase
  rw [fromBytes_of_base (fresh storage) hbase le_rfl, fresh_restLength, if_pos (by omega)] at hread
  obtain ⟨hself, -⟩ := Prod.mk.inj (Except.ok.inj hread)
  rw [← hself]
  rfl

/-- The message has no list but its user data, which its length byte can count. -/
structure Countable (m : Veh2CloudState2) : Prop where
  passPos : m.passPos = []
  wheelVelocity : m.wheelVelocity = []
  tirePressure : m.tirePressure = []
  userData : m.userData.length ≤ 255

/-- A message that comes back has counts that match its containers. -/
theorem matched_of_comesBack {m : Veh2CloudState2} (hback : (Message.state2 m).ComesBack)
    {bytes : List Byte}
    (hpack : ∀ stack, Packer.pack m.toMessageHeader m.toBytes stack = .ok (Packer.frame bytes))
    (hlen : bytes.length < 2 ^ 32) (hmem : 6 ≤ bytes.length) :
    m.Matched ∧ byteAt bytes 6 = 0x02 := by
  cases hback.unpacks hpack hlen hmem default with
  | state2 _ htwo hread =>
      have hcall : Call.Proper ⟨some bytes, bytes.length, true⟩ := by
        rintro _ ⟨⟩
        exact le_rfl
      exact ⟨(matched_ofBuffer_iff hcall hread).mpr ⟨.inr rfl, .inr ⟨rfl, rfl⟩⟩, htwo⟩

section

variable {m : Veh2CloudState2} (h : m.Constructed)

include h

/-- What the constructor announces of a message whose counts match. -/
theorem Matched.sizes (hmatched : m.Matched) :
    m.dataLen.toNat = 126 + m.passPos.length + 2 * m.wheelVelocity.length + m.userData.length ∧
      m.start = 82 + 8 * m.passPos.length ∧
      m.restLength = 44 + 2 * m.wheelVelocity.length + m.userData.length ∧
      m.baseBytes = m.toVeh2CloudState.wireBytes true := by
  have hdata := h.built.dataLen
  obtain ⟨hpos, hwheel, htire, huser⟩ := hmatched
  have hposByte := m.passPosNum.isLt
  have hwheelByte := m.wheelNum.isLt
  have huserByte := m.userDataLen.isLt
  rw [Nat.mod_eq_of_lt (by omega)] at hdata
  have hguard : ¬ m.dataLen.toNat < 82 + m.passPos.length := by omega
  refine ⟨by omega, ?_, ?_, ?_⟩
  · rw [start, if_neg hguard, hpos]
  · rw [restLength]
    omega
  · rw [baseBytes, if_neg hguard]

/-- With pass points the second version's fields find no room, and with wheels the room is too
small for their values. -/
theorem countable_of_comesBack (hback : (Message.state2 m).ComesBack) :
    m.version = 0x02 ∧ m.Countable := by
  have hbuilt := h.built
  obtain ⟨fields, hbase, hfields⟩ := baseBytes_split hbuilt
  have hheader := m.toMessageHeader.enc_length true
  by_cases hstart : m.start ≤ m.dataLen.toNat
  swap
  · exact absurd hback (Message.not_comesBack_of_error fun stack =>
      pack_of_base_error hbuilt stack (Nat.lt_of_not_ge hstart))
  have hbaseLen := baseBytes_length hbuilt
  have hstartLt : m.start < 2 ^ 16 := by
    have hbyte := m.passPosNum.isLt
    unfold start
    split <;> omega
  by_cases hrest : m.dataLen.toNat < m.start + m.restLength
  · have hpack := fun stack => pack_of_lt hbuilt stack hstart hrest
    obtain ⟨hmatched, -⟩ := matched_of_comesBack hback hpack (by omega) (by omega)
    obtain ⟨-, -, -, hwire⟩ := hmatched.sizes h
    rw [hwire] at hpack hbaseLen
    -- the frame is the same for every heap, and so is the message, but not what is left of it
    have hflag : ∀ storage : Storage, m.absFlag = storage.state2.absFlag := by
      intro storage
      cases hback.unpacks hpack (by omega) (by omega) storage with
      | state2 _ _ hread => exact absFlag_of_base hmatched.passPos hread
    have hflags := (hflag default).symm.trans (hflag
      { (default : Storage) with state2 := { (default : Veh2CloudState2) with absFlag := 1 } })
    exact absurd hflags (by decide)
  have hle := Nat.le_of_not_lt hrest
  by_cases hfits : m.Covered ∧
      m.start + 44 + 4 * m.wheelNum.toNat + m.userDataLen.toNat ≤ m.dataLen.toNat
  swap
  · exact absurd hback (Message.not_comesBack_of_error fun stack =>
      pack_of_not_fits hbuilt stack hstart hle hfits)
  have hbody := body_length m true hfits.1
  have hpack := fun stack => pack_of_fits hbuilt stack hstart hle hfits.1 hfits.2
  have hwheelByte := m.wheelNum.isLt
  have huserByte := m.userDataLen.isLt
  have hlen : (m.baseBytes ++ (bodyFormat true).enc m.body).length =
      60 + m.start + 4 * m.wheelNum.toNat + m.userDataLen.toNat := by
    rw [List.length_append, hbaseLen, hbody]
    omega
  obtain ⟨hmatched, hversion⟩ := matched_of_comesBack hback hpack (by omega) (by omega)
  obtain ⟨hdata, hstartEq, -, -⟩ := hmatched.sizes h
  rw [hbase, List.append_assoc, (m.toMessageHeader.byteAt_enc _).2.2] at hversion
  obtain ⟨-, hwheel, htire, huser⟩ := hmatched
  refine ⟨hversion, ?_, ?_, ?_, by omega⟩
  · exact List.eq_nil_of_length_eq_zero (by omega)
  · exact List.eq_nil_of_length_eq_zero (by omega)
  · exact List.eq_nil_of_length_eq_zero (by omega)

theorem Countable.matched (hcount : m.Countable) : m.Matched := by
  obtain ⟨-, hposNum, hwheelNum, huserLen⟩ := h.built
  obtain ⟨hpos, hwheel, htire, huser⟩ := hcount
  rw [hpos] at hposNum
  rw [hwheel] at hwheelNum
  refine ⟨?_, ?_, ?_, by omega⟩
  · rw [hposNum, hpos]
    rfl
  · rw [hwheelNum, hwheel]
    rfl
  · rw [hwheelNum, htire]
    rfl

omit h in
theorem Countable.frameLength_eq (hcount : m.Countable) :
    m.frameLength = 142 + m.userData.length := by
  rw [frameLength, hcount.passPos, hcount.wheelVelocity]
  rfl

theorem pack_of_countable (hcount : m.Countable) (stack : (n : ℕ) → Vector Byte n) :
    Packer.pack m.toMessageHeader m.toBytes stack = .ok (Packer.frame (m.wireBytes true)) := by
  have hmatched := hcount.matched h
  obtain ⟨hdata, hstart, hrest, hwire⟩ := hmatched.sizes h
  have hcounted := hmatched.userData
  rw [hcount.passPos, hcount.wheelVelocity, List.length_nil] at hdata
  rw [hcount.passPos, List.length_nil] at hstart
  rw [hcount.wheelVelocity, List.length_nil] at hrest
  have hfits := pack_of_fits h.built stack (by omega) (by omega) hmatched.covered
    (by rw [hmatched.wheelVelocity, hcount.wheelVelocity, List.length_nil]; omega)
  rwa [hwire] at hfits

theorem comesBack_of_countable (htwo : m.version = 0x02) (hcount : m.Countable) :
    (Message.state2 m).ComesBack := by
  have hmatched := hcount.matched h
  have hframe := hcount.frameLength_eq
  have hlen := (wireBytes_length true hmatched).trans hframe
  have hnone : m.wheelNum = 0 := BitVec.eq_of_toNat_eq
    (by rw [hmatched.wheelVelocity, hcount.wheelVelocity]; rfl)
  have huser := hcount.userData
  refine Message.comesBack_of_unpack (pack_of_countable h hcount) (by omega) ?_
  intro storage handler
  obtain ⟨hid, htype, hversion⟩ := h.byteAt_wireBytes []
  rw [List.append_nil] at hid htype hversion
  have hto := toBytes_wireBytes true hmatched (hframe.trans hlen.symm).le
  have hread := (roundTrips_of_no_wheels storage.state2 true hmatched hnone).decodes
    (hframe.trans hlen.symm).le hto []
  rw [List.append_nil] at hread
  rw [Packer.unpack_state2 storage handler (by omega) hid (by omega) htype (hversion.trans htwo),
    ofBuffer, hread]
  rfl

theorem comesBack_iff : (Message.state2 m).ComesBack ↔ m.version = 0x02 ∧ m.Countable :=
  ⟨countable_of_comesBack h, fun ⟨htwo, hcount⟩ => comesBack_of_countable h htwo hcount⟩

end

end Veh2CloudState2

/-! ## All classes -/

/-- What a class asks of a constructed message to come back. -/
def Message.Intact : Message → Prop
  | .header m => m.dataType = heartbeat ∨ m.dataType = heartbeatRes
  | .inh m => m.Repeats
  | .inhRes _ => True
  | .state m => m.version = 0x01 ∧ m.passPos = []
  | .state2 m => m.version = 0x02 ∧ m.Countable

namespace Packer

/-- Exactly these constructed messages come back from `pack` and `unpack`: heartbeats; vehicle
information that is not overlong, whose hardware version is the software version and whose
autonomous-driving version is a prefix of this with its terminating zero; every answer to it; and
states under the version of their class, without pass points and, in version 2, without wheel
velocities and tire pressures and with no more user data than a byte can count. -/
theorem unpack_pack_iff {msg : Message} (h : msg.Constructed) : msg.ComesBack ↔ msg.Intact := by
  cases h with
  | header dataLen dataType version timestamp ctrl => exact MessageHeader.comesBack_iff rfl
  | inh h => exact Veh2CloudInh.comesBack_iff h
  | inhRes h => exact iff_of_true (Cloud2VehInhRes.comesBack h) trivial
  | state h => exact Veh2CloudState.comesBack_iff h
  | state2 h => exact Veh2CloudState2.comesBack_iff h

/-- An INH with a prefix of its software version comes back, and with another autonomous-driving
version it does not; nor does a state with a pass point. -/
theorem unpack_pack_iff_versions :
    let inh (adVer : List Byte) := Veh2CloudInh.new 1 5 6 [0x56, 0x31] [0x61, 0x62] [0x61, 0x62]
      adVer 1 2 3 4 [0x78]
    let state (passPos : List Position2D) := Veh2CloudState.new 1 5 6 [0x56] [1, 2, 3] 4 500
      ⟨116, 40, 50⟩ 90 3 1 600 7 8 9 10 11 1200 13 1 14 15 16 2 ⟨117, 41⟩ passPos
    (Message.inh (inh [0x61])).ComesBack ∧ ¬ (Message.inh (inh [0x63])).ComesBack ∧
      (Message.state (state [])).ComesBack ∧ ¬ (Message.state (state [⟨118, 42⟩])).ComesBack := by
  intro inh state
  have hshort (adVer : List Byte) (h : adVer.length = 1) : ¬ (inh adVer).Overlong := by
    simp [Veh2CloudInh.Overlong, inh, Veh2CloudInh.new, h]
  refine ⟨(unpack_pack_iff (.inh (.new ..))).mpr ⟨hshort _ rfl, rfl, by decide⟩, fun hback => ?_,
    (unpack_pack_iff (.state (.new ..))).mpr ⟨rfl, rfl⟩, fun hback => ?_⟩
  · exact absurd ((unpack_pack_iff (.inh (.new ..))).mp hback).2.2 (by decide)
  · exact absurd ((unpack_pack_iff (.state (.new ..))).mp hback).2 (List.cons_ne_nil _ _)

end Packer

end Csae295
