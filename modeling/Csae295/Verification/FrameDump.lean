import Csae295.Verification.Dump
import Csae295.Verification.Stream

/-! What a receive thread inserts into `std::cout`, against the frames that have come.

Field by field the printed text of a message shows the bytes of its frame at their places, unless
the message carries user data of 255 bytes, which are not printed, or is a state whose steering
angle or identifier is printed in another way. What is printed is never longer than the dump that
it stands for, so a log is the dump of its frames only where every one of them is shown. -/

namespace Csae295

open Library
open Print

theorem hexDump_append (fields fields' : List Field) : hexDump (fields ++ fields') =
    hexDump fields ++ dumpFrom (frameOf fields).length (fields'.map Field.line) := by
  rw [hexDump, List.map_append, dumpFrom_append, Nat.zero_add, totalSize_fields, hexDump]

theorem Line.text_ne_nil (l : Line) (offset : ℕ) : l.text offset ≠ [] :=
  List.append_ne_nil_of_right_ne_nil _ (by decide)

/-! ## Strings -/

/-- A string on the wire, which has no line of its own where it is empty. -/
def stringFields (label s : List Byte) : List Field :=
  if s = [] then [] else [⟨s, label ++ utf8 ": " ++ cString s⟩]

theorem frameOf_stringFields (label s : List Byte) : frameOf (stringFields label s) = s := by
  unfold stringFields
  split
  · next hnil => exact hnil.symm
  · simp [frameOf]

theorem announced_ne_nil {s : List Byte} {len : Byte} (hannounced : announced len)
    (hs : s.length = len.toNat) : s ≠ [] := by
  rintro rfl
  exact (announced_iff.mp hannounced).1 (BitVec.eq_of_toNat_eq hs)

namespace Print

variable {label s : List Byte} {len : Byte}

theorem prints_string (hlabel : label.length ≤ 64) (hs : announced len → s.length = len.toNat)
    (hlen : Printable len) : (string label s len).Prints
      (if announced len then (stringFields label s).map Field.line else []) := by
  unfold string
  split
  · next hannounced =>
      have hle : len.toNat ≤ 127 := hlen.resolve_right (announced_iff.mp hannounced).2.symm
      have hlength := hs hannounced
      have hread : len.toNat ≤ (s ++ [0]).length := by
        rw [List.length_append]
        omega
      have htext := cString_length_le s
      rw [digits_of_fits hread hle, pure_bind, List.take_left' hlength, stringFields,
        if_neg (announced_ne_nil hannounced hlength), List.map_singleton, Field.line, hlength]
      apply prints_texts
      simp only [Line.Short, List.length_append, hexOf_length, utf8_colon_length]
      omega
  · exact prints_pure

/-- A version string is on the wire exactly where it is printed. -/
theorem prints_version (hlabel : label.length ≤ 64) (hs : s.length = Veh2CloudInh.versionChars len)
    (hlen : Printable len) :
    (string label s len).Prints ((stringFields label s).map Field.line) := by
  have hprints := prints_string hlabel (fun h => hs.trans (if_pos h)) hlen
  by_cases hannounced : announced len
  · rwa [if_pos hannounced] at hprints
  · have hnil : s = [] := List.length_eq_zero_iff.mp (hs.trans (if_neg hannounced))
    have hfields : [] = (stringFields label s).map Field.line := by rw [hnil]; rfl
    rwa [if_neg hannounced, hfields] at hprints

end Print

/-! ## Vehicle information -/

namespace Veh2CloudInh

/-- The fields up to the length of the user data. -/
def frontFields (self : Veh2CloudInh) : List Field :=
  self.toMessageHeader.fields ++
    (⟨self.vehicleId.toList, utf8 "车辆编号" ++ utf8 ": " ++ cString self.vehicleId.toList⟩ ::
      .byte (utf8 "车载终端设备软件版本号长度") self.swVerLen ::
      (stringFields (utf8 "车辆软件版本") self.swVer ++
        .byte (utf8 "自动驾驶系统硬件版本号长度") self.hwVerLen ::
        (stringFields (utf8 "自动驾驶系统硬件版本") self.hwVer ++
          .byte (utf8 "自动驾驶系统软件版本号长度") self.adVerLen ::
          (stringFields (utf8 "自动驾驶系统软件版本号") self.adVer ++
            [.byte (utf8 "无线通讯类型") self.comType, .byte (utf8 "定位精度") self.posConfidence,
              .byte (utf8 "时间同步方式") self.timeSync, .byte (utf8 "坐标系类型") self.gnssType,
              .byte (utf8 "自定义字段长度") self.userDataLen]))))

def userFields (self : Veh2CloudInh) : List Field := stringFields (utf8 "自定义字段内容") self.userData

def fields (self : Veh2CloudInh) : List Field := self.frontFields ++ self.userFields

theorem frameOf_fields (self : Veh2CloudInh) : frameOf self.fields = self.frameBytes true := by
  have hstring := frameOf_stringFields
  simp only [frameOf] at hstring
  simp only [frameOf, fields, frontFields, userFields, Field.byte, List.flatMap_append,
    List.flatMap_cons, List.flatMap_nil, hstring, List.append_assoc, List.append_nil]
  rw [← frameOf, MessageHeader.frameOf_fields]
  simp only [frameBytes, bodyFormat, body, Format.seq_enc, Format.tagged_enc, Format.chars_enc,
    Format.byte_enc, Format.array_enc, List.cons_append, List.nil_append]

variable {m : Veh2CloudInh}

theorem print_eq (hbody : bodyFormat.Valid m.body) (h : m.AllPrintable) (os : List Byte) :
    m.print os = .ok (os ++ dumpFrom 0 (m.frontFields.map Field.line ++
      if announced m.userDataLen then m.userFields.map Field.line else [])) := by
  obtain ⟨hsw, hhw, had, huser⟩ := h
  obtain ⟨hswVer, hhwVer, hadVer, huserData⟩ := (body_valid_iff m).mp hbody
  have htext := (cString_length_le m.vehicleId.toList).trans (Vector.length_toList).le
  rw [Veh2CloudInh.print, print_of_base (m.toMessageHeader.print_eq os), digits_array, pure_bind,
    frontFields, List.map_append, List.append_assoc, dumpFrom_append, ← hexDump, Nat.zero_add,
    totalSize_fields, MessageHeader.frameOf_fields, MessageHeader.enc_length, ← List.append_assoc]
  refine Prints.start ?_ _ _
  simp only [List.map_append, List.map_cons, List.map_nil, List.cons_append, List.nil_append,
    List.append_assoc]
  apply (prints_array m.vehicleId (by decide) (by omega)).cons
  apply (prints_byte _ (by decide)).cons
  refine (prints_version (by decide) hswVer hsw).bind ?_
  apply (prints_byte _ (by decide)).cons
  refine (prints_version (by decide) hhwVer hhw).bind ?_
  apply (prints_byte _ (by decide)).cons
  refine (prints_version (by decide) hadVer had).bind ?_
  iterate 5 apply (prints_byte _ (by decide)).cons
  exact prints_string (by decide) (fun _ => huserData) huser

/-- All strings are short enough to print, and no user data is announced that is not printed. -/
def Shown (m : Veh2CloudInh) : Prop := m.AllPrintable ∧ m.userDataLen ≠ 0xFF

/-- The printed text is the dump but for user data of 255 bytes. -/
theorem hasText (hbody : bodyFormat.Valid m.body) (h : m.AllPrintable) :
    ∃ text, (Message.inh m).HasText text ∧ text.length ≤ (hexDump m.fields).length ∧
      (text = hexDump m.fields ↔ m.Shown) := by
  refine ⟨_, m.print_eq hbody h, ?_⟩
  rw [fields, hexDump_append, dumpFrom_append, ← hexDump, Nat.zero_add, totalSize_fields]
  have huser := ((body_valid_iff m).mp hbody).2.2.2
  by_cases hannounced : announced m.userDataLen
  · rw [if_pos hannounced]
    exact ⟨le_rfl, iff_of_true rfl ⟨h, (announced_iff.mp hannounced).2.symm⟩⟩
  rw [if_neg hannounced]
  refine ⟨by simp [dumpFrom], ?_⟩
  rw [List.append_cancel_left_eq]
  by_cases hhidden : m.userDataLen = 0xFF
  · refine iff_of_false ?_ fun hshown => hshown.2 hhidden
    have hne : m.userData ≠ [] := by
      intro hnil
      rw [hnil, hhidden] at huser
      exact absurd huser (by decide)
    rw [userFields, stringFields, if_neg hne, List.map_singleton, dumpFrom]
    exact (List.append_ne_nil_of_left_ne_nil (Line.text_ne_nil _ _) _).symm
  · refine iff_of_true ?_ ⟨h, hhidden⟩
    have hnil : m.userData = [] := by
      rw [announced_iff, and_iff_left (Ne.symm hhidden), not_not] at hannounced
      rw [← hannounced] at huser
      exact List.length_eq_zero_iff.mp huser
    rw [userFields, hnil]
    rfl

end Veh2CloudInh

namespace Cloud2VehInhRes

def fields (self : Cloud2VehInhRes) : List Field :=
  self.toMessageHeader.fields ++
    [⟨self.vehicleId.toList, utf8 "车辆编号" ++ utf8 ": " ++ cString self.vehicleId.toList⟩,
      .byte (utf8 "执行标志") self.res]

theorem frameOf_fields (self : Cloud2VehInhRes) : frameOf self.fields = self.wireBytes := by
  rw [frameOf, fields, List.flatMap_append, ← frameOf, MessageHeader.frameOf_fields]
  simp [Field.byte, wireBytes, bodyFormat, body]

theorem print_eq (self : Cloud2VehInhRes) (os : List Byte) :
    self.print os = .ok (os ++ hexDump self.fields) := by
  have htext := (cString_length_le self.vehicleId.toList).trans (Vector.length_toList).le
  rw [Cloud2VehInhRes.print, print_of_base (self.toMessageHeader.print_eq os), digits_array,
    pure_bind, fields, hexDump_append, MessageHeader.frameOf_fields, MessageHeader.enc_length,
    ← List.append_assoc]
  refine Prints.start ?_ _ _
  apply (prints_array self.vehicleId (by decide) (by omega)).cons
  exact prints_byte self.res (by decide)

end Cloud2VehInhRes

/-! ## Messages -/

namespace Message

/-- The fields of the message's frame. -/
def fields : Message → List Field
  | .header m => m.fields
  | .inh m => m.fields
  | .inhRes m => m.fields
  | .state m => m.fields
  | .state2 m => m.fields

/-- The printed text is the dump of the message's frame. -/
def Shown : Message → Prop
  | .inh m => m.Shown
  | .state m => 2 ^ 28 ≤ m.steeringAngle.toNat ∧ ∀ b ∈ m.messageId.toList, SameDigits b
  | .state2 _ => False
  | _ => True

variable {msg : Message} {bytes : List Byte}

theorem WellFormed.frameOf_fields (h : msg.WellFormed bytes) : frameOf msg.fields = bytes := by
  cases h with
  | @header m => exact m.frameOf_fields
  | @inh m => exact m.frameOf_fields
  | @inhRes m => exact m.frameOf_fields
  | @state m _ _ hpos => exact m.frameOf_fields hpos
  | @state2 m _ _ hmatched => exact Veh2CloudState2.frameOf_fields hmatched

/-- What is printed of a message is no longer than the dump of its frame, and is it only where the
message is shown. -/
theorem WellFormed.hasText (h : msg.WellFormed bytes) (hdeliverable : msg.Deliverable) :
    ∃ text, msg.HasText text ∧ text.length ≤ (hexDump msg.fields).length ∧
      (text = hexDump msg.fields ↔ msg.Shown) := by
  cases h with
  | @header m => exact ⟨_, m.print_eq, le_rfl, iff_of_true rfl trivial⟩
  | inh _ hbody => exact Veh2CloudInh.hasText hbody hdeliverable
  | @inhRes m => exact ⟨_, m.print_eq, le_rfl, iff_of_true rfl trivial⟩
  | @state m _ _ hpos =>
      have hlt := m.passPosNum.isLt
      have hsize := m.totalSize_fields_eq hpos
      have hstand := m.lines_stand
      refine ⟨_, m.print_eq hpos, ?_, m.dumpFrom_lines_iff hpos⟩
      rw [fields, hexDump, dumpFrom_length (by rw [totalSize_eq hstand]; omega),
        dumpFrom_length (by omega)]
      exact sum_width_le hstand
  | state2 => exact hdeliverable.elim

end Message

/-! ## Logs -/

/-- The frames' dumps, each behind a line break. -/
def dumpLog (frames : List Frame) : List Byte :=
  frames.flatMap fun frame => utf8 "\n" ++ hexDump frame.msg.fields

/-- A log of frames is their dumps only where each of them is shown: no text makes up for another
one's missing bytes. -/
theorem log_eq_iff {frames : List Frame} {texts : List (List Byte)}
    (hdeliverable : ∀ frame ∈ frames, frame.msg.Deliverable)
    (h : List.Forall₂ Message.HasText (frames.map Frame.msg) texts) :
    (texts.flatMap (utf8 "\n" ++ ·)).length ≤ (dumpLog frames).length ∧
      (texts.flatMap (utf8 "\n" ++ ·) = dumpLog frames ↔ ∀ frame ∈ frames, frame.msg.Shown) := by
  induction frames generalizing texts with
  | nil =>
      cases h
      exact ⟨le_rfl, iff_of_true rfl fun _ hframe => absurd hframe List.not_mem_nil⟩
  | cons frame frames ih =>
      cases h with
      | @cons _ text _ texts htext htexts =>
          obtain ⟨hfirst, hrest⟩ := List.forall_mem_cons.mp hdeliverable
          obtain ⟨text', htext', hlength, hshown⟩ := frame.wellFormed.hasText hfirst
          obtain rfl : text = text' := by
            have hsame := (htext []).symm.trans (htext' [])
            exact List.append_cancel_left (Except.ok.inj hsame)
          obtain ⟨hlengths, heq⟩ := ih hrest htexts
          have hle :
              (utf8 "\n" ++ text).length ≤ (utf8 "\n" ++ hexDump frame.msg.fields).length := by
            rw [List.length_append, List.length_append]
            omega
          simp only [dumpLog, List.flatMap_cons] at hlengths heq ⊢
          refine ⟨?_, ?_⟩
          · have htotal := Nat.add_le_add hle hlengths
            rwa [← List.length_append, ← List.length_append] at htotal
          · rw [append_eq_append_iff_of_le hle hlengths, List.append_cancel_left_eq, hshown, heq,
              List.forall_mem_cons]

theorem deliverable_of_fronts {chunks : List (List Byte)} {frames : List Frame}
    (h : List.Forall₂ Begins chunks frames) : ∀ frame ∈ frames, frame.msg.Deliverable := by
  induction h with
  | nil => exact fun _ hframe => absurd hframe List.not_mem_nil
  | cons hfront _ ih => exact List.forall_mem_cons.mpr ⟨hfront.deliverable, ih⟩

namespace Controller

/-- What a receive thread inserts into `std::cout`, when every `recv` returns bytes that begin with
a deliverable frame, is the annotated hex dump of these frames exactly when each of them is shown:
no INH has user data of 255 bytes, and every state has a steering angle of eight digits and an
identifier whose bytes have the same digit twice. -/
theorem recv_dumps_iff {results : List RecvResult} {frames : List Frame}
    (hcontinues : ∀ result ∈ results, result.Continues)
    (hfronts : List.Forall₂ Begins (received results) frames) (self : Handler) :
    (∀ frame ∈ frames, frameOf frame.msg.fields = frame.bytes) ∧
      ∀ thread ∈ [upSocketRecvThread, downSocketRecvThread], ∃ self',
        thread self results = .ok self' ∧
          (self'.os = self.os ++ dumpLog frames ↔ ∀ frame ∈ frames, frame.msg.Shown) := by
  refine ⟨fun frame _ => frame.wellFormed.frameOf_fields, fun thread hthread => ?_⟩
  rw [recvThread_eq hthread]
  obtain ⟨self', texts, hrun, hlogs⟩ := recvLoop_fronts hcontinues hfronts self _
  refine ⟨self', hrun, ?_⟩
  rw [hlogs.os, List.append_cancel_left_eq]
  exact (log_eq_iff (deliverable_of_fronts hfronts) hlogs.hasText).2

/-- A state whose steering angle and identifier are printed as they stand on the wire. -/
def shownFrame : Frame :=
  let msg : Veh2CloudState :=
    { Veh2CloudState.new 1 5 6 [0x56] [0x11, 0x22, 0xFF] 4 500 ⟨116, 40, 50⟩ 90 3 0x12345678 600 7 8
        9 10 11 1200 13 1 14 15 16 2 ⟨117, 41⟩ [⟨118, 42⟩] with dataLen := 90 }
  { msg := .state msg
    bytes := msg.wireBytes true
    wellFormed := .state ⟨rfl, rfl, rfl⟩ rfl rfl }

/-- An INH, with a heartbeat behind it that is lost, and a state that are shown, and a state that is
not. -/
theorem recv_dumps_iff_filled : ∃ (results : List RecvResult) (self' : Handler),
    received results = [inhFrame.bytes ++ heartbeatFrame.bytes, shownFrame.bytes] ∧
      upSocketRecvThread ⟨false, [], []⟩ results = .ok self' ∧
      self'.os = dumpLog [inhFrame, shownFrame] ∧
    ∃ (results' : List RecvResult) (self'' : Handler), received results' = [stateFrame.bytes] ∧
      upSocketRecvThread ⟨false, [], []⟩ results' = .ok self'' ∧
        self''.os ≠ dumpLog [stateFrame] := by
  have hinh : (inhFrame.bytes ++ heartbeatFrame.bytes).length = 55 := by decide +kernel
  have hshown : shownFrame.bytes.length = 106 := by decide +kernel
  have hstate : stateFrame.bytes.length = 114 := by decide +kernel
  let chunk (bytes : List Byte) (pos : 0 < bytes.length) (le : bytes.length ≤ 4096) : RecvResult :=
    .data default { bytes, pos, le }
  let results := [chunk (inhFrame.bytes ++ heartbeatFrame.bytes) (by omega) (by omega),
    chunk shownFrame.bytes (by omega) (by omega)]
  let results' := [chunk stateFrame.bytes (by omega) (by omega)]
  have hfronts : List.Forall₂ Begins (received results) [inhFrame, shownFrame] :=
    .cons ⟨List.prefix_append _ _, inhFrame_deliverable⟩ (.cons ⟨List.prefix_rfl, trivial⟩ .nil)
  have hfronts' : List.Forall₂ Begins (received results') [stateFrame] :=
    .cons ⟨List.prefix_rfl, trivial⟩ .nil
  have hcontinues : ∀ result ∈ results, result.Continues := by
    simp [results, chunk, RecvResult.Continues]
  have hcontinues' : ∀ result ∈ results', result.Continues := by
    simp [results', chunk, RecvResult.Continues]
  obtain ⟨-, hlogs⟩ := recv_dumps_iff hcontinues hfronts ⟨false, [], []⟩
  obtain ⟨-, hlogs'⟩ := recv_dumps_iff hcontinues' hfronts' ⟨false, [], []⟩
  obtain ⟨self', hrun, hlog⟩ := hlogs _ List.mem_cons_self
  obtain ⟨self'', hrun', hlog'⟩ := hlogs' _ List.mem_cons_self
  refine ⟨results, self', rfl, hrun, hlog.mpr ?_, results', self'', rfl, hrun', fun hdumps => ?_⟩
  · refine List.forall_mem_cons.mpr ⟨⟨inhFrame_deliverable, by decide⟩, ?_⟩
    exact List.forall_mem_singleton.mpr ⟨by decide, by decide⟩
  · exact absurd (hlog'.mp hdumps stateFrame List.mem_cons_self).1 (by decide)

end Controller

end Csae295
