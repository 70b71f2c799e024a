import Csae295.Library.Words
import Csae295.Verification.Printing
import Csae295.Verification.RoundTrip

/-! Streams of well-formed frames, and what the receive loop makes of them.

The header announces where a frame ends, so a stream of frames is the stream of no other frames.
The receive loop does not cut the stream there: it takes the frame in front of what one `recv`
returns and leaves the rest. -/

namespace Csae295

open Library

namespace Message

/-! ## What a frame tells of itself -/

/-- The header of a well-formed frame stands in front and announces the rest. -/
theorem WellFormed.opens {msg : Message} {bytes : List Byte} (h : msg.WellFormed bytes) :
    ∃ fields, bytes = (MessageHeader.format true).enc msg.toMessageHeader ++ fields ∧
      bytes.length = 16 + msg.toMessageHeader.dataLen.toNat := by
  cases h with
  | @header m dataType htype h =>
      exact ⟨[], (List.append_nil _).symm, (m.enc_length true).trans h.dataLen.symm⟩
  | @inh m h hbody => exact ⟨_, rfl, (m.frameBytes_length true).trans h.dataLen.symm⟩
  | @inhRes m h => exact ⟨_, rfl, m.wireBytes_length.trans h.dataLen.symm⟩
  | @state m h hversion hpos =>
      refine ⟨_, rfl, ?_⟩
      rw [m.wireBytes_length true hpos.le, hpos]
      exact h.dataLen.symm
  | @state2 m h hversion hmatched =>
      refine ⟨(Veh2CloudState.bodyFormat true).enc (m.toVeh2CloudState.body true) ++
        (Veh2CloudState2.bodyFormat true).enc m.body, List.append_assoc _ _ _, ?_⟩
      exact (Veh2CloudState2.wireBytes_length true hmatched).trans h.dataLen.symm

theorem WellFormed.decode_header {msg : Message} {bytes : List Byte} (h : msg.WellFormed bytes)
    (rest : List Byte) : MessageHeader.decode true (bytes ++ rest) = msg.toMessageHeader := by
  obtain ⟨fields, hbytes, -⟩ := h.opens
  rw [hbytes, List.append_assoc, MessageHeader.decode_enc]

/-- Of the classes the type and the version tell the second version's state. -/
theorem WellFormed.state2_iff {msg : Message} {bytes : List Byte} (h : msg.WellFormed bytes) :
    (∃ m, msg = .state2 m) ↔ msg.toMessageHeader.dataType = veh2cloudState ∧
      msg.toMessageHeader.version = 0x02 := by
  cases h with
  | header htype h =>
      refine iff_of_false nofun fun hstate => ?_
      have hdataType := h.dataType.symm.trans hstate.1
      rcases htype with rfl | rfl <;> exact absurd hdataType (by decide)
  | inh h hbody =>
      exact iff_of_false nofun fun hstate => absurd (h.dataType.symm.trans hstate.1) (by decide)
  | inhRes h =>
      exact iff_of_false nofun fun hstate => absurd (h.dataType.symm.trans hstate.1) (by decide)
  | state h hversion hpos =>
      exact iff_of_false nofun fun hstate => absurd (hversion.symm.trans hstate.2) (by decide)
  | @state2 m h hversion hmatched => exact iff_of_true ⟨m, rfl⟩ ⟨h.dataType, hversion⟩

/-- A state of version 2 is determined by its bytes, even where its decoder stops at them. -/
theorem state2_ext {m m' : Veh2CloudState2} (h : m.Matched) (h' : m'.Matched)
    (hbytes : m.wireBytes true = m'.wireBytes true) : m = m' := by
  have hbase : m.toVeh2CloudState = m'.toVeh2CloudState := by
    have hread := m.toVeh2CloudState.fromBytes_wireBytes default true h.passPos
      ((Veh2CloudState2.bodyFormat true).enc m.body)
    have hread' := m'.toVeh2CloudState.fromBytes_wireBytes default true h'.passPos
      ((Veh2CloudState2.bodyFormat true).enc m'.body)
    rw [← Veh2CloudState2.wireBytes] at hread hread'
    rw [hbytes, hread'] at hread
    exact (congrArg Prod.fst (Except.ok.inj hread)).symm
  have hbody : m.body = m'.body := by
    rw [Veh2CloudState2.wireBytes, Veh2CloudState2.wireBytes, hbase,
      List.append_cancel_left_eq] at hbytes
    have hread := (Veh2CloudState2.bodyFormat true).read_enc m.body [] []
      (Veh2CloudState2.body_valid m true h.covered)
    have hread' := (Veh2CloudState2.bodyFormat true).read_enc m'.body [] []
      (Veh2CloudState2.body_valid m' true h'.covered)
    rw [hbytes, hread'] at hread
    exact (congrArg Prod.fst (Except.ok.inj hread)).symm
  have hassign := Veh2CloudState2.assign_body default h
  rw [hbase, hbody, Veh2CloudState2.assign_body default h'] at hassign
  exact hassign.symm

/-- No two messages share a well-formed frame. -/
theorem WellFormed.msg_unique {msg msg' : Message} {bytes : List Byte} (h : msg.WellFormed bytes)
    (h' : msg'.WellFormed bytes) : msg = msg' := by
  have hheader : msg.toMessageHeader = msg'.toMessageHeader :=
    (h.decode_header []).symm.trans (h'.decode_header [])
  have hstate2 := h.state2_iff
  rw [hheader, ← h'.state2_iff] at hstate2
  by_cases hversion : ∃ m, msg = .state2 m
  · obtain ⟨m', rfl⟩ := hstate2.mp hversion
    obtain ⟨m, rfl⟩ := hversion
    cases h with
    | state2 _ _ hmatched =>
        generalize hbytes : m.wireBytes true = bytes at h'
        cases h' with
        | state2 _ _ hmatched' => rw [state2_ext hmatched hmatched' hbytes]
  · have hnot := not_exists.mp hversion
    have hnot' := not_exists.mp fun hexists => hversion (hstate2.mpr hexists)
    have hread := h.unpack hnot default true [] le_rfl (by rw [List.append_nil])
    have hread' := h'.unpack hnot' default true [] le_rfl (by rw [List.append_nil])
    rw [hread] at hread'
    exact Option.some.inj (congrArg Unpacked.msg (Except.ok.inj hread'))

end Message

/-! ## Frames in a stream -/

namespace Frame

/-- The bytes of several frames, one behind the other. -/
def stream (frames : List Frame) : List Byte := (frames.map bytes).flatten

theorem ext {frame frame' : Frame} (h : frame.bytes = frame'.bytes) : frame = frame' := by
  obtain ⟨msg, bytes, hformed⟩ := frame
  obtain ⟨msg', bytes', hformed'⟩ := frame'
  subst h
  have hmsg := hformed.msg_unique hformed'
  subst hmsg
  rfl

theorem length_eq (frame : Frame) :
    frame.bytes.length = 16 + (MessageHeader.decode true frame.bytes).dataLen.toNat := by
  have hheader := frame.wellFormed.decode_header []
  obtain ⟨-, -, hlength⟩ := frame.wellFormed.opens
  rw [List.append_nil] at hheader
  rw [hheader, hlength]

/-- No frame is a proper prefix of another one. -/
theorem prefixFree : PrefixFree fun bytes frame => Frame.bytes frame = bytes := by
  apply PrefixFree.of_length (n := 16) fun header =>
    16 + (MessageHeader.decode true header).dataLen.toNat
  · decide
  · rintro _ frame rfl
    have hlength := frame.length_eq
    have hsplit := MessageHeader.split_decode true (show 16 ≤ frame.bytes.length by omega)
    have htake : frame.bytes.take 16 =
        (MessageHeader.format true).enc (MessageHeader.decode true frame.bytes) := by
      rw [hsplit, List.take_left' (MessageHeader.enc_length _ _), ← hsplit]
    have hdecode := (MessageHeader.decode true frame.bytes).decode_enc true []
    rw [List.append_nil] at hdecode
    rw [htake, hdecode]
    exact ⟨by omega, hlength⟩
  · rintro _ frame frame' rfl hbytes
    exact ext hbytes.symm

theorem words (frames : List Frame) :
    Words (fun bytes frame => Frame.bytes frame = bytes) (stream frames) frames := by
  induction frames with
  | nil => exact .nil
  | cons frame frames ih => exact .cons rfl ih

theorem prefix_of_stream {frames frames' : List Frame} (h : stream frames <+: stream frames') :
    frames <+: frames' :=
  (words frames).values_mono prefixFree (words frames') h

theorem stream_append (frames frames' : List Frame) :
    stream (frames ++ frames') = stream frames ++ stream frames' := by
  rw [stream, List.map_append, List.flatten_append]
  rfl

/-- A stream begins with another one exactly if its frames do: the bytes tell the frames apart
without any mark between them. -/
theorem stream_prefix_iff (frames frames' : List Frame) :
    stream frames <+: stream frames' ↔ frames <+: frames' := by
  refine ⟨prefix_of_stream, ?_⟩
  rintro ⟨rest, rfl⟩
  rw [stream_append]
  exact List.prefix_append _ _

end Frame

/-! ## The front of every `recv` -/

/-- What one `recv` returns begins with a frame that can be delivered. -/
structure Begins (bytes : List Byte) (frame : Frame) : Prop where
  front : frame.bytes <+: bytes
  deliverable : frame.msg.Deliverable

/-- A `recv` that begins with a frame makes one call of the callback and prints one text, whatever
comes behind the frame and whatever an earlier `recv` has left in the buffer. -/
theorem recvLoop_begins {frame : Frame} {chunk : Chunk} (h : Begins chunk.bytes frame)
    (heap : Storage) (self : Handler) (buf : Vector Byte 4096) (results : List RecvResult) :
    ∃ next text, recvLoop self buf (.data heap chunk :: results) =
      recvLoop next (chunk.into buf) results ∧ self.Logs next [frame.msg] [text] := by
  obtain ⟨⟨rest, hbytes⟩, hdeliverable⟩ := h
  obtain ⟨os, hprint⟩ := frame.wellFormed.print_ok hdeliverable (self.os ++ utf8 "\n")
  obtain ⟨text, htext, rfl⟩ := Message.hasText_of_print hprint
  have hle : frame.bytes.length ≤ chunk.bytes.length := by
    rw [← hbytes, List.length_append]
    omega
  have hunpack := frame.wellFormed.unpack hdeliverable.version heap true
    (rest ++ buf.toList.drop chunk.bytes.length) hle
    (by rw [← List.append_assoc, hbytes, List.length_append]; omega)
  rw [← List.append_assoc, hbytes, ← Chunk.into_toList] at hunpack
  let next : Handler :=
    { self with
      os := self.os ++ utf8 "\n" ++ text
      calls := if self.callback then self.calls ++ [frame.msg] else self.calls }
  have hhandle : Handler.onMessage frame.msg self = .ok next := by
    rw [Handler.onMessage_of_version hdeliverable.version]
    exact Handler.handle_of_print hprint frame.msg
  refine ⟨next, text, ?_, .cons htext .nil, ?_, rfl, rfl⟩
  · rw [recvLoop]
    simp only [hunpack, ok_bind, Packer.deliver, if_true, Handler.onMessages, hhandle]
  · rw [List.flatMap_singleton, ← List.append_assoc]

theorem recvLoop_fronts {results : List RecvResult} {frames : List Frame}
    (hcontinues : ∀ result ∈ results, result.Continues)
    (hfronts : List.Forall₂ Begins (received results) frames) (self : Handler)
    (buf : Vector Byte 4096) :
    ∃ self' texts, recvLoop self buf results = .ok self' ∧
      self.Logs self' (frames.map Frame.msg) texts := by
  induction results generalizing frames self buf with
  | nil =>
      cases hfronts with
      | nil => exact ⟨self, [], rfl, .refl self⟩
  | cons result results ih =>
      obtain ⟨hresult, hrest⟩ := List.forall_mem_cons.mp hcontinues
      cases result with
      | shutdown => exact hresult.elim
      | error errno =>
          rw [recvLoop, if_pos (show errno.retry from hresult)]
          exact ih hrest hfronts self buf
      | data heap chunk =>
          cases hfronts with
          | cons hfront hfronts =>
              obtain ⟨next, text, hround, hlogs⟩ := recvLoop_begins hfront heap self buf results
              obtain ⟨self', texts, hrun, hlogs'⟩ := ih hrest hfronts next (chunk.into buf)
              exact ⟨self', text :: texts, hround.trans hrun, hlogs.trans hlogs'⟩

namespace Controller

/-- When every `recv` returns bytes that begin with a deliverable frame, the callback is called
once for each `recv`, with the message of that frame; every other frame in it is lost. -/
theorem recv_delivers_fronts {results : List RecvResult} {frames : List Frame}
    (hcontinues : ∀ result ∈ results, result.Continues)
    (hfronts : List.Forall₂ Begins (received results) frames) :
    ∀ thread ∈ [upSocketRecvThread, downSocketRecvThread], DeliversEach thread results frames := by
  intro thread hthread self hcallback
  rw [recvThread_eq hthread]
  obtain ⟨self', texts, hrun, hlogs⟩ := recvLoop_fronts hcontinues hfronts self _
  exact ⟨self', hrun, hlogs.calls.trans (if_pos hcallback)⟩

/-- Three heartbeats in two results: the second is lost behind the first. -/
theorem recv_delivers_fronts_heartbeats : ∃ results,
    received results = [heartbeatFrame.bytes ++ heartbeatFrame.bytes, heartbeatFrame.bytes] ∧
      DeliversEach downSocketRecvThread results [heartbeatFrame, heartbeatFrame] := by
  have hlen : heartbeatFrame.bytes.length = 16 := MessageHeader.enc_length _ _
  let one : Chunk := { bytes := heartbeatFrame.bytes, pos := by omega, le := by omega }
  let two : Chunk :=
    { bytes := heartbeatFrame.bytes ++ heartbeatFrame.bytes
      pos := by rw [List.length_append]; omega
      le := by rw [List.length_append]; omega }
  refine ⟨[.data default two, .data default one], rfl, ?_⟩
  refine recv_delivers_fronts (by simp [RecvResult.Continues]) ?_ _ (by simp)
  exact .cons ⟨List.prefix_append _ _, trivial⟩ (.cons ⟨List.prefix_rfl, trivial⟩ .nil)

end Controller

end Csae295
