import Csae295.Model.Controller
import Csae295.Verification.InhResCodec
import Csae295.Verification.PrintSafety

/-! Which messages the receive loop hands to the callback when the peer sends well-formed
frames.

The loop makes at most one message of every `recv`, from the front of what was received, and
keeps nothing for the next one. So the frames are delivered when every `recv` returns one of
them, and never when there are fewer results than frames. -/

namespace Csae295

open Library

/-! ## Well-formed frames -/

/-- The header of a frame of the given type and size. -/
structure MessageHeader.Opens (header : MessageHeader) (dataType : Byte) (size : ℕ) : Prop where
  id : header.id = 0xF2
  dataType : header.dataType = dataType
  dataLen : 16 + header.dataLen.toNat = size

/-- The well-formed frames and the messages they carry: the header announces the frame's
type and size, and the counts inside match what they count. -/
inductive Message.WellFormed : Message → List Byte → Prop where
  | header {m : MessageHeader} {dataType : Byte}
      (htype : dataType = heartbeat ∨ dataType = heartbeatRes) (h : m.Opens dataType 16) :
      WellFormed (.header m) ((MessageHeader.format true).enc m)
  | inh {m : Veh2CloudInh} (h : m.toMessageHeader.Opens veh2cloudInh m.length)
      (hbody : Veh2CloudInh.bodyFormat.Valid m.body) : WellFormed (.inh m) (m.frameBytes true)
  | inhRes {m : Cloud2VehInhRes} (h : m.toMessageHeader.Opens cloud2vehInhRes 25) :
      WellFormed (.inhRes m) m.wireBytes
  | state {m : Veh2CloudState}
      (h : m.toMessageHeader.Opens veh2cloudState (98 + 8 * m.passPos.length))
      (hversion : m.version = 0x01) (hpos : m.passPosNum.toNat = m.passPos.length) :
      WellFormed (.state m) (m.wireBytes true)
  | state2 {m : Veh2CloudState2} (h : m.toMessageHeader.Opens veh2cloudState m.frameLength)
      (hversion : m.version = 0x02) (hmatched : m.Matched) :
      WellFormed (.state2 m) (m.wireBytes true)

structure Frame where
  msg : Message
  bytes : List Byte
  wellFormed : msg.WellFormed bytes

namespace Message

/-- `unpack` delivers the message of a well-formed frame, but for version 2, whatever
follows the frame in the buffer and however much of that is counted as received. -/
theorem WellFormed.unpack {msg : Message} {bytes : List Byte} (h : msg.WellFormed bytes)
    (hversion : ∀ m, msg ≠ .state2 m) (storage : Storage) (handler : Bool) (rest : List Byte)
    {size : ℕ} (hle : bytes.length ≤ size) (hsize : size ≤ (bytes ++ rest).length) :
    Packer.unpack storage (some (bytes ++ rest)) size handler =
      .ok (Packer.deliver handler msg) := by
  cases h with
  | @header m dataType hbeat h =>
      obtain ⟨hid, htype, -⟩ := m.byteAt_enc rest
      rw [MessageHeader.enc_length] at hle
      rw [Packer.unpack_header storage handler (by omega) (hid.trans h.id) (by omega)
        (by rwa [htype, h.dataType]), MessageHeader.ofBuffer, MessageHeader.fromBytes_of_le _ true hle hsize,
        MessageHeader.decode_enc]
      rfl
  | @inh m h hbody =>
      obtain ⟨hid, htype, -⟩ := m.toMessageHeader.byteAt_enc
        (Veh2CloudInh.bodyFormat.enc m.body ++ rest)
      rw [← List.append_assoc, ← Veh2CloudInh.frameBytes] at hid htype
      rw [Veh2CloudInh.frameBytes_length] at hle
      have hlen := Veh2CloudInh.length_eq m
      rw [Packer.unpack_inh storage handler (by omega) (hid.trans h.id) (by omega)
        (htype.trans h.dataType), Veh2CloudInh.ofBuffer,
        m.fromBytes_frameBytes_of_le storage.inh true hbody rest hle hsize]
      rfl
  | @inhRes m h =>
      obtain ⟨hid, htype, -⟩ := m.toMessageHeader.byteAt_enc
        (Cloud2VehInhRes.bodyFormat.enc m.body ++ rest)
      rw [← List.append_assoc, ← Cloud2VehInhRes.wireBytes] at hid htype
      rw [Cloud2VehInhRes.wireBytes_length] at hle
      have hdata := h.dataLen
      rw [Packer.unpack_inhRes storage handler (by omega) (hid.trans h.id) (by omega)
        (htype.trans h.dataType), Cloud2VehInhRes.ofBuffer,
        m.fromBytes_wireBytes storage.inhRes (by omega) rest hle hsize]
      rfl
  | @state m h hone hpos =>
      obtain ⟨hid, htype, hver⟩ := m.toMessageHeader.byteAt_enc
        ((Veh2CloudState.bodyFormat true).enc (m.body true) ++ rest)
      rw [← List.append_assoc, ← Veh2CloudState.wireBytes] at hid htype hver
      rw [m.wireBytes_length true hpos.le, hpos] at hle
      rw [Packer.unpack_state storage handler (by omega) (hid.trans h.id) (by omega)
        (htype.trans h.dataType) (hver.trans hone), Veh2CloudState.ofBuffer,
        m.fromBytes_wireBytes_of_le storage.state true hpos rest hle hsize]
      rfl
  | state2 => exact absurd rfl (hversion _)

/-- The callback has an overload for the message, and its text fits into the local buffers
of the printer. -/
def Deliverable : Message → Prop
  | .inh m => m.AllPrintable
  | .state2 _ => False
  | _ => True

/-- The callback can have been called with the message. -/
structure Callable (msg : Message) : Prop where
  version : ∀ m, msg ≠ .state2 m
  printed : ∃ os os', msg.print os = .ok os'

theorem Deliverable.version {msg : Message} (h : msg.Deliverable) : ∀ m, msg ≠ .state2 m := by
  rintro m rfl
  exact h

theorem WellFormed.print_ok {msg : Message} {bytes : List Byte} (h : msg.WellFormed bytes)
    (hdeliverable : msg.Deliverable) (os : List Byte) : ∃ os', msg.print os = .ok os' := by
  cases h with
  | @header m => exact m.print_ok os
  | inh _ hbody =>
      exact Veh2CloudInh.print_of_printable (Veh2CloudInh.stringsMatch_of_valid hbody)
        hdeliverable os
  | @inhRes m => exact m.print_ok os
  | state _ _ hpos => exact Veh2CloudState.print_of_covered hpos.le os
  | state2 => exact hdeliverable.elim

theorem Callable.deliverable {msg : Message} (h : msg.Callable) : msg.Deliverable := by
  cases msg with
  | inh m =>
      obtain ⟨os, hprint⟩ := h.printed
      by_contra hnot
      exact not_ok_of_error (Veh2CloudInh.print_error os (.inl hnot)) hprint
  | state2 m => exact h.version m rfl
  | _ => trivial

end Message

/-! ## The handler -/

namespace Handler

theorem handle_of_print {print : List Byte → Except Fault (List Byte)} {self : Handler}
    {os : List Byte} (h : print (self.os ++ utf8 "\n") = .ok os) (msg : Message) :
    handle print msg self =
      .ok { self with os, calls := if self.callback then self.calls ++ [msg] else self.calls } := by
  rw [handle, h]
  rfl

/-- The overloads of the controller share one body, but for version 2. -/
theorem onMessage_of_version {msg : Message} (h : ∀ m, msg ≠ .state2 m) :
    onMessage msg = handle msg.print msg := by
  cases msg with
  | state2 m => exact absurd rfl (h m)
  | _ => rfl

/-- The callback has been called at most `n` times more. -/
def CalledWithin (n : ℕ) (self self' : Handler) : Prop :=
  ∃ msgs, self'.calls = self.calls ++ msgs ∧ msgs.length ≤ n ∧ ∀ msg ∈ msgs, msg.Callable

theorem CalledWithin.refl (n : ℕ) (self : Handler) : CalledWithin n self self :=
  ⟨[], (List.append_nil _).symm, Nat.zero_le n, fun _ h => absurd h List.not_mem_nil⟩

theorem CalledWithin.trans {m n : ℕ} {self self' self'' : Handler}
    (h : CalledWithin m self self') (h' : CalledWithin n self' self'') :
    CalledWithin (m + n) self self'' := by
  obtain ⟨msgs, hcalls, hlen, hall⟩ := h
  obtain ⟨msgs', hcalls', hlen', hall'⟩ := h'
  refine ⟨msgs ++ msgs', by rw [hcalls', hcalls, List.append_assoc], ?_, ?_⟩
  · rw [List.length_append]
    omega
  · intro msg hmsg
    rcases List.mem_append.mp hmsg with hmsg | hmsg
    · exact hall msg hmsg
    · exact hall' msg hmsg

theorem calledWithin_handle {msg : Message} {self self' : Handler}
    (hversion : ∀ m, msg ≠ .state2 m) (h : handle msg.print msg self = .ok self') : CalledWithin 1 self self' := by
  cases hprint : msg.print (self.os ++ utf8 "\n") with
  | error e =>
      rw [handle, hprint] at h
      cases h
  | ok os =>
      rw [handle_of_print hprint] at h
      obtain rfl := Except.ok.inj h
      have hcallable : msg.Callable := ⟨hversion, _, _, hprint⟩
      by_cases hcallback : self.callback
      · exact ⟨[msg], by simp only [hcallback, if_true], le_rfl, by simpa using hcallable⟩
      · exact ⟨[], by simp only [hcallback, Bool.false_eq_true, if_false, List.append_nil],
          Nat.zero_le 1, by simp⟩

theorem calledWithin_onMessage {msg : Message} {self self' : Handler}
    (h : onMessage msg self = .ok self') : CalledWithin 1 self self' := by
  by_cases hversion : ∀ m, msg ≠ .state2 m
  · rw [onMessage_of_version hversion] at h
    exact calledWithin_handle hversion h
  · obtain ⟨m, hm⟩ := not_forall_not.mp hversion
    rw [hm] at h
    cases h
    exact .refl 1 _

theorem calledWithin_onMessages {msgs : List Message} {self self' : Handler}
    (h : onMessages msgs self = .ok self') : CalledWithin msgs.length self self' := by
  induction msgs generalizing self with
  | nil =>
      cases h
      exact .refl 0 _
  | cons msg msgs ih =>
      cases hmsg : onMessage msg self with
      | error e =>
          rw [onMessages, hmsg] at h
          cases h
      | ok next =>
          rw [onMessages, hmsg] at h
          rw [List.length_cons, Nat.add_comm]
          exact (calledWithin_onMessage hmsg).trans (ih h)

end Handler

/-! ## The receive loop -/

/-- `unpack` calls the handler at most once. -/
theorem Packer.unpack_calls_length {storage : Storage} {mem : List Byte} {size : ℕ}
    {handler : Bool} {r : Unpacked} (hmem : 6 ≤ mem.length) (h : unpack storage (some mem) size handler = .ok r) :
    r.calls.length ≤ 1 := by
  have hdeliver : ∀ msg, (deliver handler msg).calls.length ≤ 1 := by
    intro msg
    cases handler <;> simp [deliver]
  have hbind : ∀ {α : Type} {x : Except Fault α} {wrap : α → Message},
      (do
        let msg ← x
        .ok (deliver handler (wrap msg))) = .ok r → r.calls.length ≤ 1 := by
    intro α x wrap hx
    cases x with
    | error e => cases hx
    | ok a =>
        cases hx
        exact hdeliver _
  have hreject : Except.ok (ε := Fault) reject = .ok r → r.calls.length ≤ 1 := by
    rintro ⟨⟩
    exact Nat.zero_le 1
  by_cases hsize : size = 0
  · rw [hsize, unpack_empty] at h
    exact hreject h
  cases route mem with
  | noMarker hid =>
      rw [unpack_of_no_marker storage handler (by omega) hid] at h
      exact hreject h
  | cut hid hcut => omega
  | header hid h6 htype =>
      rw [unpack_header storage handler hsize hid h6 htype] at h
      exact hbind h
  | inh hid h6 htype =>
      rw [unpack_inh storage handler hsize hid h6 htype] at h
      exact hbind h
  | inhRes hid h6 htype =>
      rw [unpack_inhRes storage handler hsize hid h6 htype] at h
      exact hbind h
  | stateCut hid h6 htype =>
      rw [unpack_state_of_cut storage handler hsize hid h6 htype] at h
      cases h
  | state hid h7 htype hversion =>
      rw [unpack_state storage handler hsize hid h7 htype hversion] at h
      exact hbind h
  | state2 hid h7 htype hversion =>
      rw [unpack_state2 storage handler hsize hid h7 htype hversion] at h
      exact hbind h
  | stateOther hid h7 htype hone htwo =>
      rw [unpack_state_other storage handler hsize hid h7 htype hone htwo] at h
      exact hreject h
  | other hid h6 hbeat hbeatRes hinh hinhRes hstate =>
      rw [unpack_other storage handler hsize hid h6 hbeat hbeatRes hinh hinhRes hstate] at h
      exact hreject h

theorem Chunk.into_toList (chunk : Chunk) (buf : Vector Byte 4096) :
    (chunk.into buf).toList = chunk.bytes ++ buf.toList.drop chunk.bytes.length := by
  apply toList_arrayOf
  have hle := chunk.le
  rw [List.length_append, List.length_drop, Vector.length_toList]
  omega

/-- What the loop has received. -/
def received : List RecvResult → List (List Byte)
  | [] => []
  | .data _ chunk :: results => chunk.bytes :: received results
  | _ :: results => received results

/-- The result does not end the loop. -/
def RecvResult.Continues : RecvResult → Prop
  | .data _ _ => True
  | .shutdown => False
  | .error errno => errno.retry

/-- The results carry the stream of the frames, cut in whatever way. -/
structure Carries (results : List RecvResult) (frames : List Frame) : Prop where
  continues : ∀ result ∈ results, result.Continues
  stream : (received results).flatten = (frames.map Frame.bytes).flatten

/-- The loop calls the callback once for every frame, in order, with the frame's message. -/
def DeliversEach (thread : Handler → List RecvResult → Except Fault Handler)
    (results : List RecvResult) (frames : List Frame) : Prop :=
  ∀ self : Handler, self.callback → ∃ self', thread self results = .ok self' ∧
    self'.calls = self.calls ++ frames.map Frame.msg

theorem calledWithin_recvLoop {results : List RecvResult} {buf : Vector Byte 4096}
    {self self' : Handler} (h : recvLoop self buf results = .ok self') :
    Handler.CalledWithin (received results).length self self' := by
  induction results generalizing self buf with
  | nil =>
      cases h
      exact .refl 0 _
  | cons result results ih =>
      cases result with
      | shutdown =>
          cases h
          exact .refl _ _
      | error errno =>
          rw [recvLoop] at h
          split at h
          · exact ih h
          · cases h
            exact .refl _ _
      | data heap chunk =>
          rw [recvLoop] at h
          cases hunpack : Packer.unpack heap (some (chunk.into buf).toList) chunk.bytes.length
            true with
          | error e =>
              rw [hunpack] at h
              cases h
          | ok unpacked =>
              rw [hunpack, ok_bind] at h
              cases hmsgs : Handler.onMessages unpacked.calls self with
              | error e =>
                  rw [hmsgs] at h
                  cases h
              | ok next =>
                  rw [hmsgs, ok_bind] at h
                  have hround := Handler.calledWithin_onMessages hmsgs
                  have hone := Packer.unpack_calls_length (by rw [Vector.length_toList]; decide) hunpack
                  obtain ⟨msgs, hcalls, hlen, hall⟩ := hround.trans (ih h)
                  refine ⟨msgs, hcalls, ?_, hall⟩
                  rw [received, List.length_cons]
                  omega

/-- A `recv` that returns one frame makes one call of the callback. -/
theorem recvLoop_frame {frame : Frame} {chunk : Chunk} (hchunk : chunk.bytes = frame.bytes)
    (hdeliverable : frame.msg.Deliverable) (heap : Storage) {self : Handler}
    (hcallback : self.callback) (buf : Vector Byte 4096) (results : List RecvResult) :
    ∃ os, recvLoop self buf (.data heap chunk :: results) =
      recvLoop { self with os, calls := self.calls ++ [frame.msg] } (chunk.into buf) results := by
  obtain ⟨os, hprint⟩ := frame.wellFormed.print_ok hdeliverable (self.os ++ utf8 "\n")
  have hunpack := frame.wellFormed.unpack hdeliverable.version heap true
    (buf.toList.drop chunk.bytes.length) le_rfl
    (by rw [List.length_append]; exact Nat.le_add_right _ _)
  rw [← hchunk, ← Chunk.into_toList] at hunpack
  have hhandle := Handler.handle_of_print hprint frame.msg
  rw [← Handler.onMessage_of_version hdeliverable.version, if_pos hcallback] at hhandle
  refine ⟨os, ?_⟩
  rw [recvLoop]
  simp only [hunpack, ok_bind, Packer.deliver, if_true, Handler.onMessages, hhandle]

theorem recvLoop_frames {results : List RecvResult} {frames : List Frame}
    (hcontinues : ∀ result ∈ results, result.Continues)
    (hcut : received results = frames.map Frame.bytes)
    (hdeliverable : ∀ frame ∈ frames, frame.msg.Deliverable) (self : Handler)
    (hcallback : self.callback) (buf : Vector Byte 4096) :
    ∃ self', recvLoop self buf results = .ok self' ∧
      self'.calls = self.calls ++ frames.map Frame.msg := by
  induction results generalizing frames self buf with
  | nil =>
      have hnil : frames = [] := List.map_eq_nil_iff.mp hcut.symm
      exact ⟨self, rfl, by rw [hnil, List.map_nil, List.append_nil]⟩
  | cons result results ih =>
      obtain ⟨hresult, hrest⟩ := List.forall_mem_cons.mp hcontinues
      cases result with
      | shutdown => exact hresult.elim
      | error errno =>
          rw [recvLoop, if_pos (show errno.retry from hresult)]
          exact ih hrest hcut hdeliverable self hcallback buf
      | data heap chunk =>
          obtain ⟨frame, frames', rfl, hframe, hframes⟩ := List.map_eq_cons_iff.mp hcut.symm
          obtain ⟨hfirst, hothers⟩ := List.forall_mem_cons.mp hdeliverable
          obtain ⟨os, hround⟩ := recvLoop_frame hframe.symm hfirst heap hcallback buf results
          obtain ⟨self', hrun, hcalls⟩ := ih hrest hframes.symm hothers
            { self with os, calls := self.calls ++ [frame.msg] } hcallback (chunk.into buf)
          refine ⟨self', hround.trans hrun, ?_⟩
          rw [hcalls, List.map_cons, List.append_assoc, List.singleton_append]

/-- The threads of both channels run the loop on a buffer of zeros. -/
theorem recvThread_eq {thread : Handler → List RecvResult → Except Fault Handler}
    (h : thread ∈ [upSocketRecvThread, downSocketRecvThread]) :
    thread = fun self results => recvLoop self (Vector.replicate 4096 0) results := by
  simp only [List.mem_cons, List.not_mem_nil, or_false] at h
  rcases h with rfl | rfl <;> rfl

/-- However the stream was cut, delivered frames are deliverable and no more than the
results that carried them. -/
theorem DeliversEach.bound {thread : Handler → List RecvResult → Except Fault Handler}
    (hthread : thread ∈ [upSocketRecvThread, downSocketRecvThread]) {results : List RecvResult}
    {frames : List Frame} (h : DeliversEach thread results frames) :
    (∀ frame ∈ frames, frame.msg.Deliverable) ∧ frames.length ≤ (received results).length := by
  obtain ⟨self', hrun, hcalls⟩ := h { callback := true, os := [], calls := [] } rfl
  rw [recvThread_eq hthread] at hrun
  obtain ⟨msgs, hmsgs, hlen, hall⟩ := calledWithin_recvLoop hrun
  rw [hcalls, List.nil_append, List.nil_append] at hmsgs
  subst hmsgs
  rw [List.length_map] at hlen
  exact ⟨fun frame hframe => (hall _ (List.mem_map_of_mem hframe)).deliverable, hlen⟩

namespace Controller

/-- Cut between the frames, the stream is delivered frame by frame exactly if every message
can be delivered at all, and a stream cut in fewer results than frames never is. -/
theorem recv_delivers_iff {results : List RecvResult} {frames : List Frame}
    (h : Carries results frames) :
    ∀ thread ∈ [upSocketRecvThread, downSocketRecvThread],
      (received results = frames.map Frame.bytes →
        (DeliversEach thread results frames ↔ ∀ frame ∈ frames, frame.msg.Deliverable)) ∧
      (DeliversEach thread results frames →
        (∀ frame ∈ frames, frame.msg.Deliverable) ∧ frames.length ≤ (received results).length) := by
  intro thread hthread
  refine ⟨fun hcut => ⟨fun hdelivers => (hdelivers.bound hthread).1, ?_⟩,
    fun hdelivers => hdelivers.bound hthread⟩
  intro hdeliverable self hcallback
  rw [recvThread_eq hthread]
  exact recvLoop_frames h.continues hcut hdeliverable self hcallback _

def heartbeatFrame : Frame where
  msg := .header (MessageHeader.new 0 heartbeat 1 0 0)
  bytes := (MessageHeader.format true).enc (MessageHeader.new 0 heartbeat 1 0 0)
  wellFormed := .header (.inl rfl) ⟨rfl, rfl, rfl⟩

/-- An INH whose strings have different lengths. -/
def inhFrame : Frame :=
  let msg := Veh2CloudInh.new 1 5 6 [0x56, 0x31] [0x61, 0x62] [0x63] [0x64, 0x65, 0x66] 1 2 3 4
    [0x78]
  { msg := .inh msg
    bytes := msg.frameBytes true
    wellFormed := .inh ⟨rfl, rfl, rfl⟩ ((Veh2CloudInh.body_valid_iff msg).mpr (by decide)) }

theorem inhFrame_deliverable : inhFrame.msg.Deliverable :=
  ⟨.inl (by decide), .inl (by decide), .inl (by decide), .inl (by decide)⟩

/-- A state with two pass points, all of whose bytes are announced. -/
def stateFrame : Frame :=
  let msg : Veh2CloudState :=
    { Veh2CloudState.new 1 5 6 [0x56] [1, 2, 3] 4 500 ⟨116, 40, 50⟩ 90 3 1 600 7 8 9 10 11 1200 13 1
        14 15 16 2 ⟨117, 41⟩ [⟨118, 42⟩, ⟨119, 43⟩] with dataLen := 98 }
  { msg := .state msg
    bytes := msg.wireBytes true
    wellFormed := .state ⟨rfl, rfl, rfl⟩ rfl rfl }

/-- A heartbeat, an INH and a state, with an interrupted `recv` between them. -/
theorem recv_delivers_three : ∃ results,
    received results = [heartbeatFrame.bytes, inhFrame.bytes, stateFrame.bytes] ∧
      DeliversEach upSocketRecvThread results [heartbeatFrame, inhFrame, stateFrame] := by
  have hheartbeat : heartbeatFrame.bytes.length = 16 := MessageHeader.enc_length _ _
  have hinh : inhFrame.bytes.length = 39 := by decide +kernel
  have hstate : stateFrame.bytes.length = 114 := by decide +kernel
  let chunk (frame : Frame) (pos : 0 < frame.bytes.length) (le : frame.bytes.length ≤ 4096) :
      RecvResult := .data default { bytes := frame.bytes, pos, le }
  let results := [chunk heartbeatFrame (by omega) (by omega), .error .intr,
    chunk inhFrame (by omega) (by omega), chunk stateFrame (by omega) (by omega)]
  have hcarries : Carries results [heartbeatFrame, inhFrame, stateFrame] :=
    ⟨by simp [results, chunk, RecvResult.Continues, Errno.retry], rfl⟩
  refine ⟨results, rfl, ?_⟩
  apply ((recv_delivers_iff hcarries _ (List.mem_cons_self ..)).1 rfl).mpr
  intro frame hframe
  simp only [List.mem_cons, List.not_mem_nil, or_false] at hframe
  rcases hframe with rfl | rfl | rfl
  · trivial
  · exact inhFrame_deliverable
  · trivial

/-- Two heartbeats that arrive in one `recv` are one message to the callback. -/
theorem recv_merges_heartbeats : ¬ ∀ results frames, Carries results frames →
    DeliversEach upSocketRecvThread results frames ∧
      DeliversEach downSocketRecvThread results frames := by
  intro hall
  have hlen : (heartbeatFrame.bytes ++ heartbeatFrame.bytes).length = 32 := by
    rw [List.length_append, heartbeatFrame, MessageHeader.enc_length]
  let chunk : Chunk :=
    { bytes := heartbeatFrame.bytes ++ heartbeatFrame.bytes, pos := by omega, le := by omega }
  have hcarries : Carries [.data default chunk] [heartbeatFrame, heartbeatFrame] :=
    ⟨by simp [RecvResult.Continues], by simp [received, chunk]⟩
  have hbound := ((hall _ _ hcarries).1.bound (List.mem_cons_self ..)).2
  exact absurd hbound (by simp [received])

end Controller

end Csae295
