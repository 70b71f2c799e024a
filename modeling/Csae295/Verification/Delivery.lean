import Csae295.Verification.Sending
import Csae295.Verification.Stream

/-! Messages from the threads that send them to the callback at the other end.

A message goes through `pack`, the queue, the send loop and the socket, and at the other end through
`recv` and `unpack`. Each stage keeps the messages and their order under a condition of its own:
that the message comes back from `pack` and `unpack`, that the socket accepts whole frames, and
that every `recv` returns one. -/

namespace Csae295

open Library

namespace Message

/-- The messages that the controller can carry: they come back from `pack` and `unpack`, a bare
header announces no data, and the controller can print them and has an overload for them. -/
structure Carried (msg : Message) : Prop where
  constructed : msg.Constructed
  intact : msg.Intact
  bare : ∀ m, msg = .header m → m.dataLen = 0
  deliverable : msg.Deliverable

/-- A carried message is packed into a well-formed frame, whatever the stack holds. -/
theorem Carried.packs {msg : Message} (h : msg.Carried) : ∃ frame : Frame, frame.msg = msg ∧
    frame.bytes.length < 2 ^ 32 ∧
    ∀ stack,
      Packer.pack msg.toMessageHeader msg.toBytes stack = .ok (Packer.frame frame.bytes) := by
  obtain ⟨hconstructed, hintact, hbare, hdeliverable⟩ := h
  cases hconstructed with
  | header dataLen dataType version timestamp ctrl =>
      have hzero : dataLen = 0 := hbare _ rfl
      have hformed := WellFormed.header (m := .new dataLen dataType version timestamp ctrl)
        hintact ⟨rfl, rfl, by rw [hzero]; rfl⟩
      refine ⟨⟨_, _, hformed⟩, rfl, ?_, MessageHeader.pack_eq _⟩
      rw [MessageHeader.enc_length]
      decide
  | @inh m h =>
      have hbody := h.built.body_valid hintact.1
      have hopens : m.toMessageHeader.Opens veh2cloudInh m.length := by
        have hdata := h.built.dataLen_eq hintact.1
        cases h
        exact ⟨rfl, rfl, hdata⟩
      refine ⟨⟨_, _, .inh hopens hbody⟩, rfl, ?_, Veh2CloudInh.pack_of_repeats h hintact⟩
      rw [Veh2CloudInh.frameBytes_length]
      exact Veh2CloudInh.length_lt_of_short hintact.1
  | @inhRes m h =>
      have hopens : m.toMessageHeader.Opens cloud2vehInhRes 25 := by
        have hdata := h.dataLen_eq
        cases h
        exact ⟨rfl, rfl, by rw [hdata]⟩
      refine ⟨⟨_, _, .inhRes hopens⟩, rfl, ?_, Cloud2VehInhRes.pack_eq h⟩
      rw [Cloud2VehInhRes.wireBytes_length]
      decide
  | @state m h =>
      obtain ⟨hone, hpos⟩ := hintact
      have hopens : m.toMessageHeader.Opens veh2cloudState (98 + 8 * m.passPos.length) := by
        have hdata : 16 + m.dataLen.toNat = 98 := by
          rw [h.built.dataLen, hpos]
          rfl
        rw [hpos]
        cases h
        exact ⟨rfl, rfl, hdata⟩
      refine ⟨⟨_, _, .state hopens hone (h.passPosNum_eq hpos)⟩, rfl, ?_,
        Veh2CloudState.pack_of_no_pass_points h hpos⟩
      rw [Veh2CloudState.wireBytes_length_of_no_pass_points h hpos]
      decide
  | state2 => exact hdeliverable.elim

end Message

/-! ## Buffers in the queue -/

/-- To send the message is to send the buffer. -/
def Sends (msg : Message) (buf : Option SharedBuffer) : Prop :=
  ∃ stack, ∀ (self : Controller Unit) (ch : Byte),
    self.sendMessage msg stack ch = .ok (self.send buf ch)

theorem Message.Carried.packShared {msg : Message} (h : msg.Carried) : ∃ frame : Frame,
    frame.msg = msg ∧ ∀ stack p, Packer.packShared msg stack = .ok p → p.bytes = frame.bytes := by
  obtain ⟨frame, hmsg, hlt, hpack⟩ := h.packs
  refine ⟨frame, hmsg, ?_⟩
  intro stack p hp
  have hsize : (Packer.frame frame.bytes).size.toNat = frame.bytes.length := by
    rw [Packer.frame, BitVec.toNat_ofNat]
    exact Nat.mod_eq_of_lt hlt
  rw [Packer.packShared, hpack, ok_bind, Packer.MessageBuffer.share] at hp
  split at hp
  · cases hp
    rw [SharedBuffer.bytes]
    exact List.take_of_length_le hsize.ge
  · cases hp

/-- Every `recv` returns one frame. -/
def WholeFrames (results : List RecvResult) : Prop :=
  ∀ bytes ∈ received results, ∃ frame : Frame, frame.bytes = bytes

theorem WholeFrames.cut {results : List RecvResult} (h : WholeFrames results) :
    ∃ frames : List Frame, received results = frames.map Frame.bytes := by
  unfold WholeFrames at h
  generalize received results = chunks at h
  induction chunks with
  | nil => exact ⟨[], rfl⟩
  | cons bytes rest ih =>
      obtain ⟨⟨frame, hframe⟩, hrest⟩ := List.forall_mem_cons.mp h
      obtain ⟨frames, hframes⟩ := ih hrest
      exact ⟨frame :: frames, by rw [List.map_cons, hframe, hframes]⟩

namespace Controller

variable {τ : Type} [DecidableEq τ]

end Controller

end Csae295
