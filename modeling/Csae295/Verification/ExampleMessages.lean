import Csae295.Verification.Callback
import Csae295.Verification.RoundTrip

/-! What the example's messages are at the other end.

The encoder takes the characters of all three versions from the software version, so where their
lengths allow it the frame is well formed and two versions are not what was sent. -/

namespace Csae295

open Library

namespace Veh2CloudInh

/-- The message with the versions that the encoder writes. -/
def echoed (m : Veh2CloudInh) : Veh2CloudInh :=
  { m with hwVer := m.swVer, adVer := (m.swVer ++ [0]).take m.adVer.length }

variable {m : Veh2CloudInh}

theorem stringLen_congr {s s' : List Byte} (h : s.length = s'.length) :
    stringLen s = stringLen s' := by
  unfold stringLen
  rw [h]

theorem Constructed.echoed (h : m.Constructed) (hhw : m.hwVer.length = m.swVer.length)
    (had : m.adVer.length ≤ m.swVer.length + 1) : m.echoed.Constructed := by
  cases h with
  | new version timestamp ctrl vehicleId swVer hwVer adVer comType posConfidence timeSync gnssType
      userData =>
      have hhwLen : stringLen hwVer = stringLen swVer := stringLen_congr hhw
      have hadLen : stringLen adVer = stringLen ((swVer ++ [0]).take adVer.length) := by
        apply stringLen_congr
        rw [List.length_take, List.length_append]
        exact (min_eq_left had).symm
      have hnew : (Veh2CloudInh.new version timestamp ctrl vehicleId swVer hwVer adVer comType
          posConfidence timeSync gnssType userData).echoed =
          .new version timestamp ctrl vehicleId swVer swVer ((swVer ++ [0]).take adVer.length)
            comType posConfidence timeSync gnssType userData := by
        simp only [Veh2CloudInh.new, Veh2CloudInh.echoed, hhwLen, hadLen]
      rw [hnew]
      exact .new ..

theorem echoed_repeats (hshort : ¬ m.Overlong) (had : m.adVer.length ≤ m.swVer.length + 1) :
    m.echoed.Repeats := by
  refine ⟨?_, rfl, List.take_prefix _ _⟩
  unfold Overlong at hshort ⊢
  simp only [Veh2CloudInh.echoed, List.length_take, List.length_append]
  omega

/-- A message whose hardware version is as long as the software version, and whose
autonomous-driving version is no more than one longer, reaches the other end with the software version as hardware
version and, as autonomous-driving version, as many characters of the software version with its
terminating zero as it had. -/
theorem unpack_pack_echoed (h : m.Constructed) (hshort : ¬ m.Overlong)
    (hhw : m.hwVer.length = m.swVer.length) (had : m.adVer.length ≤ m.swVer.length + 1)
    (stack : (n : ℕ) → Vector Byte n) (storage : Storage) (handler : Bool) :
    Packer.unpackPacked m.toMessageHeader m.toBytes stack storage handler =
      .ok (Packer.deliver handler (.inh m.echoed)) := by
  have hechoed := h.echoed hhw had
  have hcovered := (covered_iff m (h.built.body_valid hshort)).mpr ⟨by omega, had⟩
  have hrepeats := echoed_repeats hshort had
  -- the encoder reads nothing of the versions that differ
  have hpack : Packer.pack m.toMessageHeader m.toBytes stack =
      Packer.pack m.echoed.toMessageHeader m.echoed.toBytes stack := by
    have hcovered' := (covered_iff m.echoed (hechoed.built.body_valid hrepeats.1)).mpr
      ⟨Nat.le_succ _, by simp [Veh2CloudInh.echoed]⟩
    rw [pack_of_covered h.built stack hshort hcovered,
      pack_of_covered hechoed.built stack hrepeats.1 hcovered']
    rfl
  have hback := comesBack_of_repeats hechoed hrepeats stack storage handler
  unfold Packer.unpackPacked at hback ⊢
  rw [hpack]
  exact hback

/-- Autonomous-driving versions that are shorter and longer than the software version. -/
theorem unpack_pack_echoed_versions :
    let inh (hwVer adVer : List Byte) := Veh2CloudInh.new 1 5 6 [0x56, 0x31] [0x61, 0x62, 0x63]
      hwVer adVer 1 2 3 4 [0x78]
    let back (m : Veh2CloudInh) := Packer.unpackPacked m.toMessageHeader m.toBytes
      (fun n => Vector.replicate n 0) default true
    back (inh [0x64, 0x65, 0x66] [0x71]) =
        .ok (Packer.deliver true (.inh (inh [0x61, 0x62, 0x63] [0x61]))) ∧
      back (inh [0x64, 0x65, 0x66] [0x71, 0x72, 0x73, 0x74]) =
        .ok (Packer.deliver true (.inh (inh [0x61, 0x62, 0x63] [0x61, 0x62, 0x63, 0]))) := by
  intro inh back
  have hshort (adVer : List Byte) (h : adVer.length ≤ 4) :
      ¬ (inh [0x64, 0x65, 0x66] adVer).Overlong := by
    simp only [Overlong, inh, Veh2CloudInh.new, List.length_cons, List.length_nil]
    omega
  exact ⟨unpack_pack_echoed (.new ..) (hshort _ (by decide)) rfl (by decide) _ _ _,
    unpack_pack_echoed (.new ..) (hshort _ (by decide)) rfl (by decide) _ _ _⟩

end Veh2CloudInh

/-! ## Messages of the example -/

theorem exampleInh_constructed (timestamp : Word 8) : (exampleInh timestamp).Constructed := .new ..

theorem exampleInh_lengths (timestamp : Word 8) : (exampleInh timestamp).swVer.length = 7 ∧
    (exampleInh timestamp).hwVer.length = 7 ∧ (exampleInh timestamp).adVer.length = 7 ∧
    (exampleInh timestamp).userData.length = 13 := ⟨rfl, rfl, rfl, rfl⟩

theorem exampleState_constructed (timestamp : Word 8) :
    (exampleState timestamp).Constructed := .new ..

/-- The message at the other end. -/
def Message.echoed : Message → Message
  | .inh m => .inh m.echoed
  | msg => msg

theorem ControllerCallback.unpack_pack_message (timestamp : Word 8) (task : Task)
    (stack : (n : ℕ) → Vector Byte n) (storage : Storage) (handler : Bool) :
    Packer.unpackPacked (message timestamp task).toMessageHeader (message timestamp task).toBytes
      stack storage handler = .ok (Packer.deliver handler (message timestamp task).echoed) := by
  cases task with
  | inh =>
      obtain ⟨hsw, hhw, had, huser⟩ := exampleInh_lengths timestamp
      have hshort : ¬ (exampleInh timestamp).Overlong := by
        unfold Veh2CloudInh.Overlong
        omega
      exact Veh2CloudInh.unpack_pack_echoed (exampleInh_constructed timestamp) hshort
        (hhw.trans hsw.symm) (by omega) _ _ _
  | state =>
      have hback :=
        (Veh2CloudState.comesBack_iff (exampleState_constructed timestamp)).mpr ⟨rfl, rfl⟩
      exact hback stack storage handler

namespace Example

variable {τ : Type} [DecidableEq τ] {s : Example τ}

/-- Every message sent is one of the two timers'. -/
def SendsMessages (s : Example τ) : Prop :=
  ∀ msg ∈ s.callback.sent, ∃ timestamp task, msg = ControllerCallback.message timestamp task

theorem SendsMessages.step {s' : Example τ} {event : ExampleEvent τ} (h : s.SendsMessages)
    (hstep : s.step event = some s') : s'.SendsMessages := by
  cases step_of_eq hstep with
  | @go t outcome stmt rest hthread =>
      cases stmt with
      | send task =>
          intro msg hmsg
          rcases List.mem_append.mp hmsg with hmsg | hmsg
          · exact h msg hmsg
          · exact ⟨outcome.timestamp, task, List.mem_singleton.mp hmsg⟩
      | start task | stop task =>
          intro msg hmsg
          apply h msg
          simpa [goto, ControllerCallback.perform] using hmsg
      | clearCount | testCount | incCount => exact h
  | _ => exact h

theorem sendsMessages_of_reachable (h : (system τ).Reachable s) : s.SendsMessages := by
  refine h.invariant ?_ fun _ _ _ h _ hstep => h.step hstep
  intro s hs
  cases hs
  nofun

/-- In every run of the example, whatever its threads do: each state it has sent is decoded at the
other end as it was, and each INH with the software version in place of the other two. -/
theorem sent_messages_decoded (h : (system τ).Reachable s) :
    ∀ msg ∈ s.callback.sent, ∀ stack storage handler,
      Packer.unpackPacked msg.toMessageHeader msg.toBytes stack storage handler =
        .ok (Packer.deliver handler msg.echoed) := by
  intro msg hmsg stack storage handler
  obtain ⟨timestamp, task, rfl⟩ := sendsMessages_of_reachable h msg hmsg
  exact ControllerCallback.unpack_pack_message timestamp task stack storage handler

/-- Behind the first tick of either timer. -/
theorem sent_messages_decoded_first : ∃ s : Example Unit, (system Unit).Reachable s ∧
    s.callback.sent.length = 2 ∧ ∀ msg ∈ s.callback.sent,
      Packer.unpackPacked msg.toMessageHeader msg.toBytes (fun n => Vector.replicate n 0)
        default true = .ok (Packer.deliver true msg.echoed) := by
  let go : ExampleEvent Unit := .go () someOutcome
  have hstart : (system Unit).Reachable { callback := .new, threads := fun _ => [] } := .init rfl
  have hreachable := hstart.run [.onUpConnectState () .connected, go, go, .expire () .inh, go, go,
    go, .expire () .state, go] rfl
  exact ⟨_, hreachable, rfl, fun msg hmsg => sent_messages_decoded hreachable msg hmsg _ _ _⟩

end Example

end Csae295
