import Csae295.Verification.Dispatch
import Csae295.Verification.Pack
import Csae295.Verification.StateCodec

/-! What `unpack` makes of packed state messages without lists.

Both classes share one data type. The constructors take the version as an argument, `unpack`
goes by it, and the layouts of the two classes differ only behind the first version's fields. -/

namespace Csae295

open Library

namespace Packer

/-- Pack a message and unpack the buffer. -/
def unpackPacked (header : MessageHeader) (toBytes : Encoder) (stack : (n : ℕ) → Vector Byte n)
    (storage : Storage) (handler : Bool) : Except Fault Unpacked := do
  let buf ← pack header toBytes stack
  unpack storage (some buf.data) buf.size.toNat handler

/-- The handler is called once, with a message of the given class, which is returned. -/
def KeepsClass {α : Type} (wrap : α → Message) (header : MessageHeader) (toBytes : Encoder) :
    Prop :=
  ∀ stack storage handler, ∃ m,
    unpackPacked header toBytes stack storage handler = .ok (deliver handler (wrap m))

theorem unpackPacked_of_pack {header : MessageHeader} {toBytes : Encoder}
    {stack : (n : ℕ) → Vector Byte n} {bytes : List Byte}
    (h : pack header toBytes stack = .ok (frame bytes)) (hlen : bytes.length < 2 ^ 32)
    (storage : Storage) (handler : Bool) :
    unpackPacked header toBytes stack storage handler =
      unpack storage (some bytes) bytes.length handler := by
  have hsize : (frame bytes).size.toNat = bytes.length := by
    rw [frame, BitVec.toNat_ofNat]
    exact Nat.mod_eq_of_lt hlen
  rw [unpackPacked, h, ok_bind, hsize, frame]

end Packer

/-! ## Version 1 -/

namespace Veh2CloudState

/-- What `unpack` finds at the front of a constructed message's frame. -/
theorem Constructed.byteAt_wireBytes {m : Veh2CloudState} (h : m.Constructed)
    (rest : List Byte) :
    byteAt (m.wireBytes true ++ rest) 0 = 0xF2 ∧
      byteAt (m.wireBytes true ++ rest) 5 = veh2cloudState ∧
      byteAt (m.wireBytes true ++ rest) 6 = m.version := by
  have hbytes := m.toMessageHeader.byteAt_enc ((bodyFormat true).enc (m.body true) ++ rest)
  rw [← List.append_assoc, ← wireBytes] at hbytes
  cases h
  exact hbytes

section

variable {m : Veh2CloudState} (h : m.Constructed) (hpos : m.passPos = [])
variable (stack : (n : ℕ) → Vector Byte n) (storage : Storage) (handler : Bool)

include h hpos

theorem Constructed.passPosNum_eq : m.passPosNum.toNat = m.passPos.length := by
  rw [h.built.passPosNum, hpos]
  rfl

theorem pack_of_no_pass_points :
    Packer.pack m.toMessageHeader m.toBytes stack = .ok (Packer.frame (m.wireBytes true)) := by
  have hdata := h.built.dataLen
  have hnum := h.passPosNum_eq hpos
  rw [hpos, List.length_nil] at hdata hnum
  exact pack_of_fits h.built stack (by rw [hpos, List.length_nil]; omega) (by omega)

theorem wireBytes_length_of_no_pass_points : (m.wireBytes true).length = 98 := by
  have hnum := h.passPosNum_eq hpos
  rw [wireBytes_length m true hnum.le, hnum, hpos]
  rfl

theorem unpackPacked_eq :
    Packer.unpackPacked m.toMessageHeader m.toBytes stack storage handler =
      .ok (if m.version = 0x01 then Packer.deliver handler (.state m)
        else if m.version = 0x02 then
          Packer.deliver handler
            (.state2 { Veh2CloudState2.fresh storage.state2 with toVeh2CloudState := m })
        else Packer.reject) := by
  have hlen := wireBytes_length_of_no_pass_points h hpos
  have hnum := h.passPosNum_eq hpos
  obtain ⟨hid, htype, hversion⟩ := h.byteAt_wireBytes []
  have hread := fun old => m.fromBytes_wireBytes old true hnum []
  rw [List.append_nil] at hid htype hversion
  simp only [List.append_nil, hpos, List.length_nil, Nat.mul_zero, Nat.add_zero] at hread
  rw [Packer.unpackPacked_of_pack (pack_of_no_pass_points h hpos stack) (by omega)]
  have hsize : (m.wireBytes true).length ≠ 0 := by omega
  by_cases hone : m.version = 0x01
  · rw [Packer.unpack_state storage handler hsize hid (by omega) htype (hversion.trans hone),
      ofBuffer, hread, if_pos hone]
    rfl
  rw [if_neg hone]
  by_cases htwo : m.version = 0x02
  · -- the second version's decoder takes the frame for a cut one and leaves its own fields
    have hbase := hread storage.state2.toVeh2CloudState
    rw [Packer.unpack_state2 storage handler hsize hid (by omega) htype (hversion.trans htwo),
      Veh2CloudState2.ofBuffer,
      Veh2CloudState2.fromBytes_of_base (Veh2CloudState2.fresh storage.state2) hbase hlen.ge,
      Veh2CloudState2.fresh_restLength, if_pos (by omega), if_pos htwo]
    rfl
  · rw [Packer.unpack_state_other storage handler hsize hid (by omega) htype
      (by rwa [hversion]) (by rwa [hversion]), if_neg htwo]

end

end Veh2CloudState

/-! ## Version 2 -/

namespace Veh2CloudState2

/-- The message has no pass points, no wheels and no user data. -/
structure NoLists (m : Veh2CloudState2) : Prop where
  passPos : m.passPos = []
  wheelVelocity : m.wheelVelocity = []
  tirePressure : m.tirePressure = []
  userData : m.userData = []

theorem NoLists.frameLength_eq {m : Veh2CloudState2} (h : m.NoLists) : m.frameLength = 142 := by
  rw [frameLength, h.passPos, h.wheelVelocity, h.userData]
  rfl

theorem Constructed.byteAt_wireBytes {m : Veh2CloudState2} (h : m.Constructed)
    (rest : List Byte) :
    byteAt (m.wireBytes true ++ rest) 0 = 0xF2 ∧
      byteAt (m.wireBytes true ++ rest) 5 = veh2cloudState ∧
      byteAt (m.wireBytes true ++ rest) 6 = m.version := by
  have hbytes := m.toMessageHeader.byteAt_enc
    ((Veh2CloudState.bodyFormat true).enc (m.toVeh2CloudState.body true) ++
      ((bodyFormat true).enc m.body ++ rest))
  rw [← List.append_assoc, ← Veh2CloudState.wireBytes, ← List.append_assoc, ← wireBytes] at hbytes
  cases h
  exact hbytes

section

variable {m : Veh2CloudState2} (h : m.Constructed) (hlists : m.NoLists)
variable (stack : (n : ℕ) → Vector Byte n) (storage : Storage) (handler : Bool)

include h hlists

theorem NoLists.matched : m.Matched := by
  obtain ⟨hpos, hwheel, htire, huser⟩ := hlists
  obtain ⟨-, hposNum, hwheelNum, huserLen⟩ := h.built
  refine ⟨?_, ?_, ?_, ?_⟩
  · rw [hposNum, hpos]
    rfl
  · rw [hwheelNum, hwheel]
    rfl
  · rw [hwheelNum, hwheel, htire]
    rfl
  · rw [huserLen, huser]
    rfl

theorem pack_of_no_lists :
    Packer.pack m.toMessageHeader m.toBytes stack = .ok (Packer.frame (m.wireBytes true)) := by
  obtain ⟨hposNum, hwheelNum, -, huserLen⟩ := hlists.matched h
  have hdata := h.built.dataLen
  rw [hlists.passPos, hlists.wheelVelocity, hlists.tirePressure, hlists.userData] at hdata
  rw [hlists.passPos] at hposNum
  rw [hlists.wheelVelocity] at hwheelNum
  rw [hlists.userData] at huserLen
  simp only [List.length_nil] at hdata hposNum hwheelNum huserLen
  have hguard : ¬ m.dataLen.toNat < 82 + m.passPos.length := by
    rw [hlists.passPos, List.length_nil]
    omega
  have hstart : m.start = 82 := by
    rw [start, if_neg hguard, hposNum]
  have hrest : m.restLength = 44 := by
    rw [restLength, hlists.wheelVelocity, hlists.tirePressure, hlists.userData]
    rfl
  have hpack := pack_of_fits h.built stack (by omega) (by omega) (hlists.matched h).covered
    (by omega)
  rwa [baseBytes, if_neg hguard] at hpack

theorem unpackPacked_eq :
    Packer.unpackPacked m.toMessageHeader m.toBytes stack storage handler =
      .ok (if m.version = 0x01 then Packer.deliver handler (.state m.toVeh2CloudState)
        else if m.version = 0x02 then Packer.deliver handler (.state2 m)
        else Packer.reject) := by
  have hmatched := hlists.matched h
  have hframe := hlists.frameLength_eq
  have hlen : (m.wireBytes true).length = 142 := (wireBytes_length true hmatched).trans hframe
  obtain ⟨hid, htype, hversion⟩ := h.byteAt_wireBytes []
  rw [List.append_nil] at hid htype hversion
  rw [Packer.unpackPacked_of_pack (pack_of_no_lists h hlists stack) (by omega)]
  have hsize : (m.wireBytes true).length ≠ 0 := by omega
  by_cases hone : m.version = 0x01
  · -- the first version's decoder stops before the second version's fields
    have hread := m.toVeh2CloudState.fromBytes_wireBytes storage.state true hmatched.passPos
      ((bodyFormat true).enc m.body)
    rw [← wireBytes] at hread
    rw [Packer.unpack_state storage handler hsize hid (by omega) htype (hversion.trans hone),
      Veh2CloudState.ofBuffer, hread, if_pos hone]
    rfl
  rw [if_neg hone]
  by_cases htwo : m.version = 0x02
  · have hnone : m.wheelNum = 0 := BitVec.eq_of_toNat_eq
      (by rw [hmatched.wheelVelocity, hlists.wheelVelocity]; rfl)
    have hto := toBytes_wireBytes true hmatched (hframe.trans hlen.symm).le
    have hread := (roundTrips_of_no_wheels storage.state2 true hmatched hnone).decodes
      (hframe.trans hlen.symm).le hto []
    rw [List.append_nil] at hread
    rw [Packer.unpack_state2 storage handler hsize hid (by omega) htype (hversion.trans htwo),
      ofBuffer, hread, if_pos htwo]
    rfl
  · rw [Packer.unpack_state_other storage handler hsize hid (by omega) htype
      (by rwa [hversion]) (by rwa [hversion]), if_neg htwo]

end

end Veh2CloudState2

namespace Packer

/-- With the version of its own class a message without lists comes back as it was. With the
other class's version it is taken for a message of that class, and with any other version it
is dropped. -/
theorem unpack_pack_class {state : Veh2CloudState} (hstate : state.Constructed)
    (hpos : state.passPos = []) {state2 : Veh2CloudState2} (hstate2 : state2.Constructed)
    (hlists : state2.NoLists) (stack : (n : ℕ) → Vector Byte n) (storage : Storage)
    (handler : Bool) :
    unpackPacked state.toMessageHeader state.toBytes stack storage handler =
        .ok (if state.version = 0x01 then deliver handler (.state state)
          else if state.version = 0x02 then
            deliver handler
              (.state2 { Veh2CloudState2.fresh storage.state2 with toVeh2CloudState := state })
          else reject) ∧
      unpackPacked state2.toMessageHeader state2.toBytes stack storage handler =
        .ok (if state2.version = 0x01 then deliver handler (.state state2.toVeh2CloudState)
          else if state2.version = 0x02 then deliver handler (.state2 state2)
          else reject) :=
  ⟨Veh2CloudState.unpackPacked_eq hstate hpos stack storage handler,
    Veh2CloudState2.unpackPacked_eq hstate2 hlists stack storage handler⟩

/-- A message of version 1 with nothing in it. -/
def plainState (version : Byte) : Veh2CloudState :=
  .new version 0 0 [] [] 0 0 default 0 0 0 0 0 0 0 0 0 0 0 0 0 0 0 0 default []

/-- A message of version 2 with nothing in it. -/
def plainState2 (version : Byte) : Veh2CloudState2 :=
  .new version 0 0 [] [] 0 0 default 0 0 0 0 0 0 0 0 0 0 0 0 0 0 0 0 default []
    0 0 0 0 0 0 0 0 0 0 0 0 0 0 0 0 0 0 0 0 0 0 0 [] [] 0 0 []

/-- Both classes under their own versions. -/
theorem unpack_pack_class_own_versions :
    unpackPacked (plainState 1).toMessageHeader (plainState 1).toBytes
          (fun n => Vector.replicate n 0) default true =
        .ok { msg := some (.state (plainState 1)), calls := [.state (plainState 1)] } ∧
      unpackPacked (plainState2 2).toMessageHeader (plainState2 2).toBytes
          (fun n => Vector.replicate n 0) default true =
        .ok { msg := some (.state2 (plainState2 2)), calls := [.state2 (plainState2 2)] } :=
  unpack_pack_class (.new 1 0 0 [] [] 0 0 default 0 0 0 0 0 0 0 0 0 0 0 0 0 0 0 0 default []) rfl
    (.new 2 0 0 [] [] 0 0 default 0 0 0 0 0 0 0 0 0 0 0 0 0 0 0 0 default []
      0 0 0 0 0 0 0 0 0 0 0 0 0 0 0 0 0 0 0 0 0 0 0 [] [] 0 0 []) ⟨rfl, rfl, rfl, rfl⟩
    (fun n => Vector.replicate n 0) default true

/-- A version 1 message under the version 2. -/
theorem unpack_mistakes_class :
    ¬ ((∀ m : Veh2CloudState, m.Constructed → m.passPos = [] →
        KeepsClass Message.state m.toMessageHeader m.toBytes) ∧
      ∀ m : Veh2CloudState2, m.Constructed → m.NoLists →
        KeepsClass Message.state2 m.toMessageHeader m.toBytes) := by
  rintro ⟨hall, -⟩
  have hconstructed : (plainState 2).Constructed := .new ..
  obtain ⟨m, hm⟩ := hall _ hconstructed rfl (fun n => Vector.replicate n 0) default true
  rw [Veh2CloudState.unpackPacked_eq hconstructed rfl] at hm
  have hmsg := congrArg Unpacked.msg (Except.ok.inj hm)
  exact absurd (Option.some.inj hmsg) Message.noConfusion

end Packer

end Csae295
