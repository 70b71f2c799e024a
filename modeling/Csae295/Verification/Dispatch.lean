import Csae295.Verification.Decode

/-! How `unpack` dispatches on the marker, the type byte and the version byte. -/

namespace Csae295.Packer

open Library

theorem loadByte_loadFrom {mem : List Byte} {off : ℕ} (h : off < mem.length) :
    loadByte.loadFrom (some mem) off = .ok (byteAt mem off, off + 1) := by
  rw [Access.loadFrom, Option.getD_some, loadByte_run h]

theorem loadByte_loadFrom_error {mem : List Byte} {off : ℕ} (h : mem.length ≤ off) :
    loadByte.loadFrom (some mem) off = .error .read := by
  have herr : (load 1).run ⟨mem, off⟩ = .error .read := if_neg (by simp only; omega)
  rw [Access.loadFrom, Option.getD_some, loadByte, Access.run_bind_error herr]

/-! ## Buffers without a dispatch -/

theorem unpack_empty (storage : Storage) (buf : Buffer) (handler : Bool) :
    unpack storage buf 0 handler = .ok reject := by
  simp [unpack]

theorem unpack_of_no_marker (storage : Storage) {mem : List Byte} {size : ℕ} (handler : Bool)
    (h : 1 ≤ mem.length) (hid : byteAt mem 0 ≠ 0xF2) :
    unpack storage (some mem) size handler = .ok reject := by
  by_cases hsize : size = 0
  · rw [hsize, unpack_empty]
  · simp only [unpack, Option.isNone_some, Bool.false_or, decide_eq_true_eq, if_neg hsize,
      loadByte_loadFrom h, ok_bind, if_pos hid.symm]

/-- A marker without a type byte behind it is read past its end. -/
theorem unpack_of_cut (storage : Storage) {mem : List Byte} {size : ℕ} (handler : Bool)
    (hsize : size ≠ 0) (h : 1 ≤ mem.length) (hcut : mem.length ≤ 5)
    (hid : byteAt mem 0 = 0xF2) :
    unpack storage (some mem) size handler = .error .read := by
  simp only [unpack, Option.isNone_some, Bool.false_or, decide_eq_true_eq, if_neg hsize,
    loadByte_loadFrom h, loadByte_loadFrom_error hcut, ok_bind, error_bind, hid, ne_eq,
    not_true_eq_false, if_false]

/-! ## One rule for every class -/

section

variable (storage : Storage) {mem : List Byte} {size : ℕ} (handler : Bool)
variable (hsize : size ≠ 0) (hid : byteAt mem 0 = 0xF2)

include hsize hid

/-- Past the marker and the type byte, only the type decides. -/
theorem unpack_of_marker (h : 6 ≤ mem.length) :
    unpack storage (some mem) size handler =
      if byteAt mem 5 = heartbeat then do
        let msg ← MessageHeader.ofBuffer storage.header (some mem) size true
        .ok (deliver handler (.header msg))
      else if byteAt mem 5 = heartbeatRes then do
        let msg ← MessageHeader.ofBuffer storage.header (some mem) size true
        .ok (deliver handler (.header msg))
      else if byteAt mem 5 = veh2cloudInh then do
        let msg ← Veh2CloudInh.ofBuffer storage.inh (some mem) size true
        .ok (deliver handler (.inh msg))
      else if byteAt mem 5 = cloud2vehInhRes then do
        let msg ← Cloud2VehInhRes.ofBuffer storage.inhRes (some mem) size true
        .ok (deliver handler (.inhRes msg))
      else if byteAt mem 5 = veh2cloudState then do
        let (version, _) ← loadByte.loadFrom (some mem) 6
        if 0x01 = version then do
          let msg ← Veh2CloudState.ofBuffer storage.state (some mem) size true
          .ok (deliver handler (.state msg))
        else if 0x02 = version then do
          let msg ← Veh2CloudState2.ofBuffer storage.state2 (some mem) size true
          .ok (deliver handler (.state2 msg))
        else .ok reject
      else .ok reject := by
  simp only [unpack, Option.isNone_some, Bool.false_or, decide_eq_true_eq, if_neg hsize,
    loadByte_loadFrom (show 0 < mem.length by omega),
    loadByte_loadFrom (show 5 < mem.length by omega), ok_bind, hid, ne_eq, not_true_eq_false,
    if_false, pure_eq_ok]

theorem unpack_header (h : 6 ≤ mem.length)
    (htype : byteAt mem 5 = heartbeat ∨ byteAt mem 5 = heartbeatRes) :
    unpack storage (some mem) size handler = (do
      let msg ← MessageHeader.ofBuffer storage.header (some mem) size true
      .ok (deliver handler (.header msg))) := by
  rw [unpack_of_marker storage handler hsize hid h]
  rcases htype with htype | htype <;> simp only [htype, if_true, ite_self]

theorem unpack_inh (h : 6 ≤ mem.length) (htype : byteAt mem 5 = veh2cloudInh) :
    unpack storage (some mem) size handler = (do
      let msg ← Veh2CloudInh.ofBuffer storage.inh (some mem) size true
      .ok (deliver handler (.inh msg))) := by
  rw [unpack_of_marker storage handler hsize hid h, htype]
  rfl

theorem unpack_inhRes (h : 6 ≤ mem.length) (htype : byteAt mem 5 = cloud2vehInhRes) :
    unpack storage (some mem) size handler = (do
      let msg ← Cloud2VehInhRes.ofBuffer storage.inhRes (some mem) size true
      .ok (deliver handler (.inhRes msg))) := by
  rw [unpack_of_marker storage handler hsize hid h, htype]
  rfl

/-- A state frame without a version byte is read past its end. -/
theorem unpack_state_of_cut (h : mem.length = 6) (htype : byteAt mem 5 = veh2cloudState) :
    unpack storage (some mem) size handler = .error .read := by
  rw [unpack_of_marker storage handler hsize hid (by omega), htype,
    loadByte_loadFrom_error (by omega)]
  rfl

theorem unpack_state (h : 7 ≤ mem.length) (htype : byteAt mem 5 = veh2cloudState)
    (hversion : byteAt mem 6 = 0x01) :
    unpack storage (some mem) size handler = (do
      let msg ← Veh2CloudState.ofBuffer storage.state (some mem) size true
      .ok (deliver handler (.state msg))) := by
  rw [unpack_of_marker storage handler hsize hid (by omega), htype,
    loadByte_loadFrom (show 6 < mem.length by omega), hversion]
  rfl

theorem unpack_state2 (h : 7 ≤ mem.length) (htype : byteAt mem 5 = veh2cloudState)
    (hversion : byteAt mem 6 = 0x02) :
    unpack storage (some mem) size handler = (do
      let msg ← Veh2CloudState2.ofBuffer storage.state2 (some mem) size true
      .ok (deliver handler (.state2 msg))) := by
  rw [unpack_of_marker storage handler hsize hid (by omega), htype,
    loadByte_loadFrom (show 6 < mem.length by omega), hversion]
  rfl

theorem unpack_state_other (h : 7 ≤ mem.length) (htype : byteAt mem 5 = veh2cloudState)
    (hone : byteAt mem 6 ≠ 0x01) (htwo : byteAt mem 6 ≠ 0x02) :
    unpack storage (some mem) size handler = .ok reject := by
  rw [unpack_of_marker storage handler hsize hid (by omega), htype,
    loadByte_loadFrom (show 6 < mem.length by omega)]
  have hchain : (if (0x01 : Byte) = byteAt mem 6 then do
      let msg ← Veh2CloudState.ofBuffer storage.state (some mem) size true
      .ok (deliver handler (.state msg))
    else if (0x02 : Byte) = byteAt mem 6 then do
      let msg ← Veh2CloudState2.ofBuffer storage.state2 (some mem) size true
      .ok (deliver handler (.state2 msg))
    else .ok reject) = Except.ok (ε := Fault) reject := by
    rw [if_neg hone.symm, if_neg htwo.symm]
  exact hchain

theorem unpack_other (h : 6 ≤ mem.length) (hbeat : byteAt mem 5 ≠ heartbeat)
    (hbeatRes : byteAt mem 5 ≠ heartbeatRes) (hinh : byteAt mem 5 ≠ veh2cloudInh)
    (hinhRes : byteAt mem 5 ≠ cloud2vehInhRes) (hstate : byteAt mem 5 ≠ veh2cloudState) :
    unpack storage (some mem) size handler = .ok reject := by
  rw [unpack_of_marker storage handler hsize hid h, if_neg hbeat, if_neg hbeatRes, if_neg hinh,
    if_neg hinhRes, if_neg hstate]

end

theorem head?_eq_marker_iff {mem : List Byte} (h : mem ≠ []) :
    mem.head? = some 0xF2 ↔ byteAt mem 0 = 0xF2 := by
  cases mem with
  | nil => exact absurd rfl h
  | cons b bs => simp [byteAt]

/-- What a nonempty buffer asks of `unpack`, one constructor for each way through it. -/
inductive Route (mem : List Byte) : Prop where
  | noMarker (hid : byteAt mem 0 ≠ 0xF2)
  | cut (hid : byteAt mem 0 = 0xF2) (h : mem.length ≤ 5)
  | header (hid : byteAt mem 0 = 0xF2) (h : 6 ≤ mem.length)
      (htype : byteAt mem 5 = heartbeat ∨ byteAt mem 5 = heartbeatRes)
  | inh (hid : byteAt mem 0 = 0xF2) (h : 6 ≤ mem.length) (htype : byteAt mem 5 = veh2cloudInh)
  | inhRes (hid : byteAt mem 0 = 0xF2) (h : 6 ≤ mem.length)
      (htype : byteAt mem 5 = cloud2vehInhRes)
  | stateCut (hid : byteAt mem 0 = 0xF2) (h : mem.length = 6)
      (htype : byteAt mem 5 = veh2cloudState)
  | state (hid : byteAt mem 0 = 0xF2) (h : 7 ≤ mem.length)
      (htype : byteAt mem 5 = veh2cloudState) (hversion : byteAt mem 6 = 0x01)
  | state2 (hid : byteAt mem 0 = 0xF2) (h : 7 ≤ mem.length)
      (htype : byteAt mem 5 = veh2cloudState) (hversion : byteAt mem 6 = 0x02)
  | stateOther (hid : byteAt mem 0 = 0xF2) (h : 7 ≤ mem.length)
      (htype : byteAt mem 5 = veh2cloudState) (hone : byteAt mem 6 ≠ 0x01)
      (htwo : byteAt mem 6 ≠ 0x02)
  | other (hid : byteAt mem 0 = 0xF2) (h : 6 ≤ mem.length) (hbeat : byteAt mem 5 ≠ heartbeat)
      (hbeatRes : byteAt mem 5 ≠ heartbeatRes) (hinh : byteAt mem 5 ≠ veh2cloudInh)
      (hinhRes : byteAt mem 5 ≠ cloud2vehInhRes) (hstate : byteAt mem 5 ≠ veh2cloudState)

theorem route (mem : List Byte) : Route mem := by
  by_cases hid : byteAt mem 0 = 0xF2
  swap
  · exact .noMarker hid
  by_cases hcut : mem.length ≤ 5
  · exact .cut hid hcut
  have h : 6 ≤ mem.length := by omega
  by_cases hbeat : byteAt mem 5 = heartbeat
  · exact .header hid h (.inl hbeat)
  by_cases hbeatRes : byteAt mem 5 = heartbeatRes
  · exact .header hid h (.inr hbeatRes)
  by_cases hinh : byteAt mem 5 = veh2cloudInh
  · exact .inh hid h hinh
  by_cases hinhRes : byteAt mem 5 = cloud2vehInhRes
  · exact .inhRes hid h hinhRes
  by_cases hstate : byteAt mem 5 = veh2cloudState
  swap
  · exact .other hid h hbeat hbeatRes hinh hinhRes hstate
  by_cases hversionCut : mem.length = 6
  · exact .stateCut hid hversionCut hstate
  have hversion : 7 ≤ mem.length := by omega
  by_cases hone : byteAt mem 6 = 0x01
  · exact .state hid hversion hstate hone
  by_cases htwo : byteAt mem 6 = 0x02
  · exact .state2 hid hversion hstate htwo
  · exact .stateOther hid hversion hstate hone htwo

end Csae295.Packer
