import Csae295.Verification.Pack

/-! Which constructed messages `pack` turns into a frame without leaving its buffer or the
strings and vectors it copies from. -/

namespace Csae295

open Library

namespace Packer

/-- Whatever the stack holds, packing the message runs to its end. -/
def Safe (header : MessageHeader) (toBytes : Encoder) : Prop :=
  ∀ stack, ∃ buf, pack header toBytes stack = .ok buf

theorem safe_of_ok {header : MessageHeader} {toBytes : Encoder} {buf : MessageBuffer}
    (h : ∀ stack, pack header toBytes stack = .ok buf) : Safe header toBytes :=
  fun stack => ⟨buf, h stack⟩

theorem not_safe_of_error {header : MessageHeader} {toBytes : Encoder}
    (h : ∀ stack, ∃ e, pack header toBytes stack = .error e) : ¬ Safe header toBytes := by
  intro hsafe
  obtain ⟨e, he⟩ := h fun n => Vector.replicate n 0
  obtain ⟨buf, hbuf⟩ := hsafe fun n => Vector.replicate n 0
  rw [he] at hbuf
  cases hbuf

end Packer

namespace Veh2CloudInh

/-- The later versions are not copied past the terminating zero of the software version. -/
theorem safe_iff {m : Veh2CloudInh} (h : m.Constructed) :
    Packer.Safe m.toMessageHeader m.toBytes ↔ m.Overlong ∨
      (m.hwVer.length ≤ m.swVer.length + 1 ∧ m.adVer.length ≤ m.swVer.length + 1) := by
  have hbuilt := h.built
  by_cases hlong : m.Overlong
  · simp only [hlong, true_or, iff_true]
    exact Packer.safe_of_ok fun stack => pack_of_overlong hbuilt stack hlong
  simp only [hlong, false_or, ← covered_iff m (hbuilt.body_valid hlong)]
  by_cases hcovered : m.Covered
  · simp only [hcovered, iff_true]
    exact Packer.safe_of_ok fun stack => pack_of_covered hbuilt stack hlong hcovered
  · simp only [hcovered, iff_false]
    exact Packer.not_safe_of_error fun stack => pack_of_not_covered hbuilt stack hlong hcovered

end Veh2CloudInh

namespace Veh2CloudState

/-- The data length counts pass points, the encoder writes eight bytes for each. -/
theorem safe_iff {m : Veh2CloudState} (h : m.Constructed) :
    Packer.Safe m.toMessageHeader m.toBytes ↔
      2 ^ 32 ≤ 82 + m.passPos.length ∨ 8 * (m.passPos.length % 256) ≤ m.passPos.length := by
  have hbuilt := h.built
  obtain ⟨hdata, hnum⟩ := hbuilt
  by_cases hguard : m.dataLen.toNat < 82 + m.passPos.length
  · have hwrap : 2 ^ 32 ≤ 82 + m.passPos.length := by omega
    simp only [hwrap, true_or, iff_true]
    exact Packer.safe_of_ok fun stack => pack_of_wrapped stack hguard
  have hexact : m.dataLen.toNat = 82 + m.passPos.length :=
    le_antisymm (hdata.trans_le (Nat.mod_le _ _)) (Nat.le_of_not_lt hguard)
  have hbound : 82 + m.passPos.length < 2 ^ 32 := hexact ▸ m.dataLen.isLt
  by_cases hfits : 82 + 8 * m.passPosNum.toNat ≤ m.dataLen.toNat
  · have hle : 8 * (m.passPos.length % 256) ≤ m.passPos.length := by omega
    simp only [hle, or_true, iff_true]
    exact Packer.safe_of_ok fun stack =>
      pack_of_fits ⟨hdata, hnum⟩ stack (Nat.le_of_not_lt hguard) hfits
  · have hnot : ¬ (2 ^ 32 ≤ 82 + m.passPos.length ∨
        8 * (m.passPos.length % 256) ≤ m.passPos.length) := by
      omega
    simp only [hnot, iff_false]
    exact Packer.not_safe_of_error fun stack =>
      pack_of_not_fits ⟨hdata, hnum⟩ stack (Nat.le_of_not_lt hguard) (Nat.lt_of_not_ge hfits)

end Veh2CloudState

namespace Veh2CloudState2

/-- The data length the constructor announces for `n` pass points, `w` wheel velocities,
`t` tire pressures and `u` bytes of user data. -/
def announcedLength (n w t u : ℕ) : ℕ := (126 + n + w + t + u) % 2 ^ 32

/-- How far behind the header the second version starts. -/
def announcedStart (n w t u : ℕ) : ℕ :=
  if announcedLength n w t u < 82 + n then 0 else 82 + 8 * (n % 256)

/-- The first version fits into the announced data length, and the second version is either
turned away by its guard or fits as well, with a tire pressure for every wheel. -/
def PackFits (n w t u : ℕ) : Prop :=
  announcedStart n w t u ≤ announcedLength n w t u ∧
    (announcedLength n w t u < announcedStart n w t u + 44 + w + t + u ∨
      (w % 256 ≤ t ∧
        announcedStart n w t u + 44 + 4 * (w % 256) + u % 256 ≤ announcedLength n w t u))

theorem Built.dataLen_eq {m : Veh2CloudState2} (h : m.Built) : m.dataLen.toNat =
    announcedLength m.passPos.length m.wheelVelocity.length m.tirePressure.length
      m.userData.length := h.dataLen

theorem Built.start_eq {m : Veh2CloudState2} (h : m.Built) : m.start =
    announcedStart m.passPos.length m.wheelVelocity.length m.tirePressure.length
      m.userData.length := by
  rw [start, announcedStart, h.dataLen_eq, h.passPosNum]

theorem safe_iff {m : Veh2CloudState2} (h : m.Constructed) :
    Packer.Safe m.toMessageHeader m.toBytes ↔
      PackFits m.passPos.length m.wheelVelocity.length m.tirePressure.length
        m.userData.length := by
  have hbuilt := h.built
  unfold PackFits
  rw [← hbuilt.start_eq, ← hbuilt.dataLen_eq, ← hbuilt.wheelNum, ← hbuilt.userDataLen,
    ← hbuilt.covered_iff]
  by_cases hstart : m.start ≤ m.dataLen.toNat
  swap
  · simp only [hstart, false_and, iff_false]
    exact Packer.not_safe_of_error fun stack =>
      pack_of_base_error hbuilt stack (Nat.lt_of_not_ge hstart)
  have hlen : m.start + m.restLength = m.start + 44 + m.wheelVelocity.length +
      m.tirePressure.length + m.userData.length := by
    rw [restLength]
    omega
  rw [← hlen]
  by_cases hrest : m.dataLen.toNat < m.start + m.restLength
  · simp only [hstart, hrest, true_or, and_true, iff_true]
    exact Packer.safe_of_ok fun stack => pack_of_lt hbuilt stack hstart hrest
  have hle := Nat.le_of_not_lt hrest
  by_cases hfits : m.Covered ∧
      m.start + 44 + 4 * m.wheelNum.toNat + m.userDataLen.toNat ≤ m.dataLen.toNat
  · simp only [hstart, hfits, and_true, or_true, iff_true]
    exact Packer.safe_of_ok fun stack => pack_of_fits hbuilt stack hstart hle hfits.1 hfits.2
  · simp only [hstart, hrest, hfits, true_and, or_false, iff_false]
    exact Packer.not_safe_of_error fun stack => pack_of_not_fits hbuilt stack hstart hle hfits

end Veh2CloudState2

namespace Packer

/-- Packing a constructed message is memory-safe exactly under these bounds on the lengths
of its strings and vectors. -/
theorem pack_safe_iff {inh : Veh2CloudInh} (hinh : inh.Constructed) {state : Veh2CloudState}
    (hstate : state.Constructed) {state2 : Veh2CloudState2} (hstate2 : state2.Constructed) :
    (Safe inh.toMessageHeader inh.toBytes ↔ inh.Overlong ∨
      (inh.hwVer.length ≤ inh.swVer.length + 1 ∧ inh.adVer.length ≤ inh.swVer.length + 1)) ∧
    (Safe state.toMessageHeader state.toBytes ↔ 2 ^ 32 ≤ 82 + state.passPos.length ∨
      8 * (state.passPos.length % 256) ≤ state.passPos.length) ∧
    (Safe state2.toMessageHeader state2.toBytes ↔
      Veh2CloudState2.PackFits state2.passPos.length state2.wheelVelocity.length
        state2.tirePressure.length state2.userData.length) :=
  ⟨Veh2CloudInh.safe_iff hinh, Veh2CloudState.safe_iff hstate, Veh2CloudState2.safe_iff hstate2⟩

/-- Information with four strings, a state with so many pass points that their count byte is zero,
and a state with a wheel velocity, three tire pressures and user data. -/
theorem pack_safe_filled :
    let inh := Veh2CloudInh.new 1 0x0102030405060708 3 [0x56, 0x31] [0x61, 0x62] [0x63, 0x64] [0x61]
      1 2 3 4 [0x78, 0x79, 0x7A]
    let state := Veh2CloudState.new 1 0x0102030405060708 3 [0x56, 0x31] [1, 2, 3] 4 500
      ⟨116, 40, 50⟩ 90 1 0x10000000 600 7 8 9 10 11 1200 13 1 14 15 16 2 ⟨117, 41⟩
      (List.replicate 256 ⟨118, 42⟩)
    let state2 := Veh2CloudState2.new 2 0x0102030405060708 3 [0x56, 0x31] [1, 2, 3] 4 500
      ⟨116, 40, 50⟩ 90 1 0x10000000 600 7 8 9 10 11 1200 13 1 14 15 16 2 ⟨117, 41⟩ []
      1 0 1 0 1 0 1 0 1 0 20000 21 22 23 24 25 26 27 1 2 28 29 1 [600] [220, 221, 222] 30 31
      [0x78, 0x79, 0x7A]
    Safe inh.toMessageHeader inh.toBytes ∧ Safe state.toMessageHeader state.toBytes ∧
      Safe state2.toMessageHeader state2.toBytes := by
  intro inh state state2
  obtain ⟨hinh, hstate, hstate2⟩ := pack_safe_iff (show inh.Constructed from .new ..)
    (show state.Constructed from .new ..) (show state2.Constructed from .new ..)
  have hpassPos : state.passPos.length = 256 := List.length_replicate
  have hfits : Veh2CloudState2.PackFits 0 1 3 3 := by
    unfold Veh2CloudState2.PackFits Veh2CloudState2.announcedStart Veh2CloudState2.announcedLength
    decide
  rw [hpassPos] at hstate
  exact ⟨hinh.mpr (.inr (by decide)), hstate.mpr (.inr (by decide)), hstate2.mpr hfits⟩

/-- One pass point makes the frame seven bytes longer than its buffer. -/
theorem pack_writes_past_end :
    ¬ ((∀ m : Veh2CloudInh, m.Constructed → Safe m.toMessageHeader m.toBytes) ∧
      (∀ m : Veh2CloudState, m.Constructed → Safe m.toMessageHeader m.toBytes) ∧
      ∀ m : Veh2CloudState2, m.Constructed → Safe m.toMessageHeader m.toBytes) := by
  rintro ⟨-, hstate, -⟩
  have hbuilt := Veh2CloudState.Constructed.new 1 0 0 [] [] 0 0 default 0 0 0 0 0 0 0 0 0 0 0 0 0 0
    0 0 default [default]
  have hsafe := (Veh2CloudState.safe_iff hbuilt).mp (hstate _ hbuilt)
  exact absurd hsafe (by decide)

end Packer

end Csae295
