import Csae295.Verification.Dispatch

/-! Which buffers `unpack` reads without leaving them.

The conditions speak about the bytes of the buffer only: its size, its type and version
bytes, and what its count and length bytes announce. -/

namespace Csae295

open Library

/-! ## The decoders on a fresh object -/

namespace Veh2CloudInh

/-- Either the guard turns the buffer away, or the announced strings fit. -/
def Readable (mem : List Byte) : Prop :=
  mem.length < 32 ∨ 16 + bodyFormat.span (mem.drop 16) ≤ mem.length

theorem ofBuffer_iff (storage : Veh2CloudInh) (mem : List Byte) (be : Bool) :
    (∃ m, ofBuffer storage (some mem) mem.length be = .ok m) ↔ Readable mem := by
  unfold Readable ofBuffer
  by_cases hheader : mem.length < 16
  · simp [fromBytes_of_lt_header _ be hheader]
    omega
  by_cases hguard : mem.length < 32
  · have hlt : mem.length < (fresh storage).length := by rwa [fresh_length]
    simp [fromBytes_of_lt _ be (Nat.le_of_not_lt hheader) le_rfl hlt, hguard]
  have h : 32 ≤ mem.length := Nat.le_of_not_lt hguard
  by_cases hfits : 16 + bodyFormat.span (mem.drop 16) ≤ mem.length
  · obtain ⟨body, -, hread, -⟩ := fromBytes_fresh_of_fits be le_rfl h hfits
    simp [hread, hfits]
  · simp [fromBytes_fresh_of_not_fits storage be le_rfl h hfits, hguard, hfits]

end Veh2CloudInh

namespace Cloud2VehInhRes

/-- The nine body bytes are read from the start when the header is cut off, and behind the
header unless the announced data length exceeds what is there. -/
def Readable (mem : List Byte) : Prop :=
  if mem.length < 16 then 9 ≤ mem.length
  else mem.length - 16 < (MessageHeader.decode true mem).dataLen.toNat ∨ 25 ≤ mem.length

/-- With a header cut off, the storage of the object decides whether the body is read. -/
theorem ofBuffer_iff (mem : List Byte) :
    (∀ storage, ∃ m, ofBuffer storage (some mem) mem.length true = .ok m) ↔ Readable mem := by
  unfold Readable ofBuffer
  by_cases hheader : mem.length < 16
  · simp only [fromBytes_of_lt_header _ true hheader, if_pos hheader]
    constructor
    · intro hall
      by_contra hlt
      obtain ⟨m, hm⟩ := hall ⟨⟨0, 0, 0, 0, 0, 0⟩, Vector.replicate 8 0, 0⟩
      have hzero : ¬ mem.length < (0 : Word 4).toNat := Nat.not_lt_zero _
      simp only [fresh, if_neg hzero, loadFields_of_lt _ (Nat.zero_le _)
        (show mem.length < 0 + 9 by omega)] at hm
      cases hm
    · intro h storage
      obtain ⟨body, hload, -⟩ := loadFields_of_le (show 0 + 9 ≤ mem.length by omega)
      by_cases hlt : mem.length < (fresh storage).dataLen.toNat
      · simp [hlt]
      · simp [hlt, hload]
  · have h : 16 ≤ mem.length := Nat.le_of_not_lt hheader
    simp only [fromBytes_of_le _ true h le_rfl, if_neg hheader]
    by_cases hlt : mem.length - 16 < (MessageHeader.decode true mem).dataLen.toNat
    · simp [hlt]
    by_cases hbody : 25 ≤ mem.length
    · simp only [if_neg hlt, hbody, or_true, iff_true]
      intro storage
      obtain ⟨body, hload, -⟩ := loadFields_of_le (show 16 + 9 ≤ mem.length by omega)
      simp [hload]
    · simp only [loadFields_of_lt _ h (Nat.lt_of_not_ge hbody), hlt, hbody, or_self,
        iff_false]
      intro hall
      obtain ⟨m, hm⟩ := hall ⟨⟨0, 0, 0, 0, 0, 0⟩, Vector.replicate 8 0, 0⟩
      cases hm

end Cloud2VehInhRes

namespace Veh2CloudState

/-- Either the guard turns the buffer away, or the announced pass points fit. -/
def Readable (mem : List Byte) : Prop :=
  mem.length < 98 ∨ passPosEnd mem ≤ mem.length

/-- What the decoder of a fresh object leaves: nothing read, the header alone, or all. -/
theorem fromBytes_fresh_offset (storage : Veh2CloudState) (mem : List Byte) (be : Bool)
    (h : Readable mem) :
    ∃ m, (fresh storage).fromBytes (some mem) mem.length be =
      .ok (m, if mem.length < 16 then 0 else if mem.length < 98 then 16 else passPosEnd mem) := by
  by_cases hheader : mem.length < 16
  · exact ⟨_, by rw [fromBytes_of_lt_header _ be hheader, if_pos hheader]⟩
  by_cases hguard : mem.length < 98
  · have hlt : mem.length < (fresh storage).length := by rwa [fresh_length]
    exact ⟨_, by rw [fromBytes_of_lt _ be (Nat.le_of_not_lt hheader) le_rfl hlt, if_neg hheader,
      if_pos hguard]⟩
  · obtain ⟨body, -, hread, -⟩ := fromBytes_fresh_of_fits be le_rfl
      (Nat.le_of_not_lt hguard) (h.resolve_left hguard)
    exact ⟨_, by rw [hread, if_neg hheader, if_neg hguard]⟩

theorem fromBytes_fresh_error (storage : Veh2CloudState) (mem : List Byte) (be : Bool)
    (h : ¬ Readable mem) :
    (fresh storage).fromBytes (some mem) mem.length be = .error .read := by
  obtain ⟨hguard, hfits⟩ := not_or.mp h
  exact fromBytes_fresh_of_not_fits storage be le_rfl (Nat.le_of_not_lt hguard) hfits

theorem ofBuffer_iff (storage : Veh2CloudState) (mem : List Byte) (be : Bool) :
    (∃ m, ofBuffer storage (some mem) mem.length be = .ok m) ↔ Readable mem := by
  unfold ofBuffer
  by_cases h : Readable mem
  · obtain ⟨m, hread⟩ := fromBytes_fresh_offset storage mem be h
    simp [hread, h]
  · simp [fromBytes_fresh_error storage mem be h, h]

end Veh2CloudState

namespace Veh2CloudState2

/-- Where the second version's fields are expected: behind the pass points, or directly
behind the header when the first version's guard turned the buffer away. -/
def baseEnd (mem : List Byte) : ℕ :=
  if mem.length < 98 then 16 else Veh2CloudState.passPosEnd mem

/-- The first version is readable, and either the second guard turns the buffer away or
there are no wheels and the announced user data fits. -/
def Readable (mem : List Byte) : Prop :=
  Veh2CloudState.Readable mem ∧ (mem.length < baseEnd mem + 44 ∨ Fits mem (baseEnd mem))

theorem ofBuffer_iff (storage : Veh2CloudState2) (mem : List Byte) (be : Bool) :
    (∃ m, ofBuffer storage (some mem) mem.length be = .ok m) ↔ Readable mem := by
  unfold ofBuffer Readable
  by_cases hbase : Veh2CloudState.Readable mem
  swap
  · have herr := Veh2CloudState.fromBytes_fresh_error storage.toVeh2CloudState mem be hbase
    simp [fromBytes_of_base_error (fresh storage) herr, hbase]
  obtain ⟨base, hread⟩ :=
    Veh2CloudState.fromBytes_fresh_offset storage.toVeh2CloudState mem be hbase
  by_cases hheader : mem.length < 16
  · rw [if_pos hheader] at hread
    have hlt : mem.length - 0 < (fresh storage).restLength := by
      rw [fresh_restLength]
      omega
    have hend : mem.length < baseEnd mem + 44 := by
      rw [baseEnd, if_pos (by omega)]
      omega
    rw [fromBytes_of_base (fresh storage) hread (Nat.zero_le _), if_pos hlt]
    simp [hbase, hend]
  have hoff : baseEnd mem ≤ mem.length := by
    unfold baseEnd
    split
    · omega
    · next hguard => exact hbase.resolve_left hguard
  rw [if_neg hheader, ← baseEnd] at hread
  rw [fromBytes_of_base (fresh storage) hread hoff, fresh_restLength]
  by_cases hguard : mem.length < baseEnd mem + 44
  · simp [show mem.length - baseEnd mem < 44 by omega, hbase, hguard]
  rw [if_neg (by omega)]
  by_cases hfits : Fits mem (baseEnd mem)
  · obtain ⟨body, -, hload, -⟩ := loadFields_of_fits be hfits
    simp [hload { fresh storage with toVeh2CloudState := base } rfl rfl, hbase, hfits]
  · obtain ⟨e, he⟩ := loadFields_of_not_fits
      { fresh storage with toVeh2CloudState := base } be rfl rfl hoff hfits
    simp [he, hguard, hfits]

end Veh2CloudState2

/-! ## Dispatch -/

namespace Packer

/-- The type byte can be peeked at, and what the class it selects announces fits. -/
def Dispatchable (mem : List Byte) : Prop :=
  6 ≤ mem.length ∧
    (byteAt mem 5 = veh2cloudInh → Veh2CloudInh.Readable mem) ∧
    (byteAt mem 5 = cloud2vehInhRes → Cloud2VehInhRes.Readable mem) ∧
    (byteAt mem 5 = veh2cloudState → 7 ≤ mem.length ∧
      (byteAt mem 6 = 0x01 → Veh2CloudState.Readable mem) ∧
      (byteAt mem 6 = 0x02 → Veh2CloudState2.Readable mem))

theorem bind_ok_iff {α β : Type} (x : Except Fault α) (f : α → β) :
    (∃ r, (x >>= fun a => .ok (f a)) = .ok r) ↔ ∃ a, x = .ok a := by
  cases x <;> simp

theorem header_ofBuffer_ok (storage : MessageHeader) (mem : List Byte) :
    ∃ m, MessageHeader.ofBuffer storage (some mem) mem.length true = .ok m := by
  unfold MessageHeader.ofBuffer
  by_cases h : mem.length < 16
  · simp [MessageHeader.fromBytes_of_lt _ true h]
  · simp [MessageHeader.fromBytes_of_le _ true (Nat.le_of_not_lt h) le_rfl]

/-- No guard of a decoder subtracts an offset from a smaller size: neither the one behind the
header's decoder, in each class, nor the second version's behind the first version's. -/
structure GuardsInRange (storage : Storage) (mem : List Byte) : Prop where
  header : ∀ (self header : MessageHeader) (offset : ℕ),
    self.fromBytes (some mem) mem.length true = .ok (header, offset) → offset ≤ mem.length
  state : ∀ (base : Veh2CloudState) (offset : ℕ),
    (Veh2CloudState2.fresh storage.state2).toVeh2CloudState.fromBytes (some mem) mem.length true =
      .ok (base, offset) → offset ≤ mem.length

/-- Pass points that end behind the buffer stop the first version's decoder. -/
theorem guardsInRange (storage : Storage) (mem : List Byte) : GuardsInRange storage mem := by
  constructor
  · intro self header offset h
    by_cases hheader : mem.length < 16
    · rw [MessageHeader.fromBytes_of_lt self true hheader] at h
      cases h
      exact Nat.zero_le _
    · rw [MessageHeader.fromBytes_of_le self true (Nat.le_of_not_lt hheader) le_rfl] at h
      cases h
      exact Nat.le_of_not_lt hheader
  · intro base offset h
    have hfresh : (Veh2CloudState2.fresh storage.state2).toVeh2CloudState =
        Veh2CloudState.fresh storage.state2.toVeh2CloudState := rfl
    rw [hfresh] at h
    by_cases hbase : Veh2CloudState.Readable mem
    · obtain ⟨m, hread⟩ :=
        Veh2CloudState.fromBytes_fresh_offset storage.state2.toVeh2CloudState mem true hbase
      rw [hread] at h
      cases h
      unfold Veh2CloudState.Readable at hbase
      split
      · exact Nat.zero_le _
      · split <;> omega
    · rw [Veh2CloudState.fromBytes_fresh_error _ mem true hbase] at h
      cases h

theorem unpack_ok_iff_dispatchable (mem : List Byte) :
    (∀ storage handler, ∃ r, unpack storage (some mem) mem.length handler = .ok r) ↔
      (mem.head? = some 0xF2 → Dispatchable mem) := by
  by_cases hempty : mem = []
  · simp [hempty, unpack_empty]
  have h1 : 1 ≤ mem.length := List.length_pos_iff.mpr hempty
  have hsize : mem.length ≠ 0 := by omega
  rw [head?_eq_marker_iff hempty]
  cases route mem with
  | noMarker hid =>
      simp only [unpack_of_no_marker _ _ h1 hid, Except.ok.injEq, exists_eq', implies_true,
        true_iff]
      intro h
      exact absurd h hid
  | cut hid hcut =>
      simp [unpack_of_cut _ _ hsize h1 hcut hid, hid, Dispatchable, show ¬ 6 ≤ mem.length by omega]
  | header hid h htype =>
      simp only [unpack_header _ _ hsize hid h htype, bind_ok_iff]
      rcases htype with htype | htype <;>
        simp [header_ofBuffer_ok, Dispatchable, hid, h, htype, heartbeat, heartbeatRes,
          veh2cloudInh, cloud2vehInhRes, veh2cloudState]
  | inh hid h htype =>
      simp only [unpack_inh _ _ hsize hid h htype, bind_ok_iff, Veh2CloudInh.ofBuffer_iff]
      simp [Dispatchable, hid, h, htype, veh2cloudInh, cloud2vehInhRes, veh2cloudState]
  | inhRes hid h htype =>
      have hall : (∀ storage : Storage, ∃ m, Cloud2VehInhRes.ofBuffer storage.inhRes (some mem)
          mem.length true = .ok m) ↔ Cloud2VehInhRes.Readable mem := by
        rw [← Cloud2VehInhRes.ofBuffer_iff]
        exact ⟨fun hs s => hs { (default : Storage) with inhRes := s }, fun hs s => hs s.inhRes⟩
      simp only [unpack_inhRes _ _ hsize hid h htype, bind_ok_iff, forall_const, hall]
      simp [Dispatchable, hid, h, htype, veh2cloudInh, cloud2vehInhRes, veh2cloudState]
  | stateCut hid h htype =>
      simp only [unpack_state_of_cut _ _ hsize hid h htype]
      simp [Dispatchable, hid, h, htype, veh2cloudInh, cloud2vehInhRes, veh2cloudState]
  | state hid h htype hversion =>
      simp only [unpack_state _ _ hsize hid h htype hversion, bind_ok_iff,
        Veh2CloudState.ofBuffer_iff]
      simp [Dispatchable, hid, h, htype, hversion, veh2cloudInh, cloud2vehInhRes, veh2cloudState]
      omega
  | state2 hid h htype hversion =>
      simp only [unpack_state2 _ _ hsize hid h htype hversion, bind_ok_iff,
        Veh2CloudState2.ofBuffer_iff]
      simp [Dispatchable, hid, h, htype, hversion, veh2cloudInh, cloud2vehInhRes, veh2cloudState]
      omega
  | stateOther hid h htype hone htwo =>
      simp only [unpack_state_other _ _ hsize hid h htype hone htwo, Except.ok.injEq, exists_eq',
        implies_true, true_iff]
      refine fun _ => ⟨by omega, ?_, ?_, fun _ => ⟨h, fun hv => absurd hv hone,
        fun hv => absurd hv htwo⟩⟩ <;>
        simp [htype, veh2cloudInh, cloud2vehInhRes, veh2cloudState]
  | other hid h hbeat hbeatRes hinh hinhRes hstate =>
      simp [unpack_other _ _ hsize hid h hbeat hbeatRes hinh hinhRes hstate, Dispatchable, hid, h,
        hinh, hinhRes, hstate]

/-- `unpack` stays inside a buffer, and its guards inside the size, exactly when the buffer does
not start with the frame marker or what its type selects can be read. -/
theorem unpack_safe_iff (mem : List Byte) :
    (∀ storage handler, (∃ r, unpack storage (some mem) mem.length handler = .ok r) ∧
      GuardsInRange storage mem) ↔ (mem.head? = some 0xF2 → Dispatchable mem) := by
  rw [← unpack_ok_iff_dispatchable]
  exact ⟨fun h storage handler => (h storage handler).1,
    fun h storage handler => ⟨h storage handler, guardsInRange storage mem⟩⟩

/-- A lone frame marker sends `unpack` to a type byte that is not there. -/
theorem unpack_reads_past_marker :
    ¬ ∀ (mem : List Byte) storage handler,
      (∃ r, unpack storage (some mem) mem.length handler = .ok r) ∧ GuardsInRange storage mem := by
  intro hall
  obtain ⟨⟨r, hr⟩, -⟩ := hall [0xF2] default false
  rw [unpack_of_cut default false (by decide) (by decide) (by decide) rfl] at hr
  cases hr

end Packer

end Csae295
