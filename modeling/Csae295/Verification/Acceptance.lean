import Csae295.Verification.Dispatch

/-! Which buffers `unpack` accepts as messages only when they start with a complete frame.

A decoder that stops early still leaves an object, filled with whatever its storage held.
A message has been set from the buffer when it does not depend on that storage. -/

namespace Csae295

open Library

/-- Decoding gives one message and one offset, whatever the storage held. -/
def Decodes {σ α : Type} (decode : σ → Except Fault (α × ℕ)) (n : ℕ) : Prop :=
  ∃ m, ∀ storage, decode storage = .ok (m, n)

theorem not_decodes_of_error {σ α : Type} [Inhabited σ] {decode : σ → Except Fault (α × ℕ)}
    {n : ℕ} (h : ∀ storage, ∃ e, decode storage = .error e) : ¬ Decodes decode n := by
  rintro ⟨m, hm⟩
  obtain ⟨e, he⟩ := h default
  rw [hm] at he
  cases he

/-- A field that shows the storage through keeps the message from being decoded. -/
theorem not_decodes_of_field {σ α β : Type} {decode : σ → Except Fault (α × ℕ)} {n : ℕ}
    (field : α → β) (old : σ → β) {s t : σ} (hold : old s ≠ old t)
    (h : ∀ storage r, decode storage = .ok r → field r.1 = old storage) : ¬ Decodes decode n := by
  rintro ⟨m, hm⟩
  exact hold ((h s _ (hm s)).symm.trans (h t _ (hm t)))

theorem decodes_of_ok {σ α : Type} [Inhabited σ] {decode : σ → Except Fault (α × ℕ)} {m : α}
    {k : ℕ} (h : ∀ storage, decode storage = .ok (m, k)) (n : ℕ) : Decodes decode n ↔ k = n := by
  constructor
  · rintro ⟨m', hm'⟩
    have heq := (h default).symm.trans (hm' default)
    exact congrArg Prod.snd (Except.ok.inj heq)
  · rintro rfl
    exact ⟨m, h⟩

/-! ## Messages that do not show their storage -/

theorem Veh2CloudInh.assign_fresh (storage storage' : Veh2CloudInh) (header : MessageHeader)
    (body : Body) :
    { fresh storage with toMessageHeader := header }.assign body =
      { fresh storage' with toMessageHeader := header }.assign body := rfl

theorem Cloud2VehInhRes.assign_fresh (storage storage' : Cloud2VehInhRes) (header : MessageHeader)
    (body : Vector Byte 8 × Byte) :
    { fresh storage with toMessageHeader := header }.assign body =
      { fresh storage' with toMessageHeader := header }.assign body := rfl

theorem Veh2CloudState.assign_fresh (storage storage' : Veh2CloudState) (header : MessageHeader)
    (be : Bool) (body : Body) :
    { fresh storage with toMessageHeader := header }.assign be body =
      { fresh storage' with toMessageHeader := header }.assign be body := rfl

theorem Veh2CloudState2.assign_fresh (storage storage' : Veh2CloudState2) (base : Veh2CloudState)
    (body : Head × Wheels × Tail) :
    { fresh storage with toVeh2CloudState := base }.assign body =
      { fresh storage' with toVeh2CloudState := base }.assign body := rfl

/-! ## The decoders -/

section

variable {mem : List Byte} {n : ℕ} (hheader : 16 ≤ mem.length)

include hheader

theorem MessageHeader.decodes_iff :
    Decodes (fun storage => (fresh storage).fromBytes (some mem) mem.length true) n ↔ 16 = n :=
  decodes_of_ok (fun storage => fromBytes_of_le (fresh storage) true hheader le_rfl) n

variable (hn : n ≤ mem.length)

include hn

theorem Veh2CloudInh.decodes_iff :
    Decodes (fun storage => (fresh storage).fromBytes (some mem) mem.length true) n ↔
      frameSpan mem = n := by
  have hspan := le_frameSpan mem
  by_cases hguard : mem.length < 32
  · have hne : frameSpan mem ≠ n := by omega
    simp only [hne, iff_false]
    refine not_decodes_of_field swVerLen swVerLen (s := { (default : Veh2CloudInh) with
      swVerLen := 0 }) (t := { (default : Veh2CloudInh) with swVerLen := 1 }) (by decide) ?_
    intro storage r hr
    rw [fromBytes_of_lt _ true hheader le_rfl (by rwa [fresh_length])] at hr
    cases hr
    rfl
  have h : 32 ≤ mem.length := Nat.le_of_not_lt hguard
  by_cases hfits : frameSpan mem ≤ mem.length
  · obtain ⟨body, -, hread, -⟩ := fromBytes_fresh_of_fits true le_rfl h hfits
    exact decodes_of_ok (fun storage => (hread storage).trans
      (by rw [assign_fresh storage default, frameSpan])) n
  · have hne : frameSpan mem ≠ n := by omega
    simp only [hne, iff_false]
    exact not_decodes_of_error fun storage =>
      ⟨.read, fromBytes_fresh_of_not_fits storage true le_rfl h hfits⟩

theorem Veh2CloudState.decodes_iff :
    Decodes (fun storage => (fresh storage).fromBytes (some mem) mem.length true) n ↔
      frameSpan mem = n := by
  rw [frameSpan_eq]
  have hspan : 98 ≤ passPosEnd mem := Nat.le_add_right _ _
  by_cases hguard : mem.length < 98
  · have hne : passPosEnd mem ≠ n := by omega
    simp only [hne, iff_false]
    refine not_decodes_of_field gear gear (s := { (default : Veh2CloudState) with gear := 0 })
      (t := { (default : Veh2CloudState) with gear := 1 }) (by decide) ?_
    intro storage r hr
    rw [fromBytes_of_lt _ true hheader le_rfl (by rwa [fresh_length])] at hr
    cases hr
    rfl
  have h : 98 ≤ mem.length := Nat.le_of_not_lt hguard
  by_cases hfits : passPosEnd mem ≤ mem.length
  · obtain ⟨body, -, hread, -⟩ := fromBytes_fresh_of_fits true le_rfl h hfits
    exact decodes_of_ok (fun storage => (hread storage).trans
      (by rw [assign_fresh storage default])) n
  · have hne : passPosEnd mem ≠ n := by omega
    simp only [hne, iff_false]
    exact not_decodes_of_error fun storage =>
      ⟨.read, fromBytes_fresh_of_not_fits storage true le_rfl h hfits⟩

/-- A frame that announces its body is complete when the announced length is the body's. -/
theorem Cloud2VehInhRes.decodes_iff
    (hdata : n = 16 + (MessageHeader.decode true mem).dataLen.toNat) :
    Decodes (fun storage => (fresh storage).fromBytes (some mem) mem.length true) n ↔
      frameSpan mem = n := by
  have hspan : frameSpan mem = 25 := by rw [frameSpan, bodyFormat_span]
  have hguard : ¬ mem.length - 16 < (MessageHeader.decode true mem).dataLen.toNat := by omega
  rw [hspan]
  simp only [fromBytes_of_le _ true hheader le_rfl, if_neg hguard]
  by_cases hfits : 25 ≤ mem.length
  · obtain ⟨body, hload, -⟩ := loadFields_of_le (show 16 + 9 ≤ mem.length from hfits)
    exact decodes_of_ok (fun storage => (hload _).trans (by rw [assign_fresh storage default])) n
  · have hne : 25 ≠ n := by omega
    simp only [hne, iff_false]
    exact not_decodes_of_error fun storage =>
      ⟨.read, loadFields_of_lt _ hheader (Nat.lt_of_not_ge hfits)⟩

end

namespace Veh2CloudState2

theorem frameSpan_of_no_wheels {mem : List Byte}
    (hw : byteAt mem (Veh2CloudState.passPosEnd mem + 38) = 0) :
    frameSpan mem = Veh2CloudState.passPosEnd mem + 44 +
      (byteAt mem (Veh2CloudState.passPosEnd mem + 43)).toNat := by
  rw [frameSpan, Veh2CloudState.frameSpan_eq, span_of_no_wheels true hw, Nat.add_assoc]

/-- When the first version's guard turns the buffer away, its fields show the storage. -/
theorem fromBytes_fresh_gear {mem : List Byte} (hheader : 16 ≤ mem.length)
    (hguard : mem.length < 98) (storage : Veh2CloudState2) (r : Veh2CloudState2 × ℕ)
    (hr : (fresh storage).fromBytes (some mem) mem.length true = .ok r) :
    r.1.gear = storage.gear := by
  have hbase := Veh2CloudState.fromBytes_of_lt (Veh2CloudState.fresh storage.toVeh2CloudState)
    true hheader le_rfl (by rwa [Veh2CloudState.fresh_length])
  rw [fromBytes_fresh_base hbase hheader hr]
  rfl

/-- Nothing of the second version is left unread: both versions fit and there are no wheels. -/
theorem decodes_iff {mem : List Byte} {n : ℕ} (hheader : 16 ≤ mem.length)
    (hn : n ≤ mem.length) :
    Decodes (fun storage => (fresh storage).fromBytes (some mem) mem.length true) n ↔
      byteAt mem (Veh2CloudState.passPosEnd mem + 38) = 0 ∧ frameSpan mem = n := by
  have hspan : Veh2CloudState.passPosEnd mem + 44 ≤ frameSpan mem := by
    rw [frameSpan, Veh2CloudState.frameSpan_eq, bodyFormat_span]
    omega
  by_cases hguard : mem.length < 98
  · have hend : 98 ≤ Veh2CloudState.passPosEnd mem := Nat.le_add_right _ _
    have hne : frameSpan mem ≠ n := by omega
    simp only [hne, and_false, iff_false]
    exact not_decodes_of_field (fun m => m.gear) (fun m => m.gear)
      (s := { (default : Veh2CloudState2) with gear := 0 })
      (t := { (default : Veh2CloudState2) with gear := 1 }) (by decide)
      (fromBytes_fresh_gear hheader hguard)
  have h : 98 ≤ mem.length := Nat.le_of_not_lt hguard
  by_cases hbase : Veh2CloudState.passPosEnd mem ≤ mem.length
  swap
  · have hne : frameSpan mem ≠ n := by omega
    simp only [hne, and_false, iff_false]
    exact not_decodes_of_error fun storage => ⟨.read, fromBytes_of_base_error (fresh storage)
      (Veh2CloudState.fromBytes_fresh_of_not_fits _ true le_rfl h hbase)⟩
  obtain ⟨b, -, hread, -⟩ := Veh2CloudState.fromBytes_fresh_of_fits true le_rfl h hbase
  have hfrom := fun storage =>
    fromBytes_of_base (fresh storage) (hread storage.toVeh2CloudState) hbase
  simp only [fresh_restLength] at hfrom
  by_cases hshort : mem.length - Veh2CloudState.passPosEnd mem < 44
  · have hne : frameSpan mem ≠ n := by omega
    simp only [hne, and_false, iff_false]
    refine not_decodes_of_field absFlag absFlag (s := { (default : Veh2CloudState2) with
      absFlag := 0 }) (t := { (default : Veh2CloudState2) with absFlag := 1 }) (by decide) ?_
    intro storage r hr
    rw [hfrom, if_pos hshort] at hr
    cases hr
    rfl
  simp only [hfrom, if_neg hshort]
  by_cases hfits : Fits mem (Veh2CloudState.passPosEnd mem)
  · obtain ⟨body, -, hload, -⟩ := loadFields_of_fits true hfits
    rw [← frameSpan_of_no_wheels hfits.1] at hload
    simp only [hfits.1, true_and]
    exact decodes_of_ok (fun storage => (hload _ rfl rfl).trans
      (by rw [assign_fresh storage default, Veh2CloudState.assign_fresh _ default])) n
  · have hnot : ¬ (byteAt mem (Veh2CloudState.passPosEnd mem + 38) = 0 ∧ frameSpan mem = n) := by
      rintro ⟨hw, hspan⟩
      rw [frameSpan_of_no_wheels hw] at hspan
      exact hfits ⟨hw, by omega⟩
    simp only [hnot, iff_false]
    exact not_decodes_of_error fun storage =>
      loadFields_of_not_fits _ true rfl rfl hbase hfits

end Veh2CloudState2

/-! ## Acceptance -/

/-- The decoder of the message's class consumes exactly `n` bytes and sets every field. -/
def Message.DecodedFrom (mem : List Byte) (n : ℕ) : Message → Prop
  | .header m => ∀ storage,
      (MessageHeader.fresh storage).fromBytes (some mem) mem.length true = .ok (m, n)
  | .inh m => ∀ storage,
      (Veh2CloudInh.fresh storage).fromBytes (some mem) mem.length true = .ok (m, n)
  | .inhRes m => ∀ storage,
      (Cloud2VehInhRes.fresh storage).fromBytes (some mem) mem.length true = .ok (m, n)
  | .state m => ∀ storage,
      (Veh2CloudState.fresh storage).fromBytes (some mem) mem.length true = .ok (m, n)
  | .state2 m => ∀ storage,
      (Veh2CloudState2.fresh storage).fromBytes (some mem) mem.length true = .ok (m, n)

namespace Packer

/-- The end of the frame at the front of a buffer, as its header announces it. -/
def announcedEnd (mem : List Byte) : ℕ := 16 + (MessageHeader.decode true mem).dataLen.toNat

/-- The buffer starts with a complete frame, and the message has been read from it. -/
structure CompleteFrame (mem : List Byte) (msg : Message) : Prop where
  size : announcedEnd mem ≤ mem.length
  decoded : msg.DecodedFrom mem (announcedEnd mem)

/-- `unpack` returns a null pointer and calls nothing, or it delivers the message of the
complete frame the buffer starts with. -/
def AcceptsOnlyFrames (mem : List Byte) : Prop :=
  ∀ handler, (∀ storage, unpack storage (some mem) mem.length handler = .ok reject) ∨
    ∃ msg, CompleteFrame mem msg ∧
      ∀ storage, unpack storage (some mem) mem.length handler = .ok (deliver handler msg)

/-- A buffer that starts with the frame marker carries the whole frame its type, its
announced length and its count bytes describe. -/
structure Framed (mem : List Byte) : Prop where
  peek : 6 ≤ mem.length
  header : byteAt mem 5 = heartbeat ∨ byteAt mem 5 = heartbeatRes →
    announcedEnd mem ≤ mem.length ∧ 16 = announcedEnd mem
  inh : byteAt mem 5 = veh2cloudInh →
    announcedEnd mem ≤ mem.length ∧ Veh2CloudInh.frameSpan mem = announcedEnd mem
  inhRes : byteAt mem 5 = cloud2vehInhRes →
    announcedEnd mem ≤ mem.length ∧ Cloud2VehInhRes.frameSpan mem = announcedEnd mem
  version : byteAt mem 5 = veh2cloudState → 7 ≤ mem.length
  state : byteAt mem 5 = veh2cloudState → byteAt mem 6 = 0x01 →
    announcedEnd mem ≤ mem.length ∧ Veh2CloudState.frameSpan mem = announcedEnd mem
  state2 : byteAt mem 5 = veh2cloudState → byteAt mem 6 = 0x02 →
    announcedEnd mem ≤ mem.length ∧ byteAt mem (Veh2CloudState.passPosEnd mem + 38) = 0 ∧
      Veh2CloudState2.frameSpan mem = announcedEnd mem

theorem accepts_of_reject {mem : List Byte}
    (h : ∀ storage handler, unpack storage (some mem) mem.length handler = .ok reject) :
    AcceptsOnlyFrames mem :=
  fun handler => .inl fun storage => h storage handler

theorem not_accepts_of_error {mem : List Byte} {e : Fault}
    (h : unpack default (some mem) mem.length false = .error e) : ¬ AcceptsOnlyFrames mem := by
  intro haccepts
  rcases haccepts false with hreject | ⟨msg, -, hdeliver⟩
  · rw [hreject] at h
    cases h
  · rw [hdeliver] at h
    cases h

/-- Where a class is dispatched to, its decoder decides. -/
theorem accepts_iff_decodes {σ α : Type} {mem : List Byte} (wrap : α → Message)
    (decode : σ → Except Fault (α × ℕ)) (proj : Storage → σ)
    (hunpack : ∀ storage handler, unpack storage (some mem) mem.length handler =
      (do
        let (m, _) ← decode (proj storage)
        .ok (deliver handler (wrap m))))
    (hdecoded : ∀ m n, (wrap m).DecodedFrom mem n ↔ ∀ s, decode s = .ok (m, n)) :
    AcceptsOnlyFrames mem ↔
      announcedEnd mem ≤ mem.length ∧ Decodes decode (announcedEnd mem) := by
  constructor
  · intro haccepts
    cases hdec : decode (proj default) with
    | error e =>
        have herr := hunpack default false
        rw [hdec, error_bind] at herr
        exact absurd haccepts (not_accepts_of_error herr)
    | ok r =>
        have hok := hunpack default false
        rw [hdec, ok_bind] at hok
        rcases haccepts false with hreject | ⟨msg, hcomplete, hdeliver⟩
        · rw [hreject] at hok
          cases hok
        · rw [hdeliver] at hok
          have hmsg : msg = wrap r.1 :=
            Option.some.inj (congrArg Unpacked.msg (Except.ok.inj hok))
          rw [hmsg] at hcomplete
          exact ⟨hcomplete.size, r.1, (hdecoded _ _).mp hcomplete.decoded⟩
  · rintro ⟨hsize, m, hm⟩ handler
    refine .inr ⟨wrap m, ⟨hsize, (hdecoded _ _).mpr hm⟩, ?_⟩
    intro storage
    rw [hunpack, hm, ok_bind]

/-- The buffer constructors drop the offset. -/
theorem drop_offset_bind {α β : Type} (x : Except Fault (α × ℕ)) (f : α → Except Fault β) :
    ((do
      let (self, _) ← x
      pure self) >>= f) =
    (do
      let (m, _) ← x
      f m) := by
  cases x <;> rfl

/-! For every type only one of the conditions speaks. -/

section

variable {mem : List Byte}

theorem framed_header_iff (h : 6 ≤ mem.length)
    (htype : byteAt mem 5 = heartbeat ∨ byteAt mem 5 = heartbeatRes) :
    Framed mem ↔ announcedEnd mem ≤ mem.length ∧ 16 = announcedEnd mem := by
  refine ⟨fun hframed => hframed.header htype, fun hend => ⟨h, fun _ => hend, ?_, ?_, ?_, ?_, ?_⟩⟩
  all_goals
    intro hother
    rw [hother] at htype
    exact absurd htype (by decide)

theorem framed_inh_iff (h : 6 ≤ mem.length) (htype : byteAt mem 5 = veh2cloudInh) :
    Framed mem ↔
      announcedEnd mem ≤ mem.length ∧ Veh2CloudInh.frameSpan mem = announcedEnd mem := by
  refine ⟨fun hframed => hframed.inh htype, fun hend => ⟨h, ?_, fun _ => hend, ?_, ?_, ?_, ?_⟩⟩
  all_goals
    rw [htype]
    exact fun hother => absurd hother (by decide)

theorem framed_inhRes_iff (h : 6 ≤ mem.length) (htype : byteAt mem 5 = cloud2vehInhRes) :
    Framed mem ↔
      announcedEnd mem ≤ mem.length ∧ Cloud2VehInhRes.frameSpan mem = announcedEnd mem := by
  refine ⟨fun hframed => hframed.inhRes htype, fun hend => ⟨h, ?_, ?_, fun _ => hend, ?_, ?_, ?_⟩⟩
  all_goals
    rw [htype]
    exact fun hother => absurd hother (by decide)

variable (h : 7 ≤ mem.length) (htype : byteAt mem 5 = veh2cloudState)

include h htype

theorem framed_state_iff (hversion : byteAt mem 6 = 0x01) :
    Framed mem ↔
      announcedEnd mem ≤ mem.length ∧ Veh2CloudState.frameSpan mem = announcedEnd mem := by
  refine ⟨fun hframed => hframed.state htype hversion, fun hend =>
    ⟨by omega, ?_, ?_, ?_, fun _ => h, fun _ _ => hend, fun _ => ?_⟩⟩
  · rw [htype]
    exact fun hother => absurd hother (by decide)
  · rw [htype]
    exact fun hother => absurd hother (by decide)
  · rw [htype]
    exact fun hother => absurd hother (by decide)
  · rw [hversion]
    exact fun hother => absurd hother (by decide)

theorem framed_state2_iff (hversion : byteAt mem 6 = 0x02) :
    Framed mem ↔ announcedEnd mem ≤ mem.length ∧
      byteAt mem (Veh2CloudState.passPosEnd mem + 38) = 0 ∧
        Veh2CloudState2.frameSpan mem = announcedEnd mem := by
  refine ⟨fun hframed => hframed.state2 htype hversion, fun hend =>
    ⟨by omega, ?_, ?_, ?_, fun _ => h, fun _ => ?_, fun _ _ => hend⟩⟩
  · rw [htype]
    exact fun hother => absurd hother (by decide)
  · rw [htype]
    exact fun hother => absurd hother (by decide)
  · rw [htype]
    exact fun hother => absurd hother (by decide)
  · rw [hversion]
    exact fun hother => absurd hother (by decide)

theorem framed_of_other_version (hone : byteAt mem 6 ≠ 0x01) (htwo : byteAt mem 6 ≠ 0x02) :
    Framed mem := by
  refine ⟨by omega, ?_, ?_, ?_, fun _ => h, fun _ hv => absurd hv hone,
    fun _ hv => absurd hv htwo⟩
  all_goals
    rw [htype]
    exact fun hother => absurd hother (by decide)

end

/-- `unpack` accepts only frames exactly from buffers that do not start with the marker or
whose announced length and counts agree with what is there. -/
theorem unpack_accepts_iff (mem : List Byte) :
    AcceptsOnlyFrames mem ↔ (mem.head? = some 0xF2 → Framed mem) := by
  by_cases hempty : mem = []
  · simp only [hempty, List.head?_nil, reduceCtorEq, false_implies, iff_true]
    exact accepts_of_reject fun storage handler => unpack_empty storage _ handler
  have h1 : 1 ≤ mem.length := List.length_pos_iff.mpr hempty
  have hsize : mem.length ≠ 0 := by omega
  have hend : 16 ≤ announcedEnd mem := Nat.le_add_right _ _
  rw [head?_eq_marker_iff hempty]
  cases route mem with
  | noMarker hid =>
      simp only [hid, false_implies, iff_true]
      exact accepts_of_reject fun storage handler => unpack_of_no_marker storage handler h1 hid
  | cut hid hcut =>
      have hnot : ¬ Framed mem := fun h => absurd h.peek (by omega)
      simp only [hid, true_implies, hnot, iff_false]
      exact not_accepts_of_error (unpack_of_cut default false hsize h1 hcut hid)
  | header hid h htype =>
      rw [accepts_iff_decodes Message.header
        (fun storage => (MessageHeader.fresh storage).fromBytes (some mem) mem.length true)
        Storage.header (fun storage handler => by
          rw [unpack_header storage handler hsize hid h htype, MessageHeader.ofBuffer,
            drop_offset_bind]) fun _ _ => Iff.rfl]
      simp only [hid, true_implies, framed_header_iff h htype]
      exact and_congr_right fun hle => MessageHeader.decodes_iff (hend.trans hle)
  | inh hid h htype =>
      rw [accepts_iff_decodes Message.inh
        (fun storage => (Veh2CloudInh.fresh storage).fromBytes (some mem) mem.length true)
        Storage.inh (fun storage handler => by
          rw [unpack_inh storage handler hsize hid h htype, Veh2CloudInh.ofBuffer,
            drop_offset_bind]) fun _ _ => Iff.rfl]
      simp only [hid, true_implies, framed_inh_iff h htype]
      exact and_congr_right fun hle => Veh2CloudInh.decodes_iff (hend.trans hle) hle
  | inhRes hid h htype =>
      rw [accepts_iff_decodes Message.inhRes
        (fun storage => (Cloud2VehInhRes.fresh storage).fromBytes (some mem) mem.length true)
        Storage.inhRes (fun storage handler => by
          rw [unpack_inhRes storage handler hsize hid h htype, Cloud2VehInhRes.ofBuffer,
            drop_offset_bind]) fun _ _ => Iff.rfl]
      simp only [hid, true_implies, framed_inhRes_iff h htype]
      exact and_congr_right fun hle => Cloud2VehInhRes.decodes_iff (hend.trans hle) hle rfl
  | stateCut hid h htype =>
      have hnot : ¬ Framed mem := fun hframed => absurd (hframed.version htype) (by omega)
      simp only [hid, true_implies, hnot, iff_false]
      exact not_accepts_of_error (unpack_state_of_cut default false hsize hid h htype)
  | state hid h htype hversion =>
      rw [accepts_iff_decodes Message.state
        (fun storage => (Veh2CloudState.fresh storage).fromBytes (some mem) mem.length true)
        Storage.state (fun storage handler => by
          rw [unpack_state storage handler hsize hid h htype hversion, Veh2CloudState.ofBuffer,
            drop_offset_bind]) fun _ _ => Iff.rfl]
      simp only [hid, true_implies, framed_state_iff h htype hversion]
      exact and_congr_right fun hle => Veh2CloudState.decodes_iff (hend.trans hle) hle
  | state2 hid h htype hversion =>
      rw [accepts_iff_decodes Message.state2
        (fun storage => (Veh2CloudState2.fresh storage).fromBytes (some mem) mem.length true)
        Storage.state2 (fun storage handler => by
          rw [unpack_state2 storage handler hsize hid h htype hversion, Veh2CloudState2.ofBuffer,
            drop_offset_bind]) fun _ _ => Iff.rfl]
      simp only [hid, true_implies, framed_state2_iff h htype hversion]
      exact and_congr_right fun hle => Veh2CloudState2.decodes_iff (hend.trans hle) hle
  | stateOther hid h htype hone htwo =>
      simp only [hid, true_implies, framed_of_other_version h htype hone htwo, iff_true]
      exact accepts_of_reject fun storage handler =>
        unpack_state_other storage handler hsize hid h htype hone htwo
  | other hid h hbeat hbeatRes hinh hinhRes hstate =>
      have hframed : Framed mem := ⟨h, fun ht => absurd ht (not_or.mpr ⟨hbeat, hbeatRes⟩),
        fun ht => absurd ht hinh, fun ht => absurd ht hinhRes, fun ht => absurd ht hstate,
        fun ht => absurd ht hstate, fun ht => absurd ht hstate⟩
      simp only [hid, true_implies, hframed, iff_true]
      exact accepts_of_reject fun storage handler =>
        unpack_other storage handler hsize hid h hbeat hbeatRes hinh hinhRes hstate

/-- Six bytes of a heartbeat are accepted as a heartbeat. -/
theorem unpack_accepts_cut_heartbeat : ¬ ∀ mem, AcceptsOnlyFrames mem := by
  intro hall
  rcases hall [0xF2, 0, 0, 0, 0, 0x0C] false with hreject | ⟨msg, hcomplete, -⟩
  · have hheader := unpack_header default false (show 6 ≠ 0 by decide)
      (show byteAt [0xF2, 0, 0, 0, 0, 0x0C] 0 = 0xF2 from rfl) (by decide) (.inl rfl)
    rw [MessageHeader.ofBuffer, MessageHeader.fromBytes_of_lt _ true (by decide)] at hheader
    have hmsg := congrArg Unpacked.msg (Except.ok.inj (hheader.symm.trans (hreject default)))
    cases hmsg
  · exact absurd hcomplete.size (by decide)

end Packer

end Csae295
