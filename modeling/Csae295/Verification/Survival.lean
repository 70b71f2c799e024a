import Csae295.Verification.Printing
import Csae295.Verification.UnpackSafety

/-! Which bytes a receive thread gets over.

`unpack` is told how many bytes have come, but it reads in the buffer of the thread, which is larger
than any frame: what a message announces and has not sent is taken from what earlier messages have
left there. What a thread does not get over are wheels, which the decoder has no elements for, and
messages that cannot be printed. -/

namespace Csae295

open Library

theorem Message.hasText_iff {msg : Message} :
    (∃ text, msg.HasText text) ↔ ∃ os, msg.print [] = .ok os := by
  constructor
  · rintro ⟨text, htext⟩
    exact ⟨_, htext []⟩
  · rintro ⟨os, hprint⟩
    obtain ⟨text, htext, -⟩ := hasText_of_print hprint
    exact ⟨text, htext⟩

/-! ## The decoders in a large buffer -/

section

variable {mem : List Byte} {size : ℕ} (hmem : mem.length = 4096) (hsize : size ≤ 4096)

include hmem hsize

theorem MessageHeader.ofBuffer_in_buffer (storage : MessageHeader) :
    ∃ m, ofBuffer storage (some mem) size true = .ok m := by
  unfold ofBuffer
  by_cases hshort : size < 16
  · exact ⟨_, by rw [fromBytes_of_lt _ true hshort]; rfl⟩
  · exact ⟨_, by rw [fromBytes_of_le _ true (Nat.le_of_not_lt hshort) (hmem ▸ hsize)]; rfl⟩

namespace Veh2CloudInh

omit hsize in
/-- Four strings of 255 characters at most. -/
theorem frameSpan_le : 16 + bodyFormat.span (mem.drop 16) ≤ mem.length := by
  have hchars : ∀ len : Byte, versionChars len ≤ 255 := by decide +kernel
  have huser : ∀ i, (byteAt (mem.drop 16) i).toNat ≤ 255 := fun i =>
    Nat.le_of_lt_succ (byteAt (mem.drop 16) i).isLt
  simp only [bodyFormat_span]
  have hsw := hchars (byteAt (mem.drop 16) 8)
  generalize versionChars (byteAt (mem.drop 16) 8) = sw at hsw ⊢
  have hhw := hchars (byteAt (mem.drop 16) (9 + sw))
  generalize versionChars (byteAt (mem.drop 16) (9 + sw)) = hw at hhw ⊢
  have had := hchars (byteAt (mem.drop 16) (10 + sw + hw))
  generalize versionChars (byteAt (mem.drop 16) (10 + sw + hw)) = ad at had ⊢
  have hdata := huser (15 + sw + hw + ad)
  omega

theorem ofBuffer_in_buffer (storage : Veh2CloudInh) :
    ∃ m, ofBuffer storage (some mem) size true = .ok m := by
  have hle : size ≤ mem.length := hmem ▸ hsize
  unfold ofBuffer
  by_cases hheader : size < 16
  · exact ⟨_, by rw [fromBytes_of_lt_header _ true hheader]; rfl⟩
  by_cases hguard : size < 32
  · exact ⟨_, by rw [fromBytes_of_lt _ true (Nat.le_of_not_lt hheader) hle
      (by rwa [fresh_length])]; rfl⟩
  · obtain ⟨b, -, hread, -⟩ := fromBytes_fresh_of_fits true hle (Nat.le_of_not_lt hguard)
      (frameSpan_le hmem)
    exact ⟨_, by rw [hread]; rfl⟩

theorem prints_in_buffer_iff :
    (∀ storage, ∃ m, ofBuffer storage (some mem) size true = .ok m ∧
      ∃ text, (Message.inh m).HasText text) ↔ 32 ≤ size ∧ LengthsPrintable mem := by
  have hle : size ≤ mem.length := hmem ▸ hsize
  by_cases hguard : size < 32
  · refine iff_of_false (fun hall => ?_) fun hand => absurd hand.1 (Nat.not_le_of_lt hguard)
    -- where the guard turns the buffer away, the heap decides what is printed
    obtain ⟨m, hm, hlen⟩ : ∃ m : Veh2CloudInh,
        ofBuffer { (default : Veh2CloudInh) with swVerLen := 200 } (some mem) size true = .ok m ∧
          m.swVerLen = 200 := by
      by_cases hheader : size < 16
      · exact ⟨_, by rw [ofBuffer, fromBytes_of_lt_header _ true hheader]; rfl, rfl⟩
      · exact ⟨_, by rw [ofBuffer, fromBytes_of_lt _ true (Nat.le_of_not_lt hheader) hle
          (by rwa [fresh_length])]; rfl, rfl⟩
    obtain ⟨m', hm', htext⟩ := hall { (default : Veh2CloudInh) with swVerLen := 200 }
    obtain rfl := Except.ok.inj (hm.symm.trans hm')
    refine not_ok_of_error (print_error [] (.inl fun h => ?_)) (Message.hasText_iff.mp htext)
    have hsw := h.1
    rw [hlen] at hsw
    exact absurd hsw (by decide)
  · have hlong := Nat.le_of_not_lt hguard
    have hfits := frameSpan_le hmem
    obtain ⟨b, hb, hread, hsplit⟩ := fromBytes_fresh_of_fits true hle hlong hfits
    have hbody := fun storage => body_assign storage (MessageHeader.decode true mem) hb
    have hvalid := fun storage => (hbody storage).symm ▸ hb
    have hprintable := fun storage =>
      lengthsPrintable_iff (hvalid storage) ((hbody storage).symm ▸ hsplit)
    simp only [ofBuffer, hread, ok_bind, pure_eq_ok, Except.ok.injEq, exists_eq_left', hlong,
      true_and, Message.hasText_iff]
    constructor
    · intro hall
      rw [hprintable default]
      by_contra h
      exact not_ok_of_error (print_error [] (.inl h)) (hall default)
    · intro h storage
      exact print_of_printable (stringsMatch_of_valid (hvalid storage))
        ((hprintable storage).mp h) []

end Veh2CloudInh

namespace Cloud2VehInhRes

theorem ofBuffer_in_buffer (storage : Cloud2VehInhRes) :
    ∃ m, ofBuffer storage (some mem) size true = .ok m := by
  have hload : ∀ (m : Cloud2VehInhRes) off, off ≤ 16 →
      ∃ r, m.loadFields.loadFrom (some mem) off = .ok r := by
    intro m off hoff
    obtain ⟨body, hload, -⟩ := loadFields_of_le (show off + 9 ≤ mem.length by omega)
    exact ⟨_, hload m⟩
  unfold ofBuffer
  by_cases hheader : size < 16
  · rw [fromBytes_of_lt_header _ true hheader]
    split
    · exact ⟨_, rfl⟩
    · obtain ⟨r, hr⟩ := hload (fresh storage) 0 (Nat.zero_le _)
      exact ⟨_, by rw [hr]; rfl⟩
  · rw [fromBytes_of_le _ true (Nat.le_of_not_lt hheader) (hmem ▸ hsize)]
    split
    · exact ⟨_, rfl⟩
    · obtain ⟨r, hr⟩ :=
        hload { fresh storage with toMessageHeader := MessageHeader.decode true mem } 16 le_rfl
      exact ⟨_, by rw [hr]; rfl⟩

end Cloud2VehInhRes

namespace Veh2CloudState

omit hsize in
theorem passPosEnd_le : passPosEnd mem ≤ mem.length := by
  have hcount := (byteAt mem 97).isLt
  unfold passPosEnd
  omega

/-- The object and the offset that the decoder leaves of a fresh one. -/
theorem fromBytes_in_buffer (storage : Veh2CloudState) :
    ∃ m, (fresh storage).fromBytes (some mem) size true =
      .ok (m, if size < 16 then 0 else if size < 98 then 16 else passPosEnd mem) ∧
      if size < 98 then m.passPosNum = storage.passPosNum ∧ m.passPos = []
      else m.passPosNum.toNat = m.passPos.length := by
  have hle : size ≤ mem.length := hmem ▸ hsize
  by_cases hheader : size < 16
  · refine ⟨_, by rw [fromBytes_of_lt_header _ true hheader, if_pos hheader], ?_⟩
    rw [if_pos (by omega)]
    exact ⟨rfl, rfl⟩
  · by_cases hguard : size < 98
    · refine ⟨_, by rw [fromBytes_of_lt _ true (Nat.le_of_not_lt hheader) hle
        (by rwa [fresh_length]), if_neg hheader, if_pos hguard], ?_⟩
      rw [if_pos hguard]
      exact ⟨rfl, rfl⟩
    · obtain ⟨b, hb, hread, -⟩ := fromBytes_fresh_of_fits true hle (Nat.le_of_not_lt hguard)
        (passPosEnd_le hmem)
      refine ⟨_, by rw [hread storage, if_neg hheader, if_neg hguard], ?_⟩
      rw [if_neg hguard]
      exact (body_assign storage _ true hb).1

theorem prints_in_buffer_iff :
    (∀ storage, ∃ m, ofBuffer storage (some mem) size true = .ok m ∧
      ∃ text, (Message.state m).HasText text) ↔ 98 ≤ size := by
  constructor
  · intro hall
    by_contra hguard
    have hlt := Nat.lt_of_not_ge hguard
    let storage : Veh2CloudState := { (default : Veh2CloudState) with passPosNum := 1 }
    obtain ⟨m, hread, hcounts⟩ := fromBytes_in_buffer hmem hsize storage
    obtain ⟨m', hm', htext⟩ := hall storage
    rw [ofBuffer, hread] at hm'
    cases hm'
    rw [if_pos hlt] at hcounts
    refine not_ok_of_error (print_error ?_ []) (Message.hasText_iff.mp htext)
    rw [hcounts.1, hcounts.2]
    decide
  · intro hlong storage
    obtain ⟨m, hread, hcounts⟩ := fromBytes_in_buffer hmem hsize storage
    rw [if_neg (Nat.not_lt_of_ge hlong)] at hcounts
    exact ⟨m, by rw [ofBuffer, hread]; rfl,
      Message.hasText_iff.mpr (print_of_covered hcounts.le [])⟩

end Veh2CloudState

namespace Veh2CloudState2

omit hsize hmem in
/-- A wheel on the wire is assigned to an element that an object without wheels does not have. -/
theorem loadFields_index (self : Veh2CloudState2) {off : ℕ} (hv : self.wheelVelocity = [])
    (hoff : off + 41 ≤ mem.length) (hw : byteAt mem (off + 38) ≠ 0) :
    (self.loadFields true).loadFrom (some mem) off = .error .index := by
  obtain ⟨head, hrun, -⟩ := loadFields_run_head self true (show off + 38 < mem.length by omega)
  obtain ⟨n, hn⟩ := Nat.exists_eq_succ_of_ne_zero (n := (byteAt mem (off + 38)).toNat) fun h =>
    hw (BitVec.eq_of_toNat_eq h)
  rw [Access.loadFrom, Option.getD_some, hrun, hn, hv, loadElements, bind_assoc,
    Access.run_bind_ok (MessageHeader.loadWord_run true (show off + 39 + 2 ≤ mem.length by omega))]
  rfl

/-- Where the first version's decoder leaves off, and the fields of the second version begin. -/
def restStart (mem : List Byte) (size : ℕ) : ℕ :=
  if size < 16 then 0 else if size < 98 then 16 else Veh2CloudState.passPosEnd mem

/-- Where the guard of the second version lets the buffer through, there are no wheels. It does so
where the fixed fields have come, and where the pass points end behind what has come. -/
def Digestible (mem : List Byte) (size : ℕ) : Prop :=
  restStart mem size + 44 ≤ size ∨ size < restStart mem size →
    byteAt mem (restStart mem size + 38) = 0

instance (mem : List Byte) (size : ℕ) : Decidable (Digestible mem size) :=
  inferInstanceAs (Decidable (_ → _))

theorem ofBuffer_in_buffer (storage : Veh2CloudState2) :
    (Digestible mem size → ∃ m, ofBuffer storage (some mem) size true = .ok m) ∧
      (¬ Digestible mem size → ofBuffer storage (some mem) size true = .error .index) := by
  obtain ⟨base, hread, -⟩ :=
    Veh2CloudState.fromBytes_in_buffer hmem hsize storage.toVeh2CloudState
  rw [← restStart] at hread
  have hend : restStart mem size ≤ 2138 := by
    have hcount := (byteAt mem 97).isLt
    unfold restStart Veh2CloudState.passPosEnd
    split
    · omega
    · split <;> omega
  have hguard : 44 ≤ remaining size (restStart mem size) ↔
      restStart mem size + 44 ≤ size ∨ size < restStart mem size :=
    le_remaining_iff (by decide) (by omega)
  rw [ofBuffer, fromBytes_of_base_guard (fresh storage) hread, fresh_restLength, Digestible,
    ← hguard]
  by_cases hless : remaining size (restStart mem size) < 44
  · rw [if_pos hless]
    exact ⟨fun _ => ⟨_, rfl⟩, fun hnot => absurd (fun h => absurd h (Nat.not_le_of_lt hless)) hnot⟩
  rw [if_neg hless]
  by_cases hwheels : byteAt mem (restStart mem size + 38) = 0
  · have hfits : Fits mem (restStart mem size) := by
      have huser := (byteAt mem (restStart mem size + 43)).isLt
      exact ⟨hwheels, by omega⟩
    obtain ⟨body, -, hload, -⟩ := loadFields_of_fits true hfits
    rw [hload _ rfl rfl]
    exact ⟨fun _ => ⟨_, rfl⟩, fun hnot => absurd (fun _ => hwheels) hnot⟩
  · rw [loadFields_index _ rfl (by omega) hwheels]
    exact ⟨fun h => absurd (h (Nat.le_of_not_lt hless)) hwheels, fun _ => rfl⟩

end Veh2CloudState2

end

/-! ## One round of the loop -/

namespace Packer

/-- The loop gets over the bytes that have come: `unpack` returns, and the message it calls the
handler with can be printed if it is printed at all. -/
def GetsOver (heap : Storage) (mem : List Byte) (size : ℕ) : Prop :=
  ∃ unpacked, unpack heap (some mem) size true = .ok unpacked ∧
    ∀ msg ∈ unpacked.calls, (∀ m, msg ≠ .state2 m) → ∃ text, msg.HasText text

theorem getsOver_of_reject {heap : Storage} {mem : List Byte} {size : ℕ}
    (h : unpack heap (some mem) size true = .ok reject) : GetsOver heap mem size :=
  ⟨_, h, fun _ hmsg => absurd hmsg List.not_mem_nil⟩

theorem getsOver_iff {heap : Storage} {mem : List Byte} {size : ℕ} {α : Type} {x : Except Fault α}
    {wrap : α → Message} (h : unpack heap (some mem) size true = (do
      let msg ← x
      .ok (deliver true (wrap msg)))) :
    GetsOver heap mem size ↔
      ∃ m, x = .ok m ∧ ((∀ m', wrap m ≠ .state2 m') → ∃ text, (wrap m).HasText text) := by
  unfold GetsOver
  rw [h]
  cases x with
  | error e => simp
  | ok m => simp [deliver]

/-- What the bytes in the buffer have to be so that the thread gets over the first `size` of them,
whatever the heap holds. -/
structure Harmless (mem : List Byte) (size : ℕ) : Prop where
  inh : byteAt mem 5 = veh2cloudInh → 32 ≤ size ∧ Veh2CloudInh.LengthsPrintable mem
  state : byteAt mem 5 = veh2cloudState → byteAt mem 6 = 0x01 → 98 ≤ size
  state2 : byteAt mem 5 = veh2cloudState → byteAt mem 6 = 0x02 → Veh2CloudState2.Digestible mem size

instance (mem : List Byte) (size : ℕ) : Decidable (Harmless mem size) :=
  decidable_of_iff ((byteAt mem 5 = veh2cloudInh → 32 ≤ size ∧ Veh2CloudInh.LengthsPrintable mem) ∧
    (byteAt mem 5 = veh2cloudState → byteAt mem 6 = 0x01 → 98 ≤ size) ∧
    (byteAt mem 5 = veh2cloudState → byteAt mem 6 = 0x02 → Veh2CloudState2.Digestible mem size))
    ⟨fun ⟨hinh, hstate, hstate2⟩ => ⟨hinh, hstate, hstate2⟩,
      fun ⟨hinh, hstate, hstate2⟩ => ⟨hinh, hstate, hstate2⟩⟩

theorem harmless_of_other {mem : List Byte} {size : ℕ} (hinh : byteAt mem 5 ≠ veh2cloudInh)
    (hstate : byteAt mem 5 = veh2cloudState → byteAt mem 6 ≠ 0x01 ∧ byteAt mem 6 ≠ 0x02) :
    Harmless mem size :=
  ⟨fun h => absurd h hinh, fun h hone => absurd hone (hstate h).1,
    fun h htwo => absurd htwo (hstate h).2⟩

theorem harmless_inh_iff {mem : List Byte} {size : ℕ} (htype : byteAt mem 5 = veh2cloudInh) :
    Harmless mem size ↔ 32 ≤ size ∧ Veh2CloudInh.LengthsPrintable mem := by
  refine ⟨fun hframe => hframe.inh htype, fun hand => ⟨fun _ => hand, ?_, ?_⟩⟩
  all_goals
    rw [htype]
    exact fun hother => absurd hother (by decide)

theorem harmless_state_iff {mem : List Byte} {size : ℕ} (htype : byteAt mem 5 = veh2cloudState)
    (hversion : byteAt mem 6 = 0x01) : Harmless mem size ↔ 98 ≤ size := by
  refine ⟨fun hframe => hframe.state htype hversion, fun hle => ⟨?_, fun _ _ => hle, ?_⟩⟩
  · rw [htype]
    exact fun hother => absurd hother (by decide)
  · rw [hversion]
    exact fun _ hother => absurd hother (by decide)

theorem harmless_state2_iff {mem : List Byte} {size : ℕ} (htype : byteAt mem 5 = veh2cloudState)
    (hversion : byteAt mem 6 = 0x02) :
    Harmless mem size ↔ Veh2CloudState2.Digestible mem size := by
  refine ⟨fun hframe => hframe.state2 htype hversion,
    fun hdigestible => ⟨?_, ?_, fun _ _ => hdigestible⟩⟩
  · rw [htype]
    exact fun hother => absurd hother (by decide)
  · rw [hversion]
    exact fun _ hother => absurd hother (by decide)

/-- A message of a class is got over in every heap exactly if it is decoded and printed from every
storage of that class. -/
theorem forall_getsOver_iff {mem : List Byte} {size : ℕ} {σ α : Type} (wrap : α → Message)
    (decode : σ → Except Fault α) (proj : Storage → σ) (inj : σ → Storage)
    (hproj : ∀ s, proj (inj s) = s) (hunpack : ∀ heap, unpack heap (some mem) size true = (do
      let msg ← decode (proj heap)
      .ok (deliver true (wrap msg)))) :
    (∀ heap, GetsOver heap mem size) ↔ ∀ s, ∃ m, decode s = .ok m ∧
      ((∀ m', wrap m ≠ .state2 m') → ∃ text, (wrap m).HasText text) := by
  constructor
  · intro hall s
    have hover := (getsOver_iff (hunpack (inj s))).mp (hall (inj s))
    rwa [hproj] at hover
  · intro hall heap
    exact (getsOver_iff (hunpack heap)).mpr (hall (proj heap))

theorem getsOver_iff_harmless {mem : List Byte} {size : ℕ} (hmem : mem.length = 4096)
    (h : size ≠ 0) (hsize : size ≤ 4096) :
    (∀ heap, GetsOver heap mem size) ↔ (byteAt mem 0 = 0xF2 → Harmless mem size) := by
  cases route mem with
  | noMarker hid =>
      simp only [hid, false_implies, iff_true]
      exact fun heap => getsOver_of_reject (unpack_of_no_marker heap true (by omega) hid)
  | cut _ hcut => omega
  | header hid h6 htype =>
      have hframe : Harmless mem size := harmless_of_other
        (by rcases htype with htype | htype <;> rw [htype] <;> decide)
        (by rcases htype with htype | htype <;> rw [htype] <;> exact fun h => absurd h (by decide))
      simp only [hframe, implies_true, iff_true]
      intro heap
      refine (getsOver_iff (unpack_header heap true h hid h6 htype)).mpr ?_
      obtain ⟨r, hr⟩ := MessageHeader.ofBuffer_in_buffer hmem hsize heap.header
      exact ⟨r, hr, fun _ => Message.hasText_iff.mpr (r.print_ok [])⟩
  | inh hid h6 htype =>
      rw [forall_getsOver_iff Message.inh (fun s => Veh2CloudInh.ofBuffer s (some mem) size true)
        Storage.inh (fun s => { (default : Storage) with inh := s }) (fun _ => rfl)
        fun heap => unpack_inh heap true h hid h6 htype]
      simp only [hid, true_implies, harmless_inh_iff htype, reduceCtorEq, ne_eq,
        not_false_eq_true, implies_true]
      exact Veh2CloudInh.prints_in_buffer_iff hmem hsize
  | inhRes hid h6 htype =>
      have hframe : Harmless mem size := harmless_of_other
        (by rw [htype]; decide) (by rw [htype]; exact fun h => absurd h (by decide))
      simp only [hframe, implies_true, iff_true]
      intro heap
      refine (getsOver_iff (unpack_inhRes heap true h hid h6 htype)).mpr ?_
      obtain ⟨m, hm⟩ := Cloud2VehInhRes.ofBuffer_in_buffer hmem hsize heap.inhRes
      exact ⟨m, hm, fun _ => Message.hasText_iff.mpr (m.print_ok [])⟩
  | stateCut _ hcut => omega
  | state hid h7 htype hversion =>
      rw [forall_getsOver_iff Message.state
        (fun s => Veh2CloudState.ofBuffer s (some mem) size true) Storage.state
        (fun s => { (default : Storage) with state := s }) (fun _ => rfl)
        fun heap => unpack_state heap true h hid h7 htype hversion]
      simp only [hid, true_implies, harmless_state_iff htype hversion, reduceCtorEq, ne_eq,
        not_false_eq_true, implies_true]
      exact Veh2CloudState.prints_in_buffer_iff hmem hsize
  | state2 hid h7 htype hversion =>
      rw [forall_getsOver_iff Message.state2
        (fun s => Veh2CloudState2.ofBuffer s (some mem) size true) Storage.state2
        (fun s => { (default : Storage) with state2 := s }) (fun _ => rfl)
        fun heap => unpack_state2 heap true h hid h7 htype hversion]
      simp only [hid, true_implies, harmless_state2_iff htype hversion]
      constructor
      · intro hall
        by_contra hnot
        obtain ⟨m, hm, -⟩ := hall (default : Storage).state2
        rw [(Veh2CloudState2.ofBuffer_in_buffer hmem hsize _).2 hnot] at hm
        cases hm
      · intro hdigestible s
        obtain ⟨m, hm⟩ := (Veh2CloudState2.ofBuffer_in_buffer hmem hsize s).1 hdigestible
        exact ⟨m, hm, fun hversion => absurd rfl (hversion m)⟩
  | stateOther hid h7 htype hone htwo =>
      have hframe : Harmless mem size := harmless_of_other
        (by rw [htype]; decide) fun _ => ⟨hone, htwo⟩
      simp only [hframe, implies_true, iff_true]
      exact fun heap => getsOver_of_reject (unpack_state_other heap true h hid h7 htype hone htwo)
  | other hid h6 hbeat hbeatRes hinh hinhRes hstate =>
      have hframe : Harmless mem size := harmless_of_other hinh fun h => absurd h hstate
      simp only [hframe, implies_true, iff_true]
      exact fun heap => getsOver_of_reject
        (unpack_other heap true h hid h6 hbeat hbeatRes hinh hinhRes hstate)

theorem fails_at_index_of_ok {α : Type} {x : Except Fault α} {r : α} {P : Prop} (hx : x = .ok r)
    (hP : P) : (∀ e, x = .error e → e = .index) ∧ ((∃ r, x = .ok r) ↔ P) := by
  subst hx
  refine ⟨fun e h => ?_, iff_of_true ⟨r, rfl⟩ hP⟩
  cases h

theorem fails_at_index_of_error {α : Type} {x : Except Fault α} {P : Prop}
    (hx : x = .error .index) (hP : ¬ P) :
    (∀ e, x = .error e → e = .index) ∧ ((∃ r, x = .ok r) ↔ P) := by
  subst hx
  refine ⟨fun e h => ?_, fun h => ?_, fun h => absurd h hP⟩
  · cases h
    rfl
  · obtain ⟨r, h⟩ := h
    cases h

theorem unpack_in_buffer {mem : List Byte} {size : ℕ} (hmem : mem.length = 4096) (h : size ≠ 0)
    (hsize : size ≤ 4096) (heap : Storage) (handler : Bool) :
    (∀ e, unpack heap (some mem) size handler = .error e → e = .index) ∧
      ((∃ r, unpack heap (some mem) size handler = .ok r) ↔
        (byteAt mem 0 = 0xF2 → byteAt mem 5 = veh2cloudState → byteAt mem 6 = 0x02 →
          Veh2CloudState2.Digestible mem size)) := by
  cases route mem with
  | noMarker hid =>
      exact fails_at_index_of_ok (unpack_of_no_marker heap handler (by omega) hid)
        fun hmarker => absurd hmarker hid
  | cut _ hcut => omega
  | header hid h6 htype =>
      obtain ⟨m, hm⟩ := MessageHeader.ofBuffer_in_buffer hmem hsize heap.header
      rw [unpack_header heap handler h hid h6 htype, hm]
      refine fails_at_index_of_ok rfl fun _ hstate => ?_
      rcases htype with htype | htype <;> exact absurd (htype.symm.trans hstate) (by decide)
  | inh hid h6 htype =>
      obtain ⟨m, hm⟩ := Veh2CloudInh.ofBuffer_in_buffer hmem hsize heap.inh
      rw [unpack_inh heap handler h hid h6 htype, hm]
      exact fails_at_index_of_ok rfl
        fun _ hstate => absurd (htype.symm.trans hstate) (by decide)
  | inhRes hid h6 htype =>
      obtain ⟨m, hm⟩ := Cloud2VehInhRes.ofBuffer_in_buffer hmem hsize heap.inhRes
      rw [unpack_inhRes heap handler h hid h6 htype, hm]
      exact fails_at_index_of_ok rfl
        fun _ hstate => absurd (htype.symm.trans hstate) (by decide)
  | stateCut _ hcut => omega
  | state hid h7 htype hversion =>
      obtain ⟨m, hm, -⟩ := Veh2CloudState.fromBytes_in_buffer hmem hsize heap.state
      rw [unpack_state heap handler h hid h7 htype hversion, Veh2CloudState.ofBuffer, hm]
      exact fails_at_index_of_ok rfl
        fun _ _ htwo => absurd (hversion.symm.trans htwo) (by decide)
  | state2 hid h7 htype hversion =>
      obtain ⟨hread, hfails⟩ := Veh2CloudState2.ofBuffer_in_buffer hmem hsize heap.state2
      rw [unpack_state2 heap handler h hid h7 htype hversion]
      simp only [hid, htype, hversion, true_implies]
      by_cases hdigestible : Veh2CloudState2.Digestible mem size
      · obtain ⟨m, hm⟩ := hread hdigestible
        rw [hm]
        exact fails_at_index_of_ok rfl hdigestible
      · rw [hfails hdigestible]
        exact fails_at_index_of_error rfl hdigestible
  | stateOther hid h7 htype hone htwo =>
      exact fails_at_index_of_ok (unpack_state_other heap handler h hid h7 htype hone htwo)
        fun _ _ hversion => absurd hversion htwo
  | other hid h6 hbeat hbeatRes hinh hinhRes hstate =>
      exact fails_at_index_of_ok
        (unpack_other heap handler h hid h6 hbeat hbeatRes hinh hinhRes hstate)
        fun _ hother => absurd hother hstate

end Packer

/-! ## The loop -/

namespace Handler

theorem onMessage_ok_iff (self : Handler) {msg : Message} :
    (∃ self', onMessage msg self = .ok self') ↔
      ((∀ m, msg ≠ .state2 m) → ∃ text, msg.HasText text) := by
  by_cases hversion : ∀ m, msg ≠ .state2 m
  · rw [onMessage_of_version hversion]
    constructor
    · rintro ⟨self', h⟩ _
      cases hprint : msg.print (self.os ++ utf8 "\n") with
      | error e =>
          rw [handle, hprint] at h
          cases h
      | ok os =>
          obtain ⟨text, htext, -⟩ := Message.hasText_of_print hprint
          exact ⟨text, htext⟩
    · intro h
      obtain ⟨text, htext⟩ := h hversion
      exact ⟨_, handle_of_print (htext _) msg⟩
  · obtain ⟨m, hm⟩ := not_forall_not.mp hversion
    rw [hm]
    exact iff_of_true ⟨self, rfl⟩ fun h => absurd rfl (h m)

theorem onMessages_ok_iff (self : Handler) {msgs : List Message} :
    (∃ self', onMessages msgs self = .ok self') ↔
      ∀ msg ∈ msgs, (∀ m, msg ≠ .state2 m) → ∃ text, msg.HasText text := by
  induction msgs generalizing self with
  | nil => exact iff_of_true ⟨self, rfl⟩ fun _ hmsg => absurd hmsg List.not_mem_nil
  | cons msg msgs ih =>
      rw [List.forall_mem_cons, ← onMessage_ok_iff self]
      cases hmsg : onMessage msg self with
      | error e => simp [onMessages, hmsg]
      | ok next =>
          simp only [onMessages, hmsg, ok_bind, ih next, Except.ok.injEq, exists_eq', true_and]

end Handler

/-- The loop gets over everything that it receives. -/
def GetsOverAll : Vector Byte 4096 → List RecvResult → Prop
  | _, [] => True
  | _, .shutdown :: _ => True
  | buf, .error errno :: results => errno.retry → GetsOverAll buf results
  | buf, .data heap chunk :: results =>
    Packer.GetsOver heap (chunk.into buf).toList chunk.bytes.length ∧
    GetsOverAll (chunk.into buf) results

/-- What the loop gets over depends neither on the callback nor on the output. -/
theorem recvLoop_ok_iff {results : List RecvResult} {buf : Vector Byte 4096} {self : Handler} :
    (∃ self', recvLoop self buf results = .ok self') ↔ GetsOverAll buf results := by
  induction results generalizing self buf with
  | nil => exact iff_of_true ⟨self, rfl⟩ trivial
  | cons result results ih =>
      cases result with
      | shutdown => exact iff_of_true ⟨self, rfl⟩ trivial
      | error errno =>
          rw [recvLoop, GetsOverAll]
          by_cases hretry : errno.retry
          · rw [if_pos hretry]
            exact ih.trans ⟨fun h _ => h, fun h => h hretry⟩
          · rw [if_neg hretry]
            exact iff_of_true ⟨self, rfl⟩ fun h => absurd h hretry
      | data heap chunk =>
          rw [recvLoop, GetsOverAll, Packer.GetsOver]
          cases hunpack :
            Packer.unpack heap (some (chunk.into buf).toList) chunk.bytes.length true with
          | error e => simp
          | ok unpacked =>
              simp only [ok_bind, Except.ok.injEq, exists_eq_left',
                ← Handler.onMessages_ok_iff self]
              cases hmsgs : Handler.onMessages unpacked.calls self with
              | error e => simp
              | ok next => simp only [ok_bind, ih, Except.ok.injEq, exists_eq', true_and]

/-- What has come with a result. -/
def RecvResult.chunk : RecvResult → Option Chunk
  | .data _ chunk => some chunk
  | _ => none

/-- Every chunk is harmless in the buffer that the chunks before it leave. -/
def AllHarmless : Vector Byte 4096 → List Chunk → Prop
  | _, [] => True
  | buf, chunk :: chunks =>
    (byteAt (chunk.into buf).toList 0 = 0xF2 →
      Packer.Harmless (chunk.into buf).toList chunk.bytes.length) ∧
    AllHarmless (chunk.into buf) chunks

/-- The chunk is harmless exactly if the loop gets over it in every heap. -/
theorem Chunk.harmless_iff (chunk : Chunk) (buf : Vector Byte 4096) :
    (∀ heap, Packer.GetsOver heap (chunk.into buf).toList chunk.bytes.length) ↔
      (byteAt (chunk.into buf).toList 0 = 0xF2 →
        Packer.Harmless (chunk.into buf).toList chunk.bytes.length) :=
  Packer.getsOver_iff_harmless Vector.length_toList chunk.pos.ne' chunk.le

theorem allHarmless_of_getsOverAll {buf : Vector Byte 4096} {chunks : List Chunk}
    (h : ∀ results : List RecvResult, (∀ result ∈ results, result.Continues) →
      results.filterMap RecvResult.chunk = chunks → GetsOverAll buf results) :
    AllHarmless buf chunks := by
  induction chunks generalizing buf with
  | nil => trivial
  | cons chunk chunks ih =>
      have hdata : ∀ heap (results : List RecvResult), (∀ result ∈ results, result.Continues) →
          results.filterMap RecvResult.chunk = chunks →
            GetsOverAll buf (.data heap chunk :: results) := by
        intro heap results hcontinues hchunks
        apply h
        · exact List.forall_mem_cons.mpr ⟨trivial, hcontinues⟩
        · exact congrArg (chunk :: ·) hchunks
      have hrest : (chunks.map (RecvResult.data default)).filterMap RecvResult.chunk = chunks := by
        rw [List.filterMap_map]
        exact List.filterMap_some
      constructor
      · rw [← chunk.harmless_iff]
        intro heap
        refine (hdata heap (chunks.map (.data default)) ?_ hrest).1
        intro result hresult
        obtain ⟨c, -, rfl⟩ := List.mem_map.mp hresult
        trivial
      · apply ih
        intro results hcontinues hchunks
        exact (hdata default results hcontinues hchunks).2

theorem getsOverAll_of_allHarmless {buf : Vector Byte 4096} {results : List RecvResult}
    (h : AllHarmless buf (results.filterMap RecvResult.chunk)) : GetsOverAll buf results := by
  induction results generalizing buf with
  | nil => trivial
  | cons result results ih =>
      cases result with
      | shutdown => trivial
      | error errno => exact fun _ => ih h
      | data heap chunk =>
          obtain ⟨hchunk, hchunks⟩ :
            AllHarmless buf (chunk :: results.filterMap RecvResult.chunk) := h
          exact ⟨(chunk.harmless_iff buf).mpr hchunk heap, ih hchunks⟩

namespace Controller

/-- A receive thread gets over whatever comes, whatever the heap holds, exactly if each chunk that
begins with the marker is harmless: information with all its fields and no string too long to
print, states of version 1 that are not cut off in front of their number of pass points, and states
of version 2 without wheels wherever their guard lets them through. What is missing of a message is
read from the chunks before. -/
theorem recv_survives_iff (chunks : List Chunk) :
    ∀ thread ∈ [upSocketRecvThread, downSocketRecvThread],
      (∀ results : List RecvResult, (∀ result ∈ results, result.Continues) →
        results.filterMap RecvResult.chunk = chunks →
        ∀ self, ∃ self', thread self results = .ok self') ↔
      AllHarmless (Vector.replicate 4096 0) chunks := by
  intro thread hthread
  rw [recvThread_eq hthread]
  constructor
  · intro h
    apply allHarmless_of_getsOverAll
    intro results hcontinues hchunks
    exact recvLoop_ok_iff.mp (h results hcontinues hchunks
      { callback := false, os := [], calls := [] })
  · intro h results _ hchunks self
    apply recvLoop_ok_iff.mpr
    apply getsOverAll_of_allHarmless
    rwa [hchunks]

/-- Whatever has come before: `unpack` never reads outside the buffer of a receive thread, although
it reads behind what has come. It fails exactly for a version 2 that its guard lets through and that
has wheels, at an element that the vectors do not have. -/
theorem recv_reads_inside (buf : Vector Byte 4096) (chunk : Chunk) (heap : Storage)
    (handler : Bool) :
    let mem := (chunk.into buf).toList
    let unpacked := Packer.unpack heap (some mem) chunk.bytes.length handler
    (∀ e, unpacked = .error e → e = .index) ∧
      ((∃ r, unpacked = .ok r) ↔
        (byteAt mem 0 = 0xF2 → byteAt mem 5 = veh2cloudState → byteAt mem 6 = 0x02 →
          Veh2CloudState2.Digestible mem chunk.bytes.length)) :=
  Packer.unpack_in_buffer Vector.length_toList chunk.pos.ne' chunk.le heap handler

/-- The first six bytes of a vehicle information. -/
def cutInformation : Chunk :=
  { bytes := [0xF2, 0, 0, 0, 0, veh2cloudInh], pos := by decide, le := by decide }

/-- The frame of an INH. -/
def wholeInformation : Chunk :=
  { bytes := inhFrame.bytes, pos := by decide +kernel, le := by decide +kernel }

/-- The first 98 bytes of a version 2 state with a pass point, which ends behind them. -/
def cutState : Chunk :=
  { bytes := ((Veh2CloudState.new 2 5 6 [0x56] [1, 2, 3] 4 500 ⟨116, 40, 50⟩ 90 3 1 600 7 8 9 10 11
      1200 13 1 14 15 16 2 ⟨117, 41⟩ [⟨118, 42⟩]).wireBytes true).take 98
    pos := by decide +kernel, le := by decide +kernel }

/-- A thread gets over an INH and over a version 2 state that is cut off in its pass point, behind
which the buffer holds zeros, but not over six bytes of an INH. -/
theorem recv_survives_iff_cut :
    (∃ results, received results = [inhFrame.bytes, cutState.bytes] ∧
      ∀ self, ∃ self', upSocketRecvThread self results = .ok self') ∧
    ∃ results self, results.filterMap RecvResult.chunk = [cutInformation] ∧
      ∀ self', downSocketRecvThread self results ≠ .ok self' := by
  constructor
  · have hharmless : AllHarmless (Vector.replicate 4096 0) [wholeInformation, cutState] := by
      simp only [AllHarmless, Chunk.into_toList, Vector.toList_replicate]
      exact ⟨by decide +kernel, by decide +kernel, trivial⟩
    refine ⟨[.data default wholeInformation, .data default cutState], rfl, ?_⟩
    exact (recv_survives_iff [wholeInformation, cutState] _ List.mem_cons_self).mpr hharmless _
      (by simp [RecvResult.Continues]) rfl
  · have hnot : ¬ AllHarmless (Vector.replicate 4096 0) [cutInformation] := by
      simp only [AllHarmless, Chunk.into_toList, Vector.toList_replicate]
      decide +kernel
    by_contra hall
    apply hnot
    refine (recv_survives_iff [cutInformation] downSocketRecvThread (by simp)).mp ?_
    intro results _ hchunks self
    by_contra hfails
    exact hall ⟨results, self, hchunks, fun self' hself => hfails ⟨self', hself⟩⟩

end Controller

end Csae295
