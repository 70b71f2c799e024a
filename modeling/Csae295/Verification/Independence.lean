import Csae295.Verification.InhCodec
import Csae295.Verification.Layers
import Csae295.Verification.StateCodec

/-! What decoding a complete frame keeps of an object's earlier contents.

The guards ask for the length of what the object held, lists are appended to or assigned
element by element, and a string is assigned only when its length byte announces one. Two
objects decode a frame alike exactly when they agree on what each of these leaves. -/

namespace Csae295

open Library

/-- Both decoders return, with the same object and the same offset. -/
def SameDecoding {α : Type} (fromBytes fromBytes' : Decoder α) (be : Bool) (mem : List Byte) :
    Prop :=
  ∃ r, fromBytes (some mem) mem.length be = .ok r ∧ fromBytes' (some mem) mem.length be = .ok r

section

variable {α : Type} {fromBytes fromBytes' : Decoder α} {be : Bool} {mem : List Byte}

theorem sameDecoding_iff {r r' : α × ℕ} (h : fromBytes (some mem) mem.length be = .ok r)
    (h' : fromBytes' (some mem) mem.length be = .ok r') :
    SameDecoding fromBytes fromBytes' be mem ↔ r = r' := by
  constructor
  · rintro ⟨s, hs, hs'⟩
    rw [h] at hs
    rw [h'] at hs'
    cases hs
    cases hs'
    rfl
  · rintro rfl
    exact ⟨r, h, h'⟩

/-- A guard that lets a frame through to one object only tells by the offset. -/
theorem sameDecoding_guard_iff {p p' : Prop} [Decidable p] [Decidable p'] {x x' y y' : α}
    {n m : ℕ} (hne : n ≠ m)
    (h : fromBytes (some mem) mem.length be = if p then .ok (x, n) else .ok (y, m))
    (h' : fromBytes' (some mem) mem.length be = if p' then .ok (x', n) else .ok (y', m)) :
    SameDecoding fromBytes fromBytes' be mem ↔ p ∧ p' ∧ x = x' ∨ ¬ p ∧ ¬ p' ∧ y = y' := by
  by_cases hp : p <;> by_cases hp' : p' <;> simp only [hp, hp', if_true, if_false] at h h'
  · simp [sameDecoding_iff h h', hp, hp']
  · simp [sameDecoding_iff h h', hp, hp', hne]
  · simp [sameDecoding_iff h h', hp, hp', hne.symm]
  · simp [sameDecoding_iff h h', hp, hp']

end

/-- A string that is assigned only under a condition. -/
theorem ite_eq_ite_iff (p : Prop) [Decidable p] (s old old' : List Byte) :
    ((if p then s else old) = if p then s else old') ↔ (¬ p → old = old') := by
  by_cases h : p <;> simp [h]

/-! ## Vehicle information -/

namespace Veh2CloudInh

/-- The objects hold the same in every string that the fields on the wire do not announce. -/
def SameUnannounced (a b : Veh2CloudInh) : Body → Prop
  | (_, (swVerLen, _), (hwVerLen, _), (adVerLen, _), _, _, _, _, userDataLen, _) =>
    (announced swVerLen = false → a.swVer = b.swVer) ∧
      (announced hwVerLen = false → a.hwVer = b.hwVer) ∧
      (announced adVerLen = false → a.adVer = b.adVer) ∧
      (userDataLen = 0 → a.userData = b.userData)

instance (a b : Veh2CloudInh) (body : Body) : Decidable (SameUnannounced a b body) :=
  match body with
  | (_, (_, _), (_, _), (_, _), _, _, _, _, _, _) => inferInstanceAs (Decidable (_ ∧ _ ∧ _ ∧ _))

/-- The guard turns the frame away from both objects and they differ in the header only, or
it lets the frame through to both and they hold the same in what the frame leaves. -/
def Interchangeable (a b : Veh2CloudInh) (mem : List Byte) : Prop :=
  mem.length < a.length ∧ mem.length < b.length ∧
      { a with toMessageHeader := b.toMessageHeader } = b ∨
    a.length ≤ mem.length ∧ b.length ≤ mem.length ∧
      SameUnannounced a b (bodyFormat.valueAt mem 16)

theorem header_eq_iff (a b : Veh2CloudInh) (header : MessageHeader) :
    { a with toMessageHeader := header } = { b with toMessageHeader := header } ↔
      { a with toMessageHeader := b.toMessageHeader } = b := by
  cases a
  cases b
  simp

theorem assign_eq_iff (a b : Veh2CloudInh) (header : MessageHeader) (body : Body) :
    { a with toMessageHeader := header }.assign body =
        { b with toMessageHeader := header }.assign body ↔ SameUnannounced a b body := by
  obtain ⟨vehicleId, ⟨swVerLen, swVer⟩, ⟨hwVerLen, hwVer⟩, ⟨adVerLen, adVer⟩, comType,
    posConfidence, timeSync, gnssType, userDataLen, userData⟩ := body
  simp only [assign, SameUnannounced, Veh2CloudInh.mk.injEq, true_and, ite_eq_ite_iff,
    Bool.not_eq_true, ne_eq, not_not, eq_comm (a := (0 : Byte))]

section

variable (be : Bool) {mem : List Byte} (hframe : frameSpan mem ≤ mem.length)

include hframe

/-- What any object makes of a complete frame. -/
theorem fromBytes_frame (self : Veh2CloudInh) :
    self.fromBytes (some mem) mem.length be =
      let header := MessageHeader.decode be mem
      if mem.length < self.length then .ok ({ self with toMessageHeader := header }, 16)
      else .ok ({ self with toMessageHeader := header }.assign (bodyFormat.valueAt mem 16),
        frameSpan mem) := by
  have hspan := le_frameSpan mem
  by_cases hguard : mem.length < self.length
  · rw [fromBytes_of_lt self be (by omega) le_rfl hguard, if_pos hguard]
  · rw [fromBytes_of_le self be le_rfl (Nat.le_of_not_lt hguard), if_neg hguard]
    exact bodyFormat.loadFrom_valueAt (loadFields_eq _) hframe

theorem sameDecoding_iff (a b : Veh2CloudInh) :
    SameDecoding a.fromBytes b.fromBytes be mem ↔ Interchangeable a b mem := by
  have hspan := le_frameSpan mem
  rw [sameDecoding_guard_iff (by omega) (fromBytes_frame be hframe a)
    (fromBytes_frame be hframe b), header_eq_iff, assign_eq_iff, Nat.not_lt, Nat.not_lt]
  rfl

end

end Veh2CloudInh

/-! ## Vehicle state -/

namespace Veh2CloudState

/-- As for the vehicle information, where the frame leaves the pass points. -/
def Interchangeable (a b : Veh2CloudState) (mem : List Byte) : Prop :=
  mem.length < a.length ∧ mem.length < b.length ∧
      { a with toMessageHeader := b.toMessageHeader } = b ∨
    a.length ≤ mem.length ∧ b.length ≤ mem.length ∧ a.passPos = b.passPos

theorem header_eq_iff (a b : Veh2CloudState) (header : MessageHeader) :
    { a with toMessageHeader := header } = { b with toMessageHeader := header } ↔
      { a with toMessageHeader := b.toMessageHeader } = b := by
  cases a
  cases b
  simp

theorem assign_eq_iff (a b : Veh2CloudState) (header : MessageHeader) (be : Bool) (body : Body) :
    { a with toMessageHeader := header }.assign be body =
        { b with toMessageHeader := header }.assign be body ↔ a.passPos = b.passPos := by
  simp only [assign, Veh2CloudState.mk.injEq, true_and, List.append_left_inj]

def withHeader (self : Veh2CloudState) (be : Bool) (mem : List Byte) : Veh2CloudState :=
  { self with toMessageHeader := MessageHeader.decode be mem }

/-- The object behind its guard, once a complete frame has been read over it. -/
def decoded (self : Veh2CloudState) (be : Bool) (mem : List Byte) : Veh2CloudState :=
  (self.withHeader be mem).assign be ((bodyFormat be).valueAt mem 16)

theorem withHeader_eq_iff (a b : Veh2CloudState) (be : Bool) (mem : List Byte) :
    a.withHeader be mem = b.withHeader be mem ↔
      { a with toMessageHeader := b.toMessageHeader } = b := header_eq_iff a b _

theorem decoded_eq_iff (a b : Veh2CloudState) (be : Bool) (mem : List Byte) :
    a.decoded be mem = b.decoded be mem ↔ a.passPos = b.passPos := assign_eq_iff a b _ be _

section

variable (be : Bool) {mem : List Byte} (hframe : passPosEnd mem ≤ mem.length)

include hframe

theorem fromBytes_frame (self : Veh2CloudState) :
    self.fromBytes (some mem) mem.length be =
      if mem.length < self.length then
        .ok (self.withHeader be mem, 16)
      else .ok (self.decoded be mem, passPosEnd mem) := by
  have hend : 98 ≤ passPosEnd mem := Nat.le_add_right _ _
  by_cases hguard : mem.length < self.length
  · rw [fromBytes_of_lt self be (by omega) le_rfl hguard, if_pos hguard]
    rfl
  · rw [fromBytes_of_le self be le_rfl (Nat.le_of_not_lt hguard), if_neg hguard]
    rw [← span_eq_passPosEnd be] at hframe ⊢
    exact (bodyFormat be).loadFrom_valueAt (loadFields_eq _ be) hframe

theorem sameDecoding_iff (a b : Veh2CloudState) :
    SameDecoding a.fromBytes b.fromBytes be mem ↔ Interchangeable a b mem := by
  have hend : 98 ≤ passPosEnd mem := Nat.le_add_right _ _
  rw [sameDecoding_guard_iff (by omega) (fromBytes_frame be hframe a)
    (fromBytes_frame be hframe b), withHeader_eq_iff, decoded_eq_iff, Nat.not_lt, Nat.not_lt]
  rfl

end

end Veh2CloudState

/-! ## Vehicle state, version 2 -/

namespace Veh2CloudState2

def withBase (self : Veh2CloudState2) (base : Veh2CloudState) : Veh2CloudState2 :=
  { self with toVeh2CloudState := base }

/-- What the two guards let an object read of a complete frame: the header only, the header
and the second version's fields behind it, the first version, or all of it. -/
inductive Reach where
  | header
  | skipped
  | base
  | full
  deriving DecidableEq

def reach (self : Veh2CloudState2) (mem : List Byte) : Reach :=
  if mem.length < self.toVeh2CloudState.length then
    if mem.length < 16 + self.restLength then .header else .skipped
  else if mem.length < Veh2CloudState.passPosEnd mem + self.restLength then .base
  else .full

/-- The objects hold the same behind the announced wheels, and the same user data if none are
announced. -/
def SameKept (a b : Veh2CloudState2) : Head × Wheels × Tail → Prop
  | (_, (wheelNum, _), (_, _, userDataLen, _)) =>
    a.wheelVelocity.drop wheelNum.toNat = b.wheelVelocity.drop wheelNum.toNat ∧
      a.tirePressure.drop wheelNum.toNat = b.tirePressure.drop wheelNum.toNat ∧
      (userDataLen = 0 → a.userData = b.userData)

instance (a b : Veh2CloudState2) (body : Head × Wheels × Tail) : Decidable (SameKept a b body) :=
  match body with
  | (_, (_, _), (_, _, _, _)) => inferInstanceAs (Decidable (_ ∧ _ ∧ _))

section

variable (be : Bool) (mem : List Byte)

/-- Where the second version's fields end that start at `off`. -/
def restEnd (off : ℕ) : ℕ := off + (bodyFormat be).span (mem.drop off)

/-- The second version's fields that stand at `off`. -/
def restAt (off : ℕ) : Head × Wheels × Tail := (bodyFormat be).valueAt mem off

/-- The guards let the same parts of the frame through to both objects and the objects hold the
same in what these leave. -/
def Interchangeable (a b : Veh2CloudState2) : Prop :=
  let baseEnd := Veh2CloudState.passPosEnd mem
  match a.reach mem, b.reach mem with
  | .header, .header =>
    { a.toVeh2CloudState with toMessageHeader := b.toMessageHeader } = b.toVeh2CloudState ∧
      a.withBase b.toVeh2CloudState = b
  | .base, .base => a.passPos = b.passPos ∧ a.withBase b.toVeh2CloudState = b
  | .full, .full =>
    a.HasWheels mem baseEnd ∧ b.HasWheels mem baseEnd ∧ a.passPos = b.passPos ∧
      a.SameKept b (restAt be mem baseEnd)
  | .skipped, .skipped =>
    a.HasWheels mem 16 ∧ b.HasWheels mem 16 ∧ restEnd be mem 16 ≤ mem.length ∧
      { a.toVeh2CloudState with toMessageHeader := b.toMessageHeader } = b.toVeh2CloudState ∧
      a.SameKept b (restAt be mem 16)
  | _, _ => False

end

/-- One object takes the second version's fields from behind the header, the other does not. -/
def Straddles (a b : Veh2CloudState2) (mem : List Byte) : Prop :=
  ¬ (a.reach mem = .skipped ↔ b.reach mem = .skipped)

/-- Where all of the frame is let through. -/
theorem interchangeable_full_iff {be : Bool} {mem : List Byte} {a b : Veh2CloudState2}
    (ha : a.reach mem = .full) (hb : b.reach mem = .full) :
    Interchangeable be mem a b ↔
      a.HasWheels mem (Veh2CloudState.passPosEnd mem) ∧
        b.HasWheels mem (Veh2CloudState.passPosEnd mem) ∧ a.passPos = b.passPos ∧
        a.SameKept b (restAt be mem (Veh2CloudState.passPosEnd mem)) := by
  rw [Interchangeable, ha, hb]

theorem withBase_eq_iff (a b : Veh2CloudState2) (base base' : Veh2CloudState) :
    a.withBase base = b.withBase base' ↔ base = base' ∧ a.withBase b.toVeh2CloudState = b := by
  cases a
  cases b
  simp [withBase, Veh2CloudState2.mk.injEq]

theorem overwrite_eq_iff (a b : Veh2CloudState2) (body : Head × Wheels × Tail) :
    a.overwrite body = b.overwrite body ↔
      a.toVeh2CloudState = b.toVeh2CloudState ∧ a.SameKept b body := by
  obtain ⟨head, ⟨wheelNum, wheelVelocity, tirePressure⟩, lights, doors, userDataLen, userData⟩ :=
    body
  simp only [overwrite, assign, SameKept, Veh2CloudState2.mk.injEq, true_and,
    List.append_right_inj, ite_eq_ite_iff, ne_eq, not_not, eq_comm (a := (0 : Byte))]

theorem withBase_overwrite_eq_iff (a b : Veh2CloudState2) (base base' : Veh2CloudState)
    (body : Head × Wheels × Tail) :
    (a.withBase base).overwrite body = (b.withBase base').overwrite body ↔
      base = base' ∧ a.SameKept b body := overwrite_eq_iff (a.withBase base) (b.withBase base') body

section

variable (be : Bool) {mem : List Byte}

theorem loadFields_ok_iff (self : Veh2CloudState2) {off : ℕ} (hoff : off ≤ mem.length)
    {r : Veh2CloudState2 × ℕ} :
    (self.loadFields be).loadFrom (some mem) off = .ok r ↔
      self.HasWheels mem off ∧ restEnd be mem off ≤ mem.length ∧
        r = (self.overwrite (restAt be mem off), restEnd be mem off) := by
  by_cases h : self.HasWheels mem off ∧ restEnd be mem off ≤ mem.length
  · have hload := (bodyFormat be).loadFrom_valueAt (f := self.overwrite) rfl h.2
    rw [Access.loadFrom, Option.getD_some, ← loadFields_run_of_wheels self be hoff h.1] at hload
    rw [Access.loadFrom, Option.getD_some, hload]
    exact ⟨fun hr => ⟨h.1, h.2, (Except.ok.inj hr).symm⟩, fun hr => congrArg _ hr.2.2.symm⟩
  · obtain ⟨e, he⟩ := loadFields_of_not_wheels self be hoff h
    rw [he, ← and_assoc]
    simp only [reduceCtorEq, h, false_and]

theorem frameSpan_eq_restEnd (mem : List Byte) :
    frameSpan mem = restEnd be mem (Veh2CloudState.passPosEnd mem) := by
  rw [frameSpan, Veh2CloudState.frameSpan_eq, restEnd, bodyFormat_span, bodyFormat_span]

theorem le_restEnd (mem : List Byte) (off : ℕ) : off + 44 ≤ restEnd be mem off := by
  rw [restEnd, bodyFormat_span]
  omega

variable (hframe : frameSpan mem ≤ mem.length)

include hframe

/-- What any object makes of a complete frame. -/
theorem fromBytes_ok_iff (self : Veh2CloudState2) {r : Veh2CloudState2 × ℕ} :
    self.fromBytes (some mem) mem.length be = .ok r ↔
      let baseEnd := Veh2CloudState.passPosEnd mem
      match self.reach mem with
      | .header => r = (self.withBase (self.toVeh2CloudState.withHeader be mem), 16)
      | .skipped =>
        self.HasWheels mem 16 ∧ restEnd be mem 16 ≤ mem.length ∧
          r = ((self.withBase (self.toVeh2CloudState.withHeader be mem)).overwrite
            (restAt be mem 16), restEnd be mem 16)
      | .base => r = (self.withBase (self.toVeh2CloudState.decoded be mem), baseEnd)
      | .full =>
        self.HasWheels mem baseEnd ∧
          r = ((self.withBase (self.toVeh2CloudState.decoded be mem)).overwrite
            (restAt be mem baseEnd), restEnd be mem baseEnd) := by
  rw [frameSpan_eq_restEnd be] at hframe
  have hend : 98 ≤ Veh2CloudState.passPosEnd mem := Nat.le_add_right _ _
  have hrestEnd : Veh2CloudState.passPosEnd mem ≤ restEnd be mem _ := Nat.le_add_right _ _
  have hbase := Veh2CloudState.fromBytes_frame be (hrestEnd.trans hframe) self.toVeh2CloudState
  simp only [reach]
  by_cases hguard : mem.length < self.toVeh2CloudState.length
  · rw [if_pos hguard] at hbase ⊢
    rw [fromBytes_of_base self hbase (by omega)]
    by_cases hrest : mem.length < 16 + self.restLength
    · rw [if_pos hrest, if_pos (by omega)]
      exact ⟨fun hr => (Except.ok.inj hr).symm, fun hr => congrArg _ hr.symm⟩
    · rw [if_neg hrest, if_neg (by omega)]
      exact loadFields_ok_iff be _ (by omega)
  · rw [if_neg hguard] at hbase ⊢
    rw [fromBytes_of_base self hbase (by omega)]
    by_cases hrest : mem.length < Veh2CloudState.passPosEnd mem + self.restLength
    · rw [if_pos hrest, if_pos (by omega)]
      exact ⟨fun hr => (Except.ok.inj hr).symm, fun hr => congrArg _ hr.symm⟩
    · rw [if_neg hrest, if_neg (by omega)]
      apply (loadFields_ok_iff be _ (by omega)).trans
      simp only [hframe, true_and]
      rfl

/-- Two objects of which both or neither read the second version's fields behind the header: the
header's end, the first version's and the second's are three offsets, so they have to read equally
far. -/
theorem sameDecoding_iff {a b : Veh2CloudState2} (h : ¬ a.Straddles b mem) :
    SameDecoding a.fromBytes b.fromBytes be mem ↔ Interchangeable be mem a b := by
  have hend : 98 ≤ Veh2CloudState.passPosEnd mem := Nat.le_add_right _ _
  have hfull := le_restEnd be mem (Veh2CloudState.passPosEnd mem)
  have hne : 16 ≠ Veh2CloudState.passPosEnd mem := by omega
  have hne' : 16 ≠ restEnd be mem (Veh2CloudState.passPosEnd mem) := by omega
  have hne'' : Veh2CloudState.passPosEnd mem ≠
      restEnd be mem (Veh2CloudState.passPosEnd mem) := by omega
  unfold Straddles at h
  simp only [SameDecoding, fromBytes_ok_iff be hframe, Interchangeable]
  cases ha : a.reach mem <;> cases hb : b.reach mem <;>
    simp only [ha, hb, reduceCtorEq, iff_false, iff_true, not_true_eq_false, not_false_eq_true,
      and_assoc, exists_and_left, exists_eq_left, Prod.mk.injEq, hne, hne', hne'', hne.symm,
      hne'.symm, hne''.symm, and_false, and_true] at h ⊢
  case header.header =>
    rw [withBase_eq_iff, Veh2CloudState.withHeader_eq_iff]
  case base.base =>
    rw [withBase_eq_iff, Veh2CloudState.decoded_eq_iff]
  case full.full =>
    rw [withBase_overwrite_eq_iff, Veh2CloudState.decoded_eq_iff]
  case skipped.skipped =>
    rw [withBase_overwrite_eq_iff, Veh2CloudState.withHeader_eq_iff]
    constructor
    · rintro ⟨hwheels, -, hwheels', hrest, hsame⟩
      exact ⟨hwheels, hwheels', hrest, hsame⟩
    · rintro ⟨hwheels, hwheels', hrest, hsame⟩
      exact ⟨hwheels, hrest, hwheels', hrest, hsame⟩

end

theorem Interchangeable.not_straddles {be : Bool} {mem : List Byte} {a b : Veh2CloudState2}
    (h : Interchangeable be mem a b) : ¬ a.Straddles b mem := by
  unfold Interchangeable at h
  unfold Straddles
  rw [not_not]
  cases ha : a.reach mem <;> cases hb : b.reach mem <;> simp only [ha, hb] at h <;> simp

end Veh2CloudState2

/-- Interchangeable objects decode a complete frame alike, and no others do, except that an object
that reads the second version's fields behind the header may come out like one that does not, where
the bytes there happen to be what the other one holds or reads. -/
theorem decoding_independent (be : Bool) (mem : List Byte) :
    (Veh2CloudInh.frameSpan mem ≤ mem.length → ∀ a b : Veh2CloudInh,
      SameDecoding a.fromBytes b.fromBytes be mem ↔ a.Interchangeable b mem) ∧
    (Veh2CloudState.frameSpan mem ≤ mem.length → ∀ a b : Veh2CloudState,
      SameDecoding a.fromBytes b.fromBytes be mem ↔ a.Interchangeable b mem) ∧
    (Veh2CloudState2.frameSpan mem ≤ mem.length → ∀ a b : Veh2CloudState2,
      (Veh2CloudState2.Interchangeable be mem a b →
        SameDecoding a.fromBytes b.fromBytes be mem) ∧
      (SameDecoding a.fromBytes b.fromBytes be mem →
        Veh2CloudState2.Interchangeable be mem a b ∨ a.Straddles b mem)) := by
  refine ⟨Veh2CloudInh.sameDecoding_iff be, ?_, fun hframe a b => ⟨fun h => ?_, fun h => ?_⟩⟩
  · rw [Veh2CloudState.frameSpan_eq]
    exact Veh2CloudState.sameDecoding_iff be
  · exact (Veh2CloudState2.sameDecoding_iff be hframe h.not_straddles).mpr h
  · by_cases hstraddles : a.Straddles b mem
    · exact .inr hstraddles
    · exact .inl ((Veh2CloudState2.sameDecoding_iff be hframe hstraddles).mp h)

/-- Objects that differ in what the frame announces: other strings, and other wheels and user data.
The pass points of the states are the same, since those of the frame are appended to them. -/
theorem decoding_independent_filled :
    let inh (swVer hwVer adVer userData : List Byte) := Veh2CloudInh.new 1 0 0 [0x56, 0x31] swVer
      hwVer adVer 0 0 0 0 userData
    let inhFrame := (inh [0x61, 0x62] [0x63] [0x64, 0x65] [0x78, 0x79, 0x7A]).frameBytes true
    let state (gear : Byte) := Veh2CloudState.new 1 5 6 [0x56, 0x31] [1, 2, 3] 4 500 ⟨116, 40, 50⟩
      90 gear 1 600 7 8 9 10 11 1200 13 1 14 15 16 2 ⟨117, 41⟩ [⟨118, 42⟩]
    let stateFrame := (state 3).wireBytes true
    let state2 (wheels : List (Word 2)) (userData : List Byte) := Veh2CloudState2.new 2 5 6 [0x56]
      [1, 2, 3] 4 500 ⟨116, 40, 50⟩ 90 1 1 600 7 8 9 10 11 1200 13 1 14 15 16 2 ⟨117, 41⟩
      [⟨118, 42⟩] 1 0 1 0 1 0 1 0 1 0 20000 21 22 23 24 25 26 27 1 2 28 29 1 wheels wheels 30 31
      userData
    let state2Frame := (state2 [600, 601] [0x78, 0x79]).wireBytes true
    SameDecoding (inh [0x31] [] [0x32] [0x33]).fromBytes (inh [] [0x34, 0x35] [] []).fromBytes true
        inhFrame ∧
      SameDecoding (state 1).fromBytes (state 2).fromBytes true stateFrame ∧
      SameDecoding (state2 [1, 2] [0x61]).fromBytes (state2 [3, 4] []).fromBytes true
        state2Frame := by
  intro inh inhFrame state stateFrame state2 state2Frame
  refine ⟨((decoding_independent true inhFrame).1 (by decide +kernel) _ _).mpr ?_,
    ((decoding_independent true stateFrame).2.1 (by decide +kernel) _ _).mpr ?_,
    ((decoding_independent true state2Frame).2.2 (by decide +kernel) _ _).1 ?_⟩
  · exact .inr ⟨by decide +kernel, by decide +kernel, by decide +kernel⟩
  · exact .inr ⟨by decide +kernel, by decide +kernel, rfl⟩
  · apply (Veh2CloudState2.interchangeable_full_iff (by decide +kernel) (by decide +kernel)).mpr
    exact ⟨⟨by decide +kernel, by decide +kernel⟩, ⟨by decide +kernel, by decide +kernel⟩, rfl,
      by decide +kernel⟩

/-- A message with a version string or a pass point does not decode the shortest frame of its
class as a message without it does. -/
theorem decoding_keeps_earlier_message :
    let inh (swVer : List Byte) := Veh2CloudInh.new 1 0 0 [] swVer [] [] 0 0 0 0 []
    let state (passPos : List Position2D) := Veh2CloudState.new 1 0 0 [] [] 0 0 default 0 0 0 0 0
      0 0 0 0 0 0 0 0 0 0 0 default passPos
    let state2 (passPos : List Position2D) := Veh2CloudState2.new 2 0 0 [] [] 0 0 default 0 0 0 0
      0 0 0 0 0 0 0 0 0 0 0 0 default passPos 0 0 0 0 0 0 0 0 0 0 0 0 0 0 0 0 0 0 0 0 0 0 0 [] []
      0 0 []
    (Veh2CloudInh.frameSpan (List.replicate 32 0) = 32 ∧
      ¬ SameDecoding (inh []).fromBytes (inh [0x31]).fromBytes true (List.replicate 32 0)) ∧
    (Veh2CloudState.frameSpan (List.replicate 98 0) = 98 ∧
      ¬ SameDecoding (state []).fromBytes (state [default]).fromBytes true
        (List.replicate 98 0)) ∧
    (Veh2CloudState2.frameSpan (List.replicate 142 0) = 142 ∧
      ¬ SameDecoding (state2 []).fromBytes (state2 [default]).fromBytes true
        (List.replicate 142 0)) := by
  intro inh state state2
  refine ⟨⟨by decide, ?_⟩, ⟨by decide, ?_⟩, ⟨by decide, ?_⟩⟩
  · rw [Veh2CloudInh.sameDecoding_iff true (by decide)]
    rintro (⟨hlt, -⟩ | ⟨-, hle, -⟩)
    · exact absurd hlt (by decide)
    · exact absurd hle (by decide)
  · rw [Veh2CloudState.sameDecoding_iff true (by decide)]
    rintro (⟨hlt, -⟩ | ⟨-, hle, -⟩)
    · exact absurd hlt (by decide)
    · exact absurd hle (by decide)
  · have hreach : (state2 []).reach (List.replicate 142 0) = .full := by decide
    have hreach' : (state2 [default]).reach (List.replicate 142 0) = .full := by decide
    have hsame : ¬ (state2 []).Straddles (state2 [default]) (List.replicate 142 0) := by
      rw [Veh2CloudState2.Straddles, hreach, hreach']
      decide
    have hspan : Veh2CloudState2.frameSpan (List.replicate 142 0) = 142 := by decide
    have hframe : Veh2CloudState2.frameSpan (List.replicate 142 0) ≤
        (List.replicate 142 (0 : Byte)).length := by
      rw [hspan, List.length_replicate]
    rw [Veh2CloudState2.sameDecoding_iff true hframe hsame,
      Veh2CloudState2.interchangeable_full_iff hreach hreach']
    rintro ⟨-, -, hpassPos, -⟩
    cases hpassPos

end Csae295
