import Csae295.Verification.Layout
import Csae295.Model.Packer

/-! What every decoder returns, for any object it is called on. -/

namespace Csae295

open Library

theorem loadByte_run {mem : List Byte} {off : ℕ} (h : off < mem.length) :
    loadByte.run ⟨mem, off⟩ = .ok (byteAt mem off, ⟨mem, off + 1⟩) := by
  rw [loadByte, Access.run_bind_ok (load_of_le h), Access.run_pure,
    List.drop_eq_getElem_cons h, List.take_succ_cons, List.headD_cons]
  simp [byteAt, h]

namespace MessageHeader

/-- The header at the front of the given bytes. -/
def decode (be : Bool) (bs : List Byte) : MessageHeader where
  id := byteAt bs 0
  dataLen := ofWordBytes 4 be ((bs.drop 1).take 4)
  dataType := byteAt bs 5
  version := byteAt bs 6
  timestamp := ofWordBytes 8 be ((bs.drop 7).take 8)
  ctrl := byteAt bs 15

theorem loadWord_run {n off : ℕ} {mem : List Byte} (be : Bool) (h : off + n ≤ mem.length) :
    (loadWord n be).run ⟨mem, off⟩ =
      .ok (ofWordBytes n be ((mem.drop off).take n), ⟨mem, off + n⟩) := by
  rw [loadWord, Access.run_bind_ok (load_of_le h), Access.run_pure, ofWordBytes]

theorem loadFields_run {mem : List Byte} (be : Bool) (h : 16 ≤ mem.length) :
    (loadFields be).run ⟨mem, 0⟩ = .ok (decode be mem, ⟨mem, 16⟩) := by
  rw [loadFields, Access.run_bind_ok (loadByte_run (by omega)),
    Access.run_bind_ok (loadWord_run be (by omega)), Access.run_bind_ok (loadByte_run (by omega)),
    Access.run_bind_ok (loadByte_run (by omega)), Access.run_bind_ok (loadWord_run be (by omega)),
    Access.run_bind_ok (loadByte_run (by omega)), Access.run_pure, decode]

theorem fromBytes_of_lt (self : MessageHeader) {mem : List Byte} {size : ℕ} (be : Bool)
    (h : size < 16) : self.fromBytes (some mem) size be = .ok (self, 0) := by
  simp [fromBytes, length, sizeof, h]

theorem fromBytes_of_le (self : MessageHeader) {mem : List Byte} {size : ℕ} (be : Bool)
    (h : 16 ≤ size) (hsize : size ≤ mem.length) :
    self.fromBytes (some mem) size be = .ok (decode be mem, 16) := by
  have hlt : ¬ size < 16 := by omega
  simp [fromBytes, length, sizeof, hlt, Access.loadFrom,
    loadFields_run be (h.trans hsize)]

/-- A header that has been read is the one whose encoding is at the front. -/
theorem split_decode {mem : List Byte} (be : Bool) (h : 16 ≤ mem.length) :
    mem = (format be).enc (decode be mem) ++ mem.drop 16 := by
  have hread := (format be).read_ok (Nat.zero_le _)
    (by rw [format_read]; exact loadFields_run be h)
  have hlen : ((format be).enc (decode be mem)).length = 16 := by simp [format, Format.imap]
  simpa [hlen] using hread.2.2

end MessageHeader

/-! ## Vehicle information -/

namespace Veh2CloudInh

/-- The length of a frame as counted by its own length bytes. -/
def frameSpan (mem : List Byte) : ℕ := 16 + bodyFormat.span (mem.drop 16)

theorem bodyFormat_span (bs : List Byte) : bodyFormat.span bs =
    let sw := versionChars (byteAt bs 8)
    let hw := versionChars (byteAt bs (9 + sw))
    let ad := versionChars (byteAt bs (10 + sw + hw))
    16 + sw + hw + ad + (byteAt bs (15 + sw + hw + ad)).toNat := by
  simp only [bodyFormat, Format.seq_span, Format.tagged_span, Format.array_span,
    Format.chars_span, Format.byte_span, List.drop_drop, headD_drop]
  have hfirst : ∀ x, 8 + (1 + x) = 9 + x := by omega
  have hsecond : ∀ x y, 9 + x + (1 + y) = 10 + x + y := by omega
  have hthird : ∀ x y z, 10 + x + y + (1 + z) + 1 + 1 + 1 + 1 = 15 + x + y + z := by omega
  simp only [hfirst, hsecond, hthird]
  omega

theorem le_frameSpan (mem : List Byte) : 32 ≤ frameSpan mem := by
  simp only [frameSpan, bodyFormat_span]
  omega

theorem length_eq (self : Veh2CloudInh) : self.length =
    32 + self.swVer.length + self.hwVer.length + self.adVer.length + self.userData.length := by
  simp only [length, sizeof, MessageHeader.sizeof, sizeofString]
  omega

theorem fromBytes_of_lt_header (self : Veh2CloudInh) {mem : List Byte} {size : ℕ} (be : Bool)
    (h : size < 16) : self.fromBytes (some mem) size be = .ok (self, 0) := by
  have hlen : size < self.length - 16 := by
    rw [length_eq]
    omega
  simp [fromBytes, MessageHeader.fromBytes_of_lt _ be h, remaining_of_le, MessageHeader.length,
    MessageHeader.sizeof, hlen]

theorem fromBytes_of_lt (self : Veh2CloudInh) {mem : List Byte} {size : ℕ} (be : Bool)
    (h : 16 ≤ size) (hsize : size ≤ mem.length) (hlt : size < self.length) :
    self.fromBytes (some mem) size be =
      .ok ({ self with toMessageHeader := MessageHeader.decode be mem }, 16) := by
  have hlen : size - 16 < self.length - 16 := by omega
  simp only [length] at hlen
  simp [fromBytes, MessageHeader.fromBytes_of_le _ be h hsize, remaining_of_le h,
    MessageHeader.length, MessageHeader.sizeof, length, hlen]

theorem fromBytes_of_le (self : Veh2CloudInh) {mem : List Byte} {size : ℕ} (be : Bool)
    (hsize : size ≤ mem.length) (hle : self.length ≤ size) :
    self.fromBytes (some mem) size be =
      { self with toMessageHeader := MessageHeader.decode be mem }.loadFields.loadFrom
        (some mem) 16 := by
  have h : 16 ≤ size := by
    rw [length_eq] at hle
    omega
  have hlen : ¬ size - 16 < self.length - 16 := by omega
  simp only [length] at hlen
  simp [fromBytes, MessageHeader.fromBytes_of_le _ be h hsize, remaining_of_le h,
    MessageHeader.length, MessageHeader.sizeof, length, hlen]

theorem fresh_length (storage : Veh2CloudInh) : (fresh storage).length = 32 := by
  simp [length_eq, fresh]

theorem fromBytes_fresh_of_fits {mem : List Byte} {size : ℕ} (be : Bool)
    (hsize : size ≤ mem.length) (h : 32 ≤ size)
    (hfits : 16 + bodyFormat.span (mem.drop 16) ≤ mem.length) :
    ∃ body, bodyFormat.Valid body ∧
      (∀ storage, (fresh storage).fromBytes (some mem) size be =
        .ok ({ fresh storage with toMessageHeader := MessageHeader.decode be mem }.assign body,
          16 + bodyFormat.span (mem.drop 16))) ∧
      mem.drop 16 = bodyFormat.enc body ++ mem.drop (16 + bodyFormat.span (mem.drop 16)) := by
  obtain ⟨body, hbody, hload, hsplit⟩ := bodyFormat.loadFrom_of_le hfits
  refine ⟨body, hbody, ?_, hsplit⟩
  intro storage
  rw [fromBytes_of_le _ be hsize (by rw [fresh_length]; exact h)]
  exact hload (loadFields_eq _)

theorem fromBytes_fresh_of_not_fits (storage : Veh2CloudInh) {mem : List Byte} {size : ℕ}
    (be : Bool) (hsize : size ≤ mem.length) (h : 32 ≤ size)
    (hfits : ¬ 16 + bodyFormat.span (mem.drop 16) ≤ mem.length) :
    (fresh storage).fromBytes (some mem) size be = .error .read := by
  rw [fromBytes_of_le _ be hsize (by rw [fresh_length]; exact h)]
  exact bodyFormat.loadFrom_of_lt (loadFields_eq _) (by omega) (Nat.lt_of_not_ge hfits)

end Veh2CloudInh

namespace Cloud2VehInhRes

def frameSpan (mem : List Byte) : ℕ := 16 + bodyFormat.span (mem.drop 16)

/-- Where the header was not read, the data length the object held decides. -/
theorem fromBytes_of_lt_header (self : Cloud2VehInhRes) {mem : List Byte} {size : ℕ} (be : Bool)
    (h : size < 16) :
    self.fromBytes (some mem) size be =
      if size < self.dataLen.toNat then .ok (self, 0)
      else self.loadFields.loadFrom (some mem) 0 := by
  simp [fromBytes, MessageHeader.fromBytes_of_lt _ be h, remaining_of_le]

theorem fromBytes_of_le (self : Cloud2VehInhRes) {mem : List Byte} {size : ℕ} (be : Bool)
    (h : 16 ≤ size) (hsize : size ≤ mem.length) :
    self.fromBytes (some mem) size be =
      if size - 16 < (MessageHeader.decode be mem).dataLen.toNat then
        .ok ({ self with toMessageHeader := MessageHeader.decode be mem }, 16)
      else { self with toMessageHeader := MessageHeader.decode be mem }.loadFields.loadFrom
        (some mem) 16 := by
  simp [fromBytes, MessageHeader.fromBytes_of_le _ be h hsize, remaining_of_le h]

/-- The body is read wherever the header left the offset, if its nine bytes are there. -/
theorem loadFields_of_le {mem : List Byte} {off : ℕ} (h : off + 9 ≤ mem.length) :
    ∃ body,
      (∀ self : Cloud2VehInhRes,
        self.loadFields.loadFrom (some mem) off = .ok (self.assign body, off + 9)) ∧
      mem.drop off = bodyFormat.enc body ++ mem.drop (off + 9) := by
  obtain ⟨body, -, hload, hsplit⟩ := bodyFormat.loadFrom_of_le h
  exact ⟨body, fun self => hload (loadFields_eq self), hsplit⟩

theorem loadFields_of_lt (self : Cloud2VehInhRes) {mem : List Byte} {off : ℕ}
    (hoff : off ≤ mem.length) (h : mem.length < off + 9) :
    self.loadFields.loadFrom (some mem) off = .error .read :=
  bodyFormat.loadFrom_of_lt (loadFields_eq self) hoff h

end Cloud2VehInhRes

/-! ## Vehicle state -/

namespace Veh2CloudState

theorem length_eq (self : Veh2CloudState) : self.length = 98 + self.passPos.length := by
  simp only [length, sizeof, MessageHeader.sizeof, sizeofVector]

theorem fromBytes_of_lt_header (self : Veh2CloudState) {mem : List Byte} {size : ℕ} (be : Bool)
    (h : size < 16) : self.fromBytes (some mem) size be = .ok (self, 0) := by
  have hlen : size < self.length - 16 := by
    rw [length_eq]
    omega
  simp [fromBytes, MessageHeader.fromBytes_of_lt _ be h, remaining_of_le, MessageHeader.length,
    MessageHeader.sizeof, hlen]

theorem fromBytes_of_lt (self : Veh2CloudState) {mem : List Byte} {size : ℕ} (be : Bool)
    (h : 16 ≤ size) (hsize : size ≤ mem.length) (hlt : size < self.length) :
    self.fromBytes (some mem) size be =
      .ok ({ self with toMessageHeader := MessageHeader.decode be mem }, 16) := by
  have hlen : size - 16 < self.length - 16 := by omega
  simp only [length] at hlen
  simp [fromBytes, MessageHeader.fromBytes_of_le _ be h hsize, remaining_of_le h,
    MessageHeader.length, MessageHeader.sizeof, length, hlen]

theorem fromBytes_of_le (self : Veh2CloudState) {mem : List Byte} {size : ℕ} (be : Bool)
    (hsize : size ≤ mem.length) (hle : self.length ≤ size) :
    self.fromBytes (some mem) size be =
      ({ self with toMessageHeader := MessageHeader.decode be mem }.loadFields be).loadFrom
        (some mem) 16 := by
  have h : 16 ≤ size := by
    rw [length_eq] at hle
    omega
  have hlen : ¬ size - 16 < self.length - 16 := by omega
  simp only [length] at hlen
  simp [fromBytes, MessageHeader.fromBytes_of_le _ be h hsize, remaining_of_le h,
    MessageHeader.length, MessageHeader.sizeof, length, hlen]

@[simp] theorem bodyFormat_span (be : Bool) (bs : List Byte) :
    (bodyFormat be).span bs = 82 + 8 * (byteAt bs 81).toNat := by
  simp only [bodyFormat, Format.seq_span, Format.array_span, Format.word_span, Format.byte_span,
    Format.tagged_span, Format.many_span, List.drop_drop,
    Format.spanMany_of_const (Position2D.format_span be), headD_drop, Nat.reduceAdd]
  omega

def frameSpan (mem : List Byte) : ℕ := 16 + (bodyFormat true).span (mem.drop 16)

/-- The offset behind the pass points whose number stands at position 97. -/
def passPosEnd (mem : List Byte) : ℕ := 98 + 8 * (byteAt mem 97).toNat

theorem span_eq_passPosEnd (be : Bool) (mem : List Byte) :
    16 + (bodyFormat be).span (mem.drop 16) = passPosEnd mem := by
  rw [bodyFormat_span, byteAt_drop, passPosEnd]
  change 16 + (82 + 8 * (byteAt mem 97).toNat) = _
  omega

theorem frameSpan_eq (mem : List Byte) : frameSpan mem = passPosEnd mem :=
  span_eq_passPosEnd true mem

theorem fresh_length (storage : Veh2CloudState) : (fresh storage).length = 98 := by
  simp [length_eq, fresh]

theorem fromBytes_fresh_of_fits {mem : List Byte} {size : ℕ} (be : Bool)
    (hsize : size ≤ mem.length) (h : 98 ≤ size) (hfits : passPosEnd mem ≤ mem.length) :
    ∃ body, (bodyFormat be).Valid body ∧
      (∀ storage, (fresh storage).fromBytes (some mem) size be =
        .ok ({ fresh storage with toMessageHeader := MessageHeader.decode be mem }.assign be body,
          passPosEnd mem)) ∧
      mem.drop 16 = (bodyFormat be).enc body ++ mem.drop (passPosEnd mem) := by
  rw [← span_eq_passPosEnd be mem] at hfits ⊢
  obtain ⟨body, hbody, hload, hsplit⟩ := (bodyFormat be).loadFrom_of_le hfits
  refine ⟨body, hbody, ?_, hsplit⟩
  intro storage
  rw [fromBytes_of_le _ be hsize (by rw [fresh_length]; exact h)]
  exact hload (loadFields_eq _ be)

theorem fromBytes_fresh_of_not_fits (storage : Veh2CloudState) {mem : List Byte} {size : ℕ}
    (be : Bool) (hsize : size ≤ mem.length) (h : 98 ≤ size)
    (hfits : ¬ passPosEnd mem ≤ mem.length) :
    (fresh storage).fromBytes (some mem) size be = .error .read := by
  rw [fromBytes_of_le _ be hsize (by rw [fresh_length]; exact h)]
  exact (bodyFormat be).loadFrom_of_lt (loadFields_eq _ be) (by omega)
    (by rw [span_eq_passPosEnd]; omega)

end Veh2CloudState

namespace Veh2CloudState2

theorem length_eq (self : Veh2CloudState2) : self.length =
    142 + self.passPos.length + self.wheelVelocity.length + self.tirePressure.length +
      self.userData.length := by
  simp only [length, sizeof, Veh2CloudState.sizeof, MessageHeader.sizeof, sizeofVector,
    sizeofString]
  omega

/-- The bytes the guard of the second version asks for. -/
def restLength (self : Veh2CloudState2) : ℕ :=
  44 + self.wheelVelocity.length + self.tirePressure.length + self.userData.length

theorem fromBytes_of_base_guard (self : Veh2CloudState2) {mem : List Byte} {size : ℕ} {be : Bool}
    {base : Veh2CloudState} {offset : ℕ}
    (h : self.toVeh2CloudState.fromBytes (some mem) size be = .ok (base, offset)) :
    self.fromBytes (some mem) size be =
      if remaining size offset < self.restLength then
        .ok ({ self with toVeh2CloudState := base }, offset)
      else ({ self with toVeh2CloudState := base }.loadFields be).loadFrom (some mem) offset := by
  have hlen : { self with toVeh2CloudState := base }.length - base.length = self.restLength := by
    rw [length_eq, Veh2CloudState.length_eq, restLength]
    simp only
    omega
  simp only [length] at hlen
  simp [fromBytes, h, length, hlen]

theorem fromBytes_of_base (self : Veh2CloudState2) {mem : List Byte} {size : ℕ} {be : Bool}
    {base : Veh2CloudState} {offset : ℕ}
    (h : self.toVeh2CloudState.fromBytes (some mem) size be = .ok (base, offset))
    (hle : offset ≤ size) :
    self.fromBytes (some mem) size be =
      if size - offset < self.restLength then .ok ({ self with toVeh2CloudState := base }, offset)
      else ({ self with toVeh2CloudState := base }.loadFields be).loadFrom (some mem) offset := by
  rw [fromBytes_of_base_guard self h, remaining_of_le hle]

theorem fromBytes_of_base_error (self : Veh2CloudState2) {mem : List Byte} {size : ℕ} {be : Bool}
    {e : Fault} (h : self.toVeh2CloudState.fromBytes (some mem) size be = .error e) :
    self.fromBytes (some mem) size be = .error e := by
  simp [fromBytes, h]

/-- The second version's fields leave those of the first alone. -/
theorem base_of_loadFields {self : Veh2CloudState2} {be : Bool} {c : Cursor}
    {r : Veh2CloudState2 × Cursor} (h : (self.loadFields be).run c = .ok r) :
    r.1.toVeh2CloudState = self.toVeh2CloudState := by
  unfold loadFields at h
  iterate 30 obtain ⟨_, _, -, h⟩ := Access.ok_of_bind h
  cases h
  rfl

theorem base_of_fromBytes {self m : Veh2CloudState2} {mem : List Byte} {size : ℕ} {be : Bool}
    {n : ℕ} (h : self.fromBytes (some mem) size be = .ok (m, n)) :
    ∃ offset, self.toVeh2CloudState.fromBytes (some mem) size be =
      .ok (m.toVeh2CloudState, offset) := by
  cases hbase : self.toVeh2CloudState.fromBytes (some mem) size be with
  | error e =>
      rw [fromBytes_of_base_error self hbase] at h
      cases h
  | ok r =>
      obtain ⟨base, offset⟩ := r
      refine ⟨offset, ?_⟩
      rw [fromBytes_of_base_guard self hbase] at h
      split at h
      · cases h
        rfl
      · rw [Access.loadFrom] at h
        split at h
        · next hrun =>
            cases h
            rw [base_of_loadFields hrun]
        · cases h

@[simp] theorem headFormat_span (be : Bool) (bs : List Byte) :
    (headFormat be).span bs = 38 := by
  simp only [headFormat, Format.seq_span, Format.word_span, Format.byte_span, Nat.reduceAdd]

@[simp] theorem tailFormat_span (be : Bool) (bs : List Byte) :
    (tailFormat be).span bs = 5 + (byteAt bs 4).toNat := by
  simp only [tailFormat, Format.seq_span, Format.word_span, Format.tagged_span,
    Format.chars_span, List.drop_drop, headD_drop, Nat.reduceAdd]
  omega

@[simp] theorem wheelsFormat_span (be : Bool) (bs : List Byte) :
    (wheelsFormat be).span bs = 1 + 4 * (byteAt bs 0).toNat := by
  simp only [wheelsFormat, Format.tagged_span, Format.seq_span, Format.many_span,
    Format.spanMany_of_const (Format.word_span 2 be)]
  rw [show bs.headD 0 = byteAt bs 0 from headD_drop bs 0]
  omega

theorem bodyFormat_span (be : Bool) (bs : List Byte) :
    (bodyFormat be).span bs = 44 + 4 * (byteAt bs 38).toNat +
      (byteAt bs (43 + 4 * (byteAt bs 38).toNat)).toNat := by
  simp only [bodyFormat, Format.seq_span, headFormat_span, wheelsFormat_span, tailFormat_span,
    List.drop_drop, byteAt_drop]
  rw [show 38 + (1 + 4 * (byteAt bs (38 + 0)).toNat) + 4 =
    43 + 4 * (byteAt bs (38 + 0)).toNat by omega, Nat.add_zero]
  omega

/-- The second version's fields are counted from where the first version's end. -/
def frameSpan (mem : List Byte) : ℕ :=
  Veh2CloudState.frameSpan mem +
    (bodyFormat true).span (mem.drop (Veh2CloudState.frameSpan mem))

/-- The object after its fields have been read over the elements it held. -/
def overwrite (self : Veh2CloudState2) : Head × Wheels × Tail → Veh2CloudState2
  | (head, (wheelNum, wheelVelocity, tirePressure), tail) =>
    self.assign (head, (wheelNum, wheelVelocity ++ self.wheelVelocity.drop wheelNum.toNat,
      tirePressure ++ self.tirePressure.drop wheelNum.toNat), tail)

theorem overwrite_of_nil {self : Veh2CloudState2} (hv : self.wheelVelocity = [])
    (ht : self.tirePressure = []) (body : Head × Wheels × Tail) :
    self.overwrite body = self.assign body := by
  obtain ⟨head, ⟨wheelNum, wheelVelocity, tirePressure⟩, tail⟩ := body
  simp only [overwrite, hv, ht, List.drop_nil, List.append_nil]

/-- The object holds an element for every wheel that the buffer announces behind `off`. -/
def HasWheels (self : Veh2CloudState2) (mem : List Byte) (off : ℕ) : Prop :=
  (byteAt mem (off + 38)).toNat ≤ self.wheelVelocity.length ∧
    (byteAt mem (off + 38)).toNat ≤ self.tirePressure.length

section

variable (self : Veh2CloudState2) (be : Bool) {mem : List Byte} {off : ℕ}

/-- Up to the number of wheels the decoder is the reader of the layout. -/
theorem loadFields_run_head (hcount : off + 38 < mem.length) :
    ∃ head,
      (self.loadFields be).run ⟨mem, off⟩ = (do
        let wheelVelocity ← loadElements be 0 (byteAt mem (off + 38)).toNat self.wheelVelocity
        let tirePressure ← loadElements be 0 (byteAt mem (off + 38)).toNat self.tirePressure
        let tail ← (tailFormat be).read
        pure (self.assign (head, (byteAt mem (off + 38), wheelVelocity, tirePressure),
          tail))).run ⟨mem, off + 39⟩ ∧
      ((bodyFormat be).read >>= fun body => pure (self.overwrite body)).run ⟨mem, off⟩ = (do
        let wheelVelocity ← Format.readMany (Format.word 2 be) (byteAt mem (off + 38)).toNat
        let tirePressure ← Format.readMany (Format.word 2 be) (byteAt mem (off + 38)).toNat
        let tail ← (tailFormat be).read
        pure (self.overwrite (head, (byteAt mem (off + 38), wheelVelocity, tirePressure),
          tail))).run ⟨mem, off + 39⟩ := by
  obtain ⟨head, -, hread, -⟩ := (headFormat be).read_of_le mem off
    (by rw [headFormat_span]; omega)
  rw [headFormat_span] at hread
  refine ⟨head, ?_, ?_⟩
  · rw [loadFields_eq, Access.run_bind_ok hread, Access.run_bind_ok (loadByte_run hcount)]
  · simp only [bodyFormat, wheelsFormat, Format.seq_read, Format.tagged_read, Format.many_read,
      bind_assoc, pure_bind]
    rw [Access.run_bind_ok hread, Access.run_bind_ok (loadByte_run hcount)]

variable (hoff : off ≤ mem.length)

include hoff

/-- A buffer that ends before the number of wheels stops both. -/
theorem loadFields_run_cut (hcount : ¬ off + 38 < mem.length) :
    (self.loadFields be).run ⟨mem, off⟩ = .error .read ∧
      ((bodyFormat be).read >>= fun body => pure (self.overwrite body)).run ⟨mem, off⟩ =
        .error .read := by
  rw [loadFields_eq]
  simp only [bodyFormat, wheelsFormat, Format.seq_read, Format.tagged_read, bind_assoc, pure_bind]
  by_cases hhead : off + 38 ≤ mem.length
  · obtain ⟨head, -, hread, -⟩ := (headFormat be).read_of_le mem off
      (by rw [headFormat_span]; exact hhead)
    have herr := Format.byte.read_of_lt mem _ hhead (by rw [Format.byte_span]; omega)
    rw [Format.byte_read] at herr
    rw [headFormat_span] at hread
    rw [Access.run_bind_ok hread, Access.run_bind_ok hread, Access.run_bind_error herr,
      Access.run_bind_error herr]
    exact ⟨rfl, rfl⟩
  · have herr := (headFormat be).read_of_lt mem off hoff (by rw [headFormat_span]; omega)
    rw [Access.run_bind_error herr, Access.run_bind_error herr]
    exact ⟨rfl, rfl⟩

/-- With an element for every announced wheel the decoder reads the whole layout. -/
theorem loadFields_run_of_wheels (h : self.HasWheels mem off) :
    (self.loadFields be).run ⟨mem, off⟩ =
      ((bodyFormat be).read >>= fun body => pure (self.overwrite body)).run ⟨mem, off⟩ := by
  by_cases hcount : off + 38 < mem.length
  · obtain ⟨head, hrun, hbody⟩ := loadFields_run_head self be hcount
    rw [hrun, hbody, loadElements_of_le be 0 _ _ (by rw [Nat.zero_add]; exact h.1),
      loadElements_of_le be 0 _ _ (by rw [Nat.zero_add]; exact h.2)]
    simp only [bind_assoc, pure_bind, List.take_zero, List.nil_append, Nat.zero_add, overwrite]
  · obtain ⟨hrun, hbody⟩ := loadFields_run_cut self be hoff hcount
    rw [hrun, hbody]

/-- Otherwise it stops at the end of a vector, if not before. -/
theorem loadFields_run_of_not_wheels (h : ¬ self.HasWheels mem off) :
    ∃ e, (self.loadFields be).run ⟨mem, off⟩ = .error e := by
  by_cases hcount : off + 38 < mem.length
  · obtain ⟨head, hrun, -⟩ := loadFields_run_head self be hcount
    rw [hrun]
    by_cases hv : (byteAt mem (off + 38)).toNat ≤ self.wheelVelocity.length
    · have ht : self.tirePressure.length < 0 + (byteAt mem (off + 38)).toNat := by
        rw [Nat.zero_add]
        exact Nat.lt_of_not_ge fun ht => h ⟨hv, ht⟩
      exact Access.fails_bind _
        (fun _ => (loadElements_fails be 0 _ _ (Nat.zero_le _) ht).bind _) _
    · exact (loadElements_fails be 0 _ _ (Nat.zero_le _) (by omega)).bind _ _
  · exact ⟨.read, (loadFields_run_cut self be hoff hcount).1⟩

theorem loadFields_of_not_wheels
    (h : ¬ (self.HasWheels mem off ∧ off + (bodyFormat be).span (mem.drop off) ≤ mem.length)) :
    ∃ e, (self.loadFields be).loadFrom (some mem) off = .error e := by
  by_cases hwheels : self.HasWheels mem off
  · have herr := (bodyFormat be).read_of_lt mem off hoff
      (Nat.lt_of_not_ge fun hfits => h ⟨hwheels, hfits⟩)
    refine ⟨.read, ?_⟩
    rw [Access.loadFrom, Option.getD_some, loadFields_run_of_wheels self be hoff hwheels,
      Access.run_bind_error herr]
  · obtain ⟨e, he⟩ := loadFields_run_of_not_wheels self be hoff hwheels
    exact ⟨e, by rw [Access.loadFrom, Option.getD_some, he]⟩

end

/-- Every object with the elements for the announced wheels reads the same fields. -/
theorem loadFields_of_wheels (be : Bool) {mem : List Byte} {off : ℕ}
    (hfits : off + (bodyFormat be).span (mem.drop off) ≤ mem.length) :
    ∃ body, (bodyFormat be).Valid body ∧
      (∀ self : Veh2CloudState2, self.HasWheels mem off →
        (self.loadFields be).loadFrom (some mem) off =
          .ok (self.overwrite body, off + (bodyFormat be).span (mem.drop off))) ∧
      mem.drop off =
        (bodyFormat be).enc body ++ mem.drop (off + (bodyFormat be).span (mem.drop off)) := by
  obtain ⟨body, hbody, hload, hsplit⟩ := (bodyFormat be).loadFrom_of_le hfits
  refine ⟨body, hbody, ?_, hsplit⟩
  intro self hwheels
  have hself := hload (f := self.overwrite) rfl
  rw [← hself, Access.loadFrom, Access.loadFrom, Option.getD_some,
    loadFields_run_of_wheels self be (by omega) hwheels]

/-- An object that holds no wheels has the elements for no wheels only. -/
theorem hasWheels_iff_of_nil {self : Veh2CloudState2} (hv : self.wheelVelocity = [])
    (ht : self.tirePressure = []) {mem : List Byte} {off : ℕ} :
    self.HasWheels mem off ↔ byteAt mem (off + 38) = 0 := by
  simp only [HasWheels, hv, ht, List.length_nil, Nat.le_zero, and_self]
  exact ⟨fun h => BitVec.eq_of_toNat_eq h, fun h => by rw [h]; rfl⟩

/-- Without wheels in the object and on the wire the decoder reads the whole layout. -/
theorem loadFields_run (self : Veh2CloudState2) (be : Bool) {mem : List Byte} {off : ℕ}
    (hv : self.wheelVelocity = []) (ht : self.tirePressure = [])
    (hoff : off ≤ mem.length) (hw : byteAt mem (off + 38) = 0) :
    (self.loadFields be).run ⟨mem, off⟩ =
      ((bodyFormat be).read >>= fun body => pure (self.assign body)).run ⟨mem, off⟩ := by
  rw [loadFields_run_of_wheels self be hoff ((hasWheels_iff_of_nil hv ht).mpr hw)]
  simp only [overwrite_of_nil hv ht]

/-- A wheel count on the wire stops the decoder of an object that holds no wheels. -/
theorem loadFields_run_error (self : Veh2CloudState2) (be : Bool) {mem : List Byte} {off : ℕ}
    (hv : self.wheelVelocity = []) (hoff : off ≤ mem.length) (hw : byteAt mem (off + 38) ≠ 0) :
    ∃ e, (self.loadFields be).run ⟨mem, off⟩ = .error e := by
  apply loadFields_run_of_not_wheels self be hoff
  rintro ⟨hle, -⟩
  rw [hv, List.length_nil, Nat.le_zero] at hle
  exact hw (BitVec.eq_of_toNat_eq hle)

/-- The second version's fields fit behind `off` when there are no wheels. -/
def Fits (mem : List Byte) (off : ℕ) : Prop :=
  byteAt mem (off + 38) = 0 ∧ off + 44 + (byteAt mem (off + 43)).toNat ≤ mem.length

theorem span_of_no_wheels (be : Bool) {mem : List Byte} {off : ℕ}
    (hw : byteAt mem (off + 38) = 0) :
    (bodyFormat be).span (mem.drop off) = 44 + (byteAt mem (off + 43)).toNat := by
  have hzero : (0 : Byte).toNat = 0 := rfl
  rw [bodyFormat_span, byteAt_drop, hw]
  simp only [hzero, Nat.mul_zero, Nat.add_zero, byteAt_drop]

theorem loadFields_of_fits (be : Bool) {mem : List Byte} {off : ℕ} (hfits : Fits mem off) :
    ∃ body, (bodyFormat be).Valid body ∧
      (∀ self : Veh2CloudState2, self.wheelVelocity = [] → self.tirePressure = [] →
        (self.loadFields be).loadFrom (some mem) off =
          .ok (self.assign body, off + 44 + (byteAt mem (off + 43)).toNat)) ∧
      mem.drop off =
        (bodyFormat be).enc body ++ mem.drop (off + 44 + (byteAt mem (off + 43)).toNat) := by
  obtain ⟨hw, hend⟩ := hfits
  have hspan := span_of_no_wheels be hw
  obtain ⟨body, hbody, hload, hsplit⟩ := loadFields_of_wheels be
    (show off + (bodyFormat be).span (mem.drop off) ≤ mem.length by omega)
  rw [hspan, ← Nat.add_assoc] at hsplit hload
  refine ⟨body, hbody, ?_, hsplit⟩
  intro self hv ht
  rw [hload self ((hasWheels_iff_of_nil hv ht).mpr hw), overwrite_of_nil hv ht]

theorem loadFields_of_not_fits (self : Veh2CloudState2) (be : Bool) {mem : List Byte} {off : ℕ}
    (hv : self.wheelVelocity = []) (ht : self.tirePressure = []) (hoff : off ≤ mem.length)
    (hfits : ¬ Fits mem off) :
    ∃ e, (self.loadFields be).loadFrom (some mem) off = .error e := by
  apply loadFields_of_not_wheels self be hoff
  rintro ⟨hwheels, hend⟩
  have hw := (hasWheels_iff_of_nil hv ht).mp hwheels
  have hspan := span_of_no_wheels be hw
  exact hfits ⟨hw, by omega⟩

theorem fresh_restLength (storage : Veh2CloudState2) : (fresh storage).restLength = 44 := by
  simp [restLength, fresh]

/-- Whatever the second version's decoder does, it leaves the first version's fields. -/
theorem fromBytes_fresh_base {storage : Veh2CloudState2} {mem : List Byte} {be : Bool}
    {base : Veh2CloudState} {offset : ℕ} {r : Veh2CloudState2 × ℕ}
    (hbase : (Veh2CloudState.fresh storage.toVeh2CloudState).fromBytes (some mem) mem.length be =
      .ok (base, offset)) (hle : offset ≤ mem.length)
    (hr : (fresh storage).fromBytes (some mem) mem.length be = .ok r) :
    r.1.toVeh2CloudState = base := by
  rw [fromBytes_of_base (fresh storage) hbase hle] at hr
  split at hr
  · cases hr
    rfl
  · by_cases hfits : Fits mem offset
    · obtain ⟨body, -, hload, -⟩ := loadFields_of_fits be hfits
      rw [hload _ rfl rfl] at hr
      cases hr
      rfl
    · obtain ⟨e, he⟩ := loadFields_of_not_fits { fresh storage with toVeh2CloudState := base } be
        rfl rfl hle hfits
      rw [he] at hr
      cases hr

end Veh2CloudState2

end Csae295
