import Csae295.Verification.Acceptance
import Csae295.Verification.CodecFrame
import Csae295.Verification.Receiving
import Csae295.Verification.RoundTrip
import Csae295.Verification.UnpackSafety

/-! What stands behind a received chunk.

A receive thread hands `unpack` its whole buffer, with what earlier chunks have left behind the
last one. `unpack` gives the same result whatever stands there exactly when it reads the bytes of
the chunk only, and a thread all of whose calls do so runs as if every `recv` had a buffer of its
own. -/

namespace Csae295

open Library

/-! ## The decoders on a fresh object -/

/-- What a decoder reads alike in front of different bytes it reads without them. -/
def ReadsAlike {α : Type} (f : Buffer → Except Fault (α × ℕ)) (mem : List Byte) : Prop :=
  ∀ ⦃x y : Byte⦄ ⦃rest rest' : List Byte⦄ ⦃a : α⦄ ⦃n n' : ℕ⦄, x ≠ y →
    f (some (mem ++ x :: rest)) = .ok (a, n) → f (some (mem ++ y :: rest')) = .ok (a, n') →
      ∃ n, f (some mem) = .ok (a, n)

section

variable {α β : Type} {f g : Buffer → Except Fault (α × ℕ)} {mem : List Byte}

theorem readsAlike_of_ok (hf : FramedReader f) {r : α × ℕ} (h : f (some mem) = .ok r) :
    ReadsAlike f mem := by
  intro x y rest rest' a n n' hxy hx hy
  rw [hf h] at hx
  cases hx
  exact ⟨_, h⟩

theorem ReadsAlike.congr (hg : ReadsAlike g mem)
    (h : ∀ rest, f (some (mem ++ rest)) = g (some (mem ++ rest))) : ReadsAlike f mem := by
  intro x y rest rest' a n n' hxy hx hy
  rw [h] at hx hy
  have hnil := h []
  rw [List.append_nil] at hnil
  rw [hnil]
  exact hg hxy hx hy

/-- A guard that does not look at the buffer. -/
theorem ReadsAlike.guard (hf : ReadsAlike f mem) (t : Prop) [Decidable t] (r : α × ℕ) :
    ReadsAlike (fun buf => if t then .ok r else f buf) mem := by
  by_cases ht : t
  · simp only [if_pos ht]
    exact readsAlike_of_ok (framedReader_const _) rfl
  · simpa only [if_neg ht] using hf

theorem Library.Format.readsAlike (F : Format β) {f : β → α} {p : Access α} {off : ℕ}
    (hp : p = F.read >>= fun b => pure (f b))
    (hf : ∀ b b', F.Valid b → F.Valid b' → f b = f b' → b = b') (hoff : off ≤ mem.length) :
    ReadsAlike (p.loadFrom · off) mem :=
  fun _ _ _ _ _ _ _ hxy hx hy => F.loadFrom_of_same hp hf hoff hxy hx hy

end

section

variable (mem : List Byte) (be : Bool)

theorem length_le_append (rest : List Byte) : mem.length ≤ (mem ++ rest).length := by
  rw [List.length_append]
  omega

theorem MessageHeader.decode_append (h : 16 ≤ mem.length) (rest : List Byte) :
    decode be (mem ++ rest) = decode be mem := by
  have hread : fromBytes default (some (mem ++ rest)) mem.length be = _ :=
    framed_fromBytes default mem.length be (fromBytes_of_le default be h le_rfl) rest
  rw [fromBytes_of_le default be h (length_le_append mem rest)] at hread
  exact congrArg Prod.fst (Except.ok.inj hread)

theorem Veh2CloudInh.readsAlike (storage : Veh2CloudInh) :
    ReadsAlike (fun buf => (fresh storage).fromBytes buf mem.length be) mem := by
  by_cases hheader : mem.length < 16
  · exact readsAlike_of_ok (framed_fromBytes _ _ _) (fromBytes_of_lt_header _ be hheader)
  have h16 := Nat.le_of_not_lt hheader
  by_cases hguard : mem.length < 32
  · exact readsAlike_of_ok (framed_fromBytes _ _ _)
      (fromBytes_of_lt _ be h16 le_rfl (by rwa [fresh_length]))
  have hfields := bodyFormat.readsAlike
    (loadFields_eq { fresh storage with toMessageHeader := MessageHeader.decode be mem })
    (fun b b' hb hb' heq => by
      rw [← body_assign storage (MessageHeader.decode be mem) hb, heq, body_assign storage _ hb'])
    h16
  refine hfields.congr fun rest => ?_
  rw [fromBytes_of_le _ be (length_le_append mem rest)
    (by rw [fresh_length]; exact Nat.le_of_not_lt hguard), MessageHeader.decode_append mem be h16]

namespace Cloud2VehInhRes

theorem assign_injective (self : Cloud2VehInhRes) : Function.Injective self.assign := by
  rintro ⟨vehicleId, res⟩ ⟨vehicleId', res'⟩ h
  simp only [assign, mk.injEq, true_and] at h
  rw [h.1, h.2]

theorem loadFields_readsAlike (self : Cloud2VehInhRes) {off : ℕ} (hoff : off ≤ mem.length) :
    ReadsAlike (self.loadFields.loadFrom · off) mem :=
  bodyFormat.readsAlike (loadFields_eq self) (fun _ _ _ _ heq => self.assign_injective heq) hoff

theorem readsAlike (storage : Cloud2VehInhRes) :
    ReadsAlike (fun buf => (fresh storage).fromBytes buf mem.length be) mem := by
  by_cases hheader : mem.length < 16
  · have hfields := loadFields_readsAlike mem (fresh storage) (Nat.zero_le mem.length)
    refine (hfields.guard (mem.length < storage.dataLen.toNat) (fresh storage, 0)).congr
      fun rest => ?_
    exact fromBytes_of_lt_header _ be hheader
  · have h16 := Nat.le_of_not_lt hheader
    let read := { fresh storage with toMessageHeader := MessageHeader.decode be mem }
    have hfields := loadFields_readsAlike mem read h16
    refine (hfields.guard (mem.length - 16 < read.dataLen.toNat) (read, 16)).congr fun rest => ?_
    rw [fromBytes_of_le _ be h16 (length_le_append mem rest),
      MessageHeader.decode_append mem be h16]

end Cloud2VehInhRes

theorem Veh2CloudState.readsAlike (storage : Veh2CloudState) :
    ReadsAlike (fun buf => (fresh storage).fromBytes buf mem.length be) mem := by
  by_cases hheader : mem.length < 16
  · exact readsAlike_of_ok (framed_fromBytes _ _ _) (fromBytes_of_lt_header _ be hheader)
  have h16 := Nat.le_of_not_lt hheader
  by_cases hguard : mem.length < 98
  · exact readsAlike_of_ok (framed_fromBytes _ _ _)
      (fromBytes_of_lt _ be h16 le_rfl (by rwa [fresh_length]))
  have hfields := (bodyFormat be).readsAlike
    (loadFields_eq { fresh storage with toMessageHeader := MessageHeader.decode be mem } be)
    (fun b b' hb hb' heq => by
      rw [← (body_assign storage (MessageHeader.decode be mem) be hb).2, heq,
        (body_assign storage _ be hb').2])
    h16
  refine hfields.congr fun rest => ?_
  rw [fromBytes_of_le _ be (length_le_append mem rest)
    (by rw [fresh_length]; exact Nat.le_of_not_lt hguard), MessageHeader.decode_append mem be h16]

namespace Veh2CloudState2

/-- What an object without user data has read are the fields it writes. -/
theorem body_assign (self : Veh2CloudState2) (huser : self.userData = [])
    {body : Head × Wheels × Tail}
    (h : (bodyFormat be).Valid body) : (self.assign body).body = body := by
  obtain
    ⟨head, ⟨wheelNum, wheelVelocity, tirePressure⟩, lights, doors, userDataLen, userData⟩ := body
  simp only [bodyFormat, wheelsFormat, tailFormat, Format.seq_valid, Format.tagged_valid,
    Format.many_valid, Format.word_valid, Format.chars_valid, true_and] at h
  obtain ⟨-, ⟨⟨hvelocity, -⟩, hpressure, -⟩, hdata⟩ := h
  have hread := userData_of_length hdata
  simp only [assign, Veh2CloudState2.body, Veh2CloudState2.head, huser, hread,
    List.take_of_length_le hvelocity.le, List.take_of_length_le hpressure.le, List.take_left' hdata]

theorem loadFields_readsAlike {self : Veh2CloudState2} (hvelocity : self.wheelVelocity = [])
    (hpressure : self.tirePressure = []) (huser : self.userData = []) {off : ℕ}
    (hoff : off + 44 ≤ mem.length) : ReadsAlike ((self.loadFields be).loadFrom · off) mem := by
  have hcount : ∀ rest, byteAt (mem ++ rest) (off + 38) = byteAt mem (off + 38) := fun rest =>
    byteAt_append_left rest (by omega)
  have hle : ∀ rest, off ≤ (mem ++ rest).length := fun rest =>
    le_trans (by omega) (length_le_append mem rest)
  by_cases hw : byteAt mem (off + 38) = 0
  · have hfields := (bodyFormat be).readsAlike (f := self.assign) rfl
      (fun b b' hb hb' heq => by
        rw [← body_assign be self huser hb, heq, body_assign be self huser hb'])
      (show off ≤ mem.length by omega)
    refine hfields.congr fun rest => ?_
    simp only [Access.loadFrom, Option.getD_some]
    rw [loadFields_run self be hvelocity hpressure (hle rest) (by rw [hcount, hw])]
  · intro x y rest rest' a n n' hxy hx hy
    obtain ⟨e, he⟩ := loadFields_run_error self be hvelocity (hle (x :: rest)) (by rwa [hcount])
    simp only [Access.loadFrom, Option.getD_some, he] at hx
    cases hx

theorem readsAlike (storage : Veh2CloudState2) :
    ReadsAlike (fun buf => (fresh storage).fromBytes buf mem.length be) mem := by
  by_cases hbase : Veh2CloudState.Readable mem
  · obtain ⟨base, hread⟩ :=
      Veh2CloudState.fromBytes_fresh_offset storage.toVeh2CloudState mem be hbase
    generalize hoff : (if mem.length < 16 then 0
      else if mem.length < 98 then 16 else Veh2CloudState.passPosEnd mem) = off at hread
    have hle : off ≤ mem.length := by
      rw [← hoff]
      split
      · omega
      · split
        · omega
        · next hguard => exact hbase.resolve_left hguard
    have hall : ∀ rest, (fresh storage).fromBytes (some (mem ++ rest)) mem.length be = _ :=
      fun rest => fromBytes_of_base (fresh storage)
        (Veh2CloudState.framed_fromBytes _ mem.length be hread rest) hle
    rw [fresh_restLength] at hall
    by_cases hguard : mem.length - off < 44
    · simp only [if_pos hguard] at hall
      exact (readsAlike_of_ok (framedReader_const _) rfl).congr hall
    · simp only [if_neg hguard] at hall
      exact (loadFields_readsAlike mem be rfl rfl rfl (by omega)).congr hall
  · -- pass points from behind the chunk tell the objects apart, whatever the second guard does
    obtain ⟨hguard, hpast⟩ := not_or.mp hbase
    intro x y rest rest' a n n' hxy hx hy
    obtain ⟨off, hx⟩ := base_of_fromBytes hx
    obtain ⟨off', hy⟩ := base_of_fromBytes hy
    obtain ⟨off, hmem⟩ := Veh2CloudState.readsAlike mem be storage.toVeh2CloudState hxy hx hy
    have hcut := Veh2CloudState.fromBytes_fresh_of_not_fits storage.toVeh2CloudState be le_rfl
      (Nat.le_of_not_lt hguard) hpast
    cases hcut.symm.trans hmem

end Veh2CloudState2

end

/-! ## Dispatch -/

namespace Packer

variable (heap : Storage) (handler : Bool) {mem : List Byte} {n : ℕ}

/-- The result does not depend on the bytes behind the chunk. -/
def Settled (heap : Storage) (handler : Bool) (mem : List Byte) (n : ℕ) : Prop :=
  ∃ r, ∀ rest : List Byte, rest.length = n →
    unpack heap (some (mem ++ rest)) mem.length handler = .ok r

/-- Two ways through the dispatch are told apart by what is delivered. -/
theorem not_settled_of_ne {u v : Byte} {r r' : Unpacked} (hne : r ≠ r')
    (hu : unpack heap (some (mem ++ List.replicate n u)) mem.length handler = .ok r)
    (hv : unpack heap (some (mem ++ List.replicate n v)) mem.length handler = .ok r') :
    ¬ Settled heap handler mem n := by
  rintro ⟨r'', h⟩
  rw [h _ List.length_replicate] at hu hv
  cases hu
  cases hv
  exact hne rfl

variable (hpos : 0 < n)

include hpos

/-- A message of one class is settled only when its decoder has read nothing behind the chunk. -/
theorem ok_of_readsAlike {α : Type} {f : Buffer → Except Fault (α × ℕ)} {wrap : α → Message}
    (hf : ReadsAlike f mem) (hwrap : Function.Injective wrap)
    (hunpack : ∀ rest, unpack heap (some (mem ++ rest)) mem.length handler = (do
      let (msg, _) ← f (some (mem ++ rest))
      .ok (deliver handler (wrap msg))))
    (h : Settled heap handler mem n) : ∃ r, unpack heap (some mem) mem.length handler = .ok r := by
  obtain ⟨r, h⟩ := h
  obtain ⟨n, rfl⟩ := Nat.exists_eq_succ_of_ne_zero hpos.ne'
  have hread : ∀ v, ∃ a offset, f (some (mem ++ v :: List.replicate n v)) = .ok (a, offset) ∧
      deliver handler (wrap a) = r := by
    intro v
    have hv := (hunpack _).symm.trans (h (v :: List.replicate n v) (by simp))
    cases hrun : f (some (mem ++ v :: List.replicate n v)) with
    | error e =>
        rw [hrun] at hv
        cases hv
    | ok read =>
        rw [hrun] at hv
        exact ⟨read.1, read.2, rfl, Except.ok.inj hv⟩
  obtain ⟨a, offset, hzero, ha⟩ := hread 0
  obtain ⟨a', offset', hone, ha'⟩ := hread 1
  obtain rfl : a = a' := by
    have hmsg := congrArg Unpacked.msg (ha.trans ha'.symm)
    exact hwrap (Option.some.inj hmsg)
  obtain ⟨m, hmem⟩ := hf (by decide) hzero hone
  have hexact := hunpack []
  rw [List.append_nil, hmem] at hexact
  exact ⟨_, hexact⟩

/-- Where the type byte has not come, a leftover heartbeat type is delivered and others are not. -/
theorem not_settled_of_cut (hid : byteAt mem 0 = 0xF2) (hmem : 0 < mem.length)
    (hcut : mem.length ≤ 5) : ¬ Settled heap handler mem n := by
  have hsize : mem.length ≠ 0 := hmem.ne'
  have hidAll : ∀ rest, byteAt (mem ++ rest) 0 = 0xF2 := fun rest => by
    rw [byteAt_append_left rest hmem, hid]
  by_cases hshort : mem.length + n ≤ 5
  · rintro ⟨r, h⟩
    have hread := h (List.replicate n 0) List.length_replicate
    rw [unpack_of_cut heap handler hsize (by rw [List.length_append]; omega)
      (by rwa [List.length_append, List.length_replicate]) (hidAll _)] at hread
    cases hread
  have hlong : ∀ v : Byte, 6 ≤ (mem ++ List.replicate n v).length := fun v => by
    rw [List.length_append, List.length_replicate]
    omega
  have htype : ∀ v : Byte, byteAt (mem ++ List.replicate n v) 5 = v := fun v => by
    obtain ⟨i, hi⟩ := Nat.exists_eq_add_of_le hcut
    rw [hi, byteAt_append, byteAt, List.getD_eq_getElem?_getD,
      List.getElem?_replicate_of_lt (by omega), Option.getD_some]
  obtain ⟨m, hm⟩ := header_ofBuffer_ok heap.header mem
  have hbeat := unpack_header heap handler hsize (hidAll _) (hlong heartbeat)
    (.inl (htype heartbeat))
  have hread := MessageHeader.framed_ofBuffer heap.header mem.length true hm
  simp only [hread, ok_bind] at hbeat
  have hzero := unpack_other heap handler hsize (hidAll _) (hlong 0) (by rw [htype]; decide)
    (by rw [htype]; decide) (by rw [htype]; decide) (by rw [htype]; decide) (by rw [htype]; decide)
  exact not_settled_of_ne heap handler (reject_ne_deliver handler _) hzero hbeat

/-- Where the version byte has not come, a leftover first version is delivered and others are
not. -/
theorem not_settled_of_stateCut (hid : byteAt mem 0 = 0xF2) (hcut : mem.length = 6)
    (htype : byteAt mem 5 = veh2cloudState) : ¬ Settled heap handler mem n := by
  have hsize : mem.length ≠ 0 := by omega
  have hidAll : ∀ rest, byteAt (mem ++ rest) 0 = 0xF2 := fun rest => by
    rw [byteAt_append_left rest (by omega), hid]
  have htypeAll : ∀ rest, byteAt (mem ++ rest) 5 = veh2cloudState := fun rest => by
    rw [byteAt_append_left rest (by omega), htype]
  have hlong : ∀ v : Byte, 7 ≤ (mem ++ List.replicate n v).length := fun v => by
    rw [List.length_append, List.length_replicate]
    omega
  have hversion : ∀ v : Byte, byteAt (mem ++ List.replicate n v) 6 = v := fun v => by
    obtain ⟨n, rfl⟩ := Nat.exists_eq_succ_of_ne_zero hpos.ne'
    rw [← hcut]
    exact byteAt_append mem _ 0
  have hone := unpack_state heap handler hsize (hidAll _) (hlong 0x01) (htypeAll _) (hversion 0x01)
  rw [Veh2CloudState.ofBuffer, Veh2CloudState.fromBytes_of_lt_header _ true (by omega)] at hone
  have hzero := unpack_state_other heap handler hsize (hidAll _) (hlong 0) (htypeAll _)
    (by rw [hversion]; decide) (by rw [hversion]; decide)
  exact not_settled_of_ne heap handler (reject_ne_deliver handler _) hzero hone

/-- `unpack` stays inside a chunk exactly when its result does not depend on what stands behind. -/
theorem unpack_ok_iff_settled :
    (∃ r, unpack heap (some mem) mem.length handler = .ok r) ↔ Settled heap handler mem n := by
  constructor
  · rintro ⟨r, h⟩
    exact ⟨r, fun rest _ => framed_unpack heap mem.length handler h rest⟩
  intro h
  by_cases hempty : mem.length = 0
  · exact ⟨_, by rw [hempty, unpack_empty]⟩
  have hmem := Nat.pos_of_ne_zero hempty
  have hbyte : ∀ {i : ℕ} {v : Byte}, i < mem.length → byteAt mem i = v → ∀ rest,
      byteAt (mem ++ rest) i = v := fun hi hv rest => by rw [byteAt_append_left rest hi, hv]
  have hlong : ∀ {k : ℕ}, k ≤ mem.length → ∀ rest, k ≤ (mem ++ rest).length := fun hk rest =>
    hk.trans (length_le_append mem rest)
  cases route mem with
  | noMarker hid => exact ⟨_, unpack_of_no_marker heap handler hmem hid⟩
  | cut hid hcut => exact absurd h (not_settled_of_cut heap handler hpos hid hmem hcut)
  | header hid h6 htype =>
      obtain ⟨m, hm⟩ := header_ofBuffer_ok heap.header mem
      exact ⟨_, by rw [unpack_header heap handler hempty hid h6 htype, hm, ok_bind]⟩
  | inh hid h6 htype =>
      refine ok_of_readsAlike heap handler hpos (Veh2CloudInh.readsAlike mem true heap.inh)
        (fun _ _ => Message.inh.inj) (fun rest => ?_) h
      exact (unpack_inh heap handler hempty (hbyte hmem hid rest) (hlong h6 rest)
        (hbyte (by omega) htype rest)).trans (drop_offset_bind _ _)
  | inhRes hid h6 htype =>
      refine ok_of_readsAlike heap handler hpos (Cloud2VehInhRes.readsAlike mem true heap.inhRes)
        (fun _ _ => Message.inhRes.inj) (fun rest => ?_) h
      exact (unpack_inhRes heap handler hempty (hbyte hmem hid rest) (hlong h6 rest)
        (hbyte (by omega) htype rest)).trans (drop_offset_bind _ _)
  | stateCut hid h6 htype =>
      exact absurd h (not_settled_of_stateCut heap handler hpos hid h6 htype)
  | state hid h7 htype hversion =>
      refine ok_of_readsAlike heap handler hpos (Veh2CloudState.readsAlike mem true heap.state)
        (fun _ _ => Message.state.inj) (fun rest => ?_) h
      exact (unpack_state heap handler hempty (hbyte hmem hid rest) (hlong h7 rest)
        (hbyte (by omega) htype rest) (hbyte (by omega) hversion rest)).trans (drop_offset_bind _ _)
  | state2 hid h7 htype hversion =>
      refine ok_of_readsAlike heap handler hpos (Veh2CloudState2.readsAlike mem true heap.state2)
        (fun _ _ => Message.state2.inj) (fun rest => ?_) h
      exact (unpack_state2 heap handler hempty (hbyte hmem hid rest) (hlong h7 rest)
        (hbyte (by omega) htype rest) (hbyte (by omega) hversion rest)).trans (drop_offset_bind _ _)
  | stateOther hid h7 htype hone htwo =>
      exact ⟨_, unpack_state_other heap handler hempty hid h7 htype hone htwo⟩
  | other hid h6 hbeat hbeatRes hinh hinhRes hstate =>
      exact ⟨_, unpack_other heap handler hempty hid h6 hbeat hbeatRes hinh hinhRes hstate⟩

omit hpos in
/-- With the type byte missing the leftovers decide; a whole heartbeat is read whatever follows. -/
theorem unpack_ok_iff_settled_heartbeat :
    ¬ Settled default true [0xF2] 4095 ∧
    Settled default true Controller.heartbeatFrame.bytes 1 := by
  constructor
  · intro h
    obtain ⟨r, hr⟩ := (unpack_ok_iff_settled default true (by decide)).mpr h
    cases hr
  · have hread := Controller.heartbeatFrame.wellFormed.unpack (fun _ h => by cases h)
      default true []
      le_rfl (by rw [List.append_nil])
    rw [List.append_nil] at hread
    exact (unpack_ok_iff_settled default true (by decide)).mp ⟨_, hread⟩

end Packer

/-! ## Receive loop -/

/-- The receive loop as if every `recv` had a buffer of its own, as long as what it returns. -/
def recvAlone (self : Handler) : List RecvResult → Except Fault Handler
  | [] => .ok self
  | .shutdown :: _ => .ok self
  | .error errno :: results => if errno.retry then recvAlone self results else .ok self
  | .data heap chunk :: results => do
    let unpacked ← Packer.unpack heap (some chunk.bytes) chunk.bytes.length true
    let self ← Handler.onMessages unpacked.calls self
    recvAlone self results

namespace Controller

/-- A run that goes through with a buffer for every `recv` goes through in the same way in the
shared buffer, whatever that held before: the callback and the output never see what is left. -/
theorem recv_memoryless {results : List RecvResult} {self self' : Handler}
    (h : recvAlone self results = .ok self') (buf : Vector Byte 4096) :
    recvLoop self buf results = .ok self' := by
  induction results generalizing self buf with
  | nil => exact h
  | cons result results ih =>
      cases result with
      | shutdown => exact h
      | error errno =>
          rw [recvAlone] at h
          rw [recvLoop]
          split at h
          · next hretry => rw [if_pos hretry, ih h]
          · next hretry => rwa [if_neg hretry]
      | data heap chunk =>
          rw [recvAlone] at h
          cases hunpack : Packer.unpack heap (some chunk.bytes) chunk.bytes.length true with
          | error e =>
              rw [hunpack] at h
              cases h
          | ok unpacked =>
              rw [hunpack, ok_bind] at h
              have hshared := Packer.framed_unpack heap chunk.bytes.length true hunpack
                (buf.toList.drop chunk.bytes.length)
              rw [recvLoop, Chunk.into_toList]
              simp only [hshared, ok_bind]
              cases hmsgs : Handler.onMessages unpacked.calls self with
              | error e =>
                  rw [hmsgs] at h
                  cases h
              | ok next =>
                  rw [hmsgs, ok_bind] at h
                  exact ih h _

/-- A frame in a buffer of its own makes one call of the callback. -/
theorem recvAlone_frame {frame : Frame} {chunk : Chunk} (hchunk : chunk.bytes = frame.bytes)
    (hdeliverable : frame.msg.Deliverable) (heap : Storage) {self : Handler}
    (hcallback : self.callback) (results : List RecvResult) :
    ∃ os, recvAlone self (.data heap chunk :: results) =
      recvAlone { self with os, calls := self.calls ++ [frame.msg] } results := by
  obtain ⟨os, hprint⟩ := frame.wellFormed.print_ok hdeliverable (self.os ++ utf8 "\n")
  have hunpack := frame.wellFormed.unpack hdeliverable.version heap true [] le_rfl
    (by rw [List.append_nil])
  rw [List.append_nil, ← hchunk] at hunpack
  have hhandle := Handler.handle_of_print hprint frame.msg
  rw [← Handler.onMessage_of_version hdeliverable.version, if_pos hcallback] at hhandle
  refine ⟨os, ?_⟩
  rw [recvAlone]
  simp only [hunpack, ok_bind, Packer.deliver, if_true, Handler.onMessages, hhandle]

/-- An INH of 39 bytes, of which a heartbeat of 16 leaves the strings behind. -/
theorem recv_memoryless_shorter : ∃ (inh heartbeat : Chunk) (self' : Handler),
    inh.bytes = inhFrame.bytes ∧ heartbeat.bytes = heartbeatFrame.bytes ∧
      self'.calls = [inhFrame.msg, heartbeatFrame.msg] ∧ ∀ buf,
        recvLoop { callback := true, os := [], calls := [] } buf
          [.data default inh, .data default heartbeat] = .ok self' := by
  have hinh : inhFrame.bytes.length = 39 := by decide +kernel
  have hheartbeat : heartbeatFrame.bytes.length = 16 := MessageHeader.enc_length _ _
  let inh : Chunk := { bytes := inhFrame.bytes, pos := by omega, le := by omega }
  let heartbeat : Chunk := { bytes := heartbeatFrame.bytes, pos := by omega, le := by omega }
  let start : Handler := { callback := true, os := [], calls := [] }
  have hinhBytes : inh.bytes = inhFrame.bytes := rfl
  have hheartbeatBytes : heartbeat.bytes = heartbeatFrame.bytes := rfl
  obtain ⟨os, hfirst⟩ := recvAlone_frame hinhBytes inhFrame_deliverable default
    (show start.callback from rfl) [.data default heartbeat]
  let next : Handler := { start with os, calls := [inhFrame.msg] }
  obtain ⟨os', hsecond⟩ := recvAlone_frame hheartbeatBytes trivial default
    (show next.callback from rfl) []
  exact ⟨inh, heartbeat, _, rfl, rfl, rfl, recv_memoryless (hfirst.trans hsecond)⟩

end Controller

end Csae295
