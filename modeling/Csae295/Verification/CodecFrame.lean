import Csae295.Library.FrameRule
import Csae295.Verification.InhCodec
import Csae295.Verification.StateCodec

/-! The frame rule of the codecs.

A decoder or an encoder that returns on a buffer has used nothing behind it: on every longer buffer
it returns the same, and what it has written stands in front of bytes that are as they were. -/

namespace Csae295

open Library
open Access

theorem framed_loadUserData (old : List Byte) (len : Byte) : (loadUserData old len).Framed :=
  (framed_load _).ite (framed_pure _)

theorem framed_storeUserData (s : List Byte) (len : Byte) : (storeUserData s len).Framed :=
  ((framed_charsOf _ _).bind fun _ => framed_store _).ite (framed_pure _)

/-! ## Message header -/

namespace MessageHeader

theorem framed_loadFields (be : Bool) : (loadFields be).Framed := by
  refine Framed.bind framed_loadByte fun _ => (framed_loadWord 4 be).bind fun _ => ?_
  iterate 2 refine Framed.bind framed_loadByte fun _ => ?_
  refine (framed_loadWord 8 be).bind fun _ => Framed.bind framed_loadByte fun _ => ?_
  exact framed_pure _

theorem framed_fromBytes (self : MessageHeader) (size : ℕ) (be : Bool) :
    FramedReader fun buf => self.fromBytes buf size be :=
  (framedReader_const _).guard ((framedReader_const _).ite ((framed_loadFields be).loadFrom 0))
    fun _ _ => Iff.rfl

theorem framed_ofBuffer (storage : MessageHeader) (size : ℕ) (be : Bool) :
    FramedReader fun buf => ofBuffer storage buf size be :=
  (framed_fromBytes _ size be).bind fun _ => framedReader_const _

theorem framed_storeFields (self : MessageHeader) (be : Bool) : (self.storeFields be).Framed := by
  refine (framed_store _).bind fun _ => (framed_storeWord _ _).bind fun _ => ?_
  iterate 2 refine (framed_store _).bind fun _ => ?_
  exact (framed_storeWord _ _).bind fun _ => framed_store _

theorem framed_toBytes (self : MessageHeader) (size : ℕ) (be : Bool) :
    FramedWriter fun buf => self.toBytes buf size be :=
  (framedWriter_keep 0).guard ((framedWriter_keep 0).ite ((self.framed_storeFields be).storeTo 0))
    fun _ _ => Iff.rfl

end MessageHeader

/-! ## Vehicle information -/

namespace Veh2CloudInh

theorem framed_loadVersion (old : List Byte) (len : Byte) : (loadVersion old len).Framed :=
  (framed_load _).ite (framed_pure _)

theorem framed_loadFields (self : Veh2CloudInh) : self.loadFields.Framed := by
  refine (framed_loadArray 8).bind fun _ => ?_
  iterate 3 refine Framed.bind framed_loadByte fun _ => (framed_loadVersion _ _).bind fun _ => ?_
  iterate 5 refine Framed.bind framed_loadByte fun _ => ?_
  exact (framed_loadUserData _ _).bind fun _ => framed_pure _

theorem framed_fromBytes (self : Veh2CloudInh) (size : ℕ) (be : Bool) :
    FramedReader fun buf => self.fromBytes buf size be := by
  refine (framedReader_const _).guard ?_ fun _ _ => Iff.rfl
  refine (self.toMessageHeader.framed_fromBytes size be).bind fun r => ?_
  exact (framedReader_const _).ite ((framed_loadFields _).loadFrom _)

theorem framed_ofBuffer (storage : Veh2CloudInh) (size : ℕ) (be : Bool) :
    FramedReader fun buf => ofBuffer storage buf size be :=
  (framed_fromBytes _ size be).bind fun _ => framedReader_const _

theorem framed_storeVersion (s : List Byte) (len : Byte) : (storeVersion s len).Framed :=
  ((framed_charsOf _ _).bind fun _ => framed_store _).ite (framed_pure _)

theorem framed_storeFields (self : Veh2CloudInh) : self.storeFields.Framed := by
  refine (framed_store _).bind fun _ => ?_
  iterate 3 refine (framed_store _).bind fun _ => (framed_storeVersion _ _).bind fun _ => ?_
  iterate 5 refine (framed_store _).bind fun _ => ?_
  exact framed_storeUserData _ _

theorem framed_toBytes (self : Veh2CloudInh) (size : ℕ) (be : Bool) :
    FramedWriter fun buf => self.toBytes buf size be := by
  refine (framedWriter_keep 0).guard ?_ fun _ _ => Iff.rfl
  refine (self.toMessageHeader.framed_toBytes size be).bind fun n => ?_
  exact (framedWriter_keep n).ite (self.framed_storeFields.storeTo n)

end Veh2CloudInh

namespace Cloud2VehInhRes

theorem framed_loadFields (self : Cloud2VehInhRes) : self.loadFields.Framed :=
  (framed_loadArray 8).bind fun _ => Framed.bind framed_loadByte fun _ => framed_pure _

theorem framed_fromBytes (self : Cloud2VehInhRes) (size : ℕ) (be : Bool) :
    FramedReader fun buf => self.fromBytes buf size be := by
  refine (self.toMessageHeader.framed_fromBytes size be).bind fun r => ?_
  exact (framedReader_const _).ite ((framed_loadFields _).loadFrom _)

theorem framed_ofBuffer (storage : Cloud2VehInhRes) (size : ℕ) (be : Bool) :
    FramedReader fun buf => ofBuffer storage buf size be :=
  (framed_fromBytes _ size be).bind fun _ => framedReader_const _

theorem framed_storeFields (self : Cloud2VehInhRes) : self.storeFields.Framed :=
  (framed_store _).bind fun _ => framed_store _

theorem framed_toBytes (self : Cloud2VehInhRes) (size : ℕ) (be : Bool) :
    FramedWriter fun buf => self.toBytes buf size be := by
  refine (self.toMessageHeader.framed_toBytes size true).bind fun n => ?_
  exact (framedWriter_keep n).ite (self.framed_storeFields.storeTo n)

end Cloud2VehInhRes

/-! ## Vehicle state -/

namespace Veh2CloudState

theorem framed_loadPassPos (be : Bool) (n : ℕ) (passPos : List Position2D) :
    (loadPassPos be n passPos).Framed := by
  induction n generalizing passPos with
  | zero => exact framed_pure _
  | succ n ih =>
      exact (framed_loadWord 4 be).bind fun _ => (framed_loadWord 4 be).bind fun _ => ih _

theorem framed_loadFields (self : Veh2CloudState) (be : Bool) : (self.loadFields be).Framed := by
  iterate 2 refine (framed_loadArray 8).bind fun _ => ?_
  iterate 6 refine (framed_loadWord _ be).bind fun _ => ?_
  refine Framed.bind framed_loadByte fun _ => ?_
  iterate 9 refine (framed_loadWord _ be).bind fun _ => ?_
  refine Framed.bind framed_loadByte fun _ => ?_
  iterate 3 refine (framed_loadWord _ be).bind fun _ => ?_
  refine Framed.bind framed_loadByte fun _ => ?_
  iterate 2 refine (framed_loadWord _ be).bind fun _ => ?_
  refine Framed.bind framed_loadByte fun _ => (framed_loadPassPos be _ _).bind fun _ => ?_
  exact framed_pure _

theorem framed_fromBytes (self : Veh2CloudState) (size : ℕ) (be : Bool) :
    FramedReader fun buf => self.fromBytes buf size be := by
  refine (framedReader_const _).guard ?_ fun _ _ => Iff.rfl
  refine (self.toMessageHeader.framed_fromBytes size be).bind fun r => ?_
  exact (framedReader_const _).ite ((framed_loadFields _ be).loadFrom _)

theorem framed_ofBuffer (storage : Veh2CloudState) (size : ℕ) (be : Bool) :
    FramedReader fun buf => ofBuffer storage buf size be :=
  (framed_fromBytes _ size be).bind fun _ => framedReader_const _

theorem framed_storePassPos (be : Bool) (passPos : List Position2D) (i n : ℕ) :
    (storePassPos be passPos i n).Framed := by
  induction n generalizing i with
  | zero => exact framed_pure ()
  | succ n ih =>
      refine (framed_elementAt _ _).bind fun _ => ?_
      exact (framed_storeWord be _).bind fun _ => (framed_storeWord be _).bind fun _ => ih (i + 1)

theorem framed_storeFields (self : Veh2CloudState) (be : Bool) : (self.storeFields be).Framed := by
  iterate 26 refine (framed_store _).bind fun _ => ?_
  exact framed_storePassPos be _ _ _

theorem framed_toBytes (self : Veh2CloudState) (size : ℕ) (be : Bool) :
    FramedWriter fun buf => self.toBytes buf size be := by
  refine (framedWriter_keep 0).guard ?_ fun _ _ => Iff.rfl
  refine (self.toMessageHeader.framed_toBytes size be).bind fun n => ?_
  exact (framedWriter_keep n).ite ((self.framed_storeFields be).storeTo n)

end Veh2CloudState

namespace Veh2CloudState2

theorem framed_loadElements (be : Bool) (i n : ℕ) (elements : List (Word 2)) :
    (loadElements be i n elements).Framed := by
  induction n generalizing i elements with
  | zero => exact framed_pure _
  | succ n ih =>
      exact (framed_loadWord 2 be).bind fun _ => (framed_assignAt _ _ _).bind fun _ => ih (i + 1) _

theorem framed_loadFields (self : Veh2CloudState2) (be : Bool) : (self.loadFields be).Framed := by
  iterate 10 refine Framed.bind framed_loadByte fun _ => ?_
  iterate 3 refine (framed_loadWord _ be).bind fun _ => ?_
  refine Framed.bind framed_loadByte fun _ => ?_
  iterate 4 refine (framed_loadWord _ be).bind fun _ => ?_
  iterate 2 refine Framed.bind framed_loadByte fun _ => ?_
  iterate 2 refine (framed_loadWord _ be).bind fun _ => ?_
  iterate 2 refine Framed.bind framed_loadByte fun _ => ?_
  iterate 2 refine (framed_loadElements be _ _ _).bind fun _ => ?_
  iterate 2 refine (framed_loadWord _ be).bind fun _ => ?_
  exact Framed.bind framed_loadByte fun _ => (framed_loadUserData _ _).bind fun _ => framed_pure _

theorem framed_fromBytes (self : Veh2CloudState2) (size : ℕ) (be : Bool) :
    FramedReader fun buf => self.fromBytes buf size be := by
  refine (framedReader_const _).guard ?_ fun _ _ => Iff.rfl
  refine (self.toVeh2CloudState.framed_fromBytes size be).bind fun r => ?_
  exact (framedReader_const _).ite ((framed_loadFields _ be).loadFrom _)

theorem framed_ofBuffer (storage : Veh2CloudState2) (size : ℕ) (be : Bool) :
    FramedReader fun buf => ofBuffer storage buf size be :=
  (framed_fromBytes _ size be).bind fun _ => framedReader_const _

theorem framed_storeElements (be : Bool) (elements : List (Word 2)) (i n : ℕ) :
    (storeElements be elements i n).Framed := by
  induction n generalizing i with
  | zero => exact framed_pure ()
  | succ n ih =>
      exact (framed_elementAt _ _).bind fun _ => (framed_storeWord be _).bind fun _ => ih (i + 1)

theorem framed_storeFields (self : Veh2CloudState2) (be : Bool) : (self.storeFields be).Framed := by
  iterate 24 refine (framed_store _).bind fun _ => ?_
  iterate 2 refine (framed_storeElements be _ _ _).bind fun _ => ?_
  iterate 3 refine (framed_store _).bind fun _ => ?_
  exact framed_storeUserData _ _

theorem framed_toBytes (self : Veh2CloudState2) (size : ℕ) (be : Bool) :
    FramedWriter fun buf => self.toBytes buf size be := by
  refine (framedWriter_keep 0).guard ?_ fun _ _ => Iff.rfl
  refine (self.toVeh2CloudState.framed_toBytes size be).bind fun n => ?_
  exact (framedWriter_keep n).ite ((self.framed_storeFields be).storeTo n)

end Veh2CloudState2

/-! ## Messages of all classes -/

namespace Message

/-- `from_bytes` of the message's class. -/
def fromBytes (self : Message) (buf : Buffer) (size : ℕ) (be : Bool) : Except Fault (Message × ℕ) :=
  match self with
  | .header m => (m.fromBytes buf size be).map fun r => (.header r.1, r.2)
  | .inh m => (m.fromBytes buf size be).map fun r => (.inh r.1, r.2)
  | .inhRes m => (m.fromBytes buf size be).map fun r => (.inhRes r.1, r.2)
  | .state m => (m.fromBytes buf size be).map fun r => (.state r.1, r.2)
  | .state2 m => (m.fromBytes buf size be).map fun r => (.state2 r.1, r.2)

theorem framed_fromBytes (self : Message) (size : ℕ) (be : Bool) :
    FramedReader fun buf => self.fromBytes buf size be := by
  cases self with
  | header m => exact (m.framed_fromBytes size be).map _
  | inh m => exact (m.framed_fromBytes size be).map _
  | inhRes m => exact (m.framed_fromBytes size be).map _
  | state m => exact (m.framed_fromBytes size be).map _
  | state2 m => exact (m.framed_fromBytes size be).map _

theorem framed_toBytes (self : Message) (size : ℕ) (be : Bool) :
    FramedWriter fun buf => self.toBytes buf size be := by
  cases self with
  | header m => exact m.framed_toBytes size be
  | inh m => exact m.framed_toBytes size be
  | inhRes m => exact m.framed_toBytes size be
  | state m => exact m.framed_toBytes size be
  | state2 m => exact m.framed_toBytes size be

/-- A codec call that returns in a region returns the same in every longer one, and changes
nothing behind it. -/
theorem codec_framed (self : Message) (mem rest : List Byte) (size : ℕ) (be : Bool) :
    (∀ r, self.fromBytes (some mem) size be = .ok r →
      self.fromBytes (some (mem ++ rest)) size be = .ok r) ∧
    ∀ buf n, self.toBytes (some mem) size be = .ok (buf, n) → ∃ mem', buf = some mem' ∧
      mem'.length = mem.length ∧
        self.toBytes (some (mem ++ rest)) size be = .ok (some (mem' ++ rest), n) := by
  refine ⟨fun r h => self.framed_fromBytes size be h rest, fun buf n h => ?_⟩
  obtain ⟨mem', hbuf, hlen, hframe⟩ := self.framed_toBytes size be h
  exact ⟨mem', hbuf, hlen, hframe rest⟩

/-- An INH that is read and written in a region with two bytes behind it, and a second version state
that is read there although its pass points end behind the announced size. -/
theorem codec_framed_filled :
    let inh := Veh2CloudInh.new 1 5 6 [0x56, 0x31] [0x61, 0x62] [0x61, 0x62] [0x61] 1 2 3 4 [0x78]
    let state2 := Veh2CloudState2.new 2 5 6 [0x56] [1, 2, 3] 4 500 ⟨116, 40, 50⟩ 90 1 1 600 7 8 9 10
      11 1200 13 1 14 15 16 2 ⟨117, 41⟩ [⟨118, 42⟩, ⟨119, 43⟩] 1 0 1 0 1 0 1 0 1 0 20000 21 22 23 24
      25 26 27 1 2 28 29 1 [] [] 30 31 [0x78, 0x79]
    let frame := inh.frameBytes true
    (Message.inh default).fromBytes (some (frame ++ [1, 2])) frame.length true =
        .ok (.inh inh, frame.length) ∧
      (∃ mem', (Message.inh inh).toBytes (some (List.replicate frame.length 0 ++ [1, 2]))
        frame.length true = .ok (some (mem' ++ [1, 2]), frame.length)) ∧
      (Message.state2 default).fromBytes (some (state2.wireBytes true ++ [1, 2])) 100 true =
        .ok (.state2 state2, 160) := by
  intro inh state2 frame
  obtain ⟨hread, -⟩ := codec_framed (.inh default) frame [1, 2] frame.length true
  obtain ⟨-, hwrite⟩ :=
    codec_framed (.inh inh) (List.replicate frame.length 0) [1, 2] frame.length true
  obtain ⟨hreadPast, -⟩ := codec_framed (.state2 default) (state2.wireBytes true) [1, 2] 100 true
  have hwritten : (Message.inh inh).toBytes (some (List.replicate frame.length 0)) frame.length
      true = .ok (some frame, frame.length) := by decide +kernel
  obtain ⟨mem', -, -, hto⟩ := hwrite _ _ hwritten
  exact ⟨hread _ (by decide +kernel), ⟨mem', hto⟩, hreadPast _ (by decide +kernel)⟩

end Message

theorem Packer.framed_unpack (storage : Storage) (size : ℕ) (handler : Bool) :
    FramedReader fun buf => unpack storage buf size handler := by
  have hbyte : ∀ off, FramedReader fun buf => loadByte.loadFrom buf off :=
    Framed.loadFrom framed_loadByte
  have hreject : FramedReader fun _ : Buffer => Except.ok reject := framedReader_const _
  have hdeliver : ∀ {α : Type} {f : Buffer → Except Fault α}, FramedReader f →
      ∀ wrap : α → Message, FramedReader fun buf => f buf >>= fun msg =>
        pure (deliver handler (wrap msg)) := fun hf _ => hf.bind fun _ => framedReader_const _
  unfold unpack
  refine hreject.guard ((hbyte 0).bind fun r => ?_) fun _ _ => Iff.rfl
  refine hreject.ite ((hbyte 5).bind fun r => ?_)
  have hheader := hdeliver (MessageHeader.framed_ofBuffer storage.header size true) .header
  refine hheader.ite (hheader.ite ?_)
  refine (hdeliver (Veh2CloudInh.framed_ofBuffer storage.inh size true) .inh).ite ?_
  refine (hdeliver (Cloud2VehInhRes.framed_ofBuffer storage.inhRes size true) .inhRes).ite ?_
  refine FramedReader.ite ((hbyte 6).bind fun r => ?_) hreject
  refine (hdeliver (Veh2CloudState.framed_ofBuffer storage.state size true) .state).ite ?_
  exact (hdeliver (Veh2CloudState2.framed_ofBuffer storage.state2 size true) .state2).ite hreject

end Csae295
