import Csae295.Library.Codec
import Csae295.Verification.Encode

/-! The codec of the answer to the vehicle information.

The encoder keeps the byte order from the header and the decoder passes it on, and the one
guard both have compares with the data length that the object holds, so neither notices a
null pointer or a header that has been cut off. -/

namespace Csae295

open Library

namespace Cloud2VehInhRes

/-- Encoding the message and decoding into a fresh object both stay inside the buffer. -/
def Contained (m storage : Cloud2VehInhRes) (be : Bool) (buf : Buffer) (size : ℕ) : Prop :=
  (∃ out, m.toBytes buf size be = .ok out) ∧
    ∃ out, (fresh storage).fromBytes buf size be = .ok out

theorem new_dataLen (bytes : Vector Byte 8) (version : Byte) (timestamp : Word 8) (ctrl : Byte)
    (vehicleId : List Byte) (res : Byte) :
    (new bytes version timestamp ctrl vehicleId res).dataLen.toNat = 9 := rfl

/-! ## Round trip -/

/-- Behind its header the response's frame is read whatever follows it. -/
theorem fromBytes_wireBytes (self storage : Cloud2VehInhRes)
    (hdata : self.dataLen.toNat = 9) (rest : List Byte) {size : ℕ} (hle : 25 ≤ size)
    (hsize : size ≤ (self.wireBytes ++ rest).length) :
    (fresh storage).fromBytes (some (self.wireBytes ++ rest)) size true = .ok (self, 25) := by
  have hheader : MessageHeader.decode true (self.wireBytes ++ rest) = self.toMessageHeader := by
    rw [wireBytes, List.append_assoc, MessageHeader.decode_enc]
  have hload := bodyFormat.loadFrom_enc
    (loadFields_eq { fresh storage with toMessageHeader := self.toMessageHeader })
    (a := self.body) ⟨trivial, trivial⟩
    ((MessageHeader.format true).enc self.toMessageHeader) rest
  rw [MessageHeader.enc_length, ← List.append_assoc, ← wireBytes] at hload
  rw [fromBytes_of_le _ true (by omega) hsize, hheader, if_neg (by omega), hload]
  simp [bodyFormat, body, assign]

section

variable {m : Cloud2VehInhRes} (hdata : m.dataLen.toNat = 9) (storage : Cloud2VehInhRes)

include hdata

theorem roundTrips : RoundTrips m.toBytes (fresh storage).fromBytes true m 25 := by
  refine roundTrips_of_written m.wireBytes m.wireBytes_length
    (fun mem hmem => m.toBytes_of_le true (by omega) hmem) ?_
  exact fun rest => m.fromBytes_wireBytes storage hdata rest
    (by rw [List.length_append, wireBytes_length]; omega) le_rfl

/-- The data length goes out in network order. -/
theorem decode_wireBytes_dataLen :
    (MessageHeader.decode false m.wireBytes).dataLen.toNat = 9 * 2 ^ 24 := by
  have hword : m.dataLen = 9 := BitVec.eq_of_toNat_eq hdata
  have hbytes : (m.wireBytes.drop 1).take 4 = [0, 0, 0, 9] := by
    simp only [wireBytes, MessageHeader.format, Format.imap, Format.seq_enc, Format.byte_enc,
      Format.word_enc, hword, List.append_assoc]
    rfl
  rw [MessageHeader.decode, hbytes]
  rfl

/-- Read in the order of the host it is another one. -/
theorem not_roundTrips : ¬ RoundTrips m.toBytes (fresh storage).fromBytes false m 25 := by
  intro hround
  have hto := m.toBytes_of_le false
    (show 16 + m.dataLen.toNat ≤ (List.replicate 25 (0 : Byte)).length by simp [hdata]) (by simp)
  have hread := hround.decodes (by simp) hto []
  have hwire := decode_wireBytes_dataLen hdata
  rw [List.append_nil, fromBytes_of_le _ false (by rw [wireBytes_length]; omega) le_rfl, hwire,
    wireBytes_length, if_pos (by omega)] at hread
  have hoffset : 16 = 25 := congrArg Prod.snd (Except.ok.inj hread)
  omega

end

/-! ## Null pointers and short buffers -/

theorem fromBytes_null (self : Cloud2VehInhRes) (size : ℕ) (be : Bool) :
    self.fromBytes none size be =
      if size < self.dataLen.toNat then .ok (self, 0) else self.loadFields.loadFrom none 0 := by
  simp [fromBytes, MessageHeader.fromBytes, remaining_of_le]

theorem toBytes_null (self : Cloud2VehInhRes) (size : ℕ) (be : Bool) :
    self.toBytes none size be =
      if size < self.dataLen.toNat then .ok (none, 0) else self.storeFields.storeTo none 0 := by
  simp [toBytes, MessageHeader.toBytes, remaining_of_le]

/-- Without a pointer only the data length can stop the two. -/
theorem contained_null_iff {m : Cloud2VehInhRes} (hdata : m.dataLen.toNat = 9)
    (storage : Cloud2VehInhRes) (be : Bool) (size : ℕ) :
    Contained m storage be none size ↔ size < 9 ∧ size < storage.dataLen.toNat := by
  have hstore : m.storeFields.storeTo none 0 = .error .write := by
    have herr := store_of_lt (show 0 ≤ ([] : List Byte).length from le_rfl)
      (show ([] : List Byte).length < 0 + (bodyFormat.enc m.body).length by simp [bodyFormat, body])
    rw [storeFields_eq, Access.storeTo, Option.getD_none, herr]
  have hload : (fresh storage).loadFields.loadFrom none 0 = .error .read :=
    loadFields_of_lt (fresh storage) (show 0 ≤ ([] : List Byte).length from le_rfl) (by decide)
  have hfresh : (fresh storage).dataLen = storage.dataLen := rfl
  unfold Contained
  rw [toBytes_null, fromBytes_null, hdata, hstore, hload, hfresh]
  by_cases hto : size < 9 <;> by_cases hfrom : size < storage.dataLen.toNat <;> simp [hto, hfrom]

theorem toBytes_of_lt_header (self : Cloud2VehInhRes) {mem : List Byte} (be : Bool)
    (h : mem.length < 16) :
    self.toBytes (some mem) mem.length be =
      if mem.length < self.dataLen.toNat then .ok (some mem, 0)
      else self.storeFields.storeTo (some mem) 0 := by
  simp [toBytes, MessageHeader.toBytes, MessageHeader.length, MessageHeader.sizeof, h,
    remaining_of_le]

/-- The encoder of a message that announces its nine body bytes stays inside every buffer. -/
theorem toBytes_ok {m : Cloud2VehInhRes} (hdata : m.dataLen.toNat = 9) (be : Bool)
    (mem : List Byte) : ∃ out, m.toBytes (some mem) mem.length be = .ok out := by
  by_cases hheader : mem.length < 16
  · rw [toBytes_of_lt_header m be hheader, hdata]
    by_cases hguard : mem.length < 9
    · exact ⟨_, if_pos hguard⟩
    · have hlen : (bodyFormat.enc m.body).length = 9 := by simp [bodyFormat, body]
      rw [if_neg hguard, storeFields_eq, Access.storeTo, Option.getD_some,
        store_of_le (by omega)]
      exact ⟨_, rfl⟩
  by_cases hbody : mem.length < 25
  · have hguard : mem.length - 16 < m.dataLen.toNat := by omega
    simp [toBytes, MessageHeader.toBytes_of_le _ true (Nat.le_of_not_lt hheader), written,
      remaining_of_le (Nat.le_of_not_lt hheader), hguard]
  · exact ⟨_, m.toBytes_of_le be (by omega) (Nat.le_of_not_lt hbody)⟩

/-- The decoder leaves a buffer that holds no body when the data length does not stop it. -/
theorem contained_iff {m : Cloud2VehInhRes} (hdata : m.dataLen.toNat = 9)
    (storage : Cloud2VehInhRes) (be : Bool) (mem : List Byte) :
    Contained m storage be (some mem) mem.length ↔
      if mem.length < 16 then mem.length < storage.dataLen.toNat ∨ 9 ≤ mem.length
      else mem.length - 16 < (MessageHeader.decode be mem).dataLen.toNat ∨ 25 ≤ mem.length := by
  simp only [Contained, toBytes_ok hdata be mem, true_and]
  by_cases hheader : mem.length < 16
  · have hfresh : (fresh storage).dataLen = storage.dataLen := rfl
    rw [fromBytes_of_lt_header _ be hheader, if_pos hheader, hfresh]
    by_cases hguard : mem.length < storage.dataLen.toNat
    · simp [hguard]
    by_cases hbody : 9 ≤ mem.length
    · obtain ⟨body, hload, -⟩ := loadFields_of_le (show 0 + 9 ≤ mem.length by omega)
      simp [hguard, hbody, hload]
    · simp [hguard, hbody, loadFields_of_lt _ (Nat.zero_le _) (show mem.length < 0 + 9 by omega)]
  · have h : 16 ≤ mem.length := Nat.le_of_not_lt hheader
    rw [fromBytes_of_le _ be h le_rfl, if_neg hheader]
    by_cases hguard : mem.length - 16 < (MessageHeader.decode be mem).dataLen.toNat
    · simp [hguard]
    by_cases hbody : 25 ≤ mem.length
    · obtain ⟨body, hload, -⟩ := loadFields_of_le (show 16 + 9 ≤ mem.length by omega)
      simp [hguard, hbody, hload]
    · simp [hguard, hbody, loadFields_of_lt _ h (Nat.lt_of_not_ge hbody)]

/-- A constructed message comes back in network order only, and the two calls stay inside the
buffer as long as a data length keeps them from a body that is not there. -/
theorem codec_byteOrder_iff (bytes : Vector Byte 8) (version : Byte) (timestamp : Word 8) (ctrl : Byte)
    (vehicleId : List Byte) (res : Byte) (storage : Cloud2VehInhRes) (be : Bool) :
    let m := new bytes version timestamp ctrl vehicleId res
    (RoundTrips m.toBytes (fresh storage).fromBytes be m 25 ↔ be = true) ∧
      (∀ size, Contained m storage be none size ↔ size < 9 ∧ size < storage.dataLen.toNat) ∧
      ∀ mem : List Byte, Contained m storage be (some mem) mem.length ↔
        if mem.length < 16 then mem.length < storage.dataLen.toNat ∨ 9 ≤ mem.length
        else mem.length - 16 < (MessageHeader.decode be mem).dataLen.toNat ∨
          25 ≤ mem.length := by
  intro m
  have hdata : m.dataLen.toNat = 9 := new_dataLen bytes version timestamp ctrl vehicleId res
  refine ⟨?_, contained_null_iff hdata storage be, contained_iff hdata storage be⟩
  cases be with
  | true => simp only [roundTrips hdata storage]
  | false => simp only [not_roundTrips hdata storage, Bool.false_eq_true]

/-- In the order of the host the data length comes back as another number. -/
theorem codec_loses_byte_order :
    ¬ ∀ (bytes : Vector Byte 8) (version : Byte) (timestamp : Word 8) (ctrl : Byte)
      (vehicleId : List Byte) (res : Byte) (storage : Cloud2VehInhRes) (be : Bool),
      let m := new bytes version timestamp ctrl vehicleId res
      RoundTrips m.toBytes (fresh storage).fromBytes be m 25 ∧
        (∀ size, Contained m storage be none size) ∧
        ∀ mem : List Byte, Contained m storage be (some mem) mem.length := by
  intro hall
  have hround := (hall (Vector.replicate 8 0) 1 0 0 [] 1 default false).1
  exact not_roundTrips (new_dataLen (Vector.replicate 8 0) 1 0 0 [] 1) default hround

end Cloud2VehInhRes

end Csae295
