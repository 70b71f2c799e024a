import Csae295.Verification.Independence
import Csae295.Verification.Pack
import Csae295.Verification.StateCodec

/-! Whether the count bytes of an object agree with its strings and lists.

A constructor sets the counts modulo 256 and the length of an overlong string to zero. A decode
takes the counts from the wire, but appends to the pass points, assigns into the wheels and
leaves a string that is not announced: it fits the contents to the counts only where the object
held nothing that stays behind. -/

namespace Csae295

open Library

/-- What a buffer constructor builds is what its decoder makes of the new object. -/
theorem ok_of_constructor {α : Type} {x : Except Fault (α × ℕ)} {a : α}
    (h : (do let (self, _) ← x; pure self) = Except.ok a) : ∃ offset, x = .ok (a, offset) := by
  cases x with
  | error e => cases h
  | ok r =>
      cases h
      exact ⟨r.2, rfl⟩

theorem ite_iff_or {A K C : Prop} [Decidable A] (hK : K) : (if A then K else C) ↔ A ∨ C := by
  split
  · next hA => exact iff_of_true hK (.inl hA)
  · next hA => exact (or_iff_right hA).symm

theorem ite_iff_imp {A K C : Prop} [Decidable A] (hC : C) : (if A then K else C) ↔ (A → K) := by
  split
  · next hA => exact (imp_iff_right hA).symm
  · next hA => exact iff_of_true hC fun h => absurd h hA

/-! ## Vehicle information -/

namespace Veh2CloudInh

/-- The length byte of a version string, which is 0 or 0xFF where there is none. -/
def VersionCounted (len : Byte) (s : List Byte) : Prop :=
  if announced len then len.toNat = s.length else s = []

structure Counted (m : Veh2CloudInh) : Prop where
  swVer : VersionCounted m.swVerLen m.swVer
  hwVer : VersionCounted m.hwVerLen m.hwVer
  adVer : VersionCounted m.adVerLen m.adVer
  userData : m.userDataLen.toNat = m.userData.length

/-- The guard lets the call through to the fields behind the header. -/
def Accepts (m : Veh2CloudInh) (call : Call) : Prop := call.buf.isSome ∧ m.length ≤ call.size

instance (m : Veh2CloudInh) (call : Call) : Decidable (m.Accepts call) :=
  inferInstanceAs (Decidable (_ ∧ _))

/-- The object holds nothing in the strings that the fields on the wire do not announce. -/
def EmptyUnannounced (m : Veh2CloudInh) : Body → Prop
  | (_, (swVerLen, _), (hwVerLen, _), (adVerLen, _), _, _, _, _, userDataLen, _) =>
    (announced swVerLen = false → m.swVer = []) ∧ (announced hwVerLen = false → m.hwVer = []) ∧
      (announced adVerLen = false → m.adVer = []) ∧ (userDataLen = 0 → m.userData = [])

instance (m : Veh2CloudInh) (body : Body) : Decidable (m.EmptyUnannounced body) :=
  match body with
  | (_, (_, _), (_, _), (_, _), _, _, _, _, _, _) => inferInstanceAs (Decidable (_ ∧ _ ∧ _ ∧ _))

/-- Where the call is let through, nothing stays behind. -/
def Keeps (m : Veh2CloudInh) (call : Call) : Prop :=
  ∀ mem ∈ call.buf, m.length ≤ call.size → m.EmptyUnannounced (bodyFormat.valueAt mem 16)

instance (m : Veh2CloudInh) (call : Call) : Decidable (m.Keeps call) :=
  inferInstanceAs (Decidable (∀ mem ∈ call.buf, _ → _))

/-- A version string that has been read where it was announced. -/
theorem versionCounted_ite_iff {len : Byte} {s : List Byte} (old : List Byte)
    (h : s.length = versionChars len) :
    VersionCounted len (if announced len then s else old) ↔ (announced len = false → old = []) := by
  unfold VersionCounted
  cases hlen : announced len with
  | true => simp [versionChars, hlen, h]
  | false => simp

theorem userData_ite_iff {len : Byte} {s : List Byte} (old : List Byte) (h : s.length = len.toNat) :
    len.toNat = (if 0 ≠ len then s else old).length ↔ (len = 0 → old = []) := by
  by_cases hlen : 0 ≠ len
  · rw [if_pos hlen, h]
    exact iff_of_true rfl fun hzero => absurd hzero.symm hlen
  · have hzero : len = 0 := (not_ne_iff.mp hlen).symm
    rw [if_neg hlen, hzero]
    exact ⟨fun hlength _ => List.length_eq_zero_iff.mp hlength.symm,
      fun hnil => (congrArg List.length (hnil rfl)).symm⟩

theorem counted_assign_iff (m : Veh2CloudInh) {body : Body} (h : bodyFormat.Valid body) :
    (m.assign body).Counted ↔ m.EmptyUnannounced body := by
  obtain ⟨vehicleId, ⟨swVerLen, swVer⟩, ⟨hwVerLen, hwVer⟩, ⟨adVerLen, adVer⟩, comType,
    posConfidence, timeSync, gnssType, userDataLen, userData⟩ := body
  simp only [bodyFormat, Format.seq_valid, Format.tagged_valid, Format.chars_valid] at h
  obtain ⟨-, hsw, hhw, had, -, -, -, -, huser⟩ := h
  have hsw := versionCounted_ite_iff m.swVer hsw
  have hhw := versionCounted_ite_iff m.hwVer hhw
  have had := versionCounted_ite_iff m.adVer had
  have huser := userData_ite_iff m.userData huser
  constructor
  · intro hcounted
    exact ⟨hsw.mp hcounted.swVer, hhw.mp hcounted.hwVer, had.mp hcounted.adVer,
      huser.mp hcounted.userData⟩
  · rintro ⟨hsw', hhw', had', huser'⟩
    exact ⟨hsw.mpr hsw', hhw.mpr hhw', had.mpr had', huser.mpr huser'⟩

theorem counted_withHeader_iff (m : Veh2CloudInh) (header : MessageHeader) :
    Counted { m with toMessageHeader := header } ↔ m.Counted :=
  ⟨fun h => ⟨h.swVer, h.hwVer, h.adVer, h.userData⟩,
    fun h => ⟨h.swVer, h.hwVer, h.adVer, h.userData⟩⟩

/-- A call that the guard turns away leaves the counts and the strings alone, and behind any
other the counts agree where nothing has stayed. -/
theorem counted_fromBytes_iff {m m' : Veh2CloudInh} {call : Call} {offset : ℕ}
    (hproper : call.Proper) (h : m.fromBytes call.buf call.size call.be = .ok (m', offset)) :
    m'.Counted ↔ if m.Accepts call then m.Keeps call else m.Counted := by
  obtain ⟨buf, size, be⟩ := call
  cases buf with
  | none =>
      cases h
      rfl
  | some mem =>
      have hsize : size ≤ mem.length := hproper mem rfl
      simp only at h
      by_cases hguard : m.length ≤ size
      · have haccepts : m.Accepts ⟨some mem, size, be⟩ := ⟨rfl, hguard⟩
        rw [fromBytes_of_le m be hsize hguard] at h
        by_cases hfits : 16 + bodyFormat.span (mem.drop 16) ≤ mem.length
        · rw [bodyFormat.loadFrom_valueAt (loadFields_eq _) hfits] at h
          cases h
          rw [counted_assign_iff _ (bodyFormat.valueAt_valid hfits), if_pos haccepts]
          constructor
          · rintro hempty _ ⟨⟩ _
            exact hempty
          · intro hkeeps
            exact hkeeps mem rfl hguard
        · rw [bodyFormat.loadFrom_of_lt (loadFields_eq _) (by rw [length_eq] at hguard; omega)
            (Nat.lt_of_not_ge hfits)] at h
          cases h
      · rw [if_neg fun haccepts => hguard haccepts.2]
        by_cases hheader : size < 16
        · rw [fromBytes_of_lt_header m be hheader] at h
          cases h
          rfl
        · rw [fromBytes_of_lt m be (Nat.le_of_not_lt hheader) hsize (Nat.lt_of_not_ge hguard)] at h
          cases h
          exact counted_withHeader_iff m _

/-- The objects of the class, from its two constructors on. -/
def objects : System Veh2CloudInh Call :=
  decodings (fun m => m.Constructed ∨ ∃ (storage : Veh2CloudInh) (call : Call), call.Proper ∧
    ofBuffer storage call.buf call.size call.be = .ok m) fromBytes

theorem throughout_counted_iff {m : Veh2CloudInh} {P : Prop} (hm : m.Counted ↔ P)
    {calls : List Call} (hrun : (objects.run m calls).isSome) :
    objects.Throughout Counted m calls ↔ P ∧ objects.Along Keeps m calls := by
  apply System.throughout_iff_and_along _ hm hrun
  intro m call m' hcounted hstep
  obtain ⟨hproper, offset, hread⟩ := decodings_step_iff.mp hstep
  rw [counted_fromBytes_iff hproper hread]
  split
  · rfl
  · next hturned =>
      refine iff_of_true hcounted fun mem hmem hle => absurd ⟨?_, hle⟩ hturned
      exact Option.isSome_iff_exists.mpr ⟨mem, hmem⟩

theorem versionCounted_stringLen_iff (s : List Byte) :
    VersionCounted (stringLen s) s ↔ s.length < 255 := by
  unfold VersionCounted
  by_cases hshort : s.length < 255
  · have hlen := stringLen_toNat (Nat.le_of_lt_succ hshort)
    refine iff_of_true ?_ hshort
    cases hannounced : announced (stringLen s) with
    | true => simpa using hlen
    | false =>
        have hchars := versionChars_of_ne (stringLen_ne s)
        rw [versionChars, hannounced, hlen] at hchars
        simpa using (List.length_eq_zero_iff.mp hchars.symm)
  · have hlen := stringLen_toNat_of_ge (Nat.le_of_not_lt hshort)
    have hzero : stringLen s = 0 := BitVec.eq_of_toNat_eq hlen
    refine iff_of_false ?_ hshort
    rw [hzero]
    intro hnil
    have hnil : s = [] := hnil
    rw [hnil] at hshort
    exact hshort (by decide)

theorem Constructed.counted_iff {m : Veh2CloudInh} (h : m.Constructed) :
    m.Counted ↔ m.swVer.length < 255 ∧ m.hwVer.length < 255 ∧ m.adVer.length < 255 ∧
      m.userData.length < 255 := by
  have hbuilt := h.built
  have huser : m.userDataLen.toNat = m.userData.length ↔ m.userData.length < 255 := by
    rw [hbuilt.userDataLen]
    constructor
    · intro hlen
      by_contra hlong
      rw [stringLen_toNat_of_ge (Nat.le_of_not_lt hlong)] at hlen
      omega
    · intro hshort
      exact stringLen_toNat (Nat.le_of_lt_succ hshort)
  rw [← versionCounted_stringLen_iff, ← versionCounted_stringLen_iff,
    ← versionCounted_stringLen_iff, ← hbuilt.swVerLen, ← hbuilt.hwVerLen, ← hbuilt.adVerLen,
    ← huser]
  exact ⟨fun h => ⟨h.swVer, h.hwVer, h.adVer, h.userData⟩,
    fun ⟨hsw, hhw, had, huser⟩ => ⟨hsw, hhw, had, huser⟩⟩

/-- The counts that the buffer constructor leaves in place announce nothing. -/
def Unannounced (storage : Veh2CloudInh) : Prop :=
  announced storage.swVerLen = false ∧ announced storage.hwVerLen = false ∧
    announced storage.adVerLen = false ∧ storage.userDataLen = 0

theorem counted_fresh_iff (storage : Veh2CloudInh) :
    (fresh storage).Counted ↔ storage.Unannounced := by
  have hversion : ∀ len : Byte, VersionCounted len [] ↔ announced len = false := by
    intro len
    unfold VersionCounted
    cases hlen : announced len with
    | true =>
        refine iff_of_false ?_ (by decide)
        intro hzero
        have hzero : len = 0 := BitVec.eq_of_toNat_eq hzero
        rw [hzero] at hlen
        exact absurd hlen (by decide)
    | false => simp
  have huser : storage.userDataLen.toNat = 0 ↔ storage.userDataLen = 0 :=
    ⟨fun h => BitVec.eq_of_toNat_eq h, congrArg BitVec.toNat⟩
  unfold Unannounced
  rw [← hversion, ← hversion, ← hversion, ← huser]
  exact ⟨fun h => ⟨h.swVer, h.hwVer, h.adVer, h.userData⟩,
    fun ⟨hsw, hhw, had, huser⟩ => ⟨hsw, hhw, had, huser⟩⟩

/-- The buffer constructor sets no count that it does not read. -/
theorem counted_ofBuffer_iff {storage m : Veh2CloudInh} {call : Call} (hproper : call.Proper)
    (h : ofBuffer storage call.buf call.size call.be = .ok m) :
    m.Counted ↔ call.buf.isSome ∧ 32 ≤ call.size ∨ storage.Unannounced := by
  obtain ⟨offset, hread⟩ := ok_of_constructor h
  have hkeeps : (fresh storage).Keeps call := fun _ _ _ =>
    ⟨fun _ => rfl, fun _ => rfl, fun _ => rfl, fun _ => rfl⟩
  have haccepts : (fresh storage).Accepts call ↔ call.buf.isSome ∧ 32 ≤ call.size := by
    rw [Accepts, fresh_length]
  rw [counted_fromBytes_iff hproper hread, counted_fresh_iff, ← haccepts]
  exact ite_iff_or hkeeps

end Veh2CloudInh

/-! ## Vehicle state -/

namespace Veh2CloudState

def Counted (m : Veh2CloudState) : Prop := m.passPosNum.toNat = m.passPos.length

def Accepts (m : Veh2CloudState) (call : Call) : Prop := call.buf.isSome ∧ m.length ≤ call.size

instance (m : Veh2CloudState) (call : Call) : Decidable (m.Accepts call) :=
  inferInstanceAs (Decidable (_ ∧ _))

/-- Where the call is let through, there are no earlier pass points. -/
def Keeps (m : Veh2CloudState) (call : Call) : Prop := m.Accepts call → m.passPos = []

instance (m : Veh2CloudState) (call : Call) : Decidable (m.Keeps call) :=
  inferInstanceAs (Decidable (_ → _))

theorem counted_assign_iff (m : Veh2CloudState) (be : Bool) {body : Body}
    (h : (bodyFormat be).Valid body) : (m.assign be body).Counted ↔ m.passPos = [] := by
  obtain ⟨vehicleId, v, gnssTimestamp, gnssVelocity, positionLongitude, positionLatitude,
    positionElevation, heading, gear, steeringAngle, velocity, accLon, accLat, accVer, yawRate,
    accelPos, engineSpeed, engineTorque, breakFlag, breakPos, breakPressure, fuelConsume,
    driveMode, destLocationLongitude, destLocationLatitude, passPosNum, passPos⟩ := body
  simp only [bodyFormat, Format.seq_valid, Format.tagged_valid, Format.many_valid,
    Format.word_valid, Format.byte_valid, Format.array_valid, true_and] at h
  simp only [Counted, assign, List.length_append, h.1]
  exact ⟨fun hlen => List.length_eq_zero_iff.mp (by omega), fun hnil => by simp [hnil]⟩

/-- Where a call that returns has stopped, inside the memory, and how its counts and pass points
have come out. -/
theorem fromBytes_counted {m m' : Veh2CloudState} {mem : List Byte} {size : ℕ} {be : Bool}
    {offset : ℕ} (hsize : size ≤ mem.length)
    (h : m.fromBytes (some mem) size be = .ok (m', offset)) :
    offset = (if size < 16 then 0 else if size < m.length then 16 else passPosEnd mem) ∧
      offset ≤ mem.length ∧
      (m'.Counted ↔ if m.length ≤ size then m.passPos = [] else m.Counted) := by
  have hlength := m.length_eq
  by_cases hheader : size < 16
  · rw [fromBytes_of_lt_header m be hheader] at h
    cases h
    rw [if_pos hheader, if_neg (by omega)]
    exact ⟨rfl, Nat.zero_le _, .rfl⟩
  rw [if_neg hheader]
  by_cases hguard : size < m.length
  · rw [fromBytes_of_lt m be (Nat.le_of_not_lt hheader) hsize hguard] at h
    cases h
    rw [if_pos hguard, if_neg (Nat.not_le_of_lt hguard)]
    exact ⟨rfl, by omega, .rfl⟩
  rw [if_neg hguard, if_pos (Nat.le_of_not_lt hguard)]
  rw [fromBytes_of_le m be hsize (Nat.le_of_not_lt hguard)] at h
  by_cases hfits : 16 + (bodyFormat be).span (mem.drop 16) ≤ mem.length
  · rw [(bodyFormat be).loadFrom_valueAt (loadFields_eq _ be) hfits] at h
    obtain ⟨rfl, rfl⟩ := Prod.mk.inj (Except.ok.inj h)
    exact ⟨span_eq_passPosEnd be mem, hfits,
      counted_assign_iff _ be ((bodyFormat be).valueAt_valid hfits)⟩
  · rw [(bodyFormat be).loadFrom_of_lt (loadFields_eq _ be) (by omega)
      (Nat.lt_of_not_ge hfits)] at h
    cases h

theorem counted_fromBytes_iff {m m' : Veh2CloudState} {call : Call} {offset : ℕ}
    (hproper : call.Proper) (h : m.fromBytes call.buf call.size call.be = .ok (m', offset)) :
    m'.Counted ↔ if m.Accepts call then m.passPos = [] else m.Counted := by
  obtain ⟨buf, size, be⟩ := call
  cases buf with
  | none =>
      cases h
      rfl
  | some mem =>
      have haccepts : m.Accepts ⟨some mem, size, be⟩ ↔ m.length ≤ size := and_iff_right rfl
      rw [(fromBytes_counted (hproper mem rfl) h).2.2]
      simp only [haccepts]

def objects : System Veh2CloudState Call :=
  decodings (fun m => m.Constructed ∨ ∃ (storage : Veh2CloudState) (call : Call),
    call.Proper ∧ ofBuffer storage call.buf call.size call.be = .ok m) fromBytes

theorem throughout_counted_iff {m : Veh2CloudState} {P : Prop} (hm : m.Counted ↔ P)
    {calls : List Call} (hrun : (objects.run m calls).isSome) :
    objects.Throughout Counted m calls ↔ P ∧ objects.Along Keeps m calls := by
  apply System.throughout_iff_and_along _ hm hrun
  intro m call m' hcounted hstep
  obtain ⟨hproper, offset, hread⟩ := decodings_step_iff.mp hstep
  rw [counted_fromBytes_iff hproper hread]
  exact ite_iff_imp hcounted

theorem Constructed.counted_iff {m : Veh2CloudState} (h : m.Constructed) :
    m.Counted ↔ m.passPos.length < 256 := by
  have hbuilt := h.built
  rw [Counted, hbuilt.passPosNum]
  omega

theorem counted_ofBuffer_iff {storage m : Veh2CloudState} {call : Call} (hproper : call.Proper)
    (h : ofBuffer storage call.buf call.size call.be = .ok m) :
    m.Counted ↔ call.buf.isSome ∧ 98 ≤ call.size ∨ storage.passPosNum = 0 := by
  obtain ⟨offset, hread⟩ := ok_of_constructor h
  have haccepts : (fresh storage).Accepts call ↔ call.buf.isSome ∧ 98 ≤ call.size := by
    rw [Accepts, fresh_length]
  have hcounted : (fresh storage).Counted ↔ storage.passPosNum = 0 :=
    ⟨fun h => BitVec.eq_of_toNat_eq h, congrArg BitVec.toNat⟩
  rw [counted_fromBytes_iff hproper hread, hcounted, ← haccepts]
  exact ite_iff_or rfl

end Veh2CloudState

/-! ## Vehicle state, version 2 -/

namespace Veh2CloudState2

/-- The counts that the second version adds. -/
def RestMatched (m : Veh2CloudState2) : Prop :=
  m.wheelNum.toNat = m.wheelVelocity.length ∧ m.wheelNum.toNat = m.tirePressure.length ∧
    m.userDataLen.toNat = m.userData.length

theorem matched_iff (m : Veh2CloudState2) :
    m.Matched ↔ m.toVeh2CloudState.Counted ∧ m.RestMatched :=
  ⟨fun h => ⟨h.passPos, h.wheelVelocity, h.tirePressure, h.userData⟩,
    fun ⟨hpos, hwheel, htire, huser⟩ => ⟨hpos, hwheel, htire, huser⟩⟩

/-- The object holds no wheel behind the announced ones, and no user data if none are
announced. -/
def NothingBehind (m : Veh2CloudState2) : Head × Wheels × Tail → Prop
  | (_, (wheelNum, _), (_, _, userDataLen, _)) =>
    m.wheelVelocity.length ≤ wheelNum.toNat ∧ m.tirePressure.length ≤ wheelNum.toNat ∧
      (userDataLen = 0 → m.userData = [])

instance (m : Veh2CloudState2) (body : Head × Wheels × Tail) : Decidable (m.NothingBehind body) :=
  match body with
  | (_, (_, _), (_, _, _, _)) => inferInstanceAs (Decidable (_ ∧ _ ∧ _))

/-- Where the first version's decoder leaves off: in front of a header that has not come in full,
directly behind the header when its guard has turned the call away, or behind the pass points. -/
def restOffset (m : Veh2CloudState2) (mem : List Byte) (size : ℕ) : ℕ :=
  if size < 16 then 0
  else if size < m.toVeh2CloudState.length then 16
  else Veh2CloudState.passPosEnd mem

/-- The second version's guard lets the buffer through to its fields. The size that is left wraps
around where the pass points end behind it. -/
def ReachesRest (m : Veh2CloudState2) (mem : List Byte) (size : ℕ) : Prop :=
  m.restLength ≤ remaining size (m.restOffset mem size)

instance (m : Veh2CloudState2) (mem : List Byte) (size : ℕ) : Decidable (m.ReachesRest mem size) :=
  inferInstanceAs (Decidable (_ ≤ _))

/-- Wherever a version's guard lets the call through, nothing of that version stays behind. -/
def Keeps (m : Veh2CloudState2) (call : Call) : Prop :=
  m.toVeh2CloudState.Keeps call ∧
    ∀ mem ∈ call.buf, m.ReachesRest mem call.size →
      m.NothingBehind (restAt call.be mem (m.restOffset mem call.size))

instance (m : Veh2CloudState2) (call : Call) : Decidable (m.Keeps call) :=
  inferInstanceAs (Decidable (_ ∧ ∀ mem ∈ call.buf, _ → _))

theorem matched_overwrite_iff (m : Veh2CloudState2) (base : Veh2CloudState) (be : Bool)
    {body : Head × Wheels × Tail} (h : (bodyFormat be).Valid body) :
    ((m.withBase base).overwrite body).Matched ↔ base.Counted ∧ m.NothingBehind body := by
  obtain ⟨head, ⟨wheelNum, wheelVelocity, tirePressure⟩, lights, doors, userDataLen, userData⟩ :=
    body
  simp only [bodyFormat, wheelsFormat, tailFormat, Format.seq_valid, Format.tagged_valid,
    Format.many_valid, Format.chars_valid] at h
  obtain ⟨-, ⟨hvelocity, hpressure⟩, -, -, huser⟩ := h
  have hbehind : ∀ {values old : List (Word 2)}, values.length = wheelNum.toNat →
      (wheelNum.toNat = (values ++ old.drop wheelNum.toNat).length ↔
        old.length ≤ wheelNum.toNat) := by
    intro values old hvalues
    rw [List.length_append, List.length_drop, hvalues]
    omega
  rw [matched_iff, RestMatched]
  refine and_congr .rfl (and_congr (hbehind hvelocity.1) (and_congr (hbehind hpressure.1) ?_))
  exact Veh2CloudInh.userData_ite_iff _ huser

/-- What a call that returns has made of the first version's fields and of the second's. -/
theorem fromBytes_rest {m m' : Veh2CloudState2} {mem : List Byte} {size : ℕ} {be : Bool}
    {offset : ℕ} (hsize : size ≤ mem.length)
    (h : m.fromBytes (some mem) size be = .ok (m', offset)) :
    ∃ base off, m.toVeh2CloudState.fromBytes (some mem) size be = .ok (base, off) ∧
      let rest := m.restOffset mem size
      if m.ReachesRest mem size then
        restEnd be mem rest ≤ mem.length ∧ m' = (m.withBase base).overwrite (restAt be mem rest)
      else m' = m.withBase base := by
  cases hbase : m.toVeh2CloudState.fromBytes (some mem) size be with
  | error e =>
      rw [fromBytes_of_base_error m hbase] at h
      cases h
  | ok r =>
      obtain ⟨base, off⟩ := r
      refine ⟨base, off, rfl, ?_⟩
      obtain ⟨hoff, hle, -⟩ := Veh2CloudState.fromBytes_counted hsize hbase
      rw [← restOffset] at hoff
      subst hoff
      rw [fromBytes_of_base_guard m hbase] at h
      by_cases hrest : m.ReachesRest mem size
      · rw [if_neg (Nat.not_lt_of_ge hrest)] at h
        obtain ⟨-, hend, hr⟩ := (loadFields_ok_iff be _ hle).mp h
        rw [if_pos hrest]
        exact ⟨hend, congrArg Prod.fst hr⟩
      · rw [if_pos (Nat.lt_of_not_ge hrest)] at h
        cases h
        rw [if_neg hrest]
        rfl

/-- The second version's guard lets the call through to its fields. -/
def AcceptsRest (m : Veh2CloudState2) (call : Call) : Prop :=
  ∃ mem ∈ call.buf, m.ReachesRest mem call.size

/-- Each version's counts agree behind a call if nothing of the version stays behind where its
guard lets the call through, and if they agreed before where it does not. -/
theorem matched_fromBytes_iff {m m' : Veh2CloudState2} {call : Call} {offset : ℕ}
    (hproper : call.Proper) (h : m.fromBytes call.buf call.size call.be = .ok (m', offset)) :
    m'.Matched ↔
      (if m.toVeh2CloudState.Accepts call then m.passPos = [] else m.toVeh2CloudState.Counted) ∧
        (∀ mem ∈ call.buf, m.ReachesRest mem call.size →
          m.NothingBehind (restAt call.be mem (m.restOffset mem call.size))) ∧
        (¬ m.AcceptsRest call → m.RestMatched) := by
  obtain ⟨buf, size, be⟩ := call
  cases buf with
  | none =>
      cases h
      rw [matched_iff]
      refine and_congr .rfl ⟨fun hrest => ⟨nofun, fun _ => hrest⟩, fun hrest => hrest.2 ?_⟩
      rintro ⟨mem, hmem, -⟩
      cases hmem
  | some mem =>
      obtain ⟨base, off, hbase, hm'⟩ := fromBytes_rest (hproper mem rfl) h
      rw [← Veh2CloudState.counted_fromBytes_iff hproper hbase]
      have haccepts : m.AcceptsRest ⟨some mem, size, be⟩ ↔ m.ReachesRest mem size := by
        constructor
        · rintro ⟨_, ⟨⟩, hle⟩
          exact hle
        · intro hle
          exact ⟨mem, rfl, hle⟩
      by_cases hrest : m.ReachesRest mem size
      · obtain ⟨hend, rfl⟩ := (if_pos hrest).mp hm'
        have hvalid : (bodyFormat be).Valid (restAt be mem (m.restOffset mem size)) :=
          (bodyFormat be).valueAt_valid hend
        rw [matched_overwrite_iff m base be hvalid]
        refine and_congr .rfl ⟨fun hbehind => ⟨?_, ?_⟩, fun hbehind => hbehind.1 mem rfl hrest⟩
        · rintro _ ⟨⟩ _
          exact hbehind
        · exact fun hturned => absurd (haccepts.mpr hrest) hturned
      · have hm' : m' = m.withBase base := (if_neg hrest).mp hm'
        rw [hm', matched_iff]
        refine and_congr .rfl ⟨fun hmatched => ⟨?_, fun _ => hmatched⟩, fun hmatched => ?_⟩
        · rintro _ ⟨⟩ hle
          exact absurd hle hrest
        · exact hmatched.2 fun hle => hrest (haccepts.mp hle)

def objects : System Veh2CloudState2 Call :=
  decodings (fun m => m.Constructed ∨ ∃ (storage : Veh2CloudState2) (call : Call),
    call.Proper ∧ ofBuffer storage call.buf call.size call.be = .ok m) fromBytes

theorem throughout_matched_iff {m : Veh2CloudState2} {P : Prop} (hm : m.Matched ↔ P)
    {calls : List Call} (hrun : (objects.run m calls).isSome) :
    objects.Throughout Matched m calls ↔ P ∧ objects.Along Keeps m calls := by
  apply System.throughout_iff_and_along _ hm hrun
  intro m call m' hmatched hstep
  obtain ⟨hproper, offset, hread⟩ := decodings_step_iff.mp hstep
  obtain ⟨hcounted, hrest⟩ := m.matched_iff.mp hmatched
  rw [matched_fromBytes_iff hproper hread]
  exact and_congr (ite_iff_imp hcounted) (and_iff_left fun _ => hrest)

theorem Constructed.matched_iff {m : Veh2CloudState2} (h : m.Constructed) :
    m.Matched ↔ m.passPos.length < 256 ∧ m.wheelVelocity.length < 256 ∧
      m.tirePressure.length = m.wheelVelocity.length ∧ m.userData.length < 256 := by
  have hbuilt := h.built
  rw [Veh2CloudState2.matched_iff, RestMatched, Veh2CloudState.Counted, hbuilt.passPosNum,
    hbuilt.wheelNum, hbuilt.userDataLen]
  omega

/-- The size covers the fixed part of the second version behind where the first version's decoder
leaves off, or wraps around there. -/
def Covers (call : Call) : Prop :=
  ∃ mem ∈ call.buf, 44 ≤ remaining call.size (if call.size < 16 then 0
    else if call.size < 98 then 16 else Veh2CloudState.passPosEnd mem)

theorem matched_ofBuffer_iff {storage m : Veh2CloudState2} {call : Call} (hproper : call.Proper)
    (h : ofBuffer storage call.buf call.size call.be = .ok m) :
    m.Matched ↔ (call.buf.isSome ∧ 98 ≤ call.size ∨ storage.passPosNum = 0) ∧
      (Covers call ∨ storage.wheelNum = 0 ∧ storage.userDataLen = 0) := by
  obtain ⟨offset, hread⟩ := ok_of_constructor h
  have hlength : (fresh storage).toVeh2CloudState.length = 98 :=
    Veh2CloudState.fresh_length storage.toVeh2CloudState
  have haccepts : (fresh storage).toVeh2CloudState.Accepts call ↔
      call.buf.isSome ∧ 98 ≤ call.size := by
    rw [Veh2CloudState.Accepts, hlength]
  have hrest : (fresh storage).AcceptsRest call ↔ Covers call := by
    simp only [AcceptsRest, Covers, ReachesRest, restOffset, hlength, fresh_restLength]
  have hcounted : (fresh storage).toVeh2CloudState.Counted ↔ storage.passPosNum = 0 :=
    ⟨fun h => BitVec.eq_of_toNat_eq h, congrArg BitVec.toNat⟩
  have hmatched : (fresh storage).RestMatched ↔ storage.wheelNum = 0 ∧ storage.userDataLen = 0 := by
    refine ⟨fun ⟨hwheel, _, huser⟩ =>
      ⟨BitVec.eq_of_toNat_eq hwheel, BitVec.eq_of_toNat_eq huser⟩, ?_⟩
    rintro ⟨hwheel, huser⟩
    have hwheel := congrArg BitVec.toNat hwheel
    exact ⟨hwheel, hwheel, congrArg BitVec.toNat huser⟩
  have hbehind : ∀ body, (fresh storage).NothingBehind body := fun _ =>
    ⟨Nat.zero_le _, Nat.zero_le _, fun _ => rfl⟩
  rw [matched_fromBytes_iff hproper hread, hcounted, ← haccepts, hrest, hmatched]
  refine and_congr ?_ ?_
  · exact ite_iff_or rfl
  · rw [and_iff_right fun _ _ _ => hbehind _]
    exact or_iff_not_imp_left.symm

end Veh2CloudState2

/-- The counts agree along every run exactly when the constructor has set them right and no call
lets anything stay behind. -/
theorem counts_agree_iff (calls : List Call) :
    (∀ m : Veh2CloudInh, (Veh2CloudInh.objects.run m calls).isSome →
      (m.Constructed →
        (Veh2CloudInh.objects.Throughout Veh2CloudInh.Counted m calls ↔
          (m.swVer.length < 255 ∧ m.hwVer.length < 255 ∧ m.adVer.length < 255 ∧
            m.userData.length < 255) ∧ Veh2CloudInh.objects.Along Veh2CloudInh.Keeps m calls)) ∧
      ∀ (storage : Veh2CloudInh) (call : Call), call.Proper →
        storage.ofBuffer call.buf call.size call.be = .ok m →
        (Veh2CloudInh.objects.Throughout Veh2CloudInh.Counted m calls ↔
          (call.buf.isSome ∧ 32 ≤ call.size ∨ storage.Unannounced) ∧
            Veh2CloudInh.objects.Along Veh2CloudInh.Keeps m calls)) ∧
    (∀ m : Veh2CloudState, (Veh2CloudState.objects.run m calls).isSome →
      (m.Constructed →
        (Veh2CloudState.objects.Throughout Veh2CloudState.Counted m calls ↔
          m.passPos.length < 256 ∧ Veh2CloudState.objects.Along Veh2CloudState.Keeps m calls)) ∧
      ∀ (storage : Veh2CloudState) (call : Call), call.Proper →
        storage.ofBuffer call.buf call.size call.be = .ok m →
        (Veh2CloudState.objects.Throughout Veh2CloudState.Counted m calls ↔
          (call.buf.isSome ∧ 98 ≤ call.size ∨ storage.passPosNum = 0) ∧
            Veh2CloudState.objects.Along Veh2CloudState.Keeps m calls)) ∧
    (∀ m : Veh2CloudState2, (Veh2CloudState2.objects.run m calls).isSome →
      (m.Constructed →
        (Veh2CloudState2.objects.Throughout Veh2CloudState2.Matched m calls ↔
          (m.passPos.length < 256 ∧ m.wheelVelocity.length < 256 ∧
            m.tirePressure.length = m.wheelVelocity.length ∧ m.userData.length < 256) ∧
            Veh2CloudState2.objects.Along Veh2CloudState2.Keeps m calls)) ∧
      ∀ (storage : Veh2CloudState2) (call : Call), call.Proper →
        storage.ofBuffer call.buf call.size call.be = .ok m →
        (Veh2CloudState2.objects.Throughout Veh2CloudState2.Matched m calls ↔
          ((call.buf.isSome ∧ 98 ≤ call.size ∨ storage.passPosNum = 0) ∧
            (Veh2CloudState2.Covers call ∨ storage.wheelNum = 0 ∧ storage.userDataLen = 0)) ∧
            Veh2CloudState2.objects.Along Veh2CloudState2.Keeps m calls)) := by
  refine ⟨fun m hrun => ⟨fun h => ?_, fun storage call hproper h => ?_⟩,
    fun m hrun => ⟨fun h => ?_, fun storage call hproper h => ?_⟩,
    fun m hrun => ⟨fun h => ?_, fun storage call hproper h => ?_⟩⟩
  · exact Veh2CloudInh.throughout_counted_iff h.counted_iff hrun
  · exact Veh2CloudInh.throughout_counted_iff (Veh2CloudInh.counted_ofBuffer_iff hproper h) hrun
  · exact Veh2CloudState.throughout_counted_iff h.counted_iff hrun
  · exact Veh2CloudState.throughout_counted_iff (Veh2CloudState.counted_ofBuffer_iff hproper h) hrun
  · exact Veh2CloudState2.throughout_matched_iff h.matched_iff hrun
  · exact Veh2CloudState2.throughout_matched_iff (Veh2CloudState2.matched_ofBuffer_iff hproper h)
      hrun

/-- Objects that hold strings, wheels and user data and decode frames that announce as much, and
objects that are built from such frames, whatever the storage held; a short buffer behind these is
turned away. -/
theorem counts_agree_filled :
    let call (frame : List Byte) : Call := ⟨some frame, frame.length, true⟩
    let inh (swVer hwVer adVer userData : List Byte) := Veh2CloudInh.new 1 0 0 [0x56] swVer hwVer
      adVer 0 0 0 0 userData
    let state (passPos : List Position2D) := Veh2CloudState.new 1 5 6 [0x56, 0x31] [1, 2, 3] 4 500
      ⟨116, 40, 50⟩ 90 3 1 600 7 8 9 10 11 1200 13 1 14 15 16 2 ⟨117, 41⟩ passPos
    let state2 (passPos : List Position2D) (wheels : List (Word 2)) (userData : List Byte) :=
      Veh2CloudState2.new 2 5 6 [0x56] [1, 2, 3] 4 500 ⟨116, 40, 50⟩ 90 1 1 600 7 8 9 10 11 1200 13
        1 14 15 16 2 ⟨117, 41⟩ passPos 1 0 1 0 1 0 1 0 1 0 20000 21 22 23 24 25 26 27 1 2 28 29 1
        wheels wheels 30 31 userData
    let inhCall := call ((inh [0x61, 0x62] [0x61, 0x62] [0x61] [0x78]).frameBytes true)
    let stateCall := call ((state [⟨118, 42⟩, ⟨119, 43⟩]).wireBytes true)
    let state2Call (wheels : List (Word 2)) :=
      call ((state2 [⟨118, 42⟩] wheels [0x78, 0x79]).wireBytes true)
    (Veh2CloudInh.objects.Throughout Veh2CloudInh.Counted (inh [0x31] [] [0x32, 0x33] [0x34])
        [inhCall, call (List.replicate 31 0)] ∧
      ∃ m, (inh [0x31] [] [0x32, 0x33] [0x34]).ofBuffer inhCall.buf inhCall.size true = .ok m ∧
        Veh2CloudInh.objects.Throughout Veh2CloudInh.Counted m [inhCall]) ∧
    (Veh2CloudState.objects.Throughout Veh2CloudState.Counted (state [])
        [stateCall, call (List.replicate 99 0)] ∧
      ∃ m, (state [default]).ofBuffer stateCall.buf stateCall.size true = .ok m ∧
        Veh2CloudState.objects.Throughout Veh2CloudState.Counted m [call (List.replicate 99 0)]) ∧
    (Veh2CloudState2.objects.Throughout Veh2CloudState2.Matched (state2 [] [600] [0x61])
        [state2Call [601], call (List.replicate 43 0)] ∧
      ∃ m, (state2 [default] [600] [0x61]).ofBuffer (state2Call []).buf (state2Call []).size true =
          .ok m ∧
        Veh2CloudState2.objects.Throughout Veh2CloudState2.Matched m
          [call (List.replicate 43 0)]) := by
  intro call inh state state2 inhCall stateCall state2Call
  have hproper (frame : List Byte) : (call frame).Proper := by
    rintro _ ⟨⟩
    exact le_refl _
  refine ⟨⟨?_, ?_⟩, ⟨?_, ?_⟩, ⟨?_, ?_⟩⟩
  · exact (((counts_agree_iff _).1 _ (by decide +kernel)).1 (.new ..)).mpr
      ⟨by decide +kernel, by decide +kernel⟩
  · have hread : (inh [0x31] [] [0x32, 0x33] [0x34]).ofBuffer inhCall.buf inhCall.size true =
        .ok (inh [0x61, 0x62] [0x61, 0x62] [0x61] [0x78]) := by decide +kernel
    exact ⟨_, hread, (((counts_agree_iff _).1 _ (by decide +kernel)).2 _ inhCall (hproper _)
      hread).mpr ⟨.inl ⟨rfl, by decide +kernel⟩, by decide +kernel⟩⟩
  · exact (((counts_agree_iff _).2.1 _ (by decide +kernel)).1 (.new ..)).mpr
      ⟨by decide +kernel, by decide +kernel⟩
  · have hread : (state [default]).ofBuffer stateCall.buf stateCall.size true =
        .ok (state [⟨118, 42⟩, ⟨119, 43⟩]) := by decide +kernel
    exact ⟨_, hread, (((counts_agree_iff _).2.1 _ (by decide +kernel)).2 _ stateCall (hproper _)
      hread).mpr ⟨.inl ⟨rfl, by decide +kernel⟩, by decide +kernel⟩⟩
  · exact (((counts_agree_iff _).2.2 _ (by decide +kernel)).1 (.new ..)).mpr
      ⟨by decide +kernel, by decide +kernel⟩
  · have hread : (state2 [default] [600] [0x61]).ofBuffer (state2Call []).buf (state2Call []).size
        true = .ok (state2 [⟨118, 42⟩] [] [0x78, 0x79]) := by decide +kernel
    exact ⟨_, hread, (((counts_agree_iff _).2.2 _ (by decide +kernel)).2 _ (state2Call [])
      (hproper _) hread).mpr ⟨⟨.inl ⟨rfl, by decide +kernel⟩, .inl ⟨_, rfl, by decide +kernel⟩⟩,
        by decide +kernel⟩⟩

/-- A version string or a pass point that stays behind a frame without it, and wheels that were
given with no tire pressure. -/
theorem counts_disagree :
    let calls : List Call := [⟨some (List.replicate 142 0), 142, true⟩]
    ¬ ((∀ m : Veh2CloudInh, m.Constructed → (Veh2CloudInh.objects.run m calls).isSome →
        Veh2CloudInh.objects.Throughout Veh2CloudInh.Counted m calls) ∨
      (∀ m : Veh2CloudState, m.Constructed → (Veh2CloudState.objects.run m calls).isSome →
        Veh2CloudState.objects.Throughout Veh2CloudState.Counted m calls) ∨
      ∀ m : Veh2CloudState2, m.Constructed →
        Veh2CloudState2.objects.Throughout Veh2CloudState2.Matched m []) := by
  intro calls
  rintro (hinh | hstate | hstate2)
  · have hm : (Veh2CloudInh.new 1 0 0 [] [0x31] [] [] 0 0 0 0 []).Constructed := .new ..
    have hthrough := hinh _ hm (by decide +kernel)
    rw [Veh2CloudInh.throughout_counted_iff hm.counted_iff (by decide +kernel),
      System.along_singleton] at hthrough
    exact absurd hthrough.2 (by decide +kernel)
  · have hm : (Veh2CloudState.new 1 0 0 [] [] 0 0 default 0 0 0 0 0 0 0 0 0 0 0 0 0 0 0 0 default
      [default]).Constructed := .new ..
    have hthrough := hstate _ hm (by decide +kernel)
    rw [Veh2CloudState.throughout_counted_iff hm.counted_iff (by decide +kernel),
      System.along_singleton] at hthrough
    have hkept : [default] = ([] : List Position2D) := hthrough.2 ⟨rfl, by decide⟩
    cases hkept
  · have hm : (Veh2CloudState2.new 2 0 0 [] [] 0 0 default 0 0 0 0 0 0 0 0 0 0 0 0 0 0 0 0 default
      [] 0 0 0 0 0 0 0 0 0 0 0 0 0 0 0 0 0 0 0 0 0 0 0 [0] [] 0 0 []).Constructed := .new ..
    exact absurd (hm.matched_iff.mp (hstate2 _ hm)) (by decide)

end Csae295
