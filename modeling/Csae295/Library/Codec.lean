import Csae295.Library.Format
import Csae295.Library.System

/-! What it means for an encoder and a decoder on buffers to be inverse to each other. -/

namespace Csae295.Library

/-- An encoder: it writes the front of a buffer and returns how far it came. -/
abbrev Encoder := Buffer → ℕ → Bool → Except Fault (Buffer × ℕ)

/-- A decoder: it reads the front of a buffer and returns how far it came. -/
abbrev Decoder (α : Type) := Buffer → ℕ → Bool → Except Fault (α × ℕ)

/-- Into every buffer of at least `len` bytes the encoder writes the first `len` bytes and
nothing else, and of these bytes, whatever follows them, the decoder makes `a`. -/
def RoundTrips {α : Type} (toBytes : Encoder) (fromBytes : Decoder α) (be : Bool) (a : α)
    (len : ℕ) : Prop :=
  ∀ mem : List Byte, len ≤ mem.length → ∃ bytes : List Byte, bytes.length = len ∧
    toBytes (some mem) mem.length be = .ok (written bytes mem) ∧
    ∀ rest, fromBytes (some (bytes ++ rest)) (bytes ++ rest).length be = .ok (a, len)

/-- The decoder consumes exactly these bytes, and the encoder writes them again into every
buffer that can hold them. -/
def Reproduces {α : Type} (fromBytes : Decoder α) (toBytes : α → Encoder) (be : Bool)
    (bytes : List Byte) : Prop :=
  ∃ a, fromBytes (some bytes) bytes.length be = .ok (a, bytes.length) ∧
    ∀ mem : List Byte, bytes.length ≤ mem.length →
      toBytes a (some mem) mem.length be = .ok (written bytes mem)

variable {α : Type} {toBytes : Encoder} {fromBytes : Decoder α} {be : Bool} {a : α}

/-- An encoder that always writes the same bytes round-trips if the decoder reads them back. -/
theorem roundTrips_of_written {len : ℕ} (bytes : List Byte) (hlen : bytes.length = len)
    (hto : ∀ mem : List Byte, len ≤ mem.length →
      toBytes (some mem) mem.length be = .ok (written bytes mem))
    (hfrom : ∀ rest, fromBytes (some (bytes ++ rest)) (bytes ++ rest).length be = .ok (a, len)) :
    RoundTrips toBytes fromBytes be a len :=
  fun mem hmem => ⟨bytes, hlen, hto mem hmem, hfrom⟩

/-! ## Objects that are decoded into again and again -/

/-- What a decoder is called with. -/
structure Call where
  buf : Buffer
  size : ℕ
  be : Bool
  deriving DecidableEq, Repr

namespace Call

/-- The caller promises `size` bytes behind a pointer that is not null. -/
def Proper (self : Call) : Prop := ∀ mem ∈ self.buf, self.size ≤ mem.length

instance (self : Call) : Decidable self.Proper :=
  match h : self.buf with
  | none => isTrue fun mem hmem => by rw [h] at hmem; cases hmem
  | some mem => decidable_of_iff (self.size ≤ mem.length) (by simp [Proper, h])

end Call

/-- The objects of a class, from its constructors on; a call that stops at a fault leaves no
object. -/
def decodings {α : Type} (Init : α → Prop) (fromBytes : α → Decoder α) : System α Call where
  Init := Init
  step a call :=
    if call.Proper then
      (fromBytes a call.buf call.size call.be).toOption.map Prod.fst
    else none

theorem decodings_step_iff {α : Type} {Init : α → Prop} {fromBytes : α → Decoder α} {a a' : α}
    {call : Call} : (decodings Init fromBytes).step a call = some a' ↔
      call.Proper ∧ ∃ offset, fromBytes a call.buf call.size call.be = .ok (a', offset) := by
  simp only [decodings]
  by_cases hproper : call.Proper
  · cases hread : fromBytes a call.buf call.size call.be with
    | ok r =>
        obtain ⟨b, offset⟩ := r
        simp [hproper, Except.toOption]
    | error e => simp [hproper, Except.toOption]
  · simp [hproper]

theorem written_inj {bytes bytes' mem : List Byte} (h : written bytes mem = written bytes' mem) :
    bytes = bytes' := by
  have hlen : bytes.length = bytes'.length := congrArg Prod.snd h
  have hmem := Option.some.inj (congrArg Prod.fst h)
  exact (List.append_inj hmem hlen).1

/-- If an encoder that round-trips writes `bytes` somewhere, the decoder reads them back. -/
theorem RoundTrips.decodes {len : ℕ} (h : RoundTrips toBytes fromBytes be a len)
    {bytes mem : List Byte} (hmem : len ≤ mem.length)
    (hto : toBytes (some mem) mem.length be = .ok (written bytes mem)) (rest : List Byte) :
    fromBytes (some (bytes ++ rest)) (bytes ++ rest).length be = .ok (a, len) := by
  obtain ⟨bytes', -, hto', hfrom⟩ := h mem hmem
  rw [hto] at hto'
  rw [written_inj (Except.ok.inj hto')]
  exact hfrom rest

end Csae295.Library
