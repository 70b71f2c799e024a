import Csae295.Library.Word

/-! Checked access to a region of memory through a moving offset.

A computation stops at the first access outside the region, so a run that returns
has touched only bytes of the region and elements that exist. -/

namespace Csae295.Library

/-- Why a computation stopped. -/
inductive Fault where
  | read
  | write
  | index
  deriving DecidableEq, Repr

@[simp] theorem ok_bind {ε α β : Type} (a : α) (f : α → Except ε β) :
    (Except.ok a >>= f) = f a := rfl

@[simp] theorem error_bind {ε α β : Type} (e : ε) (f : α → Except ε β) :
    (Except.error e >>= f) = .error e := rfl

@[simp] theorem pure_eq_ok {ε α : Type} (a : α) : (pure a : Except ε α) = .ok a := rfl

/-- A region of memory and the offset of the next access. -/
structure Cursor where
  mem : List Byte
  offset : ℕ
  deriving DecidableEq, Repr

/-- A computation on a region, reading and writing at its offset. -/
structure Access (α : Type) where
  run : Cursor → Except Fault (α × Cursor)

namespace Access

variable {α β : Type}

instance : Monad Access where
  pure a := ⟨fun c => .ok (a, c)⟩
  bind p f := ⟨fun c =>
    match p.run c with
    | .ok (a, c') => (f a).run c'
    | .error e => .error e⟩

@[simp] theorem run_pure (a : α) (c : Cursor) : (pure a : Access α).run c = .ok (a, c) := rfl

theorem run_bind (p : Access α) (f : α → Access β) (c : Cursor) :
    (p >>= f).run c =
      match p.run c with
      | .ok (a, c') => (f a).run c'
      | .error e => .error e := rfl

theorem run_bind_ok {p : Access α} {c c' : Cursor} {a : α} (h : p.run c = .ok (a, c'))
    (f : α → Access β) : (p >>= f).run c = (f a).run c' := by
  rw [run_bind, h]

theorem run_bind_error {p : Access α} {c : Cursor} {e : Fault} (h : p.run c = .error e)
    (f : α → Access β) : (p >>= f).run c = .error e := by
  rw [run_bind, h]

theorem ok_of_bind {p : Access α} {f : α → Access β} {c : Cursor} {r : β × Cursor}
    (h : (p >>= f).run c = .ok r) : ∃ a c', p.run c = .ok (a, c') ∧ (f a).run c' = .ok r := by
  cases hp : p.run c with
  | ok s => exact ⟨s.1, s.2, rfl, (run_bind_ok hp f).symm.trans h⟩
  | error e =>
      rw [run_bind_error hp] at h
      cases h

theorem ext {p q : Access α} (h : ∀ c, p.run c = q.run c) : p = q := by
  cases p
  cases q
  exact congrArg Access.mk (funext h)

instance : LawfulMonad Access := LawfulMonad.mk' Access
  (by
    intro α p
    apply ext
    intro c
    cases h : p.run c with
    | ok r => exact run_bind_ok h _
    | error e => exact run_bind_error h _)
  (by intros; rfl)
  (by
    intro α β γ p f g
    apply ext
    intro c
    cases h : p.run c with
    | ok r => rw [run_bind (p >>= f), run_bind_ok h, run_bind_ok h, run_bind (f r.1)]
    | error e => rw [run_bind_error (run_bind_error h f), run_bind_error h])

/-- Stop with a fault. -/
def fault (e : Fault) : Access α := ⟨fun _ => .error e⟩

@[simp] theorem run_fault (e : Fault) (c : Cursor) :
    (fault e : Access α).run c = .error e := rfl

@[simp] theorem fault_bind (e : Fault) (f : α → Access β) : fault e >>= f = fault e := rfl

/-- A computation that stops on every region, wherever it starts. -/
def Fails (p : Access α) : Prop := ∀ c, ∃ e, p.run c = .error e

theorem fails_fault (e : Fault) : (fault e : Access α).Fails := fun _ => ⟨e, rfl⟩

theorem Fails.bind {p : Access α} (h : p.Fails) (f : α → Access β) : (p >>= f).Fails := by
  intro c
  obtain ⟨e, he⟩ := h c
  exact ⟨e, run_bind_error he f⟩

theorem fails_bind (p : Access α) {f : α → Access β} (h : ∀ a, (f a).Fails) :
    (p >>= f).Fails := by
  intro c
  cases hp : p.run c with
  | ok r =>
      obtain ⟨e, he⟩ := h r.1 r.2
      exact ⟨e, (run_bind_ok hp f).trans he⟩
  | error e => exact ⟨e, run_bind_error hp f⟩

end Access

/-! ## Loads -/

/-- Load the next `n` bytes. Loading no byte touches nothing, wherever the offset is. -/
def load (n : ℕ) : Access (List Byte) := ⟨fun c =>
  if n ≤ c.mem.length - c.offset then
    .ok ((c.mem.drop c.offset).take n, { c with offset := c.offset + n })
  else .error .read⟩

theorem load_of_le {n off : ℕ} {mem : List Byte} (h : off + n ≤ mem.length) :
    (load n).run ⟨mem, off⟩ = .ok ((mem.drop off).take n, ⟨mem, off + n⟩) :=
  if_pos (by simp only; omega)

theorem load_of_lt {n off : ℕ} {mem : List Byte} (hoff : off ≤ mem.length)
    (h : mem.length < off + n) : (load n).run ⟨mem, off⟩ = .error .read :=
  if_neg (by simp only; omega)

theorem load_zero : load 0 = pure [] := by
  apply Access.ext
  intro c
  simp [load]

/-- Load one byte. -/
def loadByte : Access Byte := do
  let bs ← load 1
  pure (bs.headD 0)

/-- Load a word of `n` bytes, swapped when `be` asks for network order. -/
def loadWord (n : ℕ) (be : Bool) : Access (Word n) := do
  let bs ← load n
  pure (if be then bswap (ofLEBytes n bs) else ofLEBytes n bs)

/-- Load an array of `n` bytes. -/
def loadArray (n : ℕ) : Access (Vector Byte n) := do
  let bs ← load n
  pure (arrayOf n bs)

/-! ## Stores -/

/-- Store the given bytes. -/
def store (bs : List Byte) : Access Unit := ⟨fun c =>
  if bs.length ≤ c.mem.length - c.offset then
    .ok ((), ⟨c.mem.take c.offset ++ bs ++ c.mem.drop (c.offset + bs.length),
      c.offset + bs.length⟩)
  else .error .write⟩

/-- Store a word, swapped first when `be` asks for network order. -/
def storeWord {n : ℕ} (be : Bool) (x : Word n) : Access Unit :=
  store (leBytes (if be then bswap x else x))

theorem store_of_le {bs mem : List Byte} {off : ℕ} (h : off + bs.length ≤ mem.length) :
    (store bs).run ⟨mem, off⟩ =
      .ok ((), ⟨mem.take off ++ bs ++ mem.drop (off + bs.length), off + bs.length⟩) :=
  if_pos (by simp only; omega)

theorem store_of_lt {bs mem : List Byte} {off : ℕ} (hoff : off ≤ mem.length)
    (h : mem.length < off + bs.length) : (store bs).run ⟨mem, off⟩ = .error .write :=
  if_neg (by simp only; omega)

@[simp] theorem store_nil : store [] = pure () := by
  apply Access.ext
  intro c
  simp [store]

/-- Two stores in a row are one store of both pieces. -/
theorem store_store (xs ys : List Byte) :
    (store xs >>= fun _ => store ys) = store (xs ++ ys) := by
  apply Access.ext
  rintro ⟨mem, off⟩
  by_cases hoff : off ≤ mem.length
  · by_cases hx : off + xs.length ≤ mem.length
    · rw [Access.run_bind_ok (store_of_le hx)]
      have hpre : (mem.take off ++ xs).length = off + xs.length := by
        simp only [List.length_append, List.length_take]
        omega
      have hmem : (mem.take off ++ xs ++ mem.drop (off + xs.length)).length = mem.length := by
        simp only [List.length_append, List.length_take, List.length_drop]
        omega
      by_cases hy : off + xs.length + ys.length ≤ mem.length
      · rw [store_of_le (by omega), store_of_le (by simpa [Nat.add_assoc] using hy)]
        have htake : (mem.take off ++ xs ++ mem.drop (off + xs.length)).take
            (off + xs.length) = mem.take off ++ xs := List.take_left' hpre
        have hdrop : (mem.take off ++ xs ++ mem.drop (off + xs.length)).drop
            (off + xs.length + ys.length) = mem.drop (off + xs.length + ys.length) := by
          rw [← hpre, List.drop_length_add_append, hpre, List.drop_drop]
        rw [htake, hdrop]
        simp only [List.append_assoc, List.length_append, Nat.add_assoc]
      · rw [store_of_lt (by omega) (by omega), store_of_lt hoff]
        simp only [List.length_append]
        omega
    · rw [Access.run_bind_error (store_of_lt hoff (Nat.lt_of_not_ge hx)), store_of_lt hoff]
      simp only [List.length_append]
      omega
  · -- past the end only the empty store goes through
    cases xs with
    | nil => simp
    | cons x xs =>
        have hx : (store (x :: xs)).run ⟨mem, off⟩ = .error .write :=
          if_neg (by simp only [List.length_cons]; omega)
        have hxy : (store (x :: xs ++ ys)).run ⟨mem, off⟩ = .error .write :=
          if_neg (by simp only [List.length_append, List.length_cons]; omega)
        rw [Access.run_bind_error hx, hxy]

theorem store_store_bind {β : Type} (xs ys : List Byte) (k : Unit → Access β) :
    (store xs >>= fun _ => store ys >>= k) = store (xs ++ ys) >>= k := by
  rw [← store_store, bind_assoc]

/-! ## Source operands -/

/-- The element at position `i`, which has to exist. -/
def elementAt {α : Type} (xs : List α) (i : ℕ) : Access α :=
  match xs[i]? with
  | some x => pure x
  | none => Access.fault .index

/-- Replace the element at position `i`, which has to exist. -/
def assignAt {α : Type} (xs : List α) (i : ℕ) (x : α) : Access (List α) :=
  if i < xs.length then pure (xs.set i x) else Access.fault .index

/-- The first `n` characters of a string, whose storage ends with a terminating zero. -/
def charsOf (s : List Byte) (n : ℕ) : Access (List Byte) :=
  if n ≤ s.length + 1 then pure ((s ++ [0]).take n) else Access.fault .read

/-! ## Buffers -/

/-- A null pointer, or a pointer to a region. -/
abbrev Buffer := Option (List Byte)

/-- `size - offset` on 64-bit words. Behind the end the difference wraps around. -/
def remaining (size offset : ℕ) : ℕ :=
  if offset ≤ size then size - offset else (BitVec.ofNat 64 size - BitVec.ofNat 64 offset).toNat

theorem remaining_of_le {size offset : ℕ} (h : offset ≤ size) :
    remaining size offset = size - offset := if_pos h

theorem remaining_of_lt {size offset : ℕ} (h : size < offset) (hoffset : offset < 2 ^ 64) :
    remaining size offset = 2 ^ 64 - (offset - size) := by
  rw [remaining, if_neg (Nat.not_le_of_lt h), BitVec.toNat_sub, BitVec.toNat_ofNat,
    BitVec.toNat_ofNat]
  omega

/-- A size that has wrapped around is large enough for everything that is short itself. -/
theorem le_remaining_iff {n size offset : ℕ} (hpos : 0 < n) (hoffset : offset + n ≤ 2 ^ 64) :
    n ≤ remaining size offset ↔ offset + n ≤ size ∨ size < offset := by
  by_cases h : offset ≤ size
  · rw [remaining_of_le h]
    omega
  · rw [remaining_of_lt (Nat.lt_of_not_le h) (by omega)]
    omega

/-- Run a computation that reads a buffer from an offset. A null pointer has no
accessible byte. -/
def Access.loadFrom {α : Type} (p : Access α) (buf : Buffer) (offset : ℕ) :
    Except Fault (α × ℕ) :=
  match p.run ⟨buf.getD [], offset⟩ with
  | .ok (a, c) => .ok (a, c.offset)
  | .error e => .error e

/-- Run a computation that writes a buffer from an offset. -/
def Access.storeTo (p : Access Unit) (buf : Buffer) (offset : ℕ) :
    Except Fault (Buffer × ℕ) :=
  match p.run ⟨buf.getD [], offset⟩ with
  | .ok (_, c) => .ok (buf.map fun _ => c.mem, c.offset)
  | .error e => .error e

theorem Access.Fails.storeTo {p : Access Unit} (h : p.Fails) (buf : Buffer) (offset : ℕ) :
    ∃ e, p.storeTo buf offset = .error e := by
  obtain ⟨e, he⟩ := h ⟨buf.getD [], offset⟩
  exact ⟨e, by rw [Access.storeTo, he]⟩

/-- A region whose front has been overwritten, and the offset behind the new front. -/
def written (bytes mem : List Byte) : Buffer × ℕ :=
  (some (bytes ++ mem.drop bytes.length), bytes.length)

/-- What has been written is read back. -/
theorem loadFrom_written (bytes mem : List Byte) :
    (load bytes.length).loadFrom (written bytes mem).1 0 = .ok (bytes, bytes.length) := by
  have hle : 0 + bytes.length ≤ (bytes ++ mem.drop bytes.length).length := by
    rw [List.length_append]
    omega
  simp only [Access.loadFrom, written, Option.getD_some, load_of_le hle, List.drop_zero,
    List.take_left, Nat.zero_add]

/-- Storing behind what has been written extends it. -/
theorem storeTo_written (pre bs mem : List Byte) (h : (pre ++ bs).length ≤ mem.length) :
    (store bs).storeTo (some (pre ++ mem.drop pre.length)) pre.length =
      .ok (written (pre ++ bs) mem) := by
  rw [List.length_append] at h
  have hfit : pre.length + bs.length ≤ (pre ++ mem.drop pre.length).length := by
    rw [List.length_append, List.length_drop]
    omega
  rw [Access.storeTo, Option.getD_some, store_of_le hfit]
  simp only [written, Option.map_some, List.take_left, List.drop_length_add_append,
    List.drop_drop, List.length_append]

theorem storeTo_written_error (pre bs mem : List Byte) (hpre : pre.length ≤ mem.length)
    (h : mem.length < (pre ++ bs).length) :
    (store bs).storeTo (some (pre ++ mem.drop pre.length)) pre.length = .error .write := by
  rw [List.length_append] at h
  have hlen : (pre ++ mem.drop pre.length).length = mem.length := by
    rw [List.length_append, List.length_drop]
    omega
  rw [Access.storeTo, Option.getD_some, store_of_lt (by omega) (by omega)]

end Csae295.Library
