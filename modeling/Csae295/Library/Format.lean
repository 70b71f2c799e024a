import Csae295.Library.Memory

/-! Byte formats: how a value is laid out and how it is recovered.

A format pairs an encoder with a checked reader. Its laws say that the reader
recovers what the encoder wrote, that whatever the reader accepts is the encoding of
its result, and that the reader stops exactly when the region ends too early. -/

namespace Csae295.Library

/-- `span bs` is the number of bytes the value at the head of `bs` occupies, as counted by
its own count bytes; a count byte past the end of `bs` reads as zero. -/
structure Format (α : Type) where
  Valid : α → Prop
  enc : α → List Byte
  span : List Byte → ℕ
  read : Access α
  read_enc : ∀ (a : α) (pre post : List Byte), Valid a →
    read.run ⟨pre ++ (enc a ++ post), pre.length⟩ =
      .ok (a, ⟨pre ++ (enc a ++ post), pre.length + (enc a).length⟩)
  read_of_le : ∀ (mem : List Byte) (off : ℕ), off + span (mem.drop off) ≤ mem.length →
    ∃ a, Valid a ∧ read.run ⟨mem, off⟩ = .ok (a, ⟨mem, off + span (mem.drop off)⟩) ∧
      mem.drop off = enc a ++ mem.drop (off + span (mem.drop off))
  read_of_lt : ∀ (mem : List Byte) (off : ℕ), off ≤ mem.length →
    mem.length < off + span (mem.drop off) → read.run ⟨mem, off⟩ = .error .read

namespace Format

variable {α β : Type}

/-- The span of an encoding is its length. -/
theorem span_enc (F : Format α) {a : α} (h : F.Valid a) (rest : List Byte) :
    F.span (F.enc a ++ rest) = (F.enc a).length := by
  have hread := F.read_enc a [] rest h
  simp only [List.nil_append, List.length_nil, Nat.zero_add] at hread
  by_cases hle : F.span (F.enc a ++ rest) ≤ (F.enc a ++ rest).length
  · obtain ⟨b, -, hb, -⟩ := F.read_of_le (F.enc a ++ rest) 0 (by simpa using hle)
    rw [hread] at hb
    simpa using (congrArg (fun r => r.2.offset) (Except.ok.inj hb)).symm
  · have herr := F.read_of_lt (F.enc a ++ rest) 0 (Nat.zero_le _) (by simpa using hle)
    rw [hread] at herr
    cases herr

/-- A reader that returns has read the encoding of its result. -/
theorem read_ok (F : Format α) {mem : List Byte} {off : ℕ} {a : α} {c : Cursor}
    (hoff : off ≤ mem.length) (h : F.read.run ⟨mem, off⟩ = .ok (a, c)) :
    F.Valid a ∧ c = ⟨mem, off + (F.enc a).length⟩ ∧
      mem.drop off = F.enc a ++ mem.drop (off + (F.enc a).length) := by
  by_cases hle : off + F.span (mem.drop off) ≤ mem.length
  · obtain ⟨b, hvalid, hb, hsplit⟩ := F.read_of_le mem off hle
    rw [h] at hb
    obtain ⟨rfl, rfl⟩ := Prod.mk.inj (Except.ok.inj hb)
    have hspan : F.span (mem.drop off) = (F.enc a).length := by
      rw [hsplit]
      exact F.span_enc hvalid _
    rw [hspan] at hsplit ⊢
    exact ⟨hvalid, rfl, hsplit⟩
  · have herr := F.read_of_lt mem off hoff (Nat.lt_of_not_ge hle)
    rw [h] at herr
    cases herr

/-! ## Formats of fixed width -/

/-- A value that occupies exactly `n` bytes. -/
def fixed (n : ℕ) (Valid : α → Prop) (enc : α → List Byte) (dec : List Byte → α)
    (length_enc : ∀ a, Valid a → (enc a).length = n) (dec_enc : ∀ a, Valid a → dec (enc a) = a)
    (valid_dec : ∀ bs : List Byte, bs.length = n → Valid (dec bs))
    (enc_dec : ∀ bs : List Byte, bs.length = n → enc (dec bs) = bs) : Format α where
  Valid := Valid
  enc := enc
  span _ := n
  read := do
    let bs ← load n
    pure (dec bs)
  read_enc a pre post h := by
    have hlen := length_enc a h
    rw [Access.run_bind_ok (load_of_le (by simp [hlen]))]
    rw [List.drop_left, List.take_left' hlen, dec_enc a h, hlen]
    rfl
  read_of_le mem off h := by
    have hlen : ((mem.drop off).take n).length = n := by
      rw [List.length_take, List.length_drop]
      omega
    refine ⟨dec ((mem.drop off).take n), valid_dec _ hlen, ?_, ?_⟩
    · rw [Access.run_bind_ok (load_of_le h)]
      rfl
    · rw [enc_dec _ hlen, ← List.drop_drop, List.take_append_drop]
  read_of_lt mem off hoff h := Access.run_bind_error (load_of_lt hoff h) _

/-- One byte. -/
def byte : Format Byte :=
  fixed 1 (fun _ => True) (fun b => [b]) (fun bs => bs.headD 0) (by simp) (by simp) (by simp)
    (by
      intro bs h
      obtain ⟨b, rfl⟩ := List.length_eq_one_iff.mp h
      rfl)

/-- A word of `n` bytes, in network order when `be`. -/
def word (n : ℕ) (be : Bool) : Format (Word n) :=
  fixed n (fun _ => True) (wordBytes be) (ofWordBytes n be) (by simp) (by simp) (by simp)
    (fun _ h => wordBytes_ofWordBytes be h)

/-- An array of `n` bytes. -/
def array (n : ℕ) : Format (Vector Byte n) :=
  fixed n (fun _ => True) (fun v => v.toList) (arrayOf n) (by simp) (by simp) (by simp)
    (fun _ h => toList_arrayOf h)

/-- A string of `n` characters. -/
def chars (n : ℕ) : Format (List Byte) :=
  fixed n (fun s => s.length = n) id id (fun _ h => h) (fun _ _ => rfl) (fun _ h => h)
    (fun _ _ => rfl)

/-! ## Readers on a buffer -/

/-- Every computation that reads a value and keeps a function of it sees the same value, and
stops exactly when the value does not fit. -/
theorem loadFrom_of_le (F : Format α) {mem : List Byte} {off : ℕ}
    (h : off + F.span (mem.drop off) ≤ mem.length) :
    ∃ a, F.Valid a ∧
      (∀ {β : Type} {f : α → β} {p : Access β}, (p = F.read >>= fun a => pure (f a)) →
        p.loadFrom (some mem) off = .ok (f a, off + F.span (mem.drop off))) ∧
      mem.drop off = F.enc a ++ mem.drop (off + F.span (mem.drop off)) := by
  obtain ⟨a, ha, hread, hsplit⟩ := F.read_of_le mem off h
  refine ⟨a, ha, ?_, hsplit⟩
  intro β f p hp
  rw [Access.loadFrom, hp, Option.getD_some, Access.run_bind_ok hread]
  rfl

/-- The value that stands at an offset of a region, where there is one. -/
def valueAt [Inhabited α] (F : Format α) (mem : List Byte) (off : ℕ) : α :=
  match F.read.run ⟨mem, off⟩ with
  | .ok (a, _) => a
  | .error _ => default

theorem loadFrom_valueAt [Inhabited α] (F : Format α) {f : α → β} {p : Access β}
    (hp : p = F.read >>= fun a => pure (f a)) {mem : List Byte} {off : ℕ}
    (h : off + F.span (mem.drop off) ≤ mem.length) :
    p.loadFrom (some mem) off = .ok (f (F.valueAt mem off), off + F.span (mem.drop off)) := by
  obtain ⟨a, -, hread, -⟩ := F.read_of_le mem off h
  rw [Access.loadFrom, hp, Option.getD_some, Access.run_bind_ok hread, valueAt, hread]
  rfl

theorem valueAt_valid [Inhabited α] (F : Format α) {mem : List Byte} {off : ℕ}
    (h : off + F.span (mem.drop off) ≤ mem.length) : F.Valid (F.valueAt mem off) := by
  obtain ⟨a, ha, hread, -⟩ := F.read_of_le mem off h
  rw [valueAt, hread]
  exact ha

theorem loadFrom_of_lt (F : Format α) {f : α → β} {p : Access β}
    (hp : p = F.read >>= fun a => pure (f a)) {mem : List Byte} {off : ℕ}
    (hoff : off ≤ mem.length) (h : mem.length < off + F.span (mem.drop off)) :
    p.loadFrom (some mem) off = .error .read := by
  rw [Access.loadFrom, hp, Option.getD_some, Access.run_bind_error (F.read_of_lt mem off hoff h)]

theorem loadFrom_enc (F : Format α) {f : α → β} {p : Access β}
    (hp : p = F.read >>= fun a => pure (f a)) {a : α} (ha : F.Valid a) (pre post : List Byte) :
    p.loadFrom (some (pre ++ (F.enc a ++ post))) pre.length =
      .ok (f a, pre.length + (F.enc a).length) := by
  rw [Access.loadFrom, hp, Option.getD_some, Access.run_bind_ok (F.read_enc a pre post ha)]
  rfl

/-! ## Composition -/

/-- One value followed by another. -/
def seq (F : Format α) (G : Format β) : Format (α × β) where
  Valid p := F.Valid p.1 ∧ G.Valid p.2
  enc p := F.enc p.1 ++ G.enc p.2
  span bs := F.span bs + G.span (bs.drop (F.span bs))
  read := do
    let a ← F.read
    let b ← G.read
    pure (a, b)
  read_enc := by
    rintro ⟨a, b⟩ pre post ⟨ha, hb⟩
    have hF := F.read_enc a pre (G.enc b ++ post) ha
    have hG := G.read_enc b (pre ++ F.enc a) post hb
    simp only [List.append_assoc, List.length_append] at hF hG ⊢
    rw [Access.run_bind_ok hF, Access.run_bind_ok hG, Access.run_pure, Nat.add_assoc]
  read_of_le mem off h := by
    obtain ⟨a, ha, hF, hsplit⟩ := F.read_of_le mem off (by omega)
    rw [List.drop_drop] at h
    obtain ⟨b, hb, hG, hsplit'⟩ := G.read_of_le mem (off + F.span (mem.drop off)) (by omega)
    refine ⟨(a, b), ⟨ha, hb⟩, ?_, ?_⟩
    · rw [Access.run_bind_ok hF, Access.run_bind_ok hG, Access.run_pure, List.drop_drop,
        Nat.add_assoc]
    · rw [List.drop_drop, ← Nat.add_assoc, List.append_assoc, ← hsplit']
      exact hsplit
  read_of_lt mem off hoff h := by
    rw [List.drop_drop] at h
    by_cases hF : off + F.span (mem.drop off) ≤ mem.length
    · obtain ⟨a, -, hread, -⟩ := F.read_of_le mem off hF
      rw [Access.run_bind_ok hread]
      exact Access.run_bind_error (G.read_of_lt mem _ hF (by omega)) _
    · exact Access.run_bind_error (F.read_of_lt mem off hoff (Nat.lt_of_not_ge hF)) _

/-- A tag byte followed by a value whose format the tag selects. -/
def tagged (G : Byte → Format β) : Format (Byte × β) where
  Valid p := (G p.1).Valid p.2
  enc p := p.1 :: (G p.1).enc p.2
  span bs := 1 + (G (bs.headD 0)).span (bs.drop 1)
  read := do
    let t ← loadByte
    let b ← (G t).read
    pure (t, b)
  read_enc := by
    rintro ⟨t, b⟩ pre post hb
    have ht : loadByte.run ⟨pre ++ (t :: (G t).enc b ++ post), pre.length⟩ =
        .ok (t, ⟨pre ++ (t :: (G t).enc b ++ post), pre.length + 1⟩) :=
      byte.read_enc t pre ((G t).enc b ++ post) trivial
    have hG := (G t).read_enc b (pre ++ [t]) post hb
    simp only [List.append_assoc, List.length_append, List.length_singleton,
      List.singleton_append] at hG
    rw [Access.run_bind_ok ht]
    apply (Access.run_bind_ok hG _).trans
    rw [Access.run_pure, List.length_cons, Nat.add_assoc, Nat.add_comm 1]
    rfl
  read_of_le mem off h := by
    obtain ⟨t, -, ht, hsplit⟩ := byte.read_of_le mem off (by
      change off + 1 ≤ mem.length
      omega)
    change mem.drop off = [t] ++ mem.drop (off + 1) at hsplit
    have hhead : (mem.drop off).headD 0 = t := by
      rw [hsplit]
      rfl
    rw [hhead, List.drop_drop] at h ⊢
    obtain ⟨b, hb, hG, hsplit'⟩ := (G t).read_of_le mem (off + 1) (by omega)
    refine ⟨(t, b), hb, ?_, ?_⟩
    · rw [Nat.add_assoc] at hG
      exact (Access.run_bind_ok ht _).trans (Access.run_bind_ok hG _)
    · rw [← Nat.add_assoc, List.cons_append, ← hsplit']
      exact hsplit
  read_of_lt mem off hoff h := by
    by_cases ht : off + 1 ≤ mem.length
    · obtain ⟨t, -, hread, hsplit⟩ := byte.read_of_le mem off ht
      change mem.drop off = [t] ++ mem.drop (off + 1) at hsplit
      have hhead : (mem.drop off).headD 0 = t := by
        rw [hsplit]
        rfl
      rw [hhead, List.drop_drop] at h
      exact (Access.run_bind_ok hread _).trans
        (Access.run_bind_error ((G t).read_of_lt mem _ ht (by omega)) _)
    · exact Access.run_bind_error (byte.read_of_lt mem off hoff (Nat.lt_of_not_ge ht)) _

/-- The same bytes under another type of values. -/
def imap (F : Format α) (f : α → β) (g : β → α) (left_inv : ∀ a, g (f a) = a)
    (right_inv : ∀ b, f (g b) = b) : Format β where
  Valid b := F.Valid (g b)
  enc b := F.enc (g b)
  span := F.span
  read := do
    let a ← F.read
    pure (f a)
  read_enc b pre post h := by
    rw [Access.run_bind_ok (F.read_enc (g b) pre post h), Access.run_pure, right_inv]
  read_of_le mem off h := by
    obtain ⟨a, ha, hread, hsplit⟩ := F.read_of_le mem off h
    refine ⟨f a, by rwa [left_inv], ?_, by rwa [left_inv]⟩
    rw [Access.run_bind_ok hread, Access.run_pure]
  read_of_lt mem off hoff h := Access.run_bind_error (F.read_of_lt mem off hoff h) _

/-- Read `n` values one after another. -/
def readMany (F : Format α) : ℕ → Access (List α)
  | 0 => pure []
  | n + 1 => do
    let a ← F.read
    let as ← readMany F n
    pure (a :: as)

/-- The span of `n` values one after another. -/
def spanMany (F : Format α) : ℕ → List Byte → ℕ
  | 0, _ => 0
  | n + 1, bs => F.span bs + spanMany F n (bs.drop (F.span bs))

theorem readMany_enc (F : Format α) (as : List α) (pre post : List Byte)
    (h : ∀ a ∈ as, F.Valid a) :
    (readMany F as.length).run ⟨pre ++ (as.flatMap F.enc ++ post), pre.length⟩ =
      .ok (as, ⟨pre ++ (as.flatMap F.enc ++ post), pre.length + (as.flatMap F.enc).length⟩) := by
  induction as generalizing pre with
  | nil => rfl
  | cons a as ih =>
      have ha := F.read_enc a pre (as.flatMap F.enc ++ post) (h a (by simp))
      have has := ih (pre ++ F.enc a) (fun b hb => h b (by simp [hb]))
      simp only [List.append_assoc, List.length_append] at ha has
      simp only [List.length_cons, readMany, List.flatMap_cons, List.append_assoc,
        List.length_append]
      rw [Access.run_bind_ok ha, Access.run_bind_ok has, Access.run_pure, Nat.add_assoc]

theorem readMany_of_le (F : Format α) (n : ℕ) (mem : List Byte) (off : ℕ)
    (h : off + spanMany F n (mem.drop off) ≤ mem.length) :
    ∃ as : List α, (as.length = n ∧ ∀ a ∈ as, F.Valid a) ∧
      (readMany F n).run ⟨mem, off⟩ = .ok (as, ⟨mem, off + spanMany F n (mem.drop off)⟩) ∧
      mem.drop off = as.flatMap F.enc ++ mem.drop (off + spanMany F n (mem.drop off)) := by
  induction n generalizing off with
  | zero => exact ⟨[], by simp, rfl, by simp [spanMany]⟩
  | succ n ih =>
      simp only [spanMany, List.drop_drop] at h ⊢
      obtain ⟨a, ha, hread, hsplit⟩ := F.read_of_le mem off (by omega)
      obtain ⟨as, ⟨hlen, has⟩, hreads, hsplits⟩ := ih (off + F.span (mem.drop off)) (by omega)
      refine ⟨a :: as, ⟨by simp [hlen], by simpa using ⟨ha, has⟩⟩, ?_, ?_⟩
      · rw [readMany, Access.run_bind_ok hread, Access.run_bind_ok hreads, Access.run_pure,
          Nat.add_assoc]
      · rw [← Nat.add_assoc, List.flatMap_cons, List.append_assoc, ← hsplits]
        exact hsplit

theorem readMany_of_lt (F : Format α) (n : ℕ) (mem : List Byte) (off : ℕ)
    (hoff : off ≤ mem.length) (h : mem.length < off + spanMany F n (mem.drop off)) :
    (readMany F n).run ⟨mem, off⟩ = .error .read := by
  induction n generalizing off with
  | zero =>
      simp only [spanMany] at h
      omega
  | succ n ih =>
      simp only [spanMany, List.drop_drop] at h
      by_cases hF : off + F.span (mem.drop off) ≤ mem.length
      · obtain ⟨a, -, hread, -⟩ := F.read_of_le mem off hF
        rw [readMany, Access.run_bind_ok hread]
        exact Access.run_bind_error (ih _ hF (by omega)) _
      · exact Access.run_bind_error (F.read_of_lt mem off hoff (Nat.lt_of_not_ge hF)) _

/-- A sequence of `n` values. -/
def many (n : ℕ) (F : Format α) : Format (List α) where
  Valid as := as.length = n ∧ ∀ a ∈ as, F.Valid a
  enc as := as.flatMap F.enc
  span := spanMany F n
  read := readMany F n
  read_enc := by
    rintro as pre post ⟨rfl, h⟩
    exact readMany_enc F as pre post h
  read_of_le := readMany_of_le F n
  read_of_lt := readMany_of_lt F n

/-- A sequence of values of one width spans that many times the width. -/
theorem spanMany_of_const {F : Format α} {k : ℕ} (h : ∀ bs, F.span bs = k) (n : ℕ)
    (bs : List Byte) : spanMany F n bs = k * n := by
  induction n generalizing bs with
  | zero => rfl
  | succ n ih => rw [spanMany, ih, h, Nat.mul_succ, Nat.add_comm]

/-- So does their encoding. -/
theorem length_flatMap_of_const {enc : α → List Byte} {k : ℕ} (h : ∀ a, (enc a).length = k)
    (as : List α) : (as.flatMap enc).length = k * as.length := by
  induction as with
  | nil => rfl
  | cons a as ih => rw [List.flatMap_cons, List.length_append, ih, h, List.length_cons,
      Nat.mul_succ, Nat.add_comm]

/-! ## Computation rules -/

@[simp] theorem byte_span (bs : List Byte) : byte.span bs = 1 := rfl
@[simp] theorem byte_enc (b : Byte) : byte.enc b = [b] := rfl
@[simp] theorem byte_valid (b : Byte) : byte.Valid b := trivial
@[simp] theorem byte_read : byte.read = loadByte := rfl

@[simp] theorem word_span (n : ℕ) (be : Bool) (bs : List Byte) : (word n be).span bs = n := rfl
@[simp] theorem word_enc {n : ℕ} (be : Bool) (x : Word n) :
    (word n be).enc x = wordBytes be x := rfl
@[simp] theorem word_valid {n : ℕ} (be : Bool) (x : Word n) : (word n be).Valid x := trivial
@[simp] theorem word_read (n : ℕ) (be : Bool) : (word n be).read = loadWord n be := rfl

@[simp] theorem array_span (n : ℕ) (bs : List Byte) : (array n).span bs = n := rfl
@[simp] theorem array_enc {n : ℕ} (v : Vector Byte n) : (array n).enc v = v.toList := rfl
@[simp] theorem array_valid {n : ℕ} (v : Vector Byte n) : (array n).Valid v := trivial
@[simp] theorem array_read (n : ℕ) : (array n).read = loadArray n := rfl

@[simp] theorem chars_span (n : ℕ) (bs : List Byte) : (chars n).span bs = n := rfl
@[simp] theorem chars_enc (n : ℕ) (s : List Byte) : (chars n).enc s = s := rfl
@[simp] theorem chars_valid (n : ℕ) (s : List Byte) : (chars n).Valid s ↔ s.length = n := Iff.rfl
@[simp] theorem chars_read (n : ℕ) : (chars n).read = load n := by
  simp [chars, fixed]

@[simp] theorem seq_span (F : Format α) (G : Format β) (bs : List Byte) :
    (F.seq G).span bs = F.span bs + G.span (bs.drop (F.span bs)) := rfl
@[simp] theorem seq_enc (F : Format α) (G : Format β) (a : α) (b : β) :
    (F.seq G).enc (a, b) = F.enc a ++ G.enc b := rfl
@[simp] theorem seq_valid (F : Format α) (G : Format β) (a : α) (b : β) :
    (F.seq G).Valid (a, b) ↔ F.Valid a ∧ G.Valid b := Iff.rfl
@[simp] theorem seq_read (F : Format α) (G : Format β) :
    (F.seq G).read = (do
      let a ← F.read
      let b ← G.read
      pure (a, b)) := rfl

@[simp] theorem tagged_span (G : Byte → Format β) (bs : List Byte) :
    (tagged G).span bs = 1 + (G (bs.headD 0)).span (bs.drop 1) := rfl
@[simp] theorem tagged_enc (G : Byte → Format β) (t : Byte) (b : β) :
    (tagged G).enc (t, b) = t :: (G t).enc b := rfl
@[simp] theorem tagged_valid (G : Byte → Format β) (t : Byte) (b : β) :
    (tagged G).Valid (t, b) ↔ (G t).Valid b := Iff.rfl
@[simp] theorem tagged_read (G : Byte → Format β) :
    (tagged G).read = (do
      let t ← loadByte
      let b ← (G t).read
      pure (t, b)) := rfl

@[simp] theorem many_enc (n : ℕ) (F : Format α) (as : List α) :
    (many n F).enc as = as.flatMap F.enc := rfl
@[simp] theorem many_valid (n : ℕ) (F : Format α) (as : List α) :
    (many n F).Valid as ↔ as.length = n ∧ ∀ a ∈ as, F.Valid a := Iff.rfl
@[simp] theorem many_read (n : ℕ) (F : Format α) : (many n F).read = readMany F n := rfl
@[simp] theorem many_span (n : ℕ) (F : Format α) (bs : List Byte) :
    (many n F).span bs = spanMany F n bs := rfl

end Format

end Csae295.Library
