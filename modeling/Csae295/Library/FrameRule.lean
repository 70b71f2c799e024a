import Csae295.Library.Format

/-! The frame rule of checked access: what runs through on a region runs through in the same way on
every region that begins with it, and leaves the rest of that region as it was.

For a value in a format there is a converse. It tells every byte of its encoding, so a reader that
returns the same value whatever lies behind a region has not left the region. -/

namespace Csae295.Library

/-! ## Computations on a region -/

namespace Access

variable {α β : Type}

def Framed (p : Access α) : Prop :=
  ∀ ⦃mem : List Byte⦄ ⦃off : ℕ⦄ ⦃a : α⦄ ⦃c : Cursor⦄, p.run ⟨mem, off⟩ = .ok (a, c) →
    c.mem.length = mem.length ∧
      ∀ rest, p.run ⟨mem ++ rest, off⟩ = .ok (a, ⟨c.mem ++ rest, c.offset⟩)

theorem framed_pure (a : α) : (pure a : Access α).Framed := by
  rintro mem off _ _ ⟨⟩
  exact ⟨rfl, fun _ => rfl⟩

theorem framed_fault (e : Fault) : (fault e : Access α).Framed := by
  intro mem off a c h
  cases h

theorem Framed.bind {p : Access α} {f : α → Access β} (hp : p.Framed) (hf : ∀ a, (f a).Framed) :
    (p >>= f).Framed := by
  intro mem off b c h
  cases hrun : p.run ⟨mem, off⟩ with
  | error e =>
      rw [run_bind_error hrun] at h
      cases h
  | ok r =>
      rw [run_bind_ok hrun] at h
      obtain ⟨hlen, hframe⟩ := hp hrun
      obtain ⟨hlen', hframe'⟩ := hf _ h
      refine ⟨hlen'.trans hlen, fun rest => ?_⟩
      rw [run_bind_ok (hframe rest)]
      exact hframe' rest

theorem Framed.ite {p q : Access α} {t : Prop} [Decidable t] (hp : p.Framed) (hq : q.Framed) :
    (if t then p else q).Framed := by
  split
  · exact hp
  · exact hq

theorem framed_load (n : ℕ) : (load n).Framed := by
  intro mem off a c h
  by_cases hle : n ≤ mem.length - off
  · have hrun : (load n).run ⟨mem, off⟩ = .ok ((mem.drop off).take n, ⟨mem, off + n⟩) := if_pos hle
    rw [hrun] at h
    cases h
    refine ⟨rfl, fun rest => ?_⟩
    by_cases hoff : off ≤ mem.length
    · rw [load_of_le (by rw [List.length_append]; omega), List.drop_append_of_le_length hoff,
        List.take_append_of_le_length (by rwa [List.length_drop])]
    · obtain rfl : n = 0 := by omega
      rw [load_zero]
      simp
  · have hrun : (load n).run ⟨mem, off⟩ = .error .read := if_neg hle
    rw [hrun] at h
    cases h

theorem framed_loadByte : loadByte.Framed := (framed_load 1).bind fun _ => framed_pure _

theorem framed_loadWord (n : ℕ) (be : Bool) : (loadWord n be).Framed :=
  (framed_load n).bind fun _ => framed_pure _

theorem framed_loadArray (n : ℕ) : (loadArray n).Framed :=
  (framed_load n).bind fun _ => framed_pure _

theorem framed_store (bs : List Byte) : (store bs).Framed := by
  intro mem off a c h
  by_cases hle : off + bs.length ≤ mem.length
  · rw [store_of_le hle] at h
    cases h
    refine ⟨?_, fun rest => ?_⟩
    · simp only [List.length_append, List.length_take, List.length_drop]
      omega
    rw [store_of_le (by rw [List.length_append]; omega), List.take_append_of_le_length (by omega),
      List.drop_append_of_le_length hle]
    simp only [List.append_assoc]
  · cases bs with
    | nil =>
        rw [store_nil] at h ⊢
        exact framed_pure () h
    | cons b bs =>
        have hrun : (store (b :: bs)).run ⟨mem, off⟩ = .error .write := if_neg (by
          simp only [List.length_cons] at hle ⊢
          omega)
        rw [hrun] at h
        cases h

theorem framed_storeWord {n : ℕ} (be : Bool) (x : Word n) : (storeWord be x).Framed :=
  framed_store _

theorem framed_elementAt (xs : List α) (i : ℕ) : (elementAt xs i).Framed := by
  unfold elementAt
  split
  · exact framed_pure _
  · exact framed_fault _

theorem framed_assignAt (xs : List α) (i : ℕ) (x : α) : (assignAt xs i x).Framed :=
  (framed_pure _).ite (framed_fault _)

theorem framed_charsOf (s : List Byte) (n : ℕ) : (charsOf s n).Framed :=
  (framed_pure _).ite (framed_fault _)

end Access

/-! ## Calls on a buffer -/

section

variable {α β : Type}

/-- A call that reads a region and returns does not notice what lies behind it. -/
def FramedReader (f : Buffer → Except Fault α) : Prop :=
  ∀ ⦃mem : List Byte⦄ ⦃a : α⦄, f (some mem) = .ok a → ∀ rest, f (some (mem ++ rest)) = .ok a

/-- A call that writes a region and returns writes the same in a longer region, and leaves what
lies behind as it was. -/
def FramedWriter (f : Buffer → Except Fault (Buffer × ℕ)) : Prop :=
  ∀ ⦃mem : List Byte⦄ ⦃buf : Buffer⦄ ⦃n : ℕ⦄, f (some mem) = .ok (buf, n) → ∃ mem',
    buf = some mem' ∧ mem'.length = mem.length ∧
      ∀ rest, f (some (mem ++ rest)) = .ok (some (mem' ++ rest), n)

theorem framedReader_const (x : Except Fault α) : FramedReader fun _ => x := fun _ _ h _ => h

theorem FramedReader.bind {f : Buffer → Except Fault α} {g : α → Buffer → Except Fault β}
    (hf : FramedReader f) (hg : ∀ a, FramedReader (g a)) :
    FramedReader fun buf => f buf >>= fun a => g a buf := by
  intro mem b h rest
  cases hrun : f (some mem) with
  | error e =>
      simp only [hrun] at h
      cases h
  | ok a =>
      simp only [hrun, ok_bind] at h
      simp only [hf hrun rest, ok_bind]
      exact hg a h rest

theorem FramedReader.map {f : Buffer → Except Fault α} (hf : FramedReader f) (g : α → β) :
    FramedReader fun buf => (f buf).map g := by
  intro mem b h rest
  cases hrun : f (some mem) with
  | error e =>
      simp only [hrun] at h
      cases h
  | ok a =>
      simp only [hrun] at h
      simp only [hf hrun rest]
      exact h

/-- A test that treats all regions alike, as the one for a null pointer does. -/
theorem FramedReader.guard {f g : Buffer → Except Fault α} {t : Buffer → Prop} [DecidablePred t]
    (hf : FramedReader f) (hg : FramedReader g) (ht : ∀ mem mem', t (some mem) ↔ t (some mem')) :
    FramedReader fun buf => if t buf then f buf else g buf := by
  intro mem a h rest
  by_cases htest : t (some mem)
  · simp only [if_pos htest] at h
    simp only [if_pos ((ht mem (mem ++ rest)).mp htest)]
    exact hf h rest
  · simp only [if_neg htest] at h
    simp only [if_neg fun h => htest ((ht mem (mem ++ rest)).mpr h)]
    exact hg h rest

theorem FramedReader.ite {f g : Buffer → Except Fault α} {t : Prop} [Decidable t]
    (hf : FramedReader f) (hg : FramedReader g) :
    FramedReader fun buf => if t then f buf else g buf :=
  hf.guard hg fun _ _ => Iff.rfl

theorem Access.Framed.loadFrom {p : Access α} (h : p.Framed) (off : ℕ) :
    FramedReader fun buf => p.loadFrom buf off := by
  intro mem a hrun rest
  simp only [Access.loadFrom, Option.getD_some] at hrun ⊢
  cases hp : p.run ⟨mem, off⟩ with
  | error e =>
      rw [hp] at hrun
      cases hrun
  | ok r =>
      rw [hp] at hrun
      rw [(h hp).2 rest]
      exact hrun

theorem framedWriter_keep (n : ℕ) : FramedWriter fun buf => .ok (buf, n) := by
  rintro mem _ _ ⟨⟩
  exact ⟨mem, rfl, rfl, fun _ => rfl⟩

theorem FramedWriter.bind {f : Buffer → Except Fault (Buffer × ℕ)}
    {g : Buffer × ℕ → Except Fault (Buffer × ℕ)} (hf : FramedWriter f)
    (hg : ∀ n, FramedWriter fun buf => g (buf, n)) : FramedWriter fun buf => f buf >>= g := by
  intro mem buf n h
  cases hrun : f (some mem) with
  | error e =>
      simp only [hrun] at h
      cases h
  | ok r =>
      simp only [hrun, ok_bind] at h
      obtain ⟨buf', n'⟩ := r
      obtain ⟨mem', rfl, hlen, hframe⟩ := hf hrun
      obtain ⟨mem'', hbuf, hlen', hframe'⟩ := hg n' h
      refine ⟨mem'', hbuf, hlen'.trans hlen, fun rest => ?_⟩
      simp only [hframe rest, ok_bind]
      exact hframe' rest

theorem FramedWriter.guard {f g : Buffer → Except Fault (Buffer × ℕ)} {t : Buffer → Prop}
    [DecidablePred t] (hf : FramedWriter f) (hg : FramedWriter g)
    (ht : ∀ mem mem', t (some mem) ↔ t (some mem')) :
    FramedWriter fun buf => if t buf then f buf else g buf := by
  intro mem buf n h
  by_cases htest : t (some mem)
  · simp only [if_pos htest] at h
    obtain ⟨mem', hbuf, hlen, hframe⟩ := hf h
    refine ⟨mem', hbuf, hlen, fun rest => ?_⟩
    simp only [if_pos ((ht mem (mem ++ rest)).mp htest)]
    exact hframe rest
  · simp only [if_neg htest] at h
    obtain ⟨mem', hbuf, hlen, hframe⟩ := hg h
    refine ⟨mem', hbuf, hlen, fun rest => ?_⟩
    simp only [if_neg fun h => htest ((ht mem (mem ++ rest)).mpr h)]
    exact hframe rest

theorem FramedWriter.ite {f g : Buffer → Except Fault (Buffer × ℕ)} {t : Prop} [Decidable t]
    (hf : FramedWriter f) (hg : FramedWriter g) :
    FramedWriter fun buf => if t then f buf else g buf :=
  hf.guard hg fun _ _ => Iff.rfl

theorem Access.Framed.storeTo {p : Access Unit} (h : p.Framed) (off : ℕ) :
    FramedWriter fun buf => p.storeTo buf off := by
  intro mem buf n hrun
  simp only [Access.storeTo, Option.getD_some] at hrun ⊢
  cases hp : p.run ⟨mem, off⟩ with
  | error e =>
      rw [hp] at hrun
      cases hrun
  | ok r =>
      rw [hp] at hrun
      cases hrun
      refine ⟨r.2.mem, rfl, (h hp).1, fun rest => ?_⟩
      rw [(h hp).2 rest]
      rfl

end

/-! ## What a format tells -/

theorem prefix_of_same {α : Type} {pre mem rest rest' : List α} {x y : α} (hxy : x ≠ y)
    (h : pre <+: mem ++ x :: rest) (h' : pre <+: mem ++ y :: rest') : pre <+: mem := by
  rcases List.prefix_or_prefix_of_prefix h (List.prefix_append mem _) with hpre | ⟨post, rfl⟩
  · exact hpre
  rw [List.prefix_append_right_inj] at h h'
  cases post with
  | nil => rw [List.append_nil]
  | cons z post =>
      obtain ⟨rfl, -⟩ := List.cons_prefix_cons.mp h
      exact absurd (List.cons_prefix_cons.mp h').1 hxy

namespace Format

variable {α β : Type} (F : Format α) {mem rest rest' : List Byte} {off : ℕ} {x y : Byte}

theorem loadFrom_ok {f : α → β} {p : Access β} (hp : p = F.read >>= fun a => pure (f a))
    (hoff : off ≤ mem.length) {b : β} {n : ℕ} (h : p.loadFrom (some mem) off = .ok (b, n)) :
    ∃ a, F.Valid a ∧ f a = b ∧ F.enc a <+: mem.drop off := by
  rw [Access.loadFrom, hp, Option.getD_some] at h
  cases hrun : F.read.run ⟨mem, off⟩ with
  | error e =>
      rw [Access.run_bind_error hrun] at h
      cases h
  | ok r =>
      obtain ⟨hvalid, -, hsplit⟩ := F.read_ok hoff hrun
      rw [Access.run_bind_ok hrun] at h
      cases h
      exact ⟨_, hvalid, rfl, ⟨_, hsplit.symm⟩⟩

/-- What is read alike whatever comes behind a region stands in the region. -/
theorem loadFrom_of_same {f : α → β} {p : Access β} (hp : p = F.read >>= fun a => pure (f a))
    (hf : ∀ a a', F.Valid a → F.Valid a' → f a = f a' → a = a') (hoff : off ≤ mem.length)
    (hxy : x ≠ y) {b : β} {n n' : ℕ} (h : p.loadFrom (some (mem ++ x :: rest)) off = .ok (b, n))
    (h' : p.loadFrom (some (mem ++ y :: rest')) off = .ok (b, n')) :
    ∃ n, p.loadFrom (some mem) off = .ok (b, n) := by
  have hle : ∀ rest : List Byte, off ≤ (mem ++ rest).length := by
    intro rest
    rw [List.length_append]
    omega
  obtain ⟨a, hvalid, rfl, henc⟩ := F.loadFrom_ok hp (hle _) h
  obtain ⟨a', hvalid', heq, henc'⟩ := F.loadFrom_ok hp (hle _) h'
  obtain rfl := hf a' a hvalid' hvalid heq
  rw [List.drop_append_of_le_length hoff] at henc henc'
  obtain ⟨post, hpost⟩ := prefix_of_same hxy henc henc'
  have hload := F.loadFrom_enc hp hvalid (mem.take off) post
  rw [hpost, List.take_append_drop, List.length_take, min_eq_left hoff] at hload
  exact ⟨_, hload⟩

end Format

end Csae295.Library
