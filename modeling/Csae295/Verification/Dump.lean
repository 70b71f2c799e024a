import Csae295.Verification.PrintSafety

/-! The printed text of a vehicle state against an annotated hex dump of its frame.

The printer walks over the fields a second time, with running offsets and widths of its own. Its
text is the dump of the encoder's bytes line by line, except for the steering angle, which is
printed with too few digits, the message identifier, whose digits are reversed instead of its
bytes, and the second version's offsets, which start from the length in elements. -/

namespace Csae295

open Library

/-! ## Hexadecimal digits of bytes -/

theorem hexUpper_length (width n : ℕ) :
    (hexUpper width n).length = max width (Nat.toDigits 16 n).length := by
  simp only [hexUpper, ascii_length, List.length_append, List.length_replicate, List.length_map]
  omega

/-- The last digit comes off the end of a text that is wider than one digit. -/
theorem hexUpper_succ {width : ℕ} (hwidth : 0 < width) (n : ℕ) :
    hexUpper (width + 1) n = hexUpper width (n / 16) ++ hexUpper 1 (n % 16) := by
  have hdigit : Nat.toDigits 16 (n % 16) = [(n % 16).digitChar] :=
    Nat.toDigits_of_lt_base (Nat.mod_lt n (by decide))
  by_cases hn : n < 16
  · have hzero : n / 16 = 0 := Nat.div_eq_of_lt hn
    obtain ⟨width, rfl⟩ := Nat.exists_eq_succ_of_ne_zero hwidth.ne'
    rw [hexUpper, hexUpper, hexUpper, hdigit, Nat.toDigits_of_lt_base hn, Nat.mod_eq_of_lt hn, hzero,
      Nat.toDigits_zero]
    simp [ascii, List.replicate_succ']
  · have happend : Nat.toDigits 16 n = Nat.toDigits 16 (n / 16) ++ [(n % 16).digitChar] :=
      Nat.toDigits_of_base_le (by decide) (Nat.le_of_not_lt hn)
    rw [hexUpper, hexUpper, hexUpper, hdigit, happend]
    simp [ascii]

theorem hexUpper_add_two {width : ℕ} (hwidth : 0 < width) (n : ℕ) :
    hexUpper (width + 2) n = hexUpper width (n / 256) ++ hexUpper 2 (n % 256) := by
  have hlow : n / 16 % 16 = n % 256 / 16 := by omega
  have hlow' : n % 16 = n % 256 % 16 := by omega
  rw [hexUpper_succ (Nat.succ_pos width), hexUpper_succ hwidth, hexUpper_succ Nat.one_pos,
    Nat.div_div_eq_div_mul, hlow, hlow', List.append_assoc]

/-- The bytes of a number, most significant first, have its digits. -/
theorem hexOf_natBytes (n v : ℕ) (hv : v < 256 ^ (n + 1)) :
    hexOf (natBytes (n + 1) v).reverse = hexUpper (2 * (n + 1)) v := by
  induction n generalizing v with
  | zero =>
      have hv : v < 256 := by simpa using hv
      simp [natBytes, hexOf, Nat.mod_eq_of_lt hv]
  | succ n ih =>
      have hrest : v / 256 < 256 ^ (n + 1) := by
        rw [Nat.div_lt_iff_lt_mul (by decide), ← pow_succ]
        exact hv
      have hbyte : (BitVec.ofNat 8 v).toNat = v % 256 := by simp
      rw [natBytes, List.reverse_cons, hexOf, List.flatMap_append, ← hexOf, ih _ hrest,
        show 2 * (n + 1 + 1) = 2 * (n + 1) + 2 by omega, hexUpper_add_two (by omega)]
      simp [hbyte]

theorem hexOf_wordBytes {n : ℕ} (hn : 0 < n) (x : Word n) :
    hexOf (wordBytes true x) = hexUpper (2 * n) x.toNat := by
  obtain ⟨n, rfl⟩ := Nat.exists_eq_succ_of_ne_zero hn.ne'
  have hx : x.toNat < 256 ^ (n + 1) := two_pow_eight_mul (n + 1) ▸ x.isLt
  rw [wordBytes, if_pos rfl, leBytes_bswap, leBytes, hexOf_natBytes n _ hx]

/-- Digits that are not padded to the full width are those of the full width only where the
number has so many. -/
theorem hexUpper_eq_iff {width full n : ℕ} (hfull : 1 < full) (hwidth : width < full)
    (hn : n < 16 ^ full) :
    hexUpper width n = hexUpper full n ↔ 16 ^ (full - 1) ≤ n := by
  have hle := (Nat.length_toDigits_le_iff (b := 16) (by decide) (Nat.zero_lt_of_lt hfull)).mpr hn
  have hlt := Nat.length_toDigits_le_iff (b := 16) (n := n) (by decide) (Nat.sub_pos_of_lt hfull)
  constructor
  · intro heq
    have hlen := congrArg List.length heq
    rw [hexUpper_length, hexUpper_length] at hlen
    by_contra hsmall
    have hdigits := hlt.mpr (Nat.lt_of_not_ge hsmall)
    omega
  · intro hlarge
    have hdigits : ¬ (Nat.toDigits 16 n).length ≤ full - 1 := fun hdigits =>
      absurd (hlt.mp hdigits) (Nat.not_lt_of_ge hlarge)
    have hpad : width - ((Nat.toDigits 16 n).map Char.toUpper).length = 0 := by
      rw [List.length_map]
      omega
    have hpad' : full - ((Nat.toDigits 16 n).map Char.toUpper).length = 0 := by
      rw [List.length_map]
      omega
    simp only [hexUpper, hpad, hpad']

/-- Both digits of the byte are the same. -/
def SameDigits (b : Byte) : Prop := b.toNat / 16 = b.toNat % 16

instance (b : Byte) : Decidable (SameDigits b) := inferInstanceAs (Decidable (_ = _))

theorem hexUpper_reverse_iff (b : Byte) :
    (hexUpper 2 b.toNat).reverse = hexUpper 2 b.toNat ↔ SameDigits b := by
  revert b
  decide +kernel

/-- Reversed digits are the digits of the reversed bytes only where every byte has twice the same
digit. -/
theorem hexOf_reverse_iff (bytes : List Byte) :
    (hexOf bytes).reverse = hexOf bytes.reverse ↔ ∀ b ∈ bytes, SameDigits b := by
  induction bytes with
  | nil => simp [hexOf]
  | cons b bytes ih =>
      have hlen : (hexOf bytes).reverse.length = (hexOf bytes.reverse).length := by
        rw [List.length_reverse, hexOf_length, hexOf_length, List.length_reverse]
      rw [List.forall_mem_cons, ← ih, ← hexUpper_reverse_iff, List.reverse_cons, hexOf,
        List.flatMap_cons, ← hexOf, List.reverse_append, hexOf, hexOf, List.flatMap_append, ← hexOf,
        ← hexOf]
      constructor
      · intro heq
        obtain ⟨hrest, hb⟩ := List.append_inj heq hlen
        exact ⟨by simpa using hb, hrest⟩
      · rintro ⟨hb, hrest⟩
        rw [hb, hrest]
        simp

/-! ## Lines -/

/-- A line of the printed text behind its offset: how far it advances the offset, the digits in
brackets and what stands behind them. -/
structure Line where
  size : ℕ
  hex : List Byte
  note : List Byte

namespace Line

def text (l : Line) (offset : ℕ) : List Byte :=
  decimalLeft (BitVec.ofNat (8 * 8) offset) ++ utf8 "[" ++ l.hex ++ utf8 "] " ++ l.note ++ utf8 "\n"

/-- The length of the text at the offsets that have at most four digits. -/
def width (l : Line) : ℕ := 8 + l.hex.length + l.note.length

/-- Short enough for the local buffer. -/
def Short (l : Line) : Prop := l.hex.length + l.note.length ≤ 992

theorem text_length_le (l : Line) (offset : ℕ) :
    (l.text offset).length ≤ 28 + l.hex.length + l.note.length := by
  have hoffset := decimalLeft_length_le (BitVec.ofNat (8 * 8) offset)
  simp only [text, List.length_append, utf8_open_length, utf8_close_length, utf8_newline_length]
  omega

end Line

/-- What the lines advance the offset by. -/
def totalSize (ls : List Line) : ℕ := (ls.map Line.size).sum

/-- The text of lines from an offset on. -/
def dumpFrom : ℕ → List Line → List Byte
  | _, [] => []
  | offset, l :: ls => l.text offset ++ dumpFrom (offset + l.size) ls

theorem dumpFrom_append (offset : ℕ) (ls ls' : List Line) :
    dumpFrom offset (ls ++ ls') = dumpFrom offset ls ++ dumpFrom (offset + totalSize ls) ls' := by
  induction ls generalizing offset with
  | nil => rfl
  | cons l ls ih =>
      rw [List.cons_append, dumpFrom, dumpFrom, ih, List.append_assoc, totalSize, totalSize,
        List.map_cons, List.sum_cons, Nat.add_assoc]

/-- A field on the wire and what the printer writes behind its digits. -/
structure Field where
  bytes : List Byte
  note : List Byte

namespace Field

def byte (label : List Byte) (b : Byte) : Field :=
  ⟨[b], label ++ utf8 ": " ++ decimal b.toNat⟩

/-- A word in network order. -/
def word {n : ℕ} (label : List Byte) (x : Word n) : Field :=
  ⟨wordBytes true x, label ++ utf8 ": " ++ decimal x.toNat⟩

/-- The line that shows the field's bytes. -/
def line (f : Field) : Line := ⟨f.bytes.length, hexOf f.bytes, f.note⟩

end Field

/-- The annotated hex dump of a frame that consists of the given fields: each line shows the
position and the bytes of one field. -/
def hexDump (fields : List Field) : List Byte := dumpFrom 0 (fields.map Field.line)

/-- The frame that consists of the fields. -/
def frameOf (fields : List Field) : List Byte := fields.flatMap Field.bytes

theorem totalSize_fields (fields : List Field) :
    totalSize (fields.map Field.line) = (frameOf fields).length := by
  simp [totalSize, frameOf, List.length_flatMap, Function.comp_def, Field.line]

/-! ## Computations that print lines -/

namespace Print

/-- From any offset on, the computation prints the text of the lines. -/
def Prints (p : Print Unit) (ls : List Line) : Prop :=
  ∀ offset os, p.run ⟨BitVec.ofNat (8 * 8) offset, os⟩ =
    .ok ((), ⟨BitVec.ofNat (8 * 8) (offset + totalSize ls), os ++ dumpFrom offset ls⟩)

theorem prints_pure : Prints (pure ()) [] := by
  intro offset os
  simp [dumpFrom, totalSize]

theorem Prints.bind {p : Print Unit} {f : Unit → Print Unit} {ls ls' : List Line}
    (hp : p.Prints ls) (hf : (f ()).Prints ls') : (p >>= f).Prints (ls ++ ls') := by
  intro offset os
  rw [StateT.run_bind, hp, ok_bind, hf, dumpFrom_append, List.append_assoc, totalSize, totalSize,
    totalSize, List.map_append, List.sum_append, Nat.add_assoc]

theorem Prints.cons {p : Print Unit} {f : Unit → Print Unit} {l : Line} {ls : List Line}
    (hp : p.Prints [l]) (hf : (f ()).Prints ls) : (p >>= f).Prints (l :: ls) := hp.bind hf

theorem prints_line {l : Line} (h : l.Short) {text : Word 8 → List Byte}
    (htext : ∀ offset, text (BitVec.ofNat (8 * 8) offset) = l.text offset) :
    (line l.size text).Prints [l] := by
  intro offset os
  have hlength := l.text_length_le offset
  have hshort : (l.text offset).length < 1024 := by
    unfold Line.Short at h
    omega
  change (inBuffer 1024 (text (BitVec.ofNat (8 * 8) offset)) >>= _) = _
  rw [htext, inBuffer_of_lt hshort, ok_bind, ← BitVec.ofNat_add]
  simp [dumpFrom, totalSize]

theorem prints_texts {size : ℕ} {label first second : List Byte}
    (h : Line.Short ⟨size, first, label ++ utf8 ": " ++ second⟩) :
    (texts size label first second).Prints [⟨size, first, label ++ utf8 ": " ++ second⟩] :=
  prints_line h fun offset => by simp only [Line.text, List.append_assoc]

theorem prints_number {w : ℕ} (digits size : ℕ) {label : List Byte} (value : BitVec w) (hw : w ≤ 64)
    (hdigits : digits ≤ 16) (hlabel : label.length ≤ 512) :
    (number digits size label value.toNat).Prints
      [⟨size, hexUpper digits value.toNat, label ++ utf8 ": " ++ decimal value.toNat⟩] := by
  have hvalue : value.toNat < 2 ^ 64 :=
    value.isLt.trans_le (Nat.pow_le_pow_right (by decide) hw)
  have hhex := hexUpper_length_le digits (n := value.toNat) (k := 16) (by decide) (by omega)
  have hdecimal := decimal_length_le (n := value.toNat) (k := 20) (by decide) (by omega)
  have hshort : Line.Short
      ⟨size, hexUpper digits value.toNat, label ++ utf8 ": " ++ decimal value.toNat⟩ := by
    simp only [Line.Short, List.length_append, utf8_colon_length]
    omega
  exact prints_line hshort fun offset => by simp only [Line.text, List.append_assoc]

theorem prints_byte {label : List Byte} (b : Byte) (hlabel : label.length ≤ 512) :
    (number 2 1 label b.toNat).Prints [(Field.byte label b).line] := by
  have hprints := prints_number 2 1 b (by decide) (by decide) hlabel
  rwa [Field.line, Field.byte, hexOf, List.flatMap_singleton]

theorem prints_word {n : ℕ} {label : List Byte} (x : Word n) (hn : 0 < n) (hw : n ≤ 8)
    (hlabel : label.length ≤ 512) :
    (number (2 * n) n label x.toNat).Prints [(Field.word label x).line] := by
  have hprints := prints_number (2 * n) n x (by omega) (by omega) hlabel
  rwa [Field.line, Field.word, hexOf_wordBytes hn, wordBytes_length]

/-- An identifier that is printed in digits and in characters. -/
theorem prints_array (v : Vector Byte 8) {label text : List Byte} (hlabel : label.length ≤ 64)
    (htext : text.length ≤ 256) : (texts 8 label (hexOf v.toList) text).Prints
      [Field.line ⟨v.toList, label ++ utf8 ": " ++ text⟩] := by
  have hhex := hexOf_array_length v
  rw [Field.line, Vector.length_toList]
  apply prints_texts
  simp only [Line.Short, List.length_append, hhex, utf8_colon_length]
  omega

theorem Prints.start {p : Print Unit} {ls : List Line} (h : p.Prints ls) (offset : ℕ)
    (os : List Byte) : start offset os p = .ok (os ++ dumpFrom offset ls) := by
  rw [Print.start, h, ok_bind]
  rfl

end Print

open Print

/-! ## Comparing lines -/

theorem mem_toDigits {n : ℕ} {c : Char} (h : c ∈ Nat.toDigits 10 n) :
    48 ≤ c.toNat ∧ c.toNat ≤ 57 := by
  have hdigit := Nat.isDigit_of_mem_toDigits (by decide) (by decide) h
  simp only [Char.isDigit, Bool.and_eq_true, decide_eq_true_eq] at hdigit
  exact hdigit

theorem decimal_inj {m n : ℕ} (h : decimal m = decimal n) : m = n := by
  have hback : ∀ n, (decimal n).map (fun b => Char.ofNat b.toNat) = Nat.toDigits 10 n := by
    intro n
    rw [decimal, ascii, List.map_map]
    refine (List.map_congr_left fun c hc => ?_).trans (List.map_id _)
    have hle := (mem_toDigits hc).2
    simp only [Function.comp_apply, BitVec.toNat_ofNat, Nat.mod_eq_of_lt (show c.toNat < 2 ^ 8 by omega),
      Char.ofNat_toNat, id]
  have hdigits := congrArg (List.map fun b => Char.ofNat b.toNat) h
  rw [hback, hback] at hdigits
  rw [← Nat.ofDigitChars_ten_toDigits (n := m), hdigits, Nat.ofDigitChars_ten_toDigits]

section

variable {offset : ℕ} (h : offset < 10 ^ 4)

include h

theorem decimalLeft_ofNat : decimalLeft (BitVec.ofNat (8 * 8) offset) =
    decimal offset ++ ascii (List.replicate (4 - (decimal offset).length) ' ') := by
  have hnat : (BitVec.ofNat (8 * 8) offset).toNat = offset := by
    rw [BitVec.toNat_ofNat]
    omega
  have hint : ¬ (BitVec.ofNat (8 * 8) offset).toInt < 0 := by
    rw [BitVec.toInt_eq_toNat_of_lt (by omega)]
    omega
  rw [decimalLeft, if_neg hint, hnat]

theorem decimalLeft_length : (decimalLeft (BitVec.ofNat (8 * 8) offset)).length = 4 := by
  have hle := decimal_length_le (by decide) h
  rw [decimalLeft_ofNat h, List.length_append, ascii_length, List.length_replicate]
  omega

theorem decimalLeft_filter :
    (decimalLeft (BitVec.ofNat (8 * 8) offset)).filter (· ≠ 32) = decimal offset := by
  rw [decimalLeft_ofNat h, List.filter_append]
  have hdigits : (decimal offset).filter (· ≠ 32) = decimal offset := by
    refine List.filter_eq_self.mpr fun b hb => ?_
    obtain ⟨c, hc, rfl⟩ := List.mem_map.mp hb
    obtain ⟨hge, hle⟩ := mem_toDigits hc
    refine decide_eq_true fun hspace => ?_
    have hspace : c.toNat % 2 ^ 8 = 32 := by simpa using congrArg BitVec.toNat hspace
    omega
  have hspaces : (ascii (List.replicate (4 - (decimal offset).length) ' ')).filter (· ≠ 32) = [] := by
    rw [ascii, List.map_replicate]
    exact List.filter_eq_nil_iff.mpr fun b hb => by simp [List.eq_of_mem_replicate hb]
  rw [hdigits, hspaces, List.append_nil]

theorem decimalLeft_inj {offset' : ℕ} (h' : offset' < 10 ^ 4)
    (heq : decimalLeft (BitVec.ofNat (8 * 8) offset) = decimalLeft (BitVec.ofNat (8 * 8) offset')) :
    offset = offset' := by
  have hdecimal := congrArg (List.filter (· ≠ 32)) heq
  rw [decimalLeft_filter h, decimalLeft_filter h'] at hdecimal
  exact decimal_inj hdecimal

theorem Line.text_length (l : Line) : (l.text offset).length = l.width := by
  have hoffset := decimalLeft_length h
  simp only [Line.text, Line.width, List.length_append, hoffset, utf8_open_length,
    utf8_close_length, utf8_newline_length]
  omega

end

/-- A line that should be `l'` and differs from it in the digits only, of which it has no more. -/
structure Line.Stands (l l' : Line) : Prop where
  size : l.size = l'.size
  note : l.note = l'.note
  hex : l.hex.length ≤ l'.hex.length

theorem Line.stands_refl (l : Line) : l.Stands l := ⟨rfl, rfl, le_rfl⟩

theorem Line.Stands.width_le {l l' : Line} (h : l.Stands l') : l.width ≤ l'.width := by
  have hhex := h.hex
  rw [Line.width, Line.width, h.note]
  omega

theorem dumpFrom_length {offset : ℕ} {ls : List Line} (h : offset + totalSize ls < 10 ^ 4) :
    (dumpFrom offset ls).length = (ls.map Line.width).sum := by
  induction ls generalizing offset with
  | nil => rfl
  | cons l ls ih =>
      rw [totalSize, List.map_cons, List.sum_cons, ← totalSize] at h
      rw [dumpFrom, List.length_append, Line.text_length (by omega), ih (by omega), List.map_cons,
        List.sum_cons]

theorem sum_width_le {ls ls' : List Line} (h : List.Forall₂ Line.Stands ls ls') :
    (ls.map Line.width).sum ≤ (ls'.map Line.width).sum := by
  induction h with
  | nil => exact le_rfl
  | cons hl _ ih =>
      rw [List.map_cons, List.map_cons, List.sum_cons, List.sum_cons]
      exact Nat.add_le_add hl.width_le ih

theorem totalSize_eq {ls ls' : List Line} (h : List.Forall₂ Line.Stands ls ls') :
    totalSize ls = totalSize ls' := by
  induction h with
  | nil => rfl
  | cons hl _ ih =>
      rw [totalSize, totalSize, List.map_cons, List.map_cons, List.sum_cons, List.sum_cons, hl.size]
      exact congrArg _ ih

/-- Texts that are no longer than what they stand for agree as a whole only piece by piece. -/
theorem append_eq_append_iff_of_le {α : Type} {s t s' t' : List α} (hs : s.length ≤ s'.length)
    (ht : t.length ≤ t'.length) : s ++ t = s' ++ t' ↔ s = s' ∧ t = t' := by
  constructor
  · intro heq
    have hlen := congrArg List.length heq
    rw [List.length_append, List.length_append] at hlen
    exact List.append_inj heq (by omega)
  · rintro ⟨rfl, rfl⟩
    rfl

theorem Line.text_eq_iff {l l' : Line} (h : l.Stands l') {offset offset' : ℕ}
    (hoffset : offset < 10 ^ 4) (hoffset' : offset' < 10 ^ 4) :
    l.text offset = l'.text offset' ↔ offset = offset' ∧ l = l' := by
  constructor
  · intro heq
    have hlen := decimalLeft_length hoffset
    have hlen' := decimalLeft_length hoffset'
    have hhex := h.hex
    simp only [Line.text, List.append_assoc] at heq
    obtain ⟨hpos, hrest⟩ := List.append_inj heq (hlen.trans hlen'.symm)
    rw [List.append_cancel_left_eq, h.note] at hrest
    refine ⟨decimalLeft_inj hoffset hoffset' hpos, ?_⟩
    obtain ⟨size, hex, note⟩ := l
    obtain ⟨size', hex', note'⟩ := l'
    obtain rfl : size = size' := h.size
    obtain rfl : note = note' := h.note
    obtain rfl : hex = hex' := List.append_cancel_right hrest
    rfl
  · rintro ⟨rfl, rfl⟩
    rfl

/-- The text is the dump it should be only if it starts from the right offset and every line has
the right digits. -/
theorem dumpFrom_eq_iff {ls ls' : List Line} (h : List.Forall₂ Line.Stands ls ls')
    {offset offset' : ℕ} (hoffset : offset + totalSize ls < 10 ^ 4)
    (hoffset' : offset' + totalSize ls' < 10 ^ 4) :
    dumpFrom offset ls = dumpFrom offset' ls' ↔ (ls = [] ∨ offset = offset') ∧ ls = ls' := by
  induction h generalizing offset offset' with
  | nil => simp [dumpFrom]
  | @cons l l' ls ls' hl hls ih =>
      rw [totalSize, List.map_cons, List.sum_cons, ← totalSize] at hoffset hoffset'
      have hsize := hl.size
      have hle : (dumpFrom (offset + l.size) ls).length ≤
          (dumpFrom (offset' + l'.size) ls').length := by
        rw [dumpFrom_length (by omega), dumpFrom_length (by omega)]
        exact sum_width_le hls
      have htext : (l.text offset).length ≤ (l'.text offset').length := by
        rw [Line.text_length (by omega), Line.text_length (by omega)]
        exact hl.width_le
      rw [dumpFrom, dumpFrom, append_eq_append_iff_of_le htext hle,
        Line.text_eq_iff hl (by omega) (by omega), ih (by omega) (by omega), List.cons.injEq]
      constructor
      · rintro ⟨⟨rfl, rfl⟩, -, rfl⟩
        exact ⟨.inr rfl, rfl, rfl⟩
      · rintro ⟨hpos, rfl, rfl⟩
        obtain rfl := hpos.resolve_left (by simp)
        exact ⟨⟨rfl, rfl⟩, .inr rfl, rfl⟩

/-! ## Header -/

namespace MessageHeader

def fields (self : MessageHeader) : List Field :=
  [.byte (utf8 "标识位") self.id, .word (utf8 "数据段长度") self.dataLen,
    .byte (utf8 "数据类别") self.dataType, .byte (utf8 "版本号") self.version,
    .word (utf8 "时间戳") self.timestamp, .byte (utf8 "控制内容") self.ctrl]

theorem frameOf_fields (self : MessageHeader) :
    frameOf self.fields = (MessageHeader.format true).enc self := by
  simp [frameOf, fields, Field.byte, Field.word, MessageHeader.format, Format.imap]

theorem print_eq (self : MessageHeader) (os : List Byte) :
    self.print os = .ok (os ++ hexDump self.fields) := by
  refine Prints.start ?_ 0 os
  apply (prints_byte self.id (by decide)).cons
  apply (prints_word self.dataLen (by decide) (by decide) (by decide)).cons
  apply (prints_byte self.dataType (by decide)).cons
  apply (prints_byte self.version (by decide)).cons
  apply (prints_word self.timestamp (by decide) (by decide) (by decide)).cons
  exact prints_byte self.ctrl (by decide)

end MessageHeader

/-! ## Vehicle state -/

namespace Veh2CloudState

/-- The pass points, which are numbered from `i` on. -/
def passPosFields : ℕ → List Position2D → List Field
  | _, [] => []
  | i, pos :: passPos =>
    .word (utf8 "途经点" ++ decimal i ++ utf8 "-经度") pos.longitude ::
      .word (utf8 "途经点" ++ decimal i ++ utf8 "-纬度") pos.latitude :: passPosFields (i + 1) passPos

/-- The fields up to the vehicle identifier. -/
def frontFields (self : Veh2CloudState) : List Field :=
  self.toMessageHeader.fields ++
    [⟨self.vehicleId.toList, utf8 "车辆编号" ++ utf8 ": " ++ cString self.vehicleId.toList⟩]

def messageIdNote (self : Veh2CloudState) : List Byte :=
  utf8 "消息编号" ++ utf8 ": " ++ (hexOf self.messageId.toList).reverse

/-- The message identifier goes out with its bytes reversed. -/
def messageIdField (self : Veh2CloudState) : Field :=
  ⟨self.messageId.toList.reverse, self.messageIdNote⟩

/-- The fields between the message identifier and the steering angle. -/
def middleFields (self : Veh2CloudState) : List Field :=
  [.word (utf8 "GNSS时间戳") self.gnssTimestamp, .word (utf8 "GNSS速度") self.gnssVelocity,
    .word (utf8 "位置-经度") self.position.longitude, .word (utf8 "位置-纬度") self.position.latitude,
    .word (utf8 "位置-高程") self.position.elevation, .word (utf8 "航向角") self.heading,
    .byte (utf8 "档位") self.gear]

def steeringField (self : Veh2CloudState) : Field := .word (utf8 "方向盘转角") self.steeringAngle

/-- The fields behind the steering angle. -/
def backFields (self : Veh2CloudState) : List Field :=
  .word (utf8 "当前车速") self.velocity :: .word (utf8 "纵向加速度") self.accLon ::
    .word (utf8 "横向加速度") self.accLat :: .word (utf8 "垂向加速度") self.accVer ::
    .word (utf8 "横摆角速度") self.yawRate :: .word (utf8 "油门开度") self.accelPos ::
    .word (utf8 "发动机输出转速") self.engineSpeed :: .word (utf8 "发动机扭矩") self.engineTorque ::
    .byte (utf8 "制动踏板开关") self.breakFlag :: .word (utf8 "制动踏板开度") self.breakPos ::
    .word (utf8 "制动主缸压力") self.breakPressure :: .word (utf8 "油耗") self.fuelConsume ::
    .byte (utf8 "车辆驾驶模式") self.driveMode ::
    .word (utf8 "目的地位置-经度") self.destLocation.longitude ::
    .word (utf8 "目的地位置-纬度") self.destLocation.latitude ::
    .byte (utf8 "途经点数量") self.passPosNum :: passPosFields 0 self.passPos

def fields (self : Veh2CloudState) : List Field :=
  self.frontFields ++ self.messageIdField ::
    (self.middleFields ++ self.steeringField :: self.backFields)

def messageIdLine (self : Veh2CloudState) : Line :=
  ⟨8, (hexOf self.messageId.toList).reverse, self.messageIdNote⟩

def steeringLine (self : Veh2CloudState) : Line :=
  ⟨4, hexUpper 2 self.steeringAngle.toNat, self.steeringField.note⟩

/-- The lines that are printed. -/
def lines (self : Veh2CloudState) : List Line :=
  self.frontFields.map Field.line ++ self.messageIdLine ::
    (self.middleFields.map Field.line ++ self.steeringLine :: self.backFields.map Field.line)

theorem frameOf_passPosFields (i : ℕ) (passPos : List Position2D) :
    frameOf (passPosFields i passPos) = passPos.flatMap (Position2D.format true).enc := by
  induction passPos generalizing i with
  | nil => rfl
  | cons pos passPos ih =>
      rw [passPosFields, frameOf, List.flatMap_cons, List.flatMap_cons, ← frameOf, ih,
        List.flatMap_cons, ← List.append_assoc]
      rfl

/-- The fields stand in the frame one behind the other, as the encoder writes them. -/
theorem frameOf_fields (self : Veh2CloudState) (h : self.passPosNum.toNat = self.passPos.length) :
    frameOf self.fields = self.wireBytes true := by
  have hpos : self.passPos.take self.passPosNum.toNat = self.passPos :=
    List.take_of_length_le h.ge
  have hfields := frameOf_passPosFields 0 self.passPos
  simp only [frameOf] at hfields
  simp only [frameOf, fields, frontFields, middleFields, backFields, messageIdField,
    steeringField, Field.byte, Field.word, List.flatMap_append, List.flatMap_cons,
    List.flatMap_nil, hfields, List.append_assoc, List.append_nil]
  rw [← frameOf, MessageHeader.frameOf_fields]
  simp only [wireBytes, bodyFormat, body, hpos, Format.seq_enc, Format.tagged_enc,
    Format.many_enc, Format.word_enc, Format.byte_enc, Format.array_enc, if_true,
    Vector.toList_reverse]
  rfl

theorem prints_printPassPos (passPos : List Position2D) (i n : ℕ) (h : i + n = passPos.length)
    (hn : i + n ≤ 256) : (printPassPos passPos i n).Prints
      ((passPosFields i (passPos.drop i)).map Field.line) := by
  induction n generalizing i with
  | zero =>
      rw [List.drop_of_length_le (by omega)]
      exact prints_pure
  | succ n ih =>
      have hlongitude := label_length_le (utf8 "途经点") (utf8 "-经度") (show i < 256 by omega)
        (by decide) (by decide)
      have hlatitude := label_length_le (utf8 "途经点") (utf8 "-纬度") (show i < 256 by omega)
        (by decide) (by decide)
      rw [printPassPos, safe_element (by omega), pure_bind, List.drop_eq_getElem_cons (by omega)]
      apply (prints_word _ (by decide) (by decide) hlongitude).cons
      apply (prints_word _ (by decide) (by decide) hlatitude).cons
      exact ih (i + 1) (by omega) (by omega)

theorem print_eq (self : Veh2CloudState) (h : self.passPosNum.toNat = self.passPos.length)
    (os : List Byte) : self.print os = .ok (os ++ dumpFrom 0 self.lines) := by
  have hpassPos := prints_printPassPos self.passPos 0 self.passPosNum.toNat (by omega) (by
    have hlt := self.passPosNum.isLt
    omega)
  have hheader : totalSize (self.toMessageHeader.fields.map Field.line) = 16 := by
    rw [totalSize_fields, MessageHeader.frameOf_fields, MessageHeader.enc_length]
  have htext := (cString_length_le self.vehicleId.toList).trans (Vector.length_toList).le
  have hmessage := hexOf_array_length self.messageId
  rw [Veh2CloudState.print, print_of_base (self.toMessageHeader.print_eq os), digits_array,
    digits_array, pure_bind, lines, frontFields, List.map_append, List.append_assoc, dumpFrom_append,
    hheader, ← List.append_assoc, ← hexDump]
  refine Prints.start ?_ _ _
  simp only [middleFields, backFields, List.map_cons, List.map_nil, List.cons_append,
    List.nil_append]
  apply (prints_array self.vehicleId (by decide) (by omega)).cons
  rw [pure_bind]
  refine (prints_texts ?_).cons ?_
  · have hlabel : (utf8 "消息编号").length = 12 := by decide
    simp only [Line.Short, List.length_append, List.length_reverse, hmessage, hlabel,
      utf8_colon_length]
    omega
  iterate 6
    apply (prints_word _ (by decide) (by decide) (by decide)).cons
  apply (prints_byte _ (by decide)).cons
  apply (prints_number _ _ _ (by decide) (by decide) (by decide)).cons
  iterate 8
    apply (prints_word _ (by decide) (by decide) (by decide)).cons
  apply (prints_byte _ (by decide)).cons
  iterate 3
    apply (prints_word _ (by decide) (by decide) (by decide)).cons
  apply (prints_byte _ (by decide)).cons
  iterate 2
    apply (prints_word _ (by decide) (by decide) (by decide)).cons
  apply (prints_byte _ (by decide)).cons
  exact hpassPos

theorem lines_stand (self : Veh2CloudState) :
    List.Forall₂ Line.Stands self.lines (self.fields.map Field.line) := by
  have hsame : ∀ ls : List Line, List.Forall₂ Line.Stands ls ls := fun ls =>
    List.forall₂_same.mpr fun l _ => l.stands_refl
  have hmessage : self.messageIdLine.Stands self.messageIdField.line := by
    refine ⟨?_, rfl, ?_⟩
    · simp [messageIdLine, messageIdField, Field.line]
    · simp [messageIdLine, messageIdField, Field.line, hexOf_length]
  have hsteering : self.steeringLine.Stands self.steeringField.line := by
    refine ⟨rfl, rfl, ?_⟩
    have hhex := hexUpper_length_le 2 (n := self.steeringAngle.toNat) (k := 8) (by decide)
      self.steeringAngle.isLt
    have hwidth := hexUpper_length 2 self.steeringAngle.toNat
    have hdigits := (Nat.length_toDigits_le_iff (b := 16) (k := 8) (by decide) (by decide)).mpr
      self.steeringAngle.isLt
    simp only [steeringLine, steeringField, Field.line, Field.word, hexOf_length, wordBytes_length]
    omega
  rw [lines, fields, List.map_append, List.map_cons, List.map_append, List.map_cons]
  exact List.rel_append (hsame _)
    (.cons hmessage (List.rel_append (hsame _) (.cons hsteering (hsame _))))

/-- The steering angle has eight digits and the message identifier's bytes have the same digit
twice. -/
def Dumped (self : Veh2CloudState) : Prop :=
  16 ^ 7 ≤ self.steeringAngle.toNat ∧ ∀ b ∈ self.messageId.toList, SameDigits b

theorem lines_eq_iff (self : Veh2CloudState) :
    self.lines = self.fields.map Field.line ↔ self.Dumped := by
  have hsteering : hexUpper 2 self.steeringAngle.toNat = hexOf (wordBytes true self.steeringAngle) ↔
      16 ^ 7 ≤ self.steeringAngle.toNat := by
    rw [hexOf_wordBytes (by decide)]
    exact hexUpper_eq_iff (by decide) (by decide) self.steeringAngle.isLt
  rw [Dumped, ← hsteering, ← hexOf_reverse_iff, lines, fields, List.map_append, List.map_cons,
    List.map_append, List.map_cons, List.append_cancel_left_eq, List.cons.injEq,
    List.append_cancel_left_eq, List.cons.injEq, and_comm]
  simp [messageIdLine, messageIdField, steeringLine, steeringField, Field.line, Field.word]

theorem totalSize_fields_eq (self : Veh2CloudState)
    (h : self.passPosNum.toNat = self.passPos.length) :
    totalSize (self.fields.map Field.line) = 98 + 8 * self.passPos.length := by
  rw [totalSize_fields, frameOf_fields self h, wireBytes_length self true h.le, h]

theorem dumpFrom_lines_iff (self : Veh2CloudState)
    (h : self.passPosNum.toNat = self.passPos.length) :
    dumpFrom 0 self.lines = hexDump self.fields ↔ self.Dumped := by
  have hsize := totalSize_fields_eq self h
  have hlt := self.passPosNum.isLt
  have hstand := self.lines_stand
  rw [hexDump, dumpFrom_eq_iff hstand (by rw [totalSize_eq hstand]; omega) (by omega), lines_eq_iff]
  exact and_iff_right (.inr rfl)

theorem print_iff (self : Veh2CloudState) (h : self.passPosNum.toNat = self.passPos.length)
    (os : List Byte) : self.print os = .ok (os ++ hexDump self.fields) ↔ self.Dumped := by
  rw [print_eq self h, Except.ok.injEq, List.append_cancel_left_eq, dumpFrom_lines_iff self h]

end Veh2CloudState

/-! ## Vehicle state, version 2 -/

namespace Veh2CloudState2

/-- One value of every wheel, which are numbered from `i` on. -/
def elementFields (label : List Byte) : ℕ → List (Word 2) → List Field
  | _, [] => []
  | i, value :: elements =>
    .word (utf8 "车轮" ++ decimal i ++ label) value :: elementFields label (i + 1) elements

/-- The fields of the second version up to the length of the user data. -/
def restFields (self : Veh2CloudState2) : List Field :=
  [.byte (utf8 "ABS状态") self.absFlag, .byte (utf8 "TCS状态") self.tcsFlag,
    .byte (utf8 "ESP状态") self.espFlag, .byte (utf8 "LKA状态") self.lkaFlag,
    .byte (utf8 "ACC工作模式") self.accFlag, .byte (utf8 "FCW状态") self.fcwFlag,
    .byte (utf8 "LDW状态") self.ldwFlag, .byte (utf8 "AEB状态") self.aebFlag,
    .byte (utf8 "LCA状态") self.lcaFlag, .byte (utf8 "DMS状态") self.dmsFlag,
    .word (utf8 "里程") self.mileage, .word (utf8 "油量") self.fuelGauge,
    .word (utf8 "电池剩余电量") self.soc, .byte (utf8 "电池温度") self.temperature,
    .word (utf8 "预计续航里程") self.endurance, .word (utf8 "车辆故障状态") self.vehfault,
    .word (utf8 "电机转速") self.motorspeed, .word (utf8 "电机转矩") self.motortorque,
    .byte (utf8 "运行模式") self.vehMode, .byte (utf8 "充电状态") self.chargeState,
    .word (utf8 "动力电池实时电压") self.battVol, .word (utf8 "动力电池实时电流") self.battCur,
    .byte (utf8 "喇叭状态") self.hornState, .byte (utf8 "车轮数") self.wheelNum] ++
  (elementFields (utf8 "-轮速") 0 self.wheelVelocity ++
    (elementFields (utf8 "-胎压") 0 self.tirePressure ++
      [.word (utf8 "车灯状态") self.lights, .word (utf8 "车门状态") self.doors,
        .byte (utf8 "自定义字段长度") self.userDataLen]))

/-- The user data, unless there is none. -/
def userFields (self : Veh2CloudState2) : List Field :=
  if self.userData = [] then []
  else [⟨self.userData, utf8 "自定义字段内容" ++ utf8 ": " ++ cString self.userData⟩]

def fields (self : Veh2CloudState2) : List Field :=
  self.toVeh2CloudState.fields ++ (self.restFields ++ self.userFields)

theorem frameOf_elementFields (label : List Byte) (i : ℕ) (elements : List (Word 2)) :
    frameOf (elementFields label i elements) = elements.flatMap (Format.word 2 true).enc := by
  induction elements generalizing i with
  | nil => rfl
  | cons value elements ih =>
      rw [elementFields, frameOf, List.flatMap_cons, ← frameOf, ih, List.flatMap_cons]
      rfl

theorem frameOf_userFields (self : Veh2CloudState2) : frameOf self.userFields = self.userData := by
  unfold userFields
  split
  · next hnil => exact hnil.symm
  · simp [frameOf]

theorem frameOf_fields {m : Veh2CloudState2} (h : m.Matched) :
    frameOf m.fields = m.wireBytes true := by
  have hvelocities := frameOf_elementFields (utf8 "-轮速") 0 m.wheelVelocity
  have hpressures := frameOf_elementFields (utf8 "-胎压") 0 m.tirePressure
  rw [fields, frameOf, List.flatMap_append, List.flatMap_append, ← frameOf, ← frameOf, ← frameOf,
    frameOf_userFields, Veh2CloudState.frameOf_fields _ h.passPos, wireBytes]
  simp only [frameOf] at hvelocities hpressures
  simp only [frameOf, restFields, Field.byte, Field.word, List.flatMap_append, List.flatMap_cons,
    List.flatMap_nil, hvelocities, hpressures, List.append_assoc, List.append_nil]
  simp only [bodyFormat, headFormat, wheelsFormat, tailFormat, body, head, h.take_wheelVelocity,
    h.take_tirePressure, h.take_userData, Format.seq_enc, Format.tagged_enc, Format.many_enc,
    Format.word_enc, Format.byte_enc, Format.chars_enc, List.append_assoc, List.cons_append,
    List.nil_append]

theorem prints_printElements {label : List Byte} (hlabel : label.length ≤ 64)
    (elements : List (Word 2)) (i n : ℕ) (h : i + n = elements.length) (hn : i + n ≤ 256) :
    (printElements label elements i n).Prints
      ((elementFields label i (elements.drop i)).map Field.line) := by
  induction n generalizing i with
  | zero =>
      rw [List.drop_of_length_le (by omega)]
      exact prints_pure
  | succ n ih =>
      have hline := label_length_le (utf8 "车轮") label (show i < 256 by omega) (by decide) hlabel
      rw [printElements, safe_element (by omega), pure_bind, List.drop_eq_getElem_cons (by omega)]
      apply (prints_word _ (by decide) (by decide) hline).cons
      exact ih (i + 1) (by omega) (by omega)

/-- User data of a printable length is shown where it is announced. -/
theorem prints_userData {m : Veh2CloudState2} (h : m.Matched) (huser : Printable m.userDataLen) :
    (string (utf8 "自定义字段内容") m.userData m.userDataLen).Prints
      (if announced m.userDataLen then m.userFields.map Field.line else []) := by
  unfold string
  split
  · next hannounced =>
      have hne := announced_iff.mp hannounced
      have hle : m.userDataLen.toNat ≤ 127 := huser.resolve_right hne.2.symm
      have hlen := h.userData
      have hnil : m.userData ≠ [] := by
        intro hnil
        rw [hnil] at hlen
        exact hne.1 (BitVec.eq_of_toNat_eq hlen.symm)
      have hread : m.userDataLen.toNat ≤ (m.userData ++ [0]).length := by
        rw [List.length_append]
        omega
      have htext := cString_length_le m.userData
      have hlabel : (utf8 "自定义字段内容").length = 21 := by decide
      rw [digits_of_fits hread hle, pure_bind, List.take_left' hlen.symm, userFields, if_neg hnil,
        List.map_singleton, Field.line, hlen]
      apply prints_texts
      simp only [Line.Short, List.length_append, hexOf_length, hlabel, utf8_colon_length]
      omega
  · exact prints_pure

theorem print_eq {m : Veh2CloudState2} (h : m.Matched) (huser : Printable m.userDataLen)
    (os : List Byte) : m.print os =
      .ok (os ++ dumpFrom 0 m.toVeh2CloudState.lines ++ dumpFrom m.toVeh2CloudState.length
        (m.restFields.map Field.line ++
          if announced m.userDataLen then m.userFields.map Field.line else [])) := by
  have hlt := m.wheelNum.isLt
  have hwheel := h.wheelVelocity
  have htire := h.tirePressure
  have hvelocities := prints_printElements (show (utf8 "-轮速").length ≤ 64 by decide) m.wheelVelocity 0
    m.wheelNum.toNat (by omega) (by omega)
  have hpressures := prints_printElements (show (utf8 "-胎压").length ≤ 64 by decide) m.tirePressure 0
    m.wheelNum.toNat (by omega) (by omega)
  rw [Veh2CloudState2.print, print_of_base (m.toVeh2CloudState.print_eq h.passPos os)]
  refine Prints.start ?_ _ _
  simp only [restFields, List.map_append, List.map_cons, List.map_nil, List.cons_append,
    List.nil_append, List.append_assoc]
  iterate 10 apply (prints_byte _ (by decide)).cons
  iterate 3 apply (prints_word _ (by decide) (by decide) (by decide)).cons
  apply (prints_byte _ (by decide)).cons
  iterate 4 apply (prints_word _ (by decide) (by decide) (by decide)).cons
  iterate 2 apply (prints_byte _ (by decide)).cons
  iterate 2 apply (prints_word _ (by decide) (by decide) (by decide)).cons
  iterate 2 apply (prints_byte _ (by decide)).cons
  refine hvelocities.bind (hpressures.bind ?_)
  iterate 2 apply (prints_word _ (by decide) (by decide) (by decide)).cons
  apply (prints_byte _ (by decide)).cons
  exact prints_userData h huser

/-- Both versions' lines and the user data are as they should be. -/
def Dumped (m : Veh2CloudState2) : Prop :=
  m.toVeh2CloudState.Dumped ∧ m.passPos = [] ∧ m.userData.length ≤ 127

theorem announced_iff_ne_nil {m : Veh2CloudState2} (h : m.Matched) (hne : m.userDataLen ≠ 0xFF) :
    announced m.userDataLen ↔ m.userData ≠ [] := by
  have hlen := h.userData
  rw [announced_iff, and_iff_left hne.symm]
  constructor
  · intro hzero hnil
    rw [hnil] at hlen
    exact hzero (BitVec.eq_of_toNat_eq hlen.symm)
  · intro hnil hzero
    rw [← hzero] at hlen
    exact hnil (List.length_eq_zero_iff.mp hlen.symm)

/-- Where the fields of the second version end. -/
theorem totalSize_rest {m : Veh2CloudState2} (h : m.Matched) :
    98 + 8 * m.passPos.length + totalSize ((m.restFields ++ m.userFields).map Field.line) =
      m.frameLength := by
  have hbase := Veh2CloudState.totalSize_fields_eq m.toVeh2CloudState h.passPos
  rw [totalSize_fields] at hbase ⊢
  rw [← wireBytes_length true h, ← frameOf_fields h, fields, ← hbase]
  simp only [frameOf, List.flatMap_append, List.length_append]

theorem frameLength_lt {m : Veh2CloudState2} (h : m.Matched) : m.frameLength < 4096 := by
  have hpass := m.passPosNum.isLt
  have hwheel := m.wheelNum.isLt
  have huser := m.userDataLen.isLt
  rw [frameLength, ← h.passPos, ← h.wheelVelocity, ← h.userData]
  omega

theorem hexDump_fields {m : Veh2CloudState2} (h : m.Matched) :
    hexDump m.fields = hexDump m.toVeh2CloudState.fields ++
      dumpFrom (98 + 8 * m.passPos.length) ((m.restFields ++ m.userFields).map Field.line) := by
  rw [hexDump, fields, List.map_append, dumpFrom_append,
    Veh2CloudState.totalSize_fields_eq _ h.passPos, Nat.zero_add, hexDump]

/-- The first version's text is no longer than its dump. -/
theorem base_text_length_le {m : Veh2CloudState2} (h : m.Matched) :
    (dumpFrom 0 m.toVeh2CloudState.lines).length ≤ (hexDump m.toVeh2CloudState.fields).length := by
  have hlt := m.passPosNum.isLt
  have hpos := h.passPos
  have hstand := m.toVeh2CloudState.lines_stand
  have hsize := Veh2CloudState.totalSize_fields_eq _ h.passPos
  rw [hexDump, dumpFrom_length (by rw [totalSize_eq hstand]; omega), dumpFrom_length (by omega)]
  exact sum_width_le hstand

/-- User data of 255 bytes is not announced and not shown. -/
theorem print_ne_of_hidden {m : Veh2CloudState2} (h : m.Matched) (huser : m.userDataLen = 0xFF)
    (os : List Byte) : m.print os ≠ .ok (os ++ hexDump m.fields) := by
  have hhidden : announced m.userDataLen = false := by
    rw [huser]
    rfl
  have hnil : m.userData ≠ [] := by
    intro hnil
    have hlen := h.userData
    rw [huser, hnil] at hlen
    exact absurd hlen (by decide)
  have hlength := Veh2CloudState.length_eq m.toVeh2CloudState
  have hshort : (dumpFrom m.toVeh2CloudState.length (m.restFields.map Field.line)).length <
      (dumpFrom (98 + 8 * m.passPos.length)
        ((m.restFields ++ m.userFields).map Field.line)).length := by
    have hrest := totalSize_rest h
    have hlt := frameLength_lt h
    have hpart : totalSize (m.restFields.map Field.line) ≤
        totalSize ((m.restFields ++ m.userFields).map Field.line) := by
      rw [totalSize, totalSize, List.map_append, List.map_append, List.sum_append]
      exact Nat.le_add_right _ _
    rw [dumpFrom_length (by omega), dumpFrom_length (by omega), List.map_append, List.map_append,
      List.sum_append, userFields, if_neg hnil, List.map_singleton, List.map_singleton,
      List.sum_singleton, Line.width]
    omega
  intro heq
  rw [print_eq h (.inr huser), hhidden, hexDump_fields h, Except.ok.injEq, List.append_assoc,
    List.append_cancel_left_eq, if_neg (by decide), List.append_nil] at heq
  have hlen := congrArg List.length heq
  rw [List.length_append, List.length_append] at hlen
  exact absurd hlen (Nat.add_lt_add_of_le_of_lt (base_text_length_le h) hshort).ne

theorem print_iff_of_shown {m : Veh2CloudState2} (h : m.Matched) (huser : m.userDataLen.toNat ≤ 127)
    (os : List Byte) : m.print os = .ok (os ++ hexDump m.fields) ↔
      m.toVeh2CloudState.Dumped ∧ m.passPos = [] := by
  have hne : m.userDataLen ≠ 0xFF := by
    intro hhidden
    rw [hhidden] at huser
    exact absurd huser (by decide)
  have hshown : (if announced m.userDataLen then m.userFields.map Field.line else []) =
      m.userFields.map Field.line := by
    split
    · rfl
    · next hannounced =>
        have hnil := not_not.mp fun hnil => hannounced ((announced_iff_ne_nil h hne).mpr hnil)
        rw [userFields, if_pos hnil, List.map_nil]
  have hrest := totalSize_rest h
  have hlt := frameLength_lt h
  have hlength := Veh2CloudState.length_eq m.toVeh2CloudState
  have hbase := base_text_length_le h
  have hsame := List.forall₂_same.mpr fun l (_ : l ∈ (m.restFields ++ m.userFields).map Field.line) =>
    l.stands_refl
  have hlen : (dumpFrom m.toVeh2CloudState.length ((m.restFields ++ m.userFields).map Field.line)).length ≤
      (dumpFrom (98 + 8 * m.passPos.length) ((m.restFields ++ m.userFields).map Field.line)).length := by
    rw [dumpFrom_length (by omega), dumpFrom_length (by omega)]
  rw [print_eq h (.inl huser), hshown, ← List.map_append, hexDump_fields h, Except.ok.injEq,
    List.append_assoc, List.append_cancel_left_eq, append_eq_append_iff_of_le hbase hlen,
    dumpFrom_eq_iff hsame (by omega) (by omega), and_iff_left rfl]
  apply and_congr (m.toVeh2CloudState.dumpFrom_lines_iff h.passPos)
  have hsome : (m.restFields ++ m.userFields).map Field.line ≠ [] := by
    rw [restFields]
    nofun
  rw [or_iff_right hsome, hlength, ← List.length_eq_zero_iff]
  omega

theorem print_iff {m : Veh2CloudState2} (h : m.Matched) (os : List Byte) :
    m.print os = .ok (os ++ hexDump m.fields) ↔ m.Dumped := by
  have hlen := h.userData
  by_cases hhidden : m.userDataLen = 0xFF
  · refine iff_of_false (print_ne_of_hidden h hhidden os) fun hdumped => ?_
    have hle := hdumped.2.2
    rw [← hlen, hhidden] at hle
    exact absurd hle (by decide)
  by_cases huser : m.userDataLen.toNat ≤ 127
  · rw [print_iff_of_shown h huser, Dumped, ← hlen]
    exact ⟨fun hdumped => ⟨hdumped.1, hdumped.2, huser⟩, fun hdumped => ⟨hdumped.1, hdumped.2.1⟩⟩
  · obtain ⟨e, he⟩ := print_error os (.inr fun hprintable => hprintable.elim huser hhidden)
    refine iff_of_false ?_ fun hdumped => huser (hlen.trans_le hdumped.2.2)
    rw [he]
    nofun

end Veh2CloudState2

/-- Of a message whose counts match its containers the printed text is the dump of the frame that
the encoder writes in network order exactly when its steering angle has eight digits, its
identifier's bytes have the same digit twice and, in version 2, it has no pass points and no more
than 127 bytes of user data. -/
theorem print_dumps_iff (os : List Byte) :
    (∀ m : Veh2CloudState, m.passPosNum.toNat = m.passPos.length →
      (∀ mem : List Byte, 98 + 8 * m.passPos.length ≤ mem.length →
        m.toBytes (some mem) mem.length true = .ok (written (frameOf m.fields) mem)) ∧
      (m.print os = .ok (os ++ hexDump m.fields) ↔
        2 ^ 28 ≤ m.steeringAngle.toNat ∧ ∀ b ∈ m.messageId.toList, SameDigits b)) ∧
    ∀ m : Veh2CloudState2, m.Matched →
      (∀ mem : List Byte, m.frameLength ≤ mem.length →
        m.toBytes (some mem) mem.length true = .ok (written (frameOf m.fields) mem)) ∧
      (m.print os = .ok (os ++ hexDump m.fields) ↔
        (2 ^ 28 ≤ m.steeringAngle.toNat ∧ ∀ b ∈ m.messageId.toList, SameDigits b) ∧
          m.passPos = [] ∧ m.userData.length ≤ 127) := by
  refine ⟨fun m h => ⟨fun mem hmem => ?_, m.print_iff h os⟩,
    fun m h => ⟨fun mem hmem => ?_, Veh2CloudState2.print_iff h os⟩⟩
  · rw [Veh2CloudState.frameOf_fields m h]
    refine Veh2CloudState.toBytes_of_fits m true h.le ?_ (by omega)
    rw [Veh2CloudState.length_eq]
    omega
  · rw [Veh2CloudState2.frameOf_fields h]
    exact Veh2CloudState2.toBytes_wireBytes true h hmem

/-- A state with two pass points, and one of the second version with two wheels and user data. -/
theorem print_dumps_filled :
    let state := Veh2CloudState.new 1 5 6 [0x56, 0x31] [0x11, 0x22, 0xFF] 4 500 ⟨116, 40, 50⟩ 90 3
      0x12345678 600 7 8 9 10 11 1200 13 1 14 15 16 2 ⟨117, 41⟩ [⟨118, 42⟩, ⟨119, 43⟩]
    let state2 := Veh2CloudState2.new 2 5 6 [0x56] [0x11, 0x22, 0xFF] 4 500 ⟨116, 40, 50⟩ 90 1
      0x12345678 600 7 8 9 10 11 1200 13 1 14 15 16 2 ⟨117, 41⟩ [] 1 0 1 0 1 0 1 0 1 0 20000 21 22
      23 24 25 26 27 1 2 28 29 2 [600, 601] [602, 603] 30 31 [0x78, 0x79, 0x7A]
    state.print [] = .ok ([] ++ hexDump state.fields) ∧
      state2.print [] = .ok ([] ++ hexDump state2.fields) := by
  intro state state2
  obtain ⟨hstate, hstate2⟩ := print_dumps_iff []
  have hmatched : state2.Matched := ⟨rfl, rfl, rfl, rfl⟩
  exact ⟨(hstate state rfl).2.mpr ⟨by decide, by decide⟩,
    (hstate2 state2 hmatched).2.mpr ⟨⟨by decide, by decide⟩, rfl, by decide⟩⟩

/-- Of a message of zeros the steering angle's line shows one byte of four. -/
theorem print_not_dump :
    ¬ ((∀ m : Veh2CloudState, m.passPosNum.toNat = m.passPos.length → ∀ os,
        m.print os = .ok (os ++ hexDump m.fields)) ∧
      ∀ m : Veh2CloudState2, m.Matched → ∀ os, m.print os = .ok (os ++ hexDump m.fields)) := by
  rintro ⟨hstate, -⟩
  have hdumped := (Veh2CloudState.print_iff default rfl []).mp (hstate default rfl [])
  exact absurd hdumped.1 (by decide)

end Csae295
