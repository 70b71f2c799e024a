import Csae295.Model.Print
import Csae295.Verification.InhCodec
import Csae295.Verification.StateCodec
import Csae295.Verification.UnpackSafety

/-! Which messages `unpack` hands on can be printed inside the local buffers.

A number's line is short whatever its value. A string's line is short as soon as its
hexadecimal digits, two for each byte, fit into the buffer they are collected in. -/

namespace Csae295

open Library

/-! ## Lengths of formatted text -/

@[simp] theorem utf8_length (s : String) : (utf8 s).length = s.utf8ByteSize := by
  simp [utf8]

@[simp] theorem ascii_length (cs : List Char) : (ascii cs).length = cs.length := by
  simp [ascii]

theorem decimal_length_le {n k : ℕ} (hk : 0 < k) (h : n < 10 ^ k) : (decimal n).length ≤ k := by
  rw [decimal, ascii_length]
  exact (Nat.length_toDigits_le_iff (by decide) hk).mpr h

theorem decimalLeft_length_le (x : Word 8) : (decimalLeft x).length ≤ 24 := by
  have hneg : (decimal x.toInt.natAbs).length ≤ 20 :=
    decimal_length_le (by decide) (by
      have hlt := BitVec.toInt_lt (x := x)
      have hle := BitVec.le_toInt x
      omega)
  have hpos : (decimal x.toNat).length ≤ 20 :=
    decimal_length_le (by decide) (by
      have hlt := x.isLt
      omega)
  have hsign : (utf8 "-").length = 1 := by decide
  simp only [decimalLeft, List.length_append, ascii_length, List.length_replicate]
  split
  · rw [List.length_append]
    omega
  · omega

theorem hexUpper_length_le (width : ℕ) {n k : ℕ} (hk : 0 < k) (h : n < 16 ^ k) :
    (hexUpper width n).length ≤ width + k := by
  have hdigits := (Nat.length_toDigits_le_iff (by decide) hk).mpr h
  simp only [hexUpper, ascii_length, List.length_append, List.length_replicate, List.length_map]
  omega

/-- A byte has exactly two hexadecimal digits. -/
theorem hexUpper_byte_length (b : Byte) : (hexUpper 2 b.toNat).length = 2 := by
  have hdigits := (Nat.length_toDigits_le_iff (b := 16) (by decide) (by decide)).mpr
    (show b.toNat < 16 ^ 2 from b.isLt)
  simp only [hexUpper, ascii_length, List.length_append, List.length_replicate, List.length_map]
  omega

theorem utf8_open_length : (utf8 "[").length = 1 := by decide

theorem utf8_close_length : (utf8 "] ").length = 2 := by decide

theorem utf8_colon_length : (utf8 ": ").length = 2 := by decide

theorem utf8_newline_length : (utf8 "\n").length = 1 := by decide

theorem cString_length_le (s : List Byte) : (cString s).length ≤ s.length :=
  (List.takeWhile_sublist _).length_le

/-! ## The digits of a string -/

theorem inBuffer_of_lt {capacity : ℕ} {text : List Byte} (h : text.length < capacity) :
    inBuffer capacity text = .ok text := if_pos h

theorem inBuffer_of_le {capacity : ℕ} {text : List Byte} (h : capacity ≤ text.length) :
    inBuffer capacity text = .error .write := if_neg (by omega)

/-- The hexadecimal digits of a string. -/
def hexOf (bytes : List Byte) : List Byte := bytes.flatMap fun b => hexUpper 2 b.toNat

theorem hexOf_length (bytes : List Byte) : (hexOf bytes).length = 2 * bytes.length :=
  Format.length_flatMap_of_const hexUpper_byte_length bytes

theorem appendHex_of_fits (capacity : ℕ) (bytes : List Byte) (i n : ℕ) (str : List Byte)
    (hbytes : i + n ≤ bytes.length) (hstr : str.length + 2 * n < capacity) :
    appendHex capacity bytes i n str = .ok (str ++ hexOf ((bytes.drop i).take n)) := by
  induction n generalizing i str with
  | zero => simp [appendHex, hexOf]
  | succ n ih =>
      have hi : i < bytes.length := by omega
      have hlen := hexUpper_byte_length bytes[i]
      have hs : inBuffer 3 (hexUpper 2 bytes[i].toNat) = .ok _ := inBuffer_of_lt (by omega)
      have hcat : (str ++ hexUpper 2 bytes[i].toNat).length = str.length + 2 := by
        rw [List.length_append, hlen]
      rw [appendHex, List.getElem?_eq_getElem hi]
      simp only [hs, ok_bind, inBuffer_of_lt (show (str ++ hexUpper 2 bytes[i].toNat).length <
        capacity by omega)]
      rw [ih _ _ (by omega) (by omega), List.drop_eq_getElem_cons hi, List.take_succ_cons, hexOf,
        hexOf, List.flatMap_cons, List.append_assoc]

theorem bytesToString_of_fits {capacity : ℕ} {bytes : List Byte} {size : ℕ}
    (hbytes : size ≤ bytes.length) (hcapacity : 2 * size < capacity) :
    bytesToString capacity bytes size = .ok (hexOf (bytes.take size)) := by
  have happend := appendHex_of_fits capacity bytes 0 size [] (by omega) (by
    rw [List.length_nil]
    omega)
  rw [bytesToString, inBuffer_of_lt (by rw [List.length_nil]; omega), ok_bind, happend,
    List.drop_zero, List.nil_append]

/-- The loop leaves the string it reads or the buffer it fills otherwise. -/
theorem appendHex_error (capacity : ℕ) (bytes : List Byte) (i n : ℕ) (str : List Byte)
    (hstr : str.length < capacity)
    (h : bytes.length < i + n ∧ i ≤ bytes.length ∨ capacity ≤ str.length + 2 * n) :
    ∃ e, appendHex capacity bytes i n str = .error e := by
  induction n generalizing i str with
  | zero => omega
  | succ n ih =>
      rw [appendHex]
      by_cases hi : i < bytes.length
      · have hlen := hexUpper_byte_length bytes[i]
        have hcat : (str ++ hexUpper 2 bytes[i].toNat).length = str.length + 2 := by
          rw [List.length_append, hlen]
        rw [List.getElem?_eq_getElem hi]
        simp only [inBuffer_of_lt (show (hexUpper 2 bytes[i].toNat).length < 3 by omega), ok_bind]
        by_cases hfits : (str ++ hexUpper 2 bytes[i].toNat).length < capacity
        · simp only [inBuffer_of_lt hfits, ok_bind]
          exact ih _ _ hfits (by omega)
        · exact ⟨.write, by rw [inBuffer_of_le (Nat.le_of_not_lt hfits), error_bind]⟩
      · rw [List.getElem?_eq_none (Nat.le_of_not_lt hi)]
        exact ⟨.read, rfl⟩

/-! ## Printing that always or never comes to its end -/

namespace Print

variable {α β : Type}

/-- Whatever has been printed before, the computation comes to its end. -/
def Safe (p : Print α) : Prop := ∀ printer, ∃ r, p.run printer = .ok r

/-- Whatever has been printed before, the computation leaves a buffer or a container. -/
def Fails (p : Print α) : Prop := ∀ printer, ∃ e, p.run printer = .error e

theorem safe_pure (a : α) : (pure a : Print α).Safe := fun printer => ⟨(a, printer), rfl⟩

theorem Safe.bind {p : Print α} {f : α → Print β} (hp : p.Safe) (hf : ∀ a, (f a).Safe) :
    (p >>= f).Safe := by
  intro printer
  obtain ⟨r, hr⟩ := hp printer
  obtain ⟨r', hr'⟩ := hf r.1 r.2
  exact ⟨r', by rw [StateT.run_bind, hr, ok_bind, hr']⟩

theorem Fails.bind {p : Print α} (h : p.Fails) (f : α → Print β) : (p >>= f).Fails := by
  intro printer
  obtain ⟨e, he⟩ := h printer
  exact ⟨e, by rw [StateT.run_bind, he, error_bind]⟩

theorem fails_bind (p : Print α) {f : α → Print β} (h : ∀ a, (f a).Fails) : (p >>= f).Fails := by
  intro printer
  cases hp : p.run printer with
  | ok r =>
      obtain ⟨e, he⟩ := h r.1 r.2
      exact ⟨e, by rw [StateT.run_bind, hp, ok_bind, he]⟩
  | error e => exact ⟨e, by rw [StateT.run_bind, hp, error_bind]⟩

theorem safe_line {size : ℕ} {text : Word 8 → List Byte} (h : ∀ x, (text x).length < 1024) :
    (line size text).Safe := by
  intro printer
  refine ⟨((), ⟨printer.offset + BitVec.ofNat (8 * 8) size,
    printer.os ++ text printer.offset⟩), ?_⟩
  change (inBuffer 1024 (text printer.offset) >>= _) = _
  rw [inBuffer_of_lt (h printer.offset)]
  rfl

theorem safe_number {w : ℕ} (digits size : ℕ) (label : List Byte) (value : BitVec w)
    (hw : w ≤ 64) (hdigits : digits ≤ 16) (hlabel : label.length ≤ 512) :
    (number digits size label value.toNat).Safe := by
  refine safe_line fun offset => ?_
  have hvalue : value.toNat < 2 ^ 64 :=
    value.isLt.trans_le (Nat.pow_le_pow_right (by decide) hw)
  have hoffset := decimalLeft_length_le offset
  have hhex := hexUpper_length_le digits (n := value.toNat) (k := 16) (by decide) (by omega)
  have hdecimal := decimal_length_le (n := value.toNat) (k := 20) (by decide) (by omega)
  simp only [List.length_append, utf8_open_length, utf8_close_length, utf8_colon_length,
    utf8_newline_length]
  omega

theorem safe_texts (size : ℕ) {label first second : List Byte} (hlabel : label.length ≤ 64)
    (hfirst : first.length ≤ 256) (hsecond : second.length ≤ 256) :
    (texts size label first second).Safe := by
  refine safe_line fun offset => ?_
  have hoffset := decimalLeft_length_le offset
  simp only [List.length_append, utf8_open_length, utf8_close_length, utf8_colon_length,
    utf8_newline_length]
  omega

theorem digits_of_fits {bytes : List Byte} {len : ℕ} (hbytes : len ≤ bytes.length)
    (hlen : len ≤ 127) : digits bytes len = pure (hexOf (bytes.take len)) := by
  rw [digits, bytesToString_of_fits hbytes (show 2 * len < 256 by omega)]
  rfl

theorem digits_fails {bytes : List Byte} {len : ℕ} (h : bytes.length < len ∨ 128 ≤ len) :
    (digits bytes len).Fails := by
  obtain ⟨e, he⟩ := appendHex_error 256 bytes 0 len [] (by decide) (by
    simp only [List.length_nil]
    omega)
  have hrun : bytesToString 256 bytes len = .error e := by
    rw [bytesToString, inBuffer_of_lt (by decide), ok_bind, he]
  intro printer
  refine ⟨e, ?_⟩
  rw [digits, hrun]
  rfl

/-- The identifiers have eight bytes. -/
theorem digits_array (v : Vector Byte 8) : digits v.toList 8 = pure (hexOf v.toList) := by
  rw [digits_of_fits (Vector.length_toList.ge) (by decide),
    List.take_of_length_le (Vector.length_toList.le)]

theorem hexOf_array_length (v : Vector Byte 8) : (hexOf v.toList).length = 16 := by
  rw [hexOf_length, Vector.length_toList]

/-- A length byte whose string is not printed or whose digits fit into 256 characters. -/
def Printable (len : Byte) : Prop := len.toNat ≤ 127 ∨ len = 0xFF

instance (len : Byte) : Decidable (Printable len) := inferInstanceAs (Decidable (_ ∨ _))

theorem safe_string {label s : List Byte} {len : Byte} (hlabel : label.length ≤ 64)
    (hs : announced len → s.length = len.toNat) (hlen : Printable len) :
    (string label s len).Safe := by
  unfold string
  split
  · next hannounced =>
      have hne : len ≠ 0xFF := (announced_iff.mp hannounced).2.symm
      have hle : len.toNat ≤ 127 := hlen.resolve_right hne
      have hlength := hs hannounced
      have hread : len.toNat ≤ (s ++ [0]).length := by
        rw [List.length_append]
        omega
      have htext := cString_length_le s
      rw [digits_of_fits hread hle, pure_bind]
      refine safe_texts _ hlabel ?_ (by omega)
      rw [hexOf_length, List.length_take]
      omega
  · exact safe_pure ()

theorem fails_string {label s : List Byte} {len : Byte} (hannounced : announced len)
    (h : s.length + 1 < len.toNat ∨ 128 ≤ len.toNat) : (string label s len).Fails := by
  rw [string, if_pos hannounced]
  refine (digits_fails ?_).bind _
  rw [List.length_append]
  exact h

theorem start_of_safe {p : Print Unit} (h : p.Safe) (offset : ℕ) (os : List Byte) :
    ∃ os', start offset os p = .ok os' := by
  obtain ⟨r, hr⟩ := h ⟨BitVec.ofNat (8 * 8) offset, os⟩
  exact ⟨r.2.os, by rw [start, hr]; rfl⟩

theorem start_of_fails {p : Print Unit} (h : p.Fails) (offset : ℕ) (os : List Byte) :
    ∃ e, start offset os p = .error e := by
  obtain ⟨e, he⟩ := h ⟨BitVec.ofNat (8 * 8) offset, os⟩
  exact ⟨e, by rw [start, he]; rfl⟩

end Print

open Print

/-! ## The messages -/

theorem MessageHeader.print_ok (self : MessageHeader) (os : List Byte) :
    ∃ os', self.print os = .ok os' := by
  refine start_of_safe ?_ 0 os
  iterate 5 refine (safe_number _ _ _ _ (by decide) (by decide) (by decide)).bind fun _ => ?_
  exact safe_number _ _ _ _ (by decide) (by decide) (by decide)

/-- Behind the header's lines the message's own lines decide. -/
theorem print_of_base {base : Except Fault (List Byte)} {os : List Byte} (hbase : base = .ok os)
    (offset : ℕ) (p : Print Unit) :
    (do
      let os ← base
      start offset os p) = start offset os p := by
  rw [hbase, ok_bind]

theorem Cloud2VehInhRes.print_ok (self : Cloud2VehInhRes) (os : List Byte) :
    ∃ os', self.print os = .ok os' := by
  obtain ⟨os', hbase⟩ := self.toMessageHeader.print_ok os
  rw [Cloud2VehInhRes.print, print_of_base hbase]
  refine start_of_safe ?_ _ os'
  have htext := (cString_length_le self.vehicleId.toList).trans (Vector.length_toList).le
  rw [digits_array, pure_bind]
  refine (safe_texts _ (by decide) (by rw [hexOf_array_length]; decide) (by omega)).bind fun _ => ?_
  exact safe_number _ _ _ _ (by decide) (by decide) (by decide)

namespace Veh2CloudInh

/-- Every string that is printed has the characters its length byte announces. -/
structure StringsMatch (m : Veh2CloudInh) : Prop where
  swVer : announced m.swVerLen → m.swVer.length = m.swVerLen.toNat
  hwVer : announced m.hwVerLen → m.hwVer.length = m.hwVerLen.toNat
  adVer : announced m.adVerLen → m.adVer.length = m.adVerLen.toNat
  userData : announced m.userDataLen → m.userData.length = m.userDataLen.toNat

/-- No length byte is between 128 and 254. -/
def AllPrintable (m : Veh2CloudInh) : Prop :=
  Printable m.swVerLen ∧ Printable m.hwVerLen ∧ Printable m.adVerLen ∧ Printable m.userDataLen

theorem print_of_printable {m : Veh2CloudInh} (hmatch : m.StringsMatch) (h : m.AllPrintable)
    (os : List Byte) : ∃ os', m.print os = .ok os' := by
  obtain ⟨hsw, hhw, had, huser⟩ := h
  obtain ⟨os', hbase⟩ := m.toMessageHeader.print_ok os
  rw [Veh2CloudInh.print, print_of_base hbase]
  refine start_of_safe ?_ _ os'
  have htext := (cString_length_le m.vehicleId.toList).trans (Vector.length_toList).le
  rw [digits_array, pure_bind]
  refine (safe_texts _ (by decide) (by rw [hexOf_array_length]; decide) (by omega)).bind fun _ => ?_
  refine (safe_number _ _ _ _ (by decide) (by decide) (by decide)).bind fun _ => ?_
  refine (safe_string (by decide) hmatch.swVer hsw).bind fun _ => ?_
  refine (safe_number _ _ _ _ (by decide) (by decide) (by decide)).bind fun _ => ?_
  refine (safe_string (by decide) hmatch.hwVer hhw).bind fun _ => ?_
  refine (safe_number _ _ _ _ (by decide) (by decide) (by decide)).bind fun _ => ?_
  refine (safe_string (by decide) hmatch.adVer had).bind fun _ => ?_
  iterate 5
    refine (safe_number _ _ _ _ (by decide) (by decide) (by decide)).bind fun _ => ?_
  exact safe_string (by decide) hmatch.userData huser

theorem announced_of_not_printable {len : Byte} (h : ¬ Printable len) :
    announced len ∧ 128 ≤ len.toNat := by
  obtain ⟨hlt, hne⟩ := not_or.mp h
  have hzero : 0 ≠ len := by
    rintro rfl
    exact hlt (by decide)
  exact ⟨announced_iff.mpr ⟨hzero, Ne.symm hne⟩, by omega⟩

theorem fails_string_of_not_printable {label s : List Byte} {len : Byte} (h : ¬ Printable len) :
    (string label s len).Fails := by
  obtain ⟨hannounced, hle⟩ := announced_of_not_printable h
  exact fails_string hannounced (.inr hle)

theorem print_error {m : Veh2CloudInh} (os : List Byte)
    (h : ¬ m.AllPrintable ∨ (announced m.swVerLen ∧ m.swVer.length + 1 < m.swVerLen.toNat)) :
    ∃ e, m.print os = .error e := by
  obtain ⟨os', hbase⟩ := m.toMessageHeader.print_ok os
  rw [Veh2CloudInh.print, print_of_base hbase]
  refine start_of_fails ?_ _ os'
  refine fails_bind _ fun _ => fails_bind _ fun _ => fails_bind _ fun _ => ?_
  rcases h with h | ⟨hannounced, hlong⟩
  swap
  · exact (fails_string hannounced (.inl hlong)).bind _
  by_cases hsw : Printable m.swVerLen
  swap
  · exact (fails_string_of_not_printable hsw).bind _
  refine fails_bind _ fun _ => fails_bind _ fun _ => ?_
  by_cases hhw : Printable m.hwVerLen
  swap
  · exact (fails_string_of_not_printable hhw).bind _
  refine fails_bind _ fun _ => fails_bind _ fun _ => ?_
  by_cases had : Printable m.adVerLen
  swap
  · exact (fails_string_of_not_printable had).bind _
  iterate 6 refine fails_bind _ fun _ => ?_
  exact fails_string_of_not_printable fun huser => h ⟨hsw, hhw, had, huser⟩

end Veh2CloudInh

/-! ## Loops -/

theorem safe_element {α : Type} {xs : List α} {i : ℕ} (h : i < xs.length) :
    element xs i = pure xs[i] := by
  rw [element, List.getElem?_eq_getElem h]

theorem fails_element {α : Type} {xs : List α} {i : ℕ} (h : xs.length ≤ i) :
    (element xs i).Fails := by
  rw [element, List.getElem?_eq_none h]
  exact fun _ => ⟨.index, rfl⟩

/-- A label with a position in it stays short for positions below 256. -/
theorem label_length_le (before after : List Byte) {i : ℕ} (hi : i < 256)
    (hbefore : before.length ≤ 64) (hafter : after.length ≤ 64) :
    (before ++ decimal i ++ after).length ≤ 512 := by
  have hdigits := decimal_length_le (n := i) (k := 3) (by decide) (by omega)
  simp only [List.length_append]
  omega

namespace Veh2CloudState

theorem safe_printPassPos (passPos : List Position2D) (i n : ℕ) (h : i + n ≤ passPos.length)
    (hn : i + n ≤ 256) : (printPassPos passPos i n).Safe := by
  induction n generalizing i with
  | zero => exact safe_pure ()
  | succ n ih =>
      have hlongitude := label_length_le (utf8 "途经点") (utf8 "-经度") (show i < 256 by omega)
        (by decide) (by decide)
      have hlatitude := label_length_le (utf8 "途经点") (utf8 "-纬度") (show i < 256 by omega)
        (by decide) (by decide)
      rw [printPassPos, safe_element (by omega), pure_bind]
      refine (safe_number _ _ _ _ (by decide) (by decide) hlongitude).bind fun _ => ?_
      refine (safe_number _ _ _ _ (by decide) (by decide) hlatitude).bind fun _ => ?_
      exact ih (i + 1) (by omega) (by omega)

theorem fails_printPassPos (passPos : List Position2D) (i n : ℕ) (hi : i ≤ passPos.length)
    (h : passPos.length < i + n) : (printPassPos passPos i n).Fails := by
  induction n generalizing i with
  | zero => omega
  | succ n ih =>
      rw [printPassPos]
      by_cases hlt : i < passPos.length
      · exact fails_bind _ fun _ => fails_bind _ fun _ => fails_bind _ fun _ =>
          ih (i + 1) hlt (by omega)
      · exact (fails_element (Nat.le_of_not_lt hlt)).bind _

theorem print_of_covered {m : Veh2CloudState} (h : m.passPosNum.toNat ≤ m.passPos.length)
    (os : List Byte) : ∃ os', m.print os = .ok os' := by
  obtain ⟨os', hbase⟩ := m.toMessageHeader.print_ok os
  rw [Veh2CloudState.print, print_of_base hbase]
  refine start_of_safe ?_ _ os'
  have htext := (cString_length_le m.vehicleId.toList).trans (Vector.length_toList).le
  have hhex := hexOf_array_length m.messageId
  rw [digits_array, digits_array, pure_bind]
  refine (safe_texts _ (by decide) (by rw [hexOf_array_length]; decide) (by omega)).bind fun _ => ?_
  rw [pure_bind]
  refine (safe_texts _ (by decide) (by rw [List.length_reverse]; omega)
    (by rw [List.length_reverse]; omega)).bind fun _ => ?_
  iterate 24
    refine (safe_number _ _ _ _ (by decide) (by decide) (by decide)).bind fun _ => ?_
  exact safe_printPassPos _ _ _ (by omega) (by
    have hlt := m.passPosNum.isLt
    omega)

theorem print_error {m : Veh2CloudState} (h : m.passPos.length < m.passPosNum.toNat)
    (os : List Byte) : ∃ e, m.print os = .error e := by
  obtain ⟨os', hbase⟩ := m.toMessageHeader.print_ok os
  rw [Veh2CloudState.print, print_of_base hbase]
  refine start_of_fails ?_ _ os'
  iterate 28 refine fails_bind _ fun _ => ?_
  exact fails_printPassPos _ _ _ (Nat.zero_le _) (by omega)

end Veh2CloudState

namespace Veh2CloudState2

theorem safe_printElements {label : List Byte} (hlabel : label.length ≤ 64)
    (elements : List (Word 2)) (i n : ℕ) (h : i + n ≤ elements.length) (hn : i + n ≤ 256) :
    (printElements label elements i n).Safe := by
  induction n generalizing i with
  | zero => exact safe_pure ()
  | succ n ih =>
      have hline := label_length_le (utf8 "车轮") label (show i < 256 by omega) (by decide) hlabel
      rw [printElements, safe_element (by omega), pure_bind]
      refine (safe_number _ _ _ _ (by decide) (by decide) hline).bind fun _ => ?_
      exact ih (i + 1) (by omega) (by omega)

theorem fails_printElements (label : List Byte) (elements : List (Word 2)) (i n : ℕ)
    (hi : i ≤ elements.length) (h : elements.length < i + n) :
    (printElements label elements i n).Fails := by
  induction n generalizing i with
  | zero => omega
  | succ n ih =>
      rw [printElements]
      by_cases hlt : i < elements.length
      · exact fails_bind _ fun _ => fails_bind _ fun _ => ih (i + 1) hlt (by omega)
      · exact (fails_element (Nat.le_of_not_lt hlt)).bind _

theorem print_of_covered {m : Veh2CloudState2} (hpass : m.passPosNum.toNat ≤ m.passPos.length)
    (hwheel : m.wheelNum.toNat ≤ m.wheelVelocity.length)
    (htire : m.wheelNum.toNat ≤ m.tirePressure.length)
    (hmatch : announced m.userDataLen → m.userData.length = m.userDataLen.toNat)
    (huser : Printable m.userDataLen) (os : List Byte) : ∃ os', m.print os = .ok os' := by
  obtain ⟨os', hbase⟩ := Veh2CloudState.print_of_covered hpass os
  rw [Veh2CloudState2.print, print_of_base hbase]
  refine start_of_safe ?_ _ os'
  have hlt := m.wheelNum.isLt
  iterate 24
    refine (safe_number _ _ _ _ (by decide) (by decide) (by decide)).bind fun _ => ?_
  refine (safe_printElements (by decide) _ _ _ (by omega) (by omega)).bind fun _ => ?_
  refine (safe_printElements (by decide) _ _ _ (by omega) (by omega)).bind fun _ => ?_
  iterate 3
    refine (safe_number _ _ _ _ (by decide) (by decide) (by decide)).bind fun _ => ?_
  exact safe_string (by decide) hmatch huser

theorem print_base_error {m : Veh2CloudState2} (h : m.passPos.length < m.passPosNum.toNat)
    (os : List Byte) : ∃ e, m.print os = .error e := by
  obtain ⟨e, he⟩ := Veh2CloudState.print_error h os
  exact ⟨e, by rw [Veh2CloudState2.print, he, error_bind]⟩

theorem print_error {m : Veh2CloudState2} (os : List Byte)
    (h : m.wheelVelocity.length < m.wheelNum.toNat ∨ ¬ Printable m.userDataLen) :
    ∃ e, m.print os = .error e := by
  cases hbase : m.toVeh2CloudState.print os with
  | error e => exact ⟨e, by rw [Veh2CloudState2.print, hbase, error_bind]⟩
  | ok os' =>
      rw [Veh2CloudState2.print, print_of_base hbase]
      refine start_of_fails ?_ _ os'
      iterate 24 refine fails_bind _ fun _ => ?_
      rcases h with hwheel | huser
      · exact (fails_printElements _ _ _ _ (Nat.zero_le _) (by omega)).bind _
      · iterate 5 refine fails_bind _ fun _ => ?_
        exact Veh2CloudInh.fails_string_of_not_printable huser

end Veh2CloudState2

/-! ## What the buffer constructors leave -/

theorem not_ok_of_error {α : Type} {x : Except Fault α} (h : ∃ e, x = .error e) :
    ¬ ∃ a, x = .ok a := by
  rintro ⟨a, ha⟩
  obtain ⟨e, he⟩ := h
  rw [ha] at he
  cases he

namespace Veh2CloudInh

/-- The length bytes of a frame, each behind the string before it, leave nothing too long to
print. -/
def LengthsPrintable (mem : List Byte) : Prop :=
  let sw := byteAt mem 24
  let hw := byteAt mem (25 + versionChars sw)
  let ad := byteAt mem (26 + versionChars sw + versionChars hw)
  let user := byteAt mem (31 + versionChars sw + versionChars hw + versionChars ad)
  Printable sw ∧ Printable hw ∧ Printable ad ∧ Printable user

instance (mem : List Byte) : Decidable (LengthsPrintable mem) :=
  inferInstanceAs (Decidable (_ ∧ _ ∧ _ ∧ _))

theorem stringsMatch_of_valid {m : Veh2CloudInh} (h : bodyFormat.Valid m.body) :
    m.StringsMatch := by
  obtain ⟨hsw, hhw, had, huser⟩ := (body_valid_iff m).mp h
  have hchars : ∀ {len : Byte}, announced len → versionChars len = len.toNat :=
    fun h => if_pos h
  exact ⟨fun h => hsw.trans (hchars h), fun h => hhw.trans (hchars h),
    fun h => had.trans (hchars h), fun _ => huser⟩

/-- The length bytes of a message stand in its frame behind the strings before them. -/
theorem lengthsPrintable_iff {m : Veh2CloudInh} {mem rest : List Byte} (h : bodyFormat.Valid m.body)
    (hsplit : mem.drop 16 = bodyFormat.enc m.body ++ rest) :
    LengthsPrintable mem ↔ m.AllPrintable := by
  obtain ⟨hsw, hhw, had, -⟩ := (body_valid_iff m).mp h
  have hvehicle : m.vehicleId.toList.length = 8 := Vector.length_toList
  simp only [bodyFormat, body, Format.seq_enc, Format.tagged_enc, Format.chars_enc,
    Format.byte_enc, Format.array_enc, List.append_assoc, List.cons_append,
    List.nil_append] at hsplit
  have hswLen : byteAt (mem.drop 16) 8 = m.swVerLen := byteAt_of_split _ hsplit hvehicle
  have hhwLen : byteAt (mem.drop 16) (9 + m.swVer.length) = m.hwVerLen := by
    refine byteAt_of_split (m.vehicleId.toList ++ m.swVerLen :: m.swVer)
      (hsplit.trans (by simp only [List.append_assoc, List.cons_append]; rfl)) ?_
    simp only [List.length_append, List.length_cons, hvehicle]
    omega
  have hadLen : byteAt (mem.drop 16) (10 + m.swVer.length + m.hwVer.length) = m.adVerLen := by
    refine byteAt_of_split
      (m.vehicleId.toList ++ m.swVerLen :: (m.swVer ++ m.hwVerLen :: m.hwVer))
      (hsplit.trans (by simp only [List.append_assoc, List.cons_append]; rfl)) ?_
    simp only [List.length_append, List.length_cons, hvehicle]
    omega
  have huserLen : byteAt (mem.drop 16)
      (15 + m.swVer.length + m.hwVer.length + m.adVer.length) = m.userDataLen := by
    refine byteAt_of_split
      (m.vehicleId.toList ++ m.swVerLen :: (m.swVer ++ m.hwVerLen :: (m.hwVer ++
        m.adVerLen :: (m.adVer ++ [m.comType, m.posConfidence, m.timeSync, m.gnssType]))))
      (hsplit.trans (by simp only [List.append_assoc, List.cons_append, List.nil_append]; rfl)) ?_
    simp only [List.length_append, List.length_cons, hvehicle, List.length_nil]
    omega
  rw [byteAt_drop] at hswLen hhwLen hadLen huserLen
  have hhwIndex : 25 + m.swVer.length = 16 + (9 + m.swVer.length) := by omega
  have hadIndex : 26 + m.swVer.length + m.hwVer.length =
      16 + (10 + m.swVer.length + m.hwVer.length) := by omega
  have huserIndex : 31 + m.swVer.length + m.hwVer.length + m.adVer.length =
      16 + (15 + m.swVer.length + m.hwVer.length + m.adVer.length) := by omega
  simp only [LengthsPrintable, AllPrintable, hswLen, ← hsw, hhwIndex, hhwLen, ← hhw, hadIndex,
    hadLen, ← had, huserIndex, huserLen]

theorem prints_iff (mem : List Byte) :
    (∀ storage m, ofBuffer storage (some mem) mem.length true = .ok m →
      ∀ os, ∃ os', m.print os = .ok os') ↔
      (Readable mem → 32 ≤ mem.length ∧ LengthsPrintable mem) := by
  unfold Readable
  by_cases hguard : mem.length < 32
  · have hnot : ¬ 32 ≤ mem.length := by omega
    simp only [hguard, true_or, hnot, false_and, true_implies, iff_false]
    intro hall
    obtain ⟨m, hm, hlen⟩ : ∃ m : Veh2CloudInh,
        ofBuffer { (default : Veh2CloudInh) with swVerLen := 200 } (some mem) mem.length true =
          .ok m ∧ m.swVerLen = 200 := by
      by_cases hheader : mem.length < 16
      · exact ⟨_, by rw [ofBuffer, fromBytes_of_lt_header _ true hheader]; rfl, rfl⟩
      · exact ⟨_, by rw [ofBuffer, fromBytes_of_lt _ true (Nat.le_of_not_lt hheader) le_rfl
          (by rwa [fresh_length])]; rfl, rfl⟩
    exact absurd (hall _ m hm []) (not_ok_of_error (print_error [] (.inl fun h =>
      absurd h.1 (by rw [hlen]; decide))))
  unfold ofBuffer
  have hle := Nat.le_of_not_lt hguard
  by_cases hfits : 16 + bodyFormat.span (mem.drop 16) ≤ mem.length
  · obtain ⟨b, hb, hread, hsplit⟩ := fromBytes_fresh_of_fits true le_rfl hle hfits
    have hbody := fun storage => body_assign storage (MessageHeader.decode true mem) hb
    have hvalid := fun storage => (hbody storage).symm ▸ hb
    have hprintable := fun storage =>
      lengthsPrintable_iff (hvalid storage) ((hbody storage).symm ▸ hsplit)
    simp only [hread, ok_bind, pure_eq_ok, Except.ok.injEq, forall_eq', hfits, or_true, hle,
      true_and, true_implies]
    constructor
    · intro hall
      rw [hprintable default]
      by_contra h
      exact absurd (hall default []) (not_ok_of_error (print_error [] (.inl h)))
    · intro h storage
      exact print_of_printable (stringsMatch_of_valid (hvalid storage)) ((hprintable storage).mp h)
  · simp only [fun storage => fromBytes_fresh_of_not_fits storage true le_rfl hle hfits,
      error_bind, reduceCtorEq, false_implies, implies_true, hguard, hfits, or_self]

end Veh2CloudInh

namespace Veh2CloudState

theorem prints_iff (mem : List Byte) :
    (∀ storage m, ofBuffer storage (some mem) mem.length true = .ok m →
      ∀ os, ∃ os', m.print os = .ok os') ↔ (Readable mem → 98 ≤ mem.length) := by
  unfold Readable
  by_cases hguard : mem.length < 98
  · have hnot : ¬ 98 ≤ mem.length := by omega
    simp only [hguard, true_or, hnot, true_implies, iff_false]
    intro hall
    obtain ⟨m, hm, hlen⟩ : ∃ m : Veh2CloudState,
        ofBuffer { (default : Veh2CloudState) with passPosNum := 1 } (some mem) mem.length true =
          .ok m ∧ m.passPos.length < m.passPosNum.toNat := by
      by_cases hheader : mem.length < 16
      · exact ⟨_, by rw [ofBuffer, fromBytes_of_lt_header _ true hheader]; rfl, by decide⟩
      · exact ⟨_, by rw [ofBuffer, fromBytes_of_lt _ true (Nat.le_of_not_lt hheader) le_rfl
          (by rwa [fresh_length])]; rfl, by simp [fresh]⟩
    exact absurd (hall _ m hm []) (not_ok_of_error (print_error hlen []))
  have hle := Nat.le_of_not_lt hguard
  simp only [hle, implies_true, iff_true]
  intro storage m hm
  rw [ofBuffer] at hm
  by_cases hfits : passPosEnd mem ≤ mem.length
  · obtain ⟨b, hb, hread, -⟩ := fromBytes_fresh_of_fits true le_rfl hle hfits
    rw [hread] at hm
    cases hm
    exact print_of_covered (body_assign storage _ true hb).1.le
  · rw [fromBytes_fresh_of_not_fits storage true le_rfl hle hfits] at hm
    cases hm

end Veh2CloudState

namespace Veh2CloudState2

/-- When the first version's guard turns the buffer away, a fresh object still counts the
pass points its storage held. -/
theorem passPos_of_lt {storage : Veh2CloudState2} {mem : List Byte} {r : Veh2CloudState2 × ℕ}
    (hguard : mem.length < 98)
    (hr : (fresh storage).fromBytes (some mem) mem.length true = .ok r) :
    r.1.passPosNum = storage.passPosNum ∧ r.1.passPos = [] := by
  by_cases hheader : mem.length < 16
  · rw [fromBytes_fresh_base (Veh2CloudState.fromBytes_of_lt_header _ true hheader)
      (Nat.zero_le _) hr]
    exact ⟨rfl, rfl⟩
  · have h := Nat.le_of_not_lt hheader
    rw [fromBytes_fresh_base (Veh2CloudState.fromBytes_of_lt _ true h le_rfl
      (by rwa [Veh2CloudState.fresh_length])) h hr]
    exact ⟨rfl, rfl⟩

/-- Without wheels the two counts stand at fixed positions. -/
theorem counts_of_split {be : Bool} {head : Head} {wheelNum userDataLen : Byte}
    {wheelVelocity tirePressure : List (Word 2)} {lights doors : Word 2}
    {userData bs rest : List Byte}
    (h : (bodyFormat be).Valid (head, (wheelNum, wheelVelocity, tirePressure),
      (lights, doors, userDataLen, userData)))
    (hsplit : bs = (bodyFormat be).enc (head, (wheelNum, wheelVelocity, tirePressure),
      (lights, doors, userDataLen, userData)) ++ rest) (hw : byteAt bs 38 = 0) :
    wheelNum = 0 ∧ userDataLen = byteAt bs 43 ∧ userData.length = userDataLen.toNat := by
  have hhead : ((headFormat be).enc head).length = 38 := by
    have hspan := (headFormat be).span_enc h.1 []
    rw [headFormat_span] at hspan
    exact hspan.symm
  obtain ⟨-, ⟨⟨hvelocity, -⟩, hpressure, -⟩, -, -, huser⟩ := h
  simp only [bodyFormat, wheelsFormat, tailFormat, Format.seq_enc, Format.tagged_enc,
    Format.many_enc, Format.word_enc, Format.chars_enc, List.append_assoc,
    List.cons_append] at hsplit
  have hnum : wheelNum = 0 := (byteAt_of_split _ hsplit hhead).symm.trans hw
  subst hnum
  have hnoVelocity : wheelVelocity = [] := List.eq_nil_of_length_eq_zero hvelocity
  have hnoPressure : tirePressure = [] := List.eq_nil_of_length_eq_zero hpressure
  rw [hnoVelocity, hnoPressure] at hsplit
  have htail : bs = (headFormat be).enc head ++ 0 :: (wordBytes be lights ++
      wordBytes be doors) ++ userDataLen :: (userData ++ rest) := by
    simp only [hsplit, List.flatMap_nil, List.nil_append, List.append_assoc, List.cons_append]
  refine ⟨rfl, (byteAt_of_split _ htail ?_).symm, huser⟩
  · simp only [List.length_append, List.length_cons, hhead, wordBytes_length]

theorem prints_iff_of_lt {mem : List Byte} (hguard : mem.length < 98) :
    (∀ storage m, ofBuffer storage (some mem) mem.length true = .ok m →
      ∀ os, ∃ os', m.print os = .ok os') ↔ ¬ Readable mem := by
  constructor
  · intro hall hreadable
    let storage : Veh2CloudState2 := { (default : Veh2CloudState2) with passPosNum := 1 }
    obtain ⟨m, hm⟩ := (ofBuffer_iff storage mem true).mpr hreadable
    have hcount : m.passPos.length < m.passPosNum.toNat := by
      unfold ofBuffer at hm
      cases hr : (fresh storage).fromBytes (some mem) mem.length true with
      | error e =>
          rw [hr] at hm
          cases hm
      | ok r =>
          rw [hr] at hm
          cases hm
          obtain ⟨hnum, hpos⟩ := passPos_of_lt hguard hr
          rw [hnum, hpos]
          decide
    exact absurd (hall storage m hm []) (not_ok_of_error (print_base_error hcount []))
  · intro hreadable storage m hm
    exact absurd ((ofBuffer_iff storage mem true).mp ⟨m, hm⟩) hreadable

theorem prints_iff (mem : List Byte) :
    (∀ storage m, ofBuffer storage (some mem) mem.length true = .ok m →
      ∀ os, ∃ os', m.print os = .ok os') ↔
      (Readable mem → Veh2CloudState.passPosEnd mem + 44 ≤ mem.length ∧
        Printable (byteAt mem (Veh2CloudState.passPosEnd mem + 43))) := by
  have hend : 98 ≤ Veh2CloudState.passPosEnd mem := Nat.le_add_right _ _
  by_cases hguard : mem.length < 98
  · have hnot : ¬ Veh2CloudState.passPosEnd mem + 44 ≤ mem.length := by omega
    rw [prints_iff_of_lt hguard]
    simp only [hnot, false_and, imp_false]
  have hle := Nat.le_of_not_lt hguard
  by_cases hreadable : Readable mem
  swap
  · simp only [hreadable, false_implies, iff_true]
    intro storage m hm
    exact absurd ((ofBuffer_iff storage mem true).mp ⟨m, hm⟩) hreadable
  obtain ⟨hbase, hrest⟩ := hreadable
  have hbaseFits : Veh2CloudState.passPosEnd mem ≤ mem.length := hbase.resolve_left hguard
  obtain ⟨b, hb, hread, -⟩ := Veh2CloudState.fromBytes_fresh_of_fits true le_rfl hle hbaseFits
  have hfrom := fun storage : Veh2CloudState2 =>
    fromBytes_of_base (fresh storage) (hread storage.toVeh2CloudState) hbaseFits
  simp only [fresh_restLength] at hfrom
  have hbaseEnd : baseEnd mem = Veh2CloudState.passPosEnd mem := if_neg hguard
  rw [hbaseEnd] at hrest
  unfold ofBuffer
  by_cases hshort : mem.length - Veh2CloudState.passPosEnd mem < 44
  · have hnot : ¬ Veh2CloudState.passPosEnd mem + 44 ≤ mem.length := by omega
    have htrue : Readable mem := ⟨hbase, .inl (by rw [hbaseEnd]; omega)⟩
    simp only [htrue, hnot, false_and, true_implies, iff_false, hfrom, if_pos hshort, ok_bind,
      pure_eq_ok, Except.ok.injEq, forall_eq']
    intro hall
    exact absurd (hall { (default : Veh2CloudState2) with wheelNum := 1 } [])
      (not_ok_of_error (print_error [] (.inl (by simp [fresh]))))
  have hfits : Fits mem (Veh2CloudState.passPosEnd mem) := hrest.resolve_left (by omega)
  obtain ⟨body, hbody, hload, hsplit⟩ := loadFields_of_fits true hfits
  have htrue : Readable mem := ⟨hbase, .inr (by rw [hbaseEnd]; exact hfits)⟩
  have hlong : Veh2CloudState.passPosEnd mem + 44 ≤ mem.length := by omega
  obtain ⟨head, ⟨wheelNum, wheelVelocity, tirePressure⟩, lights, doors, userDataLen, userData⟩ :=
    body
  obtain ⟨hnum, hlen, hmatch⟩ := counts_of_split hbody hsplit (by rw [byteAt_drop]; exact hfits.1)
  rw [byteAt_drop] at hlen
  have hdecoded := fun storage : Veh2CloudState2 =>
    (hfrom storage).trans ((if_neg hshort).trans (hload _ rfl rfl))
  simp only [htrue, hlong, true_and, true_implies, hdecoded, ← hlen, ok_bind, pure_eq_ok,
    Except.ok.injEq, forall_eq']
  constructor
  · intro hall
    by_contra huser
    exact absurd (hall default []) (not_ok_of_error (print_error [] (.inr huser)))
  · intro huser storage
    refine print_of_covered ?_ ?_ ?_ ?_ huser
    · exact (Veh2CloudState.body_assign storage.toVeh2CloudState _ true hb).1.le
    · rw [assign, hnum]
      exact Nat.zero_le _
    · rw [assign, hnum]
      exact Nat.zero_le _
    · intro hannounced
      have hne : 0 ≠ userDataLen := (announced_iff.mp hannounced).1
      exact (congrArg List.length (if_pos hne)).trans hmatch

end Veh2CloudState2

/-! ## What `unpack` hands on -/

namespace Packer

/-- Every message `unpack` calls the handler with can be printed. -/
def PrintsDelivered (mem : List Byte) : Prop :=
  ∀ storage handler r, unpack storage (some mem) mem.length handler = .ok r →
    ∀ msg ∈ r.calls, ∀ os, ∃ os', msg.print os = .ok os'

theorem printsDelivered_of_reject {mem : List Byte}
    (h : ∀ storage handler, unpack storage (some mem) mem.length handler = .ok reject) :
    PrintsDelivered mem := by
  intro storage handler r hr
  rw [h] at hr
  cases hr
  exact fun msg hmsg => absurd hmsg (List.not_mem_nil)

theorem printsDelivered_of_error {mem : List Byte}
    (h : ∀ storage handler, ∃ e, unpack storage (some mem) mem.length handler = .error e) :
    PrintsDelivered mem := by
  intro storage handler r hr
  obtain ⟨e, he⟩ := h storage handler
  rw [hr] at he
  cases he

/-- Where a class is dispatched to, every message its buffer constructor leaves counts. -/
theorem printsDelivered_iff {σ α : Type} {mem : List Byte} (wrap : α → Message)
    (decode : σ → Except Fault α) (proj : Storage → σ) (inj : σ → Storage)
    (hproj : ∀ s, proj (inj s) = s)
    (hunpack : ∀ storage handler, unpack storage (some mem) mem.length handler =
      (do
        let m ← decode (proj storage)
        .ok (deliver handler (wrap m)))) :
    PrintsDelivered mem ↔
      ∀ s m, decode s = .ok m → ∀ os, ∃ os', (wrap m).print os = .ok os' := by
  constructor
  · intro hprints s m hm os
    have hok := hunpack (inj s) true
    rw [hproj, hm, ok_bind] at hok
    exact hprints _ _ _ hok (wrap m) (List.mem_singleton.mpr rfl) os
  · intro hall storage handler r hr msg hmsg os
    rw [hunpack] at hr
    cases hdec : decode (proj storage) with
    | error e =>
        rw [hdec] at hr
        cases hr
    | ok m =>
        rw [hdec] at hr
        cases hr
        cases handler with
        | false => exact absurd hmsg List.not_mem_nil
        | true =>
            rw [List.mem_singleton.mp hmsg]
            exact hall _ m hdec os

/-- What a frame has to satisfy so that its message can be printed, if it can be read at all:
it is not cut off before its count and length bytes, and no printed string is too long. -/
structure PrintableFrame (mem : List Byte) : Prop where
  inh : byteAt mem 5 = veh2cloudInh → Veh2CloudInh.Readable mem →
    32 ≤ mem.length ∧ Veh2CloudInh.LengthsPrintable mem
  state : byteAt mem 5 = veh2cloudState → byteAt mem 6 = 0x01 → Veh2CloudState.Readable mem →
    98 ≤ mem.length
  state2 : byteAt mem 5 = veh2cloudState → byteAt mem 6 = 0x02 → Veh2CloudState2.Readable mem →
    Veh2CloudState.passPosEnd mem + 44 ≤ mem.length ∧
      Printable (byteAt mem (Veh2CloudState.passPosEnd mem + 43))

/-! For every type at most one of the conditions speaks. -/

theorem printableFrame_inh_iff {mem : List Byte} (htype : byteAt mem 5 = veh2cloudInh) :
    PrintableFrame mem ↔ (Veh2CloudInh.Readable mem →
      32 ≤ mem.length ∧ Veh2CloudInh.LengthsPrintable mem) := by
  refine ⟨fun hframe => hframe.inh htype, fun hprint => ⟨fun _ => hprint, ?_, ?_⟩⟩
  all_goals
    rw [htype]
    exact fun hother => absurd hother (by decide)

section

variable {mem : List Byte} (htype : byteAt mem 5 = veh2cloudState)

include htype

theorem printableFrame_state_iff (hversion : byteAt mem 6 = 0x01) :
    PrintableFrame mem ↔ (Veh2CloudState.Readable mem → 98 ≤ mem.length) := by
  refine ⟨fun hframe => hframe.state htype hversion, fun hprint => ⟨?_, fun _ _ => hprint, ?_⟩⟩
  · rw [htype]
    exact fun hother => absurd hother (by decide)
  · rw [hversion]
    exact fun _ hother => absurd hother (by decide)

theorem printableFrame_state2_iff (hversion : byteAt mem 6 = 0x02) :
    PrintableFrame mem ↔ (Veh2CloudState2.Readable mem →
      Veh2CloudState.passPosEnd mem + 44 ≤ mem.length ∧
        Printable (byteAt mem (Veh2CloudState.passPosEnd mem + 43))) := by
  refine ⟨fun hframe => hframe.state2 htype hversion, fun hprint => ⟨?_, ?_, fun _ _ => hprint⟩⟩
  · rw [htype]
    exact fun hother => absurd hother (by decide)
  · rw [hversion]
    exact fun _ hother => absurd hother (by decide)

end

theorem printableFrame_of_other {mem : List Byte} (hinh : byteAt mem 5 ≠ veh2cloudInh)
    (hstate : byteAt mem 5 = veh2cloudState → byteAt mem 6 ≠ 0x01 ∧ byteAt mem 6 ≠ 0x02) :
    PrintableFrame mem :=
  ⟨fun h => absurd h hinh, fun h hone => absurd hone (hstate h).1,
    fun h htwo => absurd htwo (hstate h).2⟩

theorem unpack_prints_iff (mem : List Byte) :
    PrintsDelivered mem ↔ (mem.head? = some 0xF2 → PrintableFrame mem) := by
  by_cases hempty : mem = []
  · simp only [hempty, List.head?_nil, reduceCtorEq, false_implies, iff_true]
    exact printsDelivered_of_reject fun storage handler => unpack_empty storage _ handler
  have h1 : 1 ≤ mem.length := List.length_pos_iff.mpr hempty
  have hsize : mem.length ≠ 0 := by omega
  rw [head?_eq_marker_iff hempty]
  cases route mem with
  | noMarker hid =>
      simp only [hid, false_implies, iff_true]
      exact printsDelivered_of_reject fun storage handler =>
        unpack_of_no_marker storage handler h1 hid
  | cut hid hcut =>
      have hzero : byteAt mem 5 = 0 := byteAt_of_le hcut
      have hframe : PrintableFrame mem := printableFrame_of_other
        (by rw [hzero]; decide) (by rw [hzero]; exact fun h => absurd h (by decide))
      simp only [hframe, implies_true, iff_true]
      exact printsDelivered_of_error fun storage handler =>
        ⟨.read, unpack_of_cut storage handler hsize h1 hcut hid⟩
  | header hid h htype =>
      have hframe : PrintableFrame mem := printableFrame_of_other
        (by rcases htype with htype | htype <;> rw [htype] <;> decide)
        (by rcases htype with htype | htype <;> rw [htype] <;> exact fun h => absurd h (by decide))
      simp only [hframe, implies_true, iff_true]
      rw [printsDelivered_iff Message.header
        (fun storage => MessageHeader.ofBuffer storage (some mem) mem.length true) Storage.header
        (fun s => { (default : Storage) with header := s }) (fun _ => rfl)
        (fun storage handler => unpack_header storage handler hsize hid h htype)]
      exact fun _ m _ => m.print_ok
  | inh hid h htype =>
      simp only [hid, true_implies, printableFrame_inh_iff htype]
      rw [printsDelivered_iff Message.inh
        (fun storage => Veh2CloudInh.ofBuffer storage (some mem) mem.length true) Storage.inh
        (fun s => { (default : Storage) with inh := s }) (fun _ => rfl)
        (fun storage handler => unpack_inh storage handler hsize hid h htype)]
      exact Veh2CloudInh.prints_iff mem
  | inhRes hid h htype =>
      have hframe : PrintableFrame mem := printableFrame_of_other
        (by rw [htype]; decide) (by rw [htype]; exact fun h => absurd h (by decide))
      simp only [hframe, implies_true, iff_true]
      rw [printsDelivered_iff Message.inhRes
        (fun storage => Cloud2VehInhRes.ofBuffer storage (some mem) mem.length true)
        Storage.inhRes (fun s => { (default : Storage) with inhRes := s }) (fun _ => rfl)
        (fun storage handler => unpack_inhRes storage handler hsize hid h htype)]
      exact fun _ m _ => m.print_ok
  | stateCut hid h htype =>
      have hzero : byteAt mem 6 = 0 := byteAt_of_le h.le
      have hframe : PrintableFrame mem := printableFrame_of_other
        (by rw [htype]; decide) (fun _ => by rw [hzero]; decide)
      simp only [hframe, implies_true, iff_true]
      exact printsDelivered_of_error fun storage handler =>
        ⟨.read, unpack_state_of_cut storage handler hsize hid h htype⟩
  | state hid h htype hversion =>
      simp only [hid, true_implies, printableFrame_state_iff htype hversion]
      rw [printsDelivered_iff Message.state
        (fun storage => Veh2CloudState.ofBuffer storage (some mem) mem.length true) Storage.state
        (fun s => { (default : Storage) with state := s }) (fun _ => rfl)
        (fun storage handler => unpack_state storage handler hsize hid h htype hversion)]
      exact Veh2CloudState.prints_iff mem
  | state2 hid h htype hversion =>
      simp only [hid, true_implies, printableFrame_state2_iff htype hversion]
      rw [printsDelivered_iff Message.state2
        (fun storage => Veh2CloudState2.ofBuffer storage (some mem) mem.length true)
        Storage.state2 (fun s => { (default : Storage) with state2 := s }) (fun _ => rfl)
        (fun storage handler => unpack_state2 storage handler hsize hid h htype hversion)]
      exact Veh2CloudState2.prints_iff mem
  | stateOther hid h htype hone htwo =>
      have hframe : PrintableFrame mem := printableFrame_of_other
        (by rw [htype]; decide) (fun _ => ⟨hone, htwo⟩)
      simp only [hframe, implies_true, iff_true]
      exact printsDelivered_of_reject fun storage handler =>
        unpack_state_other storage handler hsize hid h htype hone htwo
  | other hid h hbeat hbeatRes hinh hinhRes hstate =>
      have hframe : PrintableFrame mem := printableFrame_of_other hinh (fun h => absurd h hstate)
      simp only [hframe, implies_true, iff_true]
      exact printsDelivered_of_reject fun storage handler =>
        unpack_other storage handler hsize hid h hbeat hbeatRes hinh hinhRes hstate

/-- The frame of a message whose software version has 128 characters. -/
def longVersion : Veh2CloudInh :=
  Veh2CloudInh.new 1 0 0 [] (List.replicate 128 0x61) [] [] 0 0 0 0 []

/-- `unpack` reads it as it was meant, and it cannot be printed. -/
theorem unpack_delivers_unprintable : ¬ ∀ mem, PrintsDelivered mem := by
  intro hall
  have hvalid : Veh2CloudInh.bodyFormat.Valid longVersion.body :=
    (Veh2CloudInh.new_built 1 0 0 [] (List.replicate 128 0x61) [] [] 0 0 0 0 []).body_valid (by
      simp [Veh2CloudInh.Overlong, Veh2CloudInh.new])
  have hlen : longVersion.length = 160 := by
    simp [Veh2CloudInh.length_eq, longVersion, Veh2CloudInh.new]
  have hread := Veh2CloudInh.fromBytes_frameBytes longVersion
    (default : Storage).inh true hvalid []
  rw [List.append_nil] at hread
  have hunpack := unpack_inh default true
    (show (longVersion.frameBytes true).length ≠ 0 by
      rw [Veh2CloudInh.frameBytes_length, hlen]; decide)
    (show byteAt (longVersion.frameBytes true) 0 = 0xF2 by decide +kernel)
    (by rw [Veh2CloudInh.frameBytes_length, hlen]; decide) (by decide +kernel)
  have hprint := hall _ default true _ (hunpack.trans (by
    rw [Veh2CloudInh.ofBuffer, hread]
    rfl)) (.inh longVersion) (List.mem_singleton.mpr rfl) []
  refine not_ok_of_error (Veh2CloudInh.print_error [] (.inl fun h => ?_)) hprint
  have hbyte : longVersion.swVerLen = 128 := by
    simp [longVersion, Veh2CloudInh.new, Veh2CloudInh.stringLen]
  have hsw := h.1
  rw [hbyte] at hsw
  exact absurd hsw (by decide)

end Packer

end Csae295
