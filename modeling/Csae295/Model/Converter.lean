import Csae295.Library.Memory

/-! Formatted text in local buffers of fixed size. -/

namespace Csae295

open Library

/-- The bytes of a string literal. -/
def utf8 (s : String) : List Byte := s.toUTF8.data.toList.map UInt8.toBitVec

/-- The characters of an ASCII string. -/
def ascii (cs : List Char) : List Byte := cs.map fun c => BitVec.ofNat 8 c.toNat

/-- `%u` -/
def decimal (n : ℕ) : List Byte := ascii (Nat.toDigits 10 n)

/-- `%-4ld` of a `size_t`, which is read as a signed number. -/
def decimalLeft (x : Word 8) : List Byte :=
  let digits := if x.toInt < 0 then utf8 "-" ++ decimal x.toInt.natAbs else decimal x.toNat
  digits ++ ascii (List.replicate (4 - digits.length) ' ')

/-- `%0*X` of at least `width` digits. -/
def hexUpper (width n : ℕ) : List Byte :=
  let digits := (Nat.toDigits 16 n).map Char.toUpper
  ascii (List.replicate (width - digits.length) '0' ++ digits)

/-- `%s` of a terminated string. -/
def cString (s : List Byte) : List Byte := s.takeWhile (· ≠ 0)

/-- A text in a local buffer of `capacity` characters, which also holds the terminator. -/
def inBuffer (capacity : ℕ) (text : List Byte) : Except Fault (List Byte) :=
  if text.length + 1 ≤ capacity then .ok text else .error .write

/-- The loop that appends the hexadecimal digits of `n` bytes from position `i` on. -/
def appendHex (capacity : ℕ) (bytes : List Byte) : ℕ → ℕ → List Byte → Except Fault (List Byte)
  | _, 0, str => .ok str
  | i, n + 1, str =>
    match bytes[i]? with
    | some byte => do
      let s ← inBuffer 3 (hexUpper 2 byte.toNat)
      let str ← inBuffer capacity (str ++ s)
      appendHex capacity bytes (i + 1) n str
    | none => .error .read

/-- `bytes_to_string` into a string buffer of `capacity` characters. -/
def bytesToString (capacity : ℕ) (bytes : List Byte) (size : ℕ) : Except Fault (List Byte) := do
  let str ← inBuffer capacity []
  appendHex capacity bytes 0 size str

/-! ## Scanning digits -/

/-- `isspace` of the C locale. -/
def isSpace (c : Byte) : Bool := c = 0x20 || (0x09 ≤ c && c ≤ 0x0D)

/-- `hex_char_to_val` -/
def hexCharToVal (c : Byte) : ℤ :=
  if 0x30 ≤ c && c ≤ 0x39 then c.toNat - 0x30
  else if 0x61 ≤ c && c ≤ 0x66 then c.toNat - 0x61 + 10
  else if 0x41 ≤ c && c ≤ 0x46 then c.toNat - 0x41 + 10
  else -1

/-- The loop that skips white space; the pointer is what can be read from it on. -/
def skipSpaces : List Byte → Except Fault (List Byte)
  | [] => .error .read
  | c :: p => if c ≠ 0 ∧ isSpace c then skipSpaces p else .ok (c :: p)

theorem skipSpaces_length {p q : List Byte} (h : skipSpaces p = .ok q) : q.length ≤ p.length := by
  induction p with
  | nil => cases h
  | cons c p ih =>
      rw [skipSpaces] at h
      split at h
      · exact (ih h).trans (Nat.le_succ _)
      · cases h
        exact le_rfl

/-- `memset` to zero. -/
def clear (mem : List Byte) (size : ℕ) : Except Fault (List Byte) :=
  if size ≤ mem.length then .ok (List.replicate size 0 ++ mem.drop size) else .error .write

/-- An assignment to one byte of a region. -/
def setByte (mem : List Byte) (i : ℕ) (byte : Byte) : Except Fault (List Byte) :=
  if i < mem.length then .ok (mem.set i byte) else .error .write

/-- The scanning loop of `string_to_bytes`. -/
def scanPairs (size : ℕ) (p out : List Byte) (count : ℕ) : Except Fault (List Byte × ℕ) :=
  match p with
  | [] => .error .read
  | c :: p =>
    if c = 0 then .ok (out, count)
    else
      match _h : skipSpaces (c :: p) with
      | .error e => .error e
      | .ok [] => .error .read
      | .ok (first :: q) =>
        if first = 0 then .ok (out, count)
        else
          let hi := hexCharToVal first
          if hi < 0 then .ok (out, count)
          else
            match q with
            | [] => .error .read
            | second :: rest =>
              if second = 0 then .ok (out, count)
              else
                let lo := hexCharToVal second
                if lo < 0 then .ok (out, count)
                else
                  let byte : Byte := (BitVec.ofInt 32 hi <<< 4 ||| BitVec.ofInt 32 lo).setWidth 8
                  if count < size then
                    match setByte out count byte with
                    | .error e => .error e
                    | .ok out => scanPairs size rest out (count + 1)
                  else .ok (out, count)
termination_by p.length
decreasing_by
  have hlength := skipSpaces_length _h
  simp only [List.length_cons] at hlength ⊢
  omega

/-- `string_to_bytes`: the buffer behind the call and the number of bytes written. -/
def stringToBytes (str bytes : Buffer) (size : ℕ) : Except Fault (Buffer × ℕ) :=
  match str, bytes with
  | some p, some out =>
    if size = 0 then .ok (some out, 0)
    else
      match clear out size with
      | .error e => .error e
      | .ok out => (scanPairs size p out 0).map fun r => (some r.1, r.2)
  | _, _ => .ok (bytes, 0)

/-! ## Packed decimals -/

/-- `strlen`, which reads up to the terminator. -/
def strlen (str : List Byte) : Except Fault ℕ :=
  if 0 ∈ str then .ok (cString str).length else .error .read

/-- The loop of `string_to_bcd` from position `i` on, with the conversions between `size_t` and
`int` of the source. -/
def packDigits (atoi : Byte → ℤ) (str : List Byte) (size len : ℕ) :
    ℕ → ℕ → List Byte → Except Fault (List Byte)
  | _, 0, bcd => .ok bcd
  | i, n + 1, bcd =>
    match str[i]? with
    | none => .error .read
    | some c =>
      let value : Word 4 := BitVec.ofInt (8 * 4) (atoi c)
      let index : Word 8 := (2 * BitVec.ofNat (8 * 8) size - BitVec.ofNat (8 * 8) len +
        BitVec.ofNat (8 * 8) i) / 2
      let j : Word 4 := index.setWidth (8 * 4)
      -- `j` is compared as an unsigned number of 64 bits
      if (j.signExtend (8 * 8)).toNat ≥ size then .ok bcd
      else
        let shift := 4 * ((if len % 2 = 0 then i + 1 else i) % 2)
        match bcd[index.toNat]? with
        | none => .error .write
        | some old =>
          packDigits atoi str size len (i + 1) n
            (bcd.set index.toNat (old ||| (value <<< shift).setWidth 8))

/-- `string_to_bcd`, where `atoi` stands for the call on the address of a single character. A null
buffer is only logged. -/
def stringToBcd (atoi : Byte → ℤ) (str : List Byte) (bcd : Buffer) (size : ℕ) :
    Except Fault Buffer := do
  let len ← strlen str
  let bcd ← clear (bcd.getD []) size
  let bcd ← packDigits atoi str size len 0 len bcd
  pure (some bcd)

/-- The value of a packed byte; digits above 9 count as they are. -/
def fromBcd (b : Byte) : ℤ := (b >>> 4).toNat * 10 + (b &&& 0x0F).toNat

/-- The days from 1970-01-01 to a date, with the conversions between `int`, `unsigned` and
`int64_t` of the source. -/
def daysOf (year month day : ℤ) : ℤ :=
  let y := if month ≤ 2 then year - 1 else year
  let era := (if 0 ≤ y then y else y - 399).tdiv 400
  let yoe : Word 4 := BitVec.ofInt (8 * 4) (y - era * 400)
  let doy : Word 4 := BitVec.ofInt (8 * 4)
    ((153 * (month + if month > 2 then -3 else 9) + 2).tdiv 5 + day - 1)
  let doe : Word 4 := yoe * 365 + yoe / 4 - yoe / 100 + doy
  era * 146097 + doe.toNat - 719468

/-- The result is read as unsigned. -/
def utcMilliseconds (yearBcd monthBcd dayBcd hourBcd minBcd secBcd : Byte) : Word 8 :=
  let year := fromBcd yearBcd + 2000
  let month := fromBcd monthBcd
  let day := fromBcd dayBcd
  let hour := fromBcd hourBcd
  let min := fromBcd minBcd
  let sec := fromBcd secBcd
  let days := daysOf year month day
  let totalSecondsBj := days * 86400 + hour * 3600 + min * 60 + sec
  let totalSecondsUtc := totalSecondsBj - 8 * 3600
  BitVec.ofInt (8 * 8) (totalSecondsUtc * 1000)

/-- `bcd_time_to_utc_milliseconds` -/
def bcdTimeToUtcMilliseconds (bcd : Buffer) (size : ℕ) : Except Fault (Word 8) :=
  match bcd with
  | none => .ok 0
  | some mem =>
    if size < 6 then .ok 0
    else
      match mem with
      | yearBcd :: monthBcd :: dayBcd :: hourBcd :: minBcd :: secBcd :: _ =>
        .ok (utcMilliseconds yearBcd monthBcd dayBcd hourBcd minBcd secBcd)
      | _ => .error .read

end Csae295
