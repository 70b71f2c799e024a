import Mathlib.Data.BitVec
import Mathlib.Tactic.Ring

/-! Machine words and the bytes they occupy in the memory of a little-endian host. -/

namespace Csae295.Library

/-- One byte of memory. -/
abbrev Byte := BitVec 8

/-- An unsigned integer stored in `n` bytes. -/
abbrev Word (n : ℕ) := BitVec (8 * n)

/-- The number whose base-256 digits are the given bytes, least significant first. -/
def leNat : List Byte → ℕ
  | [] => 0
  | b :: bs => b.toNat + 256 * leNat bs

/-- The `n` low base-256 digits of a number, least significant first. -/
def natBytes : ℕ → ℕ → List Byte
  | 0, _ => []
  | n + 1, v => BitVec.ofNat 8 v :: natBytes n (v / 256)

@[simp] theorem natBytes_length (n v : ℕ) : (natBytes n v).length = n := by
  induction n generalizing v with
  | zero => rfl
  | succ n ih => simp [natBytes, ih]

theorem leNat_lt (bs : List Byte) : leNat bs < 256 ^ bs.length := by
  induction bs with
  | nil => simp [leNat]
  | cons b bs ih =>
      have hb : b.toNat < 256 := b.isLt
      simp only [leNat, List.length_cons, pow_succ]
      omega

theorem leNat_natBytes (n v : ℕ) : leNat (natBytes n v) = v % 256 ^ n := by
  induction n generalizing v with
  | zero => simp [natBytes, leNat, Nat.mod_one]
  | succ n ih =>
      have hv : (BitVec.ofNat 8 v).toNat = v % 256 := by simp
      rw [natBytes, leNat, ih, hv, pow_succ', Nat.mod_mul]

theorem natBytes_leNat (bs : List Byte) : natBytes bs.length (leNat bs) = bs := by
  induction bs with
  | nil => rfl
  | cons b bs ih =>
      have hb : b.toNat < 256 := b.isLt
      have hhead : BitVec.ofNat 8 (b.toNat + 256 * leNat bs) = b := by
        apply BitVec.eq_of_toNat_eq
        rw [BitVec.toNat_ofNat]
        omega
      have htail : (b.toNat + 256 * leNat bs) / 256 = leNat bs := by omega
      rw [List.length_cons, natBytes, leNat, hhead, htail, ih]

/-- The bytes a little-endian host stores for a word. -/
def leBytes {n : ℕ} (x : Word n) : List Byte := natBytes n x.toNat

/-- The word a little-endian host loads from `n` bytes. -/
def ofLEBytes (n : ℕ) (bs : List Byte) : Word n := BitVec.ofNat (8 * n) (leNat bs)

@[simp] theorem leBytes_length {n : ℕ} (x : Word n) : (leBytes x).length = n :=
  natBytes_length n x.toNat

theorem two_pow_eight_mul (n : ℕ) : 2 ^ (8 * n) = 256 ^ n := by
  rw [pow_mul]
  norm_num

@[simp] theorem ofLEBytes_leBytes {n : ℕ} (x : Word n) : ofLEBytes n (leBytes x) = x := by
  apply BitVec.eq_of_toNat_eq
  have hx : x.toNat < 256 ^ n := two_pow_eight_mul n ▸ x.isLt
  rw [ofLEBytes, leBytes, BitVec.toNat_ofNat, leNat_natBytes, two_pow_eight_mul,
    Nat.mod_mod, Nat.mod_eq_of_lt hx]

theorem leBytes_ofLEBytes {n : ℕ} {bs : List Byte} (h : bs.length = n) :
    leBytes (ofLEBytes n bs) = bs := by
  subst n
  have hlt : leNat bs < 2 ^ (8 * bs.length) := two_pow_eight_mul bs.length ▸ leNat_lt bs
  rw [leBytes, ofLEBytes, BitVec.toNat_ofNat, Nat.mod_eq_of_lt hlt, natBytes_leNat]

/-- Reversal of the bytes of a word. -/
def bswap {n : ℕ} (x : Word n) : Word n := ofLEBytes n (leBytes x).reverse

theorem leBytes_bswap {n : ℕ} (x : Word n) : leBytes (bswap x) = (leBytes x).reverse :=
  leBytes_ofLEBytes (by simp)

@[simp] theorem bswap_bswap {n : ℕ} (x : Word n) : bswap (bswap x) = x := by
  rw [bswap, leBytes_bswap, List.reverse_reverse, ofLEBytes_leBytes]

/-! ## Words in network or host order -/

/-- The bytes stored for a word, swapped first when `be` asks for network order. -/
def wordBytes {n : ℕ} (be : Bool) (x : Word n) : List Byte :=
  leBytes (if be then bswap x else x)

/-- The word loaded from `n` bytes, swapped afterwards when `be` asks for network order. -/
def ofWordBytes (n : ℕ) (be : Bool) (bs : List Byte) : Word n :=
  if be then bswap (ofLEBytes n bs) else ofLEBytes n bs

@[simp] theorem wordBytes_length {n : ℕ} (be : Bool) (x : Word n) :
    (wordBytes be x).length = n := by
  simp [wordBytes]

@[simp] theorem ofWordBytes_wordBytes {n : ℕ} (be : Bool) (x : Word n) :
    ofWordBytes n be (wordBytes be x) = x := by
  cases be <;> simp [ofWordBytes, wordBytes]

theorem wordBytes_ofWordBytes {n : ℕ} (be : Bool) {bs : List Byte} (h : bs.length = n) :
    wordBytes be (ofWordBytes n be bs) = bs := by
  cases be <;> simp [ofWordBytes, wordBytes, leBytes_ofLEBytes h]

/-! ## Positions -/

/-- The byte at a position, zero past the end. -/
def byteAt (bs : List Byte) (i : ℕ) : Byte := bs.getD i 0

theorem byteAt_drop (bs : List Byte) (n i : ℕ) : byteAt (bs.drop n) i = byteAt bs (n + i) := by
  simp [byteAt]

theorem byteAt_append (pre bs : List Byte) (i : ℕ) :
    byteAt (pre ++ bs) (pre.length + i) = byteAt bs i := by
  rw [← byteAt_drop, List.drop_left]

theorem byteAt_append_left {bs : List Byte} (post : List Byte) {i : ℕ} (h : i < bs.length) :
    byteAt (bs ++ post) i = byteAt bs i := by
  rw [byteAt, byteAt, List.getD_eq_getElem?_getD, List.getD_eq_getElem?_getD,
    List.getElem?_append_left h]

theorem byteAt_of_split (pre : List Byte) {bs post : List Byte} {b : Byte} {n : ℕ}
    (h : bs = pre ++ b :: post) (hn : pre.length = n) : byteAt bs n = b := by
  rw [h, ← hn]
  exact byteAt_append pre (b :: post) 0

theorem headD_drop (bs : List Byte) (n : ℕ) : (bs.drop n).headD 0 = byteAt bs n := by
  simp [byteAt, List.headD_eq_head?_getD]

theorem byteAt_of_le {bs : List Byte} {i : ℕ} (h : bs.length ≤ i) : byteAt bs i = 0 := by
  simp [byteAt, h]

/-! ## Byte arrays of fixed size -/

/-- The array holding the first `n` bytes of a list, padded with zeros. -/
def arrayOf (n : ℕ) (bs : List Byte) : Vector Byte n := Vector.ofFn fun i => bs.getD i 0

@[simp] theorem arrayOf_toList {n : ℕ} (v : Vector Byte n) : arrayOf n v.toList = v := by
  apply Vector.ext
  intro i hi
  simp [arrayOf]

theorem toList_arrayOf {n : ℕ} {bs : List Byte} (h : bs.length = n) :
    (arrayOf n bs).toList = bs := by
  apply List.ext_getElem
  · simp [h]
  · intro i hi hi'
    simp [arrayOf, hi']

end Csae295.Library
