/-
**Little-endian words of any width.**

A machine word is stored as its bytes, least significant byte first, and read back by gluing the
bytes together.  The two directions are written here for every width at once, so that the four
bytes of an integer and the eight bytes of a double are two instances of the same pair of
functions.

Main definitions:

* `LittleEndian.value` — the number a list of bytes stands for;
* `LittleEndian.bytes` — the `n` low bytes of a number;
* `LittleEndian.encode`, `LittleEndian.decode` — the same for bit vectors.

Main results:

* `LittleEndian.value_bytes`, `LittleEndian.bytes_value` — the two directions are inverse up to
  the width;
* `LittleEndian.decode_encode`, `LittleEndian.encode_decode` — on words of `8 * n` bits and lists
  of `n` bytes they are exact inverses.
-/

import Mathlib.Data.List.Basic
import Mathlib.Tactic.Ring

set_option relaxedAutoImplicit false
set_option autoImplicit false

namespace LittleEndian

/-! ### Numbers -/

/-- The number a list of bytes stands for, least significant byte first. -/
def value : List (BitVec 8) → ℕ
  | [] => 0
  | b :: bs => b.toNat + 256 * value bs

/-- The `n` low bytes of a number, least significant byte first. -/
def bytes : ℕ → ℕ → List (BitVec 8)
  | 0, _ => []
  | n + 1, v => BitVec.ofNat 8 v :: bytes n (v / 256)

@[simp] theorem length_bytes (n v : ℕ) : (bytes n v).length = n := by
  induction n generalizing v with
  | zero => rfl
  | succ n ih => simp [bytes, ih]

/-- A list of `n` bytes stands for a number below `256 ^ n`. -/
theorem value_lt (bs : List (BitVec 8)) : value bs < 256 ^ bs.length := by
  induction bs with
  | nil => simp [value]
  | cons b bs ih =>
      have hb : b.toNat < 256 := b.isLt
      rw [value, List.length_cons, Nat.pow_succ]
      omega

/-- **Reading back the bytes of a number gives it modulo the width.** -/
theorem value_bytes (n v : ℕ) : value (bytes n v) = v % 256 ^ n := by
  induction n generalizing v with
  | zero => simp [bytes, value, Nat.mod_one]
  | succ n ih =>
      rw [bytes, value, ih, BitVec.toNat_ofNat]
      change v % 256 + 256 * (v / 256 % 256 ^ n) = v % 256 ^ (n + 1)
      rw [Nat.pow_succ, Nat.mul_comm (256 ^ n), Nat.mod_mul]

/-- **Writing back the number of a list of bytes gives the list.** -/
theorem bytes_value (bs : List (BitVec 8)) : bytes bs.length (value bs) = bs := by
  induction bs with
  | nil => rfl
  | cons b bs ih =>
      have hb : b.toNat < 256 := b.isLt
      have hlow : BitVec.ofNat 8 (b.toNat + 256 * value bs) = b := by
        apply BitVec.eq_of_toNat_eq
        rw [BitVec.toNat_ofNat]
        omega
      have hhigh : (b.toNat + 256 * value bs) / 256 = value bs := by omega
      rw [List.length_cons, value, bytes, hlow, hhigh, ih]

/-! ### Words -/

/-- The `n` bytes of a word of `8 * n` bits. -/
def encode (n : ℕ) (v : BitVec (8 * n)) : List (BitVec 8) := bytes n v.toNat

/-- The word of `8 * n` bits a list of bytes stands for. -/
def decode (n : ℕ) (bs : List (BitVec 8)) : BitVec (8 * n) := BitVec.ofNat (8 * n) (value bs)

@[simp] theorem length_encode (n : ℕ) (v : BitVec (8 * n)) : (encode n v).length = n :=
  length_bytes n v.toNat

theorem pow_eight_mul (n : ℕ) : 2 ^ (8 * n) = 256 ^ n := by
  rw [Nat.pow_mul]

/-- **A word is read back from its bytes.** -/
theorem decode_encode (n : ℕ) (v : BitVec (8 * n)) : decode n (encode n v) = v := by
  apply BitVec.eq_of_toNat_eq
  have hv : v.toNat < 256 ^ n := pow_eight_mul n ▸ v.isLt
  rw [decode, encode, value_bytes, Nat.mod_eq_of_lt hv, BitVec.ofNat_toNat, BitVec.setWidth_eq]

/-- **Every list of `n` bytes is the encoding of the word it stands for.** -/
theorem encode_decode {n : ℕ} {bs : List (BitVec 8)} (h : bs.length = n) :
    encode n (decode n bs) = bs := by
  subst h
  have hv : value bs < 2 ^ (8 * bs.length) := pow_eight_mul bs.length ▸ value_lt bs
  rw [encode, decode, BitVec.toNat_ofNat, Nat.mod_eq_of_lt hv, bytes_value]

end LittleEndian
