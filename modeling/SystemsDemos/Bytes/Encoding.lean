import Mathlib.Data.List.Basic
import Mathlib.Data.Nat.Init
import Mathlib.Tactic.Ring

/-!
# Little-endian numbers, padding and keystreams

Byte strings as files and ciphers use them: numbers written with the low byte first, padding to
whole blocks in which each padding byte holds the number of padding bytes, and masking with a
keystream.

### Outline

* `leBytes` and `leValue`, inverse to each other;
* `padBlocks`;
* `xorWith`.
-/

namespace SystemsDemos

/-! ### Numbers -/

/-- The `k` low bytes of a number, low byte first. -/
def leBytes : ℕ → ℕ → List UInt8
  | 0, _ => []
  | k + 1, n => UInt8.ofNat n :: leBytes k (n / 256)

/-- The number that the bytes stand for, low byte first. -/
def leValue : List UInt8 → ℕ
  | [] => 0
  | b :: bytes => b.toNat + 256 * leValue bytes

@[simp] lemma length_leBytes (k n : ℕ) : (leBytes k n).length = k := by
  induction k generalizing n with
  | zero => rfl
  | succ k ih => rw [leBytes, List.length_cons, ih]

/-- The bytes of a number that fits stand for it. -/
lemma leValue_leBytes {k n : ℕ} (h : n < 256 ^ k) : leValue (leBytes k n) = n := by
  induction k generalizing n with
  | zero =>
    rw [Nat.pow_zero, Nat.lt_one_iff] at h
    rw [h]
    rfl
  | succ k ih =>
    have hdiv : n / 256 < 256 ^ k := Nat.div_lt_of_lt_mul (by rwa [Nat.pow_succ'] at h)
    rw [leBytes, leValue, ih hdiv, UInt8.toNat_ofNat']
    exact Nat.mod_add_div n 256

/-- The number of a byte string fits into its length. -/
lemma leValue_lt (bytes : List UInt8) : leValue bytes < 256 ^ bytes.length := by
  induction bytes with
  | nil => exact Nat.one_pos
  | cons b bytes ih =>
    have hb := b.toNat_lt
    rw [leValue, List.length_cons, Nat.pow_succ]
    omega

/-- The number of a byte string has these bytes. -/
lemma leBytes_leValue (bytes : List UInt8) : leBytes bytes.length (leValue bytes) = bytes := by
  induction bytes with
  | nil => rfl
  | cons b bytes ih =>
    have hb := b.toNat_lt
    have hlow : UInt8.ofNat (b.toNat + 256 * leValue bytes) = b := by
      apply UInt8.toNat_inj.mp
      rw [UInt8.toNat_ofNat']
      omega
    have hhigh : (b.toNat + 256 * leValue bytes) / 256 = leValue bytes := by omega
    rw [leValue, List.length_cons, leBytes, hlow, hhigh, ih]

/-! ### Padding -/

/-- The number of padding bytes, from one to a whole block. -/
def padLength (block n : ℕ) : ℕ := block - n % block

/-- The bytes padded to whole blocks; each padding byte holds the number of padding bytes. -/
def padBlocks (block : ℕ) (bytes : List UInt8) : List UInt8 :=
  bytes ++ List.replicate (padLength block bytes.length)
    (UInt8.ofNat (padLength block bytes.length))

variable {block : ℕ} {bytes : List UInt8}

lemma padLength_pos (hblock : 0 < block) (n : ℕ) : 0 < padLength block n :=
  Nat.sub_pos_of_lt (Nat.mod_lt n hblock)

lemma padLength_le (block n : ℕ) : padLength block n ≤ block := Nat.sub_le _ _

lemma length_padBlocks (block : ℕ) (bytes : List UInt8) :
    (padBlocks block bytes).length = bytes.length + padLength block bytes.length := by
  simp [padBlocks]

/-- Padded bytes are whole blocks. -/
lemma dvd_length_padBlocks (hblock : 0 < block) : block ∣ (padBlocks block bytes).length := by
  have hmod := Nat.mod_lt bytes.length hblock
  have hdiv := Nat.div_add_mod bytes.length block
  refine ⟨bytes.length / block + 1, ?_⟩
  rw [length_padBlocks, padLength, Nat.mul_succ]
  omega

/-- The last byte is the number of padding bytes. -/
lemma getLast?_padBlocks (hblock : 0 < block) : (padBlocks block bytes).getLast? =
    some (UInt8.ofNat (padLength block bytes.length)) := by
  have hne : padLength block bytes.length ≠ 0 := (padLength_pos hblock _).ne'
  rw [padBlocks, List.getLast?_append, List.getLast?_replicate, if_neg hne]
  rfl

/-! ### Keystreams -/

/-- The bytes masked with a keystream. -/
def xorWith (keystream : ℕ → UInt8) (bytes : List UInt8) : List UInt8 :=
  bytes.mapIdx fun k b => b ^^^ keystream k

/-- Masking twice gives the bytes back. -/
lemma xorWith_xorWith (keystream : ℕ → UInt8) (bytes : List UInt8) :
    xorWith keystream (xorWith keystream bytes) = bytes := by
  apply List.ext_getElem?
  intro k
  simp only [xorWith, List.getElem?_mapIdx, Option.map_map, Function.comp_def,
    UInt8.xor_assoc, UInt8.xor_self, UInt8.xor_zero, Option.map_id']

end SystemsDemos
