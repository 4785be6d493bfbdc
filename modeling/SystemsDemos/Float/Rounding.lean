import Mathlib.Algebra.Order.Field.Basic
import Mathlib.Algebra.Order.Ring.Rat
import Mathlib.Tactic.Linarith
import Mathlib.Tactic.NormNum

/-!
# Rounded arithmetic

A number format is a set `F` of representable numbers, and a rounding to it is a monotone function
that leaves the representable numbers alone.  Each operation is the exact one, rounded once.  The
two laws already give every bound by a representable number: rounding does not cross it.

`single` are the numbers of the IEEE format with 24 significant bits up to the size `2 ^ 127`.  A
number whose rounding exceeds `floatMax` overflows; this is for the caller to check.
-/

namespace SystemsDemos

/-- A rounding to the numbers of `F`. -/
structure Rounding {K : Type*} [LinearOrder K] (F : Set K) where
  round : K → K
  monotone : Monotone round
  exact : ∀ x ∈ F, round x = x

namespace Rounding

section

variable {K : Type*} [LinearOrder K] {F : Set K} (r : Rounding F) {x b : K}

/-- Rounding does not cross a representable number upwards. -/
lemma round_le (hb : b ∈ F) (h : x ≤ b) : r.round x ≤ b :=
  (r.monotone h).trans_eq (r.exact b hb)

/-- Rounding does not cross a representable number downwards. -/
lemma le_round (hb : b ∈ F) (h : b ≤ x) : b ≤ r.round x :=
  (r.exact b hb).symm.trans_le (r.monotone h)

end

/-- Rounding does not leave an interval around zero with representable ends. -/
lemma abs_round_le {K : Type*} [Field K] [LinearOrder K] [IsStrictOrderedRing K] {F : Set K}
    (r : Rounding F) {x b : K} (hb : b ∈ F) (hneg : -b ∈ F) (h : |x| ≤ b) : |r.round x| ≤ b := by
  obtain ⟨hlow, hup⟩ := abs_le.mp h
  exact abs_le.mpr ⟨r.le_round hneg hlow, r.round_le hb hup⟩

section Field

variable {K : Type*} [Field K] [LinearOrder K] {F : Set K} (r : Rounding F)

/-- The rounded sum. -/
def add (x y : K) : K := r.round (x + y)

/-- The rounded difference. -/
def sub (x y : K) : K := r.round (x - y)

/-- The rounded product. -/
def mul (x y : K) : K := r.round (x * y)

/-- The rounded quotient. -/
def div (x y : K) : K := r.round (x / y)

variable [IsStrictOrderedRing K] {x y b : K}

/-- A product of numbers that are not negative is not negative. -/
lemma zero_le_mul (hzero : (0 : K) ∈ F) (hx : 0 ≤ x) (hy : 0 ≤ y) : 0 ≤ r.mul x y :=
  r.le_round hzero (mul_nonneg hx hy)

/-- A quotient of numbers that are not negative is not negative. -/
lemma zero_le_div (hzero : (0 : K) ∈ F) (hx : 0 ≤ x) (hy : 0 ≤ y) : 0 ≤ r.div x y :=
  r.le_round hzero (div_nonneg hx hy)

/-- Taking something away from a representable number does not lead above it. -/
lemma sub_le (hb : b ∈ F) (hy : 0 ≤ y) : r.sub b y ≤ b :=
  r.round_le hb (sub_le_self b hy)

/-- Adding something to a representable number does not lead below it. -/
lemma le_add (hb : b ∈ F) (hy : 0 ≤ y) : b ≤ r.add b y :=
  r.le_round hb (le_add_of_nonneg_right hy)

end Field

/-- Arithmetic without rounding. -/
def none {K : Type*} [LinearOrder K] (F : Set K) : Rounding F where
  round := id
  monotone := monotone_id
  exact _ _ := rfl

end Rounding

/-- The numbers of the single precision format up to the size `2 ^ 127`. -/
def single : Set ℚ :=
  {x | ∃ m : ℤ, ∃ j k : ℕ, |m| ≤ 2 ^ 24 ∧ j ≤ 103 ∧ k ≤ 149 ∧ x = m * 2 ^ j / 2 ^ k}

/-- The largest number of the single precision format, `FLT_MAX`. -/
def floatMax : ℚ := (2 ^ 24 - 1) * 2 ^ 104

/-- Small integers are representable. -/
lemma intCast_mem_single {m : ℤ} (h : |m| ≤ 2 ^ 24) : (m : ℚ) ∈ single :=
  ⟨m, 0, 0, h, Nat.zero_le _, Nat.zero_le _, by norm_num⟩

/-- Small integers over a power of two are representable. -/
lemma div_two_pow_mem_single {m : ℤ} {k : ℕ} (hm : |m| ≤ 2 ^ 24) (hk : k ≤ 149) :
    (m / 2 ^ k : ℚ) ∈ single :=
  ⟨m, 0, k, hm, Nat.zero_le _, hk, by norm_num⟩

/-- So are small integers times a power of two. -/
lemma mul_two_pow_mem_single {m : ℤ} {j : ℕ} (hm : |m| ≤ 2 ^ 24) (hj : j ≤ 103) :
    (m * 2 ^ j : ℚ) ∈ single :=
  ⟨m, j, 0, hm, hj, Nat.zero_le _, by norm_num⟩

end SystemsDemos
