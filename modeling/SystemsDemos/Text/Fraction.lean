import SystemsDemos.Text.Number
import Mathlib.Data.List.Induction

/-!
# Digits behind a point

A row of digits behind a point stands for a number below one.  Its first `n` digits, with zeros for
those that are missing, stand for the part of it in whole units of `base ^ n`
(`numeral_firstDigits`).
-/

namespace SystemsDemos

variable {base : ℕ}

/-- The first `n` digits, with zeros for those that are missing. -/
def firstDigits (n : ℕ) (digits : Text) : Text :=
  (digits ++ List.replicate (n - digits.length) '0').take n

/-- Two rows of digits after each other. -/
lemma numeral_append (base : ℕ) (front back : Text) :
    numeral base (front ++ back) = numeral base front * base ^ back.length + numeral base back := by
  induction back using List.reverseRecOn with
  | nil => simp
  | append_singleton back c ih =>
    rw [← List.append_assoc, numeral_snoc, ih, numeral_snoc, List.length_append,
      List.length_singleton, Nat.pow_succ, Nat.add_mul, Nat.mul_assoc, Nat.add_assoc]

/-- A row of digits stands for a number below the next power of the base. -/
lemma numeral_lt (hbase : 0 < base) (digits : Text) :
    numeral base digits < base ^ digits.length := by
  induction digits using List.reverseRecOn with
  | nil => simp
  | append_singleton digits c ih =>
    have hdigit : (digitValue base c).getD 0 < base := by
      cases hvalue : digitValue base c with
      | none => exact hbase
      | some d => exact digitValue_lt hvalue
    rw [numeral_snoc, List.length_append, List.length_singleton, Nat.pow_succ]
    calc numeral base digits * base + (digitValue base c).getD 0
        < numeral base digits * base + base := Nat.add_lt_add_left hdigit _
      _ = (numeral base digits + 1) * base := (Nat.succ_mul _ _).symm
      _ ≤ base ^ digits.length * base := Nat.mul_le_mul_right base ih

/-- Zeros behind a row of digits. -/
lemma numeral_append_zeros (base : ℕ) (digits : Text) (k : ℕ) :
    numeral base (digits ++ List.replicate k '0') = numeral base digits * base ^ k := by
  have hzeros : numeral base (List.replicate k '0') = 0 := by
    induction k with
    | zero => rfl
    | succ k ih =>
      have hzero : (digitValue base '0').getD 0 = 0 := by
        by_cases hbase : 0 < base
        · simp [digitValue, digitCode, Option.filter, hbase]
        · simp [digitValue, digitCode, Option.filter, hbase]
      rw [List.replicate_succ', numeral_snoc, ih, hzero, Nat.zero_mul]
  rw [numeral_append, hzeros, List.length_replicate, Nat.add_zero]

/-- Leaving out the last digits divides by a power of the base. -/
lemma numeral_take (hbase : 0 < base) (n : ℕ) (digits : Text) :
    numeral base (digits.take n) = numeral base digits / base ^ (digits.length - n) := by
  have hsplit := numeral_append base (digits.take n) (digits.drop n)
  have hless := numeral_lt hbase (digits.drop n)
  rw [List.take_append_drop] at hsplit
  rw [hsplit, ← List.length_drop, Nat.mul_comm, Nat.mul_add_div (Nat.pow_pos hbase),
    Nat.div_eq_of_lt hless, Nat.add_zero]

/-- **The first digits behind a point.**  They stand for the value of all of them, in units of
`base ^ n` and rounded down. -/
theorem numeral_firstDigits (hbase : 0 < base) (n : ℕ) (digits : Text) :
    numeral base (firstDigits n digits) =
      base ^ n * numeral base digits / base ^ digits.length := by
  unfold firstDigits
  rcases Nat.le_total digits.length n with hshort | hlong
  · have hfull : (digits ++ List.replicate (n - digits.length) '0').length = n := by
      rw [List.length_append, List.length_replicate]
      omega
    have hpow : base ^ n = base ^ digits.length * base ^ (n - digits.length) := by
      rw [← Nat.pow_add]
      congr 1
      omega
    rw [List.take_of_length_le (Nat.le_of_eq hfull), numeral_append_zeros, hpow, Nat.mul_assoc,
      Nat.mul_div_cancel_left _ (Nat.pow_pos hbase), Nat.mul_comm]
  · have hpow : base ^ digits.length = base ^ n * base ^ (digits.length - n) := by
      rw [← Nat.pow_add]
      congr 1
      omega
    rw [Nat.sub_eq_zero_of_le hlong, List.replicate_zero, List.append_nil, numeral_take hbase,
      hpow, Nat.mul_div_mul_left _ _ (Nat.pow_pos hbase)]

end SystemsDemos
