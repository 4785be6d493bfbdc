import SystemsDemos.Float.Rounding

/-!
# The robot score

`runTinyRobotScore` of `runtime_inference.hpp` and `run` of `tiny_robot_inference.hpp`, which differ
in the text of the exception only, with `InferenceStats`.  A float is a number or not finite; the
literals of the program are rounded to the format, and every operation is the exact one, rounded
once.  None of the operations overflows (`computeScore_fits`).

### Outline

* `FloatValue`, `computeScore`, `runScore` and `InferenceStats`;
* `computeScore_fits`, `computeScore_le` and `le_computeScore`, bounds that hold for every rounding.
-/

namespace SystemsDemos

/-- A `float`. -/
inductive FloatValue
  | finite (x : ℚ)
  /-- An infinity or a NaN. -/
  | notFinite
  deriving DecidableEq

/-- `std::fabs`. -/
def FloatValue.fabs : FloatValue → FloatValue
  | finite x => finite |x|
  | notFinite => notFinite

/-- `static_cast<float>` of a `double`; a number that is too large for the format becomes
infinite. -/
def FloatValue.cast (r : Rounding single) : FloatValue → FloatValue
  | finite x => if |r.round x| ≤ floatMax then finite (r.round x) else notFinite
  | notFinite => notFinite

/-- `InferenceResult`. -/
structure InferenceResult where
  score : ℚ
  status : String
  deriving DecidableEq

/-- `computeScore` of finite features. -/
def computeScore (r : Rounding single) (a b c : ℚ) : ℚ :=
  r.add (r.add (r.add (r.mul a (r.round (1 / 5))) (r.mul b (-r.round (1 / 10))))
    (r.mul c (r.round (7 / 10)))) (r.round (1 / 20))

/-- `run`, with the text of its exception. -/
def runScore (r : Rounding single) (what : String) :
    FloatValue → FloatValue → FloatValue → Except String InferenceResult
  | .finite a, .finite b, .finite c =>
      let score := computeScore r a b c
      .ok ⟨score, if 1 / 2 ≤ score then "WARN" else "OK"⟩
  | _, _, _ => .error what

/-- `runTinyRobotScore`. -/
def runTinyRobotScore (r : Rounding single) :
    FloatValue → FloatValue → FloatValue → Except String InferenceResult :=
  runScore r "inference feature is not finite"

/-- `tiny_robot_inference::run`. -/
def tinyRobotRun (r : Rounding single) :
    FloatValue → FloatValue → FloatValue → Except String InferenceResult :=
  runScore r "robot_features contains a non-finite value"

/-- The numbers of the double precision format up to the size `2 ^ 53`. -/
def double : Set ℚ := {x | ∃ m : ℤ, ∃ k : ℕ, |m| ≤ 2 ^ 53 ∧ k ≤ 1074 ∧ x = m / 2 ^ k}

/-- Integers are representable up to that size. -/
lemma intCast_mem_double {m : ℤ} (h : |m| ≤ 2 ^ 53) : (m : ℚ) ∈ double :=
  ⟨m, 0, h, Nat.zero_le _, by norm_num⟩

/-- `InferenceStats`; the counters are `size_t`. -/
structure InferenceStats where
  successCount : ℕ
  failureCount : ℕ
  totalMs : ℚ
  maxMs : ℚ
  deriving DecidableEq

namespace InferenceStats

/-- Nothing has been observed. -/
def initial : InferenceStats := ⟨0, 0, 0, 0⟩

/-- `observeSuccess`. -/
def observeSuccess (r : Rounding double) (s : InferenceStats) (durationMs : ℚ) : InferenceStats :=
  { s with
    successCount := (s.successCount + 1) % 2 ^ 64
    totalMs := r.add s.totalMs durationMs
    maxMs := if s.maxMs < durationMs then durationMs else s.maxMs }

/-- `observeFailure`. -/
def observeFailure (s : InferenceStats) : InferenceStats :=
  { s with failureCount := (s.failureCount + 1) % 2 ^ 64 }

/-- `averageMs`. -/
def averageMs (r : Rounding double) (s : InferenceStats) : ℚ :=
  if s.successCount = 0 then 0 else r.div s.totalMs (r.round s.successCount)

variable {r : Rounding double} {s : InferenceStats} {durationMs : ℚ}

/-- The largest duration is not forgotten. -/
lemma maxMs_le_observeSuccess : s.maxMs ≤ (s.observeSuccess r durationMs).maxMs := by
  unfold observeSuccess
  split
  · next hlt => exact hlt.le
  · exact le_rfl

/-- It is at least the new one. -/
lemma le_maxMs_observeSuccess : durationMs ≤ (s.observeSuccess r durationMs).maxMs := by
  unfold observeSuccess
  split
  · exact le_rfl
  · next hle => exact not_lt.mp hle

/-- It is one of those observed. -/
lemma maxMs_observeSuccess :
    (s.observeSuccess r durationMs).maxMs = s.maxMs ∨
      (s.observeSuccess r durationMs).maxMs = durationMs := by
  unfold observeSuccess
  split
  · exact .inr rfl
  · exact .inl rfl

end InferenceStats

/-- A finite absolute value is that of a number. -/
lemma FloatValue.exists_of_fabs {x : FloatValue} {a : ℚ} (h : x.fabs = .finite a) :
    ∃ y, x = .finite y ∧ a = |y| := by
  cases x with
  | finite y =>
    cases h
    exact ⟨y, rfl, rfl⟩
  | notFinite => cases h

/-- A number whose cast is finite has been rounded, and fits. -/
lemma FloatValue.cast_eq_finite {r : Rounding single} {x : FloatValue} {a : ℚ}
    (h : x.cast r = .finite a) : ∃ y, x = .finite y ∧ a = r.round y ∧ |a| ≤ floatMax := by
  cases x with
  | finite y =>
    by_cases hfits : |r.round y| ≤ floatMax
    · rw [FloatValue.cast, if_pos hfits] at h
      cases h
      exact ⟨y, rfl, rfl, hfits⟩
    · rw [FloatValue.cast, if_neg hfits] at h
      cases h
  | notFinite => cases h

/-- A score has finite features. -/
lemma runScore_eq_ok {r : Rounding single} {what : String} {x y z : FloatValue}
    {result : InferenceResult}
    (h : runScore r what x y z = .ok result) :
    ∃ a b c : ℚ, x = .finite a ∧ y = .finite b ∧ z = .finite c ∧
      result = ⟨computeScore r a b c, if 1 / 2 ≤ computeScore r a b c then "WARN" else "OK"⟩ := by
  unfold runScore at h
  split at h
  · next a b c =>
    cases h
    exact ⟨a, b, c, rfl, rfl, rfl, rfl⟩
  · cases h

/-! ### Bounds of the score -/

/-- A multiple of `1 / 128` is representable. -/
lemma div_128_mem_single {m : ℤ} (hm : |m| ≤ 2 ^ 24) : (m / 128 : ℚ) ∈ single := by
  have h := @div_two_pow_mem_single m 7 hm (by decide)
  norm_num at h
  exact h

section

variable (r : Rounding single) {a b c x y : ℚ} {m n : ℤ}

/-- Rounding does not cross a multiple of `1 / 128` upwards. -/
lemma round_le_128 (hm : |m| ≤ 2 ^ 24) (h : x ≤ m / 128) : r.round x ≤ m / 128 :=
  r.round_le (div_128_mem_single hm) h

/-- Nor downwards. -/
lemma le_round_128 (hm : |m| ≤ 2 ^ 24) (h : m / 128 ≤ x) : m / 128 ≤ r.round x :=
  r.le_round (div_128_mem_single hm) h

/-- A sum of bounded numbers. -/
lemma add_le_128 (hx : x ≤ m / 128) (hy : y ≤ n / 128) (hmn : |m + n| ≤ 2 ^ 24) :
    r.add x y ≤ ((m + n : ℤ) : ℚ) / 128 := by
  refine round_le_128 r hmn ?_
  push_cast
  rw [add_div]
  exact add_le_add hx hy

/-- The same for lower bounds. -/
lemma le_add_128 (hx : m / 128 ≤ x) (hy : n / 128 ≤ y) (hmn : |m + n| ≤ 2 ^ 24) :
    ((m + n : ℤ) : ℚ) / 128 ≤ r.add x y := by
  refine le_round_128 r hmn ?_
  push_cast
  rw [add_div]
  exact add_le_add hx hy

/-- The weight of the acceleration. -/
lemma weight_imu : 0 ≤ r.round (1 / 5) ∧ r.round (1 / 5) ≤ 26 / 128 := by
  have hlow := @le_round_128 r (1 / 5) 0 (by decide) (by norm_num)
  have hup := @round_le_128 r (1 / 5) 26 (by decide) (by norm_num)
  norm_num at hlow hup ⊢
  exact ⟨hlow, hup⟩

/-- The weight of the first joint, without its sign. -/
lemma weight_joint : 0 ≤ r.round (1 / 10) ∧ r.round (1 / 10) ≤ 13 / 128 := by
  have hlow := @le_round_128 r (1 / 10) 0 (by decide) (by norm_num)
  have hup := @round_le_128 r (1 / 10) 13 (by decide) (by norm_num)
  norm_num at hlow hup ⊢
  exact ⟨hlow, hup⟩

/-- Rounding does not cross a small multiple of `2 ^ 121`. -/
lemma abs_round_le_two_pow (hm : |m| ≤ 2 ^ 6) (h : |x| ≤ m * 2 ^ 121) :
    |r.round x| ≤ m * 2 ^ 121 := by
  have hmem {k : ℤ} (hk : |k| ≤ 2 ^ 6) : (k * 2 ^ 121 : ℚ) ∈ single := by
    have hscaled : |k * 2 ^ 18| ≤ 2 ^ 24 := by
      rw [abs_mul, abs_of_pos (by norm_num : (0 : ℤ) < 2 ^ 18)]
      omega
    have hmem := @mul_two_pow_mem_single _ 103 hscaled (by decide)
    rw [Int.cast_mul, mul_assoc] at hmem
    norm_num at hmem ⊢
    exact hmem
  have hneg := hmem ((abs_neg m).trans_le hm)
  rw [Int.cast_neg, neg_mul] at hneg
  exact r.abs_round_le (hmem hm) hneg h

/-- A sum of numbers bounded in this way. -/
lemma abs_add_le_two_pow (hx : |x| ≤ m * 2 ^ 121) (hy : |y| ≤ n * 2 ^ 121)
    (hmn : |m + n| ≤ 2 ^ 6) : |r.add x y| ≤ (m + n : ℤ) * 2 ^ 121 := by
  refine abs_round_le_two_pow r hmn ((abs_add_le x y).trans ?_)
  push_cast
  linarith

/-- **No operation of the score overflows.** -/
lemma computeScore_fits (ha : |a| ≤ floatMax) (hb : |b| ≤ floatMax) (hc : |c| ≤ 1) :
    |r.mul a (r.round (1 / 5))| ≤ floatMax ∧ |r.mul b (-r.round (1 / 10))| ≤ floatMax ∧
      |r.mul c (r.round (7 / 10))| ≤ floatMax ∧
      |r.add (r.mul a (r.round (1 / 5))) (r.mul b (-r.round (1 / 10)))| ≤ floatMax ∧
      |r.add (r.add (r.mul a (r.round (1 / 5))) (r.mul b (-r.round (1 / 10))))
        (r.mul c (r.round (7 / 10)))| ≤ floatMax ∧
      |computeScore r a b c| ≤ floatMax := by
  obtain ⟨hw, hw'⟩ := weight_imu r
  obtain ⟨hv, hv'⟩ := weight_joint r
  have hmax : floatMax ≤ 128 * 2 ^ 121 := by norm_num [floatMax]
  have hle {x : ℚ} {m : ℤ} (hm : m ≤ 41) (hx : |x| ≤ m * 2 ^ 121) : |x| ≤ floatMax := by
    have hm' : (m : ℚ) ≤ 41 := by exact_mod_cast hm
    calc |x| ≤ m * 2 ^ 121 := hx
      _ ≤ 41 * 2 ^ 121 := by gcongr
      _ ≤ floatMax := by norm_num [floatMax]
  have himu : |r.mul a (r.round (1 / 5))| ≤ (26 : ℤ) * 2 ^ 121 := by
    refine abs_round_le_two_pow r (by decide) ?_
    rw [abs_mul, abs_of_nonneg hw]
    calc |a| * r.round (1 / 5) ≤ 128 * 2 ^ 121 * (26 / 128) := by
          gcongr
          exact ha.trans hmax
      _ = (26 : ℤ) * 2 ^ 121 := by norm_num
  have hjoint : |r.mul b (-r.round (1 / 10))| ≤ (13 : ℤ) * 2 ^ 121 := by
    refine abs_round_le_two_pow r (by decide) ?_
    rw [abs_mul, abs_neg, abs_of_nonneg hv]
    calc |b| * r.round (1 / 10) ≤ 128 * 2 ^ 121 * (13 / 128) := by
          gcongr
          exact hb.trans hmax
      _ = (13 : ℤ) * 2 ^ 121 := by norm_num
  have hcount : |r.mul c (r.round (7 / 10))| ≤ (1 : ℤ) * 2 ^ 121 := by
    have hlow := @le_round_128 r (7 / 10) 0 (by decide) (by norm_num)
    have hup := @round_le_128 r (7 / 10) 128 (by decide) (by norm_num)
    norm_num at hlow hup
    refine abs_round_le_two_pow r (by decide) ?_
    rw [abs_mul, abs_of_nonneg hlow]
    calc |c| * r.round (7 / 10) ≤ 1 * 1 := by gcongr
      _ ≤ (1 : ℤ) * 2 ^ 121 := by norm_num
  have hbias : |r.round (1 / 20)| ≤ (1 : ℤ) * 2 ^ 121 :=
    abs_round_le_two_pow r (by decide) (by norm_num [abs_of_pos])
  have hfirst := abs_add_le_two_pow r himu hjoint (by decide)
  have hsecond := abs_add_le_two_pow r hfirst hcount (by decide)
  exact ⟨hle (by decide) himu, hle (by decide) hjoint, hle (by decide) hcount,
    hle (by decide) hfirst, hle (by decide) hsecond,
    hle (by decide) (abs_add_le_two_pow r hsecond hbias (by decide))⟩

/-- **Three joints and a small acceleration give a small score**, however the operations round. -/
lemma computeScore_le (ha : a ≤ 2) (hb : 0 ≤ b) : computeScore r a b 0 ≤ 59 / 128 := by
  obtain ⟨hw, hw'⟩ := weight_imu r
  obtain ⟨hv, -⟩ := weight_joint r
  have himu : r.mul a (r.round (1 / 5)) ≤ (52 : ℤ) / 128 := by
    refine round_le_128 r (by decide) ?_
    calc a * r.round (1 / 5) ≤ 2 * (26 / 128) := mul_le_mul ha hw' hw (by norm_num)
      _ = (52 : ℤ) / 128 := by norm_num
  have hjoint : r.mul b (-r.round (1 / 10)) ≤ (0 : ℤ) / 128 := by
    refine round_le_128 r (by decide) ?_
    norm_num
    exact mul_nonneg hb hv
  have hcount : r.mul 0 (r.round (7 / 10)) ≤ (0 : ℤ) / 128 := by
    refine round_le_128 r (by decide) ?_
    norm_num
  have hbias : r.round (1 / 20) ≤ (7 : ℤ) / 128 := round_le_128 r (by decide) (by norm_num)
  have hsum := add_le_128 r (add_le_128 r (add_le_128 r himu hjoint (by decide)) hcount
    (by decide)) hbias (by decide)
  norm_num at hsum
  exact hsum

/-- **Missing joints give a large score** unless the first one is far out. -/
lemma le_computeScore (ha : 0 ≤ a) (hb : b ≤ 2) : 69 / 128 ≤ computeScore r a b 1 := by
  obtain ⟨hw, -⟩ := weight_imu r
  obtain ⟨hv, hv'⟩ := weight_joint r
  have himu : (0 : ℤ) / 128 ≤ r.mul a (r.round (1 / 5)) := by
    refine le_round_128 r (by decide) ?_
    norm_num
    exact mul_nonneg ha hw
  have hjoint : (-26 : ℤ) / 128 ≤ r.mul b (-r.round (1 / 10)) := by
    refine le_round_128 r (by decide) ?_
    have hproduct : b * r.round (1 / 10) ≤ 2 * (13 / 128) := mul_le_mul hb hv' hv (by norm_num)
    norm_num
    linarith
  have hcount : (89 : ℤ) / 128 ≤ r.mul 1 (r.round (7 / 10)) := by
    refine le_round_128 r (by decide) ?_
    rw [one_mul]
    exact le_round_128 r (by decide) (by norm_num)
  have hbias : (6 : ℤ) / 128 ≤ r.round (1 / 20) := le_round_128 r (by decide) (by norm_num)
  have hsum := le_add_128 r (le_add_128 r (le_add_128 r himu hjoint (by decide)) hcount
    (by decide)) hbias (by decide)
  norm_num at hsum
  exact hsum

end

end SystemsDemos
