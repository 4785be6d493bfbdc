import Mathlib.Data.List.TakeWhile
import Mathlib.Tactic.IntervalCases
import Mathlib.Tactic.Lemma
import Mathlib.Algebra.Group.Nat.Defs
import Mathlib.Algebra.Group.Int.Defs

/-!
# Numbers in text

What formatted input makes of a text when it reads a number: it skips leading white space,
takes an optional sign and, in base sixteen, an optional `0x`, then as many digits as follow, and
leaves the rest of the text alone.  A `Text` is a list of characters; the characters of a byte
string are those below `256`, and nothing here depends on that bound.

### Outline

* `isSpace`, `digitValue` and `numeral`, the characters and the value of a row of digits;
* `scanNumber`, the reader, and `ReadsNumber`, the shape of the texts it accepts
  (`scanNumber_eq_some_iff`);
* `readUnsigned`, `stoull` and `stoll`, which add the range checks;
* `digits`, the text of a number, which every reader reads back.
-/

namespace SystemsDemos

/-- A string, as the list of its characters. -/
abbrev Text := List Char

/-! ### Characters -/

/-- White space in the classic locale. -/
def isSpace (c : Char) : Bool := c = ' ' || (9 ≤ c.toNat && c.toNat ≤ 13)

/-- The value of a character as a digit, in either letter case. -/
def digitCode (c : Char) : Option ℕ :=
  if 48 ≤ c.toNat ∧ c.toNat ≤ 57 then some (c.toNat - 48)
  else if 97 ≤ c.toNat ∧ c.toNat ≤ 102 then some (c.toNat - 87)
  else if 65 ≤ c.toNat ∧ c.toNat ≤ 70 then some (c.toNat - 55)
  else none

/-- The value of a character as a digit of the base. -/
def digitValue (base : ℕ) (c : Char) : Option ℕ := (digitCode c).filter (· < base)

/-- A character is a digit of the base. -/
def isDigit (base : ℕ) (c : Char) : Bool := (digitValue base c).isSome

/-- The number that a row of digits stands for, accumulated from the left. -/
def numeral (base : ℕ) (digits : Text) : ℕ :=
  digits.foldl (fun v c => v * base + (digitValue base c).getD 0) 0

@[simp] lemma numeral_nil (base : ℕ) : numeral base [] = 0 := rfl

@[simp] lemma numeral_snoc (base : ℕ) (digits : Text) (c : Char) :
    numeral base (digits ++ [c]) = numeral base digits * base + (digitValue base c).getD 0 := by
  simp [numeral]

/-- The value of a digit lies below the base. -/
lemma digitValue_lt {base d : ℕ} {c : Char} (h : digitValue base c = some d) : d < base := by
  simpa using (Option.filter_eq_some_iff.mp h).2

/-- The codes of the characters that can be digits. -/
lemma code_of_isDigit {base : ℕ} {c : Char} (h : isDigit base c = true) :
    48 ≤ c.toNat ∧ c.toNat ≤ 57 ∨ 97 ≤ c.toNat ∧ c.toNat ≤ 102 ∨
      65 ≤ c.toNat ∧ c.toNat ≤ 70 := by
  by_contra hcode
  have hnone : digitCode c = none := by
    unfold digitCode
    rw [if_neg (by omega), if_neg (by omega), if_neg (by omega)]
  simp [isDigit, digitValue, hnone] at h

/-- White space is no digit. -/
lemma not_isSpace_of_isDigit {base : ℕ} {c : Char} (h : isDigit base c = true) :
    isSpace c = false := by
  have hcode := code_of_isDigit h
  have hblank : c ≠ ' ' := by
    rintro rfl
    have : (' ' : Char).toNat = 32 := rfl
    omega
  have hrange : ¬(9 ≤ c.toNat ∧ c.toNat ≤ 13) := by omega
  simpa [isSpace, hblank] using hrange

/-- A digit is not one of the characters whose code lies outside the three ranges. -/
lemma ne_of_isDigit {base : ℕ} {c x : Char} (h : isDigit base c = true)
    (hx : isDigit base x = false) : c ≠ x := by
  rintro rfl
  rw [h] at hx
  cases hx

/-- The code of the upper-case form of a character. -/
lemma toNat_toUpper (c : Char) :
    c.toUpper.toNat = if 97 ≤ c.toNat ∧ c.toNat ≤ 122 then c.toNat - 32 else c.toNat := by
  have hval : ('a'.val ≤ c.val ∧ c.val ≤ 'z'.val) ↔ 97 ≤ c.toNat ∧ c.toNat ≤ 122 := Iff.rfl
  unfold Char.toUpper
  by_cases h : 'a'.val ≤ c.val ∧ c.val ≤ 'z'.val
  · have hcode := hval.mp h
    rw [dif_pos h, if_pos hcode]
    have hc : c.toNat = c.val.toNat := rfl
    have hshift : ('A'.val - 'a'.val).toNat = 4294967264 := rfl
    change (c.val + ('A'.val - 'a'.val)).toNat = _
    rw [UInt32.toNat_add, hshift]
    omega
  · rw [dif_neg h, if_neg (fun hcode => h (hval.mpr hcode))]

/-- Digits do not depend on the letter case. -/
@[simp] lemma digitCode_toUpper (c : Char) : digitCode c.toUpper = digitCode c := by
  have hcode := toNat_toUpper c
  unfold digitCode
  split at hcode
  · next hlower =>
    rw [hcode, if_neg (by omega), if_neg (by omega)]
    by_cases hhex : c.toNat ≤ 102
    · have hshift : c.toNat - 32 - 55 = c.toNat - 87 := by omega
      rw [if_pos (by omega), if_neg (by omega), if_pos (by omega), hshift]
    · rw [if_neg (by omega), if_neg (by omega), if_neg (by omega), if_neg (by omega)]
  · rw [hcode]

@[simp] lemma digitValue_toUpper (base : ℕ) (c : Char) :
    digitValue base c.toUpper = digitValue base c := by
  simp [digitValue]

@[simp] lemma isDigit_toUpper (base : ℕ) (c : Char) : isDigit base c.toUpper = isDigit base c := by
  simp [isDigit]

@[simp] lemma numeral_map_toUpper (base : ℕ) (text : Text) :
    numeral base (text.map Char.toUpper) = numeral base text := by
  simp [numeral, List.foldl_map]

lemma digitValue_digitChar {base d : ℕ} (hd : d < base) (hbase : base ≤ 16) :
    digitValue base d.digitChar = some d := by
  have hcode : digitCode d.digitChar = some d := by
    have hlt : d < 16 := by omega
    interval_cases d <;> rfl
  simp [digitValue, hcode, hd]

/-! ### The reader -/

/-- What a number in a text consists of. -/
structure ScannedNumber where
  negative : Bool
  magnitude : ℕ
  deriving DecidableEq

/-- An optional sign: whether it is a minus, and the text behind it. -/
def takeSign : Text → Bool × Text
  | [] => (false, [])
  | c :: text =>
      if c = '-' then (true, text)
      else if c = '+' then (false, text)
      else (false, c :: text)

/-- The text begins with `0x` or `0X`. -/
def StartsHex : Text → Prop
  | c :: x :: _ => c = '0' ∧ (x = 'x' ∨ x = 'X')
  | _ => False

instance : DecidablePred StartsHex
  | [] => inferInstanceAs (Decidable False)
  | [_] => inferInstanceAs (Decidable False)
  | _ :: _ :: _ => inferInstanceAs (Decidable (_ ∧ _))

/-- In base sixteen, the text behind an optional `0x`. -/
def dropBasePrefix (base : ℕ) (text : Text) : Text :=
  if base = 16 ∧ StartsHex text then text.drop 2 else text

/-- The number at the beginning of a text; `none` when there is no digit where one is due. -/
def scanNumber (base : ℕ) (text : Text) : Option ScannedNumber :=
  let signed := takeSign (text.dropWhile isSpace)
  let digits := (dropBasePrefix base signed.2).takeWhile (isDigit base)
  if digits = [] then none else some ⟨signed.1, numeral base digits⟩

/-- A text that consists of digits, at least one. -/
def IsNumeral (base : ℕ) (text : Text) : Prop :=
  text ≠ [] ∧ ∀ c ∈ text, isDigit base c = true

instance (base : ℕ) (text : Text) : Decidable (IsNumeral base text) :=
  @instDecidableAnd _ _ inferInstance (List.decidableBAll (fun c => isDigit base c = true) text)

/-- A sign, and whether it is a minus. -/
def IsSign (text : Text) (negative : Bool) : Prop :=
  text = [] ∧ negative = false ∨ text = ['+'] ∧ negative = false ∨
    text = ['-'] ∧ negative = true

/-- A base prefix in front of the text `rest`: `0x` in base sixteen, or nothing when `rest` does
not look like one. -/
def IsBasePrefix (base : ℕ) (text rest : Text) : Prop :=
  text = [] ∧ ¬(base = 16 ∧ StartsHex rest) ∨ base = 16 ∧ (text = ['0', 'x'] ∨ text = ['0', 'X'])

/-- **The shape of a text that begins with a number**: white space, a sign, a base prefix, a
numeral, and anything that does not go on with a digit. -/
def ReadsNumber (base : ℕ) (text : Text) (n : ScannedNumber) : Prop :=
  ∃ spaces sign basePrefix digits rest : Text,
    text = spaces ++ (sign ++ (basePrefix ++ (digits ++ rest))) ∧
    (∀ c ∈ spaces, isSpace c = true) ∧ IsSign sign n.negative ∧
    IsBasePrefix base basePrefix (digits ++ rest) ∧
    IsNumeral base digits ∧ (∀ c ∈ rest.head?, isDigit base c = false) ∧
    numeral base digits = n.magnitude

/-! ### Every number is read off its shape -/

section Stop

variable {α : Type*} {p : α → Bool} {l₁ l₂ : List α}

/-- `takeWhile` stops behind the elements that satisfy the predicate. -/
lemma takeWhile_append_stop (h : ∀ a ∈ l₁, p a = true) (hstop : ∀ a ∈ l₂.head?, p a = false) :
    (l₁ ++ l₂).takeWhile p = l₁ := by
  rw [List.takeWhile_append_of_pos h]
  cases l₂ with
  | nil => simp
  | cons a l =>
    have ha : p a = false := hstop a rfl
    simp [ha]

/-- `dropWhile` stops behind the elements that satisfy the predicate. -/
lemma dropWhile_append_stop (h : ∀ a ∈ l₁, p a = true) (hstop : ∀ a ∈ l₂.head?, p a = false) :
    (l₁ ++ l₂).dropWhile p = l₂ := by
  rw [List.dropWhile_append_of_pos h]
  cases l₂ with
  | nil => simp
  | cons a l =>
    have ha : p a = false := hstop a rfl
    simp [ha]

/-- What `dropWhile` leaves does not begin with an element that satisfies the predicate. -/
lemma head_dropWhile_stop (l : List α) : ∀ a ∈ (l.dropWhile p).head?, p a = false := by
  intro a ha
  have hstop := List.head?_dropWhile_not p l
  rw [Option.mem_def.mp ha] at hstop
  exact hstop

end Stop

/-- The sign that `takeSign` takes. -/
lemma takeSign_spec (text : Text) :
    ∃ sign, text = sign ++ (takeSign text).2 ∧ IsSign sign (takeSign text).1 := by
  cases text with
  | nil => exact ⟨[], rfl, Or.inl ⟨rfl, rfl⟩⟩
  | cons c text =>
    by_cases hminus : c = '-'
    · subst hminus
      exact ⟨['-'], rfl, Or.inr (Or.inr ⟨rfl, rfl⟩)⟩
    · by_cases hplus : c = '+'
      · subst hplus
        exact ⟨['+'], rfl, Or.inr (Or.inl ⟨rfl, rfl⟩)⟩
      · refine ⟨[], ?_, Or.inl ⟨rfl, ?_⟩⟩ <;> simp [takeSign, hminus, hplus]

/-- `takeSign` takes exactly the sign of a text that goes on with a digit. -/
lemma takeSign_append {base : ℕ} {sign text : Text} {negative : Bool} {c : Char} {rest : Text}
    (hsign : IsSign sign negative) (htext : text = c :: rest) (hc : isDigit base c = true) :
    takeSign (sign ++ text) = (negative, text) := by
  have hminus : c ≠ '-' := ne_of_isDigit hc (by simp [isDigit, digitValue, digitCode])
  have hplus : c ≠ '+' := ne_of_isDigit hc (by simp [isDigit, digitValue, digitCode])
  subst htext
  rcases hsign with ⟨rfl, rfl⟩ | ⟨rfl, rfl⟩ | ⟨rfl, rfl⟩ <;> simp [takeSign, hminus, hplus]

/-- The prefix that `dropBasePrefix` drops. -/
lemma dropBasePrefix_spec (base : ℕ) (text : Text) :
    ∃ basePrefix, text = basePrefix ++ dropBasePrefix base text ∧
      IsBasePrefix base basePrefix (dropBasePrefix base text) := by
  by_cases h : base = 16 ∧ StartsHex text
  · obtain ⟨hbase, hhex⟩ := h
    match text, hhex with
    | c :: x :: rest, hhex =>
      obtain ⟨rfl, rfl | rfl⟩ := hhex
      · exact ⟨['0', 'x'], by simp [dropBasePrefix, hbase, StartsHex],
          Or.inr ⟨hbase, Or.inl rfl⟩⟩
      · exact ⟨['0', 'X'], by simp [dropBasePrefix, hbase, StartsHex],
          Or.inr ⟨hbase, Or.inr rfl⟩⟩
  · refine ⟨[], by simp [dropBasePrefix, h], Or.inl ⟨rfl, ?_⟩⟩
    rwa [dropBasePrefix, if_neg h]

/-- `dropBasePrefix` drops exactly the base prefix. -/
lemma dropBasePrefix_append {base : ℕ} {basePrefix rest : Text}
    (h : IsBasePrefix base basePrefix rest) : dropBasePrefix base (basePrefix ++ rest) = rest := by
  rcases h with ⟨rfl, hnot⟩ | ⟨rfl, rfl | rfl⟩
  · simp [dropBasePrefix, hnot]
  · simp [dropBasePrefix, StartsHex]
  · simp [dropBasePrefix, StartsHex]

/-- A base prefix with the numeral behind it begins with a digit. -/
lemma IsBasePrefix.exists_digit {base : ℕ} {basePrefix digits rest : Text}
    (h : IsBasePrefix base basePrefix (digits ++ rest)) (hd : IsNumeral base digits) :
    ∃ c tail, basePrefix ++ (digits ++ rest) = c :: tail ∧ isDigit base c = true := by
  rcases h with ⟨rfl, -⟩ | ⟨rfl, rfl | rfl⟩
  · obtain ⟨hne, hall⟩ := hd
    obtain ⟨c, tail, rfl⟩ := List.exists_cons_of_ne_nil hne
    exact ⟨c, tail ++ rest, rfl, hall c (by simp)⟩
  · exact ⟨'0', _, rfl, rfl⟩
  · exact ⟨'0', _, rfl, rfl⟩

/-- **The reader accepts exactly the texts that begin with a number.** -/
theorem scanNumber_eq_some_iff {base : ℕ} {text : Text} {n : ScannedNumber} :
    scanNumber base text = some n ↔ ReadsNumber base text n := by
  constructor
  · intro h
    obtain ⟨sign, hsign, hisSign⟩ := takeSign_spec (text.dropWhile isSpace)
    obtain ⟨basePrefix, hprefix, hisPrefix⟩ :=
      dropBasePrefix_spec base (takeSign (text.dropWhile isSpace)).2
    generalize hbody : dropBasePrefix base (takeSign (text.dropWhile isSpace)).2 = body
      at hprefix hisPrefix
    have hdigits : body.takeWhile (isDigit base) ≠ [] ∧
        n = ⟨(takeSign (text.dropWhile isSpace)).1,
          numeral base (body.takeWhile (isDigit base))⟩ := by
      unfold scanNumber at h
      simp only [hbody] at h
      split at h
      · cases h
      · next hne => exact ⟨hne, (Option.some.inj h).symm⟩
    obtain ⟨hne, rfl⟩ := hdigits
    have hsplit : body.takeWhile (isDigit base) ++ body.dropWhile (isDigit base) = body :=
      List.takeWhile_append_dropWhile
    refine ⟨text.takeWhile isSpace, sign, basePrefix, body.takeWhile (isDigit base),
      body.dropWhile (isDigit base), ?_, ?_, hisSign, ?_, ⟨hne, ?_⟩, ?_, rfl⟩
    · rw [hsplit, ← hprefix, ← hsign, List.takeWhile_append_dropWhile]
    · intro c hc
      exact List.mem_takeWhile_imp hc
    · rwa [hsplit]
    · intro c hc
      exact List.mem_takeWhile_imp hc
    · exact head_dropWhile_stop body
  · rintro ⟨spaces, sign, basePrefix, digits, rest, rfl, hspaces, hsign, hprefix, hdigits, hrest,
      hvalue⟩
    obtain ⟨c, tail, htail, hc⟩ := hprefix.exists_digit hdigits
    have hstop : ∀ a ∈ (sign ++ (basePrefix ++ (digits ++ rest))).head?, isSpace a = false := by
      rw [htail]
      intro a ha
      rcases hsign with ⟨rfl, -⟩ | ⟨rfl, -⟩ | ⟨rfl, -⟩ <;> obtain rfl := Option.some.inj ha
      · exact not_isSpace_of_isDigit hc
      · rfl
      · rfl
    have hskip : (spaces ++ (sign ++ (basePrefix ++ (digits ++ rest)))).dropWhile isSpace =
        sign ++ (basePrefix ++ (digits ++ rest)) := dropWhile_append_stop hspaces hstop
    have htake : takeSign (sign ++ (basePrefix ++ (digits ++ rest))) =
        (n.negative, basePrefix ++ (digits ++ rest)) := takeSign_append hsign htail hc
    have hrow : (digits ++ rest).takeWhile (isDigit base) = digits :=
      takeWhile_append_stop hdigits.2 hrest
    unfold scanNumber
    simp only [hskip, htake, dropBasePrefix_append hprefix, hrow, if_neg hdigits.1, hvalue]

/-- A text that consists of digits is read as the number they stand for. -/
lemma scanNumber_of_isNumeral {base : ℕ} {text : Text} (h : IsNumeral base text) :
    scanNumber base text = some ⟨false, numeral base text⟩ := by
  have hnohex : ¬StartsHex (text ++ []) := by
    intro hhex
    match text, h, hhex with
    | c :: x :: rest, h, hhex =>
      have hx : isDigit base x = true := h.2 x (by simp)
      rcases hhex.2 with rfl | rfl <;>
        simp [isDigit, digitValue, digitCode] at hx
  refine scanNumber_eq_some_iff.mpr ⟨[], [], [], text, [], by simp, by simp, Or.inl ⟨rfl, rfl⟩,
    Or.inl ⟨rfl, fun hp => hnohex hp.2⟩, h, by simp, rfl⟩

/-! ### The text of a number -/

/-- The text of a number in a base. -/
def digits (base n : ℕ) : Text := Nat.toDigits base n

section Digits

variable {base : ℕ}

/-- A number of one digit. -/
lemma digits_of_lt {n : ℕ} (h : n < base) : digits base n = [n.digitChar] :=
  Nat.toDigits_of_lt_base h

/-- The last digit of a longer number. -/
lemma digits_of_le {n : ℕ} (hbase : 2 ≤ base) (h : base ≤ n) :
    digits base n = digits base (n / base) ++ [(n % base).digitChar] :=
  Nat.toDigits_of_base_le hbase h

/-- The text of a number consists of digits. -/
lemma isNumeral_digits (hlow : 2 ≤ base) (hhigh : base ≤ 16) (n : ℕ) :
    IsNumeral base (digits base n) := by
  refine ⟨Nat.toDigits_ne_nil, ?_⟩
  induction n using Nat.strong_induction_on with
  | _ n ih =>
    intro c hc
    by_cases hn : n < base
    · rw [digits_of_lt hn] at hc
      obtain rfl := List.mem_singleton.mp hc
      simp [isDigit, digitValue_digitChar hn hhigh]
    · rw [digits_of_le hlow (by omega)] at hc
      rcases List.mem_append.mp hc with hc | hc
      · exact ih (n / base) (Nat.div_lt_self (by omega) hlow) c hc
      · have hlast : n % base < base := Nat.mod_lt n (by omega)
        obtain rfl := List.mem_singleton.mp hc
        simp [isDigit, digitValue_digitChar hlast hhigh]

/-- The text of a number stands for it. -/
@[simp] lemma numeral_digits (hlow : 2 ≤ base) (hhigh : base ≤ 16) (n : ℕ) :
    numeral base (digits base n) = n := by
  induction n using Nat.strong_induction_on with
  | _ n ih =>
    by_cases hn : n < base
    · have hsingle := numeral_snoc base [] n.digitChar
      rw [List.nil_append] at hsingle
      simp [digits_of_lt hn, hsingle, digitValue_digitChar hn hhigh]
    · have hlast : n % base < base := Nat.mod_lt n (by omega)
      have hrest := ih (n / base) (Nat.div_lt_self (by omega) hlow)
      have hsum : n / base * base + n % base = n := Nat.div_add_mod' n base
      rw [digits_of_le hlow (by omega), numeral_snoc, hrest, digitValue_digitChar hlast hhigh]
      simpa using hsum

/-- A number below a power of the base has at most as many digits as the exponent. -/
lemma length_digits_le {n k : ℕ} (hlow : 2 ≤ base) (hk : 0 < k) (hn : n < base ^ k) :
    (digits base n).length ≤ k :=
  (Nat.length_toDigits_le_iff hlow hk).mpr hn

end Digits

/-- The decimal text of an integer. -/
def decimal (n : ℤ) : Text :=
  if n < 0 then '-' :: digits 10 n.natAbs else digits 10 n.natAbs

/-- No white space occurs in the decimal text of an integer. -/
lemma not_isSpace_of_mem_decimal {n : ℤ} {c : Char} (h : c ∈ decimal n) : isSpace c = false := by
  have hdigit : c ∈ digits 10 n.natAbs → isSpace c = false := by
    intro hc
    exact not_isSpace_of_isDigit ((isNumeral_digits (by decide) (by decide) _).2 c hc)
  unfold decimal at h
  split at h
  · rcases List.mem_cons.mp h with rfl | hc
    · rfl
    · exact hdigit hc
  · exact hdigit h

/-! ### Conversions with their range checks -/

/-- A sequence of two fallible steps succeeds exactly when both do. -/
lemma bind_eq_ok_iff {ε α β : Type} {x : Except ε α} {f : α → Except ε β} {b : β} :
    (x >>= f) = .ok b ↔ ∃ a, x = .ok a ∧ f a = .ok b := by
  cases x with
  | error e => simp [bind, Except.bind]
  | ok a => simp [bind, Except.bind]

/-- The value as an unsigned integer of `w` bits, where a minus sign wraps around. -/
def ScannedNumber.toUnsigned (w : ℕ) (n : ScannedNumber) : ℕ :=
  if n.negative then (2 ^ w - n.magnitude) % 2 ^ w else n.magnitude

/-- The value as an integer. -/
def ScannedNumber.toInt (n : ScannedNumber) : ℤ :=
  if n.negative then -n.magnitude else n.magnitude

/-- `in >> value` for an unsigned integer of `w` bits: `none` when the extraction fails. -/
def readUnsigned (base w : ℕ) (text : Text) : Option ℕ :=
  match scanNumber base text with
  | none => none
  | some n => if n.magnitude < 2 ^ w then some (n.toUnsigned w) else none

/-- What the conversions throw, with the text of the exception. -/
inductive NumberError
  | invalidArgument (what : String)
  | outOfRange (what : String)
  deriving DecidableEq

/-- `std::stoull`. -/
def stoull (text : Text) : Except NumberError ℕ :=
  match scanNumber 10 text with
  | none => .error (.invalidArgument "stoull")
  | some n => if n.magnitude < 2 ^ 64 then .ok (n.toUnsigned 64) else .error (.outOfRange "stoull")

/-- `std::stoll`. -/
def stoll (text : Text) : Except NumberError ℤ :=
  match scanNumber 10 text with
  | none => .error (.invalidArgument "stoll")
  | some n =>
      if -2 ^ 63 ≤ n.toInt ∧ n.toInt < 2 ^ 63 then .ok n.toInt else .error (.outOfRange "stoll")

/-- A text of digits below the bound is read as the number they stand for. -/
lemma readUnsigned_of_isNumeral {base w : ℕ} {text : Text} (h : IsNumeral base text)
    (hrange : numeral base text < 2 ^ w) : readUnsigned base w text = some (numeral base text) := by
  simp [readUnsigned, scanNumber_of_isNumeral h, hrange, ScannedNumber.toUnsigned]

/-- The texts that are read as an unsigned number. -/
lemma readUnsigned_eq_some_iff {base w v : ℕ} {text : Text} :
    readUnsigned base w text = some v ↔
      ∃ n, ReadsNumber base text n ∧ n.magnitude < 2 ^ w ∧ n.toUnsigned w = v := by
  simp only [← scanNumber_eq_some_iff]
  unfold readUnsigned
  cases hscan : scanNumber base text with
  | none => simp
  | some n =>
    by_cases hrange : n.magnitude < 2 ^ w <;> simp [hrange]

private lemma ok_ite_eq_ok {ε α : Type*} {P : Prop} [Decidable P] {a v : α} {e : ε} :
    (if P then Except.ok a else Except.error e) = Except.ok v ↔ P ∧ a = v := by
  by_cases h : P <;> simp [h]

/-- The texts that `stoull` converts. -/
lemma stoull_eq_ok_iff {text : Text} {v : ℕ} :
    stoull text = .ok v ↔
      ∃ n, ReadsNumber 10 text n ∧ n.magnitude < 2 ^ 64 ∧ n.toUnsigned 64 = v := by
  simp only [← scanNumber_eq_some_iff]
  unfold stoull
  cases hscan : scanNumber 10 text with
  | none => simp
  | some n => simp [ok_ite_eq_ok]

/-- The texts that `stoll` converts. -/
lemma stoll_eq_ok_iff {text : Text} {v : ℤ} :
    stoll text = .ok v ↔
      ∃ n, ReadsNumber 10 text n ∧ (-2 ^ 63 ≤ n.toInt ∧ n.toInt < 2 ^ 63) ∧ n.toInt = v := by
  simp only [← scanNumber_eq_some_iff]
  unfold stoll
  cases hscan : scanNumber 10 text with
  | none => simp
  | some n => simp [ok_ite_eq_ok]

/-- The decimal text of an integer begins with the integer. -/
lemma readsNumber_decimal (n : ℤ) : ReadsNumber 10 (decimal n) ⟨decide (n < 0), n.natAbs⟩ := by
  have hdigits : IsNumeral 10 (digits 10 n.natAbs) := isNumeral_digits (by decide) (by decide) _
  have hprefix : IsBasePrefix 10 [] (digits 10 n.natAbs ++ []) := Or.inl ⟨rfl, by simp⟩
  by_cases hneg : n < 0
  · refine ⟨[], ['-'], [], digits 10 n.natAbs, [], ?_, by simp, ?_, hprefix, hdigits, by simp, ?_⟩
    · simp [decimal, hneg]
    · exact Or.inr (Or.inr ⟨rfl, by simpa using hneg⟩)
    · simp
  · refine ⟨[], [], [], digits 10 n.natAbs, [], ?_, by simp, ?_, hprefix, hdigits, by simp, ?_⟩
    · simp [decimal, hneg]
    · exact Or.inl ⟨rfl, by simpa using hneg⟩
    · simp

/-- `stoll` reads back the decimal text of a 64-bit integer. -/
lemma stoll_decimal {n : ℤ} (hlow : -2 ^ 63 ≤ n) (hhigh : n < 2 ^ 63) :
    stoll (decimal n) = .ok n := by
  have hvalue : (⟨decide (n < 0), n.natAbs⟩ : ScannedNumber).toInt = n := by
    unfold ScannedNumber.toInt
    by_cases hneg : n < 0
    · simp only [hneg, decide_true, if_true]
      omega
    · simp only [hneg, decide_false, Bool.false_eq_true, if_false]
      omega
  exact stoll_eq_ok_iff.mpr ⟨_, readsNumber_decimal n, by rw [hvalue]; exact ⟨hlow, hhigh⟩, hvalue⟩

/-- `stoull` reads back the decimal text of a 64-bit natural number. -/
lemma stoull_decimal {n : ℕ} (hn : n < 2 ^ 64) : stoull (decimal n) = .ok n := by
  have hnonneg : ¬((n : ℤ) < 0) := by omega
  exact stoull_eq_ok_iff.mpr ⟨_, readsNumber_decimal n, by simpa using hn,
    by simp [ScannedNumber.toUnsigned, hnonneg]⟩

end SystemsDemos
