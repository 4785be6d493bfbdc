import SystemsDemos.Text.Number

/-!
# Formatted output and words of input

`OStream` is an output string stream with the state that manipulators change: the sticky base,
letter case and fill character, and the width, which the next output uses up.  `tokens` is the
loop `while (stream >> token)`, and `find` is the position of the first occurrence of a character.

### Outline

* `OStream`, its manipulators and its insertions;
* `tokens`, with the rules that compute the tokens of a text put together from pieces;
* `find`.
-/

namespace SystemsDemos

/-! ### Output -/

/-- An output string stream. -/
structure OStream where
  text : Text
  hex : Bool
  uppercase : Bool
  fill : Char
  width : ℕ

namespace OStream

/-- A fresh stream. -/
def empty : OStream := ⟨[], false, false, ' ', 0⟩

/-- `out << std::hex`. -/
def setHex (out : OStream) : OStream := { out with hex := true }

/-- `out << std::uppercase`. -/
def setUppercase (out : OStream) : OStream := { out with uppercase := true }

/-- `out << std::setfill(c)`. -/
def setFill (out : OStream) (c : Char) : OStream := { out with fill := c }

/-- `out << std::setw(n)`. -/
def setWidth (out : OStream) (n : ℕ) : OStream := { out with width := n }

/-- An insertion: the text is filled up on the left to the width, which is used up. -/
def put (out : OStream) (text : Text) : OStream :=
  { out with
    text := out.text ++ (List.replicate (out.width - text.length) out.fill ++ text)
    width := 0 }

/-- The text of a number in the base and letter case of the stream. -/
def format (out : OStream) (n : ℕ) : Text :=
  let text := digits (if out.hex then 16 else 10) n
  if out.uppercase then text.map Char.toUpper else text

/-- `out << n` for an unsigned number. -/
def putNat (out : OStream) (n : ℕ) : OStream := out.put (out.format n)

/-- `out << n` for a signed number, on a stream in its default base. -/
def putInt (out : OStream) (n : ℤ) : OStream := out.put (decimal n)

/-- `out << text`. -/
def putString (out : OStream) (text : String) : OStream := out.put text.toList

/-- A stream in its default state that holds a text. -/
def plain (text : Text) : OStream := { empty with text := text }

section Plain

variable (text : Text)

lemma empty_eq_plain : empty = plain [] := rfl

@[simp] lemma text_plain : (plain text).text = text := rfl

/-- Insertions into a stream in its default state append. -/
@[simp] lemma put_plain (t : Text) : (plain text).put t = plain (text ++ t) := by
  simp [put, plain, empty]

@[simp] lemma putString_plain (s : String) :
    (plain text).putString s = plain (text ++ s.toList) :=
  put_plain text s.toList

@[simp] lemma putInt_plain (n : ℤ) : (plain text).putInt n = plain (text ++ decimal n) :=
  put_plain text (decimal n)

@[simp] lemma putNat_plain (n : ℕ) : (plain text).putNat n = plain (text ++ decimal n) := by
  have hnonneg : ¬((n : ℤ) < 0) := by omega
  have hformat : (plain text).format n = decimal n := by
    simp [format, plain, empty, decimal, hnonneg]
  rw [putNat, hformat, put_plain]

end Plain

end OStream

/-! ### Words -/

/-- The words of the text behind a word that has been read up to `word`. -/
def tokensFrom (word : Text) : Text → List Text
  | [] => if word = [] then [] else [word]
  | c :: text =>
      if isSpace c then
        if word = [] then tokensFrom [] text else word :: tokensFrom [] text
      else tokensFrom (word ++ [c]) text

/-- The words that `while (stream >> token)` reads: the maximal rows of characters that are not
white space. -/
def tokens (text : Text) : List Text := tokensFrom [] text

/-- The text contains no white space. -/
def NoSpace (text : Text) : Prop := ∀ c ∈ text, isSpace c = false

instance (text : Text) : Decidable (NoSpace text) :=
  List.decidableBAll (fun c => isSpace c = false) text

@[simp] lemma noSpace_append {a b : Text} : NoSpace (a ++ b) ↔ NoSpace a ∧ NoSpace b := by
  simp only [NoSpace, List.mem_append]
  constructor
  · intro h
    exact ⟨fun c hc => h c (Or.inl hc), fun c hc => h c (Or.inr hc)⟩
  · rintro ⟨ha, hb⟩ c (hc | hc)
    · exact ha c hc
    · exact hb c hc

/-- Decimal texts contain no white space. -/
lemma noSpace_decimal (n : ℤ) : NoSpace (decimal n) := fun _ => not_isSpace_of_mem_decimal

/-- A word is read to its end. -/
lemma tokensFrom_append {word a : Text} (ha : NoSpace a) (b : Text) :
    tokensFrom word (a ++ b) = tokensFrom (word ++ a) b := by
  induction a generalizing word with
  | nil => simp
  | cons c a ih =>
    have hc : isSpace c = false := ha c (by simp)
    have hrest : NoSpace a := fun x hx => ha x (by simp [hx])
    simp [tokensFrom, hc, ih hrest]

/-- A text without white space is one word. -/
lemma tokens_word {a : Text} (ha : NoSpace a) (hne : a ≠ []) : tokens a = [a] := by
  have hread : tokensFrom [] (a ++ []) = tokensFrom ([] ++ a) [] := tokensFrom_append ha []
  simpa [tokens, tokensFrom, hne] using hread

/-- The words before and behind a blank are read separately. -/
lemma tokensFrom_space {c : Char} (hc : isSpace c = true) (word a b : Text) :
    tokensFrom word (a ++ c :: b) = tokensFrom word a ++ tokens b := by
  induction a generalizing word with
  | nil => by_cases hword : word = [] <;> simp [tokensFrom, hc, hword, tokens]
  | cons x a ih =>
    by_cases hx : isSpace x = true
    · by_cases hword : word = [] <;> simp [tokensFrom, hx, hword, ih]
    · simp [tokensFrom, hx, ih]

lemma tokens_space {c : Char} (hc : isSpace c = true) (a b : Text) :
    tokens (a ++ c :: b) = tokens a ++ tokens b :=
  tokensFrom_space hc [] a b

/-- A word in front of a blank. -/
lemma tokens_cons {a : Text} {c : Char} (ha : NoSpace a) (hne : a ≠ []) (hc : isSpace c = true)
    (b : Text) : tokens (a ++ c :: b) = a :: tokens b := by
  rw [tokens_space hc, tokens_word ha hne, List.singleton_append]

private lemma noSpace_of_mem_tokensFrom {word text token : Text} (hword : NoSpace word)
    (h : token ∈ tokensFrom word text) : NoSpace token := by
  induction text generalizing word with
  | nil =>
    by_cases hnil : word = []
    · simp [tokensFrom, hnil] at h
    · obtain rfl : token = word := by simpa [tokensFrom, hnil] using h
      exact hword
  | cons c text ih =>
    have hnil : NoSpace [] := by simp [NoSpace]
    by_cases hc : isSpace c = true
    · by_cases hempty : word = []
      · exact ih hnil (by simpa [tokensFrom, hc, hempty] using h)
      · rcases (by simpa [tokensFrom, hc, hempty] using h :
          token = word ∨ token ∈ tokensFrom [] text) with rfl | hrest
        · exact hword
        · exact ih hnil hrest
    · have hlonger : NoSpace (word ++ [c]) := by
        refine noSpace_append.mpr ⟨hword, ?_⟩
        intro x hx
        obtain rfl := List.mem_singleton.mp hx
        simpa using hc
      exact ih hlonger (by simpa [tokensFrom, hc] using h)

/-- Words contain no white space. -/
lemma noSpace_of_mem_tokens {text token : Text} (h : token ∈ tokens text) : NoSpace token :=
  noSpace_of_mem_tokensFrom (by simp [NoSpace]) h

/-! ### Searching -/

/-- `text.find(c)`: the position of the first occurrence; `none` stands for `npos`. -/
def find (c : Char) (text : Text) : Option ℕ := text.findIdx? (· = c)

/-- The first occurrence stands behind a text without the character. -/
lemma find_append {c : Char} {a : Text} (ha : c ∉ a) (b : Text) :
    find c (a ++ c :: b) = some a.length := by
  induction a with
  | nil => simp [find, List.findIdx?_cons]
  | cons x a ih =>
    have hx : x ≠ c := by
      rintro rfl
      exact ha (by simp)
    have hrest := ih (fun hc => ha (by simp [hc]))
    simpa [find, List.findIdx?_cons, hx] using hrest

/-- A character that is found splits the text at its first occurrence. -/
lemma exists_append_of_find {c : Char} {text : Text} {i : ℕ} (h : find c text = some i) :
    ∃ a b, text = a ++ c :: b ∧ c ∉ a ∧ i = a.length := by
  induction text generalizing i with
  | nil => simp [find] at h
  | cons x text ih =>
    by_cases hx : x = c
    · subst hx
      obtain rfl : 0 = i := by simpa [find, List.findIdx?_cons] using h
      exact ⟨[], text, rfl, by simp, rfl⟩
    · cases hrest : find c text with
      | none =>
        have hnone : text.findIdx? (· = c) = none := hrest
        simp [find, List.findIdx?_cons, hx, hnone] at h
      | some j =>
        have hsome : text.findIdx? (· = c) = some j := hrest
        obtain rfl : j + 1 = i := by
          simpa [find, List.findIdx?_cons, hx, hsome] using h
        obtain ⟨a, b, rfl, ha, rfl⟩ := ih hrest
        exact ⟨x :: a, b, rfl, by simpa [ha] using Ne.symm hx, rfl⟩

/-- A character is not found exactly when it does not occur. -/
lemma find_eq_none_iff {c : Char} {text : Text} : find c text = none ↔ c ∉ text := by
  simp only [find, List.findIdx?_eq_none_iff, decide_eq_false_iff_not]
  constructor
  · intro h hc
    exact h c hc rfl
  · rintro h x hx rfl
    exact h hx

end SystemsDemos
