import SystemsDemos.Text.Number
import SystemsDemos.Text.Trim

/-!
# Time stamps in lyrics

The regular expression `\[(\d+):(\d+)[.:](\d+)\]` of `LyricsParser::loadFor`, the matches of it in a
line and the line without them.  A run of digits ends where another character is required, so
there is only one way to match at a position (`matchStamp_eq_some_iff`), and white space around a
line changes neither the stamps nor the text between them (`scan_trim`).

### Outline

* `Stamp` and `matchStamp`;
* `scan`, with `globalMatch` and `removeMatches`;
* `qtIsSpace`, `trimmed` and what trimming a line does to the scan.
-/

namespace SystemsDemos

/-- The captured groups of a match. -/
structure Stamp where
  minutes : Text
  seconds : Text
  fraction : Text
  deriving DecidableEq

/-! ### A match -/

/-- `\[` at the beginning of the text. -/
def openBracket : Text → Option Text
  | [] => none
  | c :: s => if c = '[' then some s else none

/-- `(\d+)` at the beginning of the text, followed by a character with `p`. -/
def digitsThen (p : Char → Bool) (s : Text) : Option (Text × Text) :=
  match s.dropWhile (isDigit 10) with
  | [] => none
  | c :: rest =>
      let digits := s.takeWhile (isDigit 10)
      if digits ≠ [] ∧ p c = true then some (digits, rest) else none

/-- The regular expression at the beginning of the text, with the text behind the match. -/
def matchStamp (s : Text) : Option (Stamp × Text) := do
  let s ← openBracket s
  let (minutes, s) ← digitsThen (fun c => c = ':') s
  let (seconds, s) ← digitsThen (fun c => c = '.' || c = ':') s
  let (fraction, s) ← digitsThen (fun c => c = ']') s
  return (⟨minutes, seconds, fraction⟩, s)

/-- The text is a stamp with the given groups. -/
def Stamp.Spells (stamp : Stamp) (text : Text) : Prop :=
  (IsNumeral 10 stamp.minutes ∧ IsNumeral 10 stamp.seconds ∧ IsNumeral 10 stamp.fraction) ∧
    ∃ separator, (separator = '.' ∨ separator = ':') ∧
      text = '[' :: (stamp.minutes ++ ':' :: (stamp.seconds ++ separator ::
        (stamp.fraction ++ [']'])))

lemma openBracket_eq_some_iff {s rest : Text} : openBracket s = some rest ↔ s = '[' :: rest := by
  cases s with
  | nil => simp [openBracket]
  | cons c s =>
    by_cases hc : c = '['
    · simp [openBracket, hc]
    · simp [openBracket, hc]

/-- A run of digits that is followed by something else is found in one way only. -/
lemma digitsThen_eq_some_iff {p : Char → Bool} (hp : ∀ c, isDigit 10 c = true → p c = false)
    {s digits rest : Text} :
    digitsThen p s = some (digits, rest) ↔
      IsNumeral 10 digits ∧ ∃ c, p c = true ∧ s = digits ++ c :: rest := by
  constructor
  · intro h
    unfold digitsThen at h
    split at h
    · cases h
    · next c tail hdrop =>
      dsimp only at h
      split at h
      · next hcond =>
        obtain ⟨rfl, rfl⟩ := Prod.mk.inj (Option.some.inj h)
        refine ⟨⟨hcond.1, fun x hx => List.mem_takeWhile_imp hx⟩, c, hcond.2, ?_⟩
        rw [← hdrop, List.takeWhile_append_dropWhile]
      · cases h
  · rintro ⟨⟨hne, hdigits⟩, c, hc, rfl⟩
    have hstop : ∀ a ∈ (c :: rest).head?, isDigit 10 a = false := by
      intro a ha
      obtain rfl : c = a := by simpa using ha
      by_contra hdigit
      rw [hp c (by simpa using hdigit)] at hc
      cases hc
    unfold digitsThen
    rw [dropWhile_append_stop hdigits hstop, takeWhile_append_stop hdigits hstop]
    simp [hne, hc]

private lemma not_digit_of_code {c x : Char} (hx : isDigit 10 x = false)
    (hc : isDigit 10 c = true) : c ≠ x := by
  rintro rfl
  rw [hx] at hc
  cases hc

/-- **There is one way to match.**  The expression matches at the beginning of a text exactly when
the text begins with a stamp. -/
theorem matchStamp_eq_some_iff {s rest : Text} {stamp : Stamp} :
    matchStamp s = some (stamp, rest) ↔ ∃ text, stamp.Spells text ∧ s = text ++ rest := by
  have hcolon : ∀ c, isDigit 10 c = true → (fun c => decide (c = ':')) c = false := by
    intro c hc
    simpa using not_digit_of_code (x := ':') rfl hc
  have hseparator : ∀ c, isDigit 10 c = true →
      (fun c => decide (c = '.') || decide (c = ':')) c = false := by
    intro c hc
    simpa using ⟨not_digit_of_code (x := '.') rfl hc, not_digit_of_code (x := ':') rfl hc⟩
  have hclose : ∀ c, isDigit 10 c = true → (fun c => decide (c = ']')) c = false := by
    intro c hc
    simpa using not_digit_of_code (x := ']') rfl hc
  simp only [matchStamp, Option.bind_eq_bind, Option.bind_eq_some_iff, Prod.exists,
    openBracket_eq_some_iff, digitsThen_eq_some_iff hcolon, digitsThen_eq_some_iff hseparator,
    digitsThen_eq_some_iff hclose, decide_eq_true_eq, Bool.or_eq_true, Option.pure_def,
    Option.some.injEq, Prod.mk.injEq]
  constructor
  · rintro ⟨_, rfl, minutes, _, ⟨hminutes, _, rfl, rfl⟩, seconds, _,
      ⟨hseconds, separator, hsep, rfl⟩, fraction, _, ⟨hfraction, _, rfl, rfl⟩, rfl, rfl⟩
    exact ⟨_, ⟨⟨hminutes, hseconds, hfraction⟩, separator, hsep, rfl⟩, by simp⟩
  · rintro ⟨_, ⟨⟨hminutes, hseconds, hfraction⟩, separator, hsep, rfl⟩, rfl⟩
    exact ⟨_, rfl, stamp.minutes, stamp.seconds ++ separator :: (stamp.fraction ++ ']' :: rest),
      ⟨hminutes, ':', rfl, by simp⟩, stamp.seconds, stamp.fraction ++ ']' :: rest,
      ⟨hseconds, separator, hsep, by simp⟩, stamp.fraction, rest, ⟨hfraction, ']', rfl, by simp⟩,
      rfl, rfl⟩

/-- A stamp is not empty. -/
lemma Stamp.Spells.ne_nil {stamp : Stamp} {text : Text} (h : stamp.Spells text) : text ≠ [] := by
  obtain ⟨-, separator, -, rfl⟩ := h
  simp

/-- A stamp ends with a bracket. -/
lemma Stamp.Spells.exists_concat {stamp : Stamp} {text : Text} (h : stamp.Spells text) :
    ∃ init, text = init ++ [']'] := by
  obtain ⟨-, separator, -, rfl⟩ := h
  exact ⟨'[' :: (stamp.minutes ++ ':' :: (stamp.seconds ++ separator :: stamp.fraction)),
    by simp⟩

/-! ### All matches of a line -/

/-- The matches of a line from left to right, and the characters outside of them; the first `skip`
characters belong to a match already found. -/
def scanFrom : ℕ → Text → List Stamp × Text
  | _, [] => ([], [])
  | skip + 1, _ :: s => scanFrom skip s
  | 0, c :: s =>
      match matchStamp (c :: s) with
      | none => ((scanFrom 0 s).1, c :: (scanFrom 0 s).2)
      | some (stamp, rest) =>
          let after := scanFrom (s.length - rest.length) s
          (stamp :: after.1, after.2)

/-- The matches of a line, and the characters outside of them. -/
def scan (s : Text) : List Stamp × Text := scanFrom 0 s

/-- `re.globalMatch(s)`. -/
def globalMatch (s : Text) : List Stamp := (scan s).1

/-- `s.remove(re)`. -/
def removeMatches (s : Text) : Text := (scan s).2

/-- Skipped characters are dropped. -/
lemma scanFrom_eq_drop (skip : ℕ) (s : Text) : scanFrom skip s = scan (s.drop skip) := by
  induction s generalizing skip with
  | nil => cases skip <;> rfl
  | cons c s ih =>
    cases skip with
    | zero => rfl
    | succ skip => exact ih skip

@[simp] lemma scan_nil : scan [] = ([], []) := rfl

/-- A character at which no stamp begins is kept. -/
lemma scan_of_none {c : Char} {s : Text} (h : matchStamp (c :: s) = none) :
    scan (c :: s) = ((scan s).1, c :: (scan s).2) := by
  rw [scan, scanFrom, h]
  rfl

/-- A stamp at the beginning is the first match, and the scan goes on behind it. -/
lemma scan_of_some {s rest : Text} {stamp : Stamp} (h : matchStamp s = some (stamp, rest)) :
    scan s = (stamp :: (scan rest).1, (scan rest).2) := by
  obtain ⟨text, hspells, rfl⟩ := matchStamp_eq_some_iff.mp h
  obtain ⟨c, text, rfl⟩ := List.exists_cons_of_ne_nil hspells.ne_nil
  rw [List.cons_append] at h ⊢
  have hskip : (text ++ rest).length - rest.length = text.length := by simp
  rw [scan, scanFrom, h]
  dsimp only
  rw [scanFrom_eq_drop, hskip, List.drop_left]

/-! ### White space -/

/-- `QChar::isSpace`. -/
def qtIsSpace (c : Char) : Bool :=
  c = ' ' || (9 ≤ c.toNat && c.toNat ≤ 13) || c.toNat = 0x85 || c.toNat = 0xA0 ||
    c.toNat = 0x1680 || (0x2000 ≤ c.toNat && c.toNat ≤ 0x200A) || c.toNat = 0x2028 ||
    c.toNat = 0x2029 || c.toNat = 0x202F || c.toNat = 0x205F || c.toNat = 0x3000

/-- `QString::trimmed`. -/
def trimmed (s : Text) : Text := trim qtIsSpace s

/-- All characters of the text are white space. -/
def IsBlank (s : Text) : Prop := ∀ c ∈ s, qtIsSpace c = true

/-- No stamp begins with white space. -/
lemma matchStamp_of_space {c : Char} (hc : qtIsSpace c = true) (s : Text) :
    matchStamp (c :: s) = none := by
  have hne : c ≠ '[' := by
    rintro rfl
    cases hc
  simp [matchStamp, openBracket, hne]

/-- White space in front of a line is kept and adds no match. -/
lemma scan_blank_append {ws : Text} (hws : IsBlank ws) (s : Text) :
    scan (ws ++ s) = ((scan s).1, ws ++ (scan s).2) := by
  induction ws with
  | nil => rfl
  | cons c ws ih =>
    have hrest : scan (ws ++ s) = ((scan s).1, ws ++ (scan s).2) :=
      ih fun x hx => hws x (List.mem_cons_of_mem c hx)
    rw [List.cons_append, scan_of_none (matchStamp_of_space (hws c (by simp)) _), hrest]
    rfl

/-- White space behind a text neither makes nor breaks a match at its beginning. -/
lemma matchStamp_append_blank {ws : Text} (hws : IsBlank ws) (s : Text) :
    matchStamp (s ++ ws) = (matchStamp s).map fun found => (found.1, found.2 ++ ws) := by
  cases hmatch : matchStamp s with
  | some found =>
    obtain ⟨text, hspells, rfl⟩ := matchStamp_eq_some_iff.mp hmatch
    exact matchStamp_eq_some_iff.mpr ⟨text, hspells, List.append_assoc _ _ _⟩
  | none =>
    rw [Option.map_none, Option.eq_none_iff_forall_ne_some]
    rintro ⟨stamp, rest⟩ hsome
    obtain ⟨text, hspells, heq⟩ := matchStamp_eq_some_iff.mp hsome
    -- the stamp ends with a bracket, so it cannot reach into the white space
    rcases List.append_eq_append_iff.mp heq with ⟨reach, rfl, hreach⟩ | ⟨left, rfl, -⟩
    · rcases List.eq_nil_or_concat reach with rfl | ⟨reach, c, rfl⟩
      · have hself : matchStamp s = some (stamp, []) :=
          matchStamp_eq_some_iff.mpr ⟨s, by simpa using hspells, by simp⟩
        rw [hmatch] at hself
        cases hself
      · obtain ⟨init, hinit⟩ := hspells.exists_concat
        rw [List.concat_eq_append, ← List.append_assoc] at hinit
        obtain ⟨-, hlast⟩ := List.append_inj' hinit rfl
        obtain rfl : c = ']' := List.singleton_inj.mp hlast
        have hspace : qtIsSpace ']' = true := hws ']' (by simp [hreach])
        cases hspace
    · have hself : matchStamp (text ++ left) = some (stamp, left) :=
        matchStamp_eq_some_iff.mpr ⟨text, hspells, rfl⟩
      rw [hmatch] at hself
      cases hself

/-- White space behind a line is kept and adds no match. -/
lemma scan_append_blank {ws : Text} (hws : IsBlank ws) (s : Text) :
    scan (s ++ ws) = ((scan s).1, (scan s).2 ++ ws) := by
  induction hn : s.length using Nat.strong_induction_on generalizing s with
  | _ n ih =>
    cases s with
    | nil => simpa using scan_blank_append hws []
    | cons c s =>
      have hnext := matchStamp_append_blank hws (c :: s)
      cases hmatch : matchStamp (c :: s) with
      | none =>
        rw [hmatch, Option.map_none, List.cons_append] at hnext
        have hrest : scan (s ++ ws) = ((scan s).1, (scan s).2 ++ ws) :=
          ih s.length (by simp [← hn]) s rfl
        rw [scan_of_none hmatch, List.cons_append, scan_of_none hnext, hrest]
        rfl
      | some found =>
        obtain ⟨stamp, rest⟩ := found
        rw [hmatch, Option.map_some] at hnext
        have hshort : rest.length < n := by
          obtain ⟨text, hspells, htext⟩ := matchStamp_eq_some_iff.mp hmatch
          have hpos := List.length_pos_of_ne_nil hspells.ne_nil
          have hlen := congrArg List.length htext
          rw [List.length_append] at hlen
          omega
        have hrest : scan (rest ++ ws) = ((scan rest).1, (scan rest).2 ++ ws) :=
          ih rest.length hshort rest rfl
        rw [scan_of_some hmatch, scan_of_some hnext, hrest]

/-- **Trimming a line first makes no difference**: the stamps are the same, and so is the trimmed
text without them. -/
theorem scan_trim (line : Text) :
    globalMatch (trimmed line) = globalMatch line ∧
      trimmed (removeMatches (trimmed line)) = trimmed (removeMatches line) := by
  obtain ⟨front, back, hline, hfront, hback⟩ := exists_eq_append_trim qtIsSpace line
  have hscan : scan line =
      ((scan (trimmed line)).1, front ++ (scan (trimmed line)).2 ++ back) := by
    conv_lhs => rw [hline]
    rw [scan_append_blank hback, scan_blank_append hfront]
    rfl
  refine ⟨(congrArg Prod.fst hscan).symm, ?_⟩
  have htext : removeMatches line = front ++ removeMatches (trimmed line) ++ back :=
    congrArg Prod.snd hscan
  rw [htext]
  change trim qtIsSpace _ = trim qtIsSpace _
  rw [trim_append_right hback, trim_append_left hfront]

end SystemsDemos
