import SystemsDemos.SocketCan.CanFrame
import Mathlib.Data.List.Induction

/-!
# The language of candump lines

Which lines `parseCandumpLine` accepts.  The intended language is `StrictLine`: digits, `#`, and
an even number of digits.  Stream extraction accepts more (`LaxLine`): white space, a sign or `0x`
in front of the digits, and anything behind them.  On the strict lines everything is as intended,
and a line outside both languages is refused; the lines in between are the ones on which the
parser departs from the format (`candump_language_iff`).

### Outline

* `StrictLine`, `LaxLine` and `SameLine`;
* `accepts_iff_laxLine`, the accepted language;
* `sameLine_formatCandumpLine`, what a strict line is written back as.
-/

namespace SystemsDemos

/-! ### The two languages -/

/-- A candump line as the format has it: hex digits of a standard id, `#`, and up to eight bytes
of two hex digits. -/
def StrictLine (line : Text) : Prop :=
  ∃ id payload : Text, line = id ++ '#' :: payload ∧ IsNumeral 16 id ∧ numeral 16 id ≤ 0x7FF ∧
    (payload.length % 2 = 0 ∧ payload.length ≤ 16) ∧ ∀ c ∈ payload, isDigit 16 c = true

/-- Stream extraction reads an unsigned number up to the bound from the text, whatever surrounds
its digits. -/
def LaxNumber (bound : ℕ) (text : Text) : Prop :=
  ∃ n, ReadsNumber 16 text n ∧ n.magnitude < 2 ^ 32 ∧ n.toUnsigned 32 ≤ bound

/-- Every pair of characters begins with a byte. -/
def LaxPayload : Text → Prop
  | [] => True
  | [_] => False
  | c :: d :: payload => LaxNumber 0xFF [c, d] ∧ LaxPayload payload

/-- A line whose pieces begin with numbers in range. -/
def LaxLine (line : Text) : Prop :=
  ∃ id payload : Text, line = id ++ '#' :: payload ∧ '#' ∉ id ∧ LaxNumber 0x7FF id ∧
    payload.length ≤ 16 ∧ LaxPayload payload

/-- A text without its leading zeros. -/
def dropZeros (text : Text) : Text := text.dropWhile (· = '0')

/-- Two lines are the same up to letter case and leading zeros of the id. -/
def SameLine (a b : Text) : Prop :=
  ∃ idA payloadA idB payloadB : Text,
    a = idA ++ '#' :: payloadA ∧ b = idB ++ '#' :: payloadB ∧
    (dropZeros idA).map Char.toUpper = (dropZeros idB).map Char.toUpper ∧
    payloadA.map Char.toUpper = payloadB.map Char.toUpper

/-! ### The accepted language -/

/-- A number in range, as the extraction reports it. -/
lemma laxNumber_iff {bound : ℕ} {text : Text} :
    LaxNumber bound text ↔ ∃ v, readUnsigned 16 32 text = some v ∧ v ≤ bound := by
  constructor
  · rintro ⟨n, hn, hmagnitude, hle⟩
    exact ⟨n.toUnsigned 32, readUnsigned_eq_some_iff.mpr ⟨n, hn, hmagnitude, rfl⟩, hle⟩
  · rintro ⟨v, hread, hle⟩
    obtain ⟨n, hn, hmagnitude, rfl⟩ := readUnsigned_eq_some_iff.mp hread
    exact ⟨n, hn, hmagnitude, hle⟩

/-- The ids that are parsed. -/
lemma parseHexId_isOk_iff {text : Text} :
    (∃ id, parseHexId text = .ok id) ↔ LaxNumber 0x7FF text := by
  rw [laxNumber_iff]
  unfold parseHexId
  cases hread : readUnsigned 16 32 text with
  | none => simp
  | some v =>
    by_cases hle : v ≤ 0x7FF
    · have hok : ¬v > 0x7FF := by omega
      simp [hok, hle]
    · have hrefused : v > 0x7FF := by omega
      simp [hrefused]

/-- The pairs of characters that are parsed. -/
lemma parseHexByte_isOk_iff {c d : Char} :
    (∃ byte, parseHexByte [c, d] = .ok byte) ↔ LaxNumber 0xFF [c, d] := by
  rw [laxNumber_iff]
  unfold parseHexByte
  cases hread : readUnsigned 16 32 [c, d] with
  | none => simp
  | some v =>
    by_cases hle : v ≤ 0xFF
    · have hok : ¬v > 0xFF := by omega
      simp [hok, hle]
    · have hrefused : v > 0xFF := by omega
      simp [hrefused]

/-- The payloads that are parsed. -/
lemma parsePayload_isOk_iff (payload : Text) :
    (∃ data, parsePayload payload = .ok data) ↔ LaxPayload payload := by
  induction payload using parsePayload.induct with
  | case1 => simp [parsePayload, LaxPayload]
  | case2 c =>
    have hrefused : ∀ data, parsePayload [c] ≠ .ok data := by
      intro data h
      obtain ⟨byte, hbyte, -⟩ := bind_eq_ok_iff.mp h
      cases hbyte
    simp [LaxPayload, hrefused]
  | case3 c d payload ih =>
    rw [LaxPayload, ← parseHexByte_isOk_iff, ← ih]
    constructor
    · rintro ⟨data, h⟩
      obtain ⟨byte, hbyte, h⟩ := bind_eq_ok_iff.mp h
      obtain ⟨rest, hrest, -⟩ := bind_eq_ok_iff.mp h
      exact ⟨⟨byte, hbyte⟩, ⟨rest, hrest⟩⟩
    · rintro ⟨⟨byte, hbyte⟩, ⟨rest, hrest⟩⟩
      refine ⟨byte :: rest, bind_eq_ok_iff.mpr ⟨byte, hbyte, ?_⟩⟩
      exact bind_eq_ok_iff.mpr ⟨rest, hrest, rfl⟩

/-- A payload of whole bytes has an even length. -/
lemma LaxPayload.even_length {payload : Text} (h : LaxPayload payload) :
    payload.length % 2 = 0 := by
  induction payload using LaxPayload.induct with
  | case1 => rfl
  | case2 c => exact h.elim
  | case3 c d payload ih =>
    have hrest := ih h.2
    simp only [List.length_cons]
    omega

/-- **The accepted language.** -/
theorem accepts_iff_laxLine {line : Text} :
    (∃ frame, parseCandumpLine line = .ok frame) ↔ LaxLine line := by
  simp only [parseCandumpLine_eq_ok_iff]
  constructor
  · rintro ⟨frame, id, payload, rfl, hid, hparse, hlen, hdata⟩
    exact ⟨id, payload, rfl, hid, parseHexId_isOk_iff.mp ⟨_, hparse⟩, hlen.2,
      (parsePayload_isOk_iff payload).mp ⟨_, hdata⟩⟩
  · rintro ⟨id, payload, rfl, hid, hnumber, hlen, hpayload⟩
    obtain ⟨canId, hparse⟩ := parseHexId_isOk_iff.mpr hnumber
    obtain ⟨data, hdata⟩ := (parsePayload_isOk_iff payload).mpr hpayload
    exact ⟨⟨canId, data⟩, id, payload, rfl, hid, hparse, ⟨hpayload.even_length, hlen⟩, hdata⟩

/-! ### The strict lines -/

/-- Digits in range are read. -/
lemma laxNumber_of_isNumeral {bound : ℕ} {text : Text} (h : IsNumeral 16 text)
    (hbound : bound < 2 ^ 32) (hle : numeral 16 text ≤ bound) : LaxNumber bound text :=
  laxNumber_iff.mpr
    ⟨numeral 16 text, readUnsigned_of_isNumeral h (Nat.lt_of_le_of_lt hle hbound), hle⟩

/-- A pair of digits stands for a byte. -/
lemma numeral_pair_le {c d : Char} (hc : isDigit 16 c = true) (hd : isDigit 16 d = true) :
    numeral 16 [c, d] ≤ 0xFF := by
  obtain ⟨x, hx⟩ := Option.isSome_iff_exists.mp hc
  obtain ⟨y, hy⟩ := Option.isSome_iff_exists.mp hd
  have hxlt := digitValue_lt hx
  have hylt := digitValue_lt hy
  simp [numeral, hx, hy]
  omega

/-- Two digits form a numeral. -/
lemma isNumeral_pair {c d : Char} (hc : isDigit 16 c = true) (hd : isDigit 16 d = true) :
    IsNumeral 16 [c, d] := by
  simp [IsNumeral, hc, hd]

/-- Digits are read pair by pair. -/
lemma laxPayload_of_digits {payload : Text} (heven : payload.length % 2 = 0)
    (hdigits : ∀ c ∈ payload, isDigit 16 c = true) : LaxPayload payload := by
  induction payload using LaxPayload.induct with
  | case1 => trivial
  | case2 c => simp at heven
  | case3 c d payload ih =>
    have hc : isDigit 16 c = true := hdigits c (by simp)
    have hd : isDigit 16 d = true := hdigits d (by simp)
    have hrest : payload.length % 2 = 0 := by
      simp only [List.length_cons] at heven
      omega
    exact ⟨laxNumber_of_isNumeral (isNumeral_pair hc hd) (by decide) (numeral_pair_le hc hd),
      ih hrest fun x hx => hdigits x (by simp [hx])⟩

/-- Every strict line is accepted. -/
lemma StrictLine.laxLine {line : Text} (h : StrictLine line) : LaxLine line := by
  obtain ⟨id, payload, rfl, hid, hle, hlen, hdigits⟩ := h
  exact ⟨id, payload, rfl, not_mem_of_isNumeral hid, laxNumber_of_isNumeral hid (by decide) hle,
    hlen.2, laxPayload_of_digits hlen.1 hdigits⟩

/-! ### Writing a strict line back -/

/-- A digit is determined by its value up to letter case. -/
lemma toUpper_eq_of_digitValue {c : Char} {d : ℕ} (h : digitValue 16 c = some d) :
    c.toUpper = d.digitChar.toUpper := by
  have hdigit : isDigit 16 c = true := by simp [isDigit, h]
  have hcode := code_of_isDigit hdigit
  have hvalue : digitCode c = some d := (Option.filter_eq_some_iff.mp h).1
  rw [← Char.ofNat_toNat c] at hvalue ⊢
  generalize c.toNat = n at hcode hvalue ⊢
  rcases hcode with ⟨hlow, hhigh⟩ | ⟨hlow, hhigh⟩ | ⟨hlow, hhigh⟩
  all_goals
    interval_cases n <;> (obtain rfl := Option.some.inj hvalue; rfl)

/-- Two rows of digits of the same length that stand for the same number are the same up to
letter case. -/
lemma map_toUpper_eq {a b : Text} (ha : ∀ c ∈ a, isDigit 16 c = true)
    (hb : ∀ c ∈ b, isDigit 16 c = true) (hlen : a.length = b.length)
    (hvalue : numeral 16 a = numeral 16 b) : a.map Char.toUpper = b.map Char.toUpper := by
  induction a using List.reverseRecOn generalizing b with
  | nil =>
    obtain rfl : b = [] := List.length_eq_zero_iff.mp hlen.symm
    rfl
  | append_singleton a c ih =>
    obtain ⟨b, d, rfl⟩ : ∃ b' d, b = b' ++ [d] := by
      have hne : b ≠ [] := by
        rintro rfl
        simp at hlen
      exact ⟨b.dropLast, b.getLast hne, (List.dropLast_append_getLast hne).symm⟩
    obtain ⟨x, hx⟩ := Option.isSome_iff_exists.mp (ha c (by simp))
    obtain ⟨y, hy⟩ := Option.isSome_iff_exists.mp (hb d (by simp))
    have hxlt := digitValue_lt hx
    have hylt := digitValue_lt hy
    rw [numeral_snoc, numeral_snoc, hx, hy, Option.getD_some, Option.getD_some] at hvalue
    have hrest : a.map Char.toUpper = b.map Char.toUpper := by
      apply ih (fun z hz => ha z (by simp [hz])) (fun z hz => hb z (by simp [hz]))
      · simpa using hlen
      · omega
    obtain rfl : x = y := by omega
    have hlast : c.toUpper = d.toUpper := by
      rw [toUpper_eq_of_digitValue hx, toUpper_eq_of_digitValue hy]
    simp [hrest, hlast]

/-- Zeros in front of a text are dropped. -/
lemma dropZeros_replicate_append (k : ℕ) (text : Text) :
    dropZeros (List.replicate k '0' ++ text) = dropZeros text := by
  apply List.dropWhile_append_of_pos
  intro c hc
  simpa using List.eq_of_mem_replicate hc

/-- Zeros do not depend on the letter case. -/
lemma map_dropZeros (text : Text) :
    (dropZeros text).map Char.toUpper = dropZeros (text.map Char.toUpper) := by
  have hzero : ∀ c : Char, c.toUpper = '0' ↔ c = '0' := by
    intro c
    have hcode := toNat_toUpper c
    have hzeroCode : ('0' : Char).toNat = 48 := rfl
    rw [← Char.toNat_inj, ← Char.toNat_inj, hcode, hzeroCode]
    split <;> omega
  have hpred : (fun c : Char => decide (c = '0')) ∘ Char.toUpper = fun c => decide (c = '0') := by
    funext c
    simp [hzero]
  rw [dropZeros, dropZeros, List.dropWhile_map, hpred]

/-- Two numerals that stand for the same number are the same up to letter case and leading
zeros. -/
lemma dropZeros_eq_of_numeral_eq {a b : Text} (ha : IsNumeral 16 a) (hb : IsNumeral 16 b)
    (hvalue : numeral 16 a = numeral 16 b) :
    (dropZeros a).map Char.toUpper = (dropZeros b).map Char.toUpper := by
  have hpadded : ∀ {k : ℕ} {text : Text}, IsNumeral 16 text →
      ∀ c ∈ List.replicate k '0' ++ text, isDigit 16 c = true := by
    intro k text htext c hc
    rcases List.mem_append.mp hc with hzero | hdigit
    · obtain rfl := List.eq_of_mem_replicate hzero
      rfl
    · exact htext.2 c hdigit
  have hsame := map_toUpper_eq (hpadded (k := b.length) ha) (hpadded (k := a.length) hb)
    (by simp [Nat.add_comm]) (by rw [numeral_replicate_append, numeral_replicate_append, hvalue])
  rw [← dropZeros_replicate_append b.length a, ← dropZeros_replicate_append a.length b,
    map_dropZeros, map_dropZeros, hsame]

/-- A payload of digits is written back up to letter case. -/
lemma map_toUpper_payload {payload : Text} {data : List UInt8}
    (hdigits : ∀ c ∈ payload, isDigit 16 c = true) (h : parsePayload payload = .ok data) :
    (data.flatMap fun byte => hexText 2 byte.toNat).map Char.toUpper =
      payload.map Char.toUpper := by
  induction payload using parsePayload.induct generalizing data with
  | case1 =>
    obtain rfl : [] = data := Except.ok.inj h
    rfl
  | case2 c =>
    obtain ⟨byte, hbyte, -⟩ := bind_eq_ok_iff.mp h
    cases hbyte
  | case3 c d payload ih =>
    obtain ⟨byte, hbyte, h⟩ := bind_eq_ok_iff.mp h
    obtain ⟨rest, hrest, h⟩ := bind_eq_ok_iff.mp h
    obtain rfl : byte :: rest = data := Except.ok.inj h
    have hc : isDigit 16 c = true := hdigits c (by simp)
    have hd : isDigit 16 d = true := hdigits d (by simp)
    have hpair := isNumeral_pair hc hd
    have hle := numeral_pair_le hc hd
    have hread := parseHexByte_of_isNumeral hpair rfl hle
    obtain rfl : UInt8.ofNat (numeral 16 [c, d]) = byte := by
      rw [hbyte] at hread
      exact (Except.ok.inj hread).symm
    have hvalue : (UInt8.ofNat (numeral 16 [c, d])).toNat = numeral 16 [c, d] :=
      UInt8.toNat_ofNat_of_lt' (by simp only [UInt8.size]; omega)
    have hfirst : (hexText 2 (numeral 16 [c, d])).map Char.toUpper = [c, d].map Char.toUpper := by
      apply map_toUpper_eq (isNumeral_hexText _ _).2 hpair.2
      · exact length_hexText (by decide) (by omega)
      · exact numeral_hexText _ _
    have hremaining := ih (fun x hx => hdigits x (by simp [hx])) hrest
    rw [List.flatMap_cons, List.map_append, hremaining, hvalue, hfirst]
    rfl

/-- **A strict line is written back up to letter case and leading zeros of the id.** -/
theorem StrictLine.sameLine_formatCandumpLine {line : Text} (h : StrictLine line)
    {frame : CanFrame} (hparse : parseCandumpLine line = .ok frame) :
    SameLine (formatCandumpLine frame) line := by
  obtain ⟨id, payload, rfl, hid, hle, hlen, hdigits⟩ := h
  obtain ⟨id', payload', heq, hid', hparseId, -, hdata⟩ := parseCandumpLine_eq_ok_iff.mp hparse
  obtain ⟨rfl, rfl⟩ := append_hash_inj (not_mem_of_isNumeral hid) hid' heq
  have hcanId : frame.id.toNat = numeral 16 id := by
    rw [parseHexId_of_isNumeral hid hle] at hparseId
    rw [← Except.ok.inj hparseId]
    exact UInt32.toNat_ofNat_of_lt' (by simp only [UInt32.size]; omega)
  refine ⟨hexText 3 frame.id.toNat, _, id, payload, formatCandumpLine_eq frame, rfl, ?_,
    map_toUpper_payload hdigits hdata⟩
  apply dropZeros_eq_of_numeral_eq (isNumeral_hexText _ _) hid
  rw [numeral_hexText, hcanId]

/-! ### Where the parser keeps to the format -/

/-- The parser treats the line as the format has it: it accepts exactly the strict lines, and what
it accepts is written back the same. -/
def KeepsFormat (line : Text) : Prop :=
  ((∃ frame, parseCandumpLine line = .ok frame) ↔ StrictLine line) ∧
    ∀ frame, parseCandumpLine line = .ok frame → SameLine (formatCandumpLine frame) line

/-- **The parser keeps to the format on a line exactly when the line is strict or lies outside
the language of stream extraction.**  Between the two languages are the lines whose digits are
surrounded by white space, signs, `0x` or other text; those are accepted all the same. -/
theorem candump_language_iff (line : Text) :
    KeepsFormat line ↔ StrictLine line ∨ ¬LaxLine line := by
  constructor
  · rintro ⟨haccept, -⟩
    by_cases hlax : LaxLine line
    · exact Or.inl (haccept.mp (accepts_iff_laxLine.mpr hlax))
    · exact Or.inr hlax
  · rintro (hstrict | hrefused)
    · exact ⟨⟨fun _ => hstrict, fun h => accepts_iff_laxLine.mpr h.laxLine⟩,
        fun _ hframe => hstrict.sameLine_formatCandumpLine hframe⟩
    · have hno : ¬∃ frame, parseCandumpLine line = .ok frame :=
        fun h => hrefused (accepts_iff_laxLine.mp h)
      refine ⟨⟨fun h => absurd h hno, fun h => absurd h.laxLine hrefused⟩, ?_⟩
      intro frame hframe
      exact absurd ⟨frame, hframe⟩ hno

/-- The line `12G#` is accepted although its id is no hex number. -/
theorem candump_accepts_trailing_text :
    ¬∀ line : Text, KeepsFormat line := by
  intro h
  have haccepted : parseCandumpLine "12G#".toList = .ok ⟨0x12, []⟩ := rfl
  obtain ⟨id, payload, hline, hid, -⟩ := (h "12G#".toList).1.mp ⟨_, haccepted⟩
  have hcut : "12G#".toList = "12G".toList ++ '#' :: [] := rfl
  obtain ⟨rfl, -⟩ := append_hash_inj (by decide) (not_mem_of_isNumeral hid) (hcut.symm.trans hline)
  have hdigit : isDigit 16 'G' = true := hid.2 'G' (by simp)
  cases hdigit

end SystemsDemos
