import SystemsDemos.Lyrics.Entries
import SystemsDemos.Text.Fraction

/-!
# The times of the entries

For a stamp `[M:S.F]` the time is `60000 * M + 1000 * S` milliseconds and the whole milliseconds of
`0.F`.  `loadFor` computes it in 64 bits: `toLongLong` returns `0` for a number that does not fit,
without a test of its `ok`, and the products and sums are not checked.  Every entry has the time of
its stamp, and nothing on the way is lost, exactly when every stamp that makes an entry has a time
that fits (`loadFor_times_iff`).

### Outline

* `Stamp.exactMs`, and `Stamp.Computes`, what the computation is meant to be;
* `Stamp.computes_iff`;
* `entryStamps` and `LoadsTimes`;
* `loadFor_times_iff`, and a stamp whose minutes are taken for zero.
-/

namespace SystemsDemos

/-! ### The time of one stamp -/

/-- `60000 * M + 1000 * S` and the whole part of `1000 * 0.F`. -/
def Stamp.exactMs (stamp : Stamp) : ℕ :=
  60000 * numeral 10 stamp.minutes + 1000 * numeral 10 stamp.seconds +
    1000 * numeral 10 stamp.fraction / 10 ^ stamp.fraction.length

/-- Every conversion yields the number that the digits stand for, every product and sum is a
`qint64`, and the result is the time of the stamp. -/
structure Stamp.Computes (stamp : Stamp) : Prop where
  minutes : toLongLong stamp.minutes = numeral 10 stamp.minutes
  seconds : toLongLong stamp.seconds = numeral 10 stamp.seconds
  fraction : toLongLong (threeDigits stamp.fraction) = numeral 10 (threeDigits stamp.fraction)
  minutesProduct : toLongLong stamp.minutes * 60000 < 2 ^ 63
  secondsProduct : toLongLong stamp.seconds * 1000 < 2 ^ 63
  firstSum : toLongLong stamp.minutes * 60000 + toLongLong stamp.seconds * 1000 < 2 ^ 63
  secondSum : toLongLong stamp.minutes * 60000 + toLongLong stamp.seconds * 1000 +
    toLongLong (threeDigits stamp.fraction) < 2 ^ 63
  exact : stamp.ms = stamp.exactMs

/-- The three digits are the whole milliseconds. -/
lemma numeral_threeDigits (digits : Text) :
    numeral 10 (threeDigits digits) = 1000 * numeral 10 digits / 10 ^ digits.length :=
  numeral_firstDigits (by decide) 3 digits

/-- The time of a stamp, in terms of the three digits. -/
lemma Stamp.timeMs_eq_exactMs (stamp : Stamp) : stamp.timeMs = stamp.exactMs := by
  rw [Stamp.timeMs, Stamp.exactMs, numeral_threeDigits]
  push_cast
  omega

/-- A time that fits is computed without loss, and no other. -/
lemma Stamp.computes_iff (stamp : Stamp) : stamp.Computes ↔ stamp.exactMs < 2 ^ 63 := by
  have hspelled := stamp.timeMs_eq_exactMs
  constructor
  · intro h
    have hless := stamp.ms_lt
    rw [h.exact] at hless
    exact_mod_cast hless
  · intro h
    have hfits : stamp.timeMs < 2 ^ 63 := by
      rw [hspelled]
      exact_mod_cast h
    have hms := Stamp.ms_eq_timeMs hfits
    obtain ⟨hminutes, hseconds, hfraction⟩ := Stamp.toLongLong_eq hfits
    unfold Stamp.timeMs at hfits
    refine ⟨hminutes, hseconds, hfraction, ?_, ?_, ?_, ?_, hms.trans hspelled⟩ <;>
      (simp only [hminutes, hseconds, hfraction]; omega)

/-! ### The times of a file -/

/-- The stamps that `loadFor` turns into entries: those of the lines that are not empty without
them. -/
def entryStamps (content : Text) : List Stamp :=
  (readLines content).flatMap fun line =>
    if removeMatches (trimmed line) = [] then [] else globalMatch (trimmed line)

/-- The entries have the times of their stamps, and nothing is lost in computing them. -/
def LoadsTimes (std : TimeSort) (p : LyricsParser) (content : Text) : Prop :=
  ((p.loadFor std (some content)).1.lines.map LyricLine.timeMs).Perm
      ((entryStamps content).map fun stamp => (stamp.exactMs : ℤ)) ∧
    ∀ stamp ∈ entryStamps content, stamp.Computes

/-- The times that `loadFor` stores are those it computes for the stamps. -/
lemma map_timeMs_lineEntries (content : Text) :
    ((readLines content).flatMap lineEntries).map LyricLine.timeMs =
      (entryStamps content).map Stamp.ms := by
  rw [entryStamps, List.map_flatMap, List.map_flatMap]
  refine List.flatMap_congr fun line _ => ?_
  unfold lineEntries
  dsimp only
  split
  · simp
  · next htext => simp [htext]

/-- **The times that are stored.**  The entries have the times of their stamps, and no conversion,
product or sum leaves 64 bits, exactly when the time of every stamp that makes an entry is below
`2 ^ 63`. -/
theorem loadFor_times_iff (std : TimeSort) (p : LyricsParser) (content : Text) :
    LoadsTimes std p content ↔ ∀ stamp ∈ entryStamps content, stamp.exactMs < 2 ^ 63 := by
  have hperm : ((p.loadFor std (some content)).1.lines.map LyricLine.timeMs).Perm
      ((entryStamps content).map Stamp.ms) := by
    rw [← map_timeMs_lineEntries]
    exact (std.perm _).map _
  constructor
  · rintro ⟨-, hcomputes⟩ stamp hmem
    exact stamp.computes_iff.mp (hcomputes stamp hmem)
  · intro hfits
    have hcomputes : ∀ stamp ∈ entryStamps content, stamp.Computes :=
      fun stamp hmem => stamp.computes_iff.mpr (hfits stamp hmem)
    have htimes : (entryStamps content).map Stamp.ms =
        (entryStamps content).map fun stamp => (stamp.exactMs : ℤ) :=
      List.map_congr_left fun stamp hmem => (hcomputes stamp hmem).exact
    rw [htimes] at hperm
    exact ⟨hperm, hcomputes⟩

/-- Minutes of twenty-two digits: the entry is stored at zero. -/
theorem minutes_taken_for_zero :
    (LyricsParser.new.loadFor .insertion
        (some "[9999999999999999999999:00.5]late".toList)).1.lines =
        [⟨500, "late".toList⟩] ∧
      ¬LoadsTimes .insertion .new "[9999999999999999999999:00.5]late".toList := by
  have hloaded : (LyricsParser.new.loadFor .insertion
      (some "[9999999999999999999999:00.5]late".toList)).1.lines =
      [⟨500, "late".toList⟩] := by decide +kernel
  refine ⟨hloaded, fun hloads => ?_⟩
  have hmem : (⟨"9999999999999999999999".toList, "00".toList, "5".toList⟩ : Stamp) ∈
      entryStamps "[9999999999999999999999:00.5]late".toList := by decide +kernel
  exact absurd (hloads.2 _ hmem).minutes (by decide +kernel)

end SystemsDemos
