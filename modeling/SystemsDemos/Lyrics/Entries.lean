import SystemsDemos.Lyrics.Parser

/-!
# The entries of a lyrics file

What `loadFor` is meant to make of a file: for each line with text one entry per stamp, with the
time of the stamp in milliseconds and the trimmed text, ordered by time (`LoadsLyrics`).

The text is tested for emptiness before it is trimmed, so a line of stamps with only white space
between them makes entries without text; and the time is computed in 64 bits.  On every other file
the parser does what is meant (`loadFor_entries_iff`).

### Outline

* `Stamp.timeMs` and when it is computed exactly;
* `lyricEntries` and `LoadsLyrics`;
* the two failures of a line, and `loadFor_entries_iff`.
-/

namespace SystemsDemos

/-! ### The time of a stamp -/

/-- The time of a stamp in milliseconds. -/
def Stamp.timeMs (stamp : Stamp) : ℤ :=
  numeral 10 stamp.minutes * 60000 + numeral 10 stamp.seconds * 1000 +
    numeral 10 (threeDigits stamp.fraction)

/-- With a time that fits 64 bits every conversion yields the number of its digits. -/
lemma Stamp.toLongLong_eq {stamp : Stamp} (h : stamp.timeMs < 2 ^ 63) :
    toLongLong stamp.minutes = numeral 10 stamp.minutes ∧
      toLongLong stamp.seconds = numeral 10 stamp.seconds ∧
      toLongLong (threeDigits stamp.fraction) = numeral 10 (threeDigits stamp.fraction) := by
  unfold Stamp.timeMs at h
  exact ⟨if_pos (by omega), if_pos (by omega), if_pos (by omega)⟩

/-- A time that fits 64 bits is computed exactly. -/
lemma Stamp.ms_eq_timeMs {stamp : Stamp} (h : stamp.timeMs < 2 ^ 63) : stamp.ms = stamp.timeMs := by
  obtain ⟨hminutes, hseconds, hfraction⟩ := Stamp.toLongLong_eq h
  unfold Stamp.timeMs at h
  rw [Stamp.ms, hminutes, hseconds, hfraction, int64, Stamp.timeMs]
  refine Int.bmod_eq_of_le ?_ ?_ <;> omega

/-- Every computed time fits 64 bits. -/
lemma Stamp.ms_lt (stamp : Stamp) : stamp.ms < 2 ^ 63 :=
  Int.bmod_lt (by decide)

/-! ### What is meant -/

/-- The entries of a line: one for each stamp if there is text besides the stamps. -/
def lyricEntriesOfLine (line : Text) : List LyricLine :=
  let text := trimmed (removeMatches line)
  if text = [] then [] else (globalMatch line).map fun stamp => ⟨stamp.timeMs, text⟩

/-- The entries of a file, in the order of the file. -/
def lyricEntries (content : Text) : List LyricLine :=
  (readLines content).flatMap lyricEntriesOfLine

/-- After the file has been loaded the parser has its entries, ordered by time, and none of them
is without text. -/
def LoadsLyrics (std : TimeSort) (p : LyricsParser) (content : Text) : Prop :=
  let lines := (p.loadFor std (some content)).1.lines
  lines.Perm (lyricEntries content) ∧
    lines.Pairwise (fun a b => a.timeMs ≤ b.timeMs) ∧ ∀ entry ∈ lines, entry.text ≠ []

/-- The stamps are removed from the line as `loadFor` reads it without leaving mere white space,
and if there is text, the times of the stamps fit 64 bits. -/
def LineLoads (line : Text) : Prop :=
  globalMatch line ≠ [] →
    (removeMatches (trimmed line) = [] ∨ trimmed (removeMatches line) ≠ []) ∧
      (trimmed (removeMatches line) ≠ [] → ∀ stamp ∈ globalMatch line, stamp.timeMs < 2 ^ 63)

/-! ### The entries of a line -/

/-- The entries that `loadFor` makes of a line, in terms of the line as it stands in the file. -/
lemma lineEntries_eq (line : Text) :
    lineEntries line =
      if removeMatches (trimmed line) = [] then []
      else (globalMatch line).map fun stamp => ⟨stamp.ms, trimmed (removeMatches line)⟩ := by
  obtain ⟨hstamps, htext⟩ := scan_trim line
  unfold lineEntries
  dsimp only
  rw [hstamps, htext]
  by_cases hempty : removeMatches (trimmed line) = []
  · simp [hempty]
  · simp [hempty]

/-- A line that loads as meant makes the entries that are meant. -/
lemma LineLoads.entries_eq {line : Text} (h : LineLoads line) :
    lineEntries line = lyricEntriesOfLine line := by
  rw [lineEntries_eq, lyricEntriesOfLine]
  by_cases hstamps : globalMatch line = []
  · simp [hstamps]
  · obtain ⟨hblank, htimes⟩ := h hstamps
    by_cases htext : trimmed (removeMatches line) = []
    · have hraw : removeMatches (trimmed line) = [] := hblank.resolve_right (not_not_intro htext)
      simp [hraw, htext]
    · have hraw : removeMatches (trimmed line) ≠ [] := by
        intro hnil
        have hnone : trimmed (removeMatches line) = [] := by
          rw [← (scan_trim line).2, hnil]
          rfl
        exact htext hnone
      rw [if_neg hraw, if_neg htext]
      refine List.map_congr_left fun stamp hstamp => ?_
      rw [Stamp.ms_eq_timeMs (htimes htext stamp hstamp)]

/-- Otherwise it makes an entry without text, or an entry that is meant has a time that no entry
can have. -/
lemma exists_bad_entry {line : Text} (h : ¬LineLoads line) :
    (∃ entry ∈ lineEntries line, entry.text = []) ∨
      ∃ entry ∈ lyricEntriesOfLine line, 2 ^ 63 ≤ entry.timeMs := by
  unfold LineLoads at h
  rw [Classical.not_imp, not_and_or] at h
  obtain ⟨hstamps, hblank | htimes⟩ := h
  · left
    obtain ⟨hraw, htext⟩ := not_or.mp hblank
    obtain ⟨stamp, stamps, hcons⟩ := List.exists_cons_of_ne_nil hstamps
    refine ⟨⟨stamp.ms, trimmed (removeMatches line)⟩, ?_, not_not.mp htext⟩
    rw [lineEntries_eq, if_neg hraw, hcons]
    exact List.mem_cons_self
  · right
    obtain ⟨htext, htimes⟩ := Classical.not_imp.mp htimes
    obtain ⟨stamp, hmem, hlate⟩ : ∃ stamp ∈ globalMatch line, 2 ^ 63 ≤ stamp.timeMs := by
      by_contra hall
      exact htimes fun stamp hmem => not_le.mp fun hle => hall ⟨stamp, hmem, hle⟩
    refine ⟨⟨stamp.timeMs, trimmed (removeMatches line)⟩, ?_, hlate⟩
    rw [lyricEntriesOfLine, if_neg htext]
    exact List.mem_map_of_mem hmem

/-! ### The entries of a file -/

/-- The entries of a line that is meant to have some have text. -/
lemma text_ne_nil_of_mem_lyricEntries {content : Text} {entry : LyricLine}
    (h : entry ∈ lyricEntries content) : entry.text ≠ [] := by
  obtain ⟨line, -, hentry⟩ := List.mem_flatMap.mp h
  unfold lyricEntriesOfLine at hentry
  dsimp only at hentry
  split at hentry
  · cases hentry
  · next htext =>
    obtain ⟨stamp, -, rfl⟩ := List.mem_map.mp hentry
    exact htext

/-- Every time that `loadFor` stores fits 64 bits. -/
lemma timeMs_lt_of_mem_lineEntries {line : Text} {entry : LyricLine}
    (h : entry ∈ lineEntries line) : entry.timeMs < 2 ^ 63 := by
  rw [lineEntries_eq] at h
  split at h
  · cases h
  · obtain ⟨stamp, -, rfl⟩ := List.mem_map.mp h
    exact stamp.ms_lt

/-- **What is loaded from a file.**  The parser has the entries that are meant, ordered by time and
all with text, exactly when every line with stamps is left with text or with nothing at all once
they are removed, and the times of the stamps of text fit 64 bits. -/
theorem loadFor_entries_iff (std : TimeSort) (p : LyricsParser) (content : Text) :
    LoadsLyrics std p content ↔ ∀ line ∈ readLines content, LineLoads line := by
  have hperm : (p.loadFor std (some content)).1.lines.Perm
      ((readLines content).flatMap lineEntries) := std.perm _
  constructor
  · rintro ⟨hmeant, -, htext⟩ line hline
    by_contra hbad
    rcases exists_bad_entry hbad with ⟨entry, hentry, hempty⟩ | ⟨entry, hentry, hlate⟩
    · have hloaded := hperm.mem_iff.mpr (List.mem_flatMap.mpr ⟨line, hline, hentry⟩)
      exact htext entry hloaded hempty
    · have hloaded := hmeant.mem_iff.mpr (List.mem_flatMap.mpr ⟨line, hline, hentry⟩)
      obtain ⟨line', -, hentry'⟩ := List.mem_flatMap.mp (hperm.mem_iff.mp hloaded)
      exact absurd (timeMs_lt_of_mem_lineEntries hentry') (not_lt.mpr hlate)
  · intro h
    have hentries : (readLines content).flatMap lineEntries = lyricEntries content :=
      List.flatMap_congr fun line hline => (h line hline).entries_eq
    rw [hentries] at hperm
    exact ⟨hperm, std.ordered _, fun entry hentry =>
      text_ne_nil_of_mem_lyricEntries (hperm.mem_iff.mp hentry)⟩

/-- Two stamps with a blank between them, and nothing else in the line. -/
theorem blank_line_loads_empty_entries :
    ¬∀ (std : TimeSort) (p : LyricsParser) (content : Text), LoadsLyrics std p content := by
  intro h
  have htext := (h .insertion .new "[00:01.00] [00:02.00]".toList).2.2
  have hmem : (⟨1000, []⟩ : LyricLine) ∈
      (LyricsParser.new.loadFor .insertion (some "[00:01.00] [00:02.00]".toList)).1.lines := by
    decide +kernel
  exact htext _ hmem rfl

end SystemsDemos
