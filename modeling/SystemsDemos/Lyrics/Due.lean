import SystemsDemos.Lyrics.Parser

/-!
# The line that is due

`seekTo` walks through the lines, which are in order of time, up to the first one that is not due,
with an `int` for the index.  After every call of a sequence the lines are in order and the index
is that of a line or `-1`, so that every access is to a line, and after a call of `seekTo` the
lines up to the index are those that are due, exactly when no position finds `2 ^ 31` lines due
(`lyrics_indexed_iff`).

### Outline

* `dueCount`, and `seekTo` in terms of it;
* `WellIndexed`, which every call keeps;
* `CallLaw`, `DueFits` and `lyrics_indexed_iff`;
* a file with too many lines.
-/

namespace SystemsDemos

/-! ### The lines that are due -/

/-- The lines are in order of time. -/
def LinesInOrder (lines : List LyricLine) : Prop :=
  lines.Pairwise fun a b => a.timeMs ≤ b.timeMs

/-- The number of lines that are due at a position. -/
def dueCount (positionMs : ℤ) (lines : List LyricLine) : ℕ :=
  lines.countP fun line => line.timeMs ≤ positionMs

variable {line : LyricLine} {lines : List LyricLine} {positionMs i : ℤ}

/-- A line that is due counts. -/
lemma dueCount_cons_of_due (h : line.timeMs ≤ positionMs) (lines : List LyricLine) :
    dueCount positionMs (line :: lines) = dueCount positionMs lines + 1 :=
  List.countP_cons_of_pos (decide_eq_true h)

/-- Behind a line that is not due there are none that are. -/
lemma dueCount_eq_zero (hordered : LinesInOrder (line :: lines))
    (h : ¬line.timeMs ≤ positionMs) : dueCount positionMs (line :: lines) = 0 := by
  refine List.countP_eq_zero.mpr fun later hmem hdue => ?_
  have hlater : later.timeMs ≤ positionMs := of_decide_eq_true hdue
  rcases List.mem_cons.mp hmem with rfl | hmem
  · exact h hlater
  · exact h (le_trans (List.rel_of_pairwise_cons hordered hmem) hlater)

/-- There are no more lines that are due than lines. -/
lemma dueCount_le_length (positionMs : ℤ) (lines : List LyricLine) :
    dueCount positionMs lines ≤ lines.length :=
  List.countP_le_length

namespace LyricsParser

/-- The loop of `seekTo` counts the lines that are due, as far as an `int` can. -/
lemma dueIndex_eq (hordered : LinesInOrder lines) (hi : i < 2 ^ 31) (positionMs : ℤ) :
    dueIndex positionMs i (i - 1) lines =
      if i + dueCount positionMs lines < 2 ^ 31 then
        some (i - 1 + dueCount positionMs lines)
      else none := by
  induction lines generalizing i with
  | nil => simpa [dueIndex, dueCount] using hi
  | cons line lines ih =>
    rw [dueIndex]
    split
    · next hdue =>
      rw [dueCount_cons_of_due hdue]
      split
      · next hnext =>
        have hrest := ih (List.Pairwise.of_cons hordered) hnext
        rw [add_sub_cancel_right] at hrest
        rw [hrest]
        push_cast
        congr 1
        · exact propext (by omega)
        · exact congrArg some (by omega)
      · next hover =>
        rw [if_neg]
        push_cast
        omega
    · next hlate =>
      rw [dueCount_eq_zero hordered hlate]
      simpa using hi

/-- The parser at the last line that is due. -/
def atPosition (p : LyricsParser) (positionMs : ℤ) : LyricsParser :=
  { p with index := dueCount positionMs p.lines - 1 }

variable {std : TimeSort} {p p' : LyricsParser}

/-- `seekTo` moves to the last line that is due, and fails when too many are. -/
lemma seekTo_eq (hordered : LinesInOrder p.lines) (hnone : p.lines = [] → p.index = -1)
    (positionMs : ℤ) :
    (p.seekTo positionMs).map Prod.fst =
      if dueCount positionMs p.lines < 2 ^ 31 then some (p.atPosition positionMs) else none := by
  obtain ⟨lines, index, loaded⟩ := p
  by_cases hnil : lines = []
  · obtain rfl : index = -1 := hnone hnil
    simp [seekTo, atPosition, dueCount, hnil]
  · have hdue := dueIndex_eq (i := 0) hordered (by decide) positionMs
    rw [zero_sub] at hdue
    rw [seekTo, if_neg hnil, hdue]
    dsimp only
    by_cases hfits : dueCount positionMs lines < 2 ^ 31
    · rw [if_pos (by omega), if_pos hfits, Option.map_some, Option.map_some]
      by_cases hsame : -1 + (dueCount positionMs lines : ℤ) = index
      · rw [if_neg (not_not.mpr hsame)]
        simp only [atPosition, Option.some.injEq, LyricsParser.mk.injEq, and_true, true_and]
        omega
      · rw [if_pos hsame]
        simp only [atPosition, Option.some.injEq, LyricsParser.mk.injEq, and_true, true_and]
        omega
    · rw [if_neg (by omega), if_neg hfits]
      rfl

/-! ### The index in range -/

/-- The index is that of a line, or `-1`. -/
def IndexInRange (p : LyricsParser) : Prop := -1 ≤ p.index ∧ p.index < p.lines.length

/-- The lines are in order, and the index is that of a line or `-1`; `m_index + 1` is an `int`. -/
structure WellIndexed (p : LyricsParser) : Prop where
  ordered : LinesInOrder p.lines
  range : p.IndexInRange
  fits : p.index + 1 < 2 ^ 31

/-- A new parser is well indexed. -/
lemma wellIndexed_new : new.WellIndexed :=
  ⟨.nil, ⟨le_refl _, neg_one_lt_zero⟩, by decide⟩

/-- Without lines the index is `-1`. -/
lemma IndexInRange.index_of_nil (h : p.IndexInRange) (hnil : p.lines = []) : p.index = -1 := by
  obtain ⟨hlow, hhigh⟩ := h
  rw [hnil, List.length_nil] at hhigh
  omega

/-- Unless it finds too many lines due, a position leads to an index in range. -/
lemma WellIndexed.atPosition (h : p.WellIndexed) {positionMs : ℤ}
    (hfits : dueCount positionMs p.lines < 2 ^ 31) : (p.atPosition positionMs).WellIndexed := by
  have hcount := dueCount_le_length positionMs p.lines
  refine ⟨h.ordered, ⟨?_, ?_⟩, ?_⟩ <;> dsimp only [LyricsParser.atPosition] <;> omega

/-- Loading a file leaves a parser well indexed. -/
lemma WellIndexed.loadFor (h : p.WellIndexed) (lrc : Option Text) :
    (p.loadFor std lrc).1.WellIndexed := by
  cases lrc with
  | none => exact ⟨h.ordered, h.range, h.fits⟩
  | some content =>
    refine ⟨std.ordered _, ⟨le_refl _, ?_⟩, ?_⟩
    · exact neg_one_lt_zero.trans_le (Int.natCast_nonneg _)
    · change (-1 : ℤ) + 1 < 2 ^ 31
      decide

/-! ### Calls -/

lemma next_object_loadFor (p : LyricsParser) (lrc : Option Text) :
    (object std).next (some p) (.loadFor lrc) = some (p.loadFor std lrc).1 := rfl

lemma next_object_reset (p : LyricsParser) :
    (object std).next (some p) .reset = some p.reset.1 := rfl

/-- A call of `seekTo` fails when it finds too many lines due. -/
lemma next_object_seekTo (h : p.WellIndexed) (positionMs : ℤ) :
    (object std).next (some p) (.seekTo positionMs) =
      if dueCount positionMs p.lines < 2 ^ 31 then some (p.atPosition positionMs) else none := by
  have hstep : (object std).next (some p) (.seekTo positionMs) =
      (p.seekTo positionMs).map Prod.fst := by
    unfold Mealy.next object
    dsimp only
    cases p.seekTo positionMs <;> rfl
  rw [hstep, seekTo_eq h.ordered h.range.index_of_nil]

/-- A call that does not fail leaves a parser well indexed. -/
lemma WellIndexed.next (h : p.WellIndexed) {c : LyricsCall}
    (hnext : (object std).next (some p) c = some p') : p'.WellIndexed := by
  cases c with
  | loadFor lrc =>
    rw [next_object_loadFor] at hnext
    exact Option.some.inj hnext ▸ h.loadFor lrc
  | seekTo positionMs =>
    rw [next_object_seekTo h] at hnext
    split at hnext
    · next hfits => exact Option.some.inj hnext ▸ h.atPosition hfits
    · cases hnext
  | reset =>
    rw [next_object_reset] at hnext
    exact Option.some.inj hnext ▸ wellIndexed_new

/-- No position finds `2 ^ 31` lines due. -/
def DueFits (s : Option LyricsParser) (c : LyricsCall) : Prop :=
  ∀ p positionMs, s = some p → c = .seekTo positionMs → dueCount positionMs p.lines < 2 ^ 31

/-- A call fails exactly when it finds too many lines due. -/
lemma exists_next_iff (std : TimeSort) (h : p.WellIndexed) (c : LyricsCall) :
    (∃ p', (object std).next (some p) c = some p') ↔ DueFits (some p) c := by
  cases c with
  | loadFor lrc =>
    refine ⟨fun _ _ _ _ hcall => ?_, fun _ => ⟨_, rfl⟩⟩
    cases hcall
  | seekTo positionMs =>
    rw [next_object_seekTo h]
    constructor
    · rintro ⟨p', hnext⟩ _ _ ⟨rfl⟩ ⟨rfl⟩
      split at hnext
      · assumption
      · cases hnext
    · intro hfits
      exact ⟨_, if_pos (hfits p positionMs rfl rfl)⟩
  | reset =>
    refine ⟨fun _ _ _ _ hcall => ?_, fun _ => ⟨_, rfl⟩⟩
    cases hcall

/-! ### What is meant to hold -/

/-- What is meant to hold after a call: the lines are in order, the index is in range, every line
that is shown exists, and after `seekTo` the lines up to the index are those that are due. -/
def CallLaw (std : TimeSort) (s : Option LyricsParser) (c : LyricsCall) : Prop :=
  ∃ p, (object std).next s c = some p ∧ p.WellIndexed ∧ (p.lines = [] → p.index = -1) ∧
    (p.currentLine ≠ none ∧ p.prevLine ≠ none ∧ p.nextLine ≠ none) ∧
      ∀ positionMs, c = .seekTo positionMs → p.lines ≠ [] →
        p.index + 1 = dueCount positionMs p.lines

/-- The text of a line exists. -/
lemma textAt_ne_none {j : ℤ} (hlow : 0 ≤ j) (hhigh : j < p.lines.length) : p.textAt j ≠ none := by
  have hj : j.toNat < p.lines.length := by omega
  rw [textAt, if_pos hlow, List.getElem?_eq_getElem hj]
  simp

/-- With the index in range every line that is shown exists. -/
lemma IndexInRange.shown (h : p.IndexInRange) :
    p.currentLine ≠ none ∧ p.prevLine ≠ none ∧ p.nextLine ≠ none := by
  obtain ⟨hlow, hhigh⟩ := h
  refine ⟨?_, ?_, ?_⟩
  · unfold currentLine
    split
    · next hin => exact textAt_ne_none hin.1 hin.2
    · simp
  · unfold prevLine
    split
    · next hpos => exact textAt_ne_none (by omega) (by omega)
    · simp
  · unfold nextLine
    split
    · next hin => exact textAt_ne_none (by omega) hin.2
    · simp

/-- A call keeps the law exactly when it does not find too many lines due. -/
lemma callLaw_iff (h : p.WellIndexed) (c : LyricsCall) :
    CallLaw std (some p) c ↔ DueFits (some p) c := by
  rw [← exists_next_iff std h]
  constructor
  · rintro ⟨p', hnext, -⟩
    exact ⟨p', hnext⟩
  · rintro ⟨p', hnext⟩
    have hindexed := h.next hnext
    refine ⟨p', hnext, hindexed, hindexed.range.index_of_nil, hindexed.range.shown, ?_⟩
    rintro positionMs rfl -
    rw [next_object_seekTo h] at hnext
    split at hnext
    · obtain rfl := Option.some.inj hnext
      exact sub_add_cancel _ _
    · cases hnext

end LyricsParser

/-- **Every call keeps the index right exactly when no position finds too many lines due.**  After
each call of a sequence the lines are in order of time, the index is that of a line or `-1`, what
is shown is read from lines that exist, and `seekTo` has counted the lines that are due, if and
only if each call of `seekTo` finds fewer than `2 ^ 31` of them. -/
theorem lyrics_indexed_iff (std : TimeSort) (calls : List LyricsCall) :
    (LyricsParser.object std).Along (LyricsParser.CallLaw std) (some .new) calls ↔
      (LyricsParser.object std).Along LyricsParser.DueFits (some .new) calls := by
  refine Mealy.along_iff_along (I := fun s => ∃ p, s = some p ∧ p.WellIndexed) ?_ ?_
    ⟨_, rfl, LyricsParser.wellIndexed_new⟩ calls
  · rintro _ c ⟨p, rfl, hp⟩
    exact LyricsParser.callLaw_iff hp c
  · rintro _ c ⟨p, rfl, hp⟩ hfits
    obtain ⟨p', hnext⟩ := (LyricsParser.exists_next_iff std hp c).mpr hfits
    exact ⟨p', hnext, hp.next hnext⟩

/-! ### A file with too many lines -/

/-- A line up to its end. -/
lemma readLinesFrom_append {line : Text} (hline : '\n' ∉ line) (front content : Text) :
    readLinesFrom front (line ++ '\n' :: content) =
      dropCarriageReturn (front ++ line) :: readLines content := by
  induction line generalizing front with
  | nil =>
    rw [List.nil_append, readLinesFrom, if_pos rfl, List.append_nil]
    rfl
  | cons c line ih =>
    have hc : c ≠ '\n' := fun h => hline (h ▸ List.mem_cons_self)
    rw [List.cons_append, readLinesFrom, if_neg hc,
      ih (fun hmem => hline (List.mem_cons_of_mem c hmem)), List.append_assoc]
    rfl

/-- The same line, `n` times. -/
def repeated (line : Text) (n : ℕ) : Text := (List.replicate n (line ++ ['\n'])).flatten

lemma readLines_repeated {line : Text} (hline : '\n' ∉ line) (n : ℕ) :
    readLines (repeated line n) = List.replicate n (dropCarriageReturn line) := by
  induction n with
  | zero => rfl
  | succ n ih =>
    have hcons : repeated line (n + 1) = line ++ '\n' :: repeated line n := by
      simp [repeated, List.replicate_succ]
    rw [hcons, readLines, readLinesFrom_append hline, ih, List.nil_append, List.replicate_succ]

/-- A line with a stamp at zero. -/
def zeroLine : Text := "[0:0.0]x".toList

/-- The lines of such a file are all due from the beginning. -/
lemma dueCount_repeated (std : TimeSort) (p : LyricsParser) (n : ℕ) :
    dueCount 0 (p.loadFor std (some (repeated zeroLine n))).1.lines = n := by
  have hperm : (p.loadFor std (some (repeated zeroLine n))).1.lines.Perm
      ((readLines (repeated zeroLine n)).flatMap lineEntries) := std.perm _
  have hentry : lineEntries (dropCarriageReturn zeroLine) = [⟨0, ['x']⟩] := by decide +kernel
  have hlines : (readLines (repeated zeroLine n)).flatMap lineEntries =
      List.replicate n ⟨0, ['x']⟩ := by
    rw [readLines_repeated (by decide)]
    induction n with
    | zero => rfl
    | succ n ih =>
      rw [List.replicate_succ, List.flatMap_cons, hentry, ih (std.perm _)]
      rfl
  rw [dueCount, hperm.countP_eq, hlines, List.countP_replicate]
  rfl

/-- With too many lines in the file `seekTo` counts beyond the range of an `int`. -/
lemma not_callLaw_repeated (std : TimeSort) {n : ℕ} (hn : 2 ^ 31 ≤ n) :
    ¬(LyricsParser.object std).Along (LyricsParser.CallLaw std) (some .new)
      [.loadFor (some (repeated zeroLine n)), .seekTo 0] := by
  rintro ⟨-, hseek, -⟩
  rw [LyricsParser.next_object_loadFor] at hseek
  have hfits := (LyricsParser.callLaw_iff (LyricsParser.wellIndexed_new.loadFor _) _).mp hseek
  have hless := hfits _ 0 rfl rfl
  rw [dueCount_repeated] at hless
  omega

/-- A file of `2 ^ 31` lines that are all due from the beginning. -/
theorem seekTo_index_overflow :
    ¬(LyricsParser.object .insertion).Along (LyricsParser.CallLaw .insertion) (some .new)
      [.loadFor (some (repeated zeroLine (2 ^ 31))), .seekTo 0] :=
  not_callLaw_repeated .insertion (Nat.le_refl _)

end SystemsDemos
