import SystemsDemos.Lyrics.Due

/-!
# Whether lyrics are loaded

`m_loaded` is meant to say whether there are lines, and a parser that has none loaded is meant to
show nothing.  A load that fails clears `m_loaded` and keeps the lines and the index of the track
before, so both hold throughout a sequence of calls exactly when no load fails while lines are
loaded and the `int` of `seekTo` does not overflow (`lyrics_loaded_iff`).

### Outline

* `HonestlyLoaded`, and what a call does to it;
* `lyrics_loaded_iff`, and a failed load that shows the track before.
-/

namespace SystemsDemos

namespace LyricsParser

variable {std : TimeSort} {p : LyricsParser}

/-- `loaded()` says whether there are lines, and without it no line is shown. -/
def HonestlyLoaded (p : LyricsParser) : Prop :=
  (p.loaded = true ↔ p.lines ≠ []) ∧
    (p.loaded = false →
      p.currentLine = some [] ∧ p.prevLine = some [] ∧ p.nextLine = some [])

/-- No line is shown at the index `-1`. -/
lemma shows_nothing (h : p.index = -1) :
    p.currentLine = some [] ∧ p.prevLine = some [] ∧ p.nextLine = some [] := by
  simp [currentLine, prevLine, nextLine, h]

/-- A parser without lines that says so is honest. -/
lemma HonestlyLoaded.of_empty (hlines : p.lines = []) (hloaded : p.loaded = false)
    (hrange : p.IndexInRange) : p.HonestlyLoaded := by
  refine ⟨by simp [hlines, hloaded], fun _ => shows_nothing ?_⟩
  obtain ⟨hlow, hhigh⟩ := hrange
  rw [hlines, List.length_nil] at hhigh
  omega

/-- A parser that says it is loaded and has lines is honest. -/
lemma HonestlyLoaded.of_lines (hlines : p.lines ≠ []) (hloaded : p.loaded = true) :
    p.HonestlyLoaded :=
  ⟨⟨fun _ => hlines, fun _ => hloaded⟩, fun h => absurd hloaded (by simp [h])⟩

/-- No call has failed, and the parser is honest. -/
def StaysHonest (s : Option LyricsParser) : Prop := ∃ p, s = some p ∧ p.HonestlyLoaded

/-- A load that does not find its file finds no lines loaded. -/
def FailsEmpty (s : Option LyricsParser) (c : LyricsCall) : Prop :=
  ∀ p, s = some p → c = .loadFor none → p.lines = []

/-- An honest parser stays honest unless a load fails that finds lines loaded, or a position finds
too many lines due. -/
lemma HonestlyLoaded.next_iff (h : p.HonestlyLoaded) (hindexed : p.WellIndexed) (c : LyricsCall) :
    StaysHonest ((object std).next (some p) c) ↔ FailsEmpty (some p) c ∧ DueFits (some p) c := by
  rw [← exists_next_iff std hindexed]
  constructor
  · rintro ⟨p', hnext, hhonest⟩
    refine ⟨?_, p', hnext⟩
    rintro _ ⟨rfl⟩ rfl
    rw [next_object_loadFor] at hnext
    obtain rfl := Option.some.inj hnext
    by_contra hne
    have hfalse : false = true := hhonest.1.mpr hne
    cases hfalse
  · rintro ⟨hempty, p', hnext⟩
    have hindexed' := hindexed.next hnext
    refine ⟨p', hnext, ?_⟩
    cases c with
    | loadFor lrc =>
      rw [next_object_loadFor] at hnext
      obtain rfl := Option.some.inj hnext
      cases lrc with
      | none => exact .of_empty (hempty p rfl rfl) rfl hindexed'.range
      | some content =>
        by_cases hlines : std.sort ((readLines content).flatMap lineEntries) = []
        · exact .of_empty hlines (by simp [loadFor, hlines]) hindexed'.range
        · exact .of_lines hlines (by simp [loadFor, hlines])
    | seekTo positionMs =>
      rw [next_object_seekTo hindexed] at hnext
      split at hnext
      · obtain rfl := Option.some.inj hnext
        by_cases hlines : p.lines = []
        · have hloaded : p.loaded = false := by simpa [hlines] using h.1
          exact .of_empty hlines hloaded hindexed'.range
        · exact .of_lines hlines (h.1.mpr hlines)
      · cases hnext
    | reset =>
      rw [next_object_reset] at hnext
      obtain rfl := Option.some.inj hnext
      exact .of_empty rfl rfl hindexed'.range

end LyricsParser

/-- **The lyrics are honest throughout exactly when no load fails while lines are loaded**, and no
position finds too many lines due.  After every call `loaded()` says whether there are lines, and a
parser without loaded lyrics shows nothing, if and only if each `loadFor` that does not find its
file finds `m_lines` empty and each call of `seekTo` finds fewer than `2 ^ 31` lines due. -/
theorem lyrics_loaded_iff (std : TimeSort) (calls : List LyricsCall) :
    (LyricsParser.object std).Throughout LyricsParser.StaysHonest (some .new) calls ↔
      (LyricsParser.object std).Along
        (fun s c => LyricsParser.FailsEmpty s c ∧ LyricsParser.DueFits s c) (some .new) calls := by
  have hindexed : (LyricsParser.object std).Throughout
      (fun s => ∀ p, s = some p → p.WellIndexed) (some .new) calls := by
    refine Mealy.throughout_of_invariant (fun s c h p' hnext => ?_) ?_ calls
    · cases s with
      | none => cases hnext
      | some p => exact (h p rfl).next hnext
    · rintro _ ⟨rfl⟩
      exact LyricsParser.wellIndexed_new
  have hboth := Mealy.throughout_iff_along (M := LyricsParser.object std)
    (I := fun s => LyricsParser.StaysHonest s ∧ ∀ p, s = some p → p.WellIndexed)
    (C := fun s c => LyricsParser.FailsEmpty s c ∧ LyricsParser.DueFits s c) ?_
    (s := some .new) ⟨⟨_, rfl, .of_empty rfl rfl LyricsParser.wellIndexed_new.range⟩, ?_⟩ calls
  · rw [← hboth, Mealy.throughout_and]
    exact (and_iff_left hindexed).symm
  · rintro _ c ⟨⟨p, rfl, hhonest⟩, hwell⟩
    rw [← hhonest.next_iff (hwell p rfl)]
    exact and_iff_left fun p' hnext => (hwell p rfl).next hnext
  · rintro _ ⟨rfl⟩
    exact LyricsParser.wellIndexed_new

/-- A track with lyrics, a position in it, and a track without lyrics: the line of the first track
is still shown. -/
theorem lyrics_of_the_track_before :
    ¬∀ (std : TimeSort) (calls : List LyricsCall),
      (LyricsParser.object std).Throughout LyricsParser.StaysHonest (some .new) calls := by
  intro h
  obtain ⟨p, hlast, hhonest⟩ := (h .insertion
    [.loadFor (some "[00:01.00]first".toList), .seekTo 2000, .loadFor none]).2.2.2
  have hafter : (LyricsParser.object .insertion).after (some .new)
      [.loadFor (some "[00:01.00]first".toList), .seekTo 2000, .loadFor none] =
      some ⟨[⟨1000, "first".toList⟩], 0, false⟩ := by decide +kernel
  obtain rfl := Option.some.inj (hlast.symm.trans hafter)
  exact absurd (hhonest.2 rfl).1 (by decide)

end SystemsDemos
