import SystemsDemos.Lyrics.Stamps
import SystemsDemos.Text.Fraction
import SystemsDemos.Transition.Mealy
import Mathlib.Data.List.Sort

/-!
# The lyrics parser

`LyricsParser` of the music visualizer: `loadFor` reads the `.lrc` file next to a track, `seekTo`
moves to the last line that is due, and the window shows the line before it, the line itself and
the line after it.  A file is the text that `QTextStream` decodes from it, or absent.  `seekTo`
counts lines with an `int`, and a call in which the `int` overflows has no result.

### Outline

* `LyricLine`, the time of a stamp, and `TimeSort`;
* `LyricsParser` with `loadFor`, `seekTo`, `reset` and the three lines that are shown;
* `LyricsCall` and the parser `LyricsParser.object` that answers calls until one of them fails.
-/

namespace SystemsDemos

/-! ### Times -/

/-- `Line`: a time in milliseconds and its text. -/
structure LyricLine where
  timeMs : ℤ
  text : Text
  deriving DecidableEq

/-- The value of a 64-bit variable after a computation. -/
def int64 (n : ℤ) : ℤ := n.bmod (2 ^ 64)

/-- `QString::toLongLong` on a text of digits: `0` when the number does not fit. -/
def toLongLong (digits : Text) : ℤ :=
  if numeral 10 digits < 2 ^ 63 then numeral 10 digits else 0

/-- `leftJustified(3, '0').left(3)`. -/
def threeDigits (digits : Text) : Text := firstDigits 3 digits

/-- The time that `loadFor` computes for a stamp. -/
def Stamp.ms (stamp : Stamp) : ℤ :=
  int64 (toLongLong stamp.minutes * 60000 + toLongLong stamp.seconds * 1000 +
    toLongLong (threeDigits stamp.fraction))

/-- `std::sort` by time.  Lines with the same time may come in any order. -/
structure TimeSort where
  sort : List LyricLine → List LyricLine
  perm : ∀ lines, (sort lines).Perm lines
  ordered : ∀ lines, (sort lines).Pairwise fun a b => a.timeMs ≤ b.timeMs

/-- Insertion sort is one way to sort. -/
def TimeSort.insertion : TimeSort where
  sort := List.insertionSort fun a b => a.timeMs ≤ b.timeMs
  perm lines := List.perm_insertionSort _ lines
  ordered lines := by
    have : Std.Total fun a b : LyricLine => a.timeMs ≤ b.timeMs :=
      ⟨fun a b => le_total a.timeMs b.timeMs⟩
    have : IsTrans LyricLine fun a b => a.timeMs ≤ b.timeMs :=
      ⟨fun _ _ _ hab hbc => le_trans hab hbc⟩
    exact List.pairwise_insertionSort _ lines

/-! ### Reading a file -/

/-- What `readLine` takes off the end of a line. -/
def dropCarriageReturn (line : Text) : Text :=
  if line.getLast? = some '\r' then line.dropLast else line

/-- The lines of a text, where `line` is what has been read of the first one. -/
def readLinesFrom (line : Text) : Text → List Text
  | [] => if line = [] then [] else [line]
  | c :: s =>
      if c = '\n' then dropCarriageReturn line :: readLinesFrom [] s
      else readLinesFrom (line ++ [c]) s

/-- `readLine` until `atEnd`. -/
def readLines (content : Text) : List Text := readLinesFrom [] content

/-- The entries that `loadFor` makes of a line. -/
def lineEntries (line : Text) : List LyricLine :=
  let raw := trimmed line
  -- the trimmed copy that `text.remove(re).trimmed()` returns is not used
  let text := removeMatches raw
  (globalMatch raw).filterMap fun stamp =>
    if text ≠ [] then some ⟨stamp.ms, trimmed text⟩ else none

/-! ### The parser -/

/-- The loaded lines, the index of the line that is due, and whether lyrics are loaded. -/
structure LyricsParser where
  lines : List LyricLine
  index : ℤ
  loaded : Bool
  deriving DecidableEq

/-- The signals of the parser. -/
inductive LyricsSignal
  | loadedChanged
  | lyricsChanged
  deriving DecidableEq

namespace LyricsParser

/-- A new parser. -/
def new : LyricsParser := ⟨[], -1, false⟩

/-- `loadFor`, with the text of the `.lrc` file, or `none` when it cannot be opened. -/
def loadFor (std : TimeSort) (p : LyricsParser) (lrc : Option Text) :
    LyricsParser × Bool × List LyricsSignal :=
  match lrc with
  | none => ({ p with loaded := false }, false, [.loadedChanged])
  | some content =>
      let lines := std.sort ((readLines content).flatMap lineEntries)
      let loaded := !lines.isEmpty
      (⟨lines, -1, loaded⟩, loaded, [.loadedChanged, .lyricsChanged])

/-- The loop of `seekTo` from line `i` on, where `idx` is the last line that was due; it fails when
`i++` overflows. -/
def dueIndex (positionMs : ℤ) (i idx : ℤ) : List LyricLine → Option ℤ
  | [] => some idx
  | line :: rest =>
      if line.timeMs ≤ positionMs then
        if i + 1 < 2 ^ 31 then dueIndex positionMs (i + 1) i rest else none
      else some idx

/-- `seekTo`, which fails when its loop does. -/
def seekTo (p : LyricsParser) (positionMs : ℤ) : Option (LyricsParser × List LyricsSignal) :=
  if p.lines = [] then some (p, [])
  else (dueIndex positionMs 0 (-1) p.lines).map fun idx =>
    if idx ≠ p.index then ({ p with index := idx }, [.lyricsChanged]) else (p, [])

/-- `reset`. -/
def reset (_ : LyricsParser) : LyricsParser × List LyricsSignal :=
  (⟨[], -1, false⟩, [.loadedChanged, .lyricsChanged])

/-- `m_lines[i].text`; there is no element outside of the vector, and an access to one is undefined
behaviour. -/
def textAt (p : LyricsParser) (i : ℤ) : Option Text :=
  if 0 ≤ i then (p.lines[i.toNat]?).map LyricLine.text else none

/-- `currentLine`. -/
def currentLine (p : LyricsParser) : Option Text :=
  if p.index ≥ 0 ∧ p.index < p.lines.length then p.textAt p.index else some []

/-- `prevLine`, which checks the index against `0` only. -/
def prevLine (p : LyricsParser) : Option Text :=
  if p.index > 0 then p.textAt (p.index - 1) else some []

/-- `nextLine`. -/
def nextLine (p : LyricsParser) : Option Text :=
  if p.index ≥ 0 ∧ p.index + 1 < p.lines.length then p.textAt (p.index + 1) else some []

end LyricsParser

/-! ### Sequences of calls -/

/-- A call of a member function. -/
inductive LyricsCall
  | loadFor (lrc : Option Text)
  | seekTo (positionMs : ℤ)
  | reset
  deriving DecidableEq

/-- The result of a call and the signals it emits. -/
structure LyricsAnswer where
  returned : Option Bool
  signals : List LyricsSignal
  deriving DecidableEq

/-- The parser as an object that answers calls, until one of them fails. -/
def LyricsParser.object (std : TimeSort) : Mealy (Option LyricsParser) LyricsCall LyricsAnswer where
  step
    | none, _ => (none, ⟨none, []⟩)
    | some p, .loadFor lrc =>
        let (after, loaded, signals) := p.loadFor std lrc
        (some after, ⟨some loaded, signals⟩)
    | some p, .seekTo positionMs =>
        match p.seekTo positionMs with
        | none => (none, ⟨none, []⟩)
        | some (after, signals) => (some after, ⟨none, signals⟩)
    | some p, .reset => (some p.reset.1, ⟨none, p.reset.2⟩)

end SystemsDemos
