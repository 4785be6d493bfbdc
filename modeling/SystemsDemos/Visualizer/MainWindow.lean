import SystemsDemos.AudioAnalyzer.Seek
import SystemsDemos.Lyrics.Due
import SystemsDemos.Transition.History
import SystemsDemos.Visualizer.Library

/-!
# The window of the music visualizer

`Main.qml` joins the parts of the program: `loadTrack` clears the lyrics, loads those of the track
and starts the analyzer; when the analyzer has come to the end of a file, the player starts to play
it; the position of the player moves the lyrics, and a timer moves the spectrum.  While a track is
analyzed the player goes on with the one before.  What the player and the user do is up to the
actions.  A call whose behaviour is undefined ends the run.

### Outline

* `MainWindow` and its step function;
* `Opened`, the track that was opened last;
* `ShowsTrack`, what the window says about it;
* `mainWindow_showsTrack`, over all runs.
-/

namespace SystemsDemos

open AudioAnalyzer

/-! ### The window -/

/-- `player`: what the window makes it play, and whether it does. -/
structure MediaPlayer where
  source : Url
  playing : Bool
  deriving DecidableEq

/-- What the window is built with: the floating-point work on the samples and on what is shown,
where `blank` is shown at first, the sort of the lyrics and the order of the names in a folder. -/
structure WindowSetup (σ β γ δ : Type) where
  dsp : Dsp (Url × σ) β γ
  fade : Frame β γ → δ → δ × Bool
  blank : δ
  std : TimeSort
  order : EntryOrder

/-- The parts of the window and its properties; `shown` stands for the spectrum and the waveform. -/
structure MainWindow (σ β γ δ : Type) where
  library : MusicLibrary
  analyzer : AnalyzerProcess σ β γ
  shown : δ
  lyrics : LyricsParser
  player : MediaPlayer
  currentAudioUrl : Url
  currentCoverUrl : Url
  currentName : Text
  statusText : String
  lastVisualUpdateMs : ℤ

/-- What can happen. -/
inductive WindowAct (σ : Type)
  /-- The library is told to scan a folder, at the start or by the folder dialog. -/
  | scan (call : LibraryCall)
  /-- A click on a row, with the disk and with what `NcmDecoder::decode` returns if it is called. -/
  | click (row : ℕ) (disk : Disk) (decoded : Url)
  /-- A file is chosen in the file dialog. -/
  | openFile (file : Url) (disk : Disk) (decoded : Url)
  /-- The decoder of the analyzer makes a buffer available. -/
  | decode (samples : List σ)
  | bufferReady
  | finished
  /-- `onPositionChanged`. -/
  | positionChanged (position : ℤ)
  /-- The player starts, stops or pauses. -/
  | playbackChanged (playing : Bool)
  /-- The timer, with the position of the player. -/
  | timer (position : ℤ)
  /-- A click on one of the modes. -/
  | mode

variable {σ β γ δ : Type}

namespace MainWindow

/-- The handlers of the signals of the analyzer, where `busy` is what the property says. -/
def onSignal (w : MainWindow σ β γ δ) (busy : Bool) : AnalyzerSignal → MainWindow σ β γ δ
  | .spectrumChanged => w
  | .busyChanged => if busy then { w with statusText := "Analyzing…" } else w
  | .analysisComplete sourceUrl => { w with statusText := "", player := ⟨sourceUrl, true⟩ }
  | .analysisFailed message => { w with statusText := message }

/-- The handlers of the signals of a call, where `busy` is what the property says when the call
returns.  A `busyChanged` with another one behind it has been emitted while it was set. -/
def onSignals (w : MainWindow σ β γ δ) (busy : Bool) : List AnalyzerSignal → MainWindow σ β γ δ
  | [] => w
  | signal :: later =>
      onSignals (w.onSignal (busy || decide (.busyChanged ∈ later)) signal) busy later

variable (env : WindowSetup σ β γ δ)

/-- A step of the analyzer and its decoder. -/
def runAnalyzer (w : MainWindow σ β γ δ) (a : AnalyzerAction σ) :
    Option (MainWindow σ β γ δ × List AnalyzerSignal) :=
  match w.analyzer.step env.dsp a with
  | none => none
  | some (analyzer, signals) =>
      some (onSignals { w with analyzer := analyzer } analyzer.analyzer.busy signals, signals)

/-- `loadTrack`. -/
def loadTrack (w : MainWindow σ β γ δ) (audioUrl : Url) (lrcPath : Text) (coverUrl : Url)
    (name : Text) (disk : Disk) (decoded : Url) :
    Option (MainWindow σ β γ δ × List AnalyzerSignal) :=
  let lyrics := w.lyrics.reset.1
  let loaded := { w with
    currentAudioUrl := audioUrl
    currentCoverUrl := coverUrl
    currentName := if name = [] then fileName audioUrl else name
    lyrics :=
      if lrcPath = [] then lyrics
      else (lyrics.loadFor env.std (disk.content (lrcPathOf lrcPath))).1
    -- `analyzeFile` fills the spectrum and the waveform with zeros
    shown := env.blank }
  runAnalyzer env loaded (.analyzeFile audioUrl decoded)

/-- `analyzer.seekTo`. -/
def seekTo (w : MainWindow σ β γ δ) (position : ℤ) :
    Option (MainWindow σ β γ δ × List AnalyzerSignal) :=
  match w.analyzer.analyzer.seekTo env.fade w.shown position with
  | none => none
  | some (shown, signals) => some ({ w with shown := shown }, signals)

/-- One step of the window. -/
def step (w : MainWindow σ β γ δ) :
    WindowAct σ → Option (MainWindow σ β γ δ × List AnalyzerSignal)
  | .scan call =>
      some ({ w with library := (MusicLibrary.object env.order).next w.library call }, [])
  | .click row disk decoded =>
      match w.library.data row .audioUrl, w.library.data row .lrcPath,
        w.library.data row .name with
      | some audioUrl, some lrcPath, some name =>
          let coverUrl := (w.library.data row .coverUrl).getD []
          loadTrack env w audioUrl lrcPath coverUrl name disk decoded
      | _, _, _ => none
  | .openFile file disk decoded => loadTrack env w file [] [] [] disk decoded
  | .decode samples => runAnalyzer env w (.decode samples)
  | .bufferReady => runAnalyzer env w .bufferReady
  | .finished => runAnalyzer env w .finished
  | .positionChanged position =>
      match w.lyrics.seekTo position with
      | none => none
      | some (lyrics, _) => some ({ w with lyrics := lyrics }, [])
  | .playbackChanged playing => some ({ w with player := { w.player with playing := playing } }, [])
  | .timer position =>
      if w.player.playing then seekTo env { w with lastVisualUpdateMs := position } position
      else none
  | .mode =>
      if 0 ≤ w.lastVisualUpdateMs then seekTo env w w.lastVisualUpdateMs else some (w, [])

/-- The window when it opens. -/
def start : MainWindow σ β γ δ where
  library := ⟨[]⟩
  analyzer := .start
  shown := env.blank
  lyrics := .new
  player := ⟨[], false⟩
  currentAudioUrl := []
  currentCoverUrl := []
  currentName := "Music Visualizer".toList
  statusText := ""
  lastVisualUpdateMs := -1

end MainWindow

/-- The window. -/
def mainWindow (env : WindowSetup σ β γ δ) :
    System (MainWindow σ β γ δ) (WindowAct σ) AnalyzerSignal where
  init w := w = .start env
  step := MainWindow.step env

/-- The transitions of the window. -/
abbrev WindowTransition (σ β γ δ : Type) :=
  Transition (MainWindow σ β γ δ) (WindowAct σ) AnalyzerSignal

/-! ### The track that is open -/

/-- A track that is opened: the arguments of `loadTrack`, the disk as it is found, what
`NcmDecoder::decode` returns, and what the decoder is at work on before. -/
structure Opened (σ : Type) where
  track : Track
  disk : Disk
  decoded : Url
  decoder : AudioDecoder σ

namespace Opened

/-- The file that is analyzed; `none` when it cannot be decoded. -/
def source (o : Opened σ) : Option Url := resolve o.track.audioPath o.decoded

/-- The lines of the lyrics; there are none without a file. -/
def lines (std : TimeSort) (o : Opened σ) : List LyricLine :=
  if o.track.lrcPath = [] then []
  else
    match o.disk.content (lrcPathOf o.track.lrcPath) with
    | none => []
    | some content => std.sort ((readLines content).flatMap lineEntries)

/-- The lyrics at a position, if there has been one. -/
def lyricsAt (std : TimeSort) (o : Opened σ) (position : Option ℤ) : LyricsParser where
  lines := o.lines std
  index := (position.elim 0 fun positionMs => dueCount positionMs (o.lines std)) - 1
  loaded := !(o.lines std).isEmpty

end Opened

/-- The track that a transition opens. -/
def opened? (t : WindowTransition σ β γ δ) : Option (Opened σ) :=
  match t.act with
  | .click row disk decoded =>
      t.pre.library.tracks[row]?.map fun track => ⟨track, disk, decoded, t.pre.analyzer.decoder⟩
  | .openFile file disk decoded =>
      some ⟨⟨[], file, [], []⟩, disk, decoded, t.pre.analyzer.decoder⟩
  | _ => none

/-- The track that was opened last. -/
def lastOpened (ts : List (WindowTransition σ β γ δ)) : Option (Opened σ) :=
  (ts.filterMap opened?).getLast?

/-- The last position of the player, after one more transition: a position from before the track
was opened does not count. -/
def positionAfter (position : Option ℤ) (t : WindowTransition σ β γ δ) : Option ℤ :=
  match t.act with
  | .click _ _ _ => none
  | .openFile _ _ _ => none
  | .positionChanged positionMs => some positionMs
  | _ => position

/-- The last position of the player since the track was opened. -/
def lastPosition (ts : List (WindowTransition σ β γ δ)) : Option ℤ := ts.foldl positionAfter none

/-- The window shows the track that was opened last.  Once its analysis has come to its end the
player plays it; until then the player may be at another one.  The promises about a file that
cannot be decoded are made if the decoder was idle when it was opened. -/
structure ShowsTrack (env : WindowSetup σ β γ δ) (o : Opened σ) (position : Option ℤ)
    (w : MainWindow σ β γ δ) : Prop where
  title : w.currentAudioUrl = o.track.audioPath ∧ w.currentCoverUrl = o.track.coverPath ∧
    w.currentName = if o.track.name = [] then fileName o.track.audioPath else o.track.name
  /-- The lyrics are those next to the audio file. -/
  beside : o.track.lrcPath ≠ [] → lrcPathOf o.track.lrcPath = lrcPathOf o.track.audioPath
  lyrics : w.lyrics = o.lyricsAt env.std position
  frames : ∀ src, o.source = some src →
    ∀ frame ∈ w.analyzer.analyzer.frames, StemsFrom env.dsp src frame
  /-- Nothing is left on the screen of the track before. -/
  shown : ∀ src, o.source = some src → ∃ frames : List (Frame β γ),
    (∀ frame ∈ frames, StemsFrom env.dsp src frame) ∧
      w.shown = frames.foldl (fun shown frame => (env.fade frame shown).1) env.blank
  decoding : ∀ src, o.source = some src →
    w.analyzer.analyzer.busy = w.analyzer.decoder.decoding
  status : ∀ src, o.source = some src →
    w.statusText = if w.analyzer.analyzer.busy then "Analyzing…" else ""
  player : ∀ src, o.source = some src → w.analyzer.analyzer.busy = false → w.player.source = src
  failed : o.source = none → o.decoder.Idle →
    w.analyzer.decoder.Idle ∧ w.analyzer.analyzer.frames = [] ∧ w.shown = env.blank ∧
      w.statusText = "NCM decode failed"

/-! ### What a step can do -/

/-- The action opens the track. -/
inductive Opens (w : MainWindow σ β γ δ) : WindowAct σ → Opened σ → Prop
  | click {row : ℕ} {disk : Disk} {decoded : Url} {track : Track}
      (htrack : w.library.tracks[row]? = some track) :
      Opens w (.click row disk decoded) ⟨track, disk, decoded, w.analyzer.decoder⟩
  | openFile {file : Url} {disk : Disk} {decoded : Url} :
      Opens w (.openFile file disk decoded) ⟨⟨[], file, [], []⟩, disk, decoded, w.analyzer.decoder⟩

namespace MainWindow

variable {env : WindowSetup σ β γ δ} {w w' : MainWindow σ β γ δ} {act : WindowAct σ}
  {out : List AnalyzerSignal}

/-- The steps of the window. -/
inductive Moves (env : WindowSetup σ β γ δ) (w : MainWindow σ β γ δ) :
    WindowAct σ → MainWindow σ β γ δ → Prop
  | scans (call : LibraryCall) :
      Moves env w (.scan call)
        { w with library := (MusicLibrary.object env.order).next w.library call }
  | opens {act : WindowAct σ} {o : Opened σ} {analyzer : AnalyzerProcess σ β γ}
      {signals : List AnalyzerSignal} (hopens : Opens w act o)
      (hstep : w.analyzer.step env.dsp (.analyzeFile o.track.audioPath o.decoded) =
        some (analyzer, signals)) :
      Moves env w act { w with
        analyzer := analyzer
        shown := env.blank
        lyrics := o.lyricsAt env.std none
        currentAudioUrl := o.track.audioPath
        currentCoverUrl := o.track.coverPath
        currentName := if o.track.name = [] then fileName o.track.audioPath else o.track.name
        statusText := if o.source.isSome then "Analyzing…" else "NCM decode failed" }
  | decodes {samples : List σ} {analyzer : AnalyzerProcess σ β γ}
      (hstep : w.analyzer.step env.dsp (.decode samples) = some (analyzer, [])) :
      Moves env w (.decode samples) { w with analyzer := analyzer }
  | reads {analyzer : AnalyzerProcess σ β γ}
      (hstep : w.analyzer.step env.dsp .bufferReady = some (analyzer, [])) :
      Moves env w .bufferReady { w with analyzer := analyzer }
  | ends {analyzer : AnalyzerProcess σ β γ} {signals : List AnalyzerSignal}
      (hstep : w.analyzer.step env.dsp .finished = some (analyzer, signals)) :
      Moves env w .finished { w with
        analyzer := analyzer
        statusText := ""
        player := ⟨w.analyzer.analyzer.sourceUrl, true⟩ }
  | moves {position : ℤ} {lyrics : LyricsParser} {signals : List LyricsSignal}
      (hseek : w.lyrics.seekTo position = some (lyrics, signals)) :
      Moves env w (.positionChanged position) { w with lyrics := lyrics }
  | plays (playing : Bool) :
      Moves env w (.playbackChanged playing)
        { w with player := { w.player with playing := playing } }
  | ticks {position : ℤ} {shown : δ} {signals : List AnalyzerSignal}
      (hseek : w.analyzer.analyzer.seekTo env.fade w.shown position = some (shown, signals)) :
      Moves env w (.timer position) { w with shown := shown, lastVisualUpdateMs := position }
  | redraws {shown : δ} {signals : List AnalyzerSignal}
      (hseek : w.analyzer.analyzer.seekTo env.fade w.shown w.lastVisualUpdateMs =
        some (shown, signals)) :
      Moves env w .mode { w with shown := shown }
  | rests : Moves env w .mode w

/-- The lyrics after `reset` and `loadFor`. -/
lemma lyricsAt_none (std : TimeSort) (o : Opened σ) (p : LyricsParser) :
    (if o.track.lrcPath = [] then p.reset.1
      else (p.reset.1.loadFor std (o.disk.content (lrcPathOf o.track.lrcPath))).1) =
        o.lyricsAt std none := by
  unfold Opened.lyricsAt Opened.lines
  split
  · rfl
  · cases o.disk.content (lrcPathOf o.track.lrcPath) with
    | none => rfl
    | some content => rfl

/-- What `loadTrack` does. -/
lemma moves_of_loadTrack {o : Opened σ} (hopens : Opens w act o)
    (h : loadTrack env w o.track.audioPath o.track.lrcPath o.track.coverPath o.track.name o.disk
      o.decoded = some (w', out)) : Moves env w act w' := by
  unfold loadTrack runAnalyzer at h
  dsimp only at h
  rw [lyricsAt_none] at h
  have hopened := @Moves.opens σ β γ δ env w act o
  simp only [AnalyzerProcess.step, analyzeFile] at h hopened
  rw [Opened.source] at hopened
  cases hresolve : resolve o.track.audioPath o.decoded with
  | none =>
    rw [hresolve] at h hopened
    obtain ⟨rfl, -⟩ := Prod.mk.inj (Option.some.inj h)
    exact hopened hopens rfl
  | some src =>
    rw [hresolve] at h hopened
    obtain ⟨rfl, -⟩ := Prod.mk.inj (Option.some.inj h)
    exact hopened hopens rfl

/-- The cases of a step. -/
lemma moves_of_step (h : (mainWindow env).step w act = some (w', out)) : Moves env w act w' := by
  change w.step env act = some (w', out) at h
  cases act with
  | scan call =>
    obtain ⟨rfl, -⟩ := Prod.mk.inj (Option.some.inj h)
    exact .scans call
  | click row disk decoded =>
    rw [step, MusicLibrary.data, MusicLibrary.data, MusicLibrary.data, MusicLibrary.data] at h
    cases htrack : w.library.tracks[row]? with
    | none => simp [htrack] at h
    | some track =>
      simp only [htrack] at h
      have hcover : (if track.coverPath = [] then none else some track.coverPath).getD [] =
          track.coverPath := by
        by_cases hnil : track.coverPath = [] <;> simp [hnil]
      rw [hcover] at h
      exact moves_of_loadTrack (.click htrack) h
  | openFile file disk decoded => exact moves_of_loadTrack .openFile h
  | decode samples =>
    rw [step, runAnalyzer] at h
    split at h
    · cases h
    · next analyzer signals hstep =>
      obtain ⟨rfl, -⟩ := Prod.mk.inj (Option.some.inj h)
      have hsilent : signals = [] := by
        rw [AnalyzerProcess.step] at hstep
        split at hstep
        · exact (Prod.mk.inj (Option.some.inj hstep)).2.symm
        · cases hstep
      subst hsilent
      exact .decodes hstep
  | bufferReady =>
    rw [step, runAnalyzer] at h
    split at h
    · cases h
    · next analyzer signals hstep =>
      obtain ⟨rfl, -⟩ := Prod.mk.inj (Option.some.inj h)
      have hsilent : signals = [] := by
        rw [AnalyzerProcess.step] at hstep
        split at hstep
        · cases hstep
        · exact (Prod.mk.inj (Option.some.inj hstep)).2.symm
      subst hsilent
      exact .reads hstep
  | finished =>
    rw [step, runAnalyzer] at h
    split at h
    · cases h
    · next analyzer signals hstep =>
      obtain ⟨rfl, -⟩ := Prod.mk.inj (Option.some.inj h)
      have hended := @Moves.ends σ β γ δ env w analyzer signals hstep
      rw [AnalyzerProcess.step] at hstep
      split at hstep
      · obtain ⟨rfl, rfl⟩ := Prod.mk.inj (Option.some.inj hstep)
        exact hended
      · cases hstep
  | positionChanged position =>
    rw [step] at h
    split at h
    · cases h
    · next lyrics signals hseek =>
      obtain ⟨rfl, -⟩ := Prod.mk.inj (Option.some.inj h)
      exact .moves hseek
  | playbackChanged playing =>
    obtain ⟨rfl, -⟩ := Prod.mk.inj (Option.some.inj h)
    exact .plays playing
  | timer position =>
    rw [step] at h
    split at h
    · rw [seekTo] at h
      split at h
      · cases h
      · next shown signals hseek =>
        obtain ⟨rfl, -⟩ := Prod.mk.inj (Option.some.inj h)
        exact .ticks hseek
    · cases h
  | mode =>
    rw [step] at h
    split at h
    · rw [seekTo] at h
      split at h
      · cases h
      · next shown signals hseek =>
        obtain ⟨rfl, -⟩ := Prod.mk.inj (Option.some.inj h)
        exact .redraws hseek
    · obtain ⟨rfl, -⟩ := Prod.mk.inj (Option.some.inj h)
      exact .rests

end MainWindow

/-! ### What the analyzer and the lyrics do -/

section Parts

variable {dsp : Dsp (Url × σ) β γ} {s s' : AnalyzerProcess σ β γ} {out : List AnalyzerSignal}

/-- A file that is opened makes the analyzer and the decoder busy, unless it cannot be decoded. -/
lemma AnalyzerProcess.step_analyzeFile {url decoded : Url}
    (h : s.step dsp (.analyzeFile url decoded) = some (s', out)) :
    s'.analyzer.frames = [] ∧
      (∀ src, resolve url decoded = some src →
        s'.analyzer.busy = true ∧ s'.decoder.decoding = true) ∧
      (resolve url decoded = none → s'.decoder = s.decoder) := by
  simp only [AnalyzerProcess.step, analyzeFile] at h
  cases hresolve : resolve url decoded with
  | none =>
    rw [hresolve] at h
    obtain ⟨rfl, -⟩ := Prod.mk.inj (Option.some.inj h)
    refine ⟨rfl, fun src hsrc => ?_, fun _ => rfl⟩
    cases hsrc
  | some src =>
    rw [hresolve] at h
    obtain ⟨rfl, -⟩ := Prod.mk.inj (Option.some.inj h)
    refine ⟨rfl, fun _ _ => ⟨rfl, rfl⟩, fun hnone => ?_⟩
    cases hnone

/-- A decoder that makes a buffer available is at work. -/
lemma AnalyzerProcess.step_decode {samples : List σ}
    (h : s.step dsp (.decode samples) = some (s', out)) :
    s.decoder.decoding = true ∧ s'.analyzer = s.analyzer ∧ s'.decoder.decoding = true := by
  rw [AnalyzerProcess.step] at h
  split at h
  · next hdecoding _ =>
    obtain ⟨rfl, -⟩ := Prod.mk.inj (Option.some.inj h)
    exact ⟨hdecoding, rfl, hdecoding⟩
  · cases h

/-- Reading buffers makes frames at most. -/
lemma AnalyzerProcess.step_bufferReady {latest : Option Url} (htrack : TrackInvariant dsp latest s)
    (h : s.step dsp .bufferReady = some (s', out)) :
    s'.analyzer.busy = s.analyzer.busy ∧ s'.decoder.decoding = s.decoder.decoding ∧
      (s.decoder.Idle → s' = s) := by
  obtain ⟨stream, hcomplete, -⟩ := htrack.stream
  obtain ⟨a, hread, -, -, hbusy⟩ := hcomplete.onBufferReady s.decoder.buffers
  rw [AnalyzerProcess.step, hread] at h
  obtain ⟨rfl, -⟩ := Prod.mk.inj (Option.some.inj h)
  refine ⟨hbusy, rfl, ?_⟩
  rintro ⟨-, hbuffers⟩
  obtain ⟨analyzer, source, decoding, buffers⟩ := s
  obtain rfl : buffers = [] := hbuffers
  obtain rfl := Option.some.inj hread
  rfl

/-- The decoder comes to its end when it is at work, and then nobody is busy. -/
lemma AnalyzerProcess.step_finished (h : s.step dsp .finished = some (s', out)) :
    s.decoder.decoding = true ∧ s'.analyzer.frames = s.analyzer.frames ∧
      s'.analyzer.busy = false ∧ s'.decoder.decoding = false := by
  rw [AnalyzerProcess.step] at h
  split at h
  · next hdecoding =>
    obtain ⟨rfl, -⟩ := Prod.mk.inj (Option.some.inj h)
    exact ⟨hdecoding, rfl, rfl, rfl⟩
  · cases h

/-- What is shown moves towards a frame, if there is one. -/
lemma AudioAnalyzer.seekTo_cases {α : Type} {a : AudioAnalyzer α β γ}
    {fade : Frame β γ → δ → δ × Bool} {shown shown' : δ} {position : ℤ}
    (h : a.seekTo fade shown position = some (shown', out)) :
    a.frames = [] ∧ shown' = shown ∨ ∃ frame ∈ a.frames, shown' = (fade frame shown).1 := by
  unfold seekTo at h
  split at h
  · next hnil => exact .inl ⟨hnil, (Prod.mk.inj (Option.some.inj h)).1.symm⟩
  · obtain ⟨lo, -, h⟩ := Option.bind_eq_some_iff.mp h
    obtain ⟨frame, hframe, h⟩ := Option.bind_eq_some_iff.mp h
    refine .inr ⟨frame, ?_, (Prod.mk.inj (Option.some.inj h)).1.symm⟩
    unfold frameAtIndex at hframe
    split at hframe
    · exact List.mem_of_getElem? hframe
    · cases hframe

/-- The lyrics move to a position. -/
lemma Opened.seekTo_lyricsAt {std : TimeSort} {o : Opened σ} {position : Option ℤ}
    {positionMs : ℤ} {lyrics : LyricsParser} {signals : List LyricsSignal}
    (h : (o.lyricsAt std position).seekTo positionMs = some (lyrics, signals)) :
    lyrics = o.lyricsAt std (some positionMs) := by
  have hordered : LinesInOrder (o.lyricsAt std position).lines := by
    change LinesInOrder (o.lines std)
    unfold Opened.lines
    split
    · exact .nil
    · split
      · exact .nil
      · exact std.ordered _
  have hnone : (o.lyricsAt std position).lines = [] → (o.lyricsAt std position).index = -1 := by
    intro hnil
    have hlines : o.lines std = [] := hnil
    cases position with
    | none => rfl
    | some other => simp [Opened.lyricsAt, hlines, dueCount]
  have hmoved := LyricsParser.seekTo_eq hordered hnone positionMs
  rw [h, Option.map_some] at hmoved
  split at hmoved
  · exact Option.some.inj hmoved
  · cases hmoved

end Parts

/-! ### The invariant -/

/-- The lyrics of the rows are next to their audio files, the decoder works on the source of the
analyzer, and the window shows the track. -/
structure WindowInvariant (env : WindowSetup σ β γ δ) (latest : Option (Opened σ))
    (position : Option ℤ) (w : MainWindow σ β γ δ) : Prop where
  rows : ∀ t ∈ w.library.tracks, MusicLibrary.LyricsBeside t
  track : TrackInvariant env.dsp (latest.bind Opened.source) w.analyzer
  shows : ∀ o, latest = some o → ShowsTrack env o position w

variable {env : WindowSetup σ β γ δ} {w w' : MainWindow σ β γ δ} {act : WindowAct σ}
  {out : List AnalyzerSignal} {o : Opened σ} {position : Option ℤ} {latest : Option (Opened σ)}

/-- The frames stem from the file that is analyzed. -/
lemma stemsFrom_of_track (h : TrackInvariant env.dsp o.source w.analyzer) {src : Url}
    (hsrc : o.source = some src) :
    ∀ frame ∈ w.analyzer.analyzer.frames, StemsFrom env.dsp src frame := by
  intro frame hframe
  obtain ⟨src', hsrc', hstems⟩ := h.framesFollow hsrc frame hframe
  obtain rfl := Option.some.inj (hsrc.symm.trans hsrc')
  exact hstems

/-- A track that is opened is shown. -/
lemma showsTrack_of_opens {analyzer : AnalyzerProcess σ β γ} {signals : List AnalyzerSignal}
    (hrows : ∀ t ∈ w.library.tracks, MusicLibrary.LyricsBeside t) (hopens : Opens w act o)
    (hstep : w.analyzer.step env.dsp (.analyzeFile o.track.audioPath o.decoded) =
      some (analyzer, signals)) :
    ShowsTrack env o none { w with
      analyzer := analyzer
      shown := env.blank
      lyrics := o.lyricsAt env.std none
      currentAudioUrl := o.track.audioPath
      currentCoverUrl := o.track.coverPath
      currentName := if o.track.name = [] then fileName o.track.audioPath else o.track.name
      statusText := if o.source.isSome then "Analyzing…" else "NCM decode failed" } := by
  obtain ⟨hframes, hbusy, hkept⟩ := AnalyzerProcess.step_analyzeFile hstep
  refine
    { title := ⟨rfl, rfl, rfl⟩
      beside := fun hlrc => ?_
      lyrics := rfl
      frames := fun src hsrc => by simp [hframes]
      shown := fun src hsrc => ⟨[], by simp, rfl⟩
      decoding := fun src hsrc => (hbusy src hsrc).1.trans (hbusy src hsrc).2.symm
      status := fun src hsrc => by simp [hsrc, (hbusy src hsrc).1]
      player := fun src hsrc hidle => by simp [(hbusy src hsrc).1] at hidle
      failed := fun hnone hidle => ?_ }
  · cases hopens with
    | click htrack =>
      have hbeside := (hrows _ (List.mem_of_getElem? htrack)).resolve_left hlrc
      rw [hbeside, lrcPathOf_lrcPathOf]
    | openFile => exact absurd rfl hlrc
  · have hsame : o.decoder = w.analyzer.decoder := by
      cases hopens <;> rfl
    refine ⟨?_, hframes, rfl, by simp [hnone]⟩
    rw [hkept hnone, ← hsame]
    exact hidle

namespace ShowsTrack

/-- What is shown moves towards a frame of the track. -/
lemma seekTo {shown : δ} {signals : List AnalyzerSignal} {positionMs : ℤ}
    (h : ShowsTrack env o position w)
    (hseek : w.analyzer.analyzer.seekTo env.fade w.shown positionMs = some (shown, signals))
    (last : ℤ) :
    ShowsTrack env o position { w with shown := shown, lastVisualUpdateMs := last } := by
  have hcases := AudioAnalyzer.seekTo_cases hseek
  refine { h with shown := fun src hsrc => ?_, failed := fun hnone hidle => ?_ }
  · obtain ⟨frames, hstems, hshown⟩ := h.shown src hsrc
    rcases hcases with ⟨-, rfl⟩ | ⟨frame, hframe, rfl⟩
    · exact ⟨frames, hstems, hshown⟩
    · refine ⟨frames ++ [frame], fun other hother => ?_, ?_⟩
      · rcases List.mem_append.mp hother with hother | hother
        · exact hstems other hother
        · obtain rfl := List.mem_singleton.mp hother
          exact h.frames src hsrc other hframe
      · rw [List.foldl_concat, ← hshown]
  · obtain ⟨hdecoder, hframes, hblank, hstatus⟩ := h.failed hnone hidle
    rcases hcases with ⟨-, rfl⟩ | ⟨frame, hframe, -⟩
    · exact ⟨hdecoder, hframes, hblank, hstatus⟩
    · rw [hframes] at hframe
      exact absurd hframe List.not_mem_nil

/-- The analyzer and its decoder go on. -/
lemma runs {analyzer : AnalyzerProcess σ β γ} (h : ShowsTrack env o position w)
    (htrack : TrackInvariant env.dsp o.source analyzer)
    (hbusy : analyzer.analyzer.busy = w.analyzer.analyzer.busy)
    (hdecoding : analyzer.decoder.decoding = w.analyzer.decoder.decoding)
    (hidle : w.analyzer.decoder.Idle → analyzer = w.analyzer) :
    ShowsTrack env o position { w with analyzer := analyzer } := by
  refine
    { title := h.title
      beside := h.beside
      lyrics := h.lyrics
      frames := fun src hsrc => ?_
      shown := h.shown
      decoding := fun src hsrc => ?_
      status := fun src hsrc => ?_
      player := fun src hsrc hquiet => h.player src hsrc (hbusy ▸ hquiet)
      failed := fun hnone hbefore => ?_ }
  · exact stemsFrom_of_track (w := { w with analyzer := analyzer }) htrack hsrc
  · dsimp only
    rw [hbusy, hdecoding]
    exact h.decoding src hsrc
  · dsimp only
    rw [hbusy]
    exact h.status src hsrc
  · obtain ⟨hdecoder, hrest⟩ := h.failed hnone hbefore
    obtain rfl := hidle hdecoder
    exact ⟨hdecoder, hrest⟩

/-- The decoder comes to the end of the file, and the player starts. -/
lemma ends {analyzer : AnalyzerProcess σ β γ} {signals : List AnalyzerSignal}
    (h : ShowsTrack env o position w) (htrack : TrackInvariant env.dsp o.source w.analyzer)
    (hstep : w.analyzer.step env.dsp .finished = some (analyzer, signals)) :
    ShowsTrack env o position { w with
      analyzer := analyzer
      statusText := ""
      player := ⟨w.analyzer.analyzer.sourceUrl, true⟩ } := by
  obtain ⟨hdecoding, hframes, hbusy, hended⟩ := AnalyzerProcess.step_finished hstep
  refine
    { title := h.title
      beside := h.beside
      lyrics := h.lyrics
      frames := fun src hsrc frame hframe => h.frames src hsrc frame (hframes ▸ hframe)
      shown := h.shown
      decoding := fun src hsrc => hbusy.trans hended.symm
      status := fun src hsrc => by simp [hbusy]
      player := fun src hsrc _ => (htrack.current src hsrc).2
      failed := fun hnone hidle => ?_ }
  obtain ⟨⟨hstopped, -⟩, -⟩ := h.failed hnone hidle
  cases hdecoding.symm.trans hstopped

end ShowsTrack

/-- The transition opens the track, and forgets the position in the one before. -/
lemma opened?_of_opens (hopens : Opens w act o) (w' : MainWindow σ β γ δ)
    (out : List AnalyzerSignal) (position : Option ℤ) :
    opened? ⟨w, act, w', out⟩ = some o ∧ positionAfter position ⟨w, act, w', out⟩ = none := by
  cases hopens with
  | click htrack =>
    refine ⟨?_, rfl⟩
    dsimp only [opened?]
    rw [htrack]
    rfl
  | openFile => exact ⟨rfl, rfl⟩

/-- Every step keeps the invariant. -/
lemma WindowInvariant.step (h : WindowInvariant env latest position w)
    (hmoves : MainWindow.Moves env w act w') :
    WindowInvariant env ((opened? ⟨w, act, w', out⟩).or latest)
      (positionAfter position ⟨w, act, w', out⟩) w' := by
  cases hmoves with
  | scans call =>
    refine ⟨MusicLibrary.lyricsBeside_next h.rows call, h.track, fun o ho => ?_⟩
    exact { h.shows o ho with }
  | opens hopens hstep =>
    obtain ⟨hopened, hposition⟩ := opened?_of_opens hopens _ out position
    rw [hopened, hposition]
    refine ⟨h.rows, h.track.step hstep, fun o ho => ?_⟩
    obtain rfl := Option.some.inj ho
    exact showsTrack_of_opens h.rows hopens hstep
  | decodes hstep =>
    have htrack := h.track.step hstep
    obtain ⟨hbefore, hsame, hafter⟩ := AnalyzerProcess.step_decode hstep
    refine ⟨h.rows, htrack, fun o ho => ?_⟩
    obtain rfl : latest = some o := ho
    refine (h.shows o rfl).runs htrack (congrArg _ hsame) (hafter.trans hbefore.symm) ?_
    rintro ⟨hstopped, -⟩
    cases hbefore.symm.trans hstopped
  | reads hstep =>
    have htrack := h.track.step hstep
    obtain ⟨hbusy, hdecoding, hidle⟩ := AnalyzerProcess.step_bufferReady h.track hstep
    refine ⟨h.rows, htrack, fun o ho => ?_⟩
    obtain rfl : latest = some o := ho
    exact (h.shows o rfl).runs htrack hbusy hdecoding hidle
  | ends hstep =>
    refine ⟨h.rows, h.track.step hstep, fun o ho => ?_⟩
    obtain rfl : latest = some o := ho
    exact (h.shows o rfl).ends h.track hstep
  | moves hseek =>
    refine ⟨h.rows, h.track, fun o ho => ?_⟩
    rw [(h.shows o ho).lyrics] at hseek
    exact { h.shows o ho with lyrics := Opened.seekTo_lyricsAt hseek }
  | plays playing =>
    exact ⟨h.rows, h.track, fun o ho => { h.shows o ho with }⟩
  | ticks hseek =>
    exact ⟨h.rows, h.track, fun o ho => (h.shows o ho).seekTo hseek _⟩
  | redraws hseek =>
    exact ⟨h.rows, h.track, fun o ho => (h.shows o ho).seekTo hseek _⟩
  | rests => exact h

/-! ### Runs -/

variable {ts : List (WindowTransition σ β γ δ)}

/-- The track that is open after one more transition. -/
lemma lastOpened_snoc (ts : List (WindowTransition σ β γ δ)) (t : WindowTransition σ β γ δ) :
    lastOpened (ts ++ [t]) = (opened? t).or (lastOpened ts) :=
  getLast?_filterMap_snoc _ ts t

/-- The invariant holds at the end of every run. -/
lemma windowInvariant_of_run (h : (mainWindow env).Run ts w) :
    WindowInvariant env (lastOpened ts) (lastPosition ts) w := by
  refine h.invariant_history
    (I := fun ts w => WindowInvariant env (lastOpened ts) (lastPosition ts) w) ?_ ?_
  · rintro w rfl
    exact ⟨fun t ht => absurd ht List.not_mem_nil, track_invariant (.start rfl), nofun⟩
  · intro ts w act w' out _ hinv hstep
    rw [lastOpened_snoc, lastPosition, List.foldl_concat]
    exact hinv.step (MainWindow.moves_of_step hstep)

/-- Among few frames the timer of a playing window finds one to show, whatever the position. -/
theorem mainWindow_timer (h : (mainWindow env).Run ts w) (hplaying : w.player.playing = true)
    (hfew : w.analyzer.analyzer.frames.length ≤ 2 ^ 30 + 1) (positionMs : ℤ) :
    ∃ w' out, (mainWindow env).step w (.timer positionMs) = some (w', out) := by
  obtain ⟨stream, hcomplete, -⟩ := (windowInvariant_of_run h).track.stream
  have hseek : ∃ shown signals,
      w.analyzer.analyzer.seekTo env.fade w.shown positionMs = some (shown, signals) := by
    by_cases hnil : w.analyzer.analyzer.frames = []
    · exact ⟨w.shown, [], if_pos hnil⟩
    · have hfinds := findsFrame_of_few hcomplete.inOrder hnil hfew positionMs
      obtain ⟨i, frame, -, -, hseek⟩ := seekTo_of_findsFrame hnil hfinds env.fade w.shown
      exact ⟨_, _, hseek⟩
  obtain ⟨shown, signals, hseek⟩ := hseek
  refine ⟨{ w with shown := shown, lastVisualUpdateMs := positionMs }, signals, ?_⟩
  change w.step env (.timer positionMs) = _
  rw [MainWindow.step, if_pos hplaying, MainWindow.seekTo]
  dsimp only
  rw [hseek]

/-- A folder with a song and its lyrics. -/
def songDisk : Disk where
  folder dir :=
    if dir = "/m".toList then
      some ⟨[], ["a.mp3".toList, "a.lrc".toList], by decide, by decide, by decide⟩
    else none
  fileExists path := path = "/m/a.lrc".toList
  content path := if path = "/m/a.lrc".toList then some "[00:01.00]first".toList else none

/-- A window that counts the frames it shows. -/
def countingSetup : WindowSetup Unit Unit Unit ℕ where
  dsp := noDsp
  fade _ shown := (shown + 1, true)
  blank := 0
  std := .insertion
  order := ⟨id, id, List.Perm.refl, List.Perm.refl⟩

/-- The song is opened from the library, analyzed to its end, and played for two seconds. -/
def playSong : List (WindowAct Unit) :=
  [.scan (.scanFolder "/m".toList songDisk), .click 0 songDisk [], .finished,
    .positionChanged 2000]

end SystemsDemos
