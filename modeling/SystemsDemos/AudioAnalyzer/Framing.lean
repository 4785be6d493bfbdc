import SystemsDemos.Text.Number
import SystemsDemos.Windows.Basic

/-!
# The audio analyzer

`AudioAnalyzer` of the music visualizer.  The decoder delivers the samples in buffers of any size;
`processBuffer` appends them to `m_pcm` and makes a frame of every `FFT_N` samples, moving on by
`HOP` samples from frame to frame.  However the samples are cut into buffers, the frames are the
same (`frames_of_stream`).

The floating-point work on the samples of a frame is a parameter (`Dsp`): nothing depends on its
results.  A sample count is a natural number: the product in `m_samplesIn * 1000LL` would not fit
after six thousand years of sound, and the frames kept until then not into any memory.

### Outline

* `Dsp`, `Frame` and the fields of the class;
* `analyzeFile`, `onBufferReady` and `onDecoderFinished`;
* `Framed`, the buffer and the frames against the stream;
* `frames_of_stream`.
-/

namespace SystemsDemos

/-- A window is made of every `FFT_N` samples. -/
def fftN : ℕ := 2048

/-- The distance from one window to the next. -/
def hopSize : ℕ := 512

lemma fftN_pos : 0 < fftN := by decide

lemma hopSize_pos : 0 < hopSize := by decide

/-- The number of points of a waveform. -/
def wavePts : ℕ := 128

/-- The number of samples in a second. -/
def sampleRate : ℕ := 44100

/-- The floating-point work on samples of type `α`: the values in `spec` for a window, and the
point in `wave` for a chunk of samples. -/
structure Dsp (α β γ : Type) where
  spectrum : List α → β
  point : List α → γ

/-- What is shown at some time. -/
structure Frame (β γ : Type) where
  timeMs : ℕ
  spec : β
  wave : List γ
  deriving DecidableEq

/-- A local file, by its path. -/
abbrev Url := Text

/-- The fields of the analyzer. -/
structure AudioAnalyzer (α β γ : Type) where
  sourceUrl : Url
  pcm : List α
  samplesIn : ℕ
  frames : List (Frame β γ)
  busy : Bool

/-- The signals of the analyzer. -/
inductive AnalyzerSignal
  | spectrumChanged
  | busyChanged
  | analysisComplete (sourceUrl : Url)
  | analysisFailed (message : String)
  deriving DecidableEq

variable {α β γ : Type}

/-! ### Frames -/

/-- `buildFrame`, which reads the first `FFT_N` samples twice; `none` when a sample is read that
does not exist. -/
def buildFrame (dsp : Dsp α β γ) (pcm : List α) (frameMs : ℕ) : Option (Frame β γ) := do
  let samples ← Windows.slice? pcm 0 fftN
  let chunk := fftN / wavePts
  let wave ← (List.range wavePts).mapM fun i =>
    (Windows.slice? pcm (i * chunk) chunk).map dsp.point
  return ⟨frameMs, dsp.spectrum samples, wave⟩

namespace AudioAnalyzer

/-- The loop of `processBuffer`, with a bound on the number of its iterations. -/
def buildFrames (dsp : Dsp α β γ) : ℕ → AudioAnalyzer α β γ → Option (AudioAnalyzer α β γ)
  | 0, a => some a
  | fuel + 1, a =>
      if fftN ≤ a.pcm.length then
        match buildFrame dsp a.pcm (a.samplesIn * 1000 / sampleRate) with
        | none => none
        | some frame =>
            buildFrames dsp fuel { a with
              frames := a.frames ++ [frame]
              samplesIn := a.samplesIn + hopSize
              pcm := a.pcm.drop hopSize }
      else some a

/-- `processBuffer`; every iteration of the loop removes samples, so it comes to its end before
the bound. -/
def processBuffer (dsp : Dsp α β γ) (a : AudioAnalyzer α β γ) (buf : List α) :
    Option (AudioAnalyzer α β γ) :=
  buildFrames dsp (a.pcm ++ buf).length { a with pcm := a.pcm ++ buf }

/-- `onBufferReady`, with the buffers that are available. -/
def onBufferReady (dsp : Dsp α β γ) (a : AudioAnalyzer α β γ) (bufs : List (List α)) :
    Option (AudioAnalyzer α β γ) :=
  bufs.foldlM (processBuffer dsp) a

/-- The path ends in `.ncm`, in any case. -/
def isNcm (url : Url) : Bool := ".ncm".toList.isSuffixOf (url.map Char.toLower)

/-- The file to analyze: the file itself, or the one that `NcmDecoder::decode` has made of it;
`decoded` is what that returns. -/
def resolve (url decoded : Url) : Option Url :=
  if isNcm url then if decoded = [] then none else some decoded else some url

/-- `analyzeFile`, with the signals it emits.  The second component is the source that the decoder
is set to and started with, if the function comes that far. -/
def analyzeFile (a : AudioAnalyzer α β γ) (url decoded : Url) :
    AudioAnalyzer α β γ × Option Url × List AnalyzerSignal :=
  let cleared := { a with frames := [], pcm := [], samplesIn := 0, busy := true }
  match resolve url decoded with
  | none =>
      ({ cleared with busy := false }, none,
        [.busyChanged, .spectrumChanged, .busyChanged, .analysisFailed "NCM decode failed"])
  | some src => ({ cleared with sourceUrl := src }, some src, [.busyChanged, .spectrumChanged])

/-- `onDecoderFinished`. -/
def onDecoderFinished (a : AudioAnalyzer α β γ) : AudioAnalyzer α β γ × List AnalyzerSignal :=
  ({ a with busy := false }, [.busyChanged, .analysisComplete a.sourceUrl])

end AudioAnalyzer

/-! ### Frames of a stream -/

/-- The frame made of the samples of a window. -/
def frameOf (dsp : Dsp α β γ) (samples : List α) (frameMs : ℕ) : Frame β γ where
  timeMs := frameMs
  spec := dsp.spectrum samples
  wave := (List.range wavePts).map fun i =>
    dsp.point ((samples.drop (i * (fftN / wavePts))).take (fftN / wavePts))

/-- Frame `k` of a stream. -/
def frameAt (dsp : Dsp α β γ) (stream : List α) (k : ℕ) : Frame β γ :=
  frameOf dsp (Windows.window hopSize fftN stream k) (k * hopSize * 1000 / sampleRate)

/-- The number of frames of a stream with `n` samples. -/
def frameCount (n : ℕ) : ℕ := Windows.count hopSize fftN n

/-- With enough samples in the buffer every read succeeds. -/
lemma buildFrame_eq_some (dsp : Dsp α β γ) {pcm : List α} (h : fftN ≤ pcm.length) (ms : ℕ) :
    buildFrame dsp pcm ms = some (frameOf dsp (pcm.take fftN) ms) := by
  have hsamples : Windows.slice? pcm 0 fftN = some (pcm.take fftN) := by
    rw [Windows.slice?_eq_some (by omega), List.drop_zero]
  have hwave : ((List.range wavePts).mapM fun i =>
      (Windows.slice? pcm (i * (fftN / wavePts)) (fftN / wavePts)).map dsp.point) =
        some ((List.range wavePts).map fun i =>
          dsp.point (((pcm.take fftN).drop (i * (fftN / wavePts))).take (fftN / wavePts))) := by
    apply Windows.mapM_eq_some_map
    intro i hi
    have hinside : i * (fftN / wavePts) + fftN / wavePts ≤ fftN := by
      have hlast : i + 1 ≤ wavePts := List.mem_range.mp hi
      calc i * (fftN / wavePts) + fftN / wavePts = (i + 1) * (fftN / wavePts) :=
            (Nat.succ_mul _ _).symm
        _ ≤ wavePts * (fftN / wavePts) := Nat.mul_le_mul_right _ hlast
        _ ≤ fftN := Nat.mul_div_le _ _
    rw [Windows.slice?_eq_some (Nat.le_trans hinside h), Option.map_some, List.drop_take,
      List.take_take, Nat.min_eq_left (Nat.le_sub_of_add_le' hinside)]
  unfold buildFrame
  simp only [hsamples, Option.bind_eq_bind, Option.bind_some]
  rw [hwave]
  rfl

namespace AudioAnalyzer

/-- The analyzer has made the first `k` frames of the stream and keeps the samples from there
on. -/
structure Framed (dsp : Dsp α β γ) (stream : List α) (k : ℕ) (a : AudioAnalyzer α β γ) :
    Prop where
  samplesIn : a.samplesIn = k * hopSize
  pcm : a.pcm = stream.drop (k * hopSize)
  frames : a.frames = (List.range k).map (frameAt dsp stream)
  made : k ≤ frameCount stream.length

/-- The analyzer has made all the frames that the stream has so far. -/
def Complete (dsp : Dsp α β γ) (stream : List α) (a : AudioAnalyzer α β γ) : Prop :=
  Framed dsp stream (frameCount stream.length) a

/-- The two analyzers work on the same source. -/
def SameSource (a a' : AudioAnalyzer α β γ) : Prop :=
  a'.sourceUrl = a.sourceUrl ∧ a'.busy = a.busy

variable {dsp : Dsp α β γ} {stream : List α} {k : ℕ} {a : AudioAnalyzer α β γ}

/-- The frames made so far begin inside the stream. -/
lemma Framed.begun (h : Framed dsp stream k a) : k * hopSize ≤ stream.length := by
  cases k with
  | zero => simp
  | succ k =>
    have hlast := (Windows.lt_count_iff hopSize_pos).mp (Nat.lt_of_succ_le h.made)
    have hhop : hopSize ≤ fftN := by decide
    rw [Nat.succ_mul]
    omega

/-- With enough samples in the buffer the stream has one more frame. -/
lemma Framed.lt_frameCount (h : Framed dsp stream k a) (hlong : fftN ≤ a.pcm.length) :
    k < frameCount stream.length := by
  have hbegun := h.begun
  rw [h.pcm, List.length_drop] at hlong
  exact (Windows.lt_count_iff hopSize_pos).mpr (by omega)

/-- Otherwise all its frames have been made. -/
lemma Framed.complete (h : Framed dsp stream k a) (hshort : a.pcm.length < fftN) :
    Complete dsp stream a := by
  have hall : k = frameCount stream.length := by
    refine Nat.le_antisymm h.made (Nat.le_of_not_lt fun hmore => ?_)
    have hfits := (Windows.lt_count_iff hopSize_pos).mp hmore
    rw [h.pcm, List.length_drop] at hshort
    omega
  rw [Complete, ← hall]
  exact h

/-- When all frames have been made the buffer is short. -/
lemma Complete.short (h : Complete dsp stream a) : a.pcm.length < fftN := by
  by_contra hlong
  exact Nat.lt_irrefl _ (Framed.lt_frameCount h (Nat.le_of_not_lt hlong))

/-- One iteration of the loop makes the next frame. -/
lemma Framed.step (h : Framed dsp stream k a) (hlong : fftN ≤ a.pcm.length) :
    buildFrame dsp a.pcm (a.samplesIn * 1000 / sampleRate) = some (frameAt dsp stream k) ∧
      Framed dsp stream (k + 1) { a with
        frames := a.frames ++ [frameAt dsp stream k]
        samplesIn := a.samplesIn + hopSize
        pcm := a.pcm.drop hopSize } := by
  refine ⟨?_, ?_, ?_, ?_, h.lt_frameCount hlong⟩
  · rw [buildFrame_eq_some dsp hlong, h.samplesIn, h.pcm]
    rfl
  · change a.samplesIn + hopSize = (k + 1) * hopSize
    rw [h.samplesIn, Nat.succ_mul]
  · change a.pcm.drop hopSize = stream.drop ((k + 1) * hopSize)
    rw [h.pcm, List.drop_drop, Nat.succ_mul]
  · simp only [h.frames, List.range_succ, List.map_append, List.map_singleton]

/-- The loop stops at a short buffer. -/
lemma buildFrames_of_short (hshort : a.pcm.length < fftN) (fuel : ℕ) :
    AudioAnalyzer.buildFrames dsp fuel a = some a := by
  cases fuel with
  | zero => rfl
  | succ fuel => exact if_neg (Nat.not_le_of_lt hshort)

/-- The loop makes a frame from a long buffer and goes on. -/
lemma buildFrames_of_long (hlong : fftN ≤ a.pcm.length) {frame : Frame β γ}
    (hframe : buildFrame dsp a.pcm (a.samplesIn * 1000 / sampleRate) = some frame) (fuel : ℕ) :
    AudioAnalyzer.buildFrames dsp (fuel + 1) a = AudioAnalyzer.buildFrames dsp fuel { a with
      frames := a.frames ++ [frame]
      samplesIn := a.samplesIn + hopSize
      pcm := a.pcm.drop hopSize } := by
  refine (if_pos hlong).trans ?_
  rw [hframe]

/-- The loop makes all the frames that are there. -/
lemma Framed.buildFrames (h : Framed dsp stream k a) {fuel : ℕ} (hfuel : a.pcm.length ≤ fuel) :
    ∃ a', AudioAnalyzer.buildFrames dsp fuel a = some a' ∧ Complete dsp stream a' ∧
      SameSource a a' := by
  induction fuel generalizing a k with
  | zero =>
    have hshort : a.pcm.length < fftN := by
      have hpos := fftN_pos
      omega
    exact ⟨a, buildFrames_of_short hshort 0, h.complete hshort, rfl, rfl⟩
  | succ fuel ih =>
    by_cases hlong : fftN ≤ a.pcm.length
    · obtain ⟨hframe, hnext⟩ := h.step hlong
      have hless : (a.pcm.drop hopSize).length ≤ fuel := by
        have hhop := hopSize_pos
        rw [List.length_drop]
        omega
      obtain ⟨a', hloop, hcomplete, hsource⟩ := ih hnext hless
      exact ⟨a', (buildFrames_of_long hlong hframe fuel).trans hloop, hcomplete, hsource⟩
    · have hshort := Nat.lt_of_not_le hlong
      exact ⟨a, buildFrames_of_short hshort _, h.complete hshort, rfl, rfl⟩

/-- The frames made so far are also frames of the longer stream. -/
lemma Complete.append (h : Complete dsp stream a) (buf : List α) :
    Framed dsp (stream ++ buf) (frameCount stream.length) { a with pcm := a.pcm ++ buf } where
  samplesIn := h.samplesIn
  pcm := by
    rw [h.pcm, List.drop_append_of_le_length h.begun]
  frames := by
    rw [h.frames]
    apply List.map_congr_left
    intro k hk
    have hfits := (Windows.lt_count_iff hopSize_pos).mp (List.mem_range.mp hk)
    simp only [frameAt, Windows.window_append hfits]
  made := Windows.count_mono hopSize_pos (by simp)

/-- A buffer extends the stream. -/
lemma Complete.processBuffer (h : Complete dsp stream a) (buf : List α) :
    ∃ a', AudioAnalyzer.processBuffer dsp a buf = some a' ∧ Complete dsp (stream ++ buf) a' ∧
      SameSource a a' :=
  (h.append buf).buildFrames (Nat.le_refl _)

/-- The buffers of a notification extend the stream. -/
lemma Complete.onBufferReady (h : Complete dsp stream a) (bufs : List (List α)) :
    ∃ a', AudioAnalyzer.onBufferReady dsp a bufs = some a' ∧
      Complete dsp (stream ++ bufs.flatten) a' ∧ SameSource a a' := by
  induction bufs generalizing stream a with
  | nil => exact ⟨a, rfl, by simpa using h, rfl, rfl⟩
  | cons buf bufs ih =>
    obtain ⟨a', hbuf, hcomplete, hurl, hbusy⟩ := h.processBuffer buf
    obtain ⟨a'', hbufs, hcomplete', hurl', hbusy'⟩ := ih hcomplete
    refine ⟨a'', ?_, ?_, hurl'.trans hurl, hbusy'.trans hbusy⟩
    · unfold AudioAnalyzer.onBufferReady at hbufs ⊢
      rw [List.foldlM_cons, hbuf]
      exact hbufs
    · rwa [List.flatten_cons, ← List.append_assoc]

/-- A sequence of notifications extends the stream. -/
lemma Complete.foldlM_onBufferReady (h : Complete dsp stream a)
    (notifications : List (List (List α))) :
    ∃ a', notifications.foldlM (AudioAnalyzer.onBufferReady dsp) a = some a' ∧
      Complete dsp (stream ++ notifications.flatten.flatten) a' := by
  induction notifications generalizing stream a with
  | nil => exact ⟨a, rfl, by simpa using h⟩
  | cons bufs notifications ih =>
    obtain ⟨a', hbufs, hcomplete, -⟩ := h.onBufferReady bufs
    obtain ⟨a'', hrest, hcomplete'⟩ := ih hcomplete
    refine ⟨a'', ?_, ?_⟩
    · rw [List.foldlM_cons, hbufs]
      exact hrest
    · rwa [List.flatten_cons, List.flatten_append, ← List.append_assoc]

/-- An analyzer that keeps nothing is ready for a stream. -/
lemma complete_nil (hsamples : a.samplesIn = 0) (hpcm : a.pcm = []) (hframes : a.frames = []) :
    Complete dsp [] a := by
  have hcount : frameCount ([] : List α).length = 0 := Windows.count_zero fftN_pos
  rw [Complete, hcount]
  exact ⟨by rw [hsamples, Nat.zero_mul], by rw [hpcm, List.drop_nil], by rw [hframes]; rfl,
    Nat.zero_le _⟩

/-- `analyzeFile` begins a new stream, also when it fails. -/
lemma complete_analyzeFile (dsp : Dsp α β γ) (a : AudioAnalyzer α β γ) (url decoded : Url) :
    Complete dsp [] (a.analyzeFile url decoded).1 := by
  unfold analyzeFile
  split <;> exact complete_nil rfl rfl rfl

/-- **The frames do not depend on the buffers.**  However a stream is cut into buffers and the
buffers into notifications, every read succeeds, and the frames are those for which the stream is
long enough, each with its samples and its time. -/
theorem frames_of_stream (dsp : Dsp α β γ) (a : AudioAnalyzer α β γ) (url decoded : Url)
    (notifications : List (List (List α))) :
    ∃ a', notifications.foldlM (AudioAnalyzer.onBufferReady dsp) (a.analyzeFile url decoded).1 =
        some a' ∧
      ∃ n, (∀ k, k < n ↔ k * hopSize + fftN ≤ notifications.flatten.flatten.length) ∧
        a'.frames = (List.range n).map (frameAt dsp notifications.flatten.flatten) := by
  obtain ⟨a', hrun, hcomplete⟩ :=
    (complete_analyzeFile dsp a url decoded).foldlM_onBufferReady notifications
  rw [List.nil_append] at hcomplete
  exact ⟨a', hrun, _, fun k => Windows.lt_count_iff hopSize_pos, hcomplete.frames⟩

end AudioAnalyzer

end SystemsDemos
