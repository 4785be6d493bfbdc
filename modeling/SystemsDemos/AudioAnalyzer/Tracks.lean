import SystemsDemos.AudioAnalyzer.Framing
import SystemsDemos.Transition.History

/-!
# The analyzer and its decoder

`AudioAnalyzer` together with its `QAudioDecoder`: calls of `analyzeFile` and the notifications of
the decoder come in any order.  `setSource` stops the decoder and drops its buffers, and nothing
else does; so a call of `analyzeFile` that fails before `setSource` leaves the decoder at work on
the track before, and its buffers and its end are taken for those of the new call.

### Outline

* the decoder, `AnalyzerProcess.step` and the system `analyzerSystem`;
* `FollowsLatest`, what frames and signals promise, and `StaysQuiet`;
* `TrackInvariant`;
* `analyzer_follows_latest_iff`, and calls that fail while the decoder is idle.
-/

namespace SystemsDemos

open AudioAnalyzer

/-! ### The decoder -/

/-- The decoder.  Every sample of a buffer carries the file it was decoded from. -/
structure AudioDecoder (σ : Type) where
  source : Option Url
  decoding : Bool
  /-- The buffers that are available. -/
  buffers : List (List (Url × σ))

variable {σ β γ : Type}

/-- `setSource` and `start`. -/
def AudioDecoder.startOn (src : Url) : AudioDecoder σ := ⟨some src, true, []⟩

/-- The analyzer and its decoder. -/
structure AnalyzerProcess (σ β γ : Type) where
  analyzer : AudioAnalyzer (Url × σ) β γ
  decoder : AudioDecoder σ

/-- What can happen. -/
inductive AnalyzerAction (σ : Type)
  /-- A call of `analyzeFile`, with what `NcmDecoder::decode` returns if it is called. -/
  | analyzeFile (url decoded : Url)
  /-- The decoder makes a buffer available. -/
  | decode (samples : List σ)
  /-- The signal `bufferReady`. -/
  | bufferReady
  /-- The decoder has come to the end of its source: the signal `finished`. -/
  | finished

namespace AnalyzerProcess

/-- One step of the analyzer and its decoder. -/
def step (dsp : Dsp (Url × σ) β γ) (s : AnalyzerProcess σ β γ) :
    AnalyzerAction σ → Option (AnalyzerProcess σ β γ × List AnalyzerSignal)
  | .analyzeFile url decoded =>
      let r := s.analyzer.analyzeFile url decoded
      match r.2.1 with
      | none => some ({ s with analyzer := r.1 }, r.2.2)
      | some src => some (⟨r.1, .startOn src⟩, r.2.2)
  | .decode samples =>
      match s.decoder.decoding, s.decoder.source with
      | true, some src =>
          let buffer := samples.map fun x => (src, x)
          some ({ s with
            decoder := { s.decoder with buffers := s.decoder.buffers ++ [buffer] } }, [])
      | _, _ => none
  | .bufferReady =>
      match s.analyzer.onBufferReady dsp s.decoder.buffers with
      | none => none
      | some analyzer => some (⟨analyzer, { s.decoder with buffers := [] }⟩, [])
  | .finished =>
      if s.decoder.decoding then
        let r := s.analyzer.onDecoderFinished
        some (⟨r.1, { s.decoder with decoding := false }⟩, r.2)
      else none

/-- The state after the constructor. -/
def start : AnalyzerProcess σ β γ := ⟨⟨[], [], 0, [], false⟩, ⟨none, false, []⟩⟩

end AnalyzerProcess

/-- The analyzer and its decoder. -/
def analyzerSystem (dsp : Dsp (Url × σ) β γ) :
    System (AnalyzerProcess σ β γ) (AnalyzerAction σ) AnalyzerSignal where
  init s := s = .start
  step := AnalyzerProcess.step dsp

/-- The transitions of the analyzer and its decoder. -/
abbrev AnalyzerTransition (σ β γ : Type) :=
  Transition (AnalyzerProcess σ β γ) (AnalyzerAction σ) AnalyzerSignal

/-! ### What is promised -/

/-- The file of the most recent call of `analyzeFile`, after one more action. -/
def sourceAfter (latest : Option Url) : AnalyzerAction σ → Option Url
  | .analyzeFile url decoded => resolve url decoded
  | _ => latest

/-- The file of the most recent call of `analyzeFile`; `none` when there was no call or the call
has failed. -/
def latestSource (ts : List (AnalyzerTransition σ β γ)) : Option Url :=
  ts.foldl (fun latest t => sourceAfter latest t.act) none

@[simp] lemma latestSource_snoc (ts : List (AnalyzerTransition σ β γ))
    (t : AnalyzerTransition σ β γ) :
    latestSource (ts ++ [t]) = sourceAfter (latestSource ts) t.act := by
  simp [latestSource]

/-- The frame is made of a window of samples of the file. -/
def StemsFrom (dsp : Dsp (Url × σ) β γ) (src : Url) (frame : Frame β γ) : Prop :=
  ∃ samples ms, samples.length = fftN ∧ (∀ x ∈ samples, x.1 = src) ∧
    frame = frameOf dsp samples ms

/-- Every frame stems from the file of the most recent call. -/
def FramesFollow (dsp : Dsp (Url × σ) β γ) (latest : Option Url)
    (a : AudioAnalyzer (Url × σ) β γ) : Prop :=
  ∀ frame ∈ a.frames, ∃ src, latest = some src ∧ StemsFrom dsp src frame

/-- After the step every frame stems from the file of the most recent call, and when the step
emits `analysisComplete` it is for that file. -/
def StepFollows (dsp : Dsp (Url × σ) β γ) (us : List (AnalyzerTransition σ β γ))
    (t : AnalyzerTransition σ β γ) : Prop :=
  FramesFollow dsp (sourceAfter (latestSource us) t.act) t.post.analyzer ∧
    ∀ src, .analysisComplete src ∈ t.out → latestSource us = some src

/-- Frames and signals follow the most recent call of `analyzeFile`. -/
def FollowsLatest (dsp : Dsp (Url × σ) β γ) (ts : List (AnalyzerTransition σ β γ)) : Prop :=
  EveryStep (StepFollows dsp) ts

/-- As long as the most recent call has failed, the decoder does not come to its end, and its
buffers do not fill a window. -/
def StepQuiet (us : List (AnalyzerTransition σ β γ)) (t : AnalyzerTransition σ β γ) : Prop :=
  latestSource us = none →
    match t.act with
    | .finished => False
    | .bufferReady =>
        t.pre.analyzer.pcm.length + t.pre.decoder.buffers.flatten.length < fftN
    | _ => True

/-- The decoder stays quiet after every call that has failed. -/
def StaysQuiet (ts : List (AnalyzerTransition σ β γ)) : Prop := EveryStep StepQuiet ts

/-! ### The invariant -/

variable {dsp : Dsp (Url × σ) β γ} {latest : Option Url} {s s' : AnalyzerProcess σ β γ}
  {out : List AnalyzerSignal} {ts : List (AnalyzerTransition σ β γ)}

/-- The decoder works on the source of the analyzer, and as long as the most recent call has not
failed, everything the analyzer keeps comes from its file. -/
structure TrackInvariant (dsp : Dsp (Url × σ) β γ) (latest : Option Url)
    (s : AnalyzerProcess σ β γ) : Prop where
  decoding : s.decoder.decoding = true → s.decoder.source = some s.analyzer.sourceUrl
  buffers : ∀ buf ∈ s.decoder.buffers, ∀ x ∈ buf, s.decoder.source = some x.1
  current : ∀ src, latest = some src →
    s.decoder.source = some src ∧ s.analyzer.sourceUrl = src
  stream : ∃ stream, Complete dsp stream s.analyzer ∧
    ∀ src, latest = some src → ∀ x ∈ stream, x.1 = src

/-- What `analyzeFile` leaves behind. -/
lemma analyzeFile_eq (a : AudioAnalyzer (Url × σ) β γ) (url decoded : Url) :
    (a.analyzeFile url decoded).2.1 = resolve url decoded ∧
      (a.analyzeFile url decoded).1.frames = [] ∧
      (∀ src, resolve url decoded = some src →
        (a.analyzeFile url decoded).1.sourceUrl = src) ∧
      (resolve url decoded = none → (a.analyzeFile url decoded).1.sourceUrl = a.sourceUrl) ∧
      ∀ src, .analysisComplete src ∉ (a.analyzeFile url decoded).2.2 := by
  unfold analyzeFile
  cases resolve url decoded with
  | none => simp
  | some src => simp

namespace TrackInvariant

/-- A call of `analyzeFile` keeps the invariant. -/
lemma analyzeFile {url decoded : Url} (h : TrackInvariant dsp latest s)
    (hstep : s.step dsp (.analyzeFile url decoded) = some (s', out)) :
    TrackInvariant dsp (resolve url decoded) s' := by
  obtain ⟨hsource, -, hurl, hkept, -⟩ := analyzeFile_eq s.analyzer url decoded
  have hcomplete := complete_analyzeFile dsp s.analyzer url decoded
  simp only [AnalyzerProcess.step, hsource] at hstep
  cases hresolve : resolve url decoded with
  | none =>
    rw [hresolve] at hstep
    obtain ⟨rfl, -⟩ := Prod.mk.inj (Option.some.inj hstep)
    refine ⟨fun hdecoding => ?_, h.buffers, by simp, [], hcomplete, by simp⟩
    rw [hkept hresolve]
    exact h.decoding hdecoding
  | some src =>
    rw [hresolve] at hstep
    obtain ⟨rfl, -⟩ := Prod.mk.inj (Option.some.inj hstep)
    have hsame := hurl src hresolve
    refine ⟨fun _ => ?_, by simp [AudioDecoder.startOn], ?_, [], hcomplete, by simp⟩
    · rw [hsame]
      rfl
    · rintro src' hsrc'
      obtain rfl := Option.some.inj hsrc'
      exact ⟨rfl, hsame⟩

/-- A buffer that becomes available keeps the invariant. -/
lemma decode {samples : List σ} (h : TrackInvariant dsp latest s)
    (hstep : s.step dsp (.decode samples) = some (s', out)) : TrackInvariant dsp latest s' := by
  rw [AnalyzerProcess.step] at hstep
  split at hstep
  · next src hdecoding hsource =>
    obtain ⟨rfl, -⟩ := Prod.mk.inj (Option.some.inj hstep)
    refine ⟨h.decoding, ?_, h.current, h.stream⟩
    intro buf hbuf x hx
    rcases List.mem_append.mp hbuf with hbuf | hbuf
    · exact h.buffers buf hbuf x hx
    · obtain rfl := List.mem_singleton.mp hbuf
      obtain ⟨y, -, rfl⟩ := List.mem_map.mp hx
      exact hsource
  · cases hstep

/-- What `bufferReady` does: it extends the stream by the buffers. -/
lemma bufferReady_eq {stream : List (Url × σ)} (hcomplete : Complete dsp stream s.analyzer)
    (hstep : s.step dsp .bufferReady = some (s', out)) :
    out = [] ∧ s'.decoder = { s.decoder with buffers := [] } ∧
      Complete dsp (stream ++ s.decoder.buffers.flatten) s'.analyzer ∧
      s'.analyzer.sourceUrl = s.analyzer.sourceUrl := by
  obtain ⟨a', hread, hextended, hurl, -⟩ := hcomplete.onBufferReady s.decoder.buffers
  rw [AnalyzerProcess.step, hread] at hstep
  obtain ⟨rfl, rfl⟩ := Prod.mk.inj (Option.some.inj hstep)
  exact ⟨rfl, rfl, hextended, hurl⟩

/-- The signal `bufferReady` keeps the invariant. -/
lemma bufferReady (h : TrackInvariant dsp latest s)
    (hstep : s.step dsp .bufferReady = some (s', out)) : TrackInvariant dsp latest s' := by
  obtain ⟨stream, hcomplete, htagged⟩ := h.stream
  obtain ⟨-, hdecoder, hextended, hurl⟩ := bufferReady_eq hcomplete hstep
  refine ⟨?_, by simp [hdecoder], ?_, _, hextended, ?_⟩
  · rw [hdecoder, hurl]
    exact h.decoding
  · rw [hdecoder, hurl]
    exact h.current
  · intro src hsrc x hx
    rcases List.mem_append.mp hx with hx | hx
    · exact htagged src hsrc x hx
    · obtain ⟨buf, hbuf, hx⟩ := List.mem_flatten.mp hx
      exact Option.some.inj ((h.buffers buf hbuf x hx).symm.trans (h.current src hsrc).1)

/-- The signal `finished` keeps the invariant. -/
lemma finished (h : TrackInvariant dsp latest s)
    (hstep : s.step dsp .finished = some (s', out)) : TrackInvariant dsp latest s' := by
  rw [AnalyzerProcess.step] at hstep
  split at hstep
  · obtain ⟨rfl, -⟩ := Prod.mk.inj (Option.some.inj hstep)
    obtain ⟨stream, hcomplete, htagged⟩ := h.stream
    refine ⟨fun hdecoding => absurd hdecoding Bool.false_ne_true, h.buffers, h.current, stream,
      ?_, htagged⟩
    exact ⟨hcomplete.samplesIn, hcomplete.pcm, hcomplete.frames, hcomplete.made⟩
  · cases hstep

/-- Every step keeps the invariant. -/
lemma step {act : AnalyzerAction σ} (h : TrackInvariant dsp latest s)
    (hstep : s.step dsp act = some (s', out)) :
    TrackInvariant dsp (sourceAfter latest act) s' := by
  cases act with
  | analyzeFile url decoded => exact h.analyzeFile hstep
  | decode samples => exact h.decode hstep
  | bufferReady => exact h.bufferReady hstep
  | finished => exact h.finished hstep

/-- As long as the most recent call has not failed, the frames stem from its file. -/
lemma framesFollow (h : TrackInvariant dsp latest s) {src : Url} (hsrc : latest = some src) :
    FramesFollow dsp latest s.analyzer := by
  obtain ⟨stream, hcomplete, htagged⟩ := h.stream
  intro frame hframe
  rw [hcomplete.frames] at hframe
  obtain ⟨k, hk, rfl⟩ := List.mem_map.mp hframe
  have hfits := (Windows.lt_count_iff hopSize_pos).mp (List.mem_range.mp hk)
  exact ⟨src, hsrc, _, _, Windows.length_window hfits,
    fun x hx => htagged src hsrc x (Windows.mem_of_mem_window hx), rfl⟩

end TrackInvariant

/-- The invariant holds at the end of every run. -/
lemma track_invariant (h : (analyzerSystem dsp).Run ts s) :
    TrackInvariant dsp (latestSource ts) s := by
  refine h.invariant_history (I := fun ts s => TrackInvariant dsp (latestSource ts) s) ?_ ?_
  · rintro s rfl
    exact ⟨fun hdecoding => absurd hdecoding Bool.false_ne_true, by simp [AnalyzerProcess.start],
      by simp [latestSource], [], complete_nil rfl rfl rfl, by simp⟩
  · intro ts s a s' out _ hinv hstep
    rw [latestSource_snoc]
    exact hinv.step hstep

/-! ### When the promises are kept -/

/-- When the most recent call has failed, there must not be any frames. -/
lemma framesFollow_none_iff {a : AudioAnalyzer (Url × σ) β γ} :
    FramesFollow dsp none a ↔ a.frames = [] := by
  constructor
  · intro h
    refine List.eq_nil_iff_forall_not_mem.mpr fun frame hframe => ?_
    obtain ⟨src, hsrc, -⟩ := h frame hframe
    cases hsrc
  · intro h frame hframe
    rw [h] at hframe
    exact absurd hframe List.not_mem_nil

/-- The frames follow at the end of a run whose steps do. -/
lemma framesFollow_of_followsLatest (h : (analyzerSystem dsp).Run ts s)
    (hfollows : FollowsLatest dsp ts) : FramesFollow dsp (latestSource ts) s.analyzer := by
  cases h with
  | start hinit =>
    obtain rfl := hinit
    exact framesFollow_none_iff.mpr rfl
  | snoc hrun hstep =>
    have hlast := (everyStep_snoc.mp hfollows).2.1
    rwa [latestSource_snoc]

/-- Buffers that arrive without a frame make a frame exactly when they fill a window. -/
lemma frames_eq_nil_iff {a a' : AudioAnalyzer (Url × σ) β γ} {stream added : List (Url × σ)}
    (h : Complete dsp stream a) (hnone : a.frames = []) (h' : Complete dsp (stream ++ added) a') :
    a'.frames = [] ↔ a.pcm.length + added.length < fftN := by
  have hzero : frameCount stream.length = 0 := by
    have hlength := congrArg List.length (h.frames.symm.trans hnone)
    simpa using hlength
  have hpcm : a.pcm = stream := by
    rw [h.pcm, hzero, Nat.zero_mul, List.drop_zero]
  have hcount : a'.frames = [] ↔ frameCount (stream ++ added).length = 0 := by
    rw [h'.frames, List.map_eq_nil_iff, List.range_eq_nil]
  rw [hcount, hpcm, ← List.length_append]
  constructor
  · intro hno
    by_contra hlong
    have hfirst : 0 < frameCount (stream ++ added).length :=
      (Windows.lt_count_iff hopSize_pos).mpr (by omega)
    omega
  · intro hshort
    exact if_pos hshort

/-- A step keeps the promises exactly when the decoder is quiet in it. -/
lemma stepFollows_iff {act : AnalyzerAction σ} (hrun : (analyzerSystem dsp).Run ts s)
    (hstep : s.step dsp act = some (s', out)) (hfollows : FollowsLatest dsp ts) :
    StepFollows dsp ts ⟨s, act, s', out⟩ ↔ StepQuiet ts ⟨s, act, s', out⟩ := by
  have hinv := track_invariant hrun
  have hinv' := hinv.step hstep
  have hbefore := framesFollow_of_followsLatest hrun hfollows
  cases act with
  | analyzeFile url decoded =>
    obtain ⟨hsource, hframes, -, -, hsilent⟩ := analyzeFile_eq s.analyzer url decoded
    have hcleared : s'.analyzer.frames = [] ∧ ∀ src, .analysisComplete src ∉ out := by
      simp only [AnalyzerProcess.step] at hstep
      split at hstep <;>
        (obtain ⟨rfl, rfl⟩ := Prod.mk.inj (Option.some.inj hstep); exact ⟨hframes, hsilent⟩)
    refine iff_of_true ⟨fun frame hframe => ?_, fun src hmem => ?_⟩ fun _ => trivial
    · rw [hcleared.1] at hframe
      exact absurd hframe List.not_mem_nil
    · exact absurd hmem (hcleared.2 src)
  | decode samples =>
    rw [AnalyzerProcess.step] at hstep
    split at hstep
    · obtain ⟨rfl, rfl⟩ := Prod.mk.inj (Option.some.inj hstep)
      exact iff_of_true ⟨hbefore, by simp⟩ fun _ => trivial
    · cases hstep
  | bufferReady =>
    obtain ⟨stream, hcomplete, -⟩ := hinv.stream
    obtain ⟨rfl, -, hextended, -⟩ := TrackInvariant.bufferReady_eq hcomplete hstep
    cases hlatest : latestSource ts with
    | none =>
      rw [hlatest, framesFollow_none_iff] at hbefore
      have hnone := frames_eq_nil_iff hcomplete hbefore hextended
      simp only [StepFollows, StepQuiet, sourceAfter, hlatest, framesFollow_none_iff, hnone]
      simp
    | some src =>
      have hcurrent : sourceAfter (latestSource ts) (.bufferReady : AnalyzerAction σ) = some src :=
        hlatest
      refine iff_of_true ⟨hinv'.framesFollow hcurrent, by simp⟩ fun hfailed => ?_
      cases hlatest.symm.trans hfailed
  | finished =>
    rw [AnalyzerProcess.step] at hstep
    split at hstep
    · obtain ⟨rfl, rfl⟩ := Prod.mk.inj (Option.some.inj hstep)
      cases hlatest : latestSource ts with
      | none =>
        refine iff_of_false (fun hfollow => ?_) (fun hquiet => hquiet hlatest)
        have hemitted := hfollow.2 s.analyzer.sourceUrl (by simp [onDecoderFinished])
        cases hlatest.symm.trans hemitted
      | some src =>
        refine iff_of_true ⟨hbefore, fun src' hmem => ?_⟩ fun hfailed => ?_
        · have hsame : src' = s.analyzer.sourceUrl := by simpa [onDecoderFinished] using hmem
          rw [hlatest, hsame, (hinv.current src hlatest).2]
        · cases hlatest.symm.trans hfailed
    · cases hstep

/-- **Frames and signals follow the most recent call of `analyzeFile` exactly when the decoder
stays quiet after the calls that fail.** -/
theorem analyzer_follows_latest_iff (h : (analyzerSystem dsp).Run ts s) :
    FollowsLatest dsp ts ↔ StaysQuiet ts :=
  h.everyStep_iff fun _ _ _ _ _ hrun hstep hfollows => stepFollows_iff hrun hstep hfollows

/-! ### Calls that fail while the decoder is idle -/

/-- The decoder is not at work and has no buffers. -/
def AudioDecoder.Idle (d : AudioDecoder σ) : Prop := d.decoding = false ∧ d.buffers = []

/-- A call that fails finds the decoder idle. -/
def FailsIdle (t : AnalyzerTransition σ β γ) : Prop :=
  ∀ url decoded, t.act = .analyzeFile url decoded → resolve url decoded = none →
    t.pre.decoder.Idle

/-- An idle decoder stays idle until a call succeeds. -/
lemma idle_of_latestSource_none (h : (analyzerSystem dsp).Run ts s) (hidle : ∀ t ∈ ts, FailsIdle t)
    (hlatest : latestSource ts = none) : s.decoder.Idle := by
  refine h.invariant_history (I := fun ts s => (∀ t ∈ ts, FailsIdle t) →
    latestSource ts = none → s.decoder.Idle) ?_ ?_ hidle hlatest
  · rintro s rfl - -
    exact ⟨rfl, rfl⟩
  · intro ts s act s' out _ ih hstep hidle hlatest
    have hbefore := ih fun t ht => hidle t (List.mem_append_left _ ht)
    have hlast := hidle _ (List.mem_append_right _ (List.mem_singleton.mpr rfl))
    rw [latestSource_snoc] at hlatest
    cases act with
    | analyzeFile url decoded =>
      have hresolve : resolve url decoded = none := hlatest
      obtain ⟨hsource, -⟩ := analyzeFile_eq s.analyzer url decoded
      have hstep' : s.step dsp (.analyzeFile url decoded) = some (s', out) := hstep
      simp only [AnalyzerProcess.step, hsource, hresolve] at hstep'
      obtain ⟨rfl, -⟩ := Prod.mk.inj (Option.some.inj hstep')
      exact hlast url decoded rfl hresolve
    | decode samples =>
      have hstep' : s.step dsp (.decode samples) = some (s', out) := hstep
      rw [AnalyzerProcess.step, (hbefore hlatest).1] at hstep'
      cases hstep'
    | bufferReady =>
      have hstep' : s.step dsp .bufferReady = some (s', out) := hstep
      rw [AnalyzerProcess.step] at hstep'
      split at hstep'
      · cases hstep'
      · obtain ⟨rfl, -⟩ := Prod.mk.inj (Option.some.inj hstep')
        exact ⟨(hbefore hlatest).1, rfl⟩
    | finished =>
      have hstep' : s.step dsp .finished = some (s', out) := hstep
      rw [AnalyzerProcess.step, (hbefore hlatest).1] at hstep'
      cases hstep'

/-- Calls that fail while the decoder is idle do no harm. -/
theorem followsLatest_of_failsIdle (h : (analyzerSystem dsp).Run ts s)
    (hidle : ∀ t ∈ ts, FailsIdle t) : FollowsLatest dsp ts := by
  refine (analyzer_follows_latest_iff h).mpr ?_
  rintro us t vs rfl hfailed
  obtain ⟨hbefore, hvalid⟩ := h.split
  have hquiet := idle_of_latestSource_none hbefore
    (fun u hu => hidle u (List.mem_append_left _ hu)) hfailed
  obtain ⟨stream, hcomplete, -⟩ := (track_invariant hbefore).stream
  obtain ⟨s, act, s', out⟩ := t
  cases act with
  | analyzeFile url decoded => trivial
  | decode samples => trivial
  | bufferReady =>
    have hshort := hcomplete.short
    have hempty : s.decoder.buffers = [] := hquiet.2
    simpa [hempty] using hshort
  | finished =>
    have hstep : s.step dsp .finished = some (s', out) := hvalid
    have hstopped : s.decoder.decoding = false := hquiet.1
    rw [AnalyzerProcess.step, hstopped] at hstep
    cases hstep

/-! ### Two runs -/

/-- An analyzer that keeps nothing of the samples. -/
def noDsp : Dsp (Url × Unit) Unit Unit := ⟨fun _ => (), fun _ => ()⟩

/-- A file is analyzed to its end before a file is opened that cannot be decoded. -/
def endBeforeFailure : List (AnalyzerAction Unit) :=
  [.analyzeFile "a.mp3".toList [], .finished, .analyzeFile "b.ncm".toList []]

/-- The failure comes when the decoder is done. -/
theorem analyzer_follows_latest_endBeforeFailure :
    ∃ ts s, (analyzerSystem noDsp).Run ts s ∧ ts.map Transition.act = endBeforeFailure ∧
      FollowsLatest noDsp ts := by
  have hrun := System.run_of_exec (analyzerSystem noDsp) endBeforeFailure rfl rfl
  refine ⟨_, _, hrun, rfl, (analyzer_follows_latest_iff hrun).mpr ?_⟩
  change EveryStep StepQuiet ((([] ++ [_]) ++ [_]) ++ [_])
  rw [everyStep_snoc, everyStep_snoc, everyStep_snoc]
  exact ⟨⟨⟨everyStep_nil, fun _ => trivial⟩, fun hfailed => by cases hfailed⟩, fun _ => trivial⟩

/-- A file is opened that cannot be decoded, while the decoder is at work on another one. -/
def failureWhileDecoding : List (AnalyzerAction Unit) :=
  [.analyzeFile "a.mp3".toList [], .analyzeFile "b.ncm".toList [], .finished]

/-- After the failure the analysis of the other file is announced as complete. -/
theorem analyzer_completes_after_failure :
    ∃ ts s, (analyzerSystem noDsp).Run ts s ∧ ts.map Transition.act = failureWhileDecoding ∧
      ¬FollowsLatest noDsp ts := by
  have hrun := System.run_of_exec (analyzerSystem noDsp) failureWhileDecoding rfl rfl
  refine ⟨_, _, hrun, rfl, fun hfollows => ?_⟩
  have hlast := (hfollows [_, _] _ [] rfl).2 "a.mp3".toList (by decide)
  cases hlast

end SystemsDemos
