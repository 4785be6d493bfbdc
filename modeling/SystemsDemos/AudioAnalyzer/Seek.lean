import SystemsDemos.AudioAnalyzer.Tracks
import SystemsDemos.Ncm.KeyBox
import SystemsDemos.Search.Bisection

/-!
# Seeking in the frames of the audio analyzer

`AudioAnalyzer::seekTo` looks for the frame to show at a position by bisection, and moves what is
shown some way towards it.  The times of the frames increase from frame to frame, so the search
ends with the first frame that is not before the position, or with the last one.  It adds two
indices in an `int`: the sum of the last two of `2 ^ 30 + 2` frames does not fit, and a frame whose
search comes to such a sum is not found (`seekTo_finds_iff`).

### Outline

* `searchLoop`, `seekIndex` and `seekTo`;
* `Selected` and `FindsFrame`, what the search is meant to do;
* the frames of a stream are in order of time;
* `reachLoop` and `lastReachable`, how far the search can come;
* the search among few frames, and among many;
* `seekTo_finds_iff`, and a stream with too many frames.
-/

namespace SystemsDemos

open AudioAnalyzer

variable {α β γ δ σ : Type}

/-! ### The search -/

/-- `m_frames[i]`; there is no element outside of the vector, and an access to one is undefined
behaviour. -/
def frameAtIndex (frames : List (Frame β γ)) (i : ℤ) : Option (Frame β γ) :=
  if 0 ≤ i then frames[i.toNat]? else none

/-- The loop of `seekTo`, with a bound on the number of its iterations.  It fails when it does not
come to its end within the bound, when `lo + hi` is not an `int`, and when `mid` is not the index
of a frame. -/
def searchLoop (frames : List (Frame β γ)) (positionMs : ℤ) : ℕ → ℤ → ℤ → Option ℤ
  | 0, lo, hi => if lo < hi then none else some lo
  | fuel + 1, lo, hi =>
      if lo < hi then
        if lo + hi < 2 ^ 31 then
          let mid := (lo + hi).tdiv 2
          match frameAtIndex frames mid with
          | none => none
          | some frame =>
              if frame.timeMs < positionMs then searchLoop frames positionMs fuel (mid + 1) hi
              else searchLoop frames positionMs fuel lo mid
        else none
      else some lo

/-- `lo` after the loop; an iteration removes an index, so the loop comes to its end before the
bound. -/
def seekIndex (frames : List (Frame β γ)) (positionMs : ℤ) : Option ℤ :=
  searchLoop frames positionMs frames.length 0 (toInt (frames.length - 1))

/-- `seekTo`, where `shown` stands for `m_spectrum` and `m_waveform`, and `fade` for the
floating-point work: what a frame makes of them, and `changed`. -/
def AudioAnalyzer.seekTo (fade : Frame β γ → δ → δ × Bool) (a : AudioAnalyzer α β γ) (shown : δ)
    (positionMs : ℤ) : Option (δ × List AnalyzerSignal) :=
  if a.frames = [] then some (shown, [])
  else do
    let lo ← seekIndex a.frames positionMs
    let f ← frameAtIndex a.frames lo
    let (shown, changed) := fade f shown
    return (shown, if changed then [.spectrumChanged] else [])

/-- Frame `i` is the first one that is not before the position, or it is the last one and all
frames are before the position. -/
structure Selected (frames : List (Frame β γ)) (positionMs : ℤ) (i : ℕ) : Prop where
  before : ∀ j frame, j < i → frames[j]? = some frame → frame.timeMs < positionMs
  chosen : (∃ frame, frames[i]? = some frame ∧ positionMs ≤ frame.timeMs) ∨
    i + 1 = frames.length ∧ ∀ frame ∈ frames, frame.timeMs < positionMs

/-- The search comes to its end, with every index that of a frame, and selects the right frame. -/
def FindsFrame (frames : List (Frame β γ)) (positionMs : ℤ) : Prop :=
  ∃ i : ℕ, seekIndex frames positionMs = some (i : ℤ) ∧ Selected frames positionMs i

/-! ### Frames in order -/

/-- The frames are in order of time, and no two have the same time. -/
def InOrder (frames : List (Frame β γ)) : Prop := frames.Pairwise fun a b => a.timeMs < b.timeMs

/-- There is more than a millisecond from one frame to the next. -/
lemma frameMs_lt {j k : ℕ} (h : j < k) :
    j * hopSize * 1000 / sampleRate < k * hopSize * 1000 / sampleRate := by
  have hstep : j * hopSize * 1000 + sampleRate ≤ k * hopSize * 1000 := by
    unfold hopSize sampleRate
    omega
  calc j * hopSize * 1000 / sampleRate < j * hopSize * 1000 / sampleRate + 1 := Nat.lt_succ_self _
    _ = (j * hopSize * 1000 + sampleRate) / sampleRate :=
        (Nat.add_div_right _ (by decide)).symm
    _ ≤ k * hopSize * 1000 / sampleRate := Nat.div_le_div_right hstep

/-- The frames of a stream are in order. -/
lemma AudioAnalyzer.Complete.inOrder {dsp : Dsp α β γ} {stream : List α}
    {a : AudioAnalyzer α β γ} (h : Complete dsp stream a) : InOrder a.frames := by
  rw [InOrder, h.frames, List.pairwise_map]
  exact List.pairwise_lt_range.imp fun hlt => frameMs_lt hlt

/-- The number of frames of a stream. -/
lemma AudioAnalyzer.Complete.length_frames {dsp : Dsp α β γ} {stream : List α}
    {a : AudioAnalyzer α β γ} (h : Complete dsp stream a) :
    a.frames.length = frameCount stream.length := by
  rw [h.frames, List.length_map, List.length_range]

variable {frames : List (Frame β γ)} {positionMs lo hi : ℤ} {fuel : ℕ}

/-- Earlier frames have smaller times. -/
lemma InOrder.timeMs_le (h : InOrder frames) {i j : ℕ} (hij : i ≤ j) {f g : Frame β γ}
    (hf : frames[i]? = some f) (hg : frames[j]? = some g) : f.timeMs ≤ g.timeMs := by
  rcases Nat.eq_or_lt_of_le hij with rfl | hlt
  · obtain rfl := Option.some.inj (hf.symm.trans hg)
    exact Nat.le_refl _
  · obtain ⟨hi, rfl⟩ := List.getElem?_eq_some_iff.mp hf
    obtain ⟨hj, rfl⟩ := List.getElem?_eq_some_iff.mp hg
    exact Nat.le_of_lt (List.pairwise_iff_getElem.mp h i j hi hj hlt)

/-- An index in the vector is that of a frame. -/
lemma frameAtIndex_natCast (frames : List (Frame β γ)) (i : ℕ) :
    frameAtIndex frames i = frames[i]? := by
  simp [frameAtIndex]

/-- Frame `j` is before the position. -/
def BeforePosition (frames : List (Frame β γ)) (positionMs j : ℤ) : Prop :=
  ∃ frame, frameAtIndex frames j = some frame ∧ frame.timeMs < positionMs

lemma beforePosition_natCast {j : ℕ} :
    BeforePosition frames positionMs j ↔
      ∃ frame, frames[j]? = some frame ∧ frame.timeMs < positionMs := by
  rw [BeforePosition, frameAtIndex_natCast]

/-- The frames in front of a frame before the position are before it too. -/
lemma InOrder.downTo (h : InOrder frames) : DownTo (BeforePosition frames positionMs) := by
  rintro i j hi hij hbefore
  obtain ⟨j, rfl⟩ := Int.eq_ofNat_of_zero_le (le_trans hi hij)
  obtain ⟨i, rfl⟩ := Int.eq_ofNat_of_zero_le hi
  obtain ⟨g, hg, hlt⟩ := beforePosition_natCast.mp hbefore
  obtain ⟨hj, -⟩ := List.getElem?_eq_some_iff.mp hg
  have hij' : i ≤ j := Int.ofNat_le.mp hij
  have hf : frames[i]? = some frames[i] := List.getElem?_eq_getElem (by omega)
  have hle := h.timeMs_le hij' hf hg
  exact beforePosition_natCast.mpr ⟨_, hf, by omega⟩

/-- A bracket around one index holds the frame that is meant. -/
lemma Selected.of_bracket {i : ℕ}
    (h : Bracket (BeforePosition frames positionMs) (frames.length - 1) i i) :
    Selected frames positionMs i := by
  obtain ⟨hbefore, hchosen⟩ := h.first
  refine ⟨fun j frame hlt hframe => ?_, ?_⟩
  · obtain ⟨g, hg, htime⟩ :=
      beforePosition_natCast.mp (hbefore j (Int.natCast_nonneg j) (Int.ofNat_lt.mpr hlt))
    obtain rfl := Option.some.inj (hframe.symm.trans hg)
    exact htime
  · have hinside := h.inside
    have hf : frames[i]? = some frames[i] := List.getElem?_eq_getElem (by omega)
    rcases hchosen with hstop | ⟨hlast, hall⟩
    · refine .inl ⟨_, hf, ?_⟩
      by_contra hlt
      exact hstop (beforePosition_natCast.mpr ⟨_, hf, not_le.mp hlt⟩)
    · refine .inr ⟨by omega, fun frame hmem => ?_⟩
      obtain ⟨j, hj, rfl⟩ := List.getElem_of_mem hmem
      obtain ⟨g, hg, htime⟩ :=
        beforePosition_natCast.mp (hall j (Int.natCast_nonneg j) (by omega))
      obtain rfl := Option.some.inj ((List.getElem?_eq_getElem hj).symm.trans hg)
      exact htime

/-- The frame that is meant exists. -/
lemma Selected.lt_length {i : ℕ} (h : Selected frames positionMs i) : i < frames.length := by
  rcases h.chosen with ⟨frame, hframe, -⟩ | ⟨hlast, -⟩
  · exact (List.getElem?_eq_some_iff.mp hframe).1
  · omega

/-- The frame that is meant is the one that is searched for up to any later index. -/
lemma Selected.bracket {i : ℕ} (h : Selected frames positionMs i) {last : ℤ} (hi : i ≤ last)
    (hlast : last < frames.length) : Bracket (BeforePosition frames positionMs) last i i where
  nonneg := Int.natCast_nonneg i
  ordered := le_refl _
  inside := hi
  before j hj hlt := by
    obtain ⟨j, rfl⟩ := Int.eq_ofNat_of_zero_le hj
    have hlt' : j < i := Int.ofNat_lt.mp hlt
    have hget : frames[j]? = some frames[j] := List.getElem?_eq_getElem (by omega)
    exact beforePosition_natCast.mpr ⟨_, hget, h.before j _ hlt' hget⟩
  stop := by
    rcases h.chosen with ⟨frame, hframe, htime⟩ | ⟨hend, -⟩
    · right
      intro hbefore
      obtain ⟨g, hg, hlt⟩ := beforePosition_natCast.mp hbefore
      obtain rfl := Option.some.inj (hframe.symm.trans hg)
      exact absurd htime (not_le_of_gt hlt)
    · left
      omega

/-! ### The loop -/

/-- The last index that the loop can come to without adding two indices to `2 ^ 31` or more: it
would have to look at frames further and further to the right. -/
def reachLoop (hi : ℤ) : ℕ → ℤ → ℤ
  | 0, lo => lo
  | fuel + 1, lo =>
      if lo < hi then
        if lo + hi < 2 ^ 31 then reachLoop hi fuel ((lo + hi).tdiv 2 + 1) else lo - 1
      else lo

/-- The last index that a search among `n` frames can come to. -/
def lastReachable (n : ℕ) : ℤ := reachLoop (toInt (n - 1)) n 0

/-- The loop stops at one index. -/
lemma searchLoop_of_le (hle : hi ≤ lo) (fuel : ℕ) :
    searchLoop frames positionMs fuel lo hi = some lo := by
  cases fuel with
  | zero => exact if_neg (not_lt.mpr hle)
  | succ fuel => exact if_neg (not_lt.mpr hle)

lemma reachLoop_of_le (hle : hi ≤ lo) (fuel : ℕ) : reachLoop hi fuel lo = lo := by
  cases fuel with
  | zero => rfl
  | succ fuel => exact if_neg (not_lt.mpr hle)

/-- An iteration that adds two indices to an `int` looks at a frame. -/
lemma searchLoop_step (hlo : 0 ≤ lo) (hlt : lo < hi) (hin : hi < frames.length)
    (hfits : lo + hi < 2 ^ 31) (positionMs : ℤ) (fuel : ℕ) :
    (BeforePosition frames positionMs ((lo + hi).tdiv 2) ∧
        searchLoop frames positionMs (fuel + 1) lo hi =
          searchLoop frames positionMs fuel ((lo + hi).tdiv 2 + 1) hi) ∨
      ¬BeforePosition frames positionMs ((lo + hi).tdiv 2) ∧
        searchLoop frames positionMs (fuel + 1) lo hi =
          searchLoop frames positionMs fuel lo ((lo + hi).tdiv 2) := by
  have hhalf : (lo + hi).tdiv 2 = (lo + hi) / 2 := Int.tdiv_eq_ediv_of_nonneg (by omega)
  obtain ⟨mid, hmid⟩ := Int.eq_ofNat_of_zero_le (by omega : 0 ≤ (lo + hi).tdiv 2)
  have hget : frames[mid]? = some frames[mid] := List.getElem?_eq_getElem (by omega)
  have hframe : frameAtIndex frames ((lo + hi).tdiv 2) = some frames[mid] := by
    rw [hmid]
    exact (frameAtIndex_natCast frames mid).trans hget
  rw [searchLoop, if_pos hlt, if_pos hfits]
  dsimp only
  rw [hframe]
  by_cases htime : (frames[mid].timeMs : ℤ) < positionMs
  · exact .inl ⟨⟨_, hframe, htime⟩, if_pos htime⟩
  · refine .inr ⟨?_, if_neg htime⟩
    rintro ⟨g, hg, hbefore⟩
    obtain rfl := Option.some.inj (hframe.symm.trans hg)
    exact htime hbefore

section Loop

variable {last : ℤ} (horder : InOrder frames)

include horder

/-- From an index that is not too large the loop narrows the bracket to one index. -/
lemma searchLoop_of_low (hlow : hi ≤ 2 ^ 30) (hin : hi < frames.length)
    (h : Bracket (BeforePosition frames positionMs) last lo hi) (hfuel : hi - lo ≤ fuel) :
    ∃ i, searchLoop frames positionMs fuel lo hi = some i ∧
      Bracket (BeforePosition frames positionMs) last i i := by
  induction fuel generalizing lo hi with
  | zero =>
    obtain rfl : lo = hi := le_antisymm h.ordered (by omega)
    exact ⟨lo, searchLoop_of_le (le_refl _) 0, h⟩
  | succ fuel ih =>
    rcases lt_or_eq_of_le h.ordered with hlt | rfl
    · obtain ⟨hleft, hright⟩ := h.middle hlt
      rcases searchLoop_step h.nonneg hlt hin (by omega) positionMs fuel with
        ⟨hbefore, hloop⟩ | ⟨hbefore, hloop⟩
      · rw [hloop]
        exact ih hlow hin (h.right horder.downTo hleft hright hbefore) (by omega)
      · rw [hloop]
        exact ih (by omega) (by omega) (h.left hleft hright hbefore) (by omega)
    · exact ⟨lo, searchLoop_of_le (le_refl _) _, h⟩

omit horder in
/-- The loop comes at least to where it is. -/
lemma le_reachLoop (hi : ℤ) (fuel : ℕ) (lo : ℤ) (hlo : 0 ≤ lo) : lo - 1 ≤ reachLoop hi fuel lo := by
  induction fuel generalizing lo with
  | zero => exact sub_le_self lo zero_le_one
  | succ fuel ih =>
    rw [reachLoop]
    split
    · next hlt =>
      have hhalf : (lo + hi).tdiv 2 = (lo + hi) / 2 := Int.tdiv_eq_ediv_of_nonneg (by omega)
      split
      · have hrest := ih ((lo + hi).tdiv 2 + 1) (by omega)
        omega
      · exact le_refl _
    · exact sub_le_self lo zero_le_one

omit horder in
/-- The loop comes no further than to its last index. -/
lemma reachLoop_le (hi : ℤ) (fuel : ℕ) (lo : ℤ) (hlo : 0 ≤ lo) :
    reachLoop hi fuel lo ≤ max lo hi := by
  induction fuel generalizing lo with
  | zero => exact le_max_left _ _
  | succ fuel ih =>
    rw [reachLoop]
    split
    · next hlt =>
      have hhalf : (lo + hi).tdiv 2 = (lo + hi) / 2 := Int.tdiv_eq_ediv_of_nonneg (by omega)
      split
      · have hrest := ih ((lo + hi).tdiv 2 + 1) (by omega)
        omega
      · omega
    · exact le_max_left _ _

/-- The loop comes to the index that is searched for exactly when this can be reached: to the left
of a frame that it has looked at no sum is too large. -/
lemma searchLoop_eq_iff {i : ℤ} (hin : hi < frames.length)
    (h : Bracket (BeforePosition frames positionMs) last lo hi) (hfuel : hi - lo ≤ fuel)
    (hi' : Bracket (BeforePosition frames positionMs) last i i) :
    searchLoop frames positionMs fuel lo hi = some i ↔ i ≤ reachLoop hi fuel lo := by
  induction fuel generalizing lo with
  | zero =>
    obtain rfl : lo = hi := le_antisymm h.ordered (by omega)
    exact iff_of_true (h.unique hi' ▸ searchLoop_of_le (le_refl _) 0) (h.mem hi').2
  | succ fuel ih =>
    rcases lt_or_eq_of_le h.ordered with hlt | rfl
    · obtain ⟨hleft, hright⟩ := h.middle hlt
      by_cases hfits : lo + hi < 2 ^ 31
      · have hreach : reachLoop hi (fuel + 1) lo =
            reachLoop hi fuel ((lo + hi).tdiv 2 + 1) := (if_pos hlt).trans (if_pos hfits)
        rw [hreach]
        rcases searchLoop_step h.nonneg hlt hin hfits positionMs fuel with
          ⟨hbefore, hloop⟩ | ⟨hbefore, hloop⟩
        · rw [hloop]
          exact ih (h.right horder.downTo hleft hright hbefore) (by omega)
        · have hnonneg := h.nonneg
          have hhalf : (lo + hi).tdiv 2 = (lo + hi) / 2 :=
            Int.tdiv_eq_ediv_of_nonneg (by omega)
          have hcloser := h.left hleft hright hbefore
          obtain ⟨j, hj, hbracket⟩ :
              ∃ j, searchLoop frames positionMs fuel lo ((lo + hi).tdiv 2) = some j ∧
                Bracket (BeforePosition frames positionMs) last j j :=
            searchLoop_of_low horder (by omega) (by omega) hcloser (by omega)
          have hsame : j = i := hbracket.unique hi'
          have hle := (hcloser.mem hi').2
          have hfar := le_reachLoop hi fuel ((lo + hi).tdiv 2 + 1) (by omega)
          exact iff_of_true (hloop.trans (hj.trans (congrArg some hsame))) (by omega)
      · have hnone : searchLoop frames positionMs (fuel + 1) lo hi = none :=
          (if_pos hlt).trans (if_neg hfits)
        have hreach : reachLoop hi (fuel + 1) lo = lo - 1 := (if_pos hlt).trans (if_neg hfits)
        have hle := (h.mem hi').1
        rw [hnone, hreach]
        exact iff_of_false (by simp) (by omega)
    · rw [h.unique hi', searchLoop_of_le (le_refl _), reachLoop_of_le (le_refl _)]
      exact iff_of_true rfl (le_refl _)

end Loop

/-! ### The search -/

/-- A small number is kept by the conversion to `int`. -/
lemma toInt_eq_self {x : ℤ} (hnonneg : 0 ≤ x) (hlt : x < 2 ^ 31) : toInt x = x := by
  unfold toInt
  rw [Int.bmod_eq_of_le]
  · omega
  · omega

/-- The conversion to `int` yields an `int`, which is not larger. -/
lemma toInt_lt {x : ℤ} (hnonneg : 0 ≤ x) : toInt x < 2 ^ 31 ∧ toInt x ≤ x := by
  unfold toInt
  rw [Int.bmod_def]
  omega

/-- The index that is found is one of those searched. -/
lemma searchLoop_le {i : ℤ} (h : searchLoop frames positionMs fuel lo hi = some i)
    (hlo : 0 ≤ lo) : i ≤ max lo hi := by
  induction fuel generalizing lo hi with
  | zero =>
    rw [searchLoop] at h
    split at h
    · cases h
    · obtain rfl := Option.some.inj h
      exact le_max_left _ _
  | succ fuel ih =>
    rw [searchLoop] at h
    split at h
    · next hlt =>
      have hmid : (lo + hi).tdiv 2 = (lo + hi) / 2 := Int.tdiv_eq_ediv_of_nonneg (by omega)
      split at h
      · dsimp only at h
        split at h
        · cases h
        · split at h
          · have hle := ih h (by omega)
            omega
          · have hle := ih h hlo
            omega
      · cases h
    · obtain rfl := Option.some.inj h
      exact le_max_left _ _

/-- The search comes to the frame that is meant exactly when its index can be reached. -/
lemma seekIndex_eq_iff (horder : InOrder frames) {i : ℕ} (hi : Selected frames positionMs i) :
    seekIndex frames positionMs = some (i : ℤ) ↔ i ≤ lastReachable frames.length := by
  have hlength := hi.lt_length
  obtain ⟨-, hle⟩ := toInt_lt (x := (frames.length : ℤ) - 1) (by omega)
  unfold seekIndex lastReachable
  rcases lt_or_ge (toInt ((frames.length : ℤ) - 1)) 0 with hneg | hnonneg
  · -- so many frames that their number is a negative `int`: the loop does not begin
    rw [searchLoop_of_le (le_of_lt hneg), reachLoop_of_le (le_of_lt hneg)]
    simp only [Option.some.injEq]
    omega
  · by_cases hi' : (i : ℤ) ≤ toInt ((frames.length : ℤ) - 1)
    · exact searchLoop_eq_iff horder (by omega) (.whole hnonneg) (by omega)
        (hi.bracket hi' (by omega))
    · have hreach := reachLoop_le (toInt ((frames.length : ℤ) - 1)) frames.length 0 (le_refl 0)
      refine iff_of_false (fun hsearch => ?_) (by omega)
      have hfound := searchLoop_le hsearch (le_refl 0)
      omega

/-- Among frames in order the search finds the one that is meant exactly when it can reach it. -/
lemma findsFrame_iff (horder : InOrder frames) :
    FindsFrame frames positionMs ↔
      ∃ i : ℕ, Selected frames positionMs i ∧ i ≤ lastReachable frames.length := by
  constructor
  · rintro ⟨i, hsearch, hselected⟩
    exact ⟨i, hselected, (seekIndex_eq_iff horder hselected).mp hsearch⟩
  · rintro ⟨i, hselected, hreach⟩
    exact ⟨i, (seekIndex_eq_iff horder hselected).mpr hreach, hselected⟩

/-- Among few frames the search finds the one that is meant. -/
lemma findsFrame_of_few (horder : InOrder frames) (hne : frames ≠ [])
    (hfew : frames.length ≤ 2 ^ 30 + 1) (positionMs : ℤ) : FindsFrame frames positionMs := by
  have hpos := List.length_pos_of_ne_nil hne
  have hwhole : Bracket (BeforePosition frames positionMs) (frames.length - 1) 0
      (frames.length - 1) := .whole (by omega)
  obtain ⟨i, hloop, hbracket⟩ : ∃ i, searchLoop frames positionMs frames.length 0
      (frames.length - 1) = some i ∧
        Bracket (BeforePosition frames positionMs) (frames.length - 1) i i :=
    searchLoop_of_low horder (by omega) (by omega) hwhole (by omega)
  obtain ⟨i, rfl⟩ := Int.eq_ofNat_of_zero_le hbracket.nonneg
  refine ⟨i, ?_, .of_bracket hbracket⟩
  rw [seekIndex, toInt_eq_self (by omega) (by omega)]
  exact hloop

/-- From an index that is too large the loop cannot come to its last index. -/
lemma reachLoop_lt (hhigh : 2 ^ 30 + 1 ≤ hi) (hlo : 0 ≤ lo) (hlt : lo < hi) (fuel : ℕ) :
    reachLoop hi fuel lo < hi := by
  induction fuel generalizing lo with
  | zero => exact hlt
  | succ fuel ih =>
    rw [reachLoop, if_pos hlt]
    split
    · have hhalf : (lo + hi).tdiv 2 = (lo + hi) / 2 := Int.tdiv_eq_ediv_of_nonneg (by omega)
      exact ih (by omega) (by omega)
    · omega

/-- Among many frames the last one cannot be reached. -/
lemma lastReachable_lt {n : ℕ} (hmany : 2 ^ 30 + 1 < n) : lastReachable n < n - 1 := by
  obtain ⟨hint, hle⟩ := toInt_lt (x := (n : ℤ) - 1) (by omega)
  unfold lastReachable
  rcases lt_or_ge (toInt ((n : ℤ) - 1)) (2 ^ 30 + 1) with hsmall | hlarge
  · have hreach := reachLoop_le (toInt ((n : ℤ) - 1)) n 0 (le_refl 0)
    omega
  · have hreach := reachLoop_lt hlarge (le_refl 0) (by omega) n
    omega

/-- At the time of the last frame this is the frame that is meant. -/
lemma InOrder.selected_last (horder : InOrder frames) {frame : Frame β γ}
    (hlast : frames[frames.length - 1]? = some frame) :
    Selected frames frame.timeMs (frames.length - 1) where
  before j g hlt hg := by
    obtain ⟨hend, rfl⟩ := List.getElem?_eq_some_iff.mp hlast
    obtain ⟨hj, rfl⟩ := List.getElem?_eq_some_iff.mp hg
    exact Int.ofNat_lt.mpr (List.pairwise_iff_getElem.mp horder j _ hj hend hlt)
  chosen := .inl ⟨frame, hlast, le_refl _⟩

/-- Only one frame is meant. -/
lemma Selected.unique {i j : ℕ} (hi : Selected frames positionMs i)
    (hj : Selected frames positionMs j) : i = j := by
  have hilength := hi.lt_length
  have hjlength := hj.lt_length
  have hi' : Bracket (BeforePosition frames positionMs) (frames.length - 1) i i :=
    hi.bracket (by omega) (by omega)
  have hj' : Bracket (BeforePosition frames positionMs) (frames.length - 1) j j :=
    hj.bracket (by omega) (by omega)
  exact Int.ofNat_inj.mp (hi'.unique hj')

/-- Among many frames the search for the last one fails. -/
lemma not_findsFrame_of_many (horder : InOrder frames) (hmany : 2 ^ 30 + 1 < frames.length)
    {frame : Frame β γ} (hlast : frames[frames.length - 1]? = some frame) :
    ¬FindsFrame frames frame.timeMs := by
  rw [findsFrame_iff horder]
  rintro ⟨i, hselected, hreach⟩
  have hi := hselected.unique (horder.selected_last hlast)
  have hless := lastReachable_lt hmany
  omega

/-! ### Frames of a run -/

/-- What is shown moves towards the frame that is found. -/
lemma AudioAnalyzer.seekTo_of_findsFrame {a : AudioAnalyzer α β γ} (hne : a.frames ≠ [])
    (h : FindsFrame a.frames positionMs) (fade : Frame β γ → δ → δ × Bool) (shown : δ) :
    ∃ i frame, Selected a.frames positionMs i ∧ a.frames[i]? = some frame ∧
      a.seekTo fade shown positionMs = some ((fade frame shown).1,
        if (fade frame shown).2 then [.spectrumChanged] else []) := by
  obtain ⟨i, hsearch, hselected⟩ := h
  have hi : i < a.frames.length := hselected.lt_length
  refine ⟨i, a.frames[i], hselected, List.getElem?_eq_getElem hi, ?_⟩
  rw [seekTo, if_neg hne, hsearch]
  simp only [Option.bind_eq_bind, Option.bind_some, frameAtIndex_natCast,
    List.getElem?_eq_getElem hi]
  rfl

/-- **A position finds its frame exactly when the search can reach it.**  Whatever the analyzer and
its decoder have done, the search for a position comes to its end, looks at frames only, and selects
the first frame that is not before the position, or else the last one, if and only if the index of
this frame can be reached; and every position finds its frame if and only if there are at most
`2 ^ 30 + 1` frames. -/
theorem seekTo_finds_iff {dsp : Dsp (Url × σ) β γ} {ts : List (AnalyzerTransition σ β γ)}
    {s : AnalyzerProcess σ β γ} (h : (analyzerSystem dsp).Run ts s) :
    (∀ positionMs, FindsFrame s.analyzer.frames positionMs ↔
        ∃ i : ℕ, Selected s.analyzer.frames positionMs i ∧
          i ≤ lastReachable s.analyzer.frames.length) ∧
      ((∀ positionMs, s.analyzer.frames ≠ [] → FindsFrame s.analyzer.frames positionMs) ↔
        s.analyzer.frames.length ≤ 2 ^ 30 + 1) := by
  obtain ⟨stream, hcomplete, -⟩ := (track_invariant h).stream
  refine ⟨fun positionMs => findsFrame_iff hcomplete.inOrder, ?_⟩
  constructor
  · intro hfinds
    by_contra hmany
    have hlong : 2 ^ 30 + 1 < s.analyzer.frames.length := Nat.lt_of_not_le hmany
    have hlast : s.analyzer.frames[s.analyzer.frames.length - 1]? =
        some s.analyzer.frames[s.analyzer.frames.length - 1] :=
      List.getElem?_eq_getElem (by omega)
    refine not_findsFrame_of_many hcomplete.inOrder hlong hlast (hfinds _ ?_)
    exact List.ne_nil_of_length_pos (by omega)
  · intro hfew positionMs hne
    exact findsFrame_of_few hcomplete.inOrder hne hfew positionMs

/-- A file is opened, and its samples arrive in one buffer. -/
def oneTrack (samples : List σ) : List (AnalyzerAction σ) :=
  [.analyzeFile "a.mp3".toList [], .decode samples, .bufferReady]

/-- The frames of the file have been made then. -/
lemma exists_run_oneTrack (dsp : Dsp (Url × σ) β γ) (samples : List σ) :
    ∃ ts s stream, (analyzerSystem dsp).Run ts s ∧ ts.map Transition.act = oneTrack samples ∧
      stream.length = samples.length ∧ Complete dsp stream s.analyzer := by
  let track : Url := "a.mp3".toList
  let opened : AnalyzerProcess σ β γ :=
    ⟨(AnalyzerProcess.start.analyzer.analyzeFile track []).1, .startOn track⟩
  let buffer := samples.map fun x => (track, x)
  let loaded : AnalyzerProcess σ β γ := { opened with decoder := ⟨some track, true, [buffer]⟩ }
  have hopen : (analyzerSystem dsp).step .start (.analyzeFile track []) =
      some (opened, [.busyChanged, .spectrumChanged]) := rfl
  have hdecode : (analyzerSystem dsp).step opened (.decode samples) = some (loaded, []) := rfl
  obtain ⟨a, hread, hcomplete, -, -⟩ :=
    (complete_analyzeFile dsp AnalyzerProcess.start.analyzer track []).onBufferReady [buffer]
  let ready : AnalyzerProcess σ β γ := ⟨a, { loaded.decoder with buffers := [] }⟩
  have hready : (analyzerSystem dsp).step loaded .bufferReady = some (ready, []) := by
    have hloaded : loaded.analyzer.onBufferReady dsp loaded.decoder.buffers = some a := hread
    change loaded.step dsp .bufferReady = _
    rw [AnalyzerProcess.step, hloaded]
  have hrun : (analyzerSystem dsp).Run _ ready :=
    .snoc (.snoc (.snoc (.start rfl) hopen) hdecode) hready
  refine ⟨_, ready, _, hrun, rfl, ?_, hcomplete⟩
  simp [buffer]

/-- A short track, with two frames. -/
theorem seekTo_finds_shortTrack :
    ∃ ts s, (analyzerSystem noDsp).Run ts s ∧
      ts.map Transition.act = oneTrack (List.replicate (fftN + hopSize) ()) ∧
      s.analyzer.frames.length = 2 ∧
      ∀ positionMs, s.analyzer.frames ≠ [] → FindsFrame s.analyzer.frames positionMs := by
  obtain ⟨ts, s, stream, hrun, hacts, hlength, hcomplete⟩ :=
    exists_run_oneTrack noDsp (List.replicate (fftN + hopSize) ())
  have htwo : s.analyzer.frames.length = 2 := by
    rw [hcomplete.length_frames, hlength, List.length_replicate]
    decide
  refine ⟨ts, s, hrun, hacts, htwo, (seekTo_finds_iff hrun).2.mpr ?_⟩
  rw [htwo]
  norm_num

/-- A stream with `n + 1` frames, and nothing behind them. -/
lemma frameCount_eq (n : ℕ) : frameCount (fftN + n * hopSize) = n + 1 := by
  have hlast : n < Windows.count hopSize fftN (fftN + n * hopSize) ↔
      n * hopSize + fftN ≤ fftN + n * hopSize := Windows.lt_count_iff hopSize_pos
  have hnext : n + 1 < Windows.count hopSize fftN (fftN + n * hopSize) ↔
      (n + 1) * hopSize + fftN ≤ fftN + n * hopSize := Windows.lt_count_iff hopSize_pos
  have hpos := hopSize_pos
  rw [Nat.succ_mul] at hnext
  unfold frameCount
  omega

/-- The last index of the long track. -/
def lastIndex : ℕ := 2 ^ 30 + 1

/-- A track of `2 ^ 30 + 2` frames, and the position of the last one: the sum of `lo` and `hi`
leaves the range of an `int`. -/
theorem seekTo_overflow :
    ∃ ts s, (analyzerSystem noDsp).Run ts s ∧
      ts.map Transition.act = oneTrack (List.replicate (fftN + lastIndex * hopSize) ()) ∧
      s.analyzer.frames.length = lastIndex + 1 ∧
      ¬FindsFrame s.analyzer.frames (lastIndex * hopSize * 1000 / sampleRate : ℕ) := by
  obtain ⟨ts, s, stream, hrun, hacts, hlength, hcomplete⟩ :=
    exists_run_oneTrack noDsp (List.replicate (fftN + lastIndex * hopSize) ())
  have hcount : frameCount stream.length = lastIndex + 1 := by
    rw [hlength, List.length_replicate, frameCount_eq]
  have hframes : s.analyzer.frames.length = lastIndex + 1 := by
    rw [hcomplete.length_frames, hcount]
  have hmany : 2 ^ 30 + 1 < s.analyzer.frames.length := by
    rw [hframes]
    exact Nat.lt_succ_self _
  have hlast : s.analyzer.frames[s.analyzer.frames.length - 1]? =
      some (frameAt noDsp stream lastIndex) := by
    rw [hframes, hcomplete.frames, hcount, List.getElem?_map, Nat.add_sub_cancel,
      List.getElem?_range (Nat.lt_succ_self _)]
    rfl
  exact ⟨ts, s, hrun, hacts, hframes, not_findsFrame_of_many hcomplete.inOrder hmany hlast⟩

end SystemsDemos
