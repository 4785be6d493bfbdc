import SystemsDemos.Transition.System

/-!
# First-in first-out channels

A system is a first-in first-out channel when every step conserves the sequence "contents, then
what is sent now" as "what is received now, then the contents left".  `IsFifo.run` sums this
up over a run: everything sent so far is everything received so far followed by the contents.
Order, absence of loss and absence of duplication are corollaries.
-/

namespace SystemsDemos

variable {σ α ο χ : Type*} {S : System σ α ο}

/-- The conservation law of a channel with contents `content`, whose observations `sent` and
`received` extract the items that go in and come out. -/
structure IsFifo (S : System σ α ο) (content : σ → List χ) (sent received : ο → Option χ) :
    Prop where
  init : ∀ s, S.init s → content s = []
  step : ∀ s a s' out, S.step s a = some (s', out) →
    content s ++ out.filterMap sent = out.filterMap received ++ content s'

namespace IsFifo

variable {content : σ → List χ} {sent received : ο → Option χ}
  {ts : List (Transition σ α ο)} {s : σ}

/-- At the end of every run the items sent are the items received followed by the contents. -/
theorem run (hf : IsFifo S content sent received) (h : S.Run ts s) :
    (observations ts).filterMap sent = (observations ts).filterMap received ++ content s := by
  induction h with
  | start h => simp [hf.init _ h]
  | snoc _ hs ih =>
    simp only [observations_append, observations_singleton, List.filterMap_append, ih,
      List.append_assoc, hf.step _ _ _ _ hs]

/-- What has been received is a prefix of what has been sent: nothing is reordered. -/
theorem received_prefix (hf : IsFifo S content sent received) (h : S.Run ts s) :
    (observations ts).filterMap received <+: (observations ts).filterMap sent :=
  ⟨content s, (hf.run h).symm⟩

/-- Once the contents are gone, exactly what was sent has been received. -/
theorem received_eq_sent (hf : IsFifo S content sent received) (h : S.Run ts s)
    (hempty : content s = []) :
    (observations ts).filterMap received = (observations ts).filterMap sent := by
  rw [hf.run h, hempty, List.append_nil]

end IsFifo

end SystemsDemos
