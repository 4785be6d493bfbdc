import SystemsDemos.Transition.System

/-!
# Streams

A stream carries items in chunks of any size: each observation puts a chunk in or takes one out.
In every step the contents followed by what goes in are what comes out followed by the contents
left; over a run everything that has gone in is everything that has come out followed by the
contents.
-/

namespace SystemsDemos

variable {σ α ο χ : Type*} {S : System σ α ο}

/-- The conservation law of a stream with contents `content`. -/
structure IsStream (S : System σ α ο) (content : σ → List χ) (sent received : ο → List χ) :
    Prop where
  init : ∀ s, S.init s → content s = []
  step : ∀ s a s' out, S.step s a = some (s', out) →
    content s ++ out.flatMap sent = out.flatMap received ++ content s'

namespace IsStream

variable {content : σ → List χ} {sent received : ο → List χ}
  {ts : List (Transition σ α ο)} {s : σ}

/-- What has gone in is what has come out followed by the contents. -/
theorem run (hs : IsStream S content sent received) (h : S.Run ts s) :
    (observations ts).flatMap sent = (observations ts).flatMap received ++ content s := by
  induction h with
  | start h => simp [hs.init _ h]
  | snoc _ hstep ih =>
    simp only [observations_append, observations_singleton, List.flatMap_append, ih,
      List.append_assoc, hs.step _ _ _ _ hstep]

/-- What has come out is a prefix of what has gone in. -/
theorem received_prefix (hs : IsStream S content sent received) (h : S.Run ts s) :
    (observations ts).flatMap received <+: (observations ts).flatMap sent :=
  ⟨content s, (hs.run h).symm⟩

end IsStream

end SystemsDemos
