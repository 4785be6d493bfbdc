import SystemsDemos.Transition.System

/-!
# Channels that lose items

A channel that may lose what it carries but neither reorders nor duplicates it: in every step what
comes out, followed by what is left inside, is a part of what was inside, followed by what goes in.
Over a run the items received are then a subsequence of the items sent.  `keepLast` is the queue of
bounded depth that overwrites its oldest items.
-/

namespace SystemsDemos

variable {σ α ο χ : Type*} {S : System σ α ο}

/-- The law of a channel with contents `content` that may lose items. -/
structure IsLossy (S : System σ α ο) (content : σ → List χ) (sent received : ο → Option χ) :
    Prop where
  init : ∀ s, S.init s → content s = []
  step : ∀ s a s' out, S.step s a = some (s', out) →
    (out.filterMap received ++ content s').Sublist (content s ++ out.filterMap sent)

namespace IsLossy

variable {content : σ → List χ} {sent received : ο → Option χ}
  {ts : List (Transition σ α ο)} {s : σ}

/-- What has been received, followed by the contents, is a subsequence of what has been sent. -/
theorem run (hl : IsLossy S content sent received) (h : S.Run ts s) :
    ((observations ts).filterMap received ++ content s).Sublist
      ((observations ts).filterMap sent) := by
  induction h with
  | start h => simp [hl.init _ h]
  | @snoc ts s s' a out _ hs ih =>
    simp only [observations_append, observations_singleton, List.filterMap_append]
    have hstep := (hl.step _ _ _ _ hs).append_left ((observations ts).filterMap received)
    have hbefore := ih.append_right (out.filterMap sent)
    rw [List.append_assoc] at hbefore ⊢
    exact hstep.trans hbefore

/-- What has been received is a subsequence of what has been sent. -/
theorem received_sublist (hl : IsLossy S content sent received) (h : S.Run ts s) :
    ((observations ts).filterMap received).Sublist ((observations ts).filterMap sent) :=
  (List.sublist_append_left _ _).trans (hl.run h)

end IsLossy

/-- The queue after an item is added, when only the last `depth` items are kept. -/
def keepLast (depth : ℕ) (queue : List χ) (x : χ) : List χ :=
  (queue ++ [x]).drop (queue.length + 1 - depth)

/-- Adding an item loses the oldest ones at most. -/
lemma keepLast_sublist (depth : ℕ) (queue : List χ) (x : χ) :
    (keepLast depth queue x).Sublist (queue ++ [x]) :=
  List.drop_sublist _ _

end SystemsDemos
