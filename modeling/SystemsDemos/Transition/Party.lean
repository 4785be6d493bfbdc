import SystemsDemos.Transition.System

/-!
# Parties of a system

A system that is composed of several parties takes each of its steps in one or more of them.  For
a party with states `f s`, `part` reads off a transition of the whole system what the party does
in it.  `IsParty.run` is the projection of runs: what a party does in a run of the whole system is
a run of the party.  `System.Run.observations_part` is what it makes visible there.
-/

namespace SystemsDemos

variable {σ τ α β ο ο' : Type*} {S : System σ α ο} {A : System τ β ο'} {f : σ → τ}
  {part : Transition σ α ο → Option (Transition τ β ο')}

/-- `A` is a party of `S`: each transition of `S` is a transition of `A` as `part` says, or leaves
the state of `A` alone. -/
structure IsParty (S : System σ α ο) (A : System τ β ο') (f : σ → τ)
    (part : Transition σ α ο → Option (Transition τ β ο')) : Prop where
  init : ∀ s, S.init s → A.init (f s)
  idle : ∀ t, S.Valid t → part t = none → f t.post = f t.pre
  move : ∀ t u, S.Valid t → part t = some u → u.pre = f t.pre ∧ u.post = f t.post ∧ A.Valid u

namespace IsParty

/-- What a party does in a run of the whole system is a run of the party. -/
theorem run (hp : IsParty S A f part) {ts : List (Transition σ α ο)} {s : σ} (h : S.Run ts s) :
    A.Run (ts.filterMap part) (f s) := by
  induction h with
  | start hinit => exact .start (hp.init _ hinit)
  | @snoc ts s s' a out _ hstep ih =>
    have hwhole : S.Valid ⟨s, a, s', out⟩ := hstep
    rw [List.filterMap_append]
    cases hpart : part ⟨s, a, s', out⟩ with
    | none =>
      have hsame : f s' = f s := hp.idle _ hwhole hpart
      simpa [hpart, hsame] using ih
    | some u =>
      obtain ⟨hpre, hpost, hvalid⟩ := hp.move _ u hwhole hpart
      obtain ⟨pre, act, post, out'⟩ := u
      obtain rfl : pre = f s := hpre
      obtain rfl : post = f s' := hpost
      simpa [hpart] using ih.snoc hvalid

/-- In every reachable state of the whole system the party is in a reachable state of its own. -/
theorem reachable (hp : IsParty S A f part) {s : σ} (h : S.Reachable s) : A.Reachable (f s) := by
  obtain ⟨ts, hrun⟩ := h
  exact ⟨_, hp.run hrun⟩

end IsParty

/-- Where the part of each transition carries what `g` keeps of its observations, so does the part
of a run. -/
theorem System.Run.observations_part {g : ο → Option ο'} {ts : List (Transition σ α ο)} {s : σ}
    (h : S.Run ts s)
    (hout : ∀ t, S.Valid t → (part t).elim [] Transition.out = t.out.filterMap g) :
    observations (ts.filterMap part) = (observations ts).filterMap g := by
  induction h with
  | start => rfl
  | @snoc ts s s' a out _ hstep ih =>
    have hlast := hout ⟨s, a, s', out⟩ hstep
    rw [List.filterMap_append, observations_append, ih, observations_append,
      observations_singleton, List.filterMap_append]
    congr 1
    rw [← hlast]
    cases hpart : part ⟨s, a, s', out⟩ with
    | none => simp [hpart]
    | some u => simp [hpart]

end SystemsDemos
