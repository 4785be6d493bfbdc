import SystemsDemos.Transition.System

/-!
# Laws about every step of a run

A law that each step obeys in view of the steps before it, and the last of the items that the steps
yield.
-/

namespace SystemsDemos

variable {σ α ο : Type*}

/-- Every transition obeys the law `P`, given the transitions before it. -/
def EveryStep (P : List (Transition σ α ο) → Transition σ α ο → Prop)
    (ts : List (Transition σ α ο)) : Prop :=
  ∀ us t vs, ts = us ++ t :: vs → P us t

variable {P Q : List (Transition σ α ο) → Transition σ α ο → Prop}
  {ts : List (Transition σ α ο)} {t : Transition σ α ο}

/-- There is no law to obey without a step. -/
lemma everyStep_nil : EveryStep P [] := by
  intro us t vs h
  simp at h

/-- One step more obeys the law. -/
lemma everyStep_snoc : EveryStep P (ts ++ [t]) ↔ EveryStep P ts ∧ P ts t := by
  constructor
  · intro h
    refine ⟨fun us u vs hsplit => h us u (vs ++ [t]) ?_, h ts t [] rfl⟩
    rw [hsplit, List.append_assoc, List.cons_append]
  · rintro ⟨hbefore, hlast⟩ us u vs hsplit
    rcases List.eq_nil_or_concat vs with rfl | ⟨vs', v, rfl⟩
    · obtain ⟨rfl, hu⟩ := List.append_inj' hsplit rfl
      obtain rfl := List.singleton_inj.mp hu
      exact hlast
    · rw [List.concat_eq_append, ← List.cons_append, ← List.append_assoc] at hsplit
      obtain ⟨rfl, -⟩ := List.append_inj' hsplit rfl
      exact hbefore us u vs' rfl

/-- Two laws that agree step by step in a run agree on the run; that they agree in a step may use
the law for the steps before it. -/
theorem System.Run.everyStep_iff {S : System σ α ο} {s : σ} (h : S.Run ts s)
    (hiff : ∀ ts s a s' out, S.Run ts s → S.step s a = some (s', out) → EveryStep P ts →
      (P ts ⟨s, a, s', out⟩ ↔ Q ts ⟨s, a, s', out⟩)) : EveryStep P ts ↔ EveryStep Q ts := by
  induction h with
  | start _ => exact ⟨fun _ => everyStep_nil, fun _ => everyStep_nil⟩
  | @snoc ts s s' a out hrun hstep ih =>
    rw [everyStep_snoc, everyStep_snoc, ← ih]
    exact and_congr_right fun hbefore => hiff ts s a s' out hrun hstep hbefore

/-- The last item that the elements of a list yield, with one element more. -/
lemma getLast?_filterMap_snoc {γ χ : Type*} (f : γ → Option χ) (xs : List γ) (x : γ) :
    ((xs ++ [x]).filterMap f).getLast? = (f x).or (xs.filterMap f).getLast? := by
  rw [List.filterMap_append, List.getLast?_append]
  cases hitem : f x with
  | none => simp [hitem]
  | some item => simp [hitem]

end SystemsDemos
