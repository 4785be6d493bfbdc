import Mathlib.Data.List.Induction

/-!
# Labelled transition systems and their runs

A `System` has a set of initial states and a partial, deterministic step function: an action
names the party that moves, every nondeterministic choice of that move and the data that
arrives from outside, and `step` is defined exactly when the move is enabled.  A step also
yields the observations it makes visible.

A `Run` is a finite sequence of transitions from an initial state, kept as a list whose last
element is the latest step; the proof rules below are induction along a run (`Run.invariant`),
decomposition at a transition (`Run.split`), induction along the part of a run that follows a
given transition (`Run.later`), and the transfer of runs along a refinement mapping
(`Refinement.run`); runs whose steps all meet a condition are runs of `System.restrict`.
`System.exec` replays a list of actions and is what a concrete run is computed with.
-/

namespace SystemsDemos

variable {σ τ α β ο : Type*}

/-- A transition system with states `σ`, actions `α` and observations `ο`. -/
structure System (σ α ο : Type*) where
  /-- The initial states. -/
  init : σ → Prop
  /-- The move of an action: the next state and the observations, or `none` when the action is
  not enabled. -/
  step : σ → α → Option (σ × List ο)

/-- One step of a run, with the states on both sides. -/
structure Transition (σ α ο : Type*) where
  /-- The state before the step. -/
  pre : σ
  /-- The action taken. -/
  act : α
  /-- The state after the step. -/
  post : σ
  /-- What the step makes visible. -/
  out : List ο

/-- The observations of a sequence of transitions, in order. -/
def observations (ts : List (Transition σ α ο)) : List ο :=
  ts.flatMap Transition.out

@[simp] lemma observations_nil : observations ([] : List (Transition σ α ο)) = [] := rfl

@[simp] lemma observations_append (ts us : List (Transition σ α ο)) :
    observations (ts ++ us) = observations ts ++ observations us :=
  List.flatMap_append

@[simp] lemma observations_singleton (t : Transition σ α ο) : observations [t] = t.out := by
  simp [observations]

namespace System

variable (S : System σ α ο)

/-- A transition of the system: its action is enabled and leads where it says. -/
def Valid (t : Transition σ α ο) : Prop :=
  S.step t.pre t.act = some (t.post, t.out)

/-- `Run S ts s`: the transitions `ts` form a run of `S` from an initial state to `s`. -/
inductive Run : List (Transition σ α ο) → σ → Prop
  | start {s : σ} : S.init s → Run [] s
  | snoc {ts : List (Transition σ α ο)} {s s' : σ} {a : α} {out : List ο} :
      Run ts s → S.step s a = some (s', out) → Run (ts ++ [⟨s, a, s', out⟩]) s'

/-- The states that some run reaches. -/
def Reachable (s : σ) : Prop := ∃ ts, S.Run ts s

/-- The transitions made by performing the actions one after the other, with the state reached;
`none` when an action is not enabled. -/
def exec : σ → List α → Option (List (Transition σ α ο) × σ)
  | s, [] => some ([], s)
  | s, a :: as =>
      match S.step s a with
      | none => none
      | some (s', out) =>
          match exec s' as with
          | none => none
          | some (ts, s'') => some (⟨s, a, s', out⟩ :: ts, s'')

end System

namespace System.Run

variable {S : System σ α ο} {ts : List (Transition σ α ο)} {s : σ}

/-- An inductive invariant holds at the end of every run. -/
theorem invariant {I : σ → Prop} (h : S.Run ts s) (hinit : ∀ s, S.init s → I s)
    (hstep : ∀ s a s' out, I s → S.step s a = some (s', out) → I s') : I s := by
  induction h with
  | start h => exact hinit _ h
  | snoc _ hs ih => exact hstep _ _ _ _ ih hs

/-- An invariant that relates the transitions made so far to the state reached. -/
theorem invariant_history {I : List (Transition σ α ο) → σ → Prop} (h : S.Run ts s)
    (hinit : ∀ s, S.init s → I [] s)
    (hstep : ∀ ts s a s' out, S.Run ts s → I ts s → S.step s a = some (s', out) →
      I (ts ++ [⟨s, a, s', out⟩]) s') : I ts s := by
  induction h with
  | start h => exact hinit _ h
  | snoc hr hs ih => exact hstep _ _ _ _ _ hr ih hs

/-- An invariant of the runs all of whose transitions satisfy `C`: preserving it may use `C` of
the step taken. -/
theorem invariant_of_forall {C : Transition σ α ο → Prop} {I : σ → Prop} (h : S.Run ts s)
    (hC : ∀ t ∈ ts, C t) (hinit : ∀ s, S.init s → I s)
    (hstep : ∀ t, S.Valid t → C t → S.Reachable t.pre → I t.pre → I t.post) : I s := by
  induction h with
  | start h => exact hinit _ h
  | @snoc ts s s' a out hr hs ih =>
    have hpre : I s := ih fun t ht => hC t (List.mem_append_left _ ht)
    exact hstep ⟨s, a, s', out⟩ hs (hC _ (by simp)) ⟨ts, hr⟩ hpre

/-- Appending transitions to a run: the part before them is a run of its own. -/
theorem of_append {us : List (Transition σ α ο)} (h : S.Run (ts ++ us) s) :
    ∃ s₁, S.Run ts s₁ := by
  induction us using List.reverseRecOn generalizing s with
  | nil => exact ⟨s, by simpa using h⟩
  | append_singleton us u ih =>
    rw [← List.append_assoc] at h
    generalize hvs : ts ++ us ++ [u] = vs at h
    cases h with
    | start => simp at hvs
    | snoc hr _ =>
      obtain ⟨rfl, -⟩ := List.append_inj' hvs rfl
      exact ih hr

/-- The last transition of a run starts where the run before it ends. -/
theorem of_snoc {t : Transition σ α ο} (h : S.Run (ts ++ [t]) s) :
    S.Run ts t.pre ∧ S.Valid t ∧ t.post = s := by
  generalize hvs : ts ++ [t] = vs at h
  cases h with
  | start => simp at hvs
  | snoc hr hs =>
    obtain ⟨rfl, ht⟩ := List.append_inj' hvs rfl
    obtain rfl := List.singleton_inj.mp ht
    exact ⟨hr, hs, rfl⟩

/-- Splitting a run at one of its transitions. -/
theorem split {us : List (Transition σ α ο)} {t : Transition σ α ο}
    (h : S.Run (ts ++ t :: us) s) : S.Run ts t.pre ∧ S.Valid t := by
  rw [List.append_cons] at h
  obtain ⟨s₁, h₁⟩ := h.of_append
  exact ⟨h₁.of_snoc.1, h₁.of_snoc.2.1⟩

/-- Every transition of a run is a valid step from a reachable state. -/
theorem of_mem {t : Transition σ α ο} (h : S.Run ts s) (ht : t ∈ ts) :
    S.Reachable t.pre ∧ S.Valid t := by
  obtain ⟨us, vs, rfl⟩ := List.append_of_mem ht
  exact ⟨⟨us, h.split.1⟩, h.split.2⟩

/-- A property that a transition establishes and that all later steps keep holds before each
later transition and at the end of the run. -/
theorem later {us : List (Transition σ α ο)} {t : Transition σ α ο} {P : σ → Prop}
    (h : S.Run (ts ++ t :: us) s) (hestablish : P t.post)
    (hkeep : ∀ u ∈ us, S.Valid u → S.Reachable u.pre → P u.pre → P u.post) :
    (∀ u ∈ us, P u.pre) ∧ P s := by
  induction us using List.reverseRecOn generalizing s with
  | nil =>
    obtain ⟨-, -, rfl⟩ := h.of_snoc
    exact ⟨by simp, hestablish⟩
  | append_singleton us u ih =>
    rw [← List.cons_append, ← List.append_assoc] at h
    obtain ⟨hr, hu, rfl⟩ := h.of_snoc
    obtain ⟨hpres, hpre⟩ :=
      ih hr fun v hv => hkeep v (List.mem_append_left _ hv)
    refine ⟨?_, hkeep u (by simp) hu ⟨_, hr⟩ hpre⟩
    intro v hv
    rcases List.mem_append.mp hv with hv | hv
    · exact hpres v hv
    · obtain rfl := List.mem_singleton.mp hv
      exact hpre

/-- A property of the transitions made since a given one, and of the state reached. -/
theorem later_history {us : List (Transition σ α ο)} {t : Transition σ α ο}
    {P : List (Transition σ α ο) → σ → Prop} (h : S.Run (ts ++ t :: us) s)
    (hestablish : P [] t.post)
    (hkeep : ∀ us s a s' out, S.Run (ts ++ t :: us) s → P us s → S.step s a = some (s', out) →
      P (us ++ [⟨s, a, s', out⟩]) s') : P us s := by
  induction us using List.reverseRecOn generalizing s with
  | nil =>
    obtain ⟨-, -, rfl⟩ := h.of_snoc
    exact hestablish
  | append_singleton us u ih =>
    rw [← List.cons_append, ← List.append_assoc] at h
    obtain ⟨hr, hu, rfl⟩ := h.of_snoc
    exact hkeep us u.pre u.act u.post u.out hr (ih hr) hu

/-- The transitions computed by `exec` continue a run. -/
theorem exec {as : List α} {us : List (Transition σ α ο)} {s' : σ} (h : S.Run ts s)
    (he : S.exec s as = some (us, s')) : S.Run (ts ++ us) s' := by
  induction as generalizing ts s us with
  | nil =>
    obtain ⟨rfl, rfl⟩ : [] = us ∧ s = s' := by simpa [System.exec] using he
    simpa using h
  | cons a as ih =>
    simp only [System.exec] at he
    split at he
    · cases he
    · next s₁ out hs =>
      split at he
      · cases he
      · next us' s₂ hrest =>
        obtain ⟨rfl, rfl⟩ : _ :: us' = us ∧ s₂ = s' := by simpa using he
        simpa using ih (h.snoc hs) hrest

end System.Run

/-- The transitions computed by `exec` perform the actions. -/
lemma System.map_act_of_exec {S : System σ α ο} {as : List α} {s s' : σ}
    {us : List (Transition σ α ο)} (he : S.exec s as = some (us, s')) :
    us.map Transition.act = as := by
  induction as generalizing s us with
  | nil =>
    obtain ⟨rfl, -⟩ : [] = us ∧ s = s' := by simpa [System.exec] using he
    rfl
  | cons a as ih =>
    simp only [System.exec] at he
    split at he
    · cases he
    · next s₁ out hs =>
      split at he
      · cases he
      · next us' s₂ hrest =>
        obtain ⟨rfl, rfl⟩ : _ :: us' = us ∧ s₂ = s' := by simpa using he
        rw [List.map_cons, ih hrest]

/-- A computed run from an initial state. -/
theorem System.run_of_exec (S : System σ α ο) (as : List α) {s s' : σ}
    {us : List (Transition σ α ο)} (hinit : S.init s) (he : S.exec s as = some (us, s')) :
    S.Run us s' := by
  simpa using (System.Run.start hinit).exec he

/-- A computed run with a decidable property, found by evaluation. -/
theorem System.exists_run (S : System σ α ο) (as : List α)
    (P : List (Transition σ α ο) → σ → Prop) [∀ us s, Decidable (P us s)] {s : σ}
    (hinit : S.init s) (h : (S.exec s as).any (fun run => decide (P run.1 run.2)) = true) :
    ∃ us s', S.Run us s' ∧ P us s' := by
  obtain ⟨⟨us, s'⟩, hrun, hP⟩ := (Option.any_eq_true _ _).mp h
  exact ⟨us, s', S.run_of_exec as hinit hrun, of_decide_eq_true hP⟩

/-- A decidable condition on the transitions of a computed run is checked by evaluation. -/
theorem forall_of_all {C : Transition σ α ο → Prop} [DecidablePred C]
    {ts : List (Transition σ α ο)} (h : ts.all (fun t => decide (C t)) = true) : ∀ t ∈ ts, C t := by
  intro t ht
  exact of_decide_eq_true (List.all_eq_true.mp h t ht)

/-! ### Runs under a condition -/

/-- The steps of `S` that meet a condition. -/
def System.restrict (S : System σ α ο) (C : σ → α → Prop) [∀ s a, Decidable (C s a)] :
    System σ α ο where
  init := S.init
  step s a := if C s a then S.step s a else none

section restrict

variable {S : System σ α ο} {C : σ → α → Prop} [∀ s a, Decidable (C s a)]

lemma System.restrict_step {s : σ} {a : α} {r : σ × List ο} :
    (S.restrict C).step s a = some r ↔ C s a ∧ S.step s a = some r := by
  unfold System.restrict
  by_cases h : C s a
  · simp [h]
  · simp [h]

/-- A run whose steps all meet the condition. -/
theorem System.Run.restrict {ts : List (Transition σ α ο)} {s : σ} (h : S.Run ts s)
    (hC : ∀ t ∈ ts, C t.pre t.act) : (S.restrict C).Run ts s := by
  induction h with
  | start hinit => exact .start hinit
  | @snoc ts s s' a out hrun hstep ih =>
    have hlast : C s a := hC ⟨s, a, s', out⟩ (by simp)
    exact .snoc (ih fun t ht => hC t (List.mem_append_left _ ht))
      (System.restrict_step.mpr ⟨hlast, hstep⟩)

end restrict

/-! ### Refinement -/

/-- `f` maps the runs of `S` to runs of the more abstract `A`, which may stand still.  A step of
`S` is one step of `A` with the observations that `g` keeps, or leaves the abstract state alone
and shows none. -/
structure Refinement {ο' : Type*} (S : System σ α ο) (A : System τ β ο') (f : σ → τ)
    (g : ο → Option ο') : Prop where
  init : ∀ s, S.init s → A.init (f s)
  step : ∀ s a s' out, S.Reachable s → S.step s a = some (s', out) →
    (∃ b, A.step (f s) b = some (f s', out.filterMap g)) ∨
      (f s' = f s ∧ out.filterMap g = [])

/-- Every run of the concrete system is matched by an abstract run with the same observations. -/
theorem Refinement.run {ο' : Type*} {S : System σ α ο} {A : System τ β ο'} {f : σ → τ}
    {g : ο → Option ο'} (hr : Refinement S A f g) {ts : List (Transition σ α ο)} {s : σ}
    (h : S.Run ts s) :
    ∃ us, A.Run us (f s) ∧ observations us = (observations ts).filterMap g := by
  induction h with
  | start h => exact ⟨[], .start (hr.init _ h), rfl⟩
  | @snoc ts s s' a out h hs ih =>
    obtain ⟨us, hus, hobs⟩ := ih
    rcases hr.step s a s' out ⟨ts, h⟩ hs with ⟨b, hb⟩ | ⟨hf, hout⟩
    · exact ⟨_, hus.snoc hb, by simp [hobs]⟩
    · exact ⟨us, hf ▸ hus, by simp [hobs, hout]⟩

end SystemsDemos
