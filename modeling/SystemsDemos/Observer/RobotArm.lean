import SystemsDemos.Transition.System
import Mathlib.Data.List.Chain

/-!
# The robot arm and its observers

`RobotArm` of the observer demo: `send` notifies the observers and stores the next state
afterwards.  An observer may call `send` from `on_event`, to any depth, so the calls in progress
form a stack.  What an observer does is arbitrary: between the begin and the end of its `on_event`
any number of calls of `send` can happen.  Observers are subscribed and unsubscribed between the
outermost calls only, since a change inside `notify` would invalidate its iterators.

A nested call that is accepted starts from the state before the outer transition, and the outer
call overwrites what it has stored.  The notified events form one history exactly when no nested
call is accepted (`arm_history_iff`).

### Outline

* `RobotArm.transition`, `Subject` and the calls in progress;
* `ArmProcess.step` and the system `robotArm`;
* `HistoryCorrect` and `NoNestedTransition`;
* `arm_history_iff`.
-/

namespace SystemsDemos

/-! ### The arm -/

/-- The states of the arm. -/
inductive ArmState
  | idle
  | moving
  | grasping
  | holding
  | returning
  deriving DecidableEq

/-- The events of the arm. -/
inductive ArmEvent
  | start
  | arrived
  | grasped
  | release
  | home
  | error
  deriving DecidableEq

/-- What the observers are told. -/
structure StateChange where
  source : ArmState
  target : ArmState
  trigger : ArmEvent
  deriving DecidableEq

/-- `RobotArm::transition`: the next state, if there is one. -/
def RobotArm.transition (s : ArmState) (ev : ArmEvent) : Option ArmState :=
  if s = .idle ∧ ev = .start then some .moving
  else if s = .moving ∧ ev = .arrived then some .grasping
  else if s = .grasping ∧ ev = .grasped then some .holding
  else if s = .holding ∧ ev = .release then some .returning
  else if s = .returning ∧ ev = .home then some .idle
  else if ev = .error ∧ s ≠ .idle then some .idle
  else none

/-- Every transition changes the state. -/
lemma RobotArm.transition_ne {s next : ArmState} {ev : ArmEvent}
    (h : RobotArm.transition s ev = some next) : next ≠ s := by
  cases s <;> cases ev <;> cases h <;> decide

/-- `Subject`: the observers, by number, in the order of subscription. -/
structure Subject where
  observers : List ℕ
  deriving DecidableEq

namespace Subject

/-- `subscribe`. -/
def subscribe (s : Subject) (obs : ℕ) : Subject := ⟨s.observers ++ [obs]⟩

/-- `unsubscribe`, which removes every entry of the observer. -/
def unsubscribe (s : Subject) (obs : ℕ) : Subject := ⟨s.observers.filter fun o => o ≠ obs⟩

end Subject

/-! ### Calls in progress -/

/-- A call of `send` that is inside `notify`. -/
structure SendCall where
  event : StateChange
  /-- The observers that `notify` has not come to yet. -/
  pending : List ℕ
  /-- The observer whose `on_event` is running. -/
  running : Option ℕ
  deriving DecidableEq

/-- The arm with the calls of `send` in progress, the innermost one first. -/
structure ArmProcess where
  subject : Subject
  state : ArmState
  calls : List SendCall
  deriving DecidableEq

/-- What happens next. -/
inductive ArmAction
  | subscribe (obs : ℕ)
  | unsubscribe (obs : ℕ)
  /-- `send` is called, by the running observer if there is one. -/
  | send (ev : ArmEvent)
  /-- `on_event` of the running observer returns. -/
  | onEventReturns
  /-- The innermost `send` goes on: with the next observer, or by storing the next state. -/
  | resume
  deriving DecidableEq

/-- What becomes visible. -/
inductive ArmObservation
  /-- `notify` is called. -/
  | notified (event : StateChange)
  /-- `on_event` of an observer is called. -/
  | onEvent (obs : ℕ) (event : StateChange)
  /-- `send` returns, with the state it has stored if it was accepted. -/
  | returned (stored : Option ArmState)
  deriving DecidableEq

namespace ArmProcess

/-- The caller of `send` has control: no call is in progress, or an observer is running. -/
def callerRuns (s : ArmProcess) : Bool :=
  match s.calls with
  | [] => true
  | call :: _ => call.running.isSome

/-- One step of the program. -/
def step (s : ArmProcess) : ArmAction → Option (ArmProcess × List ArmObservation)
  | .subscribe obs =>
      if s.calls = [] then some ({ s with subject := s.subject.subscribe obs }, []) else none
  | .unsubscribe obs =>
      if s.calls = [] then some ({ s with subject := s.subject.unsubscribe obs }, []) else none
  | .send ev =>
      if s.callerRuns then
        match RobotArm.transition s.state ev with
        | none => some (s, [.returned none])
        | some next =>
            let event : StateChange := ⟨s.state, next, ev⟩
            some ({ s with calls := ⟨event, s.subject.observers, none⟩ :: s.calls },
              [.notified event])
      else none
  | .onEventReturns =>
      match s.calls with
      | [] => none
      | call :: rest =>
          if call.running.isSome then
            some ({ s with calls := { call with running := none } :: rest }, [])
          else none
  | .resume =>
      match s.calls with
      | [] => none
      | ⟨event, pending, none⟩ :: rest =>
          match pending with
          | obs :: pending =>
              some ({ s with calls := ⟨event, pending, some obs⟩ :: rest }, [.onEvent obs event])
          | [] =>
              some ({ s with state := event.target, calls := rest },
                [.returned (some event.target)])
      | _ :: _ => none

end ArmProcess

/-- The arm, with any observers. -/
def robotArm : System ArmProcess ArmAction ArmObservation where
  init s := s = ⟨⟨[]⟩, .idle, []⟩
  step := ArmProcess.step

/-- The transitions of the arm. -/
abbrev ArmTransition := Transition ArmProcess ArmAction ArmObservation

/-! ### The history -/

/-- The event of a call of `notify`. -/
def ArmObservation.notified? : ArmObservation → Option StateChange
  | notified event => some event
  | _ => none

/-- The notified events of a run, in order. -/
def notified (ts : List ArmTransition) : List StateChange :=
  (observations ts).filterMap ArmObservation.notified?

/-- The events form one history: each starts where the one before it ends. -/
def LinearHistory (events : List StateChange) : Prop :=
  events.IsChain fun e e' => e'.source = e.target

/-- The state after the events. -/
def lastState (events : List StateChange) : ArmState :=
  (events.getLast?.map StateChange.target).getD .idle

/-- A call of `send` stores its state and returns true. -/
def Stores (t : ArmTransition) : Prop := ∃ stored, .returned (some stored) ∈ t.out

/-- The call that stores in `u` was in progress, as an outer call, from `t` on. -/
def Encloses (u t : ArmTransition) (between : List ArmTransition) : Prop :=
  u.pre.calls.length < t.pre.calls.length ∧
    ∀ v ∈ between, u.pre.calls.length ≤ v.pre.calls.length

/-- What an accepted call has stored is never overwritten by an outer call. -/
def NeverOverwritten (ts : List ArmTransition) : Prop :=
  ∀ us t vs u ws, ts = us ++ t :: (vs ++ u :: ws) → Stores t → Stores u → ¬Encloses u t vs

/-- What the history of a run promises. -/
structure HistoryCorrect (ts : List ArmTransition) (s : ArmProcess) : Prop where
  linear : LinearHistory (notified ts)
  current : s.calls = [] → s.state = lastState (notified ts)
  kept : NeverOverwritten ts

/-- The action is a call of `send` inside another one, with an event that the state accepts. -/
def ArmProcess.acceptsNested (s : ArmProcess) : ArmAction → Bool
  | .send ev => !s.calls.isEmpty && (RobotArm.transition s.state ev).isSome
  | _ => false

/-- An observer calls `send` with an event that the current state accepts. -/
def NestedTransition (t : ArmTransition) : Prop := t.pre.acceptsNested t.act = true

instance : DecidablePred NestedTransition := fun _ => inferInstanceAs (Decidable (_ = true))

/-- No nested call of `send` is accepted. -/
def NoNestedTransition (ts : List ArmTransition) : Prop := ∀ t ∈ ts, ¬NestedTransition t

/-! ### What a step does -/

/-- The events of the calls in progress, the innermost one first. -/
def ArmProcess.events (s : ArmProcess) : List StateChange := s.calls.map SendCall.event

/-- A step leaves calls and state alone, ends the innermost call, or begins a new one. -/
inductive ArmProcess.Moves (s : ArmProcess) (a : ArmAction) (s' : ArmProcess)
    (out : List ArmObservation) : Prop
  | silent (hnone : out.filterMap ArmObservation.notified? = [])
      (hstores : ∀ stored, .returned (some stored) ∉ out) (hstate : s'.state = s.state)
      (hevents : s'.events = s.events)
      (hrefused : ∀ ev, a = .send ev → RobotArm.transition s.state ev = none)
  | store (event : StateChange) (hnone : out.filterMap ArmObservation.notified? = [])
      (hstate : s'.state = event.target) (hevents : s.events = event :: s'.events)
      (hact : a = .resume)
  | notify (ev : ArmEvent) (next : ArmState) (hact : a = .send ev)
      (hnext : RobotArm.transition s.state ev = some next)
      (hout : out = [.notified ⟨s.state, next, ev⟩]) (hstate : s'.state = s.state)
      (hevents : s'.events = ⟨s.state, next, ev⟩ :: s.events)

/-- Every step is one of these. -/
lemma ArmProcess.moves_of_step {s s' : ArmProcess} {a : ArmAction} {out : List ArmObservation}
    (h : s.step a = some (s', out)) : s.Moves a s' out := by
  cases a with
  | subscribe obs | unsubscribe obs =>
    rw [step] at h
    split at h
    · obtain ⟨rfl, rfl⟩ := Prod.mk.inj (Option.some.inj h)
      exact .silent rfl (fun _ => List.not_mem_nil) rfl rfl (fun ev hact => by cases hact)
    · cases h
  | send ev =>
    rw [step] at h
    split at h
    · split at h
      · next hnext =>
        obtain ⟨rfl, rfl⟩ := Prod.mk.inj (Option.some.inj h)
        refine .silent rfl (by simp) rfl rfl (fun ev' hact => ?_)
        obtain rfl := ArmAction.send.inj hact
        exact hnext
      · next next hnext =>
        obtain ⟨rfl, rfl⟩ := Prod.mk.inj (Option.some.inj h)
        exact .notify ev next rfl hnext rfl rfl rfl
    · cases h
  | onEventReturns =>
    rw [step] at h
    split at h
    · cases h
    · next call rest hcalls =>
      split at h
      · obtain ⟨rfl, rfl⟩ := Prod.mk.inj (Option.some.inj h)
        refine .silent rfl (fun _ => List.not_mem_nil) rfl ?_ (fun ev hact => by cases hact)
        simp [events, hcalls]
      · cases h
  | resume =>
    rw [step] at h
    split at h
    · cases h
    · next event pending rest hcalls =>
      split at h
      · obtain ⟨rfl, rfl⟩ := Prod.mk.inj (Option.some.inj h)
        refine .silent rfl (by simp) rfl ?_ (fun ev hact => by cases hact)
        simp [events, hcalls]
      · obtain ⟨rfl, rfl⟩ := Prod.mk.inj (Option.some.inj h)
        refine .store event rfl rfl ?_ rfl
        simp [events, hcalls]
    · cases h

/-! ### When the history is correct -/

/-- At most one call is in progress, and state and history agree on where it started. -/
def Settled (history : List StateChange) (s : ArmProcess) : Prop :=
  (s.events = [] ∧ s.state = lastState history) ∨
    ∃ event, s.events = [event] ∧ s.state = event.source ∧ event.source ≠ event.target ∧
      history.getLast? = some event

/-- An event that starts in the last state continues the history. -/
lemma LinearHistory.concat {history : List StateChange} {e : StateChange}
    (h : LinearHistory history) (he : e.source = lastState history) :
    LinearHistory (history ++ [e]) := by
  refine List.isChain_append.mpr ⟨h, List.isChain_singleton e, ?_⟩
  intro x hx y hy
  obtain rfl := Option.some.inj hy
  rw [Option.mem_def] at hx
  rw [he, lastState, hx]
  rfl

/-- In a history an event starts where the one before it ends. -/
lemma LinearHistory.source_eq {history : List StateChange} {e last : StateChange}
    (h : LinearHistory (history ++ [e])) (hlast : history.getLast? = some last) :
    e.source = last.target :=
  (List.isChain_append.mp h).2.2 last hlast e rfl

variable {s s' : ArmProcess} {a : ArmAction} {out : List ArmObservation}
  {history : List StateChange} {ts : List ArmTransition}

/-- A step that is no nested transition continues the history. -/
lemma ArmProcess.Moves.settled (hmove : s.Moves a s' out) (hsettled : Settled history s)
    (hlinear : LinearHistory history) (hnested : ¬NestedTransition ⟨s, a, s', out⟩) :
    LinearHistory (history ++ out.filterMap ArmObservation.notified?) ∧
      Settled (history ++ out.filterMap ArmObservation.notified?) s' := by
  cases hmove with
  | silent hnone hstores hstate hevents hrefused =>
    rw [hnone, List.append_nil, Settled, hevents, hstate]
    exact ⟨hlinear, hsettled⟩
  | store event hnone hstate hevents hact =>
    rw [hnone, List.append_nil]
    refine ⟨hlinear, Or.inl ?_⟩
    rcases hsettled with ⟨hidle, -⟩ | ⟨event', hevent, -, -, hlast⟩
    · cases hidle.symm.trans hevents
    · obtain ⟨rfl, hrest⟩ := List.cons.inj (hevents.symm.trans hevent)
      refine ⟨hrest, ?_⟩
      rw [hstate, lastState, hlast]
      rfl
  | notify ev next hact hnext hout hstate hevents =>
    subst hout
    have hidle : s.calls = [] := by
      by_contra hbusy
      subst hact
      exact hnested (by simp [NestedTransition, ArmProcess.acceptsNested, hbusy, hnext])
    have hnoevents : s.events = [] := by rw [ArmProcess.events, hidle]; rfl
    rcases hsettled with ⟨-, hlast⟩ | ⟨event, hevent, -⟩
    · refine ⟨hlinear.concat hlast, Or.inr ⟨_, ?_, hstate, ?_, List.getLast?_concat⟩⟩
      · rw [hevents, hnoevents]
      · exact (RobotArm.transition_ne hnext).symm
    · cases hnoevents.symm.trans hevent

/-- A nested transition breaks the history: it starts from the state in which the outer one has
started, and not from the one where that leads. -/
lemma ArmProcess.Moves.not_linear (hmove : s.Moves a s' out) (hsettled : Settled history s)
    (hnested : NestedTransition ⟨s, a, s', out⟩) :
    ¬LinearHistory (history ++ out.filterMap ArmObservation.notified?) := by
  cases hmove with
  | silent hnone hstores hstate hevents hrefused =>
    cases a with
    | send ev => simp [NestedTransition, ArmProcess.acceptsNested, hrefused ev rfl] at hnested
    | _ => cases hnested
  | store event hnone hstate hevents hact =>
    subst hact
    cases hnested
  | notify ev next hact hnext hout hstate hevents =>
    subst hact
    subst hout
    intro hlinear
    rcases hsettled with ⟨hidle, -⟩ | ⟨event, -, hstart, hmoves, hlast⟩
    · have hcalls : s.calls = [] := List.map_eq_nil_iff.mp hidle
      simp [NestedTransition, ArmProcess.acceptsNested, hcalls] at hnested
    · exact hmoves (hstart.symm.trans (hlinear.source_eq hlast))

/-- The history of a run without nested transitions. -/
lemma settled_of_noNested (h : robotArm.Run ts s) (hnested : NoNestedTransition ts) :
    LinearHistory (notified ts) ∧ Settled (notified ts) s := by
  refine h.invariant_history (I := fun ts s => NoNestedTransition ts →
    LinearHistory (notified ts) ∧ Settled (notified ts) s) ?_ ?_ hnested
  · rintro s rfl -
    exact ⟨List.isChain_nil, Or.inl ⟨rfl, rfl⟩⟩
  · intro ts s a s' out _ ih hstep hnested
    obtain ⟨hlinear, hsettled⟩ := ih fun t ht => hnested t (List.mem_append_left _ ht)
    have hlast := hnested ⟨s, a, s', out⟩ (List.mem_append_right _ (List.mem_singleton.mpr rfl))
    have hnext := (ArmProcess.moves_of_step hstep).settled hsettled hlinear hlast
    simpa [notified] using hnext

/-- A run with a linear history has no nested transitions. -/
lemma noNested_of_linear (h : robotArm.Run ts s) (hlinear : LinearHistory (notified ts)) :
    NoNestedTransition ts := by
  refine h.invariant_history (I := fun ts _ => LinearHistory (notified ts) →
    NoNestedTransition ts) ?_ ?_ hlinear
  · intro s _ _ t ht
    exact absurd ht List.not_mem_nil
  · intro ts s a s' out hrun ih hstep hlinear
    have hsplit : LinearHistory (notified ts ++ out.filterMap ArmObservation.notified?) := by
      simpa [notified] using hlinear
    have hnested := ih (List.isChain_append.mp hsplit).1
    intro t ht
    rcases List.mem_append.mp ht with ht | ht
    · exact hnested t ht
    · obtain rfl := List.mem_singleton.mp ht
      intro hbad
      exact (ArmProcess.moves_of_step hstep).not_linear (settled_of_noNested hrun hnested).2 hbad
        hsplit

/-- Only a call in progress stores a state. -/
lemma events_ne_nil_of_stores {t : ArmTransition} (hvalid : robotArm.Valid t) (h : Stores t) :
    t.pre.events ≠ [] := by
  obtain ⟨stored, hmem⟩ := h
  have hmove : t.pre.Moves t.act t.post t.out := ArmProcess.moves_of_step hvalid
  cases hmove with
  | silent hnone hstores hstate hevents hrefused => exact absurd hmem (hstores stored)
  | store event hnone hstate hevents hact =>
    rw [hevents]
    exact List.cons_ne_nil _ _
  | notify ev next hact hnext hout hstate hevents =>
    rw [hout] at hmem
    cases List.mem_singleton.mp hmem

/-- Without nested transitions no call has an outer one. -/
lemma neverOverwritten_of_noNested (h : robotArm.Run ts s) (hnested : NoNestedTransition ts) :
    NeverOverwritten ts := by
  rintro us t vs u ws rfl - hu ⟨hdepth, -⟩
  have hrun : robotArm.Run ((us ++ t :: vs) ++ u :: ws) s := by simpa using h
  obtain ⟨hbefore, -⟩ := h.split
  obtain ⟨-, huvalid⟩ := hrun.split
  have hsettled := (settled_of_noNested hbefore fun v hv =>
    hnested v (List.mem_append_left _ hv)).2
  have hone : t.pre.calls.length ≤ 1 := by
    rw [← List.length_map (f := SendCall.event)]
    change t.pre.events.length ≤ 1
    rcases hsettled with ⟨hidle, -⟩ | ⟨event, hevent, -⟩
    · rw [hidle]
      exact Nat.zero_le _
    · rw [hevent]
      exact Nat.le_refl _
  have hzero : u.pre.calls = [] := List.length_eq_zero_iff.mp (by omega)
  exact events_ne_nil_of_stores huvalid hu (by rw [ArmProcess.events, hzero]; rfl)

/-- **The notified events form one history, and the arm ends where it ends, exactly when no
observer sends an event that the arm accepts.**  `send` stores the next state after `notify`, so
such an event starts from the state before the outer transition. -/
theorem arm_history_iff (h : robotArm.Run ts s) : HistoryCorrect ts s ↔ NoNestedTransition ts := by
  constructor
  · rintro ⟨hlinear, -, -⟩
    exact noNested_of_linear h hlinear
  · intro hnested
    obtain ⟨hlinear, hsettled⟩ := settled_of_noNested h hnested
    refine ⟨hlinear, fun hidle => ?_, neverOverwritten_of_noNested h hnested⟩
    rcases hsettled with ⟨-, hstate⟩ | ⟨event, hevent, -⟩
    · exact hstate
    · rw [ArmProcess.events, hidle] at hevent
      cases hevent

/-- An observer that sends an event the arm refuses. -/
def refusedError : List ArmAction :=
  [.subscribe 0, .send .start, .resume, .send .error, .onEventReturns, .resume]

/-- The refused event does no harm. -/
theorem arm_history_refusedError :
    ∃ ts s, robotArm.Run ts s ∧ ts.map Transition.act = refusedError ∧ HistoryCorrect ts s := by
  have hrun := System.run_of_exec robotArm refusedError rfl rfl
  exact ⟨_, _, hrun, rfl, (arm_history_iff hrun).mpr (forall_of_all rfl)⟩

/-- A safety observer that sends an error when the arm begins to grasp. -/
def safetyStop : List ArmAction :=
  [.subscribe 0, .send .start, .resume, .onEventReturns, .resume, .send .arrived, .resume,
    .send .error, .resume, .onEventReturns, .resume, .onEventReturns, .resume]

/-- The error is accepted, and the outer transition takes the arm to `GRASPING` all the same. -/
theorem arm_overwrites_error :
    ∃ ts s, robotArm.Run ts s ∧ s.calls = [] ∧ s.state = .grasping ∧
      lastState (notified ts) = .idle ∧ ¬LinearHistory (notified ts) ∧ ¬NeverOverwritten ts := by
  have hrun := System.run_of_exec robotArm safetyStop rfl rfl
  refine ⟨_, _, hrun, rfl, rfl, rfl, ?_, ?_⟩
  · unfold LinearHistory
    decide
  · intro hkept
    refine hkept [_, _, _, _, _, _, _, _, _, _] _ [_] _ [] rfl
      ⟨_, List.mem_singleton.mpr rfl⟩ ⟨_, List.mem_singleton.mpr rfl⟩ ⟨by decide, ?_⟩
    intro v hv
    obtain rfl := List.mem_singleton.mp hv
    decide

end SystemsDemos
