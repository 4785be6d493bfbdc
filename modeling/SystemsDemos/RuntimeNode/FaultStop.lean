import SystemsDemos.RuntimeNode.Fault
import SystemsDemos.RuntimeNode.Goals

/-!
# A fault does not stop the task

`executeTask` asks its goal handle for a cancel request and ROS for a shutdown, and never looks at
the state machine: the machine learns from the task thread how a task ends, but the task thread
does not learn of a fault.  So a task goes on through a fault (`faultAfterFirstStep`) unless
something else stops it, and `runtime_stops_after_fault` says what: the fault finds the thread
before the checks of an iteration, and after that the thread neither comes to the end of its loop
nor finds ROS running, because a cancel request or the shutdown is there before.  Where that is not
so, the task can go on (`Continues`).
-/

namespace SystemsDemos

/-- Past the checks of an iteration, or out of the loop with success. -/
def TaskPoint.committed : TaskPoint → Bool
  | storeStep _ | feedback _ | storeState .succeeded | terminal .succeeded => true
  | _ => false

namespace RuntimeProcess

/-- The task thread executes goal `g` and is past the checks. -/
def committed (s : RuntimeProcess) (g : ℕ) : Bool :=
  s.taskThread.any fun t => decide (t.g = g) && t.point.committed

/-- Nothing stops the task thread any more: it has made all its steps, or it is behind the check for
a cancel request and ROS is running. -/
def passesCheck (s : RuntimeProcess) (t : TaskThread) : Bool :=
  match t.point with
  | .loop step => decide (t.goal.targetSteps < step)
  | .checkOk _ => s.ok
  | _ => false

/-- In this step the task thread passes a check for goal `g`. -/
def passes (s : RuntimeProcess) (g : ℕ) : NodeAct → Bool
  | .task => s.taskThread.any fun t => decide (t.g = g) && s.passesCheck t
  | _ => false

variable {s s' : RuntimeProcess} {a : NodeAct} {out : List NodeEvent} {g : ℕ}

/-- A thread that is not committed stays so as long as it passes no check. -/
lemma Moves.committed (hm : Moves s a s' out) (hpass : s.passes g a = false)
    (h : s.committed g = false) : s'.committed g = false := by
  -- the thread moves to a point that is not committed
  have hmoved {t : TaskThread} {p : TaskPoint} (hp : p.committed = false) :
      (some { t with point := p }).any
        (fun t : TaskThread => decide (t.g = g) && t.point.committed) = false := by
    simp [hp]
  -- the thread executes another goal
  have hother {t : TaskThread} {p : TaskPoint} (hg : t.g ≠ g) :
      (some { t with point := p }).any
        (fun t : TaskThread => decide (t.g = g) && t.point.committed) = false := by
    simp [hg]
  cases hm with
  | spawn => exact hmoved (t := ⟨_, _, .loop 1⟩) rfl
  | taskDone ht hp hlt =>
    refine hother fun hg => ?_
    simp [passes, passesCheck, ht, hp, hg, hlt] at hpass
  | taskOk ht hp hok =>
    refine hother fun hg => ?_
    simp [passes, passesCheck, ht, hp, hg, hok] at hpass
  | taskStoreStep ht hp =>
    refine hother fun hg => ?_
    simp [RuntimeProcess.committed, TaskPoint.committed, ht, hp, hg] at h
  | @taskStoreState t result ht hp =>
    cases result with
    | succeeded =>
      refine hother fun hg => ?_
      simp [RuntimeProcess.committed, TaskPoint.committed, ht, hp, hg] at h
    | canceled step => exact hmoved rfl
    | failed => exact hmoved rfl
  | taskLoop | taskCanceling | taskNotOk | taskFeedback | taskIncrement | taskCancelStep
  | taskTerminal | taskRelease | taskPost | taskLog => exact hmoved rfl
  | _ => exact h

/-- Nothing visible says that the task of goal `g` has begun an iteration or succeeded. -/
def Stopped (g : ℕ) (out : List NodeEvent) : Prop :=
  (∀ step, .stepStored g step ∉ out) ∧ (∀ step, .feedback g step ∉ out) ∧
    .terminal g .succeeded ∉ out

/-- A thread that is not committed neither begins an iteration nor succeeds. -/
lemma Moves.stopped (hm : Moves s a s' out) (h : s.committed g = false) : Stopped g out := by
  have hprocessed {source : EventSource} {event : RuntimeEvent} {r : RuntimeTransition}
      {e : NodeEvent} (hnot : ∀ source event r, e ≠ .processed source event r)
      (hlog : ∀ line, e ≠ .log line) : e ∉ RuntimeNode.processed source event r := by
    intro he
    rcases RuntimeNode.of_mem_processed he with he | ⟨line, he⟩
    · exact hnot _ _ _ he
    · exact hlog line he
  cases hm with
  | quiet _ _ _ hout =>
    refine ⟨fun step he => ?_, fun step he => ?_, fun he => ?_⟩ <;> cases hout _ he
  | sense | operate | startTask | taskPost =>
    refine ⟨fun step => hprocessed ?_ ?_, fun step => hprocessed ?_ ?_, hprocessed ?_ ?_⟩ <;> simp
  | taskStoreStep ht hp | taskFeedback ht hp =>
    have hg : ∀ t, s.taskThread = some t → t.point.committed = true → g ≠ t.g := by
      rintro t ht hp rfl
      simp [RuntimeProcess.committed, ht, hp] at h
    have hother := hg _ ht (by rw [hp]; rfl)
    simp [Stopped, hother]
  | @taskTerminal t result ht hp =>
    refine ⟨by simp, by simp, fun he => ?_⟩
    obtain ⟨rfl, rfl⟩ := NodeEvent.terminal.inj (List.mem_singleton.mp he)
    simp [RuntimeProcess.committed, TaskPoint.committed, ht, hp] at h
  | _ => simp [Stopped]

/-- Passing a check leaves the state machine alone. -/
lemma Moves.machine_of_passes (hm : Moves s a s' out) (h : s.passes g a = true) :
    s'.machine = s.machine := by
  cases hm with
  | reset | sense | operate | startTask => cases h
  | taskPost ht hp => simp [passes, passesCheck, ht, hp] at h
  | _ => rfl

/-- The node can make steps after which the task of goal `g` has begun an iteration or has
succeeded. -/
def Continues (s : RuntimeProcess) (g : ℕ) : Prop :=
  ∃ acts ts s', runtimeSystem.exec s acts = some (ts, s') ∧ ∃ u ∈ ts, ¬Stopped g u.out

/-- What can be seen in the next step. -/
private lemma Continues.of_out (hs : s.step a = some (s', out)) (hout : ¬Stopped g out) :
    s.Continues g := by
  refine ⟨[a], [⟨s, a, s', out⟩], s', ?_, _, List.mem_singleton_self _, hout⟩
  simp [System.exec, runtimeSystem, hs]

/-- What can be seen after the next step. -/
private lemma Continues.of_step (hs : s.step a = some (s', out)) (h : s'.Continues g) :
    s.Continues g := by
  obtain ⟨acts, ts, s₂, hexec, u, hu, hout⟩ := h
  refine ⟨a :: acts, ⟨s, a, s', out⟩ :: ts, s₂, ?_, u, List.mem_cons_of_mem _ hu, hout⟩
  have hs' : runtimeSystem.step s a = some (s', out) := hs
  simp [System.exec, hs', hexec]

/-- A thread at a committed point. -/
private lemma committed_of {t : TaskThread} (ht : s.taskThread = some t)
    (hp : t.point.committed = true) : s.committed t.g = true := by
  simp [RuntimeProcess.committed, ht, hp]

/-- A committed thread goes on with its iteration or its success. -/
private lemma continues_of_committed (h : s.committed g = true) : s.Continues g := by
  obtain ⟨t, ht, hcommitted⟩ := (Option.any_eq_true _ _).mp h
  rw [Bool.and_eq_true, decide_eq_true_eq] at hcommitted
  obtain ⟨rfl, hcommitted⟩ := hcommitted
  have hterminal {s : RuntimeProcess} {t : TaskThread} (ht : s.taskThread = some t)
      (hp : t.point = .terminal .succeeded) : s.Continues t.g := by
    obtain ⟨s', hs⟩ : ∃ s', s.step .task = some (s', [.terminal t.g .succeeded]) := by
      simp [RuntimeProcess.step, stepTask, ht, hp]
    exact .of_out hs (by simp [Stopped])
  cases hp : t.point with
  | storeStep step =>
    obtain ⟨s', hs⟩ : ∃ s', s.step .task = some (s', [.stepStored t.g step]) := by
      simp [RuntimeProcess.step, stepTask, ht, hp]
    exact .of_out hs (by simp [Stopped])
  | feedback step =>
    obtain ⟨s', hs⟩ : ∃ s', s.step .task = some (s', [.feedback t.g step]) := by
      simp [RuntimeProcess.step, stepTask, ht, hp]
    exact .of_out hs (by simp [Stopped])
  | storeState result =>
    cases result with
    | succeeded =>
      obtain ⟨s', hs, hs'⟩ : ∃ s', s.step .task = some (s', []) ∧
          s'.taskThread = some { t with point := .terminal .succeeded } := by
        simp [RuntimeProcess.step, stepTask, ht, hp, moveTask]
      exact .of_step hs (hterminal (t := { t with point := .terminal .succeeded }) hs' rfl)
    | canceled step => simp [TaskPoint.committed, hp] at hcommitted
    | failed => simp [TaskPoint.committed, hp] at hcommitted
  | terminal result =>
    cases result with
    | succeeded => exact hterminal ht hp
    | canceled step => simp [TaskPoint.committed, hp] at hcommitted
    | failed => simp [TaskPoint.committed, hp] at hcommitted
  | _ => simp [TaskPoint.committed, hp] at hcommitted

/-- A thread that finds ROS running goes on. -/
private lemma continues_of_checkOk {t : TaskThread} {step : ℤ} (ht : s.taskThread = some t)
    (hp : t.point = .checkOk step) (hok : s.ok = true) : s.Continues t.g := by
  have hs : s.step .task = some (s.moveTask t (.storeStep step), []) := by
    simp [RuntimeProcess.step, stepTask, ht, hp, hok]
  exact .of_step hs
    (continues_of_committed (committed_of (t := { t with point := .storeStep step }) rfl rfl))

/-- A thread that passes a check goes on. -/
private lemma continues_of_passes (h : s.passes g a = true) : s.Continues g := by
  have ha : a = .task := by
    cases a <;> first | rfl | cases h
  subst ha
  obtain ⟨t, ht, hpass⟩ := (Option.any_eq_true _ _).mp h
  rw [Bool.and_eq_true, decide_eq_true_eq] at hpass
  obtain ⟨rfl, hpass⟩ := hpass
  cases hp : t.point with
  | loop step =>
    have hlt : t.goal.targetSteps < step := by simpa [passesCheck, hp] using hpass
    have hs : s.step .task = some (s.moveTask t (.storeState .succeeded), []) := by
      simp [RuntimeProcess.step, stepTask, ht, hp, Int.not_le.mpr hlt]
    exact .of_step hs (continues_of_committed
      (committed_of (t := { t with point := .storeState .succeeded }) rfl rfl))
  | checkOk step => exact continues_of_checkOk ht hp (by simpa [passesCheck, hp] using hpass)
  | _ => simp [passesCheck, hp] at hpass

/-- A fault is entered by a step that leaves a committed thread where it is. -/
private lemma Moves.committed_of_fault (hm : Moves s a s' out) (hne : s'.machine ≠ s.machine)
    (h : s.committed g = true) : s'.committed g = true := by
  cases hm with
  | reset | sense | operate | startTask => exact h
  | taskPost ht hp =>
    simp [RuntimeProcess.committed, TaskPoint.committed, ht, hp] at h
  | _ => exact (hne rfl).elim

/-- The fault that is entered in step `t` finds the thread of goal `g` before the checks of an
iteration, and in the steps `us` that follow the thread passes no check. -/
def StopsAtChecks (g : ℕ) (t : NodeTransition) (us : List NodeTransition) : Prop :=
  t.pre.committed g = false ∧ ∀ u ∈ us, u.pre.passes g u.act = false

end RuntimeProcess

/-- **When a fault stops the task.**  Let a step of a run of the node enter `Fault`.  If it finds
the task thread before the checks of an iteration of goal `g`, and the thread passes no check after
that, then `g` begins no further iteration and does not succeed.  Otherwise the run up to the fault
can be continued so that `g` does. -/
theorem runtime_stops_after_fault {us vs : List NodeTransition} {t : NodeTransition}
    {s : RuntimeProcess} (h : runtimeSystem.Run (us ++ t :: vs) s)
    (hbefore : t.pre.machine.state ≠ .fault) (hfault : t.post.machine.state = .fault) (g : ℕ) :
    (RuntimeProcess.StopsAtChecks g t vs → ∀ u ∈ vs, RuntimeProcess.Stopped g u.out) ∧
      (¬RuntimeProcess.StopsAtChecks g t vs →
        ∃ ws s', runtimeSystem.Run (us ++ t :: ws) s' ∧
          ∃ u ∈ ws, ¬RuntimeProcess.Stopped g u.out) := by
  have hm := RuntimeProcess.moves_of_step h.split.2
  have hne : t.post.machine ≠ t.pre.machine := by
    intro heq
    rw [heq] at hfault
    exact hbefore hfault
  constructor
  · rintro ⟨hcommitted, hpasses⟩
    -- the step that enters the fault is not a check
    have hpass : t.pre.passes g t.act = false := by
      by_contra hpass
      exact hne (hm.machine_of_passes (by simpa using hpass))
    have hlater := h.later (P := fun s => s.committed g = false) (hm.committed hpass hcommitted)
      fun u hu hvalid _ hpre =>
        (RuntimeProcess.moves_of_step hvalid).committed (hpasses u hu) hpre
    intro u hu
    have hvalid : runtimeSystem.Valid u := (h.of_mem (by simp [hu])).2
    exact (RuntimeProcess.moves_of_step hvalid).stopped (hlater.1 u hu)
  · intro hnot
    have hcontinue {ws : List NodeTransition} {s₁ : RuntimeProcess}
        (hr : runtimeSystem.Run (us ++ t :: ws) s₁) (hc : s₁.Continues g) :
        ∃ ws s', runtimeSystem.Run (us ++ t :: ws) s' ∧
          ∃ u ∈ ws, ¬RuntimeProcess.Stopped g u.out := by
      obtain ⟨acts, xs, s', hexec, u, hu, hout⟩ := hc
      have hr' := hr.exec hexec
      rw [List.append_assoc, List.cons_append] at hr'
      exact ⟨ws ++ xs, s', hr', u, List.mem_append_right _ hu, hout⟩
    by_cases hcommitted : t.pre.committed g = true
    · have hpost : runtimeSystem.Run (us ++ t :: []) t.post := h.split.1.snoc h.split.2
      exact hcontinue hpost
        (RuntimeProcess.continues_of_committed (hm.committed_of_fault hne hcommitted))
    · have hpass : ∃ u ∈ vs, u.pre.passes g u.act = true := by
        by_contra hall
        exact hnot ⟨by simpa using hcommitted, fun u hu => by
          by_contra hu'
          exact hall ⟨u, hu, by simpa using hu'⟩⟩
      obtain ⟨u, hu, hpass⟩ := hpass
      obtain ⟨ws, xs, rfl⟩ := List.append_of_mem hu
      rw [← List.cons_append, ← List.append_assoc] at h
      exact hcontinue h.split.1 (RuntimeProcess.continues_of_passes hpass)

/-- A goal with two steps. -/
def twoSteps : ExecuteTaskGoal := ⟨2, by decide⟩

/-- A goal with two steps is accepted and its thread makes the first one. -/
def firstStep : List NodeAct := acceptGoal twoSteps ++ List.replicate 5 .task

/-- An operator reports a sensor timeout. -/
def reportTimeout : List NodeAct := [.applyEvent "SensorTimeout"]

/-- The report is processed, and the task thread goes on to the terminal call. -/
def faultAfterFirstStep : List NodeAct := .exec 0 :: List.replicate 8 .task

/-- Entering `Fault` after the first step, the task stores its second step and succeeds. -/
theorem runtime_stops_after_fault_faultAfterFirstStep :
    ∃ us t vs s, runtimeSystem.Run (us ++ t :: vs) s ∧
      t.pre.machine.state = .running ∧ t.post.machine.state = .fault ∧
      t.pre.goals = [⟨twoSteps, true, false, none⟩] ∧
      (∃ u ∈ vs, .stepStored 0 2 ∈ u.out) ∧ (∃ u ∈ vs, .feedback 0 2 ∈ u.out) ∧
      (∃ u ∈ vs, .terminal 0 .succeeded ∈ u.out) ∧ s.machine.state = .fault := by
  have hrun := System.run_of_exec runtimeSystem (firstStep ++ reportTimeout) rfl rfl
  have hrest := hrun.exec (rfl : runtimeSystem.exec _ faultAfterFirstStep = some (_ :: _, _))
  refine ⟨_, _, _, _, hrest, rfl, rfl, rfl, ⟨_, List.mem_of_getElem? (i := 2) rfl, ?_⟩,
    ⟨_, List.mem_of_getElem? (i := 3) rfl, ?_⟩, ⟨_, List.mem_of_getElem? (i := 7) rfl, ?_⟩, rfl⟩ <;>
    exact List.mem_singleton_self _

/-- A cancel request comes before the operator's report. -/
def cancelAndReportTimeout : List NodeAct :=
  [.cancel 0, .exec 0, .exec 0, .applyEvent "SensorTimeout"]

theorem runtime_stops_after_fault_canceledBefore :
    ∃ us t vs s, runtimeSystem.Run (us ++ t :: vs) s ∧ t.post.machine.state = .fault ∧
      s.node.task = ⟨true, .canceled, 1⟩ ∧ ∀ u ∈ vs, RuntimeProcess.Stopped 0 u.out := by
  have hrun := System.run_of_exec runtimeSystem (firstStep ++ cancelAndReportTimeout) rfl rfl
  have hrest := hrun.exec
    (rfl : runtimeSystem.exec _ [.exec 0, .task, .task, .task, .task] = some (_ :: _, _))
  have hlaw := (runtime_stops_after_fault hrest (by decide) rfl 0).1
  exact ⟨_, _, _, _, hrest, rfl, rfl, hlaw ⟨rfl, forall_of_all rfl⟩⟩

end SystemsDemos
