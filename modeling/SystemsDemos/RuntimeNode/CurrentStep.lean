import SystemsDemos.RuntimeNode.Goals

/-!
# The current step of the task

How `task_current_step_` follows the loop variable of `executeTask`.  `handleGoal` stores `0`
while it has `task_active_`, and from then on only the thread of that goal stores anything; the
invariant `CurrentStep` gives the exact relation at every point of the loop.  It needs that the
`int32_t` loop variable is never incremented at its largest value, which a goal with that
`target_steps` does (`longestGoal`): the loop `step <= target_steps` then never ends, and the
stored step becomes negative.

`runtime_one_task` puts the laws of the goals together.
-/

namespace SystemsDemos

/-- `target_steps` of the last accepted goal. -/
def lastTarget (goals : List GoalHandle) : ℤ :=
  (goals.getLast?.map fun h => h.goal.targetSteps).getD 0

/-- The value of `task_current_step_` that belongs to a point of the task thread. -/
def TaskPoint.Agrees (target current : ℤ) : TaskPoint → Prop
  | loop step => 1 ≤ step ∧ step ≤ target + 1 ∧ current = step - 1
  | checkOk step | storeStep step | cancelStep step =>
      1 ≤ step ∧ step ≤ target ∧ current = step - 1
  | feedback step | logFeedback step => 1 ≤ step ∧ step ≤ target ∧ current = step
  | storeState _ | terminal _ | release _ => 0 ≤ current ∧ current ≤ target
  | post _ | logResult _ | returned => True

/-- After the flag has been given back every value will do. -/
lemma TaskPoint.agrees_of_released {p : TaskPoint} (hp : p.phase = .released)
    (target current : ℤ) : p.Agrees target current := by
  cases p <;> simp [phase] at hp <;> trivial

/-- Changing one element of a list changes its last element at most. -/
private lemma getLast?_modify (goals : List GoalHandle) (g : ℕ) (f : GoalHandle → GoalHandle) :
    (goals.modify g f).getLast? =
      goals.getLast?.map fun h => if g = goals.length - 1 then f h else h := by
  rw [List.getLast?_eq_getElem?, List.getLast?_eq_getElem?, List.length_modify,
    List.getElem?_modify]
  rfl

/-- Changing a goal handle but not its goal. -/
private lemma lastTarget_modify (goals : List GoalHandle) (g : ℕ) {f : GoalHandle → GoalHandle}
    (hf : ∀ x, (f x).goal = x.goal) : lastTarget (goals.modify g f) = lastTarget goals := by
  unfold lastTarget
  rw [getLast?_modify, Option.map_map]
  congr 1
  apply Option.map_congr
  intro x _
  dsimp only [Function.comp_apply]
  split
  · rw [hf]
  · rfl

@[simp] private lemma lastTarget_concat (goals : List GoalHandle) (h : GoalHandle) :
    lastTarget (goals ++ [h]) = h.goal.targetSteps := by
  simp [lastTarget]

/-- Positive targets leave room for the first value. -/
private lemma lastTarget_nonneg {goals : List GoalHandle}
    (h : ∀ x ∈ goals, 0 < x.goal.targetSteps) : 0 ≤ lastTarget goals := by
  unfold lastTarget
  cases hlast : goals.getLast? with
  | none => simp
  | some x => exact Int.le_of_lt (h x (List.mem_of_getLast? hlast))

namespace RuntimeProcess

/-- `task_current_step_` is between `0` and the target of the last goal, is `0` from the store of
`handleGoal` until the goal has its thread, and then agrees with the loop variable. -/
structure CurrentStep (s : RuntimeProcess) : Prop where
  bounds : 0 ≤ s.node.task.taskCurrentStep ∧ s.node.task.taskCurrentStep ≤ lastTarget s.goals
  starting : ∀ stage goal, s.executor.stage = some (stage, goal) →
    stage = .starting ∨ stage = .started → s.node.task.taskCurrentStep = 0
  waiting : ∀ h, s.goals.getLast? = some h → h.spawned = false → s.node.task.taskCurrentStep = 0
  thread : ∀ t, s.taskThread = some t →
    t.point.Agrees t.goal.targetSteps s.node.task.taskCurrentStep

/-- The task thread increments a loop variable with this value. -/
def increments (s : RuntimeProcess) : NodeAct → Option ℤ
  | .task =>
      match s.taskThread.map TaskThread.point with
      | some (.logFeedback step) => some step
      | _ => none
  | _ => none

/-- In this step the loop variable does not overflow. -/
def IncrementFits (t : NodeTransition) : Prop :=
  ∀ step ∈ t.pre.increments t.act, step + 1 < 2 ^ 31

instance (t : NodeTransition) : Decidable (IncrementFits t) :=
  inferInstanceAs (Decidable (∀ step ∈ _, _))

variable {s s' : RuntimeProcess} {a : NodeAct} {out : List NodeEvent}

namespace CurrentStep

/-- The value that belongs to the point of the task thread. -/
private lemma agrees (h : CurrentStep s) {t : TaskThread} {p : TaskPoint}
    (ht : s.taskThread = some t) (hp : t.point = p) :
    p.Agrees t.goal.targetSteps s.node.task.taskCurrentStep := by
  rw [← hp]
  exact h.thread t ht

/-- The value that a canceled task stores is there already. -/
private lemma cancelStep_eq (h : CurrentStep s) {t : TaskThread} {step : ℤ}
    (ht : s.taskThread = some t) (hp : t.point = .cancelStep step) :
    int32 (step - 1) = s.node.task.taskCurrentStep := by
  obtain ⟨hfirst, hlast, hcurrent⟩ := h.agrees ht hp
  have hbound := t.goal.isInt32.2
  rw [int32_of_fits (by omega) (by omega), hcurrent]

/-- A step of the executor that leaves `task_current_step_` and the goals alone. -/
private lemma of_executor (h : CurrentStep s) {node : RuntimeNode} {ok : Bool} {p : ExecPoint}
    (hcurrent : node.task.taskCurrentStep = s.node.task.taskCurrentStep)
    (hstage : ∀ stage goal, p.stage = some (stage, goal) →
      stage = .starting ∨ stage = .started → s.node.task.taskCurrentStep = 0) :
    CurrentStep { s with node := node, ok := ok, executor := p } where
  bounds := by
    rw [hcurrent]
    exact h.bounds
  starting := by
    rw [hcurrent]
    exact hstage
  waiting := by
    rw [hcurrent]
    exact h.waiting
  thread := by
    rw [hcurrent]
    exact h.thread

/-- A step of the task thread that leaves `task_current_step_` and the goals alone. -/
private lemma of_move (h : CurrentStep s) {node : RuntimeNode} {t : TaskThread} {p : TaskPoint}
    (hcurrent : node.task.taskCurrentStep = s.node.task.taskCurrentStep)
    (hp : p.Agrees t.goal.targetSteps s.node.task.taskCurrentStep) :
    CurrentStep { s.moveTask t p with node := node } where
  bounds := by
    rw [hcurrent]
    exact h.bounds
  starting := by
    rw [hcurrent]
    exact h.starting
  waiting := by
    rw [hcurrent]
    exact h.waiting
  thread := by
    intro u hu
    obtain rfl := Option.some.inj hu
    rw [hcurrent]
    exact hp

/-- A change of a goal handle that starts no new waiting. -/
private lemma of_modify (h : CurrentStep s) (g : ℕ) {f : GoalHandle → GoalHandle}
    (hgoal : ∀ x, (f x).goal = x.goal) (hspawned : ∀ x, (f x).spawned = false → x.spawned = false)
    {executor : ExecPoint} {thread : Option TaskThread}
    (hexecutor : executor = s.executor ∨ executor = .idle)
    (hthread : ∀ t, thread = some t →
      t.point.Agrees t.goal.targetSteps s.node.task.taskCurrentStep) :
    CurrentStep { s with
      goals := s.goals.modify g f
      executor := executor
      taskThread := thread } where
  bounds := by
    rw [lastTarget_modify _ _ hgoal]
    exact h.bounds
  starting := by
    rcases hexecutor with rfl | rfl
    · exact h.starting
    · simp [ExecPoint.stage]
  waiting := by
    intro x hx hwaiting
    rw [getLast?_modify] at hx
    obtain ⟨y, hy, rfl⟩ := Option.map_eq_some_iff.mp hx
    refine h.waiting y hy ?_
    split at hwaiting
    · exact hspawned y hwaiting
    · exact hwaiting
  thread := hthread

end CurrentStep

/-- The stages of `handleGoal` before the store of `0` and the stages after it. -/
private lemma stage_cases {p : ExecPoint} (hp : p.stage = none ∨ ∃ stage goal,
    p.stage = some (stage, goal) ∧ stage ≠ .starting ∧ stage ≠ .started) {current : ℤ} :
    ∀ stage goal, p.stage = some (stage, goal) → stage = .starting ∨ stage = .started →
      current = 0 := by
  intro stage goal hstage hlate
  rcases hp with hp | ⟨stage', goal', hp, hstarting, hstarted⟩
  · simp [hp] at hstage
  · rw [hp] at hstage
    cases hstage
    exact (hlate.elim hstarting hstarted).elim

/-- The store of `0`: the old thread has given the flag back and stores nothing any more. -/
private lemma CurrentStep.of_storeZero (hg : GoalInvariant s) (hpos : PositiveTargets s)
    {goal : ExecuteTaskGoal} (hx : s.executor = .goalStoreStep goal) :
    CurrentStep { s with
      node := { s.node with task := { s.node.task with taskCurrentStep := 0 } }
      executor := .goalStart goal } := by
  have hadmits : s.executor.admits = true := by
    rw [hx]
    rfl
  have hreleased := (hg.of_admits hadmits).2.2
  exact {
    bounds := ⟨Int.le_refl 0, lastTarget_nonneg hpos.accepted⟩
    starting := fun _ _ _ _ => rfl
    waiting := fun _ _ _ => rfl
    thread := fun t ht => TaskPoint.agrees_of_released (hreleased t ht) _ _ }

/-- The new goal waits for its thread, with the `0` that `handleGoal` has stored. -/
private lemma CurrentStep.of_accept (h : CurrentStep s) (hpos : PositiveTargets s)
    {goal : ExecuteTaskGoal} (hx : s.executor = .goalReturn goal true) :
    CurrentStep { s with
      goals := s.goals ++ [⟨goal, false, false, none⟩]
      executor := .idle } := by
  have hcurrent : s.node.task.taskCurrentStep = 0 :=
    h.starting _ _ (by rw [hx]; rfl) (.inr rfl)
  have htarget := hpos.considered _ _ (by rw [hx]; rfl)
  exact {
    bounds := by
      rw [hcurrent, lastTarget_concat]
      exact ⟨Int.le_refl 0, Int.le_of_lt htarget⟩
    starting := stage_cases (.inl rfl)
    waiting := fun _ _ _ => hcurrent
    thread := h.thread }

/-- The thread of the last goal begins with the loop variable at `1`. -/
private lemma CurrentStep.of_spawn (h : CurrentStep s) (hg : GoalInvariant s)
    (hpos : PositiveTargets s) {g : ℕ} {x : GoalHandle} (hx : s.executor = .spawn g)
    (hgoal : s.goals[g]? = some x) :
    CurrentStep { s with
      goals := s.goals.modify g fun h => { h with spawned := true }
      executor := .idle
      taskThread := some ⟨g, x.goal, .loop 1⟩ } := by
  have hspawned : x.spawned = false := hg.unspawned g x (by rw [hx]; rfl) hgoal
  have hlast : s.goals.getLast? = some x := by
    have hlength := hg.slot.open_last hgoal (by simp [hspawned])
    rw [List.getLast?_eq_getElem?, hlength]
    exact hgoal
  have hcurrent := h.waiting x hlast hspawned
  have htarget := hpos.accepted x (List.mem_of_getElem? hgoal)
  have hroom : 1 ≤ x.goal.targetSteps + 1 := by omega
  refine h.of_modify _ ?_ ?_ (.inr rfl) fun t ht => ?_
  · exact fun _ => rfl
  · simp
  · obtain rfl := Option.some.inj ht
    exact ⟨Int.le_refl 1, hroom, by simpa using hcurrent⟩

/-- The store of the loop variable by the thread of the last goal. -/
private lemma CurrentStep.of_storeStep (h : CurrentStep s) (hg : GoalInvariant s)
    {t : TaskThread} {step : ℤ} (ht : s.taskThread = some t) (hp : t.point = .storeStep step) :
    CurrentStep { s.moveTask t (.feedback step) with
      node := { s.node with task := { s.node.task with taskCurrentStep := step } } } := by
  obtain ⟨hfirst, hlast, -⟩ := h.agrees ht hp
  obtain ⟨hadmits, old, x, hgoals, -, hgoal, hspawned⟩ :=
    hg.of_unreleased ht (by simp [hp, TaskPoint.phase])
  have htarget : lastTarget s.goals = t.goal.targetSteps := by
    rw [hgoals, lastTarget_concat, hgoal]
  exact {
    bounds := by
      rw [← htarget] at hlast
      exact ⟨Int.le_trans (by decide) hfirst, hlast⟩
    starting := by
      intro stage goal hstage hlate
      have hholds : s.executor.admits = stage.holds := ExecPoint.admits_of_stage hstage
      rcases hlate with rfl | rfl <;> simp [hadmits, GoalStage.holds] at hholds
    waiting := by
      intro y hy hwaiting
      change s.goals.getLast? = some y at hy
      rw [hgoals, List.getLast?_concat] at hy
      obtain rfl := Option.some.inj hy
      simp [hspawned] at hwaiting
    thread := by
      intro u hu
      obtain rfl := Option.some.inj hu
      exact ⟨hfirst, hlast, rfl⟩ }

/-- Every step that does not overflow keeps the relation of `task_current_step_` to the loop
variable. -/
lemma Moves.currentStep (hm : Moves s a s' out) (hg : GoalInvariant s) (hpos : PositiveTargets s)
    (hfits : IncrementFits ⟨s, a, s', out⟩) (h : CurrentStep s) : CurrentStep s' := by
  cases hm with
  | imu _ hstage | jointState _ _ hstage | operate _ hstage =>
    exact h.of_executor rfl (stage_cases (.inl hstage))
  | quiet _ hstage =>
    refine h.of_executor rfl ?_
    rcases hstage with hstage | ⟨-, hstage⟩
    · rw [hstage]
      exact h.starting
    · exact stage_cases (.inl hstage)
  | @reset _ caller | @sense _ caller =>
    refine h.of_executor rfl (stage_cases ?_)
    rcases caller.next_cases.2 with hstage | ⟨goal, -, -, hstage⟩
    · exact .inl hstage
    · exact .inr ⟨.reading, goal, by rw [hstage]; rfl, by simp, by simp⟩
  | standby | exchange | storeRunning =>
    exact h.of_executor rfl (stage_cases (.inr ⟨_, _, rfl, by simp, by simp⟩))
  | startTask hx =>
    have hcurrent : s.node.task.taskCurrentStep = 0 :=
      h.starting _ _ (by rw [hx]; rfl) (.inl rfl)
    exact h.of_executor rfl fun _ _ _ _ => hcurrent
  | shutdown => exact h.of_executor rfl h.starting
  | storeZero hx => exact .of_storeZero hg hpos hx
  | accept hx => exact h.of_accept hpos hx
  | cancelReturn =>
    refine h.of_modify _ ?_ ?_ (.inr rfl) h.thread
    · exact fun _ => rfl
    · exact fun _ hx => hx
  | spawn hx hgoal _ => exact h.of_spawn hg hpos hx hgoal
  | taskLoop ht hp hle | taskCanceling ht hp hle =>
    obtain ⟨hfirst, -, hcurrent⟩ := h.agrees ht hp
    exact h.of_move rfl ⟨hfirst, hle, hcurrent⟩
  | taskDone ht hp hlt =>
    obtain ⟨hfirst, hlast, hcurrent⟩ := h.agrees ht hp
    exact h.of_move rfl ⟨by omega, by omega⟩
  | taskNotOk ht hp =>
    obtain ⟨hfirst, hlast, hcurrent⟩ := h.agrees ht hp
    exact h.of_move rfl ⟨by omega, by omega⟩
  | taskOk ht hp | taskFeedback ht hp | taskStoreState ht hp =>
    have hagrees := h.agrees ht hp
    exact h.of_move rfl hagrees
  | taskStoreStep ht hp => exact h.of_storeStep hg ht hp
  | @taskIncrement t step line ht hp =>
    obtain ⟨hfirst, hlast, hcurrent⟩ := h.agrees ht hp
    have hnext : step + 1 < 2 ^ 31 := hfits step (by simp [increments, ht, hp])
    rw [int32_of_fits (by omega) hnext]
    exact h.of_move rfl ⟨by omega, by omega, by omega⟩
  | @taskCancelStep t step ht hp =>
    obtain ⟨hfirst, hlast, hcurrent⟩ := h.agrees ht hp
    have hsame := h.cancelStep_eq ht hp
    exact h.of_move hsame ⟨by omega, by omega⟩
  | taskTerminal ht hp =>
    have hagrees := h.agrees ht hp
    refine h.of_modify _ ?_ ?_ (.inl rfl) fun u hu => ?_
    · exact fun _ => rfl
    · exact fun _ hx => hx
    · obtain rfl := Option.some.inj hu
      exact hagrees
  | taskRelease | taskPost | taskLog => exact h.of_move rfl trivial

/-- Only the store of `handleGoal` makes `task_current_step_` smaller. -/
lemma Moves.currentStep_le (hm : Moves s a s' out) (h : CurrentStep s) :
    s.node.task.taskCurrentStep ≤ s'.node.task.taskCurrentStep ∨ s.executor.admits = true := by
  cases hm with
  | storeZero hx =>
    refine .inr ?_
    rw [hx]
    rfl
  | @taskStoreStep t step ht hp =>
    obtain ⟨-, -, hcurrent⟩ := h.agrees ht hp
    have hle : s.node.task.taskCurrentStep ≤ step := by omega
    exact .inl hle
  | taskCancelStep ht hp => exact .inl (Int.le_of_eq (h.cancelStep_eq ht hp).symm)
  | _ => exact .inl (Int.le_refl _)

/-- The law of the goals: at most one of the accepted goals has not had its terminal call; none
while `task_active_` is false; `task_state_` is `RUNNING` only while it is true; and
`task_current_step_` lies between `0` and the target of the last accepted goal. -/
structure OneTask (s : RuntimeProcess) : Prop where
  atMostOne : ∀ (g g' : ℕ) (h h' : GoalHandle), s.goals[g]? = some h →
    s.goals[g']? = some h' → h.terminal = none → h'.terminal = none → g = g'
  inactive : s.node.task.taskActive = false → ∀ h ∈ s.goals, h.terminal ≠ none
  running : s.node.task.taskState = .running → s.node.task.taskActive = true
  bounds : 0 ≤ s.node.task.taskCurrentStep ∧ s.node.task.taskCurrentStep ≤ lastTarget s.goals

/-- The laws of the flag and of the current step are the law of the goals. -/
private lemma oneTask_of (hg : GoalInvariant s) (h : CurrentStep s) : OneTask s where
  atMostOne := by
    intro g g' x x' hx hx' hopen hopen'
    have hlength := hg.slot.open_last hx (by simp [hopen])
    have hlength' := hg.slot.open_last hx' (by simp [hopen'])
    omega
  inactive := by
    intro hfree x hx
    have hslot := hg.slot
    rw [hfree] at hslot
    exact (hslot.of_inactive x hx).2
  running := by
    intro hrunning
    by_contra hfree
    exact hg.inactive (by simpa using hfree) hrunning
  bounds := h.bounds

/-- The step does not make `task_current_step_` smaller, unless `handleGoal` has the flag, and in
particular not while an accepted goal has not had its terminal call. -/
def StepsForward (t : NodeTransition) : Prop :=
  t.pre.executor.admits = false ∨ (∃ h ∈ t.pre.goals, h.terminal = none) →
    t.pre.node.task.taskCurrentStep ≤ t.post.node.task.taskCurrentStep

/-- While `handleGoal` has the flag, every goal has had its terminal call. -/
private lemma stepsForward_of {t : NodeTransition} (hg : GoalInvariant t.pre)
    (h : t.pre.node.task.taskCurrentStep ≤ t.post.node.task.taskCurrentStep ∨
      t.pre.executor.admits = true) : StepsForward t := by
  rcases h with hle | hadmits
  · exact fun _ => hle
  · rintro (hnot | ⟨x, hx, hopen⟩)
    · simp [hadmits] at hnot
    · have hended := (hg.of_admits hadmits).2.1
      exact absurd hopen (hended x hx).2

end RuntimeProcess

/-- In a run in which the loop variable does not overflow, `task_current_step_` follows it. -/
lemma runtime_currentStep {ts : List NodeTransition} {s : RuntimeProcess}
    (h : runtimeSystem.Run ts s) (hfits : ∀ t ∈ ts, RuntimeProcess.IncrementFits t) :
    RuntimeProcess.CurrentStep s := by
  refine h.invariant_of_forall hfits ?_ fun t ht hCt hpre hi => ?_
  · rintro _ rfl
    constructor <;> simp [RuntimeProcess.start, lastTarget, ExecPoint.stage]
  · exact (RuntimeProcess.moves_of_step ht).currentStep (runtime_goalInvariant hpre)
      (runtime_positiveTargets hpre) hCt hi

/-- **One task at a time.**  In every run of the node in which the `int32_t` loop variable of
`executeTask` is not incremented at its largest value, the law of the goals holds in the state
reached, and no step makes `task_current_step_` smaller except inside `handleGoal`, while it has
`task_active_` and every accepted goal has had its terminal call. -/
theorem runtime_one_task {ts : List NodeTransition} {s : RuntimeProcess}
    (h : runtimeSystem.Run ts s) (hfits : ∀ t ∈ ts, RuntimeProcess.IncrementFits t) :
    s.OneTask ∧ ∀ t ∈ ts, RuntimeProcess.StepsForward t := by
  refine ⟨RuntimeProcess.oneTask_of (runtime_goalInvariant ⟨ts, h⟩) (runtime_currentStep h hfits),
    fun t ht => ?_⟩
  obtain ⟨us, vs, rfl⟩ := List.append_of_mem ht
  obtain ⟨hr, hvalid⟩ := h.split
  have hcurrent := runtime_currentStep hr fun u hu => hfits u (List.mem_append_left _ hu)
  exact RuntimeProcess.stepsForward_of (runtime_goalInvariant ⟨us, hr⟩)
    ((RuntimeProcess.moves_of_step hvalid).currentStep_le hcurrent)

/-- A goal runs to its end and a second one is accepted. -/
theorem runtime_one_task_goalsInTurn :
    ∃ ts s, runtimeSystem.Run ts s ∧ s.node.task = ⟨true, .running, 0⟩ ∧ s.OneTask ∧
      ∀ t ∈ ts, RuntimeProcess.StepsForward t := by
  have hrun := System.run_of_exec runtimeSystem goalsInTurn rfl rfl
  exact ⟨_, _, hrun, rfl, runtime_one_task hrun (forall_of_all rfl)⟩

/-! ### The overflow -/

/-- The longest goal. -/
def longestGoal : ExecuteTaskGoal := ⟨2 ^ 31 - 1, by decide⟩

namespace RuntimeProcess

/-- The node with the longest goal at the begin of an iteration. -/
def longestTask (step current : ℤ) : RuntimeProcess where
  node := ⟨⟨1, 1, 0, 0, 1, true⟩, ⟨.running, .none⟩, ⟨true, .running, current⟩, 0⟩
  ok := true
  goals := [⟨longestGoal, true, false, none⟩]
  executor := .idle
  taskThread := some ⟨0, longestGoal, .loop step⟩

/-- One iteration, up to the store of the current step. -/
private lemma exec_storeStep (step : ℤ) (hle : step ≤ 2 ^ 31 - 1) (current : ℤ) :
    ∃ ts, runtimeSystem.exec (longestTask step current) [.task, .task, .task] = some (ts,
      { longestTask step step with taskThread := some ⟨0, longestGoal, .feedback step⟩ }) := by
  have htarget : step ≤ longestGoal.targetSteps := hle
  simp [System.exec, runtimeSystem, RuntimeProcess.step, stepTask, longestTask, moveTask,
    isCanceling, htarget]

/-- One iteration. -/
lemma exec_iteration (step : ℤ) (hle : step ≤ 2 ^ 31 - 1) (current : ℤ) :
    ∃ ts, runtimeSystem.exec (longestTask step current) [.task, .task, .task, .task, .task] =
      some (ts, longestTask (int32 (step + 1)) step) := by
  have htarget : step ≤ longestGoal.targetSteps := hle
  simp [System.exec, runtimeSystem, RuntimeProcess.step, stepTask, longestTask, moveTask,
    isCanceling, htarget]

/-- The longest goal gets to every iteration. -/
private lemma reachable_longestTask (n : ℕ) (hn : (n : ℤ) ≤ 2 ^ 31 - 1) :
    runtimeSystem.Reachable (longestTask (int32 (n + 1)) n) := by
  induction n with
  | zero => exact ⟨_, System.run_of_exec runtimeSystem (acceptGoal longestGoal) rfl rfl⟩
  | succ n ih =>
    obtain ⟨ts, hr⟩ := ih (by omega)
    rw [int32_of_fits (by omega) (by omega)] at hr
    obtain ⟨us, hus⟩ := exec_iteration (n + 1) (by omega) n
    exact ⟨_, by simpa using hr.exec hus⟩

end RuntimeProcess

/-- With the longest goal the loop variable overflows after the last iteration, the loop goes on,
and the next step that is stored is negative. -/
theorem runtime_one_task_overflow :
    ∃ s, runtimeSystem.Reachable s ∧ s.executor = .idle ∧ s.node.task.taskCurrentStep < 0 := by
  obtain ⟨ts, hr⟩ := RuntimeProcess.reachable_longestTask (2 ^ 31 - 1) (by decide)
  obtain ⟨us, hus⟩ := RuntimeProcess.exec_storeStep (int32 (2 ^ 31 - 1 + 1)) (by decide)
    (2 ^ 31 - 1)
  exact ⟨_, ⟨_, hr.exec hus⟩, rfl, by decide⟩

end SystemsDemos
