import SystemsDemos.RuntimeNode.Node

/-!
# The cases of a step of the runtime node

`Moves` lists everything a step of the node can be, with its guards, in the terms that matter for
the laws of the node: most points of the executor only read, log and respond, and all their steps
are the one case `quiet`.  `moves_of_step` is the only place where the step function is unfolded.

What a callback other than `handleGoal` does between two steps is irrelevant for these laws.
`ExecPoint.stage` keeps how far `handleGoal` is with a goal that it has not rejected.
-/

namespace SystemsDemos

/-- A step of the node with the states on both sides. -/
abbrev NodeTransition := Transition RuntimeProcess NodeAct NodeEvent

/-- How far `handleGoal` is, before each of its accesses to shared state. -/
inductive GoalStage
  /-- Before the state is read. -/
  | reading
  /-- Before the compare-exchange. -/
  | exchanging
  | storingState
  | storingStep
  /-- Before `StartTask` is processed. -/
  | starting
  /-- `StartTask` has been processed. -/
  | started
  deriving DecidableEq

/-- The stage of `handleGoal` with the goal, unless another callback runs or it has rejected. -/
def ExecPoint.stage : ExecPoint → Option (GoalStage × ExecuteTaskGoal)
  | log _ _ _ next => next.stage
  | goalState goal => some (.reading, goal)
  | goalExchange goal => some (.exchanging, goal)
  | goalStoreState goal => some (.storingState, goal)
  | goalStoreStep goal => some (.storingStep, goal)
  | goalStart goal => some (.starting, goal)
  | goalReturn goal true => some (.started, goal)
  | _ => none

/-- The goal for which the callback is going to start a task thread. -/
def ExecPoint.spawns : ExecPoint → Option ℕ
  | log _ _ _ next => next.spawns
  | spawn g => some g
  | _ => none

/-- `handleGoal` holds `task_active_` at this stage. -/
def GoalStage.holds : GoalStage → Bool
  | reading => false
  | exchanging => false
  | _ => true

/-- The executor holds `task_active_` for a goal that is not accepted yet. -/
def ExecPoint.admits (p : ExecPoint) : Bool := p.stage.any fun r => r.1.holds

namespace ExecPoint

variable {p q : ExecPoint}

/-- The stage decides whether `handleGoal` has the flag. -/
lemma admits_congr (h : p.stage = q.stage) : p.admits = q.admits := by
  simp [admits, h]

lemma admits_of_stage {stage : GoalStage} {goal : ExecuteTaskGoal}
    (h : p.stage = some (stage, goal)) : p.admits = stage.holds := by
  simp [admits, h]

lemma admits_of_stage_none (h : p.stage = none) : p.admits = false := by
  simp [admits, h]

end ExecPoint

/-- After `updateRuntimeState` only a goal with positive `target_steps` is still considered. -/
lemma UpdateCaller.next_cases (caller : UpdateCaller) :
    caller.next.spawns = none ∧
      (caller.next.stage = none ∨
        ∃ goal, caller = .goal goal ∧ 0 < goal.targetSteps ∧
          caller.next = .goalState goal) := by
  cases caller with
  | queryStatus => exact ⟨rfl, .inl rfl⟩
  | heartbeat => exact ⟨rfl, .inl rfl⟩
  | goal goal =>
    by_cases hpos : goal.targetSteps ≤ 0
    · simp [next, hpos, ExecPoint.stage, ExecPoint.spawns]
    · have hnext : (UpdateCaller.goal goal).next = .goalState goal := by simp [next, hpos]
      exact ⟨by rw [hnext]; rfl, .inr ⟨goal, rfl, Int.not_le.mp hpos, hnext⟩⟩

/-- `updateRuntimeState` does not take the flag. -/
lemma UpdateCaller.next_admits (caller : UpdateCaller) : caller.next.admits = false := by
  rcases caller.next_cases.2 with hnone | ⟨goal, -, -, hnext⟩
  · exact ExecPoint.admits_of_stage_none hnone
  · rw [hnext]
    rfl

namespace RuntimeStateMachine

/-- What `processRuntimeEvent` returns for an event. -/
def transition (m : RuntimeStateMachine) (event : RuntimeEvent) : RuntimeTransition :=
  ⟨m.state, (m.next event).state, (m.next event).error, decide ((m.next event).state ≠ m.state)⟩

end RuntimeStateMachine

/-- `processRuntimeEvent` lets the machine take its next state and says so. -/
lemma RuntimeNode.processRuntimeEvent_eq (n : RuntimeNode) (event : RuntimeEvent) :
    n.processRuntimeEvent event =
      ({ n with runtimeStateMachine := n.runtimeStateMachine.next event },
        n.runtimeStateMachine.transition event) := by
  simp [processRuntimeEvent, RuntimeStateMachine.transition]

namespace RuntimeProcess

/-- Everything a step of the node can be. -/
inductive Moves (s : RuntimeProcess) : NodeAct → RuntimeProcess → List NodeEvent → Prop
  | imu {now frameId next} (hx : s.executor = .idle) (hnext : next.stage = none)
      (hspawn : next.spawns = none) :
      Moves s (.imu now frameId)
        { s with
          node := { s.node with sensors := s.node.sensors.imu now }
          executor := next } [.imu now]
  | jointState {now names positions velocities sensors next} (hx : s.executor = .idle)
      (hsensors : sensors = s.node.sensors.jointState now names positions velocities)
      (hnext : next.stage = none) (hspawn : next.spawns = none) :
      Moves s (.jointState now names positions velocities)
        { s with node := { s.node with sensors := sensors }, executor := next }
        [.jointState now sensors.latestJointValid]
  /-- Another callback starts, or the executor reads, logs or responds. -/
  | quiet {a seq next out} (ha : a ≠ .task)
      (hstage : next.stage = s.executor.stage ∨ s.executor.admits = false ∧ next.stage = none)
      (hspawn : next.spawns = s.executor.spawns ∨
        ∀ g h, next.spawns = some g → s.goals[g]? = some h → h.spawned = false)
      (hout : ∀ e ∈ out, e.isReport = true) :
      Moves s a
        { s with
          node := { s.node with heartbeatSequence := seq }
          executor := next } out
  | reset {now caller} (hx : s.executor = .update caller) (hmissing : s.node.sensors.Missing) :
      Moves s (.exec now)
        { s with
          node := { s.node with runtimeStateMachine := .reset .idle }
          executor := caller.next } [.reset s.node.runtimeStateMachine]
  | sense {now caller} (hx : s.executor = .update caller) (hpresent : ¬s.node.sensors.Missing) :
      Moves s (.exec now)
        { s with
          node := { s.node with
            runtimeStateMachine := s.node.runtimeStateMachine.next (s.node.sensors.event now) }
          executor := caller.next }
        (RuntimeNode.processed .sensors (s.node.sensors.event now)
          (s.node.runtimeStateMachine.transition (s.node.sensors.event now)))
  /-- A service lets the machine process an event. -/
  | operate {now source event next} (hx : s.executor.stage = none) (hnext : next.stage = none)
      (hspawn : next.spawns = none)
      (hsource : source = .resetFault ∧ event = .resetFault ∨ source = .applyEvent) :
      Moves s (.exec now)
        { s with
          node := { s.node with
            runtimeStateMachine := s.node.runtimeStateMachine.next event }
          executor := next }
        (RuntimeNode.processed source event (s.node.runtimeStateMachine.transition event))
  | standby {now goal} (hx : s.executor = .goalState goal)
      (hm : s.node.runtimeStateMachine.state = .standby) :
      Moves s (.exec now) { s with executor := .goalExchange goal } []
  | exchange {now goal} (hx : s.executor = .goalExchange goal)
      (hfree : s.node.task.taskActive = false) :
      Moves s (.exec now)
        { s with
          node := { s.node with task := { s.node.task with taskActive := true } }
          executor := .goalStoreState goal } []
  | storeRunning {now goal} (hx : s.executor = .goalStoreState goal) :
      Moves s (.exec now)
        { s with
          node := { s.node with task := { s.node.task with taskState := .running } }
          executor := .goalStoreStep goal } []
  | storeZero {now goal} (hx : s.executor = .goalStoreStep goal) :
      Moves s (.exec now)
        { s with
          node := { s.node with task := { s.node.task with taskCurrentStep := 0 } }
          executor := .goalStart goal } []
  | startTask {now goal next} (hx : s.executor = .goalStart goal)
      (hnext : next.stage = some (.started, goal)) (hspawn : next.spawns = none) :
      Moves s (.exec now)
        { s with
          node := { s.node with
            runtimeStateMachine := s.node.runtimeStateMachine.next .startTask }
          executor := next }
        (RuntimeNode.processed .handleGoal .startTask
          (s.node.runtimeStateMachine.transition .startTask))
  | accept {now goal} (hx : s.executor = .goalReturn goal true) :
      Moves s (.exec now)
        { s with goals := s.goals ++ [⟨goal, false, false, none⟩], executor := .idle }
        [.goalResponse goal true]
  | cancelReturn {now g} (hx : s.executor = .cancelReturn g) :
      Moves s (.exec now)
        { s with
          goals := s.goals.modify g fun h =>
            { h with canceling := h.canceling || h.terminal.isNone }
          executor := .idle } [.cancelResponse g]
  | spawn {now g h} (hx : s.executor = .spawn g) (hg : s.goals[g]? = some h)
      (hjoin : ∀ t, s.taskThread = some t → t.point = .returned) :
      Moves s (.exec now)
        { s with
          goals := s.goals.modify g fun h => { h with spawned := true }
          executor := .idle
          taskThread := some ⟨g, h.goal, .loop 1⟩ } [.started g]
  | shutdown : Moves s .shutdown { s with ok := false } []
  | taskLoop {t step} (ht : s.taskThread = some t) (hp : t.point = .loop step)
      (hle : step ≤ t.goal.targetSteps) (hc : s.isCanceling t.g = false) :
      Moves s .task (s.moveTask t (.checkOk step)) []
  | taskCanceling {t step} (ht : s.taskThread = some t) (hp : t.point = .loop step)
      (hle : step ≤ t.goal.targetSteps) (hc : s.isCanceling t.g = true) :
      Moves s .task (s.moveTask t (.cancelStep step)) []
  | taskDone {t step} (ht : s.taskThread = some t) (hp : t.point = .loop step)
      (hlt : t.goal.targetSteps < step) :
      Moves s .task (s.moveTask t (.storeState .succeeded)) []
  | taskOk {t step} (ht : s.taskThread = some t) (hp : t.point = .checkOk step)
      (hok : s.ok = true) : Moves s .task (s.moveTask t (.storeStep step)) []
  | taskNotOk {t step} (ht : s.taskThread = some t) (hp : t.point = .checkOk step)
      (hok : s.ok = false) : Moves s .task (s.moveTask t (.storeState .failed)) []
  | taskStoreStep {t step} (ht : s.taskThread = some t) (hp : t.point = .storeStep step) :
      Moves s .task
        { s.moveTask t (.feedback step) with
          node := { s.node with task := { s.node.task with taskCurrentStep := step } } }
        [.stepStored t.g step]
  | taskFeedback {t step} (ht : s.taskThread = some t) (hp : t.point = .feedback step) :
      Moves s .task (s.moveTask t (.logFeedback step)) [.feedback t.g step]
  | taskIncrement {t step line} (ht : s.taskThread = some t) (hp : t.point = .logFeedback step) :
      Moves s .task (s.moveTask t (.loop (int32 (step + 1)))) [.log line]
  | taskCancelStep {t step} (ht : s.taskThread = some t) (hp : t.point = .cancelStep step) :
      Moves s .task
        { s.moveTask t (.storeState (.canceled (int32 (step - 1)))) with
          node := { s.node with
            task := { s.node.task with taskCurrentStep := int32 (step - 1) } } } []
  | taskStoreState {t result} (ht : s.taskThread = some t) (hp : t.point = .storeState result) :
      Moves s .task
        { s.moveTask t (.terminal result) with
          node := { s.node with task := { s.node.task with taskState := result.state } } } []
  | taskTerminal {t result} (ht : s.taskThread = some t) (hp : t.point = .terminal result) :
      Moves s .task
        { s.moveTask t (.release result) with
          goals := s.goals.modify t.g fun h => { h with terminal := some result } }
        [.terminal t.g result]
  | taskRelease {t result} (ht : s.taskThread = some t) (hp : t.point = .release result) :
      Moves s .task
        { s.moveTask t (.post result) with
          node := { s.node with task := { s.node.task with taskActive := false } } }
        [.released t.g]
  | taskPost {t result} (ht : s.taskThread = some t) (hp : t.point = .post result) :
      Moves s .task
        { s.moveTask t (.logResult result) with
          node := { s.node with
            runtimeStateMachine := s.node.runtimeStateMachine.next result.event } }
        (RuntimeNode.processed (.executeTask t.g) result.event
          (s.node.runtimeStateMachine.transition result.event))
  | taskLog {t result line} (ht : s.taskThread = some t) (hp : t.point = .logResult result) :
      Moves s .task (s.moveTask t .returned) [.log line]

variable {s s' : RuntimeProcess} {a : NodeAct} {out : List NodeEvent}

/-- A step of the executor that only moves on and reports. -/
private lemma Moves.of_report {now : ℤ} {next : ExecPoint} (hout : ∀ e ∈ out, e.isReport = true)
    (hstage : next.stage = s.executor.stage ∨ s.executor.admits = false ∧ next.stage = none)
    (hspawn : next.spawns = s.executor.spawns) :
    Moves s (.exec now) { s with executor := next } out :=
  @Moves.quiet s _ s.node.heartbeatSequence next out (by simp) hstage (.inl hspawn) hout

/-- After a status summary no goal is being handled. -/
private lemma summaryUse_next (use : SummaryUse) (summary : StatusSummary) :
    (use.next summary).stage = none ∧ (use.next summary).spawns = none := by
  cases use <;> exact ⟨rfl, rfl⟩

/-- The inversion of `stepExecutor`. -/
private lemma moves_of_stepExecutor {now : ℤ} (h : s.stepExecutor now = some (s', out)) :
    Moves s (.exec now) s' out := by
  unfold stepExecutor at h
  cases hx : s.executor with
  | idle => simp [hx] at h
  | log level event message next =>
    simp only [hx, Option.some.injEq, Prod.mk.injEq] at h
    obtain ⟨rfl, rfl⟩ := h
    exact .of_report (by simp [NodeEvent.isReport]) (.inl (by rw [hx]; rfl)) (by rw [hx]; rfl)
  | update caller =>
    simp only [hx, RuntimeNode.updateRuntimeState, RuntimeNode.processRuntimeEvent_eq] at h
    by_cases hm : s.node.sensors.Missing
    · rw [if_pos hm] at h
      cases h
      exact .reset hx hm
    · rw [if_neg hm] at h
      cases h
      exact .sense hx hm
  | resetFault =>
    simp only [hx, RuntimeNode.processRuntimeEvent_eq] at h
    cases h
    exact .operate (by rw [hx]; rfl) rfl rfl (.inl ⟨rfl, rfl⟩)
  | applyEvent name event =>
    simp only [hx, RuntimeNode.processRuntimeEvent_eq] at h
    cases h
    exact .operate (by rw [hx]; rfl) rfl rfl (.inr rfl)
  | summaryTaskStep use state error taskState =>
    simp only [hx] at h
    cases h
    have hnext := summaryUse_next use (s.statusSummary state error taskState)
    exact .of_report (List.forall_mem_nil _) (.inl (by rw [hx, hnext.1]; rfl))
      (by rw [hx, hnext.2]; rfl)
  | heartbeat =>
    simp only [hx] at h
    cases h
    refine @Moves.quiet s _ _ _ _ (by simp) (.inl ?_) (.inl ?_) ?_
    · rw [hx]
      rfl
    · rw [hx]
      rfl
    · simp [NodeEvent.isReport]
  | goalState goal =>
    simp only [hx] at h
    split at h
    · next hm =>
      cases h
      exact .standby hx hm
    · cases h
      exact .of_report (List.forall_mem_nil _) (.inr ⟨by rw [hx]; rfl, rfl⟩) (by rw [hx]; rfl)
  | goalExchange goal =>
    simp only [hx] at h
    split at h
    · cases h
      exact .of_report (List.forall_mem_nil _) (.inr ⟨by rw [hx]; rfl, rfl⟩) (by rw [hx]; rfl)
    · next hfree =>
      cases h
      exact .exchange hx (by simpa using hfree)
  | goalStoreState goal =>
    simp only [hx] at h
    cases h
    exact .storeRunning hx
  | goalStoreStep goal =>
    simp only [hx] at h
    cases h
    exact .storeZero hx
  | goalStart goal =>
    simp only [hx, RuntimeNode.processRuntimeEvent_eq] at h
    cases h
    exact .startTask hx rfl rfl
  | goalReturn goal accepted =>
    cases accepted with
    | true =>
      simp only [hx] at h
      cases h
      exact .accept hx
    | false =>
      simp only [hx] at h
      cases h
      exact .of_report (by simp [NodeEvent.isReport]) (.inl (by rw [hx]; rfl)) (by rw [hx]; rfl)
  | cancelReturn g =>
    simp only [hx] at h
    cases h
    exact .cancelReturn hx
  | spawn g =>
    simp only [hx] at h
    split at h
    · next hjoin =>
      obtain ⟨handle, hg, hr⟩ := Option.map_eq_some_iff.mp h
      cases hr
      refine .spawn hx hg fun t ht => ?_
      simpa [ht] using hjoin
    · cases h
  | resetFaultReturn | queryState | queryReturn _ _ | summary _ | summaryTaskState _ _ _
  | performance | applyReturn _ | unknownState _ | unknownError _ _ =>
    simp only [hx] at h
    cases h
    exact .of_report (by simp [NodeEvent.isReport]) (.inl (by rw [hx]; rfl)) (by rw [hx]; rfl)

/-- The inversion of `stepTask`. -/
private lemma moves_of_stepTask (h : s.stepTask = some (s', out)) : Moves s .task s' out := by
  unfold stepTask at h
  cases ht : s.taskThread with
  | none => simp [ht] at h
  | some t =>
    simp only [ht] at h
    cases hp : t.point with
    | loop step =>
      simp only [hp] at h
      split at h
      · next hle =>
        split at h
        · next hc =>
          cases h
          exact .taskCanceling ht hp hle hc
        · next hc =>
          cases h
          exact .taskLoop ht hp hle (by simpa using hc)
      · next hgt =>
        cases h
        exact .taskDone ht hp (Int.not_le.mp hgt)
    | checkOk step =>
      simp only [hp] at h
      split at h
      · next hok =>
        cases h
        exact .taskOk ht hp hok
      · next hok =>
        cases h
        exact .taskNotOk ht hp (by simpa using hok)
    | storeStep step =>
      simp only [hp] at h
      cases h
      exact .taskStoreStep ht hp
    | feedback step =>
      simp only [hp] at h
      cases h
      exact .taskFeedback ht hp
    | logFeedback step =>
      simp only [hp] at h
      cases h
      exact .taskIncrement ht hp
    | cancelStep step =>
      simp only [hp] at h
      cases h
      exact .taskCancelStep ht hp
    | storeState result =>
      simp only [hp] at h
      cases h
      exact .taskStoreState ht hp
    | terminal result =>
      simp only [hp] at h
      cases h
      exact .taskTerminal ht hp
    | release result =>
      simp only [hp] at h
      cases h
      exact .taskRelease ht hp
    | post result =>
      simp only [hp, RuntimeNode.processRuntimeEvent_eq] at h
      cases h
      exact .taskPost ht hp
    | logResult result =>
      simp only [hp] at h
      cases h
      exact .taskLog ht hp
    | returned => simp [hp] at h

/-- A callback that handles no sensor message reports nothing when it starts. -/
private lemma moves_of_callback (hidle : s.executor = .idle) {sensors : Sensors}
    {next : ExecPoint} (h : s.callback a = some (sensors, next, out)) :
    Moves s a { s with node := { s.node with sensors := sensors }, executor := next } out := by
  have hquiet {a next} (ha : a ≠ .task) (hstage : next.stage = none)
      (hspawn : ∀ g h, next.spawns = some g → s.goals[g]? = some h → h.spawned = false) :
      Moves s a { s with executor := next } [] :=
    @Moves.quiet s a s.node.heartbeatSequence next [] ha (.inl (by rw [hidle, hstage]; rfl))
      (.inr hspawn) (List.forall_mem_nil _)
  cases a <;> simp only [callback] at h
  case imu => cases h; exact .imu hidle rfl rfl
  case jointState =>
    cases h
    refine .jointState hidle rfl ?_ ?_ <;> split <;> rfl
  case applyEvent =>
    split at h <;> cases h <;> exact hquiet (by simp) rfl (by simp [ExecPoint.spawns])
  case cancel =>
    split at h <;> cases h
    exact hquiet (by simp) rfl (by simp [ExecPoint.spawns])
  case accepted g =>
    split at h
    · next hg =>
      cases h
      refine hquiet (by simp) rfl fun g' handle hg' hhandle => ?_
      cases hg'
      simpa [hhandle] using hg
    · cases h
  all_goals
    cases h
    try exact hquiet (by simp) rfl (by simp [ExecPoint.spawns])

/-- Every enabled step is one of the listed moves. -/
theorem moves_of_step (h : s.step a = some (s', out)) : Moves s a s' out := by
  cases a with
  | exec now => exact moves_of_stepExecutor h
  | task => exact moves_of_stepTask h
  | shutdown =>
    cases h
    exact .shutdown
  | _ =>
    simp only [step] at h
    split at h
    · next hidle =>
      obtain ⟨⟨sensors, next, out'⟩, hc, hr⟩ := Option.map_eq_some_iff.mp h
      cases hr
      exact moves_of_callback hidle hc
    · cases h

end RuntimeProcess

end SystemsDemos
