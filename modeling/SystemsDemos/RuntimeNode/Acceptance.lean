import SystemsDemos.RuntimeNode.Fault
import SystemsDemos.RuntimeNode.Goals
import SystemsDemos.Transition.History

/-!
# What an accepted goal rests on

`handleGoal` makes its checks one after the other and holds no lock between them: it updates the
state from the sensors, reads the state, takes `task_active_` and then processes `StartTask`.  In
between the old task thread may process its last event, and nothing else touches the state machine,
since the other callbacks run in the same executor.  A last event is ignored outside `Running`
(`RuntimeStateMachine.next_taskEnd`), so what has been checked stays true: `GoalStage.Checked` says
at every stage what is known from the steps of the call.

### Outline

* `lastImu` and `lastJointState`, the messages of the sensors, and `runtime_heard`;
* `InCall` and `GoalStage.Checked`, with `runtime_inCall`;
* `runtime_accepts_healthy`, the law of the accepted goals.
-/

namespace SystemsDemos

/-! ### The messages of the sensors -/

/-- A joint state message: when it is received and the sizes of its three arrays. -/
structure JointMessage where
  time : ℤ
  names : ℕ
  positions : ℕ
  velocities : ℕ

/-- There are joints, each with a position and a velocity. -/
def JointMessage.WellShaped (m : JointMessage) : Prop :=
  m.names ≠ 0 ∧ m.positions = m.names ∧ m.velocities = m.names

namespace NodeAct

/-- The time at which an IMU message is received. -/
def imuTime : NodeAct → Option ℤ
  | imu now _ => some now
  | _ => none

/-- The joint state message that is received. -/
def jointMessage : NodeAct → Option JointMessage
  | jointState now names positions velocities => some ⟨now, names, positions, velocities⟩
  | _ => none

end NodeAct

/-- The time of the last IMU message. -/
def lastImu (ts : List NodeTransition) : Option ℤ :=
  (ts.filterMap fun t => t.act.imuTime).getLast?

/-- The last joint state message. -/
def lastJointState (ts : List NodeTransition) : Option JointMessage :=
  (ts.filterMap fun t => t.act.jointMessage).getLast?

lemma lastImu_snoc (ts : List NodeTransition) (t : NodeTransition) :
    lastImu (ts ++ [t]) = t.act.imuTime.or (lastImu ts) :=
  getLast?_filterMap_snoc _ ts t

lemma lastJointState_snoc (ts : List NodeTransition) (t : NodeTransition) :
    lastJointState (ts ++ [t]) = t.act.jointMessage.or (lastJointState ts) :=
  getLast?_filterMap_snoc _ ts t

/-- The sensors store what the last messages say. -/
structure Heard (ts : List NodeTransition) (s : Sensors) : Prop where
  imu : s.imuCount ≠ 0 → lastImu ts = some s.lastImuTime
  jointState : s.jointCount ≠ 0 → ∃ m, lastJointState ts = some m ∧ m.time = s.lastJointTime ∧
    (s.latestJointValid = true ↔ m.WellShaped)

namespace RuntimeProcess

variable {s s' : RuntimeProcess} {a : NodeAct} {out : List NodeEvent}

/-- A step without a message leaves the sensors as they are. -/
lemma sensors_of_step (h : s.step a = some (s', out)) (himu : a.imuTime = none)
    (hjoint : a.jointMessage = none) : s'.node.sensors = s.node.sensors := by
  cases moves_of_step h with
  | imu => cases himu
  | jointState => cases hjoint
  | _ => rfl

/-- Every step keeps track of the last messages. -/
lemma heard_of_step (hstep : s.step a = some (s', out)) {ts : List NodeTransition}
    (h : Heard ts s.node.sensors) : Heard (ts ++ [⟨s, a, s', out⟩]) s'.node.sensors := by
  cases a with
  | imu now frameId =>
    simp only [step, callback] at hstep
    split at hstep
    · cases hstep
      refine ⟨fun _ => ?_, fun hcount => ?_⟩
      · rw [lastImu_snoc]
        rfl
      · rw [lastJointState_snoc]
        exact h.jointState hcount
    · cases hstep
  | jointState now names positions velocities =>
    simp only [step, callback] at hstep
    split at hstep
    · cases hstep
      refine ⟨fun hcount => ?_, fun _ => ⟨⟨now, names, positions, velocities⟩, ?_, rfl, ?_⟩⟩
      · rw [lastImu_snoc]
        exact h.imu hcount
      · rw [lastJointState_snoc]
        rfl
      · simp [Sensors.jointState, JointMessage.WellShaped, and_assoc]
    · cases hstep
  | _ =>
    rw [sensors_of_step hstep rfl rfl]
    refine ⟨fun hcount => ?_, fun hcount => ?_⟩
    · rw [lastImu_snoc]
      exact h.imu hcount
    · rw [lastJointState_snoc]
      exact h.jointState hcount

end RuntimeProcess

/-- In every run of the node the sensors store what the last messages say. -/
lemma runtime_heard {ts : List NodeTransition} {s : RuntimeProcess}
    (h : runtimeSystem.Run ts s) : Heard ts s.node.sensors := by
  refine h.invariant_history (I := fun ts s => Heard ts s.node.sensors) ?_
    fun ts s a s' out _ hi hs => RuntimeProcess.heard_of_step hs hi
  rintro s rfl
  constructor <;> simp [RuntimeProcess.start]

/-! ### The steps of one call -/

/-- The steps `ts` end inside a call of `handleGoal` with `goal`: in step `u` its
`updateRuntimeState` has read the clock value `now`, and the executor was never idle in the steps
`vs` since then. -/
structure InCall (goal : ExecuteTaskGoal) (now : ℤ) (us : List NodeTransition)
    (u : NodeTransition) (vs ts : List NodeTransition) : Prop where
  steps : ts = us ++ u :: vs
  act : u.act = .exec now
  update : u.pre.executor = .update (.goal goal)
  busy : ∀ v ∈ vs, v.pre.executor ≠ .idle

/-- The compare-exchange of the call has found `task_active_` free. -/
def Exchanged (goal : ExecuteTaskGoal) (vs : List NodeTransition) : Prop :=
  ∃ v ∈ vs, v.pre.executor = .goalExchange goal ∧ v.pre.node.task.taskActive = false ∧
    v.post.node.task.taskActive = true

/-- The call has moved the machine from `Standby` to `Running`. -/
def Started (vs : List NodeTransition) : Prop :=
  ∃ v ∈ vs, .processed .handleGoal .startTask ⟨.standby, .running, .none, true⟩ ∈ v.out

/-- What the steps of the call have found out when it is at this stage. -/
def GoalStage.Checked (goal : ExecuteTaskGoal) (now : ℤ) (u : NodeTransition)
    (vs : List NodeTransition) (m : RuntimeStateMachine) : GoalStage → Prop
  | reading => u.pre.node.sensors.Healthy now ∨ m.state = .idle ∨ m.state = .fault
  | exchanging => u.pre.node.sensors.Healthy now ∧ m.state = .standby
  | storingState | storingStep | starting =>
      u.pre.node.sensors.Healthy now ∧ Exchanged goal vs ∧ m.state = .standby
  | started => u.pre.node.sensors.Healthy now ∧ Exchanged goal vs ∧ Started vs

section Call

variable {goal : ExecuteTaskGoal} {now : ℤ} {us vs ts : List NodeTransition}
  {u v : NodeTransition} {m : RuntimeStateMachine}

/-- The call goes on with a step in which the executor is not idle. -/
lemma InCall.snoc (h : InCall goal now us u vs ts) (hv : v.pre.executor ≠ .idle) :
    InCall goal now us u (vs ++ [v]) (ts ++ [v]) where
  steps := by simp [h.steps]
  act := h.act
  update := h.update
  busy := by
    intro w hw
    rcases List.mem_append.mp hw with hw | hw
    · exact h.busy w hw
    · obtain rfl := List.mem_singleton.mp hw
      exact hv

lemma Exchanged.snoc (h : Exchanged goal vs) : Exchanged goal (vs ++ [v]) := by
  obtain ⟨w, hw, hfree⟩ := h
  exact ⟨w, List.mem_append_left _ hw, hfree⟩

lemma Started.snoc (h : Started vs) : Started (vs ++ [v]) := by
  obtain ⟨w, hw, hstarted⟩ := h
  exact ⟨w, List.mem_append_left _ hw, hstarted⟩

/-- Before `StartTask` nothing depends on more than the state `Standby`, `Idle` or `Fault`. -/
lemma GoalStage.Checked.snoc {stage : GoalStage} (h : stage.Checked goal now u vs m) :
    stage.Checked goal now u (vs ++ [v]) m := by
  cases stage with
  | reading => exact h
  | exchanging => exact h
  | storingState | storingStep | starting => exact ⟨h.1, h.2.1.snoc, h.2.2⟩
  | started => exact ⟨h.1, h.2.1.snoc, h.2.2.snoc⟩

/-- The last event of the old task does not undo what has been checked. -/
lemma GoalStage.Checked.taskEnd {stage : GoalStage} (h : stage.Checked goal now u vs m)
    {event : RuntimeEvent} (he : RuntimeStateMachine.IsTaskEnd event) :
    stage.Checked goal now u vs (m.next event) := by
  have hignored (hm : m.state ≠ .running) : m.next event = m :=
    RuntimeStateMachine.next_taskEnd hm he
  cases stage with
  | reading =>
    rcases h with hhealthy | hm | hm
    · exact .inl hhealthy
    · rw [hignored (by simp [hm])]
      exact .inr (.inl hm)
    · rw [hignored (by simp [hm])]
      exact .inr (.inr hm)
  | exchanging =>
    rw [hignored (by simp [h.2])]
    exact h
  | storingState | storingStep | starting =>
    rw [hignored (by simp [h.2.2])]
    exact h
  | started => exact h

end Call

namespace RuntimeProcess

/-- At every stage of `handleGoal` the steps of the call have checked what belongs to it. -/
def CallChecked (ts : List NodeTransition) (s : RuntimeProcess) : Prop :=
  ∀ stage goal, s.executor.stage = some (stage, goal) → ∃ now us u vs,
    InCall goal now us u vs ts ∧ stage.Checked goal now u vs s.machine

variable {s s' : RuntimeProcess} {a : NodeAct} {out : List NodeEvent} {ts : List NodeTransition}

/-- With a stage the executor is not idle. -/
private lemma not_idle {r : GoalStage × ExecuteTaskGoal} (h : s.executor.stage = some r) :
    s.executor ≠ .idle := by
  intro hidle
  rw [hidle] at h
  cases h

namespace CallChecked

/-- The stage stays, and at most the last event of the old task is processed. -/
private lemma stay (h : CallChecked ts s) (hexecutor : s'.executor.stage = s.executor.stage)
    (hmachine : s'.machine = s.machine ∨
      ∃ event, RuntimeStateMachine.IsTaskEnd event ∧ s'.machine = s.machine.next event) :
    CallChecked (ts ++ [⟨s, a, s', out⟩]) s' := by
  intro stage goal hstage
  rw [hexecutor] at hstage
  obtain ⟨now, us, u, vs, hcall, hchecked⟩ := h stage goal hstage
  refine ⟨now, us, u, _, hcall.snoc (not_idle hstage), ?_⟩
  rcases hmachine with hmachine | ⟨event, hend, hmachine⟩
  · rw [hmachine]
    exact hchecked.snoc
  · rw [hmachine]
    exact (hchecked.taskEnd hend).snoc

/-- No goal is being handled. -/
private lemma of_noStage (hexecutor : s'.executor.stage = none) :
    CallChecked (ts ++ [⟨s, a, s', out⟩]) s' := by
  intro stage goal hstage
  simp [hexecutor] at hstage

/-- The call goes to its next stage. -/
private lemma advance (h : CallChecked ts s) (stage : GoalStage) {stage' : GoalStage}
    {goal : ExecuteTaskGoal} (hpre : s.executor.stage = some (stage, goal))
    (hpost : s'.executor.stage = some (stage', goal))
    (hstep : ∀ now u vs, stage.Checked goal now u vs s.machine →
      stage'.Checked goal now u (vs ++ [⟨s, a, s', out⟩]) s'.machine) :
    CallChecked (ts ++ [⟨s, a, s', out⟩]) s' := by
  intro stage₁ goal₁ hstage
  rw [hpost] at hstage
  obtain ⟨rfl, rfl⟩ := Prod.mk.inj (Option.some.inj hstage)
  obtain ⟨now, us, u, vs, hcall, hchecked⟩ := h stage goal hpre
  exact ⟨now, us, u, _, hcall.snoc (not_idle hpre), hstep now u vs hchecked⟩

/-- The call has executed `updateRuntimeState`. -/
private lemma begun {now : ℤ} {caller : UpdateCaller} (ha : a = .exec now)
    (hx : s.executor = .update caller) (hnext : s'.executor = caller.next)
    (hsensors : s.node.sensors.Healthy now ∨ s'.machine.state = .idle ∨
      s'.machine.state = .fault) : CallChecked (ts ++ [⟨s, a, s', out⟩]) s' := by
  rcases caller.next_cases.2 with hstage | ⟨goal, rfl, -, hstage⟩
  · exact of_noStage (by rw [hnext, hstage])
  · intro stage₁ goal₁ hstage₁
    rw [hnext, hstage] at hstage₁
    obtain ⟨rfl, rfl⟩ := Prod.mk.inj (Option.some.inj hstage₁)
    exact ⟨now, ts, ⟨s, a, s', out⟩, [], ⟨rfl, ha, hx, List.forall_mem_nil _⟩, hsensors⟩

end CallChecked

/-- Every step goes on with the call, or the call goes to its next stage, or a call begins. -/
lemma Moves.callChecked (hm : Moves s a s' out) (h : CallChecked ts s) :
    CallChecked (ts ++ [⟨s, a, s', out⟩]) s' := by
  cases hm with
  | imu _ hnext | jointState _ _ hnext | operate _ hnext => exact CallChecked.of_noStage hnext
  | quiet _ hstage =>
    rcases hstage with hstage | ⟨-, hstage⟩
    · exact h.stay hstage (.inl rfl)
    · exact CallChecked.of_noStage hstage
  | reset hx => exact CallChecked.begun rfl hx rfl (.inr (.inl rfl))
  | @sense now caller hx hpresent =>
    refine CallChecked.begun rfl hx rfl ?_
    rcases s.node.sensors.event_cases now with he | he | he
    · exact .inl (Sensors.healthy_of_event hpresent he)
    · exact .inr (.inr (RuntimeStateMachine.next_unhealthy (.inl he)))
    · exact .inr (.inr (RuntimeStateMachine.next_unhealthy (.inr he)))
  | standby hx hm =>
    refine h.advance .reading (by rw [hx]; rfl) rfl fun now u vs hchecked => ?_
    have hm' : s.machine.state = .standby := hm
    rcases hchecked with hhealthy | hstate | hstate
    · exact ⟨hhealthy, hm⟩
    · simp [hm'] at hstate
    · simp [hm'] at hstate
  | exchange hx hfree =>
    refine h.advance .exchanging (by rw [hx]; rfl) rfl fun now u vs hchecked => ?_
    exact ⟨hchecked.1, ⟨_, List.mem_concat_self, hx, hfree, rfl⟩, hchecked.2⟩
  | storeRunning hx =>
    refine h.advance .storingState (by rw [hx]; rfl) rfl fun now u vs hchecked => ?_
    exact ⟨hchecked.1, hchecked.2.1.snoc, hchecked.2.2⟩
  | storeZero hx =>
    refine h.advance .storingStep (by rw [hx]; rfl) rfl fun now u vs hchecked => ?_
    exact ⟨hchecked.1, hchecked.2.1.snoc, hchecked.2.2⟩
  | startTask hx hnext =>
    refine h.advance .starting (by rw [hx]; rfl) hnext fun now u vs hchecked => ?_
    obtain ⟨hhealthy, hexchanged, hm⟩ := hchecked
    refine ⟨hhealthy, hexchanged.snoc, _, List.mem_concat_self, ?_⟩
    have hstarted : s.machine.transition .startTask = ⟨.standby, .running, .none, true⟩ := by
      simp [RuntimeStateMachine.transition, RuntimeStateMachine.next_startTask hm, hm]
    rw [← hstarted]
    exact processed_mem _ _ _
  | accept | cancelReturn | spawn => exact CallChecked.of_noStage rfl
  | taskPost => exact h.stay rfl (.inr ⟨_, TaskEnd.isTaskEnd_event _, rfl⟩)
  | _ => exact h.stay rfl (.inl rfl)

/-- Only an accepted goal is answered with `ACCEPT_AND_EXECUTE`. -/
lemma Moves.of_accepted (hm : Moves s a s' out) {goal : ExecuteTaskGoal}
    (he : .goalResponse goal true ∈ out) : s.executor = .goalReturn goal true := by
  have hprocessed {source : EventSource} {event : RuntimeEvent} {r : RuntimeTransition} :
      .goalResponse goal true ∉ RuntimeNode.processed source event r := by
    intro he
    rcases RuntimeNode.of_mem_processed he with he | ⟨line, he⟩ <;> cases he
  cases hm with
  | quiet _ _ _ hout => cases hout _ he
  | sense | operate | startTask | taskPost => exact (hprocessed he).elim
  | accept hx =>
    cases List.mem_singleton.mp he
    exact hx
  | _ => simp at he

end RuntimeProcess

/-- In every run of the node a call of `handleGoal` has checked what belongs to its stage. -/
lemma runtime_inCall {ts : List NodeTransition} {s : RuntimeProcess}
    (h : runtimeSystem.Run ts s) : RuntimeProcess.CallChecked ts s := by
  refine h.invariant_history (I := RuntimeProcess.CallChecked) ?_
    fun ts s a s' out _ hi hs => (RuntimeProcess.moves_of_step hs).callChecked hi
  rintro s rfl stage goal hstage
  cases hstage

/-- **What an accepted goal rests on.**  Whenever `handleGoal` returns `ACCEPT_AND_EXECUTE` in a
run of the node, `target_steps` is positive; before the step `u` in which the same call executed
`updateRuntimeState` at the clock value `now`, both sensors had delivered, each at most one second
before `now`, and the last joint state message had joints, each with a position and a velocity; the
call found `task_active_` free and took it; and its `StartTask` moved the machine from `Standby` to
`Running`. -/
theorem runtime_accepts_healthy {ts ws : List NodeTransition} {t : NodeTransition}
    {s : RuntimeProcess} (h : runtimeSystem.Run (ts ++ t :: ws) s) {goal : ExecuteTaskGoal}
    (ht : .goalResponse goal true ∈ t.out) :
    0 < goal.targetSteps ∧ ∃ now us u vs, InCall goal now us u vs ts ∧
      (∃ time, lastImu us = some time ∧ now - time ≤ 1000000000) ∧
      (∃ m, lastJointState us = some m ∧ m.WellShaped ∧ now - m.time ≤ 1000000000) ∧
      Exchanged goal vs ∧ Started vs := by
  obtain ⟨hr, hvalid⟩ := h.split
  have hx : t.pre.executor = .goalReturn goal true :=
    (RuntimeProcess.moves_of_step hvalid).of_accepted ht
  have hstage : t.pre.executor.stage = some (.started, goal) := by
    rw [hx]
    rfl
  have hpos := (runtime_positiveTargets ⟨ts, hr⟩).considered _ _ hstage
  obtain ⟨now, us, u, vs, hcall, hhealthy, hexchanged, hstarted⟩ :=
    runtime_inCall hr _ _ hstage
  obtain ⟨hpresent, himu, hjoint, hshape⟩ := hhealthy
  rw [Sensors.Missing, not_or] at hpresent
  have hr' := hr
  rw [hcall.steps] at hr'
  have hheard := runtime_heard hr'.split.1
  obtain ⟨m, hlast, htime, hwell⟩ := hheard.jointState hpresent.2
  refine ⟨hpos, now, us, u, vs, hcall, ⟨_, hheard.imu hpresent.1, himu⟩,
    ⟨m, hlast, hwell.mp hshape, ?_⟩, hexchanged, hstarted⟩
  rw [htime]
  exact hjoint

theorem runtime_accepts_healthy_firstGoal :
    ∃ ts t ws s, runtimeSystem.Run (ts ++ t :: ws) s ∧ t.post.goals.length = 1 ∧
      ∃ now us u vs, InCall oneStep now us u vs ts ∧
        (∃ time, lastImu us = some time ∧ now - time ≤ 1000000000) ∧
        (∃ m, lastJointState us = some m ∧ m.WellShaped ∧ now - m.time ≤ 1000000000) ∧
        Exchanged oneStep vs ∧ Started vs := by
  have hrun := System.run_of_exec runtimeSystem ((acceptGoal oneStep).take 12) rfl rfl
  have hrest := hrun.exec (rfl : runtimeSystem.exec _ [.exec 0] = some (_ :: _, _))
  exact ⟨_, _, _, _, hrest, rfl,
    (runtime_accepts_healthy hrest
      (List.mem_singleton_self (NodeEvent.goalResponse oneStep true))).2⟩

end SystemsDemos
