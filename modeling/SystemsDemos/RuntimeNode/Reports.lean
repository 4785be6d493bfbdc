import SystemsDemos.RuntimeNode.Fault
import SystemsDemos.RuntimeNode.Goals
import SystemsDemos.Transition.History

/-!
# What the node reports about itself

Every report of the node shows a state and an error.  Log lines, heartbeats, status summaries and
the response to a known event take both under one lock; the response to an unknown event reads
them one after the other, and `query_status` reads the state for `success` before it reads the pair
for its message.  In between the task thread can process the end of its task.  A success or a
cancel is harmless there: the machine goes from `Running` to `Standby` and has no error before or
after.  A failure is not: so the reports are honest in every run in which no task fails between two
such reads (`runtime_reports_honest`), and one in which it does shows a pair that the machine never
held.

### Outline

* `Held`, the pairs of a run, and honest events;
* `ExecPoint.Keeps`, what the executor carries between its reads and its report;
* what a step does to it, and `runtime_reports_honest`;
* a failure between the two reads.
-/

namespace SystemsDemos

/-! ### Honest reports -/

/-- A state and an error as a report shows them. -/
abbrev Shown := RuntimeState → RuntimeError → Prop

/-- The texts are the names of a state and an error with `H`. -/
def ShownAs (H : Shown) (state error : String) : Prop :=
  ∃ st er, H st er ∧ state = stateName st ∧ error = errorName er

/-- The message of a log line shows a pair with `H`, if it shows one. -/
def LogMessage.Honest (H : Shown) : LogMessage → Prop
  | .text _ => True
  | .status _ summary => H summary.state summary.error

/-- Every pair that the event reports has `H`, and the success of `query_status` agrees with its
message. -/
def NodeEvent.Honest (H : Shown) : NodeEvent → Prop
  | .log line => H line.state line.runtimeError ∧ line.message.Honest H
  | .queryStatusResponse success summary =>
      H summary.state summary.error ∧ (success = false ↔ summary.state = .fault)
  | .applyEventResponse response => ShownAs H response.currentState response.runtimeError
  | .heartbeat payload => H payload.state payload.runtimeError
  | _ => True

namespace RuntimeProcess

/-- The machine has held the pair at some instant up to the state `s` that the run has reached. -/
def Held (ts : List NodeTransition) (s : RuntimeProcess) : Shown :=
  fun state error => (∃ t ∈ ts, t.pre.machine = ⟨state, error⟩) ∨ s.machine = ⟨state, error⟩

/-- The law of reports: what a step reports is a pair that the machine has held, and the state is
`Fault` exactly when there is an error. -/
def ReportsHonestly (ts : List NodeTransition) (t : NodeTransition) : Prop :=
  ∀ e ∈ t.out, e.Honest fun state error =>
    Held (ts ++ [t]) t.post state error ∧ (state = .fault ↔ error ≠ .none)

/-- The executor stands between two reads of one report. -/
def betweenReads : ExecPoint → Bool
  | .unknownError .. => true
  | .summary (.queryStatus _) => true
  | _ => false

/-- The task thread is about to process `TaskFailed`. -/
def failing (s : RuntimeProcess) : Bool := s.taskThread.any fun t => t.point = .post .failed

/-- In this step no running task fails between two reads of one report. -/
def NoFailureBetweenReads (t : NodeTransition) : Prop :=
  t.act = .task → t.pre.failing = true → t.pre.machine.state = .running →
    betweenReads t.pre.executor = false

instance (t : NodeTransition) : Decidable (NoFailureBetweenReads t) :=
  inferInstanceAs (Decidable (_ = _ → _ = _ → _ = _ → _ = _))

end RuntimeProcess

/-! ### What a callback carries -/

/-- The success of `query_status` agrees with the state that is going to be reported. -/
def SummaryUse.Agrees (state : RuntimeState) : SummaryUse → Prop
  | .queryStatus success => success = false ↔ state = .fault
  | .heartbeat => True

/-- What a callback has read and is going to report has `H`, and it has no read left. -/
def ExecPoint.Carries (H : Shown) : ExecPoint → Prop
  | .log _ _ message next => message.Honest H ∧ next.Carries H
  | .summaryTaskState use state error => H state error ∧ use.Agrees state
  | .summaryTaskStep use state error _ => H state error ∧ use.Agrees state
  | .queryReturn success status =>
      H status.state status.error ∧ (success = false ↔ status.state = .fault)
  | .applyReturn response => ShownAs H response.currentState response.runtimeError
  | .summary (.queryStatus _) => False
  | .unknownError .. => False
  | _ => True

/-- What a callback is going to report has `H`, if what is left to read is read from the machine
`m`. -/
def ExecPoint.Keeps (H : Shown) (m : RuntimeStateMachine) : ExecPoint → Prop
  | .summary (.queryStatus success) => success = false ↔ m.state = .fault
  | .unknownError _ state => H state m.error
  | p => p.Carries H

section Keeps

variable {H H' : Shown} {m m' : RuntimeStateMachine} {p : ExecPoint}

lemma ShownAs.mono (himp : ∀ st er, H st er → H' st er) {state error : String}
    (h : ShownAs H state error) : ShownAs H' state error := by
  obtain ⟨st, er, hH, hstate, herror⟩ := h
  exact ⟨st, er, himp st er hH, hstate, herror⟩

lemma LogMessage.Honest.mono (himp : ∀ st er, H st er → H' st er) {message : LogMessage}
    (h : message.Honest H) : message.Honest H' := by
  cases message with
  | text => trivial
  | status => exact himp _ _ h

lemma ExecPoint.Carries.mono (himp : ∀ st er, H st er → H' st er) (h : p.Carries H) :
    p.Carries H' := by
  induction p with
  | log level event message next ih => exact ⟨h.1.mono himp, ih h.2⟩
  | summary use =>
    cases use with
    | queryStatus => exact h
    | heartbeat => trivial
  | summaryTaskState => exact ⟨himp _ _ h.1, h.2⟩
  | summaryTaskStep => exact ⟨himp _ _ h.1, h.2⟩
  | queryReturn => exact ⟨himp _ _ h.1, h.2⟩
  | applyReturn => exact ShownAs.mono himp h
  | unknownError => exact h
  | _ => trivial

/-- Without a read left the machine does not matter. -/
lemma ExecPoint.Carries.keeps (h : p.Carries H) : p.Keeps H m := by
  cases p with
  | summary use =>
    cases use with
    | queryStatus => exact h.elim
    | heartbeat => trivial
  | unknownError => exact h.elim
  | _ => exact h

/-- Outside of the two reads the machine does not matter. -/
lemma ExecPoint.Keeps.carries (h : p.Keeps H m) (hp : RuntimeProcess.betweenReads p = false) :
    p.Carries H := by
  cases p with
  | summary use =>
    cases use with
    | queryStatus => cases hp
    | heartbeat => trivial
  | unknownError => cases hp
  | _ => exact h

lemma ExecPoint.Keeps.mono (himp : ∀ st er, H st er → H' st er) (h : p.Keeps H m) :
    p.Keeps H' m := by
  by_cases hp : RuntimeProcess.betweenReads p = false
  · exact ((h.carries hp).mono himp).keeps
  · cases p with
    | summary use =>
      cases use with
      | queryStatus => exact h
      | heartbeat => exact absurd rfl hp
    | unknownError => exact himp _ _ h
    | _ => exact absurd rfl hp

end Keeps

namespace RuntimeProcess

variable {s s' : RuntimeProcess} {a : NodeAct} {out : List NodeEvent} {H : Shown}

/-! ### A step -/

/-- The log line of a processed event shows the machine after the event. -/
private lemma honest_processed {source : EventSource} {event : RuntimeEvent}
    (hpost : H (s.machine.next event).state (s.machine.next event).error) :
    ∀ e ∈ RuntimeNode.processed source event (s.machine.transition event), e.Honest H := by
  intro e he
  rcases List.mem_cons.mp he with rfl | he
  · trivial
  · split at he
    · obtain rfl := List.mem_singleton.mp he
      exact ⟨hpost, trivial⟩
    · cases he

/-- What is carried after `updateRuntimeState`. -/
private lemma carries_updateCaller (caller : UpdateCaller) : caller.next.Carries H := by
  cases caller with
  | goal goal =>
    unfold UpdateCaller.next
    dsimp only
    split
    · exact ⟨trivial, trivial⟩
    · trivial
  | _ => trivial

/-- A step of the executor reports what it has read, and reads from the machine. -/
lemma stepExecutor_honest {now : ℤ} (h : s.stepExecutor now = some (s', out))
    (hkeeps : s.executor.Keeps H s.machine) (hpre : H s.machine.state s.machine.error)
    (hpost : H s'.machine.state s'.machine.error) :
    s'.executor.Keeps H s'.machine ∧ ∀ e ∈ out, e.Honest H := by
  unfold stepExecutor at h
  cases hx : s.executor <;> simp only [hx] at h hkeeps
  case idle => cases h
  case log level event message next =>
    cases h
    exact ⟨hkeeps.2.keeps, List.forall_mem_singleton.mpr ⟨hpre, hkeeps.1⟩⟩
  case update caller =>
    simp only [RuntimeNode.updateRuntimeState, RuntimeNode.processRuntimeEvent_eq] at h
    split at h
    · cases h
      exact ⟨(carries_updateCaller caller).keeps, by simp [NodeEvent.Honest]⟩
    · cases h
      exact ⟨(carries_updateCaller caller).keeps, honest_processed hpost⟩
  case resetFault =>
    rw [RuntimeNode.processRuntimeEvent_eq] at h
    cases h
    exact ⟨⟨trivial, trivial⟩, honest_processed hpost⟩
  case applyEvent name event =>
    rw [RuntimeNode.processRuntimeEvent_eq] at h
    cases h
    exact ⟨⟨trivial, _, _, hpost, rfl, rfl⟩, honest_processed hpost⟩
  case goalStart goal =>
    rw [RuntimeNode.processRuntimeEvent_eq] at h
    cases h
    exact ⟨⟨trivial, trivial⟩, honest_processed hpost⟩
  case queryState =>
    cases h
    refine ⟨?_, List.forall_mem_nil _⟩
    simp [ExecPoint.Keeps, machine]
  case queryReturn success status =>
    cases h
    exact ⟨trivial, List.forall_mem_singleton.mpr hkeeps⟩
  case summary use =>
    cases h
    refine ⟨?_, List.forall_mem_nil _⟩
    cases use with
    | queryStatus success => exact ⟨hpre, hkeeps⟩
    | heartbeat => exact ⟨hpre, trivial⟩
  case summaryTaskState use state error =>
    cases h
    exact ⟨hkeeps, List.forall_mem_nil _⟩
  case summaryTaskStep use state error taskState =>
    cases h
    refine ⟨?_, List.forall_mem_nil _⟩
    cases use with
    | queryStatus success => exact ⟨hkeeps.1, hkeeps⟩
    | heartbeat => exact ⟨hkeeps.1, trivial⟩
  case heartbeat =>
    cases h
    exact ⟨trivial, List.forall_mem_singleton.mpr hpre⟩
  case applyReturn response =>
    cases h
    exact ⟨trivial, List.forall_mem_singleton.mpr hkeeps⟩
  case unknownState name =>
    cases h
    exact ⟨hpre, List.forall_mem_nil _⟩
  case unknownError name state =>
    cases h
    exact ⟨⟨trivial, state, s.machine.error, hkeeps, rfl, rfl⟩, List.forall_mem_nil _⟩
  case goalState goal =>
    cases h
    refine ⟨?_, List.forall_mem_nil _⟩
    dsimp only
    split
    · trivial
    · exact ⟨trivial, trivial⟩
  case goalExchange goal =>
    split at h <;> cases h
    · exact ⟨⟨trivial, trivial⟩, List.forall_mem_nil _⟩
    · exact ⟨trivial, List.forall_mem_nil _⟩
  case goalReturn goal accepted =>
    cases accepted <;> cases h <;> exact ⟨trivial, by simp [NodeEvent.Honest]⟩
  case spawn g =>
    split at h
    · obtain ⟨handle, -, hr⟩ := Option.map_eq_some_iff.mp h
      cases hr
      exact ⟨trivial, by simp [NodeEvent.Honest]⟩
    · cases h
  all_goals
    cases h
    exact ⟨trivial, by simp [NodeEvent.Honest]⟩

/-- The end of a task that does not fail in `Running` keeps what is carried: the machine has no
error before or after. -/
private lemma keeps_of_taskEnd {p : ExecPoint} {m : RuntimeStateMachine} {result : TaskEnd}
    (hkeeps : p.Keeps H m) (hc : m.Consistent)
    (hno : result = .failed → m.state = .running → betweenReads p = false) :
    p.Keeps H (m.next result.event) := by
  by_cases hrunning : m.state = .running
  · by_cases hp : betweenReads p = false
    · exact (hkeeps.carries hp).keeps
    · have hsame : (m.next result.event).error = m.error ∧
          ((m.next result.event).state = .fault ↔ m.state = .fault) := by
        have herror : m.error = .none := by
          by_contra hne
          rw [hc.mpr hne] at hrunning
          cases hrunning
        cases result with
        | failed => exact absurd (hno rfl hrunning) hp
        | succeeded => simp [RuntimeStateMachine.next, hrunning, TaskEnd.event, herror]
        | canceled step => simp [RuntimeStateMachine.next, hrunning, TaskEnd.event, herror]
      cases p with
      | summary use =>
        cases use with
        | queryStatus success => exact Iff.trans hkeeps hsame.2.symm
        | heartbeat => trivial
      | unknownError name state =>
        change H state (m.next result.event).error
        rw [hsame.1]
        exact hkeeps
      | _ => exact absurd rfl hp
  · rw [RuntimeStateMachine.next_taskEnd hrunning result.isTaskEnd_event]
    exact hkeeps

/-- A step of the task thread reports what it reads. -/
lemma stepTask_honest (h : s.stepTask = some (s', out)) (hkeeps : s.executor.Keeps H s.machine)
    (hpre : H s.machine.state s.machine.error) (hpost : H s'.machine.state s'.machine.error)
    (hc : s.machine.Consistent)
    (hno : s.failing = true → s.machine.state = .running → betweenReads s.executor = false) :
    s'.executor.Keeps H s'.machine ∧ ∀ e ∈ out, e.Honest H := by
  unfold stepTask at h
  cases ht : s.taskThread with
  | none => simp [ht] at h
  | some t =>
    simp only [ht] at h
    cases hp : t.point <;> simp only [hp] at h
    case post result =>
      rw [RuntimeNode.processRuntimeEvent_eq] at h
      cases h
      refine ⟨keeps_of_taskEnd hkeeps hc fun hfailed => ?_, honest_processed hpost⟩
      exact hno (by simp [failing, ht, hp, hfailed])
    case logFeedback | logResult =>
      cases h
      exact ⟨hkeeps, List.forall_mem_singleton.mpr ⟨hpre, trivial⟩⟩
    case loop step =>
      split at h
      · split at h <;> cases h <;> exact ⟨hkeeps, List.forall_mem_nil _⟩
      · cases h
        exact ⟨hkeeps, List.forall_mem_nil _⟩
    case checkOk step => split at h <;> cases h <;> exact ⟨hkeeps, List.forall_mem_nil _⟩
    case returned => cases h
    all_goals
      cases h
      exact ⟨hkeeps, by simp [NodeEvent.Honest]⟩

/-- A callback has read nothing when it starts. -/
lemma callback_honest {sensors : Sensors} {next : ExecPoint}
    (h : s.callback a = some (sensors, next, out)) :
    next.Carries H ∧ ∀ e ∈ out, e.Honest H := by
  cases a <;> simp only [callback] at h
  case jointState =>
    cases h
    refine ⟨?_, by simp [NodeEvent.Honest]⟩
    split
    · exact ⟨trivial, trivial⟩
    · exact ⟨trivial, trivial, trivial⟩
  case applyEvent =>
    split at h <;> cases h <;> exact ⟨trivial, List.forall_mem_nil _⟩
  case cancel =>
    split at h <;> cases h
    exact ⟨⟨trivial, trivial⟩, List.forall_mem_nil _⟩
  case accepted g =>
    split at h <;> cases h
    exact ⟨trivial, List.forall_mem_nil _⟩
  case imu =>
    cases h
    exact ⟨⟨trivial, trivial⟩, by simp [NodeEvent.Honest]⟩
  all_goals
    cases h
    try exact ⟨trivial, List.forall_mem_nil _⟩

/-- Every step reports what has been read, unless a task fails between two reads. -/
lemma step_honest (h : s.step a = some (s', out)) (hkeeps : s.executor.Keeps H s.machine)
    (hpre : H s.machine.state s.machine.error) (hpost : H s'.machine.state s'.machine.error)
    (hc : s.machine.Consistent) (hno : NoFailureBetweenReads ⟨s, a, s', out⟩) :
    s'.executor.Keeps H s'.machine ∧ ∀ e ∈ out, e.Honest H := by
  cases a with
  | exec now => exact stepExecutor_honest h hkeeps hpre hpost
  | task => exact stepTask_honest h hkeeps hpre hpost hc (hno rfl)
  | shutdown =>
    cases h
    exact ⟨hkeeps, List.forall_mem_nil _⟩
  | _ =>
    simp only [step] at h
    split at h
    · obtain ⟨⟨sensors, next, out'⟩, hcallback, hr⟩ := Option.map_eq_some_iff.mp h
      cases hr
      obtain ⟨hnext, hout⟩ := callback_honest hcallback
      exact ⟨hnext.keeps, hout⟩
    · cases h

/-! ### Runs -/

/-- The pairs of a run that are also consistent. -/
def HeldConsistent (ts : List NodeTransition) (s : RuntimeProcess) : Shown :=
  fun state error => Held ts s state error ∧ (state = .fault ↔ error ≠ .none)

/-- What has been held stays held. -/
lemma HeldConsistent.snoc {ts : List NodeTransition} {state : RuntimeState} {error : RuntimeError}
    (h : HeldConsistent ts s state error) :
    HeldConsistent (ts ++ [⟨s, a, s', out⟩]) s' state error := by
  refine ⟨Or.inl ?_, h.2⟩
  rcases h.1 with ⟨t, ht, hm⟩ | hm
  · exact ⟨t, List.mem_append_left _ ht, hm⟩
  · exact ⟨⟨s, a, s', out⟩, by simp, hm⟩

/-- The machine holds its own pair. -/
lemma heldConsistent_self (ts : List NodeTransition) (hc : s.machine.Consistent) :
    HeldConsistent ts s s.machine.state s.machine.error :=
  ⟨Or.inr rfl, hc⟩

end RuntimeProcess

/-- **The reports of the node are honest unless a task fails between two reads.**  In every run in
which no running task fails while `apply_event` has read the state but not the error for an unknown
event, or `query_status` has read the state for `success` but not the pair for its message, every
response, heartbeat and log line shows a state and an error that the machine has held together, the
state is `FAULT` exactly when there is an error, and `success` agrees with the message. -/
theorem runtime_reports_honest {ts : List NodeTransition} {s : RuntimeProcess}
    (h : runtimeSystem.Run ts s) (hno : ∀ t ∈ ts, RuntimeProcess.NoFailureBetweenReads t) :
    EveryStep RuntimeProcess.ReportsHonestly ts := by
  suffices hboth : EveryStep RuntimeProcess.ReportsHonestly ts ∧
      s.executor.Keeps (RuntimeProcess.HeldConsistent ts s) s.machine from hboth.1
  induction h with
  | start hinit =>
    obtain rfl := hinit
    exact ⟨everyStep_nil, trivial⟩
  | @snoc ts s s' a out hrun hstep ih =>
    obtain ⟨hbefore, hkeeps⟩ := ih fun t ht => hno t (List.mem_append_left _ ht)
    have hc : s.machine.Consistent := runtime_consistent ⟨ts, hrun⟩
    have hc' : s'.machine.Consistent := runtime_consistent ⟨_, hrun.snoc hstep⟩
    have hpre : RuntimeProcess.HeldConsistent (ts ++ [⟨s, a, s', out⟩]) s' s.machine.state
        s.machine.error := (RuntimeProcess.heldConsistent_self ts hc).snoc
    have hpost := RuntimeProcess.heldConsistent_self (ts ++ [⟨s, a, s', out⟩]) hc'
    obtain ⟨hkeeps', hout⟩ := RuntimeProcess.step_honest hstep
      (hkeeps.mono fun _ _ hheld => hheld.snoc) hpre hpost hc (hno _ (by simp))
    exact ⟨everyStep_snoc.mpr ⟨hbefore, hout⟩, hkeeps'⟩

/-! ### A failure between two reads -/

/-- Different states have different names. -/
private lemma stateName_injective : Function.Injective stateName := by
  intro s s' h
  cases s <;> cases s' <;> first | rfl | exact absurd h (by decide)

/-- Different errors have different names. -/
private lemma errorName_injective : Function.Injective errorName := by
  intro e e' h
  cases e <;> cases e' <;> first | rfl | exact absurd h (by decide)

namespace RuntimeProcess

/-- A task that fails between two reads makes the report dishonest: what the executor carries after
its second read is no longer what the machine has held. -/
theorem not_keeps_of_failure {ts us : List NodeTransition} {s s₁ s₂ : RuntimeProcess} {now : ℤ}
    {out₂ : List NodeEvent} (hc : s.machine.Consistent) (hrunning : s.machine.state = .running)
    (hkeeps : s.executor.Keeps (HeldConsistent ts s) s.machine)
    (hbetween : betweenReads s.executor = true) (hfails : s₁.machine = s.machine.next .taskFailed)
    (hexecutor : s₁.executor = s.executor) (h : s₁.stepExecutor now = some (s₂, out₂)) :
    ¬s₂.executor.Keeps (HeldConsistent us s₂) s₂.machine := by
  have hmachine : s₁.machine = ⟨.fault, .taskFailed⟩ := by
    rw [hfails]
    simp [RuntimeStateMachine.next, hrunning]
  have hstate : s₁.node.runtimeStateMachine = ⟨.fault, .taskFailed⟩ := hmachine
  unfold stepExecutor at h
  cases hx : s.executor <;> simp only [hx] at hkeeps hbetween
  case summary use =>
    cases use with
    | heartbeat => cases hbetween
    | queryStatus success =>
      simp only [hexecutor, hx, hstate] at h
      cases h
      rintro ⟨-, hagrees⟩
      have hnot : ¬success = false := fun hfalse => by
        rw [hkeeps.mp hfalse] at hrunning
        cases hrunning
      exact hnot (hagrees.mpr rfl)
  case unknownError name state =>
    simp only [hexecutor, hx, hstate] at h
    cases h
    rintro ⟨-, st, er, ⟨-, hconsistent⟩, hst, her⟩
    have hstate : state = st := stateName_injective hst
    have herror : .taskFailed = er := errorName_injective her
    subst hstate herror
    -- before the failure the machine had no error, so the state that was read is not `Fault`
    have hfault : state = .fault := hconsistent.mpr (by decide)
    have hlatched : s.machine.error ≠ .none := hkeeps.2.mp hfault
    rw [hc.mpr hlatched] at hrunning
    cases hrunning
  all_goals cases hbetween

end RuntimeProcess

/-- The status is queried while a task runs to its end. -/
def queryDuringTask : List NodeAct :=
  acceptGoal oneStep ++ [.queryStatus, .exec 0, .exec 0] ++ oneStepTask ++ [.task] ++
    List.replicate 5 (.exec 0)

theorem runtime_reports_honest_queryDuringTask :
    ∃ ts s, runtimeSystem.Run ts s ∧ s.machine = ⟨.standby, .none⟩ ∧
      EveryStep RuntimeProcess.ReportsHonestly ts := by
  have hrun := System.run_of_exec runtimeSystem queryDuringTask rfl rfl
  exact ⟨_, _, hrun, rfl, runtime_reports_honest hrun (forall_of_all rfl)⟩

/-- ROS is shut down while `apply_event` answers to an unknown event, and the task thread fails
after the state has been read; only the response is left to be sent. -/
def failureDuringUnknownEvent : List NodeAct :=
  acceptGoal oneStep ++ [.shutdown] ++ List.replicate 5 .task ++
    [.applyEvent "Stop", .exec 0, .task, .exec 0, .exec 0]

/-- The response shows `RUNNING` with the error `TASK_FAILED`. -/
theorem unknown_event_reports_torn_pair :
    ¬∀ (ts : List NodeTransition) (s : RuntimeProcess), runtimeSystem.Run ts s →
      EveryStep RuntimeProcess.ReportsHonestly ts := by
  intro h
  have hrun := System.run_of_exec runtimeSystem failureDuringUnknownEvent rfl rfl
  have hlast := hrun.snoc
    (rfl : runtimeSystem.step _ (.exec 0) = some (_, [.applyEventResponse _]))
  obtain ⟨st, er, ⟨-, hconsistent⟩, hst, her⟩ := h _ _ hlast _ _ [] rfl _ List.mem_cons_self
  have hstate : .running = st := stateName_injective hst
  have herror : .taskFailed = er := errorName_injective her
  subst hstate herror
  exact absurd (hconsistent.mpr (by decide)) (by decide)

end SystemsDemos
