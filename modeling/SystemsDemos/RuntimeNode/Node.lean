import SystemsDemos.RuntimeNode.StateMachine
import SystemsDemos.Transition.System
import Mathlib.Algebra.Group.Int.Defs
import Mathlib.Algebra.Group.Nat.Defs

/-!
# The runtime node

The model of `RuntimeNode`: its fields, its callbacks, and the thread that runs `executeTask`.
The executor is single-threaded, so at most one callback is in progress; `ExecPoint` says how far
it is, and the task thread can move between any two of its steps.  Every access to state that the
two threads share is a step of its own: each critical section of the state mutex, each access to
one of the three atomics, and each call on a goal handle.  Fields that only the executor touches
change together with the step next to them.

The floating-point values (latencies, durations, progress, acceleration) take part in no decision
and are left out, and so is the session id, which is constant.  The clock is arbitrary: a step
that reads it takes the value from its action.

### Outline

* `Sensors`, `TaskSlot` and `RuntimeNode`, the fields of the class, with `updateRuntimeState` and
  `processRuntimeEvent`;
* `NodeEvent`, what becomes visible;
* `ExecPoint` and `TaskThread`, the two threads, and `RuntimeProcess.step`.
-/

namespace SystemsDemos

/-! ### The fields of the node -/

/-- What the subscriptions have stored; times are in nanoseconds. -/
structure Sensors where
  imuCount : ℕ
  jointCount : ℕ
  lastImuTime : ℤ
  lastJointTime : ℤ
  latestJointCount : ℕ
  latestJointValid : Bool
  deriving DecidableEq

/-- The values of `task_state_`. -/
inductive TaskState
  | idle
  | running
  | completed
  | canceled
  | failed
  deriving DecidableEq

/-- `taskStateName`. -/
def taskStateName : TaskState → String
  | .idle => "IDLE"
  | .running => "RUNNING"
  | .completed => "COMPLETED"
  | .canceled => "CANCELED"
  | .failed => "FAILED"

/-- The three atomics that describe the task. -/
structure TaskSlot where
  taskActive : Bool
  taskState : TaskState
  /-- An `int32_t`. -/
  taskCurrentStep : ℤ
  deriving DecidableEq

/-- The fields of the node. -/
structure RuntimeNode where
  sensors : Sensors
  runtimeStateMachine : RuntimeStateMachine
  task : TaskSlot
  heartbeatSequence : ℕ
  deriving DecidableEq

/-- What `processRuntimeEvent` returns. -/
structure RuntimeTransition where
  previousState : RuntimeState
  currentState : RuntimeState
  runtimeError : RuntimeError
  transitioned : Bool
  deriving DecidableEq

/-- The value an `int32_t` holds after an operation with the exact result `n`, in two's
complement. -/
def int32 (n : ℤ) : ℤ := n.bmod (2 ^ 32)

/-- A result that an `int32_t` can hold is held exactly. -/
lemma int32_of_fits {n : ℤ} (hlow : -2 ^ 31 ≤ n) (hhigh : n < 2 ^ 31) : int32 n = n :=
  Int.bmod_eq_of_le_mul_two (by omega) (by omega)

/-- The next value of a `size_t` counter. -/
def nextCount (n : ℕ) : ℕ := (n + 1) % 2 ^ 64

/-- The goal of an `execute_task` request. -/
structure ExecuteTaskGoal where
  targetSteps : ℤ
  isInt32 : -2 ^ 31 ≤ targetSteps ∧ targetSteps < 2 ^ 31
  deriving DecidableEq

namespace Sensors

/-- The `imu` callback. -/
def imu (s : Sensors) (now : ℤ) : Sensors :=
  { s with imuCount := nextCount s.imuCount, lastImuTime := now }

/-- The `joint_states` callback, from the sizes of the three arrays of the message. -/
def jointState (s : Sensors) (now : ℤ) (names positions velocities : ℕ) : Sensors :=
  { s with
    jointCount := nextCount s.jointCount
    lastJointTime := now
    latestJointCount := names
    latestJointValid :=
      decide (names ≠ 0) && decide (positions = names) && decide (velocities = names) }

/-- A sensor has not delivered a message yet. -/
def Missing (s : Sensors) : Prop := s.imuCount = 0 ∨ s.jointCount = 0

instance (s : Sensors) : Decidable s.Missing := inferInstanceAs (Decidable (_ ∨ _))

/-- The event that `updateRuntimeState` derives from the sensors at time `now`; the timeout is one
second. -/
def event (s : Sensors) (now : ℤ) : RuntimeEvent :=
  if now - s.lastImuTime > 1000000000 ∨ now - s.lastJointTime > 1000000000 then .sensorTimeout
  else if s.latestJointValid = false then .jointInvalid
  else .sensorHealthy

/-- The sensors are healthy at time `now`. -/
def Healthy (s : Sensors) (now : ℤ) : Prop :=
  ¬s.Missing ∧ now - s.lastImuTime ≤ 1000000000 ∧ now - s.lastJointTime ≤ 1000000000 ∧
    s.latestJointValid = true

/-- Sensors that have delivered and raise no event are healthy. -/
lemma healthy_of_event {s : Sensors} {now : ℤ} (hm : ¬s.Missing)
    (he : s.event now = .sensorHealthy) : s.Healthy now := by
  unfold event at he
  split at he
  · cases he
  · next htime =>
    split at he
    · cases he
    · next hvalid =>
      rw [not_or, Int.not_lt, Int.not_lt] at htime
      exact ⟨hm, htime.1, htime.2, by simpa using hvalid⟩

/-- The sensors raise no other event. -/
lemma event_cases (s : Sensors) (now : ℤ) :
    s.event now = .sensorHealthy ∨ s.event now = .sensorTimeout ∨
      s.event now = .jointInvalid := by
  unfold event
  split
  · exact .inr (.inl rfl)
  · split
    · exact .inr (.inr rfl)
    · exact .inl rfl

end Sensors

/-! ### What becomes visible -/

/-- What `buildStatusSummary` prints. -/
structure StatusSummary where
  state : RuntimeState
  error : RuntimeError
  imuCount : ℕ
  jointCount : ℕ
  latestJointCount : ℕ
  jointValid : Bool
  taskState : TaskState
  taskStep : ℤ
  deriving DecidableEq

/-- The message of a log line. -/
inductive LogMessage
  | text (message : String)
  /-- A text followed by a status summary. -/
  | status (message : String) (summary : StatusSummary)
  deriving DecidableEq

/-- A line of `buildRuntimeLogLine`; severity and recoverability follow from the error. -/
structure LogLine where
  level : String
  event : String
  state : RuntimeState
  runtimeError : RuntimeError
  message : LogMessage
  deriving DecidableEq

/-- The payload of `buildHeartbeatPayload`. -/
structure HeartbeatPayload where
  seq : ℕ
  stampMs : ℤ
  state : RuntimeState
  runtimeError : RuntimeError
  severity : RuntimeSeverity
  recoverable : Bool
  status : String
  deriving DecidableEq

/-- The response of `apply_event`. -/
structure ApplyEventResponse where
  accepted : Bool
  transitioned : Bool
  previousState : String
  currentState : String
  runtimeError : String
  message : String
  deriving DecidableEq

/-- How a task ends. -/
inductive TaskEnd
  | succeeded
  /-- With the number of completed steps. -/
  | canceled (step : ℤ)
  | failed
  deriving DecidableEq

namespace TaskEnd

/-- The value stored in `task_state_`. -/
def state : TaskEnd → TaskState
  | succeeded => .completed
  | canceled _ => .canceled
  | failed => .failed

/-- The event that is processed afterwards. -/
def event : TaskEnd → RuntimeEvent
  | succeeded => .taskSucceeded
  | canceled _ => .taskCanceled
  | failed => .taskFailed

/-- The success flag of the result. -/
def success : TaskEnd → Bool
  | succeeded => true
  | _ => false

/-- The message of the result. -/
def message : TaskEnd → String
  | succeeded => "task completed"
  | canceled step => "task canceled at step " ++ toString step
  | failed => "task aborted because ROS2 is shutting down"

/-- The level of the last log line. -/
def level : TaskEnd → String
  | succeeded => "INFO"
  | _ => "WARN"

/-- The message of the last log line. -/
def logMessage : TaskEnd → String
  | succeeded => "execute_task completed"
  | e => e.message

/-- Every end of a task is reported with one of the task events. -/
lemma isTaskEnd_event (e : TaskEnd) : RuntimeStateMachine.IsTaskEnd e.event := by
  cases e <;> simp [event, RuntimeStateMachine.IsTaskEnd]

/-- No task ends in the state `RUNNING`. -/
lemma state_ne_running (e : TaskEnd) : e.state ≠ .running := by
  cases e <;> simp [state]

end TaskEnd

/-- Who has a runtime event processed. -/
inductive EventSource
  | resetFault
  | applyEvent
  /-- `updateRuntimeState`. -/
  | sensors
  /-- `handleGoal`. -/
  | handleGoal
  /-- `executeTask`, for the goal with this number. -/
  | executeTask (g : ℕ)
  deriving DecidableEq

/-- What the node makes visible. -/
inductive NodeEvent
  | imu (now : ℤ)
  | jointState (now : ℤ) (valid : Bool)
  | log (line : LogLine)
  | processed (source : EventSource) (event : RuntimeEvent) (result : RuntimeTransition)
  /-- `updateRuntimeState` has reset the machine, which was in this state. -/
  | reset (previous : RuntimeStateMachine)
  | resetFaultResponse (success : Bool) (message : String)
  | queryStatusResponse (success : Bool) (summary : StatusSummary)
  | applyEventResponse (response : ApplyEventResponse)
  | heartbeat (payload : HeartbeatPayload)
  | performance (taskStep : ℤ)
  /-- `handleGoal` returns `ACCEPT_AND_EXECUTE` or `REJECT`. -/
  | goalResponse (goal : ExecuteTaskGoal) (accepted : Bool)
  | cancelResponse (g : ℕ)
  /-- The task thread for goal `g` has been started. -/
  | started (g : ℕ)
  /-- `task_current_step_.store(step)` at the begin of an iteration. -/
  | stepStored (g : ℕ) (step : ℤ)
  | feedback (g : ℕ) (step : ℤ)
  /-- The terminal call on the goal handle: `succeed`, `canceled` or `abort`. -/
  | terminal (g : ℕ) (result : TaskEnd)
  /-- `task_active_.store(false)`. -/
  | released (g : ℕ)
  deriving DecidableEq

/-- The event only reports: no sensor message, nothing that the state machine has processed, no
step of a task and no accepted goal. -/
def NodeEvent.isReport : NodeEvent → Bool
  | log _ | resetFaultResponse .. | queryStatusResponse .. | applyEventResponse _ | heartbeat _ |
    performance _ | cancelResponse _ => true
  | goalResponse _ accepted => !accepted
  | _ => false

namespace RuntimeNode

/-- `processRuntimeEvent`. -/
def processRuntimeEvent (n : RuntimeNode) (event : RuntimeEvent) :
    RuntimeNode × RuntimeTransition :=
  let r := n.runtimeStateMachine.process event
  ({ n with runtimeStateMachine := r.1 },
    ⟨n.runtimeStateMachine.state, r.1.state, r.1.error, r.2⟩)

/-- What a processed event makes visible: it is logged when the state changes. -/
def processed (source : EventSource) (event : RuntimeEvent) (r : RuntimeTransition) :
    List NodeEvent :=
  .processed source event r ::
    if r.transitioned then
      [.log ⟨"INFO", "state_transition", r.currentState, r.runtimeError,
        .text ("runtime transition " ++ stateName r.previousState ++ " --" ++ eventName event ++
          "--> " ++ stateName r.currentState ++ " error=" ++ errorName r.runtimeError)⟩]
    else []

/-- A processed event makes itself visible and at most a log line. -/
lemma of_mem_processed {source : EventSource} {event : RuntimeEvent} {r : RuntimeTransition}
    {e : NodeEvent} (he : e ∈ processed source event r) :
    e = .processed source event r ∨ ∃ line, e = .log line := by
  rcases List.mem_cons.mp he with he | he
  · exact .inl he
  · split at he
    · exact .inr ⟨_, List.mem_singleton.mp he⟩
    · exact absurd he List.not_mem_nil

/-- `updateRuntimeState`. -/
def updateRuntimeState (n : RuntimeNode) (now : ℤ) : RuntimeNode × List NodeEvent :=
  if n.sensors.Missing then
    ({ n with runtimeStateMachine := .reset .idle }, [.reset n.runtimeStateMachine])
  else
    let event := n.sensors.event now
    let r := n.processRuntimeEvent event
    (r.1, processed .sensors event r.2)

/-- A log line of `logRuntimeInfo` or `logRuntimeWarn`. -/
def logLine (n : RuntimeNode) (level event : String) (message : LogMessage) : LogLine :=
  ⟨level, event, n.runtimeStateMachine.state, n.runtimeStateMachine.error, message⟩

/-- `buildHeartbeatPayload`, with the sequence number already incremented. -/
def heartbeatPayload (n : RuntimeNode) (now : ℤ) : HeartbeatPayload where
  seq := n.heartbeatSequence
  stampMs := now.tdiv 1000000
  state := n.runtimeStateMachine.state
  runtimeError := n.runtimeStateMachine.error
  severity := (errorInfo n.runtimeStateMachine.error).severity
  recoverable := (errorInfo n.runtimeStateMachine.error).recoverable
  status := if n.runtimeStateMachine.state = .fault then "FAULT" else "OK"

end RuntimeNode

/-- The response of `apply_event` to a known event. -/
def applyEventResponse (name : String) (r : RuntimeTransition) : ApplyEventResponse :=
  let info := errorInfo r.runtimeError
  { accepted := true
    transitioned := r.transitioned
    previousState := stateName r.previousState
    currentState := stateName r.currentState
    runtimeError := errorName r.runtimeError
    message :=
      (if r.transitioned then "runtime event applied: " ++ name
        else "runtime event accepted but ignored in current state: " ++ name) ++
      "; severity=" ++ severityName info.severity ++
      "; recoverable=" ++ toString info.recoverable.toNat ++
      "; reason=" ++ info.reason ++
      "; recovery_hint=" ++ info.recoveryHint }

/-- The response of `apply_event` to an unknown event; state and error are read one after the
other. -/
def unknownEventResponse (name : String) (state : RuntimeState) (error : RuntimeError) :
    ApplyEventResponse where
  accepted := false
  transitioned := false
  previousState := stateName state
  currentState := stateName state
  runtimeError := errorName error
  message := "unknown runtime event: " ++ name

/-! ### The executor -/

/-- The callbacks that start with `updateRuntimeState`. -/
inductive UpdateCaller
  | queryStatus
  | heartbeat
  | goal (goal : ExecuteTaskGoal)
  deriving DecidableEq

/-- What a status summary is built for. -/
inductive SummaryUse
  | queryStatus (success : Bool)
  | heartbeat
  deriving DecidableEq

/-- Where the executor stands in the callback it runs. -/
inductive ExecPoint
  | idle
  /-- `logRuntimeInfo` or `logRuntimeWarn`, then the rest of the callback. -/
  | log (level event : String) (message : LogMessage) (next : ExecPoint)
  /-- `updateRuntimeState()`. -/
  | update (caller : UpdateCaller)
  /-- `reset_fault`: before `processRuntimeEvent`. -/
  | resetFault
  | resetFaultReturn
  /-- `query_status`: before the state is read for `success`. -/
  | queryState
  | queryReturn (success : Bool) (summary : StatusSummary)
  /-- `buildStatusSummary`: before state and error are read. -/
  | summary (use : SummaryUse)
  | summaryTaskState (use : SummaryUse) (state : RuntimeState) (error : RuntimeError)
  | summaryTaskStep (use : SummaryUse) (state : RuntimeState) (error : RuntimeError)
      (taskState : TaskState)
  /-- `publishHeartbeat`. -/
  | heartbeat
  /-- `logPerformanceSummary`. -/
  | performance
  /-- `apply_event` with a known event. -/
  | applyEvent (name : String) (event : RuntimeEvent)
  | applyReturn (response : ApplyEventResponse)
  /-- `apply_event` with an unknown event: before the state is read. -/
  | unknownState (name : String)
  | unknownError (name : String) (state : RuntimeState)
  /-- `handleGoal`: before the state is read. -/
  | goalState (goal : ExecuteTaskGoal)
  /-- `handleGoal`: before the compare-exchange of `task_active_`. -/
  | goalExchange (goal : ExecuteTaskGoal)
  | goalStoreState (goal : ExecuteTaskGoal)
  | goalStoreStep (goal : ExecuteTaskGoal)
  /-- `handleGoal`: before `processRuntimeEvent(StartTask)`. -/
  | goalStart (goal : ExecuteTaskGoal)
  | goalReturn (goal : ExecuteTaskGoal) (accepted : Bool)
  | cancelReturn (g : ℕ)
  /-- `handleAccepted`: joining the old task thread, then starting the one for goal `g`. -/
  | spawn (g : ℕ)
  deriving DecidableEq

/-- How a callback goes on after `updateRuntimeState`. -/
def UpdateCaller.next : UpdateCaller → ExecPoint
  | .queryStatus => .queryState
  | .heartbeat => .summary .heartbeat
  | .goal request =>
      if request.targetSteps ≤ 0 then
        .log "WARN" "action_goal" (.text ("rejecting execute_task goal: target_steps=" ++
          toString request.targetSteps ++ " must be positive")) (.goalReturn request false)
      else .goalState request

/-- How a callback goes on after `buildStatusSummary`. -/
def SummaryUse.next (summary : StatusSummary) : SummaryUse → ExecPoint
  | queryStatus success =>
      .log "INFO" "service_call" (.status "query_status " summary) (.queryReturn success summary)
  | heartbeat => .log "INFO" "heartbeat" (.status "runtime status " summary) .heartbeat

/-! ### The task thread -/

/-- A goal that `handleGoal` has accepted, as `rclcpp_action` keeps it. -/
structure GoalHandle where
  goal : ExecuteTaskGoal
  /-- `handleAccepted` has been called for it. -/
  spawned : Bool
  /-- A cancel request has been accepted. -/
  canceling : Bool
  /-- The terminal call that was made. -/
  terminal : Option TaskEnd
  deriving DecidableEq

/-- Where `executeTask` stands. -/
inductive TaskPoint
  /-- At the loop condition and `is_canceling()`. -/
  | loop (step : ℤ)
  /-- Before `rclcpp::ok()`. -/
  | checkOk (step : ℤ)
  /-- Before `task_current_step_.store(step)`. -/
  | storeStep (step : ℤ)
  | feedback (step : ℤ)
  /-- Before the log line of the feedback, after which the loop variable is incremented. -/
  | logFeedback (step : ℤ)
  /-- Before `task_current_step_.store(step - 1)` of a canceled task. -/
  | cancelStep (step : ℤ)
  /-- Before `task_state_.store(..)`. -/
  | storeState (result : TaskEnd)
  /-- Before `succeed`, `canceled` or `abort`. -/
  | terminal (result : TaskEnd)
  /-- Before `task_active_.store(false)`. -/
  | release (result : TaskEnd)
  /-- Before `processRuntimeEvent`. -/
  | post (result : TaskEnd)
  | logResult (result : TaskEnd)
  | returned
  deriving DecidableEq

/-- The thread in `task_thread_`. -/
structure TaskThread where
  /-- The number of its goal, in the order of acceptance. -/
  g : ℕ
  goal : ExecuteTaskGoal
  point : TaskPoint
  deriving DecidableEq

/-- The node with its two threads and the goal handles. -/
structure RuntimeProcess where
  node : RuntimeNode
  /-- `rclcpp::ok()`. -/
  ok : Bool
  /-- The accepted goals, in order. -/
  goals : List GoalHandle
  executor : ExecPoint
  taskThread : Option TaskThread
  deriving DecidableEq

/-- What happens next. -/
inductive NodeAct
  | imu (now : ℤ) (frameId : String)
  | jointState (now : ℤ) (names positions velocities : ℕ)
  /-- The heartbeat timer fires. -/
  | timer
  | resetFault
  | queryStatus
  | applyEvent (name : String)
  | goal (goal : ExecuteTaskGoal)
  /-- A request to cancel goal `g`. -/
  | cancel (g : ℕ)
  /-- `rclcpp_action` calls `handleAccepted` for goal `g`. -/
  | accepted (g : ℕ)
  /-- The executor makes its next step; `now` is the clock if it reads it. -/
  | exec (now : ℤ)
  /-- The task thread makes its next step. -/
  | task
  /-- ROS is shut down. -/
  | shutdown
  deriving DecidableEq

namespace RuntimeProcess

/-- `goal_handle->is_canceling()`. -/
def isCanceling (s : RuntimeProcess) (g : ℕ) : Bool :=
  s.goals[g]?.any GoalHandle.canceling

/-- The first point of the callback for an action, with the sensors it has stored. -/
def callback (s : RuntimeProcess) : NodeAct → Option (Sensors × ExecPoint × List NodeEvent)
  | .imu now frameId =>
      some (s.node.sensors.imu now,
        .log "INFO" "topic_message" (.text ("received imu frame=" ++ frameId)) .idle, [.imu now])
  | .jointState now names positions velocities =>
      let sensors := s.node.sensors.jointState now names positions velocities
      let received := .log "INFO" "topic_message" (.text "received joint_states") .idle
      some (sensors,
        if sensors.latestJointValid then received
        else .log "WARN" "invalid_joint_state"
          (.text ("invalid joint_states shape names=" ++ toString names ++ " positions=" ++
            toString positions ++ " velocities=" ++ toString velocities)) received,
        [.jointState now sensors.latestJointValid])
  | .timer => some (s.node.sensors, .update .heartbeat, [])
  | .resetFault => some (s.node.sensors, .resetFault, [])
  | .queryStatus => some (s.node.sensors, .update .queryStatus, [])
  | .applyEvent name =>
      match parseRuntimeEvent name with
      | some event => some (s.node.sensors, .applyEvent name event, [])
      | none => some (s.node.sensors, .unknownState name, [])
  | .goal goal => some (s.node.sensors, .update (.goal goal), [])
  | .cancel g =>
      if (s.goals[g]?.any fun h => h.terminal.isNone) = true then
        some (s.node.sensors, .log "INFO" "action_cancel"
          (.text "received execute_task cancel request") (.cancelReturn g), [])
      else none
  | .accepted g =>
      if (s.goals[g]?.any fun h => !h.spawned) = true then
        some (s.node.sensors, .spawn g, [])
      else none
  | .exec _ | .task | .shutdown => none

/-- The status summary from what has been read. -/
def statusSummary (s : RuntimeProcess) (state : RuntimeState) (error : RuntimeError)
    (taskState : TaskState) : StatusSummary where
  state := state
  error := error
  imuCount := s.node.sensors.imuCount
  jointCount := s.node.sensors.jointCount
  latestJointCount := s.node.sensors.latestJointCount
  jointValid := s.node.sensors.latestJointValid
  taskState := taskState
  taskStep := s.node.task.taskCurrentStep

/-- The next step of the executor inside a callback. -/
def stepExecutor (s : RuntimeProcess) (now : ℤ) : Option (RuntimeProcess × List NodeEvent) :=
  let m := s.node.runtimeStateMachine
  match s.executor with
  | .idle => none
  | .log level event message next =>
      some ({ s with executor := next }, [.log (s.node.logLine level event message)])
  | .update caller =>
      let r := s.node.updateRuntimeState now
      some ({ s with node := r.1, executor := caller.next }, r.2)
  | .resetFault =>
      let r := s.node.processRuntimeEvent .resetFault
      some ({ s with
        node := r.1
        executor := .log "WARN" "service_call" (.text "reset_fault accepted") .resetFaultReturn },
        RuntimeNode.processed .resetFault .resetFault r.2)
  | .resetFaultReturn =>
      some ({ s with executor := .idle },
        [.resetFaultResponse true "runtime fault state cleared"])
  | .queryState =>
      some ({ s with executor := .summary (.queryStatus (decide (m.state ≠ .fault))) }, [])
  | .queryReturn success summary =>
      some ({ s with executor := .idle }, [.queryStatusResponse success summary])
  | .summary use => some ({ s with executor := .summaryTaskState use m.state m.error }, [])
  | .summaryTaskState use state error =>
      some ({ s with executor := .summaryTaskStep use state error s.node.task.taskState }, [])
  | .summaryTaskStep use state error taskState =>
      some ({ s with executor := use.next (s.statusSummary state error taskState) }, [])
  | .heartbeat =>
      let node := { s.node with heartbeatSequence := nextCount s.node.heartbeatSequence }
      some ({ s with node := node, executor := .performance },
        [.heartbeat (node.heartbeatPayload now)])
  | .performance =>
      some ({ s with executor := .idle }, [.performance s.node.task.taskCurrentStep])
  | .applyEvent name event =>
      let r := s.node.processRuntimeEvent event
      let response := applyEventResponse name r.2
      some ({ s with
        node := r.1
        executor := .log "INFO" "service_call"
          (.text ("apply_event event=" ++ name ++ " accepted=1 transitioned=" ++
            toString response.transitioned.toNat ++ " previous=" ++ response.previousState ++
            " current=" ++ response.currentState ++ " error=" ++ response.runtimeError))
          (.applyReturn response) },
        RuntimeNode.processed .applyEvent event r.2)
  | .applyReturn response => some ({ s with executor := .idle }, [.applyEventResponse response])
  | .unknownState name => some ({ s with executor := .unknownError name m.state }, [])
  | .unknownError name state =>
      let response := unknownEventResponse name state m.error
      some ({ s with
        executor := .log "WARN" "service_call" (.text response.message) (.applyReturn response) },
        [])
  | .goalState goal =>
      some ({ s with
        executor :=
          if m.state = .standby then .goalExchange goal
          else .log "WARN" "action_goal" (.text ("rejecting execute_task goal: runtime_state=" ++
            stateName m.state ++ " is not STANDBY")) (.goalReturn goal false) }, [])
  | .goalExchange goal =>
      if s.node.task.taskActive then
        some ({ s with
          executor := .log "WARN" "action_goal"
            (.text "rejecting execute_task goal: another task is active")
            (.goalReturn goal false) }, [])
      else
        some ({ s with
          node := { s.node with task := { s.node.task with taskActive := true } }
          executor := .goalStoreState goal }, [])
  | .goalStoreState goal =>
      some ({ s with
        node := { s.node with task := { s.node.task with taskState := .running } }
        executor := .goalStoreStep goal }, [])
  | .goalStoreStep goal =>
      some ({ s with
        node := { s.node with task := { s.node.task with taskCurrentStep := 0 } }
        executor := .goalStart goal }, [])
  | .goalStart goal =>
      let r := s.node.processRuntimeEvent .startTask
      some ({ s with
        node := r.1
        executor := .log "INFO" "action_goal" (.text ("accepted execute_task goal target_steps=" ++
          toString goal.targetSteps)) (.goalReturn goal true) },
        RuntimeNode.processed .handleGoal .startTask r.2)
  | .goalReturn goal true =>
      some ({ s with goals := s.goals ++ [⟨goal, false, false, none⟩], executor := .idle },
        [.goalResponse goal true])
  | .goalReturn goal false => some ({ s with executor := .idle }, [.goalResponse goal false])
  | .cancelReturn g =>
      -- the goal handle becomes canceling unless it has been terminated meanwhile
      some ({ s with
        goals := s.goals.modify g fun h => { h with canceling := h.canceling || h.terminal.isNone }
        executor := .idle }, [.cancelResponse g])
  | .spawn g =>
      -- `join` waits for the old thread
      if (s.taskThread.all fun t => t.point = .returned) = true then
        (s.goals[g]?).map fun h =>
          ({ s with
            goals := s.goals.modify g fun h => { h with spawned := true }
            executor := .idle
            taskThread := some ⟨g, h.goal, .loop 1⟩ }, [.started g])
      else none

/-- The task thread moves to another point. -/
def moveTask (s : RuntimeProcess) (t : TaskThread) (point : TaskPoint) : RuntimeProcess :=
  { s with taskThread := some { t with point := point } }

/-- The next step of the task thread. -/
def stepTask (s : RuntimeProcess) : Option (RuntimeProcess × List NodeEvent) :=
  match s.taskThread with
  | none => none
  | some t =>
      match t.point with
      | .loop step =>
          if step ≤ t.goal.targetSteps then
            if s.isCanceling t.g then some (s.moveTask t (.cancelStep step), [])
            else some (s.moveTask t (.checkOk step), [])
          else some (s.moveTask t (.storeState .succeeded), [])
      | .checkOk step =>
          if s.ok then some (s.moveTask t (.storeStep step), [])
          else some (s.moveTask t (.storeState .failed), [])
      | .storeStep step =>
          some ({ s.moveTask t (.feedback step) with
            node := { s.node with task := { s.node.task with taskCurrentStep := step } } },
            [.stepStored t.g step])
      | .feedback step => some (s.moveTask t (.logFeedback step), [.feedback t.g step])
      | .logFeedback step =>
          some (s.moveTask t (.loop (int32 (step + 1))),
            [.log (s.node.logLine "INFO" "action_feedback"
              (.text ("execute_task feedback step=" ++ toString step ++ "/" ++
                toString t.goal.targetSteps)))])
      | .cancelStep step =>
          some ({ s.moveTask t (.storeState (.canceled (int32 (step - 1)))) with
            node := { s.node with
              task := { s.node.task with taskCurrentStep := int32 (step - 1) } } }, [])
      | .storeState result =>
          some ({ s.moveTask t (.terminal result) with
            node := { s.node with task := { s.node.task with taskState := result.state } } }, [])
      | .terminal result =>
          some ({ s.moveTask t (.release result) with
            goals := s.goals.modify t.g fun h => { h with terminal := some result } },
            [.terminal t.g result])
      | .release result =>
          some ({ s.moveTask t (.post result) with
            node := { s.node with task := { s.node.task with taskActive := false } } },
            [.released t.g])
      | .post result =>
          let r := s.node.processRuntimeEvent result.event
          some ({ s.moveTask t (.logResult result) with node := r.1 },
            RuntimeNode.processed (.executeTask t.g) result.event r.2)
      | .logResult result =>
          some (s.moveTask t .returned,
            [.log (s.node.logLine result.level "action_result" (.text result.logMessage))])
      | .returned => none

/-- One step of the node. -/
def step (s : RuntimeProcess) : NodeAct → Option (RuntimeProcess × List NodeEvent)
  | .exec now => s.stepExecutor now
  | .task => s.stepTask
  | .shutdown => some ({ s with ok := false }, [])
  | a =>
      if s.executor = .idle then
        (s.callback a).map fun r =>
          ({ s with node := { s.node with sensors := r.1 }, executor := r.2.1 }, r.2.2)
      else none

/-- The state after the constructor. -/
def start : RuntimeProcess where
  node := ⟨⟨0, 0, 0, 0, 0, false⟩, .reset .idle, ⟨false, .idle, 0⟩, 0⟩
  ok := true
  goals := []
  executor := .idle
  taskThread := none

end RuntimeProcess

/-- The runtime node. -/
def runtimeSystem : System RuntimeProcess NodeAct NodeEvent where
  init s := s = .start
  step := RuntimeProcess.step

end SystemsDemos
