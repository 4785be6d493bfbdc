import Mathlib.Tactic.Lemma

/-!
# The runtime state machine

`RuntimeStateMachine` with its transition function `process`, its second mutator `reset`, and the
names and error descriptions that the node reports.  Everything here is finite; the lemmas below
are what the rest of the development uses, so that no later proof looks at the table again.
-/

namespace SystemsDemos

/-- The runtime states. -/
inductive RuntimeState
  | idle
  | standby
  | running
  | fault
  | recovery
  deriving DecidableEq

/-- The events of the state machine. -/
inductive RuntimeEvent
  | sensorHealthy
  | sensorTimeout
  | jointInvalid
  | startTask
  | taskSucceeded
  | taskCanceled
  | taskFailed
  | resetFault
  | recoveryDone
  deriving DecidableEq

/-- The latched errors. -/
inductive RuntimeError
  | none
  | sensorTimeout
  | jointStateInvalid
  | taskFailed
  | recoveryFailed
  deriving DecidableEq

/-- The severities of errors. -/
inductive RuntimeSeverity
  | info
  | warning
  | critical
  deriving DecidableEq

/-- How an error is described. -/
structure RuntimeErrorInfo where
  severity : RuntimeSeverity
  recoverable : Bool
  reason : String
  recoveryHint : String
  deriving DecidableEq

/-- The state with the latched error. -/
@[ext]
structure RuntimeStateMachine where
  state : RuntimeState
  error : RuntimeError
  deriving DecidableEq

namespace RuntimeStateMachine

/-- `reset(state)`: the error is cleared. -/
def reset (state : RuntimeState) : RuntimeStateMachine := ⟨state, .none⟩

/-- The next state and error that `process` computes before it compares them with the old ones. -/
def next (m : RuntimeStateMachine) (event : RuntimeEvent) : RuntimeStateMachine :=
  match m.state with
  | .idle =>
      if event = .sensorHealthy then ⟨.standby, .none⟩
      else if event = .sensorTimeout then ⟨.fault, .sensorTimeout⟩
      else if event = .jointInvalid then ⟨.fault, .jointStateInvalid⟩
      else m
  | .standby =>
      if event = .startTask then ⟨.running, .none⟩
      else if event = .sensorTimeout then ⟨.fault, .sensorTimeout⟩
      else if event = .jointInvalid then ⟨.fault, .jointStateInvalid⟩
      else m
  | .running =>
      if event = .taskSucceeded ∨ event = .taskCanceled then ⟨.standby, .none⟩
      else if event = .taskFailed then ⟨.fault, .taskFailed⟩
      else if event = .sensorTimeout then ⟨.fault, .sensorTimeout⟩
      else if event = .jointInvalid then ⟨.fault, .jointStateInvalid⟩
      else m
  | .fault =>
      if event = .resetFault then ⟨.recovery, .none⟩
      else m
  | .recovery =>
      if event = .recoveryDone then ⟨.standby, .none⟩
      else if event = .sensorTimeout then ⟨.fault, .recoveryFailed⟩
      else if event = .jointInvalid then ⟨.fault, .jointStateInvalid⟩
      else m

/-- `process(event)`: the machine afterwards, and whether the state has changed. -/
def process (m : RuntimeStateMachine) (event : RuntimeEvent) : RuntimeStateMachine × Bool :=
  let next := m.next event
  if next.state = m.state ∧ next.error = m.error then (m, false)
  else (next, decide (next.state ≠ m.state))

/-- `process` leaves the machine in the state it has computed. -/
@[simp] lemma process_fst (m : RuntimeStateMachine) (event : RuntimeEvent) :
    (m.process event).1 = m.next event := by
  unfold process
  dsimp only
  split
  · next h =>
    obtain ⟨hstate, herror⟩ := h
    cases m
    simp_all [RuntimeStateMachine.ext_iff]
  · rfl

/-- `process` reports a transition exactly when the state changes. -/
@[simp] lemma process_snd (m : RuntimeStateMachine) (event : RuntimeEvent) :
    (m.process event).2 = decide ((m.next event).state ≠ m.state) := by
  unfold process
  dsimp only
  split
  · next h => simp [h.1]
  · rfl

variable {m : RuntimeStateMachine} {event : RuntimeEvent}

/-- `Fault` ignores every event but `ResetFault`. -/
lemma next_fault (h : m.state = .fault) (he : event ≠ .resetFault) : m.next event = m := by
  simp [next, h, he]

/-- `ResetFault` takes `Fault` to `Recovery`. -/
lemma next_resetFault (h : m.state = .fault) : m.next .resetFault = ⟨.recovery, .none⟩ := by
  simp [next, h]

/-- A sensor event that reports trouble ends in `Fault`, whatever the state. -/
lemma next_unhealthy (he : event = .sensorTimeout ∨ event = .jointInvalid) :
    (m.next event).state = .fault := by
  obtain ⟨state, error⟩ := m
  rcases he with rfl | rfl <;> cases state <;> rfl

/-- `StartTask` takes `Standby` to `Running`. -/
lemma next_startTask (h : m.state = .standby) : m.next .startTask = ⟨.running, .none⟩ := by
  simp [next, h]

/-- The events with which a task ends. -/
def IsTaskEnd (event : RuntimeEvent) : Prop :=
  event = .taskSucceeded ∨ event = .taskCanceled ∨ event = .taskFailed

/-- The end of a task matters in `Running` only. -/
lemma next_taskEnd (h : m.state ≠ .running) (he : IsTaskEnd event) : m.next event = m := by
  obtain ⟨state, error⟩ := m
  rcases he with rfl | rfl | rfl <;> cases state <;> first | rfl | exact absurd rfl h

/-- The machine is in `Fault` exactly when an error is latched. -/
def Consistent (m : RuntimeStateMachine) : Prop := m.state = .fault ↔ m.error ≠ .none

/-- `process` keeps the state and the error consistent. -/
lemma Consistent.next (h : m.Consistent) (event : RuntimeEvent) : (m.next event).Consistent := by
  obtain ⟨state, error⟩ := m
  cases state <;> cases event <;> simp_all [Consistent, RuntimeStateMachine.next]

/-- `reset` to `Idle` leaves no error. -/
lemma consistent_reset : (reset .idle).Consistent := by
  simp [Consistent, reset]

end RuntimeStateMachine

/-! ### Names -/

/-- `stateName`. -/
def stateName : RuntimeState → String
  | .idle => "IDLE"
  | .standby => "STANDBY"
  | .running => "RUNNING"
  | .fault => "FAULT"
  | .recovery => "RECOVERY"

/-- `eventName`. -/
def eventName : RuntimeEvent → String
  | .sensorHealthy => "SensorHealthy"
  | .sensorTimeout => "SensorTimeout"
  | .jointInvalid => "JointInvalid"
  | .startTask => "StartTask"
  | .taskSucceeded => "TaskSucceeded"
  | .taskCanceled => "TaskCanceled"
  | .taskFailed => "TaskFailed"
  | .resetFault => "ResetFault"
  | .recoveryDone => "RecoveryDone"

/-- `errorName`. -/
def errorName : RuntimeError → String
  | .none => "NONE"
  | .sensorTimeout => "SENSOR_TIMEOUT"
  | .jointStateInvalid => "JOINT_STATE_INVALID"
  | .taskFailed => "TASK_FAILED"
  | .recoveryFailed => "RECOVERY_FAILED"

/-- `severityName`. -/
def severityName : RuntimeSeverity → String
  | .info => "INFO"
  | .warning => "WARNING"
  | .critical => "CRITICAL"

/-- `errorInfo`. -/
def errorInfo : RuntimeError → RuntimeErrorInfo
  | .none => ⟨.info, true, "runtime healthy", "no action required"⟩
  | .sensorTimeout =>
      ⟨.critical, true, "sensor heartbeat timeout", "check sensor heartbeat then reset fault"⟩
  | .jointStateInvalid =>
      ⟨.critical, false, "joint state shape invalid", "inspect joint state publisher shape"⟩
  | .taskFailed =>
      ⟨.warning, true, "runtime task failed", "inspect task result then reset fault"⟩
  | .recoveryFailed =>
      ⟨.critical, false, "recovery path failed", "stop runtime and inspect recovery path"⟩

/-- `parseRuntimeEvent`. -/
def parseRuntimeEvent (name : String) : Option RuntimeEvent :=
  if name = "SensorHealthy" then some .sensorHealthy
  else if name = "SensorTimeout" then some .sensorTimeout
  else if name = "JointInvalid" then some .jointInvalid
  else if name = "StartTask" then some .startTask
  else if name = "TaskSucceeded" then some .taskSucceeded
  else if name = "TaskCanceled" then some .taskCanceled
  else if name = "TaskFailed" then some .taskFailed
  else if name = "ResetFault" then some .resetFault
  else if name = "RecoveryDone" then some .recoveryDone
  else none

end SystemsDemos
