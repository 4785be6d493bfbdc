import SystemsDemos.RuntimeNode.Steps

/-!
# Leaving the fault state

The machine is changed by `processRuntimeEvent` and by the `reset` in `updateRuntimeState`, and by
nothing else (`Moves.machine`).  `process` leaves `Fault` on `ResetFault` only; `reset` does not
look at the state, and `updateRuntimeState` calls it whenever a sensor has not delivered a message
yet.  So the law that a fault is left through `ResetFault` only holds of exactly those runs in
which `updateRuntimeState` never finds a fault while a sensor is missing
(`runtime_leaves_fault_iff`), and `faultBeforeSensors` is a run that breaks it.
-/

namespace SystemsDemos

namespace RuntimeProcess

variable {s s' : RuntimeProcess} {a : NodeAct} {out : List NodeEvent}

/-- The state machine of the node. -/
def machine (s : RuntimeProcess) : RuntimeStateMachine := s.node.runtimeStateMachine

/-- A processed event is visible. -/
lemma processed_mem (source : EventSource) (event : RuntimeEvent) (r : RuntimeTransition) :
    .processed source event r ∈ RuntimeNode.processed source event r :=
  List.mem_cons_self

/-- What a step can do to the state machine. -/
lemma Moves.machine (h : Moves s a s' out) :
    s'.machine = s.machine ∨
      ((∃ now caller, a = .exec now ∧ s.executor = .update caller) ∧ s.node.sensors.Missing ∧
        s'.machine = .reset .idle) ∨
      ∃ source event, s'.machine = s.machine.next event ∧
        .processed source event (s.machine.transition event) ∈ out := by
  cases h with
  | reset hx hm => exact .inr (.inl ⟨⟨_, _, rfl, hx⟩, hm, rfl⟩)
  | sense | operate | startTask | taskPost => exact .inr (.inr ⟨_, _, rfl, processed_mem _ _ _⟩)
  | _ => exact .inl rfl

/-- Every step keeps the state and the error of the machine consistent. -/
lemma Moves.consistent (h : Moves s a s' out) (hc : s.machine.Consistent) :
    s'.machine.Consistent := by
  rcases h.machine with hm | ⟨-, -, hm⟩ | ⟨_, event, hm, -⟩ <;> rw [hm]
  · exact hc
  · exact RuntimeStateMachine.consistent_reset
  · exact hc.next event

end RuntimeProcess

/-- In every reachable state of the node the machine is in `Fault` exactly when an error is
latched. -/
lemma runtime_consistent {s : RuntimeProcess} (h : runtimeSystem.Reachable s) :
    s.machine.Consistent := by
  obtain ⟨ts, hr⟩ := h
  refine hr.invariant (I := fun s => s.machine.Consistent) ?_ fun s a s' out hc hs =>
    (RuntimeProcess.moves_of_step hs).consistent hc
  rintro s rfl
  exact RuntimeStateMachine.consistent_reset

namespace RuntimeProcess

/-- The law of the fault state: a step that leaves it has processed `ResetFault` and ends in
`Recovery`, and a step that clears a latched error has processed `ResetFault`. -/
def LeavesFaultByReset (t : NodeTransition) : Prop :=
  (t.pre.machine.state = .fault → t.post.machine.state ≠ .fault →
      (∃ source r, .processed source .resetFault r ∈ t.out) ∧
        t.post.machine.state = .recovery) ∧
    (t.pre.machine.error ≠ .none → t.post.machine.error = .none →
      ∃ source r, .processed source .resetFault r ∈ t.out)

/-- The step executes `updateRuntimeState`. -/
def updates (s : RuntimeProcess) : NodeAct → Bool
  | .exec _ => (s.executor matches .update _)
  | _ => false

/-- In this step `updateRuntimeState` does not meet a fault while a sensor is missing. -/
def UpdatesOutsideFault (t : NodeTransition) : Prop :=
  t.pre.updates t.act = true → t.pre.node.sensors.Missing → t.pre.machine.state ≠ .fault

instance (t : NodeTransition) : Decidable (UpdatesOutsideFault t) :=
  inferInstanceAs (Decidable (_ = true → t.pre.node.sensors.Missing → ¬_ = _))

variable {s s' : RuntimeProcess} {a : NodeAct} {out : List NodeEvent}

/-- What the executor does in a step that executes `updateRuntimeState`. -/
lemma updates_iff :
    s.updates a = true ↔ ∃ now caller, a = .exec now ∧ s.executor = .update caller := by
  cases a <;> cases hx : s.executor <;> simp [updates, hx]

/-- An event that takes the machine out of `Fault` is `ResetFault`. -/
private lemma of_next {m : RuntimeStateMachine} {event : RuntimeEvent} (hm : m.state = .fault)
    (hne : m.next event ≠ m) : event = .resetFault ∧ m.next event = ⟨.recovery, .none⟩ := by
  have he : event = .resetFault := by
    by_contra he
    exact hne (RuntimeStateMachine.next_fault hm he)
  exact ⟨he, he ▸ RuntimeStateMachine.next_resetFault hm⟩

/-- While a sensor is missing `updateRuntimeState` resets the machine, whatever its state. -/
lemma step_update_of_missing {now : ℤ} {caller : UpdateCaller} (hx : s.executor = .update caller)
    (hm : s.node.sensors.Missing) :
    s.step (.exec now) = some ({ s with
      node := { s.node with runtimeStateMachine := .reset .idle }
      executor := caller.next }, [.reset s.machine]) := by
  simp only [step, stepExecutor, hx, RuntimeNode.updateRuntimeState, if_pos hm, machine]

/-- One step obeys the law exactly when it does not reset a fault. -/
lemma leavesFaultByReset_iff {t : NodeTransition} (hc : t.pre.machine.Consistent)
    (hvalid : runtimeSystem.Valid t) : LeavesFaultByReset t ↔ UpdatesOutsideFault t := by
  obtain ⟨s, a, s', out⟩ := t
  have hm : Moves s a s' out := moves_of_step hvalid
  have herror : s.machine.error ≠ .none → s.machine.state = .fault := hc.mpr
  unfold LeavesFaultByReset UpdatesOutsideFault
  dsimp only
  constructor
  · rintro ⟨hlaw, -⟩ hupdates hmissing hfault
    obtain ⟨now, caller, rfl, hx⟩ := updates_iff.mp hupdates
    -- the step is the reset, which ends in `Idle`
    have hstep : s.step (.exec now) = some (s', out) := hvalid
    rw [step_update_of_missing hx hmissing, Option.some.injEq, Prod.mk.injEq] at hstep
    obtain ⟨rfl, rfl⟩ := hstep
    have hrecovery := (hlaw hfault (by simp [machine, RuntimeStateMachine.reset])).2
    simp [machine, RuntimeStateMachine.reset] at hrecovery
  · intro hupdate
    rcases hm.machine with heq | ⟨hx, hmissing, -⟩ | ⟨source, event, heq, hmem⟩
    · rw [heq]
      exact ⟨fun h h' => absurd h h', fun h h' => absurd h' h⟩
    · have hne := hupdate (updates_iff.mpr hx) hmissing
      exact ⟨fun h => absurd h hne, fun h => absurd (herror h) hne⟩
    · rw [heq]
      constructor
      · intro hfault hleft
        obtain ⟨rfl, hnext⟩ := of_next hfault fun h => hleft (by rw [h]; exact hfault)
        exact ⟨⟨source, _, hmem⟩, by rw [hnext]⟩
      · intro hlatched hcleared
        obtain ⟨rfl, -⟩ := of_next (herror hlatched) fun h => hlatched (by rwa [h] at hcleared)
        exact ⟨source, _, hmem⟩

end RuntimeProcess

/-- **When a fault is left through `ResetFault` only.**  All steps of a run of the node leave
`Fault` and clear latched errors by processing `ResetFault` exactly when in none of them
`updateRuntimeState` meets a fault while a sensor has not delivered a message. -/
theorem runtime_leaves_fault_iff {ts : List NodeTransition} {s : RuntimeProcess}
    (h : runtimeSystem.Run ts s) :
    (∀ t ∈ ts, RuntimeProcess.LeavesFaultByReset t) ↔
      ∀ t ∈ ts, RuntimeProcess.UpdatesOutsideFault t :=
  forall₂_congr fun _ ht =>
    RuntimeProcess.leavesFaultByReset_iff (runtime_consistent (h.of_mem ht).1) (h.of_mem ht).2

/-- An operator reports a sensor timeout before any sensor has delivered; the next heartbeat
clears the fault. -/
def faultBeforeSensors : List NodeAct :=
  [.applyEvent "SensorTimeout", .exec 0, .exec 0, .exec 0, .timer, .exec 0]

/-- The node leaves `Fault` for `Idle` and forgets the error, without a `ResetFault`. -/
theorem runtime_leaves_fault_faultBeforeSensors :
    ∃ ts s, runtimeSystem.Run ts s ∧ ∃ t ∈ ts,
      t.pre.machine = ⟨.fault, .sensorTimeout⟩ ∧ t.post.machine = ⟨.idle, .none⟩ ∧
        ∀ e ∈ t.out, ∀ source r, e ≠ .processed source .resetFault r := by
  have hrun := System.run_of_exec runtimeSystem faultBeforeSensors rfl rfl
  refine ⟨_, _, hrun, _, List.mem_of_getElem? (i := 5) rfl, rfl, rfl, ?_⟩
  intro e he source r
  obtain rfl := List.mem_singleton.mp he
  exact NodeEvent.noConfusion

/-- Both sensors deliver and fall silent, the heartbeat timer finds a timeout, and the fault is
reset and left for `Standby`. -/
def timeoutAndRecovery : List NodeAct :=
  [.imu 0 "imu", .exec 0, .jointState 0 1 1 1, .exec 0, .timer, .exec 5000000000, .exec 0, .exec 0,
    .exec 0, .exec 0, .exec 0, .exec 0, .resetFault, .exec 0, .exec 0, .exec 0,
    .applyEvent "RecoveryDone", .exec 0, .exec 0, .exec 0]

theorem runtime_leaves_fault_timeoutAndRecovery :
    ∃ ts s, runtimeSystem.Run ts s ∧ s.machine = ⟨.standby, .none⟩ ∧
      ∀ t ∈ ts, RuntimeProcess.LeavesFaultByReset t := by
  have hrun := System.run_of_exec runtimeSystem timeoutAndRecovery rfl rfl
  exact ⟨_, _, hrun, rfl, (runtime_leaves_fault_iff hrun).mpr (forall_of_all rfl)⟩

end SystemsDemos
