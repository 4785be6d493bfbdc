import SystemsDemos.RuntimeNode.Fault

/-!
# Errors that are not recoverable

`errorInfo` marks `JointStateInvalid` and `RecoveryFailed` as not recoverable, and the reports of
the node say so; `process` takes `Fault` to `Recovery` on every `ResetFault`, whatever the error.
The two services that let an operator send events are `reset_fault` and `apply_event`; they keep
the node in such a fault exactly when they process no `ResetFault` in it
(`runtime_keeps_unrecoverable_iff`).

### Outline

* `UnrecoverableFault`, `RuntimeProcess.serves` and what a service does;
* `KeepsUnrecoverable`, `NoResetWhenUnrecoverable` and `runtime_keeps_unrecoverable_iff`;
* a run in which `reset_fault` clears an invalid joint state.
-/

namespace SystemsDemos

/-- The machine is in `Fault` with an error that is not recoverable. -/
def RuntimeStateMachine.UnrecoverableFault (m : RuntimeStateMachine) : Prop :=
  m.state = .fault ∧ (errorInfo m.error).recoverable = false

instance (m : RuntimeStateMachine) : Decidable m.UnrecoverableFault :=
  inferInstanceAs (Decidable (_ ∧ _))

/-- The errors that are not recoverable. -/
lemma recoverable_eq_false_iff {error : RuntimeError} :
    (errorInfo error).recoverable = false ↔
      error = .jointStateInvalid ∨ error = .recoveryFailed := by
  cases error <;> decide

/-- The event comes from a request to `reset_fault` or `apply_event`. -/
def EventSource.isService : EventSource → Bool
  | resetFault | applyEvent => true
  | _ => false

namespace RuntimeProcess

/-- The event that a service lets the machine process in this step. -/
def serves (s : RuntimeProcess) : NodeAct → Option RuntimeEvent
  | .exec _ =>
      match s.executor with
      | .resetFault => some .resetFault
      | .applyEvent _ event => some event
      | _ => none
  | _ => none

/-- No request takes the machine out of a fault that is not recoverable. -/
def KeepsUnrecoverable (t : NodeTransition) : Prop :=
  t.pre.machine.UnrecoverableFault →
    ∀ source event r, .processed source event r ∈ t.out → source.isService = true →
      t.post.machine.state = .fault

/-- No service processes `ResetFault` in a fault that is not recoverable. -/
def NoResetWhenUnrecoverable (t : NodeTransition) : Prop :=
  t.pre.serves t.act = some .resetFault → ¬t.pre.machine.UnrecoverableFault

instance (t : NodeTransition) : Decidable (NoResetWhenUnrecoverable t) :=
  inferInstanceAs (Decidable (_ = _ → ¬_))

variable {s s' : RuntimeProcess} {a : NodeAct} {out : List NodeEvent}

/-- A service that processes an event says so, and the machine takes its next state. -/
lemma step_of_serves {event : RuntimeEvent} (hserves : s.serves a = some event)
    (h : s.step a = some (s', out)) :
    s'.machine = s.machine.next event ∧
      ∃ source r, source.isService = true ∧ .processed source event r ∈ out := by
  cases a with
  | exec now =>
    unfold serves at hserves
    simp only [step, stepExecutor] at h
    cases hx : s.executor <;> simp only [hx] at hserves h
    case resetFault =>
      cases hserves
      rw [RuntimeNode.processRuntimeEvent_eq] at h
      cases h
      exact ⟨rfl, .resetFault, _, rfl, processed_mem _ _ _⟩
    case applyEvent name event' =>
      cases hserves
      rw [RuntimeNode.processRuntimeEvent_eq] at h
      cases h
      exact ⟨rfl, .applyEvent, _, rfl, processed_mem _ _ _⟩
    all_goals cases hserves
  | _ => cases hserves

/-- A processed event names its source and itself. -/
private lemma eq_of_mem_processed {source source' : EventSource} {event event' : RuntimeEvent}
    {r r' : RuntimeTransition}
    (hmem : .processed source event r ∈ RuntimeNode.processed source' event' r') :
    source = source' ∧ event = event' := by
  rcases RuntimeNode.of_mem_processed hmem with heq | ⟨line, heq⟩
  · cases heq
    exact ⟨rfl, rfl⟩
  · cases heq

/-- Only a service processes an event in the name of a service. -/
lemma serves_of_processed {source : EventSource} {event : RuntimeEvent} {r : RuntimeTransition}
    (h : s.step a = some (s', out)) (hmem : .processed source event r ∈ out)
    (hsource : source.isService = true) : s.serves a = some event := by
  cases a with
  | exec now =>
    simp only [step, stepExecutor] at h
    unfold serves
    cases hx : s.executor <;> simp only [hx] at h ⊢
    case resetFault =>
      cases h
      rw [(eq_of_mem_processed hmem).2]
    case applyEvent name event' =>
      cases h
      rw [(eq_of_mem_processed hmem).2]
    case update caller =>
      simp only [RuntimeNode.updateRuntimeState] at h
      split at h
      · cases h
        simp at hmem
      · cases h
        obtain ⟨rfl, -⟩ := eq_of_mem_processed hmem
        cases hsource
    case goalStart goal =>
      cases h
      obtain ⟨rfl, -⟩ := eq_of_mem_processed hmem
      cases hsource
    case goalExchange goal =>
      split at h <;> cases h <;> cases hmem
    case goalReturn goal accepted =>
      cases accepted <;> cases h <;> simp at hmem
    case spawn g =>
      split at h
      · obtain ⟨handle, -, hr⟩ := Option.map_eq_some_iff.mp h
        cases hr
        simp at hmem
      · cases h
    all_goals
      cases h
      try simp at hmem
  | task =>
    have hmoves : Moves s .task s' out := moves_of_step h
    cases hmoves with
    | taskPost =>
      obtain ⟨rfl, -⟩ := eq_of_mem_processed hmem
      cases hsource
    | quiet ha => exact absurd rfl ha
    | _ => simp at hmem
  | _ =>
    have hmoves := moves_of_step h
    cases hmoves with
    | quiet ha hstage hspawn hout => cases hout _ hmem
    | _ => simp at hmem

/-- A step keeps the law exactly when it processes no `ResetFault` where that is not allowed. -/
lemma keepsUnrecoverable_iff {t : NodeTransition} (hvalid : runtimeSystem.Valid t) :
    KeepsUnrecoverable t ↔ NoResetWhenUnrecoverable t := by
  obtain ⟨s, a, s', out⟩ := t
  have hstep : s.step a = some (s', out) := hvalid
  unfold KeepsUnrecoverable NoResetWhenUnrecoverable
  dsimp only
  constructor
  · intro hkeeps hserves hfault
    obtain ⟨hnext, source, r, hsource, hmem⟩ := step_of_serves hserves hstep
    have hstays : s'.machine.state = .fault := hkeeps hfault source .resetFault r hmem hsource
    rw [hnext, RuntimeStateMachine.next_resetFault hfault.1] at hstays
    cases hstays
  · intro hno hfault source event r hmem hsource
    have hserves : s.serves a = some event := serves_of_processed hstep hmem hsource
    have hne : event ≠ .resetFault := by
      rintro rfl
      exact hno hserves hfault
    rw [(step_of_serves hserves hstep).1, RuntimeStateMachine.next_fault hfault.1 hne]
    exact hfault.1

end RuntimeProcess

/-- **When requests respect recoverability.**  In a run of the node no request to `reset_fault` or
`apply_event` takes the machine out of a fault that is not recoverable exactly when none of them
has `ResetFault` processed in such a fault. -/
theorem runtime_keeps_unrecoverable_iff {ts : List NodeTransition} {s : RuntimeProcess}
    (h : runtimeSystem.Run ts s) :
    (∀ t ∈ ts, RuntimeProcess.KeepsUnrecoverable t) ↔
      ∀ t ∈ ts, RuntimeProcess.NoResetWhenUnrecoverable t :=
  forall₂_congr fun _ ht => RuntimeProcess.keepsUnrecoverable_iff (h.of_mem ht).2

/-- Both sensors deliver, the joint state has no positions, and the heartbeat timer finds it. -/
def jointFault : List NodeAct :=
  [.imu 0 "imu", .exec 0, .jointState 0 1 0 0, .exec 0, .exec 0, .timer, .exec 0, .exec 0, .exec 0,
    .exec 0, .exec 0, .exec 0, .exec 0]

/-- Operators who send other events than `ResetFault` leave the fault alone. -/
theorem runtime_keeps_unrecoverable_jointFault :
    ∃ ts s, runtimeSystem.Run ts s ∧ s.machine = ⟨.fault, .jointStateInvalid⟩ ∧
      ∀ t ∈ ts, RuntimeProcess.KeepsUnrecoverable t := by
  have hrun := System.run_of_exec runtimeSystem
    (jointFault ++ [.applyEvent "RecoveryDone", .exec 0, .exec 0, .exec 0]) rfl rfl
  exact ⟨_, _, hrun, rfl, (runtime_keeps_unrecoverable_iff hrun).mpr (forall_of_all rfl)⟩

/-- `reset_fault` takes the node out of a fault that is not recoverable. -/
theorem reset_of_unrecoverable_fault :
    ¬∀ (ts : List NodeTransition) (s : RuntimeProcess), runtimeSystem.Run ts s →
      ∀ t ∈ ts, RuntimeProcess.KeepsUnrecoverable t := by
  intro h
  have hrun := System.run_of_exec runtimeSystem (jointFault ++ [.resetFault, .exec 0]) rfl rfl
  have hkept := h _ _ hrun _ (List.mem_of_getElem? (i := 14) rfl)
  have hstays := hkept (by decide) .resetFault .resetFault _ List.mem_cons_self rfl
  cases hstays

end SystemsDemos
