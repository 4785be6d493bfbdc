import SystemsDemos.RuntimeNode.TaskRun
import SystemsDemos.Transition.Lossy
import SystemsDemos.Transition.Party
import Mathlib.Data.List.Infix

/-!
# The cancel test

`main` of `action_cancel_test_client.cpp` together with the runtime: the client sends a goal of
thirty steps, counts feedback for a while, cancels the goal and checks the result.  The requests and
replies are messages in flight, feedback may be lost and arrives in order, everybody else may use
the runtime in between, and every wait of the client may time out.

### Outline

* `CancelTestClient`, and `CancelTest` with `step`;
* the runtime as a party, and `Serves`, what the callback for a request does;
* `Consistent`, what holds in every state of a run;
* `cancelTest_exit`.
-/

namespace SystemsDemos

/-! ### The parties and their messages -/

/-- What the client asks the action server for. -/
inductive ActionRequest
  | goal (goal : ExecuteTaskGoal)
  | cancel (g : ℕ)
  deriving DecidableEq

/-- What the server replies. -/
inductive ActionReply
  /-- The accepted goal, or none. -/
  | goal (g : Option ℕ)
  /-- Whether `goals_canceling` contains the goal. -/
  | cancel (canceling : Bool)
  deriving DecidableEq

/-- Where `main` is. -/
inductive CancelTestPoint
  /-- In `wait_for_action_server`. -/
  | starting
  | waitingGoal
  /-- In the loop up to `feedback_deadline`. -/
  | collecting
  | waitingCancel
  | waitingResult
  | returned (code : ℤ)
  deriving DecidableEq

/-- The variables of `main`. -/
structure CancelTestClient where
  point : CancelTestPoint
  goalHandle : Option ℕ
  /-- A `size_t`. -/
  feedbackCount : ℕ
  deriving DecidableEq

/-- The client, the runtime, and the messages in flight. -/
structure CancelTest where
  runtime : RuntimeProcess
  client : CancelTestClient
  request : Option ActionRequest
  /-- The request of the client that the executor of the runtime works on. -/
  serving : Option ActionRequest
  reply : Option ActionReply
  /-- The feedback of all goals. -/
  feedback : List (ℕ × ℤ)
  /-- The results that the server keeps. -/
  results : List (ℕ × TaskEnd)

/-- What can happen. -/
inductive CancelTestAct
  /-- `wait_for_action_server` returns. -/
  | wait (available : Bool)
  /-- The request in flight reaches the executor of the runtime. -/
  | deliver
  /-- The server replies to a cancel request for a goal that has ended. -/
  | refuse
  /-- The runtime does something else. -/
  | runtime (act : NodeAct)
  /-- The reply in flight reaches the client. -/
  | reply
  /-- The next feedback reaches the client. -/
  | feedback
  /-- Feedback gets lost. -/
  | lose (i : ℕ)
  /-- The end of the feedback loop. -/
  | deadline
  /-- The result of the goal reaches the client. -/
  | result
  | timeout
  deriving DecidableEq

/-- `WrappedResult::code`. -/
inductive ResultCode
  | succeeded
  | canceled
  | aborted
  deriving DecidableEq

/-- The code that belongs to the terminal call. -/
def TaskEnd.code : TaskEnd → ResultCode
  | succeeded => .succeeded
  | canceled _ => .canceled
  | failed => .aborted

/-- What becomes visible. -/
inductive CancelTestEvent
  | runtime (event : NodeEvent)
  /-- The line that the feedback callback prints, with the goal it is called for. -/
  | feedback (g : ℕ) (step : ℤ)
  /-- A line on `std::cerr`. -/
  | error (line : String)
  | result (code : ResultCode) (success : Bool) (message : String) (feedbackCount : ℕ)
  deriving DecidableEq

namespace NodeEvent

/-- The feedback that is published. -/
def feedback? : NodeEvent → Option (ℕ × ℤ)
  | feedback g step => some (g, step)
  | _ => none

/-- The result that is set. -/
def result? : NodeEvent → Option (ℕ × TaskEnd)
  | terminal g result => some (g, result)
  | _ => none

end NodeEvent

namespace CancelTestEvent

/-- The event as the runtime shows it. -/
def runtime? : CancelTestEvent → Option NodeEvent
  | runtime event => some event
  | _ => none

/-- The feedback that is published. -/
def sent? : CancelTestEvent → Option (ℕ × ℤ)
  | runtime event => event.feedback?
  | _ => none

/-- The feedback that the client has counted. -/
def received? : CancelTestEvent → Option (ℕ × ℤ)
  | feedback g step => some (g, step)
  | _ => none

end CancelTestEvent

/-- The goal of the test. -/
def cancelTestGoal : ExecuteTaskGoal := ⟨30, by decide⟩

/-- The callback of the runtime for a request. -/
def ActionRequest.act : ActionRequest → NodeAct
  | goal request => .goal request
  | cancel g => .cancel g

/-- The reply to a request that an event of the runtime carries. -/
def ActionRequest.replyOf (runtime : RuntimeProcess) :
    ActionRequest → NodeEvent → Option ActionReply
  | goal _, .goalResponse _ accepted =>
      some (.goal (if accepted then some runtime.goals.length else none))
  | cancel g, .cancelResponse _ =>
      some (.cancel (runtime.goals[g]?.any fun h => h.terminal.isNone))
  | _, _ => none

/-- `passed`. -/
def TaskEnd.passes (result : TaskEnd) (feedbackCount : ℕ) : Bool :=
  decide (result.code = .canceled) && !result.success &&
    decide ("task canceled at step".toList <:+: result.message.toList) &&
    decide (0 < feedbackCount)

namespace CancelTest

/-- The client prints an error and returns 1. -/
def fail (s : CancelTest) (line : String) : Option (CancelTest × List CancelTestEvent) :=
  some ({ s with client := { s.client with point := .returned 1 } }, [.error line])

/-- The reply to the request that the runtime works on. -/
def answer (s : CancelTest) (out : List NodeEvent) : Option ActionReply :=
  s.serving.bind fun request => out.findSome? (request.replyOf s.runtime)

/-- The runtime has made a step: its feedback and its reply are in flight from then on. -/
def afterRuntime (s : CancelTest) (runtime : RuntimeProcess) (out : List NodeEvent) : CancelTest :=
  { s with
    runtime := runtime
    serving := if (s.answer out).isSome then none else s.serving
    reply := (s.answer out).or s.reply
    feedback := s.feedback ++ out.filterMap NodeEvent.feedback?
    results := s.results ++ out.filterMap NodeEvent.result? }

/-- A step of the runtime. -/
def stepRuntime (s : CancelTest) (act : NodeAct) : Option (CancelTest × List CancelTestEvent) :=
  (s.runtime.step act).map fun (runtime, out) =>
    (s.afterRuntime runtime out, out.map CancelTestEvent.runtime)

/-- A future completes. -/
def stepReply (s : CancelTest) : Option (CancelTest × List CancelTestEvent) :=
  match s.client.point, s.reply with
  | .waitingGoal, some (.goal (some g)) =>
      some ({ s with
        client := { s.client with goalHandle := some g, point := .collecting }
        reply := none }, [])
  | .waitingGoal, some (.goal none) => s.fail "cancel-test goal was rejected"
  | .waitingCancel, some (.cancel true) =>
      some ({ s with client := { s.client with point := .waitingResult }, reply := none }, [])
  | .waitingCancel, some (.cancel false) => s.fail "goal cancellation was not accepted"
  | _, _ => none

/-- The feedback callback is called for the goal of the client only, while `main` spins. -/
def stepFeedback (s : CancelTest) : Option (CancelTest × List CancelTestEvent) :=
  match s.client.point, s.feedback with
  | .starting, _ => none
  | .returned _, _ => none
  | _, [] => none
  | _, (g, step) :: rest =>
      if s.client.goalHandle = some g then
        some ({ s with
          client := { s.client with feedbackCount := nextCount s.client.feedbackCount }
          feedback := rest }, [.feedback g step])
      else some ({ s with feedback := rest }, [])

/-- The check of the result. -/
def stepResult (s : CancelTest) : Option (CancelTest × List CancelTestEvent) :=
  match s.client.point, s.client.goalHandle with
  | .waitingResult, some g =>
      (s.results.find? fun r => r.1 = g).map fun (_, result) =>
        ({ s with
            client := { s.client with
              point := .returned (if result.passes s.client.feedbackCount then 0 else 1) } },
          [.result result.code result.success result.message s.client.feedbackCount])
  | _, _ => none

/-- One step of the two parties. -/
def step (s : CancelTest) : CancelTestAct → Option (CancelTest × List CancelTestEvent)
  | .wait available =>
      if s.client.point = .starting then
        if available then
          some ({ s with
            client := { s.client with point := .waitingGoal }
            request := some (.goal cancelTestGoal) }, [])
        else s.fail "execute_task action server not available"
      else none
  | .deliver =>
      match s.request with
      | none => none
      | some request =>
          { s with request := none, serving := some request }.stepRuntime request.act
  | .refuse =>
      match s.request with
      | some (.cancel g) =>
          if (s.runtime.goals[g]?.any fun h => h.terminal.isSome) = true then
            some ({ s with request := none, reply := some (.cancel false) }, [])
          else none
      | _ => none
  | .runtime act => s.stepRuntime act
  | .reply => s.stepReply
  | .feedback => s.stepFeedback
  | .lose i => some ({ s with feedback := s.feedback.eraseIdx i }, [])
  | .deadline =>
      match s.client.point, s.client.goalHandle with
      | .collecting, some g =>
          some ({ s with
            client := { s.client with point := .waitingCancel }
            request := some (.cancel g) }, [])
      | _, _ => none
  | .result => s.stepResult
  | .timeout =>
      match s.client.point with
      | .waitingGoal => s.fail "timed out while sending goal"
      | .waitingCancel => s.fail "goal cancellation was not accepted"
      | .waitingResult => s.fail "timed out while waiting for canceled result"
      | _ => none

end CancelTest

/-- The client together with the runtime, both freshly started. -/
def cancelTest : System CancelTest CancelTestAct CancelTestEvent where
  init s := s = ⟨.start, ⟨.starting, none, 0⟩, none, none, none, [], []⟩
  step := CancelTest.step

/-- The transitions of the two parties. -/
abbrev CancelTestTransition := Transition CancelTest CancelTestAct CancelTestEvent

/-! ### The callback that serves a request -/

/-- The request that a point of the executor belongs to. -/
def ExecPoint.request : ExecPoint → Option ActionRequest
  | log _ _ _ next => next.request
  | update (.goal goal) => some (.goal goal)
  | goalState goal => some (.goal goal)
  | goalExchange goal => some (.goal goal)
  | goalStoreState goal => some (.goal goal)
  | goalStoreStep goal => some (.goal goal)
  | goalStart goal => some (.goal goal)
  | goalReturn goal _ => some (.goal goal)
  | cancelReturn g => some (.cancel g)
  | _ => none

/-- What a step of the runtime does while it serves a request. -/
inductive Serves (pre post : RuntimeProcess) : ActionRequest → List NodeEvent → Prop
  | goesOn {request out} (hpoint : post.executor.request = some request)
      (hout : ∀ e ∈ out, request.replyOf pre e = none) : Serves pre post request out
  | goal {goal accepted} (hgoals : post.goals =
      if accepted then pre.goals ++ [⟨goal, false, false, none⟩] else pre.goals) :
      Serves pre post (.goal goal) [.goalResponse goal accepted]
  | cancel {g} : Serves pre post (.cancel g) [.cancelResponse g]

section callback

variable {s s' : RuntimeProcess} {a : NodeAct} {request : ActionRequest} {out : List NodeEvent}

/-- What the state machine processes is no reply. -/
lemma replyOf_processed (source : EventSource) (event : RuntimeEvent) (r : RuntimeTransition) :
    ∀ e ∈ RuntimeNode.processed source event r, request.replyOf s e = none := by
  intro e he
  rcases RuntimeNode.of_mem_processed he with rfl | ⟨line, rfl⟩ <;> cases request <;> rfl

/-- What the sensors cause is no reply. -/
lemma replyOf_updateRuntimeState (n : RuntimeNode) (now : ℤ) :
    ∀ e ∈ (n.updateRuntimeState now).2, request.replyOf s e = none := by
  unfold RuntimeNode.updateRuntimeState
  split
  · intro e he
    cases List.mem_singleton.mp he
    cases request <;> rfl
  · exact replyOf_processed _ _ _

/-- A request that reaches the executor is served. -/
lemma request_of_deliver (h : s.step request.act = some (s', out)) :
    s'.executor.request = some request ∧ out = [] := by
  cases request with
  | goal goal =>
    simp only [ActionRequest.act, RuntimeProcess.step] at h
    split at h
    · cases h
      exact ⟨rfl, rfl⟩
    · cases h
  | cancel g =>
    simp only [ActionRequest.act, RuntimeProcess.step, RuntimeProcess.callback] at h
    split at h
    · split at h
      · cases h
        exact ⟨rfl, rfl⟩
      · cases h
    · cases h

/-- A step of the executor in a callback for a request. -/
lemma serves_of_stepExecutor {now : ℤ} (hpoint : s.executor.request = some request)
    (h : s.stepExecutor now = some (s', out)) : Serves s s' request out := by
  cases hx : s.executor with
  | log level event message next =>
    rw [hx] at hpoint
    simp only [RuntimeProcess.stepExecutor, hx] at h
    cases h
    exact .goesOn hpoint fun e he => by
      cases List.mem_singleton.mp he
      cases request <;> rfl
  | update caller =>
    rw [hx] at hpoint
    cases caller with
    | goal goal =>
      cases hpoint
      simp only [RuntimeProcess.stepExecutor, hx] at h
      cases h
      refine .goesOn ?_ (replyOf_updateRuntimeState _ _)
      simp only [UpdateCaller.next]
      split <;> rfl
    | queryStatus | heartbeat => cases hpoint
  | goalState goal =>
    rw [hx] at hpoint
    cases hpoint
    simp only [RuntimeProcess.stepExecutor, hx] at h
    cases h
    refine .goesOn ?_ (by simp)
    dsimp only
    split <;> rfl
  | goalExchange goal =>
    rw [hx] at hpoint
    cases hpoint
    simp only [RuntimeProcess.stepExecutor, hx] at h
    split at h <;> cases h <;> exact .goesOn rfl (by simp)
  | goalStoreState goal | goalStoreStep goal =>
    rw [hx] at hpoint
    cases hpoint
    simp only [RuntimeProcess.stepExecutor, hx] at h
    cases h
    exact .goesOn rfl (by simp)
  | goalStart goal =>
    rw [hx] at hpoint
    cases hpoint
    simp only [RuntimeProcess.stepExecutor, hx] at h
    cases h
    exact .goesOn rfl (replyOf_processed _ _ _)
  | goalReturn goal accepted =>
    rw [hx] at hpoint
    cases hpoint
    cases accepted <;> simp only [RuntimeProcess.stepExecutor, hx] at h <;> cases h <;>
      exact .goal rfl
  | cancelReturn g =>
    rw [hx] at hpoint
    cases hpoint
    simp only [RuntimeProcess.stepExecutor, hx] at h
    cases h
    exact .cancel
  | _ =>
    rw [hx] at hpoint
    cases hpoint

/-- A step of the runtime while it serves a request. -/
lemma serves_of_step (hpoint : s.executor.request = some request)
    (h : s.step a = some (s', out)) : Serves s s' request out := by
  have hbusy : s.executor ≠ .idle := by
    intro hidle
    rw [hidle] at hpoint
    cases hpoint
  cases a with
  | exec now => exact serves_of_stepExecutor hpoint h
  | task =>
    cases RuntimeProcess.moves_of_step h with
    | quiet ha => exact absurd rfl ha
    | taskPost => exact .goesOn hpoint (replyOf_processed _ _ _)
    | taskStoreStep | taskFeedback | taskIncrement | taskTerminal | taskRelease | taskLog =>
      refine .goesOn hpoint fun e he => ?_
      obtain rfl := List.mem_singleton.mp he
      cases request <;> rfl
    | _ => exact .goesOn hpoint (by simp)
  | shutdown =>
    cases h
    exact .goesOn hpoint (by simp)
  | _ =>
    simp only [RuntimeProcess.step, if_neg hbusy] at h
    cases h

/-- Changing handles but not their goals. -/
lemma map_goal_modify {goals : List GoalHandle} {g : ℕ} {f : GoalHandle → GoalHandle}
    (hf : ∀ h, (f h).goal = h.goal) :
    (goals.modify g f).map GoalHandle.goal = goals.map GoalHandle.goal := by
  refine List.ext_getElem? fun i => ?_
  rw [List.getElem?_map, List.getElem?_map, List.getElem?_modify]
  cases goals[i]? with
  | none => rfl
  | some h => by_cases hi : g = i <;> simp [hi, hf]

/-- The accepted goals stay, in their places. -/
lemma goals_prefix_of_step (h : s.step a = some (s', out)) :
    s.goals.map GoalHandle.goal <+: s'.goals.map GoalHandle.goal := by
  cases RuntimeProcess.moves_of_step h with
  | accept => simp
  | cancelReturn | spawn | taskTerminal =>
    refine ⟨[], ?_⟩
    rw [List.append_nil]
    exact Eq.symm (map_goal_modify (by intro _; rfl))
  | _ => exact List.prefix_rfl

end callback

/-! ### The cases of a step -/

namespace CancelTest

/-- Everything a step of the two parties can be. -/
inductive Moves (s : CancelTest) : CancelTestAct → CancelTest → List CancelTestEvent → Prop
  | send (hp : s.client.point = .starting) :
      Moves s (.wait true)
        { s with
          client := { s.client with point := .waitingGoal }
          request := some (.goal cancelTestGoal) } []
  | fail {a line} (ha : a = .wait false ∨ a = .reply ∨ a = .timeout) :
      Moves s a { s with client := { s.client with point := .returned 1 } } [.error line]
  | deliver {request runtime out} (hrequest : s.request = some request)
      (hstep : s.runtime.step request.act = some (runtime, out)) :
      Moves s .deliver
        ({ s with request := none, serving := some request }.afterRuntime runtime out)
        (out.map CancelTestEvent.runtime)
  | runtime {act runtime out} (hstep : s.runtime.step act = some (runtime, out)) :
      Moves s (.runtime act) (s.afterRuntime runtime out) (out.map CancelTestEvent.runtime)
  | refuse {g} (hrequest : s.request = some (.cancel g)) :
      Moves s .refuse { s with request := none, reply := some (.cancel false) } []
  | accepted {g} (hp : s.client.point = .waitingGoal) (hreply : s.reply = some (.goal (some g))) :
      Moves s .reply
        { s with
          client := { s.client with goalHandle := some g, point := .collecting }
          reply := none } []
  | canceling (hp : s.client.point = .waitingCancel) (hreply : s.reply = some (.cancel true)) :
      Moves s .reply
        { s with client := { s.client with point := .waitingResult }, reply := none } []
  | count {g step rest} (hp : ∀ code, s.client.point ≠ .returned code)
      (hfeedback : s.feedback = (g, step) :: rest) (hg : s.client.goalHandle = some g) :
      Moves s .feedback
        { s with
          client := { s.client with feedbackCount := nextCount s.client.feedbackCount }
          feedback := rest } [.feedback g step]
  | ignore {f rest} (hfeedback : s.feedback = f :: rest) :
      Moves s .feedback { s with feedback := rest } []
  | lose {i} : Moves s (.lose i) { s with feedback := s.feedback.eraseIdx i } []
  | deadline {g} (hp : s.client.point = .collecting) (hg : s.client.goalHandle = some g) :
      Moves s .deadline
        { s with
          client := { s.client with point := .waitingCancel }
          request := some (.cancel g) } []
  | result {g result} (hp : s.client.point = .waitingResult) (hg : s.client.goalHandle = some g)
      (hresult : (g, result) ∈ s.results) :
      Moves s .result
        { s with
          client := { s.client with
            point := .returned (if result.passes s.client.feedbackCount then 0 else 1) } }
        [.result result.code result.success result.message s.client.feedbackCount]

variable {s s' : CancelTest} {a : CancelTestAct} {out : List CancelTestEvent}

/-- The inversion of `fail`. -/
lemma moves_of_fail {line : String} (ha : a = .wait false ∨ a = .reply ∨ a = .timeout)
    (h : s.fail line = some (s', out)) : Moves s a s' out := by
  cases h
  exact .fail ha

/-- The inversion of `stepReply`. -/
lemma moves_of_stepReply (h : s.stepReply = some (s', out)) : Moves s .reply s' out := by
  unfold stepReply at h
  split at h
  · next g hp hreply =>
    cases h
    exact .accepted hp hreply
  · exact moves_of_fail (by simp) h
  · next hp hreply =>
    cases h
    exact .canceling hp hreply
  · exact moves_of_fail (by simp) h
  · cases h

/-- The inversion of `stepFeedback`. -/
lemma moves_of_stepFeedback (h : s.stepFeedback = some (s', out)) : Moves s .feedback s' out := by
  unfold stepFeedback at h
  split at h
  · cases h
  · cases h
  · cases h
  · next g step rest hfeedback _ hopen =>
    split at h
    · next hg =>
      cases h
      exact .count hopen hfeedback hg
    · cases h
      exact .ignore hfeedback

/-- The inversion of `stepResult`. -/
lemma moves_of_stepResult (h : s.stepResult = some (s', out)) : Moves s .result s' out := by
  unfold stepResult at h
  split at h
  · next g hp hg =>
    obtain ⟨⟨g', result⟩, hfind, heq⟩ := Option.map_eq_some_iff.mp h
    cases heq
    obtain rfl : g' = g := by simpa using List.find?_some hfind
    exact .result hp hg (List.mem_of_find?_eq_some hfind)
  · cases h

/-- Every enabled step is one of the listed moves. -/
theorem moves_of_step (h : s.step a = some (s', out)) : Moves s a s' out := by
  cases a with
  | wait available =>
    simp only [step] at h
    split at h
    · next hp =>
      split at h
      · next havailable =>
        subst havailable
        cases h
        exact .send hp
      · next hunavailable =>
        obtain rfl : available = false := by simpa using hunavailable
        exact moves_of_fail (by simp) h
    · cases h
  | deliver =>
    simp only [step] at h
    split at h
    · cases h
    · next request hrequest =>
      obtain ⟨⟨runtime, events⟩, hstep, heq⟩ := Option.map_eq_some_iff.mp h
      cases heq
      exact .deliver hrequest hstep
  | refuse =>
    simp only [step] at h
    split at h
    · next g hrequest =>
      split at h
      · cases h
        exact .refuse hrequest
      · cases h
    · cases h
  | runtime act =>
    obtain ⟨⟨runtime, events⟩, hstep, heq⟩ := Option.map_eq_some_iff.mp h
    cases heq
    exact .runtime hstep
  | reply => exact moves_of_stepReply h
  | feedback => exact moves_of_stepFeedback h
  | lose i =>
    cases h
    exact .lose
  | deadline =>
    simp only [step] at h
    split at h
    · next g hp hg =>
      cases h
      exact .deadline hp hg
    · cases h
  | result => exact moves_of_stepResult h
  | timeout =>
    simp only [step] at h
    split at h
    · exact moves_of_fail (by simp) h
    · exact moves_of_fail (by simp) h
    · exact moves_of_fail (by simp) h
    · cases h

/-! ### The runtime as a party -/

/-- What the runtime does in an action. -/
def runtimeAct (s : CancelTest) : CancelTestAct → Option NodeAct
  | .deliver => s.request.map ActionRequest.act
  | .runtime act => some act
  | _ => none

/-- What the runtime does in a transition. -/
def runtimePart (t : CancelTestTransition) : Option (Transition RuntimeProcess NodeAct NodeEvent) :=
  (t.pre.runtimeAct t.act).map fun act =>
    ⟨t.pre.runtime, act, t.post.runtime, t.out.filterMap CancelTestEvent.runtime?⟩

/-- Nothing that the runtime shows is lost. -/
@[simp] lemma filterMap_runtime (out : List NodeEvent) :
    (out.map CancelTestEvent.runtime).filterMap CancelTestEvent.runtime? = out := by
  rw [List.filterMap_map]
  exact List.filterMap_some

/-- The runtime makes the step that `runtimeAct` says, or none. -/
lemma Moves.runtime_step (h : Moves s a s' out) :
    (∃ act, s.runtimeAct a = some act ∧ s.runtime.step act =
        some (s'.runtime, out.filterMap CancelTestEvent.runtime?)) ∨
      (s.runtimeAct a = none ∧ s'.runtime = s.runtime ∧
        out.filterMap CancelTestEvent.runtime? = []) := by
  cases h with
  | @deliver request runtime out hrequest hstep =>
    refine .inl ⟨request.act, by simp [runtimeAct, hrequest], ?_⟩
    rw [filterMap_runtime]
    exact hstep
  | runtime hstep =>
    refine .inl ⟨_, rfl, ?_⟩
    rw [filterMap_runtime]
    exact hstep
  | fail ha => exact .inr ⟨by rcases ha with rfl | rfl | rfl <;> rfl, rfl, rfl⟩
  | _ => exact .inr ⟨rfl, rfl, rfl⟩

/-- The runtime is a party of the test. -/
lemma isParty_runtime : IsParty cancelTest runtimeSystem CancelTest.runtime runtimePart where
  init := by
    rintro s rfl
    rfl
  idle t hvalid hpart := by
    rcases (moves_of_step hvalid).runtime_step with ⟨act, hact, -⟩ | ⟨-, hsame, -⟩
    · simp [runtimePart, hact] at hpart
    · exact hsame
  move t u hvalid hpart := by
    rcases (moves_of_step hvalid).runtime_step with ⟨act, hact, hstep⟩ | ⟨hact, -, -⟩
    · simp only [runtimePart, hact, Option.map_some, Option.some.injEq] at hpart
      subst hpart
      exact ⟨rfl, rfl, hstep⟩
    · simp [runtimePart, hact] at hpart

/-- What the runtime makes visible in a run. -/
lemma observations_runtime {ts : List CancelTestTransition} (h : cancelTest.Run ts s) :
    observations (ts.filterMap runtimePart) =
      (observations ts).filterMap CancelTestEvent.runtime? := by
  refine h.observations_part fun t hvalid => ?_
  rcases (moves_of_step hvalid).runtime_step with ⟨act, hact, -⟩ | ⟨hact, -, hout⟩
  · simp [runtimePart, hact]
  · simp [runtimePart, hact, hout]

/-! ### Requests in service -/

/-- The executor is in the callback for the request in service. -/
def InService (s : CancelTest) : Prop :=
  ∀ request, s.serving = some request → s.runtime.executor.request = some request

/-- While a request is not answered it stays in service. -/
lemma serving_afterRuntime {runtime : RuntimeProcess} {events : List NodeEvent}
    {request : ActionRequest} (h : (s.afterRuntime runtime events).serving = some request) :
    s.serving = some request ∧ events.findSome? (request.replyOf s.runtime) = none := by
  simp only [afterRuntime] at h
  split at h
  · cases h
  · next hnone =>
    simp only [answer, h, Option.bind_some, Option.not_isSome_iff_eq_none] at hnone
    exact ⟨h, hnone⟩

/-- Every step keeps it there. -/
lemma InService.step (h : InService s) (hm : Moves s a s' out) : InService s' := by
  intro request hserving
  cases hm with
  | deliver hrequest hstep =>
    obtain ⟨hbefore, -⟩ := serving_afterRuntime hserving
    cases hbefore
    exact (request_of_deliver hstep).1
  | runtime hstep =>
    obtain ⟨hbefore, hnone⟩ := serving_afterRuntime hserving
    cases serves_of_step (h request hbefore) hstep with
    | goesOn hpoint => exact hpoint
    | goal => cases hnone
    | cancel => cases hnone
  | _ => exact h request hserving

/-! ### What holds in every state -/

/-- Goal `g` of the runtime is the goal of the test. -/
def HasGoal (s : CancelTest) (g : ℕ) : Prop :=
  (s.runtime.goals.map GoalHandle.goal)[g]? = some cancelTestGoal

/-- A request to cancel goal `g` has been accepted by `handleCancel`. -/
def Canceled (obs : List CancelTestEvent) (g : ℕ) : Prop := .runtime (.cancelResponse g) ∈ obs

/-- The result of goal `g` has been set. -/
def Terminated (obs : List CancelTestEvent) (g : ℕ) (result : TaskEnd) : Prop :=
  .runtime (.terminal g result) ∈ obs

/-- How `main` has come to its exit code: by an error that it has printed, or by the check of the
result. -/
def Outcome (obs : List CancelTestEvent) (client : CancelTestClient) (code : ℤ) : Prop :=
  (code = 1 ∧ ∃ line, .error line ∈ obs) ∨
    ∃ g result, client.goalHandle = some g ∧ Canceled obs g ∧ Terminated obs g result ∧
      .result result.code result.success result.message client.feedbackCount ∈ obs ∧
        code = if result.passes client.feedbackCount then 0 else 1

/-- Requests and replies are about the goal of the client, the counter counts the feedback received,
and all of it was for this goal. -/
structure Consistent (obs : List CancelTestEvent) (s : CancelTest) : Prop where
  goal : ∀ goal, s.request = some (.goal goal) ∨ s.serving = some (.goal goal) →
    goal = cancelTestGoal
  cancel : ∀ g, s.request = some (.cancel g) ∨ s.serving = some (.cancel g) →
    s.client.goalHandle = some g
  replied : ∀ g, s.reply = some (.goal (some g)) → s.HasGoal g
  canceling : s.reply = some (.cancel true) →
    ∃ g, s.client.goalHandle = some g ∧ Canceled obs g
  handle : ∀ g, s.client.goalHandle = some g → s.HasGoal g
  early : s.client.point = .starting ∨ s.client.point = .waitingGoal → s.client.goalHandle = none
  counted : s.client.feedbackCount =
    (obs.filterMap CancelTestEvent.received?).length % 2 ^ 64
  received : ∀ f ∈ obs.filterMap CancelTestEvent.received?, s.client.goalHandle = some f.1
  results : ∀ r ∈ s.results, Terminated obs r.1 r.2
  accepted : s.client.point = .waitingResult →
    ∃ g, s.client.goalHandle = some g ∧ Canceled obs g
  outcome : ∀ code, s.client.point = .returned code → Outcome obs s.client code

variable {obs : List CancelTestEvent}

/-- The runtime shows no received feedback. -/
lemma filterMap_received_runtime (out : List NodeEvent) :
    (out.map CancelTestEvent.runtime).filterMap CancelTestEvent.received? = [] := by
  rw [List.filterMap_map]
  exact List.filterMap_eq_nil_iff.mpr fun _ _ => rfl

/-- An outcome stays. -/
lemma Outcome.append {client : CancelTestClient} {code : ℤ} (h : Outcome obs client code)
    (out : List CancelTestEvent) : Outcome (obs ++ out) client code := by
  rcases h with ⟨hcode, line, hline⟩ | ⟨g, result, hg, hcanceled, hterminated, hresult, hcode⟩
  · exact .inl ⟨hcode, line, List.mem_append_left _ hline⟩
  · exact .inr ⟨g, result, hg, List.mem_append_left _ hcanceled,
      List.mem_append_left _ hterminated, List.mem_append_left _ hresult, hcode⟩

/-- What becomes visible without being feedback leaves both sides consistent. -/
lemma Consistent.append (h : Consistent obs s) {out : List CancelTestEvent}
    (hout : out.filterMap CancelTestEvent.received? = []) : Consistent (obs ++ out) s := by
  have hreceived : (obs ++ out).filterMap CancelTestEvent.received? =
      obs.filterMap CancelTestEvent.received? := by
    rw [List.filterMap_append, hout, List.append_nil]
  refine ⟨h.goal, h.cancel, h.replied, ?_, h.handle, h.early, ?_, ?_, ?_, ?_, ?_⟩
  · intro hreply
    obtain ⟨g, hg, hcanceled⟩ := h.canceling hreply
    exact ⟨g, hg, List.mem_append_left _ hcanceled⟩
  · rw [hreceived]
    exact h.counted
  · rw [hreceived]
    exact h.received
  · exact fun r hr => List.mem_append_left _ (h.results r hr)
  · intro hp
    obtain ⟨g, hg, hcanceled⟩ := h.accepted hp
    exact ⟨g, hg, List.mem_append_left _ hcanceled⟩
  · exact fun code hp => (h.outcome code hp).append _

/-- A step of the runtime. -/
lemma Consistent.afterRuntime (h : Consistent obs s) {runtime : RuntimeProcess}
    {events : List NodeEvent}
    (hgoals : s.runtime.goals.map GoalHandle.goal <+: runtime.goals.map GoalHandle.goal)
    (hserves : ∀ request, s.serving = some request →
      Serves s.runtime runtime request events) :
    Consistent (obs ++ events.map CancelTestEvent.runtime) (s.afterRuntime runtime events) := by
  have hkeep {g : ℕ} (hg : s.HasGoal g) : (s.afterRuntime runtime events).HasGoal g := by
    obtain ⟨rest, hrest⟩ := hgoals
    have hlt : g < (s.runtime.goals.map GoalHandle.goal).length :=
      (List.getElem?_eq_some_iff.mp hg).1
    show (runtime.goals.map GoalHandle.goal)[g]? = _
    rw [← hrest, List.getElem?_append_left hlt]
    exact hg
  have h' := h.append (filterMap_received_runtime events)
  -- the reply of this step, if there is one
  have hanswer {reply : ActionReply} (hreply : (s.afterRuntime runtime events).reply = some reply) :
      s.reply = some reply ∨ ∃ request, s.serving = some request ∧
        events.findSome? (request.replyOf s.runtime) = some reply := by
    rcases Option.or_eq_some_iff.mp hreply with hnow | ⟨-, hbefore⟩
    · obtain ⟨request, hrequest, hfind⟩ := Option.bind_eq_some_iff.mp hnow
      exact .inr ⟨request, hrequest, hfind⟩
    · exact .inl hbefore
  refine ⟨?_, ?_, ?_, ?_, fun g hg => hkeep (h.handle g hg), h.early, h'.counted, h'.received, ?_,
    h'.accepted, h'.outcome⟩
  · rintro goal (hrequest | hserving)
    · exact h.goal goal (.inl hrequest)
    · exact h.goal goal (.inr (serving_afterRuntime hserving).1)
  · rintro g (hrequest | hserving)
    · exact h.cancel g (.inl hrequest)
    · exact h.cancel g (.inr (serving_afterRuntime hserving).1)
  · intro g hreply
    rcases hanswer hreply with hbefore | ⟨request, hserving, hfind⟩
    · exact hkeep (h.replied g hbefore)
    · cases hserves request hserving with
      | goesOn hpoint hout =>
        rw [List.findSome?_eq_none_iff.mpr hout] at hfind
        cases hfind
      | @goal goal accepted hafter =>
        obtain rfl := h.goal goal (.inr hserving)
        cases accepted with
        | false => cases hfind
        | true =>
          cases hfind
          show (runtime.goals.map GoalHandle.goal)[_]? = _
          rw [hafter]
          simp
      | cancel => cases hfind
  · intro hreply
    rcases hanswer hreply with hbefore | ⟨request, hserving, hfind⟩
    · exact h'.canceling hbefore
    · cases hserves request hserving with
      | goesOn hpoint hout =>
        rw [List.findSome?_eq_none_iff.mpr hout] at hfind
        cases hfind
      | goal => cases hfind
      | @cancel g => exact ⟨g, h.cancel g (.inr hserving), by simp [Canceled]⟩
  · intro r hr
    rcases List.mem_append.mp hr with hr | hr
    · exact h'.results r hr
    · obtain ⟨e, he, hresult⟩ := List.mem_filterMap.mp hr
      cases e with
      | terminal g result =>
        cases hresult
        exact List.mem_append_right _ (List.mem_map_of_mem he)
      | _ => cases hresult

/-- Every step keeps both sides consistent. -/
lemma Consistent.step (h : Consistent obs s) (hservice : InService s) (hm : Moves s a s' out) :
    Consistent (obs ++ out) s' := by
  have hkeep {g : ℕ} (hg : Canceled obs g) : Canceled (obs ++ out) g :=
    List.mem_append_left _ hg
  cases hm with
  | send hp =>
    have hnone := h.early (.inl hp)
    rw [List.append_nil]
    refine ⟨?_, ?_, h.replied, h.canceling, h.handle, fun _ => hnone, h.counted, h.received,
      h.results, by simp, by simp⟩
    · rintro goal (hrequest | hserving)
      · cases hrequest
        rfl
      · exact h.goal goal (.inr hserving)
    · rintro g (hrequest | hserving)
      · cases hrequest
      · exact h.cancel g (.inr hserving)
  | @fail a line ha =>
    have h' := @Consistent.append s obs h [.error line] rfl
    refine ⟨h.goal, h.cancel, h.replied, h'.canceling, h.handle, by simp, h'.counted, h'.received,
      h'.results, by simp, ?_⟩
    intro code hcode
    cases hcode
    exact .inl ⟨rfl, line, by simp⟩
  | @deliver request runtime events hrequest hstep =>
    have hbefore : Consistent obs { s with request := none, serving := some request } := by
      refine ⟨?_, ?_, h.replied, h.canceling, h.handle, h.early, h.counted, h.received, h.results,
        h.accepted, h.outcome⟩
      · rintro goal (hnone | hserving)
        · cases hnone
        · cases hserving
          exact h.goal goal (.inl hrequest)
      · rintro g (hnone | hserving)
        · cases hnone
        · cases hserving
          exact h.cancel g (.inl hrequest)
    refine hbefore.afterRuntime (goals_prefix_of_step hstep) fun request' hserving => ?_
    cases hserving
    obtain ⟨hpoint, rfl⟩ := request_of_deliver hstep
    exact .goesOn hpoint (by simp)
  | runtime hstep =>
    exact h.afterRuntime (goals_prefix_of_step hstep) fun request hserving =>
      serves_of_step (hservice request hserving) hstep
  | refuse hrequest =>
    rw [List.append_nil]
    refine ⟨?_, ?_, by simp, by simp, h.handle, h.early, h.counted, h.received, h.results,
      h.accepted, h.outcome⟩
    · rintro goal (hnone | hserving)
      · cases hnone
      · exact h.goal goal (.inr hserving)
    · rintro g (hnone | hserving)
      · cases hnone
      · exact h.cancel g (.inr hserving)
  | @accepted g hp hreply =>
    have hnone := h.early (.inr hp)
    have hfresh : obs.filterMap CancelTestEvent.received? = [] := by
      refine List.eq_nil_iff_forall_not_mem.mpr fun f hf => ?_
      have hsome := h.received f hf
      rw [hnone] at hsome
      cases hsome
    rw [List.append_nil]
    refine ⟨h.goal, ?_, by simp, by simp, ?_, by simp, h.counted, ?_, h.results, by simp, by simp⟩
    · intro g' hasked
      have hsome := h.cancel g' hasked
      rw [hnone] at hsome
      cases hsome
    · intro g' hg'
      cases hg'
      exact h.replied g hreply
    · rw [hfresh]
      simp
  | canceling hp hreply =>
    rw [List.append_nil]
    exact ⟨h.goal, h.cancel, by simp, by simp, h.handle, by simp, h.counted, h.received, h.results,
      fun _ => h.canceling hreply, by simp⟩
  | @count g step rest hp hfeedback hg =>
    have hreceived : (obs ++ [CancelTestEvent.feedback g step]).filterMap
        CancelTestEvent.received? =
        obs.filterMap CancelTestEvent.received? ++ [(g, step)] := by
      rw [List.filterMap_append]
      rfl
    refine ⟨h.goal, h.cancel, h.replied, ?_, h.handle, h.early, ?_, ?_, ?_, ?_, ?_⟩
    · intro hreply
      obtain ⟨g', hg', hcanceled⟩ := h.canceling hreply
      exact ⟨g', hg', hkeep hcanceled⟩
    · rw [hreceived, List.length_append, List.length_singleton, nextCount, h.counted]
      exact Nat.mod_add_mod _ _ _
    · intro f hf
      rw [hreceived] at hf
      rcases List.mem_append.mp hf with hf | hf
      · exact h.received f hf
      · cases List.mem_singleton.mp hf
        exact hg
    · exact fun r hr => List.mem_append_left _ (h.results r hr)
    · intro hwaiting
      obtain ⟨g', hg', hcanceled⟩ := h.accepted hwaiting
      exact ⟨g', hg', hkeep hcanceled⟩
    · exact fun code hcode => absurd hcode (hp code)
  | ignore | lose =>
    rw [List.append_nil]
    exact ⟨h.goal, h.cancel, h.replied, h.canceling, h.handle, h.early, h.counted, h.received,
      h.results, h.accepted, h.outcome⟩
  | @deadline g hp hg =>
    rw [List.append_nil]
    refine ⟨?_, ?_, h.replied, h.canceling, h.handle, by simp, h.counted, h.received, h.results,
      by simp, by simp⟩
    · rintro goal (hrequest | hserving)
      · cases hrequest
      · exact h.goal goal (.inr hserving)
    · rintro g' (hrequest | hserving)
      · cases hrequest
        exact hg
      · exact h.cancel g' (.inr hserving)
  | @result g result hp hg hresult =>
    have h' := @Consistent.append s obs h
      [.result result.code result.success result.message s.client.feedbackCount] rfl
    refine ⟨h.goal, h.cancel, h.replied, h'.canceling, h.handle, by simp, h'.counted, h'.received,
      h'.results, by simp, ?_⟩
    intro code hcode
    obtain ⟨g', hg', hcanceled⟩ := h'.accepted hp
    rw [hg] at hg'
    cases hg'
    cases hcode
    exact .inr ⟨g, result, hg, hcanceled, h'.results _ hresult, by simp, rfl⟩

/-- The request in service in a run. -/
lemma inService_of_run {ts : List CancelTestTransition} (h : cancelTest.Run ts s) :
    InService s := by
  refine h.invariant ?_ fun s a s' out hI hstep => hI.step (moves_of_step hstep)
  rintro s rfl request hserving
  cases hserving

/-- Both sides are consistent in every run. -/
lemma consistent_of_run {ts : List CancelTestTransition} (h : cancelTest.Run ts s) :
    Consistent (observations ts) s := by
  refine h.invariant_history (I := fun ts s => Consistent (observations ts) s) ?_ ?_
  · rintro s rfl
    constructor <;> simp
  · intro ts s a s' out hrun ih hstep
    rw [observations_append, observations_singleton]
    exact ih.step (inService_of_run hrun) (moves_of_step hstep)

/-! ### Feedback -/

/-- The runtime sends the feedback that it shows. -/
lemma filterMap_sent_runtime (out : List NodeEvent) :
    (out.map CancelTestEvent.runtime).filterMap CancelTestEvent.sent? =
      out.filterMap NodeEvent.feedback? := by
  rw [List.filterMap_map]
  rfl

/-- Feedback may get lost but arrives in order. -/
lemma isLossy_feedback : IsLossy cancelTest CancelTest.feedback CancelTestEvent.sent?
    CancelTestEvent.received? where
  init := by
    rintro s rfl
    rfl
  step s a s' out hstep := by
    cases moves_of_step hstep with
    | deliver | runtime =>
      rw [filterMap_received_runtime, filterMap_sent_runtime]
      exact List.Sublist.refl _
    | count hp hfeedback => simp [hfeedback, CancelTestEvent.received?, CancelTestEvent.sent?]
    | ignore hfeedback => simp [hfeedback]
    | lose => simp [List.eraseIdx_sublist]
    | _ => simp [CancelTestEvent.received?, CancelTestEvent.sent?]

end CancelTest

/-- The feedback in a mark of goal `g`. -/
def TaskMark.step? (g : ℕ) : TaskMark → Option (ℕ × ℤ)
  | feedback step => some (g, step)
  | _ => none

/-- The feedback of the first `k` steps of goal `g`. -/
def stepsOf (g k : ℕ) : List (ℕ × ℤ) := (List.range k).map fun i : ℕ => (g, (i + 1 : ℤ))

/-- The feedback in the mark of an event. -/
lemma NodeEvent.step_mark (g : ℕ) (e : NodeEvent) :
    (e.mark g).bind (TaskMark.step? g) = e.feedback?.filter fun f => f.1 = g := by
  cases e with
  | feedback g' step | terminal g' result | released g' =>
    rcases eq_or_ne g' g with rfl | hne
    · simp [feedback?, mark, TaskMark.step?, Option.filter]
    · simp [feedback?, mark, hne, Option.filter]
  | processed source event r =>
    cases source with
    | executeTask g' =>
      rcases eq_or_ne g' g with rfl | hne
      · simp [feedback?, mark, TaskMark.step?]
      · simp [feedback?, mark, hne]
    | _ => rfl
  | _ => rfl

/-- The feedback of a goal can be read off its marks. -/
lemma filter_feedback (g : ℕ) (events : List NodeEvent) :
    (events.filterMap NodeEvent.feedback?).filter (fun f => f.1 = g) =
      (events.filterMap (NodeEvent.mark g)).filterMap (TaskMark.step? g) := by
  rw [List.filterMap_filterMap, List.filter_filterMap]
  exact List.filterMap_congr fun e _ => (e.step_mark g).symm

/-- The feedback in the marks of the first `k` steps. -/
lemma filterMap_step_feedbacks (g k : ℕ) :
    (feedbacks k).filterMap (TaskMark.step? g) = stepsOf g k := by
  rw [feedbacks, List.filterMap_map, stepsOf]
  exact congrFun List.filterMap_eq_map _

/-- `passed` is about canceled tasks with feedback. -/
lemma TaskEnd.passes_iff {result : TaskEnd} {feedbackCount : ℕ} :
    result.passes feedbackCount = true ↔ (∃ step, result = .canceled step) ∧ 0 < feedbackCount := by
  cases result with
  | succeeded | failed =>
    simp only [passes, code, reduceCtorEq, decide_false, Bool.false_and, Bool.false_eq_true,
      exists_false, false_and]
  | canceled step =>
    have hmessage : (TaskEnd.canceled step).message.toList =
        "task canceled at step ".toList ++ (toString step).toList := String.toList_append
    have hpre : "task canceled at step".toList <+: "task canceled at step ".toList := by decide
    have hfound : "task canceled at step".toList <:+: (TaskEnd.canceled step).message.toList := by
      rw [hmessage]
      exact (hpre.trans (List.prefix_append _ _)).isInfix
    simp only [passes, code, success, hfound, decide_true, Bool.not_false, Bool.true_and,
      decide_eq_true_eq, TaskEnd.canceled.injEq, exists_eq', true_and]

namespace CancelTest

variable {s : CancelTest} {ts : List CancelTestTransition}

/-- What the client has reported about goal `g`, which has made `k` steps and ended with
`result`. -/
structure Reports (ts : List CancelTestTransition) (code : ℤ) (g k : ℕ) (result : TaskEnd) :
    Prop where
  canceled : Canceled (observations ts) g
  printed : .result result.code result.success result.message
    ((observations ts).filterMap CancelTestEvent.received?).length ∈ observations ts
  steps : k ≤ 30
  ends : result.Ends 30 k
  marks : ∃ rest, marks g (ts.filterMap runtimePart) = feedbacks k ++ .terminal result :: rest
  received : ((observations ts).filterMap CancelTestEvent.received?).Sublist (stepsOf g k)
  code : code = if result = .canceled k ∧
    (observations ts).filterMap CancelTestEvent.received? ≠ [] then 0 else 1

/-- The terminal call in the marks of a goal, which is followed by no feedback. -/
lemma terminal_eq {g k : ℕ} {ms rest : List TaskMark} {result result' : TaskEnd}
    (hms : ms = feedbacks k ++ .terminal result' :: rest)
    (hrest : rest <+: [.released, .posted result'.event]) (hmem : .terminal result ∈ ms) :
    result' = result ∧ (TaskMark.terminal result' :: rest).filterMap (TaskMark.step? g) = [] := by
  have hquiet : ∀ m ∈ rest, m = .released ∨ m = .posted result'.event := fun m hm => by
    simpa using hrest.subset hm
  constructor
  · rw [hms] at hmem
    rcases List.mem_append.mp hmem with hfeedback | hterminal
    · obtain ⟨i, -, hi⟩ := List.mem_map.mp hfeedback
      cases hi
    · rcases List.mem_cons.mp hterminal with heq | hin
      · cases heq
        rfl
      · rcases hquiet _ hin with heq | heq <;> cases heq
  · refine List.filterMap_eq_nil_iff.mpr fun m hm => ?_
    rcases List.mem_cons.mp hm with rfl | hin
    · rfl
    · rcases hquiet m hin with rfl | rfl <;> rfl

/-- The feedback received is that of the first steps of the client's goal, in order. -/
lemma received_sublist (h : cancelTest.Run ts s) {g k : ℕ} {rest : List TaskMark}
    (hg : s.client.goalHandle = some g)
    (hmarks : marks g (ts.filterMap runtimePart) = feedbacks k ++ rest)
    (hrest : rest.filterMap (TaskMark.step? g) = []) :
    ((observations ts).filterMap CancelTestEvent.received?).Sublist (stepsOf g k) := by
  have hown : ((observations ts).filterMap CancelTestEvent.received?).filter (fun f => f.1 = g) =
      (observations ts).filterMap CancelTestEvent.received? := by
    refine List.filter_eq_self.mpr fun f hf => ?_
    have hf' := (consistent_of_run h).received f hf
    rw [hg] at hf'
    simpa using (Option.some.inj hf').symm
  have hsent : (observations ts).filterMap CancelTestEvent.sent? =
      (observations (ts.filterMap runtimePart)).filterMap NodeEvent.feedback? := by
    rw [observations_runtime h, List.filterMap_filterMap]
    refine List.filterMap_congr fun e _ => ?_
    cases e <;> rfl
  have hsub := (isLossy_feedback.received_sublist h).filter fun f => decide (f.1 = g)
  rw [hown, hsent, filter_feedback] at hsub
  change List.Sublist _ ((marks g (ts.filterMap runtimePart)).filterMap _) at hsub
  rwa [hmarks, List.filterMap_append, hrest, List.append_nil, filterMap_step_feedbacks] at hsub

/-- **What the exit code of the cancel test says.**  When the client has returned in a run in which
no loop variable of a task overflows, it has printed an error and returns 1, or it has reported the
result of its goal: the cancel request was accepted, the goal has made `k` of its steps and ended
accordingly, the feedback counted is part of that of these steps, in order, and the client returns 0
exactly when the task was canceled and some feedback has arrived. -/
theorem cancelTest_exit (h : cancelTest.Run ts s)
    (hfits : ∀ t ∈ ts.filterMap runtimePart, RuntimeProcess.IncrementFits t) {code : ℤ}
    (hreturned : s.client.point = .returned code) :
    (code = 1 ∧ ∃ line, .error line ∈ observations ts) ∨
      ∃ g k result, Reports ts code g k result := by
  have hconsistent := consistent_of_run h
  rcases hconsistent.outcome code hreturned with herror |
    ⟨g, result, hg, hcanceled, hterminated, hprinted, hcode⟩
  · exact .inl herror
  · have hrun := isParty_runtime.run h
    obtain ⟨x, hx, hgoal⟩ : ∃ x, s.runtime.goals[g]? = some x ∧ x.goal = cancelTestGoal := by
      have hhandle := hconsistent.handle g hg
      rw [HasGoal, List.getElem?_map] at hhandle
      exact Option.map_eq_some_iff.mp hhandle
    have hmark : .terminal result ∈ SystemsDemos.marks g (ts.filterMap runtimePart) := by
      rw [SystemsDemos.marks, observations_runtime h]
      refine List.mem_filterMap.mpr ⟨.terminal g result, ?_, by simp [NodeEvent.mark]⟩
      exact List.mem_filterMap.mpr ⟨_, hterminated, rfl⟩
    rcases (runtime_taskLedger hrun hfits).of_goal hx with hnil | ⟨p, k, hk, htraces, -⟩
    · rw [hnil] at hmark
      cases hmark
    · rcases htraces.shape with hmarks | ⟨result', rest, hends, hrest, hmarks⟩
      · rw [hmarks] at hmark
        obtain ⟨i, -, hi⟩ := List.mem_map.mp hmark
        cases hi
      · obtain ⟨rfl, hquiet⟩ := terminal_eq hmarks hrest hmark
        have hsub := received_sublist h hg hmarks hquiet
        rw [hgoal] at hk hends
        have hsteps : k ≤ 30 := Int.ofNat_le.mp hk
        have hlength := hsub.length_le
        rw [stepsOf, List.length_map, List.length_range] at hlength
        have hcount : s.client.feedbackCount =
            ((observations ts).filterMap CancelTestEvent.received?).length := by
          rw [hconsistent.counted]
          exact Nat.mod_eq_of_lt (by omega)
        rw [hcount] at hprinted hcode
        refine .inr ⟨g, k, result', hcanceled, hprinted, hsteps, hends, ⟨rest, hmarks⟩, hsub, ?_⟩
        rw [hcode]
        refine if_congr ?_ rfl rfl
        rw [TaskEnd.passes_iff, List.length_pos_iff]
        refine and_congr_left fun _ => ⟨?_, fun heq => ⟨k, heq⟩⟩
        rintro ⟨step, rfl⟩
        rw [show step = k from hends]

/-- The runtime makes some steps. -/
def runtimeActs (acts : List NodeAct) : List CancelTestAct := acts.map .runtime

/-- Two steps of the task, of whose feedback the second gets lost. -/
def twoStepsCanceled : List CancelTestAct :=
  runtimeActs [.imu 0 "imu", .exec 0, .jointState 0 1 1 1, .exec 0] ++ [.wait true, .deliver] ++
    runtimeActs (List.replicate 8 (.exec 0) ++ [.accepted 0, .exec 0]) ++
    runtimeActs (List.replicate 5 .task) ++ [.reply, .feedback] ++
    runtimeActs (List.replicate 5 .task) ++ [.lose 0, .deadline, .deliver] ++
    runtimeActs [.exec 0, .exec 0] ++ [.reply] ++ runtimeActs (List.replicate 4 .task) ++ [.result]

/-- The client returns 0. -/
theorem cancelTest_exit_twoStepsCanceled :
    ∃ ts s, cancelTest.Run ts s ∧ s.client.point = .returned 0 ∧
      ∃ g k result, Reports ts 0 g k result := by
  obtain ⟨ts, s, hrun, hreturned, hfits⟩ := cancelTest.exists_run twoStepsCanceled
    (fun ts s => s.client.point = .returned 0 ∧
      ∀ t ∈ ts.filterMap runtimePart, RuntimeProcess.IncrementFits t)
    rfl (by decide +kernel)
  refine ⟨ts, s, hrun, hreturned, ?_⟩
  rcases cancelTest_exit hrun hfits hreturned with ⟨hcode, -⟩ | hreports
  · cases hcode
  · exact hreports

end CancelTest

end SystemsDemos
