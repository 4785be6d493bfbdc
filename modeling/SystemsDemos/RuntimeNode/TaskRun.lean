import SystemsDemos.RuntimeNode.CurrentStep
import SystemsDemos.RuntimeNode.FaultStop
import SystemsDemos.Transition.History

/-!
# The run of a task

What one accepted goal makes visible: the feedback of the steps `1` to `k`, then at most one
terminal call, then the release of `task_active_` and the matching event, and nothing else.  The
marks of a goal are kept beside the state, and every point of the task thread determines them up to
`k` (`TaskPoint.Traces`); a goal that has no thread yet has no marks, and one whose thread has been
replaced has all of them.  The loop variable must not overflow.

### Outline

* `TaskMark`, `marks` and `TaskLedger`;
* what a step adds to the marks, and that every step keeps the ledger;
* `ExecutesTask` and `runtime_executes_task`.
-/

namespace SystemsDemos

/-- What a goal makes visible. -/
inductive TaskMark
  | feedback (step : ℤ)
  | terminal (result : TaskEnd)
  /-- `task_active_.store(false)`. -/
  | released
  | posted (event : RuntimeEvent)
  deriving DecidableEq

/-- What an event says about goal `g`. -/
def NodeEvent.mark (g : ℕ) : NodeEvent → Option TaskMark
  | .feedback g' step => if g' = g then some (.feedback step) else none
  | .terminal g' result => if g' = g then some (.terminal result) else none
  | .released g' => if g' = g then some .released else none
  | .processed (.executeTask g') event _ => if g' = g then some (.posted event) else none
  | _ => none

/-- The marks of goal `g` in a run. -/
def marks (g : ℕ) (ts : List NodeTransition) : List TaskMark :=
  (observations ts).filterMap (NodeEvent.mark g)

/-- The feedback of the first `k` steps. -/
def feedbacks (k : ℕ) : List TaskMark := (List.range k).map fun i : ℕ => .feedback (i + 1)

/-- How a task with `k` completed steps of `target` can end. -/
def TaskEnd.Ends (target : ℤ) (k : ℕ) : TaskEnd → Prop
  | succeeded => k = target
  | canceled step => step = k
  | failed => True

/-- The marks that belong to a point of the task thread after `k` steps. -/
def TaskPoint.Traces (target : ℤ) (ms : List TaskMark) (k : ℕ) : TaskPoint → Prop
  | loop step => step = k + 1 ∧ ms = feedbacks k
  | checkOk step | storeStep step | feedback step | cancelStep step =>
      step = k + 1 ∧ k + 1 ≤ target ∧ ms = feedbacks k
  | logFeedback step => step = k ∧ ms = feedbacks k
  | storeState result | terminal result => result.Ends target k ∧ ms = feedbacks k
  | release result => result.Ends target k ∧ ms = feedbacks k ++ [.terminal result]
  | post result => result.Ends target k ∧ ms = feedbacks k ++ [.terminal result, .released]
  | logResult result =>
      result.Ends target k ∧
        ms = feedbacks k ++ [.terminal result, .released, .posted result.event]
  | returned =>
      ∃ result, result.Ends target k ∧
        ms = feedbacks k ++ [.terminal result, .released, .posted result.event]

/-- The marks of a goal whose thread has returned. -/
def Finished (target : ℤ) (ms : List TaskMark) : Prop :=
  ∃ k : ℕ, (k : ℤ) ≤ target ∧ TaskPoint.returned.Traces target ms k

/-- The point belongs to a task that has found its goal canceled and has not made its terminal
call. -/
def TaskPoint.cancels : TaskPoint → Bool
  | cancelStep _ => true
  | storeState (.canceled _) | terminal (.canceled _) => true
  | _ => false

/-! ### Marks -/

@[simp] lemma marks_nil (g : ℕ) : marks g [] = [] := rfl

@[simp] lemma marks_snoc (g : ℕ) (ts : List NodeTransition) (t : NodeTransition) :
    marks g (ts ++ [t]) = marks g ts ++ t.out.filterMap (NodeEvent.mark g) := by
  simp [marks]

lemma feedbacks_succ (k : ℕ) : feedbacks (k + 1) = feedbacks k ++ [.feedback (k + 1)] := by
  simp [feedbacks, List.range_succ]

/-- A report says nothing about a goal. -/
private lemma mark_of_isReport {e : NodeEvent} (h : e.isReport = true) (g : ℕ) :
    e.mark g = none := by
  cases e <;> first | rfl | cases h

/-- A processed event counts for the goal of its task thread, if it has one. -/
private lemma filterMap_processed (g : ℕ) (source : EventSource) (event : RuntimeEvent)
    (r : RuntimeTransition) :
    (RuntimeNode.processed source event r).filterMap (NodeEvent.mark g) =
      if source = .executeTask g then [.posted event] else [] := by
  have hlog {l : List NodeEvent} (hl : ∀ e ∈ l, ∃ line, e = .log line) :
      l.filterMap (NodeEvent.mark g) = [] := by
    refine List.filterMap_eq_nil_iff.mpr fun e he => ?_
    obtain ⟨line, rfl⟩ := hl e he
    rfl
  unfold RuntimeNode.processed
  rw [List.filterMap_cons, hlog fun e he => ?_]
  · cases source with
    | executeTask g' =>
      by_cases hg : g' = g
      · simp [NodeEvent.mark, hg]
      · simp [NodeEvent.mark, hg]
    | _ => simp [NodeEvent.mark]
  · split at he
    · exact ⟨_, List.mem_singleton.mp he⟩
    · cases he

namespace RuntimeProcess

variable {s s' : RuntimeProcess} {a : NodeAct} {out : List NodeEvent} {ts : List NodeTransition}

/-- Only the task thread adds marks, and only to its own goal. -/
lemma Moves.marks_eq_nil (hm : Moves s a s' out) {g : ℕ}
    (hg : a = .task → ∀ t, s.taskThread = some t → t.g ≠ g) :
    out.filterMap (NodeEvent.mark g) = [] := by
  cases hm with
  | quiet ha hstage hspawn hout =>
    exact List.filterMap_eq_nil_iff.mpr fun e he => mark_of_isReport (hout e he) g
  | sense | startTask => rw [filterMap_processed]; rfl
  | operate hx hnext hspawn hsource =>
    rw [filterMap_processed, if_neg]
    rintro rfl
    rcases hsource with ⟨hsource, -⟩ | hsource <;> cases hsource
  | taskFeedback ht | taskTerminal ht | taskRelease ht =>
    simp [NodeEvent.mark, hg rfl _ ht]
  | taskPost ht =>
    rw [filterMap_processed, if_neg fun h => hg rfl _ ht (EventSource.executeTask.inj h)]
  | _ => rfl

/-! ### The ledger -/

/-- The marks of all goals.  A goal without a thread has none, the thread determines those of its
goal, and a goal whose thread has been replaced has all of them; a goal that is being canceled has
had its cancel request accepted, and from the store of the last step to the terminal call of a
canceled task `task_current_step_` keeps its value. -/
structure TaskLedger (ts : List NodeTransition) (s : RuntimeProcess) : Prop where
  waiting : ∀ g, (∀ h, s.goals[g]? = some h → h.spawned = false) → marks g ts = []
  finished : ∀ g h, s.goals[g]? = some h → h.spawned = true →
    (∀ t, s.taskThread = some t → t.g ≠ g) → Finished h.goal.targetSteps (marks g ts)
  thread : ∀ t, s.taskThread = some t →
    (∃ h, s.goals[t.g]? = some h ∧ h.spawned = true ∧ h.goal = t.goal) ∧
      ∃ k : ℕ, (k : ℤ) ≤ t.goal.targetSteps ∧
        t.point.Traces t.goal.targetSteps (marks t.g ts) k
  canceling : ∀ g, s.isCanceling g = true → .cancelResponse g ∈ observations ts
  canceled : ∀ t, s.taskThread = some t → t.point.cancels = true → s.isCanceling t.g = true
  stored : ∀ t n, s.taskThread = some t →
    t.point = .storeState (.canceled n) ∨ t.point = .terminal (.canceled n) →
      s.node.task.taskCurrentStep = n

/-- Between the two lists no goal has got a thread and none has changed; new goals have no
thread. -/
structure GoalsKept (goals goals' : List GoalHandle) : Prop where
  old : ∀ (g : ℕ) (y : GoalHandle), goals[g]? = some y →
    ∃ x, goals'[g]? = some x ∧ x.spawned = y.spawned ∧ x.goal = y.goal
  new : ∀ (g : ℕ) (x : GoalHandle), goals'[g]? = some x →
    (∃ y, goals[g]? = some y ∧ x.spawned = y.spawned ∧ x.goal = y.goal) ∨
      (goals[g]? = none ∧ x.spawned = false)

/-- Whether a goal is being canceled, after a change of a goal handle. -/
lemma any_modify (goals : List GoalHandle) (g i : ℕ) (f : GoalHandle → GoalHandle) :
    (goals.modify g f)[i]?.any GoalHandle.canceling =
      goals[i]?.any fun x => (if g = i then f x else x).canceling := by
  rw [List.getElem?_modify]
  cases goals[i]? <;> rfl

/-- Whether a goal is being canceled, after another goal has been accepted. -/
lemma any_concat (goals : List GoalHandle) (g : ℕ) {x : GoalHandle}
    (hx : x.canceling = false) :
    (goals ++ [x])[g]?.any GoalHandle.canceling = goals[g]?.any GoalHandle.canceling := by
  rcases Nat.lt_or_ge g goals.length with hlt | hge
  · rw [List.getElem?_append_left hlt]
  · rw [List.getElem?_append_right hge, List.getElem?_eq_none hge]
    cases hnew : [x][g - goals.length]? with
    | none => rfl
    | some y =>
      obtain rfl := List.mem_singleton.mp (List.mem_of_getElem? hnew)
      exact hx

namespace GoalsKept

lemma refl (goals : List GoalHandle) : GoalsKept goals goals where
  old _ y hy := ⟨y, hy, rfl, rfl⟩
  new _ x hx := .inl ⟨x, hx, rfl, rfl⟩

/-- Accepting a goal. -/
lemma concat (goals : List GoalHandle) {h : GoalHandle} (hspawned : h.spawned = false) :
    GoalsKept goals (goals ++ [h]) where
  old g y hy := by
    refine ⟨y, ?_, rfl, rfl⟩
    rw [List.getElem?_append_left (List.getElem?_eq_some_iff.mp hy).1]
    exact hy
  new g x hx := by
    rcases Nat.lt_or_ge g goals.length with hlt | hge
    · rw [List.getElem?_append_left hlt] at hx
      exact .inl ⟨x, hx, rfl, rfl⟩
    · rw [List.getElem?_append_right hge] at hx
      obtain rfl := List.mem_singleton.mp (List.mem_of_getElem? hx)
      exact .inr ⟨List.getElem?_eq_none hge, hspawned⟩

/-- Changing a goal handle, but not its goal or whether it has a thread. -/
lemma modify (goals : List GoalHandle) (g : ℕ) {f : GoalHandle → GoalHandle}
    (hf : ∀ x, (f x).spawned = x.spawned ∧ (f x).goal = x.goal) :
    GoalsKept goals (goals.modify g f) := by
  have hkeep (i : ℕ) (y : GoalHandle) :
      (if g = i then f y else y).spawned = y.spawned ∧
        (if g = i then f y else y).goal = y.goal := by
    split
    · exact hf y
    · exact ⟨rfl, rfl⟩
  constructor
  · intro i y hy
    exact ⟨_, by rw [List.getElem?_modify, hy]; rfl, hkeep i y⟩
  · intro i x hx
    rw [List.getElem?_modify] at hx
    obtain ⟨y, hy, rfl⟩ := Option.map_eq_some_iff.mp hx
    exact .inl ⟨y, hy, hkeep i y⟩

end GoalsKept

namespace TaskLedger

/-- Every step but the start of a thread: the marks of other goals than that of the task thread stay
the same, and those of its goal follow its point. -/
private lemma snoc (h : TaskLedger ts s) (hgoals : GoalsKept s.goals s'.goals)
    (hother : ∀ g, (∀ t, s.taskThread = some t → t.g ≠ g) →
      out.filterMap (NodeEvent.mark g) = [])
    (hthread : ∀ t, s.taskThread = some t → ∃ p, s'.taskThread = some { t with point := p } ∧
      ∀ k : ℕ, (k : ℤ) ≤ t.goal.targetSteps →
        t.point.Traces t.goal.targetSteps (marks t.g ts) k →
          ∃ k' : ℕ, (k' : ℤ) ≤ t.goal.targetSteps ∧ p.Traces t.goal.targetSteps
            (marks t.g ts ++ out.filterMap (NodeEvent.mark t.g)) k')
    (hthread' : s.taskThread = none → s'.taskThread = none)
    (hcanceling : ∀ g, s'.isCanceling g = true →
      s.isCanceling g = true ∨ .cancelResponse g ∈ out)
    (hcanceled : ∀ t, s'.taskThread = some t → t.point.cancels = true →
      s'.isCanceling t.g = true)
    (hstored : ∀ t n, s'.taskThread = some t →
      t.point = .storeState (.canceled n) ∨ t.point = .terminal (.canceled n) →
        s'.node.task.taskCurrentStep = n) :
    TaskLedger (ts ++ [⟨s, a, s', out⟩]) s' where
  waiting := by
    intro g hg
    have hwait : ∀ y, s.goals[g]? = some y → y.spawned = false := by
      intro y hy
      obtain ⟨x, hx, hsame, -⟩ := hgoals.old g y hy
      rw [← hsame]
      exact hg x hx
    rw [marks_snoc, hother g fun t ht htg => ?_, List.append_nil]
    · exact h.waiting g hwait
    · subst htg
      obtain ⟨⟨x, hx, hspawned, -⟩, -⟩ := h.thread t ht
      rw [hwait x hx] at hspawned
      cases hspawned
  finished := by
    intro g x hx hspawned hnone
    have hold : ∀ t, s.taskThread = some t → t.g ≠ g := by
      intro t ht
      obtain ⟨p, hp, -⟩ := hthread t ht
      exact hnone { t with point := p } hp
    rcases hgoals.new g x hx with ⟨y, hy, hyspawned, hygoal⟩ | ⟨-, hno⟩
    · rw [marks_snoc, hother g hold, List.append_nil, hygoal]
      exact h.finished g y hy (hyspawned ▸ hspawned) hold
    · rw [hno] at hspawned
      cases hspawned
  thread := by
    intro u hu
    cases ht : s.taskThread with
    | none =>
      rw [hthread' ht] at hu
      cases hu
    | some t =>
      obtain ⟨p, hp, hpoint⟩ := hthread t ht
      rw [hp] at hu
      obtain rfl := Option.some.inj hu
      obtain ⟨⟨y, hy, hyspawned, hygoal⟩, k, hk, htraces⟩ := h.thread t ht
      obtain ⟨x, hx, hxspawned, hxgoal⟩ := hgoals.old t.g y hy
      refine ⟨⟨x, hx, hxspawned.trans hyspawned, hxgoal.trans hygoal⟩, ?_⟩
      rw [marks_snoc]
      exact hpoint k hk htraces
  canceling := by
    intro g hg
    rw [observations_append, observations_singleton]
    rcases hcanceling g hg with hold | hnew
    · exact List.mem_append_left _ (h.canceling g hold)
    · exact List.mem_append_right _ hnew
  canceled := hcanceled
  stored := hstored

/-- A step of another party than the task thread. -/
private lemma of_executor (h : TaskLedger ts s)
    (hout : ∀ g, out.filterMap (NodeEvent.mark g) = []) (hgoals : GoalsKept s.goals s'.goals)
    (hthread : s'.taskThread = s.taskThread)
    (hcanceling : ∀ g, s'.isCanceling g = true →
      s.isCanceling g = true ∨ .cancelResponse g ∈ out)
    (hstill : ∀ g, s.isCanceling g = true → s'.isCanceling g = true)
    (hcurrent : s'.node.task.taskCurrentStep = s.node.task.taskCurrentStep ∨
      Released s.taskThread) : TaskLedger (ts ++ [⟨s, a, s', out⟩]) s' := by
  refine h.snoc hgoals (fun g _ => hout g) (fun t ht => ⟨t.point, hthread.trans ht, ?_⟩)
    (fun hnone => hthread.trans hnone) hcanceling ?_ ?_
  · intro k hk htraces
    rw [hout, List.append_nil]
    exact ⟨k, hk, htraces⟩
  · intro t ht hp
    exact hstill t.g (h.canceled t (hthread ▸ ht) hp)
  · intro t n ht hp
    rw [hthread] at ht
    rcases hcurrent with hcurrent | hreleased
    · exact hcurrent.trans (h.stored t n ht hp)
    · have hphase := hreleased t ht
      rcases hp with hp | hp <;> rw [hp] at hphase <;> cases hphase

/-- A step of the task thread. -/
private lemma of_task (h : TaskLedger ts s) (hm : Moves s .task s' out) {t : TaskThread}
    {before p : TaskPoint} (ht : s.taskThread = some t) (hbefore : t.point = before)
    (hthread : s'.taskThread = some { t with point := p })
    (hgoals : GoalsKept s.goals s'.goals) (hcanceling : ∀ g, s'.isCanceling g = s.isCanceling g)
    (hpoint : ∀ k : ℕ, (k : ℤ) ≤ t.goal.targetSteps →
      before.Traces t.goal.targetSteps (marks t.g ts) k →
        ∃ k' : ℕ, (k' : ℤ) ≤ t.goal.targetSteps ∧ p.Traces t.goal.targetSteps
          (marks t.g ts ++ out.filterMap (NodeEvent.mark t.g)) k')
    (hcanceled : p.cancels = true → s.isCanceling t.g = true)
    (hstored : ∀ n, p = .storeState (.canceled n) ∨ p = .terminal (.canceled n) →
      s'.node.task.taskCurrentStep = n) :
    TaskLedger (ts ++ [⟨s, .task, s', out⟩]) s' := by
  subst hbefore
  refine h.snoc hgoals (fun g hg => hm.marks_eq_nil fun _ => hg) ?_ ?_ ?_ ?_ ?_
  · intro u hu
    rw [ht] at hu
    obtain rfl := Option.some.inj hu
    exact ⟨p, hthread, hpoint⟩
  · intro hnone
    rw [ht] at hnone
    cases hnone
  · intro g hg
    exact .inl ((hcanceling g) ▸ hg)
  · intro u hu hp
    rw [hthread] at hu
    obtain rfl := Option.some.inj hu
    rw [hcanceling]
    exact hcanceled hp
  · intro u n hu hp
    rw [hthread] at hu
    obtain rfl := Option.some.inj hu
    exact hstored n hp

/-- A step of the task thread to a point that has nothing to do with a cancel. -/
private lemma of_point (h : TaskLedger ts s) (hm : Moves s .task s' out) {t : TaskThread}
    {before p : TaskPoint} (ht : s.taskThread = some t) (hbefore : t.point = before)
    (hthread : s'.taskThread = some { t with point := p }) (hp : p.cancels = false)
    (hgoals : s'.goals = s.goals)
    (hpoint : ∀ k : ℕ, (k : ℤ) ≤ t.goal.targetSteps →
      before.Traces t.goal.targetSteps (marks t.g ts) k →
        ∃ k' : ℕ, (k' : ℤ) ≤ t.goal.targetSteps ∧ p.Traces t.goal.targetSteps
          (marks t.g ts ++ out.filterMap (NodeEvent.mark t.g)) k') :
    TaskLedger (ts ++ [⟨s, .task, s', out⟩]) s' := by
  refine h.of_task hm ht hbefore hthread ?_ (fun g => ?_) hpoint (fun hc => ?_) (fun n hn => ?_)
  · rw [hgoals]
    exact .refl _
  · rw [isCanceling, isCanceling, hgoals]
  · rw [hp] at hc
    cases hc
  · rcases hn with rfl | rfl <;> cases hp

/-- Starting a thread: the goal has no marks yet, and the old thread has returned. -/
private lemma of_spawn (h : TaskLedger ts s) {g : ℕ} {x : GoalHandle}
    (hx : s.goals[g]? = some x) (hspawned : x.spawned = false)
    (hjoin : ∀ t, s.taskThread = some t → t.point = .returned) (hpos : 0 < x.goal.targetSteps)
    (hthread : s'.taskThread = some ⟨g, x.goal, .loop 1⟩)
    (hgoals : s'.goals = s.goals.modify g fun h => { h with spawned := true })
    (hout : ∀ g, out.filterMap (NodeEvent.mark g) = []) :
    TaskLedger (ts ++ [⟨s, a, s', out⟩]) s' := by
  have hmarks (i : ℕ) : marks i (ts ++ [⟨s, a, s', out⟩]) = marks i ts := by
    rw [marks_snoc, hout, List.append_nil]
  have hnone : marks g ts = [] := by
    refine h.waiting g fun y hy => ?_
    rw [hx] at hy
    obtain rfl := Option.some.inj hy
    exact hspawned
  have hself : s'.goals[g]? = some { x with spawned := true } := by
    rw [hgoals, List.getElem?_modify, hx]
    simp
  have hother {i : ℕ} (hi : i ≠ g) : s'.goals[i]? = s.goals[i]? := by
    rw [hgoals, List.getElem?_modify]
    simp [Ne.symm hi]
  constructor
  · intro i hi
    rw [hmarks]
    by_cases hig : i = g
    · rw [hig]
      exact hnone
    · exact h.waiting i fun y hy => hi y ((hother hig).trans hy)
  · intro i y hy hyspawned hnot
    have hig : i ≠ g := fun heq => hnot _ hthread heq.symm
    rw [hother hig] at hy
    rw [hmarks]
    cases ht : s.taskThread with
    | none =>
      refine h.finished i y hy hyspawned fun t ht' => ?_
      rw [ht] at ht'
      cases ht'
    | some t =>
      by_cases hti : t.g = i
      · obtain ⟨⟨z, hz, -, hzgoal⟩, k, hk, htraces⟩ := h.thread t ht
        rw [hti, hy] at hz
        obtain rfl := Option.some.inj hz
        rw [hjoin t ht, hti] at htraces
        rw [hzgoal]
        exact ⟨k, hk, htraces⟩
      · refine h.finished i y hy hyspawned fun u hu => ?_
        rw [ht] at hu
        obtain rfl := Option.some.inj hu
        exact hti
  · intro t ht
    rw [hthread] at ht
    obtain rfl := Option.some.inj ht
    refine ⟨⟨_, hself, rfl, rfl⟩, 0, Int.le_of_lt hpos, ?_⟩
    rw [hmarks]
    exact ⟨rfl, hnone⟩
  · intro i hi
    have hold : s.isCanceling i = true := by
      unfold isCanceling at hi ⊢
      by_cases hig : i = g
      · subst hig
        rw [hself] at hi
        rw [hx]
        exact hi
      · rw [hother hig] at hi
        exact hi
    rw [observations_append]
    exact List.mem_append_left _ (h.canceling i hold)
  · intro t ht hp
    rw [hthread] at ht
    obtain rfl := Option.some.inj ht
    cases hp
  · intro t n ht hp
    rw [hthread] at ht
    obtain rfl := Option.some.inj ht
    rcases hp with hp | hp <;> cases hp

end TaskLedger

/-- Every step that does not overflow keeps the ledger. -/
lemma Moves.taskLedger (hm : Moves s a s' out) (hg : GoalInvariant s) (hpos : PositiveTargets s)
    (hfits : IncrementFits ⟨s, a, s', out⟩) (h : TaskLedger ts s) :
    TaskLedger (ts ++ [⟨s, a, s', out⟩]) s' := by
  have hmoves := hm
  have hout (ha : a ≠ .task) (g : ℕ) : out.filterMap (NodeEvent.mark g) = [] :=
    hm.marks_eq_nil fun htask => absurd htask ha
  -- most steps of the executor change nothing that the ledger is about
  have hexec {node : RuntimeNode} {ok : Bool} {p : ExecPoint}
      (hnode : node.task.taskCurrentStep = s.node.task.taskCurrentStep ∨ Released s.taskThread)
      (ha : a ≠ .task) :
      TaskLedger (ts ++ [⟨s, a, { s with node := node, ok := ok, executor := p }, out⟩])
        { s with node := node, ok := ok, executor := p } :=
    h.of_executor (hout ha) (.refl _) rfl (fun _ hc => .inl hc) (fun _ hc => hc) hnode
  cases hm with
  | quiet ha => exact hexec (.inl rfl) ha
  | imu | jointState | reset | sense | operate | standby | exchange | storeRunning | startTask
  | shutdown => exact hexec (.inl rfl) (by simp)
  | storeZero hx =>
    have hadmits : s.executor.admits = true := by
      rw [hx]
      rfl
    exact hexec (.inr (hg.of_admits hadmits).2.2) (by simp)
  | accept hx =>
    refine h.of_executor (hout (by simp)) (.concat _ rfl) rfl (fun g hc => .inl ?_)
      (fun g hc => ?_) (.inl rfl)
    · exact (any_concat s.goals g rfl).symm.trans hc
    · exact (any_concat s.goals g rfl).trans hc
  | @cancelReturn now g₀ hx =>
    refine h.of_executor (hout (by simp)) (.modify _ _ fun _ => ⟨rfl, rfl⟩) rfl (fun g hc => ?_)
      (fun g hc => ?_) (.inl rfl)
    · by_cases hne : g₀ = g
      · rw [hne]
        exact .inr List.mem_cons_self
      · refine .inl ?_
        unfold isCanceling at hc ⊢
        rw [any_modify] at hc
        simpa only [if_neg hne] using hc
    · unfold isCanceling at hc ⊢
      obtain ⟨x, hx, hcx⟩ := (Option.any_eq_true _ _).mp hc
      rw [any_modify, hx, Option.any_some]
      split
      · exact Bool.or_eq_true_iff.mpr (.inl hcx)
      · exact hcx
  | spawn hx hgoal hjoin =>
    have hspawned := hg.unspawned _ _ (by rw [hx]; rfl) hgoal
    exact h.of_spawn hgoal hspawned hjoin (hpos.accepted _ (List.mem_of_getElem? hgoal)) rfl rfl
      (hout (by simp))
  | taskLoop ht hp hle hc =>
    refine h.of_point hmoves ht hp rfl rfl rfl ?_
    rintro k hk ⟨hstep, hmarks⟩
    exact ⟨k, hk, hstep, by omega, by simpa using hmarks⟩
  | taskCanceling ht hp hle hc =>
    refine h.of_task hmoves ht hp rfl (.refl _) (fun _ => rfl) (fun k hk htraces => ?_)
      (fun _ => hc) (by simp)
    obtain ⟨hstep, hmarks⟩ := htraces
    exact ⟨k, hk, hstep, by omega, by simpa using hmarks⟩
  | taskDone ht hp hlt =>
    refine h.of_point hmoves ht hp rfl rfl rfl ?_
    rintro k hk ⟨hstep, hmarks⟩
    exact ⟨k, hk, Int.le_antisymm hk (by omega), by simpa using hmarks⟩
  | taskOk ht hp hok =>
    refine h.of_point hmoves ht hp rfl rfl rfl fun k hk htraces => ?_
    exact ⟨k, hk, by simpa [TaskPoint.Traces] using htraces⟩
  | taskNotOk ht hp hok =>
    refine h.of_point hmoves ht hp rfl rfl rfl fun k hk htraces => ?_
    exact ⟨k, hk, trivial, by simpa using htraces.2.2⟩
  | taskStoreStep ht hp =>
    refine h.of_point hmoves ht hp rfl rfl rfl ?_
    rintro k hk ⟨hstep, hroom, hmarks⟩
    exact ⟨k, hk, hstep, hroom, (List.append_nil _).trans hmarks⟩
  | taskFeedback ht hp =>
    refine h.of_point hmoves ht hp rfl rfl rfl ?_
    rintro k hk ⟨hstep, hroom, hmarks⟩
    refine ⟨k + 1, by exact_mod_cast hroom, by exact_mod_cast hstep, ?_⟩
    rw [feedbacks_succ, hmarks, ← hstep]
    simp [NodeEvent.mark]
  | @taskIncrement t step line ht hp =>
    refine h.of_point hmoves ht hp rfl rfl rfl ?_
    rintro k hk ⟨hstep, hmarks⟩
    have hnext : step + 1 < 2 ^ 31 := hfits step (by simp [increments, ht, hp])
    refine ⟨k, hk, ?_, (List.append_nil _).trans hmarks⟩
    rw [int32_of_fits (by omega) hnext, hstep]
  | @taskCancelStep t step ht hp =>
    have hcanceled := h.canceled t ht (by rw [hp]; rfl)
    refine h.of_task hmoves ht hp rfl (.refl _) (fun _ => rfl) (fun k hk htraces => ?_)
      (fun _ => hcanceled) (fun n hn => ?_)
    · obtain ⟨hstep, hroom, hmarks⟩ := htraces
      have hbound := t.goal.isInt32.2
      refine ⟨k, hk, ?_, by simpa using hmarks⟩
      change int32 (step - 1) = k
      rw [int32_of_fits (by omega) (by omega)]
      omega
    · rcases hn with hn | hn
      · cases hn
        rfl
      · cases hn
  | @taskStoreState t result ht hp =>
    refine h.of_task hmoves ht hp rfl (.refl _) (fun _ => rfl) (fun k hk htraces => ?_)
      (fun hc => ?_) (fun n hn => ?_)
    · exact ⟨k, hk, by simpa [TaskPoint.Traces] using htraces⟩
    · refine h.canceled t ht ?_
      rw [hp]
      cases result <;> first | rfl | cases hc
    · rcases hn with hn | hn
      · cases hn
      · cases hn
        exact h.stored t n ht (.inl hp)
  | @taskTerminal t result ht hp =>
    refine h.of_task hmoves ht hp rfl (.modify _ _ fun _ => ⟨rfl, rfl⟩) (fun g => ?_)
      (fun k hk htraces => ?_) (by simp [TaskPoint.cancels]) (by simp)
    · refine (any_modify _ _ _ _).trans (congrArg (Option.any · s.goals[g]?) ?_)
      funext x
      split <;> rfl
    · obtain ⟨hends, hmarks⟩ := htraces
      exact ⟨k, hk, hends, by simp [hmarks, NodeEvent.mark]⟩
  | @taskRelease t result ht hp =>
    refine h.of_point hmoves ht hp rfl rfl rfl ?_
    rintro k hk ⟨hends, hmarks⟩
    exact ⟨k, hk, hends, by simp [hmarks, NodeEvent.mark]⟩
  | @taskPost t result ht hp =>
    refine h.of_point hmoves ht hp rfl rfl rfl ?_
    rintro k hk ⟨hends, hmarks⟩
    refine ⟨k, hk, hends, ?_⟩
    rw [filterMap_processed, if_pos rfl, hmarks]
    simp
  | @taskLog t result line ht hp =>
    refine h.of_point hmoves ht hp rfl rfl rfl ?_
    rintro k hk ⟨hends, hmarks⟩
    exact ⟨k, hk, result, hends, (List.append_nil _).trans hmarks⟩

/-! ### The law of a task -/

/-- What `executeTask` promises for goal `g`.  The marks are the feedback of the first `k` steps and
then at most one terminal call, the release and the matching event, in this order; after the
terminal call the next steps of the thread are the release and the event. -/
structure ExecutesTask (g : ℕ) (goal : ExecuteTaskGoal) (ts : List NodeTransition)
    (s : RuntimeProcess) : Prop where
  shape : ∃ k : ℕ, (k : ℤ) ≤ goal.targetSteps ∧
    (marks g ts = feedbacks k ∨ ∃ result rest, result.Ends goal.targetSteps k ∧
      rest <+: [.released, .posted result.event] ∧
        marks g ts = feedbacks k ++ .terminal result :: rest)
  released : ∀ result, (marks g ts).getLast? = some (.terminal result) →
    ∃ s', s.step .task = some (s', [.released g])
  posted : (marks g ts).getLast? = some .released → ∃ result s' out r,
    .terminal result ∈ marks g ts ∧ s.step .task = some (s', out) ∧
      .processed (.executeTask g) result.event r ∈ out
  freed : ∀ t ∈ ts, .released g ∈ t.out → t.post.node.task.taskActive = false
  canceled : ∀ us t vs (n : ℤ), ts = us ++ t :: vs → .terminal g (.canceled n) ∈ t.out →
    .cancelResponse g ∈ observations us ∧ ∃ k : ℕ, marks g us = feedbacks k ∧
      (TaskEnd.canceled n).message = "task canceled at step " ++ toString k ∧
        t.pre.node.task.taskCurrentStep = (k : ℤ)

/-- The state before the terminal call. -/
private lemma Moves.of_terminal (hm : Moves s a s' out) {g : ℕ} {result : TaskEnd}
    (hout : .terminal g result ∈ out) :
    ∃ t, s.taskThread = some t ∧ t.g = g ∧ t.point = .terminal result := by
  cases hm with
  | quiet ha hstage hspawn hreport => cases hreport _ hout
  | sense | operate | startTask | taskPost =>
    exact absurd hout (by simp [RuntimeNode.processed])
  | taskTerminal ht hp =>
    obtain ⟨rfl, rfl⟩ := NodeEvent.terminal.inj (List.mem_singleton.mp hout)
    exact ⟨_, ht, rfl, hp⟩
  | _ => simp at hout

/-- Giving back the flag. -/
private lemma Moves.of_released (hm : Moves s a s' out) {g : ℕ} (hout : .released g ∈ out) :
    s'.node.task.taskActive = false := by
  cases hm with
  | quiet ha hstage hspawn hreport => cases hreport _ hout
  | sense | operate | startTask | taskPost =>
    exact absurd hout (by simp [RuntimeNode.processed])
  | taskRelease => rfl
  | _ => simp at hout

/-- The marks of a goal with a thread or with a thread that has returned. -/
lemma TaskLedger.of_goal (h : TaskLedger ts s) {g : ℕ} {x : GoalHandle}
    (hx : s.goals[g]? = some x) :
    marks g ts = [] ∨ ∃ p, ∃ k : ℕ, (k : ℤ) ≤ x.goal.targetSteps ∧
      p.Traces x.goal.targetSteps (marks g ts) k ∧
        (p = .returned ∨ s.taskThread = some ⟨g, x.goal, p⟩) := by
  by_cases hown : ∃ t, s.taskThread = some t ∧ t.g = g
  · obtain ⟨t, ht, rfl⟩ := hown
    obtain ⟨⟨y, hy, -, hygoal⟩, k, hk, htraces⟩ := h.thread t ht
    rw [hx] at hy
    obtain rfl := Option.some.inj hy
    rw [← hygoal] at hk htraces
    refine .inr ⟨t.point, k, hk, htraces, .inr ?_⟩
    rw [ht, hygoal]
  · have hother : ∀ t, s.taskThread = some t → t.g ≠ g := fun t ht htg => hown ⟨t, ht, htg⟩
    cases hspawned : x.spawned with
    | false =>
      refine .inl (h.waiting g fun y hy => ?_)
      rw [hx] at hy
      obtain rfl := Option.some.inj hy
      exact hspawned
    | true =>
      obtain ⟨k, hk, htraces⟩ := h.finished g x hx hspawned hother
      exact .inr ⟨.returned, k, hk, htraces, .inl rfl⟩

end RuntimeProcess

/-- Feedback ends with feedback. -/
private lemma of_getLast?_feedbacks {k : ℕ} {m : TaskMark}
    (h : (feedbacks k).getLast? = some m) : ∃ step, m = .feedback step := by
  obtain ⟨i, -, hi⟩ := List.mem_map.mp (List.mem_of_getLast? h)
  exact ⟨_, hi.symm⟩

namespace TaskPoint.Traces

variable {target : ℤ} {ms : List TaskMark} {k : ℕ} {p : TaskPoint}

/-- The form of the marks of a point. -/
lemma shape (h : p.Traces target ms k) :
    ms = feedbacks k ∨ ∃ result rest, TaskEnd.Ends target k result ∧
      rest <+: [.released, .posted result.event] ∧
        ms = feedbacks k ++ .terminal result :: rest := by
  cases p with
  | loop | logFeedback | storeState | terminal => exact .inl h.2
  | checkOk | storeStep | feedback | cancelStep => exact .inl h.2.2
  | release result => exact .inr ⟨result, [], h.1, List.nil_prefix, h.2⟩
  | post result => exact .inr ⟨result, [.released], h.1, ⟨[.posted result.event], rfl⟩, h.2⟩
  | logResult result => exact .inr ⟨result, _, h.1, List.prefix_rfl, h.2⟩
  | returned =>
    obtain ⟨result, hends, hms⟩ := h
    exact .inr ⟨result, _, hends, List.prefix_rfl, hms⟩

/-- The point after a terminal call. -/
private lemma of_terminal (h : p.Traces target ms k) {result : TaskEnd}
    (hlast : ms.getLast? = some (.terminal result)) : p = .release result := by
  have hfeedbacks (hms : ms = feedbacks k) : p = .release result := by
    obtain ⟨step, hstep⟩ := of_getLast?_feedbacks (hms ▸ hlast)
    cases hstep
  cases p with
  | loop | logFeedback | storeState | terminal => exact hfeedbacks h.2
  | checkOk | storeStep | feedback | cancelStep => exact hfeedbacks h.2.2
  | release result' =>
    rw [h.2] at hlast
    simpa using hlast
  | post | logResult =>
    rw [h.2] at hlast
    simp at hlast
  | returned =>
    obtain ⟨result', -, hms⟩ := h
    rw [hms] at hlast
    simp at hlast

/-- The point after the release of the flag. -/
private lemma of_released (h : p.Traces target ms k) (hlast : ms.getLast? = some .released) :
    ∃ result, p = .post result ∧ .terminal result ∈ ms := by
  have hfeedbacks (hms : ms = feedbacks k) :
      ∃ result, p = .post result ∧ .terminal result ∈ ms := by
    obtain ⟨step, hstep⟩ := of_getLast?_feedbacks (hms ▸ hlast)
    cases hstep
  cases p with
  | loop | logFeedback | storeState | terminal => exact hfeedbacks h.2
  | checkOk | storeStep | feedback | cancelStep => exact hfeedbacks h.2.2
  | post result => exact ⟨result, rfl, by simp [h.2]⟩
  | release | logResult =>
    rw [h.2] at hlast
    simp at hlast
  | returned =>
    obtain ⟨result', -, hms⟩ := h
    rw [hms] at hlast
    simp at hlast

end TaskPoint.Traces

/-- In a run in which the loop variable does not overflow, the ledger holds. -/
lemma runtime_taskLedger {ts : List NodeTransition} {s : RuntimeProcess}
    (h : runtimeSystem.Run ts s) (hfits : ∀ t ∈ ts, RuntimeProcess.IncrementFits t) :
    RuntimeProcess.TaskLedger ts s := by
  induction h with
  | start hinit =>
    obtain rfl := hinit
    constructor <;> simp [RuntimeProcess.start, RuntimeProcess.isCanceling]
  | @snoc ts s s' a out hrun hstep ih =>
    have hbefore := ih fun t ht => hfits t (List.mem_append_left _ ht)
    exact (RuntimeProcess.moves_of_step hstep).taskLedger (runtime_goalInvariant ⟨_, hrun⟩)
      (runtime_positiveTargets ⟨_, hrun⟩) (hfits _ (by simp)) hbefore

/-- **The run of a task.**  In every run of the node in which the `int32_t` loop variable of
`executeTask` is not incremented at its largest value, each accepted goal has shown the feedback of
its steps `1` to `k` and nothing else, or this and one terminal call that fits `k`, followed by the
release of `task_active_` and the matching event. -/
theorem runtime_executes_task {ts : List NodeTransition} {s : RuntimeProcess}
    (h : runtimeSystem.Run ts s) (hfits : ∀ t ∈ ts, RuntimeProcess.IncrementFits t) {g : ℕ}
    {x : GoalHandle} (hx : s.goals[g]? = some x) : RuntimeProcess.ExecutesTask g x.goal ts s := by
  have hcases := (runtime_taskLedger h hfits).of_goal hx
  constructor
  · rcases hcases with hnil | ⟨p, k, hk, htraces, -⟩
    · have hpos := (runtime_positiveTargets ⟨ts, h⟩).accepted x (List.mem_of_getElem? hx)
      exact ⟨0, Int.le_of_lt hpos, .inl hnil⟩
    · exact ⟨k, hk, htraces.shape⟩
  · intro result hlast
    rcases hcases with hnil | ⟨p, k, hk, htraces, hthread⟩
    · rw [hnil] at hlast
      cases hlast
    · obtain rfl := htraces.of_terminal hlast
      rcases hthread with hreturned | hthread
      · cases hreturned
      · exact ⟨_, by simp [RuntimeProcess.step, RuntimeProcess.stepTask, hthread]; rfl⟩
  · intro hlast
    rcases hcases with hnil | ⟨p, k, hk, htraces, hthread⟩
    · rw [hnil] at hlast
      cases hlast
    · obtain ⟨result, rfl, hmem⟩ := htraces.of_released hlast
      rcases hthread with hreturned | hthread
      · cases hreturned
      · obtain ⟨s', hs⟩ := RuntimeProcess.exists_step_post hthread rfl
        exact ⟨result, s', _, _, hmem, hs, List.mem_cons_self⟩
  · intro t ht hout
    obtain ⟨us, vs, rfl⟩ := List.append_of_mem ht
    exact (RuntimeProcess.moves_of_step h.split.2).of_released hout
  · rintro us t vs n rfl hout
    obtain ⟨hr, hvalid⟩ := h.split
    have hledger := runtime_taskLedger hr fun u hu => hfits u (List.mem_append_left _ hu)
    obtain ⟨u, hu, rfl, hp⟩ := (RuntimeProcess.moves_of_step hvalid).of_terminal hout
    obtain ⟨-, k, -, htraces⟩ := hledger.thread u hu
    rw [hp] at htraces
    obtain ⟨rfl, hmarks⟩ := htraces
    exact ⟨hledger.canceling _ (hledger.canceled u hu (by rw [hp]; rfl)), k, hmarks, rfl,
      hledger.stored u k hu (.inr hp)⟩

/-- A goal of two steps is canceled after its first one. -/
theorem runtime_executes_task_canceledBefore :
    ∃ ts s, runtimeSystem.Run ts s ∧ s.node.task = ⟨false, .canceled, 1⟩ ∧
      marks 0 ts = [.feedback 1, .terminal (.canceled 1), .released, .posted .taskCanceled] ∧
        RuntimeProcess.ExecutesTask 0 twoSteps ts s := by
  have hrun := System.run_of_exec runtimeSystem
    (firstStep ++ [.cancel 0, .exec 0, .exec 0] ++ List.replicate 7 .task) rfl rfl
  exact ⟨_, _, hrun, rfl, rfl, runtime_executes_task
    (x := ⟨twoSteps, true, true, some (.canceled 1)⟩) hrun (forall_of_all rfl) rfl⟩

end SystemsDemos
