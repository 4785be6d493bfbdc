import SystemsDemos.RuntimeNode.TaskRun

/-!
# The iterations of a task

The loop `step <= target_steps; ++step` of `executeTask`, with an `int32_t` counter, in a run in
which its goal is not canceled and ROS is not shut down.  Every iteration takes five steps of the
thread.  The loop ends after exactly `target_steps` of them, without an overflow, unless
`target_steps` is the largest `int32_t`: then the counter is incremented once more before the
comparison can fail, and the comparison never fails.

### Outline

* `Undisturbed`, and what holds in such runs;
* `TaskPoint.At`, the points of the thread by the number of steps and iterations;
* `LoopLaw` and `loopLaw_iff`.
-/

namespace SystemsDemos

/-- In this step ROS is not shut down and no cancel request for goal `g` is accepted. -/
def Undisturbed (g : ℕ) (t : NodeTransition) : Prop :=
  t.act ≠ .shutdown ∧ .cancelResponse g ∉ t.out

instance (g : ℕ) : DecidablePred (Undisturbed g) := fun t =>
  inferInstanceAs (Decidable (t.act ≠ .shutdown ∧ .cancelResponse g ∉ t.out))

/-- The step that an event says is stored for goal `g`. -/
def NodeEvent.storedStep (g : ℕ) : NodeEvent → Option ℤ
  | .stepStored g' step => if g' = g then some step else none
  | _ => none

/-- The steps stored for goal `g`, one in each iteration of its loop. -/
def storedSteps (g : ℕ) (ts : List NodeTransition) : List ℤ :=
  (observations ts).filterMap (NodeEvent.storedStep g)

/-- The number of steps of the task thread. -/
def taskSteps (ts : List NodeTransition) : ℕ := ts.countP fun t => decide (t.act = .task)

/-- The numbers from `1` to `k`. -/
def countUp (k : ℕ) : List ℤ := (List.range k).map fun i : ℕ => (i : ℤ) + 1

lemma countUp_succ (k : ℕ) : countUp (k + 1) = countUp k ++ [(k : ℤ) + 1] := by
  simp [countUp, List.range_succ]

/-- The thread has not left the loop. -/
def TaskPoint.inLoop : TaskPoint → Bool
  | loop _ | checkOk _ | storeStep _ | feedback _ | logFeedback _ | cancelStep _ => true
  | _ => false

/-- The point of a thread that has made `n` steps and stored `k` of them. -/
def TaskPoint.At (target : ℤ) (n k : ℕ) : TaskPoint → Prop
  | loop step => step = k + 1 ∧ k ≤ target ∧ n = 5 * k
  | checkOk step => step = k + 1 ∧ k + 1 ≤ target ∧ n = 5 * k + 1
  | storeStep step => step = k + 1 ∧ k + 1 ≤ target ∧ n = 5 * k + 2
  | feedback step => step = k ∧ k ≤ target ∧ n + 2 = 5 * k
  | logFeedback step => step = k ∧ k ≤ target ∧ n + 1 = 5 * k
  | cancelStep _ => False
  | _ => k = target

namespace TaskPoint.At

variable {target : ℤ} {n k : ℕ} {p : TaskPoint}

lemma le (h : p.At target n k) : (k : ℤ) ≤ target := by
  cases p with
  | loop | feedback | logFeedback => exact h.2.1
  | checkOk | storeStep =>
    have hle := h.2.1
    omega
  | cancelStep => exact h.elim
  | _ => exact Int.le_of_eq h

/-- Once the loop is left, all steps have been stored. -/
lemma eq_of_left (h : p.At target n k) (hleft : p.inLoop = false) : (k : ℤ) = target := by
  cases p with
  | storeState | terminal | release | post | logResult | returned => exact h
  | _ => cases hleft

/-- The loop takes at most five steps for each iteration. -/
lemma steps_le (h : p.At target n k) (hloop : p.inLoop = true) : (n : ℤ) ≤ 5 * target := by
  cases p with
  | loop | feedback | logFeedback | checkOk | storeStep =>
    obtain ⟨-, hle, hn⟩ := h
    omega
  | cancelStep => exact h.elim
  | _ => cases hloop

end TaskPoint.At

namespace RuntimeProcess

variable {s s' : RuntimeProcess} {a : NodeAct} {out : List NodeEvent} {ts us : List NodeTransition}

/-! ### Undisturbed runs -/

/-- Only an accepted cancel request makes a goal canceling. -/
lemma Moves.isCanceling (hm : Moves s a s' out) {g : ℕ} (hout : .cancelResponse g ∉ out) :
    s'.isCanceling g = true → s.isCanceling g = true := by
  cases hm with
  | accept hx => exact fun hc => (any_concat s.goals g rfl).symm.trans hc
  | @cancelReturn now g₀ hx =>
    intro hc
    have hne : g₀ ≠ g := by
      rintro rfl
      exact hout List.mem_cons_self
    unfold RuntimeProcess.isCanceling at hc ⊢
    rw [any_modify] at hc
    simpa only [if_neg hne] using hc
  | spawn | taskTerminal =>
    intro hc
    refine Eq.trans (congrArg (Option.any · s.goals[g]?) ?_) ((any_modify _ _ _ _).symm.trans hc)
    funext x
    split <;> rfl
  | _ => exact id

/-- Only a shutdown changes `rclcpp::ok()`. -/
lemma Moves.ok_eq (hm : Moves s a s' out) (ha : a ≠ .shutdown) : s'.ok = s.ok := by
  cases hm with
  | shutdown => exact (ha rfl).elim
  | _ => rfl

/-- In an undisturbed run the goal is not canceled and `rclcpp::ok()` stays true. -/
lemma undisturbed_of_run {g : ℕ} (h : runtimeSystem.Run ts s) (hts : ∀ t ∈ ts, Undisturbed g t) :
    s.isCanceling g = false ∧ s.ok = true := by
  refine h.invariant_of_forall (I := fun s => s.isCanceling g = false ∧ s.ok = true) hts ?_ ?_
  · rintro s rfl
    exact ⟨rfl, rfl⟩
  · rintro t ht ⟨hact, hout⟩ - ⟨hcanceling, hok⟩
    have hm := moves_of_step ht
    refine ⟨?_, (hm.ok_eq hact).trans hok⟩
    by_contra hc
    rw [hm.isCanceling hout (by simpa using hc)] at hcanceling
    cases hcanceling

/-- A report stores nothing. -/
private lemma storedStep_of_isReport {e : NodeEvent} (h : e.isReport = true) (g : ℕ) :
    e.storedStep g = none := by
  cases e <;> first | rfl | cases h

/-- Processing an event stores no step. -/
private lemma filterMap_storedStep_processed (g : ℕ) (source : EventSource) (event : RuntimeEvent)
    (r : RuntimeTransition) :
    (RuntimeNode.processed source event r).filterMap (NodeEvent.storedStep g) = [] := by
  refine List.filterMap_eq_nil_iff.mpr fun e he => ?_
  rcases RuntimeNode.of_mem_processed he with rfl | ⟨line, rfl⟩ <;> rfl

/-- A step that is not one of the task thread, and starts no thread, leaves it alone. -/
lemma Moves.thread_eq (hm : Moves s a s' out) (ha : a ≠ .task)
    (hout : ∀ g, .started g ∉ out) (g : ℕ) :
    s'.taskThread = s.taskThread ∧ out.filterMap (NodeEvent.storedStep g) = [] := by
  cases hm with
  | quiet _ _ _ hreport =>
    exact ⟨rfl, List.filterMap_eq_nil_iff.mpr fun e he =>
      storedStep_of_isReport (hreport e he) g⟩
  | sense | operate | startTask => exact ⟨rfl, filterMap_storedStep_processed g _ _ _⟩
  | @spawn now g₀ => exact (hout g₀ List.mem_cons_self).elim
  | taskLoop | taskCanceling | taskDone | taskOk | taskNotOk | taskStoreStep | taskFeedback
  | taskIncrement | taskCancelStep | taskStoreState | taskTerminal | taskRelease | taskPost
  | taskLog => exact (ha rfl).elim
  | _ => exact ⟨rfl, rfl⟩

/-! ### The loop -/

/-- The thread of goal `g` is the task thread, at the point that belongs to its steps in `us`. -/
def Looping (g : ℕ) (goal : ExecuteTaskGoal) (us : List NodeTransition) (s : RuntimeProcess) :
    Prop :=
  ∃ p k, s.taskThread = some ⟨g, goal, p⟩ ∧ p.At goal.targetSteps (taskSteps us) k ∧
    storedSteps g us = countUp k

lemma storedSteps_snoc (g : ℕ) (us : List NodeTransition) (u : NodeTransition) :
    storedSteps g (us ++ [u]) = storedSteps g us ++ u.out.filterMap (NodeEvent.storedStep g) := by
  simp [storedSteps]

lemma taskSteps_task (us : List NodeTransition) (s s' : RuntimeProcess) (out : List NodeEvent) :
    taskSteps (us ++ [⟨s, .task, s', out⟩]) = taskSteps us + 1 := by
  simp [taskSteps]

lemma taskSteps_other (us : List NodeTransition) (s s' : RuntimeProcess) (out : List NodeEvent)
    (ha : a ≠ .task) : taskSteps (us ++ [⟨s, a, s', out⟩]) = taskSteps us := by
  simp [taskSteps, ha]

/-- A thread that increments stands before the log line of its feedback. -/
lemma mem_increments {step : ℤ} (h : step ∈ s.increments a) :
    a = .task ∧ ∃ t, s.taskThread = some t ∧ t.point = .logFeedback step := by
  cases a with
  | task =>
    refine ⟨rfl, ?_⟩
    cases ht : s.taskThread with
    | none => simp [increments, ht] at h
    | some t =>
      cases hp : t.point <;> simp [increments, ht, hp] at h
      exact ⟨t, rfl, h ▸ hp⟩
  | _ => simp [increments] at h

variable {g : ℕ} {goal : ExecuteTaskGoal}

/-- In the loop the counter stays below the target, so that it can be incremented. -/
lemma Looping.incrementFits (h : Looping g goal us s) (hgoal : goal.targetSteps < 2 ^ 31 - 1) :
    IncrementFits ⟨s, a, s', out⟩ := by
  intro step hstep
  obtain ⟨-, t, ht, hp⟩ := mem_increments hstep
  obtain ⟨p, k, hthread, hat, -⟩ := h
  rw [hthread] at ht
  cases ht
  obtain rfl : p = .logFeedback step := hp
  obtain ⟨rfl, hle, -⟩ := hat
  omega

/-- A step of the thread that stores nothing. -/
private lemma looping_of_point {p : TaskPoint} {k : ℕ}
    (hthread : s'.taskThread = some ⟨g, goal, p⟩)
    (hat : p.At goal.targetSteps (taskSteps us + 1) k) (hsteps : storedSteps g us = countUp k)
    (hout : out.filterMap (NodeEvent.storedStep g) = []) :
    Looping g goal (us ++ [⟨s, .task, s', out⟩]) s' := by
  refine ⟨p, k, hthread, ?_, ?_⟩
  · rwa [taskSteps_task]
  · rw [storedSteps_snoc, hout, List.append_nil, hsteps]

/-- Every step of an undisturbed run that does not overflow leads on in the loop, or out of it. -/
lemma Looping.step (h : Looping g goal us s) (hm : Moves s a s' out)
    (hfits : IncrementFits ⟨s, a, s', out⟩) (hcanceling : s.isCanceling g = false)
    (hok : s.ok = true) (hout : ∀ g', .started g' ∉ out) :
    Looping g goal (us ++ [⟨s, a, s', out⟩]) s' := by
  obtain ⟨p, k, hthread, hat, hsteps⟩ := h
  by_cases ha : a = .task
  swap
  · obtain ⟨hsame, hnone⟩ := hm.thread_eq ha hout g
    refine ⟨p, k, hsame.trans hthread, ?_, ?_⟩
    · rwa [taskSteps_other _ _ _ _ ha]
    · rw [storedSteps_snoc, hnone, List.append_nil, hsteps]
  subst ha
  have hp {t : TaskThread} {q : TaskPoint} (ht : s.taskThread = some t) (hq : t.point = q) :
      t = ⟨g, goal, q⟩ ∧ q.At goal.targetSteps (taskSteps us) k := by
    rw [hthread] at ht
    cases ht
    subst hq
    exact ⟨rfl, hat⟩
  cases hm with
  | quiet hne => exact (hne rfl).elim
  | taskLoop ht hq hle =>
    obtain ⟨rfl, hstep, -, hn⟩ := hp ht hq
    exact looping_of_point rfl ⟨hstep, hstep ▸ hle, by omega⟩ hsteps rfl
  | taskCanceling ht hq hle hc =>
    obtain ⟨rfl, -⟩ := hp ht hq
    rw [hcanceling] at hc
    cases hc
  | @taskDone t step ht hq hlt =>
    obtain ⟨rfl, hstep, hle, -⟩ := hp ht hq
    have hpast : goal.targetSteps < step := hlt
    have hlast : (k : ℤ) = goal.targetSteps := Int.le_antisymm hle (by omega)
    exact looping_of_point rfl hlast hsteps rfl
  | taskOk ht hq =>
    obtain ⟨rfl, hstep, hle, hn⟩ := hp ht hq
    exact looping_of_point rfl ⟨hstep, hle, by omega⟩ hsteps rfl
  | taskNotOk ht hq hnot =>
    rw [hok] at hnot
    cases hnot
  | @taskStoreStep t step ht hq =>
    obtain ⟨rfl, hstep, hle, hn⟩ := hp ht hq
    refine ⟨.feedback step, k + 1, rfl, ?_, ?_⟩
    · rw [taskSteps_task]
      exact ⟨by exact_mod_cast hstep, by exact_mod_cast hle, by omega⟩
    · rw [storedSteps_snoc, hsteps, countUp_succ, ← hstep]
      simp [NodeEvent.storedStep]
  | taskFeedback ht hq =>
    obtain ⟨rfl, hstep, hle, hn⟩ := hp ht hq
    exact looping_of_point rfl ⟨hstep, hle, by omega⟩ hsteps rfl
  | @taskIncrement t step line ht hq =>
    have hnext : step + 1 < 2 ^ 31 := hfits step (by simp [increments, ht, hq])
    obtain ⟨rfl, hstep, hle, hn⟩ := hp ht hq
    refine looping_of_point rfl ⟨?_, hle, by omega⟩ hsteps rfl
    rw [int32_of_fits (by omega) hnext, hstep]
  | taskCancelStep ht hq => exact (hp ht hq).2.elim
  | taskStoreState ht hq | taskTerminal ht hq | taskRelease ht hq | taskLog ht hq =>
    obtain ⟨rfl, hlast⟩ := hp ht hq
    exact looping_of_point rfl hlast hsteps rfl
  | taskPost ht hq =>
    obtain ⟨rfl, hlast⟩ := hp ht hq
    exact looping_of_point rfl hlast hsteps (filterMap_storedStep_processed g _ _ _)

/-- A thread in its loop can always go on. -/
lemma exists_step_of_inLoop {t : TaskThread} (ht : s.taskThread = some t)
    (hloop : t.point.inLoop = true) : ∃ r, s.step .task = some r := by
  cases hp : t.point with
  | loop n =>
    simp only [step, stepTask, ht, hp]
    split
    · split
      · exact ⟨_, rfl⟩
      · exact ⟨_, rfl⟩
    · exact ⟨_, rfl⟩
  | checkOk n =>
    simp only [step, stepTask, ht, hp]
    split
    · exact ⟨_, rfl⟩
    · exact ⟨_, rfl⟩
  | storeStep | feedback | logFeedback | cancelStep =>
    simp only [step, stepTask, ht, hp]
    exact ⟨_, rfl⟩
  | _ =>
    rw [hp] at hloop
    cases hloop

/-- What the loop of `executeTask` promises after the steps `us` since its thread was started.  The
counter has not overflowed; the steps stored are `1` to some `k`, and all up to the target once the
loop is left; it is left after five steps of the thread for each iteration and one more, and until
then the thread can go on. -/
structure LoopEnds (g : ℕ) (goal : ExecuteTaskGoal) (us : List NodeTransition)
    (s : RuntimeProcess) : Prop where
  fits : ∀ u ∈ us, IncrementFits u
  iterations : ∃ k : ℕ, storedSteps g us = countUp k ∧ (k : ℤ) ≤ goal.targetSteps ∧
    ((∃ t, s.taskThread = some t ∧ t.point.inLoop = false) → (k : ℤ) = goal.targetSteps)
  ends : 5 * goal.targetSteps < taskSteps us →
    ∃ t, s.taskThread = some t ∧ t.point.inLoop = false
  goesOn : (∃ t, s.taskThread = some t ∧ t.point.inLoop = true) → ∃ r, s.step .task = some r

end RuntimeProcess

/-- In every run in which the thread of the goal is started and, until the next thread is, the goal
is not canceled and ROS not shut down, the loop ends as it should. -/
def LoopLaw (goal : ExecuteTaskGoal) : Prop :=
  ∀ (g : ℕ) (ts : List NodeTransition) (t : NodeTransition) (us : List NodeTransition)
    (s : RuntimeProcess), runtimeSystem.Run (ts ++ t :: us) s → .started g ∈ t.out →
    t.post.taskThread = some ⟨g, goal, .loop 1⟩ → (∀ u ∈ us, ∀ g', .started g' ∉ u.out) →
    (∀ u ∈ ts ++ t :: us, Undisturbed g u) → RuntimeProcess.LoopEnds g goal us s

/-- Below the largest `int32_t` the loop ends as it should. -/
lemma loopLaw_of_lt {goal : ExecuteTaskGoal} (hpos : 0 < goal.targetSteps)
    (hlt : goal.targetSteps < 2 ^ 31 - 1) : LoopLaw goal := by
  intro g ts t us s hrun hstarted hthread halone hundisturbed
  have hinvariant : (∀ u ∈ us, ∀ g', .started g' ∉ u.out) → (∀ u ∈ us, Undisturbed g u) →
      RuntimeProcess.Looping g goal us s ∧ ∀ u ∈ us, RuntimeProcess.IncrementFits u := by
    have hbefore : ∀ u ∈ ts ++ [t], Undisturbed g u := by
      intro u hu
      refine hundisturbed u ?_
      rw [List.append_cons]
      exact List.mem_append_left _ hu
    refine hrun.later_history (P := fun us s =>
      (∀ u ∈ us, ∀ g', .started g' ∉ u.out) → (∀ u ∈ us, Undisturbed g u) →
        RuntimeProcess.Looping g goal us s ∧ ∀ u ∈ us, RuntimeProcess.IncrementFits u) ?_ ?_
    · intro _ _
      refine ⟨⟨.loop 1, 0, hthread, ⟨rfl, Int.le_of_lt hpos, rfl⟩, rfl⟩, ?_⟩
      exact List.forall_mem_nil _
    · intro us s a s' out hr ih hstep halone hundisturbed
      obtain ⟨hlooping, hfits⟩ := ih (fun u hu => halone u (List.mem_append_left _ hu))
        fun u hu => hundisturbed u (List.mem_append_left _ hu)
      have hstates : ∀ u ∈ ts ++ t :: us, Undisturbed g u := by
        intro u hu
        rw [List.append_cons] at hu
        rcases List.mem_append.mp hu with hu | hu
        · exact hbefore u hu
        · exact hundisturbed u (List.mem_append_left _ hu)
      obtain ⟨hcanceling, hok⟩ := RuntimeProcess.undisturbed_of_run hr hstates
      have hlast : RuntimeProcess.IncrementFits ⟨s, a, s', out⟩ := hlooping.incrementFits hlt
      refine ⟨hlooping.step (RuntimeProcess.moves_of_step hstep) hlast hcanceling hok
        (halone ⟨s, a, s', out⟩ (by simp)), fun u hu => ?_⟩
      rcases List.mem_append.mp hu with hu | hu
      · exact hfits u hu
      · obtain rfl := List.mem_singleton.mp hu
        exact hlast
  have hafter : ∀ u ∈ us, Undisturbed g u := fun u hu => hundisturbed u
    (List.mem_append_right _ (List.mem_cons_of_mem _ hu))
  obtain ⟨⟨p, k, hpoint, hat, hsteps⟩, hfits⟩ := hinvariant halone hafter
  refine ⟨hfits, ⟨k, hsteps, hat.le, ?_⟩, fun hmany => ?_, ?_⟩
  · rintro ⟨u, hu, hleft⟩
    rw [hpoint] at hu
    cases hu
    exact hat.eq_of_left hleft
  · refine ⟨_, hpoint, ?_⟩
    by_contra hloop
    have hfew := hat.steps_le (by simpa using hloop)
    omega
  · rintro ⟨u, hu, hloop⟩
    exact RuntimeProcess.exists_step_of_inLoop hu hloop

/-! ### The largest counter -/

namespace RuntimeProcess

variable {s s' : RuntimeProcess} {out : List NodeEvent}

/-- A step of the task thread accepts no cancel request and starts no thread. -/
lemma Moves.of_task (hm : Moves s .task s' out) (g : ℕ) :
    .cancelResponse g ∉ out ∧ .started g ∉ out := by
  cases hm with
  | quiet hne => exact (hne rfl).elim
  | taskPost =>
    constructor <;> intro hmem <;> rcases RuntimeNode.of_mem_processed hmem with h | ⟨line, h⟩ <;>
      cases h
  | _ => simp

/-- The node with the longest goal before an increment. -/
def longestIncrement (step : ℤ) : RuntimeProcess :=
  { longestTask step step with taskThread := some ⟨0, longestGoal, .logFeedback step⟩ }

/-- An iteration up to its increment. -/
private lemma exec_logFeedback (step : ℤ) (hle : step ≤ 2 ^ 31 - 1) (current : ℤ) :
    ∃ ts, runtimeSystem.exec (longestTask step current) [.task, .task, .task, .task] =
      some (ts, longestIncrement step) := by
  have htarget : step ≤ longestGoal.targetSteps := hle
  simp [System.exec, runtimeSystem, RuntimeProcess.step, stepTask, longestTask, longestIncrement,
    moveTask, isCanceling, htarget]

/-- Steps of the task thread only. -/
private lemma forall_task_of_exec {as : List NodeAct} {us : List NodeTransition}
    (he : runtimeSystem.exec s as = some (us, s')) (has : ∀ a ∈ as, a = .task) :
    ∀ u ∈ us, u.act = .task := by
  intro u hu
  refine has _ ?_
  rw [← System.map_act_of_exec he]
  exact List.mem_map_of_mem hu

/-- The thread of the longest goal gets to every iteration. -/
private lemma exists_run_longestTask (n : ℕ) (hn : (n : ℤ) ≤ 2 ^ 31 - 2) :
    ∃ ts t us, runtimeSystem.Run (ts ++ t :: us) (longestTask (n + 1) n) ∧
      .started 0 ∈ t.out ∧ t.post.taskThread = some ⟨0, longestGoal, .loop 1⟩ ∧
      (∀ u ∈ ts ++ [t], Undisturbed 0 u) ∧ ∀ u ∈ us, u.act = .task := by
  induction n with
  | zero =>
    have hrun := System.run_of_exec runtimeSystem ((acceptGoal longestGoal).take 14) rfl rfl
    have hspawn := hrun.exec (rfl : runtimeSystem.exec _ [.exec 0] = some ([_], _))
    exact ⟨_, _, [], hspawn, List.mem_cons_self, rfl, forall_of_all rfl, List.forall_mem_nil _⟩
  | succ n ih =>
    obtain ⟨ts, t, us, hrun, hstarted, hthread, hbefore, hus⟩ := ih (by omega)
    obtain ⟨vs, hvs⟩ := exec_iteration (n + 1) (by omega) n
    have hnext : int32 ((n : ℤ) + 1 + 1) = (n : ℤ) + 1 + 1 := int32_of_fits (by omega) (by omega)
    rw [hnext] at hvs
    refine ⟨ts, t, us ++ vs, by simpa using hrun.exec hvs, hstarted, hthread, hbefore, ?_⟩
    intro u hu
    rcases List.mem_append.mp hu with hu | hu
    · exact hus u hu
    · exact forall_task_of_exec hvs (by simp) u hu

/-- The counter of the longest goal overflows. -/
lemma not_loopLaw_longestGoal : ¬LoopLaw longestGoal := by
  intro hlaw
  obtain ⟨ts, t, us, hrun, hstarted, hthread, hbefore, hus⟩ :=
    exists_run_longestTask (2 ^ 31 - 2) (by decide)
  obtain ⟨vs, hvs⟩ := exec_logFeedback (2 ^ 31 - 1) (by decide) (2 ^ 31 - 2)
  have hlate := hrun.exec hvs
  obtain ⟨⟨s', out⟩, hincrement⟩ := exists_step_of_inLoop
    (s := longestIncrement (2 ^ 31 - 1)) rfl rfl
  have hstep : runtimeSystem.step (longestIncrement (2 ^ 31 - 1)) .task = some (s', out) :=
    hincrement
  have hend := hlate.snoc hstep
  rw [List.append_assoc, List.append_assoc, List.cons_append] at hend
  have htask : ∀ u ∈ us ++ (vs ++ [⟨longestIncrement (2 ^ 31 - 1), .task, s', out⟩]),
      u.act = .task := by
    intro u hu
    rcases List.mem_append.mp hu with hu | hu
    · exact hus u hu
    · rcases List.mem_append.mp hu with hu | hu
      · exact forall_task_of_exec hvs (by simp) u hu
      · rw [List.mem_singleton.mp hu]
  have hquiet : ∀ u ∈ us ++ (vs ++ [⟨longestIncrement (2 ^ 31 - 1), .task, s', out⟩]), ∀ g,
      .cancelResponse g ∉ u.out ∧ .started g ∉ u.out := by
    intro u hu g
    obtain ⟨-, hvalid⟩ := hend.of_mem (List.mem_append_right _ (List.mem_cons_of_mem _ hu))
    have hm := moves_of_step hvalid
    rw [htask u hu] at hm
    exact hm.of_task g
  have hends := hlaw 0 ts t _ s' hend hstarted hthread (fun u hu g => (hquiet u hu g).2) ?_
  · have hlast := hends.fits _
      (List.mem_append_right _ (List.mem_append_right _ (List.mem_singleton_self _)))
      (2 ^ 31 - 1) rfl
    omega
  · intro u hu
    rw [List.append_cons] at hu
    rcases List.mem_append.mp hu with hu | hu
    · exact hbefore u hu
    · refine ⟨?_, (hquiet u hu 0).1⟩
      rw [htask u hu]
      simp

end RuntimeProcess

/-- **The loop of `executeTask` ends after exactly `target_steps` iterations, without an overflow,
for every goal that is admitted but the longest.** -/
theorem loopLaw_iff {goal : ExecuteTaskGoal} (hpos : 0 < goal.targetSteps) :
    LoopLaw goal ↔ goal.targetSteps < 2 ^ 31 - 1 := by
  constructor
  · intro hlaw
    by_contra hnot
    have hmax : goal.targetSteps = 2 ^ 31 - 1 := by
      have hbound := goal.isInt32.2
      omega
    have hgoal : goal = longestGoal := by
      cases goal
      cases hmax
      rfl
    rw [hgoal] at hlaw
    exact RuntimeProcess.not_loopLaw_longestGoal hlaw
  · exact loopLaw_of_lt hpos

/-- The loop of a goal with one step. -/
theorem loopLaw_oneStep : LoopLaw oneStep ↔ oneStep.targetSteps < 2 ^ 31 - 1 :=
  loopLaw_iff (by decide)

/-- The longest goal is admitted, and its counter overflows. -/
theorem executeTask_counter_overflow :
    ¬∀ goal : ExecuteTaskGoal, 0 < goal.targetSteps → LoopLaw goal :=
  fun h => RuntimeProcess.not_loopLaw_longestGoal (h longestGoal (by decide))

end SystemsDemos
