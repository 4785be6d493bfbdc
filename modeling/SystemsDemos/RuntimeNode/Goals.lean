import SystemsDemos.RuntimeNode.Steps

/-!
# One task at a time

`task_active_` is taken by the compare-exchange of `handleGoal` in the executor and given back by
the task thread, after the terminal call on the goal handle and before the last event of the task
is processed.  `Slot` lists the phases in between: nobody has the flag, `handleGoal` has it, an
accepted goal without a thread has it, or the goal of the task thread has it.  Every step of the
two threads stays in its phase or goes to the next one (the lemmas `Slot.exchange` to
`Slot.release`), so `GoalInvariant` holds in every reachable state.

### Outline

* `Slot`, its moves, and the invariant `runtime_goalInvariant`;
* `runtime_positiveTargets`, that only goals with positive `target_steps` get that far;
* `runtime_taskEnd_own_goal`, that a task ends before the next one starts unless `handleGoal`
  overtakes the last event of the old thread, as in `overtakingGoal`.
-/

namespace SystemsDemos

/-! ### The phases of the flag -/

/-- How far the task thread is with the end of its goal. -/
inductive TaskPhase
  | working
  /-- `task_state_` has been stored. -/
  | stored
  /-- The terminal call has been made. -/
  | terminated
  /-- `task_active_` has been given back. -/
  | released
  deriving DecidableEq

/-- The phase of a point of the task thread. -/
def TaskPoint.phase : TaskPoint → TaskPhase
  | terminal _ => .stored
  | release _ => .terminated
  | post _ | logResult _ | returned => .released
  | _ => .working

/-- Every goal has had its thread and its terminal call. -/
def AllEnded (goals : List GoalHandle) : Prop :=
  ∀ h ∈ goals, h.spawned = true ∧ h.terminal ≠ none

/-- The task thread, if there is one, has given the flag back. -/
def Released (thread : Option TaskThread) : Prop :=
  ∀ t, thread = some t → t.point.phase = .released

@[simp] lemma released_none : Released none := by
  simp [Released]

@[simp] lemma released_some {t : TaskThread} : Released (some t) ↔ t.point.phase = .released := by
  simp [Released]

/-- Who has `task_active_`: the value of the flag, whether `handleGoal` has it, the accepted
goals and the task thread. -/
inductive Slot : Bool → Bool → List GoalHandle → Option TaskThread → Prop
  | free {goals thread} (hgoals : AllEnded goals) (hthread : Released thread) :
      Slot false false goals thread
  | admitting {goals thread} (hgoals : AllEnded goals) (hthread : Released thread) :
      Slot true true goals thread
  /-- The last goal waits for `handleAccepted`. -/
  | accepted {goals h thread} (hgoals : AllEnded goals) (hspawned : h.spawned = false)
      (hterminal : h.terminal = none) (hthread : Released thread) :
      Slot true false (goals ++ [h]) thread
  /-- The task thread executes the last goal. -/
  | executing {goals h t} (hgoals : AllEnded goals) (hspawned : h.spawned = true)
      (hterminal : h.terminal = none ↔ t.point.phase ≠ .terminated)
      (hg : t.g = goals.length) (hgoal : t.goal = h.goal) (hphase : t.point.phase ≠ .released) :
      Slot true false (goals ++ [h]) (some t)

/-- Changing one element of a list with a last element. -/
private lemma modify_concat (goals : List GoalHandle) (h : GoalHandle) (g : ℕ)
    (f : GoalHandle → GoalHandle) :
    (goals ++ [h]).modify g f = goals.modify g f ++ [if g = goals.length then f h else h] := by
  apply List.ext_getElem?
  intro i
  simp only [List.getElem?_modify, List.getElem?_append, List.length_modify]
  by_cases hi : i < goals.length
  · simp [hi]
  · by_cases hlast : i = goals.length
    · subst hlast
      by_cases hg : g = goals.length <;> simp [hg]
    · have hout : 1 ≤ i - goals.length := by omega
      simp [hi, List.getElem?_eq_none (l := [_]) (i := i - goals.length) (by simpa using hout)]

/-- What a change keeps of an element it keeps of all of them. -/
private lemma forall_mem_modify {goals : List GoalHandle} {P : GoalHandle → Prop}
    (h : ∀ x ∈ goals, P x) (g : ℕ) {f : GoalHandle → GoalHandle} (hf : ∀ x, P x → P (f x)) :
    ∀ x ∈ goals.modify g f, P x := by
  intro x hx
  obtain ⟨i, hi⟩ := List.mem_iff_getElem?.mp hx
  rw [List.getElem?_modify] at hi
  obtain ⟨y, hy, rfl⟩ := Option.map_eq_some_iff.mp hi
  have hkept := h y (List.mem_of_getElem? hy)
  split
  · exact hf y hkept
  · exact hkept

private lemma AllEnded.modify {goals : List GoalHandle} (h : AllEnded goals) (g : ℕ)
    {f : GoalHandle → GoalHandle}
    (hf : ∀ x : GoalHandle, x.spawned = true ∧ x.terminal ≠ none →
      (f x).spawned = true ∧ (f x).terminal ≠ none) : AllEnded (goals.modify g f) :=
  forall_mem_modify h g hf

/-- Ending the last goal. -/
private lemma AllEnded.concat {goals : List GoalHandle} {h : GoalHandle} (hgoals : AllEnded goals)
    (hspawned : h.spawned = true) (hterminal : h.terminal ≠ none) : AllEnded (goals ++ [h]) := by
  intro x hx
  rcases List.mem_append.mp hx with hx | hx
  · exact hgoals x hx
  · obtain rfl := List.mem_singleton.mp hx
    exact ⟨hspawned, hterminal⟩

namespace Slot

variable {active admits : Bool} {goals : List GoalHandle} {thread : Option TaskThread}
  {t : TaskThread}

/-- The compare-exchange takes the flag. -/
lemma exchange (h : Slot false admits goals thread) : Slot true true goals thread := by
  cases h with
  | free hgoals hthread => exact .admitting hgoals hthread

/-- The goal of `handleGoal` is accepted. -/
lemma accept (h : Slot active true goals thread) (goal : ExecuteTaskGoal) :
    Slot active false (goals ++ [⟨goal, false, false, none⟩]) thread := by
  cases h with
  | admitting hgoals hthread => exact .accepted hgoals rfl rfl hthread

/-- A cancel request changes no phase. -/
lemma cancel (h : Slot active admits goals thread) (g : ℕ) :
    Slot active admits
      (goals.modify g fun h => { h with canceling := h.canceling || h.terminal.isNone })
      thread := by
  cases h with
  | free hgoals hthread => exact .free (hgoals.modify g fun x hx => hx) hthread
  | admitting hgoals hthread => exact .admitting (hgoals.modify g fun x hx => hx) hthread
  | accepted hgoals hspawned hterminal hthread =>
    rw [modify_concat]
    refine .accepted (hgoals.modify g fun x hx => hx) ?_ ?_ hthread <;> split <;> assumption
  | executing hgoals hspawned hterminal hg hgoal hphase =>
    rw [modify_concat]
    refine .executing (hgoals.modify g fun x hx => hx) ?_ ?_ (by simpa using hg) ?_ hphase <;>
      split <;> assumption

/-- A goal without a thread or without a terminal call is the last one. -/
lemma open_last (h : Slot active admits goals thread) {g : ℕ} {x : GoalHandle}
    (hx : goals[g]? = some x) (hopen : ¬(x.spawned = true ∧ x.terminal ≠ none)) :
    goals.length = g + 1 := by
  have hended {old : List GoalHandle} (hold : AllEnded old) (hx : old[g]? = some x) : False :=
    hopen (hold x (List.mem_of_getElem? hx))
  have hlast {old : List GoalHandle} {y : GoalHandle} (hold : AllEnded old)
      (hx : (old ++ [y])[g]? = some x) : (old ++ [y]).length = g + 1 := by
    rw [List.getElem?_append] at hx
    split at hx
    · exact (hended hold hx).elim
    · have hlt : g - old.length < [y].length := (List.getElem?_eq_some_iff.mp hx).1
      simp only [List.length_append, List.length_singleton] at hlt ⊢
      omega
  cases h with
  | free hgoals _ => exact (hended hgoals hx).elim
  | admitting hgoals _ => exact (hended hgoals hx).elim
  | accepted hgoals _ _ _ => exact hlast hgoals hx
  | executing hgoals _ _ _ _ _ => exact hlast hgoals hx

/-- The thread of the goal that waits for it is started. -/
lemma spawn (h : Slot active admits goals thread) {g : ℕ} {x : GoalHandle}
    (hx : goals[g]? = some x) (hspawned : x.spawned = false) :
    Slot active admits (goals.modify g fun h => { h with spawned := true })
      (some ⟨g, x.goal, .loop 1⟩) := by
  have hopen : ¬(x.spawned = true ∧ x.terminal ≠ none) := by simp [hspawned]
  have hlength := h.open_last hx hopen
  have hmem : x ∈ goals := List.mem_of_getElem? hx
  cases h with
  | free hgoals _ => exact (hopen (hgoals x hmem)).elim
  | admitting hgoals _ => exact (hopen (hgoals x hmem)).elim
  | @accepted old y _ hgoals _ hterminal _ =>
    obtain rfl : old.length = g := by simpa using hlength
    obtain rfl : y = x := by simpa using hx
    rw [modify_concat, if_pos rfl]
    refine .executing (hgoals.modify _ fun z hz => ⟨rfl, hz.2⟩) rfl ?_ (by simp) rfl ?_
    · simpa [TaskPoint.phase] using hterminal
    · simp [TaskPoint.phase]
  | @executing old y _ hgoals hspawned' _ _ _ _ =>
    obtain rfl : old.length = g := by simpa using hlength
    obtain rfl : y = x := by simpa using hx
    simp [hspawned] at hspawned'

/-- A task thread that has not given the flag back executes the last goal. -/
lemma of_unreleased (h : Slot active admits goals (some t)) (hp : t.point.phase ≠ .released) :
    active = true ∧ admits = false ∧ ∃ old x, goals = old ++ [x] ∧ AllEnded old ∧
      x.spawned = true ∧ (x.terminal = none ↔ t.point.phase ≠ .terminated) ∧
      t.g = old.length ∧ t.goal = x.goal := by
  cases h with
  | free _ hthread => exact (hp (released_some.mp hthread)).elim
  | admitting _ hthread => exact (hp (released_some.mp hthread)).elim
  | accepted _ _ _ hthread => exact (hp (released_some.mp hthread)).elim
  | executing hgoals hspawned hterminal hg hgoal _ =>
    exact ⟨rfl, rfl, _, _, rfl, hgoals, hspawned, hterminal, hg, hgoal⟩

/-- A task thread that executes its goal moves on before the terminal call. -/
lemma work (h : Slot active admits goals (some t))
    (ht : t.point.phase = .working ∨ t.point.phase = .stored) {p : TaskPoint}
    (hp : p.phase = .working ∨ p.phase = .stored) :
    Slot active admits goals (some { t with point := p }) := by
  have hrunning {q : TaskPhase} (hq : q = .working ∨ q = .stored) :
      q ≠ .released ∧ q ≠ .terminated := by
    rcases hq with rfl | rfl <;> simp
  obtain ⟨rfl, rfl, old, x, rfl, hgoals, hspawned, hterminal, hg, hgoal⟩ :=
    h.of_unreleased (hrunning ht).1
  have hopen : x.terminal = none := hterminal.mpr (hrunning ht).2
  exact .executing hgoals hspawned (iff_of_true hopen (hrunning hp).2) hg hgoal (hrunning hp).1

/-- A task thread that has given the flag back moves on. -/
lemma wind (h : Slot active admits goals (some t)) (ht : t.point.phase = .released)
    {p : TaskPoint} (hp : p.phase = .released) :
    Slot active admits goals (some { t with point := p }) := by
  cases h with
  | free hgoals _ => exact .free hgoals (by simpa using hp)
  | admitting hgoals _ => exact .admitting hgoals (by simpa using hp)
  | accepted hgoals hspawned hterminal _ =>
    exact .accepted hgoals hspawned hterminal (by simpa using hp)
  | executing _ _ _ _ _ hphase => exact (hphase ht).elim

/-- The terminal call ends the last goal. -/
lemma terminal (h : Slot active admits goals (some t)) (ht : t.point.phase = .stored)
    (result : TaskEnd) :
    Slot active admits (goals.modify t.g fun h => { h with terminal := some result })
      (some { t with point := .release result }) := by
  obtain ⟨rfl, rfl, old, x, rfl, hgoals, hspawned, -, hg, hgoal⟩ :=
    h.of_unreleased (by simp [ht])
  rw [modify_concat, if_pos hg]
  have hold := hgoals.modify t.g (f := fun h => { h with terminal := some result })
    fun z hz => ⟨hz.1, by simp⟩
  exact .executing hold hspawned (by simp [TaskPoint.phase]) (by simpa using hg) hgoal
    (by simp [TaskPoint.phase])

/-- The task thread gives the flag back. -/
lemma release (h : Slot active admits goals (some t)) (ht : t.point.phase = .terminated)
    {p : TaskPoint} (hp : p.phase = .released) :
    Slot false admits goals (some { t with point := p }) := by
  obtain ⟨rfl, rfl, old, x, rfl, hgoals, hspawned, hterminal, -, -⟩ :=
    h.of_unreleased (by simp [ht])
  have hended : x.terminal ≠ none := fun hopen => hterminal.mp hopen ht
  exact .free (hgoals.concat hspawned hended) (by simpa using hp)

/-- While `handleGoal` has the flag, all goals have ended and the old thread has returned it. -/
lemma of_admits (h : Slot active true goals thread) :
    active = true ∧ AllEnded goals ∧ Released thread := by
  cases h with
  | admitting hgoals hthread => exact ⟨rfl, hgoals, hthread⟩

/-- No goal is without its terminal call when nobody has the flag. -/
lemma of_inactive (h : Slot false admits goals thread) : AllEnded goals := by
  cases h with
  | free hgoals _ => exact hgoals

end Slot

/-! ### The invariant of the goals -/

namespace RuntimeProcess

/-- Who has the flag, that the goal of `handleAccepted` has no thread yet, and that `task_state_`
is stored by the task thread before it gives the flag back. -/
structure GoalInvariant (s : RuntimeProcess) : Prop where
  slot : Slot s.node.task.taskActive s.executor.admits s.goals s.taskThread
  unspawned : ∀ g h, s.executor.spawns = some g → s.goals[g]? = some h → h.spawned = false
  inactive : s.node.task.taskActive = false → s.node.task.taskState ≠ .running
  stored : ∀ t, s.taskThread = some t → t.point.phase = .stored ∨ t.point.phase = .terminated →
    s.node.task.taskState ≠ .running

variable {s s' : RuntimeProcess} {a : NodeAct} {out : List NodeEvent}

/-- While `handleGoal` has the flag, all goals have ended and the old thread has returned it. -/
lemma GoalInvariant.of_admits (h : GoalInvariant s) (hadmits : s.executor.admits = true) :
    s.node.task.taskActive = true ∧ AllEnded s.goals ∧ Released s.taskThread := by
  have hslot := h.slot
  rw [hadmits] at hslot
  exact hslot.of_admits

/-- A task thread that has not given the flag back executes the last goal, and `handleGoal` does
not have the flag. -/
lemma GoalInvariant.of_unreleased (h : GoalInvariant s) {t : TaskThread}
    (ht : s.taskThread = some t) (hp : t.point.phase ≠ .released) :
    s.executor.admits = false ∧ ∃ old x, s.goals = old ++ [x] ∧ t.g = old.length ∧
      t.goal = x.goal ∧ x.spawned = true := by
  have hslot := h.slot
  rw [ht] at hslot
  obtain ⟨-, hadmits, old, x, hgoals, -, hspawned, -, hg, hgoal⟩ := hslot.of_unreleased hp
  exact ⟨hadmits, old, x, hgoals, hg, hgoal, hspawned⟩

/-- Every step stays in its phase or goes to the next one. -/
private lemma Moves.slot (hm : Moves s a s' out) (h : GoalInvariant s) :
    Slot s'.node.task.taskActive s'.executor.admits s'.goals s'.taskThread := by
  have hs := h.slot
  -- most steps of the executor leave the flag, the goals and the thread alone
  have hkeep {p : ExecPoint} (hp : p.admits = s.executor.admits) :
      Slot s.node.task.taskActive p.admits s.goals s.taskThread := by
    rwa [hp]
  cases hm with
  | imu hx hnext | jointState hx _ hnext =>
    exact hkeep (ExecPoint.admits_congr (by rw [hnext, hx]; rfl))
  | quiet _ hstage =>
    rcases hstage with hstage | ⟨hadmits, hstage⟩
    · exact hkeep (ExecPoint.admits_congr hstage)
    · exact hkeep (by rw [hadmits, ExecPoint.admits_of_stage_none hstage])
  | reset hx | sense hx => exact hkeep (by rw [hx, UpdateCaller.next_admits]; rfl)
  | operate hx hnext => exact hkeep (ExecPoint.admits_congr (by rw [hnext, hx]))
  | standby hx | storeRunning hx | storeZero hx => exact hkeep (by rw [hx]; rfl)
  | startTask hx hnext => exact hkeep (by rw [hx, ExecPoint.admits_of_stage hnext]; rfl)
  | exchange hx hfree =>
    rw [hfree] at hs
    exact hs.exchange
  | accept hx =>
    rw [hx] at hs
    exact hs.accept _
  | cancelReturn hx =>
    rw [hx] at hs
    exact hs.cancel _
  | spawn hx hg =>
    rw [hx] at hs
    exact hs.spawn hg (h.unspawned _ _ (by rw [hx]; rfl) hg)
  | shutdown => exact hs
  | taskLoop ht hp | taskCanceling ht hp | taskDone ht hp | taskOk ht hp | taskNotOk ht hp
  | taskStoreStep ht hp | taskFeedback ht hp | taskIncrement ht hp | taskCancelStep ht hp =>
    rw [ht] at hs
    exact hs.work (.inl (by rw [hp]; rfl)) (.inl rfl)
  | taskStoreState ht hp =>
    rw [ht] at hs
    exact hs.work (.inl (by rw [hp]; rfl)) (.inr rfl)
  | taskTerminal ht hp =>
    rw [ht] at hs
    exact hs.terminal (by rw [hp]; rfl) _
  | taskRelease ht hp =>
    rw [ht] at hs
    exact hs.release (by rw [hp]; rfl) rfl
  | taskPost ht hp | taskLog ht hp =>
    rw [ht] at hs
    exact hs.wind (by rw [hp]; rfl) rfl

/-- A callback that is going to start a thread finds its goal without one. -/
private lemma Moves.unspawned (hm : Moves s a s' out) (h : GoalInvariant s) :
    ∀ g x, s'.executor.spawns = some g → s'.goals[g]? = some x → x.spawned = false := by
  have hu := h.unspawned
  have hvacuous {p : ExecPoint} (hp : p.spawns = none) (goals : List GoalHandle) :
      ∀ g x, p.spawns = some g → goals[g]? = some x → x.spawned = false := by
    intro g x hg
    rw [hp] at hg
    cases hg
  cases hm with
  | imu _ _ hspawn | jointState _ _ _ hspawn | operate _ _ hspawn | startTask _ _ hspawn =>
    exact hvacuous hspawn _
  | quiet _ _ hspawn =>
    intro g x hg hx
    rcases hspawn with hspawn | hspawn
    · exact hu g x (hspawn ▸ hg) hx
    · exact hspawn g x hg hx
  | reset | sense => exact hvacuous (UpdateCaller.next_cases _).1 _
  | standby | exchange | storeRunning | storeZero | accept | cancelReturn | spawn =>
    exact hvacuous rfl _
  | taskTerminal =>
    intro g x hg hx
    rw [List.getElem?_modify] at hx
    obtain ⟨y, hy, rfl⟩ := Option.map_eq_some_iff.mp hx
    have hspawned := hu g y hg hy
    split <;> exact hspawned
  | _ => exact hu

/-- When nobody has the flag, `task_state_` is not `RUNNING`. -/
private lemma Moves.inactive (hm : Moves s a s' out) (h : GoalInvariant s) :
    s'.node.task.taskActive = false → s'.node.task.taskState ≠ .running := by
  have hi := h.inactive
  cases hm with
  | exchange => simp
  | storeRunning hx =>
    have hadmits : s.executor.admits = true := by
      rw [hx]
      rfl
    intro hfree
    have hactive : s.node.task.taskActive = true := (h.of_admits hadmits).1
    exact absurd hactive (by simpa using hfree)
  | taskStoreState => exact fun _ => TaskEnd.state_ne_running _
  | taskRelease ht hp => exact fun _ => h.stored _ ht (.inr (by rw [hp]; rfl))
  | _ => exact hi

/-- `task_state_` has been stored when the terminal call is made. -/
private lemma Moves.stored (hm : Moves s a s' out) (h : GoalInvariant s) :
    ∀ t, s'.taskThread = some t → t.point.phase = .stored ∨ t.point.phase = .terminated →
      s'.node.task.taskState ≠ .running := by
  have hs := h.stored
  have hvacuous {t : TaskThread} {p : TaskPoint} (hp : p.phase = .working ∨ p.phase = .released)
      (state : TaskState) :
      ∀ u, some { t with point := p } = some u →
        u.point.phase = .stored ∨ u.point.phase = .terminated → state ≠ .running := by
    intro u hu hphase
    obtain rfl := Option.some.inj hu
    rcases hp with hp | hp <;> simp [hp] at hphase
  cases hm with
  | storeRunning hx =>
    have hadmits : s.executor.admits = true := by
      rw [hx]
      rfl
    intro t ht hphase
    -- the flag belongs to `handleGoal`, so the old thread has given it back
    have hreleased := (h.of_admits hadmits).2.2 t ht
    simp [hreleased] at hphase
  | spawn => exact hvacuous (t := ⟨_, _, .loop 1⟩) (.inl rfl) _
  | taskLoop | taskCanceling | taskDone | taskOk | taskNotOk | taskStoreStep | taskFeedback
  | taskIncrement | taskCancelStep => exact hvacuous (.inl rfl) _
  | taskRelease | taskPost | taskLog => exact hvacuous (.inr rfl) _
  | taskStoreState => exact fun _ _ _ => TaskEnd.state_ne_running _
  | taskTerminal ht hp => exact fun _ _ _ => hs _ ht (.inl (by rw [hp]; rfl))
  | _ => exact hs

/-- Every step keeps the invariant of the goals. -/
lemma Moves.goalInvariant (hm : Moves s a s' out) (h : GoalInvariant s) : GoalInvariant s' :=
  ⟨hm.slot h, hm.unspawned h, hm.inactive h, hm.stored h⟩

/-- The node starts with the flag free. -/
lemma goalInvariant_start : GoalInvariant .start where
  slot := .free (List.forall_mem_nil _) released_none
  unspawned := by simp [start, ExecPoint.spawns]
  inactive := by simp [start]
  stored := by simp [start]

end RuntimeProcess

/-- The invariant of the goals holds in every reachable state of the node. -/
lemma runtime_goalInvariant {s : RuntimeProcess} (h : runtimeSystem.Reachable s) :
    RuntimeProcess.GoalInvariant s := by
  obtain ⟨ts, hr⟩ := h
  refine hr.invariant ?_ fun s a s' out hi hs =>
    (RuntimeProcess.moves_of_step hs).goalInvariant hi
  rintro s rfl
  exact RuntimeProcess.goalInvariant_start

/-! ### The targets of the goals -/

namespace RuntimeProcess

/-- The goals that `handleGoal` is going to accept or has accepted have positive
`target_steps`. -/
structure PositiveTargets (s : RuntimeProcess) : Prop where
  considered : ∀ stage goal, s.executor.stage = some (stage, goal) → 0 < goal.targetSteps
  accepted : ∀ h ∈ s.goals, 0 < h.goal.targetSteps

variable {s s' : RuntimeProcess} {a : NodeAct} {out : List NodeEvent}

/-- Only goals with positive `target_steps` get past the first check. -/
lemma Moves.positiveTargets (hm : Moves s a s' out) (h : PositiveTargets s) :
    PositiveTargets s' := by
  have hnone {p : ExecPoint} (hp : p.stage = none) :
      ∀ stage goal, p.stage = some (stage, goal) → 0 < goal.targetSteps := by
    simp [hp]
  have hnext {p : ExecPoint} {stage : GoalStage} {goal : ExecuteTaskGoal}
      (hp : p.stage = some (stage, goal)) (hpos : 0 < goal.targetSteps) :
      ∀ stage goal, p.stage = some (stage, goal) → 0 < goal.targetSteps := by
    intro stage' goal' hstage
    rw [hp] at hstage
    cases hstage
    exact hpos
  have hmodify (g : ℕ) {f : GoalHandle → GoalHandle} (hf : ∀ x, (f x).goal = x.goal) :
      ∀ x ∈ s.goals.modify g f, 0 < x.goal.targetSteps :=
    forall_mem_modify h.accepted g fun x hx => by rwa [hf x]
  cases hm with
  | imu _ hstage | jointState _ _ hstage | operate _ hstage => exact ⟨hnone hstage, h.accepted⟩
  | quiet _ hstage =>
    rcases hstage with hstage | ⟨-, hstage⟩
    · exact ⟨fun stage goal hs => h.considered stage goal (hstage ▸ hs), h.accepted⟩
    · exact ⟨hnone hstage, h.accepted⟩
  | @reset _ caller | @sense _ caller =>
    rcases caller.next_cases.2 with hstage | ⟨goal, -, hpos, hstage⟩
    · exact ⟨hnone hstage, h.accepted⟩
    · exact ⟨hnext (by rw [hstage]; rfl) hpos, h.accepted⟩
  | standby hx | exchange hx | storeRunning hx | storeZero hx =>
    exact ⟨hnext rfl (h.considered _ _ (by rw [hx]; rfl)), h.accepted⟩
  | startTask hx hstage => exact ⟨hnext hstage (h.considered _ _ (by rw [hx]; rfl)), h.accepted⟩
  | accept hx =>
    refine ⟨hnone rfl, fun x hmem => ?_⟩
    rcases List.mem_append.mp hmem with hmem | hmem
    · exact h.accepted x hmem
    · obtain rfl := List.mem_singleton.mp hmem
      exact h.considered _ _ (by rw [hx]; rfl)
  | cancelReturn | spawn => exact ⟨hnone rfl, hmodify _ fun _ => rfl⟩
  | taskTerminal => exact ⟨h.considered, hmodify _ fun _ => rfl⟩
  | _ => exact ⟨h.considered, h.accepted⟩

end RuntimeProcess

/-- In every reachable state of the node the accepted goals have positive `target_steps`. -/
lemma runtime_positiveTargets {s : RuntimeProcess} (h : runtimeSystem.Reachable s) :
    RuntimeProcess.PositiveTargets s := by
  obtain ⟨ts, hr⟩ := h
  refine hr.invariant ?_ fun s a s' out hi hs =>
    (RuntimeProcess.moves_of_step hs).positiveTargets hi
  rintro s rfl
  exact ⟨by simp [RuntimeProcess.start, ExecPoint.stage], by simp [RuntimeProcess.start]⟩

/-! ### The last event of a task -/

namespace RuntimeProcess

/-- The step processes the `StartTask` of `handleGoal`. -/
def starts (s : RuntimeProcess) : NodeAct → Bool
  | .exec _ => (s.executor matches .goalStart _)
  | _ => false

/-- The task thread has given the flag back and has not yet processed its last event. -/
def owesTaskEnd (s : RuntimeProcess) : Bool :=
  s.taskThread.any fun t => t.point matches .post _

/-- In this step `handleGoal` does not overtake the last event of the old task thread. -/
def StartsInTurn (t : NodeTransition) : Prop :=
  t.pre.starts t.act = true → t.pre.owesTaskEnd = false

instance (t : NodeTransition) : Decidable (StartsInTurn t) :=
  inferInstanceAs (Decidable (_ = true → _ = false))

/-- A last event that is still owed is that of the latest goal, and no other goal has been
started. -/
def TaskEndInTurn (s : RuntimeProcess) : Prop :=
  ∀ t result, s.taskThread = some t → t.point = .post result →
    s.goals.length = t.g + 1 ∧ ∀ goal, s.executor.stage ≠ some (.started, goal)

variable {s s' : RuntimeProcess} {a : NodeAct} {out : List NodeEvent}

/-- A thread at its last event owes it. -/
private lemma owesTaskEnd_of {t : TaskThread} {result : TaskEnd} (ht : s.taskThread = some t)
    (hp : t.point = .post result) : s.owesTaskEnd = true := by
  simp [owesTaskEnd, ht, hp]

/-- A step that does not overtake the last event keeps the threads in turn. -/
private lemma Moves.taskEndInTurn (hm : Moves s a s' out) (hg : GoalInvariant s)
    (hturn : StartsInTurn ⟨s, a, s', out⟩) (h : TaskEndInTurn s) : TaskEndInTurn s' := by
  -- the thread and the number of goals stay, and the executor has started nothing
  have hstay {p : ExecPoint} {goals : List GoalHandle} (hlength : goals.length = s.goals.length)
      (hp : ∀ goal, p.stage = some (.started, goal) → s.executor.stage = some (.started, goal)) :
      ∀ t result, s.taskThread = some t → t.point = .post result →
        goals.length = t.g + 1 ∧ ∀ goal, p.stage ≠ some (.started, goal) := by
    intro t result ht hpoint
    obtain ⟨hlast, hstage⟩ := h t result ht hpoint
    exact ⟨hlength.trans hlast, fun goal hgoal => hstage goal (hp goal hgoal)⟩
  -- the thread is not at its last event
  have hbefore {t : TaskThread} {p : TaskPoint} (hp : ∀ result, p ≠ .post result) :
      ∀ u result, some { t with point := p } = some u → u.point = .post result →
        s'.goals.length = u.g + 1 ∧ ∀ goal, s'.executor.stage ≠ some (.started, goal) := by
    intro u result hu hpoint
    obtain rfl := Option.some.inj hu
    exact (hp result hpoint).elim
  cases hm with
  | imu _ hnext | jointState _ _ hnext | operate _ hnext =>
    exact hstay rfl fun goal hgoal => by simp [hnext] at hgoal
  | quiet _ hstage =>
    refine hstay rfl fun goal hgoal => ?_
    rcases hstage with hstage | ⟨-, hstage⟩
    · exact hstage ▸ hgoal
    · simp [hstage] at hgoal
  | @reset _ caller | @sense _ caller =>
    refine hstay rfl fun goal hgoal => ?_
    rcases caller.next_cases.2 with hnone | ⟨goal', -, -, hnext⟩
    · simp [hnone] at hgoal
    · simp [hnext, ExecPoint.stage] at hgoal
  | standby | exchange | storeRunning | storeZero =>
    exact hstay rfl fun goal hgoal => by simp [ExecPoint.stage] at hgoal
  | cancelReturn =>
    exact hstay (List.length_modify _ _ _) fun goal hgoal => by simp [ExecPoint.stage] at hgoal
  | startTask hx =>
    intro t result ht hpoint
    have howes : s.owesTaskEnd = true := owesTaskEnd_of ht hpoint
    have hnot : s.owesTaskEnd = false := hturn (by simp [starts, hx])
    simp [howes] at hnot
  | accept hx =>
    intro t result ht hpoint
    exact ((h t result ht hpoint).2 _ (by rw [hx]; rfl)).elim
  | spawn => exact hbefore (t := ⟨_, _, .loop 1⟩) (by simp)
  | shutdown => exact h
  | taskRelease ht hp =>
    intro u result hu hpoint
    obtain rfl := Option.some.inj hu
    obtain ⟨hadmits, old, x, hgoals, hindex, -, -⟩ :=
      hg.of_unreleased ht (by simp [hp, TaskPoint.phase])
    refine ⟨by simp [moveTask, hgoals, hindex], fun goal hstage => ?_⟩
    have hholds : s.executor.admits = true := ExecPoint.admits_of_stage hstage
    simp [hadmits] at hholds
  | _ => exact hbefore (by simp)

/-- Only the task thread processes events for a goal, as its last step but one. -/
private lemma Moves.of_executeTask (hm : Moves s a s' out) {g : ℕ} {event : RuntimeEvent}
    {r : RuntimeTransition} (he : .processed (.executeTask g) event r ∈ out) :
    ∃ t result, s.taskThread = some t ∧ t.point = .post result ∧ t.g = g := by
  have hprocessed {source : EventSource} {event' : RuntimeEvent} {r' : RuntimeTransition}
      (he : .processed (.executeTask g) event r ∈ RuntimeNode.processed source event' r') :
      source = .executeTask g := by
    rcases RuntimeNode.of_mem_processed he with he | ⟨line, he⟩
    · cases he
      rfl
    · cases he
  cases hm with
  | quiet _ _ _ hout => simpa [NodeEvent.isReport] using hout _ he
  | sense => cases hprocessed he
  | startTask => cases hprocessed he
  | operate _ _ _ hsource =>
    have hexecute := hprocessed he
    rcases hsource with ⟨hsource, -⟩ | hsource <;> simp [hsource] at hexecute
  | taskPost ht hp =>
    obtain rfl := EventSource.executeTask.inj (hprocessed he)
    exact ⟨_, _, ht, hp, rfl⟩
  | _ => simp at he

/-- The step processes the last event of a task for the latest accepted goal only, and not after
the `StartTask` of another one. -/
def EndsOwnGoal (t : NodeTransition) : Prop :=
  ∀ g event r, .processed (.executeTask g) event r ∈ t.out →
    t.pre.goals.length = g + 1 ∧ ∀ goal, t.pre.executor.stage ≠ some (.started, goal)

/-- The task thread processes its last event. -/
lemma exists_step_post {t : TaskThread} {result : TaskEnd} (ht : s.taskThread = some t)
    (hp : t.point = .post result) :
    ∃ s₂, s.step .task = some (s₂, RuntimeNode.processed (.executeTask t.g) result.event
      (s.node.runtimeStateMachine.transition result.event)) := by
  simp [step, stepTask, ht, hp, RuntimeNode.processRuntimeEvent_eq]

/-- After a step that overtakes the last event of the old task thread, this thread can process
it. -/
private lemma exists_not_endsOwnGoal (hstep : s.step a = some (s', out))
    (h : ¬StartsInTurn ⟨s, a, s', out⟩) :
    ∃ s₂ out₂, s'.step .task = some (s₂, out₂) ∧ ¬EndsOwnGoal ⟨s', .task, s₂, out₂⟩ := by
  obtain ⟨hstarts, howes⟩ : s.starts a = true ∧ s.owesTaskEnd = true := by
    simpa [StartsInTurn] using h
  obtain ⟨now, goal, rfl, hx⟩ : ∃ now goal, a = .exec now ∧ s.executor = .goalStart goal := by
    cases a <;> cases hx : s.executor <;> simp [starts, hx] at hstarts ⊢
  obtain ⟨t, ht, hp⟩ := (Option.any_eq_true _ _).mp howes
  obtain ⟨result, hp⟩ : ∃ result, t.point = .post result := by
    cases hp' : t.point <;> simp [hp'] at hp ⊢
  -- the other goal has been started, and the old thread stands where it stood
  have hpost : s'.executor.stage = some (.started, goal) ∧ s'.taskThread = some t := by
    simp only [step, stepExecutor, hx] at hstep
    cases hstep
    exact ⟨rfl, ht⟩
  obtain ⟨s₂, hs₂⟩ := exists_step_post hpost.2 hp
  refine ⟨s₂, _, hs₂, fun hends => ?_⟩
  exact (hends t.g result.event _ List.mem_cons_self).2 goal hpost.1

end RuntimeProcess

/-- **When a task ends before the next one starts.**  If in a run of the node `handleGoal` never
processes `StartTask` between the `task_active_.store(false)` and the last event of the old task
thread, then the event with which `executeTask` ends goal `g` is always processed while `g` is the
latest accepted goal and no `StartTask` has been processed for another one.  If it does so in some
step, then the old thread can process its event too late right afterwards. -/
theorem runtime_taskEnd_own_goal {ts : List NodeTransition} {s : RuntimeProcess}
    (h : runtimeSystem.Run ts s) :
    ((∀ t ∈ ts, RuntimeProcess.StartsInTurn t) → ∀ t ∈ ts, RuntimeProcess.EndsOwnGoal t) ∧
      ∀ us t vs, ts = us ++ t :: vs → ¬RuntimeProcess.StartsInTurn t →
        ∃ u s', runtimeSystem.Run (us ++ [t, u]) s' ∧ ¬RuntimeProcess.EndsOwnGoal u := by
  have hinvariant {us : List NodeTransition} {s : RuntimeProcess} (hr : runtimeSystem.Run us s)
      (hus : ∀ u ∈ us, RuntimeProcess.StartsInTurn u) : s.TaskEndInTurn := by
    refine hr.invariant_of_forall hus ?_ fun u hu hCu hpre hi => ?_
    · rintro _ rfl t result ht
      simp [RuntimeProcess.start] at ht
    · exact (RuntimeProcess.moves_of_step hu).taskEndInTurn (runtime_goalInvariant hpre) hCu hi
  constructor
  · intro hturn t ht g event r he
    obtain ⟨us, vs, rfl⟩ := List.append_of_mem ht
    obtain ⟨hr, hvalid⟩ := h.split
    obtain ⟨u, result, hu, hpoint, rfl⟩ := (RuntimeProcess.moves_of_step hvalid).of_executeTask he
    exact hinvariant hr (fun v hv => hturn v (List.mem_append_left _ hv)) u result hu hpoint
  · rintro us t vs rfl hnot
    obtain ⟨hr, hvalid⟩ := h.split
    obtain ⟨s₂, out₂, hstep, hlate⟩ := RuntimeProcess.exists_not_endsOwnGoal hvalid hnot
    have hstep' : runtimeSystem.step t.post .task = some (s₂, out₂) := hstep
    have hr₂ := (hr.snoc hvalid).snoc hstep'
    rw [List.append_assoc] at hr₂
    exact ⟨_, s₂, hr₂, hlate⟩

/-- Both sensors deliver, and a goal is accepted and gets its thread. -/
def acceptGoal (goal : ExecuteTaskGoal) : List NodeAct :=
  [.imu 0 "imu", .exec 0, .jointState 0 1 1 1, .exec 0, .goal goal, .exec 0, .exec 0, .exec 0,
    .exec 0, .exec 0, .exec 0, .exec 0, .exec 0, .accepted 0, .exec 0]

/-- A goal with one step. -/
def oneStep : ExecuteTaskGoal := ⟨1, by decide⟩

/-- The task thread of a goal with one step, up to its last event. -/
def oneStepTask : List NodeAct := List.replicate 9 .task

/-- An operator ends the task while its thread stands before its last event; the next goal is
accepted, and the old thread ends it. -/
def overtakingGoal : List NodeAct :=
  acceptGoal oneStep ++ oneStepTask ++
    [.applyEvent "TaskSucceeded", .exec 0, .exec 0, .exec 0, .goal oneStep, .exec 0, .exec 0,
      .exec 0, .exec 0, .exec 0, .exec 0, .exec 0, .exec 0, .task]

/-- The end of goal 0 takes the node out of the `Running` of goal 1. -/
theorem runtime_taskEnd_own_goal_overtakingGoal :
    ∃ ts s, runtimeSystem.Run ts s ∧ ∃ t ∈ ts, t.pre.goals.length = 2 ∧
      t.pre.node.runtimeStateMachine.state = .running ∧
      t.post.node.runtimeStateMachine.state = .standby ∧
      .processed (.executeTask 0) .taskSucceeded ⟨.running, .standby, .none, true⟩ ∈ t.out := by
  have hrun := System.run_of_exec runtimeSystem overtakingGoal rfl rfl
  refine ⟨_, _, hrun, _, List.mem_of_getElem? (i := 37) rfl, rfl, rfl, rfl, ?_⟩
  exact List.mem_cons_self

/-- A goal whose thread has processed its last event before the next goal comes. -/
def goalsInTurn : List NodeAct :=
  acceptGoal oneStep ++ oneStepTask ++
    [.task, .goal oneStep, .exec 0, .exec 0, .exec 0, .exec 0, .exec 0, .exec 0]

theorem runtime_taskEnd_own_goal_goalsInTurn :
    ∃ ts s, runtimeSystem.Run ts s ∧ s.node.runtimeStateMachine.state = .running ∧
      ∀ t ∈ ts, RuntimeProcess.EndsOwnGoal t := by
  have hrun := System.run_of_exec runtimeSystem goalsInTurn rfl rfl
  exact ⟨_, _, hrun, rfl, (runtime_taskEnd_own_goal hrun).1 (forall_of_all rfl)⟩

end SystemsDemos
