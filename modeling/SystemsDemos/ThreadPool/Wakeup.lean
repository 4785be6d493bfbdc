import SystemsDemos.ThreadPool.Basic
import SystemsDemos.Transition.CondVar

/-!
# No wakeup of the thread pool is lost

The condition variable of the pool follows the counting discipline of `CondVar`, stopped or not:
the available units are the queued tasks, and the owed notifications are the callers of `submit`
that have released the mutex and not called `notify_one` yet (`Moves.steps`).  Once the pool is
stopped nobody falls asleep any more, and whoever still sleeps is owed the `notify_all` of the
destructor (`StopOwed`).
-/

namespace SystemsDemos

open Relation CondVar

variable {ω κ T : Type*}

/-- The role of a worker for the condition variable. -/
def WorkerPoint.role : WorkerPoint T → Role
  | loop => .ready
  | waiting => .asleep
  | _ => .absent

/-- A worker whose task owes a `notify_one`. -/
def WorkerPoint.owesNotify : WorkerPoint T → Bool
  | notifying _ => true
  | _ => false

/-- A caller that owes a `notify_one`. -/
def SubmitterPoint.owesNotify : SubmitterPoint T → Bool
  | notifying => true
  | _ => false

namespace Pool

variable [Fintype ω] [DecidableEq ω] [Fintype κ] [DecidableEq κ]

/-- The state of the condition variable. -/
def condVar (s : Pool ω κ T) : CondVar :=
  ofRoles s.pool.tasks.length (fun w => (s.worker w).role)
    (tally WorkerPoint.owesNotify s.worker + tally SubmitterPoint.owesNotify s.submitter)

/-- No thread can make a step of the pool, the notifications included.  Tasks that are running
are left out: they may wait for something outside of the pool. -/
structure Stuck (v : Version) (s : Pool ω κ T) : Prop where
  worker : ∀ w woken, s.stepWorker v w woken = none
  submitter : ∀ k woken, s.stepSubmitter v k woken = none
  destructor : s.stepDestructor = none

section Notifications

variable {worker worker' : ω → WorkerPoint T} {woken : Option ω}

/-- Whoever sleeps, some choice of `notifyOne` is possible. -/
lemma exists_notifyOne (worker : ω → WorkerPoint T) :
    ∃ woken worker', notifyOne worker woken = some worker' := by
  by_cases h : ∃ w, worker w = .waiting
  · obtain ⟨w, hw⟩ := h
    exact ⟨some w, Function.update worker w .loop, by simp [notifyOne, hw]⟩
  · refine ⟨none, worker, if_neg ?_⟩
    rintro ⟨w, hw⟩
    cases hc : worker w <;> simp [hc] at hw
    exact h ⟨w, hc⟩

/-- `notify_one` wakes a sleeper and changes no debt. -/
private lemma wakes_of_notifyOne (h : notifyOne worker woken = some worker') :
    Wakes (fun w => (worker w).role) (fun w => (worker' w).role) ∧
      tally WorkerPoint.owesNotify worker' = tally WorkerPoint.owesNotify worker := by
  refine ⟨?_, Finset.sum_congr rfl fun w _ => congrArg _ (notifyOne_apply rfl h w)⟩
  rcases notifyOne_cases h with ⟨hnone, rfl⟩ | ⟨w, hw, rfl⟩
  · refine .inl ⟨fun w => ?_, rfl⟩
    have := hnone w
    cases hc : worker' w <;> simp_all [WorkerPoint.role]
  · exact .inr ⟨w, congrArg _ hw, role_update _ _ _ _⟩

omit [DecidableEq ω] in
/-- `notify_all` wakes every sleeper and changes no debt. -/
private lemma roles_notifyAll (worker : ω → WorkerPoint T) :
    (fun w => (notifyAll worker w).role) = (fun w => ((worker w).role).awake) ∧
      tally WorkerPoint.owesNotify (notifyAll worker) = tally WorkerPoint.owesNotify worker := by
  refine ⟨funext fun w => ?_,
    Finset.sum_congr rfl fun w _ => congrArg _ (notifyAll_apply rfl _ w)⟩
  cases hw : worker w <;> simp [notifyAll, hw, WorkerPoint.role, Role.awake]

end Notifications

namespace Moves

variable {v : Version} {s s' : Pool ω κ T} {a : PoolAct ω κ T} {out : List (PoolEvent T)}

/-- Every step follows the counting discipline of the condition variable. -/
theorem steps (h : Moves v s a s' out) : ReflTransGen Step s.condVar s'.condVar := by
  unfold condVar
  cases h with
  | @call k task hk =>
    simp only [tally_update_of_eq (p := SubmitterPoint.owesNotify) (c := .submitting task) hk rfl]
    exact .refl
  | accept hk _ _ =>
    simp only [tally_update_enter (p := SubmitterPoint.owesNotify) (c := .notifying) hk rfl rfl,
      List.length_append, List.length_singleton]
    exact .single step_post
  | refuse hk _ _ =>
    simp only [tally_update_of_eq (p := SubmitterPoint.owesNotify) (c := .idle) hk rfl]
    exact .refl
  | notify hk hwake =>
    obtain ⟨hwakes, hdebt⟩ := wakes_of_notifyOne hwake
    rw [tally_update_leave (p := SubmitterPoint.owesNotify) (c := .idle) hk rfl rfl, ← hdebt,
      ← Nat.add_assoc]
    exact .single (step_notify hwakes)
  | @taskCall w task sub hw =>
    simp only [tally_update_of_eq (p := WorkerPoint.owesNotify) (c := .submitting task sub) hw rfl]
    exact steps_of_same hw rfl
  | taskReturn hw =>
    simp only [tally_update_of_eq (p := WorkerPoint.owesNotify) (c := .loop) hw rfl, role_update]
    exact .single (step_arrive (congrArg _ hw))
  | @take w woken task rest hw htasks =>
    simp only [tally_update_of_eq (p := WorkerPoint.owesNotify) (c := .running task) hw rfl,
      role_update, htasks]
    exact .single (step_take (congrArg _ hw))
  | leave hw _ hempty =>
    simp only [tally_update_of_eq (p := WorkerPoint.owesNotify) (c := .returned) hw rfl,
      role_update, hempty]
    exact .single (step_leave (congrArg _ hw))
  | sleep hw _ hempty =>
    simp only [tally_update_of_eq (p := WorkerPoint.owesNotify) (c := .waiting) hw rfl,
      role_update, hempty]
    exact .single (step_sleep (congrArg _ hw))
  | @taskAccept w woken task sub hw _ =>
    simp only [tally_update_enter (p := WorkerPoint.owesNotify) (c := .notifying task) hw rfl rfl,
      List.length_append, List.length_singleton, Nat.add_right_comm _ 1]
    rw [role_update_same (c := .notifying task) hw rfl]
    exact .single step_post
  | @taskRefuse w woken task sub hw _ _ =>
    simp only [tally_update_of_eq (p := WorkerPoint.owesNotify) (c := .running task) hw rfl]
    exact steps_of_same hw rfl
  | @taskNotify w woken task worker hw hwake =>
    obtain ⟨hwakes, hdebt⟩ := wakes_of_notifyOne hwake
    have hw' : worker w = .notifying task :=
      (notifyOne_of_awake hwake (by rw [hw]; simp)).trans hw
    rw [← hdebt,
      tally_update_leave (p := WorkerPoint.owesNotify) (c := .running task) hw' rfl rfl,
      Nat.add_right_comm _ 1]
    dsimp only
    rw [role_update_same (c := .running task) hw' rfl]
    exact .single (step_notify hwakes)
  | spurious hw =>
    simp only [tally_update_of_eq (p := WorkerPoint.owesNotify) (c := .loop) hw rfl, role_update]
    exact .single (step_spurious (congrArg _ hw))
  | destroy _ => exact .refl
  | notifyAll _ =>
    simp only [roles_notifyAll]
    exact .single step_broadcast
  | joined _ _ => exact .refl

end Moves

/-- On a stopped pool every sleeper is owed the `notify_all` of the destructor. -/
structure StopOwed (s : Pool ω κ T) : Prop where
  started : s.pool.stop = true ↔ s.destructor ≠ .notStarted
  owed : s.pool.stop = true → s.destructor = .notifying ∨ ∀ w, s.worker w ≠ .waiting

variable {v : Version} {s s' : Pool ω κ T} {a : PoolAct ω κ T} {out : List (PoolEvent T)}

omit [Fintype κ] in
/-- A worker falls asleep only while the pool is not stopped. -/
private lemma Moves.waiting_before (h : Moves v s a s' out) {w : ω} (hw : s'.worker w = .waiting) :
    s.worker w = .waiting ∨ s.pool.stop = false := by
  have hnotify {worker : ω → WorkerPoint T} {woken : Option ω}
      (hwake : notifyOne s.worker woken = some worker) (hw : worker w = .waiting) :
      s.worker w = .waiting := by
    rcases notifyOne_cases hwake with ⟨-, rfl⟩ | ⟨w', -, rfl⟩
    · exact hw
    · rcases eq_or_ne w w' with rfl | hne
      · simp at hw
      · rwa [Function.update_of_ne hne] at hw
  cases h with
  | sleep _ hstop _ => exact .inr hstop
  | notify _ hwake => exact .inl (hnotify hwake hw)
  | @taskNotify w' _ _ _ _ hwake =>
    rcases eq_or_ne w w' with rfl | hne
    · simp at hw
    · exact .inl (hnotify hwake (by simpa [Function.update_of_ne hne] using hw))
  | notifyAll _ =>
    refine .inl ?_
    cases hc : s.worker w <;> simp_all [Pool.notifyAll]
  | @taskCall w' | @taskReturn w' | @take w' | @leave w' | @taskAccept w' | @taskRefuse w'
  | @spurious w' =>
    rcases eq_or_ne w w' with rfl | hne
    · simp at hw
    · exact .inl (by simpa [Function.update_of_ne hne] using hw)
  | _ => exact .inl hw

omit [Fintype κ] in
/-- Every step keeps the sleepers of a stopped pool owed their notification. -/
lemma StopOwed.step (h : StopOwed s) (hm : Moves v s a s' out) : StopOwed s' where
  started := by
    have hs := h.started
    cases hm <;> simp_all [ThreadPool.setStop]
  owed hstop := by
    have hawake (hs : s.pool.stop = true) (hnone : ∀ w, s.worker w ≠ .waiting) :
        ∀ w, s'.worker w ≠ .waiting := fun w hw =>
      (hm.waiting_before hw).elim (hnone w) (by simp [hs])
    cases hm with
    | destroy _ => exact .inl rfl
    | notifyAll _ =>
      refine .inr fun w hw => ?_
      cases hc : s.worker w <;> simp_all [Pool.notifyAll]
    | joined hd _ =>
      exact .inr (hawake hstop ((h.owed hstop).resolve_left (by simp [hd])))
    | _ => exact (h.owed hstop).imp id (hawake hstop)

/-! ### Stuck states -/

namespace Stuck

omit [Fintype κ] in
/-- In a stuck state every worker is asleep, in a running task or out of the loop. -/
lemma resting (h : Stuck v s) (w : ω) :
    s.worker w = .waiting ∨ (∃ task, s.worker w = .running task) ∨ s.worker w = .returned := by
  have hstep := h.worker w
  cases hw : s.worker w with
  | loop =>
    have hnone := hstep none
    simp only [stepWorker, hw] at hnone
    split at hnone
    · split at hnone <;> cases hnone
    · cases hnone
  | submitting task sub =>
    have hnone := hstep none
    simp only [stepWorker, hw] at hnone
    split at hnone <;> cases hnone
  | notifying task =>
    obtain ⟨woken, worker', hwake⟩ := exists_notifyOne s.worker
    have hnone := hstep woken
    simp [stepWorker, hw, hwake] at hnone
  | waiting => exact .inl rfl
  | running task => exact .inr (.inl ⟨task, rfl⟩)
  | returned => exact .inr (.inr rfl)

omit [Fintype κ] in
/-- In a stuck state no caller owes a notification. -/
lemma submitter_owes (h : Stuck v s) (k : κ) : (s.submitter k).owesNotify = false := by
  cases hk : s.submitter k with
  | notifying =>
    obtain ⟨woken, worker', hwake⟩ := exists_notifyOne s.worker
    have hnone := h.submitter k woken
    simp [stepSubmitter, hk, hwake] at hnone
  | _ => rfl

/-- In a stuck state nobody is about to look at the predicate and no notification is pending. -/
lemma quiet (h : Stuck v s) : s.condVar.ready = 0 ∧ s.condVar.pending = 0 := by
  constructor
  · refine ofRoles_ready_eq_zero_iff.mpr fun w => ?_
    rcases h.resting w with hw | ⟨task, hw⟩ | hw <;> simp [hw, WorkerPoint.role]
  · have hworkers : tally WorkerPoint.owesNotify s.worker = 0 :=
      tally_eq_zero_iff.mpr fun w => by
        rcases h.resting w with hw | ⟨task, hw⟩ | hw <;> rw [hw] <;> rfl
    have hsubmitters : tally SubmitterPoint.owesNotify s.submitter = 0 :=
      tally_eq_zero_iff.mpr h.submitter_owes
    simp [condVar, ofRoles, hworkers, hsubmitters]

end Stuck

end Pool

variable [Fintype ω] [DecidableEq ω] [Fintype κ] [DecidableEq κ] {v : Version} {s : Pool ω κ T}

/-- In every reachable state the queued tasks are covered. -/
lemma pool_covered {ts} (h : (poolSystem v ω κ T).Run ts s) : s.condVar.Covered := by
  refine h.invariant (I := fun s : Pool ω κ T => s.condVar.Covered) ?_ fun s a s' out hc hs =>
    hc.of_steps (Pool.moves_of_step hs).steps
  rintro s rfl
  exact .inl (ofRoles_waiting_eq_zero_iff.mpr fun w => by simp [WorkerPoint.role])

omit [Fintype κ] in
/-- In every reachable state the sleepers of a stopped pool are owed a notification. -/
lemma pool_stopOwed {ts} (h : (poolSystem v ω κ T).Run ts s) : s.StopOwed := by
  refine h.invariant ?_ fun s a s' out hI hs => hI.step (Pool.moves_of_step hs)
  rintro s rfl
  exact ⟨by simp [ThreadPool.new], by simp [ThreadPool.new]⟩

/-- **No worker is left asleep.**  In every reachable state of either version in which no
notification is pending and no thread can make a step of the pool, no worker sleeps while a task
is queued; and if moreover the pool is stopped and every task has returned, every worker has left
its loop and the destructor has returned. -/
theorem pool_no_lost_wakeup {ts} (h : (poolSystem v ω κ T).Run ts s) (hstuck : s.Stuck v) :
    (∀ w, s.worker w = .waiting → s.pool.tasks = []) ∧
      (s.pool.stop = true → (∀ w, (s.worker w).current = none) →
        (∀ w, s.worker w = .returned) ∧ s.destructor = .returned) := by
  constructor
  · intro w hw
    rcases (pool_covered h).quiescent hstuck.quiet.1 hstuck.quiet.2 with hnone | hempty
    · exact absurd (congrArg _ hw) (ofRoles_waiting_eq_zero_iff.mp hnone w)
    · exact List.length_eq_zero_iff.mp hempty
  · intro hstop hdone
    have howed := pool_stopOwed h
    -- the destructor cannot be about to notify, since that would be a step
    have hnotifying : s.destructor ≠ .notifying := fun hd => by
      have hnone := hstuck.destructor
      simp [Pool.stepDestructor, hd] at hnone
    have hawake := (howed.owed hstop).resolve_left hnotifying
    have hleft : ∀ w, s.worker w = .returned := fun w => by
      rcases hstuck.resting w with hw | ⟨task, hw⟩ | hw
      · exact absurd hw (hawake w)
      · simpa [hw, WorkerPoint.current] using hdone w
      · exact hw
    refine ⟨hleft, ?_⟩
    have hnone := hstuck.destructor
    cases hd : s.destructor with
    | notStarted => exact absurd hd (howed.started.mp hstop)
    | notifying => exact absurd hd hnotifying
    | joining => simp [Pool.stepDestructor, hd, hleft] at hnone
    | returned => rfl

/-- Two workers: one sleeps when the pool is stopped, the other runs a task to its end. -/
def stopWhileAsleep : List (PoolAct Bool Unit ℕ) :=
  [.worker false none, .call () 7, .submitter () none, .worker true none,
    .submitter () (some false), .worker false none, .destroy, .destructor, .taskReturn true,
    .worker true none, .worker false none, .destructor]

theorem pool_no_lost_wakeup_stopWhileAsleep :
    ∃ ts s, (poolSystem .chatServer Bool Unit ℕ).Run ts s ∧
      (∀ w, s.worker w = .returned) ∧ s.destructor = .returned := by
  have hrun := System.run_of_exec (poolSystem .chatServer Bool Unit ℕ) stopWhileAsleep rfl rfl
  refine ⟨_, _, hrun, (pool_no_lost_wakeup hrun ⟨?_, ?_, rfl⟩).2 rfl ?_⟩
  · intro w woken
    cases w <;> rfl
  · intro k woken
    cases k
    rfl
  · intro w
    cases w <;> rfl

end SystemsDemos
