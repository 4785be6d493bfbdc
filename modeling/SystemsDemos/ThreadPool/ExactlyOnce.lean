import SystemsDemos.ThreadPool.Basic
import SystemsDemos.Transition.Fifo
import SystemsDemos.Transition.Tally

/-!
# Every accepted task runs exactly once

The pool is a first-in first-out channel from the accepted to the started tasks
(`pool_isFifo`), and a started task is running on exactly one worker until it has returned
(`Balanced`).  What is left is that nothing stays in the queue: a worker leaves its loop only
when the pool is stopped and the queue is empty, so when all have left the queue is empty,
unless a task is accepted after that.

The practice version refuses such a task.  The chat server's `submit` does not look at the stop
flag: a call that overlaps the destructor and takes the mutex after the last worker has left
queues a task that nobody runs (`lateSubmit`).  `InTime` excludes exactly these calls, and an
overflow of the `int` that counts the refused ones.
-/

namespace SystemsDemos

variable {ω κ T : Type*} [Fintype ω] [DecidableEq ω] [DecidableEq κ] {v : Version}

namespace Pool.Moves

variable {s s' : Pool ω κ T} {a : PoolAct ω κ T} {out : List (PoolEvent T)}

/-- Every move conserves the queue together with what it accepts and starts. -/
lemma conserves (h : Moves v s a s' out) :
    s.pool.tasks ++ out.filterMap PoolEvent.accepted =
      out.filterMap PoolEvent.started ++ s'.pool.tasks := by
  cases h <;> simp_all [List.filterMap_cons, ThreadPool.setStop]

/-- A stopped pool stays stopped. -/
lemma stop_of_stop (h : Moves v s a s' out) (hs : s.pool.stop = true) :
    s'.pool.stop = true := by
  cases h <;> simp_all [ThreadPool.setStop]

end Pool.Moves

/-- The pool is a first-in first-out channel from the accepted to the started tasks. -/
theorem pool_isFifo : IsFifo (poolSystem v ω κ T) (fun s => s.pool.tasks)
    PoolEvent.accepted PoolEvent.started where
  init := by
    rintro s rfl
    rfl
  step s a s' out h := (Pool.moves_of_step h).conserves

/-! ### Started and finished tasks -/

/-- The worker is running the given task. -/
def WorkerPoint.runs [DecidableEq T] (task : T) (p : WorkerPoint T) : Bool :=
  decide (p.current = some task)

namespace Pool

variable {s s' : Pool ω κ T} {a : PoolAct ω κ T} {obs out : List (PoolEvent T)}

/-- A task has been started as often as it has returned, plus the workers that run it now. -/
def Balanced [DecidableEq T] (obs : List (PoolEvent T)) (s : Pool ω κ T) : Prop :=
  ∀ task, (obs.filterMap PoolEvent.started).count task =
    (obs.filterMap PoolEvent.finished).count task + tally (WorkerPoint.runs task) s.worker

/-- How the number of workers on a task moves with one of them. -/
private lemma tally_worker [DecidableEq T] {worker : ω → WorkerPoint T} {w : ω}
    {p : WorkerPoint T} (hw : worker w = p) (p' : WorkerPoint T) (task : T) :
    tally (WorkerPoint.runs task) (Function.update worker w p') + (p.runs task).toNat =
      tally (WorkerPoint.runs task) worker + (p'.runs task).toNat :=
  hw ▸ tally_update _ _ _ _

/-- A notification changes no task of any worker. -/
private lemma tally_notifyOne [DecidableEq T] {worker worker' : ω → WorkerPoint T}
    {woken : Option ω} (h : notifyOne worker woken = some worker') (task : T) :
    tally (WorkerPoint.runs task) worker' = tally (WorkerPoint.runs task) worker :=
  Finset.sum_congr rfl fun w _ => congrArg _ (notifyOne_apply (f := WorkerPoint.runs task) rfl h w)

omit [DecidableEq ω] in
private lemma tally_notifyAll [DecidableEq T] (worker : ω → WorkerPoint T) (task : T) :
    tally (WorkerPoint.runs task) (notifyAll worker) = tally (WorkerPoint.runs task) worker :=
  Finset.sum_congr rfl fun w _ =>
    congrArg _ (notifyAll_apply (f := WorkerPoint.runs task) rfl worker w)

/-- Every step keeps the started tasks balanced. -/
lemma Balanced.step [DecidableEq T] (h : Balanced obs s) (hm : Moves v s a s' out) :
    Balanced (obs ++ out) s' := by
  intro task
  rw [List.filterMap_append, List.filterMap_append, List.count_append, List.count_append, h task]
  cases hm with
  | call | accept | refuse | destroy | joined => simp [List.filterMap_cons]
  | notify hk hwake => simp [tally_notifyOne hwake]
  | @taskCall w t sub hw =>
    have ht := tally_worker hw (.submitting t sub) task
    simp_all [WorkerPoint.runs, WorkerPoint.current]
  | @taskReturn w t hw =>
    have ht := tally_worker hw .loop task
    rcases eq_or_ne t task with rfl | hne
    · simp_all [WorkerPoint.runs, WorkerPoint.current, List.filterMap_cons]
      omega
    · simp_all [WorkerPoint.runs, WorkerPoint.current, List.filterMap_cons]
  | @take w woken t rest hw htasks =>
    have ht := tally_worker hw (.running t) task
    rcases eq_or_ne t task with rfl | hne
    · simp_all [WorkerPoint.runs, WorkerPoint.current, List.filterMap_cons]
      omega
    · simp_all [WorkerPoint.runs, WorkerPoint.current, List.filterMap_cons]
  | @leave w woken hw _ _ =>
    have ht := tally_worker hw .returned task
    simp_all [WorkerPoint.runs, WorkerPoint.current]
  | @sleep w woken hw _ _ =>
    have ht := tally_worker hw .waiting task
    simp_all [WorkerPoint.runs, WorkerPoint.current]
  | @taskAccept w woken t sub hw _ =>
    have ht := tally_worker hw (.notifying t) task
    simp_all [WorkerPoint.runs, WorkerPoint.current, List.filterMap_cons]
  | @taskRefuse w woken t sub hw _ _ =>
    have ht := tally_worker hw (.running t) task
    simp_all [WorkerPoint.runs, WorkerPoint.current, List.filterMap_cons]
  | @taskNotify w woken t worker hw hwake =>
    have hw' : worker w = .notifying t :=
      (notifyOne_of_awake hwake (by rw [hw]; simp)).trans hw
    have ht := tally_worker hw' (.running t) task
    simp_all [WorkerPoint.runs, WorkerPoint.current, tally_notifyOne hwake]
  | @spurious w hw =>
    have ht := tally_worker hw .loop task
    simp_all [WorkerPoint.runs, WorkerPoint.current]
  | notifyAll hd => simp [tally_notifyAll]

/-! ### Nothing stays in the queue -/

/-- The task whose `submit` takes the mutex in this step. -/
def submitsNow (s : Pool ω κ T) : PoolAct ω κ T → Option T
  | .submitter k _ =>
      match s.submitter k with
      | .submitting task => some task
      | _ => none
  | .worker w _ =>
      match s.worker w with
      | .submitting _ sub => some sub
      | _ => none
  | _ => none

/-- No `submit` comes too late in this step: the chat server's takes the mutex while some worker
is still there, and the practice version can still count the calls it refuses. -/
def InTime (v : Version) (t : Transition (Pool ω κ T) (PoolAct ω κ T) (PoolEvent T)) : Prop :=
  (t.pre.submitsNow t.act).isSome = true →
    match v with
    | .chatServer => ∃ w, (t.pre.worker w matches .returned) = false
    | .practice => t.pre.pool.stop = true → t.pre.pool.rejectedCount < 2 ^ 31 - 1

instance (v : Version) (t : Transition (Pool ω κ T) (PoolAct ω κ T) (PoolEvent T)) :
    Decidable (InTime v t) :=
  match v with
  | .chatServer =>
      inferInstanceAs (Decidable (_ → ∃ w, (t.pre.worker w matches .returned) = false))
  | .practice =>
      inferInstanceAs (Decidable (_ → t.pre.pool.stop = true → t.pre.pool.rejectedCount < _))

/-- What the workers that have left the loop say about the pool. -/
structure WoundUp (s : Pool ω κ T) : Prop where
  stopped : ∀ w, s.worker w = .returned → s.pool.stop = true
  joined : s.destructor = .returned → ∀ w, s.worker w = .returned
  drained : (∀ w, s.worker w = .returned) → s.pool.tasks = []

/-- Waking changes neither which workers have left the loop. -/
private lemma returned_of_notifyOne {worker worker' : ω → WorkerPoint T} {woken : Option ω}
    (h : notifyOne worker woken = some worker') (w : ω) :
    worker' w = .returned ↔ worker w = .returned := by
  have hw := notifyOne_apply (f := fun p => p = .returned) (by simp) h w
  exact iff_of_eq hw

/-- A worker that has left the loop does not come back. -/
lemma Moves.returned (hm : Moves v s a s' out) {w : ω} (hw : s.worker w = .returned) :
    s'.worker w = .returned := by
  cases hm with
  | notify _ hwake => exact (returned_of_notifyOne hwake w).mpr hw
  | @taskNotify w' _ t worker hw' hwake =>
    have hne : w ≠ w' := by rintro rfl; simp [hw] at hw'
    simpa [Function.update_of_ne hne] using (returned_of_notifyOne hwake w).mpr hw
  | notifyAll _ => simp [Pool.notifyAll, hw]
  | @taskCall w' _ _ hw' | @taskReturn w' _ hw' | @take w' _ _ _ hw' | @leave w' _ hw'
  | @sleep w' _ hw' | @taskAccept w' _ _ _ hw' | @taskRefuse w' _ _ _ hw'
  | @spurious w' hw' =>
    have hne : w ≠ w' := by rintro rfl; simp [hw] at hw'
    simpa [Function.update_of_ne hne] using hw
  | _ => exact hw

/-- A worker leaves the loop only when the pool is stopped and nothing is queued. -/
lemma Moves.returned_before (hm : Moves v s a s' out) {w : ω} (hw : s'.worker w = .returned) :
    s.worker w = .returned ∨ s.pool.stop = true ∧ s'.pool.tasks = [] := by
  cases hm with
  | leave _ hstop hempty => exact .inr ⟨hstop, hempty⟩
  | notify _ hwake => exact .inl ((returned_of_notifyOne hwake w).mp hw)
  | @taskNotify w' _ t worker hw' hwake =>
    rcases eq_or_ne w w' with rfl | hne
    · simp at hw
    · simp only [Function.update_of_ne hne] at hw
      exact .inl ((returned_of_notifyOne hwake w).mp hw)
  | notifyAll _ =>
    refine .inl ?_
    cases hc : s.worker w <;> simp_all [Pool.notifyAll]
  | @taskCall w' | @taskReturn w' | @take w' | @sleep w' | @taskAccept w' | @taskRefuse w'
  | @spurious w' =>
    rcases eq_or_ne w w' with rfl | hne
    · simp at hw
    · exact .inl (by simpa [Function.update_of_ne hne] using hw)
  | _ => exact .inl hw

/-- The destructor returns when all workers have left the loop. -/
lemma Moves.destroyed_before (hm : Moves v s a s' out) (hd : s'.destructor = .returned) :
    s.destructor = .returned ∨ ∀ w, s.worker w = .returned := by
  cases hm with
  | joined _ hall => exact .inr hall
  | destroy | notifyAll => cases hd
  | _ => exact .inl hd

/-- A step that accepts a task is the critical section of a `submit`; in the practice version the
pool is not stopped then. -/
lemma Moves.accepts (hm : Moves v s a s' out) :
    out.filterMap PoolEvent.accepted = [] ∨
      (s.submitsNow a).isSome = true ∧ (v = .practice → s.pool.stop = false) := by
  cases hm with
  | accept hk _ hopen => exact .inr ⟨by simp [submitsNow, hk], hopen⟩
  | taskAccept hw hopen => exact .inr ⟨by simp [submitsNow, hw], hopen⟩
  | _ => exact .inl rfl

/-- Every step in time keeps the account of the workers that have left. -/
lemma WoundUp.step [Nonempty ω] (h : WoundUp s) (hm : Moves v s a s' out)
    (hin : InTime v ⟨s, a, s', out⟩) : WoundUp s' where
  stopped w hw :=
    hm.stop_of_stop ((hm.returned_before hw).elim (h.stopped w) And.left)
  joined hd w := hm.returned ((hm.destroyed_before hd).elim (fun hd => h.joined hd w) (· w))
  drained hall := by
    by_cases hbefore : ∀ w, s.worker w = .returned
    · -- everybody had left: nothing was queued, and nothing can be accepted in time
      have hnone : out.filterMap PoolEvent.accepted = [] := by
        refine hm.accepts.resolve_right ?_
        rintro ⟨hnow, hopen⟩
        have hin := hin hnow
        cases v with
        | chatServer =>
          obtain ⟨w, hw⟩ := hin
          simp [hbefore w] at hw
        | practice =>
          have hstop := h.stopped (Classical.arbitrary ω) (hbefore _)
          simp [hopen rfl] at hstop
      have hcons := hm.conserves
      rw [hnone, h.drained hbefore, List.append_nil] at hcons
      exact (List.append_eq_nil_iff.mp hcons.symm).2
    · obtain ⟨w, hw⟩ := not_forall.mp hbefore
      exact ((hm.returned_before (hall w)).resolve_left hw).2

/-! ### The refused calls -/

/-- The counter of refused calls is the number of them. -/
def CountsRejected (obs : List (PoolEvent T)) (s : Pool ω κ T) : Prop :=
  s.pool.rejectedCount = (obs.filterMap PoolEvent.rejected).length

/-- Every step in time keeps the counter right. -/
lemma CountsRejected.step (h : CountsRejected obs s) (hm : Moves v s a s' out)
    (hin : InTime v ⟨s, a, s', out⟩) : CountsRejected (obs ++ out) s' := by
  have hcount (hnow : (s.submitsNow a).isSome = true) (hv : v = .practice)
      (hstop : s.pool.stop = true) :
      (s.pool.rejectedCount + 1).bmod (2 ^ 32) =
        ((obs.filterMap PoolEvent.rejected).length + 1 : ℕ) := by
    subst hv
    have hlt := hin hnow hstop
    unfold CountsRejected at h
    simp only [h] at hlt ⊢
    rw [Int.bmod_eq_of_le (by omega) (by omega)]
    omega
  unfold CountsRejected at *
  cases hm with
  | refuse hk hv hstop =>
    simpa [List.filterMap_cons] using hcount (by simp [submitsNow, hk]) hv hstop
  | taskRefuse hw hv hstop =>
    simpa [List.filterMap_cons] using hcount (by simp [submitsNow, hw]) hv hstop
  | destroy => simpa [ThreadPool.setStop] using h
  | _ => simpa [List.filterMap_cons] using h

end Pool

/-! ### Whole runs -/

variable {s : Pool ω κ T} {ts : List (Transition (Pool ω κ T) (PoolAct ω κ T) (PoolEvent T))}

/-- In every run the started tasks are balanced. -/
lemma pool_balanced [DecidableEq T] (h : (poolSystem v ω κ T).Run ts s) :
    Pool.Balanced (observations ts) s := by
  refine h.invariant_history (I := fun ts s => Pool.Balanced (observations ts) s) ?_ ?_
  · rintro s rfl task
    simp [tally, WorkerPoint.runs, WorkerPoint.current]
  · intro ts s a s' out _ ih hs
    rw [observations_append, observations_singleton]
    exact ih.step (Pool.moves_of_step hs)

/-- In every run in time the workers that have left are accounted for. -/
lemma pool_woundUp [Nonempty ω] (h : (poolSystem v ω κ T).Run ts s)
    (hin : ∀ t ∈ ts, Pool.InTime v t) : s.WoundUp := by
  refine h.invariant_of_forall hin ?_ fun t ht hC _ hI =>
    hI.step (Pool.moves_of_step ht) hC
  rintro s rfl
  exact ⟨by simp, by simp, fun _ => rfl⟩

/-- In every run in time the refused calls are counted. -/
lemma pool_countsRejected (h : (poolSystem v ω κ T).Run ts s)
    (hin : ∀ t ∈ ts, Pool.InTime v t) : Pool.CountsRejected (observations ts) s := by
  revert hin
  refine h.invariant_history (I := fun ts s => (∀ t ∈ ts, Pool.InTime v t) →
    Pool.CountsRejected (observations ts) s) ?_ ?_
  · rintro s rfl -
    rfl
  · intro ts s a s' out _ ih hs hin
    rw [observations_append, observations_singleton]
    exact (ih fun t ht => hin t (List.mem_append_left _ ht)).step (Pool.moves_of_step hs)
      (hin _ (by simp))

/-- **A pool runs every accepted task exactly once.**  In every run in which no `submit` comes too
late: the tasks have been started in the order in which they were accepted; when the destructor
has returned, every accepted task has been started and has returned, each as often as it was
accepted; and the practice version has counted the calls that returned false. -/
theorem pool_runs_accepted_once [Nonempty ω] (h : (poolSystem v ω κ T).Run ts s)
    (hin : ∀ t ∈ ts, Pool.InTime v t) :
    (observations ts).filterMap PoolEvent.started <+:
        (observations ts).filterMap PoolEvent.accepted ∧
      (s.destructor = .returned →
        (observations ts).filterMap PoolEvent.started =
            (observations ts).filterMap PoolEvent.accepted ∧
          ((observations ts).filterMap PoolEvent.finished).Perm
            ((observations ts).filterMap PoolEvent.accepted)) ∧
      (v = .practice →
        s.pool.rejectedCount = ((observations ts).filterMap PoolEvent.rejected).length) := by
  refine ⟨pool_isFifo.received_prefix h, fun hd => ?_, fun _ => pool_countsRejected h hin⟩
  have hleft := (pool_woundUp h hin).joined hd
  have hstarted := pool_isFifo.received_eq_sent h ((pool_woundUp h hin).drained hleft)
  refine ⟨hstarted, ?_⟩
  classical
  refine List.perm_iff_count.mpr fun task => ?_
  -- nobody runs a task any more
  have hnone : tally (WorkerPoint.runs task) s.worker = 0 :=
    tally_eq_zero_iff.mpr fun w => by simp [hleft w, WorkerPoint.runs, WorkerPoint.current]
  rw [← hstarted, pool_balanced h task, hnone, Nat.add_zero]

/-- One worker of the practice version: the task `7` submits `8`, and `9` comes after the stop. -/
def nestedSubmit : List (PoolAct Unit Unit ℕ) :=
  [.call () 7, .submitter () none, .submitter () none, .worker () none, .taskCall () 8,
    .worker () none, .worker () none, .taskReturn (), .worker () none, .destroy, .call () 9,
    .submitter () none, .destructor, .taskReturn (), .worker () none, .destructor]

theorem pool_runs_accepted_once_nestedSubmit :
    ∃ ts s, (poolSystem .practice Unit Unit ℕ).Run ts s ∧ s.destructor = .returned ∧
      ((observations ts).filterMap PoolEvent.finished).Perm [7, 8] ∧
      s.pool.rejectedCount = 1 := by
  have hrun := System.run_of_exec (poolSystem .practice Unit Unit ℕ) nestedSubmit rfl rfl
  have hlaw := pool_runs_accepted_once hrun (forall_of_all rfl)
  exact ⟨_, _, hrun, rfl, (hlaw.2.1 rfl).2, hlaw.2.2 rfl⟩

/-- One worker of the chat server: a caller has entered `submit` when the destructor stops the
pool, and takes the mutex after the worker has left its loop. -/
def lateSubmit : List (PoolAct Unit Unit ℕ) :=
  [.call () 7, .destroy, .destructor, .worker () none, .submitter () none, .destructor]

/-- The chat server's pool loses a task that is submitted late. -/
theorem pool_loses_lateSubmit :
    ∃ ts s, (poolSystem .chatServer Unit Unit ℕ).Run ts s ∧ s.destructor = .returned ∧
      (observations ts).filterMap PoolEvent.accepted = [7] ∧
      (observations ts).filterMap PoolEvent.started = [] ∧
      (observations ts).filterMap PoolEvent.finished = [] :=
  ⟨_, _, System.run_of_exec _ lateSubmit rfl rfl, rfl, rfl, rfl, rfl⟩

end SystemsDemos
