import SystemsDemos.Transition.System
import Mathlib.Algebra.Group.Nat.Defs
import Mathlib.Data.Fintype.Basic

/-!
# The thread pools

The model of the two `ThreadPool` classes, the one of the chat server and the practice version,
which differ in `submit` only.  `ThreadPool` holds the fields that the mutex protects, and
`submit` and `next` are the bodies of its critical sections.  `Pool` adds the threads: the
workers, the external callers of `submit` and the one thread that destroys the pool.

A task is a value; while a worker runs one, the task may call `submit` any number of times and
may return at any time, so every set of returning tasks is covered.  In both versions
`notify_one` and `notify_all` are called after the mutex is released and are steps of their own.
Once the destructor has returned there is no pool to submit to any more.

### Outline

* `ThreadPool` with its critical sections, `Version` for the two bodies of `submit`;
* `WorkerPoint`, `SubmitterPoint`, `DestructorPoint` and the step function `Pool.step`;
* `Pool.Moves`, the cases of a step, and `Pool.moves_of_step`.
-/

namespace SystemsDemos

/-- The fields that the mutex protects; `rejectedCount` is used by the practice version only. -/
structure ThreadPool (T : Type*) where
  /-- The queued tasks, the front first. -/
  tasks : List T
  stop : Bool
  /-- An `int`. -/
  rejectedCount : ℤ

/-- The two versions of the pool. -/
inductive Version
  | chatServer
  | practice
  deriving DecidableEq

namespace ThreadPool

variable {T : Type*}

/-- The constructor: nothing is queued. -/
def new : ThreadPool T := ⟨[], false, 0⟩

/-- `submit` of the chat server: the task is queued whatever the state. -/
def submitChatServer (p : ThreadPool T) (task : T) : ThreadPool T × Bool :=
  ({ p with tasks := p.tasks ++ [task] }, true)

/-- `submit` of the practice version: refused and counted once the pool is stopped. -/
def submitPractice (p : ThreadPool T) (task : T) : ThreadPool T × Bool :=
  -- the increment of an `int`, in two's complement
  if p.stop then ({ p with rejectedCount := (p.rejectedCount + 1).bmod (2 ^ 32) }, false)
  else ({ p with tasks := p.tasks ++ [task] }, true)

/-- The critical section of `submit`. -/
def submit : Version → ThreadPool T → T → ThreadPool T × Bool
  | .chatServer => submitChatServer
  | .practice => submitPractice

/-- The predicate a worker waits for. -/
def ready (p : ThreadPool T) : Bool := p.stop || !p.tasks.isEmpty

/-- The worker's critical section after its wait: leave the loop, or take the front task. -/
def next (p : ThreadPool T) : ThreadPool T × Option T :=
  if p.stop && p.tasks.isEmpty then (p, none)
  else match p.tasks with
    | [] => (p, none)
    | task :: rest => ({ p with tasks := rest }, some task)

/-- The critical section of the destructor. -/
def setStop (p : ThreadPool T) : ThreadPool T := { p with stop := true }

variable {p p' : ThreadPool T} {task : T} {v : Version}

/-- An accepted task goes to the back; the practice version accepts only before the stop. -/
lemma submit_eq_true (h : p.submit v task = (p', true)) :
    p' = { p with tasks := p.tasks ++ [task] } ∧ (v = .practice → p.stop = false) := by
  cases v with
  | chatServer =>
    simp only [submit, submitChatServer, Prod.mk.injEq, and_true] at h
    exact ⟨h.symm, by simp⟩
  | practice =>
    simp only [submit, submitPractice] at h
    split at h
    · simp at h
    · next hstop =>
      simp only [Prod.mk.injEq, and_true] at h
      exact ⟨h.symm, by simpa using hstop⟩

/-- Only the practice version refuses, when the pool is stopped. -/
lemma submit_eq_false (h : p.submit v task = (p', false)) :
    p' = { p with rejectedCount := (p.rejectedCount + 1).bmod (2 ^ 32) } ∧
      v = .practice ∧ p.stop = true := by
  cases v with
  | chatServer => simp [submit, submitChatServer] at h
  | practice =>
    simp only [submit, submitPractice] at h
    split at h
    · next hstop =>
      simp only [Prod.mk.injEq, and_true] at h
      exact ⟨h.symm, rfl, hstop⟩
    · simp at h

/-- A worker waits until the pool is stopped or has a task. -/
lemma ready_iff : p.ready = true ↔ p.stop = true ∨ p.tasks ≠ [] := by
  simp [ready]

/-- Without a task there is nothing to take. -/
lemma next_of_nil (h : p.tasks = []) : p.next = (p, none) := by
  unfold next
  split
  · rfl
  · simp [h]

/-- A queued task is taken from the front, stopped or not. -/
lemma next_of_cons {rest : List T} (h : p.tasks = task :: rest) :
    p.next = ({ p with tasks := rest }, some task) := by
  simp [next, h]

end ThreadPool

/-- Where a worker stands. -/
inductive WorkerPoint (T : Type*)
  /-- About to take the mutex and evaluate the predicate. -/
  | loop
  /-- Asleep in `cv_.wait`. -/
  | waiting
  /-- In `task()`. -/
  | running (task : T)
  /-- In `task()`, which has called `submit(sub)` and is about to take the mutex. -/
  | submitting (task sub : T)
  /-- In `task()`, whose `submit` still has to call `cv_.notify_one()`. -/
  | notifying (task : T)
  /-- Out of the loop. -/
  | returned
  deriving DecidableEq

/-- Where an external caller of `submit` stands. -/
inductive SubmitterPoint (T : Type*)
  | idle
  /-- About to take the mutex. -/
  | submitting (task : T)
  /-- `cv_.notify_one()` is still to be called. -/
  | notifying
  deriving DecidableEq

/-- Where the thread that destroys the pool stands. -/
inductive DestructorPoint
  | notStarted
  /-- The stop flag is set, `cv_.notify_all()` is still to be called. -/
  | notifying
  /-- Joining the workers. -/
  | joining
  | returned
  deriving DecidableEq

/-- The task a worker is running. -/
def WorkerPoint.current {T : Type*} : WorkerPoint T → Option T
  | running task => some task
  | submitting task _ => some task
  | notifying task => some task
  | _ => none

/-- What the critical sections of the pool report. -/
inductive PoolEvent (T : Type*)
  /-- A `submit` that will return `ok`; the chat server's returns nothing, which counts as true. -/
  | submit (task : T) (ok : Bool)
  /-- A worker has dequeued the task and runs it. -/
  | start (task : T)
  /-- The task has returned. -/
  | finish (task : T)
  deriving DecidableEq

namespace PoolEvent

variable {T : Type*}

/-- The task of a `submit` that accepts it. -/
@[simp] def accepted : PoolEvent T → Option T
  | submit task true => some task
  | _ => none

/-- The task of a `submit` that returns false. -/
@[simp] def rejected : PoolEvent T → Option T
  | submit task false => some task
  | _ => none

/-- The task that starts. -/
@[simp] def started : PoolEvent T → Option T
  | start task => some task
  | _ => none

/-- The task that has returned. -/
@[simp] def finished : PoolEvent T → Option T
  | finish task => some task
  | _ => none

end PoolEvent

/-- The pool with its threads: `ω` are the workers, `κ` the external callers. -/
structure Pool (ω κ T : Type*) where
  pool : ThreadPool T
  worker : ω → WorkerPoint T
  submitter : κ → SubmitterPoint T
  destructor : DestructorPoint

/-- A scheduling choice. -/
inductive PoolAct (ω κ T : Type*)
  /-- The external caller `k` calls `submit(task)`. -/
  | call (k : κ) (task : T)
  /-- The caller `k` makes its next step; `woken` is the worker its `notify_one` wakes, if any. -/
  | submitter (k : κ) (woken : Option ω)
  /-- The task that worker `w` runs calls `submit(sub)`. -/
  | taskCall (w : ω) (sub : T)
  /-- The task that worker `w` runs returns. -/
  | taskReturn (w : ω)
  /-- Worker `w` makes its next step outside of tasks; `woken` as before. -/
  | worker (w : ω) (woken : Option ω)
  /-- Worker `w` wakes up without being notified. -/
  | spurious (w : ω)
  /-- The destructor is called and stops the pool. -/
  | destroy
  /-- The destructor makes its next step. -/
  | destructor
  deriving DecidableEq

namespace Pool

variable {ω κ T : Type*} [Fintype ω] [DecidableEq ω] [DecidableEq κ]

/-- `cv_.notify_one()`: any waiting worker goes on, or nobody when there is none. -/
def notifyOne (worker : ω → WorkerPoint T) : Option ω → Option (ω → WorkerPoint T)
  | some w =>
      if (worker w) matches .waiting then some (Function.update worker w .loop) else none
  | none => if ∃ w, (worker w matches .waiting) = true then none else some worker

/-- `cv_.notify_all()`. -/
def notifyAll (worker : ω → WorkerPoint T) : ω → WorkerPoint T :=
  fun w => if (worker w) matches .waiting then .loop else worker w

/-- The next step of an external caller inside `submit`. -/
def stepSubmitter (v : Version) (s : Pool ω κ T) (k : κ) (woken : Option ω) :
    Option (Pool ω κ T × List (PoolEvent T)) :=
  match s.submitter k with
  | .idle => none
  | .submitting task =>
      if s.destructor = .returned then none
      else match s.pool.submit v task with
        | (p, true) =>
            some ({ s with pool := p, submitter := Function.update s.submitter k .notifying },
              [.submit task true])
        | (p, false) =>
            some ({ s with pool := p, submitter := Function.update s.submitter k .idle },
              [.submit task false])
  | .notifying =>
      (notifyOne s.worker woken).map fun worker =>
        ({ s with worker := worker, submitter := Function.update s.submitter k .idle }, [])

/-- The next step of a worker: its loop, or the `submit` its task has called. -/
def stepWorker (v : Version) (s : Pool ω κ T) (w : ω) (woken : Option ω) :
    Option (Pool ω κ T × List (PoolEvent T)) :=
  match s.worker w with
  | .loop =>
      if s.pool.ready then
        match s.pool.next with
        | (p, none) =>
            some ({ s with pool := p, worker := Function.update s.worker w .returned }, [])
        | (p, some task) =>
            some ({ s with pool := p, worker := Function.update s.worker w (.running task) },
              [.start task])
      else some ({ s with worker := Function.update s.worker w .waiting }, [])
  | .submitting task sub =>
      match s.pool.submit v sub with
      | (p, true) =>
          some ({ s with pool := p, worker := Function.update s.worker w (.notifying task) },
            [.submit sub true])
      | (p, false) =>
          some ({ s with pool := p, worker := Function.update s.worker w (.running task) },
            [.submit sub false])
  | .notifying task =>
      (notifyOne s.worker woken).map fun worker =>
        ({ s with worker := Function.update worker w (.running task) }, [])
  | .waiting => none
  | .running _ => none
  | .returned => none

/-- The next step of the destructor after it has set the stop flag. -/
def stepDestructor (s : Pool ω κ T) : Option (Pool ω κ T × List (PoolEvent T)) :=
  match s.destructor with
  | .notStarted => none
  | .notifying => some ({ s with worker := notifyAll s.worker, destructor := .joining }, [])
  | .joining =>
      if ∀ w, (s.worker w matches .returned) = true then
        some ({ s with destructor := .returned }, [])
      else none
  | .returned => none

/-- One step of the threads around the pool. -/
def step (v : Version) (s : Pool ω κ T) :
    PoolAct ω κ T → Option (Pool ω κ T × List (PoolEvent T))
  | .call k task =>
      if (s.submitter k) matches .idle then
        some ({ s with submitter := Function.update s.submitter k (.submitting task) }, [])
      else none
  | .submitter k woken => s.stepSubmitter v k woken
  | .taskCall w sub =>
      match s.worker w with
      | .running task =>
          some ({ s with worker := Function.update s.worker w (.submitting task sub) }, [])
      | _ => none
  | .taskReturn w =>
      match s.worker w with
      | .running task =>
          some ({ s with worker := Function.update s.worker w .loop }, [.finish task])
      | _ => none
  | .worker w woken => s.stepWorker v w woken
  | .spurious w =>
      if (s.worker w) matches .waiting then
        some ({ s with worker := Function.update s.worker w .loop }, [])
      else none
  | .destroy =>
      if s.destructor = .notStarted then
        some ({ s with pool := s.pool.setStop, destructor := .notifying }, [])
      else none
  | .destructor => s.stepDestructor

/-! ### The cases of a step -/

/-- Everything a step of the threads around the pool can be. -/
inductive Moves (v : Version) (s : Pool ω κ T) :
    PoolAct ω κ T → Pool ω κ T → List (PoolEvent T) → Prop
  | call {k task} (hk : s.submitter k = .idle) :
      Moves v s (.call k task)
        { s with submitter := Function.update s.submitter k (.submitting task) } []
  | accept {k woken task} (hk : s.submitter k = .submitting task)
      (halive : s.destructor ≠ .returned) (hopen : v = .practice → s.pool.stop = false) :
      Moves v s (.submitter k woken)
        { s with
          pool := { s.pool with tasks := s.pool.tasks ++ [task] }
          submitter := Function.update s.submitter k .notifying } [.submit task true]
  | refuse {k woken task} (hk : s.submitter k = .submitting task) (hv : v = .practice)
      (hstop : s.pool.stop = true) :
      Moves v s (.submitter k woken)
        { s with
          pool := { s.pool with rejectedCount := (s.pool.rejectedCount + 1).bmod (2 ^ 32) }
          submitter := Function.update s.submitter k .idle } [.submit task false]
  | notify {k woken worker} (hk : s.submitter k = .notifying)
      (hwake : notifyOne s.worker woken = some worker) :
      Moves v s (.submitter k woken)
        { s with worker := worker, submitter := Function.update s.submitter k .idle } []
  | taskCall {w task sub} (hw : s.worker w = .running task) :
      Moves v s (.taskCall w sub)
        { s with worker := Function.update s.worker w (.submitting task sub) } []
  | taskReturn {w task} (hw : s.worker w = .running task) :
      Moves v s (.taskReturn w)
        { s with worker := Function.update s.worker w .loop } [.finish task]
  | take {w woken task rest} (hw : s.worker w = .loop) (htasks : s.pool.tasks = task :: rest) :
      Moves v s (.worker w woken)
        { s with
          pool := { s.pool with tasks := rest }
          worker := Function.update s.worker w (.running task) } [.start task]
  | leave {w woken} (hw : s.worker w = .loop) (hstop : s.pool.stop = true)
      (hempty : s.pool.tasks = []) :
      Moves v s (.worker w woken)
        { s with worker := Function.update s.worker w .returned } []
  | sleep {w woken} (hw : s.worker w = .loop) (hstop : s.pool.stop = false)
      (hempty : s.pool.tasks = []) :
      Moves v s (.worker w woken)
        { s with worker := Function.update s.worker w .waiting } []
  | taskAccept {w woken task sub} (hw : s.worker w = .submitting task sub)
      (hopen : v = .practice → s.pool.stop = false) :
      Moves v s (.worker w woken)
        { s with
          pool := { s.pool with tasks := s.pool.tasks ++ [sub] }
          worker := Function.update s.worker w (.notifying task) } [.submit sub true]
  | taskRefuse {w woken task sub} (hw : s.worker w = .submitting task sub) (hv : v = .practice)
      (hstop : s.pool.stop = true) :
      Moves v s (.worker w woken)
        { s with
          pool := { s.pool with rejectedCount := (s.pool.rejectedCount + 1).bmod (2 ^ 32) }
          worker := Function.update s.worker w (.running task) } [.submit sub false]
  | taskNotify {w woken task worker} (hw : s.worker w = .notifying task)
      (hwake : notifyOne s.worker woken = some worker) :
      Moves v s (.worker w woken)
        { s with worker := Function.update worker w (.running task) } []
  | spurious {w} (hw : s.worker w = .waiting) :
      Moves v s (.spurious w) { s with worker := Function.update s.worker w .loop } []
  | destroy (hd : s.destructor = .notStarted) :
      Moves v s .destroy { s with pool := s.pool.setStop, destructor := .notifying } []
  | notifyAll (hd : s.destructor = .notifying) :
      Moves v s .destructor
        { s with worker := Pool.notifyAll s.worker, destructor := .joining } []
  | joined (hd : s.destructor = .joining) (hall : ∀ w, s.worker w = .returned) :
      Moves v s .destructor { s with destructor := .returned } []

variable {v : Version} {s s' : Pool ω κ T} {a : PoolAct ω κ T} {out : List (PoolEvent T)}

/-- The inversion of `stepSubmitter`. -/
private lemma moves_of_stepSubmitter {k : κ} {woken : Option ω}
    (h : s.stepSubmitter v k woken = some (s', out)) :
    Moves v s (.submitter k woken) s' out := by
  unfold stepSubmitter at h
  split at h
  · cases h
  · next task hk =>
    split at h
    · cases h
    · next halive =>
      split at h
      · next p hp =>
        cases h
        obtain ⟨rfl, hopen⟩ := ThreadPool.submit_eq_true hp
        exact .accept hk halive hopen
      · next p hp =>
        cases h
        obtain ⟨rfl, hv, hstop⟩ := ThreadPool.submit_eq_false hp
        exact .refuse hk hv hstop
  · next hk =>
    obtain ⟨worker, hwake, hr⟩ := Option.map_eq_some_iff.mp h
    cases hr
    exact .notify hk hwake

/-- The inversion of `stepWorker`. -/
private lemma moves_of_stepWorker {w : ω} {woken : Option ω}
    (h : s.stepWorker v w woken = some (s', out)) : Moves v s (.worker w woken) s' out := by
  unfold stepWorker at h
  split at h
  · next hw =>
    by_cases hready : s.pool.ready = true
    · rw [if_pos hready] at h
      cases htasks : s.pool.tasks with
      | nil =>
        rw [ThreadPool.next_of_nil htasks] at h
        cases h
        refine .leave hw ?_ htasks
        simpa [htasks] using ThreadPool.ready_iff.mp hready
      | cons task rest =>
        rw [ThreadPool.next_of_cons htasks] at h
        cases h
        exact .take hw htasks
    · rw [if_neg hready] at h
      cases h
      rw [ThreadPool.ready_iff, not_or, not_not, Bool.not_eq_true] at hready
      exact .sleep hw hready.1 hready.2
  · next task sub hw =>
    split at h
    · next p hp =>
      cases h
      obtain ⟨rfl, hopen⟩ := ThreadPool.submit_eq_true hp
      exact .taskAccept hw hopen
    · next p hp =>
      cases h
      obtain ⟨rfl, hv, hstop⟩ := ThreadPool.submit_eq_false hp
      exact .taskRefuse hw hv hstop
  · next task hw =>
    obtain ⟨worker, hwake, hr⟩ := Option.map_eq_some_iff.mp h
    cases hr
    exact .taskNotify hw hwake
  · cases h
  · cases h
  · cases h

/-- The inversion of `stepDestructor`. -/
private lemma moves_of_stepDestructor (h : s.stepDestructor = some (s', out)) :
    Moves v s .destructor s' out := by
  unfold stepDestructor at h
  split at h
  · cases h
  · next hd =>
    cases h
    exact .notifyAll hd
  · next hd =>
    split at h
    · next hall =>
      cases h
      refine .joined hd fun w => ?_
      have hw := hall w
      split at hw
      · assumption
      · cases hw
    · cases h
  · cases h

/-- Every enabled step is one of the listed moves. -/
theorem moves_of_step (h : s.step v a = some (s', out)) : Moves v s a s' out := by
  cases a with
  | call k task =>
    simp only [step] at h
    cases hk : s.submitter k <;> simp only [hk, if_true, Bool.false_eq_true, if_false] at h
    case idle => cases h; exact .call hk
    all_goals cases h
  | submitter k woken => exact moves_of_stepSubmitter h
  | taskCall w sub =>
    simp only [step] at h
    split at h
    · next hw => cases h; exact .taskCall hw
    · cases h
  | taskReturn w =>
    simp only [step] at h
    split at h
    · next hw => cases h; exact .taskReturn hw
    · cases h
  | worker w woken => exact moves_of_stepWorker h
  | spurious w =>
    simp only [step] at h
    cases hw : s.worker w <;> simp only [hw, if_true, Bool.false_eq_true, if_false] at h
    case waiting => cases h; exact .spurious hw
    all_goals cases h
  | destroy =>
    simp only [step] at h
    split at h
    · next hd => cases h; exact .destroy hd
    · cases h
  | destructor => exact moves_of_stepDestructor h

/-! ### What notifications do to the workers -/

/-- A successful `notifyOne` sends one waiting worker back to the loop, or found none. -/
lemma notifyOne_cases {worker worker' : ω → WorkerPoint T} {woken : Option ω}
    (h : notifyOne worker woken = some worker') :
    ((∀ w, worker w ≠ .waiting) ∧ worker' = worker) ∨
      ∃ w, worker w = .waiting ∧ worker' = Function.update worker w .loop := by
  cases woken with
  | none =>
    simp only [notifyOne] at h
    split at h
    · cases h
    · next hnone =>
      refine .inl ⟨fun w hw => hnone ⟨w, ?_⟩, (Option.some.inj h).symm⟩
      simp [hw]
  | some w =>
    simp only [notifyOne] at h
    cases hw : worker w <;> simp only [hw, if_true, Bool.false_eq_true, if_false] at h
    case waiting => exact .inr ⟨w, hw, (Option.some.inj h).symm⟩
    all_goals cases h

/-- `notify_one` does not move a worker that is not waiting. -/
lemma notifyOne_of_awake {worker worker' : ω → WorkerPoint T} {woken : Option ω}
    (h : notifyOne worker woken = some worker') {w : ω} (hw : worker w ≠ .waiting) :
    worker' w = worker w := by
  rcases notifyOne_cases h with ⟨-, rfl⟩ | ⟨w', hw', rfl⟩
  · rfl
  · refine Function.update_of_ne ?_ _ _
    rintro rfl
    exact hw hw'

/-- A property of worker points that waking does not change holds of the same workers before and
after a `notify_one`. -/
lemma notifyOne_apply {β : Type*} {f : WorkerPoint T → β} (hf : f .loop = f .waiting)
    {worker worker' : ω → WorkerPoint T} {woken : Option ω}
    (h : notifyOne worker woken = some worker') (w : ω) : f (worker' w) = f (worker w) := by
  rcases notifyOne_cases h with ⟨-, rfl⟩ | ⟨w', hw', rfl⟩
  · rfl
  · rcases eq_or_ne w w' with rfl | hne
    · rw [Function.update_self, hw', hf]
    · rw [Function.update_of_ne hne]

omit [Fintype ω] [DecidableEq ω] in
/-- The same for `notify_all`. -/
lemma notifyAll_apply {β : Type*} {f : WorkerPoint T → β} (hf : f .loop = f .waiting)
    (worker : ω → WorkerPoint T) (w : ω) : f (notifyAll worker w) = f (worker w) := by
  cases hw : worker w <;> simp [notifyAll, hw, hf]

end Pool

/-- A pool with the workers `ω`, used by the external callers `κ`. -/
def poolSystem (v : Version) (ω κ T : Type*) [Fintype ω] [DecidableEq ω] [DecidableEq κ] :
    System (Pool ω κ T) (PoolAct ω κ T) (PoolEvent T) where
  init s := s = ⟨.new, fun _ => .loop, fun _ => .idle, .notStarted⟩
  step := Pool.step v

end SystemsDemos
