import SystemsDemos.ThreadPool.ExactlyOnce
import SystemsDemos.ThreadPool.Wakeup
import SystemsDemos.Transition.Party
import Mathlib.Tactic.Ring
import Mathlib.Tactic.Zify

/-!
# The thread pool of the practice program

`main` of `today_2026_07_15_thread_pool.cpp`: it submits `task_count` tasks, reads the number of
those refused, destroys the pool and checks the outcome.  The task with number `i` stores `i * i` at
its place and counts itself, both under one mutex.  The pool is that of `Pool`, and `main` is its
only caller.  An `int` that overflows has no value: the step that computes it does not exist.

### Outline

* `PoolProgram` with `step`, and `exitCode`;
* `sumSquares`, the sum that `main` computes;
* `PoolProgram.isParty`, the pool as a party of the program;
* `Submits` and `Stores`, what holds in every state of a run;
* `practicePool_passes`.
-/

namespace SystemsDemos

/-- Where `main` is. -/
inductive PoolMain
  /-- At the condition of the first loop. -/
  | loop (i : ℕ)
  /-- In `submit`, about to take the mutex. -/
  | submitting (i : ℕ)
  /-- In `submit`, in front of `notify_one`. -/
  | notifying (i : ℕ)
  /-- In front of `++submitted`. -/
  | counting (i : ℕ)
  /-- In front of `rejectedCount()`. -/
  | reading
  /-- At the end of the block, in front of the destructor. -/
  | leaving
  /-- In the destructor. -/
  | destroying
  /-- At the checks. -/
  | checking
  deriving DecidableEq

/-- The program; the tasks are their numbers. -/
structure PoolProgram (ω : Type*) where
  pool : Pool ω Unit ℕ
  main : PoolMain
  submitted : ℕ
  completed : ℕ
  rejected : ℤ
  results : List ℤ

/-- Who takes a step; `woken` is the worker that a `notify_one` wakes. -/
inductive PoolProgramAct (ω : Type*)
  | main (woken : Option ω)
  | worker (w : ω) (woken : Option ω)
  /-- The task of worker `w` stores its result and returns. -/
  | task (w : ω)
  | spurious (w : ω)
  deriving DecidableEq

/-- The value of a computation in `int`, if it has one. -/
def checkedInt (n : ℤ) : Option ℤ := if -2 ^ 31 ≤ n ∧ n < 2 ^ 31 then some n else none

/-- What task `i` stores. -/
def square (i : ℕ) : Option ℤ := checkedInt (i * i)

namespace PoolProgram

variable {ω : Type*} [Fintype ω] [DecidableEq ω]

/-- The pool makes a step, and `main` goes on. -/
def withPool (s : PoolProgram ω) (a : PoolAct ω Unit ℕ)
    (next : Pool ω Unit ℕ → List (PoolEvent ℕ) → PoolMain) :
    Option (PoolProgram ω × List (PoolEvent ℕ)) :=
  (s.pool.step .practice a).map fun (pool, out) =>
    ({ s with pool := pool, main := next pool out }, out)

/-- A step of `main`. -/
def stepMain (taskCount : ℕ) (s : PoolProgram ω) (woken : Option ω) :
    Option (PoolProgram ω × List (PoolEvent ℕ)) :=
  match s.main with
  | .loop i =>
      if i < taskCount then s.withPool (.call () i) fun _ _ => .submitting i
      else some ({ s with main := .reading }, [])
  | .submitting i =>
      s.withPool (.submitter () woken) fun _ out =>
        if out.filterMap PoolEvent.accepted = [] then .loop (i + 1) else .notifying i
  | .notifying i => s.withPool (.submitter () woken) fun _ _ => .counting i
  | .counting i => some ({ s with submitted := s.submitted + 1, main := .loop (i + 1) }, [])
  | .reading => some ({ s with rejected := s.pool.pool.rejectedCount, main := .leaving }, [])
  | .leaving => s.withPool .destroy fun _ _ => .destroying
  | .destroying =>
      s.withPool .destructor fun pool _ =>
        if pool.destructor = .returned then .checking else .destroying
  | .checking => none

/-- The results after tasks have returned. -/
def storeAll (results : List ℤ) (out : List (PoolEvent ℕ)) : Option (List ℤ) :=
  (out.filterMap PoolEvent.finished).foldlM (fun results i => (square i).map (results.set i))
    results

/-- One task has returned. -/
lemma storeAll_finish (results : List ℤ) (i : ℕ) :
    storeAll results [.finish i] = (square i).map (results.set i) := by
  simp [storeAll, PoolEvent.finished]

/-- A step of the program. -/
def step (taskCount : ℕ) (s : PoolProgram ω) :
    PoolProgramAct ω → Option (PoolProgram ω × List (PoolEvent ℕ))
  | .main woken => s.stepMain taskCount woken
  | .worker w woken => s.withPool (.worker w woken) fun _ _ => s.main
  | .spurious w => s.withPool (.spurious w) fun _ _ => s.main
  | .task w =>
      (s.pool.step .practice (.taskReturn w)).bind fun (pool, out) =>
        (storeAll s.results out).map fun results =>
          ({ s with
              pool := pool
              completed := s.completed + (out.filterMap PoolEvent.finished).length
              results := results }, out)

/-- The program for a number of tasks. -/
def system (taskCount : ℕ) (ω : Type*) [Fintype ω] [DecidableEq ω] :
    System (PoolProgram ω) (PoolProgramAct ω) (PoolEvent ℕ) where
  init s := (poolSystem .practice ω Unit ℕ).init s.pool ∧ s.main = .loop 0 ∧ s.submitted = 0 ∧
    s.completed = 0 ∧ s.rejected = 0 ∧ s.results = List.replicate taskCount (-1)
  step := step taskCount

/-- The body of the loop that adds up the results: `sum` and `values_ok` after index `i`. -/
def check (results : List ℤ) (state : ℤ × Bool) (i : ℕ) : Option (ℤ × Bool) := do
  let value ← results[i]?
  let sum ← checkedInt (state.1 + value)
  -- `&&` computes the square only while all values have been right
  if state.2 then
    let expected ← square i
    return (sum, decide (value = expected))
  else return (sum, false)

/-- What `main` returns, with the sum of the results that it expects. -/
def exitCode (taskCount : ℕ) (expected : ℤ) (s : PoolProgram ω) : Option ℤ := do
  let (sum, valuesOk) ← (List.range taskCount).foldlM (check s.results) (0, true)
  return if s.submitted = taskCount ∧ s.completed = taskCount ∧ s.rejected = 0 ∧ valuesOk ∧
    sum = expected then 0 else 1

/-! ### The sum -/

/-- The squares below `n`. -/
def squares (n : ℕ) : List ℤ := (List.range n).map fun i : ℕ => (i * i : ℤ)

/-- Their sum. -/
def sumSquares (n : ℕ) : ℤ := (squares n).sum

lemma getElem?_squares (n i : ℕ) :
    (squares n)[i]? = if i < n then some (i * i : ℤ) else none := by
  split <;> simp_all [squares]

lemma sumSquares_succ (n : ℕ) : sumSquares (n + 1) = sumSquares n + n * n := by
  simp [sumSquares, squares, List.range_succ]

lemma mul_self_natCast_nonneg (i : ℕ) : (0 : ℤ) ≤ i * i :=
  Int.mul_nonneg (Int.natCast_nonneg i) (Int.natCast_nonneg i)

lemma sumSquares_mono {m n : ℕ} (h : m ≤ n) : sumSquares m ≤ sumSquares n := by
  induction n, h using Nat.le_induction with
  | base => exact Int.le_refl _
  | succ n _ ih =>
    have hsquare := mul_self_natCast_nonneg n
    rw [sumSquares_succ]
    omega

lemma six_mul_sumSquares (n : ℕ) : 6 * sumSquares n = (n - 1) * n * (2 * n - 1) := by
  induction n with
  | zero => rfl
  | succ n ih =>
    rw [sumSquares_succ, Int.mul_add, ih]
    push_cast
    ring

/-- Up to 1861 squares, an `int` holds the sum; 1862 squares are too many. -/
lemma sumSquares_fits {n : ℕ} : sumSquares n < 2 ^ 31 ↔ n ≤ 1861 := by
  have hlast := six_mul_sumSquares 1861
  have hnext := six_mul_sumSquares 1862
  push_cast at hlast hnext
  constructor
  · intro hlt
    by_contra hgt
    have hle := sumSquares_mono (show 1862 ≤ n by omega)
    omega
  · intro hle
    have hle := sumSquares_mono hle
    omega

lemma sumSquares_nonneg (n : ℕ) : 0 ≤ sumSquares n := sumSquares_mono n.zero_le

lemma checkedInt_of_nonneg {n : ℤ} (hnonneg : 0 ≤ n) (hlt : n < 2 ^ 31) : checkedInt n = some n :=
  if_pos ⟨by omega, hlt⟩

/-- The squares of the program are in the range of an `int`. -/
lemma square_eq {i : ℕ} (hlt : i < 1861) : square i = some (i * i : ℤ) := by
  refine checkedInt_of_nonneg (mul_self_natCast_nonneg i) ?_
  have hsquare : i * i ≤ 1861 * 1861 := Nat.mul_self_le_mul_self hlt.le
  zify at hsquare
  omega

/-- The loop of `main` over results that are the squares. -/
lemma foldlM_check {taskCount n : ℕ} (hcount : taskCount ≤ 1861) (hn : n ≤ taskCount) :
    (List.range n).foldlM (check (squares taskCount)) (0, true) =
      some (sumSquares n, true) := by
  induction n with
  | zero => rfl
  | succ n ih =>
    have hsum : checkedInt (sumSquares n + n * n) = some (sumSquares (n + 1)) := by
      rw [← sumSquares_succ]
      exact checkedInt_of_nonneg (sumSquares_nonneg _) (sumSquares_fits.mpr (by omega))
    rw [List.range_succ, List.foldlM_append, ih (by omega)]
    simp [check, getElem?_squares, Nat.lt_of_succ_le hn, hsum, square_eq (show n < 1861 by omega)]

/-! ### The pool of the program -/

/-- What the pool does in a step of the program. -/
def poolAct (taskCount : ℕ) (s : PoolProgram ω) : PoolProgramAct ω → Option (PoolAct ω Unit ℕ)
  | .main woken =>
      match s.main with
      | .loop i => if i < taskCount then some (.call () i) else none
      | .submitting _ => some (.submitter () woken)
      | .notifying _ => some (.submitter () woken)
      | .leaving => some .destroy
      | .destroying => some .destructor
      | _ => none
  | .worker w woken => some (.worker w woken)
  | .task w => some (.taskReturn w)
  | .spurious w => some (.spurious w)

/-- The part of the pool. -/
def poolPart (taskCount : ℕ)
    (t : Transition (PoolProgram ω) (PoolProgramAct ω) (PoolEvent ℕ)) :
    Option (Transition (Pool ω Unit ℕ) (PoolAct ω Unit ℕ) (PoolEvent ℕ)) :=
  (t.pre.poolAct taskCount t.act).map fun a => ⟨t.pre.pool, a, t.post.pool, t.out⟩

/-- Everything a step of the program can be. -/
inductive Moves (taskCount : ℕ) (s : PoolProgram ω) :
    PoolProgramAct ω → PoolProgram ω → List (PoolEvent ℕ) → Prop
  | call {i woken pool out} (hmain : s.main = .loop i) (hlt : i < taskCount)
      (hpool : s.pool.step .practice (.call () i) = some (pool, out)) :
      Moves taskCount s (.main woken) { s with pool := pool, main := .submitting i } out
  | stop {i woken} (hmain : s.main = .loop i) (hge : ¬ i < taskCount) :
      Moves taskCount s (.main woken) { s with main := .reading } []
  | submit {i woken pool out} (hmain : s.main = .submitting i)
      (hpool : s.pool.step .practice (.submitter () woken) = some (pool, out)) :
      Moves taskCount s (.main woken)
        { s with
          pool := pool
          main := if out.filterMap PoolEvent.accepted = [] then .loop (i + 1) else .notifying i }
        out
  | notify {i woken pool out} (hmain : s.main = .notifying i)
      (hpool : s.pool.step .practice (.submitter () woken) = some (pool, out)) :
      Moves taskCount s (.main woken) { s with pool := pool, main := .counting i } out
  | count {i woken} (hmain : s.main = .counting i) :
      Moves taskCount s (.main woken)
        { s with submitted := s.submitted + 1, main := .loop (i + 1) } []
  | read {woken} (hmain : s.main = .reading) :
      Moves taskCount s (.main woken)
        { s with rejected := s.pool.pool.rejectedCount, main := .leaving } []
  | destroy {woken pool out} (hmain : s.main = .leaving)
      (hpool : s.pool.step .practice .destroy = some (pool, out)) :
      Moves taskCount s (.main woken) { s with pool := pool, main := .destroying } out
  | destructor {woken pool out} (hmain : s.main = .destroying)
      (hpool : s.pool.step .practice .destructor = some (pool, out)) :
      Moves taskCount s (.main woken)
        { s with
          pool := pool
          main := if pool.destructor = .returned then .checking else .destroying } out
  | worker {w woken pool out} (hpool : s.pool.step .practice (.worker w woken) = some (pool, out)) :
      Moves taskCount s (.worker w woken) { s with pool := pool } out
  | spurious {w pool out} (hpool : s.pool.step .practice (.spurious w) = some (pool, out)) :
      Moves taskCount s (.spurious w) { s with pool := pool } out
  | task {w pool out results} (hpool : s.pool.step .practice (.taskReturn w) = some (pool, out))
      (hstore : storeAll s.results out = some results) :
      Moves taskCount s (.task w)
        { s with
          pool := pool
          completed := s.completed + (out.filterMap PoolEvent.finished).length
          results := results } out

variable {taskCount : ℕ} {s s' : PoolProgram ω} {a : PoolProgramAct ω}
  {out obs : List (PoolEvent ℕ)}

/-- The inversion of `withPool`. -/
lemma withPool_eq_some {b : PoolAct ω Unit ℕ}
    {next : Pool ω Unit ℕ → List (PoolEvent ℕ) → PoolMain}
    (h : s.withPool b next = some (s', out)) :
    ∃ pool, s.pool.step .practice b = some (pool, out) ∧
      s' = { s with pool := pool, main := next pool out } := by
  obtain ⟨⟨pool, out'⟩, hpool, heq⟩ := Option.map_eq_some_iff.mp h
  cases heq
  exact ⟨pool, hpool, rfl⟩

/-- Every enabled step is one of the listed moves. -/
theorem moves_of_step (h : s.step taskCount a = some (s', out)) : Moves taskCount s a s' out := by
  cases a with
  | main woken =>
    simp only [step, stepMain] at h
    split at h
    · next i hmain =>
      split at h
      · next hlt =>
        obtain ⟨pool, hpool, rfl⟩ := withPool_eq_some h
        exact .call hmain hlt hpool
      · next hge =>
        cases h
        exact .stop hmain hge
    · next i hmain =>
      obtain ⟨pool, hpool, rfl⟩ := withPool_eq_some h
      exact .submit hmain hpool
    · next i hmain =>
      obtain ⟨pool, hpool, rfl⟩ := withPool_eq_some h
      exact .notify hmain hpool
    · next i hmain =>
      cases h
      exact .count hmain
    · next hmain =>
      cases h
      exact .read hmain
    · next hmain =>
      obtain ⟨pool, hpool, rfl⟩ := withPool_eq_some h
      exact .destroy hmain hpool
    · next hmain =>
      obtain ⟨pool, hpool, rfl⟩ := withPool_eq_some h
      exact .destructor hmain hpool
    · cases h
  | worker w woken =>
    simp only [step] at h
    obtain ⟨pool, hpool, rfl⟩ := withPool_eq_some h
    exact .worker hpool
  | task w =>
    obtain ⟨⟨pool, out'⟩, hpool, hrest⟩ := Option.bind_eq_some_iff.mp h
    obtain ⟨results, hstore, heq⟩ := Option.map_eq_some_iff.mp hrest
    cases heq
    exact .task hpool hstore
  | spurious w =>
    simp only [step] at h
    obtain ⟨pool, hpool, rfl⟩ := withPool_eq_some h
    exact .spurious hpool

/-- The pool makes the step that `poolAct` says, or none. -/
lemma Moves.pool (h : Moves taskCount s a s' out) :
    (∃ b, s.poolAct taskCount a = some b ∧ s.pool.step .practice b = some (s'.pool, out)) ∨
      (s.poolAct taskCount a = none ∧ s'.pool = s.pool ∧ out = []) := by
  cases h with
  | call hmain hlt hpool => exact .inl ⟨_, by simp [poolAct, hmain, hlt], hpool⟩
  | stop hmain hge => exact .inr ⟨by simp [poolAct, hmain, hge], rfl, rfl⟩
  | submit hmain hpool | notify hmain hpool | destroy hmain hpool | destructor hmain hpool =>
    exact .inl ⟨_, by simp [poolAct, hmain], hpool⟩
  | count hmain | read hmain => exact .inr ⟨by simp [poolAct, hmain], rfl, rfl⟩
  | worker hpool | spurious hpool | task hpool _ => exact .inl ⟨_, rfl, hpool⟩

/-- The pool is a party of the program. -/
lemma isParty (taskCount : ℕ) :
    IsParty (system taskCount ω) (poolSystem .practice ω Unit ℕ) PoolProgram.pool
      (poolPart taskCount) where
  init s hinit := hinit.1
  idle t hvalid hpart := by
    rcases (moves_of_step hvalid).pool with ⟨b, hact, -⟩ | ⟨-, hsame, -⟩
    · simp [poolPart, hact] at hpart
    · exact hsame
  move t u hvalid hpart := by
    rcases (moves_of_step hvalid).pool with ⟨b, hact, hstep⟩ | ⟨hact, -, -⟩
    · simp only [poolPart, hact, Option.map_some, Option.some.injEq] at hpart
      subst hpart
      exact ⟨rfl, rfl, hstep⟩
    · simp [poolPart, hact] at hpart

/-- All events are the pool's. -/
lemma observations_pool
    {ts : List (Transition (PoolProgram ω) (PoolProgramAct ω) (PoolEvent ℕ))}
    (h : (system taskCount ω).Run ts s) :
    observations (ts.filterMap (poolPart taskCount)) = observations ts := by
  have hpart : observations (ts.filterMap (poolPart taskCount)) =
      (observations ts).filterMap some := h.observations_part fun t hvalid => by
    rcases (moves_of_step hvalid).pool with ⟨b, hact, -⟩ | ⟨hact, -, hout⟩
    · simp [poolPart, hact]
    · simp [poolPart, hact, hout]
  simpa using hpart

end PoolProgram

/-! ### What is submitted -/

/-- Where `main` is in the pool. -/
def PoolMain.submitter : PoolMain → SubmitterPoint ℕ
  | submitting i => .submitting i
  | notifying _ => .notifying
  | _ => .idle

/-- The number of tasks that are in the pool already. -/
def PoolMain.accepted (taskCount : ℕ) : PoolMain → ℕ
  | loop i => i
  | submitting i => i
  | notifying i => i + 1
  | counting i => i + 1
  | _ => taskCount

/-- The number of tasks counted. -/
def PoolMain.counted (taskCount : ℕ) : PoolMain → ℕ
  | loop i => i
  | submitting i => i
  | notifying i => i
  | counting i => i
  | _ => taskCount

/-- The index of the loop is in range. -/
def PoolMain.InRange (taskCount : ℕ) : PoolMain → Prop
  | loop i => i ≤ taskCount
  | submitting i => i < taskCount
  | notifying i => i < taskCount
  | counting i => i < taskCount
  | _ => True

lemma PoolMain.InRange.accepted_le {taskCount : ℕ} {m : PoolMain} (h : m.InRange taskCount) :
    m.accepted taskCount ≤ taskCount := by
  cases m with
  | loop i => exact h
  | submitting i => exact Nat.le_of_lt h
  | notifying i | counting i => exact Nat.succ_le_of_lt h
  | _ => exact le_rfl

/-- Where the destructor is. -/
def PoolMain.Destroys (d : DestructorPoint) : PoolMain → Prop
  | destroying => d = .notifying ∨ d = .joining
  | checking => d = .returned
  | _ => d = .notStarted

/-- The task of a worker is inside of `submit`. -/
def WorkerPoint.submits {T : Type*} : WorkerPoint T → Bool
  | submitting _ _ => true
  | notifying _ => true
  | _ => false

namespace PoolProgram

variable {ω : Type*} [Fintype ω] [DecidableEq ω] {taskCount : ℕ} {s s' : PoolProgram ω}
  {a : PoolProgramAct ω} {out obs : List (PoolEvent ℕ)}

/-- No task of the program calls `submit`. -/
def Plain (p : Pool ω Unit ℕ) : Prop := ∀ w, (p.worker w).submits = false

/-- A step other than the call of a task keeps it so. -/
lemma Plain.step {p p' : Pool ω Unit ℕ} {b : PoolAct ω Unit ℕ} (h : Plain p)
    (hm : p.Moves .practice b p' out) (hcall : ∀ w sub, b ≠ .taskCall w sub) : Plain p' := by
  intro w
  have hw := h w
  cases hm with
  | taskCall => exact absurd rfl (hcall _ _)
  | notify hk hwake =>
    exact (Pool.notifyOne_apply (f := WorkerPoint.submits) rfl hwake w).trans hw
  | notifyAll hd =>
    exact (Pool.notifyAll_apply (f := WorkerPoint.submits) rfl p.worker w).trans hw
  | @taskReturn w' | @take w' | @leave w' | @sleep w' | @spurious w' =>
    rcases eq_or_ne w w' with rfl | hne
    · simp [WorkerPoint.submits]
    · simpa [Function.update_of_ne hne] using hw
  | @taskAccept w' _ _ _ hw' | @taskRefuse w' _ _ _ hw' | @taskNotify w' _ _ _ hw' =>
    have hplain := h w'
    rw [hw'] at hplain
    cases hplain
  | call | accept | refuse | destroy | joined => exact hw

/-- The pool has accepted the tasks below the index of the loop and refused none. -/
structure Submits (taskCount : ℕ) (obs : List (PoolEvent ℕ)) (s : PoolProgram ω) : Prop where
  inRange : s.main.InRange taskCount
  submitter : s.pool.submitter () = s.main.submitter
  destructor : s.main.Destroys s.pool.destructor
  plain : Plain s.pool
  rejectedCount : s.pool.pool.rejectedCount = 0
  rejected : s.rejected = 0
  accepted : obs.filterMap PoolEvent.accepted = List.range (s.main.accepted taskCount)
  submitted : s.submitted = s.main.counted taskCount

omit [Fintype ω] [DecidableEq ω] in
/-- While `main` submits, the pool is not stopped. -/
lemma Submits.stop (h : Submits taskCount obs s) (howed : s.pool.StopOwed) {i : ℕ}
    (hmain : s.main = .submitting i) : s.pool.pool.stop = false := by
  have hdestructor := h.destructor
  rw [hmain] at hdestructor
  by_contra hstop
  exact howed.started.mp (by simpa using hstop) hdestructor

omit [Fintype ω] [DecidableEq ω] in
/-- A step of the workers accepts and refuses nothing. -/
lemma Submits.withPool (h : Submits taskCount obs s) {pool : Pool ω Unit ℕ}
    (out : List (PoolEvent ℕ)) (hplain : Plain pool)
    (hsubmitter : pool.submitter = s.pool.submitter)
    (hdestructor : pool.destructor = s.pool.destructor)
    (hrejected : pool.pool.rejectedCount = s.pool.pool.rejectedCount)
    (haccepted : out.filterMap PoolEvent.accepted = []) :
    Submits taskCount (obs ++ out) { s with pool := pool } where
  inRange := h.inRange
  submitter := (congrFun hsubmitter ()).trans h.submitter
  destructor := by
    have hbefore := h.destructor
    rw [← hdestructor] at hbefore
    exact hbefore
  plain := hplain
  rejectedCount := hrejected.trans h.rejectedCount
  rejected := h.rejected
  accepted := by rw [List.filterMap_append, haccepted, List.append_nil, h.accepted]
  submitted := h.submitted

/-- Every step keeps what is submitted. -/
lemma Submits.step (h : Submits taskCount obs s) (howed : s.pool.StopOwed)
    (hm : Moves taskCount s a s' out) : Submits taskCount (obs ++ out) s' := by
  have hrange := h.inRange
  have hsubmitter := h.submitter
  have hdestructor := h.destructor
  -- most steps accept nothing
  have haccepted : (obs ++ []).filterMap PoolEvent.accepted = _ :=
    (congrArg _ (List.append_nil obs)).trans h.accepted
  have hsubmitted := h.submitted
  cases hm with
  | @call i woken pool out hmain hlt hpool =>
    have hmoves := Pool.moves_of_step hpool
    have hplain := h.plain.step hmoves (by simp)
    rw [hmain] at hdestructor haccepted hsubmitted
    cases hmoves with
    | call hk =>
      exact ⟨hlt, by simp [PoolMain.submitter], hdestructor, hplain, h.rejectedCount, h.rejected,
        haccepted, hsubmitted⟩
  | @stop i woken hmain hge =>
    rw [hmain] at hrange hsubmitter hdestructor haccepted hsubmitted
    have hend : i = taskCount := Nat.le_antisymm hrange (Nat.not_lt.mp hge)
    subst hend
    exact ⟨trivial, hsubmitter, hdestructor, h.plain, h.rejectedCount, h.rejected, haccepted,
      hsubmitted⟩
  | @submit i woken pool out hmain hpool =>
    have hopen := h.stop howed hmain
    have hmoves := Pool.moves_of_step hpool
    have hplain := h.plain.step hmoves (by simp)
    rw [hmain] at hrange hsubmitter hdestructor haccepted hsubmitted
    cases hmoves with
    | @accept _ _ task hk _ _ =>
      obtain rfl : task = i := by simpa [PoolMain.submitter, hk] using hsubmitter
      refine ⟨hrange, by simp [PoolMain.submitter], hdestructor, hplain, h.rejectedCount,
        h.rejected, ?_, hsubmitted⟩
      rw [List.append_nil] at haccepted
      rw [List.filterMap_append, haccepted]
      exact List.range_succ.symm
    | refuse _ _ hstop =>
      rw [hopen] at hstop
      cases hstop
    | notify hk =>
      rw [hk] at hsubmitter
      cases hsubmitter
  | @notify i woken pool out hmain hpool =>
    have hmoves := Pool.moves_of_step hpool
    have hplain := h.plain.step hmoves (by simp)
    rw [hmain] at hrange hsubmitter hdestructor haccepted hsubmitted
    cases hmoves with
    | notify hk hwake =>
      exact ⟨hrange, by simp [PoolMain.submitter], hdestructor, hplain, h.rejectedCount,
        h.rejected, haccepted, hsubmitted⟩
    | accept hk | refuse hk =>
      rw [hk] at hsubmitter
      cases hsubmitter
  | @count i woken hmain =>
    rw [hmain] at hrange hsubmitter hdestructor haccepted hsubmitted
    exact ⟨Nat.succ_le_of_lt hrange, hsubmitter, hdestructor, h.plain, h.rejectedCount,
      h.rejected, haccepted, congrArg Nat.succ hsubmitted⟩
  | read hmain =>
    rw [hmain] at hsubmitter hdestructor haccepted hsubmitted
    exact ⟨trivial, hsubmitter, hdestructor, h.plain, h.rejectedCount, h.rejectedCount, haccepted,
      hsubmitted⟩
  | destroy hmain hpool =>
    have hmoves := Pool.moves_of_step hpool
    have hplain := h.plain.step hmoves (by simp)
    rw [hmain] at hsubmitter haccepted hsubmitted
    cases hmoves with
    | destroy hd =>
      exact ⟨trivial, hsubmitter, .inl rfl, hplain, h.rejectedCount, h.rejected, haccepted,
        hsubmitted⟩
  | destructor hmain hpool =>
    have hmoves := Pool.moves_of_step hpool
    have hplain := h.plain.step hmoves (by simp)
    rw [hmain] at hsubmitter haccepted hsubmitted
    cases hmoves with
    | notifyAll hd =>
      exact ⟨trivial, hsubmitter, .inr rfl, hplain, h.rejectedCount, h.rejected, haccepted,
        hsubmitted⟩
    | joined hd hall =>
      exact ⟨trivial, hsubmitter, rfl, hplain, h.rejectedCount, h.rejected, haccepted, hsubmitted⟩
  | @worker w woken pool out hpool =>
    have hmoves := Pool.moves_of_step hpool
    have hplain := h.plain.step hmoves (by simp)
    have hw := h.plain w
    cases hmoves with
    | take | leave | sleep => exact h.withPool _ hplain rfl rfl rfl rfl
    | taskAccept hw' | taskRefuse hw' | taskNotify hw' =>
      rw [hw'] at hw
      cases hw
  | spurious hpool =>
    have hmoves := Pool.moves_of_step hpool
    have hplain := h.plain.step hmoves (by simp)
    cases hmoves with
    | spurious hw => exact h.withPool _ hplain rfl rfl rfl rfl
  | task hpool hstore =>
    have hmoves := Pool.moves_of_step hpool
    have hplain := h.plain.step hmoves (by simp)
    cases hmoves with
    | taskReturn hw =>
      obtain ⟨hrange, hsubmitter, hdestructor, hplain, hcount, hrejected, haccepted, hsubmitted⟩ :=
        h.withPool [.finish _] hplain rfl rfl rfl rfl
      exact ⟨hrange, hsubmitter, hdestructor, hplain, hcount, hrejected, haccepted, hsubmitted⟩

/-! ### What is stored -/

/-- The tasks that have returned have stored their results and are counted. -/
structure Stores (taskCount : ℕ) (obs : List (PoolEvent ℕ)) (s : PoolProgram ω) : Prop where
  length : s.results.length = taskCount
  completed : s.completed = (obs.filterMap PoolEvent.finished).length
  stored : ∀ i ∈ obs.filterMap PoolEvent.finished, i < taskCount → s.results[i]? = square i

omit [Fintype ω] [DecidableEq ω] in
/-- Storing one more result. -/
lemma Stores.store (h : Stores taskCount obs s) {i : ℕ} {value : ℤ} (hvalue : square i = some value)
    (pool : Pool ω Unit ℕ) :
    Stores taskCount (obs ++ [.finish i])
      { s with
        pool := pool
        completed := s.completed + 1
        results := s.results.set i value } where
  length := by simpa using h.length
  completed := by simp [h.completed]
  stored j hj hlt := by
    rcases eq_or_ne i j with rfl | hne
    · rw [hvalue]
      exact List.getElem?_set_self (h.length.symm ▸ hlt)
    · have hbefore : j ∈ obs.filterMap PoolEvent.finished := by
        simpa [List.filterMap_append, List.filterMap_cons, hne.symm] using hj
      rw [List.getElem?_set_ne hne]
      exact h.stored j hbefore hlt

/-- Every step keeps what is stored. -/
lemma Stores.step (h : Stores taskCount obs s) (hm : Moves taskCount s a s' out) :
    Stores taskCount (obs ++ out) s' := by
  have hquiet {pool : Pool ω Unit ℕ} {b : PoolAct ω Unit ℕ} {out : List (PoolEvent ℕ)}
      (hpool : s.pool.step .practice b = some (pool, out)) (hb : ∀ w, b ≠ .taskReturn w) :
      out.filterMap PoolEvent.finished = [] := by
    cases Pool.moves_of_step hpool with
    | taskReturn => exact absurd rfl (hb _)
    | _ => rfl
  have hkeep (out : List (PoolEvent ℕ)) (hnone : out.filterMap PoolEvent.finished = []) :
      (obs ++ out).filterMap PoolEvent.finished = obs.filterMap PoolEvent.finished := by
    rw [List.filterMap_append, hnone, List.append_nil]
  cases hm with
  | call _ _ hpool | submit _ hpool | notify _ hpool | destroy _ hpool | destructor _ hpool
  | worker hpool | spurious hpool =>
    have hsame := hkeep _ (hquiet hpool (by simp))
    exact ⟨h.length, by rw [hsame]; exact h.completed, by rw [hsame]; exact h.stored⟩
  | stop | count | read =>
    have hsame := hkeep [] rfl
    exact ⟨h.length, by rw [hsame]; exact h.completed, by rw [hsame]; exact h.stored⟩
  | task hpool hstore =>
    cases Pool.moves_of_step hpool with
    | @taskReturn w i hw =>
      rw [storeAll_finish] at hstore
      obtain ⟨value, hvalue, rfl⟩ := Option.map_eq_some_iff.mp hstore
      exact h.store hvalue _

/-! ### Whole runs -/

section runs

variable {ts : List (Transition (PoolProgram ω) (PoolProgramAct ω) (PoolEvent ℕ))}

/-- The sleepers of a stopped pool are owed a notification. -/
lemma stopOwed_of_run (h : (system taskCount ω).Run ts s) : s.pool.StopOwed :=
  pool_stopOwed ((isParty taskCount).run h)

/-- What is submitted in a run. -/
lemma submits_of_run (h : (system taskCount ω).Run ts s) :
    Submits taskCount (observations ts) s := by
  refine h.invariant_history (I := fun ts s => Submits taskCount (observations ts) s) ?_ ?_
  · rintro s ⟨hpool, hmain, hsubmitted, -, hrejected, -⟩
    obtain hpool : s.pool = _ := hpool
    refine ⟨?_, ?_, ?_, ?_, ?_, hrejected, ?_, ?_⟩
    · simp [hmain, PoolMain.InRange]
    · simp [hpool, hmain, PoolMain.submitter]
    · simp [hpool, hmain, PoolMain.Destroys]
    · intro w
      simp [hpool, WorkerPoint.submits]
    · simp [hpool, ThreadPool.new]
    · simp [hmain, PoolMain.accepted]
    · simp [hsubmitted, hmain, PoolMain.counted]
  · intro ts s a s' out hrun ih hstep
    rw [observations_append, observations_singleton]
    exact ih.step (stopOwed_of_run hrun) (moves_of_step hstep)

/-- What is stored in a run. -/
lemma stores_of_run (h : (system taskCount ω).Run ts s) :
    Stores taskCount (observations ts) s := by
  refine h.invariant_history (I := fun ts s => Stores taskCount (observations ts) s) ?_ ?_
  · rintro s ⟨-, -, -, hcompleted, -, hresults⟩
    exact ⟨by simp [hresults], by simp [hcompleted], by simp⟩
  · intro ts s a s' out _ ih hstep
    rw [observations_append, observations_singleton]
    exact ih.step (moves_of_step hstep)

/-- The pool never counts a refused task, so every `submit` is in time. -/
lemma inTime_of_run (h : (system taskCount ω).Run ts s) :
    ∀ t ∈ ts.filterMap (poolPart taskCount), Pool.InTime .practice t := by
  intro t ht _ _
  obtain ⟨u, hu, hpart⟩ := List.mem_filterMap.mp ht
  obtain ⟨b, -, rfl⟩ := Option.map_eq_some_iff.mp hpart
  obtain ⟨us, hrun⟩ := (h.of_mem hu).1
  have hcount := (submits_of_run hrun).rejectedCount
  show u.pre.pool.pool.rejectedCount < 2 ^ 31 - 1
  omega

/-- What the workers that have left the loop say about the pool. -/
lemma woundUp_of_run [Nonempty ω] (h : (system taskCount ω).Run ts s) : s.pool.WoundUp :=
  pool_woundUp ((isParty taskCount).run h) (inTime_of_run h)

/-- Once the pool is destroyed, the tasks that have returned are the accepted ones. -/
lemma finished_of_run [Nonempty ω] (h : (system taskCount ω).Run ts s)
    (hmain : s.main = .checking) :
    ((observations ts).filterMap PoolEvent.finished).Perm (List.range taskCount) := by
  have hsubmits := submits_of_run h
  have hdestructor := hsubmits.destructor
  have haccepted := hsubmits.accepted
  rw [hmain] at hdestructor haccepted
  have hwound := woundUp_of_run h
  have hleft := hwound.joined hdestructor
  have hpool := (isParty taskCount).run h
  have hstarted := pool_isFifo.received_eq_sent hpool (hwound.drained hleft)
  have hbalanced := pool_balanced hpool
  rw [observations_pool h] at hstarted hbalanced
  rw [haccepted] at hstarted
  refine List.perm_iff_count.mpr fun task => ?_
  have hnone : tally (WorkerPoint.runs task) s.pool.worker = 0 :=
    tally_eq_zero_iff.mpr fun w => by simp [hleft w, WorkerPoint.runs, WorkerPoint.current]
  have hcount := hbalanced task
  rw [hstarted, hnone, Nat.add_zero] at hcount
  exact hcount.symm

/-- A running task is one of the tasks of the program. -/
lemma running_lt (h : (system taskCount ω).Run ts s) {w : ω} {i : ℕ}
    (hw : s.pool.worker w = .running i) : i < taskCount := by
  have hsubmits := submits_of_run h
  have hpool := (isParty taskCount).run h
  have hprefix := pool_isFifo.received_prefix hpool
  have hbalanced := pool_balanced hpool i
  rw [observations_pool h] at hprefix hbalanced
  have hruns : tally (WorkerPoint.runs i) s.pool.worker ≠ 0 := fun hzero => by
    simpa [hw, WorkerPoint.runs, WorkerPoint.current] using tally_eq_zero_iff.mp hzero w
  have hstarted : i ∈ (observations ts).filterMap PoolEvent.started :=
    List.count_pos_iff.mp (by omega)
  have haccepted := hprefix.subset hstarted
  rw [hsubmits.accepted, List.mem_range] at haccepted
  exact haccepted.trans_le hsubmits.inRange.accepted_le

/-- A task that is running returns. -/
lemma taskReturn_eq_none (hcount : taskCount ≤ 1861) (h : (system taskCount ω).Run ts s) {w : ω}
    (hnone : s.step taskCount (.task w) = none) :
    s.pool.step .practice (.taskReturn w) = none := by
  cases hw : s.pool.worker w with
  | running i =>
    have hlt := running_lt h hw
    have hsquare := square_eq (show i < 1861 by omega)
    have hfails : ∀ pool out, s.pool.step .practice (.taskReturn w) = some (pool, out) →
        storeAll s.results out = none := by
      simpa [step] using hnone
    obtain ⟨pool, hpool⟩ : ∃ pool, s.pool.step .practice (.taskReturn w) =
        some (pool, [.finish i]) := by
      simp [Pool.step, hw]
    have hstore := hfails pool _ hpool
    rw [storeAll_finish, hsquare] at hstore
    cases hstore
  | _ => simp [Pool.step, hw]

/-- The destructor goes on when nobody else can. -/
lemma exists_stepDestructor (h : (system taskCount ω).Run ts s)
    (hdestructor : s.pool.destructor = .notifying ∨ s.pool.destructor = .joining)
    (hstuck : s.pool.Stuck .practice)
    (htask : ∀ w, s.pool.step .practice (.taskReturn w) = none) :
    s.pool.stepDestructor ≠ none := by
  rcases hdestructor with hd | hd
  · simp [Pool.stepDestructor, hd]
  · have howed := stopOwed_of_run h
    have hstop : s.pool.pool.stop = true := howed.started.mpr (by simp [hd])
    have hawake := (howed.owed hstop).resolve_left (by simp [hd])
    have hleft : ∀ w, s.pool.worker w = .returned := fun w => by
      rcases hstuck.resting w with hw | ⟨task, hw⟩ | hw
      · exact absurd hw (hawake w)
      · have hnone := htask w
        simp [Pool.step, hw] at hnone
      · exact hw
    simp [Pool.stepDestructor, hd, hleft]

/-- Without a wakeup from nowhere, the program goes on until `main` checks the outcome. -/
lemma stuck_iff [Nonempty ω] (hcount : taskCount ≤ 1861) (h : (system taskCount ω).Run ts s) :
    (∀ a, (∀ w, a ≠ .spurious w) → s.step taskCount a = none) ↔ s.main = .checking := by
  have hsubmits := submits_of_run h
  have hsubmitter := hsubmits.submitter
  have hdestructor := hsubmits.destructor
  constructor
  · intro hstuck
    have hmain (woken : Option ω) : s.stepMain taskCount woken = none :=
      hstuck (.main woken) (by simp)
    cases hpoint : s.main with
    | loop i =>
      have hnone := hmain none
      rw [hpoint] at hsubmitter
      simp only [stepMain, hpoint] at hnone
      split at hnone
      · simp [withPool, Pool.step, hsubmitter, PoolMain.submitter] at hnone
      · cases hnone
    | submitting i =>
      have hnone := hmain none
      rw [hpoint] at hsubmitter hdestructor
      have halive : s.pool.destructor ≠ .returned := by
        rw [show s.pool.destructor = .notStarted from hdestructor]
        simp
      simp only [stepMain, hpoint, withPool, Pool.step, Pool.stepSubmitter, hsubmitter,
        PoolMain.submitter, if_neg halive, Option.map_eq_none_iff] at hnone
      split at hnone <;> cases hnone
    | notifying i =>
      obtain ⟨woken, worker, hwake⟩ := Pool.exists_notifyOne s.pool.worker
      have hnone := hmain woken
      rw [hpoint] at hsubmitter
      simp [stepMain, hpoint, withPool, Pool.step, Pool.stepSubmitter, hsubmitter,
        PoolMain.submitter, hwake] at hnone
    | counting i => simpa [stepMain, hpoint] using hmain none
    | reading => simpa [stepMain, hpoint] using hmain none
    | leaving =>
      have hnone := hmain none
      rw [hpoint] at hdestructor
      have hd : s.pool.destructor = .notStarted := hdestructor
      simp [stepMain, hpoint, withPool, Pool.step, hd] at hnone
    | destroying =>
      rw [hpoint] at hsubmitter hdestructor
      have hjoin : s.pool.stepDestructor = none := by
        simpa [stepMain, hpoint, withPool, Pool.step] using hmain none
      refine absurd hjoin (exists_stepDestructor h hdestructor ?_ fun w => ?_)
      · refine ⟨fun w woken => ?_, fun k woken => ?_, hjoin⟩
        · simpa [step, withPool, Pool.step] using hstuck (.worker w woken) (by simp)
        · simp [Pool.stepSubmitter, hsubmitter, PoolMain.submitter]
      · exact taskReturn_eq_none hcount h (hstuck (.task w) (by simp))
    | checking => rfl
  · intro hpoint a ha
    rw [hpoint] at hdestructor
    have hleft := (woundUp_of_run h).joined hdestructor
    cases a with
    | main woken => simp [step, stepMain, hpoint]
    | worker w woken => simp [step, withPool, Pool.step, Pool.stepWorker, hleft w]
    | task w => simp [step, Pool.step, hleft w]
    | spurious w => exact absurd rfl (ha w)

/-- **The practice program passes its own check.**  In every schedule, for at least one worker and
any number of tasks up to 1861, where the sum is the last that an `int` holds, the threads never
wait for each other forever, and when `main` comes to the checks every task has been accepted and
has stored its result, none has been refused, and the check holds exactly when the expected sum is
that of the squares. -/
theorem practicePool_passes [Nonempty ω] (hcount : taskCount ≤ 1861)
    (h : (system taskCount ω).Run ts s) :
    ((∀ a, (∀ w, a ≠ .spurious w) → (system taskCount ω).step s a = none) ↔
        s.main = .checking) ∧
      (s.main = .checking →
        s.submitted = taskCount ∧ s.completed = taskCount ∧ s.rejected = 0 ∧
          s.results = squares taskCount ∧
          ∀ expected, s.exitCode taskCount expected =
            some (if sumSquares taskCount = expected then 0 else 1)) := by
  refine ⟨stuck_iff hcount h, fun hmain => ?_⟩
  have hsubmits := submits_of_run h
  have hstores := stores_of_run h
  have hfinished := finished_of_run h hmain
  have hsubmitted : s.submitted = taskCount := by
    rw [hsubmits.submitted, hmain]
    rfl
  have hcompleted : s.completed = taskCount := by
    rw [hstores.completed, hfinished.length_eq, List.length_range]
  have hresults : s.results = squares taskCount := by
    refine List.ext_getElem? fun i => ?_
    rw [getElem?_squares]
    split
    · next hlt =>
      rw [hstores.stored i (hfinished.mem_iff.mpr (List.mem_range.mpr hlt)) hlt,
        square_eq (Nat.lt_of_lt_of_le hlt hcount)]
    · next hge => exact List.getElem?_eq_none (by rw [hstores.length]; omega)
  refine ⟨hsubmitted, hcompleted, hsubmits.rejected, hresults, fun expected => ?_⟩
  rw [exitCode, hresults, foldlM_check hcount le_rfl]
  simp [hsubmitted, hcompleted, hsubmits.rejected]

end runs

/-- The sum that the program expects. -/
example : sumSquares 20 = 2470 := by decide

/-- The program in front of its first step. -/
def start (taskCount : ℕ) (ω : Type*) : PoolProgram ω :=
  ⟨⟨.new, fun _ => .loop, fun _ => .idle, .notStarted⟩, .loop 0, 0, 0, 0,
    List.replicate taskCount (-1)⟩

/-- Two tasks; the only worker takes the second one when the pool is stopped already. -/
def twoTasks : List (PoolProgramAct Unit) :=
  [.worker () none, .main none, .main none, .main (some ()), .main none, .worker () none,
    .main none, .main none, .main none, .main none, .main none, .main none, .main none, .main none,
    .task (), .worker () none, .task (), .worker () none, .main none]

/-- The check holds. -/
theorem practicePool_passes_twoTasks :
    ∃ ts s, (system 2 Unit).Run ts s ∧ s.results = [0, 1] ∧ s.exitCode 2 1 = some 0 := by
  obtain ⟨ts, s, hrun, hmain⟩ := (system 2 Unit).exists_run twoTasks (fun _ s => s.main = .checking)
    (s := start 2 Unit) ⟨rfl, rfl, rfl, rfl, rfl, rfl⟩ (by decide +kernel)
  obtain ⟨-, -, -, hresults, hexit⟩ := (practicePool_passes (by decide) hrun).2 hmain
  exact ⟨ts, s, hrun, hresults, hexit 1⟩

end PoolProgram

end SystemsDemos
