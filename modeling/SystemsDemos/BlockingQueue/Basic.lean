import SystemsDemos.Transition.System
import Mathlib.Data.Fintype.Basic

/-!
# The bounded blocking queue

The model of `BlockingQueue<T>`.  `BlockingQueue` holds the fields of the class, and `push`,
`tryPush`, `pop`, `tryPop` and `shutdown` are the bodies of its critical sections.  `Monitor` adds
the threads: each of them is between two calls or at one of the points of `Call` inside one.

Every critical section is one atomic step.  `notify_one` is issued inside the critical section
that queues or removes an item, so waking a thread is part of that step; the two `notify_all`
calls of `shutdown` come after the mutex is released and are steps of their own.  A thread that
is woken, by a notification or spuriously, is back at the point where it takes the mutex and
evaluates its predicate.

### Outline

* `BlockingQueue` and its critical sections;
* `Call`, `Monitor.notifyOne`, `Monitor.notifyAll` and the step function `Monitor.proceed`;
* `Monitor.Moves`, the cases of a step, and `moves_of_step`.
-/

namespace SystemsDemos

/-- The fields of the queue that the mutex protects, with the fixed capacity. -/
structure BlockingQueue (T : Type*) where
  capacity : ℕ
  /-- The queued items, the front first. -/
  q : List T
  closed : Bool

namespace BlockingQueue

variable {T : Type*}

/-- The constructor: an empty, open queue. -/
def new (capacity : ℕ) : BlockingQueue T := ⟨capacity, [], false⟩

/-- The predicate `push` waits for. -/
def canPush (b : BlockingQueue T) : Bool := b.closed || decide (b.q.length < b.capacity)

/-- The predicate `pop` waits for. -/
def canPop (b : BlockingQueue T) : Bool := b.closed || !b.q.isEmpty

/-- `push` after its wait: refused once closed, queued otherwise. -/
def push (b : BlockingQueue T) (item : T) : BlockingQueue T × Bool :=
  if b.closed then (b, false) else ({ b with q := b.q ++ [item] }, true)

/-- `try_push`: refused when closed or full. -/
def tryPush (b : BlockingQueue T) (item : T) : BlockingQueue T × Bool :=
  if b.closed || decide (b.capacity ≤ b.q.length) then (b, false)
  else ({ b with q := b.q ++ [item] }, true)

/-- `pop` after its wait: nothing when the queue is empty, else the front item. -/
def pop (b : BlockingQueue T) : BlockingQueue T × Option T :=
  match b.q with
  | [] => (b, none)
  | item :: rest => ({ b with q := rest }, some item)

/-- `try_pop`: the same body, without the wait. -/
def tryPop (b : BlockingQueue T) : BlockingQueue T × Option T := b.pop

/-- The critical section of `shutdown`. -/
def shutdown (b : BlockingQueue T) : BlockingQueue T := { b with closed := true }

/-- A closed queue refuses every `push`. -/
lemma push_of_closed {b : BlockingQueue T} (h : b.closed = true) (item : T) :
    b.push item = (b, false) := by
  simp [push, h]

/-- An open queue takes the item at the back. -/
lemma push_of_open {b : BlockingQueue T} (h : b.closed = false) (item : T) :
    b.push item = ({ b with q := b.q ++ [item] }, true) := by
  unfold push
  rw [if_neg (by simp [h])]

/-- `try_push` refuses exactly when the queue is closed or full. -/
lemma tryPush_of_not_room {b : BlockingQueue T}
    (h : b.closed = true ∨ b.capacity ≤ b.q.length) (item : T) :
    b.tryPush item = (b, false) := by
  unfold tryPush
  rw [if_pos (by simpa using h)]

/-- `try_push` on an open queue with room takes the item at the back. -/
lemma tryPush_of_room {b : BlockingQueue T} (hopen : b.closed = false)
    (hroom : b.q.length < b.capacity) (item : T) :
    b.tryPush item = ({ b with q := b.q ++ [item] }, true) := by
  unfold tryPush
  rw [if_neg (by simp [hopen, hroom])]

/-- Nothing is popped from an empty queue. -/
lemma pop_of_nil {b : BlockingQueue T} (h : b.q = []) : b.pop = (b, none) := by
  simp [pop, h]

/-- The front item is popped from a non-empty queue. -/
lemma pop_of_cons {b : BlockingQueue T} {item : T} {rest : List T} (h : b.q = item :: rest) :
    b.pop = ({ b with q := rest }, some item) := by
  simp [pop, h]

/-- `push` waits until the queue is closed or has room. -/
lemma canPush_iff {b : BlockingQueue T} :
    b.canPush = true ↔ b.closed = true ∨ b.q.length < b.capacity := by
  simp [canPush]

/-- `pop` waits until the queue is closed or non-empty. -/
lemma canPop_iff {b : BlockingQueue T} :
    b.canPop = true ↔ b.closed = true ∨ b.q ≠ [] := by
  simp [canPop]

end BlockingQueue

/-- Where a thread stands in its current call. -/
inductive Call (T : Type*)
  /-- Between two calls. -/
  | idle
  /-- `push`: about to take the mutex and evaluate `canPush`. -/
  | pushLock (item : T)
  /-- `push`: asleep in `not_full_.wait`. -/
  | pushWait (item : T)
  | tryPushLock (item : T)
  /-- `pop`: about to take the mutex and evaluate `canPop`. -/
  | popLock
  /-- `pop`: asleep in `not_empty_.wait`. -/
  | popWait
  | tryPopLock
  | shutdownLock
  /-- `shutdown`: closed, `not_full_.notify_all()` still to be made. -/
  | shutdownNotFull
  /-- `shutdown`: `not_empty_.notify_all()` still to be made. -/
  | shutdownNotEmpty
  deriving DecidableEq

namespace Call

variable {T : Type*}

/-- Asleep on `not_full_`. -/
def waitsNotFull : Call T → Bool
  | pushWait _ => true
  | _ => false

/-- Asleep on `not_empty_`. -/
def waitsNotEmpty : Call T → Bool
  | popWait => true
  | _ => false

/-- Where a sleeping thread continues when it is woken. -/
def wake : Call T → Call T
  | pushWait item => pushLock item
  | popWait => popLock
  | c => c

end Call

/-- The operations a client can invoke. -/
inductive Op (T : Type*)
  | push (item : T)
  | tryPush (item : T)
  | pop
  | tryPop
  | shutdown
  deriving DecidableEq

/-- The point at which the call of an operation starts. -/
def Op.entry {T : Type*} : Op T → Call T
  | push item => .pushLock item
  | tryPush item => .tryPushLock item
  | pop => .popLock
  | tryPop => .tryPopLock
  | shutdown => .shutdownLock

/-- What a critical section reports: the call by thread `i` with the result it will return. -/
inductive QueueEvent (ι T : Type*)
  | push (i : ι) (item : T) (ok : Bool)
  | tryPush (i : ι) (item : T) (ok : Bool)
  | pop (i : ι) (out : Option T)
  | tryPop (i : ι) (out : Option T)
  | shutdown (i : ι)
  deriving DecidableEq

namespace QueueEvent

variable {ι T : Type*}

/-- The item of a `push` or `try_push` that returns true. -/
def accepted : QueueEvent ι T → Option T
  | push _ item true => some item
  | tryPush _ item true => some item
  | _ => none

/-- The item a `pop` or `try_pop` hands out. -/
def delivered : QueueEvent ι T → Option T
  | pop _ out => out
  | tryPop _ out => out
  | _ => none

/-- The call returns true. -/
def succeeds (e : QueueEvent ι T) : Bool := e.accepted.isSome || e.delivered.isSome

end QueueEvent

/-- The queue with the threads that use it. -/
structure Monitor (ι T : Type*) where
  queue : BlockingQueue T
  call : ι → Call T

/-- A scheduling choice. -/
inductive QueueAct (ι T : Type*)
  /-- Thread `i` starts an operation. -/
  | invoke (i : ι) (op : Op T)
  /-- Thread `i` makes its next step; `woken` is the thread its `notify_one` wakes, if any. -/
  | proceed (i : ι) (woken : Option ι)
  /-- Thread `i` wakes up without being notified. -/
  | spurious (i : ι)

/-- The thread that moves. -/
def QueueAct.thread {ι T : Type*} : QueueAct ι T → ι
  | invoke i _ => i
  | proceed i _ => i
  | spurious i => i

namespace Monitor

variable {ι T : Type*} [Fintype ι] [DecidableEq ι]

/-- `notify_one` on the condition variable whose sleepers are `asleep`: any one of them is woken,
or nobody when there is none. -/
def notifyOne (asleep : Call T → Bool) (call : ι → Call T) : Option ι → Option (ι → Call T)
  | some j => if asleep (call j) then some (Function.update call j (call j).wake) else none
  | none => if ∃ j, asleep (call j) = true then none else some call

/-- `notify_all` on the condition variable whose sleepers are `asleep`. -/
def notifyAll (asleep : Call T → Bool) (call : ι → Call T) : ι → Call T :=
  fun j => if asleep (call j) then (call j).wake else call j

/-- Thread `i` returns from its call, reporting `e`, after a critical section that leaves `b`. -/
def returns (m : Monitor ι T) (i : ι) (b : BlockingQueue T) (e : QueueEvent ι T) :
    Monitor ι T × List (QueueEvent ι T) :=
  (⟨b, Function.update m.call i .idle⟩, [e])

/-- As `returns`, with a `notify_one` before the mutex is released. -/
def returnsNotifying (m : Monitor ι T) (i : ι) (woken : Option ι) (asleep : Call T → Bool)
    (b : BlockingQueue T) (e : QueueEvent ι T) : Option (Monitor ι T × List (QueueEvent ι T)) :=
  (notifyOne asleep (Function.update m.call i .idle) woken).map fun call => (⟨b, call⟩, [e])

/-- The next step of thread `i` inside its call. -/
def proceed (m : Monitor ι T) (i : ι) (woken : Option ι) :
    Option (Monitor ι T × List (QueueEvent ι T)) :=
  match m.call i with
  | .idle => none
  | .pushWait _ => none
  | .popWait => none
  | .pushLock item =>
      if m.queue.canPush then
        match m.queue.push item with
        | (b, false) => some (m.returns i b (.push i item false))
        | (b, true) => m.returnsNotifying i woken Call.waitsNotEmpty b (.push i item true)
      else some (⟨m.queue, Function.update m.call i (.pushWait item)⟩, [])
  | .tryPushLock item =>
      match m.queue.tryPush item with
      | (b, false) => some (m.returns i b (.tryPush i item false))
      | (b, true) => m.returnsNotifying i woken Call.waitsNotEmpty b (.tryPush i item true)
  | .popLock =>
      if m.queue.canPop then
        match m.queue.pop with
        | (b, none) => some (m.returns i b (.pop i none))
        | (b, some item) =>
            m.returnsNotifying i woken Call.waitsNotFull b (.pop i (some item))
      else some (⟨m.queue, Function.update m.call i .popWait⟩, [])
  | .tryPopLock =>
      match m.queue.tryPop with
      | (b, none) => some (m.returns i b (.tryPop i none))
      | (b, some item) =>
          m.returnsNotifying i woken Call.waitsNotFull b (.tryPop i (some item))
  | .shutdownLock =>
      some (⟨m.queue.shutdown, Function.update m.call i .shutdownNotFull⟩, [.shutdown i])
  | .shutdownNotFull =>
      some (⟨m.queue, Function.update (notifyAll Call.waitsNotFull m.call) i .shutdownNotEmpty⟩,
        [])
  | .shutdownNotEmpty =>
      some (⟨m.queue, Function.update (notifyAll Call.waitsNotEmpty m.call) i .idle⟩, [])

/-- One step of the threads around the queue. -/
def step (m : Monitor ι T) : QueueAct ι T → Option (Monitor ι T × List (QueueEvent ι T))
  | .invoke i op =>
      if (m.call i) matches .idle then
        some (⟨m.queue, Function.update m.call i op.entry⟩, [])
      else none
  | .proceed i woken => m.proceed i woken
  | .spurious i =>
      if (m.call i).waitsNotFull || (m.call i).waitsNotEmpty then
        some (⟨m.queue, Function.update m.call i (m.call i).wake⟩, [])
      else none

/-! ### The cases of a step -/

/-- Everything a step of the threads around the queue can be. -/
inductive Moves (m : Monitor ι T) :
    QueueAct ι T → Monitor ι T → List (QueueEvent ι T) → Prop
  | invoke {i op} (hcall : m.call i = .idle) :
      Moves m (.invoke i op) ⟨m.queue, Function.update m.call i op.entry⟩ []
  | spuriousPush {i item} (hcall : m.call i = .pushWait item) :
      Moves m (.spurious i) ⟨m.queue, Function.update m.call i (.pushLock item)⟩ []
  | spuriousPop {i} (hcall : m.call i = .popWait) :
      Moves m (.spurious i) ⟨m.queue, Function.update m.call i .popLock⟩ []
  | pushSleep {i w item} (hcall : m.call i = .pushLock item) (hopen : m.queue.closed = false)
      (hfull : m.queue.capacity ≤ m.queue.q.length) :
      Moves m (.proceed i w) ⟨m.queue, Function.update m.call i (.pushWait item)⟩ []
  | pushClosed {i w item} (hcall : m.call i = .pushLock item) (hclosed : m.queue.closed = true) :
      Moves m (.proceed i w) ⟨m.queue, Function.update m.call i .idle⟩ [.push i item false]
  | pushItem {i w item call} (hcall : m.call i = .pushLock item)
      (hopen : m.queue.closed = false) (hroom : m.queue.q.length < m.queue.capacity)
      (hwake : notifyOne Call.waitsNotEmpty (Function.update m.call i .idle) w = some call) :
      Moves m (.proceed i w) ⟨{ m.queue with q := m.queue.q ++ [item] }, call⟩
        [.push i item true]
  | tryPushRefused {i w item} (hcall : m.call i = .tryPushLock item) :
      Moves m (.proceed i w) ⟨m.queue, Function.update m.call i .idle⟩ [.tryPush i item false]
  | tryPushItem {i w item call} (hcall : m.call i = .tryPushLock item)
      (hopen : m.queue.closed = false) (hroom : m.queue.q.length < m.queue.capacity)
      (hwake : notifyOne Call.waitsNotEmpty (Function.update m.call i .idle) w = some call) :
      Moves m (.proceed i w) ⟨{ m.queue with q := m.queue.q ++ [item] }, call⟩
        [.tryPush i item true]
  | popSleep {i w} (hcall : m.call i = .popLock) (hopen : m.queue.closed = false)
      (hempty : m.queue.q = []) :
      Moves m (.proceed i w) ⟨m.queue, Function.update m.call i .popWait⟩ []
  | popDrained {i w} (hcall : m.call i = .popLock) (hclosed : m.queue.closed = true)
      (hempty : m.queue.q = []) :
      Moves m (.proceed i w) ⟨m.queue, Function.update m.call i .idle⟩ [.pop i none]
  | popItem {i w item rest call} (hcall : m.call i = .popLock) (hq : m.queue.q = item :: rest)
      (hwake : notifyOne Call.waitsNotFull (Function.update m.call i .idle) w = some call) :
      Moves m (.proceed i w) ⟨{ m.queue with q := rest }, call⟩ [.pop i (some item)]
  | tryPopEmpty {i w} (hcall : m.call i = .tryPopLock) (hempty : m.queue.q = []) :
      Moves m (.proceed i w) ⟨m.queue, Function.update m.call i .idle⟩ [.tryPop i none]
  | tryPopItem {i w item rest call} (hcall : m.call i = .tryPopLock)
      (hq : m.queue.q = item :: rest)
      (hwake : notifyOne Call.waitsNotFull (Function.update m.call i .idle) w = some call) :
      Moves m (.proceed i w) ⟨{ m.queue with q := rest }, call⟩ [.tryPop i (some item)]
  | close {i w} (hcall : m.call i = .shutdownLock) :
      Moves m (.proceed i w) ⟨m.queue.shutdown, Function.update m.call i .shutdownNotFull⟩
        [.shutdown i]
  | notifyNotFull {i w} (hcall : m.call i = .shutdownNotFull) :
      Moves m (.proceed i w) ⟨m.queue,
        Function.update (notifyAll Call.waitsNotFull m.call) i .shutdownNotEmpty⟩ []
  | notifyNotEmpty {i w} (hcall : m.call i = .shutdownNotEmpty) :
      Moves m (.proceed i w) ⟨m.queue,
        Function.update (notifyAll Call.waitsNotEmpty m.call) i .idle⟩ []

/-- A step with a `notify_one` in its critical section. -/
private lemma returnsNotifying_eq_some {m m' : Monitor ι T} {i : ι} {w : Option ι}
    {asleep : Call T → Bool} {b : BlockingQueue T} {e : QueueEvent ι T}
    {out : List (QueueEvent ι T)} :
    m.returnsNotifying i w asleep b e = some (m', out) ↔
      ∃ call, notifyOne asleep (Function.update m.call i .idle) w = some call ∧
        m' = ⟨b, call⟩ ∧ out = [e] := by
  simp [returnsNotifying, eq_comm]

/-- The inversion of `proceed`. -/
private lemma moves_of_proceed {m m' : Monitor ι T} {i : ι} {w : Option ι}
    {out : List (QueueEvent ι T)} (h : m.proceed i w = some (m', out)) :
    Moves m (.proceed i w) m' out := by
  unfold proceed at h
  split at h
  · cases h
  · cases h
  · cases h
  · next item hcall =>
    by_cases hready : m.queue.canPush = true
    · rw [if_pos hready] at h
      cases hclosed : m.queue.closed with
      | true =>
        rw [BlockingQueue.push_of_closed hclosed] at h
        cases h
        exact .pushClosed hcall hclosed
      | false =>
        rw [BlockingQueue.push_of_open hclosed] at h
        obtain ⟨call, hwake, rfl, rfl⟩ := returnsNotifying_eq_some.mp h
        refine .pushItem hcall hclosed ?_ hwake
        simpa [hclosed] using BlockingQueue.canPush_iff.mp hready
    · rw [if_neg hready] at h
      cases h
      rw [BlockingQueue.canPush_iff, not_or, not_lt, Bool.not_eq_true] at hready
      exact .pushSleep hcall hready.1 hready.2
  · next item hcall =>
    by_cases hrefuse : m.queue.closed = true ∨ m.queue.capacity ≤ m.queue.q.length
    · rw [BlockingQueue.tryPush_of_not_room hrefuse] at h
      cases h
      exact .tryPushRefused hcall
    · rw [not_or, not_le, Bool.not_eq_true] at hrefuse
      rw [BlockingQueue.tryPush_of_room hrefuse.1 hrefuse.2] at h
      obtain ⟨call, hwake, rfl, rfl⟩ := returnsNotifying_eq_some.mp h
      exact .tryPushItem hcall hrefuse.1 hrefuse.2 hwake
  · next hcall =>
    by_cases hready : m.queue.canPop = true
    · rw [if_pos hready] at h
      cases hq : m.queue.q with
      | nil =>
        rw [BlockingQueue.pop_of_nil hq] at h
        cases h
        refine .popDrained hcall ?_ hq
        simpa [hq] using BlockingQueue.canPop_iff.mp hready
      | cons item rest =>
        rw [BlockingQueue.pop_of_cons hq] at h
        obtain ⟨call, hwake, rfl, rfl⟩ := returnsNotifying_eq_some.mp h
        exact .popItem hcall hq hwake
    · rw [if_neg hready] at h
      cases h
      rw [BlockingQueue.canPop_iff, not_or, not_not, Bool.not_eq_true] at hready
      exact .popSleep hcall hready.1 hready.2
  · next hcall =>
    unfold BlockingQueue.tryPop at h
    cases hq : m.queue.q with
    | nil =>
      rw [BlockingQueue.pop_of_nil hq] at h
      cases h
      exact .tryPopEmpty hcall hq
    | cons item rest =>
      rw [BlockingQueue.pop_of_cons hq] at h
      obtain ⟨call, hwake, rfl, rfl⟩ := returnsNotifying_eq_some.mp h
      exact .tryPopItem hcall hq hwake
  · next hcall =>
    cases h
    exact .close hcall
  · next hcall =>
    cases h
    exact .notifyNotFull hcall
  · next hcall =>
    cases h
    exact .notifyNotEmpty hcall

/-- Every enabled step is one of the listed moves. -/
theorem moves_of_step {m m' : Monitor ι T} {a : QueueAct ι T} {out : List (QueueEvent ι T)}
    (h : m.step a = some (m', out)) : Moves m a m' out := by
  cases a with
  | invoke i op =>
    simp only [step] at h
    split at h
    · next hidle =>
      cases h
      exact .invoke (by cases hc : m.call i <;> simp_all)
    · cases h
  | proceed i w => exact moves_of_proceed h
  | spurious i =>
    simp only [step] at h
    cases hc : m.call i <;> simp only [hc, Call.waitsNotFull, Call.waitsNotEmpty, Call.wake,
      Bool.or_self, Bool.or_true, Bool.or_false, Bool.false_eq_true, if_true, if_false] at h
    case pushWait item => cases h; exact .spuriousPush hc
    case popWait => cases h; exact .spuriousPop hc
    all_goals cases h

/-! ### What a step does to the threads -/

/-- A successful `notifyOne` wakes a sleeper, or found none. -/
lemma notifyOne_cases {asleep : Call T → Bool} {call call' : ι → Call T} {w : Option ι}
    (h : notifyOne asleep call w = some call') :
    ((∀ j, asleep (call j) = false) ∧ call' = call) ∨
      ∃ j, asleep (call j) = true ∧ call' = Function.update call j (call j).wake := by
  cases w with
  | none =>
    simp only [notifyOne] at h
    split at h
    · cases h
    · next hnone => exact .inl ⟨by simpa using hnone, (Option.some.inj h).symm⟩
  | some j =>
    simp only [notifyOne] at h
    split at h
    · next hj => exact .inr ⟨j, hj, (Option.some.inj h).symm⟩
    · cases h

/-- `notify_one` does not move a thread that is not asleep on its variable. -/
lemma notifyOne_of_awake {asleep : Call T → Bool} {call call' : ι → Call T} {w : Option ι}
    (h : notifyOne asleep call w = some call') {i : ι} (hi : asleep (call i) = false) :
    call' i = call i := by
  rcases notifyOne_cases h with ⟨-, rfl⟩ | ⟨j, hj, rfl⟩
  · rfl
  · refine Function.update_of_ne ?_ _ _
    rintro rfl
    simp [hi] at hj

/-- A step of one thread leaves every other thread where it is, or wakes it. -/
lemma Moves.call_other {m m' : Monitor ι T} {a : QueueAct ι T} {out : List (QueueEvent ι T)}
    (h : Moves m a m' out) {j : ι} (hj : j ≠ a.thread) :
    m'.call j = m.call j ∨ m'.call j = (m.call j).wake := by
  have hnotify {asleep : Call T → Bool} {i : ι} {w : Option ι} {call : ι → Call T}
      (hwake : notifyOne asleep (Function.update m.call i .idle) w = some call) (hji : j ≠ i) :
      call j = m.call j ∨ call j = (m.call j).wake := by
    rcases notifyOne_cases hwake with ⟨-, rfl⟩ | ⟨k, -, rfl⟩
    · exact .inl (Function.update_of_ne hji _ _)
    · by_cases hjk : j = k
      · subst hjk
        exact .inr (by rw [Function.update_self, Function.update_of_ne hji])
      · exact .inl (by rw [Function.update_of_ne hjk, Function.update_of_ne hji])
  have hall {asleep : Call T → Bool} {i : ι} {c : Call T} (hji : j ≠ i) :
      Function.update (notifyAll asleep m.call) i c j = m.call j ∨
        Function.update (notifyAll asleep m.call) i c j = (m.call j).wake := by
    rw [Function.update_of_ne hji]
    unfold notifyAll
    split
    · exact .inr rfl
    · exact .inl rfl
  cases h with
  | pushItem _ _ _ hwake => exact hnotify hwake hj
  | tryPushItem _ _ _ hwake => exact hnotify hwake hj
  | popItem _ _ hwake => exact hnotify hwake hj
  | tryPopItem _ _ hwake => exact hnotify hwake hj
  | notifyNotFull _ => exact hall hj
  | notifyNotEmpty _ => exact hall hj
  | _ => exact .inl (Function.update_of_ne hj _ _)

/-- A step of thread `i` inside `push`: it sleeps, or returns false or true. -/
lemma push_step {m m' : Monitor ι T} {i : ι} {w : Option ι} {item : T}
    {out : List (QueueEvent ι T)} (h : m.step (.proceed i w) = some (m', out))
    (hcall : m.call i = .pushLock item ∨ m.call i = .pushWait item) :
    (out = [] ∧ m'.call i = .pushWait item) ∨
      ∃ ok, out = [.push i item ok] ∧ m'.call i = .idle := by
  cases moves_of_step h with
  | pushSleep hc =>
    obtain ⟨rfl⟩ : _ = item := by simpa [hc] using hcall
    exact .inl ⟨rfl, Function.update_self ..⟩
  | pushClosed hc =>
    obtain ⟨rfl⟩ : _ = item := by simpa [hc] using hcall
    exact .inr ⟨false, rfl, Function.update_self ..⟩
  | pushItem hc _ _ hwake =>
    obtain ⟨rfl⟩ : _ = item := by simpa [hc] using hcall
    refine .inr ⟨true, rfl, ?_⟩
    have hi := notifyOne_of_awake hwake (i := i) (by rw [Function.update_self]; rfl)
    rwa [Function.update_self] at hi
  | _ hc => simp [hc] at hcall

/-- A step of thread `i` inside `pop`: it sleeps, or returns with what it got. -/
lemma pop_step {m m' : Monitor ι T} {i : ι} {w : Option ι} {out : List (QueueEvent ι T)}
    (h : m.step (.proceed i w) = some (m', out))
    (hcall : m.call i = .popLock ∨ m.call i = .popWait) :
    (out = [] ∧ m'.call i = .popWait) ∨ ∃ r, out = [.pop i r] ∧ m'.call i = .idle := by
  cases moves_of_step h with
  | popSleep _ => exact .inl ⟨rfl, Function.update_self ..⟩
  | popDrained _ => exact .inr ⟨none, rfl, Function.update_self ..⟩
  | popItem _ _ hwake =>
    refine .inr ⟨_, rfl, ?_⟩
    have hi := notifyOne_of_awake hwake (i := i) (by rw [Function.update_self]; rfl)
    rwa [Function.update_self] at hi
  | _ hc => simp [hc] at hcall

/-- A step of thread `i` inside `shutdown` moves it one point on and hands nothing over. -/
lemma shutdown_step {m m' : Monitor ι T} {i : ι} {w : Option ι} {out : List (QueueEvent ι T)}
    (h : m.step (.proceed i w) = some (m', out))
    (hcall : m.call i = .shutdownLock ∨ m.call i = .shutdownNotFull ∨
      m.call i = .shutdownNotEmpty) :
    (m'.call i = .shutdownNotFull ∨ m'.call i = .shutdownNotEmpty ∨ m'.call i = .idle) ∧
      out.filterMap QueueEvent.accepted = [] ∧ out.filterMap QueueEvent.delivered = [] := by
  cases moves_of_step h with
  | close _ => exact ⟨.inl (Function.update_self ..), rfl, rfl⟩
  | notifyNotFull _ => exact ⟨.inr (.inl (Function.update_self ..)), rfl, rfl⟩
  | notifyNotEmpty _ => exact ⟨.inr (.inr (Function.update_self ..)), rfl, rfl⟩
  | _ hc => simp [hc] at hcall

end Monitor

/-- A queue of the given capacity used by the threads `ι`, which invoke whatever operations they
like. -/
def queueSystem (ι T : Type*) [Fintype ι] [DecidableEq ι] (capacity : ℕ) :
    System (Monitor ι T) (QueueAct ι T) (QueueEvent ι T) where
  init m := m = ⟨.new capacity, fun _ => .idle⟩
  step := Monitor.step

end SystemsDemos
