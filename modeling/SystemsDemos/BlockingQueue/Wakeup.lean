import SystemsDemos.BlockingQueue.History
import SystemsDemos.Transition.CondVar

/-!
# No wakeup of the blocking queue is lost

The queue has two condition variables.  On an open queue each of them follows the counting
discipline of `CondVar`: the units of `not_empty_` are the queued items and the units of
`not_full_` are the free slots, and `Moves.notEmpty_steps` and `Moves.notFull_steps` say which
abstract steps a step of the queue makes.  On a closed queue nobody falls asleep any more, and
whoever still sleeps is owed a `notify_all` by a `shutdown` that has not finished
(`ClosedOwed`).  Together they exclude a state in which nothing can move while a sleeping thread
could go on.
-/

namespace SystemsDemos

open Relation CondVar

variable {ι T : Type*}

namespace Call

/-- The role of a call for `not_empty_`, the condition variable of `pop`. -/
def roleNotEmpty : Call T → Role
  | popLock => .ready
  | popWait => .asleep
  | _ => .absent

/-- The role of a call for `not_full_`, the condition variable of `push`. -/
def roleNotFull : Call T → Role
  | pushLock _ => .ready
  | pushWait _ => .asleep
  | _ => .absent

/-- A `shutdown` that still has to wake the sleepers of `not_full_`. -/
def owesNotFull : Call T → Bool
  | shutdownNotFull => true
  | _ => false

/-- A `shutdown` that still has to wake the sleepers of `not_empty_`. -/
def owesNotEmpty : Call T → Bool
  | shutdownNotFull => true
  | shutdownNotEmpty => true
  | _ => false

/-- A woken thread is asleep on neither variable. -/
@[simp] lemma waits_wake (c : Call T) :
    c.wake.waitsNotFull = false ∧ c.wake.waitsNotEmpty = false := by
  cases c <;> exact ⟨rfl, rfl⟩

end Call

namespace Monitor

variable [Fintype ι] [DecidableEq ι]

/-- The state of `not_empty_`. -/
def notEmptyVar (m : Monitor ι T) : CondVar :=
  ofRoles m.queue.q.length (fun i => (m.call i).roleNotEmpty) 0

/-- The state of `not_full_`. -/
def notFullVar (m : Monitor ι T) : CondVar :=
  ofRoles (m.queue.capacity - m.queue.q.length) (fun i => (m.call i).roleNotFull) 0

/-- No thread can make a step inside its call, the notifications of `shutdown` included. -/
def Stuck (m : Monitor ι T) : Prop := ∀ i woken, m.proceed i woken = none

/-- Whoever sleeps, some choice of `notifyOne` is possible. -/
lemma exists_notifyOne (asleep : Call T → Bool) (call : ι → Call T) :
    ∃ w call', notifyOne asleep call w = some call' := by
  by_cases h : ∃ j, asleep (call j) = true
  · obtain ⟨j, hj⟩ := h
    exact ⟨some j, _, if_pos hj⟩
  · exact ⟨none, _, if_neg h⟩

/-- `notify_one` on `not_empty_` wakes a sleeper of that variable and of no other. -/
private lemma wakes_notEmpty {call call' : ι → Call T} {w : Option ι}
    (h : notifyOne Call.waitsNotEmpty call w = some call') :
    Wakes (fun j => (call j).roleNotEmpty) (fun j => (call' j).roleNotEmpty) ∧
      (fun j => (call' j).roleNotFull) = fun j => (call j).roleNotFull := by
  rcases notifyOne_cases h with ⟨hnone, rfl⟩ | ⟨j, hj, rfl⟩
  · refine ⟨.inl ⟨fun j => ?_, rfl⟩, rfl⟩
    have := hnone j
    cases hc : call' j <;> simp_all [Call.waitsNotEmpty, Call.roleNotEmpty]
  · have hc : call j = .popWait := by cases hc : call j <;> simp_all [Call.waitsNotEmpty]
    rw [hc, Call.wake, role_update, role_update]
    refine ⟨.inr ⟨j, congrArg _ hc, rfl⟩, ?_⟩
    exact Function.update_eq_self_iff.mpr (by rw [hc]; rfl)

/-- `notify_one` on `not_full_` wakes a sleeper of that variable and of no other. -/
private lemma wakes_notFull {call call' : ι → Call T} {w : Option ι}
    (h : notifyOne Call.waitsNotFull call w = some call') :
    Wakes (fun j => (call j).roleNotFull) (fun j => (call' j).roleNotFull) ∧
      (fun j => (call' j).roleNotEmpty) = fun j => (call j).roleNotEmpty := by
  rcases notifyOne_cases h with ⟨hnone, rfl⟩ | ⟨j, hj, rfl⟩
  · refine ⟨.inl ⟨fun j => ?_, rfl⟩, rfl⟩
    have := hnone j
    cases hc : call' j <;> simp_all [Call.waitsNotFull, Call.roleNotFull]
  · obtain ⟨item, hc⟩ : ∃ item, call j = .pushWait item := by
      cases hc : call j <;> simp_all [Call.waitsNotFull]
    rw [hc, Call.wake, role_update, role_update]
    refine ⟨.inr ⟨j, congrArg _ hc, rfl⟩, ?_⟩
    exact Function.update_eq_self_iff.mpr (by rw [hc]; rfl)

omit [Fintype ι] [DecidableEq ι] in
/-- `notify_all` does not move a thread that is not asleep on the variable. -/
private lemma notifyAll_of_awake {asleep : Call T → Bool} {call : ι → Call T} {i : ι} {c : Call T}
    (hcall : call i = c) (hc : asleep c = false) : notifyAll asleep call i = c := by
  unfold notifyAll
  rw [hcall, hc, if_neg Bool.false_ne_true]

omit [Fintype ι] [DecidableEq ι] in
/-- `notify_all` on one variable changes no role for the other. -/
private lemma role_notifyAll_other (call : ι → Call T) :
    ((fun j => (notifyAll Call.waitsNotFull call j).roleNotEmpty) =
        fun j => (call j).roleNotEmpty) ∧
      (fun j => (notifyAll Call.waitsNotEmpty call j).roleNotFull) =
        fun j => (call j).roleNotFull := by
  constructor <;> funext j <;> unfold notifyAll <;> cases call j <;> rfl

omit [Fintype ι] [DecidableEq ι] in
/-- `notify_all` wakes every sleeper of its variable. -/
private lemma role_notifyAll_self (call : ι → Call T) :
    ((fun j => (notifyAll Call.waitsNotFull call j).roleNotFull) =
        fun j => ((call j).roleNotFull).awake) ∧
      (fun j => (notifyAll Call.waitsNotEmpty call j).roleNotEmpty) =
        fun j => ((call j).roleNotEmpty).awake := by
  constructor <;> funext j <;> unfold notifyAll <;> cases call j <;> rfl

omit [Fintype ι] in
/-- A thread counted after one call has moved to an uncounted point was counted before. -/
private lemma of_update {p : Call T → Bool} {call : ι → Call T} {i j : ι} {c : Call T}
    (hc : p c = false) (h : p (Function.update call i c j) = true) : p (call j) = true := by
  by_cases hj : j = i
  · subst hj
    simp [hc] at h
  · rwa [Function.update_of_ne hj] at h

omit [Fintype ι] in
/-- A thread counted before another, uncounted one has moved is still counted. -/
private lemma update_of {p : Call T → Bool} {call : ι → Call T} {i j : ι} {c c' : Call T}
    (hcall : call i = c) (hc : p c = false) (h : p (call j) = true) :
    p (Function.update call i c' j) = true := by
  have hj : j ≠ i := by
    rintro rfl
    simp [hcall, hc] at h
  rwa [Function.update_of_ne hj]

omit [Fintype ι] [DecidableEq ι] in
/-- Who sleeps after `notify_all` on some variable slept before. -/
private lemma asleep_of_notifyAll {asleep : Call T → Bool} {call : ι → Call T} {j : ι} :
    ((notifyAll asleep call j).waitsNotFull = true → (call j).waitsNotFull = true) ∧
      ((notifyAll asleep call j).waitsNotEmpty = true → (call j).waitsNotEmpty = true) := by
  unfold notifyAll
  split <;> simp

omit [Fintype ι] [DecidableEq ι] in
/-- Nobody sleeps on a variable after its `notify_all`. -/
private lemma not_asleep_notifyAll {call : ι → Call T} {j : ι} :
    (notifyAll Call.waitsNotFull call j).waitsNotFull ≠ true ∧
      (notifyAll Call.waitsNotEmpty call j).waitsNotEmpty ≠ true := by
  unfold notifyAll
  constructor <;> split <;> simp_all

/-- Who sleeps after a `notify_one` on some variable slept before. -/
private lemma asleep_of_notifyOne {asleep : Call T → Bool} {call call' : ι → Call T}
    {w : Option ι} (h : notifyOne asleep call w = some call') (j : ι) :
    ((call' j).waitsNotFull = true → (call j).waitsNotFull = true) ∧
      ((call' j).waitsNotEmpty = true → (call j).waitsNotEmpty = true) := by
  rcases notifyOne_cases h with ⟨-, rfl⟩ | ⟨k, -, rfl⟩
  · exact ⟨id, id⟩
  · exact ⟨of_update (Call.waits_wake _).1, of_update (Call.waits_wake _).2⟩

/-- `notify_one` moves no thread that owes a `notify_all`. -/
private lemma owes_notifyOne {asleep p : Call T → Bool} {call call' : ι → Call T} {w : Option ι}
    (h : notifyOne asleep call w = some call') (hp : ∀ c, asleep c = true → p c = false) {k : ι}
    (hk : p (call k) = true) : p (call' k) = true := by
  rcases notifyOne_cases h with ⟨-, rfl⟩ | ⟨j, hj, rfl⟩
  · exact hk
  · exact update_of rfl (hp _ hj) hk

omit [Fintype ι] [DecidableEq ι] in
/-- `notify_all` moves no thread that owes one. -/
private lemma owes_notifyAll {asleep p : Call T → Bool} {call : ι → Call T}
    (hp : ∀ c, asleep c = true → p c = false) {k : ι} (hk : p (call k) = true) :
    p (notifyAll asleep call k) = true := by
  unfold notifyAll
  rw [if_neg fun ha => by simp [hp _ ha] at hk]
  exact hk

/-- Sleepers owe nothing. -/
private lemma not_owes_of_waits {c : Call T}
    (h : c.waitsNotFull = true ∨ c.waitsNotEmpty = true) :
    c.owesNotFull = false ∧ c.owesNotEmpty = false := by
  cases c <;> simp_all [Call.waitsNotFull, Call.waitsNotEmpty, Call.owesNotFull,
    Call.owesNotEmpty]

namespace Moves

variable {m m' : Monitor ι T} {a : QueueAct ι T} {out : List (QueueEvent ι T)}

/-- While the queue stays open, a step follows the counting discipline of `not_empty_`. -/
theorem notEmpty_steps (h : Moves m a m' out) (hopen : m'.queue.closed = false) :
    ReflTransGen Step m.notEmptyVar m'.notEmptyVar := by
  unfold notEmptyVar
  cases h with
  | @invoke i op hcall =>
    cases op with
    | pop =>
      dsimp only [Op.entry]
      rw [role_update]
      exact .single (step_arrive (congrArg _ hcall))
    | _ => exact steps_of_same hcall rfl
  | spuriousPush hcall => exact steps_of_same hcall rfl
  | spuriousPop hcall =>
    dsimp only
    rw [role_update]
    exact .single (step_spurious (congrArg _ hcall))
  | pushSleep hcall => exact steps_of_same hcall rfl
  | pushClosed hcall => exact steps_of_same hcall rfl
  | pushItem hcall _ _ hwake =>
    have hw := (wakes_notEmpty hwake).1
    rw [role_update_same hcall (c := .idle) rfl] at hw
    simpa using steps_post_notify hw
  | tryPushRefused hcall => exact steps_of_same hcall rfl
  | tryPushItem hcall _ _ hwake =>
    have hw := (wakes_notEmpty hwake).1
    rw [role_update_same hcall (c := .idle) rfl] at hw
    simpa using steps_post_notify hw
  | popSleep hcall _ hempty =>
    dsimp only
    rw [role_update, hempty]
    exact .single (step_sleep (congrArg _ hcall))
  | popDrained _ hclosed _ => simp [hclosed] at hopen
  | popItem hcall hq hwake =>
    dsimp only
    rw [(wakes_notFull hwake).2, role_update, hq]
    exact .single (step_take (congrArg _ hcall))
  | tryPopEmpty hcall => exact steps_of_same hcall rfl
  | tryPopItem hcall hq hwake =>
    dsimp only
    rw [(wakes_notFull hwake).2, role_update_same hcall (c := .idle) rfl, hq]
    exact .single step_steal
  | close hcall => simp [BlockingQueue.shutdown] at hopen
  | notifyNotFull hcall =>
    dsimp only
    rw [role_update_same (notifyAll_of_awake hcall rfl) (c := .shutdownNotEmpty) rfl,
      (role_notifyAll_other _).1]
  | notifyNotEmpty hcall =>
    dsimp only
    rw [role_update_same (notifyAll_of_awake hcall rfl) (c := .idle) rfl,
      (role_notifyAll_self _).2]
    exact .single step_broadcast

/-- While the queue stays open, a step follows the counting discipline of `not_full_`. -/
theorem notFull_steps (h : Moves m a m' out) (hopen : m'.queue.closed = false)
    (hle : m.queue.q.length ≤ m.queue.capacity) :
    ReflTransGen Step m.notFullVar m'.notFullVar := by
  unfold notFullVar
  cases h with
  | @invoke i op hcall =>
    cases op with
    | push item =>
      dsimp only [Op.entry]
      rw [role_update]
      exact .single (step_arrive (congrArg _ hcall))
    | _ => exact steps_of_same hcall rfl
  | spuriousPush hcall =>
    dsimp only
    rw [role_update]
    exact .single (step_spurious (congrArg _ hcall))
  | spuriousPop hcall => exact steps_of_same hcall rfl
  | pushSleep hcall _ hfull =>
    dsimp only
    rw [role_update, Nat.sub_eq_zero_of_le hfull]
    exact .single (step_sleep (congrArg _ hcall))
  | pushClosed _ hclosed => simp [hclosed] at hopen
  | pushItem hcall _ hroom hwake =>
    dsimp only
    rw [(wakes_notEmpty hwake).2, role_update, List.length_append, List.length_singleton,
      show m.queue.capacity - m.queue.q.length =
        m.queue.capacity - (m.queue.q.length + 1) + 1 by omega]
    exact .single (step_take (congrArg _ hcall))
  | tryPushRefused hcall => exact steps_of_same hcall rfl
  | tryPushItem hcall _ hroom hwake =>
    dsimp only
    rw [(wakes_notEmpty hwake).2, role_update_same hcall (c := .idle) rfl, List.length_append,
      List.length_singleton, show m.queue.capacity - m.queue.q.length =
        m.queue.capacity - (m.queue.q.length + 1) + 1 by omega]
    exact .single step_steal
  | popSleep hcall => exact steps_of_same hcall rfl
  | popDrained _ hclosed _ => simp [hclosed] at hopen
  | @popItem i w item rest call hcall hq hwake =>
    have hw := (wakes_notFull hwake).1
    rw [role_update_same hcall (c := .idle) rfl] at hw
    rw [hq, List.length_cons] at hle ⊢
    dsimp only
    rw [show m.queue.capacity - rest.length =
      m.queue.capacity - (rest.length + 1) + 1 by omega]
    exact steps_post_notify hw
  | tryPopEmpty hcall => exact steps_of_same hcall rfl
  | @tryPopItem i w item rest call hcall hq hwake =>
    have hw := (wakes_notFull hwake).1
    rw [role_update_same hcall (c := .idle) rfl] at hw
    rw [hq, List.length_cons] at hle ⊢
    dsimp only
    rw [show m.queue.capacity - rest.length =
      m.queue.capacity - (rest.length + 1) + 1 by omega]
    exact steps_post_notify hw
  | close hcall => simp [BlockingQueue.shutdown] at hopen
  | notifyNotFull hcall =>
    dsimp only
    rw [role_update_same (notifyAll_of_awake hcall rfl) (c := .shutdownNotEmpty) rfl,
      (role_notifyAll_self _).1]
    exact .single step_broadcast
  | notifyNotEmpty hcall =>
    dsimp only
    rw [role_update_same (notifyAll_of_awake hcall rfl) (c := .idle) rfl,
      (role_notifyAll_other _).2]

/-- On a closed queue a step only takes threads out of their sleep. -/
lemma asleep_before (h : Moves m a m' out) (hclosed : m.queue.closed = true) (j : ι) :
    ((m'.call j).waitsNotFull = true → (m.call j).waitsNotFull = true) ∧
      ((m'.call j).waitsNotEmpty = true → (m.call j).waitsNotEmpty = true) := by
  cases h with
  | @invoke i op => cases op <;> exact ⟨of_update rfl, of_update rfl⟩
  | pushSleep _ hopen => simp [hclosed] at hopen
  | popSleep _ hopen => simp [hclosed] at hopen
  | pushItem _ hopen => simp [hclosed] at hopen
  | tryPushItem _ hopen => simp [hclosed] at hopen
  | popItem _ _ hwake =>
    have hw := asleep_of_notifyOne hwake j
    exact ⟨fun h => of_update rfl (hw.1 h), fun h => of_update rfl (hw.2 h)⟩
  | tryPopItem _ _ hwake =>
    have hw := asleep_of_notifyOne hwake j
    exact ⟨fun h => of_update rfl (hw.1 h), fun h => of_update rfl (hw.2 h)⟩
  | notifyNotFull =>
    exact ⟨fun h => asleep_of_notifyAll.1 (of_update rfl h),
      fun h => asleep_of_notifyAll.2 (of_update rfl h)⟩
  | notifyNotEmpty =>
    exact ⟨fun h => asleep_of_notifyAll.1 (of_update rfl h),
      fun h => asleep_of_notifyAll.2 (of_update rfl h)⟩
  | _ => exact ⟨of_update rfl, of_update rfl⟩

/-- A `notify_all` of `not_full_` stays owed until it has been made, and then nobody sleeps on
that variable. -/
lemma owesNotFull_after (h : Moves m a m' out) {k : ι} (hk : (m.call k).owesNotFull = true) :
    (m'.call k).owesNotFull = true ∨ ∀ j, (m'.call j).waitsNotFull = false := by
  have hfull (c : Call T) (hc : c.waitsNotFull = true) : c.owesNotFull = false :=
    (not_owes_of_waits (.inl hc)).1
  have hempty (c : Call T) (hc : c.waitsNotEmpty = true) : c.owesNotFull = false :=
    (not_owes_of_waits (.inr hc)).1
  cases h with
  | pushItem hcall _ _ hwake =>
    exact .inl (owes_notifyOne hwake hempty (update_of hcall rfl hk))
  | tryPushItem hcall _ _ hwake =>
    exact .inl (owes_notifyOne hwake hempty (update_of hcall rfl hk))
  | popItem hcall _ hwake => exact .inl (owes_notifyOne hwake hfull (update_of hcall rfl hk))
  | tryPopItem hcall _ hwake => exact .inl (owes_notifyOne hwake hfull (update_of hcall rfl hk))
  | notifyNotFull =>
    refine .inr fun j => Bool.eq_false_iff.mpr fun hj => ?_
    exact not_asleep_notifyAll.1 (of_update rfl hj)
  | notifyNotEmpty hcall =>
    exact .inl (update_of (notifyAll_of_awake hcall rfl) rfl (owes_notifyAll hempty hk))
  | _ hcall => exact .inl (update_of hcall rfl hk)

/-- A `notify_all` of `not_empty_` stays owed until it has been made, and then nobody sleeps on
that variable. -/
lemma owesNotEmpty_after (h : Moves m a m' out) {k : ι} (hk : (m.call k).owesNotEmpty = true) :
    (m'.call k).owesNotEmpty = true ∨ ∀ j, (m'.call j).waitsNotEmpty = false := by
  have hfull (c : Call T) (hc : c.waitsNotFull = true) : c.owesNotEmpty = false :=
    (not_owes_of_waits (.inl hc)).2
  have hempty (c : Call T) (hc : c.waitsNotEmpty = true) : c.owesNotEmpty = false :=
    (not_owes_of_waits (.inr hc)).2
  cases h with
  | pushItem hcall _ _ hwake =>
    exact .inl (owes_notifyOne hwake hempty (update_of hcall rfl hk))
  | tryPushItem hcall _ _ hwake =>
    exact .inl (owes_notifyOne hwake hempty (update_of hcall rfl hk))
  | popItem hcall _ hwake => exact .inl (owes_notifyOne hwake hfull (update_of hcall rfl hk))
  | tryPopItem hcall _ hwake => exact .inl (owes_notifyOne hwake hfull (update_of hcall rfl hk))
  | @notifyNotFull i w hcall =>
    -- The thread that has woken the producers owes the consumers the second notification.
    refine .inl ?_
    by_cases hki : k = i
    · subst hki
      simp [Call.owesNotEmpty]
    · dsimp only
      rw [Function.update_of_ne hki]
      exact owes_notifyAll hfull hk
  | notifyNotEmpty =>
    refine .inr fun j => Bool.eq_false_iff.mpr fun hj => ?_
    exact not_asleep_notifyAll.2 (of_update rfl hj)
  | _ hcall => exact .inl (update_of hcall rfl hk)

end Moves

/-- On a closed queue every sleeper is owed a notification by some unfinished `shutdown`. -/
def ClosedOwed (m : Monitor ι T) : Prop :=
  m.queue.closed = true →
    ((∃ j, (m.call j).waitsNotFull = true) → ∃ k, (m.call k).owesNotFull = true) ∧
      ((∃ j, (m.call j).waitsNotEmpty = true) → ∃ k, (m.call k).owesNotEmpty = true)

/-- Every step keeps the sleepers of a closed queue owed their notification. -/
lemma ClosedOwed.step {m m' : Monitor ι T} {a : QueueAct ι T} {out : List (QueueEvent ι T)}
    (hm : m.ClosedOwed) (h : Moves m a m' out) : m'.ClosedOwed := by
  intro hclosed'
  cases hclosed : m.queue.closed with
  | true =>
    obtain ⟨hfull, hempty⟩ := hm hclosed
    constructor
    · rintro ⟨j, hj⟩
      obtain ⟨k, hk⟩ := hfull ⟨j, (h.asleep_before hclosed j).1 hj⟩
      rcases h.owesNotFull_after hk with hk' | hnone
      · exact ⟨k, hk'⟩
      · simp [hnone j] at hj
    · rintro ⟨j, hj⟩
      obtain ⟨k, hk⟩ := hempty ⟨j, (h.asleep_before hclosed j).2 hj⟩
      rcases h.owesNotEmpty_after hk with hk' | hnone
      · exact ⟨k, hk'⟩
      · simp [hnone j] at hj
  | false =>
    -- Only the critical section of `shutdown` closes the queue, and its thread owes both.
    cases h with
    | @close i w hcall =>
      exact ⟨fun _ => ⟨i, by simp [Call.owesNotFull]⟩, fun _ => ⟨i, by simp [Call.owesNotEmpty]⟩⟩
    | _ => simp_all

end Monitor

variable [Fintype ι] [DecidableEq ι] {capacity : ℕ}

/-- In every reachable state of an open queue both condition variables have their available units
covered. -/
lemma queue_covered {ts} {m : Monitor ι T} (h : (queueSystem ι T capacity).Run ts m)
    (hopen : m.queue.closed = false) : m.notEmptyVar.Covered ∧ m.notFullVar.Covered := by
  induction h with
  | start h =>
    subst h
    have hasleep (r : Call T → Role) (hr : r .idle = .absent) (n : ℕ) :
        (ofRoles n (fun _ : ι => r .idle) 0).Covered :=
      .inl (ofRoles_waiting_eq_zero_iff.mpr fun _ => by simp [hr])
    exact ⟨hasleep _ rfl _, hasleep _ rfl _⟩
  | @snoc ts m m' a out hr hs ih =>
    have hm := Monitor.moves_of_step hs
    have hopen₀ : m.queue.closed = false := by
      by_contra hc
      simp [hm.closed_of_closed (by simpa using hc)] at hopen
    have hle : m.queue.q.length ≤ m.queue.capacity := by
      obtain ⟨hcap, hlen⟩ := queue_bounded hr
      omega
    exact ⟨(ih hopen₀).1.of_steps (hm.notEmpty_steps hopen),
      (ih hopen₀).2.of_steps (hm.notFull_steps hopen hle)⟩

/-- In every reachable state the sleepers of a closed queue are owed a notification. -/
lemma queue_closedOwed {ts} {m : Monitor ι T} (h : (queueSystem ι T capacity).Run ts m) :
    m.ClosedOwed := by
  refine h.invariant ?_ fun m a m' out hm hs => hm.step (Monitor.moves_of_step hs)
  rintro m rfl hclosed
  simp [BlockingQueue.new] at hclosed

namespace Monitor.Stuck

variable {m : Monitor ι T}

/-- In a stuck state every thread is between two calls or asleep. -/
lemma resting (h : m.Stuck) (i : ι) :
    m.call i = .idle ∨ (∃ item, m.call i = .pushWait item) ∨ m.call i = .popWait := by
  obtain ⟨w, call, hw⟩ :=
    exists_notifyOne Call.waitsNotEmpty (Function.update m.call i .idle)
  obtain ⟨v, call', hv⟩ :=
    exists_notifyOne Call.waitsNotFull (Function.update m.call i .idle)
  have hpush := h i w
  have hpop := h i v
  -- At every other point the thread can move, waking somebody if its step notifies.
  unfold proceed at hpush hpop
  cases hc : m.call i with
  | idle => exact .inl rfl
  | pushWait item => exact .inr (.inl ⟨item, rfl⟩)
  | popWait => exact .inr (.inr rfl)
  | pushLock item =>
    simp only [hc, returnsNotifying, hw, Option.map_some] at hpush
    split at hpush
    · split at hpush <;> cases hpush
    · cases hpush
  | tryPushLock item =>
    simp only [hc, returnsNotifying, hw, Option.map_some] at hpush
    split at hpush <;> cases hpush
  | popLock =>
    simp only [hc, returnsNotifying, hv, Option.map_some] at hpop
    split at hpop
    · split at hpop <;> cases hpop
    · cases hpop
  | tryPopLock =>
    simp only [hc, returnsNotifying, hv, Option.map_some] at hpop
    split at hpop <;> cases hpop
  | shutdownLock => simp [hc] at hpush
  | shutdownNotFull => simp [hc] at hpush
  | shutdownNotEmpty => simp [hc] at hpush

/-- In a stuck state nobody is about to look at either predicate. -/
lemma ready_eq_zero (h : m.Stuck) : m.notEmptyVar.ready = 0 ∧ m.notFullVar.ready = 0 := by
  constructor
  · refine ofRoles_ready_eq_zero_iff.mpr fun i => ?_
    rcases h.resting i with hc | ⟨item, hc⟩ | hc <;> simp [hc, Call.roleNotEmpty]
  · refine ofRoles_ready_eq_zero_iff.mpr fun i => ?_
    rcases h.resting i with hc | ⟨item, hc⟩ | hc <;> simp [hc, Call.roleNotFull]

/-- In a stuck state no `shutdown` is unfinished. -/
lemma owes_nothing (h : m.Stuck) (k : ι) :
    (m.call k).owesNotFull = false ∧ (m.call k).owesNotEmpty = false := by
  rcases h.resting k with hc | ⟨item, hc⟩ | hc <;>
    simp [hc, Call.owesNotFull, Call.owesNotEmpty]

end Monitor.Stuck

/-- **No wakeup is lost.**  In every reachable state of the queue in which no notification is
pending and no thread can make a step inside its call, no thread sleeps in `push` while the queue
is closed or has room, and none sleeps in `pop` while the queue is closed or non-empty. -/
theorem queue_no_lost_wakeup {ts} {m : Monitor ι T} (h : (queueSystem ι T capacity).Run ts m)
    (hstuck : m.Stuck) :
    (∀ i item, m.call i = .pushWait item →
        ¬(m.queue.closed = true ∨ m.queue.q.length < capacity)) ∧
      ∀ i, m.call i = .popWait → ¬(m.queue.closed = true ∨ m.queue.q ≠ []) := by
  obtain ⟨hready₁, hready₂⟩ := hstuck.ready_eq_zero
  cases hclosed : m.queue.closed with
  | true =>
    obtain ⟨hfull, hempty⟩ := queue_closedOwed h hclosed
    constructor
    · intro i item hi _
      obtain ⟨k, hk⟩ := hfull ⟨i, by rw [hi]; rfl⟩
      simp [(hstuck.owes_nothing k).1] at hk
    · intro i hi _
      obtain ⟨k, hk⟩ := hempty ⟨i, by rw [hi]; rfl⟩
      simp [(hstuck.owes_nothing k).2] at hk
  | false =>
    obtain ⟨hcov₁, hcov₂⟩ := queue_covered h hclosed
    constructor
    · intro i item hi hcan
      rcases hcov₂.quiescent hready₂ rfl with hnone | hfull
      · exact ofRoles_waiting_eq_zero_iff.mp hnone i (by rw [hi]; rfl)
      · have hcap := (queue_bounded h).1
        simp only [Monitor.notFullVar, ofRoles] at hfull
        simp only [Bool.false_eq_true, false_or] at hcan
        omega
    · intro i hi hcan
      rcases hcov₁.quiescent hready₁ rfl with hnone | hempty
      · exact ofRoles_waiting_eq_zero_iff.mp hnone i (by rw [hi]; rfl)
      · simp only [Bool.false_eq_true, false_or] at hcan
        exact hcan (List.length_eq_zero_iff.mp hempty)

/-- Thread `false` fills a queue of capacity one and sleeps in its second `push`; thread `true` is
between two calls. -/
def producerAsleep : List (QueueAct Bool ℕ) :=
  [.invoke false (.push 7), .proceed false none, .invoke false (.push 8), .proceed false none]

theorem queue_no_lost_wakeup_producerAsleep :
    ∃ ts m, (queueSystem Bool ℕ 1).Run ts m ∧ m.call false = .pushWait 8 ∧
      ¬(m.queue.closed = true ∨ m.queue.q.length < 1) := by
  have hrun := System.run_of_exec (queueSystem Bool ℕ 1) producerAsleep rfl rfl
  refine ⟨_, _, hrun, rfl, (queue_no_lost_wakeup hrun fun i woken => ?_).1 false 8 rfl⟩
  cases i <;> rfl

end SystemsDemos
