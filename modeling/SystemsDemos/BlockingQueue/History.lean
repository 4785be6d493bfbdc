import SystemsDemos.BlockingQueue.Basic
import SystemsDemos.Transition.Fifo

/-!
# What a blocking queue has accepted and delivered

The abstract view of the queue is a bounded first-in first-out channel: the items accepted so
far, in the order of their critical sections, are the items delivered so far followed by the
contents.  `queue_isFifo` connects the step function to that view, and the laws about closing
the queue (nothing is accepted once it is closed, `pop` fails only on a closed, empty queue and
then fails for ever) are invariants of the same steps.
-/

namespace SystemsDemos

variable {ι T : Type*} [Fintype ι] [DecidableEq ι] {capacity : ℕ}

namespace Monitor.Moves

variable {m m' : Monitor ι T} {a : QueueAct ι T} {out : List (QueueEvent ι T)}

/-- Every move conserves the contents together with what it accepts and delivers. -/
lemma conserves (h : Moves m a m' out) :
    m.queue.q ++ out.filterMap QueueEvent.accepted =
      out.filterMap QueueEvent.delivered ++ m'.queue.q := by
  cases h <;>
    simp_all [QueueEvent.accepted, QueueEvent.delivered, BlockingQueue.shutdown,
      List.filterMap_cons]

/-- No move changes the capacity. -/
lemma capacity_eq (h : Moves m a m' out) : m'.queue.capacity = m.queue.capacity := by
  cases h <;> rfl

/-- No move takes the contents over the capacity. -/
lemma length_le (h : Moves m a m' out) (hle : m.queue.q.length ≤ m.queue.capacity) :
    m'.queue.q.length ≤ m'.queue.capacity := by
  cases h with
  | pushItem _ _ hroom _ => simpa using Nat.succ_le_of_lt hroom
  | tryPushItem _ _ hroom _ => simpa using Nat.succ_le_of_lt hroom
  | popItem _ hq _ => simp only [hq, List.length_cons] at hle; exact Nat.le_of_succ_le hle
  | tryPopItem _ hq _ => simp only [hq, List.length_cons] at hle; exact Nat.le_of_succ_le hle
  | _ => exact hle

/-- A move that reports no success leaves the contents alone. -/
lemma q_eq_of_failing (h : Moves m a m' out) (hfail : ∀ e ∈ out, e.succeeds = false) :
    m'.queue.q = m.queue.q := by
  cases h <;>
    simp_all [QueueEvent.succeeds, QueueEvent.accepted, QueueEvent.delivered,
      BlockingQueue.shutdown]

/-- A closed queue stays closed. -/
lemma closed_of_closed (h : Moves m a m' out) (hc : m.queue.closed = true) :
    m'.queue.closed = true := by
  cases h <;> simp_all [BlockingQueue.shutdown]

/-- Nothing is accepted by a closed queue. -/
lemma accepted_of_closed (h : Moves m a m' out) (hc : m.queue.closed = true) :
    out.filterMap QueueEvent.accepted = [] := by
  cases h <;> simp_all [QueueEvent.accepted, List.filterMap_cons]

/-- A `pop` reports failure only on a closed, empty queue. -/
lemma drained_of_pop_none (h : Moves m a m' out) {i : ι} (hpop : .pop i none ∈ out) :
    m.queue.closed = true ∧ m.queue.q = [] := by
  cases h <;> simp_all

/-- From a drained queue a `pop` only reports failure. -/
lemma pop_eq_none_of_drained (h : Moves m a m' out) (hq : m.queue.q = []) {i : ι}
    {r : Option T} (hpop : .pop i r ∈ out) : r = none := by
  cases h <;> simp_all

end Monitor.Moves

/-- The queue is a first-in first-out channel from its accepted to its delivered items. -/
theorem queue_isFifo : IsFifo (queueSystem ι T capacity) (fun m => m.queue.q)
    QueueEvent.accepted QueueEvent.delivered where
  init := by
    rintro m rfl
    rfl
  step m a m' out h := (Monitor.moves_of_step h).conserves

/-- The capacity is the one the queue was built with and bounds the contents. -/
lemma queue_bounded {ts} {m : Monitor ι T} (h : (queueSystem ι T capacity).Run ts m) :
    m.queue.capacity = capacity ∧ m.queue.q.length ≤ capacity := by
  have hinv : m.queue.capacity = capacity ∧ m.queue.q.length ≤ m.queue.capacity := by
    refine h.invariant (I := fun m : Monitor ι T =>
      m.queue.capacity = capacity ∧ m.queue.q.length ≤ m.queue.capacity) ?_ ?_
    · rintro m rfl
      exact ⟨rfl, Nat.zero_le _⟩
    · intro m a m' out ih hs
      have hm := Monitor.moves_of_step hs
      exact ⟨hm.capacity_eq.trans ih.1, hm.length_le ih.2⟩
  exact ⟨hinv.1, hinv.1 ▸ hinv.2⟩

/-- Once the queue is drained and closed it stays so. -/
lemma Monitor.Moves.drained {m m' : Monitor ι T} {a : QueueAct ι T}
    {out : List (QueueEvent ι T)} (h : Moves m a m' out)
    (hd : m.queue.closed = true ∧ m.queue.q = []) :
    m'.queue.closed = true ∧ m'.queue.q = [] := by
  refine ⟨h.closed_of_closed hd.1, ?_⟩
  have hcons := h.conserves
  rw [hd.2, h.accepted_of_closed hd.1, List.append_nil] at hcons
  exact (List.append_eq_nil_iff.mp hcons.symm).2

/-- After a `pop` that failed, every later `pop` fails. -/
lemma pop_none_after_pop_none {ts us} {t : Transition _ _ (QueueEvent ι T)} {m : Monitor ι T}
    (h : (queueSystem ι T capacity).Run (ts ++ t :: us) m) {i : ι} (hpop : .pop i none ∈ t.out) :
    ∀ u ∈ us, ∀ j r, .pop j r ∈ u.out → r = none := by
  have ht := Monitor.moves_of_step h.split.2
  have hlater := h.later (P := fun m : Monitor ι T => m.queue.closed = true ∧ m.queue.q = [])
    (ht.drained (ht.drained_of_pop_none hpop))
    (fun u _ hu _ hd => (Monitor.moves_of_step hu).drained hd)
  intro u hu j r hr
  have huv : (queueSystem ι T capacity).Valid u := (h.of_mem (by simp [hu])).2
  exact (Monitor.moves_of_step huv).pop_eq_none_of_drained (hlater.1 u hu).2 hr

/-- **The queue loses, repeats and reorders nothing.**  At the end of every run of any number of
threads, the items whose `push` or `try_push` returned true, in the order of their critical
sections, are the items handed out by `pop` and `try_pop`, in order, followed by the contents;
the contents never exceed the capacity; and a step that returns no success, so every step of a
call that returns false, leaves the contents alone. -/
theorem queue_accepted_eq_delivered_append {ts} {m : Monitor ι T}
    (h : (queueSystem ι T capacity).Run ts m) :
    (observations ts).filterMap QueueEvent.accepted =
        (observations ts).filterMap QueueEvent.delivered ++ m.queue.q ∧
      m.queue.q.length ≤ capacity ∧
      ∀ t ∈ ts, (∀ e ∈ t.out, e.succeeds = false) → t.post.queue.q = t.pre.queue.q :=
  ⟨queue_isFifo.run h, (queue_bounded h).2,
    fun _ ht hfail => (Monitor.moves_of_step (h.of_mem ht).2).q_eq_of_failing hfail⟩

/-- Two threads around a queue of capacity one: the second `push` of thread `false` sleeps until
thread `true` has popped the first item. -/
def handoff : List (QueueAct Bool ℕ) :=
  [.invoke false (.push 7), .proceed false none, .invoke false (.push 8), .proceed false none,
    .invoke true .pop, .proceed true (some false), .proceed false none]

theorem queue_accepted_eq_delivered_append_handoff :
    ∃ ts m, (queueSystem Bool ℕ 1).Run ts m ∧
      (observations ts).filterMap QueueEvent.accepted = [7] ++ [8] ∧
      m.queue.q.length ≤ 1 := by
  have hrun := System.run_of_exec (queueSystem Bool ℕ 1) handoff rfl rfl
  have hlaw := queue_accepted_eq_delivered_append hrun
  exact ⟨_, _, hrun, hlaw.1, hlaw.2.1⟩

end SystemsDemos
