import SystemsDemos.Transition.System
import Mathlib.Algebra.BigOperators.Intervals
import Mathlib.Algebra.Order.BigOperators.Group.Finset
import Mathlib.Data.Int.Notation
import Mathlib.Tactic.Ring

/-!
# The queue of the practice program

`today_2026_07_14_queue.cpp`: an unbounded queue that counts what it refuses once it has been
stopped, a producer that pushes `message_count` numbers, a consumer that adds up what it pops, and a
`main` that joins both and checks the outcome.  `notify_one` and `notify_all` come after the mutex
is released, and a waiting thread may wake up by itself.

### Outline

* `Practice.BlockingQueue`, `QueueProgram` with `step`, and `passes`;
* `Proper`, what holds in every state of a run;
* `practiceQueue_passes`.
-/

namespace SystemsDemos

/-! ### The queue -/

/-- The fields of the queue. -/
structure Practice.BlockingQueue where
  queue : List ℤ
  stopped : Bool
  droppedAfterStop : ℕ
  deriving DecidableEq

namespace Practice.BlockingQueue

/-- A fresh queue. -/
def empty : Practice.BlockingQueue := ⟨[], false, 0⟩

/-- The critical section of `push`. -/
def push (q : Practice.BlockingQueue) (value : ℤ) : Practice.BlockingQueue × Bool :=
  if q.stopped then ({ q with droppedAfterStop := q.droppedAfterStop + 1 }, false)
  else ({ q with queue := q.queue ++ [value] }, true)

/-- The predicate that `pop` waits for. -/
def canPop (q : Practice.BlockingQueue) : Bool := q.stopped || !q.queue.isEmpty

/-- `pop` after its wait. -/
def pop (q : Practice.BlockingQueue) : Practice.BlockingQueue × Option ℤ :=
  match q.queue with
  | [] => (q, none)
  | value :: rest => ({ q with queue := rest }, some value)

/-- The critical section of `shutdown`. -/
def shutdown (q : Practice.BlockingQueue) : Practice.BlockingQueue := { q with stopped := true }

end Practice.BlockingQueue

/-! ### The program -/

/-- Where the producer is. -/
inductive PushPoint
  /-- At the condition of the loop. -/
  | loop (i : ℕ)
  | pushing (i : ℕ)
  /-- In `push`, in front of `notify_one`. -/
  | notifying (i : ℕ)
  /-- In front of `++produced_count`. -/
  | counting (i : ℕ)
  | shutdown
  /-- In `shutdown`, in front of `notify_all`. -/
  | notifyingAll
  | returned
  deriving DecidableEq

/-- Where the consumer is. -/
inductive PopPoint
  /-- In `pop`, about to take the mutex and evaluate the predicate. -/
  | popping
  | waiting
  /-- In the body of the loop. -/
  | adding (value : ℤ)
  | returned
  deriving DecidableEq

/-- Where `main` is. -/
inductive JoinPoint
  | joinProducer
  | joinConsumer
  /-- At the evaluation of `pass`. -/
  | checking
  deriving DecidableEq

/-- The program. -/
structure QueueProgram where
  queue : Practice.BlockingQueue
  producer : PushPoint
  consumer : PopPoint
  main : JoinPoint
  producedCount : ℕ
  consumedCount : ℕ
  sum : Int64
  deriving DecidableEq

/-- Who takes a step. -/
inductive QueueProgramAct
  | producer
  | consumer
  /-- The consumer wakes up without being notified. -/
  | spurious
  | main
  deriving DecidableEq

/-- A notification of the consumer. -/
def PopPoint.notified : PopPoint → PopPoint
  | waiting => popping
  | c => c

namespace QueueProgram

/-- The start of both threads. -/
def start : QueueProgram := ⟨.empty, .loop 0, .popping, .joinProducer, 0, 0, 0⟩

/-- A step of the producer. -/
def stepProducer (messageCount : ℕ) (s : QueueProgram) : Option QueueProgram :=
  match s.producer with
  | .loop i =>
      if i < messageCount then some { s with producer := .pushing i }
      else some { s with producer := .shutdown }
  | .pushing i =>
      match s.queue.push i with
      | (q, true) => some { s with queue := q, producer := .notifying i }
      | (q, false) => some { s with queue := q, producer := .loop (i + 1) }
  | .notifying i => some { s with consumer := s.consumer.notified, producer := .counting i }
  | .counting i =>
      some { s with producedCount := s.producedCount + 1, producer := .loop (i + 1) }
  | .shutdown => some { s with queue := s.queue.shutdown, producer := .notifyingAll }
  | .notifyingAll => some { s with consumer := s.consumer.notified, producer := .returned }
  | .returned => none

/-- A step of the consumer, with the value that it pops. -/
def stepConsumer (s : QueueProgram) : Option (QueueProgram × List ℤ) :=
  match s.consumer with
  | .popping =>
      if s.queue.canPop then
        match s.queue.pop with
        | (q, none) => some ({ s with queue := q, consumer := .returned }, [])
        | (q, some value) => some ({ s with queue := q, consumer := .adding value }, [value])
      else some ({ s with consumer := .waiting }, [])
  | .adding value =>
      some ({ s with
        consumedCount := s.consumedCount + 1
        sum := s.sum + Int64.ofInt value
        consumer := .popping }, [])
  | .waiting => none
  | .returned => none

/-- A step of the program. -/
def step (messageCount : ℕ) (s : QueueProgram) :
    QueueProgramAct → Option (QueueProgram × List ℤ)
  | .producer => (s.stepProducer messageCount).map fun s => (s, [])
  | .consumer => s.stepConsumer
  | .spurious =>
      if s.consumer = .waiting then some ({ s with consumer := .popping }, []) else none
  | .main =>
      match s.main with
      | .joinProducer =>
          if s.producer = .returned then some ({ s with main := .joinConsumer }, []) else none
      | .joinConsumer =>
          if s.consumer = .returned then some ({ s with main := .checking }, []) else none
      | .checking => none

/-- The program for a number of messages; the values popped become visible. -/
def system (messageCount : ℕ) : System QueueProgram QueueProgramAct ℤ where
  init s := s = start
  step := step messageCount

/-- `expected_sum`. -/
def expectedSum (messageCount : ℕ) : Int64 :=
  1 * Int64.ofInt (messageCount - 1) * Int64.ofInt messageCount / 2

/-- `pass`. -/
def passes (messageCount : ℕ) (s : QueueProgram) : Bool :=
  decide (s.producedCount = messageCount) && decide (s.consumedCount = messageCount) &&
    decide (s.sum = expectedSum messageCount) && decide (s.queue.queue.length = 0) &&
    decide (s.queue.droppedAfterStop = 0)

/-- What `main` returns. -/
def exitCode (messageCount : ℕ) (s : QueueProgram) : ℤ := if s.passes messageCount then 0 else 1

/-! ### What holds in every state -/

end QueueProgram

/-- The number of messages pushed. -/
def PushPoint.pushed (messageCount : ℕ) : PushPoint → ℕ
  | loop i => i
  | pushing i => i
  | notifying i => i + 1
  | counting i => i + 1
  | _ => messageCount

/-- The number of messages counted. -/
def PushPoint.counted (messageCount : ℕ) : PushPoint → ℕ
  | loop i => i
  | pushing i => i
  | notifying i => i
  | counting i => i
  | _ => messageCount

/-- The index of the loop is in range. -/
def PushPoint.InRange (messageCount : ℕ) : PushPoint → Prop
  | loop i => i ≤ messageCount
  | pushing i => i < messageCount
  | notifying i => i < messageCount
  | counting i => i < messageCount
  | _ => True

/-- The producer has stopped the queue. -/
def PushPoint.hasStopped : PushPoint → Bool
  | notifyingAll => true
  | returned => true
  | _ => false

/-- The producer owes the consumer a notification. -/
def PushPoint.owes : PushPoint → Bool
  | notifying _ => true
  | notifyingAll => true
  | _ => false

/-- The messages popped and not counted yet. -/
def PopPoint.inHand : PopPoint → ℕ
  | adding _ => 1
  | _ => 0

/-- The sum of the messages below `k`. -/
def sumBelow (k : ℕ) : Int64 := Int64.ofInt (∑ i ∈ Finset.range k, (i : ℤ))

lemma sumBelow_succ (k : ℕ) : sumBelow (k + 1) = sumBelow k + Int64.ofInt k := by
  rw [sumBelow, Finset.sum_range_succ, Int64.ofInt_add]
  rfl

/-- The messages from `k` up to `m`. -/
def messages (k m : ℕ) : List ℤ := (List.range' k (m - k)).map Int.ofNat

lemma messages_self (k : ℕ) : messages k k = [] := by simp [messages]

lemma messages_succ {k m : ℕ} (h : k ≤ m) : messages k (m + 1) = messages k m ++ [(m : ℤ)] := by
  have hlength : m + 1 - k = (m - k) + 1 := by omega
  have hlast : k + 1 * (m - k) = m := by omega
  rw [messages, hlength, List.range'_concat, List.map_append, hlast]
  rfl

lemma messages_eq_cons {k m : ℕ} (h : k < m) : messages k m = (k : ℤ) :: messages (k + 1) m := by
  obtain ⟨n, hn⟩ : ∃ n, m - k = n + 1 := ⟨m - k - 1, by omega⟩
  have hrest : m - (k + 1) = n := by omega
  rw [messages, messages, hn, hrest, List.range'_succ]
  rfl

namespace QueueProgram

/-- The queue holds the messages between those popped and those pushed, the counters are where the
threads are, and a consumer that waits has nothing to do or is owed a notification. -/
structure Proper (messageCount : ℕ) (popped : List ℤ) (s : QueueProgram) : Prop where
  inRange : s.producer.InRange messageCount
  stopped : s.queue.stopped = s.producer.hasStopped
  dropped : s.queue.droppedAfterStop = 0
  produced : s.producedCount = s.producer.counted messageCount
  ordered : s.consumedCount + s.consumer.inHand ≤ s.producer.pushed messageCount
  queue : s.queue.queue =
    messages (s.consumedCount + s.consumer.inHand) (s.producer.pushed messageCount)
  inHand : ∀ value, s.consumer = .adding value → value = s.consumedCount
  sum : s.sum = sumBelow s.consumedCount
  popped : popped = messages 0 (s.consumedCount + s.consumer.inHand)
  waiting : s.consumer = .waiting → s.producer.owes = true ∨
    (s.queue.stopped = false ∧ s.queue.queue = [])
  returned : s.consumer = .returned → s.queue.stopped = true ∧ s.queue.queue = []
  joined : s.main ≠ .joinProducer → s.producer = .returned
  joinedBoth : s.main = .checking → s.consumer = .returned

variable {messageCount : ℕ} {popped out : List ℤ} {s s' : QueueProgram} {a : QueueProgramAct}

/-- The start. -/
lemma proper_start (messageCount : ℕ) : Proper messageCount [] start where
  inRange := Nat.zero_le _
  stopped := rfl
  dropped := rfl
  produced := rfl
  ordered := Nat.le_refl 0
  queue := rfl
  inHand := by simp [start]
  sum := rfl
  popped := rfl
  waiting := by simp [start]
  returned := by simp [start]
  joined := by simp [start]
  joinedBoth := by simp [start]

/-- Notifying the consumer. -/
lemma Proper.notify (h : Proper messageCount popped s) {p : PushPoint}
    (hrange : p.InRange messageCount) (hstopped : p.hasStopped = s.producer.hasStopped)
    (hcounted : p.counted messageCount = s.producer.counted messageCount)
    (hpushed : p.pushed messageCount = s.producer.pushed messageCount)
    (hjoined : s.producer ≠ .returned) :
    Proper messageCount popped { s with consumer := s.consumer.notified, producer := p } where
  inRange := hrange
  stopped := h.stopped.trans hstopped.symm
  dropped := h.dropped
  produced := h.produced.trans hcounted.symm
  ordered := by
    have hordered := h.ordered
    rw [hpushed]
    cases hconsumer : s.consumer <;> simpa [hconsumer, PopPoint.notified, PopPoint.inHand]
      using hordered
  queue := by
    have hqueue := h.queue
    rw [hpushed]
    cases hconsumer : s.consumer <;> simpa [hconsumer, PopPoint.notified, PopPoint.inHand]
      using hqueue
  inHand value hvalue := by
    refine h.inHand value ?_
    cases hconsumer : s.consumer <;> simp_all [PopPoint.notified]
  sum := h.sum
  popped := by
    have hpopped := h.popped
    cases hconsumer : s.consumer <;> simpa [hconsumer, PopPoint.notified, PopPoint.inHand]
      using hpopped
  waiting hwaiting := by cases hconsumer : s.consumer <;> simp_all [PopPoint.notified]
  returned hreturned := by
    refine h.returned ?_
    cases hconsumer : s.consumer <;> simp_all [PopPoint.notified]
  joined hmain := absurd (h.joined hmain) hjoined
  joinedBoth hmain := absurd (h.joined (by rw [hmain]; simp)) hjoined

/-- The producer moves without touching the queue or the consumer. -/
lemma Proper.move (h : Proper messageCount popped s) {p : PushPoint} {count : ℕ}
    (hrange : p.InRange messageCount) (hstopped : p.hasStopped = s.producer.hasStopped)
    (hcounted : p.counted messageCount = count)
    (hpushed : p.pushed messageCount = s.producer.pushed messageCount)
    (howes : s.producer.owes = false) (hjoined : s.producer ≠ .returned) :
    Proper messageCount popped { s with producer := p, producedCount := count } where
  inRange := hrange
  stopped := h.stopped.trans hstopped.symm
  dropped := h.dropped
  produced := hcounted.symm
  ordered := by
    rw [hpushed]
    exact h.ordered
  queue := by
    rw [hpushed]
    exact h.queue
  inHand := h.inHand
  sum := h.sum
  popped := h.popped
  waiting hwaiting := by
    rcases h.waiting hwaiting with howed | hidle
    · rw [howes] at howed
      cases howed
    · exact .inr hidle
  returned := h.returned
  joined hmain := absurd (h.joined hmain) hjoined
  joinedBoth hmain := absurd (h.joined (by rw [hmain]; simp)) hjoined

/-- Every step of the producer keeps the invariant. -/
lemma Proper.stepProducer (h : Proper messageCount popped s)
    (hstep : s.stepProducer messageCount = some s') : Proper messageCount popped s' := by
  have hrange := h.inRange
  have hproduced := h.produced
  -- a producer that takes a step has not been joined
  have hunjoined (hne : s.producer ≠ .returned) : s.main = .joinProducer :=
    by_contra fun hmain => hne (h.joined hmain)
  cases hproducer : s.producer with
  | loop i =>
    rw [hproducer] at hrange hproduced
    simp only [QueueProgram.stepProducer, hproducer] at hstep
    split at hstep
    · next hlt =>
      cases hstep
      exact h.move hlt (by rw [hproducer]; rfl) hproduced.symm (by rw [hproducer]; rfl)
        (by rw [hproducer]; rfl) (by rw [hproducer]; simp)
    · next hge =>
      cases hstep
      have hend : i = messageCount := Nat.le_antisymm hrange (Nat.not_lt.mp hge)
      subst hend
      exact h.move trivial (by rw [hproducer]; rfl) hproduced.symm (by rw [hproducer]; rfl)
        (by rw [hproducer]; rfl) (by rw [hproducer]; simp)
  | pushing i =>
    rw [hproducer] at hrange hproduced
    have hopen : s.queue.stopped = false := by
      rw [h.stopped, hproducer]
      rfl
    have hpush : s.queue.push i = ({ s.queue with queue := s.queue.queue ++ [(i : ℤ)] }, true) := by
      unfold Practice.BlockingQueue.push
      rw [if_neg (by simp [hopen])]
    simp only [QueueProgram.stepProducer, hproducer, hpush] at hstep
    cases hstep
    have hordered := h.ordered
    have hqueue := h.queue
    rw [hproducer] at hordered hqueue
    have hmain := hunjoined (by rw [hproducer]; simp)
    refine ⟨hrange, hopen, h.dropped, hproduced, ?_, ?_, h.inHand, h.sum, h.popped, ?_, ?_,
      fun hne => absurd hmain hne, by simp [hmain]⟩
    · exact Nat.le_succ_of_le hordered
    · rw [hqueue]
      exact (messages_succ hordered).symm
    · exact fun _ => .inl rfl
    · intro hreturned
      rw [(h.returned hreturned).1] at hopen
      cases hopen
  | notifying i =>
    rw [hproducer] at hrange
    simp only [QueueProgram.stepProducer, hproducer] at hstep
    cases hstep
    exact h.notify hrange (by rw [hproducer]; rfl) (by rw [hproducer]; rfl) (by rw [hproducer]; rfl)
      (by rw [hproducer]; simp)
  | counting i =>
    rw [hproducer] at hrange hproduced
    simp only [QueueProgram.stepProducer, hproducer] at hstep
    cases hstep
    refine h.move (Nat.succ_le_of_lt hrange) (by rw [hproducer]; rfl) ?_ (by rw [hproducer]; rfl)
      (by rw [hproducer]; rfl) (by rw [hproducer]; simp)
    rw [hproduced]
    rfl
  | shutdown =>
    rw [hproducer] at hproduced
    simp only [QueueProgram.stepProducer, hproducer] at hstep
    cases hstep
    have hmain := hunjoined (by rw [hproducer]; simp)
    refine ⟨trivial, rfl, h.dropped, hproduced, ?_, ?_, h.inHand, h.sum, h.popped, ?_, ?_,
      fun hne => absurd hmain hne, by simp [hmain]⟩
    · have hordered := h.ordered
      rw [hproducer] at hordered
      exact hordered
    · have hqueue := h.queue
      rw [hproducer] at hqueue
      exact hqueue
    · exact fun _ => .inl rfl
    · exact fun hreturned => ⟨rfl, (h.returned hreturned).2⟩
  | notifyingAll =>
    simp only [QueueProgram.stepProducer, hproducer] at hstep
    cases hstep
    exact h.notify trivial (by rw [hproducer]; rfl) (by rw [hproducer]; rfl)
      (by rw [hproducer]; rfl) (by rw [hproducer]; simp)
  | returned => simp only [QueueProgram.stepProducer, hproducer, reduceCtorEq] at hstep

/-- Every step of the consumer keeps the invariant. -/
lemma Proper.stepConsumer (h : Proper messageCount popped s)
    (hstep : s.stepConsumer = some (s', out)) : Proper messageCount (popped ++ out) s' := by
  have hordered := h.ordered
  have hqueue := h.queue
  have hpopped := h.popped
  -- a consumer that takes a step has not been joined
  have hunjoined (hne : s.consumer ≠ .returned) : s.main ≠ .checking :=
    fun hmain => hne (h.joinedBoth hmain)
  cases hconsumer : s.consumer with
  | popping =>
    rw [hconsumer] at hordered hqueue hpopped
    simp only [PopPoint.inHand, Nat.add_zero] at hordered hqueue hpopped
    have hmain := hunjoined (by rw [hconsumer]; simp)
    simp only [QueueProgram.stepConsumer, hconsumer] at hstep
    by_cases hcan : s.queue.canPop = true
    · rw [if_pos hcan] at hstep
      cases hcontent : s.queue.queue with
      | nil =>
        have hstopped : s.queue.stopped = true := by
          simpa [Practice.BlockingQueue.canPop, hcontent] using hcan
        simp only [Practice.BlockingQueue.pop, hcontent] at hstep
        cases hstep
        rw [List.append_nil]
        exact ⟨h.inRange, h.stopped, h.dropped, h.produced, hordered, hqueue, by simp, h.sum,
          hpopped, by simp, fun _ => ⟨hstopped, hcontent⟩, h.joined, fun _ => rfl⟩
      | cons value rest =>
        simp only [Practice.BlockingQueue.pop, hcontent] at hstep
        cases hstep
        have hlt : s.consumedCount < s.producer.pushed messageCount := by
          by_contra hge
          have heq : s.consumedCount = s.producer.pushed messageCount := by omega
          rw [heq, messages_self, hcontent] at hqueue
          cases hqueue
        rw [hcontent, messages_eq_cons hlt] at hqueue
        obtain ⟨rfl, hrest⟩ := List.cons.inj hqueue
        refine ⟨h.inRange, h.stopped, h.dropped, h.produced, hlt, hrest, ?_, h.sum, ?_, by simp,
          by simp, h.joined, fun hc => absurd hc hmain⟩
        · intro value hvalue
          exact (PopPoint.adding.inj hvalue).symm
        · rw [hpopped]
          exact (messages_succ (Nat.zero_le _)).symm
    · rw [if_neg hcan] at hstep
      cases hstep
      rw [List.append_nil]
      refine ⟨h.inRange, h.stopped, h.dropped, h.produced, hordered, hqueue, by simp, h.sum,
        hpopped, fun _ => .inr ?_, by simp, h.joined, fun hc => absurd hc hmain⟩
      simpa [Practice.BlockingQueue.canPop] using hcan
  | adding value =>
    have hvalue := h.inHand value hconsumer
    rw [hconsumer] at hordered hqueue hpopped
    have hmain := hunjoined (by rw [hconsumer]; simp)
    simp only [QueueProgram.stepConsumer, hconsumer] at hstep
    cases hstep
    rw [List.append_nil]
    refine ⟨h.inRange, h.stopped, h.dropped, h.produced, hordered, hqueue, by simp, ?_, hpopped,
      by simp, by simp, h.joined, fun hc => absurd hc hmain⟩
    rw [sumBelow_succ, h.sum, hvalue]
  | waiting => simp only [QueueProgram.stepConsumer, hconsumer, reduceCtorEq] at hstep
  | returned => simp only [QueueProgram.stepConsumer, hconsumer, reduceCtorEq] at hstep

/-- Every step keeps the invariant. -/
lemma Proper.step (h : Proper messageCount popped s)
    (hstep : s.step messageCount a = some (s', out)) : Proper messageCount (popped ++ out) s' := by
  cases a with
  | producer =>
    obtain ⟨s', hproducer, heq⟩ := Option.map_eq_some_iff.mp hstep
    cases heq
    rw [List.append_nil]
    exact h.stepProducer hproducer
  | consumer => exact h.stepConsumer hstep
  | spurious =>
    simp only [QueueProgram.step] at hstep
    split at hstep
    · next hwaiting =>
      cases hstep
      have hordered := h.ordered
      have hqueue := h.queue
      have hpopped := h.popped
      rw [hwaiting] at hordered hqueue hpopped
      rw [List.append_nil]
      refine ⟨h.inRange, h.stopped, h.dropped, h.produced, hordered, hqueue, by simp, h.sum,
        hpopped, by simp, by simp, h.joined, fun hmain => ?_⟩
      rw [h.joinedBoth hmain] at hwaiting
      cases hwaiting
    · cases hstep
  | main =>
    simp only [QueueProgram.step] at hstep
    split at hstep
    · split at hstep
      · next hreturned =>
        cases hstep
        rw [List.append_nil]
        exact ⟨h.inRange, h.stopped, h.dropped, h.produced, h.ordered, h.queue, h.inHand, h.sum,
          h.popped, h.waiting, h.returned, fun _ => hreturned, by simp⟩
      · cases hstep
    · next hmain =>
      split at hstep
      · next hreturned =>
        cases hstep
        rw [List.append_nil]
        exact ⟨h.inRange, h.stopped, h.dropped, h.produced, h.ordered, h.queue, h.inHand, h.sum,
          h.popped, h.waiting, h.returned, fun _ => h.joined (by rw [hmain]; simp),
          fun _ => hreturned⟩
      · cases hstep
    · cases hstep

/-- The invariant holds in every run. -/
lemma proper_of_run {ts : List (Transition QueueProgram QueueProgramAct ℤ)}
    (h : (system messageCount).Run ts s) : Proper messageCount (observations ts) s := by
  refine h.invariant_history (I := fun ts s => Proper messageCount (observations ts) s) ?_ ?_
  · rintro s rfl
    exact proper_start messageCount
  · intro ts s a s' out _ ih hstep
    rw [observations_append, observations_singleton]
    exact ih.step hstep

/-! ### The outcome -/

/-- The producer can go on until it has returned. -/
lemma exists_stepProducer (messageCount : ℕ) (h : s.producer ≠ .returned) :
    s.stepProducer messageCount ≠ none := by
  cases hproducer : s.producer with
  | loop i =>
    simp only [QueueProgram.stepProducer, hproducer]
    split <;> simp
  | pushing i =>
    simp only [QueueProgram.stepProducer, hproducer]
    split <;> simp
  | returned => exact absurd hproducer h
  | notifying | counting | shutdown | notifyingAll => simp [QueueProgram.stepProducer, hproducer]

/-- The consumer can go on unless it waits or has returned. -/
lemma exists_stepConsumer (hreturned : s.consumer ≠ .returned) (hwaiting : s.consumer ≠ .waiting) :
    s.stepConsumer ≠ none := by
  cases hconsumer : s.consumer with
  | popping =>
    simp only [QueueProgram.stepConsumer, hconsumer]
    split
    · split <;> simp
    · simp
  | adding value => simp [QueueProgram.stepConsumer, hconsumer]
  | waiting => exact absurd hconsumer hwaiting
  | returned => exact absurd hconsumer hreturned

/-- Without a wakeup from nowhere, the program goes on until `main` checks the outcome. -/
lemma Proper.stuck_iff (h : Proper messageCount popped s) :
    (∀ a ≠ .spurious, s.step messageCount a = none) ↔ s.main = .checking := by
  constructor
  · intro hstuck
    have hproducer : s.producer = .returned := by
      by_contra hgoes
      refine exists_stepProducer messageCount hgoes ?_
      simpa [QueueProgram.step] using hstuck .producer (by simp)
    have hmain := hstuck .main (by simp)
    cases hpoint : s.main with
    | joinProducer => simp [QueueProgram.step, hpoint, hproducer] at hmain
    | checking => rfl
    | joinConsumer =>
      have hawake : s.consumer ≠ .waiting := by
        intro hwaiting
        rcases h.waiting hwaiting with howes | ⟨hopen, -⟩
        · rw [hproducer] at howes
          cases howes
        · rw [h.stopped, hproducer] at hopen
          cases hopen
      have hconsumer : s.consumer = .returned := by
        by_contra hgoes
        exact exists_stepConsumer hgoes hawake (hstuck .consumer (by simp))
      simp [QueueProgram.step, hpoint, hconsumer] at hmain
  · intro hmain a ha
    have hproducer := h.joined (by rw [hmain]; simp)
    have hconsumer := h.joinedBoth hmain
    cases a with
    | producer => simp [QueueProgram.step, QueueProgram.stepProducer, hproducer]
    | consumer => simp [QueueProgram.step, QueueProgram.stepConsumer, hconsumer]
    | spurious => exact absurd rfl ha
    | main => simp [QueueProgram.step, hmain]

/-- The sum of all messages is the one that `main` expects. -/
lemma sumBelow_eq_expectedSum (hcount : messageCount < 2 ^ 31) :
    sumBelow messageCount = expectedSum messageCount := by
  have hgauss : (∑ i ∈ Finset.range messageCount, (i : ℤ)) * 2 =
      ((messageCount : ℤ) - 1) * messageCount := by
    clear hcount
    induction messageCount with
    | zero => rfl
    | succ n ih =>
      rw [Finset.sum_range_succ, Int.add_mul, ih]
      push_cast
      ring
  have hsmall : ((messageCount : ℤ) - 1) * messageCount ≤ 2 ^ 31 * 2 ^ 31 :=
    Int.mul_le_mul (by omega) (by omega) (by omega) (by omega)
  have hnonneg : 0 ≤ ∑ i ∈ Finset.range messageCount, (i : ℤ) :=
    Finset.sum_nonneg fun i _ => Int.natCast_nonneg i
  unfold sumBelow expectedSum
  rw [Int64.one_mul, ← Int64.ofInt_mul, ← hgauss]
  rw [← hgauss] at hsmall
  generalize (∑ i ∈ Finset.range messageCount, (i : ℤ)) = total at hsmall hnonneg
  have htwo : (2 : Int64).toInt = 2 := rfl
  rw [← Int64.toInt_inj, Int64.toInt_div_of_ne_right _ _ (by decide), htwo,
    Int64.toInt_ofInt_of_le (by omega) (by omega), Int64.toInt_ofInt_of_le (by omega) (by omega),
    Int.mul_tdiv_cancel _ (by decide)]

/-- **The practice program passes its own check.**  In every schedule and for every number of
messages that an `int` holds, the values are popped in order, the threads never wait for each other
forever, and when `main` evaluates the check it holds. -/
theorem practiceQueue_passes {ts : List (Transition QueueProgram QueueProgramAct ℤ)}
    (hcount : messageCount < 2 ^ 31) (h : (system messageCount).Run ts s) :
    observations ts = messages 0 (observations ts).length ∧
      ((∀ a ≠ .spurious, (system messageCount).step s a = none) ↔ s.main = .checking) ∧
      (s.main = .checking →
        observations ts = messages 0 messageCount ∧ s.exitCode messageCount = 0) := by
  have hproper := proper_of_run h
  have hpopped := hproper.popped
  refine ⟨?_, hproper.stuck_iff, fun hmain => ?_⟩
  · have hlength := congrArg List.length hpopped
    simp only [messages, List.length_map, List.length_range', Nat.sub_zero] at hlength
    rw [hlength]
    exact hpopped
  · have hproducer := hproper.joined (by rw [hmain]; simp)
    have hconsumer := hproper.joinedBoth hmain
    have hproduced := hproper.produced
    have hempty := (hproper.returned hconsumer).2
    have hqueue := hproper.queue
    have hordered := hproper.ordered
    rw [hproducer] at hproduced hqueue hordered
    rw [hconsumer] at hqueue hordered hpopped
    simp only [PopPoint.inHand, Nat.add_zero, PushPoint.pushed] at hqueue hordered hpopped
    have hconsumed : s.consumedCount = messageCount := by
      by_contra hne
      rw [messages_eq_cons (by omega), hempty] at hqueue
      cases hqueue
    have hsum : s.sum = expectedSum messageCount := by
      rw [hproper.sum, hconsumed, sumBelow_eq_expectedSum hcount]
    refine ⟨by rw [hpopped, hconsumed], if_pos ?_⟩
    simp [passes, hconsumed, hsum, hempty, hproper.dropped, hproduced, PushPoint.counted]

/-- Two messages, the first one while the consumer waits. -/
def twoMessages : List QueueProgramAct :=
  [.consumer, .producer, .producer, .spurious, .consumer, .producer, .producer, .consumer,
    .producer, .consumer, .producer, .producer, .producer, .producer, .producer, .producer,
    .consumer, .consumer, .consumer, .main, .main]

/-- The check holds. -/
theorem practiceQueue_passes_twoMessages :
    ∃ ts s, (system 2).Run ts s ∧ observations ts = [0, 1] ∧ s.exitCode 2 = 0 := by
  obtain ⟨ts, s, hrun, hmain⟩ := (system 2).exists_run twoMessages (fun _ s => s.main = .checking)
    rfl (by decide +kernel)
  obtain ⟨-, -, hpasses⟩ := practiceQueue_passes (by decide) hrun
  exact ⟨ts, s, hrun, hpasses hmain⟩

end QueueProgram

end SystemsDemos
