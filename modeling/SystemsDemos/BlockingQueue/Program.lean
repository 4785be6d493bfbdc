import SystemsDemos.BlockingQueue.History
import Mathlib.Data.Fintype.Sum
import Mathlib.Tactic.DeriveFintype

/-!
# The producer/consumer program

The program of `main`: producers push their frames and count the accepted ones, consumers pop
until `pop` fails and count what they got, and the main thread joins the producers, shuts the
queue down and joins the consumers.  The queue is the `Monitor` of the library code, whose calls
the threads of the program make; `program_refines` forgets the program and keeps the queue, so
every law of the queue holds here too.

What ties the two together is `InCall`: a thread is inside the queue call that its program point
says.  Between its increment and the next loop condition a producer only logs, which changes
nothing that is modelled here.
-/

namespace SystemsDemos

/-- The threads of the program. -/
inductive MainThread (producers consumers : ℕ)
  | main
  | producer (pid : Fin producers)
  | consumer (cid : Fin consumers)
  deriving DecidableEq, Fintype

/-- A frame; its `distance_m`, a float computed from the loop index, is left out. -/
structure LidarFrame where
  id : ℤ
  producerId : ℤ
  deriving DecidableEq

/-- The frame that producer `pid` builds in iteration `i`. -/
def lidarFrame (pid i : ℕ) : LidarFrame where
  id := pid * 100 + i
  producerId := pid

/-- Where a producer stands. -/
inductive ProducerPoint
  /-- At the loop condition with index `i`. -/
  | loop (i : ℕ)
  /-- Inside `q.push(frame)`. -/
  | pushing (i : ℕ)
  /-- Before `++g_produced`. -/
  | counting (i : ℕ)
  | done
  deriving DecidableEq

/-- Where a consumer stands. -/
inductive ConsumerPoint
  | loop
  /-- Inside `q.pop(frame)`. -/
  | popping
  /-- Before `++g_consumed`. -/
  | counting
  | done
  deriving DecidableEq

/-- Where the main thread stands. -/
inductive MainPoint
  | joinProducers
  /-- Inside `q.shutdown()`. -/
  | closing
  | joinConsumers
  | finished
  deriving DecidableEq

/-- The state of the program. -/
structure Program (producers consumers : ℕ) where
  queue : Monitor (MainThread producers consumers) LidarFrame
  producer : Fin producers → ProducerPoint
  consumer : Fin consumers → ConsumerPoint
  main : MainPoint
  gProduced : ℕ
  gConsumed : ℕ

/-- A scheduling choice of the program. -/
inductive ProgramAct (producers consumers : ℕ)
  /-- Thread `t` makes its next step; `woken` is as in `QueueAct.proceed`. -/
  | schedule (t : MainThread producers consumers)
      (woken : Option (MainThread producers consumers))
  /-- Thread `t` wakes up without being notified. -/
  | spurious (t : MainThread producers consumers)

namespace Program

variable {producers consumers : ℕ}

/-- The producer's point after a step inside `push`, from what the step reports. -/
def afterPush (i : ℕ) :
    List (QueueEvent (MainThread producers consumers) LidarFrame) → ProducerPoint
  | [.push _ _ true] => .counting i
  | [.push _ _ false] => .done
  | _ => .pushing i

/-- The consumer's point after a step inside `pop`, from what the step reports. -/
def afterPop :
    List (QueueEvent (MainThread producers consumers) LidarFrame) → ConsumerPoint
  | [.pop _ (some _)] => .counting
  | [.pop _ none] => .done
  | _ => .popping

/-- The main thread's point after a step inside `shutdown`. -/
def afterShutdown (m : Monitor (MainThread producers consumers) LidarFrame) : MainPoint :=
  if m.call .main = .idle then .joinConsumers else .closing

/-- `producer`: push `frames` frames, counting the accepted ones, until one is refused. -/
def stepProducer (frames : ℕ) (s : Program producers consumers) (pid : Fin producers)
    (woken : Option (MainThread producers consumers)) :
    Option (Program producers consumers ×
      List (QueueEvent (MainThread producers consumers) LidarFrame)) :=
  match s.producer pid with
  | .loop i =>
      if i < frames then
        (s.queue.step (.invoke (.producer pid) (.push (lidarFrame pid i)))).map fun r =>
          ({ s with
            queue := r.1
            producer := Function.update s.producer pid (.pushing i) }, r.2)
      else some ({ s with producer := Function.update s.producer pid .done }, [])
  | .pushing i =>
      (s.queue.step (.proceed (.producer pid) woken)).map fun r =>
        ({ s with
          queue := r.1
          producer := Function.update s.producer pid (afterPush i r.2) }, r.2)
  | .counting i =>
      some ({ s with
        gProduced := s.gProduced + 1
        producer := Function.update s.producer pid (.loop (i + 1)) }, [])
  | .done => none

/-- `consumer`: pop and count until `pop` returns false. -/
def stepConsumer (s : Program producers consumers) (cid : Fin consumers)
    (woken : Option (MainThread producers consumers)) :
    Option (Program producers consumers ×
      List (QueueEvent (MainThread producers consumers) LidarFrame)) :=
  match s.consumer cid with
  | .loop =>
      (s.queue.step (.invoke (.consumer cid) .pop)).map fun r =>
        ({ s with queue := r.1, consumer := Function.update s.consumer cid .popping }, r.2)
  | .popping =>
      (s.queue.step (.proceed (.consumer cid) woken)).map fun r =>
        ({ s with
          queue := r.1
          consumer := Function.update s.consumer cid (afterPop r.2) }, r.2)
  | .counting =>
      some ({ s with
        gConsumed := s.gConsumed + 1
        consumer := Function.update s.consumer cid .loop }, [])
  | .done => none

/-- `main` after it has started the threads: join the producers, shut down, join the consumers. -/
def stepMain (s : Program producers consumers)
    (woken : Option (MainThread producers consumers)) :
    Option (Program producers consumers ×
      List (QueueEvent (MainThread producers consumers) LidarFrame)) :=
  match s.main with
  | .joinProducers =>
      if ∀ pid, s.producer pid = .done then
        (s.queue.step (.invoke .main .shutdown)).map fun r =>
          ({ s with queue := r.1, main := .closing }, r.2)
      else none
  | .closing =>
      (s.queue.step (.proceed .main woken)).map fun r =>
        ({ s with queue := r.1, main := afterShutdown r.1 }, r.2)
  | .joinConsumers =>
      if ∀ cid, s.consumer cid = .done then some ({ s with main := .finished }, []) else none
  | .finished => none

/-- One step of the program. -/
def step (frames : ℕ) (s : Program producers consumers) :
    ProgramAct producers consumers →
      Option (Program producers consumers ×
        List (QueueEvent (MainThread producers consumers) LidarFrame))
  | .schedule .main woken => s.stepMain woken
  | .schedule (.producer pid) woken => s.stepProducer frames pid woken
  | .schedule (.consumer cid) woken => s.stepConsumer cid woken
  | .spurious t =>
      (s.queue.step (.spurious t)).map fun r => ({ s with queue := r.1 }, r.2)

end Program

/-- The program with its numbers of producers, consumers and frames per producer, around a queue
of the given capacity. -/
def programSystem (producers consumers frames capacity : ℕ) :
    System (Program producers consumers) (ProgramAct producers consumers)
      (QueueEvent (MainThread producers consumers) LidarFrame) where
  init s := s = ⟨⟨.new capacity, fun _ => .idle⟩, fun _ => .loop 0, fun _ => .loop,
    .joinProducers, 0, 0⟩
  step := Program.step frames

/-! ### The cases of a step -/

namespace Program

variable {producers consumers frames : ℕ}

/-- Everything a step of the program can be. -/
inductive Moves (frames : ℕ) (s : Program producers consumers) :
    Program producers consumers →
      List (QueueEvent (MainThread producers consumers) LidarFrame) → Prop
  | pushCall {pid i m out} (hp : s.producer pid = .loop i) (hi : i < frames)
      (hq : s.queue.step (.invoke (.producer pid) (.push (lidarFrame pid i))) = some (m, out)) :
      Moves frames s
        { s with queue := m, producer := Function.update s.producer pid (.pushing i) } out
  | lastFrame {pid i} (hp : s.producer pid = .loop i) (hi : frames ≤ i) :
      Moves frames s { s with producer := Function.update s.producer pid .done } []
  | pushStep {pid i woken m out} (hp : s.producer pid = .pushing i)
      (hq : s.queue.step (.proceed (.producer pid) woken) = some (m, out)) :
      Moves frames s { s with
        queue := m
        producer := Function.update s.producer pid (afterPush i out) } out
  | countProduced {pid i} (hp : s.producer pid = .counting i) :
      Moves frames s { s with
        gProduced := s.gProduced + 1
        producer := Function.update s.producer pid (.loop (i + 1)) } []
  | popCall {cid m out} (hc : s.consumer cid = .loop)
      (hq : s.queue.step (.invoke (.consumer cid) .pop) = some (m, out)) :
      Moves frames s
        { s with queue := m, consumer := Function.update s.consumer cid .popping } out
  | popStep {cid woken m out} (hc : s.consumer cid = .popping)
      (hq : s.queue.step (.proceed (.consumer cid) woken) = some (m, out)) :
      Moves frames s { s with
        queue := m
        consumer := Function.update s.consumer cid (afterPop out) } out
  | countConsumed {cid} (hc : s.consumer cid = .counting) :
      Moves frames s { s with
        gConsumed := s.gConsumed + 1
        consumer := Function.update s.consumer cid .loop } []
  | shutdownCall {m out} (hm : s.main = .joinProducers) (hp : ∀ pid, s.producer pid = .done)
      (hq : s.queue.step (.invoke .main .shutdown) = some (m, out)) :
      Moves frames s { s with queue := m, main := .closing } out
  | shutdownStep {woken m out} (hm : s.main = .closing)
      (hq : s.queue.step (.proceed .main woken) = some (m, out)) :
      Moves frames s { s with queue := m, main := afterShutdown m } out
  | finish (hm : s.main = .joinConsumers) (hc : ∀ cid, s.consumer cid = .done) :
      Moves frames s { s with main := .finished } []
  | spurious {t m out} (hq : s.queue.step (.spurious t) = some (m, out)) :
      Moves frames s { s with queue := m } out

/-- The inversion of `stepProducer`. -/
private lemma moves_of_stepProducer {s s' : Program producers consumers}
    {pid : Fin producers} {woken : Option (MainThread producers consumers)}
    {out : List (QueueEvent (MainThread producers consumers) LidarFrame)}
    (h : s.stepProducer frames pid woken = some (s', out)) : Moves frames s s' out := by
  unfold stepProducer at h
  split at h
  · next i hp =>
    split at h
    · next hi =>
      obtain ⟨⟨m, out'⟩, hq, hr⟩ := Option.map_eq_some_iff.mp h
      cases hr
      exact .pushCall hp hi hq
    · next hi =>
      cases h
      exact .lastFrame hp (Nat.le_of_not_lt hi)
  · next i hp =>
    obtain ⟨⟨m, out'⟩, hq, hr⟩ := Option.map_eq_some_iff.mp h
    cases hr
    exact .pushStep hp hq
  · next i hp =>
    cases h
    exact .countProduced hp
  · cases h

/-- The inversion of `stepConsumer`. -/
private lemma moves_of_stepConsumer {s s' : Program producers consumers}
    {cid : Fin consumers} {woken : Option (MainThread producers consumers)}
    {out : List (QueueEvent (MainThread producers consumers) LidarFrame)}
    (h : s.stepConsumer cid woken = some (s', out)) : Moves frames s s' out := by
  unfold stepConsumer at h
  split at h
  · next hc =>
    obtain ⟨⟨m, out'⟩, hq, hr⟩ := Option.map_eq_some_iff.mp h
    cases hr
    exact .popCall hc hq
  · next hc =>
    obtain ⟨⟨m, out'⟩, hq, hr⟩ := Option.map_eq_some_iff.mp h
    cases hr
    exact .popStep hc hq
  · next hc =>
    cases h
    exact .countConsumed hc
  · cases h

/-- The inversion of `stepMain`. -/
private lemma moves_of_stepMain {s s' : Program producers consumers}
    {woken : Option (MainThread producers consumers)}
    {out : List (QueueEvent (MainThread producers consumers) LidarFrame)}
    (h : s.stepMain woken = some (s', out)) : Moves frames s s' out := by
  unfold stepMain at h
  split at h
  · next hm =>
    split at h
    · next hp =>
      obtain ⟨⟨m, out'⟩, hq, hr⟩ := Option.map_eq_some_iff.mp h
      cases hr
      exact .shutdownCall hm hp hq
    · cases h
  · next hm =>
    obtain ⟨⟨m, out'⟩, hq, hr⟩ := Option.map_eq_some_iff.mp h
    cases hr
    exact .shutdownStep hm hq
  · next hm =>
    split at h
    · next hc =>
      cases h
      exact .finish hm hc
    · cases h
  · cases h

/-- Every enabled step is one of the listed moves. -/
theorem moves_of_step {s s' : Program producers consumers}
    {a : ProgramAct producers consumers}
    {out : List (QueueEvent (MainThread producers consumers) LidarFrame)}
    (h : s.step frames a = some (s', out)) : Moves frames s s' out := by
  cases a with
  | schedule t woken =>
    cases t with
    | main => exact moves_of_stepMain h
    | producer pid => exact moves_of_stepProducer h
    | consumer cid => exact moves_of_stepConsumer h
  | spurious t =>
    obtain ⟨⟨m, out'⟩, hq, hr⟩ := Option.map_eq_some_iff.mp h
    cases hr
    exact .spurious hq

/-! ### Program points and queue calls -/

/-- The calls a thread can be in, from its program point. -/
def Expects (s : Program producers consumers) :
    MainThread producers consumers → Call LidarFrame → Prop
  | .producer pid, c =>
      match s.producer pid with
      | .pushing i => c = .pushLock (lidarFrame pid i) ∨ c = .pushWait (lidarFrame pid i)
      | _ => c = .idle
  | .consumer cid, c =>
      match s.consumer cid with
      | .popping => c = .popLock ∨ c = .popWait
      | _ => c = .idle
  | .main, c =>
      match s.main with
      | .closing => c = .shutdownLock ∨ c = .shutdownNotFull ∨ c = .shutdownNotEmpty
      | _ => c = .idle

/-- Every thread is in the queue call that its program point says. -/
def InCall (s : Program producers consumers) : Prop :=
  ∀ t, s.Expects t (s.queue.call t)

/-- Waking a thread keeps it in the call it is in. -/
private lemma Expects.wake {s : Program producers consumers}
    {t : MainThread producers consumers} {c : Call LidarFrame} (h : s.Expects t c) :
    s.Expects t c.wake := by
  cases t with
  | main => cases hm : s.main <;> grind [Expects, Call.wake]
  | producer pid => cases hp : s.producer pid <;> grind [Expects, Call.wake]
  | consumer cid => cases hc : s.consumer cid <;> grind [Expects, Call.wake]

/-- A step of one thread through the queue keeps all threads in their calls, if it is right for
that thread and changes no other program point. -/
private lemma InCall.of_queue_step {s s' : Program producers consumers}
    {a : QueueAct (MainThread producers consumers) LidarFrame}
    {m : Monitor (MainThread producers consumers) LidarFrame}
    {out : List (QueueEvent (MainThread producers consumers) LidarFrame)} (h : s.InCall)
    (hq : s.queue.step a = some (m, out)) (hm : s'.queue = m)
    (hself : s'.Expects a.thread (m.call a.thread))
    (hother : ∀ t, t ≠ a.thread → s'.Expects t = s.Expects t) : s'.InCall := by
  intro t
  rw [hm]
  by_cases ht : t = a.thread
  · rwa [ht]
  · rw [hother t ht]
    rcases (Monitor.moves_of_step hq).call_other ht with hc | hc <;> rw [hc]
    · exact h t
    · exact (h t).wake

/-- A thread that moves between two calls keeps all threads in their calls. -/
private lemma InCall.of_local_step {s s' : Program producers consumers}
    (t₀ : MainThread producers consumers) (h : s.InCall) (hqueue : s'.queue = s.queue)
    (hself : s'.Expects t₀ (s.queue.call t₀))
    (hother : ∀ t, t ≠ t₀ → s'.Expects t = s.Expects t) : s'.InCall := by
  intro t
  rw [hqueue]
  by_cases ht : t = t₀
  · rwa [ht]
  · rw [hother t ht]
    exact h t

/-- Changing the point of one producer changes what is expected of no other thread. -/
private lemma expects_producer (s : Program producers consumers) (pid : Fin producers)
    (p : ProducerPoint) (m : Monitor (MainThread producers consumers) LidarFrame) (n : ℕ)
    {t : MainThread producers consumers} (ht : t ≠ .producer pid) :
    Expects { s with
      queue := m, gProduced := n, producer := Function.update s.producer pid p } t =
      s.Expects t := by
  cases t with
  | producer pid' =>
    have hne : pid' ≠ pid := fun h => ht (by rw [h])
    funext c
    simp only [Expects, Function.update_of_ne hne]
  | _ => rfl

/-- Changing the point of one consumer changes what is expected of no other thread. -/
private lemma expects_consumer (s : Program producers consumers) (cid : Fin consumers)
    (p : ConsumerPoint) (m : Monitor (MainThread producers consumers) LidarFrame) (n : ℕ)
    {t : MainThread producers consumers} (ht : t ≠ .consumer cid) :
    Expects { s with
      queue := m, gConsumed := n, consumer := Function.update s.consumer cid p } t =
      s.Expects t := by
  cases t with
  | consumer cid' =>
    have hne : cid' ≠ cid := fun h => ht (by rw [h])
    funext c
    simp only [Expects, Function.update_of_ne hne]
  | _ => rfl

/-- Changing the point of the main thread changes what is expected of no other thread. -/
private lemma expects_main (s : Program producers consumers) (p : MainPoint)
    (m : Monitor (MainThread producers consumers) LidarFrame)
    {t : MainThread producers consumers} (ht : t ≠ .main) :
    Expects { s with queue := m, main := p } t = s.Expects t := by
  cases t with
  | main => exact absurd rfl ht
  | _ => rfl

/-- Every step of the program keeps its threads in the calls that their points say. -/
lemma InCall.step {s s' : Program producers consumers}
    {out : List (QueueEvent (MainThread producers consumers) LidarFrame)} (h : s.InCall)
    (hm : Moves frames s s' out) : s'.InCall := by
  cases hm with
  | @pushCall pid i m out hp hi hq =>
    refine h.of_queue_step hq rfl ?_ fun t ht => expects_producer s pid _ _ _ ht
    cases Monitor.moves_of_step hq
    simp [Expects, QueueAct.thread, Op.entry]
  | @lastFrame pid i hp hi =>
    refine h.of_local_step (.producer pid) rfl ?_ fun t ht =>
      expects_producer s pid _ _ _ ht
    have hcall := h (.producer pid)
    simpa [Expects, hp] using hcall
  | @pushStep pid i woken m out hp hq =>
    refine h.of_queue_step hq rfl ?_ fun t ht => expects_producer s pid _ _ _ ht
    have hcall := h (.producer pid)
    simp only [Expects, hp] at hcall
    rcases Monitor.push_step hq hcall with ⟨rfl, hc⟩ | ⟨ok, rfl, hc⟩
    · simp [Expects, QueueAct.thread, afterPush, hc]
    · cases ok <;> simp [Expects, QueueAct.thread, afterPush, hc]
  | @countProduced pid i hp =>
    refine h.of_local_step (.producer pid) rfl ?_ fun t ht =>
      expects_producer s pid _ _ _ ht
    have hcall := h (.producer pid)
    simpa [Expects, hp] using hcall
  | @popCall cid m out hc hq =>
    refine h.of_queue_step hq rfl ?_ fun t ht => expects_consumer s cid _ _ _ ht
    cases Monitor.moves_of_step hq
    simp [Expects, QueueAct.thread, Op.entry]
  | @popStep cid woken m out hc hq =>
    refine h.of_queue_step hq rfl ?_ fun t ht => expects_consumer s cid _ _ _ ht
    have hcall := h (.consumer cid)
    simp only [Expects, hc] at hcall
    rcases Monitor.pop_step hq hcall with ⟨rfl, hc⟩ | ⟨r, rfl, hc⟩
    · simp [Expects, QueueAct.thread, afterPop, hc]
    · cases r <;> simp [Expects, QueueAct.thread, afterPop, hc]
  | @countConsumed cid hc =>
    refine h.of_local_step (.consumer cid) rfl ?_ fun t ht =>
      expects_consumer s cid _ _ _ ht
    have hcall := h (.consumer cid)
    simpa [Expects, hc] using hcall
  | @shutdownCall m out hm hp hq =>
    refine h.of_queue_step hq rfl ?_ fun t ht => expects_main s _ _ ht
    cases Monitor.moves_of_step hq
    simp [Expects, QueueAct.thread, Op.entry]
  | @shutdownStep woken m out hm hq =>
    refine h.of_queue_step hq rfl ?_ fun t ht => expects_main s _ _ ht
    have hcall := h .main
    simp only [Expects, hm] at hcall
    rcases (Monitor.shutdown_step hq hcall).1 with hc | hc | hc <;>
      simp [Expects, QueueAct.thread, afterShutdown, hc]
  | finish hm hc =>
    refine h.of_local_step .main rfl ?_ fun t ht => expects_main s _ _ ht
    have hcall := h .main
    simpa [Expects, hm] using hcall
  | @spurious t m out hq =>
    refine h.of_queue_step hq rfl ?_ fun _ _ => rfl
    have hcall := h t
    cases Monitor.moves_of_step hq with
    | spuriousPush hc =>
      have hw := hcall.wake
      rw [hc] at hw
      simp only [QueueAct.thread, Function.update_self]
      exact hw
    | spuriousPop hc =>
      have hw := hcall.wake
      rw [hc] at hw
      simp only [QueueAct.thread, Function.update_self]
      exact hw

end Program

end SystemsDemos
