import SystemsDemos.BlockingQueue.Program
import SystemsDemos.Transition.Tally

/-!
# The shutdown protocol drains the queue

When `main` has joined the producers, shut the queue down and joined the consumers, every frame
that a `push` accepted has been returned by exactly one `pop`, and the two counters agree.  The
queue's own history law does the bookkeeping of the frames; what the program adds is that the
counters follow the history (`Accounted`), that joined threads are done and a consumer is done
only on a drained queue (`Joined`), and that no frame is pushed twice (`Fresh`).
-/

namespace SystemsDemos

variable {producers consumers frames capacity : ℕ}

/-! ### The queue inside the program -/

/-- The program is a client of the queue: forgetting it leaves a run of the queue. -/
theorem program_refines :
    Refinement (programSystem producers consumers frames capacity)
      (queueSystem (MainThread producers consumers) LidarFrame capacity)
      Program.queue some where
  init := by
    rintro s rfl
    rfl
  step s a s' out _ hs := by
    rw [List.filterMap_some]
    cases Program.moves_of_step hs with
    | lastFrame | countProduced | countConsumed | finish => exact .inr ⟨rfl, rfl⟩
    | pushCall _ _ hq => exact .inl ⟨.invoke _ _, hq⟩
    | pushStep _ hq => exact .inl ⟨.proceed _ _, hq⟩
    | popCall _ hq => exact .inl ⟨.invoke _ _, hq⟩
    | popStep _ hq => exact .inl ⟨.proceed _ _, hq⟩
    | shutdownCall _ _ hq => exact .inl ⟨.invoke _ _, hq⟩
    | shutdownStep _ hq => exact .inl ⟨.proceed _ _, hq⟩
    | spurious hq => exact .inl ⟨.spurious _, hq⟩

/-- The history law of the queue inside the program. -/
lemma program_history {ts} {s : Program producers consumers}
    (h : (programSystem producers consumers frames capacity).Run ts s) :
    (observations ts).filterMap QueueEvent.accepted =
      (observations ts).filterMap QueueEvent.delivered ++ s.queue.queue.q := by
  obtain ⟨us, hus, hobs⟩ := program_refines.run h
  rw [List.filterMap_some] at hobs
  rw [← hobs]
  exact queue_isFifo.run hus

/-- Every reachable thread is in the call its program point says. -/
lemma program_inCall {ts} {s : Program producers consumers}
    (h : (programSystem producers consumers frames capacity).Run ts s) : s.InCall := by
  refine h.invariant ?_ fun s a s' out hin hs => hin.step (Program.moves_of_step hs)
  rintro s rfl t
  cases t <;> rfl

/-! ### What one step hands over -/

section Events

variable {ι T : Type*} [Fintype ι] [DecidableEq ι] {m m' : Monitor ι T} {i : ι}
  {out : List (QueueEvent ι T)}

/-- Starting an operation reports nothing. -/
lemma Monitor.invoke_out {op : Op T} (h : m.step (.invoke i op) = some (m', out)) : out = [] := by
  cases Monitor.moves_of_step h
  rfl

/-- A spurious wakeup reports nothing. -/
lemma Monitor.spurious_out (h : m.step (.spurious i) = some (m', out)) : out = [] := by
  cases Monitor.moves_of_step h <;> rfl

end Events

namespace Program

variable {s s' : Program producers consumers}
  {m : Monitor (MainThread producers consumers) LidarFrame}
  {woken : Option (MainThread producers consumers)}
  {out : List (QueueEvent (MainThread producers consumers) LidarFrame)}

/-- A producer's step inside `push` reports nothing, or the result for its frame. -/
lemma InCall.push_out (h : s.InCall) {pid : Fin producers} {i : ℕ}
    (hp : s.producer pid = .pushing i)
    (hq : s.queue.step (.proceed (.producer pid) woken) = some (m, out)) :
    out = [] ∨ ∃ ok, out = [.push (.producer pid) (lidarFrame pid i) ok] := by
  have hcall := h (.producer pid)
  simp only [Expects, hp] at hcall
  rcases Monitor.push_step hq hcall with ⟨hout, -⟩ | ⟨ok, hout, -⟩
  · exact .inl hout
  · exact .inr ⟨ok, hout⟩

/-- A consumer's step inside `pop` reports nothing, or what it got. -/
lemma InCall.pop_out (h : s.InCall) {cid : Fin consumers} (hc : s.consumer cid = .popping)
    (hq : s.queue.step (.proceed (.consumer cid) woken) = some (m, out)) :
    out = [] ∨ ∃ r, out = [.pop (.consumer cid) r] := by
  have hcall := h (.consumer cid)
  simp only [Expects, hc] at hcall
  rcases Monitor.pop_step hq hcall with ⟨hout, -⟩ | ⟨r, hout, -⟩
  · exact .inl hout
  · exact .inr ⟨r, hout⟩

/-- A step of the main thread inside `shutdown` hands nothing over. -/
lemma InCall.shutdown_out (h : s.InCall) (hm : s.main = .closing)
    (hq : s.queue.step (.proceed .main woken) = some (m, out)) :
    out.filterMap QueueEvent.accepted = [] ∧ out.filterMap QueueEvent.delivered = [] := by
  have hcall := h .main
  simp only [Expects, hm] at hcall
  exact (Monitor.shutdown_step hq hcall).2

end Program

/-! ### The counters -/

/-- The producer has pushed a frame that it has not counted yet. -/
def ProducerPoint.isCounting : ProducerPoint → Bool
  | counting _ => true
  | _ => false

/-- The consumer has popped a frame that it has not counted yet. -/
def ConsumerPoint.isCounting : ConsumerPoint → Bool
  | counting => true
  | _ => false

namespace Program

/-- The counters follow the history: what has been accepted and what has been delivered is
counted, except for the threads that stand right before their increment. -/
structure Accounted (obs : List (QueueEvent (MainThread producers consumers) LidarFrame))
    (s : Program producers consumers) : Prop where
  produced : (obs.filterMap QueueEvent.accepted).length =
    s.gProduced + tally ProducerPoint.isCounting s.producer
  consumed : (obs.filterMap QueueEvent.delivered).length =
    s.gConsumed + tally ConsumerPoint.isCounting s.consumer

variable {s s' : Program producers consumers}
  {obs out : List (QueueEvent (MainThread producers consumers) LidarFrame)}

/-- How the number of counting producers moves with one of them. -/
private lemma tally_producer (s : Program producers consumers) {pid : Fin producers}
    {p : ProducerPoint} (hp : s.producer pid = p) (p' : ProducerPoint) :
    tally ProducerPoint.isCounting (Function.update s.producer pid p') + p.isCounting.toNat =
      tally ProducerPoint.isCounting s.producer + p'.isCounting.toNat :=
  hp ▸ tally_update _ _ _ _

/-- How the number of counting consumers moves with one of them. -/
private lemma tally_consumer (s : Program producers consumers) {cid : Fin consumers}
    {p : ConsumerPoint} (hp : s.consumer cid = p) (p' : ConsumerPoint) :
    tally ConsumerPoint.isCounting (Function.update s.consumer cid p') + p.isCounting.toNat =
      tally ConsumerPoint.isCounting s.consumer + p'.isCounting.toNat :=
  hp ▸ tally_update _ _ _ _

/-- Every step keeps the counters and the history together. -/
lemma Accounted.step (h : Accounted obs s) (hin : s.InCall) (hm : Moves frames s s' out) :
    Accounted (obs ++ out) s' := by
  obtain ⟨hproduced, hconsumed⟩ := h
  constructor
  · -- the accepted frames against `gProduced`
    rw [List.filterMap_append, List.length_append, hproduced]
    cases hm with
    | @pushCall pid i m out hp hi hq =>
      have ht := tally_producer s hp (.pushing i)
      simp_all [Monitor.invoke_out hq, ProducerPoint.isCounting]
    | @lastFrame pid i hp hi =>
      have ht := tally_producer s hp .done
      simp_all [ProducerPoint.isCounting]
    | @pushStep pid i woken m out hp hq =>
      rcases hin.push_out hp hq with rfl | ⟨ok, rfl⟩
      · have ht := tally_producer s hp (.pushing i)
        simp_all [afterPush, ProducerPoint.isCounting]
      · cases ok with
        | true =>
          have ht := tally_producer s hp (.counting i)
          simp_all [afterPush, ProducerPoint.isCounting, QueueEvent.accepted]
          omega
        | false =>
          have ht := tally_producer s hp .done
          simp_all [afterPush, ProducerPoint.isCounting, QueueEvent.accepted]
    | @countProduced pid i hp =>
      have ht := tally_producer s hp (.loop (i + 1))
      simp_all [ProducerPoint.isCounting]
      omega
    | popCall _ hq => simp [Monitor.invoke_out hq]
    | popStep hc hq =>
      rcases hin.pop_out hc hq with rfl | ⟨r, rfl⟩ <;> simp [QueueEvent.accepted]
    | countConsumed | finish => simp
    | shutdownCall _ _ hq => simp [Monitor.invoke_out hq]
    | shutdownStep hm hq => simp [(hin.shutdown_out hm hq).1]
    | spurious hq => simp [Monitor.spurious_out hq]
  · -- the delivered frames against `gConsumed`
    rw [List.filterMap_append, List.length_append, hconsumed]
    cases hm with
    | pushCall _ _ hq => simp [Monitor.invoke_out hq]
    | pushStep hp hq =>
      rcases hin.push_out hp hq with rfl | ⟨ok, rfl⟩ <;> simp [QueueEvent.delivered]
    | lastFrame | countProduced | finish => simp
    | @popCall cid m out hc hq =>
      have ht := tally_consumer s hc .popping
      simp_all [Monitor.invoke_out hq, ConsumerPoint.isCounting]
    | @popStep cid woken m out hc hq =>
      rcases hin.pop_out hc hq with rfl | ⟨r, rfl⟩
      · have ht := tally_consumer s hc .popping
        simp_all [afterPop, ConsumerPoint.isCounting]
      · cases r with
        | some f =>
          have ht := tally_consumer s hc .counting
          simp_all [afterPop, ConsumerPoint.isCounting, QueueEvent.delivered]
          omega
        | none =>
          have ht := tally_consumer s hc .done
          simp_all [afterPop, ConsumerPoint.isCounting, QueueEvent.delivered]
    | @countConsumed cid hc =>
      have ht := tally_consumer s hc .loop
      simp_all [ConsumerPoint.isCounting]
      omega
    | shutdownCall _ _ hq => simp [Monitor.invoke_out hq]
    | shutdownStep hm hq => simp [(hin.shutdown_out hm hq).2]
    | spurious hq => simp [Monitor.spurious_out hq]

/-! ### Joined threads -/

/-- What joining means: once the main thread is past a join, the threads joined are done, and a
consumer is done only when the queue is closed and empty. -/
structure Joined (s : Program producers consumers) : Prop where
  producersDone : s.main ≠ .joinProducers → ∀ pid, s.producer pid = .done
  consumersDone : s.main = .finished → ∀ cid, s.consumer cid = .done
  drained : ∀ cid, s.consumer cid = .done →
    s.queue.queue.closed = true ∧ s.queue.queue.q = []

/-- A queue that is closed and empty before a step of the program is so after it. -/
private lemma Moves.drained (hm : Moves frames s s' out)
    (hd : s.queue.queue.closed = true ∧ s.queue.queue.q = []) :
    s'.queue.queue.closed = true ∧ s'.queue.queue.q = [] := by
  cases hm with
  | lastFrame | countProduced | countConsumed | finish => exact hd
  | pushCall _ _ hq => exact (Monitor.moves_of_step hq).drained hd
  | pushStep _ hq => exact (Monitor.moves_of_step hq).drained hd
  | popCall _ hq => exact (Monitor.moves_of_step hq).drained hd
  | popStep _ hq => exact (Monitor.moves_of_step hq).drained hd
  | shutdownCall _ _ hq => exact (Monitor.moves_of_step hq).drained hd
  | shutdownStep _ hq => exact (Monitor.moves_of_step hq).drained hd
  | spurious hq => exact (Monitor.moves_of_step hq).drained hd

/-- A consumer that a step makes done has just failed to pop, or was done before. -/
private lemma Moves.consumer_done (hm : Moves frames s s' out) (hin : s.InCall)
    {cid : Fin consumers} (hdone : s'.consumer cid = .done) :
    s.consumer cid = .done ∨ s.queue.queue.closed = true ∧ s.queue.queue.q = [] := by
  cases hm with
  | @popCall cid' m out hc hq =>
    rcases eq_or_ne cid cid' with rfl | hne
    · simp at hdone
    · exact .inl (by simpa [Function.update_of_ne hne] using hdone)
  | @popStep cid' woken m out hc hq =>
    rcases eq_or_ne cid cid' with rfl | hne
    · rcases hin.pop_out hc hq with rfl | ⟨r, rfl⟩
      · simp [afterPop] at hdone
      · cases r with
        | some f => simp [afterPop] at hdone
        | none => exact .inr ((Monitor.moves_of_step hq).drained_of_pop_none (.head _))
    · exact .inl (by simpa [Function.update_of_ne hne] using hdone)
  | @countConsumed cid' hc =>
    rcases eq_or_ne cid cid' with rfl | hne
    · simp at hdone
    · exact .inl (by simpa [Function.update_of_ne hne] using hdone)
  | _ => exact .inl hdone

/-- Every step keeps the joins meaningful. -/
lemma Joined.step (h : Joined s) (hin : s.InCall) (hm : Moves frames s s' out) : Joined s' where
  producersDone hmain := by
    cases hm with
    | pushCall hp | lastFrame hp | pushStep hp | countProduced hp =>
      simp [h.producersDone hmain] at hp
    | shutdownCall _ hp _ => exact hp
    | shutdownStep hm _ => exact h.producersDone (by simp [hm])
    | finish hm _ => exact h.producersDone (by simp [hm])
    | _ => exact h.producersDone hmain
  consumersDone hmain := by
    cases hm with
    | popCall hc | popStep hc | countConsumed hc => simp [h.consumersDone hmain] at hc
    | shutdownCall => cases hmain
    | shutdownStep => simp only [afterShutdown] at hmain; split at hmain <;> cases hmain
    | finish _ hc => exact hc
    | _ => exact h.consumersDone hmain
  drained cid hdone :=
    hm.drained ((hm.consumer_done hin hdone).elim (h.drained cid) id)

end Program

/-! ### Every frame is pushed once -/

/-- The producer has pushed its frame `k` already. -/
def ProducerPoint.Pushed : ProducerPoint → ℕ → Prop
  | loop i, k => k < i
  | pushing i, k => k < i
  | counting i, k => k ≤ i
  | done, _ => True

/-- Different iterations and different producers build different frames. -/
lemma lidarFrame_inj {pid i pid' i' : ℕ} (h : lidarFrame pid i = lidarFrame pid' i') :
    pid = pid' ∧ i = i' := by
  simp only [lidarFrame, LidarFrame.mk.injEq] at h
  omega

namespace Program

variable {s s' : Program producers consumers}
  {obs out : List (QueueEvent (MainThread producers consumers) LidarFrame)}

/-- The frames accepted so far are different, and each is one that its producer has pushed. -/
structure Fresh (obs : List (QueueEvent (MainThread producers consumers) LidarFrame))
    (s : Program producers consumers) : Prop where
  nodup : (obs.filterMap QueueEvent.accepted).Nodup
  pushed : ∀ f ∈ obs.filterMap QueueEvent.accepted,
    ∃ (pid : Fin producers) (k : ℕ), f = lidarFrame pid k ∧ (s.producer pid).Pushed k

/-- A step accepts nothing, or the frame of the one producer whose `push` it completes. -/
private lemma Moves.accepted (hm : Moves frames s s' out) (hin : s.InCall) :
    out.filterMap QueueEvent.accepted = [] ∨
      ∃ pid i, s.producer pid = .pushing i ∧ s'.producer pid = .counting i ∧
        out.filterMap QueueEvent.accepted = [lidarFrame pid i] := by
  cases hm with
  | lastFrame | countProduced | countConsumed | finish => exact .inl rfl
  | pushCall _ _ hq => exact .inl (by rw [Monitor.invoke_out hq]; rfl)
  | @pushStep pid i woken m out hp hq =>
    rcases hin.push_out hp hq with rfl | ⟨ok, rfl⟩
    · exact .inl rfl
    · cases ok with
      | true => exact .inr ⟨pid, i, hp, by simp [afterPush], rfl⟩
      | false => exact .inl rfl
  | popCall _ hq => exact .inl (by rw [Monitor.invoke_out hq]; rfl)
  | popStep hc hq =>
    rcases hin.pop_out hc hq with rfl | ⟨r, rfl⟩ <;> exact .inl rfl
  | shutdownCall _ _ hq => exact .inl (by rw [Monitor.invoke_out hq]; rfl)
  | shutdownStep hm hq => exact .inl (hin.shutdown_out hm hq).1
  | spurious hq => exact .inl (by rw [Monitor.spurious_out hq]; rfl)

/-- What a producer has pushed it has pushed for ever. -/
private lemma Moves.pushed (hm : Moves frames s s' out) (hin : s.InCall) {pid : Fin producers}
    {k : ℕ} (hk : (s.producer pid).Pushed k) : (s'.producer pid).Pushed k := by
  cases hm with
  | @pushCall pid' i m out hp hi hq =>
    rcases eq_or_ne pid pid' with rfl | hne
    · simpa [hp, ProducerPoint.Pushed] using hk
    · simpa [Function.update_of_ne hne] using hk
  | @lastFrame pid' i hp hi =>
    rcases eq_or_ne pid pid' with rfl | hne
    · simp [ProducerPoint.Pushed]
    · simpa [Function.update_of_ne hne] using hk
  | @pushStep pid' i woken m out hp hq =>
    rcases eq_or_ne pid pid' with rfl | hne
    · simp only [hp, ProducerPoint.Pushed] at hk
      rcases hin.push_out hp hq with rfl | ⟨ok, rfl⟩
      · simpa [afterPush, ProducerPoint.Pushed] using hk
      · cases ok <;> simp [afterPush, ProducerPoint.Pushed, hk.le]
    · simpa [Function.update_of_ne hne] using hk
  | @countProduced pid' i hp =>
    rcases eq_or_ne pid pid' with rfl | hne
    · simpa [hp, ProducerPoint.Pushed, Nat.lt_succ_iff] using hk
    · simpa [Function.update_of_ne hne] using hk
  | _ => exact hk

/-- Every step keeps the accepted frames fresh. -/
lemma Fresh.step (h : Fresh obs s) (hin : s.InCall) (hm : Moves frames s s' out) :
    Fresh (obs ++ out) s' := by
  rcases hm.accepted hin with hnone | ⟨pid, i, hp, hp', hone⟩
  · constructor
    · simpa [hnone] using h.nodup
    · intro f hf
      obtain ⟨pid, k, rfl, hk⟩ := h.pushed f (by simpa [hnone] using hf)
      exact ⟨pid, k, rfl, hm.pushed hin hk⟩
  · have hnew : lidarFrame pid i ∉ obs.filterMap QueueEvent.accepted := by
      intro hmem
      obtain ⟨pid', k, heq, hk⟩ := h.pushed _ hmem
      obtain ⟨hpid, rfl⟩ := lidarFrame_inj heq
      obtain rfl := Fin.ext hpid
      simp [hp, ProducerPoint.Pushed] at hk
    constructor
    · rw [List.filterMap_append, hone]
      exact List.nodup_append.mpr ⟨h.nodup, List.nodup_singleton _, by
        rintro f hf _ hg rfl
        obtain rfl := List.mem_singleton.mp hg
        exact hnew hf⟩
    · intro f hf
      rw [List.filterMap_append, hone, List.mem_append, List.mem_singleton] at hf
      rcases hf with hf | rfl
      · obtain ⟨pid', k, rfl, hk⟩ := h.pushed f hf
        exact ⟨pid', k, rfl, hm.pushed hin hk⟩
      · exact ⟨pid, i, rfl, by simp [hp', ProducerPoint.Pushed]⟩

/-! ### Who gets a frame -/

/-- Only consumers are handed frames. -/
lemma Moves.delivered (hm : Moves frames s s' out) (hin : s.InCall) :
    ∀ e ∈ out, ∀ f, e.delivered = some f → ∃ cid, e = .pop (.consumer cid) (some f) := by
  cases hm with
  | lastFrame | countProduced | countConsumed | finish => simp
  | pushCall _ _ hq => simp [Monitor.invoke_out hq]
  | pushStep hp hq =>
    rcases hin.push_out hp hq with rfl | ⟨ok, rfl⟩ <;> simp [QueueEvent.delivered]
  | popCall _ hq => simp [Monitor.invoke_out hq]
  | popStep hc hq =>
    rcases hin.pop_out hc hq with rfl | ⟨r, rfl⟩ <;> simp [QueueEvent.delivered]
  | shutdownCall _ _ hq => simp [Monitor.invoke_out hq]
  | shutdownStep hm hq =>
    intro e he f hf
    have hnone := List.filterMap_eq_nil_iff.mp (hin.shutdown_out hm hq).2 e he
    simp [hnone] at hf
  | spurious hq => simp [Monitor.spurious_out hq]

end Program

/-- The thread to which the call of `e` hands `item`, if it does. -/
def QueueEvent.receiver {ι T : Type*} [DecidableEq T] (item : T) : QueueEvent ι T → Option ι
  | pop i (some x) => if x = item then some i else none
  | tryPop i (some x) => if x = item then some i else none
  | _ => none

/-- There are as many calls that hand out an item as times it is handed out. -/
lemma length_receivers {ι T : Type*} [DecidableEq T] (obs : List (QueueEvent ι T)) (item : T) :
    (obs.filterMap (QueueEvent.receiver item)).length =
      (obs.filterMap QueueEvent.delivered).count item := by
  induction obs with
  | nil => rfl
  | cons e obs ih =>
    have hhead : (e.receiver item).toList.length = e.delivered.toList.count item := by
      cases e with
      | pop i r | tryPop i r =>
        cases r with
        | none => rfl
        | some x => by_cases hx : x = item <;> simp [QueueEvent.receiver, QueueEvent.delivered, hx]
      | _ => rfl
    cases hr : e.receiver item <;> cases hd : e.delivered <;>
      simp_all [List.count_cons]

variable {s : Program producers consumers}
  {ts : List (Transition (Program producers consumers) (ProgramAct producers consumers)
    (QueueEvent (MainThread producers consumers) LidarFrame))}

/-- Everything the program keeps about its history. -/
lemma program_invariant (h : (programSystem producers consumers frames capacity).Run ts s) :
    Program.Accounted (observations ts) s ∧ s.Joined ∧ Program.Fresh (observations ts) s := by
  refine h.invariant_history (I := fun ts s => Program.Accounted (observations ts) s ∧ s.Joined ∧
    Program.Fresh (observations ts) s) ?_ ?_
  · rintro s rfl
    refine ⟨⟨?_, ?_⟩, ⟨?_, ?_, ?_⟩, ⟨?_, ?_⟩⟩
    · simp [tally, ProducerPoint.isCounting]
    · simp [tally, ConsumerPoint.isCounting]
    all_goals simp
  · rintro ts s a s' out hr ⟨hacc, hjoin, hfresh⟩ hs
    have hm := Program.moves_of_step hs
    have hin := program_inCall hr
    rw [observations_append, observations_singleton]
    exact ⟨hacc.step hin hm, hjoin.step hin hm, hfresh.step hin hm⟩

/-- In every run only consumers are handed frames. -/
lemma program_delivered (h : (programSystem producers consumers frames capacity).Run ts s) :
    ∀ e ∈ observations ts, ∀ f, e.delivered = some f →
      ∃ cid, e = .pop (.consumer cid) (some f) := by
  intro e he
  obtain ⟨t, ht, het⟩ := List.mem_flatMap.mp he
  obtain ⟨⟨us, hus⟩, hvalid⟩ := h.of_mem ht
  exact (Program.moves_of_step hvalid).delivered (program_inCall hus) e het

/-- A thread to which a frame is handed is a consumer. -/
lemma program_receiver (h : (programSystem producers consumers frames capacity).Run ts s)
    {f : LidarFrame} {t : MainThread producers consumers}
    (ht : t ∈ (observations ts).filterMap (QueueEvent.receiver f)) : ∃ cid, t = .consumer cid := by
  obtain ⟨e, he, het⟩ := List.mem_filterMap.mp ht
  have hdel : e.delivered = some f := by
    cases e with
    | pop i r | tryPop i r =>
      cases r with
      | none => simp [QueueEvent.receiver] at het
      | some x =>
        simp only [QueueEvent.receiver, Option.ite_none_right_eq_some] at het
        simp [QueueEvent.delivered, het.1]
    | _ => simp [QueueEvent.receiver] at het
  obtain ⟨cid, rfl⟩ := program_delivered h e he f hdel
  refine ⟨cid, ?_⟩
  simpa [QueueEvent.receiver, eq_comm] using het

/-- The program has finished: the queue is empty, all threads are done. -/
lemma program_finished (hconsumers : 0 < consumers)
    (h : (programSystem producers consumers frames capacity).Run ts s)
    (hfin : s.main = .finished) :
    s.queue.queue.q = [] ∧ (∀ pid, s.producer pid = .done) ∧ ∀ cid, s.consumer cid = .done := by
  obtain ⟨-, hjoin, -⟩ := program_invariant h
  have hdone := hjoin.consumersDone hfin
  exact ⟨(hjoin.drained ⟨0, hconsumers⟩ (hdone _)).2,
    hjoin.producersDone (by simp [hfin]), hdone⟩

/-- **The shutdown protocol drains the queue.**  When `main` has finished, both counters agree,
and every frame whose `push` returned true has been handed to exactly one consumer.  In general,
in every run of a queue: once it is closed nothing more is accepted; `pop` returns false only on
a closed and empty queue; and after it did so once, every later `pop` returns false. -/
theorem program_drains (hconsumers : 0 < consumers)
    (h : (programSystem producers consumers frames capacity).Run ts s)
    (hfin : s.main = .finished) {ι T : Type*} [Fintype ι] [DecidableEq ι] {capacity' : ℕ}
    {us : List (Transition (Monitor ι T) (QueueAct ι T) (QueueEvent ι T))} {m : Monitor ι T}
    (hq : (queueSystem ι T capacity').Run us m) :
    s.gConsumed = s.gProduced ∧
      (∀ f ∈ (observations ts).filterMap QueueEvent.accepted, ∃ cid,
        (observations ts).filterMap (QueueEvent.receiver f) = [.consumer cid]) ∧
      (∀ vs t ws, us = vs ++ t :: ws → t.post.queue.closed = true →
        ∀ u ∈ ws, u.out.filterMap QueueEvent.accepted = []) ∧
      (∀ t ∈ us, ∀ i, .pop i none ∈ t.out →
        t.pre.queue.closed = true ∧ t.pre.queue.q = []) ∧
      (∀ vs t ws, us = vs ++ t :: ws → ∀ i, .pop i none ∈ t.out →
        ∀ u ∈ ws, ∀ j r, .pop j r ∈ u.out → r = none) := by
  obtain ⟨hacc, -, hfresh⟩ := program_invariant h
  obtain ⟨hempty, hproducers, hconsumed⟩ := program_finished hconsumers h hfin
  have hhistory := program_history h
  rw [hempty, List.append_nil] at hhistory
  refine ⟨?_, ?_, ?_, ?_, ?_⟩
  · -- no thread stands before its increment any more
    have hp : tally ProducerPoint.isCounting s.producer = 0 :=
      tally_eq_zero_iff.mpr fun pid => by rw [hproducers pid]; rfl
    have hc : tally ConsumerPoint.isCounting s.consumer = 0 :=
      tally_eq_zero_iff.mpr fun cid => by rw [hconsumed cid]; rfl
    have hproduced := hacc.produced
    have hconsumed := hacc.consumed
    rw [hhistory] at hproduced
    omega
  · intro f hf
    have hcount : ((observations ts).filterMap QueueEvent.delivered).count f = 1 :=
      List.count_eq_one_of_mem (hhistory ▸ hfresh.nodup) (hhistory ▸ hf)
    obtain ⟨t, ht⟩ := List.length_eq_one_iff.mp ((length_receivers _ f).trans hcount)
    obtain ⟨cid, rfl⟩ := program_receiver h (f := f) (t := t) (by simp [ht])
    exact ⟨cid, ht⟩
  · rintro vs t ws rfl hclosed u hu
    have hlater := hq.later (P := fun m : Monitor ι T => m.queue.closed = true) hclosed
      fun u _ hu _ hc => (Monitor.moves_of_step hu).closed_of_closed hc
    have hvalid := (hq.of_mem (t := u) (by simp [hu])).2
    exact (Monitor.moves_of_step hvalid).accepted_of_closed (hlater.1 u hu)
  · intro t ht i hpop
    exact (Monitor.moves_of_step (hq.of_mem ht).2).drained_of_pop_none hpop
  · rintro vs t ws rfl i hpop
    exact pop_none_after_pop_none hq hpop

/-- One producer with one frame and one consumer: the consumer is asleep in its second `pop` when
the main thread closes the queue. -/
def oneFrame : List (ProgramAct 1 1) :=
  [.schedule (.producer 0) none, .schedule (.producer 0) none, .schedule (.producer 0) none,
    .schedule (.consumer 0) none, .schedule (.consumer 0) none, .schedule (.consumer 0) none,
    .schedule (.consumer 0) none, .schedule (.consumer 0) none, .schedule (.producer 0) none,
    .schedule .main none, .schedule .main none, .schedule .main none, .schedule .main none,
    .schedule (.consumer 0) none, .schedule .main none]

theorem program_drains_oneFrame :
    ∃ ts s, (programSystem 1 1 1 1).Run ts s ∧ s.gConsumed = s.gProduced ∧
      ∃ cid, (observations ts).filterMap (QueueEvent.receiver (lidarFrame 0 0)) =
        [.consumer cid] := by
  have hrun := System.run_of_exec (programSystem 1 1 1 1) oneFrame rfl rfl
  have hqueue := System.run_of_exec (queueSystem Bool ℕ 1) handoff rfl rfl
  have hlaw := program_drains (by decide) hrun rfl hqueue
  exact ⟨_, _, hrun, hlaw.1, hlaw.2.1 _ (List.mem_singleton.mpr rfl)⟩

end SystemsDemos
