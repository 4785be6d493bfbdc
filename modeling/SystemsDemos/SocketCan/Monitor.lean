import SystemsDemos.SocketCan.Rejected
import SystemsDemos.Transition.History
import Mathlib.Data.List.Induction

/-!
# What the state of the bridge says

The monitor keeps three values and forgets the rest.  Here its state is read off the whole sequence
of calls: on a clock that does not run backwards, the monitor is in the state `FAULT` with the cause
of the last call that has one, a frame with the fault flag or a check with no line in the time
before it.

### Outline

* `MonitorCall.heardAt`, `MonitorCall.cause` and `lastCause`, on sequences of calls;
* `OnClock`, and the age that a check sees;
* `canMonitor_eq_lastCause`.
-/

namespace SystemsDemos

namespace MonitorCall

/-- When the call is made. -/
def time : MonitorCall → ℤ
  | observeStatus nowMs _ => nowMs
  | checkTimeout nowMs _ => nowMs

/-- The time at which the call brings a line that is a frame. -/
def heardAt : MonitorCall → Option ℤ
  | observeStatus nowMs raw =>
      match parseCandumpLine raw with
      | .ok _ => some nowMs
      | .error _ => none
  | checkTimeout _ _ => none

/-- The line is a frame with the fault flag. -/
def flagged (raw : Text) : Bool :=
  match parseCandumpLine raw with
  | .ok frame =>
      match statusHasFault frame with
      | .ok fault => fault
      | .error _ => false
  | .error _ => false

/-- What is wrong at a call, after the calls `past`: the frame has the fault flag, or neither the
start nor any line that was a frame is within the timeout. -/
def cause (past : List MonitorCall) : MonitorCall → Option String
  | observeStatus _ raw => if flagged raw then some "CAN_ACTUATOR_FAULT" else none
  | checkTimeout nowMs timeoutMs =>
      if ∀ t ∈ (0 : ℤ) :: past.filterMap heardAt, t + timeoutMs < nowMs then some "CAN_TIMEOUT"
      else none

end MonitorCall

/-- The cause of the last call that has one, after the calls `past`. -/
def lastCauseFrom : List MonitorCall → List MonitorCall → Option String
  | _, [] => none
  | past, c :: is => (lastCauseFrom (past ++ [c]) is).or (c.cause past)

/-- The cause of the last call that has one. -/
def lastCause (is : List MonitorCall) : Option String := lastCauseFrom [] is

/-- The calls are made one after the other, on a clock that starts at zero and fits into an
`int`. -/
structure OnClock (is : List MonitorCall) : Prop where
  ordered : (is.map MonitorCall.time).Pairwise (· ≤ ·)
  range : ∀ c ∈ is, 0 ≤ c.time ∧ c.time < 2 ^ 31

/-- The last time at which a line that was a frame has been heard. -/
def lastHeard (is : List MonitorCall) : Option ℤ := (is.filterMap MonitorCall.heardAt).getLast?

/-! ### One more call -/

lemma lastCauseFrom_snoc (past is : List MonitorCall) (c : MonitorCall) :
    lastCauseFrom past (is ++ [c]) = (c.cause (past ++ is)).or (lastCauseFrom past is) := by
  induction is generalizing past with
  | nil => simp [lastCauseFrom]
  | cons d is ih =>
    have happend : past ++ [d] ++ is = past ++ d :: is := List.append_cons past d is |>.symm
    rw [List.cons_append, lastCauseFrom, ih, lastCauseFrom, happend, Option.or_assoc]

/-- The cause of the last of some calls. -/
lemma lastCause_snoc (is : List MonitorCall) (c : MonitorCall) :
    lastCause (is ++ [c]) = (c.cause is).or (lastCause is) := by
  rw [lastCause, lastCauseFrom_snoc, List.nil_append, lastCause]

/-- The last line heard after one more call. -/
lemma lastHeard_snoc (is : List MonitorCall) (c : MonitorCall) :
    lastHeard (is ++ [c]) = c.heardAt.or (lastHeard is) :=
  getLast?_filterMap_snoc _ is c

namespace OnClock

variable {is : List MonitorCall} {c : MonitorCall}

/-- The calls before the last one. -/
lemma of_snoc (h : OnClock (is ++ [c])) : OnClock is where
  ordered := by
    have hordered := h.ordered
    rw [List.map_append] at hordered
    exact (List.pairwise_append.mp hordered).1
  range d hd := h.range d (List.mem_append_left _ hd)

/-- No call is made after the last one. -/
lemma le_last (h : OnClock (is ++ [c])) {d : MonitorCall} (hd : d ∈ is) : d.time ≤ c.time := by
  have hordered := h.ordered
  rw [List.map_append] at hordered
  exact (List.pairwise_append.mp hordered).2.2 _ (List.mem_map_of_mem hd) _ (by simp)

end OnClock

/-- A line is heard when it is observed. -/
lemma MonitorCall.time_of_heardAt {c : MonitorCall} {t : ℤ} (h : c.heardAt = some t) :
    t = c.time := by
  cases c with
  | checkTimeout nowMs timeoutMs => cases h
  | observeStatus nowMs raw =>
    simp only [heardAt] at h
    split at h
    · exact (Option.some.inj h).symm
    · cases h

/-- The times at which lines have been heard are the times of calls. -/
lemma exists_call_of_heard {is : List MonitorCall} {t : ℤ}
    (h : t ∈ is.filterMap MonitorCall.heardAt) : ∃ c ∈ is, c.time = t := by
  obtain ⟨c, hc, hheard⟩ := List.mem_filterMap.mp h
  exact ⟨c, hc, (MonitorCall.time_of_heardAt hheard).symm⟩

namespace OnClock

variable {is : List MonitorCall} {c : MonitorCall}

/-- The line heard last is heard at the latest time. -/
lemma heard_le_lastHeard (h : OnClock is) {t last : ℤ} (hlast : lastHeard is = some last)
    (ht : t ∈ is.filterMap MonitorCall.heardAt) : t ≤ last := by
  induction is using List.reverseRecOn generalizing last with
  | nil => cases ht
  | append_singleton is c ih =>
    rw [lastHeard_snoc] at hlast
    rw [List.filterMap_append, List.mem_append] at ht
    cases hheard : c.heardAt with
    | some u =>
      rw [hheard, Option.some_or] at hlast
      obtain rfl := Option.some.inj hlast
      rw [MonitorCall.time_of_heardAt hheard]
      rcases ht with ht | ht
      · obtain ⟨d, hd, rfl⟩ := exists_call_of_heard ht
        exact h.le_last hd
      · obtain ⟨d, hd, rfl⟩ := exists_call_of_heard ht
        obtain rfl := List.mem_singleton.mp hd
        exact le_refl _
    | none =>
      rw [hheard, Option.none_or] at hlast
      rcases ht with ht | ht
      · exact ih h.of_snoc hlast ht
      · simp [hheard] at ht

/-- The line heard last is one of those heard. -/
lemma lastHeard_range (h : OnClock is) {last : ℤ} (hlast : lastHeard is = some last) :
    0 ≤ last ∧ last < 2 ^ 31 := by
  obtain ⟨c, hc, rfl⟩ := exists_call_of_heard (List.mem_of_getLast? hlast)
  exact h.range c hc

/-- A check finds the age too large when no line is within the timeout. -/
lemma cause_checkTimeout {nowMs timeoutMs : ℤ}
    (h : OnClock (is ++ [.checkTimeout nowMs timeoutMs])) :
    (MonitorCall.checkTimeout nowMs timeoutMs).cause is =
      if timeoutMs < nowMs - (lastHeard is).getD 0 then some "CAN_TIMEOUT" else none := by
  have hiff : (∀ t ∈ (0 : ℤ) :: is.filterMap MonitorCall.heardAt, t + timeoutMs < nowMs) ↔
      timeoutMs < nowMs - (lastHeard is).getD 0 := by
    cases hlast : lastHeard is with
    | none =>
      have hnil : is.filterMap MonitorCall.heardAt = [] := List.getLast?_eq_none_iff.mp hlast
      rw [hnil]
      simp
    | some last =>
      obtain ⟨hpos, -⟩ := h.of_snoc.lastHeard_range hlast
      rw [Option.getD_some]
      constructor
      · intro hall
        have hold := hall last (List.mem_cons_of_mem _ (List.mem_of_getLast? hlast))
        omega
      · intro hage t ht
        rcases List.mem_cons.mp ht with rfl | ht
        · omega
        · have hle := h.of_snoc.heard_le_lastHeard hlast ht
          omega
  simp only [MonitorCall.cause, hiff]

end OnClock

/-! ### The monitor -/

/-- The monitor that the calls leave behind, as they say. -/
def CanRuntimeMonitor.ofCalls (is : List MonitorCall) : CanRuntimeMonitor where
  state := if (lastCause is).isSome then .fault else .standby
  lastRxMs := (lastHeard is).getD (-1)
  error := (lastCause is).getD "NONE"

/-- The age that a check computes is the time since the last line, or since the start. -/
lemma OnClock.ageMs_eq {is : List MonitorCall} {nowMs timeoutMs : ℤ}
    (h : OnClock (is ++ [.checkTimeout nowMs timeoutMs])) :
    (checkTimeout (.ofCalls is) nowMs timeoutMs).2.ageMs = nowMs - (lastHeard is).getD 0 := by
  cases hlast : lastHeard is with
  | none => simp [checkTimeout, CanRuntimeMonitor.ofCalls, hlast]
  | some last =>
    obtain ⟨hpos, -⟩ := h.of_snoc.lastHeard_range hlast
    obtain ⟨c, hc, hcall⟩ := exists_call_of_heard (List.mem_of_getLast? hlast)
    have hle : last ≤ nowMs := hcall ▸ h.le_last hc
    obtain ⟨-, hnow⟩ := h.range (.checkTimeout nowMs timeoutMs) (by simp)
    have hnow' : nowMs < 2 ^ 31 := hnow
    have hnonneg : ¬last < 0 := by omega
    simp only [checkTimeout, CanRuntimeMonitor.ofCalls, hlast, Option.getD_some, if_neg hnonneg]
    exact Int.bmod_eq_of_le (by omega) (by omega)

/-- A check changes the state when it finds the age too large. -/
lemma checkTimeout_eq (monitor : CanRuntimeMonitor) (nowMs timeoutMs : ℤ) :
    (checkTimeout monitor nowMs timeoutMs).1 =
      if timeoutMs < (checkTimeout monitor nowMs timeoutMs).2.ageMs then
        { monitor with state := .fault, error := "CAN_TIMEOUT" }
      else monitor :=
  rfl

/-- A line changes the time heard last when it is a frame, and the state when it has the flag. -/
lemma observeStatus_eq (monitor : CanRuntimeMonitor) (nowMs : ℤ) (raw : Text) :
    (observeStatus monitor nowMs raw).1 =
      { state := if MonitorCall.flagged raw then .fault else monitor.state
        lastRxMs := ((MonitorCall.observeStatus nowMs raw).heardAt).getD monitor.lastRxMs
        error := if MonitorCall.flagged raw then "CAN_ACTUATOR_FAULT" else monitor.error } := by
  cases hparse : parseCandumpLine raw with
  | error e => simp [observeStatus, MonitorCall.flagged, MonitorCall.heardAt, hparse]
  | ok frame =>
    cases hfault : statusHasFault frame with
    | error e => simp [observeStatus, MonitorCall.flagged, MonitorCall.heardAt, hparse, hfault]
    | ok fault =>
      cases fault <;>
        simp [observeStatus, MonitorCall.flagged, MonitorCall.heardAt, hparse, hfault]

/-- **The monitor says what happened last.**  After any calls on a clock that does not run
backwards, the monitor is in the state `FAULT` exactly when some call had a cause, its error is the
last of these causes, and its time is that of the last line that was a frame. -/
theorem canMonitor_eq_lastCause {is : List MonitorCall} (h : OnClock is) :
    canMonitor.after .initial is = .ofCalls is := by
  induction is using List.reverseRecOn with
  | nil => rfl
  | append_singleton is c ih =>
    have hafter : canMonitor.after .initial (is ++ [c]) = canMonitor.next (.ofCalls is) c := by
      rw [Mealy.after, List.foldl_concat]
      exact congrArg (fun m => canMonitor.next m c) (ih h.of_snoc)
    rw [hafter]
    cases c with
    | observeStatus nowMs raw =>
      change (observeStatus _ _ _).1 = _
      rw [observeStatus_eq, CanRuntimeMonitor.ofCalls, CanRuntimeMonitor.ofCalls, lastCause_snoc,
        lastHeard_snoc, MonitorCall.cause]
      cases (MonitorCall.observeStatus nowMs raw).heardAt <;>
        cases MonitorCall.flagged raw <;> simp
    | checkTimeout nowMs timeoutMs =>
      change (checkTimeout _ _ _).1 = _
      rw [checkTimeout_eq, h.ageMs_eq, CanRuntimeMonitor.ofCalls, CanRuntimeMonitor.ofCalls,
        lastCause_snoc, lastHeard_snoc, h.cause_checkTimeout, MonitorCall.heardAt, Option.none_or]
      by_cases hage : timeoutMs < nowMs - (lastHeard is).getD 0
      · rw [if_pos hage, if_pos hage]
        rfl
      · rw [if_neg hage, if_neg hage, Option.none_or]

/-- A status frame, a check in time, a check too late and the fault flag. -/
def gapThenFault : List MonitorCall :=
  [.observeStatus 10 "181#E8032C0100000000".toList, .checkTimeout 100 100, .checkTimeout 150 100,
    .observeStatus 160 "182#18FC38FF01070000".toList]

/-- The first check finds nothing, the second one a gap, and the flag is the last cause. -/
theorem canMonitor_eq_lastCause_gapThenFault :
    canMonitor.after .initial (gapThenFault.take 2) = ⟨.standby, 10, "NONE"⟩ ∧
      canMonitor.after .initial (gapThenFault.take 3) = ⟨.fault, 10, "CAN_TIMEOUT"⟩ ∧
      canMonitor.after .initial gapThenFault = ⟨.fault, 160, "CAN_ACTUATOR_FAULT"⟩ := by
  have hclock : ∀ n, OnClock (gapThenFault.take n) := by
    intro n
    have hwhole : (gapThenFault.map MonitorCall.time).Pairwise (· ≤ ·) := by decide
    refine ⟨?_, fun c hc => ?_⟩
    · rw [List.map_take]
      exact hwhole.sublist (List.take_sublist _ _)
    · have hrange : ∀ c ∈ gapThenFault, 0 ≤ c.time ∧ c.time < 2 ^ 31 := by decide
      exact hrange c (List.mem_of_mem_take hc)
  refine ⟨?_, ?_, ?_⟩
  · rw [canMonitor_eq_lastCause (hclock 2)]
    decide +kernel
  · rw [canMonitor_eq_lastCause (hclock 3)]
    decide +kernel
  · rw [← List.take_length (l := gapThenFault), canMonitor_eq_lastCause (hclock _)]
    decide +kernel

end SystemsDemos
