import SystemsDemos.SocketCan.Bridge
import SystemsDemos.Transition.Mealy

/-!
# Rejected lines and the timeout of the bridge

`checkTimeout` of the runtime fault bridge, and runs of the monitor over lines and checks.  A line
for which `observeStatus` throws is meant to have no effect.  The parser is called before anything
is stored, but the length of the payload is checked after the time of reception has been stored:
a line that parses to a short frame counts as a sign of life.  Rejected lines are harmless exactly
when no such line brings a new time (`rejected_harmless_iff`).

### Outline

* `checkTimeout`, the calls of the monitor and `canMonitor`;
* `Rejected`, `KeepsOnThrow` and `RejectionsHarmless`;
* when a call that throws keeps the monitor, and `rejected_harmless_iff`.
-/

namespace SystemsDemos

/-! ### The watchdog -/

/-- What `checkTimeout` reports. -/
structure TimeoutReport where
  nowMs : ℤ
  ageMs : ℤ
  timeoutMs : ℤ
  state : BridgeState
  error : String
  deriving DecidableEq

/-- `checkTimeout`: the monitor afterwards and the report; the age is an `int`. -/
def checkTimeout (monitor : CanRuntimeMonitor) (nowMs timeoutMs : ℤ) :
    CanRuntimeMonitor × TimeoutReport :=
  let ageMs := if monitor.lastRxMs < 0 then nowMs else (nowMs - monitor.lastRxMs).bmod (2 ^ 32)
  let monitor :=
    if ageMs > timeoutMs then { monitor with state := .fault, error := "CAN_TIMEOUT" } else monitor
  (monitor, ⟨nowMs, ageMs, timeoutMs, monitor.state, monitor.error⟩)

/-- A call on the monitor. -/
inductive MonitorCall
  | observeStatus (nowMs : ℤ) (raw : Text)
  | checkTimeout (nowMs timeoutMs : ℤ)
  deriving DecidableEq

/-- The outcome of a call. -/
inductive MonitorAnswer
  | observed (result : Except CanError Unit)
  | checked (report : TimeoutReport)

/-- The monitor as an object that answers calls. -/
def canMonitor : Mealy CanRuntimeMonitor MonitorCall MonitorAnswer where
  step monitor
    | .observeStatus nowMs raw =>
        ((observeStatus monitor nowMs raw).1, .observed (observeStatus monitor nowMs raw).2)
    | .checkTimeout nowMs timeoutMs =>
        ((checkTimeout monitor nowMs timeoutMs).1,
          .checked (checkTimeout monitor nowMs timeoutMs).2)

/-- The report of a check. -/
def MonitorAnswer.report (_ : MonitorCall) : MonitorAnswer → Option TimeoutReport
  | .observed _ => none
  | .checked report => some report

/-! ### What is meant -/

/-- `observeStatus` throws for the line of the call. -/
def Rejected : MonitorCall → Prop
  | .observeStatus nowMs raw => ∀ monitor, ∃ e, (observeStatus monitor nowMs raw).2 = .error e
  | .checkTimeout _ _ => False

/-- If the call throws, it leaves the monitor as it was. -/
def KeepsOnThrow (monitor : CanRuntimeMonitor) (c : MonitorCall) : Prop :=
  ∀ e, canMonitor.answer monitor c = .observed (.error e) → canMonitor.next monitor c = monitor

/-- In a run `js` that comes from the run `is` by insertion of rejected lines, every call that
throws leaves the monitor as it was, and all checks report what they report in `is`. -/
def RejectionsHarmless (monitor : CanRuntimeMonitor) (is js : List MonitorCall) : Prop :=
  canMonitor.Along KeepsOnThrow monitor js ∧
    canMonitor.observed MonitorAnswer.report monitor is =
      canMonitor.observed MonitorAnswer.report monitor js

/-- If the line of the call parses to a frame that is too short for a status, it brings the time
that the monitor has already. -/
def ShortFrameAtLastRx (monitor : CanRuntimeMonitor) : MonitorCall → Prop
  | .observeStatus nowMs raw =>
      ∀ frame, parseCandumpLine raw = .ok frame → frame.data.length < 5 →
        nowMs = monitor.lastRxMs
  | .checkTimeout _ _ => True

/-! ### A call that throws -/

/-- A frame with five bytes has a fault flag. -/
lemma statusHasFault_of_le {frame : CanFrame} (h : 5 ≤ frame.data.length) :
    ∃ fault, statusHasFault frame = .ok fault := by
  have hflags : byteAt frame.data 4 = .ok (frame.data.get ⟨4, h⟩) := by
    rw [byteAt, List.getElem?_eq_getElem h]
    rfl
  refine ⟨faultBit (frame.data.get ⟨4, h⟩), ?_⟩
  rw [statusHasFault, if_neg (by omega), hflags]
  rfl

/-- A short frame is rejected after its time has been stored. -/
lemma observeStatus_of_short {raw : Text} {frame : CanFrame} (h : parseCandumpLine raw = .ok frame)
    (hshort : frame.data.length < 5) (monitor : CanRuntimeMonitor) (nowMs : ℤ) :
    observeStatus monitor nowMs raw =
      ({ monitor with lastRxMs := nowMs },
        .error (.runtimeError "status frame is too short")) := by
  have hthrow : statusHasFault frame = .error (.runtimeError "status frame is too short") :=
    if_pos hshort
  unfold observeStatus
  rw [h]
  dsimp only
  rw [hthrow]

/-- A frame that is long enough is not rejected. -/
lemma observeStatus_of_long {raw : Text} {frame : CanFrame} (h : parseCandumpLine raw = .ok frame)
    (hlong : 5 ≤ frame.data.length) (monitor : CanRuntimeMonitor) (nowMs : ℤ) :
    (observeStatus monitor nowMs raw).2 = .ok () := by
  obtain ⟨fault, hfault⟩ := statusHasFault_of_le hlong
  unfold observeStatus
  rw [h]
  dsimp only
  rw [hfault]
  cases fault <;> rfl

/-- **A call that throws keeps the monitor exactly when it does not bring the time of a short
frame.** -/
theorem keepsOnThrow_iff (monitor : CanRuntimeMonitor) (c : MonitorCall) :
    KeepsOnThrow monitor c ↔ ShortFrameAtLastRx monitor c := by
  cases c with
  | checkTimeout nowMs timeoutMs => exact ⟨fun _ => trivial, fun _ e h => by cases h⟩
  | observeStatus nowMs raw =>
    constructor
    · intro hkeeps frame hparse hshort
      have hstep := observeStatus_of_short hparse hshort monitor nowMs
      have hthrow : canMonitor.answer monitor (.observeStatus nowMs raw) =
          .observed (.error (.runtimeError "status frame is too short")) :=
        congrArg MonitorAnswer.observed (congrArg Prod.snd hstep)
      have hkept : (observeStatus monitor nowMs raw).1 = monitor := hkeeps _ hthrow
      rw [hstep] at hkept
      exact congrArg CanRuntimeMonitor.lastRxMs hkept
    · intro htime e hthrow
      change (observeStatus monitor nowMs raw).1 = monitor
      cases hparse : parseCandumpLine raw with
      | error e' => exact observeStatus_of_error hparse monitor nowMs
      | ok frame =>
        rcases Nat.lt_or_ge frame.data.length 5 with hshort | hlong
        · rw [observeStatus_of_short hparse hshort monitor nowMs, htime frame hparse hshort]
        · have hok := observeStatus_of_long hparse hlong monitor nowMs
          have hanswer : MonitorAnswer.observed (observeStatus monitor nowMs raw).2 =
              .observed (.error e) := hthrow
          rw [hok] at hanswer
          cases hanswer

/-! ### Runs -/

/-- A rejected line is answered with an error, so it reports nothing. -/
lemma report_of_rejected (monitor : CanRuntimeMonitor) {c : MonitorCall} (h : Rejected c) :
    MonitorAnswer.report c (canMonitor.answer monitor c) = none ∧
      ∃ e, canMonitor.answer monitor c = .observed (.error e) := by
  cases c with
  | checkTimeout nowMs timeoutMs => exact absurd h id
  | observeStatus nowMs raw =>
    obtain ⟨e, he⟩ := h monitor
    exact ⟨rfl, e, congrArg MonitorAnswer.observed he⟩

/-- **Rejected lines are harmless exactly when no short frame brings a new time.**  Of all the lines
that `observeStatus` throws for, only those that parse to a frame of fewer than five bytes change
the monitor, unless their time is the one it has. -/
theorem rejected_harmless_iff (monitor : CanRuntimeMonitor) {is js : List MonitorCall}
    (h : Mealy.Inserted Rejected is js) :
    RejectionsHarmless monitor is js ↔ canMonitor.Along ShortFrameAtLastRx monitor js := by
  rw [← Mealy.along_congr keepsOnThrow_iff]
  refine ⟨fun hharmless => hharmless.1, fun hkeeps => ⟨hkeeps, ?_⟩⟩
  refine h.observed_eq (fun s c hc => (report_of_rejected s hc).1) ?_
  refine Mealy.Along.imp (fun s c hthrow hc => ?_) hkeeps
  obtain ⟨e, he⟩ := (report_of_rejected s hc).2
  exact hthrow e he

/-- A line without `#` between a status and a check. -/
theorem rejected_harmless_iff_malformed :
    RejectionsHarmless .initial [.checkTimeout 150 100]
        [.observeStatus 120 "hello".toList, .checkTimeout 150 100] ↔
      canMonitor.Along ShortFrameAtLastRx .initial
        [.observeStatus 120 "hello".toList, .checkTimeout 150 100] := by
  have hrejected : Rejected (.observeStatus 120 "hello".toList) := fun monitor => ⟨_, rfl⟩
  exact rejected_harmless_iff .initial (.insert hrejected (.keep _ .nil))

/-- A status frame without payload keeps the timeout away. -/
theorem short_frame_hides_timeout :
    ¬∀ (monitor : CanRuntimeMonitor) (is js : List MonitorCall),
      Mealy.Inserted Rejected is js → RejectionsHarmless monitor is js := by
  intro h
  have hshort : parseCandumpLine "181#".toList = .ok ⟨0x181, []⟩ := rfl
  have hrejected : Rejected (.observeStatus 120 "181#".toList) := fun monitor =>
    ⟨_, congrArg Prod.snd (observeStatus_of_short hshort (by decide) monitor 120)⟩
  have hreports := (h .initial [.checkTimeout 150 100]
    [.observeStatus 120 "181#".toList, .checkTimeout 150 100]
    (.insert hrejected (.keep _ .nil))).2
  exact absurd hreports (by decide +kernel)

end SystemsDemos
