import SystemsDemos.SocketCan.CanFrame
import Mathlib.Data.Rat.Floor

/-!
# Two receivers of status frames

`decodeStatus` of the actuator status receiver and `observeStatus` of the runtime fault bridge
read the same lines; `makeCommandFrame` of the periodic sender puts its command frames on the same
bus.  The receiver checks the id and the length of a frame, the bridge does not: it takes every
line that parses for a status frame (`observeStatus_agrees_iff`).  Positions and velocities are
exact rationals.

### Outline

* `decodeStatus`, `makeCommandFrame`, `observeStatus`;
* `CanFrame.IsStatus`, the frames that the receiver takes;
* `Agrees`, what it means that the two receivers agree on a line, and when they do.
-/

namespace SystemsDemos

/-! ### The receiver -/

/-- `ActuatorStatus`. -/
structure ActuatorStatus where
  nodeId : ℤ
  positionRad : ℚ
  velocityRadS : ℚ
  fault : Bool
  faultCode : ℤ
  deriving DecidableEq

/-- The lowest bit of a byte is set. -/
def faultBit (byte : UInt8) : Bool := (byte &&& 0x01) != 0

/-- `decodeStatus`. -/
def decodeStatus (frame : CanFrame) : Except CanError ActuatorStatus :=
  if frame.id < 0x180 ∨ frame.id > 0x18F then
    .error (.runtimeError "expected actuator status frame id 0x180..0x18F")
  else if frame.data.length ≠ 8 then
    .error (.runtimeError "actuator status payload must be 8 bytes")
  else do
    let position ← readInt16Le frame.data 0
    let velocity ← readInt16Le frame.data 2
    let flags ← byteAt frame.data 4
    let code ← byteAt frame.data 5
    return {
      nodeId := (frame.id - 0x180).toNat
      positionRad := position / 1000
      velocityRadS := velocity / 1000
      fault := faultBit flags
      faultCode := code.toNat }

/-! ### The sender -/

/-- `std::lround`: the nearest integer, halves away from zero. -/
def lround (x : ℚ) : ℤ := if 0 ≤ x then ⌊x + 1 / 2⌋ else -⌊-x + 1 / 2⌋

/-- The value an `int16_t` holds after a conversion. -/
def int16 (n : ℤ) : ℤ := n.bmod (2 ^ 16)

/-- `makeCommandFrame`. -/
def makeCommandFrame (nodeId : Int32) (positionRad velocityRadS : ℚ) :
    Except CanError CanFrame := do
  let data := List.replicate 8 0
  let data ← writeInt16Le data 0 (int16 (lround (positionRad * 1000)))
  let data ← writeInt16Le data 2 (int16 (lround (velocityRadS * 1000)))
  let data ← setByteAt data 4 0x01
  let data ← setByteAt data 5 0x00
  return ⟨(0x200 + nodeId).toUInt32, data⟩

/-! ### The bridge -/

/-- The runtime states that the bridge knows. -/
inductive BridgeState
  | standby
  | fault
  deriving DecidableEq

/-- `CanRuntimeMonitor`. -/
structure CanRuntimeMonitor where
  state : BridgeState
  lastRxMs : ℤ
  error : String
  deriving DecidableEq

/-- A fresh monitor. -/
def CanRuntimeMonitor.initial : CanRuntimeMonitor := ⟨.standby, -1, "NONE"⟩

/-- `statusHasFault`. -/
def statusHasFault (frame : CanFrame) : Except CanError Bool :=
  if frame.data.length < 5 then .error (.runtimeError "status frame is too short")
  else do
    let flags ← byteAt frame.data 4
    return faultBit flags

/-- `observeStatus`: the monitor afterwards, also when the call throws. -/
def observeStatus (monitor : CanRuntimeMonitor) (nowMs : ℤ) (raw : Text) :
    CanRuntimeMonitor × Except CanError Unit :=
  match parseCandumpLine raw with
  | .error e => (monitor, .error e)
  | .ok frame =>
      let monitor := { monitor with lastRxMs := nowMs }
      match statusHasFault frame with
      | .error e => (monitor, .error e)
      | .ok true => ({ monitor with state := .fault, error := "CAN_ACTUATOR_FAULT" }, .ok ())
      | .ok false => (monitor, .ok ())

/-! ### The frames that the receiver takes -/

/-- An actuator status frame: its id lies in the status range and it has eight bytes. -/
def CanFrame.IsStatus (frame : CanFrame) : Prop :=
  (0x180 ≤ frame.id ∧ frame.id ≤ 0x18F) ∧ frame.data.length = 8

/-- The receiver takes every status frame. -/
lemma decodeStatus_of_isStatus {frame : CanFrame} (h : frame.IsStatus) :
    ∃ status, decodeStatus frame = .ok status := by
  obtain ⟨⟨hlow, hhigh⟩, hlen⟩ := h
  have hrange : ¬(frame.id < 0x180 ∨ frame.id > 0x18F) := by
    rintro (hlt | hgt)
    · exact absurd hlow (UInt32.not_le.mpr hlt)
    · exact absurd hhigh (UInt32.not_le.mpr hgt)
  match hdata : frame.data, hlen with
  | [b0, b1, b2, b3, b4, b5, b6, b7], _ =>
    unfold decodeStatus
    rw [if_neg hrange, hdata, if_neg (by simp)]
    exact ⟨_, rfl⟩

/-- The receiver takes nothing else, and reports the lowest bit of the fifth byte. -/
lemma isStatus_of_decodeStatus {frame : CanFrame} {status : ActuatorStatus}
    (h : decodeStatus frame = .ok status) :
    frame.IsStatus ∧ ∃ flags, byteAt frame.data 4 = .ok flags ∧ status.fault = faultBit flags := by
  unfold decodeStatus at h
  split at h
  · cases h
  · next hrange =>
    split at h
    · cases h
    · next hlen =>
      obtain ⟨position, -, h⟩ := bind_eq_ok_iff.mp h
      obtain ⟨velocity, -, h⟩ := bind_eq_ok_iff.mp h
      obtain ⟨flags, hflags, h⟩ := bind_eq_ok_iff.mp h
      obtain ⟨code, -, h⟩ := bind_eq_ok_iff.mp h
      obtain rfl := Except.ok.inj h
      have hlow : 0x180 ≤ frame.id := UInt32.not_lt.mp fun hlt => hrange (Or.inl hlt)
      have hhigh : frame.id ≤ 0x18F := UInt32.not_lt.mp fun hgt => hrange (Or.inr hgt)
      exact ⟨⟨⟨hlow, hhigh⟩, not_not.mp hlen⟩, flags, hflags, rfl⟩

/-! ### What the bridge does with a line -/

/-- A line that does not parse leaves the monitor alone. -/
lemma observeStatus_of_error {raw : Text} {e : CanError} (h : parseCandumpLine raw = .error e)
    (monitor : CanRuntimeMonitor) (nowMs : ℤ) : (observeStatus monitor nowMs raw).1 = monitor := by
  simp [observeStatus, h]

/-- A line that parses is taken for a sign of life, whatever frame it holds. -/
lemma lastRxMs_observeStatus {raw : Text} {frame : CanFrame} (h : parseCandumpLine raw = .ok frame)
    (monitor : CanRuntimeMonitor) (nowMs : ℤ) :
    (observeStatus monitor nowMs raw).1.lastRxMs = nowMs := by
  unfold observeStatus
  rw [h]
  dsimp only
  split <;> rfl

/-- What the monitor records of a frame whose fifth byte exists. -/
lemma observeStatus_of_ok {raw : Text} {frame : CanFrame} {flags : UInt8}
    (h : parseCandumpLine raw = .ok frame) (hflags : byteAt frame.data 4 = .ok flags)
    (monitor : CanRuntimeMonitor) (nowMs : ℤ) :
    (observeStatus monitor nowMs raw).1 =
      { state := if faultBit flags then .fault else monitor.state
        lastRxMs := nowMs
        error := if faultBit flags then "CAN_ACTUATOR_FAULT" else monitor.error } := by
  have hlen : ¬frame.data.length < 5 := by
    intro hshort
    have hnone : frame.data[4]? = none := List.getElem?_eq_none (by omega)
    simp [byteAt, hnone] at hflags
  have hfault : statusHasFault frame = .ok (faultBit flags) := by
    rw [statusHasFault, if_neg hlen, hflags]
    rfl
  unfold observeStatus
  rw [h]
  dsimp only
  rw [hfault]
  cases faultBit flags <;> rfl

/-! ### When the two receivers agree -/

/-- The bridge takes the line for a status frame only if the receiver does, and then it records
the fault that the receiver reports and nothing else. -/
def AgreesOn (monitor : CanRuntimeMonitor) (nowMs : ℤ) (raw : Text) : Prop :=
  let after := (observeStatus monitor nowMs raw).1
  (after ≠ monitor →
    ∃ frame status, parseCandumpLine raw = .ok frame ∧ decodeStatus frame = .ok status) ∧
  ∀ frame status, parseCandumpLine raw = .ok frame → decodeStatus frame = .ok status →
    after.lastRxMs = nowMs ∧
    (status.fault = true → after.state = .fault ∧ after.error = "CAN_ACTUATOR_FAULT") ∧
    (status.fault = false → after.state = monitor.state ∧ after.error = monitor.error)

/-- A line that the command sender produces. -/
def IsCommandLine (raw : Text) : Prop :=
  ∃ nodeId positionRad velocityRadS frame,
    makeCommandFrame nodeId positionRad velocityRadS = .ok frame ∧ raw = formatCandumpLine frame

/-- The two receivers agree on a line, whatever the state of the monitor, and a command frame
leaves the monitor alone. -/
def Agrees (raw : Text) : Prop :=
  (∀ monitor nowMs, AgreesOn monitor nowMs raw) ∧
    (IsCommandLine raw → ∀ monitor nowMs, (observeStatus monitor nowMs raw).1 = monitor)

/-- **The two receivers agree on a line exactly when it does not parse, or holds a status frame and
does not come from the command sender.**  The bridge checks neither the id nor the length of the
frame before it refreshes the time of the last status. -/
theorem observeStatus_agrees_iff (raw : Text) :
    Agrees raw ↔
      ∀ frame, parseCandumpLine raw = .ok frame → frame.IsStatus ∧ ¬IsCommandLine raw := by
  constructor
  · rintro ⟨hagree, hcommand⟩ frame hparse
    have hchanged : (observeStatus .initial 0 raw).1 ≠ .initial := by
      intro hsame
      have hrx := lastRxMs_observeStatus hparse .initial 0
      rw [hsame] at hrx
      cases hrx
    obtain ⟨frame', status, hparse', hdecode⟩ := (hagree .initial 0).1 hchanged
    obtain rfl : frame = frame' := Except.ok.inj (hparse.symm.trans hparse')
    exact ⟨(isStatus_of_decodeStatus hdecode).1, fun h => hchanged (hcommand h .initial 0)⟩
  · intro hstatus
    cases hparse : parseCandumpLine raw with
    | error e =>
      have hkeep := observeStatus_of_error hparse
      refine ⟨fun monitor nowMs => ⟨fun h => absurd (hkeep monitor nowMs) h, ?_⟩,
        fun _ monitor nowMs => hkeep monitor nowMs⟩
      intro frame status hok
      rw [hparse] at hok
      cases hok
    | ok frame =>
      obtain ⟨hframe, hnocommand⟩ := hstatus frame hparse
      refine ⟨fun monitor nowMs => ⟨fun _ => ?_, ?_⟩, fun h => absurd h hnocommand⟩
      · obtain ⟨status, hdecode⟩ := decodeStatus_of_isStatus hframe
        exact ⟨frame, status, hparse, hdecode⟩
      · intro frame' status hparse' hdecode
        obtain rfl : frame = frame' := Except.ok.inj (hparse.symm.trans hparse')
        obtain ⟨-, flags, hflags, hfault⟩ := isStatus_of_decodeStatus hdecode
        have hafter := observeStatus_of_ok hparse hflags monitor nowMs
        rw [hafter, hfault]
        refine ⟨rfl, ?_, ?_⟩ <;> intro hbit <;> simp [hbit]

/-- The command frame that the sender builds for node 1 at rest raises an actuator fault. -/
theorem command_frame_observed_as_fault : ¬∀ raw : Text, Agrees raw := by
  intro h
  have hframe : makeCommandFrame 1 0 0 = .ok ⟨0x201, [0, 0, 0, 0, 1, 0, 0, 0]⟩ := by decide +kernel
  have hcommand : IsCommandLine "201#0000000001000000".toList :=
    ⟨1, 0, 0, _, hframe, by decide +kernel⟩
  have hkept := (h _).2 hcommand .initial 0
  have hafter : (observeStatus .initial 0 "201#0000000001000000".toList).1 =
      ⟨.fault, 0, "CAN_ACTUATOR_FAULT"⟩ := by decide +kernel
  rw [hafter] at hkept
  cases hkept

end SystemsDemos
