import SystemsDemos.StateMachine.Basic
import SystemsDemos.PickAndPlace.Arm

/-!
# The robot arm on the generic state machine

`RobotArm` of the state machine demo: its constructor fills the three tables of a `StateMachine`,
and `send` drives it and prints what happens.  The arm is the pick-and-place arm
(`machineArm_outputs`): its tables accept exactly the events that `transition` of the observer demo
accepts, and what is printed depends on the change alone.

### Outline

* `ArmState` and `ArmEvent` as enumerations, `MachineArm` with `new` and `send`;
* `changeLog`, what a change prints, and the arm without tables;
* `machineArm_outputs`.
-/

namespace SystemsDemos

/-- The states, numbered in the order of their declaration. -/
instance : EnumClass ArmState where
  value
    | .idle => 0
    | .moving => 1
    | .grasping => 2
    | .holding => 3
    | .returning => 4
  value_lt s := by cases s <;> decide
  value_injective s s' h := by cases s <;> cases s' <;> first | rfl | exact absurd h (by decide)

/-- The events, numbered in the order of their declaration. -/
instance : EnumClass ArmEvent where
  value
    | .start => 0
    | .arrived => 1
    | .grasped => 2
    | .release => 3
    | .home => 4
    | .error => 5
  value_lt ev := by cases ev <;> decide
  value_injective ev ev' h := by
    cases ev <;> cases ev' <;> first | rfl | exact absurd h (by decide)

/-- `to_string`. -/
def armStateName : ArmState → String
  | .idle => "IDLE"
  | .moving => "MOVING"
  | .grasping => "GRASPING"
  | .holding => "HOLDING"
  | .returning => "RETURNING"

/-! ### The arm -/

/-- `RobotArm`; a callback is the message that it logs. -/
structure MachineArm where
  sm : StateMachine ArmState String

namespace MachineArm

/-- The message that is logged when a state is entered. -/
def onEnterMessage : ArmState → String
  | .idle => "waiting for command"
  | .moving => "moving to target position..."
  | .grasping => "closing gripper..."
  | .holding => "object secured"
  | .returning => "returning to home position..."

/-- The constructor. -/
def new : MachineArm :=
  let sm : StateMachine ArmState String := .new .idle
  let sm := sm.onEnter .idle (some (onEnterMessage .idle))
  let sm := sm.onEnter .moving (some (onEnterMessage .moving))
  let sm := sm.onEnter .grasping (some (onEnterMessage .grasping))
  let sm := sm.onEnter .holding (some (onEnterMessage .holding))
  let sm := sm.onEnter .returning (some (onEnterMessage .returning))
  let sm := sm.onExit .moving (some "(motion stopped)")
  let sm := sm.onExit .returning (some "(motion stopped)")
  let sm := sm.add .idle ArmEvent.start .moving none
  let sm := sm.add .moving ArmEvent.arrived .grasping none
  let sm := sm.add .grasping ArmEvent.grasped .holding none
  let sm := sm.add .holding ArmEvent.release .returning none
  let sm := sm.add .returning ArmEvent.home .idle none
  ⟨[ArmState.moving, .grasping, .holding, .returning].foldl
    (fun sm s => sm.add s ArmEvent.error .idle (some "!!! EMERGENCY STOP !!!")) sm⟩

/-- `log`. -/
def log (msg : String) : String := "  [arm] " ++ msg ++ "\n"

/-- `send`: the arm afterwards, the result, and what is printed. -/
def send (arm : MachineArm) (ev : ArmEvent) (label : String) :
    MachineArm × Bool × List String :=
  let announced := if label = "" then [] else ["\nevent: " ++ label ++ "\n"]
  let (sm, fired, messages) := arm.sm.process ev
  let ignored :=
    if fired then []
    else ["  [ignored] no transition from " ++ armStateName sm.current ++ " for this event\n"]
  (⟨sm⟩, fired, announced ++ messages.map log ++ ignored)

/-- The arm as an object: an event with its label is answered by the result, the output and the
state. -/
def object : Mealy MachineArm (ArmEvent × String) (Bool × List String × ArmState) where
  step arm input :=
    let (after, fired, output) := arm.send input.1 input.2
    (after, fired, output, after.sm.current)

end MachineArm

/-! ### The arm without tables -/

/-- The messages of a change: the motion stops, the emergency, the new state. -/
def changeLog (change : StateChange) : List String :=
  (if change.source = .moving ∨ change.source = .returning then ["(motion stopped)"] else []) ++
    (if change.trigger = .error then ["!!! EMERGENCY STOP !!!"] else []) ++
    [MachineArm.onEnterMessage change.target]

/-- The pick-and-place arm with the output of the demo. -/
def printingArm : Mealy ArmState (ArmEvent × String) (Bool × List String × ArmState) where
  step s input :=
    let announced := if input.2 = "" then [] else ["\nevent: " ++ input.2 ++ "\n"]
    match RobotArm.transition s input.1 with
    | none =>
        (s, false,
          announced ++ ["  [ignored] no transition from " ++ armStateName s ++ " for this event\n"],
          s)
    | some next =>
        (next, true, announced ++ (changeLog ⟨s, next, input.1⟩).map MachineArm.log, next)

namespace MachineArm

/-- The arm with the tables of the constructor, in some state. -/
def inState (s : ArmState) : StateMachine ArmState String := { new.sm with current := s }

/-- The tables of the constructor hold the transitions and the messages of the changes. -/
lemma process_inState (s : ArmState) (ev : ArmEvent) :
    (inState s).process ev =
      match RobotArm.transition s ev with
      | none => (inState s, false, [])
      | some next => (inState next, true, changeLog ⟨s, next, ev⟩) := by
  cases s <;> cases ev <;> rfl

/-- An arm in some state is sent an event. -/
lemma send_inState (s : ArmState) (ev : ArmEvent) (label : String) :
    (⟨inState s⟩ : MachineArm).send ev label =
      match RobotArm.transition s ev with
      | none =>
          (⟨inState s⟩, false, (printingArm.answer s (ev, label)).2.1)
      | some next => (⟨inState next⟩, true, (printingArm.answer s (ev, label)).2.1) := by
  unfold send
  rw [process_inState]
  unfold Mealy.answer printingArm
  dsimp only
  cases RobotArm.transition s ev with
  | none => simp [inState]
  | some next => simp

end MachineArm

/-- **The arm on the state machine is the pick-and-place arm.**  Whatever is sent to it, the
results, the output and the states are those of `transition` and `changeLog`. -/
theorem machineArm_outputs (inputs : List (ArmEvent × String)) :
    MachineArm.object.outputs .new inputs = printingArm.outputs .idle inputs := by
  have hsimulation : Mealy.Simulation MachineArm.object printingArm
      fun arm s => arm = ⟨MachineArm.inState s⟩ := by
    constructor
    · rintro _ s ⟨ev, label⟩ rfl
      unfold Mealy.next MachineArm.object
      dsimp only
      rw [MachineArm.send_inState]
      unfold printingArm
      dsimp only
      cases RobotArm.transition s ev <;> rfl
    · rintro _ s ⟨ev, label⟩ rfl
      unfold Mealy.answer MachineArm.object
      dsimp only
      rw [MachineArm.send_inState]
      unfold Mealy.answer printingArm
      dsimp only
      cases RobotArm.transition s ev <;> rfl
  exact hsimulation.outputs_eq rfl inputs

end SystemsDemos
