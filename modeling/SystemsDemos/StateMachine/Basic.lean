import SystemsDemos.Transition.Mealy
import Mathlib.Algebra.Group.Nat.Defs
import Mathlib.Data.List.AList

/-!
# The generic state machine

`StateMachine<State, Event>` of `state_machine.hpp`: a table of transitions under one integer key
for each pair of a state and an event, and two tables of callbacks under the key of a state.  A
callback is a value of `β`, and calling it appends it to the log; an `Action` may be empty.

### Outline

* `EnumClass`, the types that states and events are taken from;
* `StateMachine` with its tables, `trKey`, `stateKey` and its operations;
* `MachineCall` and the machine `StateMachine.object` that answers calls.
-/

namespace SystemsDemos

/-- An enumeration whose values fit 16 bits.  A value of the type is its integer, so no two have
the same one. -/
class EnumClass (α : Type) where
  /-- `static_cast<std::size_t>`. -/
  value : α → UInt64
  value_lt : ∀ a, (value a).toNat < 2 ^ 16
  value_injective : Function.Injective value

/-- `std::function<void()>`, which may be empty. -/
abbrev StateMachine.Action (β : Type) := Option β

/-- `Transition`: where it leads, and its own action. -/
structure StateMachine.Transition (State β : Type) where
  target : State
  action : StateMachine.Action β
  deriving DecidableEq

/-- The current state and the three tables. -/
structure StateMachine (State β : Type) where
  current : State
  transitions : AList fun _ : UInt64 => StateMachine.Transition State β
  enter : AList fun _ : UInt64 => StateMachine.Action β
  exit : AList fun _ : UInt64 => StateMachine.Action β

namespace StateMachine

variable {State Event β : Type} [EnumClass State] [EnumClass Event]

/-- The constructor. -/
def new (initial : State) : StateMachine State β := ⟨initial, ∅, ∅, ∅⟩

/-- `tr_key`. -/
def trKey (source : State) (ev : Event) : UInt64 :=
  (EnumClass.value source <<< 16) ||| EnumClass.value ev

/-- `state_key`. -/
def stateKey (s : State) : UInt64 := EnumClass.value s

/-- `on_enter`. -/
def onEnter (m : StateMachine State β) (s : State) (a : Action β) : StateMachine State β :=
  { m with enter := m.enter.insert (stateKey s) a }

/-- `on_exit`. -/
def onExit (m : StateMachine State β) (s : State) (a : Action β) : StateMachine State β :=
  { m with exit := m.exit.insert (stateKey s) a }

/-- `add`. -/
def add (m : StateMachine State β) (source : State) (ev : Event) (target : State)
    (action : Action β) : StateMachine State β :=
  { m with transitions := m.transitions.insert (trKey source ev) ⟨target, action⟩ }

/-- `call`: the callback under the key, if there is one and it is not empty. -/
def call (table : AList fun _ : UInt64 => Action β) (key : UInt64) : List β :=
  match table.lookup key with
  | none => []
  | some action => action.toList

/-- `process`: the machine afterwards, the result, and the callbacks called. -/
def process (m : StateMachine State β) (ev : Event) : StateMachine State β × Bool × List β :=
  match m.transitions.lookup (trKey m.current ev) with
  | none => (m, false, [])
  | some tr =>
      let left := call m.exit (stateKey m.current)
      let acted := tr.action.toList
      let m := { m with current := tr.target }
      let entered := call m.enter (stateKey m.current)
      (m, true, left ++ acted ++ entered)

end StateMachine

/-! ### Sequences of calls -/

/-- A call of a member function. -/
inductive MachineCall (State Event β : Type)
  | onEnter (s : State) (a : StateMachine.Action β)
  | onExit (s : State) (a : StateMachine.Action β)
  | add (source : State) (ev : Event) (target : State) (action : StateMachine.Action β)
  | process (ev : Event)
  deriving DecidableEq

/-- What a caller sees of a call: its result, the callbacks that ran, and `current()`
afterwards. -/
structure MachineAnswer (State β : Type) where
  returned : Option Bool
  log : List β
  current : State
  deriving DecidableEq

/-- The state machine as an object that answers calls. -/
def StateMachine.object (State Event β : Type) [EnumClass State] [EnumClass Event] :
    Mealy (StateMachine State β) (MachineCall State Event β) (MachineAnswer State β) where
  step m
    | .onEnter s a => (m.onEnter s a, ⟨none, [], m.current⟩)
    | .onExit s a => (m.onExit s a, ⟨none, [], m.current⟩)
    | .add source ev target action => (m.add source ev target action, ⟨none, [], m.current⟩)
    | .process ev =>
        let (after, fired, log) := m.process ev
        (after, ⟨some fired, log, after.current⟩)

end SystemsDemos
