import SystemsDemos.StateMachine.Basic
import SystemsDemos.Keyed.Table

/-!
# The state machine and its reference

The purpose of the class, without keys: a finite map from pairs of a state and an event to
transitions, in which the last entry for a pair counts, and two finite maps from states to
callbacks.  The two halves of a key do not overlap as long as all values fit 16 bits
(`trKey_injective`), so the tables stand for the maps and the two machines give the same answers
to every sequence of calls (`stateMachine_refines_reference`).

### Outline

* `ReferenceMachine`;
* the keys of different pairs are different;
* `Represents` and the simulation.
-/

namespace SystemsDemos

/-! ### The reference machine -/

/-- The machine without keys. -/
structure ReferenceMachine (State Event β : Type) where
  current : State
  rules : Finmap fun _ : State × Event => StateMachine.Transition State β
  enter : Finmap fun _ : State => StateMachine.Action β
  exit : Finmap fun _ : State => StateMachine.Action β

namespace ReferenceMachine

variable {State Event β : Type} [DecidableEq State] [DecidableEq Event]

/-- Nothing is registered yet. -/
def new (initial : State) : ReferenceMachine State Event β := ⟨initial, ∅, ∅, ∅⟩

/-- The callback registered for a state. -/
def run (callbacks : Finmap fun _ : State => StateMachine.Action β) (s : State) : List β :=
  match callbacks.lookup s with
  | none => []
  | some action => action.toList

/-- An event: without a rule nothing happens; with one, the old state is left, the rule acts, and
the new state is entered. -/
def fire (m : ReferenceMachine State Event β) (ev : Event) :
    ReferenceMachine State Event β × Bool × List β :=
  match m.rules.lookup (m.current, ev) with
  | none => (m, false, [])
  | some tr =>
      ({ m with current := tr.target }, true,
        run m.exit m.current ++ tr.action.toList ++ run m.enter tr.target)

variable (State Event β) in
/-- The reference machine as an object that answers the same calls. -/
def object : Mealy (ReferenceMachine State Event β) (MachineCall State Event β)
    (MachineAnswer State β) where
  step m
    | .onEnter s a => ({ m with enter := m.enter.insert s a }, ⟨none, [], m.current⟩)
    | .onExit s a => ({ m with exit := m.exit.insert s a }, ⟨none, [], m.current⟩)
    | .add source ev target action =>
        ({ m with rules := m.rules.insert (source, ev) ⟨target, action⟩ }, ⟨none, [], m.current⟩)
    | .process ev =>
        let (after, fired, log) := m.fire ev
        (after, ⟨some fired, log, after.current⟩)

end ReferenceMachine

namespace StateMachine

variable {State Event β : Type} [EnumClass State] [EnumClass Event]

/-! ### The keys -/

/-- The key of a pair has the state above the lowest 16 bits and the event in them. -/
lemma toNat_trKey (source : State) (ev : Event) :
    (trKey source ev).toNat =
      (EnumClass.value source).toNat * 2 ^ 16 + (EnumClass.value ev).toNat := by
  have hsource := EnumClass.value_lt source
  have hev := EnumClass.value_lt ev
  have hshift : (EnumClass.value source).toNat <<< 16 < 2 ^ 64 := by
    rw [Nat.shiftLeft_eq]
    omega
  have hor : (EnumClass.value source).toNat <<< 16 ||| (EnumClass.value ev).toNat =
      (EnumClass.value source).toNat <<< 16 + (EnumClass.value ev).toNat :=
    (Nat.shiftLeft_add_eq_or_of_lt hev _).symm
  have hsixteen : (16 : UInt64).toNat % 64 = 16 := rfl
  rw [trKey, UInt64.toNat_or, UInt64.toNat_shiftLeft, hsixteen, Nat.mod_eq_of_lt hshift, hor,
    Nat.shiftLeft_eq]

/-- Different pairs have different keys. -/
lemma trKey_injective :
    Function.Injective fun pair : State × Event => trKey pair.1 pair.2 := by
  rintro ⟨s, e⟩ ⟨s', e'⟩ hkey
  have hnat : (trKey s e).toNat = (trKey s' e').toNat := congrArg UInt64.toNat hkey
  rw [toNat_trKey, toNat_trKey] at hnat
  have he := EnumClass.value_lt e
  have he' := EnumClass.value_lt e'
  have hs : EnumClass.value s = EnumClass.value s' := UInt64.toNat_inj.mp (by omega)
  have hev : EnumClass.value e = EnumClass.value e' := UInt64.toNat_inj.mp (by omega)
  rw [EnumClass.value_injective hs, EnumClass.value_injective hev]

/-- Different states have different keys. -/
lemma stateKey_injective : Function.Injective (stateKey : State → UInt64) :=
  EnumClass.value_injective

variable [DecidableEq State] [DecidableEq Event]

/-! ### The simulation -/

/-- The tables of the machine stand for the maps of the reference machine. -/
structure Represents (m : StateMachine State β) (r : ReferenceMachine State Event β) : Prop where
  current : m.current = r.current
  transitions : Encodes (fun pair : State × Event => trKey pair.1 pair.2) m.transitions r.rules
  enter : Encodes stateKey m.enter r.enter
  exit : Encodes stateKey m.exit r.exit

namespace Represents

variable {m : StateMachine State β} {r : ReferenceMachine State Event β}

/-- A new machine stands for a new reference machine. -/
lemma new (initial : State) :
    Represents (StateMachine.new initial : StateMachine State β)
      (ReferenceMachine.new initial : ReferenceMachine State Event β) where
  current := rfl
  transitions := Encodes.empty _
  enter := Encodes.empty _
  exit := Encodes.empty _

/-- The same callback runs on both sides. -/
lemma call_eq_run {table : AList fun _ : UInt64 => Action β}
    {callbacks : Finmap fun _ : State => Action β} (h : Encodes stateKey table callbacks)
    (s : State) : call table (stateKey s) = ReferenceMachine.run callbacks s := by
  have hlookup := h s
  unfold call ReferenceMachine.run
  cases hfound : callbacks.lookup s with
  | none =>
    rw [hfound] at hlookup
    simp only [hlookup]
  | some action =>
    rw [hfound] at hlookup
    simp only [hlookup]

/-- An event has the same effect on both sides. -/
lemma process (h : Represents m r) (ev : Event) :
    Represents (m.process ev).1 (r.fire ev).1 ∧ (m.process ev).2 = (r.fire ev).2 := by
  have hlookup : m.transitions.lookup (trKey m.current ev) = r.rules.lookup (r.current, ev) := by
    rw [h.current]
    exact h.transitions (r.current, ev)
  unfold StateMachine.process ReferenceMachine.fire
  rw [hlookup]
  cases r.rules.lookup (r.current, ev) with
  | none => exact ⟨h, rfl⟩
  | some tr =>
    have hleft : call m.exit (stateKey m.current) = ReferenceMachine.run r.exit r.current := by
      rw [h.current]
      exact call_eq_run h.exit r.current
    have hentered : call m.enter (stateKey tr.target) = ReferenceMachine.run r.enter tr.target :=
      call_eq_run h.enter tr.target
    refine ⟨⟨rfl, h.transitions, h.enter, h.exit⟩, ?_⟩
    dsimp only
    rw [hleft, hentered]

/-- Every call keeps the two machines together. -/
lemma step (h : Represents m r) (c : MachineCall State Event β) :
    Represents ((object State Event β).next m c)
      ((ReferenceMachine.object State Event β).next r c) := by
  cases c with
  | onEnter s a =>
    exact ⟨h.current, h.transitions, h.enter.insert stateKey_injective s a, h.exit⟩
  | onExit s a =>
    exact ⟨h.current, h.transitions, h.enter, h.exit.insert stateKey_injective s a⟩
  | add source ev target action =>
    exact ⟨h.current, h.transitions.insert trKey_injective (source, ev) ⟨target, action⟩, h.enter,
      h.exit⟩
  | process ev => exact (h.process ev).1

/-- Every call has the same answer on both sides. -/
lemma answer (h : Represents m r) (c : MachineCall State Event β) :
    (object State Event β).answer m c = (ReferenceMachine.object State Event β).answer r c := by
  cases c with
  | onEnter s a => exact congrArg (MachineAnswer.mk none []) h.current
  | onExit s a => exact congrArg (MachineAnswer.mk none []) h.current
  | add source ev target action => exact congrArg (MachineAnswer.mk none []) h.current
  | process ev =>
    obtain ⟨hafter, hresult⟩ := h.process ev
    change MachineAnswer.mk (some (m.process ev).2.1) (m.process ev).2.2 (m.process ev).1.current =
      MachineAnswer.mk (some (r.fire ev).2.1) (r.fire ev).2.2 (r.fire ev).1.current
    rw [hresult, hafter.current]

end Represents

end StateMachine

section

variable {State Event β : Type} [EnumClass State] [EnumClass Event] [DecidableEq State]
  [DecidableEq Event]

/-- **The state machine is its reference.**  Whatever is registered and processed, in any order
and any number of times, the results, the callbacks that run and the current state after each call
are those of the reference machine. -/
theorem stateMachine_refines_reference (initial : State)
    (calls : List (MachineCall State Event β)) :
    (StateMachine.object State Event β).outputs (.new initial) calls =
      (ReferenceMachine.object State Event β).outputs (.new initial) calls := by
  have hsimulation : Mealy.Simulation (StateMachine.object State Event β)
      (ReferenceMachine.object State Event β) StateMachine.Represents :=
    ⟨fun _ _ c h => h.step c, fun _ _ c h => h.answer c⟩
  exact hsimulation.outputs_eq (.new initial) calls

end

end SystemsDemos
