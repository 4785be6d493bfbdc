import SystemsDemos.Observer.RobotArm
import Mathlib.Tactic.IntervalCases

/-!
# The pick-and-place arm

Several programs of the repository drive the same arm.  This is the arm alone: it takes the events
that `transition` accepts and shows the changes of its state.  Without an error it goes round its
five states, so its whole history is known from the number of its changes (`laps_of_run`).
-/

namespace SystemsDemos

/-- The arm, which takes exactly the events that `transition` accepts. -/
def pickAndPlace : System ArmState ArmEvent StateChange where
  init s := s = .idle
  step s ev := (RobotArm.transition s ev).map fun next => (next, [⟨s, next, ev⟩])

/-- The state after a number of regular changes. -/
def ArmState.stage (n : ℕ) : ArmState :=
  match n % 5 with
  | 0 => .idle
  | 1 => .moving
  | 2 => .grasping
  | 3 => .holding
  | _ => .returning

/-- The event that ends a stage regularly. -/
def ArmEvent.ending (n : ℕ) : ArmEvent :=
  match n % 5 with
  | 0 => .start
  | 1 => .arrived
  | 2 => .grasped
  | 3 => .release
  | _ => .home

/-- The regular changes, in order. -/
def lap (n : ℕ) : StateChange := ⟨.stage n, .stage (n + 1), .ending n⟩

/-- What a step of the arm is. -/
lemma pickAndPlace_step {s s' : ArmState} {ev : ArmEvent} {out : List StateChange} :
    pickAndPlace.step s ev = some (s', out) ↔
      RobotArm.transition s ev = some s' ∧ out = [⟨s, s', ev⟩] := by
  unfold pickAndPlace
  dsimp only
  constructor
  · intro h
    obtain ⟨next, hnext, heq⟩ := Option.map_eq_some_iff.mp h
    obtain ⟨rfl, rfl⟩ := Prod.mk.inj heq
    exact ⟨hnext, rfl⟩
  · rintro ⟨hnext, rfl⟩
    rw [hnext, Option.map_some]

/-- A change that is no error is the regular one. -/
lemma eq_lap_of_transition {n : ℕ} {ev : ArmEvent} {next : ArmState}
    (h : RobotArm.transition (.stage n) ev = some next) (hregular : ev ≠ .error) :
    (⟨.stage n, next, ev⟩ : StateChange) = lap n := by
  have hrest : n % 5 < 5 := Nat.mod_lt n (by decide)
  have hsucc : (n + 1) % 5 = (n % 5 + 1) % 5 := (Nat.mod_add_mod n 5 1).symm
  unfold lap
  unfold ArmState.stage at h
  unfold ArmState.stage ArmEvent.ending
  rw [hsucc]
  generalize n % 5 = i at h hrest ⊢
  interval_cases i <;> cases ev <;> simp_all [RobotArm.transition]

/-- **Without an error the arm goes round its five states.**  Its history consists of the regular
changes in order, and its state is the one after the last of them. -/
theorem laps_of_run {ts : List (Transition ArmState ArmEvent StateChange)} {s : ArmState}
    (h : pickAndPlace.Run ts s) (hregular : ∀ e ∈ observations ts, e.trigger ≠ .error) :
    observations ts = (List.range (observations ts).length).map lap ∧
      s = .stage (observations ts).length := by
  induction h with
  | start hinit => exact ⟨rfl, hinit⟩
  | @snoc ts s s' ev out _ hstep ih =>
    obtain ⟨hnext, rfl⟩ := pickAndPlace_step.mp hstep
    rw [observations_append, observations_singleton] at hregular ⊢
    obtain ⟨hlaps, rfl⟩ := ih fun e he => hregular e (List.mem_append_left _ he)
    have hlast : ev ≠ .error :=
      hregular ⟨_, s', ev⟩ (List.mem_append_right _ (List.mem_singleton.mpr rfl))
    have hlap := eq_lap_of_transition hnext hlast
    obtain ⟨-, htarget, -⟩ := StateChange.mk.inj hlap
    rw [hlap, List.length_append, List.length_singleton, List.range_succ, List.map_append,
      ← hlaps, List.map_singleton]
    exact ⟨rfl, htarget⟩

end SystemsDemos
