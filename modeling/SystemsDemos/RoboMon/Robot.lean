import SystemsDemos.Float.Rounding
import SystemsDemos.PickAndPlace.Arm
import SystemsDemos.Text.Number
import SystemsDemos.Text.Trim

/-!
# The simulated robot

`Robot` of the console program, and the two critical sections that change it: a tick of the
simulation, which moves the sensors and ends the stages that end by themselves, and a command of
the user.  Times are nanoseconds of the steady clock, sensors are single precision numbers, and the
operations on them round as the parameter says.

### Outline

* `RoboLine`, the lines that are printed;
* `Robot`, `simulate` with the sensor readout (`tickSection`), and `handleCommand`;
* `timerEvent` and `commandEvent`, what makes the state change;
* `SensorsPlausible`, the range of the sensors in each state, and that both sections keep it.
-/

namespace SystemsDemos

/-! ### Lines -/

/-- `state_label`. -/
def stateLabel : ArmState → String
  | .idle => "\x1b[32mIDLE\x1b[0m"
  | .moving => "\x1b[33mMOVING\x1b[0m"
  | .grasping => "\x1b[33mGRASPING\x1b[0m"
  | .holding => "\x1b[32mHOLDING\x1b[0m"
  | .returning => "\x1b[33mRETURNING\x1b[0m"

/-- The lines that the program prints above the prompt. -/
inductive RoboLine
  | targetReached
  | secured
  | homeReached
  /-- The sensor readout, of the simulation or of the command `status`. -/
  | readout (state : ArmState) (lidar force : ℚ)
  | refused (state : ArmState)
  /-- The answer to a command that is carried out. -/
  | accepted (msg : String)
  | help
  deriving DecidableEq

/-- The text of a line, for the time of day and the format of numbers with two places. -/
def RoboLine.text (ts : String) (fixed : ℚ → String) : RoboLine → String
  | .targetReached => "\x1b[36m[>>]\x1b[0m Target reached. Type \x1b[1mgrasp\x1b[0m."
  | .secured =>
      "\x1b[36m[>>]\x1b[0m Object secured (force=15.0N). Type \x1b[1mrelease\x1b[0m."
  | .homeReached => "\x1b[36m[>>]\x1b[0m Home reached. Ready. Type \x1b[1mstart\x1b[0m."
  | .readout state lidar force =>
      "[" ++ ts ++ "] " ++ stateLabel state ++ "  lidar=" ++ fixed lidar ++ "m  force=" ++
        fixed force ++ "N"
  | .refused state => "\x1b[31m[!]\x1b[0m Can't do that in state " ++ stateLabel state
  | .accepted msg => "[" ++ ts ++ "] " ++ msg
  | .help => "\x1b[33m[?]\x1b[0m Commands: start  grasp  release  status  quit"

/-! ### The robot -/

/-- `Robot`. -/
structure Robot where
  state : ArmState
  lidar : ℚ
  force : ℚ
  hinted : Bool
  running : Bool
  since : ℤ
  deriving DecidableEq

/-- `0.20f`. -/
def pointTwo : ℚ := 13421773 / 2 ^ 26

namespace Robot

/-- A new robot. -/
def new (now : ℤ) : Robot := ⟨.idle, 3 / 2, 0, false, true, now⟩

/-- `enter`. -/
def enter (robot : Robot) (s : ArmState) (now : ℤ) : Robot :=
  { robot with state := s, hinted := false, since := now }

/-- `elapsed`, in seconds. -/
def elapsed (r : Rounding single) (robot : Robot) (now : ℤ) : ℚ :=
  r.div (r.round (now - robot.since : ℤ)) 1000000000

/-- The `switch` of the simulation, with the clock as `elapsed` and as `enter` read it. -/
def simulate (r : Rounding single) (robot : Robot) (now later : ℤ) : Robot × Option RoboLine :=
  let t := robot.elapsed r now
  match robot.state with
  | .moving =>
      let robot := { robot with lidar := max (1 / 2) (r.sub (3 / 2) (r.mul t pointTwo)) }
      if 5 < t ∧ robot.hinted = false then ({ robot with hinted := true }, some .targetReached)
      else (robot, none)
  | .grasping =>
      let robot := { robot with force := min 15 (r.mul t (15 / 2)) }
      if 2 < t then ({ robot.enter .holding later with force := 15 }, some .secured)
      else (robot, none)
  | .returning =>
      let robot :=
        { robot with force := 0, lidar := min (3 / 2) (r.add (1 / 2) (r.mul t pointTwo)) }
      if 5 < t then ({ robot.enter .idle later with lidar := 3 / 2 }, some .homeReached)
      else (robot, none)
  | _ => (robot, none)

/-- The critical section of a tick: the `switch`, and every fifth time a readout if there is
nothing else to print. -/
def tickSection (r : Rounding single) (robot : Robot) (tick : ℕ) (now later : ℤ) :
    Robot × ℕ × Option RoboLine :=
  let (robot, out) := robot.simulate r now later
  let tick := tick + 1
  let out :=
    if tick % 5 = 0 ∧ out = none then some (.readout robot.state robot.lidar robot.force) else out
  (robot, tick, out)

/-- `try_transition`. -/
def tryTransition (robot : Robot) (source target : ArmState) (msg : String) (now : ℤ) :
    Robot × Option RoboLine :=
  if robot.state ≠ source then (robot, some (.refused robot.state))
  else (robot.enter target now, some (.accepted msg))

/-- The critical section of `handle`: the robot, the line to print, and whether the user quits. -/
def handleCommand (robot : Robot) (cmd : Text) (now : ℤ) : Robot × Option RoboLine × Bool :=
  if cmd = "start".toList then
    let (robot, out) :=
      robot.tryTransition .idle .moving "Arm moving to target… (sensor feed started)" now
    (robot, out, false)
  else if cmd = "grasp".toList then
    let (robot, out) := robot.tryTransition .moving .grasping "Closing gripper…" now
    (robot, out, false)
  else if cmd = "release".toList then
    let (robot, out) :=
      robot.tryTransition .holding .returning "Releasing object, arm returning home…" now
    (robot, out, false)
  else if cmd = "status".toList then
    (robot, some (.readout robot.state robot.lidar robot.force), false)
  else if cmd = "quit".toList ∨ cmd = "exit".toList then
    ({ robot with running := false }, none, true)
  else if cmd ≠ [] then (robot, some .help, false)
  else (robot, none, false)

end Robot

/-- The blanks that `main` trims. -/
def isBlank (c : Char) : Bool := c = ' ' ∨ c = '\t'

/-- The command in a line of input: `find_first_not_of` and `find_last_not_of`. -/
def commandOf (line : Text) : Text := trim isBlank line

namespace Robot

/-! ### What the sections do -/

/-- The cases of the `switch`. -/
inductive Simulates (r : Rounding single) (robot : Robot) (now later : ℤ) :
    Robot → Option RoboLine → Prop
  | rests (h : robot.state = .idle ∨ robot.state = .holding) :
      Simulates r robot now later robot none
  | approaches (h : robot.state = .moving) :
      Simulates r robot now later
        { robot with lidar := max (1 / 2) (r.sub (3 / 2) (r.mul (robot.elapsed r now) pointTwo)) }
        none
  | reaches (h : robot.state = .moving) (htime : 5 < robot.elapsed r now)
      (hhinted : robot.hinted = false) :
      Simulates r robot now later
        { robot with
          lidar := max (1 / 2) (r.sub (3 / 2) (r.mul (robot.elapsed r now) pointTwo))
          hinted := true }
        (some .targetReached)
  | grips (h : robot.state = .grasping) :
      Simulates r robot now later
        { robot with force := min 15 (r.mul (robot.elapsed r now) (15 / 2)) } none
  | secures (h : robot.state = .grasping) (htime : 2 < robot.elapsed r now) :
      Simulates r robot now later { robot.enter .holding later with force := 15 } (some .secured)
  | retreats (h : robot.state = .returning) :
      Simulates r robot now later
        { robot with
          force := 0
          lidar := min (3 / 2) (r.add (1 / 2) (r.mul (robot.elapsed r now) pointTwo)) }
        none
  | arrives (h : robot.state = .returning) (htime : 5 < robot.elapsed r now) :
      Simulates r robot now later { robot.enter .idle later with force := 0, lidar := 3 / 2 }
        (some .homeReached)

/-- The answer to the command that leads to a state. -/
def acceptedMessage : ArmState → String
  | .moving => "Arm moving to target… (sensor feed started)"
  | .grasping => "Closing gripper…"
  | .returning => "Releasing object, arm returning home…"
  | _ => ""

/-- The command leads the arm from one state to another. -/
inductive Leads : Text → ArmState → ArmState → Prop
  | start : Leads "start".toList .idle .moving
  | grasp : Leads "grasp".toList .moving .grasping
  | release : Leads "release".toList .holding .returning

/-- The cases of a command. -/
inductive Obeys (robot : Robot) (cmd : Text) (now : ℤ) : Robot → Option RoboLine → Bool → Prop
  | refused : Obeys robot cmd now robot (some (.refused robot.state)) false
  | accepted (target : ArmState) (h : Leads cmd robot.state target) :
      Obeys robot cmd now (robot.enter target now) (some (.accepted (acceptedMessage target))) false
  | status : Obeys robot cmd now robot (some (.readout robot.state robot.lidar robot.force)) false
  | help : Obeys robot cmd now robot (some .help) false
  | nothing : Obeys robot cmd now robot none false
  | quits : Obeys robot cmd now { robot with running := false } none true

variable {r : Rounding single} {robot after : Robot} {cmd : Text} {now later : ℤ}
  {out : Option RoboLine} {quit : Bool}

lemma simulates (r : Rounding single) (robot : Robot) (now later : ℤ) :
    Simulates r robot now later (robot.simulate r now later).1
      (robot.simulate r now later).2 := by
  unfold simulate
  dsimp only
  split
  · next hstate =>
    split
    · next h => exact .reaches hstate h.1 h.2
    · exact .approaches hstate
  · next hstate =>
    split
    · next h => exact .secures hstate h
    · exact .grips hstate
  · next hstate =>
    split
    · next h => exact .arrives hstate h
    · exact .retreats hstate
  · next hmoving hgrasping hreturning =>
    refine .rests ?_
    cases hstate : robot.state with
    | idle => exact .inl rfl
    | holding => exact .inr rfl
    | moving => exact absurd hstate hmoving
    | grasping => exact absurd hstate hgrasping
    | returning => exact absurd hstate hreturning

/-- A tick prints what the `switch` says, or a readout when that is nothing. -/
lemma tickSection_spec (r : Rounding single) (robot : Robot) (tick : ℕ) (now later : ℤ) :
    let simulated := robot.simulate r now later
    let ticked := robot.tickSection r tick now later
    ticked.1 = simulated.1 ∧ ticked.2.1 = tick + 1 ∧
      (ticked.2.2 = simulated.2 ∨ simulated.2 = none ∧
        ticked.2.2 = some (.readout simulated.1.state simulated.1.lidar simulated.1.force)) := by
  dsimp only [tickSection]
  refine ⟨rfl, rfl, ?_⟩
  by_cases hreadout : (tick + 1) % 5 = 0 ∧ (robot.simulate r now later).2 = none
  · rw [if_pos hreadout]
    exact .inr ⟨hreadout.2, rfl⟩
  · rw [if_neg hreadout]
    exact .inl rfl

lemma obeys_tryTransition {source target : ArmState} (h : Leads cmd source target) :
    Obeys robot cmd now (robot.tryTransition source target (acceptedMessage target) now).1
      (robot.tryTransition source target (acceptedMessage target) now).2 false := by
  unfold tryTransition
  split
  · exact .refused
  · next hsource =>
    obtain rfl := not_not.mp hsource
    exact .accepted target h

lemma obeys (robot : Robot) (cmd : Text) (now : ℤ) :
    Obeys robot cmd now (robot.handleCommand cmd now).1 (robot.handleCommand cmd now).2.1
      (robot.handleCommand cmd now).2.2 := by
  unfold handleCommand
  split_ifs with hstart hgrasp hrelease
  · subst hstart
    exact obeys_tryTransition .start
  · subst hgrasp
    exact obeys_tryTransition .grasp
  · subst hrelease
    exact obeys_tryTransition .release
  · exact .status
  · exact .quits
  · exact .help
  · exact .nothing

/-! ### Triggers -/

/-- The event of the arm that a command stands for. -/
def commandEvent (cmd : Text) : Option ArmEvent :=
  if cmd = "start".toList then some .start
  else if cmd = "grasp".toList then some .arrived
  else if cmd = "release".toList then some .release
  else none

/-- The event that comes with time: gripping takes two seconds, and the way home takes five. -/
def timerEvent (r : Rounding single) (robot : Robot) (now : ℤ) : Option ArmEvent :=
  match robot.state with
  | .grasping => if 2 < robot.elapsed r now then some .grasped else none
  | .returning => if 5 < robot.elapsed r now then some .home else none
  | _ => none

/-- The event takes the arm from one state to another, and is no error. -/
def TakesRegularly (ev : ArmEvent) (before after : ArmState) : Prop :=
  ev ≠ .error ∧ RobotArm.transition before ev = some after

/-- The `switch` leaves the state alone, or time has come for another one. -/
lemma Simulates.takes (h : Simulates r robot now later after out) :
    after.state = robot.state ∨
      ∃ ev, robot.timerEvent r now = some ev ∧ TakesRegularly ev robot.state after.state := by
  cases h with
  | secures hstate htime =>
    refine .inr ⟨.grasped, ?_, ?_⟩
    · rw [timerEvent, hstate]
      exact if_pos htime
    · rw [hstate]
      exact ⟨by decide, rfl⟩
  | arrives hstate htime =>
    refine .inr ⟨.home, ?_, ?_⟩
    · rw [timerEvent, hstate]
      exact if_pos htime
    · rw [hstate]
      exact ⟨by decide, rfl⟩
  | _ => exact .inl rfl

/-- A command that leads the arm on stands for an event that it takes. -/
lemma Leads.takes {before target : ArmState} (h : Leads cmd before target) :
    ∃ ev, commandEvent cmd = some ev ∧ TakesRegularly ev before target := by
  cases h with
  | start => exact ⟨.start, rfl, by decide, rfl⟩
  | grasp => exact ⟨.arrived, rfl, by decide, rfl⟩
  | release => exact ⟨.release, rfl, by decide, rfl⟩

/-- A command leaves the state alone or stands for an event that the arm takes. -/
lemma Obeys.takes (h : Obeys robot cmd now after out quit) :
    after.state = robot.state ∨
      ∃ ev, commandEvent cmd = some ev ∧ TakesRegularly ev robot.state after.state := by
  cases h with
  | accepted target hleads => exact .inr hleads.takes
  | _ => exact .inl rfl

end Robot

/-- The values of the sensors that make sense in a state. -/
def SensorsPlausible (state : ArmState) (lidar force : ℚ) : Prop :=
  1 / 2 ≤ lidar ∧ lidar ≤ 3 / 2 ∧ 0 ≤ force ∧ force ≤ 15 ∧
    match state with
    | .idle => lidar = 3 / 2 ∧ force = 0
    | .moving => force = 0
    | .grasping => True
    | .holding => force = 15
    | .returning => force = 0 ∨ force = 15

/-- The values in a readout make sense in the state that it shows. -/
def LinePlausible : RoboLine → Prop
  | .readout state lidar force => SensorsPlausible state lidar force
  | _ => True

/-- The sensors of the robot make sense in its state. -/
def Robot.Plausible (robot : Robot) : Prop :=
  SensorsPlausible robot.state robot.lidar robot.force

namespace Robot

variable {r : Rounding single} {robot after : Robot} {cmd : Text} {now later : ℤ}
  {out : Option RoboLine} {quit : Bool}

/-- Zero is a single precision number. -/
lemma zero_mem_single : (0 : ℚ) ∈ single := by
  simpa using intCast_mem_single (m := 0) (by norm_num)

/-- No time is negative. -/
lemma elapsed_nonneg (h : robot.since ≤ now) : 0 ≤ robot.elapsed r now := by
  have hdifference : (0 : ℚ) ≤ (now - robot.since : ℤ) := Int.cast_nonneg (by omega)
  exact r.zero_le_div zero_mem_single (r.le_round zero_mem_single hdifference) (by norm_num)

/-- The `switch` keeps the sensors plausible. -/
lemma Simulates.credible (h : Simulates r robot now later after out)
    (hcredible : robot.Plausible) (htime : robot.since ≤ now) : after.Plausible := by
  have helapsed : 0 ≤ robot.elapsed r now := elapsed_nonneg htime
  have hpointTwo : 0 ≤ pointTwo := by norm_num [pointTwo]
  have hway : 0 ≤ r.mul (robot.elapsed r now) pointTwo :=
    r.zero_le_mul zero_mem_single helapsed hpointTwo
  have hclosing : r.sub (3 / 2) (r.mul (robot.elapsed r now) pointTwo) ≤ 3 / 2 := by
    have hmem : (3 / 2 : ℚ) ∈ single := by
      simpa using div_two_pow_mem_single (m := 3) (k := 1) (by norm_num) (by norm_num)
    exact r.sub_le hmem hway
  have hopening : 1 / 2 ≤ r.add (1 / 2) (r.mul (robot.elapsed r now) pointTwo) := by
    have hmem : (1 / 2 : ℚ) ∈ single := by
      simpa using div_two_pow_mem_single (m := 1) (k := 1) (by norm_num) (by norm_num)
    exact r.le_add hmem hway
  have hgripping : 0 ≤ r.mul (robot.elapsed r now) (15 / 2) :=
    r.zero_le_mul zero_mem_single helapsed (by norm_num)
  unfold Plausible SensorsPlausible at hcredible ⊢
  obtain ⟨hlow, hhigh, hnonneg, hmax, hstateful⟩ := hcredible
  cases h with
  | rests hstate => exact ⟨hlow, hhigh, hnonneg, hmax, hstateful⟩
  | approaches hstate =>
    rw [hstate] at hstateful ⊢
    exact ⟨le_max_left _ _, max_le (by norm_num) hclosing, hnonneg, hmax, hstateful⟩
  | reaches hstate =>
    rw [hstate] at hstateful ⊢
    exact ⟨le_max_left _ _, max_le (by norm_num) hclosing, hnonneg, hmax, hstateful⟩
  | grips hstate =>
    rw [hstate]
    exact ⟨hlow, hhigh, le_min (by norm_num) hgripping, min_le_left _ _, trivial⟩
  | secures hstate => exact ⟨hlow, hhigh, by norm_num, le_rfl, rfl⟩
  | retreats hstate =>
    rw [hstate]
    exact ⟨le_min (by norm_num) hopening, min_le_left _ _, le_rfl, by norm_num, .inl rfl⟩
  | arrives hstate => exact ⟨by norm_num, le_rfl, le_rfl, by norm_num, rfl, rfl⟩

/-- A command keeps the sensors plausible. -/
lemma Obeys.credible (h : Obeys robot cmd now after out quit) (hcredible : robot.Plausible) :
    after.Plausible := by
  cases h with
  | accepted target hleads =>
    unfold Plausible SensorsPlausible at hcredible ⊢
    obtain ⟨hlow, hhigh, hnonneg, hmax, hstateful⟩ := hcredible
    refine ⟨hlow, hhigh, hnonneg, hmax, ?_⟩
    generalize hstate : robot.state = state at hleads hstateful
    cases hleads with
    | start => exact hstateful.2
    | grasp => trivial
    | release => exact .inr hstateful
  | _ => exact hcredible

/-- A tick ends with a plausible line, if with any. -/
lemma Simulates.linePlausible {line : RoboLine}
    (h : Simulates r robot now later after (some line)) : LinePlausible line := by
  cases h <;> trivial

/-- A command is answered by a plausible line, if by any. -/
lemma Obeys.linePlausible {line : RoboLine} (h : Obeys robot cmd now after (some line) quit)
    (hcredible : robot.Plausible) : LinePlausible line := by
  cases h with
  | status => exact hcredible
  | _ => trivial

/-- The robot does not enter a state in the future. -/
lemma Simulates.since_le (h : Simulates r robot now later after out) (htime : robot.since ≤ later) :
    after.since ≤ later := by
  cases h with
  | secures => exact le_rfl
  | arrives => exact le_rfl
  | _ => exact htime

lemma Obeys.since_le (h : Obeys robot cmd now after out quit) (htime : robot.since ≤ now) :
    after.since ≤ now := by
  cases h with
  | accepted => exact le_rfl
  | _ => exact htime

/-- Ticks do not stop the robot. -/
lemma Simulates.running_eq (h : Simulates r robot now later after out) :
    after.running = robot.running := by
  cases h <;> rfl

/-- The robot is stopped by the commands that end the program, which print nothing. -/
lemma Obeys.running_eq (h : Obeys robot cmd now after out quit) :
    after.running = (robot.running && !quit) ∧ (quit = true → out = none) := by
  cases h <;> simp [enter]

end Robot

end SystemsDemos
