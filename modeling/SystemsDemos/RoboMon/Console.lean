import SystemsDemos.RoboMon.Robot
import SystemsDemos.Transition.Fifo

/-!
# The console and the simulation thread

The console program has two threads that share the robot under its mutex: `sim_loop`, which ticks,
and the main thread, which reads commands.  A critical section is one step; the line that it wants
to print is printed in a later step, after the mutex has been released, so steps of the other
thread can come in between.

### Outline

* `RoboMon` with `step`, and the system `roboMon`;
* `Moves`, the cases of a step;
* `roboMon_credible`, the sensors and the readouts;
* `roboMon_laps`, the states in order: the console drives the pick-and-place arm.
-/

namespace SystemsDemos

/-- Where `sim_loop` is. -/
inductive SimPoint
  | sleeping
  /-- In front of `emit`. -/
  | emitting (line : RoboLine)
  | finished
  deriving DecidableEq

/-- Where `main` is. -/
inductive ConsolePoint
  /-- At `std::getline`. -/
  | reading
  /-- In front of `emit`, with what `handle` is about to return. -/
  | emitting (line : RoboLine) (quit : Bool)
  /-- In front of the next prompt. -/
  | prompting
  /-- Behind the loop. -/
  | stopping
  | joining
  | finished
  deriving DecidableEq

/-- The program: the robot, the last reading of the clock, the ticks, and the two threads. -/
structure RoboMon where
  robot : Robot
  clock : ℤ
  tick : ℕ
  sim : SimPoint
  main : ConsolePoint
  deriving DecidableEq

/-- The steps, with the readings of the clock and the input. -/
inductive RoboAct
  | tick (now later : ℤ)
  | simEmits
  | line (text : Text) (now : ℤ)
  | endOfInput
  | mainEmits
  | prompts
  | stops
  | joins
  deriving DecidableEq

/-- What becomes visible: changes of the robot by either thread, and lines on the terminal. -/
inductive RoboObservation
  | simChanges (change : StateChange)
  | mainChanges (change : StateChange)
  | simShows (line : RoboLine)
  | mainShows (line : RoboLine)
  | prompt
  | bye
  deriving DecidableEq

namespace RoboMon

/-- The change of the state that a critical section makes, with what has triggered it; a change
without a trigger is an error. -/
def changes (trigger : Option ArmEvent) (before after : Robot) : List StateChange :=
  if before.state = after.state then []
  else [⟨before.state, after.state, trigger.getD .error⟩]

/-- `if (!out.empty()) emit(out)` of `sim_loop`. -/
def simAfter : Option RoboLine → SimPoint
  | none => .sleeping
  | some line => .emitting line

/-- Where `main` goes when `handle` has returned. -/
def mainReturned (quit : Bool) : ConsolePoint := if quit then .stopping else .prompting

/-- `if (!out.empty()) emit(out)` of `handle`. -/
def mainAfter (quit : Bool) : Option RoboLine → ConsolePoint
  | none => mainReturned quit
  | some line => .emitting line quit

/-- One step of the program. -/
def step (r : Rounding single) (s : RoboMon) : RoboAct → Option (RoboMon × List RoboObservation)
  | .tick now later =>
      if s.sim = .sleeping ∧ s.clock ≤ now ∧ now ≤ later then
        if s.robot.running = false then some ({ s with sim := .finished }, [])
        else
          let (robot, tick, out) := s.robot.tickSection r s.tick now later
          some ({ s with robot := robot, clock := later, tick := tick, sim := simAfter out },
            (changes (s.robot.timerEvent r now) s.robot robot).map .simChanges)
      else none
  | .simEmits =>
      match s.sim with
      | .emitting line => some ({ s with sim := .sleeping }, [.simShows line])
      | _ => none
  | .line text now =>
      if s.main = .reading ∧ s.clock ≤ now then
        let (robot, out, quit) := s.robot.handleCommand (commandOf text) now
        some ({ s with robot := robot, clock := now, main := mainAfter quit out },
          (changes (Robot.commandEvent (commandOf text)) s.robot robot).map .mainChanges)
      else none
  | .endOfInput => if s.main = .reading then some ({ s with main := .stopping }, []) else none
  | .mainEmits =>
      match s.main with
      | .emitting line quit => some ({ s with main := mainReturned quit }, [.mainShows line])
      | _ => none
  | .prompts => if s.main = .prompting then some ({ s with main := .reading }, [.prompt]) else none
  | .stops =>
      if s.main = .stopping then
        some ({ s with robot := { s.robot with running := false }, main := .joining }, [])
      else none
  | .joins =>
      if s.main = .joining ∧ s.sim = .finished then some ({ s with main := .finished }, [.bye])
      else none

end RoboMon

/-- The program from the first prompt on. -/
def roboMon (r : Rounding single) : System RoboMon RoboAct RoboObservation where
  init s := s = ⟨.new s.clock, s.clock, 0, .sleeping, .reading⟩
  step := RoboMon.step r

namespace RoboMon

/-! ### What a step does -/

/-- The cases of a step. -/
inductive Moves (r : Rounding single) (s : RoboMon) : RoboMon → List RoboObservation → Prop
  | ticks (now later : ℤ) (robot : Robot) (line out : Option RoboLine) (hsim : s.sim = .sleeping)
      (hrunning : s.robot.running = true) (hnow : s.clock ≤ now) (hlater : now ≤ later)
      (hsimulates : s.robot.Simulates r now later robot line)
      (hout : out = line ∨
        line = none ∧ out = some (.readout robot.state robot.lidar robot.force)) :
      Moves r s ⟨robot, later, s.tick + 1, simAfter out, s.main⟩
        ((changes (s.robot.timerEvent r now) s.robot robot).map .simChanges)
  | simEnds (hsim : s.sim = .sleeping) (hrunning : s.robot.running = false) :
      Moves r s { s with sim := .finished } []
  | simEmits (line : RoboLine) (hsim : s.sim = .emitting line) :
      Moves r s { s with sim := .sleeping } [.simShows line]
  | obeys (cmd : Text) (now : ℤ) (robot : Robot) (out : Option RoboLine) (quit : Bool)
      (hmain : s.main = .reading) (hnow : s.clock ≤ now)
      (hobeys : s.robot.Obeys cmd now robot out quit) :
      Moves r s ⟨robot, now, s.tick, s.sim, mainAfter quit out⟩
        ((changes (Robot.commandEvent cmd) s.robot robot).map .mainChanges)
  | inputEnds (hmain : s.main = .reading) : Moves r s { s with main := .stopping } []
  | mainEmits (line : RoboLine) (quit : Bool) (hmain : s.main = .emitting line quit) :
      Moves r s { s with main := mainReturned quit } [.mainShows line]
  | prompts (hmain : s.main = .prompting) : Moves r s { s with main := .reading } [.prompt]
  | stops (hmain : s.main = .stopping) :
      Moves r s { s with robot := { s.robot with running := false }, main := .joining } []
  | joins (hmain : s.main = .joining) (hsim : s.sim = .finished) :
      Moves r s { s with main := .finished } [.bye]

variable {r : Rounding single} {s s' : RoboMon} {a : RoboAct} {out : List RoboObservation}
  {ts : List (Transition RoboMon RoboAct RoboObservation)}

lemma moves_of_step (h : s.step r a = some (s', out)) : Moves r s s' out := by
  cases a with
  | tick now later =>
    rw [step] at h
    split at h
    · next henabled =>
      obtain ⟨hsim, hnow, hlater⟩ := henabled
      split at h
      · next hrunning =>
        cases h
        exact .simEnds hsim hrunning
      · next hrunning =>
        cases h
        obtain ⟨-, -, hout⟩ := s.robot.tickSection_spec r s.tick now later
        exact .ticks now later _ _ _ hsim (by simpa using hrunning) hnow hlater
          (s.robot.simulates r now later) hout
    · cases h
  | simEmits =>
    rw [step] at h
    split at h
    · next line hsim =>
      cases h
      exact .simEmits line hsim
    · cases h
  | line text now =>
    rw [step] at h
    split at h
    · next henabled =>
      cases h
      exact .obeys _ now _ _ _ henabled.1 henabled.2 (s.robot.obeys (commandOf text) now)
    · cases h
  | endOfInput =>
    rw [step] at h
    split at h
    · next hmain =>
      cases h
      exact .inputEnds hmain
    · cases h
  | mainEmits =>
    rw [step] at h
    split at h
    · next line quit hmain =>
      cases h
      exact .mainEmits line quit hmain
    · cases h
  | prompts =>
    rw [step] at h
    split at h
    · next hmain =>
      cases h
      exact .prompts hmain
    · cases h
  | stops =>
    rw [step] at h
    split at h
    · next hmain =>
      cases h
      exact .stops hmain
    · cases h
  | joins =>
    rw [step] at h
    split at h
    · next henabled =>
      cases h
      exact .joins henabled.1 henabled.2
    · cases h

/-! ### The sensors -/

/-- The lines on the terminal. -/
def shownLines (obs : List RoboObservation) : List RoboLine :=
  obs.filterMap fun
    | .simShows line => some line
    | .mainShows line => some line
    | _ => none

/-- The sensors and all readouts, pending or printed, are plausible. -/
structure Sound (obs : List RoboObservation) (s : RoboMon) : Prop where
  since : s.robot.since ≤ s.clock
  robot : s.robot.Plausible
  sim : ∀ line, s.sim = .emitting line → LinePlausible line
  main : ∀ line quit, s.main = .emitting line quit → LinePlausible line
  shown : ∀ line ∈ shownLines obs, LinePlausible line

variable {obs : List RoboObservation}

/-- A change prints nothing. -/
lemma shownLines_simChanges (cs : List StateChange) :
    shownLines (cs.map .simChanges) = [] := by
  rw [shownLines, List.filterMap_map]
  exact List.filterMap_eq_nil_iff.mpr fun _ _ => rfl

lemma shownLines_mainChanges (cs : List StateChange) :
    shownLines (cs.map .mainChanges) = [] := by
  rw [shownLines, List.filterMap_map]
  exact List.filterMap_eq_nil_iff.mpr fun _ _ => rfl

/-- One more line on the terminal. -/
lemma shownLines_append (obs out : List RoboObservation) :
    shownLines (obs ++ out) = shownLines obs ++ shownLines out :=
  List.filterMap_append

/-- Where a line is pending after a tick. -/
lemma simAfter_eq_emitting {out : Option RoboLine} {line : RoboLine} :
    simAfter out = .emitting line ↔ out = some line := by
  cases out <;> simp [simAfter]

/-- Where a line is pending after a command. -/
lemma mainAfter_eq_emitting {out : Option RoboLine} {line : RoboLine} {quit quit' : Bool} :
    mainAfter quit out = .emitting line quit' ↔ out = some line ∧ quit = quit' := by
  cases out with
  | none => cases quit <;> simp [mainAfter, mainReturned]
  | some line' => simp [mainAfter]

/-- Returning from `handle` leaves no line pending. -/
lemma mainReturned_ne_emitting (line : RoboLine) (quit quit' : Bool) :
    mainReturned quit ≠ .emitting line quit' := by
  cases quit <;> simp [mainReturned]

/-- Every step keeps the readouts plausible. -/
lemma Sound.step (h : Sound obs s) (hstep : s.step r a = some (s', out)) :
    Sound (obs ++ out) s' := by
  have hkept : ∀ {line : RoboLine}, LinePlausible line →
      ∀ line' ∈ shownLines obs ++ [line], LinePlausible line' := by
    intro line hline line' hmem
    rcases List.mem_append.mp hmem with hmem | hmem
    · exact h.shown line' hmem
    · rwa [List.mem_singleton.mp hmem]
  cases moves_of_step hstep with
  | ticks now later robot line out hsim hrunning hnow hlater hsimulates hout =>
    have hcredible := hsimulates.credible h.robot (h.since.trans hnow)
    refine ⟨hsimulates.since_le ((h.since.trans hnow).trans hlater), hcredible, ?_, h.main, ?_⟩
    · intro shown hshown
      obtain rfl := simAfter_eq_emitting.mp hshown
      rcases hout with hline | ⟨-, hreadout⟩
      · rw [← hline] at hsimulates
        exact hsimulates.linePlausible
      · rw [Option.some.inj hreadout]
        exact hcredible
    · rw [shownLines_append, shownLines_simChanges, List.append_nil]
      exact h.shown
  | obeys cmd now robot out quit hmain hnow hobeys =>
    refine ⟨hobeys.since_le (h.since.trans hnow), hobeys.credible h.robot, h.sim, ?_, ?_⟩
    · intro line quit' hline
      obtain ⟨rfl, -⟩ := mainAfter_eq_emitting.mp hline
      exact hobeys.linePlausible h.robot
    · rw [shownLines_append, shownLines_mainChanges, List.append_nil]
      exact h.shown
  | simEmits line hsim =>
    refine ⟨h.since, h.robot, by simp, h.main, ?_⟩
    rw [shownLines_append]
    exact hkept (h.sim line hsim)
  | mainEmits line quit hmain =>
    refine ⟨h.since, h.robot, h.sim,
      fun line' quit' hline => absurd hline (mainReturned_ne_emitting line' quit quit'), ?_⟩
    rw [shownLines_append]
    exact hkept (h.main line quit hmain)
  | simEnds => exact ⟨h.since, h.robot, by simp, h.main, by simpa using h.shown⟩
  | inputEnds => exact ⟨h.since, h.robot, h.sim, by simp, by simpa using h.shown⟩
  | prompts => exact ⟨h.since, h.robot, h.sim, by simp, by simpa [shownLines] using h.shown⟩
  | stops => exact ⟨h.since, h.robot, h.sim, by simp, by simpa using h.shown⟩
  | joins => exact ⟨h.since, h.robot, h.sim, by simp, by simpa [shownLines] using h.shown⟩

/-- The readouts are plausible in every run. -/
lemma sound_of_run (h : (roboMon r).Run ts s) : Sound (observations ts) s := by
  refine h.invariant_history (I := fun ts s => Sound (observations ts) s) ?_ ?_
  · intro s hinit
    rw [hinit]
    refine ⟨le_rfl, ?_, by simp, by simp, by simp [shownLines]⟩
    unfold Robot.Plausible SensorsPlausible Robot.new
    norm_num
  · intro ts s a s' out _ ih hstep
    rw [observations_append, observations_singleton]
    exact ih.step hstep

/-! ### The states -/

/-- The change that an observation reports. -/
def change? : RoboObservation → Option StateChange
  | .simChanges change => some change
  | .mainChanges change => some change
  | _ => none

lemma filterMap_change_simChanges (cs : List StateChange) :
    (cs.map RoboObservation.simChanges).filterMap change? = cs := by
  rw [List.filterMap_map]
  exact List.filterMap_some

lemma filterMap_change_mainChanges (cs : List StateChange) :
    (cs.map RoboObservation.mainChanges).filterMap change? = cs := by
  rw [List.filterMap_map]
  exact List.filterMap_some

/-- A critical section that leaves the state alone, or changes it for a regular reason. -/
def Lawful (trigger : Option ArmEvent) (before after : Robot) : Prop :=
  after.state = before.state ∨
    ∃ ev, trigger = some ev ∧ Robot.TakesRegularly ev before.state after.state

variable {trigger : Option ArmEvent} {before after : Robot}

/-- Before and after such a section the arm has made a step or none. -/
lemma Lawful.refines (h : Lawful trigger before after) :
    (∃ ev, pickAndPlace.step before.state ev =
        some (after.state, changes trigger before after)) ∨
      after.state = before.state ∧ changes trigger before after = [] := by
  by_cases hsame : before.state = after.state
  · exact .inr ⟨hsame.symm, if_pos hsame⟩
  · obtain ⟨ev, rfl, -, hnext⟩ := h.resolve_left fun heq => hsame heq.symm
    refine .inl ⟨ev, pickAndPlace_step.mpr ⟨hnext, ?_⟩⟩
    rw [changes, if_neg hsame]
    rfl

/-- Its change is no error. -/
lemma Lawful.trigger_ne_error (h : Lawful trigger before after) {e : StateChange}
    (he : e ∈ changes trigger before after) : e.trigger ≠ .error := by
  unfold changes at he
  split at he
  · cases he
  · next hne =>
    obtain ⟨ev, rfl, hregular, -⟩ := h.resolve_left fun heq => hne heq.symm
    rw [List.mem_singleton.mp he]
    exact hregular

/-- The program drives the pick-and-place arm. -/
lemma refines_pickAndPlace (r : Rounding single) :
    Refinement (roboMon r) pickAndPlace (fun s => s.robot.state) change? where
  init s hinit := by
    rw [hinit]
    rfl
  step s a s' out _ hstep := by
    cases moves_of_step hstep with
    | ticks now later robot line out hsim hrunning hnow hlater hsimulates hout =>
      rw [filterMap_change_simChanges]
      exact Lawful.refines hsimulates.takes
    | obeys cmd now robot out quit hmain hnow hobeys =>
      rw [filterMap_change_mainChanges]
      exact Lawful.refines hobeys.takes
    | _ => exact .inr ⟨rfl, rfl⟩

/-- Every change has been made by a command or by a stage that has taken its time. -/
lemma trigger_of_run (h : (roboMon r).Run ts s) :
    ∀ e ∈ (observations ts).filterMap change?, e.trigger ≠ .error := by
  refine h.invariant_history (I := fun ts _ =>
    ∀ e ∈ (observations ts).filterMap change?, e.trigger ≠ .error) (by simp) ?_
  intro ts s a s' out _ ih hstep
  rw [observations_append, observations_singleton, List.filterMap_append]
  intro e he
  rcases List.mem_append.mp he with he | he
  · exact ih e he
  · cases moves_of_step hstep with
    | ticks now later robot line out hsim hrunning hnow hlater hsimulates hout =>
      rw [filterMap_change_simChanges] at he
      exact Lawful.trigger_ne_error hsimulates.takes he
    | obeys cmd now robot out quit hmain hnow hobeys =>
      rw [filterMap_change_mainChanges] at he
      exact Lawful.trigger_ne_error hobeys.takes he
    | _ => simp [change?] at he

end RoboMon

open RoboMon

/-- **The console drives the arm round its states.**  In every interleaving of ticks and commands
the changes of the robot are the regular ones in order, each with its regular trigger: a command of
the user, or a stage of the simulation that has taken its time. -/
theorem roboMon_laps {r : Rounding single} {s : RoboMon}
    {ts : List (Transition RoboMon RoboAct RoboObservation)} (h : (roboMon r).Run ts s) :
    let changes := (observations ts).filterMap change?
    changes = (List.range changes.length).map lap ∧ s.robot.state = .stage changes.length := by
  obtain ⟨us, hus, hobs⟩ := (refines_pickAndPlace r).run h
  have hregular := trigger_of_run h
  rw [← hobs] at hregular ⊢
  exact laps_of_run hus hregular

/-- **The sensors make sense in every state.**  In every interleaving, however the operations
round, the sensors of the robot and all the readouts on the terminal are plausible. -/
theorem roboMon_credible {r : Rounding single} {s : RoboMon}
    {ts : List (Transition RoboMon RoboAct RoboObservation)} (h : (roboMon r).Run ts s) :
    s.robot.Plausible ∧ ∀ line ∈ shownLines (observations ts), LinePlausible line :=
  ⟨(sound_of_run h).robot, (sound_of_run h).shown⟩

/-- The arm is sent out and grips the object, and the user asks for the status before the
simulation has printed that the object is secured. -/
def oneGrasp : List RoboAct :=
  [.line " start".toList 0, .mainEmits, .tick 6000000000 6000000000, .simEmits, .prompts,
    .line "grasp".toList 7000000000, .mainEmits, .prompts, .tick 8000000000 8000000000,
    .tick 10000000000 10000000000, .line "status".toList 10000000000, .mainEmits, .simEmits]

/-- The three changes are the first three regular ones. -/
theorem roboMon_laps_oneGrasp :
    ∃ ts s, (roboMon (.none single)).Run ts s ∧
      (observations ts).filterMap change? = [lap 0, lap 1, lap 2] ∧ s.robot.state = .holding := by
  obtain ⟨ts, s, hrun, hthree⟩ := (roboMon (.none single)).exists_run
    (s := ⟨.new 0, 0, 0, .sleeping, .reading⟩) oneGrasp
    (fun ts _ => ((observations ts).filterMap change?).length = 3) rfl (by decide +kernel)
  obtain ⟨hlaps, hstate⟩ := roboMon_laps hrun
  rw [hthree] at hlaps hstate
  exact ⟨ts, s, hrun, hlaps, hstate⟩

/-- The readout shows the force of the grip. -/
theorem roboMon_credible_oneGrasp :
    ∃ ts s, (roboMon (.none single)).Run ts s ∧
      .readout .holding (1 / 2) 15 ∈ shownLines (observations ts) ∧ s.robot.Plausible := by
  obtain ⟨ts, s, hrun, hreadout⟩ := (roboMon (.none single)).exists_run
    (s := ⟨.new 0, 0, 0, .sleeping, .reading⟩) oneGrasp
    (fun ts _ => .readout .holding (1 / 2) 15 ∈ shownLines (observations ts)) rfl
    (by decide +kernel)
  exact ⟨ts, s, hrun, hreadout, (roboMon_credible hrun).1⟩

end SystemsDemos
