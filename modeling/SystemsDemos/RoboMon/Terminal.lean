import SystemsDemos.RoboMon.Console

/-!
# What the terminal shows

A change of the robot is announced after its critical section, when the robot may already have
changed again.  Each thread still announces its own changes in order and each of them once, so the
terminal lags behind a thread by at most one line; a hint is shown at most once for each time that
the arm is sent out.  Once the user quits, the program ends after a few more steps.

### Outline

* `announces` and the two threads as channels of announcements: `roboMon_announced`;
* `roboMon_shutdown`.
-/

namespace SystemsDemos

namespace RoboMon

/-! ### Announcements -/

/-- The state that a line announces. -/
def announces : RoboLine → Option ArmState
  | .secured => some .holding
  | .homeReached => some .idle
  | .accepted msg =>
      [ArmState.moving, .grasping, .returning].find? fun s => Robot.acceptedMessage s = msg
  | _ => none

/-- The states that the simulation has led to. -/
def simChange : RoboObservation → Option ArmState
  | .simChanges change => some change.target
  | _ => none

/-- The states that commands have led to. -/
def mainChange : RoboObservation → Option ArmState
  | .mainChanges change => some change.target
  | _ => none

/-- The states that the simulation thread has announced. -/
def simAnnounced : RoboObservation → Option ArmState
  | .simShows line => announces line
  | _ => none

/-- The states that the main thread has announced. -/
def mainAnnounced : RoboObservation → Option ArmState
  | .mainShows line => announces line
  | _ => none

/-- What the simulation thread is about to announce. -/
def simPending (s : RoboMon) : List ArmState :=
  match s.sim with
  | .emitting line => (announces line).toList
  | _ => []

/-- What the main thread is about to announce. -/
def mainPending (s : RoboMon) : List ArmState :=
  match s.main with
  | .emitting line _ => (announces line).toList
  | _ => []

variable {r : Rounding single} {robot after : Robot} {cmd : Text} {now later : ℤ}
  {line out : Option RoboLine} {quit : Bool}

/-- The state that a line to print announces. -/
def announcedBy (out : Option RoboLine) : List ArmState := (out.bind announces).toList

/-- The states that a critical section leads to. -/
def targets (trigger : Option ArmEvent) (before after : Robot) : List ArmState :=
  (changes trigger before after).map StateChange.target

/-- What the threads see of changes by the simulation. -/
lemma filterMap_simChanges (f : RoboObservation → Option ArmState) (cs : List StateChange) :
    (cs.map RoboObservation.simChanges).filterMap f =
      cs.filterMap fun change => f (.simChanges change) := by
  rw [List.filterMap_map]
  rfl

lemma filterMap_mainChanges (f : RoboObservation → Option ArmState) (cs : List StateChange) :
    (cs.map RoboObservation.mainChanges).filterMap f =
      cs.filterMap fun change => f (.mainChanges change) := by
  rw [List.filterMap_map]
  rfl

/-- A tick is announced by its line if it leads to another state. -/
lemma announced_of_simulates (trigger : Option ArmEvent)
    (h : robot.Simulates r now later after line)
    (hout : out = line ∨ line = none ∧ out = some (.readout after.state after.lidar after.force)) :
    targets trigger robot after = announcedBy out := by
  have hsame : after.state = robot.state → announcedBy line = [] →
      targets trigger robot after = announcedBy out := by
    intro hstate hline
    have hquiet : announcedBy out = [] := by
      rcases hout with rfl | ⟨-, rfl⟩
      · exact hline
      · rfl
    rw [hquiet, targets, changes, if_pos hstate.symm]
    rfl
  have hloud : line ≠ none → out = line := fun hne => hout.resolve_right fun h => hne h.1
  cases h with
  | secures hstate =>
    rw [hloud (by simp), targets, changes, hstate]
    rfl
  | arrives hstate =>
    rw [hloud (by simp), targets, changes, hstate]
    rfl
  | _ => exact hsame rfl rfl

/-- The answer to a command that is carried out announces the new state. -/
lemma announces_acceptedMessage {target : ArmState}
    (h : target = .moving ∨ target = .grasping ∨ target = .returning) :
    announces (.accepted (Robot.acceptedMessage target)) = some target := by
  rcases h with rfl | rfl | rfl
  all_goals decide +kernel

/-- A command is announced by its line if it leads to another state. -/
lemma announced_of_obeys (trigger : Option ArmEvent) (h : robot.Obeys cmd now after out quit) :
    targets trigger robot after = announcedBy out := by
  have hsame : targets trigger robot robot = [] := by
    rw [targets, changes, if_pos rfl]
    rfl
  cases h with
  | accepted target hleads =>
    have hstate : (robot.enter target now).state = target := rfl
    rw [targets, changes, hstate]
    generalize robot.state = state at hleads ⊢
    cases hleads
    all_goals
      rw [announcedBy, Option.bind_some, announces_acceptedMessage (by decide)]
      rfl
  | _ => exact hsame

/-- What is pending after a tick. -/
lemma simPending_simAfter (s : RoboMon) (robot : Robot) (now : ℤ) (tick : ℕ)
    (out : Option RoboLine) :
    simPending ⟨robot, now, tick, simAfter out, s.main⟩ = announcedBy out := by
  cases out <;> rfl

/-- What is pending after a command. -/
lemma mainPending_mainAfter (s : RoboMon) (robot : Robot) (now : ℤ) (tick : ℕ)
    (out : Option RoboLine) (quit : Bool) :
    mainPending ⟨robot, now, tick, s.sim, mainAfter quit out⟩ = announcedBy out := by
  cases out with
  | none => cases quit <;> rfl
  | some line => rfl

/-- The simulation thread announces its changes in order. -/
lemma isFifo_sim (r : Rounding single) :
    IsFifo (roboMon r) simPending simChange simAnnounced where
  init s hinit := by
    rw [hinit]
    rfl
  step s a s' out hstep := by
    cases moves_of_step hstep with
    | ticks now later robot line out hsim hrunning hnow hlater hsimulates hout =>
      have hbefore : simPending s = [] := by rw [simPending, hsim]
      rw [hbefore, filterMap_simChanges, filterMap_simChanges, simPending_simAfter,
        ← announced_of_simulates (s.robot.timerEvent r now) hsimulates hout]
      simp [simChange, simAnnounced, targets]
    | obeys cmd now robot out quit hmain hnow hobeys =>
      rw [filterMap_mainChanges, filterMap_mainChanges]
      simp [simChange, simAnnounced, simPending]
    | simEmits line hsim =>
      have hbefore : simPending s = (announces line).toList := by rw [simPending, hsim]
      rw [hbefore]
      cases hline : announces line <;> simp [simChange, simAnnounced, simPending, hline]
    | simEnds hsim =>
      have hbefore : simPending s = [] := by rw [simPending, hsim]
      rw [hbefore]
      rfl
    | _ => exact List.append_nil (simPending s)

/-- The main thread announces its changes in order. -/
lemma isFifo_main (r : Rounding single) :
    IsFifo (roboMon r) mainPending mainChange mainAnnounced where
  init s hinit := by
    rw [hinit]
    rfl
  step s a s' out hstep := by
    cases moves_of_step hstep with
    | ticks now later robot line out hsim hrunning hnow hlater hsimulates hout =>
      rw [filterMap_simChanges, filterMap_simChanges]
      simp [mainChange, mainAnnounced, mainPending]
    | obeys cmd now robot out quit hmain hnow hobeys =>
      have hbefore : mainPending s = [] := by rw [mainPending, hmain]
      rw [hbefore, filterMap_mainChanges, filterMap_mainChanges, mainPending_mainAfter,
        ← announced_of_obeys (Robot.commandEvent cmd) hobeys]
      simp [mainChange, mainAnnounced, targets]
    | mainEmits line quit hmain =>
      have hbefore : mainPending s = (announces line).toList := by rw [mainPending, hmain]
      have hafter : mainPending { s with main := mainReturned quit } = [] := by
        cases quit <;> rfl
      rw [hbefore, hafter]
      cases hline : announces line <;> simp [mainChange, mainAnnounced, hline]
    | inputEnds hmain =>
      have hbefore : mainPending s = [] := by rw [mainPending, hmain]
      rw [hbefore]
      rfl
    | prompts hmain =>
      have hbefore : mainPending s = [] := by rw [mainPending, hmain]
      rw [hbefore]
      rfl
    | stops hmain =>
      have hbefore : mainPending s = [] := by rw [mainPending, hmain]
      rw [hbefore]
      rfl
    | joins hmain hsim =>
      have hbefore : mainPending s = [] := by rw [mainPending, hmain]
      rw [hbefore]
      rfl
    | _ => exact List.append_nil (mainPending s)

/-! ### Hints -/

/-- How often the arm has been sent out. -/
def departures (obs : List RoboObservation) : ℕ :=
  ((obs.filterMap change?).map StateChange.target).count .moving

/-- How many hints may still be given before the arm is sent out again. -/
def owedHints (robot : Robot) : ℕ := if robot.state = .moving ∧ robot.hinted = false then 1 else 0

/-- The hint that is about to be printed. -/
def pendingHints (s : RoboMon) : ℕ := if s.sim = .emitting .targetReached then 1 else 0

/-- Observations that are put together. -/
lemma departures_append (obs out : List RoboObservation) :
    departures (obs ++ out) = departures obs + departures out := by
  rw [departures, List.filterMap_append, List.map_append, List.count_append]
  rfl

/-- The sensors do not matter for the hints. -/
lemma owedHints_congr (hstate : after.state = robot.state) (hhinted : after.hinted = robot.hinted) :
    owedHints after = owedHints robot := by
  rw [owedHints, owedHints, hstate, hhinted]

/-- A tick gives a hint only if it is owed. -/
lemma hints_of_simulates (h : robot.Simulates r now later after line)
    (hout : out = line ∨ line = none ∧ out = some (.readout after.state after.lidar after.force)) :
    (if simAfter out = .emitting .targetReached then 1 else 0) + owedHints after ≤
      owedHints robot := by
  have hquiet : line ≠ some .targetReached →
      (if simAfter out = .emitting .targetReached then 1 else 0) = 0 := by
    intro hne
    refine if_neg fun hemits => ?_
    have hhint := simAfter_eq_emitting.mp hemits
    rcases hout with rfl | ⟨-, hreadout⟩
    · exact hne hhint
    · cases hhint.symm.trans hreadout
  cases h with
  | reaches hstate htime hhinted =>
    have howed : owedHints robot = 1 := if_pos ⟨hstate, hhinted⟩
    have hgiven : ∀ lidar, owedHints { robot with lidar := lidar, hinted := true } = 0 :=
      fun lidar => if_neg (by simp)
    rw [howed, hgiven]
    split <;> omega
  | secures hstate =>
    rw [hquiet (by simp), owedHints, if_neg (by simp [Robot.enter])]
    omega
  | arrives hstate =>
    rw [hquiet (by simp), owedHints, if_neg (by simp [Robot.enter])]
    omega
  | _ =>
    exact (Nat.add_le_add (hquiet (by simp)).le (owedHints_congr rfl rfl).le).trans_eq
      (Nat.zero_add _)

/-- A hint becomes owed only when the arm is sent out. -/
lemma hints_of_obeys (trigger : Option ArmEvent) (h : robot.Obeys cmd now after out quit) :
    owedHints after ≤
      owedHints robot + departures ((changes trigger robot after).map .mainChanges) := by
  cases h with
  | accepted target hleads =>
    have hstate : (robot.enter target now).state = target := rfl
    unfold owedHints changes
    rw [hstate]
    generalize robot.state = state at hleads ⊢
    cases hleads with
    | start => exact Nat.le_add_left _ _
    | grasp => exact Nat.zero_le _
    | release => exact Nat.zero_le _
  | _ => exact Nat.le_add_right _ _

/-- A change is no line. -/
lemma count_simChanges {e : RoboObservation} (he : ∀ change, .simChanges change ≠ e)
    (cs : List StateChange) : (cs.map .simChanges).count e = 0 := by
  refine List.count_eq_zero.mpr fun hmem => ?_
  obtain ⟨change, -, heq⟩ := List.mem_map.mp hmem
  exact he change heq

lemma count_mainChanges {e : RoboObservation} (he : ∀ change, .mainChanges change ≠ e)
    (cs : List StateChange) : (cs.map .mainChanges).count e = 0 := by
  refine List.count_eq_zero.mpr fun hmem => ?_
  obtain ⟨change, -, heq⟩ := List.mem_map.mp hmem
  exact he change heq

/-- Hints given, about to be printed and owed, against how often the arm has been sent out. -/
lemma hints_of_run {s : RoboMon} {ts : List (Transition RoboMon RoboAct RoboObservation)}
    (h : (roboMon r).Run ts s) :
    (observations ts).count (.simShows .targetReached) + pendingHints s + owedHints s.robot ≤
      departures (observations ts) := by
  refine h.invariant_history (I := fun ts s =>
    (observations ts).count (.simShows .targetReached) + pendingHints s + owedHints s.robot ≤
      departures (observations ts)) ?_ ?_
  · intro s hinit
    rw [hinit]
    exact Nat.le_refl 0
  · intro ts s a s' out _ ih hstep
    rw [observations_append, observations_singleton, List.count_append, departures_append]
    cases moves_of_step hstep with
    | ticks now later robot line out hsim hrunning hnow hlater hsimulates hout =>
      have hhints := hints_of_simulates hsimulates hout
      rw [count_simChanges (by simp)]
      unfold pendingHints at ih ⊢
      dsimp only at ih ⊢
      omega
    | obeys cmd now robot out quit hmain hnow hobeys =>
      have hhints := hints_of_obeys (Robot.commandEvent cmd) hobeys
      rw [count_mainChanges (by simp)]
      unfold pendingHints at ih ⊢
      dsimp only at ih ⊢
      omega
    | simEmits line hsim =>
      have hshown : [RoboObservation.simShows line].count (.simShows .targetReached) =
          pendingHints s := by
        rw [List.count_singleton, pendingHints, hsim]
        simp
      have hafter : pendingHints { s with sim := .sleeping } = 0 := rfl
      rw [hshown, hafter]
      exact (by omega : _ ≤ departures (observations ts)).trans (Nat.le_add_right _ _)
    | simEnds => exact Nat.le_trans (by simp [pendingHints]) ih
    | _ => exact ih

/-! ### The end -/

/-- How many steps are left once the robot has stopped running. -/
def remaining (s : RoboMon) : ℕ :=
  (match s.sim with
    | .emitting _ => 2
    | .sleeping => 1
    | .finished => 0) +
  match s.main with
    | .stopping => 2
    | .joining => 1
    | _ => 0

/-- The main thread stops the robot on its way out, and waits for the simulation. -/
structure Orderly (obs : List RoboObservation) (s : RoboMon) : Prop where
  stopped : s.robot.running = false → s.main = .stopping ∨ s.main = .joining ∨ s.main = .finished
  joined : s.main = .finished → s.sim = .finished
  ended : s.sim = .finished ∨ s.main = .joining ∨ s.main = .finished → s.robot.running = false
  bye : obs.count .bye = if s.main = .finished then 1 else 0

variable {s s' : RoboMon} {a : RoboAct} {obs seen : List RoboObservation}
  {ts : List (Transition RoboMon RoboAct RoboObservation)}

/-- While the main thread is in its loop, the robot is running. -/
lemma Orderly.running (h : Orderly obs s) (hstopping : s.main ≠ .stopping)
    (hjoining : s.main ≠ .joining) (hfinished : s.main ≠ .finished) : s.robot.running = true := by
  rw [← Bool.not_eq_false]
  intro hstopped
  rcases h.stopped hstopped with hmain | hmain | hmain
  · exact hstopping hmain
  · exact hjoining hmain
  · exact hfinished hmain

/-- Every step is orderly. -/
lemma Orderly.step (h : Orderly obs s) (hstep : s.step r a = some (s', seen)) :
    Orderly (obs ++ seen) s' := by
  have hbye := h.bye
  cases moves_of_step hstep with
  | ticks now later robot line out hsim hrunning hnow hlater hsimulates hout =>
    have hon : robot.running = true := hsimulates.running_eq.trans hrunning
    have hmain : ¬(s.main = .joining ∨ s.main = .finished) := fun hmain =>
      absurd (h.ended (.inr hmain)) (by simp [hrunning])
    refine ⟨fun hoff => absurd hoff (by simp [hon]), fun hfinished => absurd (.inr hfinished) hmain,
      fun hended => ?_, ?_⟩
    · rcases hended with hended | hended
      · cases out <;> cases hended
      · exact absurd hended hmain
    · rw [List.count_append, count_simChanges (by simp), hbye, Nat.add_zero]
  | obeys cmd now robot out quit hmain hnow hobeys =>
    obtain ⟨hrobot, hsilent⟩ := hobeys.running_eq
    have hon : s.robot.running = true := h.running (by simp [hmain]) (by simp [hmain])
      (by simp [hmain])
    have hafter : mainAfter quit out ≠ .joining ∧ mainAfter quit out ≠ .finished := by
      cases out <;> cases quit <;> simp [mainAfter, mainReturned]
    refine ⟨fun hoff => .inl ?_, fun hfinished => absurd hfinished hafter.2, fun hended => ?_, ?_⟩
    · have hquit : quit = true := by simpa [hrobot, hon] using hoff
      rw [hsilent hquit, hquit]
      rfl
    · rcases hended with hended | hended | hended
      · exact absurd (h.ended (.inl hended)) (by simp [hon])
      · exact absurd hended hafter.1
      · exact absurd hended hafter.2
    · rw [List.count_append, count_mainChanges (by simp), hbye, hmain, if_neg hafter.2]
      rfl
  | simEnds hsim hrunning => exact ⟨h.stopped, fun _ => rfl, fun _ => hrunning, by simpa using hbye⟩
  | simEmits line hsim =>
    refine ⟨h.stopped, fun hmain => absurd (h.joined hmain) (by simp [hsim]), fun hended => ?_,
      by simpa using hbye⟩
    rcases hended with hended | hended
    · cases hended
    · exact h.ended (.inr hended)
  | inputEnds hmain =>
    refine ⟨fun _ => .inl rfl, by simp, fun hended => ?_, by simpa [hmain] using hbye⟩
    exact h.ended (.inl (by simpa using hended))
  | mainEmits line quit hmain =>
    have hon : s.robot.running = true := h.running (by simp [hmain]) (by simp [hmain])
      (by simp [hmain])
    have hafter : mainReturned quit ≠ .joining ∧ mainReturned quit ≠ .finished := by
      cases quit <;> simp [mainReturned]
    refine ⟨fun hoff => absurd hoff (by simp [hon]), fun hfinished => absurd hfinished hafter.2,
      fun hended => ?_, by simpa [hmain, hafter.2] using hbye⟩
    exact h.ended (.inl (by simpa [hafter] using hended))
  | prompts hmain =>
    have hon : s.robot.running = true := h.running (by simp [hmain]) (by simp [hmain])
      (by simp [hmain])
    refine ⟨fun hoff => absurd hoff (by simp [hon]), by simp, fun hended => ?_,
      by simpa [hmain] using hbye⟩
    exact h.ended (.inl (by simpa using hended))
  | stops hmain =>
    exact ⟨fun _ => .inr (.inl rfl), by simp, fun _ => rfl, by simpa [hmain] using hbye⟩
  | joins hmain hsim =>
    refine ⟨fun _ => .inr (.inr rfl), fun _ => hsim, fun _ => h.ended (.inl hsim), ?_⟩
    rw [List.count_append, hbye, hmain]
    rfl

/-- Every run is orderly. -/
lemma orderly_of_run (h : (roboMon r).Run ts s) : Orderly (observations ts) s := by
  refine h.invariant_history (I := fun ts s => Orderly (observations ts) s) ?_ ?_
  · intro s hinit
    rw [hinit]
    exact ⟨by simp [Robot.new], by simp, by simp, by simp⟩
  · intro ts s a s' out _ ih hstep
    rw [observations_append, observations_singleton]
    exact ih.step hstep

/-- Once the robot is stopped it stays as it is, and every step leads closer to the end. -/
lemma Orderly.stopped_step (h : Orderly obs s) (hoff : s.robot.running = false)
    (hstep : s.step r a = some (s', seen)) :
    s'.robot = s.robot ∧ remaining s' + 1 ≤ remaining s := by
  have hmain := h.stopped hoff
  cases moves_of_step hstep with
  | ticks now later robot line out hsim hrunning => simp [hoff] at hrunning
  | obeys cmd now robot out quit hreading => simp [hreading] at hmain
  | simEnds hsim => exact ⟨rfl, by simp only [remaining, hsim]; omega⟩
  | simEmits line hsim => exact ⟨rfl, by simp only [remaining, hsim]; omega⟩
  | inputEnds hreading => simp [hreading] at hmain
  | mainEmits line quit hemitting => simp [hemitting] at hmain
  | prompts hprompting => simp [hprompting] at hmain
  | stops hstopping => exact ⟨by rw [← hoff], by simp [remaining, hstopping]⟩
  | joins hjoining => exact ⟨rfl, by simp [remaining, hjoining]⟩

/-- Not many steps are left. -/
lemma remaining_le (s : RoboMon) : remaining s ≤ 4 := by
  unfold remaining
  cases s.sim <;> cases s.main <;> simp

/-- A step of the program is possible until the main thread has returned. -/
lemma Orderly.step_eq_none_iff (h : Orderly obs s) :
    (∀ a, s.step r a = none) ↔ s.main = .finished := by
  constructor
  · intro hstuck
    cases hmain : s.main with
    | finished => rfl
    | reading =>
      have hend := hstuck .endOfInput
      simp [RoboMon.step, hmain] at hend
    | emitting line quit =>
      have hemit := hstuck .mainEmits
      simp [RoboMon.step, hmain] at hemit
    | prompting =>
      have hprompt := hstuck .prompts
      simp [RoboMon.step, hmain] at hprompt
    | stopping =>
      have hstop := hstuck .stops
      simp [RoboMon.step, hmain] at hstop
    | joining =>
      cases hsim : s.sim with
      | finished =>
        have hjoin := hstuck .joins
        simp [RoboMon.step, hmain, hsim] at hjoin
      | emitting line =>
        have hemit := hstuck .simEmits
        simp [RoboMon.step, hsim] at hemit
      | sleeping =>
        have htick := hstuck (.tick s.clock s.clock)
        have hoff := h.ended (.inr (.inl hmain))
        simp [RoboMon.step, hsim, hoff] at htick
  · intro hmain a
    have hsim := h.joined hmain
    cases a <;> simp [RoboMon.step, hmain, hsim]

end RoboMon

open RoboMon

variable {r : Rounding single} {s : RoboMon}
  {ts : List (Transition RoboMon RoboAct RoboObservation)}

/-- **Every change is announced once.**  Each thread has announced the changes that it has made, in
their order, except for those in the line that it is about to print; and there are at most as many
hints as times that the arm has been sent out. -/
theorem roboMon_announced (h : (roboMon r).Run ts s) :
    (observations ts).filterMap simChange =
        (observations ts).filterMap simAnnounced ++ simPending s ∧
      (observations ts).filterMap mainChange =
        (observations ts).filterMap mainAnnounced ++ mainPending s ∧
      (observations ts).count (.simShows .targetReached) ≤ departures (observations ts) := by
  refine ⟨(isFifo_sim r).run h, (isFifo_main r).run h, ?_⟩
  have hhints := hints_of_run h
  omega

/-- In the run both threads have announced everything, the simulation thread last. -/
theorem roboMon_announced_oneGrasp :
    ∃ ts s, (roboMon (.none single)).Run ts s ∧
      (observations ts).filterMap mainAnnounced = [.moving, .grasping] ∧
      (observations ts).filterMap simAnnounced = [.holding] ∧
      (observations ts).filterMap simChange = (observations ts).filterMap simAnnounced := by
  obtain ⟨ts, s, hrun, hmain, hsim, hpending⟩ := (roboMon (.none single)).exists_run
    (s := ⟨.new 0, 0, 0, .sleeping, .reading⟩) oneGrasp
    (fun ts s => (observations ts).filterMap mainAnnounced = [.moving, .grasping] ∧
      (observations ts).filterMap simAnnounced = [.holding] ∧ simPending s = []) rfl
    (by decide +kernel)
  obtain ⟨hannounced, -, -⟩ := roboMon_announced hrun
  rw [hpending, List.append_nil] at hannounced
  exact ⟨ts, s, hrun, hmain, hsim, hannounced⟩

/-- **The program ends.**  A step is possible until the main thread has returned, which is when it
has said farewell; and once the robot has been stopped, it is not changed any more and at most four
steps are left. -/
theorem roboMon_shutdown (h : (roboMon r).Run ts s) :
    ((∀ a, (roboMon r).step s a = none) ↔ s.main = .finished) ∧
      (observations ts).count .bye = (if s.main = .finished then 1 else 0) ∧
      ∀ us t vs, ts = us ++ t :: vs → t.post.robot.running = false →
        vs.length ≤ 4 ∧ s.robot = t.post.robot := by
  have horderly := orderly_of_run h
  refine ⟨horderly.step_eq_none_iff, horderly.bye, ?_⟩
  rintro us t vs rfl hoff
  obtain ⟨hrobot, hleft⟩ := h.later_history
    (P := fun vs s => s.robot = t.post.robot ∧ vs.length + remaining s ≤ remaining t.post)
    ⟨rfl, by simp⟩ (by
      rintro vs s a s' out hrun ⟨hrobot, hleft⟩ hstep
      obtain ⟨hsame, hless⟩ := (orderly_of_run hrun).stopped_step (by rw [hrobot, hoff]) hstep
      refine ⟨hsame.trans hrobot, ?_⟩
      rw [List.length_append, List.length_singleton]
      omega)
  have hmax := remaining_le t.post
  exact ⟨by omega, hrobot⟩

/-- The user quits while a readout is about to be printed. -/
def quitWhileEmitting : List RoboAct :=
  [.tick 0 0, .tick 0 0, .tick 0 0, .tick 0 0, .tick 0 0, .line "quit".toList 0, .stops, .simEmits,
    .tick 0 0, .joins]

/-- Four steps after the command the program has ended. -/
theorem roboMon_shutdown_quitWhileEmitting :
    ∃ ts s, (roboMon (.none single)).Run ts s ∧ ts.map Transition.act = quitWhileEmitting ∧
      ∀ a, (roboMon (.none single)).step s a = none := by
  obtain ⟨ts, s, hrun, hacts, hmain⟩ := (roboMon (.none single)).exists_run
    (s := ⟨.new 0, 0, 0, .sleeping, .reading⟩) quitWhileEmitting
    (fun ts s => ts.map Transition.act = quitWhileEmitting ∧ s.main = .finished) rfl
    (by decide +kernel)
  exact ⟨ts, s, hrun, hacts, (roboMon_shutdown hrun).1.mpr hmain⟩

end SystemsDemos
