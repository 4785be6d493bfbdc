import SystemsDemos.Inference.Score
import SystemsDemos.Transition.History
import SystemsDemos.Transition.Lossy

/-!
# The inference node

`InferenceNode` answers every sensor message, once both sensors have delivered, with a score of the
latest values or with an error.  `SensorSimNode::publishSensors` is the publisher of the demo; its
messages reach the node over two topics that keep the last five and may lose any.  The sine, with
values between `-1` and `1`, and the cosine are parameters, the durations come from the clock.

### Outline

* `InferenceNode` and the system of its callbacks;
* `InferenceEvent.Answers`, what an answer says about the messages received;
* `Accounts` and `inferenceNode_accounts`, for arbitrary messages;
* `SimulatedInference`, the node behind the simulator, and `simulatedInference_ok`.
-/

namespace SystemsDemos

/-- The fields of the payload of `buildPayload`, whose text has three decimals of each. -/
structure InferenceMessage where
  score : ℚ
  status : String
  durationMs : ℚ
  avgMs : ℚ
  maxMs : ℚ
  failures : ℕ
  features : FloatValue × FloatValue × FloatValue
  deriving DecidableEq

/-- What the node makes visible. -/
inductive InferenceEvent
  | published (message : InferenceMessage)
  /-- The log line of an exception. -/
  | error (what : String)
  deriving DecidableEq

/-- The event is a message. -/
def InferenceEvent.isMessage : InferenceEvent → Bool
  | published _ => true
  | error _ => false

/-- What the node receives: an acceleration, or the positions of the joints. -/
inductive SensorMessage
  | imu (ax : FloatValue)
  | jointState (position : List FloatValue)
  deriving DecidableEq

/-- The acceleration of a message. -/
def SensorMessage.acceleration : SensorMessage → Option FloatValue
  | imu ax => some ax
  | jointState _ => none

/-- The positions of a message. -/
def SensorMessage.positions : SensorMessage → Option (List FloatValue)
  | imu _ => none
  | jointState position => some position

/-! ### What an answer says -/

/-- The position of the first joint, `0` if there is none. -/
def firstJoint (position : List FloatValue) : FloatValue := position.head?.getD (.finite 0)

/-- What a message says about the latest acceleration and the latest positions received.  With three
joints and a small acceleration all is well; with fewer joints, the first one not far out, there is
a warning. -/
structure InferenceMessage.ScoreOf (r : Rounding single) (ax : FloatValue)
    (position : List FloatValue) (m : InferenceMessage) : Prop where
  features : ∃ a b, ax.cast r = .finite a ∧ (firstJoint position).cast r = .finite b ∧
    m.features = (.finite |a|, .finite |b|, .finite (if 3 ≤ position.length then 0 else 1))
  fits : |m.score| ≤ floatMax
  status : m.status = if 1 / 2 ≤ m.score then "WARN" else "OK"
  slowest : m.durationMs ≤ m.maxMs
  ok : 3 ≤ position.length → ∀ x, ax = .finite x → |x| ≤ 2 → m.status = "OK"
  warn : position.length < 3 → ∀ y, firstJoint position = .finite y → |y| ≤ 2 → m.status = "WARN"

/-- The answer to the latest acceleration and the latest positions, with the duration measured: an
error if one of the two values that are read is not finite as a `float`, a score otherwise. -/
def InferenceEvent.Answers (r : Rounding single) (ax : FloatValue) (position : List FloatValue)
    (durationMs : ℚ) : InferenceEvent → Prop
  | published m => m.durationMs = durationMs ∧ m.ScoreOf r ax position
  | error what => what = "inference feature is not finite" ∧
      (ax.cast r = .notFinite ∨ (firstJoint position).cast r = .notFinite)

/-- The fields of the node. -/
structure InferenceNode where
  hasImu : Bool
  hasJoint : Bool
  latestImuAx : FloatValue
  latestJoint0 : FloatValue
  latestJointCount : ℕ
  stats : InferenceStats
  deriving DecidableEq

namespace InferenceNode

/-- The constructor. -/
def initial : InferenceNode := ⟨false, false, .finite 0, .finite 0, 0, .initial⟩

/-- Both sensors have delivered. -/
def ready (n : InferenceNode) : Bool := n.hasImu && n.hasJoint

/-- The array `features`. -/
def features (n : InferenceNode) : FloatValue × FloatValue × FloatValue :=
  (n.latestImuAx.fabs, n.latestJoint0.fabs, .finite (if 3 ≤ n.latestJointCount then 0 else 1))

variable (r : Rounding single) (d : Rounding double)

/-- `buildPayload`. -/
def buildPayload (n : InferenceNode) (result : InferenceResult) (durationMs : ℚ) :
    InferenceMessage where
  score := result.score
  status := result.status
  durationMs := durationMs
  avgMs := n.stats.averageMs d
  maxMs := n.stats.maxMs
  failures := n.stats.failureCount
  features := n.features

/-- `publishInferenceIfReady`. -/
def publishInferenceIfReady (n : InferenceNode) (durationMs : ℚ) :
    InferenceNode × List InferenceEvent :=
  if n.ready = false then (n, [])
  else
    match runTinyRobotScore r n.features.1 n.features.2.1 n.features.2.2 with
    | .ok result =>
        let n := { n with stats := n.stats.observeSuccess d durationMs }
        (n, [.published (n.buildPayload d result durationMs)])
    | .error what => ({ n with stats := n.stats.observeFailure }, [.error what])

/-- What a callback stores. -/
def store (n : InferenceNode) : SensorMessage → InferenceNode
  | .imu ax => { n with latestImuAx := ax.cast r, hasImu := true }
  | .jointState position =>
      { n with
        latestJoint0 := (position.head?.map (FloatValue.cast r)).getD (.finite 0)
        latestJointCount := position.length
        hasJoint := true }

/-- The callbacks of the two subscriptions. -/
def receive (n : InferenceNode) (message : SensorMessage) (durationMs : ℚ) :
    InferenceNode × List InferenceEvent :=
  (n.store r message).publishInferenceIfReady r d durationMs

/-- The node and the messages that reach it, each with the duration of its inference. -/
def system : System InferenceNode (SensorMessage × ℚ) InferenceEvent where
  init n := n = initial
  step n a := some (n.receive r d a.1 a.2)

/-- A step of this system. -/
abbrev Reception := Transition InferenceNode (SensorMessage × ℚ) InferenceEvent

/-- The acceleration that arrived last. -/
def lastAcceleration (ts : List Reception) : Option FloatValue :=
  (ts.filterMap fun t => t.act.1.acceleration).getLast?

/-- The positions that arrived last. -/
def lastPositions (ts : List Reception) : Option (List FloatValue) :=
  (ts.filterMap fun t => t.act.1.positions).getLast?

/-- Once both sensors have delivered, a message is answered by one event, and before that by
none. -/
def Answered (ts : List Reception) (t : Reception) : Prop :=
  match lastAcceleration (ts ++ [t]), lastPositions (ts ++ [t]) with
  | some ax, some position => ∃ e, t.out = [e] ∧ e.Answers r ax position t.act.2
  | _, _ => t.out = []

variable {r d} {n n' : InferenceNode} {message : SensorMessage} {durationMs : ℚ}
  {out : List InferenceEvent}

/-- Everything the reception of a message can lead to. -/
inductive Receives (r : Rounding single) (d : Rounding double) (n : InferenceNode)
    (message : SensorMessage) (durationMs : ℚ) : InferenceNode → List InferenceEvent → Prop
  | waiting (hready : (n.store r message).ready = false) :
      Receives r d n message durationMs (n.store r message) []
  | published {after result} (hready : (n.store r message).ready = true)
      (hresult : runTinyRobotScore r (n.store r message).features.1 (n.store r message).features.2.1
        (n.store r message).features.2.2 = .ok result)
      (hafter : after = { n.store r message with
        stats := n.stats.observeSuccess d durationMs }) :
      Receives r d n message durationMs after [.published (after.buildPayload d result durationMs)]
  | failed {after what} (hready : (n.store r message).ready = true)
      (hwhat : runTinyRobotScore r (n.store r message).features.1 (n.store r message).features.2.1
        (n.store r message).features.2.2 = .error what)
      (hafter : after = { n.store r message with stats := n.stats.observeFailure }) :
      Receives r d n message durationMs after [.error what]

/-- Storing a message does not touch the statistics. -/
@[simp] lemma store_stats (n : InferenceNode) (message : SensorMessage) :
    (n.store r message).stats = n.stats := by
  cases message <;> rfl

/-- The reception of a message is one of the listed cases. -/
lemma receives (n : InferenceNode) (message : SensorMessage) (durationMs : ℚ) :
    Receives r d n message durationMs (n.receive r d message durationMs).1
      (n.receive r d message durationMs).2 := by
  unfold receive publishInferenceIfReady
  split
  · next hready => exact .waiting hready
  · next hready =>
    have hready' : (n.store r message).ready = true := by simpa using hready
    split
    · next result hresult => exact .published hready' hresult (by simp)
    · next what hwhat => exact .failed hready' hwhat (by simp)

/-- Every step receives a message. -/
lemma receives_of_step {a : SensorMessage × ℚ} (h : (system r d).step n a = some (n', out)) :
    Receives r d n a.1 a.2 n' out := by
  have hstep := receives (r := r) (d := d) n a.1 a.2
  rw [Option.some.inj h] at hstep
  exact hstep

/-! ### What the node knows -/

/-- The position that the node stores. -/
lemma cast_firstJoint (r : Rounding single) (position : List FloatValue) :
    (position.head?.map (FloatValue.cast r)).getD (.finite 0) = (firstJoint position).cast r := by
  cases position with
  | nil =>
    have hzero : r.round 0 = 0 :=
      r.exact 0 (by exact_mod_cast @intCast_mem_single 0 (by decide))
    have hmax : (0 : ℚ) ≤ floatMax := by norm_num [floatMax]
    simp [firstJoint, FloatValue.cast, hzero, hmax]
  | cons x rest => rfl

/-- The fields of the node are those of the messages that arrived last. -/
structure Remembers (r : Rounding single) (ts : List Reception) (n : InferenceNode) : Prop where
  hasImu : n.hasImu = (lastAcceleration ts).isSome
  imuAx : ∀ ax, lastAcceleration ts = some ax → n.latestImuAx = ax.cast r
  hasJoint : n.hasJoint = (lastPositions ts).isSome
  joint0 : ∀ position, lastPositions ts = some position →
    n.latestJoint0 = (firstJoint position).cast r
  jointCount : ∀ position, lastPositions ts = some position → n.latestJointCount = position.length

variable {ts : List Reception} {t : Reception}

lemma lastAcceleration_snoc :
    lastAcceleration (ts ++ [t]) = t.act.1.acceleration.or (lastAcceleration ts) :=
  getLast?_filterMap_snoc _ ts t

lemma lastPositions_snoc :
    lastPositions (ts ++ [t]) = t.act.1.positions.or (lastPositions ts) :=
  getLast?_filterMap_snoc _ ts t

/-- A message is remembered. -/
lemma Remembers.store (h : Remembers r ts n) (hact : t.act.1 = message) :
    Remembers r (ts ++ [t]) (n.store r message) := by
  cases message with
  | imu ax =>
    have hlast : lastAcceleration (ts ++ [t]) = some ax := by
      simp [lastAcceleration_snoc, hact, SensorMessage.acceleration]
    have hsame : lastPositions (ts ++ [t]) = lastPositions ts := by
      simp [lastPositions_snoc, hact, SensorMessage.positions]
    refine ⟨by rw [hlast]; rfl, fun x hx => ?_, ?_, ?_, ?_⟩
    · rw [hlast] at hx
      cases hx
      rfl
    all_goals rw [hsame]
    · exact h.hasJoint
    · exact h.joint0
    · exact h.jointCount
  | jointState position =>
    have hlast : lastPositions (ts ++ [t]) = some position := by
      simp [lastPositions_snoc, hact, SensorMessage.positions]
    have hsame : lastAcceleration (ts ++ [t]) = lastAcceleration ts := by
      simp [lastAcceleration_snoc, hact, SensorMessage.acceleration]
    refine ⟨?_, ?_, by rw [hlast]; rfl, fun x hx => ?_, fun x hx => ?_⟩
    · rw [hsame]
      exact h.hasImu
    · rw [hsame]
      exact h.imuAx
    all_goals
      rw [hlast] at hx
      cases hx
    · exact cast_firstJoint r position
    · rfl

/-- The statistics are not looked up. -/
lemma Remembers.withStats (h : Remembers r ts n) (stats : InferenceStats) :
    Remembers r ts { n with stats := stats } :=
  ⟨h.hasImu, h.imuAx, h.hasJoint, h.joint0, h.jointCount⟩

/-- The node is ready when both sensors have delivered. -/
lemma Remembers.ready (h : Remembers r ts n) (hready : n.ready = true) :
    ∃ ax position, lastAcceleration ts = some ax ∧ lastPositions ts = some position := by
  rw [InferenceNode.ready, h.hasImu, h.hasJoint, Bool.and_eq_true] at hready
  obtain ⟨ax, hax⟩ := Option.isSome_iff_exists.mp hready.1
  obtain ⟨position, hposition⟩ := Option.isSome_iff_exists.mp hready.2
  exact ⟨ax, position, hax, hposition⟩

/-- Before that it is silent. -/
lemma Remembers.answered_of_waiting (h : Remembers r (ts ++ [t]) n) (hready : n.ready = false)
    (hout : t.out = []) : Answered r ts t := by
  unfold Answered
  split
  · next ax position hax hposition =>
    rw [InferenceNode.ready, h.hasImu, h.hasJoint, hax, hposition] at hready
    cases hready
  · exact hout

/-- The features are those of the messages that arrived last. -/
lemma Remembers.features (h : Remembers r ts n) {ax : FloatValue} {position : List FloatValue}
    (hax : lastAcceleration ts = some ax) (hposition : lastPositions ts = some position) :
    n.features = ((ax.cast r).fabs, ((firstJoint position).cast r).fabs,
      .finite (if 3 ≤ position.length then 0 else 1)) := by
  rw [InferenceNode.features, h.imuAx ax hax, h.joint0 position hposition,
    h.jointCount position hposition]

/-- A small number stays small. -/
lemma abs_round_le_two (r : Rounding single) {x : ℚ} (hx : |x| ≤ 2) : |r.round x| ≤ 2 := by
  refine r.abs_round_le ?_ ?_ hx
  · exact_mod_cast @intCast_mem_single 2 (by decide)
  · exact_mod_cast @intCast_mem_single (-2) (by decide)

/-- What is published is a score of the messages that arrived last. -/
lemma Remembers.scoreOf (h : Remembers r ts n) {ax : FloatValue} {position : List FloatValue}
    (hax : lastAcceleration ts = some ax) (hposition : lastPositions ts = some position)
    {result : InferenceResult}
    (hresult : runTinyRobotScore r n.features.1 n.features.2.1 n.features.2.2 = .ok result)
    (hmax : durationMs ≤ n.stats.maxMs) :
    (n.buildPayload d result durationMs).ScoreOf r ax position := by
  have hfeatures := h.features hax hposition
  rw [hfeatures] at hresult
  obtain ⟨a', b', c, ha', hb', hc, rfl⟩ := runScore_eq_ok hresult
  obtain ⟨a, ha, rfl⟩ := FloatValue.exists_of_fabs ha'
  obtain ⟨b, hb, rfl⟩ := FloatValue.exists_of_fabs hb'
  obtain ⟨x, rfl, hx, hafits⟩ := FloatValue.cast_eq_finite ha
  obtain ⟨y, hy, hyround, hbfits⟩ := FloatValue.cast_eq_finite hb
  cases hc
  refine ⟨⟨a, b, ha, hb, ?_⟩, ?_, rfl, hmax, ?_, ?_⟩
  · exact hfeatures.trans (by rw [ha, hb]; rfl)
  · refine (computeScore_fits r ((abs_abs a).trans_le hafits) ((abs_abs b).trans_le hbfits)
      ?_).2.2.2.2.2
    split <;> norm_num
  · rintro hcount z hz hsmall
    cases hz
    have ha2 : |a| ≤ 2 := hx ▸ abs_round_le_two r hsmall
    have hscore := computeScore_le r ha2 (abs_nonneg b)
    show (if 1 / 2 ≤ computeScore r |a| |b| (if 3 ≤ position.length then 0 else 1) then "WARN"
      else "OK") = "OK"
    rw [if_pos hcount]
    exact if_neg (not_le.mpr (lt_of_le_of_lt hscore (by norm_num)))
  · rintro hcount z hz hsmall
    rw [hy] at hz
    cases hz
    have hb2 : |b| ≤ 2 := hyround ▸ abs_round_le_two r hsmall
    have hscore := le_computeScore r (abs_nonneg a) hb2
    show (if 1 / 2 ≤ computeScore r |a| |b| (if 3 ≤ position.length then 0 else 1) then "WARN"
      else "OK") = "WARN"
    rw [if_neg (not_le.mpr hcount)]
    exact if_pos (le_trans (by norm_num) hscore)

/-- An error comes from a value that is not finite. -/
lemma Remembers.notFinite (h : Remembers r ts n) {ax : FloatValue} {position : List FloatValue}
    (hax : lastAcceleration ts = some ax) (hposition : lastPositions ts = some position)
    {what : String}
    (hwhat : runTinyRobotScore r n.features.1 n.features.2.1 n.features.2.2 = .error what) :
    InferenceEvent.Answers r ax position durationMs (.error what) := by
  rw [h.features hax hposition] at hwhat
  cases ha : ax.cast r with
  | notFinite =>
    rw [ha] at hwhat
    cases hwhat
    exact ⟨rfl, .inl ha⟩
  | finite a =>
    cases hb : (firstJoint position).cast r with
    | notFinite =>
      rw [ha, hb] at hwhat
      cases hwhat
      exact ⟨rfl, .inr hb⟩
    | finite b =>
      rw [ha, hb] at hwhat
      cases hwhat

/-! ### Whole runs -/

/-- Every message is answered as it has to be, the counters are right, and the largest duration is
recorded. -/
structure Accounts (r : Rounding single) (ts : List Reception) (n : InferenceNode) : Prop where
  answered : EveryStep (Answered r) ts
  successes : n.stats.successCount = (observations ts).countP InferenceEvent.isMessage % 2 ^ 64
  failures : n.stats.failureCount =
    (observations ts).countP (fun e => !e.isMessage) % 2 ^ 64
  slowest : ∀ m, .published m ∈ observations ts → m.durationMs ≤ n.stats.maxMs
  attained : n.stats.maxMs = 0 ∨ ∃ m, .published m ∈ observations ts ∧
    m.durationMs = n.stats.maxMs

/-- Every step is remembered. -/
lemma Remembers.step {a : SensorMessage × ℚ} (h : Remembers r ts n)
    (hstep : (system r d).step n a = some (n', out)) :
    Remembers r (ts ++ [⟨n, a, n', out⟩]) n' := by
  have hstored := h.store (t := ⟨n, a, n', out⟩) rfl
  cases receives_of_step hstep with
  | waiting => exact hstored
  | published _ _ hafter | failed _ _ hafter =>
    rw [hafter] at hstored ⊢
    exact hstored.withStats _

/-- Every step is answered. -/
lemma Remembers.answered {a : SensorMessage × ℚ} (h : Remembers r ts n)
    (hstep : (system r d).step n a = some (n', out)) : Answered r ts ⟨n, a, n', out⟩ := by
  have hstored := h.store (t := ⟨n, a, n', out⟩) rfl
  have hafter := h.step hstep
  cases receives_of_step hstep with
  | waiting hready => exact hstored.answered_of_waiting hready rfl
  | @published after result hready hresult hstats =>
    obtain ⟨ax, position, hax, hposition⟩ := hstored.ready hready
    have hscore : runTinyRobotScore r n'.features.1 n'.features.2.1 n'.features.2.2 =
        .ok result := by
      rw [hstats]
      exact hresult
    have hmax : a.2 ≤ n'.stats.maxMs := by
      rw [hstats]
      exact InferenceStats.le_maxMs_observeSuccess
    unfold Answered
    rw [hax, hposition]
    exact ⟨_, rfl, rfl, hafter.scoreOf hax hposition hscore hmax⟩
  | failed hready hwhat =>
    obtain ⟨ax, position, hax, hposition⟩ := hstored.ready hready
    unfold Answered
    rw [hax, hposition]
    exact ⟨_, rfl, hstored.notFinite hax hposition hwhat⟩

/-- Every step keeps the accounts. -/
lemma Accounts.step {a : SensorMessage × ℚ} (h : Accounts r ts n) (hn : Remembers r ts n)
    (hstep : (system r d).step n a = some (n', out)) :
    Accounts r (ts ++ [⟨n, a, n', out⟩]) n' := by
  have hanswered := everyStep_snoc.mpr ⟨h.answered, hn.answered hstep⟩
  cases receives_of_step hstep with
  | waiting hready =>
    refine ⟨hanswered, ?_, ?_, ?_, ?_⟩
    all_goals simp only [observations_append, observations_singleton, List.append_nil, store_stats]
    · exact h.successes
    · exact h.failures
    · exact h.slowest
    · exact h.attained
  | @published after result hready hresult hafter =>
    have hstats : n'.stats = n.stats.observeSuccess d a.2 := by rw [hafter]
    refine ⟨hanswered, ?_, ?_, ?_, ?_⟩
    all_goals simp only [observations_append, observations_singleton, List.countP_append, hstats,
      List.mem_append, List.mem_singleton]
    · simp only [InferenceStats.observeSuccess, h.successes]
      exact Nat.mod_add_mod _ _ _
    · exact h.failures
    · rintro m (hm | hm)
      · exact (h.slowest m hm).trans InferenceStats.maxMs_le_observeSuccess
      · cases hm
        exact InferenceStats.le_maxMs_observeSuccess
    · rcases @InferenceStats.maxMs_observeSuccess d n.stats a.2 with hmax | hmax
      · rw [hmax]
        exact h.attained.imp_right fun ⟨m, hm, hduration⟩ => ⟨m, .inl hm, hduration⟩
      · exact .inr ⟨_, .inr rfl, hmax.symm⟩
  | failed hready hwhat hafter =>
    have hstats : n'.stats = n.stats.observeFailure := by rw [hafter]
    refine ⟨hanswered, ?_, ?_, ?_, ?_⟩
    all_goals simp only [observations_append, observations_singleton, List.countP_append, hstats,
      List.mem_append, List.mem_singleton, reduceCtorEq, or_false]
    · exact h.successes
    · simp only [InferenceStats.observeFailure, h.failures]
      exact Nat.mod_add_mod _ _ _
    · exact h.slowest
    · exact h.attained

/-- What is remembered in a run. -/
lemma remembers_of_run (h : (system r d).Run ts n) : Remembers r ts n := by
  refine h.invariant_history (I := Remembers r) ?_ fun ts n a n' out _ ih hstep => ih.step hstep
  rintro n rfl
  exact ⟨rfl, by simp [lastAcceleration], rfl, by simp [lastPositions], by simp [lastPositions]⟩

/-- **The accounts of the inference node.**  In every run, whatever the sensors send and however the
float operations round, each message that arrives once both sensors have delivered is answered with
a score of the values received last or, when one of them is not finite as a `float`, with an error;
both are counted, and the largest duration is that of a score. -/
theorem inferenceNode_accounts (h : (system r d).Run ts n) : Accounts r ts n := by
  refine h.invariant_history (I := Accounts r) ?_ fun ts n a n' out hrun ih hstep =>
    ih.step (remembers_of_run hrun) hstep
  rintro n rfl
  exact ⟨everyStep_nil, rfl, rfl, by simp, .inl rfl⟩

/-- Two joints are missing at first, and then the acceleration is too large for a `float`. -/
def missingJoints : List (SensorMessage × ℚ) :=
  [(.imu (.finite 1), 1), (.jointState [.finite 0], 3), (.imu (.finite (2 ^ 128)), 2)]

/-- The second message is answered with a warning, the third one with an error. -/
theorem inferenceNode_accounts_missingJoints :
    ∃ ts n, (system (.none single) (.none double)).Run ts n ∧
      (observations ts).map InferenceEvent.isMessage = [true, false] ∧
        Accounts (.none single) ts n := by
  obtain ⟨ts, n, hrun, hevents⟩ := (system (.none single) (.none double)).exists_run missingJoints
    (fun ts _ => (observations ts).map InferenceEvent.isMessage = [true, false]) rfl
    (by decide +kernel)
  exact ⟨ts, n, hrun, hevents, inferenceNode_accounts hrun⟩

end InferenceNode

/-! ### The node behind the simulator -/

/-- The sine and the cosine of the library; what the simulator sends of the cosine is not read. -/
structure Oscillation where
  sin : ℚ → ℚ
  cos : ℚ → ℚ
  abs_sin_le : ∀ t, |sin t| ≤ 1

/-- The node, and the two topics with the sequence number of the simulator. -/
structure SimulatedInference where
  sequence : ℕ
  imuTopic : List FloatValue
  jointTopic : List (List FloatValue)
  node : InferenceNode

/-- What can happen. -/
inductive SimulatedInferenceAct
  /-- The timer of the simulator fires. -/
  | publishSensors
  /-- A message gets lost. -/
  | loseImu (i : ℕ)
  | loseJoint (i : ℕ)
  /-- The next message of a topic reaches the node. -/
  | imu (durationMs : ℚ)
  | jointState (durationMs : ℚ)

namespace SimulatedInference

variable (r : Rounding single) (d : Rounding double) (w : Oscillation)

/-- `t` of `publishSensors`. -/
def time (sequence : ℕ) : ℚ := d.mul (d.round sequence) (d.round (1 / 10))

/-- `linear_acceleration.x`. -/
def imuAx (t : ℚ) : FloatValue := .finite (d.mul (d.round (1 / 10)) (w.sin t))

/-- `position`. -/
def position (t : ℚ) : List FloatValue :=
  [.finite (d.mul (d.round (1 / 2)) (w.sin t)), .finite (d.mul (d.round (1 / 4)) (w.cos t)),
    .finite (d.mul (d.round (1 / 10)) (w.sin (d.mul (d.round (1 / 2)) t)))]

/-- `publishSensors`. -/
def publishSensors (s : SimulatedInference) : SimulatedInference :=
  let sequence := (s.sequence + 1) % 2 ^ 64
  { s with
    sequence := sequence
    imuTopic := keepLast 5 s.imuTopic (imuAx d w (time d sequence))
    jointTopic := keepLast 5 s.jointTopic (position d w (time d sequence)) }

/-- A step of the simulator, the topics or the node. -/
def step (s : SimulatedInference) :
    SimulatedInferenceAct → Option (SimulatedInference × List InferenceEvent)
  | .publishSensors => some (s.publishSensors d w, [])
  | .loseImu i => some ({ s with imuTopic := s.imuTopic.eraseIdx i }, [])
  | .loseJoint i => some ({ s with jointTopic := s.jointTopic.eraseIdx i }, [])
  | .imu durationMs =>
      match s.imuTopic with
      | [] => none
      | ax :: rest =>
          let after := s.node.receive r d (.imu ax) durationMs
          some ({ s with imuTopic := rest, node := after.1 }, after.2)
  | .jointState durationMs =>
      match s.jointTopic with
      | [] => none
      | position :: rest =>
          let after := s.node.receive r d (.jointState position) durationMs
          some ({ s with jointTopic := rest, node := after.1 }, after.2)

/-- The simulator and the node, both freshly started. -/
def system : System SimulatedInference SimulatedInferenceAct InferenceEvent where
  init s := s = ⟨0, [], [], .initial⟩
  step := step r d w

variable {r d w} {s s' : SimulatedInference} {a : SimulatedInferenceAct} {out : List InferenceEvent}

/-- The value is finite and at most one in size. -/
def Small : FloatValue → Prop
  | .finite x => |x| ≤ 1
  | .notFinite => False

/-- Three positions, the first one small. -/
def SmallPosition (position : List FloatValue) : Prop :=
  position.length = 3 ∧ ∀ x, position.head? = some x → Small x

/-- Casts keep values small. -/
lemma Small.cast {x : FloatValue} (h : Small x) : Small (x.cast r) := by
  cases x with
  | finite x =>
    have hround : |r.round x| ≤ 1 := by
      refine r.abs_round_le ?_ ?_ h
      · exact_mod_cast @intCast_mem_single 1 (by decide)
      · exact_mod_cast @intCast_mem_single (-1) (by decide)
    have hfits : |r.round x| ≤ floatMax := hround.trans (by norm_num [floatMax])
    rw [FloatValue.cast, if_pos hfits]
    exact hround
  | notFinite => cases h

/-- A small value of the oscillation. -/
lemma small_mul {x y : ℚ} (hx : 0 ≤ x) (hx1 : x ≤ 1) (hy : |y| ≤ 1) :
    Small (.finite (d.mul (d.round x) y)) := by
  have hzero : (0 : ℚ) ∈ double := by exact_mod_cast @intCast_mem_double 0 (by decide)
  have hone : (1 : ℚ) ∈ double := by exact_mod_cast @intCast_mem_double 1 (by decide)
  have hneg : (-1 : ℚ) ∈ double := by exact_mod_cast @intCast_mem_double (-1) (by decide)
  refine d.abs_round_le hone hneg ?_
  rw [abs_mul, abs_of_nonneg (d.le_round hzero hx)]
  exact mul_le_one₀ (d.round_le hone hx1) (abs_nonneg y) hy

/-- The latest values are small, and no inference has failed. -/
structure CalmNode (n : InferenceNode) : Prop where
  imu : n.hasImu = true → Small n.latestImuAx
  joint : n.hasJoint = true → Small n.latestJoint0 ∧ n.latestJointCount = 3
  failures : n.stats.failureCount = 0

/-- A message without extremes. -/
def CalmMessage : SensorMessage → Prop
  | .imu ax => Small ax
  | .jointState position => SmallPosition position

/-- A score that is no warning. -/
def CalmEvent (e : InferenceEvent) : Prop :=
  ∃ m, e = .published m ∧ m.status = "OK" ∧ m.score ≤ 59 / 128

variable {n n' : InferenceNode} {message : SensorMessage} {durationMs : ℚ}

/-- Storing a calm message. -/
lemma CalmNode.store (h : CalmNode n) (hmessage : CalmMessage message) :
    CalmNode (n.store r message) := by
  cases message with
  | imu ax => exact ⟨fun _ => Small.cast hmessage, h.joint, h.failures⟩
  | jointState position =>
    refine ⟨h.imu, fun _ => ⟨?_, hmessage.1⟩, h.failures⟩
    obtain ⟨x, rest, rfl⟩ := List.exists_cons_of_length_pos (by rw [hmessage.1]; decide)
    exact Small.cast (hmessage.2 x rfl)

/-- The score of calm values. -/
lemma CalmNode.score (h : CalmNode n) (hready : n.ready = true) :
    ∃ score, score ≤ 59 / 128 ∧
      runTinyRobotScore r n.features.1 n.features.2.1 n.features.2.2 = .ok ⟨score, "OK"⟩ := by
  simp only [InferenceNode.ready, Bool.and_eq_true] at hready
  have himu := h.imu hready.1
  obtain ⟨hjoint, hcount⟩ := h.joint hready.2
  cases hx : n.latestImuAx with
  | notFinite =>
    rw [hx] at himu
    cases himu
  | finite x =>
    cases hy : n.latestJoint0 with
    | notFinite =>
      rw [hy] at hjoint
      cases hjoint
    | finite y =>
      rw [hx] at himu
      have hsmall : |x| ≤ 2 := himu.trans (by norm_num)
      have hscore := computeScore_le r hsmall (abs_nonneg y)
      refine ⟨_, hscore, ?_⟩
      simp only [runTinyRobotScore, InferenceNode.features, hx, hy, hcount, FloatValue.fabs,
        le_refl, if_true, runScore]
      rw [if_neg (not_le.mpr (lt_of_le_of_lt hscore (by norm_num)))]

/-- A calm node answers calm messages calmly. -/
lemma CalmNode.receive (h : CalmNode n) (hmessage : CalmMessage message)
    (hreceives : InferenceNode.Receives r d n message durationMs n' out) :
    CalmNode n' ∧ ∀ e ∈ out, CalmEvent e := by
  have hstored := h.store (r := r) hmessage
  cases hreceives with
  | waiting => exact ⟨hstored, by simp⟩
  | published hready hresult hafter =>
    obtain ⟨score, hle, hscore⟩ := hstored.score (r := r) hready
    rw [hscore] at hresult
    cases hresult
    refine ⟨?_, fun e he => ⟨_, List.mem_singleton.mp he, rfl, hle⟩⟩
    rw [hafter]
    exact ⟨hstored.imu, hstored.joint, h.failures⟩
  | failed hready hwhat =>
    obtain ⟨score, -, hscore⟩ := hstored.score (r := r) hready
    rw [hscore] at hwhat
    cases hwhat

/-- What is under way is calm, and so is the node. -/
structure Calm (s : SimulatedInference) : Prop where
  imuTopic : ∀ x ∈ s.imuTopic, Small x
  jointTopic : ∀ x ∈ s.jointTopic, SmallPosition x
  node : CalmNode s.node

/-- The simulator sends calm messages. -/
lemma small_imuAx (t : ℚ) : Small (imuAx d w t) :=
  small_mul (by norm_num) (by norm_num) (w.abs_sin_le t)

/-- The simulator sends three positions. -/
lemma smallPosition_position (t : ℚ) : SmallPosition (position d w t) := by
  refine ⟨rfl, fun x hx => ?_⟩
  cases hx
  exact small_mul (by norm_num) (by norm_num) (w.abs_sin_le t)

/-- Every step keeps the calm. -/
lemma Calm.step (h : Calm s) (hstep : s.step r d w a = some (s', out)) :
    Calm s' ∧ ∀ e ∈ out, CalmEvent e := by
  cases a with
  | publishSensors =>
    cases hstep
    refine ⟨⟨fun x hx => ?_, fun x hx => ?_, h.node⟩, by simp⟩
    · rcases List.mem_append.mp ((keepLast_sublist _ _ _).subset hx) with hold | hnew
      · exact h.imuTopic x hold
      · cases List.mem_singleton.mp hnew
        exact small_imuAx _
    · rcases List.mem_append.mp ((keepLast_sublist _ _ _).subset hx) with hold | hnew
      · exact h.jointTopic x hold
      · cases List.mem_singleton.mp hnew
        exact smallPosition_position _
  | loseImu i =>
    cases hstep
    exact ⟨⟨fun x hx => h.imuTopic x (List.mem_of_mem_eraseIdx hx), h.jointTopic, h.node⟩, by simp⟩
  | loseJoint i =>
    cases hstep
    exact ⟨⟨h.imuTopic, fun x hx => h.jointTopic x (List.mem_of_mem_eraseIdx hx), h.node⟩, by simp⟩
  | imu durationMs =>
    simp only [SimulatedInference.step] at hstep
    split at hstep
    · cases hstep
    · next ax rest htopic =>
      cases hstep
      have himu := h.imuTopic
      rw [htopic] at himu
      have hmessage : CalmMessage (.imu ax) := himu ax List.mem_cons_self
      obtain ⟨hnode, hout⟩ := h.node.receive hmessage (InferenceNode.receives _ _ _)
      exact ⟨⟨fun x hx => himu x (List.mem_cons_of_mem _ hx), h.jointTopic, hnode⟩, hout⟩
  | jointState durationMs =>
    simp only [SimulatedInference.step] at hstep
    split at hstep
    · cases hstep
    · next position rest htopic =>
      cases hstep
      have hjoint := h.jointTopic
      rw [htopic] at hjoint
      have hmessage : CalmMessage (.jointState position) := hjoint position List.mem_cons_self
      obtain ⟨hnode, hout⟩ := h.node.receive hmessage (InferenceNode.receives _ _ _)
      exact ⟨⟨h.imuTopic, fun x hx => hjoint x (List.mem_cons_of_mem _ hx), hnode⟩, hout⟩

/-- **The simulated robot raises no warning.**  In every run of the simulator and the inference
node, whatever the topics lose and however the float operations round, every message that the node
answers gets a score below the threshold, with the status `OK`, and no inference fails. -/
theorem simulatedInference_ok
    {ts : List (Transition SimulatedInference SimulatedInferenceAct InferenceEvent)}
    (h : (system r d w).Run ts s) :
    s.node.stats.failureCount = 0 ∧ ∀ e ∈ observations ts,
      ∃ m, e = .published m ∧ m.status = "OK" ∧ m.score ≤ 59 / 128 := by
  have hcalm : Calm s ∧ ∀ e ∈ observations ts, CalmEvent e := by
    refine h.invariant_history
      (I := fun ts s => Calm s ∧ ∀ e ∈ observations ts, CalmEvent e) ?_ ?_
    · rintro s rfl
      exact ⟨⟨by simp, by simp, ⟨by simp [InferenceNode.initial], by simp [InferenceNode.initial],
        rfl⟩⟩, by simp⟩
    · rintro ts s a s' out - ⟨hcalm, hold⟩ hstep
      obtain ⟨hcalm', hnew⟩ := hcalm.step hstep
      refine ⟨hcalm', fun e he => ?_⟩
      rw [observations_append, observations_singleton] at he
      exact (List.mem_append.mp he).elim (hold e) (hnew e)
  exact ⟨hcalm.1.node.failures, hcalm.2⟩

/-- An approximation of the sine, cut off at `-1` and `1`. -/
def taylor : Oscillation where
  sin t := max (-1) (min 1 (t - t ^ 3 / 6 + t ^ 5 / 120))
  cos t := max (-1) (min 1 (1 - t ^ 2 / 2 + t ^ 4 / 24))
  abs_sin_le t := abs_le.mpr ⟨le_max_left _ _, max_le (by norm_num) (min_le_left _ _)⟩

/-- Two rounds of the simulator; the second acceleration gets lost. -/
def lostAcceleration : List SimulatedInferenceAct :=
  [.publishSensors, .imu 1, .jointState 2, .publishSensors, .loseImu 0, .jointState 1]

/-- Two scores are published. -/
theorem simulatedInference_ok_lostAcceleration :
    ∃ ts s, (system (.none single) (.none double) taylor).Run ts s ∧
      (observations ts).length = 2 ∧ s.node.stats.failureCount = 0 ∧
        ∀ e ∈ observations ts, ∃ m, e = .published m ∧ m.status = "OK" ∧ m.score ≤ 59 / 128 := by
  obtain ⟨ts, s, hrun, hlength⟩ := (system (.none single) (.none double) taylor).exists_run
    lostAcceleration (fun ts _ => (observations ts).length = 2) rfl (by decide +kernel)
  exact ⟨ts, s, hrun, hlength, simulatedInference_ok hrun⟩

end SimulatedInference

end SystemsDemos
