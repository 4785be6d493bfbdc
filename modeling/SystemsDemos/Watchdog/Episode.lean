import SystemsDemos.Watchdog.Node

/-!
# Timeout episodes of the watchdog

Whether every timeout episode is signalled.  The latch `fault_triggered_` is set by the first
response and never cleared, so the ticks before that response signal every timeout they find and
the ticks after it signal none (`watchdog_latch_iff`, `watchdog_episodes_signalled_iff`).

### Outline

* `VerdictAt`, `StaysTimedOut` and `Signalled`, what a tick says about a node;
* the latch against the responses of a run;
* `FindsEpisode`, the tick at which an episode begins, and `EpisodesSignalled`, with the runs that
  have this property.
-/

namespace SystemsDemos

/-- The transitions of the watchdog. -/
abbrev WatchdogTransition := Transition WatchdogState WatchdogAction WatchdogEvent

/-! ### Ticks -/

/-- The transition is a tick that classifies the node so. -/
def VerdictAt (node : Text) (v : NodeVerdict) (t : WatchdogTransition) : Prop :=
  ∃ now serviceIsReady, t.act = .checkTimeouts now serviceIsReady ∧
    verdict t.pre.node.heartbeatTable node now = some v

/-- The transition is no tick that classifies the node otherwise. -/
def StaysTimedOut (node : Text) (t : WatchdogTransition) : Prop :=
  ∀ now serviceIsReady, t.act = .checkTimeouts now serviceIsReady →
    verdict t.pre.node.heartbeatTable node now = some .timeout

/-- The transition sends a request for a fault. -/
def SendsRequest (t : WatchdogTransition) : Prop := .request "SensorTimeout" ∈ t.out

/-- The service is ready if the transition is a tick. -/
def ReadyAt (t : WatchdogTransition) : Prop :=
  match t.act with
  | .checkTimeouts _ serviceIsReady => serviceIsReady = true
  | _ => True

instance : DecidablePred ReadyAt := fun t =>
  match h : t.act with
  | .checkTimeouts _ serviceIsReady =>
      decidable_of_iff (serviceIsReady = true) (by simp [ReadyAt, h])
  | .heartbeat _ => isTrue (by simp [ReadyAt, h])
  | .response => isTrue (by simp [ReadyAt, h])

/-- A timeout found at `t` is signalled: a request is sent at `t` or later, while the node stays
timed out. -/
def Signalled (node : Text) (t : WatchdogTransition) (later : List WatchdogTransition) : Prop :=
  ∃ us u vs, t :: later = us ++ u :: vs ∧ SendsRequest u ∧ ∀ v ∈ us ++ [u], StaysTimedOut node v

/-! ### The latch -/

/-- The latch is set exactly when a response has arrived. -/
theorem watchdog_latch_iff {ts : List WatchdogTransition} {s : WatchdogState}
    (h : watchdog.Run ts s) :
    s.node.faultTriggered = true ↔ ∃ t ∈ ts, t.act = .response := by
  induction h with
  | start hinit =>
    obtain rfl := hinit
    simp [WatchdogNode.initial]
  | @snoc ts s s' a out hrun hstep ih =>
    have hsplit : (∃ t ∈ ts ++ [(⟨s, a, s', out⟩ : WatchdogTransition)], t.act = .response) ↔
        (∃ t ∈ ts, t.act = .response) ∨ a = .response := by
      constructor
      · rintro ⟨t, ht, hact⟩
        rcases List.mem_append.mp ht with ht | ht
        · exact Or.inl ⟨t, ht, hact⟩
        · obtain rfl := List.mem_singleton.mp ht
          exact Or.inr hact
      · rintro (⟨t, ht, hact⟩ | hact)
        · exact ⟨t, List.mem_append_left _ ht, hact⟩
        · exact ⟨_, List.mem_append_right _ (List.mem_singleton.mpr rfl), hact⟩
    rw [hsplit, ← ih]
    cases a with
    | heartbeat payload =>
      obtain ⟨-, -, hlatch, -⟩ := WatchdogState.step_heartbeat hstep
      simp [hlatch]
    | checkTimeouts now serviceIsReady =>
      obtain ⟨-, -, hnode, -⟩ := WatchdogState.step_checkTimeouts hstep
      simp [hnode]
    | response =>
      obtain ⟨-, -, hpost, -⟩ := WatchdogState.step_response hstep
      simp [hpost, WatchdogNode.onResponse]

/-- A request is sent by a tick that finds a timeout and the latch clear. -/
lemma latch_clear_of_sendsRequest {t : WatchdogTransition} (hvalid : watchdog.Valid t)
    (h : SendsRequest t) : t.pre.node.faultTriggered = false := by
  obtain ⟨s, a, s', out⟩ := t
  have hsent : .request "SensorTimeout" ∈ out := h
  have hstep : s.step a = some (s', out) := hvalid
  cases a with
  | heartbeat payload =>
    obtain ⟨-, -, -, -, -, hnone⟩ := WatchdogState.step_heartbeat hstep
    exact absurd hsent (hnone "SensorTimeout")
  | response =>
    obtain ⟨-, -, -, hout⟩ := WatchdogState.step_response hstep
    rw [hout] at hsent
    cases hsent
  | checkTimeouts now serviceIsReady =>
    obtain ⟨-, -, -, -, hout⟩ := WatchdogState.step_checkTimeouts hstep
    change s.node.faultTriggered = false
    by_contra hclear
    have hset : s.node.faultTriggered = true := Bool.eq_true_of_not_eq_false hclear
    have hnone : s.node.checkTimeouts now serviceIsReady = [] := by
      simp [WatchdogNode.checkTimeouts, hset]
    rw [hout, hnone] at hsent
    cases hsent

/-- A tick that finds a timeout, the latch clear and the service ready sends a request. -/
lemma sendsRequest_of_latch_clear {t : WatchdogTransition} (hvalid : watchdog.Valid t)
    {node : Text} (htimeout : VerdictAt node .timeout t) (hready : ReadyAt t)
    (hclear : t.pre.node.faultTriggered = false) : SendsRequest t := by
  obtain ⟨s, a, s', out⟩ := t
  obtain ⟨now, serviceIsReady, hact, hverdict⟩ := htimeout
  obtain rfl : a = .checkTimeouts now serviceIsReady := hact
  obtain rfl : serviceIsReady = true := hready
  obtain ⟨-, -, -, -, hout⟩ := WatchdogState.step_checkTimeouts hvalid
  have hany : anyTimeout s.node.heartbeatTable now = true := anyTimeout_of_verdict hverdict
  have hlatch : s.node.faultTriggered = false := hclear
  have hsent : s.node.checkTimeouts now true = ["SensorTimeout"] := by
    simp [WatchdogNode.checkTimeouts, hany, hlatch]
  have hrequest : out = [.request "SensorTimeout"] := by
    rw [hsent] at hout
    exact hout
  change _ ∈ out
  rw [hrequest]
  exact List.mem_singleton.mpr rfl

/-! ### Episodes -/

/-- A timeout is signalled exactly when no response has arrived before the tick that finds it. -/
lemma signalled_iff {us vs : List WatchdogTransition} {t : WatchdogTransition} {s : WatchdogState}
    (h : watchdog.Run (us ++ t :: vs) s) {node : Text} (htimeout : VerdictAt node .timeout t)
    (hready : ReadyAt t) : Signalled node t vs ↔ ∀ u ∈ us, u.act ≠ .response := by
  constructor
  · rintro ⟨ws, x, xs, hcut, hsends, -⟩ u hu hact
    have hrun : watchdog.Run ((us ++ ws) ++ x :: xs) s := by
      rw [List.append_assoc, ← hcut]
      exact h
    obtain ⟨hbefore, hvalid⟩ := hrun.split
    have hset : x.pre.node.faultTriggered = true :=
      (watchdog_latch_iff hbefore).mpr ⟨u, List.mem_append_left _ hu, hact⟩
    rw [latch_clear_of_sendsRequest hvalid hsends] at hset
    cases hset
  · intro hnone
    obtain ⟨hbefore, hvalid⟩ := h.split
    have hclear : t.pre.node.faultTriggered = false := by
      by_contra hset
      obtain ⟨u, hu, hact⟩ :=
        (watchdog_latch_iff hbefore).mp (Bool.eq_true_of_not_eq_false hset)
      exact hnone u hu hact
    refine ⟨[], t, vs, rfl, sendsRequest_of_latch_clear hvalid htimeout hready hclear, ?_⟩
    intro v hv
    obtain rfl : v = t := by simpa using hv
    obtain ⟨now, serviceIsReady, hact, hverdict⟩ := htimeout
    intro now' serviceIsReady' hact'
    obtain ⟨rfl, rfl⟩ := WatchdogAction.checkTimeouts.inj (hact.symm.trans hact')
    exact hverdict

/-- After the steps `us` the tick `t` finds a timeout episode of the node: it is the first one that
finds the node timed out since a tick has found it alive. -/
def FindsEpisode (node : Text) (us : List WatchdogTransition) (t : WatchdogTransition) : Prop :=
  VerdictAt node .timeout t ∧ ∃ ws u xs, us = ws ++ u :: xs ∧ VerdictAt node .ok u ∧
    ∀ x ∈ xs, ¬VerdictAt node .timeout x

/-- Every timeout episode of the run is signalled. -/
def EpisodesSignalled (ts : List WatchdogTransition) : Prop :=
  ∀ us t vs node, ts = us ++ t :: vs → FindsEpisode node us t → Signalled node t vs

/-- No response arrives before the tick at which a timeout episode is found. -/
def EpisodesPrecedeResponses (ts : List WatchdogTransition) : Prop :=
  ∀ us t vs node, ts = us ++ t :: vs → FindsEpisode node us t → ∀ u ∈ us, u.act ≠ .response

/-- **Every timeout episode of a run is signalled exactly when no response has arrived before any
of them is found.**  The latch that a response sets stays set when the node recovers and the
runtime leaves `Fault`, so every episode behind the first response goes unsignalled. -/
theorem watchdog_episodes_signalled_iff {ts : List WatchdogTransition} {s : WatchdogState}
    (h : watchdog.Run ts s) (hready : ∀ t ∈ ts, ReadyAt t) :
    EpisodesSignalled ts ↔ EpisodesPrecedeResponses ts := by
  constructor
  · intro hsignalled us t vs node hcut hfinds
    have hsent := hsignalled us t vs node hcut hfinds
    subst hcut
    exact (signalled_iff h hfinds.1 (hready t (by simp))).mp hsent
  · intro hprecede us t vs node hcut hfinds
    have hnone := hprecede us t vs node hcut hfinds
    subst hcut
    exact (signalled_iff h hfinds.1 (hready t (by simp))).mpr hnone

/-- The first loss of node `a`: it is heard at time 0, checked at time 1000 and found timed out at
time 4000. -/
def firstLoss : List WatchdogAction :=
  [.heartbeat "node=a stamp_ms=0".toList, .checkTimeouts 1000 true, .checkTimeouts 4000 true]

/-- Only node `a` is in the table after its first heartbeat. -/
lemma eq_of_verdict_firstLoss {node : Text} {now : Int64} {v : NodeVerdict}
    (h : verdict (watchdogHandleHeartbeat ∅ "node=a stamp_ms=0".toList).1 node now = some v) :
    node = "a".toList := by
  by_contra hne
  obtain ⟨record, hlookup, -⟩ := Option.map_eq_some_iff.mp h
  have hinsert : (watchdogHandleHeartbeat ∅ "node=a stamp_ms=0".toList).1 =
      AList.insert "a".toList ⟨⟨0, 0, "UNKNOWN".toList, "unknown".toList⟩, true⟩ ∅ := rfl
  rw [hinsert, AList.lookup_insert_ne hne] at hlookup
  cases hlookup

/-- The first loss is signalled, and a tick that finds it again after the response begins no other
episode. -/
theorem watchdog_episodes_signalled_firstLoss :
    ∃ ts s, watchdog.Run ts s ∧
      ts.map Transition.act = firstLoss ++ [.response, .checkTimeouts 5000 true] ∧
      EpisodesSignalled ts := by
  have hrun := System.run_of_exec watchdog
    (firstLoss ++ [.response, .checkTimeouts 5000 true]) rfl rfl
  refine ⟨_, _, hrun, rfl,
    (watchdog_episodes_signalled_iff hrun (forall_of_all rfl)).mpr ?_⟩
  rintro us t vs node hcut ⟨htimeout, ws, u, xs, rfl, hok, hno⟩ w hw hact
  obtain ⟨now, serviceIsReady, htick, hverdict⟩ := htimeout
  obtain ⟨now', serviceIsReady', htick', hverdict'⟩ := hok
  rcases ws with _ | ⟨w₁, _ | ⟨w₂, _ | ⟨w₃, _ | ⟨w₄, ws⟩⟩⟩⟩
  · obtain ⟨rfl, -⟩ := List.cons.inj hcut
    cases htick'
  · -- the tick at 1000 has found the node alive
    obtain ⟨rfl, hcut₁⟩ := List.cons.inj hcut
    obtain ⟨rfl, hcut₂⟩ := List.cons.inj hcut₁
    rcases xs with _ | ⟨x₁, _ | ⟨x₂, xs⟩⟩
    · simp only [List.cons_append, List.nil_append, List.mem_cons, List.not_mem_nil, or_false] at hw
      rcases hw with rfl | rfl <;> cases hact
    · obtain ⟨-, hcut₃⟩ := List.cons.inj hcut₂
      obtain ⟨rfl, -⟩ := List.cons.inj hcut₃
      cases htick
    · obtain ⟨rfl, -⟩ := List.cons.inj hcut₂
      obtain rfl := eq_of_verdict_firstLoss hverdict'
      exact hno _ List.mem_cons_self ⟨4000, true, rfl, rfl⟩
  · -- the tick at 4000 has not
    obtain ⟨-, hcut₁⟩ := List.cons.inj hcut
    obtain ⟨-, hcut₂⟩ := List.cons.inj hcut₁
    obtain ⟨rfl, -⟩ := List.cons.inj hcut₂
    obtain ⟨rfl, -⟩ := WatchdogAction.checkTimeouts.inj htick'
    obtain rfl := eq_of_verdict_firstLoss hverdict'
    cases hverdict'
  · obtain ⟨-, hcut₁⟩ := List.cons.inj hcut
    obtain ⟨-, hcut₂⟩ := List.cons.inj hcut₁
    obtain ⟨-, hcut₃⟩ := List.cons.inj hcut₂
    obtain ⟨rfl, -⟩ := List.cons.inj hcut₃
    cases htick'
  · have hlength := congrArg List.length hcut
    simp at hlength
    omega

/-- A second loss of node `a`, after the first one has been answered: it is heard again at time
5000, found alive, and lost again without a request. -/
theorem watchdog_second_loss_unsignalled :
    ¬∀ ts s, watchdog.Run ts s → (∀ t ∈ ts, ReadyAt t) → EpisodesSignalled ts := by
  intro h
  have hrun := System.run_of_exec watchdog (firstLoss ++ [.response,
    .heartbeat "node=a stamp_ms=5000".toList, .checkTimeouts 6000 true]) rfl rfl
  have hlast := hrun.snoc (a := .checkTimeouts 9000 true) rfl
  have hsignalled := h _ _ hlast (forall_of_all rfl) _ _ [] "a".toList rfl
    ⟨⟨9000, true, rfl, rfl⟩, _, _, [], (List.dropLast_append_getLast (by simp)).symm,
      ⟨6000, true, rfl, rfl⟩, by simp⟩
  obtain ⟨ws, x, xs, hcut, hsends, -⟩ := hsignalled
  cases ws with
  | nil =>
    obtain ⟨rfl, -⟩ := List.cons.inj hcut
    cases hsends
  | cons w ws =>
    have hlength := congrArg List.length hcut
    simp at hlength

end SystemsDemos
