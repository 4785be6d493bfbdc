import SystemsDemos.Heartbeat.Table
import SystemsDemos.Transition.System

/-!
# The watchdog node

`WatchdogNode`: heartbeats fill the table, a timer classifies the nodes, and a node that has timed
out makes the watchdog ask the runtime for a fault, until a response to such a request has
arrived.  The node is a party of its own here: heartbeats, clock values and responses arrive in any
order, a response only for a request that is still unanswered.  An exception that escapes a
callback ends the process.  Differences of 64-bit times wrap around.

### Outline

* `classify` and `anyTimeout`, the decision of `checkTimeouts`;
* `WatchdogNode` with its callbacks, and the system `watchdog`;
* `latestStamp` and `TableAgrees`, the table against the heartbeats of a run;
* `watchdog_verdict_iff`, when the verdict on a node is the right one.
-/

namespace SystemsDemos

/-! ### The decision -/

/-- How `checkTimeouts` classifies a node. -/
inductive NodeVerdict
  | unknown
  | timeout
  | ok
  deriving DecidableEq

/-- `timeout_ms_`. -/
def timeoutMs : Int64 := 3000

/-- The age of a record, `current_ms - record.stamp_ms`. -/
def WatchdogRecord.ageMs (record : WatchdogRecord) (now : Int64) : Int64 :=
  now - record.fields.stampMs

/-- The body of the loop of `checkTimeouts`. -/
def WatchdogRecord.classify (record : WatchdogRecord) (now : Int64) : NodeVerdict :=
  if record.seen = false then .unknown
  else if record.ageMs now > timeoutMs then .timeout
  else .ok

/-- The verdict on a node; `none` when the table has no record of it. -/
def verdict (table : HeartbeatTable WatchdogRecord) (node : Text) (now : Int64) :
    Option NodeVerdict :=
  (table.lookup node).map fun record => record.classify now

/-- `any_timeout`, as the loop leaves it. -/
def anyTimeout (table : HeartbeatTable WatchdogRecord) (now : Int64) : Bool :=
  table.entries.any fun entry => decide (entry.2.classify now = .timeout)

/-- A node that has timed out makes itself felt. -/
lemma anyTimeout_of_verdict {table : HeartbeatTable WatchdogRecord} {node : Text} {now : Int64}
    (h : verdict table node now = some .timeout) : anyTimeout table now = true := by
  obtain ⟨record, hrecord, hverdict⟩ := Option.map_eq_some_iff.mp h
  have hentry : (⟨node, record⟩ : Sigma fun _ : Text => WatchdogRecord) ∈ table.entries :=
    AList.mem_lookup_iff.mp hrecord
  exact List.any_eq_true.mpr ⟨_, hentry, by simpa using hverdict⟩

/-! ### The node -/

/-- The fields of the node. -/
structure WatchdogNode where
  heartbeatTable : HeartbeatTable WatchdogRecord
  faultTriggered : Bool

namespace WatchdogNode

/-- A fresh node. -/
def initial : WatchdogNode := ⟨∅, false⟩

/-- `handleHeartbeat`. -/
def handleHeartbeat (node : WatchdogNode) (payload : Text) :
    WatchdogNode × Except NumberError Unit :=
  let handled := watchdogHandleHeartbeat node.heartbeatTable payload
  ({ node with heartbeatTable := handled.1 }, handled.2)

/-- `checkTimeouts` with `triggerFault`: the requests that are sent. -/
def checkTimeouts (node : WatchdogNode) (now : Int64) (serviceIsReady : Bool) : List String :=
  if anyTimeout node.heartbeatTable now && !node.faultTriggered then
    if serviceIsReady then ["SensorTimeout"] else []
  else []

/-- The callback of a response. -/
def onResponse (node : WatchdogNode) : WatchdogNode := { node with faultTriggered := true }

end WatchdogNode

/-! ### The node as a party -/

/-- The watchdog process. -/
structure WatchdogState where
  node : WatchdogNode
  /-- No exception has escaped a callback. -/
  alive : Bool
  /-- The requests that have not been answered yet. -/
  unanswered : ℕ

/-- What can happen to the watchdog. -/
inductive WatchdogAction
  | heartbeat (payload : Text)
  /-- The timer, with the clock value and the readiness of the service that it finds. -/
  | checkTimeouts (now : Int64) (serviceIsReady : Bool)
  | response
  deriving DecidableEq

/-- What becomes visible. -/
inductive WatchdogEvent
  /-- A request to `runtime/apply_event`. -/
  | request (event : String)
  | terminated (error : NumberError)
  deriving DecidableEq

/-- The callbacks as steps. -/
def WatchdogState.step (s : WatchdogState) :
    WatchdogAction → Option (WatchdogState × List WatchdogEvent)
  | .heartbeat payload =>
      if s.alive = false then none
      else
        let handled := s.node.handleHeartbeat payload
        match handled.2 with
        | .ok () => some ({ s with node := handled.1 }, [])
        | .error e => some ({ s with node := handled.1, alive := false }, [.terminated e])
  | .checkTimeouts now serviceIsReady =>
      if s.alive = false then none
      else
        let requests := s.node.checkTimeouts now serviceIsReady
        some ({ s with unanswered := s.unanswered + requests.length },
          requests.map WatchdogEvent.request)
  | .response =>
      if s.alive = false ∨ s.unanswered = 0 then none
      else some ({ s with node := s.node.onResponse, unanswered := s.unanswered - 1 }, [])

/-- The watchdog, started with an empty table. -/
def watchdog : System WatchdogState WatchdogAction WatchdogEvent where
  init s := s = ⟨.initial, true, 0⟩
  step := WatchdogState.step

/-! ### The heartbeats of a run -/

/-- The payload that an action delivers. -/
def WatchdogAction.payload : WatchdogAction → Option Text
  | .heartbeat payload => some payload
  | _ => none

/-- The payloads that have been delivered, in order. -/
def payloads (ts : List (Transition WatchdogState WatchdogAction WatchdogEvent)) : List Text :=
  ts.filterMap fun t => t.act.payload

/-- The payload is a heartbeat of the node. -/
def Names (node payload : Text) : Prop :=
  (parseKeyValuePayload payload).lookup "node".toList = some node

instance (node payload : Text) : Decidable (Names node payload) :=
  inferInstanceAs (Decidable (_ = _))

/-- The stamp that a heartbeat of the node carries. -/
def stampOf (node payload : Text) : Option Int64 :=
  if Names node payload then
    match (parseKeyValuePayload payload).lookup "stamp_ms".toList with
    | none => none
    | some text =>
        match stoll text with
        | .error _ => none
        | .ok stampMs => some (Int64.ofInt stampMs)
  else none

/-- The stamp of the latest heartbeat of the node that carries one. -/
def latestStamp (node : Text) (payloads : List Text) : Option Int64 :=
  payloads.foldl (fun latest payload => (stampOf node payload).or latest) none

@[simp] lemma latestStamp_snoc (node : Text) (payloads : List Text) (payload : Text) :
    latestStamp node (payloads ++ [payload]) =
      (stampOf node payload).or (latestStamp node payloads) := by
  simp [latestStamp]

/-- What is stored about a node after the heartbeats: nothing if it has not been heard of, and
otherwise the latest stamp or the default of a fresh record. -/
def RecordAgrees (payloads : List Text) (node : Text) : Option WatchdogRecord → Prop
  | none => (∀ payload ∈ payloads, ¬Names node payload) ∧ latestStamp node payloads = none
  | some record =>
      (∃ payload ∈ payloads, Names node payload) ∧ record.seen = true ∧
        record.fields.stampMs = (latestStamp node payloads).getD 0

/-- The table agrees with the heartbeats. -/
def TableAgrees (payloads : List Text) (table : HeartbeatTable WatchdogRecord) : Prop :=
  ∀ node, RecordAgrees payloads node (table.lookup node)

/-- A payload that is no heartbeat of the node changes nothing about it. -/
lemma RecordAgrees.of_not_names {payloads : List Text} {payload node : Text}
    {record : Option WatchdogRecord} (h : RecordAgrees payloads node record)
    (hnot : ¬Names node payload) : RecordAgrees (payloads ++ [payload]) node record := by
  have hstamp : stampOf node payload = none := if_neg hnot
  have hlatest : latestStamp node (payloads ++ [payload]) = latestStamp node payloads := by
    rw [latestStamp_snoc, hstamp, Option.none_or]
  cases record with
  | none =>
    refine ⟨?_, hlatest.trans h.2⟩
    intro p hp
    rcases List.mem_append.mp hp with hp | hp
    · exact h.1 p hp
    · obtain rfl := List.mem_singleton.mp hp
      exact hnot
  | some record =>
    obtain ⟨⟨p, hp, hnames⟩, hseen, hvalue⟩ := h
    exact ⟨⟨p, List.mem_append_left _ hp, hnames⟩, hseen, by rw [hlatest, hvalue]⟩

/-- The stamp of the record that a heartbeat finds. -/
lemma RecordAgrees.stampMs {payloads : List Text} {node : Text} {record : Option WatchdogRecord}
    (h : RecordAgrees payloads node record) :
    (record.getD .fresh).fields.stampMs = (latestStamp node payloads).getD 0 := by
  cases record with
  | none =>
    rw [h.2]
    rfl
  | some record => exact h.2.2

/-- A heartbeat of the node leaves the record as it should be. -/
lemma RecordAgrees.of_applied {payloads : List Text} {payload node : Text}
    {record : Option WatchdogRecord} {after : WatchdogRecord}
    (h : RecordAgrees payloads node record) (hnames : Names node payload)
    (happlied : WatchdogApplied (parseKeyValuePayload payload) (record.getD .fresh) after) :
    RecordAgrees (payloads ++ [payload]) node (some after) := by
  obtain ⟨⟨-, hstamp, -, -⟩, hseen⟩ := happlied
  refine ⟨⟨payload, by simp, hnames⟩, hseen, ?_⟩
  have hof : stampOf node payload = _ := if_pos hnames
  rw [latestStamp_snoc, hof]
  cases htext : (parseKeyValuePayload payload).lookup "stamp_ms".toList with
  | none =>
    rw [htext] at hstamp
    rw [Option.none_or, ← h.stampMs]
    exact hstamp
  | some text =>
    rw [htext] at hstamp
    dsimp only at hstamp ⊢
    rw [hstamp]
    simp

/-- A heartbeat that is handled without an exception keeps the agreement. -/
lemma TableAgrees.handle {payloads : List Text} {table : HeartbeatTable WatchdogRecord}
    (h : TableAgrees payloads table) {payload : Text}
    (hok : (watchdogHandleHeartbeat table payload).2 = .ok ()) :
    TableAgrees (payloads ++ [payload]) (watchdogHandleHeartbeat table payload).1 := by
  intro node
  rcases watchdogHandleHeartbeat_ok hok with ⟨hnone, hsame⟩ | ⟨named, after, hnamed, happlied, hins⟩
  · have hnot : ¬Names node payload := by
      intro hnames
      rw [Names, hnone] at hnames
      cases hnames
    rw [hsame]
    exact (h node).of_not_names hnot
  · rw [hins]
    by_cases hnode : node = named
    · subst hnode
      rw [AList.lookup_insert]
      exact (h node).of_applied hnamed happlied
    · have hnot : ¬Names node payload := by
        intro hnames
        exact hnode (Option.some.inj (hnames.symm.trans hnamed))
      rw [AList.lookup_insert_ne hnode]
      exact (h node).of_not_names hnot

/-! ### Steps -/

namespace WatchdogState

variable {s s' : WatchdogState} {out : List WatchdogEvent}

/-- What the delivery of a heartbeat does. -/
lemma step_heartbeat {payload : Text} (h : s.step (.heartbeat payload) = some (s', out)) :
    s.alive = true ∧ s'.node.heartbeatTable =
        (watchdogHandleHeartbeat s.node.heartbeatTable payload).1 ∧
      s'.node.faultTriggered = s.node.faultTriggered ∧ s'.unanswered = s.unanswered ∧
      (s'.alive = true →
        (watchdogHandleHeartbeat s.node.heartbeatTable payload).2 = .ok ()) ∧
      ∀ event, .request event ∉ out := by
  rw [step] at h
  split at h
  · cases h
  · next halive =>
    have hlive : s.alive = true := by simpa using halive
    dsimp only at h
    split at h
    · next hok =>
      obtain ⟨rfl, rfl⟩ := Prod.mk.inj (Option.some.inj h)
      exact ⟨hlive, rfl, rfl, rfl, fun _ => hok, by simp⟩
    · next e herror =>
      obtain ⟨rfl, rfl⟩ := Prod.mk.inj (Option.some.inj h)
      exact ⟨hlive, rfl, rfl, rfl, fun hdead => by simp at hdead, by simp⟩

/-- What the timer does. -/
lemma step_checkTimeouts {now : Int64} {serviceIsReady : Bool}
    (h : s.step (.checkTimeouts now serviceIsReady) = some (s', out)) :
    s.alive = true ∧ s'.alive = true ∧ s'.node = s.node ∧
      s'.unanswered = s.unanswered + (s.node.checkTimeouts now serviceIsReady).length ∧
      out = (s.node.checkTimeouts now serviceIsReady).map WatchdogEvent.request := by
  rw [step] at h
  split at h
  · cases h
  · next halive =>
    have hlive : s.alive = true := by simpa using halive
    obtain ⟨rfl, rfl⟩ := Prod.mk.inj (Option.some.inj h)
    exact ⟨hlive, hlive, rfl, rfl, rfl⟩

/-- What a response does. -/
lemma step_response (h : s.step .response = some (s', out)) :
    s.alive = true ∧ 0 < s.unanswered ∧ s' = { s with
      node := s.node.onResponse
      unanswered := s.unanswered - 1 } ∧ out = [] := by
  rw [step] at h
  split at h
  · cases h
  · next hnot =>
    obtain ⟨rfl, rfl⟩ := Prod.mk.inj (Option.some.inj h)
    have hlive : s.alive = true := by
      by_contra hdead
      exact hnot (Or.inl (by simpa using hdead))
    exact ⟨hlive, Nat.pos_of_ne_zero fun hzero => hnot (Or.inr hzero), rfl, rfl⟩

end WatchdogState

/-- As long as no exception has escaped, the table agrees with the heartbeats of the run. -/
theorem watchdog_tableAgrees {ts : List (Transition WatchdogState WatchdogAction WatchdogEvent)}
    {s : WatchdogState} (h : watchdog.Run ts s) (halive : s.alive = true) :
    TableAgrees (payloads ts) s.node.heartbeatTable := by
  induction h with
  | start hinit =>
    obtain rfl := hinit
    intro node
    exact ⟨by simp [payloads], rfl⟩
  | @snoc ts s s' a out hrun hstep ih =>
    cases a with
    | heartbeat payload =>
      obtain ⟨hlive, htable, -, -, hok, -⟩ := WatchdogState.step_heartbeat hstep
      have hpayloads : payloads (ts ++ [⟨s, .heartbeat payload, s', out⟩]) =
          payloads ts ++ [payload] := by
        simp [payloads, WatchdogAction.payload]
      rw [hpayloads, htable]
      exact (ih hlive).handle (hok halive)
    | checkTimeouts now serviceIsReady =>
      obtain ⟨hlive, -, hnode, -, -⟩ := WatchdogState.step_checkTimeouts hstep
      have hpayloads : payloads (ts ++ [⟨s, .checkTimeouts now serviceIsReady, s', out⟩]) =
          payloads ts := by
        simp [payloads, WatchdogAction.payload]
      rw [hpayloads, hnode]
      exact ih hlive
    | response =>
      obtain ⟨hlive, -, hpost, -⟩ := WatchdogState.step_response hstep
      have hpayloads : payloads (ts ++ [⟨s, .response, s', out⟩]) = payloads ts := by
        simp [payloads, WatchdogAction.payload]
      rw [hpayloads, hpost]
      exact ih hlive

/-! ### The verdict -/

/-- The verdict on the node at time `now` is the right one: it has timed out exactly when it has
sent a stamp and the latest of its stamps lies more than three seconds back, and the subtraction
that decides it does not overflow. -/
def VerdictIsRight (payloads : List Text) (table : HeartbeatTable WatchdogRecord) (node : Text)
    (now : Int64) : Prop :=
  (verdict table node now = some .timeout ↔
    ∃ stamp, latestStamp node payloads = some stamp ∧ now.toInt - stamp.toInt > 3000) ∧
  ∀ record, table.lookup node = some record → record.seen = true →
    -2 ^ 63 ≤ now.toInt - record.fields.stampMs.toInt ∧
      now.toInt - record.fields.stampMs.toInt < 2 ^ 63

/-- The latest stamp of the node differs from `now` by a 64-bit number; a node whose heartbeats
have carried no stamp is safe up to three seconds after time zero only. -/
def StampInReach (payloads : List Text) (node : Text) (now : Int64) : Prop :=
  match latestStamp node payloads with
  | some stamp => -2 ^ 63 ≤ now.toInt - stamp.toInt ∧ now.toInt - stamp.toInt < 2 ^ 63
  | none => (∃ payload ∈ payloads, Names node payload) → now.toInt ≤ 3000

/-- A record that has been seen has timed out when its age, computed in 64 bits, says so. -/
lemma classify_eq_timeout_iff {record : WatchdogRecord} (hseen : record.seen = true)
    (now : Int64) :
    record.classify now = .timeout ↔
      3000 < (now.toInt - record.fields.stampMs.toInt).bmod (2 ^ 64) := by
  have hlimit : timeoutMs.toInt = 3000 := rfl
  have hage : record.ageMs now > timeoutMs ↔
      3000 < (now.toInt - record.fields.stampMs.toInt).bmod (2 ^ 64) := by
    rw [gt_iff_lt, Int64.lt_iff_toInt_lt, hlimit, WatchdogRecord.ageMs, Int64.toInt_sub]
  rw [← hage, WatchdogRecord.classify, hseen]
  by_cases hlate : record.ageMs now > timeoutMs
  · simp [hlate]
  · simp [hlate]

/-- **The verdict on a node is right exactly when its latest stamp is in reach.**  A heartbeat
without a stamp leaves the default stamp 0 in the record, and the age is computed in 64 bits. -/
theorem watchdog_verdict_iff {ts : List (Transition WatchdogState WatchdogAction WatchdogEvent)}
    {s : WatchdogState} (h : watchdog.Run ts s) (halive : s.alive = true) (node : Text)
    (now : Int64) :
    VerdictIsRight (payloads ts) s.node.heartbeatTable node now ↔
      StampInReach (payloads ts) node now := by
  have hagrees := watchdog_tableAgrees h halive node
  unfold VerdictIsRight StampInReach verdict
  cases hrecord : s.node.heartbeatTable.lookup node with
  | none =>
    rw [hrecord] at hagrees
    obtain ⟨hsilent, hlatest⟩ := hagrees
    rw [hlatest]
    constructor
    · rintro - ⟨payload, hpayload, hnames⟩
      exact absurd hnames (hsilent payload hpayload)
    · intro _
      exact ⟨by simp, by simp⟩
  | some record =>
    rw [hrecord] at hagrees
    obtain ⟨hheard, hseen, hstamp⟩ := hagrees
    have hclassify := classify_eq_timeout_iff hseen now
    have hnowLow := now.le_toInt
    have hnowHigh := now.toInt_lt
    simp only [Option.map_some, Option.some.injEq, forall_eq', hclassify, hseen, forall_const]
    cases hlatest : latestStamp node (payloads ts) with
    | some stamp =>
      rw [hlatest] at hstamp
      have hvalue : record.fields.stampMs = stamp := hstamp
      rw [hvalue]
      constructor
      · rintro ⟨-, hrange⟩
        exact hrange
      · rintro ⟨hlow, hhigh⟩
        have hexact : (now.toInt - stamp.toInt).bmod (2 ^ 64) = now.toInt - stamp.toInt :=
          Int.bmod_eq_of_le_mul_two (by omega) (by omega)
        rw [hexact]
        exact ⟨by simp, hlow, hhigh⟩
    | none =>
      rw [hlatest] at hstamp
      have hvalue : record.fields.stampMs.toInt = 0 := by
        rw [hstamp]
        rfl
      have hexact : now.toInt.bmod (2 ^ 64) = now.toInt :=
        Int.bmod_eq_of_le_mul_two (by omega) (by omega)
      rw [hvalue, sub_zero, hexact]
      constructor
      · rintro ⟨hverdict, -⟩ -
        by_contra hlate
        obtain ⟨stamp, hstampEq, -⟩ := hverdict.mp (by omega)
        cases hstampEq
      · intro hsafe
        have hearly := hsafe hheard
        refine ⟨⟨fun hlate => absurd hlate (by omega), ?_⟩, hnowLow, hnowHigh⟩
        rintro ⟨stamp, hstampEq, -⟩
        cases hstampEq

/-- A stamped heartbeat of node `a` and a check four seconds later. -/
theorem watchdog_verdict_stamped :
    ∃ ts s, watchdog.Run ts s ∧ payloads ts = ["node=a seq=1 stamp_ms=1000".toList] ∧
      VerdictIsRight (payloads ts) s.node.heartbeatTable "a".toList 5000 := by
  have hrun := System.run_of_exec watchdog
    [.heartbeat "node=a seq=1 stamp_ms=1000".toList, .checkTimeouts 5000 true] rfl rfl
  have hreach : StampInReach ["node=a seq=1 stamp_ms=1000".toList] "a".toList 5000 := by
    have hstamp : latestStamp "a".toList ["node=a seq=1 stamp_ms=1000".toList] = some 1000 := rfl
    unfold StampInReach
    rw [hstamp]
    decide
  exact ⟨_, _, hrun, rfl, (watchdog_verdict_iff hrun rfl "a".toList 5000).mpr hreach⟩

/-- A node whose only heartbeat carries no stamp is reported as timed out. -/
theorem watchdog_verdict_unstamped :
    ¬∀ ts s, watchdog.Run ts s → s.alive = true → ∀ node now,
      VerdictIsRight (payloads ts) s.node.heartbeatTable node now := by
  intro h
  have hrun := System.run_of_exec watchdog
    [.heartbeat "node=a".toList, .checkTimeouts 5000 true] rfl rfl
  obtain ⟨stamp, hstamp, -⟩ := (h _ _ hrun rfl "a".toList 5000).1.mp rfl
  have hnone : latestStamp "a".toList ["node=a".toList] = none := rfl
  cases hnone.symm.trans hstamp

end SystemsDemos
