import SystemsDemos.Text.Stream
import SystemsDemos.RuntimeNode.StateMachine
import Mathlib.Data.List.AList
import Mathlib.Data.List.Induction

/-!
# Heartbeat payloads

The text on `/runtime/heartbeat`: three nodes write it, two nodes read it with the same
`parseKeyValuePayload`.  A payload is a row of `key=value` words; nothing is escaped, a word is cut
at its first `=`, and the last word with a key wins.  The session id is the one value that is not
under the control of the writers.

### Outline

* `parseKeyValuePayload`;
* `runtimeSessionId` and the writers, gathered in `HeartbeatPublisher`;
* `joinFields`, the common form of what they write, and how it is read;
* `heartbeat_roundTrip_iff`.
-/

namespace SystemsDemos

/-! ### The reader -/

/-- A map from keys to values. -/
abbrev KeyValues := AList fun _ : Text => Text

/-- The body of the loop of `parseKeyValuePayload`. -/
def putToken (values : KeyValues) (token : Text) : KeyValues :=
  match find '=' token with
  | none => values
  | some equalPos => values.insert (token.take equalPos) (token.drop (equalPos + 1))

/-- `parseKeyValuePayload`. -/
def parseKeyValuePayload (payload : Text) : KeyValues := (tokens payload).foldl putToken ∅

/-! ### The writers -/

/-- `runtimeSessionId`, from the value of the environment variable. -/
def runtimeSessionId (environment : Option Text) : Text :=
  match environment with
  | none => "local_session".toList
  | some value => if value ≠ [] then value else "local_session".toList

/-- `publishHeartbeat` of `sensor_sim_node`. -/
def sensorSimPayload (sessionId : Text) (seq : ℕ) (stampMs : ℤ) : Text :=
  OStream.empty
    |>.putString "node=sensor_sim_node"
    |>.putString " seq=" |>.putNat seq
    |>.putString " stamp_ms=" |>.putInt stampMs
    |>.putString " session_id=" |>.put sessionId
    |>.putString " status=OK"
    |>.putString " message=\"sensor publisher alive\""
    |>.text

/-- `publishHeartbeat` of `heartbeat_monitor_node`. -/
def heartbeatMonitorPayload (sessionId : Text) (seq : ℕ) (stampMs : ℤ) : Text :=
  OStream.empty
    |>.putString "node=heartbeat_monitor_node"
    |>.putString " seq=" |>.putNat seq
    |>.putString " stamp_ms=" |>.putInt stampMs
    |>.putString " session_id=" |>.put sessionId
    |>.putString " status=OK"
    |>.putString " message=\"heartbeat monitor alive\""
    |>.text

/-- The status that `runtime_node` reports. -/
def runtimeStatus (state : RuntimeState) : String := if state = .fault then "FAULT" else "OK"

/-- `buildHeartbeatPayload` of `runtime_node`. -/
def buildHeartbeatPayload (sessionId : Text) (seq : ℕ) (stampMs : ℤ) (state : RuntimeState)
    (error : RuntimeError) : Text :=
  let info := errorInfo error
  OStream.empty
    |>.putString "node=runtime_node"
    |>.putString " seq=" |>.putNat seq
    |>.putString " stamp_ms=" |>.putInt stampMs
    |>.putString " session_id=" |>.put sessionId
    |>.putString " state=" |>.putString (stateName state)
    |>.putString " runtime_error=" |>.putString (errorName error)
    |>.putString " severity=" |>.putString (severityName info.severity)
    |>.putString " recoverable=" |>.putInt (if info.recoverable then 1 else 0)
    |>.putString " status=" |>.putString (runtimeStatus state)
    |>.putString " message=\"runtime heartbeat\""
    |>.text

/-- The nodes that publish heartbeats, with what their payloads depend on. -/
inductive HeartbeatPublisher
  | sensorSim
  | heartbeatMonitor
  | runtime (state : RuntimeState) (error : RuntimeError)

namespace HeartbeatPublisher

/-- The payload of a publisher. -/
def payload (sessionId : Text) (seq : ℕ) (stampMs : ℤ) : HeartbeatPublisher → Text
  | sensorSim => sensorSimPayload sessionId seq stampMs
  | heartbeatMonitor => heartbeatMonitorPayload sessionId seq stampMs
  | runtime state error => buildHeartbeatPayload sessionId seq stampMs state error

/-- The value written for `node`. -/
def node : HeartbeatPublisher → Text
  | sensorSim => "sensor_sim_node".toList
  | heartbeatMonitor => "heartbeat_monitor_node".toList
  | runtime _ _ => "runtime_node".toList

/-- The value written for `status`. -/
def status : HeartbeatPublisher → Text
  | runtime state _ => (runtimeStatus state).toList
  | _ => "OK".toList

/-- The fields between `session_id` and `status`. -/
def details : HeartbeatPublisher → List (Text × Text)
  | runtime state error =>
      [("state".toList, (stateName state).toList),
        ("runtime_error".toList, (errorName error).toList),
        ("severity".toList, (severityName (errorInfo error).severity).toList),
        ("recoverable".toList, decimal (if (errorInfo error).recoverable then 1 else 0))]
  | _ => []

/-- The text behind the fields. -/
def message : HeartbeatPublisher → Text
  | sensorSim => "message=\"sensor publisher alive\"".toList
  | heartbeatMonitor => "message=\"heartbeat monitor alive\"".toList
  | runtime _ _ => "message=\"runtime heartbeat\"".toList

/-- The fields of a payload, in order. -/
def fields (sessionId : Text) (seq : ℕ) (stampMs : ℤ) (p : HeartbeatPublisher) :
    List (Text × Text) :=
  [("node".toList, p.node), ("seq".toList, decimal seq), ("stamp_ms".toList, decimal stampMs),
    ("session_id".toList, sessionId)] ++ (p.details ++ [("status".toList, p.status)])

end HeartbeatPublisher

/-! ### Rows of fields -/

/-- A field as a word. -/
def fieldText (field : Text × Text) : Text := field.1 ++ '=' :: field.2

/-- A row of fields, each followed by a blank. -/
def joinFields (fields : List (Text × Text)) : Text :=
  fields.flatMap fun field => fieldText field ++ [' ']

/-- Every publisher writes its fields and then its message. -/
lemma HeartbeatPublisher.payload_eq (sessionId : Text) (seq : ℕ) (stampMs : ℤ)
    (p : HeartbeatPublisher) :
    p.payload sessionId seq stampMs = joinFields (p.fields sessionId seq stampMs) ++ p.message := by
  cases p <;>
    simp only [payload, sensorSimPayload, heartbeatMonitorPayload, buildHeartbeatPayload,
      OStream.empty_eq_plain, OStream.putString_plain, OStream.putNat_plain, OStream.putInt_plain,
      OStream.put_plain, OStream.text_plain, fields, details, joinFields, fieldText,
      List.nil_append, List.cons_append, List.append_assoc, List.flatMap_cons, List.flatMap_nil]
  · rfl
  · rfl
  · rfl

/-- A row of fields without white space is read word by word. -/
lemma tokens_joinFields {fields : List (Text × Text)}
    (h : ∀ field ∈ fields, NoSpace field.1 ∧ NoSpace field.2) (rest : Text) :
    tokens (joinFields fields ++ rest) = fields.map fieldText ++ tokens rest := by
  induction fields with
  | nil => rfl
  | cons field fields ih =>
    have hrest := ih fun f hf => h f (List.mem_cons_of_mem _ hf)
    obtain ⟨hkey, hvalue⟩ := h field List.mem_cons_self
    have hword : NoSpace (fieldText field) := by
      have hequal : NoSpace ['='] := by decide
      have hjoin : NoSpace (field.1 ++ (['='] ++ field.2)) :=
        noSpace_append.mpr ⟨hkey, noSpace_append.mpr ⟨hequal, hvalue⟩⟩
      exact hjoin
    have hne : fieldText field ≠ [] := by simp [fieldText]
    have hsplit : joinFields (field :: fields) ++ rest =
        fieldText field ++ ' ' :: (joinFields fields ++ rest) := by
      simp [joinFields]
    rw [hsplit, tokens_cons hword hne rfl, hrest, List.map_cons, List.cons_append]

/-- A field is stored under its key. -/
lemma putToken_fieldText {field : Text × Text} (h : '=' ∉ field.1) (values : KeyValues) :
    putToken values (fieldText field) = values.insert field.1 field.2 := by
  have hfind : find '=' (fieldText field) = some field.1.length := find_append h field.2
  have htake : (fieldText field).take field.1.length = field.1 := List.take_left
  have hdrop : (fieldText field).drop (field.1.length + 1) = field.2 := by
    rw [fieldText, List.append_cons]
    exact List.drop_left' (by simp)
  unfold putToken
  rw [hfind]
  dsimp only
  rw [htake, hdrop]

/-- Storing a row of fields keeps each of them when the keys are distinct. -/
lemma lookup_foldl_fields {fields : List (Text × Text)} {key value : Text}
    (hequal : ∀ field ∈ fields, '=' ∉ field.1) (hdistinct : (fields.map Prod.fst).Nodup)
    (hmem : (key, value) ∈ fields) (values : KeyValues) :
    ((fields.map fieldText).foldl putToken values).lookup key = some value := by
  induction fields using List.reverseRecOn with
  | nil => cases hmem
  | append_singleton fields field ih =>
    have hlast := putToken_fieldText (hequal field (by simp))
      ((fields.map fieldText).foldl putToken values)
    rw [List.map_append, List.foldl_append, List.map_singleton, List.foldl_cons, List.foldl_nil,
      hlast]
    rcases List.mem_append.mp hmem with hmem | hmem
    · have hne : key ≠ field.1 := by
        rintro rfl
        rw [List.map_append, List.map_singleton, List.nodup_append] at hdistinct
        exact hdistinct.2.2 _ (List.mem_map_of_mem hmem) _ (by simp) rfl
      rw [AList.lookup_insert_ne hne]
      apply ih (fun f hf => hequal f (by simp [hf])) _ hmem
      rw [List.map_append, List.nodup_append] at hdistinct
      exact hdistinct.1
    · obtain rfl := List.mem_singleton.mp hmem
      exact AList.lookup_insert _

/-- No value that is read contains white space. -/
lemma noSpace_of_lookup {payload key value : Text}
    (h : (parseKeyValuePayload payload).lookup key = some value) : NoSpace value := by
  have hinvariant : ∀ words : List Text, (∀ word ∈ words, NoSpace word) → ∀ value,
      (words.foldl putToken (∅ : KeyValues)).lookup key = some value → NoSpace value := by
    intro words
    induction words using List.reverseRecOn with
    | nil =>
      intro _ value hvalue
      cases hvalue
    | append_singleton words word ih =>
      intro hwords value hvalue
      have hprevious := ih fun w hw => hwords w (by simp [hw])
      rw [List.foldl_append, List.foldl_cons, List.foldl_nil, putToken] at hvalue
      cases hfind : find '=' word with
      | none =>
        rw [hfind] at hvalue
        exact hprevious value hvalue
      | some i =>
        rw [hfind] at hvalue
        dsimp only at hvalue
        by_cases hkey : key = word.take i
        · subst hkey
          rw [AList.lookup_insert] at hvalue
          obtain rfl := Option.some.inj hvalue
          intro c hc
          exact hwords word (by simp) c (List.mem_of_mem_drop hc)
        · rw [AList.lookup_insert_ne hkey] at hvalue
          exact hprevious value hvalue
  exact hinvariant (tokens payload) (fun word => noSpace_of_mem_tokens) value h

/-! ### The round trip -/

namespace HeartbeatPublisher

variable (p : HeartbeatPublisher)

/-- The keys of a payload. -/
def keys : HeartbeatPublisher → List Text
  | runtime _ _ =>
      ["node".toList, "seq".toList, "stamp_ms".toList, "session_id".toList, "state".toList,
        "runtime_error".toList, "severity".toList, "recoverable".toList, "status".toList]
  | _ =>
      ["node".toList, "seq".toList, "stamp_ms".toList, "session_id".toList, "status".toList]

lemma map_fst_fields (sessionId : Text) (seq : ℕ) (stampMs : ℤ) :
    (p.fields sessionId seq stampMs).map Prod.fst = p.keys := by
  cases p <;> rfl

/-- The keys are distinct words, none of them the key of the message. -/
lemma keys_spec :
    p.keys.Nodup ∧ ∀ key ∈ p.keys, NoSpace key ∧ '=' ∉ key ∧ key ≠ "message".toList := by
  have hshort : (keys sensorSim).Nodup ∧ ∀ key ∈ keys sensorSim,
      NoSpace key ∧ '=' ∉ key ∧ key ≠ "message".toList := by decide
  have hlong : (keys (runtime .idle .none)).Nodup ∧ ∀ key ∈ keys (runtime .idle .none),
      NoSpace key ∧ '=' ∉ key ∧ key ≠ "message".toList := by decide
  cases p with
  | sensorSim => exact hshort
  | heartbeatMonitor => exact hshort
  | runtime state error => exact hlong

/-- The names that are written are single words. -/
lemma noSpace_node : NoSpace p.node := by
  cases p with
  | sensorSim => exact (by decide : NoSpace "sensor_sim_node".toList)
  | heartbeatMonitor => exact (by decide : NoSpace "heartbeat_monitor_node".toList)
  | runtime state error => exact (by decide : NoSpace "runtime_node".toList)

lemma noSpace_status : NoSpace p.status := by
  cases p with
  | sensorSim => exact (by decide : NoSpace "OK".toList)
  | heartbeatMonitor => exact (by decide : NoSpace "OK".toList)
  | runtime state error =>
    have hstatus : ∀ state, NoSpace (runtimeStatus state).toList := by
      intro state
      cases state <;> decide
    exact hstatus state

lemma noSpace_details : ∀ field ∈ p.details, NoSpace field.2 := by
  have hstate : ∀ state, NoSpace (stateName state).toList := by
    intro state
    cases state <;> decide
  have herror : ∀ error, NoSpace (errorName error).toList := by
    intro error
    cases error <;> decide
  have hseverity : ∀ severity, NoSpace (severityName severity).toList := by
    intro severity
    cases severity <;> decide
  intro field hfield
  cases p with
  | sensorSim => cases hfield
  | heartbeatMonitor => cases hfield
  | runtime state error =>
    simp only [details, List.mem_cons, List.not_mem_nil, or_false] at hfield
    rcases hfield with rfl | rfl | rfl | rfl
    · exact hstate state
    · exact herror error
    · exact hseverity _
    · exact noSpace_decimal _

/-- Every field but the session id is free of white space. -/
lemma noSpace_fields {sessionId : Text} (h : NoSpace sessionId) (seq : ℕ) (stampMs : ℤ) :
    ∀ field ∈ p.fields sessionId seq stampMs, NoSpace field.1 ∧ NoSpace field.2 := by
  intro field hfield
  have hkey : field.1 ∈ p.keys := by
    rw [← p.map_fst_fields sessionId seq stampMs]
    exact List.mem_map_of_mem hfield
  refine ⟨(p.keys_spec.2 field.1 hkey).1, ?_⟩
  simp only [fields, List.mem_append, List.mem_cons, List.not_mem_nil, or_false] at hfield
  rcases hfield with (rfl | rfl | rfl | rfl) | hdetail | rfl
  · exact p.noSpace_node
  · exact noSpace_decimal seq
  · exact noSpace_decimal stampMs
  · exact h
  · exact p.noSpace_details field hdetail
  · exact p.noSpace_status

/-- The message adds one key of its own. -/
lemma lookup_message {key : Text} (h : key ≠ "message".toList) (values : KeyValues) :
    ((tokens p.message).foldl putToken values).lookup key = values.lookup key := by
  cases p <;> exact AList.lookup_insert_ne h

/-- Every field is read back when the session id contains no white space. -/
lemma lookup_payload {sessionId : Text} (h : NoSpace sessionId) (seq : ℕ) (stampMs : ℤ)
    {key value : Text} (hfield : (key, value) ∈ p.fields sessionId seq stampMs) :
    (parseKeyValuePayload (p.payload sessionId seq stampMs)).lookup key = some value := by
  have hkeys := p.map_fst_fields sessionId seq stampMs
  obtain ⟨hnodup, hkey⟩ := p.keys_spec
  have hmem : ∀ field ∈ p.fields sessionId seq stampMs, field.1 ∈ p.keys := by
    intro field hf
    rw [← hkeys]
    exact List.mem_map_of_mem hf
  rw [parseKeyValuePayload, payload_eq, tokens_joinFields (p.noSpace_fields h seq stampMs),
    List.foldl_append, p.lookup_message (hkey key (hmem _ hfield)).2.2]
  apply lookup_foldl_fields _ _ hfield
  · intro field hf
    exact (hkey field.1 (hmem field hf)).2.1
  · rw [hkeys]
    exact hnodup

/-- The reader maps the five keys that the receivers use to exactly what was written. -/
def RoundTrips (sessionId : Text) (seq : ℕ) (stampMs : ℤ) : Prop :=
  let values := parseKeyValuePayload (p.payload sessionId seq stampMs)
  values.lookup "node".toList = some p.node ∧
  values.lookup "seq".toList = some (decimal seq) ∧
  values.lookup "stamp_ms".toList = some (decimal stampMs) ∧
  values.lookup "session_id".toList = some sessionId ∧
  values.lookup "status".toList = some p.status

end HeartbeatPublisher

/-- **A heartbeat is read back exactly when the session id contains no white space.**  With white
space in it the reader cuts the id at the first blank, since nothing quotes it; every other field
is a single word whatever is written, and an `=` in the id does no harm. -/
theorem heartbeat_roundTrip_iff (p : HeartbeatPublisher) (environment : Option Text) (seq : ℕ)
    (stampMs : ℤ) :
    p.RoundTrips (runtimeSessionId environment) seq stampMs ↔
      NoSpace (runtimeSessionId environment) := by
  constructor
  · rintro ⟨-, -, -, hsession, -⟩
    exact noSpace_of_lookup hsession
  · intro h
    have hread : ∀ {key value : Text}, _ → _ := @p.lookup_payload _ h seq stampMs
    refine ⟨hread ?_, hread ?_, hread ?_, hread ?_, hread ?_⟩ <;>
      simp [HeartbeatPublisher.fields]

/-- The session id `test run` is read back as `test`. -/
theorem heartbeat_sessionId_with_blank :
    ¬∀ (p : HeartbeatPublisher) (environment : Option Text) (seq : ℕ) (stampMs : ℤ),
      p.RoundTrips (runtimeSessionId environment) seq stampMs := by
  intro h
  obtain ⟨-, -, -, hsession, -⟩ := h .sensorSim (some "test run".toList) 1 1000
  have hblank : NoSpace "test run".toList := noSpace_of_lookup hsession
  exact absurd hblank (by decide)

end SystemsDemos
