import SystemsDemos.Heartbeat.Payload

/-!
# The heartbeat tables

`handleHeartbeat` of `watchdog_node` and of `heartbeat_monitor_node`.  Both look up the record of
the node, inserting a fresh one if there is none, and then overwrite its fields one after the
other; two of the fields are converted to numbers, and a conversion that throws leaves the
callback with the fields before it already written.

### Outline

* `HeartbeatRecord`, `applyFields` and the two callbacks;
* `Readable`, the payloads whose numbers can be converted;
* `AppliesOrKeeps` and when a callback has this property;
* `handleHeartbeat_payload`, what is stored of a published heartbeat.
-/

namespace SystemsDemos

/-! ### Records -/

/-- The fields that both nodes keep of a heartbeat. -/
structure HeartbeatRecord where
  seq : ℕ
  stampMs : Int64
  status : Text
  sessionId : Text
  deriving DecidableEq

/-- A record with its default values. -/
def HeartbeatRecord.fresh : HeartbeatRecord := ⟨0, 0, "UNKNOWN".toList, "unknown".toList⟩

/-- The record of the watchdog, which also knows whether a heartbeat has been received. -/
structure WatchdogRecord where
  fields : HeartbeatRecord
  seen : Bool
  deriving DecidableEq

/-- A watchdog record with its default values. -/
def WatchdogRecord.fresh : WatchdogRecord := ⟨.fresh, false⟩

/-- A map from nodes to records. -/
abbrev HeartbeatTable (R : Type) := AList fun _ : Text => R

/-! ### The callbacks -/

/-- The update of `seq`. -/
def setSeq (values : KeyValues) (record : HeartbeatRecord) : Except NumberError HeartbeatRecord :=
  match values.lookup "seq".toList with
  | none => .ok record
  | some text => do
      let seq ← stoull text
      return { record with seq := seq }

/-- The update of `stamp_ms`. -/
def setStampMs (values : KeyValues) (record : HeartbeatRecord) :
    Except NumberError HeartbeatRecord :=
  match values.lookup "stamp_ms".toList with
  | none => .ok record
  | some text => do
      let stampMs ← stoll text
      return { record with stampMs := Int64.ofInt stampMs }

/-- The update of `status`. -/
def setStatus (values : KeyValues) (record : HeartbeatRecord) : HeartbeatRecord :=
  match values.lookup "status".toList with
  | none => record
  | some text => { record with status := text }

/-- The update of `session_id`. -/
def setSessionId (values : KeyValues) (record : HeartbeatRecord) : HeartbeatRecord :=
  match values.lookup "session_id".toList with
  | none => record
  | some text => { record with sessionId := text }

/-- The four updates in the order of the callback: the record afterwards, also when a conversion
throws. -/
def applyFields (values : KeyValues) (record : HeartbeatRecord) :
    HeartbeatRecord × Except NumberError Unit :=
  match setSeq values record with
  | .error e => (record, .error e)
  | .ok record =>
      match setStampMs values record with
      | .error e => (record, .error e)
      | .ok record => (setSessionId values (setStatus values record), .ok ())

/-- The body that the two callbacks share: `fresh` is the record that `operator[]` inserts, and
`update` what is done with the record of the node. -/
def handleHeartbeatWith {R : Type} (fresh : R)
    (update : KeyValues → R → R × Except NumberError Unit) (table : HeartbeatTable R)
    (payload : Text) : HeartbeatTable R × Except NumberError Unit :=
  let values := parseKeyValuePayload payload
  match values.lookup "node".toList with
  | none => (table, .ok ())
  | some node =>
      let updated := update values ((table.lookup node).getD fresh)
      (table.insert node updated.1, updated.2)

/-- What the watchdog does with a record. -/
def updateWatchdogRecord (values : KeyValues) (record : WatchdogRecord) :
    WatchdogRecord × Except NumberError Unit :=
  let updated := applyFields values record.fields
  (⟨updated.1, true⟩, updated.2)

/-- `WatchdogNode::handleHeartbeat`. -/
def watchdogHandleHeartbeat (table : HeartbeatTable WatchdogRecord) (payload : Text) :
    HeartbeatTable WatchdogRecord × Except NumberError Unit :=
  handleHeartbeatWith .fresh updateWatchdogRecord table payload

/-- `HeartbeatMonitorNode::handleHeartbeat`. -/
def monitorHandleHeartbeat (table : HeartbeatTable HeartbeatRecord) (payload : Text) :
    HeartbeatTable HeartbeatRecord × Except NumberError Unit :=
  handleHeartbeatWith .fresh applyFields table payload

/-! ### Payloads with readable numbers -/

/-- The text begins with a number that a 64-bit unsigned integer holds. -/
def BeginsUnsigned (text : Text) : Prop := ∃ n, ReadsNumber 10 text n ∧ n.magnitude < 2 ^ 64

/-- The text begins with a number that a 64-bit signed integer holds. -/
def BeginsSigned (text : Text) : Prop :=
  ∃ n, ReadsNumber 10 text n ∧ (-2 ^ 63 ≤ n.toInt ∧ n.toInt < 2 ^ 63)

/-- The numbers that a payload carries can be converted. -/
def Readable (values : KeyValues) : Prop :=
  (∀ text, values.lookup "seq".toList = some text → BeginsUnsigned text) ∧
    ∀ text, values.lookup "stamp_ms".toList = some text → BeginsSigned text

lemma stoull_isOk_iff {text : Text} : (∃ v, stoull text = .ok v) ↔ BeginsUnsigned text := by
  simp only [stoull_eq_ok_iff]
  constructor
  · rintro ⟨v, n, hn, hrange, -⟩
    exact ⟨n, hn, hrange⟩
  · rintro ⟨n, hn, hrange⟩
    exact ⟨_, n, hn, hrange, rfl⟩

lemma stoll_isOk_iff {text : Text} : (∃ v, stoll text = .ok v) ↔ BeginsSigned text := by
  simp only [stoll_eq_ok_iff]
  constructor
  · rintro ⟨v, n, hn, hrange, -⟩
    exact ⟨n, hn, hrange⟩
  · rintro ⟨n, hn, hrange⟩
    exact ⟨_, n, hn, hrange, rfl⟩

/-! ### What a callback does -/

/-- Every field that the payload carries has been applied to the record, and every other field
has been kept. -/
structure Applied (values : KeyValues) (before after : HeartbeatRecord) : Prop where
  seq : match values.lookup "seq".toList with
    | none => after.seq = before.seq
    | some text => stoull text = .ok after.seq
  stampMs : match values.lookup "stamp_ms".toList with
    | none => after.stampMs = before.stampMs
    | some text => stoll text = .ok after.stampMs.toInt
  status : after.status = (values.lookup "status".toList).getD before.status
  sessionId : after.sessionId = (values.lookup "session_id".toList).getD before.sessionId

/-- What a successful update of `seq` does. -/
lemma setSeq_ok {values : KeyValues} {record after : HeartbeatRecord}
    (h : setSeq values record = .ok after) :
    (match values.lookup "seq".toList with
      | none => after.seq = record.seq
      | some text => stoull text = .ok after.seq) ∧
      after = { record with seq := after.seq } := by
  unfold setSeq at h
  cases hseq : values.lookup "seq".toList with
  | none =>
    rw [hseq] at h
    obtain rfl := Except.ok.inj h
    exact ⟨rfl, rfl⟩
  | some text =>
    rw [hseq] at h
    obtain ⟨seq, hconvert, h⟩ := bind_eq_ok_iff.mp h
    obtain rfl := Except.ok.inj h
    exact ⟨hconvert, rfl⟩

/-- What a successful update of `stamp_ms` does. -/
lemma setStampMs_ok {values : KeyValues} {record after : HeartbeatRecord}
    (h : setStampMs values record = .ok after) :
    (match values.lookup "stamp_ms".toList with
      | none => after.stampMs = record.stampMs
      | some text => stoll text = .ok after.stampMs.toInt) ∧
      after = { record with stampMs := after.stampMs } := by
  unfold setStampMs at h
  cases hstamp : values.lookup "stamp_ms".toList with
  | none =>
    rw [hstamp] at h
    obtain rfl := Except.ok.inj h
    exact ⟨rfl, rfl⟩
  | some text =>
    rw [hstamp] at h
    obtain ⟨stampMs, hconvert, h⟩ := bind_eq_ok_iff.mp h
    obtain rfl := Except.ok.inj h
    obtain ⟨n, -, ⟨hlow, hhigh⟩, rfl⟩ := stoll_eq_ok_iff.mp hconvert
    refine ⟨?_, rfl⟩
    rw [Int64.toInt_ofInt_of_le hlow hhigh]
    exact hconvert

/-- `seq` can be updated exactly when it is absent or begins with a number in range. -/
lemma setSeq_isOk_iff (values : KeyValues) (record : HeartbeatRecord) :
    (∃ after, setSeq values record = .ok after) ↔
      ∀ text, values.lookup "seq".toList = some text → BeginsUnsigned text := by
  unfold setSeq
  cases values.lookup "seq".toList with
  | none => simp
  | some text =>
    simp only [Option.some.injEq, forall_eq', ← stoull_isOk_iff]
    constructor
    · rintro ⟨after, h⟩
      obtain ⟨seq, hconvert, -⟩ := bind_eq_ok_iff.mp h
      exact ⟨seq, hconvert⟩
    · rintro ⟨seq, hconvert⟩
      exact ⟨_, bind_eq_ok_iff.mpr ⟨seq, hconvert, rfl⟩⟩

/-- `stamp_ms` can be updated exactly when it is absent or begins with a number in range. -/
lemma setStampMs_isOk_iff (values : KeyValues) (record : HeartbeatRecord) :
    (∃ after, setStampMs values record = .ok after) ↔
      ∀ text, values.lookup "stamp_ms".toList = some text → BeginsSigned text := by
  unfold setStampMs
  cases values.lookup "stamp_ms".toList with
  | none => simp
  | some text =>
    simp only [Option.some.injEq, forall_eq', ← stoll_isOk_iff]
    constructor
    · rintro ⟨after, h⟩
      obtain ⟨stampMs, hconvert, -⟩ := bind_eq_ok_iff.mp h
      exact ⟨stampMs, hconvert⟩
    · rintro ⟨stampMs, hconvert⟩
      exact ⟨_, bind_eq_ok_iff.mpr ⟨stampMs, hconvert, rfl⟩⟩

/-- Conversions that succeed let all four updates happen. -/
lemma applyFields_of_ok {values : KeyValues} {record middle after : HeartbeatRecord}
    (hseq : setSeq values record = .ok middle) (hstamp : setStampMs values middle = .ok after) :
    applyFields values record = (setSessionId values (setStatus values after), .ok ()) := by
  simp only [applyFields, hseq, hstamp]

/-- Updates succeed only through conversions that do. -/
lemma exists_of_applyFields {values : KeyValues} {record : HeartbeatRecord}
    (h : (applyFields values record).2 = .ok ()) :
    ∃ middle after, setSeq values record = .ok middle ∧ setStampMs values middle = .ok after := by
  cases hseq : setSeq values record with
  | error e =>
    have hthrown : applyFields values record = (record, .error e) := by
      simp only [applyFields, hseq]
    rw [hthrown] at h
    cases h
  | ok middle =>
    cases hstamp : setStampMs values middle with
    | error e =>
      have hthrown : applyFields values record = (middle, .error e) := by
        simp only [applyFields, hseq, hstamp]
      rw [hthrown] at h
      cases h
    | ok after => exact ⟨middle, after, rfl, hstamp⟩

/-- The updates succeed exactly when the numbers can be converted. -/
lemma applyFields_isOk_iff (values : KeyValues) (record : HeartbeatRecord) :
    (applyFields values record).2 = .ok () ↔ Readable values := by
  constructor
  · intro h
    obtain ⟨middle, after, hseq, hstamp⟩ := exists_of_applyFields h
    exact ⟨(setSeq_isOk_iff values record).mp ⟨middle, hseq⟩,
      (setStampMs_isOk_iff values middle).mp ⟨after, hstamp⟩⟩
  · rintro ⟨hseqText, hstampText⟩
    obtain ⟨middle, hseq⟩ := (setSeq_isOk_iff values record).mpr hseqText
    obtain ⟨after, hstamp⟩ := (setStampMs_isOk_iff values middle).mpr hstampText
    rw [applyFields_of_ok hseq hstamp]

/-- `status` is overwritten when it is present. -/
lemma setStatus_eq (values : KeyValues) (record : HeartbeatRecord) :
    setStatus values record =
      { record with status := (values.lookup "status".toList).getD record.status } := by
  unfold setStatus
  cases values.lookup "status".toList <;> rfl

/-- `session_id` is overwritten when it is present. -/
lemma setSessionId_eq (values : KeyValues) (record : HeartbeatRecord) :
    setSessionId values record =
      { record with sessionId := (values.lookup "session_id".toList).getD record.sessionId } := by
  unfold setSessionId
  cases values.lookup "session_id".toList <;> rfl

/-- Updates that succeed apply every field. -/
lemma applied_of_applyFields {values : KeyValues} {record : HeartbeatRecord}
    (h : (applyFields values record).2 = .ok ()) :
    Applied values record (applyFields values record).1 := by
  obtain ⟨middle, after, hseq, hstamp⟩ := exists_of_applyFields h
  obtain ⟨hseqValue, hmiddle⟩ := setSeq_ok hseq
  obtain ⟨hstampValue, hafter⟩ := setStampMs_ok hstamp
  have hseqKept : after.seq = middle.seq := by rw [hafter]
  have hstampKept : middle.stampMs = record.stampMs := by rw [hmiddle]
  have hstatusKept : after.status = record.status := by rw [hafter, hmiddle]
  have hsessionKept : after.sessionId = record.sessionId := by rw [hafter, hmiddle]
  rw [applyFields_of_ok hseq hstamp, setSessionId_eq, setStatus_eq]
  refine ⟨?_, ?_, ?_, ?_⟩
  · rw [← hseqKept] at hseqValue
    exact hseqValue
  · rw [hstampKept] at hstampValue
    exact hstampValue
  · rw [← hstatusKept]
  · rw [← hsessionKept]

/-! ### All or nothing -/

/-- The callback lets no exception escape, and it either applies the payload to the record of its
node, leaving all other records alone, or leaves the table as it was. -/
def AppliesOrKeeps {R : Type} (applied : KeyValues → R → R → Prop) (fresh : R)
    (table : HeartbeatTable R) (payload : Text)
    (result : HeartbeatTable R × Except NumberError Unit) : Prop :=
  let values := parseKeyValuePayload payload
  result.2 = .ok () ∧
  (result.1 = table ∨
    ∃ node after, values.lookup "node".toList = some node ∧
      applied values ((table.lookup node).getD fresh) after ∧
      result.1.lookup node = some after ∧
      ∀ other, other ≠ node → result.1.lookup other = table.lookup other)

/-- The payload names no node, or its numbers can be converted. -/
def Digestible (payload : Text) : Prop :=
  let values := parseKeyValuePayload payload
  values.lookup "node".toList = none ∨ Readable values

/-- A callback applies or keeps exactly for the digestible payloads when its update succeeds
exactly for readable ones, and then applies them. -/
lemma appliesOrKeeps_handleHeartbeatWith {R : Type} {applied : KeyValues → R → R → Prop}
    {fresh : R} {update : KeyValues → R → R × Except NumberError Unit}
    (hok : ∀ values record, (update values record).2 = .ok () ↔ Readable values)
    (happlied : ∀ values record, (update values record).2 = .ok () →
      applied values record (update values record).1)
    (table : HeartbeatTable R) (payload : Text) :
    AppliesOrKeeps applied fresh table payload (handleHeartbeatWith fresh update table payload) ↔
      Digestible payload := by
  unfold AppliesOrKeeps handleHeartbeatWith Digestible
  dsimp only
  cases hnode : (parseKeyValuePayload payload).lookup "node".toList with
  | none => simp
  | some node =>
    have hupdate := hok (parseKeyValuePayload payload) ((table.lookup node).getD fresh)
    constructor
    · rintro ⟨hsucceeds, -⟩
      exact Or.inr (hupdate.mp hsucceeds)
    · rintro (hnone | hreadable)
      · cases hnone
      · have hsucceeds := hupdate.mpr hreadable
        refine ⟨hsucceeds, Or.inr ⟨node, _, rfl, happlied _ _ hsucceeds, ?_, ?_⟩⟩
        · exact AList.lookup_insert _
        · intro other hother
          exact AList.lookup_insert_ne hother

/-- What it means that the watchdog has applied a payload to a record. -/
def WatchdogApplied (values : KeyValues) (before after : WatchdogRecord) : Prop :=
  Applied values before.fields after.fields ∧ after.seen = true

/-- What a heartbeat that is handled without an exception does to the table of the watchdog. -/
lemma watchdogHandleHeartbeat_ok {table : HeartbeatTable WatchdogRecord} {payload : Text}
    (h : (watchdogHandleHeartbeat table payload).2 = .ok ()) :
    let values := parseKeyValuePayload payload
    (values.lookup "node".toList = none ∧ (watchdogHandleHeartbeat table payload).1 = table) ∨
      ∃ node after, values.lookup "node".toList = some node ∧
        WatchdogApplied values ((table.lookup node).getD .fresh) after ∧
        (watchdogHandleHeartbeat table payload).1 = table.insert node after := by
  unfold watchdogHandleHeartbeat handleHeartbeatWith at h ⊢
  dsimp only at h ⊢
  cases hnode : (parseKeyValuePayload payload).lookup "node".toList with
  | none => exact Or.inl ⟨rfl, rfl⟩
  | some node =>
    rw [hnode] at h
    exact Or.inr ⟨node, _, rfl, ⟨applied_of_applyFields h, rfl⟩, rfl⟩

/-- **Both callbacks are all-or-nothing exactly on the digestible payloads.**  A payload that
names a node and carries a `seq` or `stamp_ms` that does not begin with a number in range makes
them throw after the record has been inserted. -/
theorem handleHeartbeat_appliesOrKeeps_iff (payload : Text)
    (watchdogTable : HeartbeatTable WatchdogRecord)
    (monitorTable : HeartbeatTable HeartbeatRecord) :
    (AppliesOrKeeps WatchdogApplied .fresh watchdogTable payload
        (watchdogHandleHeartbeat watchdogTable payload) ∧
      AppliesOrKeeps Applied .fresh monitorTable payload
        (monitorHandleHeartbeat monitorTable payload)) ↔
      Digestible payload := by
  have hwatchdog : AppliesOrKeeps WatchdogApplied .fresh watchdogTable payload
      (watchdogHandleHeartbeat watchdogTable payload) ↔ Digestible payload := by
    apply appliesOrKeeps_handleHeartbeatWith
    · intro values record
      exact applyFields_isOk_iff values record.fields
    · intro values record h
      exact ⟨applied_of_applyFields h, rfl⟩
  have hmonitor : AppliesOrKeeps Applied .fresh monitorTable payload
      (monitorHandleHeartbeat monitorTable payload) ↔ Digestible payload := by
    apply appliesOrKeeps_handleHeartbeatWith
    · exact applyFields_isOk_iff
    · intro values record h
      exact applied_of_applyFields h
  constructor
  · rintro ⟨h, -⟩
    exact hwatchdog.mp h
  · intro h
    exact ⟨hwatchdog.mpr h, hmonitor.mpr h⟩

/-- The payload `node=a seq=x` makes the callbacks throw. -/
theorem handleHeartbeat_throws :
    ¬∀ (payload : Text) (watchdogTable : HeartbeatTable WatchdogRecord)
      (monitorTable : HeartbeatTable HeartbeatRecord),
      AppliesOrKeeps WatchdogApplied .fresh watchdogTable payload
        (watchdogHandleHeartbeat watchdogTable payload) ∧
      AppliesOrKeeps Applied .fresh monitorTable payload
        (monitorHandleHeartbeat monitorTable payload) := by
  intro h
  have hreturns := (h "node=a seq=x".toList ∅ ∅).1.1
  have hthrows : (watchdogHandleHeartbeat ∅ "node=a seq=x".toList).2 =
      .error (.invalidArgument "stoull") := by decide +kernel
  rw [hthrows] at hreturns
  cases hreturns

/-! ### Published heartbeats -/

/-- What the receivers keep of a published heartbeat. -/
def HeartbeatPublisher.record (p : HeartbeatPublisher) (sessionId : Text) (seq : ℕ)
    (stampMs : ℤ) : HeartbeatRecord :=
  ⟨seq, Int64.ofInt stampMs, p.status, sessionId⟩

section Published

variable {sessionId : Text} {seq : ℕ} {stampMs : ℤ} (hsession : NoSpace sessionId)
  (hseq : seq < 2 ^ 64) (hlow : -2 ^ 63 ≤ stampMs) (hhigh : stampMs < 2 ^ 63)

include hsession hseq hlow hhigh

/-- A published heartbeat overwrites all fields of a record. -/
lemma applyFields_payload (p : HeartbeatPublisher) (before : HeartbeatRecord) :
    applyFields (parseKeyValuePayload (p.payload sessionId seq stampMs)) before =
      (p.record sessionId seq stampMs, .ok ()) := by
  have hread : ∀ {key value : Text}, _ → _ := @p.lookup_payload _ hsession seq stampMs
  have hseqText : (parseKeyValuePayload (p.payload sessionId seq stampMs)).lookup "seq".toList =
      some (decimal seq) := hread (by simp [HeartbeatPublisher.fields])
  have hstampText : (parseKeyValuePayload (p.payload sessionId seq stampMs)).lookup
      "stamp_ms".toList = some (decimal stampMs) := hread (by simp [HeartbeatPublisher.fields])
  have hstatus : (parseKeyValuePayload (p.payload sessionId seq stampMs)).lookup
      "status".toList = some p.status := hread (by simp [HeartbeatPublisher.fields])
  have hid : (parseKeyValuePayload (p.payload sessionId seq stampMs)).lookup
      "session_id".toList = some sessionId := hread (by simp [HeartbeatPublisher.fields])
  have hsetSeq : ∀ record : HeartbeatRecord,
      setSeq (parseKeyValuePayload (p.payload sessionId seq stampMs)) record =
        .ok { record with seq := seq } := by
    intro record
    rw [setSeq, hseqText]
    dsimp only
    rw [stoull_decimal hseq]
    rfl
  have hsetStampMs : ∀ record : HeartbeatRecord,
      setStampMs (parseKeyValuePayload (p.payload sessionId seq stampMs)) record =
        .ok { record with stampMs := Int64.ofInt stampMs } := by
    intro record
    rw [setStampMs, hstampText]
    dsimp only
    rw [stoll_decimal hlow hhigh]
    rfl
  simp only [applyFields, hsetSeq, hsetStampMs, setStatus, setSessionId, hstatus, hid]
  rfl

/-- **What a node publishes is what the receivers store**, under the name of the node, when the
session id contains no white space. -/
theorem handleHeartbeat_payload (p : HeartbeatPublisher)
    (watchdogTable : HeartbeatTable WatchdogRecord)
    (monitorTable : HeartbeatTable HeartbeatRecord) :
    watchdogHandleHeartbeat watchdogTable (p.payload sessionId seq stampMs) =
        (watchdogTable.insert p.node ⟨p.record sessionId seq stampMs, true⟩, .ok ()) ∧
      monitorHandleHeartbeat monitorTable (p.payload sessionId seq stampMs) =
        (monitorTable.insert p.node (p.record sessionId seq stampMs), .ok ()) := by
  have hnode : (parseKeyValuePayload (p.payload sessionId seq stampMs)).lookup "node".toList =
      some p.node :=
    p.lookup_payload hsession seq stampMs (by simp [HeartbeatPublisher.fields])
  have happly := applyFields_payload hsession hseq hlow hhigh p
  constructor
  · rw [watchdogHandleHeartbeat, handleHeartbeatWith]
    simp only [hnode, updateWatchdogRecord, happly]
  · rw [monitorHandleHeartbeat, handleHeartbeatWith]
    simp only [hnode, happly]

end Published

end SystemsDemos
