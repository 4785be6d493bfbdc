import SystemsDemos.Heartbeat.Network

/-!
# What the readers of heartbeats know

With session ids that contain no white space every heartbeat is understood, and the tables of
`heartbeat_monitor_node` and of `watchdog_node` hold the latest heartbeat that has arrived from each
node.  The verdicts of the watchdog follow from the stamps that have arrived: those of one clock
that is not set back, in queues that keep the order.

### Outline

* `TablesHold`, the tables against the deliveries, over a run;
* `FallenSilent` and `network_verdict_iff`;
* `recordIn` and `network_records_advance`.
-/

namespace SystemsDemos

/-! ### The tables -/

/-- Naming the latest heartbeat of a node once more. -/
lemma latestNaming_snoc (key : Text) (hs : List Heartbeat) (h : Heartbeat) :
    latestNaming key (hs ++ [h]) =
      if h.publisher.node = key then some h else latestNaming key hs := by
  unfold latestNaming
  by_cases hkey : h.publisher.node = key
  · simp [List.filter_append, hkey]
  · simp [List.filter_append, hkey]

/-- The table holds the latest of the heartbeats under the name of each node, in the form that
`store` gives them. -/
def Holds {R : Type} (store : Heartbeat → R) (hs : List Heartbeat) (table : HeartbeatTable R) :
    Prop :=
  ∀ key, table.lookup key = (latestNaming key hs).map store

/-- A heartbeat that is stored under its name. -/
lemma Holds.insert {R : Type} {store : Heartbeat → R} {hs : List Heartbeat}
    {table : HeartbeatTable R} (hholds : Holds store hs table) (h : Heartbeat) :
    Holds store (hs ++ [h]) (table.insert h.publisher.node (store h)) := by
  intro key
  rw [latestNaming_snoc]
  by_cases hkey : h.publisher.node = key
  · subst hkey
    rw [AList.lookup_insert]
    simp
  · rw [AList.lookup_insert_ne (Ne.symm hkey), hholds key]
    simp [hkey]

/-- Both readers are alive, and each table holds the latest of the heartbeats delivered. -/
structure TablesHold (session : HeartbeatNode → Text) (obs : List NetworkEvent)
    (s : HeartbeatNetwork) : Prop where
  monitorAlive : s.monitorAlive = true
  watchdogAlive : s.watchdog.alive = true
  monitorTable : Holds (Heartbeat.record session) (delivered .monitor obs) s.monitorTable
  watchdogTable : Holds (fun h => ⟨h.record session, true⟩) (delivered .watchdog obs)
    s.watchdog.node.heartbeatTable

/-- A heartbeat whose stamp is a 64-bit number is stored by each reader. -/
lemma TablesHold.handle {session : HeartbeatNode → Text} {obs : List NetworkEvent}
    {s s' : HeartbeatNetwork} {h : Heartbeat} {reader : HeartbeatReader}
    (hholds : TablesHold session obs s) (hsession : NoSpace (session h.publisher.source))
    (hstamp : 0 ≤ h.stampMs ∧ h.stampMs < 2 ^ 63)
    (hhandle : s.handle session h reader = some s') :
    TablesHold session (obs ++ [.delivered reader h]) s' := by
  obtain ⟨hwatchdog, hmonitor⟩ := handleHeartbeat_payload hsession h.seq.toNat_lt (by omega)
    hstamp.2 h.publisher s.watchdog.node.heartbeatTable s.monitorTable
  cases reader with
  | monitor =>
    have hseen : delivered .monitor (obs ++ [.delivered .monitor h]) =
        delivered .monitor obs ++ [h] := by
      simp [delivered, NetworkEvent.delivered?]
    have hunseen : delivered .watchdog (obs ++ [.delivered .monitor h]) =
        delivered .watchdog obs := by
      simp [delivered, NetworkEvent.delivered?]
    rw [HeartbeatNetwork.handle, if_pos hholds.monitorAlive, Heartbeat.payload, hmonitor] at hhandle
    obtain rfl := Option.some.inj hhandle
    refine ⟨hholds.monitorAlive, hholds.watchdogAlive, ?_, ?_⟩
    · rw [hseen]
      exact hholds.monitorTable.insert h
    · rw [hunseen]
      exact hholds.watchdogTable
  | watchdog =>
    have hseen : delivered .watchdog (obs ++ [.delivered .watchdog h]) =
        delivered .watchdog obs ++ [h] := by
      simp [delivered, NetworkEvent.delivered?]
    have hunseen : delivered .monitor (obs ++ [.delivered .watchdog h]) =
        delivered .monitor obs := by
      simp [delivered, NetworkEvent.delivered?]
    have hstep : s.watchdog.step (.heartbeat (h.payload session)) = some ({ s.watchdog with
        node := { s.watchdog.node with heartbeatTable :=
          s.watchdog.node.heartbeatTable.insert h.publisher.node ⟨h.record session, true⟩ } },
        []) := by
      rw [WatchdogState.step, if_neg (by simp [hholds.watchdogAlive])]
      simp only [WatchdogNode.handleHeartbeat, Heartbeat.payload, hwatchdog]
      rfl
    rw [HeartbeatNetwork.handle, hstep] at hhandle
    obtain rfl := Option.some.inj hhandle
    refine ⟨hholds.monitorAlive, hholds.watchdogAlive, ?_, ?_⟩
    · rw [hunseen]
      exact hholds.monitorTable
    · rw [hseen]
      exact hholds.watchdogTable.insert h

/-- Every heartbeat in a queue or delivered has been published. -/
lemma mem_published_of_mem_queue {session : HeartbeatNode → Text}
    {ts : List (Transition HeartbeatNetwork NetworkAction NetworkEvent)} {s : HeartbeatNetwork}
    (h : (heartbeatNetwork session).Run ts s) {reader : HeartbeatReader} {hb : Heartbeat}
    (hmem : hb ∈ s.queue reader) : hb ∈ published (observations ts) :=
  ((HeartbeatNetwork.isLossy session reader).run h).subset (List.mem_append_right _ hmem)

/-- The readers and their tables over a run. -/
lemma tablesHold_of_run {session : HeartbeatNode → Text} (hsession : ∀ n, NoSpace (session n))
    {ts : List (Transition HeartbeatNetwork NetworkAction NetworkEvent)} {s : HeartbeatNetwork}
    (h : (heartbeatNetwork session).Run ts s) : TablesHold session (observations ts) s := by
  induction h with
  | start hinit =>
    obtain ⟨-, -, -, htable, halive, hwatchdog⟩ := hinit
    refine ⟨halive, by rw [hwatchdog], ?_, ?_⟩
    · rw [htable]
      exact fun _ => rfl
    · rw [hwatchdog]
      exact fun _ => rfl
  | @snoc ts s s' a out hrun hstep ih =>
    rw [observations_append, observations_singleton]
    cases HeartbeatNetwork.moves_of_step hstep with
    | clockAdvances =>
      rw [List.append_nil]
      exact ⟨ih.monitorAlive, ih.watchdogAlive, ih.monitorTable, ih.watchdogTable⟩
    | publishes p h =>
      have hnone : ∀ reader, delivered reader [.published h] = [] := fun _ => rfl
      refine ⟨ih.monitorAlive, ih.watchdogAlive, ?_, ?_⟩
      · rw [delivered_append, hnone, List.append_nil]
        exact ih.monitorTable
      · rw [delivered_append, hnone, List.append_nil]
        exact ih.watchdogTable
    | delivers reader h rest _ hqueue hhandle =>
      have hnumbered := numbered_of_run hrun
      have hmem : h ∈ published (observations ts) :=
        mem_published_of_mem_queue hrun (by rw [hqueue]; exact List.mem_cons_self)
      obtain ⟨hlow, hhigh⟩ := hnumbered.stamps h hmem
      have hbefore : TablesHold session (observations ts) (s.setQueue reader rest) :=
        ⟨ih.monitorAlive, ih.watchdogAlive, ih.monitorTable, ih.watchdogTable⟩
      exact hbefore.handle (hsession _) ⟨hlow, hhigh.trans_lt hnumbered.clock_lt⟩ hhandle
    | loses =>
      rw [List.append_nil]
      exact ⟨ih.monitorAlive, ih.watchdogAlive, ih.monitorTable, ih.watchdogTable⟩
    | watches watchdog hnode halive =>
      rw [List.append_nil]
      refine ⟨ih.monitorAlive, halive.trans ih.watchdogAlive, ih.monitorTable, ?_⟩
      rw [hnode]
      exact ih.watchdogTable

/-! ### Names and nodes -/

/-- The payload names the node that publishes it. -/
lemma HeartbeatPublisher.node_eq (p : HeartbeatPublisher) : p.node = p.source.name := by
  cases p <;> rfl

/-- Different nodes have different names. -/
lemma HeartbeatNode.name_injective : Function.Injective HeartbeatNode.name := by
  intro a b h
  cases a <;> cases b
  all_goals first
    | rfl
    | exact absurd h (by decide)

/-- The heartbeats under the name of a node are those of the node. -/
lemma latestNaming_name (n : HeartbeatNode) (hs : List Heartbeat) :
    latestNaming n.name hs = (ofNode n hs).getLast? := by
  have hsame : ∀ h : Heartbeat, h.publisher.node = n.name ↔ h.publisher.source = n := by
    intro h
    rw [h.publisher.node_eq]
    exact HeartbeatNode.name_injective.eq_iff
  simp only [latestNaming, ofNode, hsame]

/-- Only the names of nodes are known. -/
lemma exists_name_of_latestNaming {key : Text} {hs : List Heartbeat} {h : Heartbeat}
    (hlatest : latestNaming key hs = some h) : ∃ n : HeartbeatNode, n.name = key := by
  have hmem := List.mem_of_getLast? hlatest
  obtain ⟨-, hkey⟩ := List.mem_filter.mp hmem
  exact ⟨h.publisher.source, h.publisher.node_eq.symm.trans (by simpa using hkey)⟩

/-! ### The verdict of the watchdog -/

/-- At time `now` the watchdog has heard of the node, but not within the last three seconds. -/
def FallenSilent (obs : List NetworkEvent) (n : HeartbeatNode) (now : ℤ) : Prop :=
  ofNode n (delivered .watchdog obs) ≠ [] ∧
    ∀ h ∈ ofNode n (delivered .watchdog obs), 3000 < now - h.stampMs

/-- In a list whose stamps never decrease, the last stamp decides whether all are old. -/
lemma forall_old_iff {hs : List Heartbeat} {h : Heartbeat} {now : ℤ}
    (hordered : hs.Pairwise fun a b => a.stampMs ≤ b.stampMs) (hlast : hs.getLast? = some h) :
    (∀ a ∈ hs, 3000 < now - a.stampMs) ↔ 3000 < now - h.stampMs := by
  constructor
  · intro hold
    exact hold h (List.mem_of_getLast? hlast)
  · intro hold a ha
    obtain ⟨front, rfl⟩ := List.getLast?_eq_some_iff.mp hlast
    rcases List.mem_append.mp ha with ha | ha
    · have hle := (List.pairwise_append.mp hordered).2.2 a ha h (by simp)
      omega
    · obtain rfl := List.mem_singleton.mp ha
      exact hold

/-- The classification of a stored heartbeat, computed without overflow. -/
lemma classify_stored (session : HeartbeatNode → Text) {h : Heartbeat} {now : ℤ}
    (hlow : 0 ≤ h.stampMs) (hle : h.stampMs ≤ now) (hlt : now < 2 ^ 63) :
    WatchdogRecord.classify ⟨h.record session, true⟩ (Int64.ofInt now) =
      if 3000 < now - h.stampMs then .timeout else .ok := by
  have hnow : (Int64.ofInt now).toInt = now := Int64.toInt_ofInt_of_le (by omega) hlt
  have hstamp : (h.record session).stampMs.toInt = h.stampMs :=
    Int64.toInt_ofInt_of_le (by omega) (by omega)
  have hexact : (now - h.stampMs).bmod (2 ^ 64) = now - h.stampMs :=
    Int.bmod_eq_of_le_mul_two (by omega) (by omega)
  have htimeout := @classify_eq_timeout_iff ⟨h.record session, true⟩ rfl (Int64.ofInt now)
  rw [hnow, hstamp, hexact] at htimeout
  by_cases hlate : 3000 < now - h.stampMs
  · rw [if_pos hlate]
    exact htimeout.mpr hlate
  · rw [if_neg hlate]
    have hnot := mt htimeout.mp hlate
    rw [WatchdogRecord.classify, if_neg (by simp)] at hnot ⊢
    split
    · next hage => exact absurd (if_pos hage) hnot
    · rfl

/-- The verdict on a node from the heartbeats delivered. -/
lemma verdict_eq {session : HeartbeatNode → Text} (hsession : ∀ n, NoSpace (session n))
    {ts : List (Transition HeartbeatNetwork NetworkAction NetworkEvent)} {s : HeartbeatNetwork}
    (h : (heartbeatNetwork session).Run ts s) {now : ℤ} (hle : s.clock ≤ now) (hlt : now < 2 ^ 63)
    (n : HeartbeatNode) :
    verdict s.watchdog.node.heartbeatTable n.name (Int64.ofInt now) =
      (ofNode n (delivered .watchdog (observations ts))).getLast?.map fun h =>
        if 3000 < now - h.stampMs then .timeout else .ok := by
  have hnumbered := numbered_of_run h
  have hsublist : (delivered .watchdog (observations ts)).Sublist (published (observations ts)) :=
    (HeartbeatNetwork.isLossy session .watchdog).received_sublist h
  rw [verdict, (tablesHold_of_run hsession h).watchdogTable, latestNaming_name]
  cases hlast : (ofNode n (delivered .watchdog (observations ts))).getLast? with
  | none => rfl
  | some hb =>
    have hmem : hb ∈ published (observations ts) :=
      hsublist.subset (List.mem_of_mem_filter (List.mem_of_getLast? hlast))
    obtain ⟨hlow, hhigh⟩ := hnumbered.stamps hb hmem
    simp only [Option.map_some, Option.some.injEq]
    exact classify_stored session hlow (hhigh.trans hle) hlt

/-- A node has fallen silent exactly when the verdict on it is a timeout. -/
lemma verdict_eq_timeout_iff {session : HeartbeatNode → Text}
    (hsession : ∀ n, NoSpace (session n))
    {ts : List (Transition HeartbeatNetwork NetworkAction NetworkEvent)} {s : HeartbeatNetwork}
    (h : (heartbeatNetwork session).Run ts s) {now : ℤ} (hle : s.clock ≤ now) (hlt : now < 2 ^ 63)
    (n : HeartbeatNode) :
    verdict s.watchdog.node.heartbeatTable n.name (Int64.ofInt now) = some .timeout ↔
      FallenSilent (observations ts) n now := by
  have hsublist : (delivered .watchdog (observations ts)).Sublist (published (observations ts)) :=
    (HeartbeatNetwork.isLossy session .watchdog).received_sublist h
  have hordered : (ofNode n (delivered .watchdog (observations ts))).Pairwise
      fun a b => a.stampMs ≤ b.stampMs :=
    ((numbered_of_run h).ordered.sublist hsublist).sublist List.filter_sublist
  rw [verdict_eq hsession h hle hlt, FallenSilent]
  cases hlast : (ofNode n (delivered .watchdog (observations ts))).getLast? with
  | none => simp [List.getLast?_eq_none_iff.mp hlast]
  | some hb =>
    have hne : ofNode n (delivered .watchdog (observations ts)) ≠ [] := by
      intro hnil
      simp [hnil] at hlast
    rw [forall_old_iff hordered hlast, Option.map_some, Option.some.injEq]
    by_cases hlate : 3000 < now - hb.stampMs
    · simp [hlate, hne]
    · simp [hlate]

/-- Some node in the table has timed out exactly when the verdict on some name says so. -/
lemma anyTimeout_iff {table : HeartbeatTable WatchdogRecord} {now : Int64} :
    anyTimeout table now = true ↔ ∃ key, verdict table key now = some .timeout := by
  constructor
  · intro h
    obtain ⟨⟨key, record⟩, hentry, hlate⟩ := List.any_eq_true.mp h
    have hlookup : table.lookup key = some record := AList.mem_lookup_iff.mpr hentry
    refine ⟨key, ?_⟩
    rw [verdict, hlookup]
    simpa using hlate
  · rintro ⟨key, hkey⟩
    exact anyTimeout_of_verdict hkey

/-- A fault is requested exactly when the service is ready, no request has been answered and some
node has fallen silent. -/
lemma checkTimeouts_iff {session : HeartbeatNode → Text} (hsession : ∀ n, NoSpace (session n))
    {ts : List (Transition HeartbeatNetwork NetworkAction NetworkEvent)} {s : HeartbeatNetwork}
    (h : (heartbeatNetwork session).Run ts s) {now : ℤ} (hle : s.clock ≤ now) (hlt : now < 2 ^ 63)
    (serviceIsReady : Bool) :
    s.watchdog.node.checkTimeouts (Int64.ofInt now) serviceIsReady ≠ [] ↔
      serviceIsReady = true ∧ s.watchdog.node.faultTriggered = false ∧
        ∃ n, FallenSilent (observations ts) n now := by
  have hsilent : anyTimeout s.watchdog.node.heartbeatTable (Int64.ofInt now) = true ↔
      ∃ n, FallenSilent (observations ts) n now := by
    rw [anyTimeout_iff]
    constructor
    · rintro ⟨key, hkey⟩
      obtain ⟨record, hrecord, -⟩ := Option.map_eq_some_iff.mp hkey
      rw [(tablesHold_of_run hsession h).watchdogTable] at hrecord
      obtain ⟨hb, hlatest, -⟩ := Option.map_eq_some_iff.mp hrecord
      obtain ⟨n, rfl⟩ := exists_name_of_latestNaming hlatest
      exact ⟨n, (verdict_eq_timeout_iff hsession h hle hlt n).mp hkey⟩
    · rintro ⟨n, hn⟩
      exact ⟨n.name, (verdict_eq_timeout_iff hsession h hle hlt n).mpr hn⟩
  rw [← hsilent, WatchdogNode.checkTimeouts]
  cases anyTimeout s.watchdog.node.heartbeatTable (Int64.ofInt now) <;>
    cases s.watchdog.node.faultTriggered <;> cases serviceIsReady <;> simp

instance (obs : List NetworkEvent) (n : HeartbeatNode) (now : ℤ) :
    Decidable (FallenSilent obs n now) := by
  unfold FallenSilent
  infer_instance

/-- The clock at one second, and nothing sent yet. -/
def atOneSecond : HeartbeatNetwork where
  clock := 1000
  sequence _ := 0
  queue _ := []
  monitorTable := ∅
  monitorAlive := true
  watchdog := ⟨.initial, true, 0⟩

/-- What a reader knows under a name. -/
def HeartbeatNetwork.recordIn (s : HeartbeatNetwork) :
    HeartbeatReader → Text → Option HeartbeatRecord
  | .monitor, key => s.monitorTable.lookup key
  | .watchdog, key => (s.watchdog.node.heartbeatTable.lookup key).map WatchdogRecord.fields

/-- What a reader knows is the latest of the heartbeats delivered to it. -/
lemma TablesHold.recordIn {session : HeartbeatNode → Text} {obs : List NetworkEvent}
    {s : HeartbeatNetwork} (hholds : TablesHold session obs s) (reader : HeartbeatReader)
    (key : Text) :
    s.recordIn reader key =
      (latestNaming key (delivered reader obs)).map (Heartbeat.record session) := by
  cases reader with
  | monitor => exact hholds.monitorTable key
  | watchdog =>
    rw [HeartbeatNetwork.recordIn, hholds.watchdogTable key, Option.map_map]
    rfl

/-- The last element of a longer list comes after that of a shorter one. -/
lemma exists_getLast_append {R : Heartbeat → Heartbeat → Prop} {front rest : List Heartbeat}
    {h : Heartbeat} (hordered : (front ++ rest).Pairwise R) (hlast : front.getLast? = some h) :
    ∃ h', (front ++ rest).getLast? = some h' ∧ (h' = h ∨ R h h') := by
  cases hrest : rest.getLast? with
  | none =>
    obtain rfl := List.getLast?_eq_none_iff.mp hrest
    exact ⟨h, by simpa using hlast, Or.inl rfl⟩
  | some h' =>
    refine ⟨h', by simp [List.getLast?_append, hrest], Or.inr ?_⟩
    exact (List.pairwise_append.mp hordered).2.2 h (List.mem_of_getLast? hlast) h'
      (List.mem_of_getLast? hrest)

/-- The numbers of a node increase as long as they have not wrapped around. -/
lemma Numbered.pairwise_seq {hs : List Heartbeat} {clock : ℤ} {sequence : HeartbeatNode → UInt64}
    (hn : Numbered hs clock sequence) (hfew : hs.length < 2 ^ 64) (n : HeartbeatNode) :
    (ofNode n hs).Pairwise fun a b => a.seq.toNat ≤ b.seq.toNat := by
  have hlength : (ofNode n hs).length < 2 ^ 64 := (List.length_filter_le _ _).trans_lt hfew
  have hseq : ((ofNode n hs).map Heartbeat.seq).Pairwise fun a b => a.toNat ≤ b.toNat := by
    rw [hn.numbers n, List.pairwise_map]
    refine List.Pairwise.imp_of_mem ?_ List.pairwise_lt_range
    intro i j hi hj hij
    have hjlt := List.mem_range.mp hj
    simp only [UInt64.toNat_ofNat']
    omega
  exact (List.pairwise_map (R := fun a b : UInt64 => a.toNat ≤ b.toNat)).mp hseq

/-- **The tables never go back.**  As a run goes on, a record is replaced by records that are at
least as late only, and the sequence numbers do not decrease either until 2^64 heartbeats have been
sent. -/
theorem network_records_advance {session : HeartbeatNode → Text}
    (hsession : ∀ n, NoSpace (session n))
    {ts us : List (Transition HeartbeatNetwork NetworkAction NetworkEvent)}
    {s s' : HeartbeatNetwork} (h : (heartbeatNetwork session).Run ts s)
    (h' : (heartbeatNetwork session).Run (ts ++ us) s') {reader : HeartbeatReader} {key : Text}
    {record : HeartbeatRecord} (hrecord : s.recordIn reader key = some record) :
    ∃ record', s'.recordIn reader key = some record' ∧ record.stampMs ≤ record'.stampMs ∧
      ((published (observations (ts ++ us))).length < 2 ^ 64 → record.seq ≤ record'.seq) := by
  rw [(tablesHold_of_run hsession h).recordIn] at hrecord
  obtain ⟨hb, hlatest, rfl⟩ := Option.map_eq_some_iff.mp hrecord
  obtain ⟨n, rfl⟩ := exists_name_of_latestNaming hlatest
  rw [latestNaming_name] at hlatest
  have hsublist : (delivered reader (observations (ts ++ us))).Sublist
      (published (observations (ts ++ us))) :=
    (HeartbeatNetwork.isLossy session reader).received_sublist h'
  have hnumbered := numbered_of_run h'
  have hsplit : ofNode n (delivered reader (observations (ts ++ us))) =
      ofNode n (delivered reader (observations ts)) ++
        ofNode n (delivered reader (observations us)) := by
    rw [observations_append, delivered_append]
    exact List.filter_append _ _
  have hstamps : (ofNode n (delivered reader (observations (ts ++ us)))).Pairwise
      fun a b => a.stampMs ≤ b.stampMs :=
    (hnumbered.ordered.sublist hsublist).sublist List.filter_sublist
  rw [hsplit] at hstamps
  obtain ⟨hb', hlatest', hlater⟩ := exists_getLast_append hstamps hlatest
  have hmem : ∀ b ∈ ofNode n (delivered reader (observations (ts ++ us))),
      0 ≤ b.stampMs ∧ b.stampMs ≤ s'.clock := by
    intro b hb
    exact hnumbered.stamps b (hsublist.subset (List.mem_of_mem_filter hb))
  rw [hsplit] at hmem
  have hbound := hmem hb (List.mem_append_left _ (List.mem_of_getLast? hlatest))
  have hbound' := hmem hb' (List.mem_of_getLast? hlatest')
  have hclock := hnumbered.clock_lt
  refine ⟨hb'.record session, ?_, ?_, ?_⟩
  · rw [(tablesHold_of_run hsession h').recordIn, latestNaming_name, hsplit, hlatest']
    rfl
  · have hle : hb.stampMs ≤ hb'.stampMs := by
      rcases hlater with rfl | hlater
      · exact le_refl _
      · exact hlater
    have hstamp : (hb.record session).stampMs.toInt = hb.stampMs :=
      Int64.toInt_ofInt_of_le (by omega) (by omega)
    have hstamp' : (hb'.record session).stampMs.toInt = hb'.stampMs :=
      Int64.toInt_ofInt_of_le (by omega) (by omega)
    rw [Int64.le_iff_toInt_le, hstamp, hstamp']
    exact hle
  · intro hfew
    have hseqs := (hnumbered.pairwise_seq hfew n).sublist (hsublist.filter _)
    have hseqs' : (ofNode n (delivered reader (observations ts)) ++
        ofNode n (delivered reader (observations us))).Pairwise
          fun a b => a.seq.toNat ≤ b.seq.toNat := by
      rw [← hsplit]
      exact hseqs
    obtain ⟨hb'', hlatest'', hseq⟩ := exists_getLast_append hseqs' hlatest
    obtain rfl := Option.some.inj (hlatest'.symm.trans hlatest'')
    rcases hseq with rfl | hseq
    · exact le_refl _
    · exact hseq

/-- The monitor receives the first two heartbeats of the simulated sensors. -/
theorem network_records_advance_twoHeartbeats :
    ∃ ts s record, (heartbeatNetwork fun _ => "local_session".toList).Run ts s ∧
      s.recordIn .monitor HeartbeatNode.sensorSim.name = some record ∧ 1000 ≤ record.stampMs := by
  obtain ⟨ts, s, hrun, hlong, hfirst⟩ := System.exists_run
    (heartbeatNetwork fun _ => "local_session".toList)
    [.publish .sensorSim, .deliver .monitor, .clockAdvances 2000, .publish .sensorSim,
      .deliver .monitor]
    (fun ts _ => ts.drop 2 ≠ [] ∧ ∀ t ∈ (ts.drop 2).take 1,
      t.pre.recordIn .monitor HeartbeatNode.sensorSim.name =
        some ⟨1, 1000, "OK".toList, "local_session".toList⟩)
    (s := atOneSecond)
    ⟨by decide, fun _ => rfl, fun _ => rfl, rfl, rfl, rfl⟩ (by decide +kernel)
  obtain ⟨t, us, hsplit⟩ := List.exists_cons_of_ne_nil hlong
  rw [← ts.take_append_drop 2, hsplit] at hrun
  rw [hsplit] at hfirst
  obtain ⟨record, hrecord, hlater, -⟩ := network_records_advance (fun _ => by decide)
    hrun.split.1 hrun (hfirst t (by simp))
  exact ⟨_, s, record, hrun, hrecord, hlater⟩

end SystemsDemos
