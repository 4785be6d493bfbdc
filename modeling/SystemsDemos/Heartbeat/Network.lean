import SystemsDemos.Watchdog.Node
import SystemsDemos.Transition.Lossy

/-!
# The heartbeat topic

The nodes of the launch file on `/runtime/heartbeat`: three nodes publish, each with its own
sequence number, and `heartbeat_monitor_node` and `watchdog_node` keep a table each.  Every reader
has a queue of the depth that `heartbeatQos` asks for, and may lose further messages, for example
those from before it was discovered.  That the queues keep the order is an assumption about the
middleware, as is the one clock that all nodes read and that is not set back.

### Outline

* `Heartbeat`, `HeartbeatNetwork` with `step`, and the system `heartbeatNetwork`;
* `published` and `delivered`, what has been sent and what has arrived;
* `Moves`, what a step does, and `isLossy`, that the way to a reader loses messages at most;
* `numbered_of_run`, the numbers and stamps.
-/

namespace SystemsDemos

/-- The nodes that publish heartbeats. -/
inductive HeartbeatNode
  | sensorSim
  | heartbeatMonitor
  | runtime
  deriving DecidableEq

/-- The name of a node, as it stands in its payloads. -/
def HeartbeatNode.name : HeartbeatNode → Text
  | sensorSim => "sensor_sim_node".toList
  | heartbeatMonitor => "heartbeat_monitor_node".toList
  | runtime => "runtime_node".toList

/-- The node that publishes. -/
def HeartbeatPublisher.source : HeartbeatPublisher → HeartbeatNode
  | sensorSim => .sensorSim
  | heartbeatMonitor => .heartbeatMonitor
  | runtime _ _ => .runtime

/-- The nodes that receive heartbeats. -/
inductive HeartbeatReader
  | monitor
  | watchdog
  deriving DecidableEq

/-- A heartbeat with what its payload depends on. -/
structure Heartbeat where
  publisher : HeartbeatPublisher
  seq : UInt64
  stampMs : ℤ

/-- The message of a heartbeat. -/
def Heartbeat.payload (session : HeartbeatNode → Text) (h : Heartbeat) : Text :=
  h.publisher.payload (session h.publisher.source) h.seq.toNat h.stampMs

/-- The depth of `heartbeatQos`. -/
def heartbeatDepth : ℕ := 3

/-- The nodes and the queues between them. -/
structure HeartbeatNetwork where
  clock : ℤ
  /-- `heartbeat_sequence_` of each publisher. -/
  sequence : HeartbeatNode → UInt64
  queue : HeartbeatReader → List Heartbeat
  monitorTable : HeartbeatTable HeartbeatRecord
  /-- No exception has escaped a callback of the monitor. -/
  monitorAlive : Bool
  watchdog : WatchdogState

/-- What can happen. -/
inductive NetworkAction
  | clockAdvances (now : ℤ)
  /-- The heartbeat timer of a node. -/
  | publish (p : HeartbeatPublisher)
  | deliver (reader : HeartbeatReader)
  /-- A message in a queue is lost. -/
  | lose (reader : HeartbeatReader) (i : ℕ)
  /-- The timer of the watchdog. -/
  | checkTimeouts (serviceIsReady : Bool)
  | response

/-- What becomes visible. -/
inductive NetworkEvent
  | published (h : Heartbeat)
  | delivered (reader : HeartbeatReader) (h : Heartbeat)

namespace HeartbeatNetwork

/-- The queue of a reader is replaced. -/
def setQueue (s : HeartbeatNetwork) (reader : HeartbeatReader) (queue : List Heartbeat) :
    HeartbeatNetwork :=
  { s with queue := Function.update s.queue reader queue }

/-- `handleHeartbeat` of a reader; an exception that escapes ends it. -/
def handle (session : HeartbeatNode → Text) (s : HeartbeatNetwork) (h : Heartbeat) :
    HeartbeatReader → Option HeartbeatNetwork
  | .monitor =>
      if s.monitorAlive then
        match monitorHandleHeartbeat s.monitorTable (h.payload session) with
        | (table, .ok ()) => some { s with monitorTable := table }
        | (table, .error _) => some { s with monitorTable := table, monitorAlive := false }
      else none
  | .watchdog =>
      (s.watchdog.step (.heartbeat (h.payload session))).map fun result =>
        { s with watchdog := result.1 }

/-- A publisher whose process has ended publishes no more. -/
def mayPublish (s : HeartbeatNetwork) : HeartbeatNode → Bool
  | .heartbeatMonitor => s.monitorAlive
  | _ => true

/-- One step of the network. -/
def step (session : HeartbeatNode → Text) (s : HeartbeatNetwork) :
    NetworkAction → Option (HeartbeatNetwork × List NetworkEvent)
  | .clockAdvances now =>
      if s.clock ≤ now ∧ now < 2 ^ 63 then some ({ s with clock := now }, []) else none
  | .publish p =>
      if s.mayPublish p.source then
        let seq := s.sequence p.source + 1
        let h : Heartbeat := ⟨p, seq, s.clock⟩
        some ({ s with
            sequence := Function.update s.sequence p.source seq
            queue := fun reader => keepLast heartbeatDepth (s.queue reader) h },
          [.published h])
      else none
  | .deliver reader =>
      match s.queue reader with
      | [] => none
      | h :: rest =>
          ((s.setQueue reader rest).handle session h reader).map fun s =>
            (s, [.delivered reader h])
  | .lose reader i => some (s.setQueue reader ((s.queue reader).eraseIdx i), [])
  | .checkTimeouts serviceIsReady =>
      (s.watchdog.step (.checkTimeouts (Int64.ofInt s.clock) serviceIsReady)).map fun result =>
        ({ s with watchdog := result.1 }, [])
  | .response =>
      (s.watchdog.step .response).map fun result => ({ s with watchdog := result.1 }, [])

end HeartbeatNetwork

/-- The nodes with their session ids, started with empty tables and queues. -/
def heartbeatNetwork (session : HeartbeatNode → Text) :
    System HeartbeatNetwork NetworkAction NetworkEvent where
  init s := (0 ≤ s.clock ∧ s.clock < 2 ^ 63) ∧ (∀ n, s.sequence n = 0) ∧
    (∀ reader, s.queue reader = []) ∧ s.monitorTable = ∅ ∧ s.monitorAlive = true ∧
    s.watchdog = ⟨.initial, true, 0⟩
  step := HeartbeatNetwork.step session

/-! ### What has happened -/

/-- The heartbeats published. -/
def NetworkEvent.published? : NetworkEvent → Option Heartbeat
  | published h => some h
  | _ => none

/-- The heartbeats delivered to a reader. -/
def NetworkEvent.delivered? (reader : HeartbeatReader) : NetworkEvent → Option Heartbeat
  | delivered reader' h => if reader' = reader then some h else none
  | _ => none

/-- The heartbeats published, in order. -/
def published (obs : List NetworkEvent) : List Heartbeat :=
  obs.filterMap NetworkEvent.published?

/-- The heartbeats delivered to a reader, in order. -/
def delivered (reader : HeartbeatReader) (obs : List NetworkEvent) : List Heartbeat :=
  obs.filterMap (NetworkEvent.delivered? reader)

/-- The heartbeats of a node. -/
def ofNode (n : HeartbeatNode) (hs : List Heartbeat) : List Heartbeat :=
  hs.filter fun h => h.publisher.source = n

/-- The latest of the heartbeats that name a node. -/
def latestNaming (key : Text) (hs : List Heartbeat) : Option Heartbeat :=
  (hs.filter fun h => h.publisher.node = key).getLast?

/-- What the readers keep of a heartbeat. -/
def Heartbeat.record (session : HeartbeatNode → Text) (h : Heartbeat) : HeartbeatRecord :=
  h.publisher.record (session h.publisher.source) h.seq.toNat h.stampMs

namespace HeartbeatNetwork

/-! ### What a step does -/

/-- The cases of a step. -/
inductive Moves (session : HeartbeatNode → Text) (s : HeartbeatNetwork) :
    HeartbeatNetwork → List NetworkEvent → Prop
  | clockAdvances (now : ℤ) (hle : s.clock ≤ now) (hlt : now < 2 ^ 63) :
      Moves session s { s with clock := now } []
  | publishes (p : HeartbeatPublisher) (h : Heartbeat)
      (hh : h = ⟨p, s.sequence p.source + 1, s.clock⟩) :
      Moves session s { s with
          sequence := Function.update s.sequence p.source (s.sequence p.source + 1)
          queue := fun reader => keepLast heartbeatDepth (s.queue reader) h }
        [.published h]
  | delivers (reader : HeartbeatReader) (h : Heartbeat) (rest : List Heartbeat)
      (s' : HeartbeatNetwork) (hqueue : s.queue reader = h :: rest)
      (hhandle : (s.setQueue reader rest).handle session h reader = some s') :
      Moves session s s' [.delivered reader h]
  | loses (reader : HeartbeatReader) (i : ℕ) :
      Moves session s (s.setQueue reader ((s.queue reader).eraseIdx i)) []
  | watches (watchdog : WatchdogState) (hnode : watchdog.node.heartbeatTable =
        s.watchdog.node.heartbeatTable) (halive : watchdog.alive = s.watchdog.alive) :
      Moves session s { s with watchdog := watchdog } []

variable {session : HeartbeatNode → Text} {s s' : HeartbeatNetwork} {a : NetworkAction}
  {out : List NetworkEvent}

lemma moves_of_step (h : s.step session a = some (s', out)) : Moves session s s' out := by
  cases a with
  | clockAdvances now =>
    rw [step] at h
    split at h
    · next henabled =>
      cases h
      exact .clockAdvances now henabled.1 henabled.2
    · cases h
  | publish p =>
    rw [step] at h
    split at h
    · cases h
      exact .publishes p _ rfl
    · cases h
  | deliver reader =>
    rw [step] at h
    split at h
    · cases h
    · next hb rest hqueue =>
      obtain ⟨after, hhandle, heq⟩ := Option.map_eq_some_iff.mp h
      cases heq
      exact .delivers reader hb rest _ hqueue hhandle
  | lose reader i =>
    rw [step] at h
    cases h
    exact .loses reader i
  | checkTimeouts serviceIsReady =>
    rw [step] at h
    obtain ⟨⟨watchdog, requests⟩, hwatchdog, heq⟩ := Option.map_eq_some_iff.mp h
    cases heq
    obtain ⟨hlive, hlive', hnode, -, -⟩ := WatchdogState.step_checkTimeouts hwatchdog
    exact .watches watchdog (by rw [hnode]) (hlive'.trans hlive.symm)
  | response =>
    rw [step] at h
    obtain ⟨⟨watchdog, requests⟩, hwatchdog, heq⟩ := Option.map_eq_some_iff.mp h
    cases heq
    obtain ⟨-, -, rfl, -⟩ := WatchdogState.step_response hwatchdog
    exact .watches _ rfl rfl

/-- A callback leaves the clock, the sequence numbers and the queues alone. -/
lemma handle_frame {h : Heartbeat} {reader : HeartbeatReader}
    (hhandle : s.handle session h reader = some s') :
    s'.clock = s.clock ∧ s'.sequence = s.sequence ∧ s'.queue = s.queue := by
  cases reader with
  | monitor =>
    rw [handle] at hhandle
    split at hhandle
    · split at hhandle
      all_goals
        obtain rfl := Option.some.inj hhandle
        exact ⟨rfl, rfl, rfl⟩
    · cases hhandle
  | watchdog =>
    rw [handle] at hhandle
    obtain ⟨result, -, rfl⟩ := Option.map_eq_some_iff.mp hhandle
    exact ⟨rfl, rfl, rfl⟩

/-- The way to a reader loses messages at most. -/
lemma isLossy (session : HeartbeatNode → Text) (reader : HeartbeatReader) :
    IsLossy (heartbeatNetwork session) (fun s => s.queue reader) NetworkEvent.published?
      (NetworkEvent.delivered? reader) where
  init s hinit := hinit.2.2.1 reader
  step s a s' out hstep := by
    cases moves_of_step hstep with
    | clockAdvances => simp
    | publishes p h hh => exact keepLast_sublist heartbeatDepth (s.queue reader) h
    | delivers reader' h rest _ hqueue hhandle =>
      obtain ⟨-, -, hframe⟩ := handle_frame hhandle
      have hafter : s'.queue reader = Function.update s.queue reader' rest reader := by
        rw [hframe]
        rfl
      by_cases hreader : reader' = reader
      · subst hreader
        rw [hafter, Function.update_self, hqueue]
        simp [NetworkEvent.published?, NetworkEvent.delivered?]
      · rw [hafter, Function.update_of_ne (Ne.symm hreader)]
        simp [NetworkEvent.published?, NetworkEvent.delivered?, hreader]
    | loses reader' i =>
      by_cases hreader : reader' = reader
      · subst hreader
        simpa [setQueue] using List.eraseIdx_sublist (s.queue reader') i
      · simp [setQueue, Function.update_of_ne (Ne.symm hreader)]
    | watches => simp

end HeartbeatNetwork

/-! ### What is published -/

@[simp] lemma published_append (obs out : List NetworkEvent) :
    published (obs ++ out) = published obs ++ published out :=
  List.filterMap_append

@[simp] lemma delivered_append (reader : HeartbeatReader) (obs out : List NetworkEvent) :
    delivered reader (obs ++ out) = delivered reader obs ++ delivered reader out :=
  List.filterMap_append

/-- The numbers and the stamps of the heartbeats published so far. -/
structure Numbered (hs : List Heartbeat) (clock : ℤ) (sequence : HeartbeatNode → UInt64) :
    Prop where
  clock_nonneg : 0 ≤ clock
  clock_lt : clock < 2 ^ 63
  stamps : ∀ h ∈ hs, 0 ≤ h.stampMs ∧ h.stampMs ≤ clock
  ordered : hs.Pairwise fun a b => a.stampMs ≤ b.stampMs
  sequence_eq : ∀ n, sequence n = UInt64.ofNat (ofNode n hs).length
  numbers : ∀ n, (ofNode n hs).map Heartbeat.seq =
    (List.range (ofNode n hs).length).map fun i => UInt64.ofNat (i + 1)

namespace Numbered

variable {hs : List Heartbeat} {clock : ℤ} {sequence : HeartbeatNode → UInt64}

/-- The clock may advance. -/
lemma advance (hn : Numbered hs clock sequence) {now : ℤ} (hle : clock ≤ now)
    (hlt : now < 2 ^ 63) : Numbered hs now sequence where
  clock_nonneg := hn.clock_nonneg.trans hle
  clock_lt := hlt
  stamps h hh := ⟨(hn.stamps h hh).1, (hn.stamps h hh).2.trans hle⟩
  ordered := hn.ordered
  sequence_eq := hn.sequence_eq
  numbers := hn.numbers

/-- A publisher takes its next number and the time of the clock. -/
lemma publish (hn : Numbered hs clock sequence) (p : HeartbeatPublisher) :
    Numbered (hs ++ [⟨p, sequence p.source + 1, clock⟩]) clock
      (Function.update sequence p.source (sequence p.source + 1)) where
  clock_nonneg := hn.clock_nonneg
  clock_lt := hn.clock_lt
  stamps h hh := by
    rcases List.mem_append.mp hh with hh | hh
    · exact hn.stamps h hh
    · obtain rfl := List.mem_singleton.mp hh
      exact ⟨hn.clock_nonneg, le_refl clock⟩
  ordered := by
    refine List.pairwise_append.mpr ⟨hn.ordered, List.pairwise_singleton _ _, ?_⟩
    intro a ha b hb
    obtain rfl := List.mem_singleton.mp hb
    exact (hn.stamps a ha).2
  sequence_eq n := by
    by_cases hnode : p.source = n
    · subst hnode
      rw [Function.update_self, hn.sequence_eq]
      simp [ofNode]
    · rw [Function.update_of_ne (Ne.symm hnode), hn.sequence_eq]
      simp [ofNode, hnode]
  numbers n := by
    by_cases hnode : p.source = n
    · subst hnode
      have hold := hn.numbers p.source
      have hnext := hn.sequence_eq p.source
      simp only [ofNode, List.filter_append] at hold hnext ⊢
      simp [List.range_succ, hold, hnext]
    · have hold := hn.numbers n
      simp only [ofNode, List.filter_append] at hold ⊢
      simpa [hnode] using hold

end Numbered

/-- The numbers and the stamps over a run. -/
lemma numbered_of_run {session : HeartbeatNode → Text}
    {ts : List (Transition HeartbeatNetwork NetworkAction NetworkEvent)} {s : HeartbeatNetwork}
    (h : (heartbeatNetwork session).Run ts s) :
    Numbered (published (observations ts)) s.clock s.sequence := by
  induction h with
  | start hinit =>
    obtain ⟨⟨hnonneg, hlt⟩, hsequence, -⟩ := hinit
    exact ⟨hnonneg, hlt, by simp [published], by simp [published],
      fun n => by simp [hsequence, ofNode, published], fun n => by simp [ofNode, published]⟩
  | @snoc ts s s' a out hrun hstep ih =>
    rw [observations_append, observations_singleton, published_append]
    cases HeartbeatNetwork.moves_of_step hstep with
    | clockAdvances now hle hlt => simpa [published] using ih.advance hle hlt
    | publishes p h hh =>
      subst hh
      exact ih.publish p
    | delivers reader h rest _ hqueue hhandle =>
      obtain ⟨hclock, hsequence, -⟩ := HeartbeatNetwork.handle_frame hhandle
      have hnone : published [.delivered reader h] = [] := rfl
      rw [hclock, hsequence, hnone, List.append_nil]
      exact ih
    | loses => simpa [published, HeartbeatNetwork.setQueue] using ih
    | watches => simpa [published] using ih

end SystemsDemos
