import SystemsDemos.Watchdog.Episode
import SystemsDemos.RuntimeNode.Fault
import SystemsDemos.Transition.Party
import Mathlib.Data.List.Perm.Basic

/-!
# The watchdog and the service `apply_event`

`WatchdogNode` and `RuntimeNode` as two parties.  Requests and responses are messages in flight:
a request is sent by a tick of the watchdog, reaches the executor of the runtime at some time, is
answered when that callback returns, and the response reaches the watchdog at some time; messages
overtake each other.  Everything else that can happen to the runtime, an operator's `reset_fault`
and `apply_event` among it, can happen in between.

The latch is set by a response only, so all the ticks of an episode that come before the first
response send a request of their own (`service_one_request_iff`).

### Outline

* `ServiceState` and the system `service`;
* `watchdogPart`, the watchdog as a party;
* `MessagesInPlace`, where the unanswered requests are;
* `SameEpisode`, and when an episode has at most one request.
-/

namespace SystemsDemos

/-! ### The parties and their messages -/

/-- What becomes visible; the requests are numbered in the order in which they are sent. -/
inductive ServiceEvent
  | request (k : ℕ) (event : String)
  | terminated (error : NumberError)
  | runtime (event : NodeEvent)
  deriving DecidableEq

namespace ServiceEvent

/-- The event as the watchdog shows it. -/
def watchdog? : ServiceEvent → Option WatchdogEvent
  | request _ event => some (.request event)
  | terminated error => some (.terminated error)
  | runtime _ => none

/-- The message that is sent. -/
def message? : ServiceEvent → Option (ℕ × String)
  | request k event => some (k, event)
  | _ => none

end ServiceEvent

/-- The events of the watchdog, with `k` as the number of the next request. -/
def number : ℕ → List WatchdogEvent → List ServiceEvent
  | _, [] => []
  | k, .request event :: events => .request k event :: number (k + 1) events
  | k, .terminated error :: events => .terminated error :: number k events

/-- Numbering adds nothing but the numbers. -/
@[simp] lemma filterMap_watchdog_number (k : ℕ) (events : List WatchdogEvent) :
    (number k events).filterMap ServiceEvent.watchdog? = events := by
  induction events generalizing k with
  | nil => rfl
  | cons event events ih => cases event <;> simp [number, ServiceEvent.watchdog?, ih]

/-- A request that is numbered was sent by the watchdog. -/
lemma exists_request_number {k : ℕ} {event : String} {events : List WatchdogEvent} :
    (∃ i, .request i event ∈ number k events) ↔ .request event ∈ events := by
  induction events generalizing k with
  | nil => simp [number]
  | cons e events ih =>
    cases e with
    | request other =>
      simp only [number, List.mem_cons, ServiceEvent.request.injEq, WatchdogEvent.request.injEq,
        exists_or, exists_and_right, exists_eq, true_and, ih]
    | terminated error => simp [number, ih]

/-- The two parties and the messages in flight. -/
structure ServiceState where
  watchdog : WatchdogState
  runtime : RuntimeProcess
  /-- The number of requests sent so far. -/
  sent : ℕ
  /-- The requests in flight. -/
  requests : List (ℕ × String)
  /-- The request of the watchdog that the executor of the runtime works on. -/
  serving : Option ℕ
  /-- The responses in flight. -/
  responses : List ℕ

/-- What can happen. -/
inductive ServiceAction
  | heartbeat (payload : Text)
  | checkTimeouts (now : Int64) (serviceIsReady : Bool)
  /-- A request in flight reaches the executor of the runtime. -/
  | deliverRequest (i : ℕ)
  /-- The runtime does something else, at the request of an operator or by itself. -/
  | runtime (act : NodeAct)
  /-- A response in flight reaches the watchdog. -/
  | deliverResponse (i : ℕ)
  deriving DecidableEq

/-- The event is a response of `apply_event`. -/
def NodeEvent.isApplyEventResponse : NodeEvent → Bool
  | applyEventResponse _ => true
  | _ => false

namespace ServiceState

/-- A step of the watchdog; the requests it sends are in flight from then on. -/
def stepWatchdog (s : ServiceState) (act : WatchdogAction) :
    Option (ServiceState × List ServiceEvent) :=
  (s.watchdog.step act).map fun r =>
    let events := number s.sent r.2
    let messages := events.filterMap ServiceEvent.message?
    ({ s with
      watchdog := r.1
      sent := s.sent + messages.length
      requests := s.requests ++ messages }, events)

/-- A step of the runtime; when it answers a request of the watchdog, the response is in flight
from then on. -/
def stepRuntime (s : ServiceState) (act : NodeAct) :
    Option (ServiceState × List ServiceEvent) :=
  (s.runtime.step act).map fun r =>
    (if r.2.any NodeEvent.isApplyEventResponse then
      { s with runtime := r.1, serving := none, responses := s.responses ++ s.serving.toList }
    else { s with runtime := r.1 }, r.2.map ServiceEvent.runtime)

/-- One step of the two parties. -/
def step (s : ServiceState) : ServiceAction → Option (ServiceState × List ServiceEvent)
  | .heartbeat payload => s.stepWatchdog (.heartbeat payload)
  | .checkTimeouts now serviceIsReady => s.stepWatchdog (.checkTimeouts now serviceIsReady)
  | .deliverRequest i =>
      match s.requests[i]? with
      | none => none
      | some (k, event) =>
          (s.runtime.step (.applyEvent event)).map fun r =>
            ({ s with runtime := r.1, requests := s.requests.eraseIdx i, serving := some k },
              r.2.map ServiceEvent.runtime)
  | .runtime act => s.stepRuntime act
  | .deliverResponse i =>
      if i < s.responses.length then
        { s with responses := s.responses.eraseIdx i }.stepWatchdog .response
      else none

section Inversion

variable {s s' : ServiceState} {i : ℕ} {out : List ServiceEvent}

/-- What a step of the watchdog does to the whole system. -/
lemma stepWatchdog_eq_some {act : WatchdogAction} (h : s.stepWatchdog act = some (s', out)) :
    ∃ after events, s.watchdog.step act = some (after, events) ∧ out = number s.sent events ∧
      s' = { s with
        watchdog := after
        sent := s.sent + (out.filterMap ServiceEvent.message?).length
        requests := s.requests ++ out.filterMap ServiceEvent.message? } := by
  obtain ⟨⟨after, events⟩, hstep, hpost⟩ := Option.map_eq_some_iff.mp h
  obtain ⟨rfl, rfl⟩ := Prod.mk.inj hpost
  exact ⟨after, events, hstep, rfl, rfl⟩

/-- What a step of the runtime does to the whole system. -/
lemma stepRuntime_eq_some {act : NodeAct} (h : s.stepRuntime act = some (s', out)) :
    ∃ after events, s.runtime.step act = some (after, events) ∧
      out = events.map ServiceEvent.runtime ∧
      (events.any NodeEvent.isApplyEventResponse = true ∧
          s' = { s with
            runtime := after
            serving := none
            responses := s.responses ++ s.serving.toList } ∨
        events.any NodeEvent.isApplyEventResponse = false ∧ s' = { s with runtime := after }) := by
  obtain ⟨⟨after, events⟩, hstep, hpost⟩ := Option.map_eq_some_iff.mp h
  obtain ⟨rfl, rfl⟩ := Prod.mk.inj hpost
  refine ⟨after, events, hstep, rfl, ?_⟩
  cases events.any NodeEvent.isApplyEventResponse with
  | true => exact Or.inl ⟨rfl, if_pos rfl⟩
  | false => exact Or.inr ⟨rfl, if_neg Bool.false_ne_true⟩

/-- What a request does that reaches the runtime. -/
lemma step_deliverRequest (h : s.step (.deliverRequest i) = some (s', out)) :
    ∃ k event after events, s.requests[i]? = some (k, event) ∧
      s.runtime.step (.applyEvent event) = some (after, events) ∧
      out = events.map ServiceEvent.runtime ∧
      s' = { s with
        runtime := after
        requests := s.requests.eraseIdx i
        serving := some k } := by
  rw [step] at h
  split at h
  · cases h
  · next k event hmessage =>
    obtain ⟨⟨after, events⟩, hstep, hpost⟩ := Option.map_eq_some_iff.mp h
    obtain ⟨rfl, rfl⟩ := Prod.mk.inj hpost
    exact ⟨k, event, after, events, hmessage, hstep, rfl, rfl⟩

/-- What a response does that reaches the watchdog. -/
lemma step_deliverResponse (h : s.step (.deliverResponse i) = some (s', out)) :
    i < s.responses.length ∧ ∃ after, s.watchdog.step .response = some (after, []) ∧ out = [] ∧
      s' = { s with
        watchdog := after
        responses := s.responses.eraseIdx i } := by
  rw [step] at h
  split at h
  · next hi =>
    obtain ⟨after, events, hstep, rfl, rfl⟩ := stepWatchdog_eq_some h
    obtain ⟨-, -, -, rfl⟩ := WatchdogState.step_response hstep
    refine ⟨hi, after, hstep, rfl, ?_⟩
    simp [number]
  · cases h

end Inversion

end ServiceState

/-- The watchdog together with the runtime, both freshly started. -/
def service : System ServiceState ServiceAction ServiceEvent where
  init s := s = ⟨⟨.initial, true, 0⟩, .start, 0, [], none, []⟩
  step := ServiceState.step

/-- The transitions of the two parties. -/
abbrev ServiceTransition := Transition ServiceState ServiceAction ServiceEvent

/-! ### The watchdog as a party -/

/-- What the watchdog does in an action. -/
def ServiceAction.watchdog? : ServiceAction → Option WatchdogAction
  | heartbeat payload => some (.heartbeat payload)
  | checkTimeouts now serviceIsReady => some (.checkTimeouts now serviceIsReady)
  | deliverResponse _ => some .response
  | _ => none

/-- What the watchdog does in a transition. -/
def watchdogPart (t : ServiceTransition) : Option WatchdogTransition :=
  t.act.watchdog?.map fun act =>
    ⟨t.pre.watchdog, act, t.post.watchdog, t.out.filterMap ServiceEvent.watchdog?⟩

/-- What the watchdog does in a transition of the whole system is a step of its own. -/
lemma service_valid_watchdog {t : ServiceTransition} (hvalid : service.Valid t)
    {act : WatchdogAction} (hact : t.act.watchdog? = some act) :
    ∃ events, t.pre.watchdog.step act = some (t.post.watchdog, events) ∧
      t.out = number t.pre.sent events := by
  obtain ⟨s, a, s', out⟩ := t
  have hstep : s.step a = some (s', out) := hvalid
  cases a with
  | heartbeat payload =>
    obtain rfl := Option.some.inj hact
    obtain ⟨after, events, hmove, hout, rfl⟩ := ServiceState.stepWatchdog_eq_some hstep
    exact ⟨events, hmove, hout⟩
  | checkTimeouts now serviceIsReady =>
    obtain rfl := Option.some.inj hact
    obtain ⟨after, events, hmove, hout, rfl⟩ := ServiceState.stepWatchdog_eq_some hstep
    exact ⟨events, hmove, hout⟩
  | deliverRequest i => cases hact
  | runtime act => cases hact
  | deliverResponse i =>
    obtain rfl := Option.some.inj hact
    obtain ⟨-, after, hmove, rfl, rfl⟩ := ServiceState.step_deliverResponse hstep
    exact ⟨[], hmove, rfl⟩

/-- The watchdog is a party of the whole system. -/
lemma isParty_watchdog : IsParty service watchdog ServiceState.watchdog watchdogPart where
  init := by
    rintro s rfl
    rfl
  idle := by
    rintro ⟨s, a, s', out⟩ hvalid hpart
    have hstep : s.step a = some (s', out) := hvalid
    cases a with
    | heartbeat payload => cases hpart
    | checkTimeouts now serviceIsReady => cases hpart
    | deliverResponse i => cases hpart
    | runtime act =>
      obtain ⟨after, events, -, -, ⟨-, rfl⟩ | ⟨-, rfl⟩⟩ := ServiceState.stepRuntime_eq_some hstep
      · rfl
      · rfl
    | deliverRequest i =>
      obtain ⟨k, event, after, events, -, -, -, rfl⟩ := ServiceState.step_deliverRequest hstep
      rfl
  move := by
    rintro t u hvalid hpart
    obtain ⟨act, hact, rfl⟩ := Option.map_eq_some_iff.mp hpart
    obtain ⟨events, hstep, hout⟩ := service_valid_watchdog hvalid hact
    refine ⟨rfl, rfl, ?_⟩
    have hshown : t.out.filterMap ServiceEvent.watchdog? = events := by
      rw [hout, filterMap_watchdog_number]
    change t.pre.watchdog.step act = some (t.post.watchdog, _)
    rw [hshown]
    exact hstep

/-! ### Messages -/

/-- The executor works on a request to `apply_event`. -/
def ExecPoint.servesApplyEvent : ExecPoint → Bool
  | log _ _ _ next => next.servesApplyEvent
  | applyEvent .. | applyReturn _ | unknownState _ | unknownError .. => true
  | _ => false

/-- The executor works on a request to `apply_event` until it answers it. -/
lemma servesApplyEvent_of_stepExecutor {s s' : RuntimeProcess} {now : ℤ} {out : List NodeEvent}
    (hserves : s.executor.servesApplyEvent = true) (h : s.stepExecutor now = some (s', out)) :
    out.any NodeEvent.isApplyEventResponse = true ∨ s'.executor.servesApplyEvent = true := by
  unfold RuntimeProcess.stepExecutor at h
  cases hx : s.executor with
  | log level event message next =>
    rw [hx] at h hserves
    obtain ⟨rfl, rfl⟩ := Prod.mk.inj (Option.some.inj h)
    exact Or.inr hserves
  | applyEvent name event =>
    rw [hx] at h
    obtain ⟨rfl, rfl⟩ := Prod.mk.inj (Option.some.inj h)
    exact Or.inr rfl
  | applyReturn response =>
    rw [hx] at h
    obtain ⟨rfl, rfl⟩ := Prod.mk.inj (Option.some.inj h)
    exact Or.inl rfl
  | unknownState name =>
    rw [hx] at h
    obtain ⟨rfl, rfl⟩ := Prod.mk.inj (Option.some.inj h)
    exact Or.inr rfl
  | unknownError name state =>
    rw [hx] at h
    obtain ⟨rfl, rfl⟩ := Prod.mk.inj (Option.some.inj h)
    exact Or.inr rfl
  | _ =>
    rw [hx] at hserves
    cases hserves

/-- The task thread does not touch the executor. -/
lemma executor_of_stepTask {s s' : RuntimeProcess} {out : List NodeEvent}
    (h : s.stepTask = some (s', out)) : s'.executor = s.executor := by
  unfold RuntimeProcess.stepTask at h
  cases ht : s.taskThread with
  | none =>
    rw [ht] at h
    cases h
  | some t =>
    rw [ht] at h
    cases hp : t.point with
    | loop step =>
      simp only [hp] at h
      split at h
      · split at h <;> (obtain ⟨rfl, -⟩ := Prod.mk.inj (Option.some.inj h); rfl)
      · obtain ⟨rfl, -⟩ := Prod.mk.inj (Option.some.inj h)
        rfl
    | checkOk step =>
      simp only [hp] at h
      split at h <;> (obtain ⟨rfl, -⟩ := Prod.mk.inj (Option.some.inj h); rfl)
    | returned =>
      simp only [hp] at h
      cases h
    | _ =>
      simp only [hp] at h
      obtain ⟨rfl, -⟩ := Prod.mk.inj (Option.some.inj h)
      rfl

/-- A step of the runtime that does not answer leaves the executor at work on the request. -/
lemma servesApplyEvent_of_step {s s' : RuntimeProcess} {act : NodeAct} {out : List NodeEvent}
    (hserves : s.executor.servesApplyEvent = true) (h : s.step act = some (s', out)) :
    out.any NodeEvent.isApplyEventResponse = true ∨ s'.executor.servesApplyEvent = true := by
  have hbusy : s.executor ≠ .idle := by
    intro hidle
    rw [hidle] at hserves
    cases hserves
  cases act with
  | exec now => exact servesApplyEvent_of_stepExecutor hserves h
  | task => exact Or.inr (by rw [executor_of_stepTask h]; exact hserves)
  | shutdown =>
    obtain ⟨rfl, -⟩ := Prod.mk.inj (Option.some.inj h)
    exact Or.inr hserves
  | _ =>
    -- the executor starts no callback while it is busy
    simp only [RuntimeProcess.step, if_neg hbusy] at h
    cases h

/-- A request that reaches an idle executor is worked on. -/
lemma servesApplyEvent_of_applyEvent {s s' : RuntimeProcess} {name : String}
    {out : List NodeEvent} (h : s.step (.applyEvent name) = some (s', out)) :
    s.executor = .idle ∧ s'.executor.servesApplyEvent = true := by
  rw [RuntimeProcess.step] at h
  split at h
  · next hidle =>
    refine ⟨hidle, ?_⟩
    cases hparse : parseRuntimeEvent name with
    | none =>
      simp only [RuntimeProcess.callback, hparse, Option.map_some] at h
      obtain ⟨rfl, -⟩ := Prod.mk.inj (Option.some.inj h)
      rfl
    | some event =>
      simp only [RuntimeProcess.callback, hparse, Option.map_some] at h
      obtain ⟨rfl, -⟩ := Prod.mk.inj (Option.some.inj h)
      rfl
  · cases h
  all_goals simp

/-- Numbered requests are messages with consecutive numbers. -/
private lemma numbers_requests (k : ℕ) (requests : List String) :
    ((number k (requests.map WatchdogEvent.request)).filterMap ServiceEvent.message?).map
      Prod.fst = List.range' k requests.length := by
  induction requests generalizing k with
  | nil => rfl
  | cons request requests ih =>
    have hhead : ServiceEvent.message? (.request k request) = some (k, request) := rfl
    rw [List.map_cons, number, List.filterMap_cons_some hhead, List.map_cons, ih,
      List.length_cons, List.range'_succ]

/-- Events without a request hold no message. -/
private lemma messages_eq_nil {events : List WatchdogEvent}
    (h : ∀ event, .request event ∉ events) (k : ℕ) :
    (number k events).filterMap ServiceEvent.message? = [] := by
  induction events generalizing k with
  | nil => rfl
  | cons event events ih =>
    cases event with
    | request name => exact absurd List.mem_cons_self (h name)
    | terminated error =>
      have hrest := ih (fun name hmem => h name (List.mem_cons_of_mem _ hmem)) k
      simpa [number, ServiceEvent.message?] using hrest

/-- The requests on their way to the runtime, with the executor, or answered and on their way
back. -/
def ServiceState.places (s : ServiceState) : List ℕ :=
  s.requests.map Prod.fst ++ s.serving.toList ++ s.responses

/-- Every unanswered request is in exactly one place. -/
structure MessagesInPlace (s : ServiceState) : Prop where
  count : s.places.length = s.watchdog.unanswered
  nodup : s.places.Nodup
  numbered : ∀ k ∈ s.places, k < s.sent
  served : s.serving ≠ none → s.runtime.executor.servesApplyEvent = true

namespace MessagesInPlace

variable {s s' : ServiceState} {out : List ServiceEvent}

/-- A message that changes its place stays one message. -/
lemma of_perm (hs : MessagesInPlace s) (hplaces : s'.places.Perm s.places)
    (hwatchdog : s'.watchdog = s.watchdog) (hsent : s'.sent = s.sent)
    (hserved : s'.serving ≠ none → s'.runtime.executor.servesApplyEvent = true) :
    MessagesInPlace s' where
  count := by rw [hplaces.length_eq, hwatchdog, hs.count]
  nodup := hplaces.nodup_iff.mpr hs.nodup
  numbered k hk := by
    rw [hsent]
    exact hs.numbered k (hplaces.subset hk)
  served := hserved

/-- A step of the runtime keeps the messages in place; its answer takes the place of the
request. -/
lemma stepRuntime {act : NodeAct} (hs : MessagesInPlace s)
    (h : s.stepRuntime act = some (s', out)) : MessagesInPlace s' := by
  obtain ⟨after, events, hmove, -, ⟨-, rfl⟩ | ⟨hsilent, rfl⟩⟩ :=
    ServiceState.stepRuntime_eq_some h
  · refine hs.of_perm ?_ rfl rfl (fun hserving => absurd rfl hserving)
    simp only [ServiceState.places, Option.toList_none, List.append_nil, List.append_assoc]
    exact List.perm_append_comm.append_left _
  · refine hs.of_perm (List.Perm.refl _) rfl rfl (fun hserving => ?_)
    rcases servesApplyEvent_of_step (hs.served hserving) hmove with hanswer | hstill
    · exact absurd (hsilent.symm.trans hanswer) Bool.false_ne_true
    · exact hstill

/-- A request that reaches the executor changes its place. -/
lemma deliverRequest {i : ℕ} (hs : MessagesInPlace s)
    (h : s.step (.deliverRequest i) = some (s', out)) : MessagesInPlace s' := by
  obtain ⟨k, event, after, events, hmessage, hmove, -, rfl⟩ := ServiceState.step_deliverRequest h
  obtain ⟨hidle, hworks⟩ := servesApplyEvent_of_applyEvent hmove
  have hnone : s.serving = none := by
    by_contra hserving
    have hbusy := hs.served hserving
    rw [hidle] at hbusy
    cases hbusy
  obtain ⟨hi, hget⟩ := List.getElem?_eq_some_iff.mp hmessage
  have hmoved : ((s.requests.eraseIdx i).map Prod.fst ++ [k]).Perm
      (s.requests.map Prod.fst) := by
    have hperm := (List.getElem_cons_eraseIdx_perm hi).map Prod.fst
    rw [hget, List.map_cons] at hperm
    exact (List.perm_append_singleton _ _).trans hperm
  refine hs.of_perm ?_ rfl rfl (fun _ => hworks)
  simp only [ServiceState.places, hnone, Option.toList_some, Option.toList_none,
    List.append_nil]
  exact hmoved.append_right _

/-- A response that reaches the watchdog leaves its place. -/
lemma deliverResponse {i : ℕ} (hs : MessagesInPlace s)
    (h : s.step (.deliverResponse i) = some (s', out)) : MessagesInPlace s' := by
  obtain ⟨hi, after, hmove, -, rfl⟩ := ServiceState.step_deliverResponse h
  obtain ⟨-, -, rfl, -⟩ := WatchdogState.step_response hmove
  have hsub : (s.requests.map Prod.fst ++ s.serving.toList ++ s.responses.eraseIdx i).Sublist
      s.places :=
    (List.eraseIdx_sublist s.responses i).append_left _
  have hcount := hs.count
  simp only [ServiceState.places, List.length_append] at hcount
  refine ⟨?_, hs.nodup.sublist hsub, fun k hk => hs.numbered k (hsub.subset hk), hs.served⟩
  simp only [ServiceState.places, List.length_append, List.length_eraseIdx_of_lt hi]
  omega

/-- A heartbeat sends nothing. -/
lemma heartbeat {payload : Text} (hs : MessagesInPlace s)
    (h : s.step (.heartbeat payload) = some (s', out)) : MessagesInPlace s' := by
  obtain ⟨after, events, hmove, rfl, rfl⟩ := ServiceState.stepWatchdog_eq_some h
  obtain ⟨-, -, -, hunanswered, -, hnone⟩ := WatchdogState.step_heartbeat hmove
  simp only [messages_eq_nil hnone, List.append_nil, List.length_nil, Nat.add_zero]
  exact ⟨hs.count.trans hunanswered.symm, hs.nodup, hs.numbered, hs.served⟩

/-- A tick puts the requests that it sends on their way. -/
lemma checkTimeouts {now : Int64} {serviceIsReady : Bool} (hs : MessagesInPlace s)
    (h : s.step (.checkTimeouts now serviceIsReady) = some (s', out)) : MessagesInPlace s' := by
  obtain ⟨after, events, hmove, rfl, rfl⟩ := ServiceState.stepWatchdog_eq_some h
  obtain ⟨-, -, -, hunanswered, rfl⟩ := WatchdogState.step_checkTimeouts hmove
  generalize s.watchdog.node.checkTimeouts now serviceIsReady = sent at hunanswered
  have hnumbers := numbers_requests s.sent sent
  generalize (number s.sent (sent.map WatchdogEvent.request)).filterMap ServiceEvent.message? =
    messages at hnumbers
  have hlength : messages.length = sent.length := by
    simpa using congrArg List.length hnumbers
  have hperm : ((s.requests ++ messages).map Prod.fst ++ s.serving.toList ++ s.responses).Perm
      (s.places ++ List.range' s.sent sent.length) := by
    rw [List.map_append, hnumbers]
    simp only [ServiceState.places, List.append_assoc]
    refine List.Perm.append_left _ ?_
    rw [← List.append_assoc s.serving.toList]
    exact List.perm_append_comm
  constructor
  · change ((s.requests ++ messages).map Prod.fst ++ s.serving.toList ++ s.responses).length = _
    rw [hperm.length_eq, List.length_append, hs.count, hunanswered, List.length_range']
  · refine hperm.nodup_iff.mpr (List.nodup_append.mpr
      ⟨hs.nodup, List.nodup_range', fun i hi j hj => ?_⟩)
    have hold := hs.numbered i hi
    have hnew := (List.mem_range'_1.mp hj).1
    omega
  · intro k hk
    change k < s.sent + messages.length
    rcases List.mem_append.mp (hperm.subset hk) with hold | hnew
    · exact Nat.lt_add_right _ (hs.numbered k hold)
    · rw [hlength]
      exact (List.mem_range'_1.mp hnew).2
  · exact hs.served

end MessagesInPlace

/-- **No request and no response is lost or doubled**: in every reachable state each request the
watchdog waits for is in exactly one place. -/
theorem service_messagesInPlace {s : ServiceState} (h : service.Reachable s) :
    MessagesInPlace s := by
  obtain ⟨ts, hrun⟩ := h
  refine hrun.invariant ?_ ?_
  · rintro s rfl
    exact ⟨rfl, List.nodup_nil, fun k hk => absurd hk List.not_mem_nil,
      fun hserving => absurd rfl hserving⟩
  · intro s a s' out hs hstep
    cases a with
    | heartbeat payload => exact hs.heartbeat hstep
    | checkTimeouts now serviceIsReady => exact hs.checkTimeouts hstep
    | deliverRequest i => exact hs.deliverRequest hstep
    | runtime act => exact hs.stepRuntime hstep
    | deliverResponse i => exact hs.deliverResponse hstep

/-! ### Ticks -/

/-- The transition is a tick that finds a node timed out. -/
def TimedOut (t : ServiceTransition) : Prop :=
  ∃ now serviceIsReady, t.act = .checkTimeouts now serviceIsReady ∧
    anyTimeout t.pre.watchdog.node.heartbeatTable now = true

/-- The transition is no tick that finds all nodes alive. -/
def Continues (t : ServiceTransition) : Prop :=
  ∀ now serviceIsReady, t.act = .checkTimeouts now serviceIsReady →
    anyTimeout t.pre.watchdog.node.heartbeatTable now = true

/-- The tick finds the service ready. -/
def FindsServiceReady (t : ServiceTransition) : Prop :=
  ∀ now serviceIsReady, t.act = .checkTimeouts now serviceIsReady → serviceIsReady = true

/-- The transition sends the request with number `k`. -/
def Sends (k : ℕ) (t : ServiceTransition) : Prop := .request k "SensorTimeout" ∈ t.out

/-- A response reaches the watchdog. -/
def Responds (t : ServiceTransition) : Prop := ∃ i, t.act = .deliverResponse i

/-- The latch of the watchdog is set exactly when a response has reached it. -/
lemma service_latch_iff {ts : List ServiceTransition} {s : ServiceState}
    (h : service.Run ts s) :
    s.watchdog.node.faultTriggered = true ↔ ∃ t ∈ ts, Responds t := by
  rw [watchdog_latch_iff (isParty_watchdog.run h)]
  constructor
  · rintro ⟨u, hu, hact⟩
    obtain ⟨t, ht, hpart⟩ := List.mem_filterMap.mp hu
    obtain ⟨act, hmove, rfl⟩ := Option.map_eq_some_iff.mp hpart
    obtain rfl : act = .response := hact
    refine ⟨t, ht, ?_⟩
    cases ha : t.act with
    | deliverResponse i => exact ⟨i, ha⟩
    | heartbeat payload => rw [ha] at hmove; cases hmove
    | checkTimeouts now serviceIsReady => rw [ha] at hmove; cases hmove
    | deliverRequest i => rw [ha] at hmove; cases hmove
    | runtime act => rw [ha] at hmove; cases hmove
  · rintro ⟨t, ht, i, hact⟩
    have hpart : watchdogPart t = some ⟨t.pre.watchdog, .response, t.post.watchdog,
        t.out.filterMap ServiceEvent.watchdog?⟩ := by
      rw [watchdogPart, hact]
      rfl
    exact ⟨_, List.mem_filterMap.mpr ⟨t, ht, hpart⟩, rfl⟩

/-- A tick that finds a node timed out sends a request exactly when it finds the service ready and
no response has arrived. -/
lemma sends_iff {us vs : List ServiceTransition} {t : ServiceTransition} {s : ServiceState}
    (h : service.Run (us ++ t :: vs) s) (htimedOut : TimedOut t) :
    (∃ k, Sends k t) ↔ FindsServiceReady t ∧ ∀ u ∈ us, ¬Responds u := by
  obtain ⟨hbefore, hvalid⟩ := h.split
  obtain ⟨now, serviceIsReady, hact, hany⟩ := htimedOut
  have hmove : t.act.watchdog? = some (.checkTimeouts now serviceIsReady) := by
    rw [hact]
    rfl
  obtain ⟨events, hstep, hout⟩ := service_valid_watchdog hvalid hmove
  obtain ⟨-, -, -, -, hevents⟩ := WatchdogState.step_checkTimeouts hstep
  have hready : FindsServiceReady t ↔ serviceIsReady = true := by
    constructor
    · intro hfinds
      exact hfinds now serviceIsReady hact
    · intro hset now' serviceIsReady' hact'
      obtain ⟨-, rfl⟩ := ServiceAction.checkTimeouts.inj (hact.symm.trans hact')
      exact hset
  have hnone : (∀ u ∈ us, ¬Responds u) ↔ t.pre.watchdog.node.faultTriggered = false := by
    rw [← Bool.not_eq_true, service_latch_iff hbefore]
    push Not
    rfl
  unfold Sends
  rw [hout, exists_request_number, hevents, hready, hnone, WatchdogNode.checkTimeouts, hany]
  cases serviceIsReady <;> cases t.pre.watchdog.node.faultTriggered <;> simp

/-! ### Episodes -/

/-- `x` and `y` are two ticks of one timeout episode of the run `ts`. -/
def SameEpisode (ts us : List ServiceTransition) (x : ServiceTransition)
    (vs : List ServiceTransition) (y : ServiceTransition) (ws : List ServiceTransition) : Prop :=
  ts = us ++ x :: (vs ++ y :: ws) ∧ TimedOut x ∧ TimedOut y ∧ ∀ v ∈ vs, Continues v

/-- Every timeout episode has at most one request. -/
def AtMostOneRequest (ts : List ServiceTransition) : Prop :=
  ∀ us x vs y ws i k, SameEpisode ts us x vs y ws → Sends i x → ¬Sends k y

/-- The request with number `k` is not the first one of its episode. -/
def Duplicate (ts : List ServiceTransition) (k : ℕ) : Prop :=
  ∃ us x vs y ws i, SameEpisode ts us x vs y ws ∧ Sends i x ∧ Sends k y

/-- The transition takes the runtime from `Standby` to `Fault` for the request with number `k`. -/
def PushesToFault (k : ℕ) (t : ServiceTransition) : Prop :=
  t.pre.serving = some k ∧ ∃ r, .runtime (.processed .applyEvent .sensorTimeout r) ∈ t.out ∧
    r.previousState = .standby ∧ r.currentState = .fault

/-- No duplicate takes the runtime from `Standby` to `Fault`. -/
def NoLateDuplicate (ts : List ServiceTransition) : Prop :=
  ∀ k, Duplicate ts k → ∀ t ∈ ts, ¬PushesToFault k t

/-- In every episode a response has arrived before the second tick that finds the service
ready. -/
def AnsweredInTime (ts : List ServiceTransition) : Prop :=
  ∀ us x vs y ws, SameEpisode ts us x vs y ws → FindsServiceReady x → FindsServiceReady y →
    ∃ u ∈ us ++ x :: vs, Responds u

/-- Without two requests in one episode there are no duplicates. -/
lemma AtMostOneRequest.not_duplicate {ts : List ServiceTransition} (h : AtMostOneRequest ts)
    (k : ℕ) : ¬Duplicate ts k := by
  rintro ⟨us, x, vs, y, ws, i, hepisode, hx, hy⟩
  exact h us x vs y ws i k hepisode hx hy

/-- **An episode has at most one request exactly when a response arrives before its second tick.**
Every tick that finds a node timed out, the service ready and the latch clear sends a request, and
the latch is clear until a response arrives. -/
theorem service_one_request_iff {ts : List ServiceTransition} {s : ServiceState}
    (h : service.Run ts s) :
    (AtMostOneRequest ts ∧ NoLateDuplicate ts) ↔ AnsweredInTime ts := by
  constructor
  · rintro ⟨hone, -⟩ us x vs y ws hepisode hxready hyready
    by_contra hunanswered
    push Not at hunanswered
    obtain ⟨hcut, hx, hy, -⟩ := id hepisode
    have hrun : service.Run (us ++ x :: (vs ++ y :: ws)) s := hcut ▸ h
    have hrun' : service.Run ((us ++ x :: vs) ++ y :: ws) s := by simpa using hrun
    obtain ⟨i, hi⟩ := (sends_iff hrun hx).mpr
      ⟨hxready, fun u hu => hunanswered u (List.mem_append_left _ hu)⟩
    obtain ⟨k, hk⟩ := (sends_iff hrun' hy).mpr ⟨hyready, hunanswered⟩
    exact hone us x vs y ws i k hepisode hi hk
  · intro hanswered
    have hone : AtMostOneRequest ts := by
      intro us x vs y ws i k hepisode hi hk
      obtain ⟨hcut, hx, hy, -⟩ := id hepisode
      have hrun : service.Run (us ++ x :: (vs ++ y :: ws)) s := hcut ▸ h
      have hrun' : service.Run ((us ++ x :: vs) ++ y :: ws) s := by simpa using hrun
      obtain ⟨hxready, -⟩ := (sends_iff hrun hx).mp ⟨i, hi⟩
      obtain ⟨hyready, hnone⟩ := (sends_iff hrun' hy).mp ⟨k, hk⟩
      obtain ⟨u, hu, hresponds⟩ := hanswered us x vs y ws hepisode hxready hyready
      exact hnone u hu hresponds
    exact ⟨hone, fun k hduplicate => absurd hduplicate (hone.not_duplicate k)⟩

/-- Node `a` times out, and the request for a fault is answered before the next tick. -/
def promptAnswer : List ServiceAction :=
  [.heartbeat "node=a stamp_ms=0".toList, .checkTimeouts 4000 true, .deliverRequest 0,
    .runtime (.exec 0), .runtime (.exec 0), .runtime (.exec 0), .deliverResponse 0,
    .checkTimeouts 5000 true]

/-- The prompt answer keeps the second tick silent. -/
theorem service_one_request_promptAnswer :
    ∃ ts s, service.Run ts s ∧ ts.map Transition.act = promptAnswer ∧ AtMostOneRequest ts := by
  have hrun := System.run_of_exec service promptAnswer rfl rfl
  refine ⟨_, _, hrun, rfl, ((service_one_request_iff hrun).mpr ?_).1⟩
  rintro us x vs y ws ⟨hcut, ⟨_, _, hx, -⟩, ⟨_, _, hy, -⟩, -⟩ - -
  have hacts : promptAnswer =
      (us ++ x :: vs).map Transition.act ++ (y :: ws).map Transition.act := by
    rw [← List.map_append, List.append_assoc, List.cons_append, ← hcut]
    rfl
  have hsecond : promptAnswer[(us ++ x :: vs).length]? = some y.act := by
    rw [hacts]
    simp
  by_cases hlate : 6 < (us ++ x :: vs).length
  · have hresponse : ((us ++ x :: vs).map Transition.act)[6]? = some (.deliverResponse 0) := by
      have hprefix : promptAnswer[6]? = ((us ++ x :: vs).map Transition.act)[6]? := by
        rw [hacts]
        exact List.getElem?_append_left (by simpa using hlate)
      rw [← hprefix]
      rfl
    obtain ⟨u, hu, hact⟩ := List.mem_map.mp (List.mem_of_getElem? hresponse)
    exact ⟨u, hu, 0, hact⟩
  · rw [hy] at hsecond
    have hlength : (us ++ x :: vs).length = us.length + vs.length + 1 := by
      simp [Nat.add_assoc]
    have hone : us = [] := by
      generalize (us ++ x :: vs).length = n at hsecond hlate hlength
      have hn : n = 1 := by
        interval_cases n <;> first | rfl | cases hsecond
      exact List.length_eq_zero_iff.mp (by omega)
    subst hone
    have hfirst : some x.act = promptAnswer[0]? := by rw [hacts]; rfl
    rw [hx] at hfirst
    cases hfirst

/-- Two ticks before the first answer send two requests.  The first one is served, an operator
takes the runtime back to `Standby`, and the second one takes it to `Fault` again. -/
def lateDuplicate : List ServiceAction :=
  [.heartbeat "node=a stamp_ms=0".toList, .checkTimeouts 4000 true, .checkTimeouts 5000 true,
    .deliverRequest 0, .runtime (.exec 0), .runtime (.exec 0), .runtime (.exec 0),
    .deliverResponse 0, .runtime .resetFault, .runtime (.exec 0), .runtime (.exec 0),
    .runtime (.exec 0), .runtime (.applyEvent "RecoveryDone"), .runtime (.exec 0),
    .runtime (.exec 0), .runtime (.exec 0), .deliverRequest 0]

/-- A duplicate that takes the runtime from `Standby` to `Fault` breaks both parts. -/
private lemma not_of_duplicate {ts : List ServiceTransition} {k : ℕ} {t : ServiceTransition}
    (hduplicate : Duplicate ts k) (ht : t ∈ ts) (hpush : PushesToFault k t) :
    ¬AtMostOneRequest ts ∧ ¬NoLateDuplicate ts :=
  ⟨fun hone => hone.not_duplicate k hduplicate, fun hlate => hlate k hduplicate t ht hpush⟩

/-- The second request of an episode takes a runtime that has recovered to `Fault`. -/
theorem service_late_duplicate :
    ∃ ts s, service.Run ts s ∧ ¬AtMostOneRequest ts ∧ ¬NoLateDuplicate ts := by
  have hrun := System.run_of_exec service lateDuplicate rfl rfl
  have hlast := hrun.snoc (a := .runtime (.exec 0)) rfl
  refine ⟨_, _, hlast, not_of_duplicate (k := 1) ?_
    (List.mem_append_right _ (List.mem_singleton.mpr rfl)) ⟨rfl, _, List.mem_cons_self, rfl, rfl⟩⟩
  exact ⟨[_], _, [], _, _, 0, ⟨rfl, ⟨4000, true, rfl, rfl⟩, ⟨5000, true, rfl, rfl⟩, by simp⟩,
    List.mem_singleton.mpr rfl, List.mem_singleton.mpr rfl⟩

end SystemsDemos
