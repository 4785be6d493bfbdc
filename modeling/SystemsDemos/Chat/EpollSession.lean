import SystemsDemos.Chat.EpollRoom
import SystemsDemos.Chat.Session
import SystemsDemos.Chat.Streams

/-!
# The epoll chat from the keyboards to the screens

The epoll server with any number of clients.  What a client shows is the conversation of the room
from the moment it has come, and what a client says there is what its user has typed, in whatever
chunks it arrives.

### Outline

* `epollServer`, the events of a session, and `saidBy`, the words of a client in the room;
* `epollSession_delivers`, for every run.
-/

namespace SystemsDemos

/-- The epoll server, as its clients meet it. -/
def epollServer : ChatServer EpollChat EpollAction where
  system := epollChat
  sockets := EpollChat.sockets
  receives s a :=
    match a, s.ready with
    | .readable received _, fd :: _ => (s.sockets.connection? fd).map fun c => (c, received)
    | _, _ => none

/-- The words of a client in the room. -/
def saidBy (c : ℕ) (evs : List ConnEvent) : List UInt8 :=
  evs.flatMap fun
    | .chunk c' bytes => if c' = c then bytes else []
    | _ => []

/-- The observation is not a call of `send` to a client that does not take its message whole. -/
def ChatSessionObservation.isWholeTo (c : ℕ) : ChatSessionObservation → Bool
  | server (.sent conn msg result) => decide (conn = c → result.taken msg = msg)
  | _ => true

/-- Every call of `send` to a client takes its message whole. -/
def SendsWhole (c : ℕ) (obs : List ChatSessionObservation) : Prop :=
  ∀ o ∈ obs, o.isWholeTo c

instance (c : ℕ) : DecidablePred (SendsWhole c) := fun obs =>
  inferInstanceAs (Decidable (∀ o ∈ obs, _))

/-- If every message is taken whole, the bytes are the messages. -/
lemma bytesTo_of_sendsWhole {c : ℕ} {obs : List ChatSessionObservation}
    (h : SendsWhole c obs) :
    bytesTo c (obs.filterMap ChatSessionObservation.server?) =
      (messagesTo c (obs.filterMap ChatSessionObservation.server?)).flatten := by
  induction obs with
  | nil => rfl
  | cons o obs ih =>
    have hrest : SendsWhole c obs := fun o' hmem => h o' (List.mem_cons_of_mem _ hmem)
    cases o with
    | client c' o => exact ih hrest
    | received c' chunk => exact ih hrest
    | server o =>
      have hsome : (ChatSessionObservation.server o :: obs).filterMap
          ChatSessionObservation.server? =
            [o] ++ obs.filterMap ChatSessionObservation.server? :=
        List.filterMap_cons_some rfl
      rw [hsome, bytesTo_append, messagesTo_append, List.flatten_append, ih hrest]
      congr 1
      cases o with
      | announced conn a => rfl
      | sent conn msg result =>
        rw [bytesTo_singleton_sent, messagesTo_singleton_sent]
        by_cases hconn : conn = c
        · subst hconn
          rw [if_pos rfl, if_pos rfl, List.flatten_singleton]
          exact of_decide_eq_true (h _ List.mem_cons_self) rfl
        · rw [if_neg hconn, if_neg hconn, List.flatten_nil]

namespace ChatSession

variable {name : ℕ → List UInt8} {s : ChatSession EpollChat}
  {ts : List (Transition (ChatSession EpollChat) (ChatSessionAct EpollAction)
    ChatSessionObservation)}

/-- What has happened in the room of the server. -/
def events (ts : List (Transition (ChatSession EpollChat) (ChatSessionAct EpollAction)
    ChatSessionObservation)) : List ConnEvent :=
  epollEvents (ts.filterMap serverPart)

/-- The event of a step is what the server receives in it. -/
lemma saidBy_epollEvent (c : ℕ) (t : EpollTransition) :
    saidBy c (epollEvent t).toList =
      heardFrom c (ChatSessionObservation.ofReceives (epollServer.receives t.pre t.act)) := by
  obtain ⟨pre, act, post, out⟩ := t
  cases act with
  | wait batch => rfl
  | connect client sends =>
    cases client with
    | none => rfl
    | some client => rfl
  | readable received sends =>
    cases hready : pre.ready with
    | nil => simp [epollEvent, EpollChat.receivedEvent, epollServer, hready, saidBy, heardFrom,
        ChatSessionObservation.ofReceives]
    | cons fd rest =>
      cases hconn : pre.sockets.connection? fd with
      | none => simp [epollEvent, EpollChat.receivedEvent, epollServer, hready, hconn, saidBy,
          heardFrom, ChatSessionObservation.ofReceives]
      | some c' =>
        cases received <;> simp [epollEvent, EpollChat.receivedEvent, epollServer, hready, hconn,
          saidBy, heardFrom, ChatSessionObservation.ofReceives,
          ChatSessionObservation.receivedFrom]

/-- The words of a client in the room are what the server has received from it. -/
lemma saidBy_events (h : (system epollServer name).Run ts s) (c : ℕ) :
    saidBy c (events ts) = heardFrom c (observations ts) := by
  induction h with
  | start => rfl
  | @snoc ts s s' a out _ hstep ih =>
    have hsplit : saidBy c (events (ts ++ [⟨s, a, s', out⟩])) =
        saidBy c (events ts) ++ saidBy c (events [⟨s, a, s', out⟩]) := by
      simp only [events, epollEvents, List.filterMap_append, saidBy, List.flatMap_append]
    have hheard : heardFrom c (observations (ts ++ [⟨s, a, s', out⟩])) =
        heardFrom c (observations ts) ++ heardFrom c out := by
      simp only [heardFrom, observations_append, observations_singleton, List.flatMap_append]
    rw [hsplit, hheard, ih]
    congr 1
    cases a with
    | client c' a =>
      obtain ⟨-, cout, -, -, -, -, -, -, rfl⟩ := step_client hstep
      exact (heardFrom_client c c' cout).symm
    | server a =>
      obtain ⟨sout, -, -, -, -, -, rfl⟩ := step_server hstep
      set received := epollServer.receives s.server a
      have hpart : serverPart ⟨s, .server a, s', ChatSessionObservation.ofReceives received ++
          sout.map ChatSessionObservation.server⟩ = some ⟨s.server, a, s'.server, sout⟩ := by
        rw [serverPart, filterMap_server]
      have hevents : events [⟨s, .server a, s', ChatSessionObservation.ofReceives received ++
          sout.map ChatSessionObservation.server⟩] =
            (epollEvent ⟨s.server, a, s'.server, sout⟩).toList := by
        rw [events, List.filterMap_cons_some hpart, epollEvents, List.filterMap_nil,
          List.filterMap_cons]
        cases epollEvent ⟨s.server, a, s'.server, sout⟩ <;> rfl
      rw [heardFrom_server, hevents]
      exact saidBy_epollEvent c ⟨s.server, a, s'.server, sout⟩

/-- **The chat is delivered.**  As long as every message to a client is taken whole, its screen
shows the first bytes of what the room tells it, and all of them when nothing is on the way to it.
The words of a client in the room are the first bytes that its `send` has taken, and all of them
when nothing is on the way from it; if `send` takes every message whole, these are the first bytes
that its user has typed. -/
theorem epollSession_delivers (h : (system epollServer name).Run ts s) :
    (∀ c, SendsWhole c (observations ts) →
      screenOf c (observations ts) <+: (ChatRoom.transcript c [] (events ts)).flatten ∧
        (s.toClient c = [] → (s.clients c).receiver.unprinted = [] →
          screenOf c (observations ts) = (ChatRoom.transcript c [] (events ts)).flatten)) ∧
      ∀ c, saidBy c (events ts) <+: takenFrom c (observations ts) ∧
        (s.toServer c = [] → saidBy c (events ts) = takenFrom c (observations ts)) ∧
        (TakesWhole c (observations ts) →
          takenFrom c (observations ts) <+: typedBy c (name c) (observations ts)) := by
  refine ⟨fun c hwhole => ?_, fun c => ?_⟩
  · have htold := (epollChat_inRoom ((isParty_server epollServer name).run h)).2 c
    have hbytes := bytesTo_of_sendsWhole hwhole
    rw [← observations_server h, htold, bytesTo_eq h c] at hbytes
    refine ⟨⟨_, hbytes⟩, fun hway hunprinted => ?_⟩
    rw [events, ← hbytes, hway, hunprinted, List.append_nil, List.append_nil]
  · have htaken := takenFrom_eq h c
    rw [← saidBy_events h] at htaken
    refine ⟨⟨_, htaken.symm⟩, fun hway => ?_, takenFrom_prefix h⟩
    rw [htaken, hway, List.append_nil]

/-- What the first of two clients is told about the second one, who says `hi`. -/
def greeting : List UInt8 :=
  (Announcement.joined (localPeer 40001).peer).msg ++
    (Announcement.said (localPeer 40001).peer (bytesOf "bo: hi" ++ [10])).msg

/-- Two clients come, the second one says something, and the first one prints all it is told. -/
def greet : List (ChatSessionAct EpollAction) :=
  [.server (.wait [3]), .server (.connect (some (5, localPeer 40000)) []), .server (.wait [3]),
    .server (.connect (some (6, localPeer 40001)) [(5, .count 31)]), .client 1 .main,
    .client 1 (.line (bytesOf "hi")), .client 1 (.send 7), .server (.wait [6]),
    .server (.readable (.data (bytesOf "bo: hi" ++ [10])) [(5, .count 25)]), .client 0 .receiver,
    .client 0 (.recv 56 greeting), .client 0 .receiver]

/-- The greeting is on the screen of the first client and is all that the room has told it. -/
theorem epollSession_delivers_greet :
    ∃ ts s, (system epollServer fun _ => bytesOf "bo").Run ts s ∧
      screenOf 0 (observations ts) = greeting ∧
      (ChatRoom.transcript 0 [] (events ts)).flatten = greeting := by
  obtain ⟨ts, s, hrun, hwhole, hscreen, hway, hunprinted⟩ :=
    (system epollServer fun _ => bytesOf "bo").exists_run greet
      (fun ts s => SendsWhole 0 (observations ts) ∧ screenOf 0 (observations ts) = greeting ∧
        s.toClient 0 = [] ∧ (s.clients 0).receiver.unprinted = [])
      (s := ⟨.start 3, fun _ => .initial, fun _ => [], fun _ => []⟩)
      ⟨⟨3, rfl⟩, rfl, rfl, rfl⟩ (by decide +kernel)
  have htold := ((epollSession_delivers hrun).1 0 hwhole).2 hway hunprinted
  exact ⟨ts, s, hrun, hscreen, htold.symm.trans hscreen⟩

end ChatSession

end SystemsDemos
