import SystemsDemos.Chat.Sockets
import SystemsDemos.Transition.System

/-!
# The threaded chat servers

Each accepted connection is served by one call of `handle_client`, on a thread of its own or on a
worker of the pool.  `broadcast` copies the descriptors of the clients under the lock and sends
after it has released the lock; meanwhile other handlers register, erase and close, and the main
thread accepts.

### Outline

* `Handler`, `ThreadedChat` and its steps, for both kinds of `Dispatch`;
* what a step can do (`ThreadedEffect`, `HandlerEffect`).
-/

namespace SystemsDemos

/-! ### The program -/

/-- Where a call of `handle_client` is. -/
inductive HandlerPoint
  /-- Not started yet. -/
  | queued
  /-- Before `g_clients[client_fd] = peer`. -/
  | register
  /-- At the start of `broadcast`. -/
  | snapshot (a : Announcement)
  /-- In the loop of `broadcast`, with the recipients that are left. -/
  | sending (a : Announcement) (recipients : List ℕ)
  /-- In `recv`. -/
  | receive
  /-- Before `g_clients.erase(client_fd)`. -/
  | erase
  /-- Before `close(client_fd)`. -/
  | close
  | done
  deriving DecidableEq

namespace HandlerPoint

/-- Where the handler is after a broadcast. -/
def afterBroadcast : Announcement → HandlerPoint
  | .left _ => close
  | _ => receive

/-- The handler is running on a thread. -/
def running : HandlerPoint → Bool
  | queued | done => false
  | _ => true

/-- The recipients that a broadcast has not come to yet. -/
def pending : HandlerPoint → List ℕ
  | sending _ recipients => recipients
  | _ => []

end HandlerPoint

/-- A call of `handle_client`. -/
structure Handler where
  fd : ℕ
  peer : String
  point : HandlerPoint
  deriving DecidableEq

/-- How the main thread hands a connection over. -/
inductive Dispatch
  /-- `std::thread(handle_client, ...).detach()`. -/
  | threadPerClient
  /-- `pool.submit(...)`: the workers take the tasks in order, and each runs one at a time. -/
  | pool (numWorkers : ℕ)

/-- The handler can begin to run. -/
def Dispatch.canStart (handlers : List Handler) (i : ℕ) : Dispatch → Bool
  | threadPerClient => true
  | pool numWorkers =>
      ((handlers.take i).all fun h => decide (h.point ≠ .queued)) &&
        decide ((handlers.countP fun h => h.point.running) < numWorkers)

/-- A threaded chat server.  The handler of the connection `c` is `handlers[c]`. -/
structure ThreadedChat where
  sockets : Sockets
  /-- `g_clients`. -/
  clients : AList fun _ : ℕ => String
  handlers : List Handler
  deriving DecidableEq

/-- A step of a handler. -/
inductive HandlerMove
  | register
  | snapshot
  | send (fd : ℕ) (result : SendResult)
  | broadcastDone
  | recv (received : RecvResult)
  | erase
  | close
  deriving DecidableEq

/-- What happens next. -/
inductive ThreadedAction
  /-- `accept` returns in the main thread, which hands the connection over. -/
  | accept (client : Option (ℕ × PeerAddress))
  /-- A thread begins with a handler. -/
  | start (i : ℕ)
  | handler (i : ℕ) (move : HandlerMove)
  deriving DecidableEq

namespace ThreadedChat

variable (s : ThreadedChat)

/-- The handler goes on to another point. -/
def move (i : ℕ) (h : Handler) (point : HandlerPoint) : ThreadedChat :=
  { s with handlers := s.handlers.set i { h with point := point } }

/-- The snapshot of `broadcast`. -/
def recipients (senderFd : ℕ) : List ℕ :=
  s.clients.keys.filter fun fd => decide (fd ≠ senderFd)

/-- `handle_client`, step by step. -/
def stepHandler (i : ℕ) (h : Handler) (m : HandlerMove) :
    Option (ThreadedChat × List ChatObservation) :=
  match m, h.point with
  | .register, .register =>
      some ({ s.move i h (.snapshot (.joined h.peer)) with
        clients := s.clients.insert h.fd h.peer }, [])
  | .snapshot, .snapshot a =>
      some (s.move i h (.sending a (s.recipients h.fd)), [.announced (some i) a])
  | .send fd result, .sending a recipients =>
      if fd ∈ recipients then
        some (s.move i h (.sending a (recipients.erase fd)), s.sockets.send a.msg fd result)
      else none
  | .broadcastDone, .sending a [] => some (s.move i h (.afterBroadcast a), [])
  | .recv received, .receive =>
      if received.possible (s.sockets.connection? h.fd) then
        match received with
        | .data chunk => some (s.move i h (.snapshot (.said h.peer chunk)), [])
        | _ => some (s.move i h .erase, [])
      else none
  | .erase, .erase =>
      some ({ s.move i h (.snapshot (.left h.peer)) with clients := s.clients.erase h.fd }, [])
  | .close, .close => some ({ s.move i h .done with sockets := s.sockets.close h.fd }, [])
  | _, _ => none

/-- One step of the server. -/
def step (d : Dispatch) : ThreadedAction → Option (ThreadedChat × List ChatObservation)
  | .accept none => some (s, [])
  | .accept (some (fd, addr)) =>
      match s.sockets.accept fd with
      | none => none
      | some sockets =>
          some ({ s with
            sockets := sockets
            handlers := s.handlers ++ [⟨fd, addr.peer, .queued⟩] }, [])
  | .start i =>
      match s.handlers[i]? with
      | none => none
      | some h =>
          if h.point = .queued ∧ d.canStart s.handlers i then some (s.move i h .register, [])
          else none
  | .handler i m =>
      match s.handlers[i]? with
      | none => none
      | some h => s.stepHandler i h m

/-- The server that has opened its listening socket. -/
def start (serverFd : ℕ) : ThreadedChat := ⟨.listening serverFd, ∅, []⟩

end ThreadedChat

/-- A threaded chat server, with any clients. -/
def threadedChat (d : Dispatch) : System ThreadedChat ThreadedAction ChatObservation where
  init s := ∃ serverFd, s = .start serverFd
  step s a := s.step d a

/-- The transitions of a threaded server. -/
abbrev ThreadedTransition := Transition ThreadedChat ThreadedAction ChatObservation

variable {d : Dispatch} {s s' : ThreadedChat} {a : ThreadedAction} {out : List ChatObservation}
  {ts : List ThreadedTransition}

/-! ### What a step can do -/

/-- What a step of a handler does. -/
inductive HandlerEffect (s : ThreadedChat) (i : ℕ) (h : Handler) :
    HandlerMove → ThreadedChat → List ChatObservation → Prop
  | register (hpoint : h.point = .register) :
      HandlerEffect s i h .register
        { s.move i h (.snapshot (.joined h.peer)) with
          clients := s.clients.insert h.fd h.peer } []
  | snapshot {a : Announcement} (hpoint : h.point = .snapshot a) :
      HandlerEffect s i h .snapshot (s.move i h (.sending a (s.recipients h.fd)))
        [.announced (some i) a]
  | send {a : Announcement} {recipients : List ℕ} {fd : ℕ} {result : SendResult}
      (hpoint : h.point = .sending a recipients) (hfd : fd ∈ recipients) :
      HandlerEffect s i h (.send fd result) (s.move i h (.sending a (recipients.erase fd)))
        (s.sockets.send a.msg fd result)
  | broadcastDone {a : Announcement} (hpoint : h.point = .sending a []) :
      HandlerEffect s i h .broadcastDone (s.move i h (.afterBroadcast a)) []
  | said {chunk : List UInt8} (hpoint : h.point = .receive)
      (hpossible : (RecvResult.data chunk).possible (s.sockets.connection? h.fd)) :
      HandlerEffect s i h (.recv (.data chunk)) (s.move i h (.snapshot (.said h.peer chunk))) []
  | hungUp {received : RecvResult} (hpoint : h.point = .receive)
      (hreceived : ∀ chunk, received ≠ .data chunk) :
      HandlerEffect s i h (.recv received) (s.move i h .erase) []
  | erase (hpoint : h.point = .erase) :
      HandlerEffect s i h .erase
        { s.move i h (.snapshot (.left h.peer)) with clients := s.clients.erase h.fd } []
  | close (hpoint : h.point = .close) :
      HandlerEffect s i h .close { s.move i h .done with sockets := s.sockets.close h.fd } []

/-- What a step of the server does. -/
inductive ThreadedEffect (s : ThreadedChat) :
    ThreadedAction → ThreadedChat → List ChatObservation → Prop
  | refused : ThreadedEffect s (.accept none) s []
  | accepted {fd : ℕ} {addr : PeerAddress} {sockets : Sockets}
      (haccept : s.sockets.accept fd = some sockets) :
      ThreadedEffect s (.accept (some (fd, addr)))
        ⟨sockets, s.clients, s.handlers ++ [⟨fd, addr.peer, .queued⟩]⟩ []
  | started {i : ℕ} {h : Handler} (hi : s.handlers[i]? = some h) (hpoint : h.point = .queued) :
      ThreadedEffect s (.start i) (s.move i h .register) []
  | handler {i : ℕ} {h : Handler} {m : HandlerMove} {s' : ThreadedChat}
      {out : List ChatObservation} (hi : s.handlers[i]? = some h)
      (heffect : HandlerEffect s i h m s' out) : ThreadedEffect s (.handler i m) s' out

/-- What `handle_client` can do. -/
lemma ThreadedChat.stepHandler_effect {i : ℕ} {h : Handler} {m : HandlerMove}
    (hstep : s.stepHandler i h m = some (s', out)) : HandlerEffect s i h m s' out := by
  unfold stepHandler at hstep
  split at hstep
  · next hpoint =>
    obtain ⟨rfl, rfl⟩ := Prod.mk.inj (Option.some.inj hstep)
    exact .register hpoint
  · next a hpoint =>
    obtain ⟨rfl, rfl⟩ := Prod.mk.inj (Option.some.inj hstep)
    exact .snapshot hpoint
  · next fd result a recipients hpoint =>
    split at hstep
    · next hfd =>
      obtain ⟨rfl, rfl⟩ := Prod.mk.inj (Option.some.inj hstep)
      exact .send hpoint hfd
    · cases hstep
  · next a hpoint =>
    obtain ⟨rfl, rfl⟩ := Prod.mk.inj (Option.some.inj hstep)
    exact .broadcastDone hpoint
  · next received hpoint =>
    split at hstep
    · next hpossible =>
      cases received with
      | data chunk =>
        obtain ⟨rfl, rfl⟩ := Prod.mk.inj (Option.some.inj hstep)
        exact .said hpoint hpossible
      | closed =>
        obtain ⟨rfl, rfl⟩ := Prod.mk.inj (Option.some.inj hstep)
        exact .hungUp hpoint (by simp)
      | again =>
        obtain ⟨rfl, rfl⟩ := Prod.mk.inj (Option.some.inj hstep)
        exact .hungUp hpoint (by simp)
      | error =>
        obtain ⟨rfl, rfl⟩ := Prod.mk.inj (Option.some.inj hstep)
        exact .hungUp hpoint (by simp)
    · cases hstep
  · next hpoint =>
    obtain ⟨rfl, rfl⟩ := Prod.mk.inj (Option.some.inj hstep)
    exact .erase hpoint
  · next hpoint =>
    obtain ⟨rfl, rfl⟩ := Prod.mk.inj (Option.some.inj hstep)
    exact .close hpoint
  · cases hstep

/-- What the server can do. -/
lemma ThreadedChat.step_effect (hstep : s.step d a = some (s', out)) :
    ThreadedEffect s a s' out := by
  cases a with
  | accept client =>
    cases client with
    | none =>
      obtain ⟨rfl, rfl⟩ := Prod.mk.inj (Option.some.inj hstep)
      exact .refused
    | some p =>
      simp only [ThreadedChat.step] at hstep
      split at hstep
      · cases hstep
      · next sockets haccept =>
        obtain ⟨rfl, rfl⟩ := Prod.mk.inj (Option.some.inj hstep)
        exact .accepted haccept
  | start i =>
    simp only [ThreadedChat.step] at hstep
    split at hstep
    · cases hstep
    · next h hi =>
      split at hstep
      · next hguard =>
        obtain ⟨rfl, rfl⟩ := Prod.mk.inj (Option.some.inj hstep)
        exact .started hi hguard.1
      · cases hstep
  | handler i m =>
    simp only [ThreadedChat.step] at hstep
    split at hstep
    · cases hstep
    · next h hi => exact .handler hi (stepHandler_effect hstep)

namespace ThreadedChat

/-- The handler that has moved. -/
lemma move_self {i : ℕ} {h : Handler} (hi : s.handlers[i]? = some h) (point : HandlerPoint) :
    (s.move i h point).handlers[i]? = some { h with point := point } := by
  obtain ⟨hlt, -⟩ := List.getElem?_eq_some_iff.mp hi
  exact List.getElem?_set_self hlt

/-- The other handlers stay where they are. -/
lemma move_ne {i j : ℕ} (h : Handler) (point : HandlerPoint) (hne : i ≠ j) :
    (s.move i h point).handlers[j]? = s.handlers[j]? :=
  List.getElem?_set_ne hne

/-- Another handler stays where it is. -/
lemma move_of_ne {i j : ℕ} {h h' : Handler} (hi : s.handlers[i]? = some h)
    (hj : s.handlers[j]? = some h') (hne : h' ≠ h) (point : HandlerPoint) :
    (s.move i h point).handlers[j]? = some h' := by
  refine (move_ne h point ?_).trans hj
  rintro rfl
  exact hne (Option.some.inj (hj.symm.trans hi))

/-- The handlers after one of them has moved. -/
lemma handlers_move {i j : ℕ} {h h' : Handler} {point : HandlerPoint}
    (hi : s.handlers[i]? = some h) (hj : (s.move i h point).handlers[j]? = some h') :
    (j = i ∧ h' = { h with point := point }) ∨ (i ≠ j ∧ s.handlers[j]? = some h') := by
  by_cases hij : i = j
  · subst hij
    rw [move_self hi] at hj
    exact .inl ⟨rfl, (Option.some.inj hj).symm⟩
  · exact .inr ⟨hij, (move_ne h point hij).symm.trans hj⟩

/-- The handlers after a connection has been handed over. -/
lemma handlers_snoc {handlers : List Handler} {new h : Handler} {i : ℕ}
    (hi : (handlers ++ [new])[i]? = some h) :
    handlers[i]? = some h ∨ (i = handlers.length ∧ h = new) := by
  rcases Nat.lt_trichotomy i handlers.length with hlt | heq | hgt
  · exact .inl ((List.getElem?_append_left hlt).symm.trans hi)
  · subst heq
    rw [List.getElem?_concat_length] at hi
    exact .inr ⟨rfl, (Option.some.inj hi).symm⟩
  · rw [List.getElem?_eq_none (by simp; omega)] at hi
    cases hi

end ThreadedChat

end SystemsDemos
