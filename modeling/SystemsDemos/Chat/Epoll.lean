import SystemsDemos.Chat.Sockets
import SystemsDemos.Transition.System
import Mathlib.Data.Finset.Basic
import Mathlib.Data.Finset.Dedup

/-!
# The epoll chat server

A single thread waits for a batch of readable descriptors and handles them one after the other;
while it does, it accepts connections and closes descriptors.  The kernel returns each registered
descriptor at most once in a batch, so a descriptor that the batch still holds is neither closed
before its turn nor given to a new connection.

### Outline

* `EpollChat`, `broadcast`, `onConnect`, `onReadable` and the event loop `EpollChat.step`;
* `EpollInvariant`, and what a step can do from a state with it (`EpollEffect`);
* the announcements about a connection, `EpollCorrect` and `epoll_correct`.
-/

namespace SystemsDemos

/-- `MAX_EVENTS`. -/
def maxEvents : ℕ := 64

/-- The epoll chat server between two callbacks. -/
structure EpollChat where
  sockets : Sockets
  /-- The descriptors registered in the `Poller`. -/
  poller : Finset ℕ
  /-- `g_clients`. -/
  clients : AList fun _ : ℕ => String
  /-- The descriptors of the current batch that are still to be handled. -/
  ready : List ℕ
  deriving DecidableEq

/-- What the event loop does next, with what the kernel answers.  The calls of `send` are listed
in the order in which the broadcast makes them. -/
inductive EpollAction
  /-- `poller.wait` returns a batch. -/
  | wait (batch : List ℕ)
  /-- `on_connect`, with what `accept` returns. -/
  | connect (client : Option (ℕ × PeerAddress)) (sends : List (ℕ × SendResult))
  /-- `on_readable`, with what `recv` returns. -/
  | readable (received : RecvResult) (sends : List (ℕ × SendResult))
  deriving DecidableEq

namespace EpollChat

variable (s : EpollChat)

/-- The clients that `broadcast` sends to; `none` stands for the descriptor `-1`. -/
def recipients (skipFd : Option ℕ) : List ℕ :=
  s.clients.keys.filter fun fd => decide (skipFd ≠ some fd)

/-- `broadcast`, after the announcement has been written to `std::cout`. -/
def broadcast (conn : Option ℕ) (skipFd : Option ℕ) (a : Announcement)
    (sends : List (ℕ × SendResult)) : Option (EpollChat × List ChatObservation) :=
  if (sends.map Prod.fst).Perm (s.recipients skipFd) then
    some (s, .announced conn a :: s.sockets.sendAll a.msg sends)
  else none

/-- `on_connect`. -/
def onConnect (client : Option (ℕ × PeerAddress)) (sends : List (ℕ × SendResult)) :
    Option (EpollChat × List ChatObservation) :=
  match client with
  | none => some (s, [])
  | some (clientFd, addr) =>
      match s.sockets.accept clientFd with
      | none => none
      | some sockets =>
          let s' : EpollChat :=
            { sockets := sockets
              poller := insert clientFd s.poller
              clients := s.clients.insert clientFd addr.peer
              ready := s.ready }
          s'.broadcast (sockets.connection? clientFd) (some clientFd) (.joined addr.peer) sends

/-- `g_clients[fd]`, which inserts an empty name for a descriptor that is not there. -/
def client (fd : ℕ) : String × EpollChat :=
  match s.clients.lookup fd with
  | some peer => (peer, s)
  | none => ("", { s with clients := s.clients.insert fd "" })

/-- `on_readable`. -/
def onReadable (fd : ℕ) (received : RecvResult) (sends : List (ℕ × SendResult)) :
    Option (EpollChat × List ChatObservation) :=
  let conn := s.sockets.connection? fd
  if received.possible conn then
    match received with
    | .again => some (s, [])
    | .data chunk =>
        let (peer, s') := s.client fd
        s'.broadcast conn (some fd) (.said peer chunk) sends
    | _ =>
        let (peer, s') := s.client fd
        let s'' : EpollChat :=
          { s' with
            poller := s'.poller.erase fd
            clients := s'.clients.erase fd
            sockets := s'.sockets.close fd }
        s''.broadcast conn none (.left peer) sends
  else none

/-- One step of the event loop of `main`. -/
def step : EpollAction → Option (EpollChat × List ChatObservation)
  | .wait batch =>
      if s.ready = [] ∧ batch.Nodup ∧ batch.length ≤ maxEvents ∧ ∀ fd ∈ batch, fd ∈ s.poller then
        some ({ s with ready := batch }, [])
      else none
  | .connect client sends =>
      match s.ready with
      | [] => none
      | fd :: rest =>
          if fd = s.sockets.serverFd then { s with ready := rest }.onConnect client sends else none
  | .readable received sends =>
      match s.ready with
      | [] => none
      | fd :: rest =>
          if fd = s.sockets.serverFd then none
          else { s with ready := rest }.onReadable fd received sends

/-- The server that has registered its listening socket. -/
def start (serverFd : ℕ) : EpollChat := ⟨.listening serverFd, {serverFd}, ∅, []⟩

end EpollChat

/-- The epoll chat server, with any clients. -/
def epollChat : System EpollChat EpollAction ChatObservation where
  init s := ∃ serverFd, s = .start serverFd
  step := EpollChat.step

/-- The transitions of the epoll server. -/
abbrev EpollTransition := Transition EpollChat EpollAction ChatObservation

variable {s s' : EpollChat} {a : EpollAction} {out : List ChatObservation}
  {ts : List EpollTransition}

/-! ### The invariant -/

/-- Registered are the listening socket and the clients, the clients are the open connections,
and the batch holds registered descriptors, each at most once. -/
structure EpollInvariant (s : EpollChat) : Prop where
  registered : s.poller = insert s.sockets.serverFd s.clients.keys.toFinset
  clients_open : ∀ fd, fd ∈ s.clients ↔ ∃ c, s.sockets.connection? fd = some c
  ready_registered : ∀ fd ∈ s.ready, fd ∈ s.poller
  ready_nodup : s.ready.Nodup

/-- What a step does, in a state with the invariant. -/
inductive EpollEffect (s : EpollChat) :
    EpollAction → EpollChat → List ChatObservation → Prop
  | wait {batch : List ℕ} (hready : s.ready = []) (hnodup : batch.Nodup)
      (hbatch : ∀ fd ∈ batch, fd ∈ s.poller) :
      EpollEffect s (.wait batch) { s with ready := batch } []
  | refused {rest : List ℕ} {sends : List (ℕ × SendResult)}
      (hready : s.ready = s.sockets.serverFd :: rest) :
      EpollEffect s (.connect none sends) { s with ready := rest } []
  | joined {rest : List ℕ} {fd : ℕ} {addr : PeerAddress} {sockets : Sockets}
      {sends : List (ℕ × SendResult)} (hready : s.ready = s.sockets.serverFd :: rest)
      (haccept : s.sockets.accept fd = some sockets)
      (hsends : (sends.map Prod.fst).Perm
        ((s.clients.insert fd addr.peer).keys.filter fun fd' => decide (some fd ≠ some fd'))) :
      EpollEffect s (.connect (some (fd, addr)) sends)
        ⟨sockets, insert fd s.poller, s.clients.insert fd addr.peer, rest⟩
        (.announced (some s.sockets.accepted) (.joined addr.peer) ::
          sockets.sendAll (Announcement.joined addr.peer).msg sends)
  | again {fd : ℕ} {rest : List ℕ} {sends : List (ℕ × SendResult)}
      (hready : s.ready = fd :: rest) (hfd : fd ∈ s.clients) :
      EpollEffect s (.readable .again sends) { s with ready := rest } []
  | said {fd c : ℕ} {rest : List ℕ} {peer : String} {chunk : List UInt8}
      {sends : List (ℕ × SendResult)} (hready : s.ready = fd :: rest)
      (hconn : s.sockets.connection? fd = some c) (hpeer : s.clients.lookup fd = some peer)
      (hsends : (sends.map Prod.fst).Perm (s.recipients (some fd))) :
      EpollEffect s (.readable (.data chunk) sends) { s with ready := rest }
        (.announced (some c) (.said peer chunk) ::
          s.sockets.sendAll (Announcement.said peer chunk).msg sends)
  | left {fd c : ℕ} {rest : List ℕ} {peer : String} {received : RecvResult}
      {sends : List (ℕ × SendResult)} (hready : s.ready = fd :: rest)
      (hconn : s.sockets.connection? fd = some c) (hpeer : s.clients.lookup fd = some peer)
      (hreceived : received = .closed ∨ received = .error)
      (hsends : (sends.map Prod.fst).Perm
        ((s.clients.erase fd).keys.filter fun fd' => decide (none ≠ some fd'))) :
      EpollEffect s (.readable received sends)
        ⟨s.sockets.close fd, s.poller.erase fd, s.clients.erase fd, rest⟩
        (.announced (some c) (.left peer) ::
          (s.sockets.close fd).sendAll (Announcement.left peer).msg sends)

namespace EpollChat

/-- A broadcast that goes through sends to the recipients and changes nothing. -/
lemma broadcast_spec {conn skipFd : Option ℕ} {a : Announcement} {sends : List (ℕ × SendResult)}
    (h : s.broadcast conn skipFd a sends = some (s', out)) :
    (sends.map Prod.fst).Perm (s.recipients skipFd) ∧ s' = s ∧
      out = .announced conn a :: s.sockets.sendAll a.msg sends := by
  unfold broadcast at h
  split at h
  · next hperm =>
    obtain ⟨rfl, rfl⟩ := Prod.mk.inj (Option.some.inj h)
    exact ⟨hperm, rfl, rfl⟩
  · cases h

/-- A broadcast goes through when there is an answer for each recipient. -/
lemma broadcast_recipients (s : EpollChat) (conn skipFd : Option ℕ) (a : Announcement)
    (result : SendResult) :
    s.broadcast conn skipFd a ((s.recipients skipFd).map fun fd => (fd, result)) =
      some (s, .announced conn a :: s.sockets.sendAll a.msg
        ((s.recipients skipFd).map fun fd => (fd, result))) := by
  have hperm : (((s.recipients skipFd).map fun fd => (fd, result)).map Prod.fst).Perm
      (s.recipients skipFd) := by
    simp [Function.comp_def]
  exact if_pos hperm

/-- A registered descriptor can be the whole batch. -/
lemma step_wait_singleton (hready : s.ready = []) {fd : ℕ} (hfd : fd ∈ s.poller) :
    s.step (.wait [fd]) = some ({ s with ready := [fd] }, []) :=
  if_pos ⟨hready, List.nodup_singleton fd, by simp [maxEvents], by simpa using hfd⟩

/-- `g_clients[fd]` of a client reads its name. -/
lemma client_of_lookup {fd : ℕ} {peer : String} (h : s.clients.lookup fd = some peer) :
    s.client fd = (peer, s) := by
  rw [client, h]

end EpollChat

namespace EpollInvariant

/-- A descriptor of the batch that is not the listening socket is a client with its connection
open. -/
lemma client_of_ready (h : EpollInvariant s) {fd : ℕ} (hfd : fd ∈ s.ready)
    (hserver : fd ≠ s.sockets.serverFd) :
    ∃ c peer, s.sockets.connection? fd = some c ∧ s.clients.lookup fd = some peer := by
  have hreg := h.ready_registered fd hfd
  rw [h.registered, Finset.mem_insert, List.mem_toFinset, ← AList.mem_keys] at hreg
  have hmem : fd ∈ s.clients := hreg.resolve_left hserver
  obtain ⟨c, hc⟩ := (h.clients_open fd).mp hmem
  obtain ⟨peer, hpeer⟩ := Option.isSome_iff_exists.mp (AList.lookup_isSome.mpr hmem)
  exact ⟨c, peer, hc, hpeer⟩

/-- The listening socket is registered. -/
lemma serverFd_mem (h : EpollInvariant s) : s.sockets.serverFd ∈ s.poller := by
  rw [h.registered]
  exact Finset.mem_insert_self _ _

/-- What a step can do. -/
lemma effect (h : EpollInvariant s) (hstep : s.step a = some (s', out)) :
    EpollEffect s a s' out := by
  cases a with
  | wait batch =>
    simp only [EpollChat.step] at hstep
    split at hstep
    · next hguard =>
      obtain ⟨rfl, rfl⟩ := Prod.mk.inj (Option.some.inj hstep)
      exact .wait hguard.1 hguard.2.1 hguard.2.2.2
    · cases hstep
  | connect client sends =>
    simp only [EpollChat.step] at hstep
    split at hstep
    · cases hstep
    · next fd rest hready =>
      split at hstep
      · next hserver =>
        rw [hserver] at hready
        cases client with
        | none =>
          obtain ⟨rfl, rfl⟩ := Prod.mk.inj (Option.some.inj hstep)
          exact .refused hready
        | some p =>
          obtain ⟨clientFd, addr⟩ := p
          simp only [EpollChat.onConnect] at hstep
          split at hstep
          · cases hstep
          · next sockets haccept =>
            obtain ⟨hsends, rfl, rfl⟩ := EpollChat.broadcast_spec hstep
            rw [Sockets.connection?_accept_self haccept]
            exact .joined hready haccept hsends
      · cases hstep
  | readable received sends =>
    simp only [EpollChat.step] at hstep
    split at hstep
    · cases hstep
    · next fd rest hready =>
      split at hstep
      · cases hstep
      · next hserver =>
        obtain ⟨c, peer, hconn, hpeer⟩ :=
          h.client_of_ready (hready ▸ List.mem_cons_self) hserver
        simp only [EpollChat.onReadable] at hstep
        split at hstep
        · cases received with
          | again =>
            obtain ⟨rfl, rfl⟩ := Prod.mk.inj (Option.some.inj hstep)
            exact .again hready ((h.clients_open fd).mpr ⟨c, hconn⟩)
          | data chunk =>
            simp only [EpollChat.client_of_lookup (s := { s with ready := rest }) hpeer,
              hconn] at hstep
            obtain ⟨hsends, rfl, rfl⟩ := EpollChat.broadcast_spec hstep
            exact .said hready hconn hpeer hsends
          | closed =>
            simp only [EpollChat.client_of_lookup (s := { s with ready := rest }) hpeer,
              hconn] at hstep
            obtain ⟨hsends, rfl, rfl⟩ := EpollChat.broadcast_spec hstep
            exact .left hready hconn hpeer (.inl rfl) hsends
          | error =>
            simp only [EpollChat.client_of_lookup (s := { s with ready := rest }) hpeer,
              hconn] at hstep
            obtain ⟨hsends, rfl, rfl⟩ := EpollChat.broadcast_spec hstep
            exact .left hready hconn hpeer (.inr rfl) hsends
        · cases hstep

/-- The server starts with the invariant. -/
lemma start (serverFd : ℕ) : EpollInvariant (.start serverFd) where
  registered := by simp [EpollChat.start, Sockets.listening]
  clients_open fd := by simp [EpollChat.start]
  ready_registered fd hfd := by cases hfd
  ready_nodup := List.nodup_nil

/-- Handling a descriptor leaves a part of the batch. -/
lemma rest (h : EpollInvariant s) {fd : ℕ} {rest : List ℕ} (hready : s.ready = fd :: rest) :
    EpollInvariant { s with ready := rest } where
  registered := h.registered
  clients_open := h.clients_open
  ready_registered fd' hfd' := h.ready_registered fd' (hready ▸ List.mem_cons_of_mem fd hfd')
  ready_nodup := (List.nodup_cons.mp (hready ▸ h.ready_nodup)).2

/-- A step keeps the invariant. -/
lemma step (h : EpollInvariant s) (hstep : s.step a = some (s', out)) : EpollInvariant s' := by
  cases h.effect hstep with
  | wait _ hnodup hbatch =>
    exact ⟨h.registered, h.clients_open, hbatch, hnodup⟩
  | refused hready => exact h.rest hready
  | again hready _ => exact h.rest hready
  | said hready _ _ _ => exact h.rest hready
  | @joined rest fd addr sockets sends hready haccept _ =>
    obtain ⟨-, -, hserver, -, -⟩ := Sockets.accept_spec haccept
    refine ⟨?_, ?_, ?_, (h.rest hready).ready_nodup⟩
    · ext fd'
      simp only [hserver, h.registered, Finset.mem_insert, List.mem_toFinset, ← AList.mem_keys,
        AList.mem_insert]
      tauto
    · intro fd'
      rw [AList.mem_insert]
      by_cases hfd' : fd' = fd
      · subst hfd'
        simp [Sockets.connection?_accept_self haccept]
      · rw [Sockets.connection?_accept_ne haccept hfd', ← h.clients_open fd']
        simp [hfd']
    · intro fd' hfd'
      exact Finset.mem_insert_of_mem ((h.rest hready).ready_registered fd' hfd')
  | @left fd c rest peer received sends hready hconn hpeer _ _ =>
    have hmem : fd ∈ s.clients := (h.clients_open fd).mpr ⟨c, hconn⟩
    have hserver : s.sockets.serverFd ≠ fd := (Sockets.ne_serverFd hconn).symm
    refine ⟨?_, ?_, ?_, (h.rest hready).ready_nodup⟩
    · ext fd'
      simp only [Sockets.serverFd_close, h.registered, Finset.mem_erase, Finset.mem_insert,
        List.mem_toFinset, ← AList.mem_keys, AList.mem_erase]
      constructor
      · rintro ⟨hne, hserver' | hmem'⟩
        · exact .inl hserver'
        · exact .inr ⟨hne, hmem'⟩
      · rintro (rfl | ⟨hne, hmem'⟩)
        · exact ⟨hserver, .inl rfl⟩
        · exact ⟨hne, .inr hmem'⟩
    · intro fd'
      rw [AList.mem_erase]
      by_cases hfd' : fd' = fd
      · simp [hfd']
      · rw [Sockets.connection?_close_ne hfd', ← h.clients_open fd']
        simp [hfd']
    · intro fd' hfd'
      have hnodup := h.ready_nodup
      rw [hready, List.nodup_cons] at hnodup
      have hne : fd' ≠ fd := fun heq => hnodup.1 (heq ▸ hfd')
      exact Finset.mem_erase.mpr ⟨hne, (h.rest hready).ready_registered fd' hfd'⟩

end EpollInvariant

/-- The invariant holds in every reachable state. -/
lemma epollInvariant_of_reachable (h : epollChat.Reachable s) : EpollInvariant s := by
  obtain ⟨ts, hrun⟩ := h
  refine hrun.invariant ?_ fun s a s' out hs hstep => hs.step hstep
  rintro _ ⟨serverFd, rfl⟩
  exact .start serverFd

/-! ### The announcements about a connection -/

/-- The announcements that a connection has joined or left. -/
def membershipsOf (c : ℕ) (out : List ChatObservation) : List Announcement :=
  (announcementsOf c out).filter Announcement.isMembership

@[simp] lemma membershipsOf_append (c : ℕ) (out out' : List ChatObservation) :
    membershipsOf c (out ++ out') = membershipsOf c out ++ membershipsOf c out' := by
  simp [membershipsOf]

/-- What an announcement and its broadcast add. -/
lemma membershipsOf_announced (c c' : ℕ) (a : Announcement) (sockets : Sockets)
    (msg : List UInt8) (sends : List (ℕ × SendResult)) :
    membershipsOf c (.announced (some c') a :: sockets.sendAll msg sends) =
      if c' = c ∧ a.isMembership then [a] else [] := by
  have hcons : announcementsOf c (.announced (some c') a :: sockets.sendAll msg sends) =
      if c' = c then [a] else [] := by
    rw [← List.singleton_append, announcementsOf_append, Sockets.announcementsOf_sendAll,
      List.append_nil]
    by_cases hc : c' = c <;> simp [announcementsOf, hc]
  rw [membershipsOf, hcons]
  by_cases hc : c' = c <;> cases ha : a.isMembership <;> simp [hc, ha]

/-- What a transition with an announcement adds for the connection that it is about, if it has
joined or left. -/
lemma membershipsOf_snoc_self (c : ℕ) {a : Announcement} (ha : a.isMembership) (sockets : Sockets)
    (msg : List UInt8) (sends : List (ℕ × SendResult)) (act : EpollAction) :
    membershipsOf c (observations
        (ts ++ [⟨s, act, s', .announced (some c) a :: sockets.sendAll msg sends⟩])) =
      membershipsOf c (observations ts) ++ [a] := by
  rw [observations_append, observations_singleton, membershipsOf_append, membershipsOf_announced,
    if_pos ⟨rfl, ha⟩]

/-- A transition with an announcement adds nothing for the other connections. -/
lemma membershipsOf_snoc_ne {c c' : ℕ} (hne : c' ≠ c) (a : Announcement) (sockets : Sockets)
    (msg : List UInt8) (sends : List (ℕ × SendResult)) (act : EpollAction) :
    membershipsOf c (observations
        (ts ++ [⟨s, act, s', .announced (some c') a :: sockets.sendAll msg sends⟩])) =
      membershipsOf c (observations ts) := by
  rw [observations_append, observations_singleton, membershipsOf_append, membershipsOf_announced,
    if_neg fun h => hne h.1, List.append_nil]

/-- A connected client has been announced once, and a connection that is closed has been announced
as joined and as left. -/
structure EpollHistory (ts : List EpollTransition) (s : EpollChat) : Prop where
  member : ∀ c fd peer, s.sockets.connection? fd = some c → s.clients.lookup fd = some peer →
    membershipsOf c (observations ts) = [.joined peer]
  gone : ∀ c, c < s.sockets.accepted → (∀ fd, s.sockets.connection? fd ≠ some c) →
    ∃ peer, membershipsOf c (observations ts) = [.joined peer, .left peer]
  unaccepted : ∀ c, s.sockets.accepted ≤ c → membershipsOf c (observations ts) = []

namespace EpollHistory

/-- A step that neither joins nor leaves anybody. -/
private lemma quiet {out : List ChatObservation} (h : EpollHistory ts s)
    (hsockets : s'.sockets = s.sockets) (hclients : s'.clients = s.clients)
    (hout : ∀ c, membershipsOf c out = []) : EpollHistory (ts ++ [⟨s, a, s', out⟩]) s' := by
  obtain ⟨hmember, hgone, hunaccepted⟩ := h
  constructor <;>
    simpa only [hsockets, hclients, observations_append, observations_singleton,
      membershipsOf_append, hout, List.append_nil]

/-- A new connection is announced as joined. -/
private lemma joined (h : EpollHistory ts s) {fd : ℕ} {addr : PeerAddress} {sockets : Sockets}
    (haccept : s.sockets.accept fd = some sockets) {s' : EpollChat}
    (hsockets : s'.sockets = sockets) (hclients : s'.clients = s.clients.insert fd addr.peer)
    (a : EpollAction) (msg : List UInt8) (sends : List (ℕ × SendResult)) :
    EpollHistory (ts ++ [⟨s, a, s', .announced (some s.sockets.accepted) (.joined addr.peer) ::
      sockets.sendAll msg sends⟩]) s' := by
  obtain ⟨-, hfree, -, haccepted, -⟩ := Sockets.accept_spec haccept
  rw [← hsockets] at haccepted
  have hself := hsockets.symm ▸ Sockets.connection?_accept_self haccept
  have hother : ∀ fd' ≠ fd, s'.sockets.connection? fd' = s.sockets.connection? fd' :=
    fun fd' hfd => hsockets.symm ▸ Sockets.connection?_accept_ne haccept hfd
  refine ⟨?_, ?_, ?_⟩
  · intro c fd' peer hconn hpeer
    rw [hclients] at hpeer
    by_cases hfd : fd' = fd
    · subst hfd
      obtain rfl := Option.some.inj (hself.symm.trans hconn)
      rw [AList.lookup_insert] at hpeer
      obtain rfl := Option.some.inj hpeer
      rw [membershipsOf_snoc_self _ rfl, h.unaccepted _ (Nat.le_refl _), List.nil_append]
    · rw [hother fd' hfd] at hconn
      rw [AList.lookup_insert_ne hfd] at hpeer
      have hlt : c < s.sockets.accepted := s.sockets.lt_accepted fd' c hconn
      rw [membershipsOf_snoc_ne (Nat.ne_of_gt hlt)]
      exact h.member c fd' peer hconn hpeer
  · intro c hc hclosed
    have hne : s.sockets.accepted ≠ c := by
      rintro rfl
      exact hclosed fd hself
    have hlt : c < s.sockets.accepted := by
      rw [haccepted] at hc
      omega
    rw [membershipsOf_snoc_ne hne]
    refine h.gone c hlt fun fd' hconn => ?_
    have hfd : fd' ≠ fd := by
      rintro rfl
      cases hfree.symm.trans hconn
    exact hclosed fd' ((hother fd' hfd).trans hconn)
  · intro c hc
    have hlt : s.sockets.accepted < c := by
      rw [haccepted] at hc
      exact hc
    rw [membershipsOf_snoc_ne (Nat.ne_of_lt hlt)]
    exact h.unaccepted c (Nat.le_of_lt hlt)

/-- A connection that is closed is announced as left, under the name of its client. -/
private lemma left (h : EpollHistory ts s) {fd c₀ : ℕ} {peer₀ : String}
    (hconn₀ : s.sockets.connection? fd = some c₀) (hpeer₀ : s.clients.lookup fd = some peer₀)
    {s' : EpollChat} (hsockets : s'.sockets = s.sockets.close fd)
    (hclients : s'.clients = s.clients.erase fd) (a : EpollAction) (sockets : Sockets)
    (msg : List UInt8) (sends : List (ℕ × SendResult)) :
    EpollHistory (ts ++ [⟨s, a, s', .announced (some c₀) (.left peer₀) ::
      sockets.sendAll msg sends⟩]) s' := by
  refine ⟨?_, ?_, ?_⟩
  · intro c fd' peer hconn hpeer
    rw [hsockets] at hconn
    obtain ⟨hfd, hbefore⟩ := Sockets.connection?_of_close hconn
    rw [hclients, AList.lookup_erase_ne hfd] at hpeer
    have hne : c₀ ≠ c := by
      rintro rfl
      exact hfd (s.sockets.injective fd' fd c₀ hbefore hconn₀)
    rw [membershipsOf_snoc_ne hne]
    exact h.member c fd' peer hbefore hpeer
  · intro c hc hclosed
    rw [hsockets] at hc hclosed
    by_cases hself : c₀ = c
    · subst hself
      rw [membershipsOf_snoc_self _ rfl, h.member c₀ fd peer₀ hconn₀ hpeer₀]
      exact ⟨peer₀, rfl⟩
    · rw [membershipsOf_snoc_ne hself]
      refine h.gone c hc fun fd' hconn => hclosed fd' ?_
      have hfd : fd' ≠ fd := by
        rintro rfl
        exact hself (Option.some.inj (hconn₀.symm.trans hconn))
      exact (Sockets.connection?_close_ne hfd).trans hconn
  · intro c hc
    rw [hsockets] at hc
    have hlt : c₀ < s.sockets.accepted := s.sockets.lt_accepted fd c₀ hconn₀
    rw [membershipsOf_snoc_ne (Nat.ne_of_lt (Nat.lt_of_lt_of_le hlt hc))]
    exact h.unaccepted c hc

/-- A step keeps the history in order. -/
lemma step (h : EpollHistory ts s) (hinv : EpollInvariant s)
    (hstep : s.step a = some (s', out)) : EpollHistory (ts ++ [⟨s, a, s', out⟩]) s' := by
  cases hinv.effect hstep with
  | wait _ _ _ => exact h.quiet rfl rfl fun c => rfl
  | refused _ => exact h.quiet rfl rfl fun c => rfl
  | again _ _ => exact h.quiet rfl rfl fun c => rfl
  | said _ _ _ _ =>
    refine h.quiet rfl rfl fun c => ?_
    rw [membershipsOf_announced]
    simp [Announcement.isMembership]
  | joined _ haccept _ => exact h.joined haccept rfl rfl _ _ _
  | left _ hconn hpeer _ _ => exact h.left hconn hpeer rfl rfl _ _ _ _

end EpollHistory

/-- The history is in order in every run. -/
lemma epollHistory_of_run (h : epollChat.Run ts s) : EpollHistory ts s := by
  refine h.invariant_history ?_ fun ts s a s' out hrun hhistory hstep =>
    hhistory.step (epollInvariant_of_reachable ⟨ts, hrun⟩) hstep
  rintro _ ⟨serverFd, rfl⟩
  refine ⟨fun c fd peer hconn => ?_, fun c hc => (Nat.not_lt_zero c hc).elim, fun c _ => rfl⟩
  cases hconn

/-! ### Registration, names and announcements over a run -/

/-- The step is a callback. -/
def EpollAction.isCallback : EpollAction → Bool
  | wait _ => false
  | _ => true

/-- The step is a call of `on_readable`. -/
def EpollAction.isReadable : EpollAction → Bool
  | readable _ _ => true
  | _ => false

/-- What the server promises of its bookkeeping and of its announcements. -/
structure EpollCorrect (ts : List EpollTransition) (s : EpollChat) : Prop where
  /-- At the start of a callback the listening socket and the clients are registered, nothing
  else. -/
  registered : ∀ t ∈ ts, t.act.isCallback →
    t.pre.poller = insert t.pre.sockets.serverFd t.pre.clients.keys.toFinset
  /-- `on_readable` is called for a client. -/
  readable : ∀ t ∈ ts, t.act.isReadable → ∃ fd rest, t.pre.ready = fd :: rest ∧
    fd ∈ t.pre.clients
  /-- `g_clients[fd]` never inserts a name. -/
  no_insertion : ∀ t ∈ ts, t.act.isReadable → ∀ fd ∈ t.post.clients, fd ∈ t.pre.clients
  /-- A connection joins once and leaves at most once, under the same name. -/
  memberships : ∀ c < s.sockets.accepted, ∃ peer,
    membershipsOf c (observations ts) = [.joined peer] ∨
      membershipsOf c (observations ts) = [.joined peer, .left peer]

namespace EpollInvariant

/-- A call of `on_readable` is for a client, and adds none. -/
lemma readable (h : EpollInvariant s) (ha : a.isReadable) (hstep : s.step a = some (s', out)) :
    (∃ fd rest, s.ready = fd :: rest ∧ fd ∈ s.clients) ∧
      ∀ fd ∈ s'.clients, fd ∈ s.clients := by
  cases h.effect hstep with
  | wait _ _ _ => cases ha
  | refused _ => cases ha
  | joined _ _ _ => cases ha
  | again hready hmem => exact ⟨⟨_, _, hready, hmem⟩, fun fd hfd => hfd⟩
  | said hready hconn _ _ =>
    exact ⟨⟨_, _, hready, (h.clients_open _).mpr ⟨_, hconn⟩⟩, fun fd hfd => hfd⟩
  | left hready hconn _ _ _ =>
    exact ⟨⟨_, _, hready, (h.clients_open _).mpr ⟨_, hconn⟩⟩,
      fun fd hfd => (AList.mem_erase.mp hfd).2⟩

end EpollInvariant

/-- **The epoll server keeps its tables in step.**  In every run the listening socket and the
clients are what is registered, `on_readable` meets only clients, and each connection is announced
as joined exactly once and as left at most once, under one name. -/
theorem epoll_correct (h : epollChat.Run ts s) : EpollCorrect ts s where
  registered t ht _ := (epollInvariant_of_reachable (h.of_mem ht).1).registered
  readable t ht ha :=
    ((epollInvariant_of_reachable (h.of_mem ht).1).readable ha (h.of_mem ht).2).1
  no_insertion t ht ha :=
    ((epollInvariant_of_reachable (h.of_mem ht).1).readable ha (h.of_mem ht).2).2
  memberships c hc := by
    obtain ⟨hmember, hgone, -⟩ := epollHistory_of_run h
    by_cases hopen : ∃ fd, s.sockets.connection? fd = some c
    · obtain ⟨fd, hconn⟩ := hopen
      have hmem : fd ∈ s.clients :=
        ((epollInvariant_of_reachable ⟨ts, h⟩).clients_open fd).mpr ⟨c, hconn⟩
      obtain ⟨peer, hpeer⟩ := Option.isSome_iff_exists.mp (AList.lookup_isSome.mpr hmem)
      exact ⟨peer, .inl (hmember c fd peer hconn hpeer)⟩
    · obtain ⟨peer, hpeer⟩ := hgone c hc fun fd hconn => hopen ⟨fd, hconn⟩
      exact ⟨peer, .inr hpeer⟩

/-- A client on the local host. -/
def localPeer (port : UInt16) : PeerAddress := ⟨(127, 0, 0, 1), port⟩

/-- A client leaves in the batch in which another one is accepted; the next client gets its
descriptor. -/
def reusedDescriptor : List EpollAction :=
  [.wait [3], .connect (some (5, localPeer 40000)) [], .wait [5, 3],
    .readable .closed [], .connect (some (5, localPeer 40001)) [], .wait [3, 5],
    .connect (some (6, localPeer 40002)) [(5, .count 31)],
    .readable (.data [104, 105]) [(6, .again)]]

/-- The descriptor changes hands inside a batch, and the tables stay in step. -/
theorem epoll_correct_reusedDescriptor :
    ∃ ts s, epollChat.Run ts s ∧ ts.map Transition.act = reusedDescriptor ∧
      EpollCorrect ts s := by
  have hrun := System.run_of_exec epollChat reusedDescriptor ⟨3, rfl⟩ rfl
  exact ⟨_, _, hrun, rfl, epoll_correct hrun⟩

end SystemsDemos
