import SystemsDemos.Chat.Epoll
import SystemsDemos.Chat.Room

/-!
# The epoll server is a chat room

A callback of the event loop is one event of the room, or none.  The clients of the server are the
members of the room, and each connection is sent what the room tells it.

### Outline

* `epollEvent` and `epollEvents`, the events of a run;
* `InRoom`, kept by every step (`epollChat_inRoom`);
* `epollChat_realizes`: every sequence of events of the room is one of the server.
-/

namespace SystemsDemos

variable {s s' : EpollChat} {a : EpollAction} {out : List ChatObservation}
  {ts : List EpollTransition} {r : ChatRoom}

/-- The event of the connection behind the descriptor whose turn it is. -/
def EpollChat.receivedEvent (s : EpollChat) (received : RecvResult) : Option ConnEvent :=
  match s.ready with
  | [] => none
  | fd :: _ =>
      match s.sockets.connection? fd, received with
      | some _, .again => none
      | some c, .data chunk => some (.chunk c chunk)
      | some c, _ => some (.disconnect c)
      | none, _ => none

/-- The event that a step processes. -/
def epollEvent (t : EpollTransition) : Option ConnEvent :=
  match t.act with
  | .wait _ => none
  | .connect client _ => client.map fun p => .connect p.2
  | .readable received _ => t.pre.receivedEvent received

/-- The events of a run. -/
def epollEvents (ts : List EpollTransition) : List ConnEvent := ts.filterMap epollEvent

/-- The clients of the server are the members of the room. -/
structure InRoom (s : EpollChat) (r : ChatRoom) : Prop where
  length : r.length = s.sockets.accepted
  peer : ∀ fd c, s.sockets.connection? fd = some c → r.peer? c = s.clients.lookup fd
  gone : ∀ c, (∀ fd, s.sockets.connection? fd ≠ some c) → r.peer? c = none

namespace InRoom

/-- The members of the room are the open connections. -/
lemma isSome_iff (h : InRoom s r) (hinv : EpollInvariant s) (c : ℕ) :
    (r.peer? c).isSome ↔ ∃ fd, s.sockets.connection? fd = some c := by
  constructor
  · intro hsome
    by_contra hnone
    rw [h.gone c fun fd hconn => hnone ⟨fd, hconn⟩] at hsome
    cases hsome
  · rintro ⟨fd, hconn⟩
    rw [h.peer fd c hconn, AList.lookup_isSome, hinv.clients_open]
    exact ⟨c, hconn⟩

/-- A step that changes neither the sockets nor the clients. -/
lemma congr (h : InRoom s r) (hsockets : s'.sockets = s.sockets)
    (hclients : s'.clients = s.clients) : InRoom s' r := by
  obtain ⟨hlength, hpeer, hgone⟩ := h
  constructor <;> simpa only [hsockets, hclients]

/-- The new connection is a member. -/
lemma connect (h : InRoom s r) {fd : ℕ} {addr : PeerAddress} {sockets : Sockets}
    (haccept : s.sockets.accept fd = some sockets) (poller : Finset ℕ) (ready : List ℕ) :
    InRoom ⟨sockets, poller, s.clients.insert fd addr.peer, ready⟩ (r.apply (.connect addr)) := by
  obtain ⟨-, hfree, -, haccepted, -⟩ := Sockets.accept_spec haccept
  refine ⟨?_, ?_, ?_⟩
  · simp [ChatRoom.apply, h.length, haccepted]
  · intro fd' c hconn
    rw [ChatRoom.peer?_connect, h.length]
    by_cases hfd : fd' = fd
    · subst hfd
      rw [Sockets.connection?_accept_self haccept] at hconn
      rw [if_pos (Option.some.inj hconn).symm, AList.lookup_insert]
    · rw [Sockets.connection?_accept_ne haccept hfd] at hconn
      have hlt := s.sockets.lt_accepted fd' c hconn
      rw [if_neg (by omega), AList.lookup_insert_ne hfd, h.peer fd' c hconn]
  · intro c hclosed
    have hne : c ≠ r.length := by
      rintro rfl
      exact hclosed fd (h.length ▸ Sockets.connection?_accept_self haccept)
    rw [ChatRoom.peer?_connect, if_neg hne]
    refine h.gone c fun fd' hconn => hclosed fd' ?_
    have hfd : fd' ≠ fd := by
      rintro rfl
      cases hfree.symm.trans hconn
    exact (Sockets.connection?_accept_ne haccept hfd).trans hconn

/-- The closed connection is no member any more. -/
lemma disconnect (h : InRoom s r) {fd c : ℕ} (hconn : s.sockets.connection? fd = some c)
    (poller : Finset ℕ) (ready : List ℕ) :
    InRoom ⟨s.sockets.close fd, poller, s.clients.erase fd, ready⟩ (r.apply (.disconnect c)) := by
  refine ⟨?_, ?_, ?_⟩
  · simp [ChatRoom.apply, h.length]
  · intro fd' c' hconn'
    obtain ⟨hfd, hbefore⟩ := Sockets.connection?_of_close hconn'
    have hne : c' ≠ c := by
      rintro rfl
      exact hfd (s.sockets.injective fd' fd c' hbefore hconn)
    rw [ChatRoom.peer?_disconnect, if_neg hne, AList.lookup_erase_ne hfd, h.peer fd' c' hbefore]
  · intro c' hclosed
    rw [ChatRoom.peer?_disconnect]
    by_cases hne : c' = c
    · rw [if_pos hne]
    · rw [if_neg hne]
      refine h.gone c' fun fd' hconn' => hclosed fd' ?_
      have hfd : fd' ≠ fd := by
        rintro rfl
        exact hne (Option.some.inj (hconn'.symm.trans hconn))
      exact (Sockets.connection?_close_ne hfd).trans hconn'

end InRoom

/-- A broadcast sends what the room delivers, if its recipients are the connections that hear the
event. -/
lemma messagesTo_broadcast {e : ConnEvent} {a : Announcement} {sockets : Sockets} {c : ℕ}
    {sends : List (ℕ × SendResult)} {recipients : List ℕ} (c₀ : ℕ)
    (ha : r.announcement e = some a) (hnodup : recipients.Nodup)
    (hsends : (sends.map Prod.fst).Perm recipients)
    (hhears : (∃ fd ∈ recipients, sockets.connection? fd = some c) ↔ r.hears e c) :
    messagesTo c (.announced (some c₀) a :: sockets.sendAll a.msg sends) = r.deliver e c := by
  rw [messagesTo_announced, Sockets.messagesTo_sendAll _ _ _ (hsends.nodup_iff.mpr hnodup),
    ChatRoom.deliver_of_announcement ha]
  simp only [hsends.mem_iff, hhears]

namespace InRoom

/-- The recipients of a new connection's announcement are the members of the room. -/
lemma joined_hears (h : InRoom s r) (hinv : EpollInvariant s) {fd : ℕ} {addr : PeerAddress}
    {sockets : Sockets} (haccept : s.sockets.accept fd = some sockets) (c : ℕ) :
    (∃ fd' ∈ (s.clients.insert fd addr.peer).keys.filter fun fd' => decide (some fd ≠ some fd'),
      sockets.connection? fd' = some c) ↔ r.hears (.connect addr) c := by
  obtain ⟨-, hfree, -, -, -⟩ := Sockets.accept_spec haccept
  simp only [ChatRoom.hears, ChatRoom.origin, Bool.and_eq_true, decide_eq_true_eq,
    h.isSome_iff hinv, List.mem_filter, ← AList.mem_keys, AList.mem_insert]
  constructor
  · rintro ⟨fd', ⟨-, hne⟩, hconn⟩
    have hfd : fd' ≠ fd := fun heq => hne (congrArg some heq.symm)
    exact ⟨⟨fd', (Sockets.connection?_accept_ne haccept hfd).symm.trans hconn⟩, by simp⟩
  · rintro ⟨⟨fd', hconn⟩, -⟩
    have hfd : fd' ≠ fd := by
      rintro rfl
      cases hfree.symm.trans hconn
    exact ⟨fd', ⟨.inr ((hinv.clients_open fd').mpr ⟨c, hconn⟩),
      fun heq => hfd (Option.some.inj heq).symm⟩,
      (Sockets.connection?_accept_ne haccept hfd).trans hconn⟩

/-- The recipients of what a client says are the other members of the room. -/
lemma said_hears (h : InRoom s r) (hinv : EpollInvariant s) {fd c₀ : ℕ}
    (hconn₀ : s.sockets.connection? fd = some c₀) (chunk : List UInt8) (c : ℕ) :
    (∃ fd' ∈ s.recipients (some fd), s.sockets.connection? fd' = some c) ↔
      r.hears (.chunk c₀ chunk) c := by
  simp only [ChatRoom.hears, ChatRoom.origin, Bool.and_eq_true, decide_eq_true_eq,
    h.isSome_iff hinv, EpollChat.recipients, List.mem_filter, ← AList.mem_keys, ne_eq,
    Option.some.injEq]
  constructor
  · rintro ⟨fd', ⟨-, hne⟩, hconn⟩
    refine ⟨⟨fd', hconn⟩, ?_⟩
    rintro rfl
    exact hne (s.sockets.injective fd fd' c₀ hconn₀ hconn)
  · rintro ⟨⟨fd', hconn⟩, hne⟩
    refine ⟨fd', ⟨(hinv.clients_open fd').mpr ⟨c, hconn⟩, ?_⟩, hconn⟩
    rintro rfl
    exact hne (Option.some.inj (hconn₀.symm.trans hconn))

/-- The recipients of the announcement that a client has left are the other members of the
room. -/
lemma left_hears (h : InRoom s r) (hinv : EpollInvariant s) {fd c₀ : ℕ}
    (hconn₀ : s.sockets.connection? fd = some c₀) (c : ℕ) :
    (∃ fd' ∈ (s.clients.erase fd).keys.filter fun fd' => decide (none ≠ some fd'),
      (s.sockets.close fd).connection? fd' = some c) ↔ r.hears (.disconnect c₀) c := by
  simp only [ChatRoom.hears, ChatRoom.origin, Bool.and_eq_true, decide_eq_true_eq,
    h.isSome_iff hinv, List.mem_filter, ← AList.mem_keys, AList.mem_erase, ne_eq,
    Option.some.injEq]
  constructor
  · rintro ⟨fd', -, hconn⟩
    obtain ⟨hfd, hbefore⟩ := Sockets.connection?_of_close hconn
    refine ⟨⟨fd', hbefore⟩, ?_⟩
    rintro rfl
    exact hfd (s.sockets.injective fd' fd c₀ hbefore hconn₀)
  · rintro ⟨⟨fd', hconn⟩, hne⟩
    have hfd : fd' ≠ fd := by
      rintro rfl
      exact hne (Option.some.inj (hconn₀.symm.trans hconn))
    exact ⟨fd', ⟨⟨hfd, (hinv.clients_open fd').mpr ⟨c, hconn⟩⟩, by simp⟩,
      (Sockets.connection?_close_ne hfd).trans hconn⟩

/-- What a step does to the room and sends: the event of the step, if there is one. -/
lemma step (h : InRoom s r) (hinv : EpollInvariant s) (hstep : s.step a = some (s', out)) :
    (epollEvent ⟨s, a, s', out⟩ = none ∧ InRoom s' r ∧ ∀ c, messagesTo c out = []) ∨
      ∃ e, epollEvent ⟨s, a, s', out⟩ = some e ∧ InRoom s' (r.apply e) ∧
        ∀ c, messagesTo c out = r.deliver e c := by
  cases hinv.effect hstep with
  | wait _ _ _ => exact .inl ⟨rfl, h.congr rfl rfl, fun c => rfl⟩
  | refused _ => exact .inl ⟨rfl, h.congr rfl rfl, fun c => rfl⟩
  | @again fd rest _ hready hmem =>
    refine .inl ⟨?_, h.congr rfl rfl, fun c => rfl⟩
    obtain ⟨c, hconn⟩ := (hinv.clients_open fd).mp hmem
    simp [epollEvent, EpollChat.receivedEvent, hready, hconn]
  | @joined rest fd addr sockets sends _ haccept hsends =>
    refine .inr ⟨.connect addr, rfl, h.connect haccept _ _, fun c => ?_⟩
    exact messagesTo_broadcast _ rfl ((AList.keys_nodup _).filter _) hsends
      (h.joined_hears hinv haccept c)
  | @said fd c₀ rest peer chunk sends hready hconn₀ hpeer hsends =>
    refine .inr ⟨.chunk c₀ chunk, ?_, h.congr rfl rfl, fun c => ?_⟩
    · simp [epollEvent, EpollChat.receivedEvent, hready, hconn₀]
    · have ha : r.announcement (.chunk c₀ chunk) = some (.said peer chunk) := by
        rw [ChatRoom.announcement, h.peer fd c₀ hconn₀, hpeer, Option.map_some]
      exact messagesTo_broadcast _ ha ((AList.keys_nodup _).filter _) hsends
        (h.said_hears hinv hconn₀ chunk c)
  | @left fd c₀ rest peer received sends hready hconn₀ hpeer hreceived hsends =>
    refine .inr ⟨.disconnect c₀, ?_, h.disconnect hconn₀ _ _, fun c => ?_⟩
    · rcases hreceived with rfl | rfl <;>
        simp [epollEvent, EpollChat.receivedEvent, hready, hconn₀]
    · have ha : r.announcement (.disconnect c₀) = some (.left peer) := by
        rw [ChatRoom.announcement, h.peer fd c₀ hconn₀, hpeer, Option.map_some]
      exact messagesTo_broadcast _ ha ((AList.keys_nodup _).filter _) hsends
        (h.left_hears hinv hconn₀ c)

end InRoom

/-- In every run the server is in the room that its events have made, and has sent to each
connection what the room has told it. -/
theorem epollChat_inRoom (h : epollChat.Run ts s) :
    InRoom s (ChatRoom.applyAll [] (epollEvents ts)) ∧
      ∀ c, messagesTo c (observations ts) = ChatRoom.transcript c [] (epollEvents ts) := by
  induction h with
  | start hinit =>
    obtain ⟨serverFd, rfl⟩ := hinit
    refine ⟨⟨rfl, fun fd c hconn => ?_, fun c _ => rfl⟩, fun c => rfl⟩
    cases hconn
  | @snoc ts s s' a out hrun hstep ih =>
    obtain ⟨hroom, hsent⟩ := ih
    have hinv : EpollInvariant s := epollInvariant_of_reachable ⟨ts, hrun⟩
    rw [epollEvents, List.filterMap_append, ← epollEvents]
    simp only [observations_append, observations_singleton, messagesTo_append, hsent]
    rcases hroom.step hinv hstep with ⟨hevent, hroom', hout⟩ | ⟨e, hevent, hroom', hout⟩
    · simpa [hevent, hout] using hroom'
    · simpa [hevent, hout, ChatRoom.transcript_snoc] using hroom'

/-! ### Every sequence of events -/

/-- A broadcast can go through. -/
lemma EpollChat.exists_broadcast (s : EpollChat) (conn skipFd : Option ℕ) (a : Announcement) :
    ∃ sends out, s.broadcast conn skipFd a sends = some (s, out) :=
  ⟨_, _, s.broadcast_recipients conn skipFd a .error⟩

/-- Between two batches any event that the room allows can be the next one. -/
lemma InRoom.process (h : InRoom s r) (hinv : EpollInvariant s) (hready : s.ready = [])
    {e : ConnEvent} (he : r.allows e) :
    ∃ fd a s₁ s₂ out, s.step (.wait [fd]) = some (s₁, []) ∧ s₁.step a = some (s₂, out) ∧
      epollEvent ⟨s₁, a, s₂, out⟩ = some e ∧ s₂.ready = [] := by
  have hclient : ∀ c, (r.peer? c).isSome → ∃ fd peer, fd ∈ s.poller ∧ fd ≠ s.sockets.serverFd ∧
      s.sockets.connection? fd = some c ∧ s.clients.lookup fd = some peer := by
    intro c hc
    obtain ⟨fd, hconn⟩ := (h.isSome_iff hinv c).mp hc
    have hmem : fd ∈ s.clients := (hinv.clients_open fd).mpr ⟨c, hconn⟩
    obtain ⟨peer, hpeer⟩ := Option.isSome_iff_exists.mp (AList.lookup_isSome.mpr hmem)
    refine ⟨fd, peer, ?_, Sockets.ne_serverFd hconn, hconn, hpeer⟩
    rw [hinv.registered, Finset.mem_insert, List.mem_toFinset, ← AList.mem_keys]
    exact .inr hmem
  cases e with
  | connect addr =>
    obtain ⟨fd, sockets, haccept⟩ := s.sockets.exists_accept
    obtain ⟨sends, out, hout⟩ := EpollChat.exists_broadcast
      ⟨sockets, insert fd s.poller, s.clients.insert fd addr.peer, []⟩ (sockets.connection? fd)
      (some fd) (.joined addr.peer)
    have hstep : EpollChat.step { s with ready := [s.sockets.serverFd] }
        (.connect (some (fd, addr)) sends) =
          some (⟨sockets, insert fd s.poller, s.clients.insert fd addr.peer, []⟩, out) := by
      simp only [EpollChat.step, EpollChat.onConnect, haccept, if_true]
      exact hout
    exact ⟨_, _, _, _, _, s.step_wait_singleton hready hinv.serverFd_mem, hstep, rfl, rfl⟩
  | chunk c chunk =>
    rw [ChatRoom.allows, Bool.and_eq_true] at he
    obtain ⟨fd, peer, hfd, hserver, hconn, hpeer⟩ := hclient c he.1
    obtain ⟨sends, out, hout⟩ := EpollChat.exists_broadcast { s with ready := [] } (some c)
      (some fd) (.said peer chunk)
    have hpossible : (RecvResult.data chunk).possible (some c) = true := he.2
    have hstep : EpollChat.step { s with ready := [fd] } (.readable (.data chunk) sends) =
        some ({ s with ready := [] }, out) := by
      simp only [EpollChat.step, if_neg hserver, EpollChat.onReadable, hpossible, if_true,
        EpollChat.client_of_lookup (s := { s with ready := [] }) hpeer, hconn]
      exact hout
    exact ⟨_, _, _, _, _, s.step_wait_singleton hready hfd, hstep,
      by simp [epollEvent, EpollChat.receivedEvent, hconn], rfl⟩
  | disconnect c =>
    obtain ⟨fd, peer, hfd, hserver, hconn, hpeer⟩ := hclient c he
    obtain ⟨sends, out, hout⟩ := EpollChat.exists_broadcast
      ⟨s.sockets.close fd, s.poller.erase fd, s.clients.erase fd, []⟩ (some c) none (.left peer)
    have hpossible : RecvResult.closed.possible (some c) = true := rfl
    have hstep : EpollChat.step { s with ready := [fd] } (.readable .closed sends) =
        some (⟨s.sockets.close fd, s.poller.erase fd, s.clients.erase fd, []⟩, out) := by
      simp only [EpollChat.step, if_neg hserver, EpollChat.onReadable, hpossible, if_true,
        EpollChat.client_of_lookup (s := { s with ready := [] }) hpeer, hconn]
      exact hout
    exact ⟨_, _, _, _, _, s.step_wait_singleton hready hfd, hstep,
      by simp [epollEvent, EpollChat.receivedEvent, hconn], rfl⟩

/-- Every sequence of events that the room allows is one of the server. -/
theorem epollChat_realizes {evs : List ConnEvent} (h : ChatRoom.allowsAll [] evs) :
    ∃ ts s, epollChat.Run ts s ∧ s.ready = [] ∧ epollEvents ts = evs := by
  induction evs using List.reverseRecOn with
  | nil => exact ⟨[], .start 3, .start ⟨3, rfl⟩, rfl, rfl⟩
  | append_singleton evs e ih =>
    rw [ChatRoom.allowsAll_snoc, Bool.and_eq_true] at h
    obtain ⟨ts, s, hrun, hready, rfl⟩ := ih h.1
    obtain ⟨hroom, -⟩ := epollChat_inRoom hrun
    obtain ⟨fd, a, s₁, s₂, out, hwait, hstep, hevent, hready₂⟩ :=
      hroom.process (epollInvariant_of_reachable ⟨ts, hrun⟩) hready h.2
    have hrun₁ : epollChat.Run (ts ++ [⟨s, .wait [fd], s₁, []⟩]) s₁ := hrun.snoc hwait
    have hrun₂ : epollChat.Run (ts ++ [⟨s, .wait [fd], s₁, []⟩] ++ [⟨s₁, a, s₂, out⟩]) s₂ :=
      hrun₁.snoc hstep
    have hnone : epollEvent ⟨s, .wait [fd], s₁, []⟩ = none := rfl
    refine ⟨_, s₂, hrun₂, hready₂, ?_⟩
    simp [epollEvents, List.filterMap_append, hevent, hnone]

end SystemsDemos
