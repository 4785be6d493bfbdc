import SystemsDemos.Chat.Threaded
import SystemsDemos.Transition.History

/-!
# The recipients of a broadcast

The recipients of a broadcast are descriptors, copied when the lock is held and used after it is
released.  A descriptor of the copy can be closed before its turn, and `accept` can give it to a
connection that was not a client when the copy was made.  As long as `accept` does not, a message
goes only to connections that were.

### Outline

* `lastSnapshot`, and the law `SentToRegistered`;
* `PendingRegistered`, kept by every step that reuses no pending descriptor;
* `broadcast_recipients_registered`;
* a run in which a message reaches a later connection.
-/

namespace SystemsDemos

variable {d : Dispatch} {s s' : ThreadedChat} {a : ThreadedAction} {out : List ChatObservation}
  {ts : List ThreadedTransition} {t : ThreadedTransition}

/-- The connection is registered in `g_clients`. -/
def ThreadedChat.Registered (s : ThreadedChat) (c : ℕ) : Prop :=
  ∃ fd ∈ s.clients, s.sockets.connection? fd = some c

/-- The server at the moment of the last snapshot that a handler took. -/
def lastSnapshot (i : ℕ) (ts : List ThreadedTransition) : Option ThreadedChat :=
  (ts.reverse.find? fun t => decide (t.act = .handler i .snapshot)).map Transition.pre

/-- A `send` that reaches a connection reaches one that was registered when the handler took its
snapshot. -/
def SentToRegistered (ts : List ThreadedTransition) (t : ThreadedTransition) : Prop :=
  ∀ i fd result c, t.act = .handler i (.send fd result) →
    t.pre.sockets.connection? fd = some c →
    ∃ snapshot, lastSnapshot i ts = some snapshot ∧ snapshot.Registered c

/-- `accept` does not return a descriptor that a broadcast still has before it. -/
def NoPendingReuse (t : ThreadedTransition) : Prop :=
  match t.act with
  | .accept (some (fd, _)) => ∀ h ∈ t.pre.handlers, fd ∉ h.point.pending
  | _ => True

instance : DecidablePred NoPendingReuse := fun t => by
  unfold NoPendingReuse
  split <;> infer_instance

/-- A snapshot is the last one of its handler. -/
lemma lastSnapshot_self {i : ℕ} (h : t.act = .handler i .snapshot) :
    lastSnapshot i (ts ++ [t]) = some t.pre := by
  simp [lastSnapshot, h]

/-- The other steps are no snapshots of the handler. -/
lemma lastSnapshot_ne {i : ℕ} (h : t.act ≠ .handler i .snapshot) :
    lastSnapshot i (ts ++ [t]) = lastSnapshot i ts := by
  simp [lastSnapshot, h]

/-- The connections behind the pending descriptors of a broadcast were registered when it took its
snapshot. -/
def PendingRegistered (ts : List ThreadedTransition) (s : ThreadedChat) : Prop :=
  ∀ i h, s.handlers[i]? = some h → ∀ fd ∈ h.point.pending, ∀ c,
    s.sockets.connection? fd = some c →
    ∃ snapshot, lastSnapshot i ts = some snapshot ∧ snapshot.Registered c

namespace PendingRegistered

/-- A step that takes no snapshot, opens no descriptor and adds no pending one. -/
lemma mono (h : PendingRegistered ts s)
    (hact : ∀ i, a ≠ .handler i .snapshot)
    (hconn : ∀ fd c, s'.sockets.connection? fd = some c → s.sockets.connection? fd = some c)
    (hpending : ∀ (i : ℕ) (h' : Handler), s'.handlers[i]? = some h' →
      ∃ h : Handler, s.handlers[i]? = some h ∧ ∀ fd ∈ h'.point.pending, fd ∈ h.point.pending) :
    PendingRegistered (ts ++ [⟨s, a, s', out⟩]) s' := by
  intro i h' hi fd hfd c hc
  obtain ⟨h₀, hi₀, hsub⟩ := hpending i h' hi
  rw [lastSnapshot_ne (hact i)]
  exact h i h₀ hi₀ fd (hsub fd hfd) c (hconn fd c hc)

/-- The handlers after one of them has moved to a point where nothing more is pending. -/
lemma pending_of_move {i : ℕ} {h : Handler} (hi : s.handlers[i]? = some h) {point : HandlerPoint}
    (hsub : ∀ fd ∈ point.pending, fd ∈ h.point.pending) (j : ℕ) (h' : Handler)
    (hj : (s.move i h point).handlers[j]? = some h') :
    ∃ h₀, s.handlers[j]? = some h₀ ∧ ∀ fd ∈ h'.point.pending, fd ∈ h₀.point.pending := by
  rcases ThreadedChat.handlers_move hi hj with ⟨rfl, rfl⟩ | ⟨-, hj'⟩
  · exact ⟨h, hi, hsub⟩
  · exact ⟨h', hj', fun fd hfd => hfd⟩

/-- A handler that takes its snapshot has the registered descriptors before it. -/
lemma snapshot (hts : PendingRegistered ts s) {i : ℕ} {h : Handler}
    (hi : s.handlers[i]? = some h) (a : Announcement) (out : List ChatObservation) :
    PendingRegistered
      (ts ++ [⟨s, .handler i .snapshot, s.move i h (.sending a (s.recipients h.fd)), out⟩])
      (s.move i h (.sending a (s.recipients h.fd))) := by
  intro j h' hj fd hfd c hc
  rcases ThreadedChat.handlers_move hi hj with ⟨rfl, rfl⟩ | ⟨hij, hj'⟩
  · refine ⟨s, lastSnapshot_self rfl, fd, ?_, hc⟩
    exact AList.mem_keys.mpr (List.mem_filter.mp hfd).1
  · rw [lastSnapshot_ne (by simpa using hij)]
    exact hts j h' hj' fd hfd c hc

/-- A step of a handler keeps the pending descriptors registered. -/
lemma handler (hts : PendingRegistered ts s) {i : ℕ} {h : Handler} {m : HandlerMove}
    (hi : s.handlers[i]? = some h) (heffect : HandlerEffect s i h m s' out) :
    PendingRegistered (ts ++ [⟨s, .handler i m, s', out⟩]) s' := by
  have hnone : ∀ point : HandlerPoint, point.pending = [] →
      ∀ fd ∈ point.pending, fd ∈ h.point.pending := by
    intro point hpoint fd hfd
    rw [hpoint] at hfd
    cases hfd
  cases heffect with
  | snapshot hpoint => exact hts.snapshot hi _ _
  | register hpoint =>
    exact hts.mono (by simp) (fun fd c hc => hc) (pending_of_move hi (hnone _ rfl))
  | send hpoint hfd =>
    refine hts.mono (by simp) (fun fd c hc => hc) (pending_of_move hi fun fd' hfd' => ?_)
    rw [hpoint]
    exact List.mem_of_mem_erase hfd'
  | @broadcastDone a hpoint =>
    refine hts.mono (by simp) (fun fd c hc => hc) (pending_of_move hi (hnone _ ?_))
    cases a <;> rfl
  | said hpoint hpossible =>
    exact hts.mono (by simp) (fun fd c hc => hc) (pending_of_move hi (hnone _ rfl))
  | hungUp hpoint hreceived =>
    exact hts.mono (by simp) (fun fd c hc => hc) (pending_of_move hi (hnone _ rfl))
  | erase hpoint =>
    exact hts.mono (by simp) (fun fd c hc => hc) (pending_of_move hi (hnone _ rfl))
  | close hpoint =>
    exact hts.mono (by simp) (fun fd c hc => (Sockets.connection?_of_close hc).2)
      (pending_of_move hi (hnone _ rfl))

/-- A step that reuses no pending descriptor keeps the pending descriptors registered. -/
lemma step (hts : PendingRegistered ts s) (hstep : s.step d a = some (s', out))
    (hreuse : NoPendingReuse ⟨s, a, s', out⟩) :
    PendingRegistered (ts ++ [⟨s, a, s', out⟩]) s' := by
  cases ThreadedChat.step_effect hstep with
  | refused =>
    exact hts.mono (by simp) (fun fd c hc => hc) fun i h hi => ⟨h, hi, fun fd hfd => hfd⟩
  | started hi hpoint =>
    exact hts.mono (by simp) (fun fd c hc => hc) (pending_of_move hi fun fd hfd => by cases hfd)
  | handler hi heffect => exact hts.handler hi heffect
  | @accepted fd₀ addr sockets haccept =>
    intro i h hi fd hfd c hc
    rw [lastSnapshot_ne (by simp)]
    rcases ThreadedChat.handlers_snoc hi with hold | ⟨-, rfl⟩
    · have hne : fd ≠ fd₀ := by
        rintro rfl
        exact hreuse h (List.mem_of_getElem? hold) hfd
      rw [Sockets.connection?_accept_ne haccept hne] at hc
      exact hts i h hold fd hfd c hc
    · cases hfd

end PendingRegistered

/-- The pending descriptors are registered in every run that reuses none of them. -/
lemma pendingRegistered_of_run (h : (threadedChat d).Run ts s)
    (hreuse : ∀ t ∈ ts, NoPendingReuse t) : PendingRegistered ts s := by
  induction h with
  | start hinit =>
    obtain ⟨serverFd, rfl⟩ := hinit
    intro i h hi
    cases hi
  | @snoc ts s s' a out _ hstep ih =>
    have hbefore := ih fun t ht => hreuse t (List.mem_append_left _ ht)
    exact hbefore.step hstep (hreuse _ (by simp))

/-! ### A pending descriptor that is reused -/

/-- A step takes no connection back from those that have been accepted. -/
lemma ThreadedChat.accepted_le_of_step (hstep : s.step d a = some (s', out)) :
    s.sockets.accepted ≤ s'.sockets.accepted := by
  cases ThreadedChat.step_effect hstep with
  | refused => exact Nat.le_refl _
  | accepted haccept =>
    obtain ⟨-, -, -, haccepted, -⟩ := Sockets.accept_spec haccept
    rw [haccepted]
    exact Nat.le_succ _
  | started _ _ => exact Nat.le_refl _
  | handler _ heffect => cases heffect <;> exact Nat.le_refl _

/-- The connections that were registered at a snapshot have been accepted. -/
lemma lt_accepted_of_lastSnapshot (h : (threadedChat d).Run ts s) {i c : ℕ}
    {snapshot : ThreadedChat} (hlast : lastSnapshot i ts = some snapshot)
    (hreg : snapshot.Registered c) : c < s.sockets.accepted := by
  induction h with
  | start _ => cases hlast
  | @snoc ts s s' a out _ hstep ih =>
    refine Nat.lt_of_lt_of_le ?_ (ThreadedChat.accepted_le_of_step hstep)
    by_cases ha : a = .handler i .snapshot
    · rw [lastSnapshot_self ha] at hlast
      obtain rfl := Option.some.inj hlast
      obtain ⟨fd, -, hconn⟩ := hreg
      exact s.sockets.lt_accepted fd c hconn
    · rw [lastSnapshot_ne ha] at hlast
      exact ih hlast

/-- A message can be sent to a pending descriptor. -/
lemma ThreadedChat.exists_send {i fd : ℕ} {h : Handler} (hi : s.handlers[i]? = some h)
    (hfd : fd ∈ h.point.pending) (result : SendResult) :
    ∃ s' out, s.step d (.handler i (.send fd result)) = some (s', out) := by
  cases hpoint : h.point with
  | sending a recipients =>
    rw [hpoint] at hfd
    simp only [ThreadedChat.step, hi, ThreadedChat.stepHandler, hpoint]
    exact ⟨_, _, if_pos hfd⟩
  | _ =>
    rw [hpoint] at hfd
    cases hfd

/-- Right after a pending descriptor has been reused, the message can go to the new connection. -/
lemma exists_not_sentToRegistered (h : (threadedChat d).Run ts t.pre)
    (hvalid : (threadedChat d).Valid t) (hreuse : ¬NoPendingReuse t) :
    ∃ u s', (threadedChat d).Run (ts ++ [t, u]) s' ∧ ¬SentToRegistered (ts ++ [t]) u := by
  obtain ⟨pre, act, post, out⟩ := t
  have hstep : pre.step d act = some (post, out) := hvalid
  cases ThreadedChat.step_effect hstep with
  | refused => exact (hreuse trivial).elim
  | started _ _ => exact (hreuse trivial).elim
  | handler _ _ => exact (hreuse trivial).elim
  | @accepted fd addr sockets haccept =>
    simp only [NoPendingReuse, not_forall, not_not] at hreuse
    obtain ⟨h₀, hmem, hfd⟩ := hreuse
    obtain ⟨i, hi, hget⟩ := List.getElem_of_mem hmem
    have hhandler : (pre.handlers ++ [⟨fd, addr.peer, .queued⟩])[i]? = some h₀ := by
      rw [List.getElem?_append_left hi, List.getElem?_eq_getElem hi, hget]
    obtain ⟨s₂, out₂, hsend⟩ := ThreadedChat.exists_send (d := d)
      (s := ⟨sockets, pre.clients, pre.handlers ++ [⟨fd, addr.peer, .queued⟩]⟩) hhandler hfd .error
    have hsend' : (threadedChat d).step
        ⟨sockets, pre.clients, pre.handlers ++ [⟨fd, addr.peer, .queued⟩]⟩
        (.handler i (.send fd .error)) = some (s₂, out₂) := hsend
    have hrun := (h.snoc hvalid).snoc hsend'
    rw [List.append_assoc] at hrun
    refine ⟨_, s₂, hrun, fun hsent => ?_⟩
    obtain ⟨snapshot, hlast, hreg⟩ :=
      hsent i fd .error _ rfl (Sockets.connection?_accept_self haccept)
    rw [lastSnapshot_ne (by simp)] at hlast
    exact Nat.lt_irrefl _ (lt_accepted_of_lastSnapshot h hlast hreg)

/-- **A broadcast only reaches connections that were clients when it took its snapshot, as long as
`accept` returns no descriptor that a broadcast still has before it.**  If it does so in some step,
then the message can reach the new connection right afterwards. -/
theorem broadcast_recipients_registered (h : (threadedChat d).Run ts s) :
    ((∀ t ∈ ts, NoPendingReuse t) → EveryStep SentToRegistered ts) ∧
      ∀ us t vs, ts = us ++ t :: vs → ¬NoPendingReuse t →
        ∃ u s', (threadedChat d).Run (us ++ [t, u]) s' ∧ ¬SentToRegistered (us ++ [t]) u := by
  constructor
  · rintro hreuse us t vs rfl i fd result c hact hconn
    have hpending : PendingRegistered us t.pre :=
      pendingRegistered_of_run h.split.1 fun u hu => hreuse u (List.mem_append_left _ hu)
    have hvalid := h.split.2
    obtain ⟨pre, act, post, out⟩ := t
    obtain rfl : act = .handler i (.send fd result) := hact
    have hstep : pre.step d (.handler i (.send fd result)) = some (post, out) := hvalid
    cases ThreadedChat.step_effect hstep with
    | handler hi heffect =>
      cases heffect with
      | send hpoint hfd =>
        refine hpending i _ hi fd ?_ c hconn
        rw [hpoint]
        exact hfd
  · rintro us t vs rfl hreuse
    exact exists_not_sentToRegistered h.split.1 h.split.2 hreuse

/-- The handlers of two clients, up to their first `recv`. -/
def twoClients : List ThreadedAction :=
  [.accept (some (4, ⟨(127, 0, 0, 1), 40000⟩)), .accept (some (5, ⟨(127, 0, 0, 1), 40001⟩)),
    .start 0, .handler 0 .register, .handler 0 .snapshot, .handler 0 .broadcastDone,
    .start 1, .handler 1 .register, .handler 1 .snapshot, .handler 1 (.send 4 (.count 31)),
    .handler 1 .broadcastDone]

/-- A client leaves while a message to it is on its way, and its descriptor is not used again. -/
def leavesDuringBroadcast : List ThreadedAction :=
  twoClients ++
    [.handler 0 (.recv (.data [104, 105])), .handler 0 .snapshot, .handler 1 (.recv .closed),
      .handler 1 .erase, .handler 1 .snapshot, .handler 1 (.send 4 (.count 29)),
      .handler 1 .broadcastDone, .handler 1 .close,
      .accept (some (6, ⟨(127, 0, 0, 1), 40002⟩)), .handler 0 (.send 5 .error)]

/-- The message then reaches nobody, with both kinds of dispatch. -/
theorem broadcast_recipients_leavesDuringBroadcast :
    (∃ ts s, (threadedChat .threadPerClient).Run ts s ∧
      ts.map Transition.act = leavesDuringBroadcast ∧ EveryStep SentToRegistered ts) ∧
    ∃ ts s, (threadedChat (.pool 4)).Run ts s ∧
      ts.map Transition.act = leavesDuringBroadcast ∧ EveryStep SentToRegistered ts := by
  have hthread := System.run_of_exec (threadedChat .threadPerClient) leavesDuringBroadcast
    ⟨3, rfl⟩ rfl
  have hpool := System.run_of_exec (threadedChat (.pool 4)) leavesDuringBroadcast ⟨3, rfl⟩ rfl
  exact ⟨⟨_, _, hthread, rfl,
      (broadcast_recipients_registered hthread).1 (forall_of_all rfl)⟩,
    ⟨_, _, hpool, rfl, (broadcast_recipients_registered hpool).1 (forall_of_all rfl)⟩⟩

/-- A client leaves while a message to it is on its way, and the next client gets its
descriptor. -/
def reusedDuringBroadcast : List ThreadedAction :=
  twoClients ++
    [.handler 0 (.recv (.data [104, 105])), .handler 0 .snapshot, .handler 1 (.recv .closed),
      .handler 1 .erase, .handler 1 .snapshot, .handler 1 (.send 4 (.count 29)),
      .handler 1 .broadcastDone, .handler 1 .close,
      .accept (some (5, ⟨(127, 0, 0, 1), 40002⟩)), .handler 0 (.send 5 (.count 20))]

/-- The message of the first client reaches the third one, which was not there when the snapshot
was taken, with both kinds of dispatch. -/
theorem broadcast_reusedDuringBroadcast :
    (∃ ts s, (threadedChat .threadPerClient).Run ts s ∧
      ts.map Transition.act = reusedDuringBroadcast ∧
      messagesTo 2 (observations ts) =
        [(Announcement.said (PeerAddress.peer ⟨(127, 0, 0, 1), 40000⟩) [104, 105]).msg] ∧
      ¬EveryStep SentToRegistered ts) ∧
    ∃ ts s, (threadedChat (.pool 4)).Run ts s ∧
      ts.map Transition.act = reusedDuringBroadcast ∧
      messagesTo 2 (observations ts) =
        [(Announcement.said (PeerAddress.peer ⟨(127, 0, 0, 1), 40000⟩) [104, 105]).msg] ∧
      ¬EveryStep SentToRegistered ts := by
  have hlate : ∀ s : ThreadedChat, s.sockets.accepted = 2 → ¬s.Registered 2 := by
    rintro s hs ⟨fd, -, hconn⟩
    have hlt := s.sockets.lt_accepted fd 2 hconn
    omega
  have hthread := System.run_of_exec (threadedChat .threadPerClient) reusedDuringBroadcast
    ⟨3, rfl⟩ rfl
  have hpool := System.run_of_exec (threadedChat (.pool 4)) reusedDuringBroadcast ⟨3, rfl⟩ rfl
  refine ⟨⟨_, _, hthread, rfl, rfl, fun hsent => ?_⟩, ⟨_, _, hpool, rfl, rfl, fun hsent => ?_⟩⟩
  · obtain ⟨snapshot, hlast, hreg⟩ := hsent
      [_, _, _, _, _, _, _, _, _, _, _, _, _, _, _, _, _, _, _, _] _ [] rfl 0 5 _ 2 rfl rfl
    obtain rfl := Option.some.inj hlast
    exact hlate _ rfl hreg
  · obtain ⟨snapshot, hlast, hreg⟩ := hsent
      [_, _, _, _, _, _, _, _, _, _, _, _, _, _, _, _, _, _, _, _] _ [] rfl 0 5 _ 2 rfl rfl
    obtain rfl := Option.some.inj hlast
    exact hlate _ rfl hreg

end SystemsDemos
