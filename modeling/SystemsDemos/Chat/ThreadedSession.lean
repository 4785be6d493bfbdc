import SystemsDemos.Chat.Handlers
import SystemsDemos.Chat.Session

/-!
# The order of words in the threaded chats

The handlers of a threaded server broadcast side by side, so the messages of two clients may reach
others in different orders, and a message may reach a later connection.  The words of one client
stay in order: each connection is sent a part of what its handler announces, nothing twice, and the
handler announces what its client sends.

### Outline

* `threadedServer`, `sentTo` and the law `Ordered`, kept by every step;
* `HandlerPoint.unannounced`, what a handler has received and not announced;
* `threadedSession_ordered`, for every run of a session.
-/

namespace SystemsDemos

/-- A threaded server, as its clients meet it. -/
def threadedServer (d : Dispatch) : ChatServer ThreadedChat ThreadedAction where
  system := threadedChat d
  sockets := ThreadedChat.sockets
  receives s a :=
    match a with
    | .handler i (.recv received) =>
        s.handlers[i]?.bind fun h => (s.sockets.connection? h.fd).map fun c => (c, received)
    | _ => none

variable {d : Dispatch} {s s' : ThreadedChat} {a : ThreadedAction} {out : List ChatObservation}
  {ts : List ThreadedTransition} {i c : ℕ} {h : Handler} {m : HandlerMove}

/-! ### The messages of one handler to one connection -/

/-- What the handler `i` sends to a connection in a step. -/
def sentInStep (i c : ℕ) (t : ThreadedTransition) : List (List UInt8) :=
  match t.act with
  | .handler j _ => if j = i then messagesTo c t.out else []
  | _ => []

/-- What the handler `i` has sent to a connection. -/
def sentTo (i c : ℕ) (ts : List ThreadedTransition) : List (List UInt8) :=
  ts.flatMap (sentInStep i c)

/-- The messages that a handler has announced. -/
def announcedMsgs (i : ℕ) (ts : List ThreadedTransition) : List (List UInt8) :=
  (announcementsOf i (observations ts)).map Announcement.msg

@[simp] lemma sentTo_snoc (t : ThreadedTransition) :
    sentTo i c (ts ++ [t]) = sentTo i c ts ++ sentInStep i c t := by
  simp [sentTo]

@[simp] lemma announcedMsgs_snoc (t : ThreadedTransition) :
    announcedMsgs i (ts ++ [t]) =
      announcedMsgs i ts ++ (announcementsOf i t.out).map Announcement.msg := by
  simp [announcedMsgs]

/-- What a handler has sent to a connection is a part of what it has announced, in order; in a
broadcast that has not come to the connection yet, a part of what it had announced before. -/
structure Ordered (i c : ℕ) (ts : List ThreadedTransition) (s : ThreadedChat) : Prop where
  sublist : (sentTo i c ts).Sublist (announcedMsgs i ts)
  sending : ∀ (h : Handler) (a : Announcement) (recipients : List ℕ),
    s.handlers[i]? = some h → h.point = .sending a recipients →
      (s.sockets.accepted ≤ c ∨ ∃ fd ∈ recipients, s.sockets.connection? fd = some c) →
        ∃ before, announcedMsgs i ts = before ++ [a.msg] ∧ (sentTo i c ts).Sublist before

namespace Ordered

/-- A step in which the handler does not take part, and which opens the connection to no descriptor
unless it is the next one. -/
lemma frame (ho : Ordered i c ts s) (hsent : sentInStep i c ⟨s, a, s', out⟩ = [])
    (hannounced : announcementsOf i out = [])
    (hhandler : ∀ h b recipients, s'.handlers[i]? = some h → h.point = .sending b recipients →
      s.handlers[i]? = some h)
    (hconn : ∀ fds : List ℕ, (s'.sockets.accepted ≤ c ∨
      ∃ fd ∈ fds, s'.sockets.connection? fd = some c) →
        (s.sockets.accepted ≤ c ∨ ∃ fd ∈ fds, s.sockets.connection? fd = some c)) :
    Ordered i c (ts ++ [⟨s, a, s', out⟩]) s' where
  sublist := by
    rw [sentTo_snoc, announcedMsgs_snoc, hsent, hannounced]
    simpa using ho.sublist
  sending h b recipients hi hpoint hfresh := by
    rw [sentTo_snoc, announcedMsgs_snoc, hsent, hannounced, List.map_nil, List.append_nil,
      List.append_nil]
    exact ho.sending h b recipients (hhandler h b recipients hi hpoint) hpoint (hconn _ hfresh)

/-- A step of a handler that neither sends nor announces anything. -/
lemma quiet (ho : Ordered i c ts s) {j : ℕ} (hj : s.handlers[j]? = some h)
    {point : HandlerPoint} (hhandlers : s'.handlers = (s.move j h point).handlers)
    (hpoint : ∀ b recipients, point ≠ .sending b recipients)
    (haccepted : s'.sockets.accepted = s.sockets.accepted)
    (hconn : ∀ fd, s'.sockets.connection? fd = some c → s.sockets.connection? fd = some c) :
    Ordered i c (ts ++ [⟨s, .handler j m, s', []⟩]) s' := by
  refine ho.frame ?_ rfl ?_ ?_
  · simp [sentInStep]
  · intro h' b recipients hi hsending
    rw [hhandlers] at hi
    rcases ThreadedChat.handlers_move hj hi with ⟨-, rfl⟩ | ⟨-, hi'⟩
    · exact absurd hsending (hpoint b recipients)
    · exact hi'
  · rintro fds (hle | ⟨fd, hfd, hopen⟩)
    · exact .inl (haccepted ▸ hle)
    · exact .inr ⟨fd, hfd, hconn fd hopen⟩

/-- A handler takes its snapshot and announces. -/
lemma snapshot (ho : Ordered i c ts s) {j : ℕ} (hj : s.handlers[j]? = some h) (b : Announcement)
    (recipients : List ℕ) :
    Ordered i c (ts ++ [⟨s, .handler j m, s.move j h (.sending b recipients),
      [.announced (some j) b]⟩]) (s.move j h (.sending b recipients)) := by
  by_cases hij : j = i
  · subst hij
    have hannounced : announcedMsgs j (ts ++ [⟨s, .handler j m, s.move j h (.sending b recipients),
        [.announced (some j) b]⟩]) = announcedMsgs j ts ++ [b.msg] := by
      simp [announcementsOf]
    have hsent : sentTo j c (ts ++ [⟨s, .handler j m, s.move j h (.sending b recipients),
        [.announced (some j) b]⟩]) = sentTo j c ts := by
      simp [sentInStep]
    refine ⟨?_, fun h' b' recipients' hi hpoint _ => ?_⟩
    · rw [hannounced, hsent]
      exact ho.sublist.trans (List.sublist_append_left _ _)
    · rw [ThreadedChat.move_self hj] at hi
      obtain rfl := Option.some.inj hi
      obtain ⟨rfl, rfl⟩ := HandlerPoint.sending.inj hpoint
      exact ⟨_, hannounced, hsent ▸ ho.sublist⟩
  · refine ho.frame ?_ ?_ ?_ fun fds hfds => hfds
    · simp [sentInStep, hij]
    · simp [announcementsOf, hij]
    · intro h' b' recipients' hi _
      exact (ThreadedChat.move_ne h _ hij).symm.trans hi

/-- A handler sends to one of its recipients. -/
lemma send (ho : Ordered i c ts s) (hinv : ThreadedInvariant s) {j : ℕ}
    (hj : s.handlers[j]? = some h) {b : Announcement} {recipients : List ℕ} {fd : ℕ}
    {result : SendResult} (hpoint : h.point = .sending b recipients) (hfd : fd ∈ recipients) :
    Ordered i c (ts ++ [⟨s, .handler j (.send fd result),
      s.move j h (.sending b (recipients.erase fd)), s.sockets.send b.msg fd result⟩])
        (s.move j h (.sending b (recipients.erase fd))) := by
  have hnone : announcementsOf i (s.sockets.send b.msg fd result) = [] := by
    unfold Sockets.send
    split <;> rfl
  by_cases hij : j = i
  · subst hij
    have hannounced : announcedMsgs j (ts ++ [⟨s, .handler j (.send fd result),
        s.move j h (.sending b (recipients.erase fd)), s.sockets.send b.msg fd result⟩]) =
          announcedMsgs j ts := by
      rw [announcedMsgs_snoc, hnone, List.map_nil, List.append_nil]
    have hsent : sentTo j c (ts ++ [⟨s, .handler j (.send fd result),
        s.move j h (.sending b (recipients.erase fd)), s.sockets.send b.msg fd result⟩]) =
          sentTo j c ts ++ if s.sockets.connection? fd = some c then [b.msg] else [] := by
      simp [sentInStep, Sockets.messagesTo_send]
    by_cases hconn : s.sockets.connection? fd = some c
    · -- the connection has only this descriptor, so the broadcast does not come to it again
      obtain ⟨before, hbefore, hsub⟩ := ho.sending h b recipients hj hpoint (.inr ⟨fd, hfd, hconn⟩)
      refine ⟨?_, fun h' b' recipients' hi hpoint' hfresh => ?_⟩
      · rw [hannounced, hsent, if_pos hconn, hbefore]
        exact hsub.append (List.Sublist.refl _)
      · exfalso
        rw [ThreadedChat.move_self hj] at hi
        obtain rfl := Option.some.inj hi
        obtain ⟨rfl, rfl⟩ := HandlerPoint.sending.inj hpoint'
        rcases hfresh with hle | ⟨fd', hfd', hconn'⟩
        · exact absurd (s.sockets.lt_accepted fd c hconn) (Nat.not_lt.mpr hle)
        · obtain rfl := s.sockets.injective fd' fd c hconn' hconn
          have hnodup := hinv.pending_nodup j h hj
          rw [hpoint] at hnodup
          exact (List.Nodup.mem_erase_iff hnodup).mp hfd' |>.1 rfl
    · refine ⟨?_, fun h' b' recipients' hi hpoint' hfresh => ?_⟩
      · rw [hannounced, hsent, if_neg hconn, List.append_nil]
        exact ho.sublist
      · rw [ThreadedChat.move_self hj] at hi
        obtain rfl := Option.some.inj hi
        obtain ⟨rfl, rfl⟩ := HandlerPoint.sending.inj hpoint'
        rw [hannounced, hsent, if_neg hconn, List.append_nil]
        refine ho.sending h b recipients hj hpoint (hfresh.imp_right ?_)
        rintro ⟨fd', hfd', hopen⟩
        exact ⟨fd', List.mem_of_mem_erase hfd', hopen⟩
  · refine ho.frame ?_ hnone ?_ fun fds hfds => hfds
    · simp [sentInStep, hij]
    · intro h' b' recipients' hi _
      exact (ThreadedChat.move_ne h _ hij).symm.trans hi

/-- A step of a handler keeps the order. -/
lemma handler (ho : Ordered i c ts s) (hinv : ThreadedInvariant s) {j : ℕ}
    (hj : s.handlers[j]? = some h) (heffect : HandlerEffect s j h m s' out) :
    Ordered i c (ts ++ [⟨s, .handler j m, s', out⟩]) s' := by
  cases heffect with
  | snapshot hpoint => exact ho.snapshot hj _ _
  | send hpoint hfd => exact ho.send hinv hj hpoint hfd
  | register hpoint => exact ho.quiet hj rfl (by simp) rfl fun fd hconn => hconn
  | @broadcastDone b hpoint =>
    refine ho.quiet hj rfl ?_ rfl fun fd hconn => hconn
    cases b <;> simp [HandlerPoint.afterBroadcast]
  | said hpoint _ => exact ho.quiet hj rfl (by simp) rfl fun fd hconn => hconn
  | hungUp hpoint _ => exact ho.quiet hj rfl (by simp) rfl fun fd hconn => hconn
  | erase hpoint => exact ho.quiet hj rfl (by simp) rfl fun fd hconn => hconn
  | close hpoint =>
    exact ho.quiet hj rfl (by simp) rfl fun fd hconn => (Sockets.connection?_of_close hconn).2

/-- A step keeps the order. -/
lemma step (ho : Ordered i c ts s) (hinv : ThreadedInvariant s)
    (hstep : s.step d a = some (s', out)) : Ordered i c (ts ++ [⟨s, a, s', out⟩]) s' := by
  cases ThreadedChat.step_effect hstep with
  | refused => exact ho.frame rfl rfl (fun h b r hi _ => hi) fun fds hfds => hfds
  | started hj hpoint =>
    refine ho.frame rfl rfl ?_ fun fds hfds => hfds
    intro h' b recipients hi hsending
    rcases ThreadedChat.handlers_move hj hi with ⟨-, rfl⟩ | ⟨-, hi'⟩
    · cases hsending
    · exact hi'
  | handler hj heffect => exact ho.handler hinv hj heffect
  | @accepted fd addr sockets haccept =>
    obtain ⟨-, -, -, haccepted, -⟩ := Sockets.accept_spec haccept
    refine ho.frame rfl rfl ?_ ?_
    · intro h b recipients hi hsending
      rcases ThreadedChat.handlers_snoc hi with hi' | ⟨-, rfl⟩
      · exact hi'
      · cases hsending
    · rintro fds (hle | ⟨fd', hfd', hconn⟩)
      · have hle' : s.sockets.accepted + 1 ≤ c := haccepted ▸ hle
        exact .inl (Nat.le_of_succ_le hle')
      · by_cases hfd : fd' = fd
        · subst hfd
          have hc := Option.some.inj ((Sockets.connection?_accept_self haccept).symm.trans hconn)
          exact .inl (Nat.le_of_eq hc)
        · exact .inr ⟨fd', hfd', (Sockets.connection?_accept_ne haccept hfd).symm.trans hconn⟩

end Ordered

/-- The order holds in every run. -/
lemma ordered_of_run (hrun : (threadedChat d).Run ts s) (i c : ℕ) : Ordered i c ts s := by
  induction hrun with
  | start hinit =>
    obtain ⟨serverFd, rfl⟩ := hinit
    refine ⟨List.Sublist.refl _, fun h b recipients hi => ?_⟩
    cases hi
  | snoc hrun hstep ih => exact ih.step (threadedInvariant_of_reachable ⟨_, hrun⟩) hstep

/-! ### The words of a client -/

/-- The words in an announcement. -/
def Announcement.words : Announcement → List UInt8
  | said _ chunk => chunk
  | _ => []

/-- The chunk that a handler has received and not announced yet. -/
def HandlerPoint.unannounced : HandlerPoint → List UInt8
  | snapshot a => a.words
  | _ => []

/-- The chunk that the handler of a connection has received and not announced yet. -/
def ThreadedChat.unannounced (s : ThreadedChat) (i : ℕ) : List UInt8 :=
  match s.handlers[i]? with
  | some h => h.point.unannounced
  | none => []

/-- The words that a handler has announced. -/
def announcedWords (i : ℕ) (ts : List ThreadedTransition) : List UInt8 :=
  (announcementsOf i (observations ts)).flatMap Announcement.words

namespace ThreadedChat

/-- What is unannounced after a handler has moved. -/
lemma unannounced_of_move {j : ℕ} (hj : s.handlers[j]? = some h) {point : HandlerPoint}
    (hhandlers : s'.handlers = (s.move j h point).handlers) (i : ℕ) :
    s'.unannounced i = if j = i then point.unannounced else s.unannounced i := by
  unfold unannounced
  rw [hhandlers]
  by_cases hij : j = i
  · subst hij
    rw [move_self hj, if_pos rfl]
  · rw [move_ne h point hij, if_neg hij]

/-- A step of a handler that neither receives nor announces words. -/
lemma unannounced_quiet {j : ℕ} (hj : s.handlers[j]? = some h) {point : HandlerPoint}
    (hhandlers : s'.handlers = (s.move j h point).handlers)
    (hpoint : point.unannounced = h.point.unannounced) (i : ℕ) :
    s'.unannounced i = s.unannounced i := by
  rw [unannounced_of_move hj hhandlers]
  split
  · next hij =>
    subst hij
    rw [hpoint, unannounced, hj]
  · rfl

/-- Sending announces nothing. -/
lemma announcementsOf_send (sockets : Sockets) (msg : List UInt8) (fd : ℕ) (result : SendResult)
    (i : ℕ) : announcementsOf i (sockets.send msg fd result) = [] := by
  unfold Sockets.send
  split <;> rfl

/-- The words received in a step of the handler `j`. -/
lemma heardFrom_handler (hinv : ThreadedInvariant s) {j : ℕ} (hj : s.handlers[j]? = some h)
    (hpoint : h.point = .receive) (received : RecvResult) (i : ℕ) :
    heardFrom i (ChatSessionObservation.ofReceives
      ((threadedServer d).receives s (.handler j (.recv received)))) =
        match received with
        | .data chunk => if j = i then chunk else []
        | _ => [] := by
  have hopen := hinv.handler_open j h hj (by simp [hpoint])
  cases received <;> simp [threadedServer, hj, hopen, ChatSessionObservation.ofReceives, heardFrom,
    ChatSessionObservation.receivedFrom]

/-- A step that keeps what is unannounced, receives nothing and announces nothing. -/
lemma words_quiet (hsame : s'.unannounced i = s.unannounced i)
    (hheard : heardFrom i
      (ChatSessionObservation.ofReceives ((threadedServer d).receives s a)) = [])
    (hannounced : announcementsOf i out = []) :
    s.unannounced i ++
        heardFrom i (ChatSessionObservation.ofReceives ((threadedServer d).receives s a)) =
      (announcementsOf i out).flatMap Announcement.words ++ s'.unannounced i := by
  rw [hsame, hheard, hannounced, List.append_nil, List.flatMap_nil, List.nil_append]

/-- The words of a handler that moves are announced or kept. -/
lemma words_of_handler (hinv : ThreadedInvariant s) {j : ℕ} (hj : s.handlers[j]? = some h)
    (heffect : HandlerEffect s j h m s' out) (i : ℕ) :
    s.unannounced i ++ heardFrom i
        (ChatSessionObservation.ofReceives ((threadedServer d).receives s (.handler j m))) =
      (announcementsOf i out).flatMap Announcement.words ++ s'.unannounced i := by
  have hbefore : s.unannounced j = h.point.unannounced := by rw [unannounced, hj]
  cases heffect with
  | @snapshot b hpoint =>
    have hheard : heardFrom i (ChatSessionObservation.ofReceives
        ((threadedServer d).receives s (.handler j .snapshot))) = [] := rfl
    rw [unannounced_of_move hj rfl, hheard]
    by_cases hij : j = i
    · subst hij
      rw [if_pos rfl, hbefore, hpoint]
      simp [announcementsOf, HandlerPoint.unannounced]
    · rw [if_neg hij]
      simp [announcementsOf, hij]
  | @said chunk hpoint _ =>
    have hheard := heardFrom_handler (d := d) hinv hj hpoint (.data chunk) i
    simp only at hheard
    rw [hheard, unannounced_of_move hj rfl]
    by_cases hij : j = i
    · subst hij
      rw [if_pos rfl, if_pos rfl, hbefore, hpoint]
      rfl
    · rw [if_neg hij, if_neg hij]
      exact List.append_nil _
  | @hungUp received hpoint hreceived =>
    have hheard := heardFrom_handler (d := d) hinv hj hpoint received i
    refine words_quiet (unannounced_quiet hj rfl (by rw [hpoint]; rfl) i) (hheard.trans ?_) rfl
    cases received with
    | data chunk => exact absurd rfl (hreceived chunk)
    | _ => rfl
  | @send b recipients fd result hpoint hfd =>
    exact words_quiet (unannounced_quiet hj rfl (by rw [hpoint]; rfl) i) rfl
      (announcementsOf_send _ _ _ _ i)
  | register hpoint =>
    exact words_quiet (unannounced_quiet hj rfl (by rw [hpoint]; rfl) i) rfl rfl
  | @broadcastDone b hpoint =>
    exact words_quiet (unannounced_quiet hj rfl (by rw [hpoint]; cases b <;> rfl) i) rfl rfl
  | erase hpoint =>
    exact words_quiet (unannounced_quiet hj rfl (by rw [hpoint]; rfl) i) rfl rfl
  | close hpoint =>
    exact words_quiet (unannounced_quiet hj rfl (by rw [hpoint]; rfl) i) rfl rfl

/-- Words received are announced or kept. -/
lemma words_of_step (hinv : ThreadedInvariant s) (hstep : s.step d a = some (s', out)) (i : ℕ) :
    s.unannounced i ++
        heardFrom i (ChatSessionObservation.ofReceives ((threadedServer d).receives s a)) =
      (announcementsOf i out).flatMap Announcement.words ++ s'.unannounced i := by
  cases step_effect hstep with
  | refused => exact words_quiet rfl rfl rfl
  | started hj hpoint =>
    exact words_quiet (unannounced_quiet hj rfl (by rw [hpoint]; rfl) i) rfl rfl
  | handler hj heffect => exact words_of_handler hinv hj heffect i
  | accepted haccept =>
    refine words_quiet ?_ rfl rfl
    unfold unannounced
    rcases Nat.lt_trichotomy i s.handlers.length with hlt | rfl | hgt
    · rw [List.getElem?_append_left hlt]
    · rw [List.getElem?_concat_length, List.getElem?_eq_none (Nat.le_refl _)]
      rfl
    · rw [List.getElem?_eq_none (by simp; omega), List.getElem?_eq_none (Nat.le_of_lt hgt)]

end ThreadedChat

namespace ChatSession

variable {name : ℕ → List UInt8} {s : ChatSession ThreadedChat}
  {ts : List (Transition (ChatSession ThreadedChat) (ChatSessionAct ThreadedAction)
    ChatSessionObservation)}

/-- What the server has received from a client is what its handler has announced and keeps. -/
lemma heardFrom_eq (h : (system (threadedServer d) name).Run ts s) (i : ℕ) :
    heardFrom i (observations ts) =
      announcedWords i (ts.filterMap serverPart) ++ s.server.unannounced i := by
  rw [announcedWords, observations_server h]
  induction h with
  | start hinit =>
    obtain ⟨⟨serverFd, hserver⟩, -⟩ := hinit
    rw [hserver]
    rfl
  | @snoc ts s s' a out hrun hstep ih =>
    have hinv : ThreadedInvariant s.server := threadedInvariant_of_reachable (d := d)
      ((isParty_server (threadedServer d) name).reachable ⟨ts, hrun⟩)
    have hheard : heardFrom i (observations (ts ++ [⟨s, a, s', out⟩])) =
        heardFrom i (observations ts) ++ heardFrom i out := by
      simp only [heardFrom, observations_append, observations_singleton, List.flatMap_append]
    rw [hheard, ih]
    simp only [observations_append, observations_singleton, List.filterMap_append,
      announcementsOf_append, List.flatMap_append, List.append_assoc]
    congr 1
    cases a with
    | client c a =>
      obtain ⟨-, cout, -, -, hsame, -, -, -, rfl⟩ := step_client hstep
      rw [heardFrom_client, filterMap_server_client, hsame]
      exact List.append_nil _
    | server a =>
      obtain ⟨sout, -, hserver, -, -, -, rfl⟩ := step_server hstep
      rw [heardFrom_server, filterMap_server]
      exact ThreadedChat.words_of_step hinv hserver i

/-- **The words of a client stay in order.**  In every run of a threaded server with its clients,
whatever the handlers do side by side: what the handler of a client sends to a connection is a part
of what it announces, in order and without repetition; the words that it announces are the first
bytes that `send` of its client has taken, and all of them when nothing is on the way; and a client
shows the first bytes of what it is sent. -/
theorem threadedSession_ordered (h : (system (threadedServer d) name).Run ts s) (i : ℕ) :
    (∀ c, (sentTo i c (ts.filterMap serverPart)).Sublist
      (announcedMsgs i (ts.filterMap serverPart))) ∧
      announcedWords i (ts.filterMap serverPart) <+: takenFrom i (observations ts) ∧
      (s.toServer i = [] → s.server.unannounced i = [] →
        announcedWords i (ts.filterMap serverPart) = takenFrom i (observations ts)) ∧
      screenOf i (observations ts) <+: bytesTo i (observations (ts.filterMap serverPart)) := by
  have htaken := takenFrom_eq h i
  rw [heardFrom_eq h, List.append_assoc] at htaken
  refine ⟨fun c => ?_, ⟨_, htaken.symm⟩, fun hway hunannounced => ?_, ⟨_, (bytesTo_eq h i).symm⟩⟩
  · exact (ordered_of_run ((isParty_server (threadedServer d) name).run h) i c).sublist
  · rw [htaken, hway, hunannounced, List.append_nil, List.append_nil]

/-- Two clients come, and the message of the first one arrives in two chunks. -/
def twoChunks : List (ChatSessionAct ThreadedAction) :=
  [.server (.accept (some (4, ⟨(127, 0, 0, 1), 40000⟩))),
    .server (.accept (some (5, ⟨(127, 0, 0, 1), 40001⟩))), .server (.start 0),
    .server (.handler 0 .register), .server (.handler 0 .snapshot),
    .server (.handler 0 .broadcastDone), .server (.start 1), .server (.handler 1 .register),
    .server (.handler 1 .snapshot), .server (.handler 1 (.send 4 (.count 31))),
    .server (.handler 1 .broadcastDone), .client 0 .main, .client 0 (.line (bytesOf "hi")),
    .client 0 (.send 7), .server (.handler 0 (.recv (.data (bytesOf "al: ")))),
    .server (.handler 0 .snapshot), .server (.handler 0 (.send 5 (.count 22))),
    .server (.handler 0 .broadcastDone),
    .server (.handler 0 (.recv (.data (bytesOf "hi" ++ [10])))),
    .server (.handler 0 .snapshot), .server (.handler 0 (.send 5 (.count 21))),
    .server (.handler 0 .broadcastDone)]

/-- Both chunks reach the second client, and are all that `send` of the first one has taken. -/
theorem threadedSession_ordered_twoChunks :
    ∃ ts s, (system (threadedServer .threadPerClient) fun _ => bytesOf "al").Run ts s ∧
      (sentTo 0 1 (ts.filterMap serverPart)).length = 2 ∧
      announcedWords 0 (ts.filterMap serverPart) = takenFrom 0 (observations ts) ∧
      takenFrom 0 (observations ts) = bytesOf "al: hi" ++ [10] := by
  obtain ⟨ts, s, hrun, hsent, htaken, hway, hunannounced⟩ :=
    (system (threadedServer .threadPerClient) fun _ => bytesOf "al").exists_run twoChunks
      (fun ts s => (sentTo 0 1 (ts.filterMap serverPart)).length = 2 ∧
        takenFrom 0 (observations ts) = bytesOf "al: hi" ++ [10] ∧ s.toServer 0 = [] ∧
        s.server.unannounced 0 = [])
      (s := ⟨.start 3, fun _ => .initial, fun _ => [], fun _ => []⟩)
      ⟨⟨3, rfl⟩, rfl, rfl, rfl⟩ (by decide +kernel)
  obtain ⟨-, -, hall, -⟩ := threadedSession_ordered hrun 0
  exact ⟨ts, s, hrun, hsent, hall hway hunannounced, htaken⟩

end ChatSession

end SystemsDemos
