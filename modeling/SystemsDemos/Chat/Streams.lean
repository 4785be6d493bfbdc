import SystemsDemos.Chat.Epoll
import Mathlib.Data.List.Sublists

/-!
# What the clients of the epoll server receive

`send` on a non-blocking socket may take a part of a message, and the server neither looks at the
count nor keeps the rest.  As long as each call takes its message whole or not at all, the bytes a
client is sent are whole messages; after a short count the next message follows a truncated one.

### Outline

* `WholeMessages`, and `SendResult.isWhole` for the answers that keep it;
* `streams_whole_of_noShortSend` for every run, and a run in which a message is cut.
-/

namespace SystemsDemos

/-- The bytes taken for a connection are whole messages, out of those sent to it, in order. -/
def WholeMessages (c : ℕ) (out : List ChatObservation) : Prop :=
  ∃ msgs, List.Sublist msgs (messagesTo c out) ∧ bytesTo c out = msgs.flatten

/-- The socket takes the whole message or nothing of it. -/
def SendResult.isWhole (msg : List UInt8) : SendResult → Bool
  | count n => decide (n = 0 ∨ msg.length ≤ n)
  | _ => true

/-- The observation is not a `send` that takes a part of its message. -/
def ChatObservation.isUncut : ChatObservation → Bool
  | announced _ _ => true
  | sent _ msg result => result.isWhole msg

/-- What a whole answer takes. -/
lemma SendResult.taken_of_isWhole {msg : List UInt8} {r : SendResult} (h : r.isWhole msg) :
    r.taken msg = [] ∨ r.taken msg = msg := by
  cases r with
  | count n =>
    rcases of_decide_eq_true h with rfl | hle
    · exact .inl rfl
    · exact .inr (List.take_of_length_le hle)
  | again => exact .inl rfl
  | error => exact .inl rfl

/-- One more observation keeps the stream whole, if it is not a short `send`. -/
lemma WholeMessages.snoc {c : ℕ} {out : List ChatObservation} {o : ChatObservation}
    (h : WholeMessages c out) (ho : o.isUncut) : WholeMessages c (out ++ [o]) := by
  obtain ⟨msgs, hsub, hbytes⟩ := h
  unfold WholeMessages
  rw [messagesTo_append, bytesTo_append, hbytes]
  cases o with
  | announced conn a => exact ⟨msgs, by simpa using hsub, by simp⟩
  | sent conn msg result =>
    rw [messagesTo_singleton_sent, bytesTo_singleton_sent]
    by_cases hconn : conn = c
    · rw [if_pos hconn, if_pos hconn]
      rcases SendResult.taken_of_isWhole ho with hnone | hall
      · exact ⟨msgs, hsub.trans (List.sublist_append_left _ _), by rw [hnone, List.append_nil]⟩
      · refine ⟨msgs ++ [msg], hsub.append (List.Sublist.refl _), ?_⟩
        rw [hall, List.flatten_append, List.flatten_singleton]
    · rw [if_neg hconn, if_neg hconn, List.append_nil, List.append_nil]
      exact ⟨msgs, hsub, rfl⟩

/-- Without a short `send` the stream of a connection is whole messages. -/
lemma wholeMessages_of_isUncut (c : ℕ) {out : List ChatObservation}
    (h : ∀ o ∈ out, o.isUncut) : WholeMessages c out := by
  induction out using List.reverseRecOn with
  | nil => exact ⟨[], List.Sublist.refl _, rfl⟩
  | append_singleton out o ih =>
    have hbefore := ih fun o' ho' => h o' (List.mem_append_left _ ho')
    exact hbefore.snoc (h o (by simp))

/-- A message to the connection is cut in the middle and followed by bytes of another one. -/
def CutShort (c : ℕ) (out : List ChatObservation) : Prop :=
  ∃ before msg result between msg' result' after,
    out = before ++ .sent c msg result :: (between ++ .sent c msg' result' :: after) ∧
      result.taken msg ≠ [] ∧ result.taken msg ≠ msg ∧ result'.taken msg' ≠ []

/-- Without a short `send` no message is cut. -/
lemma not_cutShort_of_isUncut (c : ℕ) {out : List ChatObservation}
    (h : ∀ o ∈ out, o.isUncut) : ¬CutShort c out := by
  rintro ⟨before, msg, result, between, msg', result', after, rfl, hsome, hall, -⟩
  have hwhole : result.isWhole msg = true :=
    h (.sent c msg result) (List.mem_append_right _ List.mem_cons_self)
  rcases SendResult.taken_of_isWhole hwhole with hnone | hmsg
  · exact hsome hnone
  · exact hall hmsg

/-- What a short `send` takes. -/
lemma SendResult.taken_of_not_isWhole {msg : List UInt8} {r : SendResult}
    (h : r.isWhole msg ≠ true) : r.taken msg ≠ [] ∧ r.taken msg ≠ msg := by
  cases r with
  | count n =>
    simp only [SendResult.isWhole, decide_eq_true_eq, not_or, Nat.not_le, ne_eq] at h
    have hlength : (msg.take n).length = n := List.length_take_of_le (Nat.le_of_lt h.2)
    refine ⟨fun hnil => h.1 ?_, fun hmsg => Nat.lt_irrefl _ (h.2.trans_eq ?_)⟩
    · have hzero := congrArg List.length hnil
      exact hlength.symm.trans hzero
    · have hsame := congrArg List.length hmsg
      exact hsame.symm.trans hlength
  | again => exact (h rfl).elim
  | error => exact (h rfl).elim

/-! ### Runs of the epoll server -/

variable {s s' : EpollChat} {a : EpollAction} {out : List ChatObservation}
  {ts : List EpollTransition}

/-- No `send` of the step takes a part of its message. -/
def NoShortSend (t : EpollTransition) : Prop :=
  ∀ o ∈ t.out, o.isUncut

instance : DecidablePred NoShortSend := fun t => inferInstanceAs (Decidable (∀ o ∈ t.out, _))

/-- At every moment of the run the stream of every client is whole messages, and no message is cut
and followed by another one. -/
def StreamsWhole (ts : List EpollTransition) : Prop :=
  ∀ us, us <+: ts → ∀ c, WholeMessages c (observations us) ∧ ¬CutShort c (observations us)

/-- A connection that a step sends to is open after it. -/
lemma EpollInvariant.open_of_sent (h : EpollInvariant s) (hstep : s.step a = some (s', out))
    {c : ℕ} {msg : List UInt8} {result : SendResult} (hsent : .sent c msg result ∈ out) :
    ∃ fd, s'.sockets.connection? fd = some c := by
  have hopen : ∀ {sockets : Sockets} {conn : Option ℕ} {b : Announcement} {m : List UInt8}
      {sends : List (ℕ × SendResult)},
      .sent c msg result ∈ .announced conn b :: sockets.sendAll m sends →
        ∃ fd, sockets.connection? fd = some c := by
    intro sockets conn b m sends hmem
    rcases List.mem_cons.mp hmem with hmem | hmem
    · cases hmem
    · obtain ⟨-, fd, -, hconn⟩ := (sockets.sent_mem_sendAll m c).mp hmem
      exact ⟨fd, hconn⟩
  cases h.effect hstep with
  | wait _ _ _ => cases hsent
  | refused _ => cases hsent
  | again _ _ => cases hsent
  | joined _ _ _ => exact hopen hsent
  | said _ _ _ _ => exact hopen hsent
  | left _ _ _ _ _ => exact hopen hsent

/-- The rest of a batch can be handled without any effect. -/
lemma exists_drained (h : epollChat.Run ts s) :
    ∃ ws s', epollChat.Run (ts ++ ws) s' ∧ s'.ready = [] ∧ s'.sockets = s.sockets := by
  induction hready : s.ready generalizing ts s with
  | nil => exact ⟨[], s, by simpa using h, hready, rfl⟩
  | cons fd rest ih =>
    have hstep : ∃ a, s.step a = some ({ s with ready := rest }, []) := by
      by_cases hserver : fd = s.sockets.serverFd
      · refine ⟨.connect none [], ?_⟩
        simp only [EpollChat.step, hready, if_pos hserver, EpollChat.onConnect]
      · obtain ⟨c, peer, hconn, -⟩ := (epollInvariant_of_reachable ⟨ts, h⟩).client_of_ready
          (hready ▸ List.mem_cons_self) hserver
        refine ⟨.readable .again [], ?_⟩
        simp only [EpollChat.step, hready, if_neg hserver, EpollChat.onReadable, hconn]
        rfl
    obtain ⟨a, hstep⟩ := hstep
    have hrun : epollChat.Run (ts ++ [⟨s, a, { s with ready := rest }, []⟩])
      { s with ready := rest } := h.snoc hstep
    obtain ⟨ws, s', hrun', hready', hsockets⟩ := ih hrun rfl
    exact ⟨_, s', by simpa using hrun', hready', hsockets⟩

/-- The announcement of a new client has bytes. -/
lemma Announcement.msg_joined_ne_nil (peer : String) : (Announcement.joined peer).msg ≠ [] := by
  have hstart : bytes "*** " ≠ [] := by decide
  simp [Announcement.msg, hstart]

/-- When the batch has been handled, another client can join, and an open connection can
take the whole announcement. -/
lemma exists_joined (h : epollChat.Run ts s) (hready : s.ready = []) {fd c : ℕ}
    (hconn : s.sockets.connection? fd = some c) :
    ∃ ws s' msg, epollChat.Run (ts ++ ws) s' ∧ msg ≠ [] ∧
      .sent c msg (.count msg.length) ∈ observations ws := by
  have hinv := epollInvariant_of_reachable ⟨ts, h⟩
  obtain ⟨newFd, sockets, haccept⟩ := s.sockets.exists_accept
  obtain ⟨-, hfree, -, -, -⟩ := Sockets.accept_spec haccept
  have hne : fd ≠ newFd := by
    rintro rfl
    cases hfree.symm.trans hconn
  -- the batch is the listening socket alone
  have hwait : epollChat.step s (.wait [s.sockets.serverFd]) =
      some ({ s with ready := [s.sockets.serverFd] }, []) :=
    s.step_wait_singleton hready hinv.serverFd_mem
  -- every recipient takes the whole announcement
  set addr : PeerAddress := ⟨(127, 0, 0, 1), 0⟩
  set msg := (Announcement.joined addr.peer).msg
  set joined : EpollChat := ⟨sockets, insert newFd s.poller, s.clients.insert newFd addr.peer, []⟩
  set sends := (joined.recipients (some newFd)).map fun fd' => (fd', SendResult.count msg.length)
  have hconnect : epollChat.step { s with ready := [s.sockets.serverFd] }
      (.connect (some (newFd, addr)) sends) =
        some (joined, .announced (sockets.connection? newFd) (.joined addr.peer) ::
          sockets.sendAll msg sends) := by
    simp only [epollChat, EpollChat.step, if_true, EpollChat.onConnect, haccept]
    exact joined.broadcast_recipients _ (some newFd) (.joined addr.peer) (.count msg.length)
  have hmem : (fd, SendResult.count msg.length) ∈ sends := by
    refine List.mem_map.mpr ⟨fd, List.mem_filter.mpr ⟨?_, ?_⟩, rfl⟩
    · have hclient : fd ∈ s.clients := (hinv.clients_open fd).mpr ⟨c, hconn⟩
      rw [← AList.mem_keys, AList.mem_insert]
      exact .inr hclient
    · exact decide_eq_true fun heq => hne (Option.some.inj heq).symm
  have hrun := (h.snoc hwait).snoc hconnect
  rw [List.append_assoc] at hrun
  refine ⟨_, _, msg, hrun, Announcement.msg_joined_ne_nil _, ?_⟩
  rw [observations_append, observations_singleton, observations_singleton, List.nil_append]
  exact List.mem_cons_of_mem _ ((sockets.sent_mem_sendAll msg c).mpr
    ⟨rfl, fd, hmem, (Sockets.connection?_accept_ne haccept hne).trans hconn⟩)

/-- A further message can be sent to an open connection. -/
lemma exists_sent (h : epollChat.Run ts s) {fd c : ℕ} (hconn : s.sockets.connection? fd = some c) :
    ∃ ws s' msg, epollChat.Run (ts ++ ws) s' ∧ msg ≠ [] ∧
      .sent c msg (.count msg.length) ∈ observations ws := by
  obtain ⟨ws, s₁, hrun, hready, hsockets⟩ := exists_drained h
  obtain ⟨ws', s', msg, hrun', hmsg, hsent⟩ := exists_joined hrun hready (hsockets ▸ hconn)
  rw [List.append_assoc] at hrun'
  refine ⟨ws ++ ws', s', msg, hrun', hmsg, ?_⟩
  rw [observations_append]
  exact List.mem_append_right _ hsent

/-- A short `send` followed by another message cuts the first one. -/
lemma cutShort_of_sent {c : ℕ} {msg msg' : List UInt8} {result : SendResult}
    {out out' : List ChatObservation} (hsent : .sent c msg result ∈ out)
    (hshort : result.isWhole msg ≠ true) (hmsg' : msg' ≠ [])
    (hsent' : .sent c msg' (.count msg'.length) ∈ out') : CutShort c (out ++ out') := by
  obtain ⟨before, after, rfl⟩ := List.append_of_mem hsent
  obtain ⟨before', after', rfl⟩ := List.append_of_mem hsent'
  obtain ⟨hsome, hpart⟩ := SendResult.taken_of_not_isWhole hshort
  have htaken : (SendResult.count msg'.length).taken msg' = msg' := List.take_length
  exact ⟨before, msg, result, after ++ before', msg', _, after', by simp, hsome, hpart,
    htaken ▸ hmsg'⟩

/-- **Clients receive whole messages as long as no `send` is short.**  If a `send` is short in some
step, then the message can be followed by another one. -/
theorem streams_whole_of_noShortSend (h : epollChat.Run ts s) :
    ((∀ t ∈ ts, NoShortSend t) → StreamsWhole ts) ∧
      ∀ us t vs, ts = us ++ t :: vs → ¬NoShortSend t →
        ∃ ws s' c, epollChat.Run (us ++ t :: ws) s' ∧
          CutShort c (observations (us ++ t :: ws)) := by
  constructor
  · intro hwhole us hus c
    have huncut : ∀ o ∈ observations us, o.isUncut := by
      intro o ho
      obtain ⟨t, ht, hot⟩ := List.mem_flatMap.mp ho
      exact hwhole t (hus.subset ht) o hot
    exact ⟨wholeMessages_of_isUncut c huncut, not_cutShort_of_isUncut c huncut⟩
  · rintro us t vs rfl hshort
    obtain ⟨hpre, hvalid⟩ := h.split
    have hrun : epollChat.Run (us ++ [t]) t.post := hpre.snoc hvalid
    obtain ⟨o, hmem, hcut⟩ : ∃ o ∈ t.out, ¬o.isUncut := by
      simpa only [NoShortSend, not_forall, exists_prop] using hshort
    cases o with
    | announced conn b => exact (hcut rfl).elim
    | sent c msg result =>
      obtain ⟨fd, hconn⟩ := (epollInvariant_of_reachable ⟨us, hpre⟩).open_of_sent hvalid hmem
      obtain ⟨ws, s', msg', hrun', hmsg', hsent'⟩ := exists_sent hrun hconn
      rw [List.append_assoc, List.singleton_append] at hrun'
      refine ⟨ws, s', c, hrun', ?_⟩
      have hobs : observations (us ++ t :: ws) = observations us ++ t.out ++ observations ws := by
        rw [List.append_cons, observations_append, observations_append, observations_singleton]
      rw [hobs]
      exact cutShort_of_sent (List.mem_append_right _ hmem) hcut hmsg' hsent'

/-- A client whose socket is full gets nothing of one message and the next one whole. -/
def droppedMessage : List EpollAction :=
  [.wait [3], .connect (some (5, localPeer 40000)) [], .wait [3],
    .connect (some (6, localPeer 40001)) [(5, .again)], .wait [6],
    .readable (.data [104, 105]) [(5, .count 20)]]

/-- A dropped message leaves the stream whole. -/
theorem streams_whole_droppedMessage :
    ∃ ts s, epollChat.Run ts s ∧ ts.map Transition.act = droppedMessage ∧ StreamsWhole ts := by
  have hrun := System.run_of_exec epollChat droppedMessage ⟨3, rfl⟩ rfl
  exact ⟨_, _, hrun, rfl, (streams_whole_of_noShortSend hrun).1 (forall_of_all rfl)⟩

/-- The socket of the first client takes five bytes of a message, and then a whole one. -/
def cutMessage : List EpollAction :=
  [.wait [3], .connect (some (5, localPeer 40000)) [], .wait [3],
    .connect (some (6, localPeer 40001)) [(5, .count 5)], .wait [6],
    .readable (.data [104, 105]) [(5, .count 20)]]

/-- The first client receives a message that is cut after five bytes and followed by the next. -/
theorem streams_cutMessage :
    ∃ ts s, epollChat.Run ts s ∧ ts.map Transition.act = cutMessage ∧
      bytesTo 0 (observations ts) =
        (Announcement.joined (localPeer 40001).peer).msg.take 5 ++
          (Announcement.said (localPeer 40001).peer [104, 105]).msg ∧
      ¬StreamsWhole ts := by
  have hrun := System.run_of_exec epollChat cutMessage ⟨3, rfl⟩ rfl
  refine ⟨_, _, hrun, rfl, by decide, fun hwhole => ?_⟩
  obtain ⟨⟨msgs, hsub, hbytes⟩, -⟩ := hwhole _ (List.prefix_refl _) 0
  have hnone : ∀ msgs ∈ List.sublists
      [(Announcement.joined (localPeer 40001).peer).msg,
        (Announcement.said (localPeer 40001).peer [104, 105]).msg],
      (Announcement.joined (localPeer 40001).peer).msg.take 5 ++
        (Announcement.said (localPeer 40001).peer [104, 105]).msg ≠ msgs.flatten := by
    decide
  exact hnone msgs (List.mem_sublists.mpr hsub) hbytes

end SystemsDemos
