import SystemsDemos.Chat.Handlers
import SystemsDemos.Chat.Room

/-!
# The threaded servers are a chat room

When each event is processed to completion before the next, at most one handler is busy at a time.
What it still has to send is owed to the recipients; what has been sent and what is owed together
are what the room tells each connection.

### Outline

* `Sequential`, `ThreadedChat.owed` and `Follows`, kept by every step of a sequential run;
* `threadedChat_follows`: what is sent when everything has been processed.
-/

namespace SystemsDemos

variable {d : Dispatch} {s s' : ThreadedChat} {a : ThreadedAction} {out : List ChatObservation}
  {ts : List ThreadedTransition} {i : ℕ} {h : Handler} {m : HandlerMove}

/-- The handler has not received the end of its connection. -/
def HandlerPoint.present : HandlerPoint → Bool
  | snapshot (.left _) | sending (.left _) _ | erase | close | done => false
  | _ => true

/-- The event that an action brings. -/
def ThreadedAction.event? : ThreadedAction → Option ConnEvent
  | accept client => client.map fun p => .connect p.2
  | handler i (.recv (.data chunk)) => some (.chunk i chunk)
  | handler i (.recv _) => some (.disconnect i)
  | _ => none

/-- The events of a run. -/
def threadedEvents (ts : List ThreadedTransition) : List ConnEvent :=
  ts.filterMap fun t => t.act.event?

/-- Every handler waits in `recv` or is done. -/
def ThreadedChat.Settled (s : ThreadedChat) : Prop :=
  ∀ (i : ℕ) (h : Handler), s.handlers[i]? = some h → h.point = .receive ∨ h.point = .done

/-- Each event is processed to completion before the next one comes. -/
def Sequential (ts : List ThreadedTransition) : Prop :=
  ∀ t ∈ ts, t.act.event?.isSome → t.pre.Settled

/-- One more step. -/
lemma Sequential.snoc {ts : List ThreadedTransition} {t : ThreadedTransition} (h : Sequential ts)
    (hlast : t.act.event?.isSome → t.pre.Settled) : Sequential (ts ++ [t]) := by
  intro u hu
  rcases List.mem_append.mp hu with hu | hu
  · exact h u hu
  · obtain rfl := List.mem_singleton.mp hu
    exact hlast

/-- The announcement that a handler is making or about to make, with the recipients it has before
it. -/
def Handler.due (s : ThreadedChat) (h : Handler) : Option (Announcement × List ℕ) :=
  match h.point with
  | .queued | .register => some (.joined h.peer, s.recipients h.fd)
  | .snapshot a => some (a, s.recipients h.fd)
  | .sending a recipients => some (a, recipients)
  | .erase => some (.left h.peer, s.recipients h.fd)
  | .receive | .close | .done => none

/-- What a broadcast to the descriptors sends to a connection. -/
def Sockets.told (sockets : Sockets) (a : Announcement) (fds : List ℕ) (c : ℕ) :
    List (List UInt8) :=
  if ∃ fd ∈ fds, sockets.connection? fd = some c then [a.msg] else []

/-- What a handler still has to send to a connection. -/
def Handler.owed (s : ThreadedChat) (h : Handler) (c : ℕ) : List (List UInt8) :=
  match h.due s with
  | some (a, fds) => s.sockets.told a fds c
  | none => []

/-- What the handler of the connection `i` still has to send to a connection. -/
def ThreadedChat.owed (s : ThreadedChat) (i c : ℕ) : List (List UInt8) :=
  match s.handlers[i]? with
  | some h => h.owed s c
  | none => []

/-- The name of a connection whose end has not been received. -/
def ThreadedChat.member? (s : ThreadedChat) (c : ℕ) : Option String :=
  match s.handlers[c]? with
  | some h => if h.point.present then some h.peer else none
  | none => none

/-- The server follows the room `r`: only the handler `i` may be busy, and what has been sent
together with what that handler owes is what the room has told. -/
structure Follows (r : ChatRoom) (told sent : ℕ → List (List UInt8)) (s : ThreadedChat) (i : ℕ) :
    Prop where
  idle : ∀ (j : ℕ) (h : Handler), j ≠ i → s.handlers[j]? = some h →
    h.point = .receive ∨ h.point = .done
  length : r.length = s.handlers.length
  member : ∀ c, r.peer? c = s.member? c
  balance : ∀ c, sent c ++ s.owed i c = told c

namespace ThreadedChat

/-- What a handler that is known owes. -/
lemma owed_of_handler (hi : s.handlers[i]? = some h) (c : ℕ) : s.owed i c = h.owed s c := by
  rw [ThreadedChat.owed, hi]

/-- Nothing is owed when every handler is settled. -/
lemma owed_of_settled (hsettled : s.Settled) (i c : ℕ) : s.owed i c = [] := by
  unfold ThreadedChat.owed
  split
  · next h hi =>
    unfold Handler.owed Handler.due
    rcases hsettled i h hi with hpoint | hpoint <;> rw [hpoint]
  · rfl

/-- The members after a handler has moved. -/
lemma member?_of_move (hi : s.handlers[i]? = some h) {point : HandlerPoint}
    (hhandlers : s'.handlers = (s.move i h point).handlers) (c : ℕ) :
    s'.member? c =
      if c = i then (if point.present then some h.peer else none) else s.member? c := by
  unfold member?
  rw [hhandlers]
  by_cases hc : c = i
  · subst hc
    rw [move_self hi, if_pos rfl]
  · rw [move_ne h point (Ne.symm hc), if_neg hc]

end ThreadedChat

/-- Recipients with the same descriptors are told the same. -/
lemma Sockets.told_congr {sockets : Sockets} {a : Announcement} {fds fds' : List ℕ}
    (hfds : ∀ fd, fd ∈ fds ↔ fd ∈ fds') (c : ℕ) :
    sockets.told a fds c = sockets.told a fds' c := by
  simp only [Sockets.told, hfds]

/-- The first message of a broadcast, and the rest of it. -/
lemma Sockets.told_erase (sockets : Sockets) (a : Announcement) {fds : List ℕ} {fd : ℕ}
    (hnodup : fds.Nodup) (hfd : fd ∈ fds) (result : SendResult) (c : ℕ) :
    messagesTo c (sockets.send a.msg fd result) ++ sockets.told a (fds.erase fd) c =
      sockets.told a fds c := by
  rw [messagesTo_send, Sockets.told, Sockets.told]
  by_cases hc : sockets.connection? fd = some c
  · have hnone : ¬∃ fd' ∈ fds.erase fd, sockets.connection? fd' = some c := by
      rintro ⟨fd', hfd', hc'⟩
      exact (hnodup.mem_erase_iff.mp hfd').1 (sockets.injective fd' fd c hc' hc)
    rw [if_pos hc, if_neg hnone, if_pos ⟨fd, hfd, hc⟩, List.append_nil]
  · have hiff : (∃ fd' ∈ fds.erase fd, sockets.connection? fd' = some c) ↔
        ∃ fd' ∈ fds, sockets.connection? fd' = some c := by
      constructor
      · rintro ⟨fd', hfd', hc'⟩
        exact ⟨fd', List.mem_of_mem_erase hfd', hc'⟩
      · rintro ⟨fd', hfd', hc'⟩
        have hne : fd' ≠ fd := by
          rintro rfl
          exact hc hc'
        exact ⟨fd', (List.mem_erase_of_ne hne).mpr hfd', hc'⟩
    rw [if_neg hc, List.nil_append]
    simp only [hiff]

/-- The recipients of a broadcast are the clients except the sender. -/
lemma ThreadedChat.mem_recipients {fd senderFd : ℕ} :
    fd ∈ s.recipients senderFd ↔ fd ∈ s.clients ∧ fd ≠ senderFd := by
  simp [recipients, AList.mem_keys]

/-- What a handler with a known announcement owes. -/
lemma Handler.owed_of_due {a : Announcement} {fds : List ℕ} (hdue : h.due s = some (a, fds))
    (c : ℕ) : h.owed s c = s.sockets.told a fds c := by
  rw [Handler.owed, hdue]

/-- A handler with nothing to announce owes nothing. -/
lemma Handler.owed_of_due_none (hdue : h.due s = none) (c : ℕ) : h.owed s c = [] := by
  rw [Handler.owed, hdue]

/-- After the last recipient nothing is owed. -/
@[simp] lemma Sockets.told_nil (sockets : Sockets) (a : Announcement) (c : ℕ) :
    sockets.told a [] c = [] := by
  simp [Sockets.told]

namespace Follows

variable {r : ChatRoom} {told sent : ℕ → List (List UInt8)}

/-- A handler that is neither in `recv` nor done is the busy one. -/
lemma eq_busy (hf : Follows r told sent s i) {j : ℕ} (hj : s.handlers[j]? = some h)
    (hreceive : h.point ≠ .receive) (hdone : h.point ≠ .done) : j = i := by
  by_contra hne
  rcases hf.idle j h hne hj with hpoint | hpoint
  · exact hreceive hpoint
  · exact hdone hpoint

/-- A handler goes on from one point to another, and pays what it no longer owes. -/
lemma move (hf : Follows r told sent s i) {j : ℕ} (hj : s.handlers[j]? = some h)
    {before after : HandlerPoint} (hpoint : h.point = before) (hreceive : before ≠ .receive)
    (hdone : before ≠ .done) (hhandlers : s'.handlers = (s.move j h after).handlers)
    (hpresent : after.present = before.present)
    (howed : ∀ c, messagesTo c out ++ Handler.owed s' { h with point := after } c =
      Handler.owed s { h with point := before } c) :
    Follows r told (fun c => sent c ++ messagesTo c out) s' i := by
  subst hpoint
  obtain rfl := hf.eq_busy hj hreceive hdone
  refine ⟨?_, ?_, ?_, ?_⟩
  · intro k h' hk hk'
    rw [hhandlers, ThreadedChat.move_ne h after (Ne.symm hk)] at hk'
    exact hf.idle k h' hk hk'
  · rw [hhandlers, hf.length]
    simp [ThreadedChat.move]
  · intro c
    rw [ThreadedChat.member?_of_move hj hhandlers, hf.member]
    by_cases hc : c = j
    · subst hc
      rw [if_pos rfl, hpresent, ThreadedChat.member?, hj]
    · rw [if_neg hc]
  · intro c
    have hj' : s'.handlers[j]? = some { h with point := after } :=
      hhandlers ▸ ThreadedChat.move_self hj after
    rw [ThreadedChat.owed_of_handler hj', List.append_assoc, howed, ← hf.balance c,
      ThreadedChat.owed_of_handler hj]

/-- A handler begins to run. -/
lemma started (hf : Follows r told sent s i) {j : ℕ} (hj : s.handlers[j]? = some h)
    (hpoint : h.point = .queued) :
    Follows r told (fun c => sent c ++ messagesTo c []) (s.move j h .register) i :=
  hf.move hj hpoint (by simp) (by simp) rfl rfl fun _ => rfl

/-- A step of a handler that brings no event. -/
lemma handler (hf : Follows r told sent s i) (hinv : ThreadedInvariant s) {j : ℕ}
    (hj : s.handlers[j]? = some h) (heffect : HandlerEffect s j h m s' out)
    (hquiet : (ThreadedAction.handler j m).event? = none) :
    Follows r told (fun c => sent c ++ messagesTo c out) s' i := by
  cases heffect with
  | register hpoint =>
    refine hf.move hj hpoint (by simp) (by simp) rfl rfl fun c => ?_
    rw [messagesTo_nil, List.nil_append, Handler.owed_of_due rfl, Handler.owed_of_due rfl]
    refine Sockets.told_congr (fun fd => ?_) c
    simp only [ThreadedChat.mem_recipients, AList.mem_insert]
    constructor
    · rintro ⟨rfl | hfd, hne⟩
      · exact (hne rfl).elim
      · exact ⟨hfd, hne⟩
    · exact fun hfd => ⟨.inr hfd.1, hfd.2⟩
  | @snapshot a hpoint =>
    exact hf.move hj hpoint (by simp) (by simp) rfl (by cases a <;> rfl) fun _ => rfl
  | @send a recipients fd result hpoint hfd =>
    refine hf.move hj hpoint (by simp) (by simp) rfl (by cases a <;> rfl) fun c => ?_
    have hnodup := hinv.pending_nodup j h hj
    rw [hpoint] at hnodup
    rw [Handler.owed_of_due rfl, Handler.owed_of_due rfl]
    exact s.sockets.told_erase a hnodup hfd result c
  | @broadcastDone a hpoint =>
    refine hf.move hj hpoint (by simp) (by simp) rfl (by cases a <;> rfl) fun c => ?_
    rw [Handler.owed_of_due (h := { h with point := .sending a [] }) rfl, Sockets.told_nil,
      messagesTo_nil, List.nil_append]
    exact Handler.owed_of_due_none (by cases a <;> rfl) c
  | said _ _ => cases hquiet
  | @hungUp received _ hreceived =>
    cases received with
    | data chunk => exact (hreceived chunk rfl).elim
    | closed => cases hquiet
    | again => cases hquiet
    | error => cases hquiet
  | erase hpoint =>
    refine hf.move hj hpoint (by simp) (by simp) rfl rfl fun c => ?_
    rw [messagesTo_nil, List.nil_append, Handler.owed_of_due rfl, Handler.owed_of_due rfl]
    refine Sockets.told_congr (fun fd => ?_) c
    simp only [ThreadedChat.mem_recipients, AList.mem_erase]
    exact ⟨fun hfd => ⟨hfd.1.2, hfd.2⟩, fun hfd => ⟨⟨hfd.2, hfd.1⟩, hfd.2⟩⟩
  | close hpoint => exact hf.move hj hpoint (by simp) (by simp) rfl rfl fun _ => rfl

/-- When every handler is settled, the members of the room are the connections of the clients. -/
lemma isSome_iff (hf : Follows r told sent s i) (hinv : ThreadedInvariant s)
    (hsettled : s.Settled) (c : ℕ) :
    (r.peer? c).isSome ↔ ∃ fd ∈ s.clients, s.sockets.connection? fd = some c := by
  rw [hf.member, ThreadedChat.member?]
  constructor
  · intro hsome
    split at hsome
    · next h hc =>
      split at hsome
      · next hpresent =>
        rcases hsettled c h hc with hpoint | hpoint
        · have hdone : h.point ≠ .done := by simp [hpoint]
          refine ⟨h.fd, (hinv.fd_mem_clients hc hdone).mpr ?_, hinv.handler_open c h hc hdone⟩
          rw [hpoint]
          rfl
        · rw [hpoint] at hpresent
          cases hpresent
      · cases hsome
    · cases hsome
  · rintro ⟨fd, -, hconn⟩
    obtain ⟨h, hc, -, hdone⟩ := hinv.open_handler fd c hconn
    rw [hc]
    rcases hsettled c h hc with hpoint | hpoint
    · simp [hpoint, HandlerPoint.present]
    · exact (hdone hpoint).elim

/-- The recipients of a handler in `recv` are the connections that hear an event about it. -/
lemma recipients_hear (hf : Follows r told sent s i) (hinv : ThreadedInvariant s)
    (hsettled : s.Settled) {j : ℕ} (hj : s.handlers[j]? = some h) (hpoint : h.point = .receive)
    {e : ConnEvent} (he : ChatRoom.origin e = some j) (c : ℕ) :
    (∃ fd ∈ s.recipients h.fd, s.sockets.connection? fd = some c) ↔ r.hears e c := by
  have hopen : s.sockets.connection? h.fd = some j :=
    hinv.handler_open j h hj (by simp [hpoint])
  simp only [ChatRoom.hears, he, Bool.and_eq_true, decide_eq_true_eq, ne_eq, Option.some.injEq,
    hf.isSome_iff hinv hsettled, ThreadedChat.mem_recipients]
  constructor
  · rintro ⟨fd, ⟨hfd, hne⟩, hconn⟩
    refine ⟨⟨fd, hfd, hconn⟩, ?_⟩
    rintro rfl
    exact hne (s.sockets.injective fd h.fd j hconn hopen)
  · rintro ⟨⟨fd, hfd, hconn⟩, hne⟩
    refine ⟨fd, ⟨hfd, ?_⟩, hconn⟩
    rintro rfl
    exact hne (Option.some.inj (hopen.symm.trans hconn))

/-- An event makes its handler the busy one. -/
lemma event (hf : Follows r told sent s i) (hsettled : s.Settled) {e : ConnEvent} {j : ℕ}
    (hidle : ∀ (k : ℕ) (h : Handler), k ≠ j → s'.handlers[k]? = some h →
      h.point = .receive ∨ h.point = .done)
    (hlength : (r.apply e).length = s'.handlers.length)
    (hmember : ∀ c, (r.apply e).peer? c = s'.member? c)
    (howed : ∀ c, s'.owed j c = r.deliver e c) :
    Follows (r.apply e) (fun c => told c ++ r.deliver e c) (fun c => sent c ++ messagesTo c [])
      s' j where
  idle := hidle
  length := hlength
  member := hmember
  balance c := by
    have hall := hf.balance c
    rw [ThreadedChat.owed_of_settled hsettled, List.append_nil] at hall
    rw [messagesTo_nil, List.append_nil, howed, hall]

/-- A connection is handed over while every handler is settled. -/
lemma accepted (hf : Follows r told sent s i) (hinv : ThreadedInvariant s)
    (hsettled : s.Settled) {fd : ℕ} {addr : PeerAddress} {sockets : Sockets}
    (haccept : s.sockets.accept fd = some sockets) :
    Follows (r.apply (.connect addr)) (fun c => told c ++ r.deliver (.connect addr) c)
      (fun c => sent c ++ messagesTo c [])
      ⟨sockets, s.clients, s.handlers ++ [⟨fd, addr.peer, .queued⟩]⟩ s.handlers.length := by
  obtain ⟨-, hfree, -, -, -⟩ := Sockets.accept_spec haccept
  have hnew : fd ∉ s.clients := by
    intro hmem
    obtain ⟨j, h, hj, rfl, hreg⟩ := (hinv.client_iff fd).mp hmem
    have hopen := hinv.handler_open j h hj (HandlerPoint.ne_done_of_registered hreg)
    cases hfree.symm.trans hopen
  refine hf.event hsettled ?_ ?_ ?_ ?_
  · intro k h hk hh
    rcases ThreadedChat.handlers_snoc hh with hh' | ⟨rfl, -⟩
    · exact hsettled k h hh'
    · exact (hk rfl).elim
  · simp [ChatRoom.apply, hf.length]
  · intro c
    rw [ChatRoom.peer?_connect, hf.length, hf.member]
    unfold ThreadedChat.member?
    by_cases hc : c = s.handlers.length
    · subst hc
      rw [if_pos rfl, List.getElem?_concat_length]
      rfl
    · rw [if_neg hc]
      by_cases hlt : c < s.handlers.length
      · rw [List.getElem?_append_left hlt]
      · rw [List.getElem?_eq_none (by omega), List.getElem?_eq_none (by simp; omega)]
  · intro c
    rw [ThreadedChat.owed_of_handler (h := ⟨fd, addr.peer, .queued⟩)
      (by simp only [List.getElem?_concat_length]), Handler.owed_of_due rfl,
      ChatRoom.deliver_of_announcement rfl, Sockets.told]
    simp only [ChatRoom.hears, ChatRoom.origin, hf.isSome_iff hinv hsettled, Bool.and_eq_true]
    refine if_congr ?_ rfl rfl
    constructor
    · rintro ⟨fd', hfd', hconn⟩
      obtain ⟨hmem, hne⟩ := ThreadedChat.mem_recipients.mp hfd'
      exact ⟨⟨fd', hmem, (Sockets.connection?_accept_ne haccept hne).symm.trans hconn⟩, by simp⟩
    · rintro ⟨⟨fd', hmem, hconn⟩, -⟩
      have hne : fd' ≠ fd := fun heq => hnew (heq ▸ hmem)
      exact ⟨fd', ThreadedChat.mem_recipients.mpr ⟨hmem, hne⟩,
        (Sockets.connection?_accept_ne haccept hne).trans hconn⟩

/-- A handler receives something while every handler is settled. -/
lemma received (hf : Follows r told sent s i) (hinv : ThreadedInvariant s)
    (hsettled : s.Settled) {j : ℕ} (hj : s.handlers[j]? = some h) (hpoint : h.point = .receive)
    {e : ConnEvent} {a : Announcement} {point : HandlerPoint}
    (he : ChatRoom.origin e = some j) (hlength : (r.apply e).length = r.length)
    (hpeer : ∀ c, (r.apply e).peer? c =
      if c = j then (if point.present then some h.peer else none) else r.peer? c)
    (ha : r.announcement e = some a)
    (hdue : Handler.due (s.move j h point) { h with point := point } =
      some (a, s.recipients h.fd)) :
    Follows (r.apply e) (fun c => told c ++ r.deliver e c) (fun c => sent c ++ messagesTo c [])
      (s.move j h point) j := by
  refine hf.event hsettled ?_ ?_ ?_ ?_
  · intro k h' hk hh
    exact hsettled k h' ((ThreadedChat.move_ne h point (Ne.symm hk)).symm.trans hh)
  · rw [hlength, hf.length]
    simp [ThreadedChat.move]
  · intro c
    rw [hpeer, ThreadedChat.member?_of_move hj rfl, hf.member]
  · intro c
    rw [ThreadedChat.owed_of_handler (ThreadedChat.move_self hj point), Handler.owed_of_due hdue,
      ChatRoom.deliver_of_announcement ha, Sockets.told]
    exact if_congr (hf.recipients_hear hinv hsettled hj hpoint he c) rfl rfl

/-- What a step does to the room: the event that it brings, if there is one, while every handler
is settled. -/
lemma step (hf : Follows r told sent s i) (hinv : ThreadedInvariant s)
    (hstep : s.step d a = some (s', out)) (hsettled : a.event?.isSome → s.Settled) :
    (a.event? = none ∧ Follows r told (fun c => sent c ++ messagesTo c out) s' i) ∨
      ∃ e j, a.event? = some e ∧ Follows (r.apply e) (fun c => told c ++ r.deliver e c)
        (fun c => sent c ++ messagesTo c out) s' j := by
  have hpeer : ∀ {j : ℕ} {h : Handler}, s.handlers[j]? = some h → h.point = .receive →
      r.peer? j = some h.peer := by
    intro j h hj hpoint
    rw [hf.member, ThreadedChat.member?, hj]
    simp [hpoint, HandlerPoint.present]
  cases ThreadedChat.step_effect hstep with
  | refused => exact .inl ⟨rfl, by simpa using hf⟩
  | accepted haccept => exact .inr ⟨_, _, rfl, hf.accepted hinv (hsettled rfl) haccept⟩
  | started hi hpoint => exact .inl ⟨rfl, hf.started hi hpoint⟩
  | @handler j h m _ _ hj heffect =>
    by_cases hquiet : (ThreadedAction.handler j m).event? = none
    · exact .inl ⟨hquiet, hf.handler hinv hj heffect hquiet⟩
    · have hall : s.Settled := hsettled (Option.isSome_iff_ne_none.mpr hquiet)
      cases heffect with
      | @said chunk hpoint hpossible =>
        refine .inr ⟨.chunk j chunk, j, rfl, hf.received hinv hall hj hpoint rfl rfl ?_ ?_ rfl⟩
        · intro c
          by_cases hc : c = j
          · subst hc
            rw [if_pos rfl]
            exact hpeer hj hpoint
          · rw [if_neg hc]
            rfl
        · rw [ChatRoom.announcement, hpeer hj hpoint, Option.map_some]
      | @hungUp result hpoint hreceived =>
        have hevent : (ThreadedAction.handler j (.recv result)).event? = some (.disconnect j) := by
          cases result with
          | data chunk => exact (hreceived chunk rfl).elim
          | closed => rfl
          | again => rfl
          | error => rfl
        refine .inr ⟨.disconnect j, j, hevent, hf.received hinv hall hj hpoint rfl ?_ ?_ ?_ rfl⟩
        · simp [ChatRoom.apply]
        · intro c
          rw [ChatRoom.peer?_disconnect]
          rfl
        · rw [ChatRoom.announcement, hpeer hj hpoint, Option.map_some]
      | register _ => exact (hquiet rfl).elim
      | snapshot _ => exact (hquiet rfl).elim
      | send _ _ => exact (hquiet rfl).elim
      | broadcastDone _ => exact (hquiet rfl).elim
      | erase _ => exact (hquiet rfl).elim
      | close _ => exact (hquiet rfl).elim

end Follows

/-- Every sequential run follows the room that its events make. -/
theorem follows_of_sequential (h : (threadedChat d).Run ts s) (hseq : Sequential ts) :
    ∃ i, Follows (ChatRoom.applyAll [] (threadedEvents ts))
      (fun c => ChatRoom.transcript c [] (threadedEvents ts))
      (fun c => messagesTo c (observations ts)) s i := by
  induction h with
  | start hinit =>
    obtain ⟨serverFd, rfl⟩ := hinit
    refine ⟨0, fun j h _ hj => ?_, rfl, fun c => rfl, fun c => rfl⟩
    cases hj
  | @snoc ts s s' a out hrun hstep ih =>
    obtain ⟨i, hf⟩ := ih fun t ht => hseq t (List.mem_append_left _ ht)
    have hinv : ThreadedInvariant s := threadedInvariant_of_reachable ⟨ts, hrun⟩
    have hsettled : a.event?.isSome → s.Settled := hseq ⟨s, a, s', out⟩ (by simp)
    rw [threadedEvents, List.filterMap_append, ← threadedEvents]
    simp only [observations_append, observations_singleton, messagesTo_append]
    rcases hf.step hinv hstep hsettled with ⟨hevent, hf'⟩ | ⟨e, j, hevent, hf'⟩
    · exact ⟨i, by simpa [hevent] using hf'⟩
    · exact ⟨j, by simpa [hevent, ChatRoom.transcript_snoc] using hf'⟩

/-- When everything has been processed, each connection has been sent what the room has told
it. -/
theorem threadedChat_follows (h : (threadedChat d).Run ts s) (hseq : Sequential ts)
    (hsettled : s.Settled) (c : ℕ) :
    messagesTo c (observations ts) = ChatRoom.transcript c [] (threadedEvents ts) := by
  obtain ⟨i, hf⟩ := follows_of_sequential h hseq
  have hall := hf.balance c
  rwa [ThreadedChat.owed_of_settled hsettled, List.append_nil] at hall

end SystemsDemos
