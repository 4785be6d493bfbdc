import SystemsDemos.Chat.EpollRoom
import SystemsDemos.Chat.ThreadedRoom

/-!
# Both chat servers are the same chat

The epoll server registers, erases and broadcasts in its callbacks, the threaded server in the
handlers of its connections.  Both are the chat room, so each connection is sent the same messages
by both, whatever descriptors the connections get and in whatever order the broadcasts go through
their recipients.

### Outline

* `SequentialRun`, and how a handler of the threaded server processes an event
  (`threadedChat_realizes`);
* `chats_agree`.
-/

namespace SystemsDemos

variable {s s' : ThreadedChat} {a : ThreadedAction} {out : List ChatObservation}
  {evs : List ConnEvent} {i : ℕ} {h : Handler}

/-! ### Processing an event to completion -/

/-- The thread-per-client server reaches the state by processing the events one after the other;
the last one may still be in progress. -/
def SequentialRun (evs : List ConnEvent) (s : ThreadedChat) : Prop :=
  ∃ ts, (threadedChat .threadPerClient).Run ts s ∧ Sequential ts ∧ threadedEvents ts = evs

namespace SequentialRun

/-- A step that brings no event. -/
lemma quiet (hrun : SequentialRun evs s) (hstep : s.step .threadPerClient a = some (s', out))
    (hevent : a.event? = none) : SequentialRun evs s' := by
  obtain ⟨ts, hts, hseq, rfl⟩ := hrun
  have hts' : (threadedChat .threadPerClient).Run (ts ++ [⟨s, a, s', out⟩]) s' := hts.snoc hstep
  refine ⟨_, hts', hseq.snoc fun hsome => ?_, by simp [threadedEvents, hevent]⟩
  rw [hevent] at hsome
  cases hsome

/-- A step that brings an event, when every handler is settled. -/
lemma event (hrun : SequentialRun evs s) (hsettled : s.Settled)
    (hstep : s.step .threadPerClient a = some (s', out)) {e : ConnEvent}
    (hevent : a.event? = some e) : SequentialRun (evs ++ [e]) s' := by
  obtain ⟨ts, hts, hseq, rfl⟩ := hrun
  have hts' : (threadedChat .threadPerClient).Run (ts ++ [⟨s, a, s', out⟩]) s' := hts.snoc hstep
  exact ⟨_, hts', hseq.snoc fun _ => hsettled, by simp [threadedEvents, hevent]⟩

/-- A step of a handler that brings no event. -/
lemma handler (hrun : SequentialRun evs s) (hi : s.handlers[i]? = some h) {m : HandlerMove}
    (hstep : s.stepHandler i h m = some (s', out))
    (hevent : (ThreadedAction.handler i m).event? = none) : SequentialRun evs s' := by
  have hstep' : s.step .threadPerClient (.handler i m) = some (s', out) := by
    simpa only [ThreadedChat.step, hi] using hstep
  exact hrun.quiet hstep' hevent

end SequentialRun

/-- The handler `i` goes from `h` to another point, without another event, and the other handlers
stay where they are. -/
def Proceeds (evs : List ConnEvent) (s : ThreadedChat) (i : ℕ) (h : Handler)
    (point : HandlerPoint) : Prop :=
  ∃ s', SequentialRun evs s' ∧ s'.handlers[i]? = some { h with point := point } ∧
    ∀ j ≠ i, s'.handlers[j]? = s.handlers[j]?

namespace Proceeds

/-- A step of the handler takes it to the point. -/
lemma single (hrun : SequentialRun evs s) (hi : s.handlers[i]? = some h) {m : HandlerMove}
    {point : HandlerPoint} (hstep : s.stepHandler i h m = some (s', out))
    (hevent : (ThreadedAction.handler i m).event? = none)
    (hhandlers : s'.handlers = (s.move i h point).handlers) : Proceeds evs s i h point := by
  refine ⟨s', hrun.handler hi hstep hevent, ?_, fun j hj => ?_⟩
  · rw [hhandlers, ThreadedChat.move_self hi]
  · rw [hhandlers, ThreadedChat.move_ne h point (Ne.symm hj)]

/-- The handler goes on from the point that it has reached. -/
lemma next {point point' : HandlerPoint} (hp : Proceeds evs s i h point)
    (hnext : ∀ s', SequentialRun evs s' → s'.handlers[i]? = some { h with point := point } →
      Proceeds evs s' i { h with point := point } point') : Proceeds evs s i h point' := by
  obtain ⟨s₁, hrun, hi, hother⟩ := hp
  obtain ⟨s₂, hrun', hi', hother'⟩ := hnext s₁ hrun hi
  exact ⟨s₂, hrun', hi', fun j hj => (hother' j hj).trans (hother j hj)⟩

/-- A broadcast comes to its end. -/
lemma sending {a : Announcement} {recipients : List ℕ} (hrun : SequentialRun evs s)
    (hi : s.handlers[i]? = some h) (hpoint : h.point = .sending a recipients) :
    Proceeds evs s i h (.afterBroadcast a) := by
  induction recipients generalizing s h with
  | nil =>
    have hstep : s.stepHandler i h .broadcastDone = some (s.move i h (.afterBroadcast a), []) := by
      simp only [ThreadedChat.stepHandler, hpoint]
    exact single hrun hi hstep rfl rfl
  | cons fd recipients ih =>
    have hstep : s.stepHandler i h (.send fd .error) =
        some (s.move i h (.sending a recipients), s.sockets.send a.msg fd .error) := by
      simp only [ThreadedChat.stepHandler, hpoint, List.mem_cons_self, if_true,
        List.erase_cons_head]
    have hsend : Proceeds evs s i h (.sending a recipients) := single hrun hi hstep rfl rfl
    exact hsend.next fun s' hrun' hi' => ih hrun' hi' rfl

/-- A broadcast is made. -/
lemma snapshot {a : Announcement} (hrun : SequentialRun evs s) (hi : s.handlers[i]? = some h)
    (hpoint : h.point = .snapshot a) : Proceeds evs s i h (.afterBroadcast a) := by
  have hstep : s.stepHandler i h .snapshot =
      some (s.move i h (.sending a (s.recipients h.fd)), [.announced (some i) a]) := by
    simp only [ThreadedChat.stepHandler, hpoint]
  have hsnapshot : Proceeds evs s i h (.sending a (s.recipients h.fd)) :=
    single hrun hi hstep rfl rfl
  exact hsnapshot.next fun s' hrun' hi' => sending hrun' hi' rfl

/-- A new handler comes to `recv`. -/
lemma queued (hrun : SequentialRun evs s) (hi : s.handlers[i]? = some h)
    (hpoint : h.point = .queued) : Proceeds evs s i h .receive := by
  have hstart : Proceeds evs s i h .register := by
    have hstep : s.step .threadPerClient (.start i) = some (s.move i h .register, []) := by
      simp [ThreadedChat.step, hi, hpoint, Dispatch.canStart]
    exact ⟨_, hrun.quiet hstep rfl, ThreadedChat.move_self hi _,
      fun j hj => ThreadedChat.move_ne h _ (Ne.symm hj)⟩
  refine hstart.next fun s₁ hrun₁ hi₁ => ?_
  have hregister : Proceeds evs s₁ i { h with point := .register } (.snapshot (.joined h.peer)) :=
    single (m := .register) hrun₁ hi₁ rfl rfl rfl
  exact hregister.next fun s₂ hrun₂ hi₂ => snapshot hrun₂ hi₂ rfl

/-- A handler that has received the end of its connection comes to its own end. -/
lemma erase (hrun : SequentialRun evs s) (hi : s.handlers[i]? = some h)
    (hpoint : h.point = .erase) : Proceeds evs s i h .done := by
  have hstep : s.stepHandler i h .erase =
      some ({ s.move i h (.snapshot (.left h.peer)) with
        clients := s.clients.erase h.fd }, []) := by
    simp only [ThreadedChat.stepHandler, hpoint]
  have herase : Proceeds evs s i h (.snapshot (.left h.peer)) := single hrun hi hstep rfl rfl
  have hclose : Proceeds evs s i h .close :=
    herase.next fun s₁ hrun₁ hi₁ => snapshot hrun₁ hi₁ rfl
  exact hclose.next fun s₂ hrun₂ hi₂ => single (m := .close) hrun₂ hi₂ rfl rfl rfl

/-- When the handler has come to `recv` or to its end, every handler is settled. -/
lemma settled {point : HandlerPoint} (hp : Proceeds evs s i h point)
    (hpoint : point = .receive ∨ point = .done)
    (hother : ∀ (j : ℕ) (h' : Handler), j ≠ i → s.handlers[j]? = some h' →
      h'.point = .receive ∨ h'.point = .done) :
    ∃ s', SequentialRun evs s' ∧ s'.Settled := by
  obtain ⟨s', hrun, hi, hsame⟩ := hp
  refine ⟨s', hrun, fun j h' hj => ?_⟩
  by_cases hji : j = i
  · subst hji
    obtain rfl := Option.some.inj (hi.symm.trans hj)
    exact hpoint
  · exact hother j h' hji ((hsame j hji).symm.trans hj)

end Proceeds

namespace SequentialRun

/-- When every handler is settled, a member of the room has a handler in `recv`. -/
lemma receiving (hrun : SequentialRun evs s) (hsettled : s.Settled) {c : ℕ}
    (hc : ((ChatRoom.applyAll [] evs).peer? c).isSome) :
    ∃ h : Handler, s.handlers[c]? = some h ∧ h.point = .receive ∧
      s.sockets.connection? h.fd = some c := by
  obtain ⟨ts, hts, hseq, rfl⟩ := hrun
  obtain ⟨i, hfollows⟩ := follows_of_sequential hts hseq
  have hinv : ThreadedInvariant s := threadedInvariant_of_reachable ⟨ts, hts⟩
  obtain ⟨fd, -, hconn⟩ := (hfollows.isSome_iff hinv hsettled c).mp hc
  obtain ⟨h, hh, rfl, hdone⟩ := hinv.open_handler fd c hconn
  exact ⟨h, hh, (hsettled c h hh).resolve_right hdone, hconn⟩

/-- When every handler is settled, any event that the room allows can come and be processed to
completion. -/
lemma process (hrun : SequentialRun evs s) (hsettled : s.Settled) {e : ConnEvent}
    (he : (ChatRoom.applyAll [] evs).allows e) :
    ∃ s', SequentialRun (evs ++ [e]) s' ∧ s'.Settled := by
  have hother : ∀ {c : ℕ} {h : Handler} (point : HandlerPoint) (j : ℕ) (h' : Handler), j ≠ c →
      (s.move c h point).handlers[j]? = some h' → h'.point = .receive ∨ h'.point = .done := by
    intro c h point j h' hj hh
    exact hsettled j h' ((ThreadedChat.move_ne h point (Ne.symm hj)).symm.trans hh)
  cases e with
  | connect addr =>
    obtain ⟨fd, sockets, haccept⟩ := s.sockets.exists_accept
    have hstep : s.step .threadPerClient (.accept (some (fd, addr))) =
        some (⟨sockets, s.clients, s.handlers ++ [⟨fd, addr.peer, .queued⟩]⟩, []) := by
      simp only [ThreadedChat.step, haccept]
    have hrun' := hrun.event hsettled hstep rfl
    have hnew := Proceeds.queued hrun' List.getElem?_concat_length rfl
    refine hnew.settled (.inl rfl) fun j h' hj hh => ?_
    rcases ThreadedChat.handlers_snoc hh with hh' | ⟨rfl, -⟩
    · exact hsettled j h' hh'
    · exact (hj rfl).elim
  | chunk c bytes =>
    rw [ChatRoom.allows, Bool.and_eq_true] at he
    obtain ⟨h, hh, hpoint, hconn⟩ := hrun.receiving hsettled he.1
    have hpossible : (RecvResult.data bytes).possible (some c) = true := he.2
    have hstep : s.step .threadPerClient (.handler c (.recv (.data bytes))) =
        some (s.move c h (.snapshot (.said h.peer bytes)), []) := by
      simp only [ThreadedChat.step, hh, ThreadedChat.stepHandler, hpoint, hconn, hpossible, if_true]
    have hrun' := hrun.event hsettled hstep rfl
    have hsaid := Proceeds.snapshot hrun' (ThreadedChat.move_self hh _) rfl
    exact hsaid.settled (.inl rfl) (hother _)
  | disconnect c =>
    obtain ⟨h, hh, hpoint, hconn⟩ := hrun.receiving hsettled he
    have hpossible : RecvResult.closed.possible (some c) = true := rfl
    have hstep : s.step .threadPerClient (.handler c (.recv .closed)) =
        some (s.move c h .erase, []) := by
      simp only [ThreadedChat.step, hh, ThreadedChat.stepHandler, hpoint, hconn, hpossible, if_true]
    have hrun' := hrun.event hsettled hstep rfl
    have hleft := Proceeds.erase hrun' (ThreadedChat.move_self hh _) rfl
    exact hleft.settled (.inr rfl) (hother _)

end SequentialRun

/-- Every sequence of events that the room allows is processed by the thread-per-client server, one
event after the other. -/
theorem threadedChat_realizes (h : ChatRoom.allowsAll [] evs) :
    ∃ s, SequentialRun evs s ∧ s.Settled := by
  induction evs using List.reverseRecOn with
  | nil =>
    refine ⟨.start 3, ⟨[], .start ⟨3, rfl⟩, by simp [Sequential], rfl⟩, fun i h hi => ?_⟩
    cases hi
  | append_singleton evs e ih =>
    rw [ChatRoom.allowsAll_snoc, Bool.and_eq_true] at h
    obtain ⟨s, hrun, hsettled⟩ := ih h.1
    exact hrun.process hsettled h.2

/-! ### The same chat -/

/-- **Both servers are the same chat.**  Each can process any sequence of events that makes sense,
and however they do, one event after the other, each connection is sent the same messages in the
same order. -/
theorem chats_agree (h : ChatRoom.allowsAll [] evs) :
    (∃ ts s, epollChat.Run ts s ∧ epollEvents ts = evs) ∧
    (∃ us u, (threadedChat .threadPerClient).Run us u ∧ Sequential us ∧ u.Settled ∧
      threadedEvents us = evs) ∧
    ∀ ts s us u, epollChat.Run ts s → epollEvents ts = evs →
      (threadedChat .threadPerClient).Run us u → Sequential us → u.Settled →
      threadedEvents us = evs →
      ∀ c, messagesTo c (observations ts) = messagesTo c (observations us) := by
  refine ⟨?_, ?_, ?_⟩
  · obtain ⟨ts, s, hrun, -, hevents⟩ := epollChat_realizes h
    exact ⟨ts, s, hrun, hevents⟩
  · obtain ⟨u, ⟨us, hrun, hseq, hevents⟩, hsettled⟩ := threadedChat_realizes h
    exact ⟨us, u, hrun, hseq, hsettled, hevents⟩
  · intro ts s us u hts hevents hus hseq hsettled hevents' c
    rw [(epollChat_inRoom hts).2 c, threadedChat_follows hus hseq hsettled c, hevents, hevents']

/-- Two clients come, one speaks, the other one goes, and a third one comes. -/
def shortChat : List ConnEvent :=
  [.connect ⟨(127, 0, 0, 1), 40000⟩, .connect ⟨(127, 0, 0, 1), 40001⟩, .chunk 0 [104, 105],
    .disconnect 1, .connect ⟨(127, 0, 0, 1), 40002⟩]

/-- The servers agree about a short chat. -/
theorem chats_agree_shortChat :
    (∃ ts s, epollChat.Run ts s ∧ epollEvents ts = shortChat) ∧
    (∃ us u, (threadedChat .threadPerClient).Run us u ∧ Sequential us ∧ u.Settled ∧
      threadedEvents us = shortChat) ∧
    ∀ ts s us u, epollChat.Run ts s → epollEvents ts = shortChat →
      (threadedChat .threadPerClient).Run us u → Sequential us → u.Settled →
      threadedEvents us = shortChat →
      ∀ c, messagesTo c (observations ts) = messagesTo c (observations us) :=
  chats_agree (by decide)

end SystemsDemos
