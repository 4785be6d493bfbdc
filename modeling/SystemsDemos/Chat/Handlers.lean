import SystemsDemos.Chat.Threaded

/-!
# The handlers of the threaded chat servers

The tables of a threaded server in any interleaving of its handlers: the handlers that are not done
have the open connections, and `g_clients` holds the descriptors of the handlers between their
registration and their erasure.

### Outline

* `HandlerPoint.registered` and `ThreadedInvariant`;
* the invariant after each kind of step, and in every reachable state.
-/

namespace SystemsDemos

variable {d : Dispatch} {s s' : ThreadedChat} {a : ThreadedAction} {out : List ChatObservation}
  {i : ℕ} {h : Handler} {m : HandlerMove}

/-- The descriptor of the handler is in `g_clients`. -/
def HandlerPoint.registered : HandlerPoint → Bool
  | snapshot (.left _) | sending (.left _) _ => false
  | snapshot _ | sending _ _ | receive | erase => true
  | _ => false

/-- The handlers that are not done have the open connections, the clients are the registered
handlers, and a broadcast has each recipient once. -/
structure ThreadedInvariant (s : ThreadedChat) : Prop where
  length : s.handlers.length = s.sockets.accepted
  handler_open : ∀ (i : ℕ) (h : Handler), s.handlers[i]? = some h → h.point ≠ .done →
    s.sockets.connection? h.fd = some i
  open_handler : ∀ fd i, s.sockets.connection? fd = some i →
    ∃ h : Handler, s.handlers[i]? = some h ∧ h.fd = fd ∧ h.point ≠ .done
  client_iff : ∀ fd, fd ∈ s.clients ↔
    ∃ (i : ℕ) (h : Handler), s.handlers[i]? = some h ∧ h.fd = fd ∧ h.point.registered
  pending_nodup : ∀ (i : ℕ) (h : Handler), s.handlers[i]? = some h → h.point.pending.Nodup

/-- A registered handler is not done. -/
lemma HandlerPoint.ne_done_of_registered {p : HandlerPoint} (h : p.registered) : p ≠ .done := by
  rintro rfl
  cases h

namespace ThreadedInvariant

/-- A handler that is not done is a client when it is registered. -/
lemma fd_mem_clients (hinv : ThreadedInvariant s) (hi : s.handlers[i]? = some h)
    (hdone : h.point ≠ .done) : h.fd ∈ s.clients ↔ h.point.registered := by
  constructor
  · intro hmem
    obtain ⟨j, h', hj, hfd, hreg⟩ := (hinv.client_iff h.fd).mp hmem
    have hj' := hinv.handler_open j h' hj (HandlerPoint.ne_done_of_registered hreg)
    rw [hfd, hinv.handler_open i h hi hdone] at hj'
    obtain rfl := Option.some.inj hj'
    obtain rfl := Option.some.inj (hi.symm.trans hj)
    exact hreg
  · exact fun hreg => (hinv.client_iff h.fd).mpr ⟨i, h, hi, rfl, hreg⟩

/-- A handler goes on, and its descriptor is a client afterwards when the new point is one of a
registered handler. -/
lemma move (hinv : ThreadedInvariant s) (hi : s.handlers[i]? = some h) (hdone : h.point ≠ .done)
    {point : HandlerPoint} (hdone' : point ≠ .done) (hnodup : point.pending.Nodup)
    {clients : AList fun _ : ℕ => String} (hself : h.fd ∈ clients ↔ point.registered)
    (hother : ∀ fd, fd ≠ h.fd → (fd ∈ clients ↔ fd ∈ s.clients)) :
    ThreadedInvariant { s.move i h point with clients := clients } := by
  have hmoved := ThreadedChat.move_self hi point
  refine ⟨?_, ?_, ?_, ?_, ?_⟩
  · simpa [ThreadedChat.move] using hinv.length
  · intro j h' hj hne
    rcases ThreadedChat.handlers_move hi hj with ⟨rfl, rfl⟩ | ⟨-, hj'⟩
    · exact hinv.handler_open j h hi hdone
    · exact hinv.handler_open j h' hj' hne
  · intro fd j hconn
    obtain ⟨h', hj, hfd, hne⟩ := hinv.open_handler fd j hconn
    by_cases hij : i = j
    · subst hij
      obtain rfl := Option.some.inj (hi.symm.trans hj)
      exact ⟨_, hmoved, hfd, hdone'⟩
    · exact ⟨h', (ThreadedChat.move_ne h point hij).trans hj, hfd, hne⟩
  · intro fd
    by_cases hfd : fd = h.fd
    · subst hfd
      refine hself.trans ⟨fun hreg => ⟨i, _, hmoved, rfl, hreg⟩, ?_⟩
      rintro ⟨j, h', hj, hfd, hreg⟩
      rcases ThreadedChat.handlers_move hi hj with ⟨-, rfl⟩ | ⟨hij, hj'⟩
      · exact hreg
      · have hopen := hinv.handler_open j h' hj' (HandlerPoint.ne_done_of_registered hreg)
        rw [hfd, hinv.handler_open i h hi hdone] at hopen
        exact (hij (Option.some.inj hopen)).elim
    · refine (hother fd hfd).trans ((hinv.client_iff fd).trans ?_)
      constructor
      · rintro ⟨j, h', hj, rfl, hreg⟩
        have hne : h' ≠ h := fun heq => hfd (congrArg Handler.fd heq)
        exact ⟨j, h', ThreadedChat.move_of_ne hi hj hne point, rfl, hreg⟩
      · rintro ⟨j, h', hj, rfl, hreg⟩
        rcases ThreadedChat.handlers_move hi hj with ⟨-, rfl⟩ | ⟨-, hj'⟩
        · exact (hfd rfl).elim
        · exact ⟨j, h', hj', rfl, hreg⟩
  · intro j h' hj
    rcases ThreadedChat.handlers_move hi hj with ⟨-, rfl⟩ | ⟨-, hj'⟩
    · exact hnodup
    · exact hinv.pending_nodup j h' hj'

/-- A handler goes on from one point to another without a change of the clients. -/
lemma move_same (hinv : ThreadedInvariant s) (hi : s.handlers[i]? = some h)
    {before after : HandlerPoint} (hpoint : h.point = before) (hdone : before ≠ .done)
    (hdone' : after ≠ .done) (hnodup : after.pending.Nodup)
    (hreg : after.registered = before.registered) :
    ThreadedInvariant (s.move i h after) := by
  subst hpoint
  exact hinv.move hi hdone hdone' hnodup (hreg ▸ hinv.fd_mem_clients hi hdone) fun _ _ => Iff.rfl

/-- A handler closes its connection. -/
lemma close (hinv : ThreadedInvariant s) (hi : s.handlers[i]? = some h)
    (hpoint : h.point = .close) :
    ThreadedInvariant { s.move i h .done with sockets := s.sockets.close h.fd } := by
  have hopen := hinv.handler_open i h hi (by simp [hpoint])
  refine ⟨?_, ?_, ?_, ?_, ?_⟩
  · simpa [ThreadedChat.move] using hinv.length
  · intro j h' hj hne
    rcases ThreadedChat.handlers_move hi hj with ⟨-, rfl⟩ | ⟨hij, hj'⟩
    · exact (hne rfl).elim
    · have hopen' := hinv.handler_open j h' hj' hne
      have hfd : h'.fd ≠ h.fd := by
        intro heq
        rw [heq, hopen] at hopen'
        exact hij (Option.some.inj hopen')
      exact (Sockets.connection?_close_ne hfd).trans hopen'
  · intro fd j hconn
    obtain ⟨hfd, hbefore⟩ := Sockets.connection?_of_close hconn
    obtain ⟨h', hj, rfl, hne⟩ := hinv.open_handler fd j hbefore
    have hother : h' ≠ h := fun heq => hfd (congrArg Handler.fd heq)
    exact ⟨h', ThreadedChat.move_of_ne hi hj hother _, rfl, hne⟩
  · intro fd
    refine (hinv.client_iff fd).trans ?_
    constructor
    · rintro ⟨j, h', hj, rfl, hreg⟩
      have hne : h' ≠ h := by
        rintro rfl
        simp [hpoint, HandlerPoint.registered] at hreg
      exact ⟨j, h', ThreadedChat.move_of_ne hi hj hne _, rfl, hreg⟩
    · rintro ⟨j, h', hj, rfl, hreg⟩
      rcases ThreadedChat.handlers_move hi hj with ⟨-, rfl⟩ | ⟨-, hj'⟩
      · cases hreg
      · exact ⟨j, h', hj', rfl, hreg⟩
  · intro j h' hj
    rcases ThreadedChat.handlers_move hi hj with ⟨-, rfl⟩ | ⟨-, hj'⟩
    · exact List.nodup_nil
    · exact hinv.pending_nodup j h' hj'

/-- A connection is handed over. -/
lemma accept (hinv : ThreadedInvariant s) {fd : ℕ} {peer : String} {sockets : Sockets}
    (haccept : s.sockets.accept fd = some sockets) :
    ThreadedInvariant ⟨sockets, s.clients, s.handlers ++ [⟨fd, peer, .queued⟩]⟩ := by
  obtain ⟨-, hfree, -, haccepted, -⟩ := Sockets.accept_spec haccept
  have hold : ∀ {j : ℕ} {h' : Handler}, s.handlers[j]? = some h' →
      (s.handlers ++ [⟨fd, peer, .queued⟩])[j]? = some h' := by
    intro j h' hj
    obtain ⟨hlt, -⟩ := List.getElem?_eq_some_iff.mp hj
    rwa [List.getElem?_append_left hlt]
  refine ⟨?_, ?_, ?_, ?_, ?_⟩
  · simp [hinv.length, haccepted]
  · intro j h' hj hne
    rcases ThreadedChat.handlers_snoc hj with hj' | ⟨rfl, rfl⟩
    · have hopen := hinv.handler_open j h' hj' hne
      have hfd : h'.fd ≠ fd := by
        intro heq
        rw [heq, hfree] at hopen
        cases hopen
      exact (Sockets.connection?_accept_ne haccept hfd).trans hopen
    · exact hinv.length ▸ Sockets.connection?_accept_self haccept
  · intro fd' j hconn
    by_cases hfd : fd' = fd
    · subst hfd
      rw [Sockets.connection?_accept_self haccept] at hconn
      obtain rfl := Option.some.inj hconn
      refine ⟨⟨fd', peer, .queued⟩, ?_, rfl, by simp⟩
      rw [← hinv.length, List.getElem?_concat_length]
    · rw [Sockets.connection?_accept_ne haccept hfd] at hconn
      obtain ⟨h', hj, hfd', hne⟩ := hinv.open_handler fd' j hconn
      exact ⟨h', hold hj, hfd', hne⟩
  · intro fd'
    refine (hinv.client_iff fd').trans ?_
    constructor
    · rintro ⟨j, h', hj, hfd', hreg⟩
      exact ⟨j, h', hold hj, hfd', hreg⟩
    · rintro ⟨j, h', hj, hfd', hreg⟩
      rcases ThreadedChat.handlers_snoc hj with hj' | ⟨-, rfl⟩
      · exact ⟨j, h', hj', hfd', hreg⟩
      · cases hreg
  · intro j h' hj
    rcases ThreadedChat.handlers_snoc hj with hj' | ⟨-, rfl⟩
    · exact hinv.pending_nodup j h' hj'
    · exact List.nodup_nil

/-- A step of a handler keeps the invariant. -/
lemma handler (hinv : ThreadedInvariant s) (hi : s.handlers[i]? = some h)
    (heffect : HandlerEffect s i h m s' out) : ThreadedInvariant s' := by
  cases heffect with
  | register hpoint =>
    refine hinv.move hi (by simp [hpoint]) (by simp) ?_ ?_ ?_
    · exact List.nodup_nil
    · exact iff_of_true (AList.mem_insert _ |>.mpr (.inl rfl)) rfl
    · intro fd hfd
      simp [AList.mem_insert, hfd]
  | @snapshot a hpoint =>
    exact hinv.move_same hi hpoint (by simp) (by simp) ((AList.keys_nodup _).filter _)
      (by cases a <;> rfl)
  | @send a recipients fd result hpoint hfd =>
    have hnodup := hinv.pending_nodup i h hi
    rw [hpoint] at hnodup
    exact hinv.move_same hi hpoint (by simp) (by simp) (hnodup.erase _) (by cases a <;> rfl)
  | @broadcastDone a hpoint =>
    refine hinv.move_same hi hpoint (by simp) ?_ ?_ ?_ <;>
      cases a <;> simp [HandlerPoint.registered, HandlerPoint.afterBroadcast, HandlerPoint.pending]
  | said hpoint _ => exact hinv.move_same hi hpoint (by simp) (by simp) List.nodup_nil rfl
  | hungUp hpoint _ => exact hinv.move_same hi hpoint (by simp) (by simp) List.nodup_nil rfl
  | erase hpoint =>
    refine hinv.move hi (by simp [hpoint]) (by simp) ?_ ?_ ?_
    · exact List.nodup_nil
    · exact iff_of_false (fun hmem => (AList.mem_erase.mp hmem).1 rfl) (by
        simp [HandlerPoint.registered])
    · intro fd hfd
      simp [AList.mem_erase, hfd]
  | close hpoint => exact hinv.close hi hpoint

/-- A step keeps the invariant. -/
lemma step (hinv : ThreadedInvariant s) (hstep : s.step d a = some (s', out)) :
    ThreadedInvariant s' := by
  cases ThreadedChat.step_effect hstep with
  | refused => exact hinv
  | accepted haccept => exact hinv.accept haccept
  | started hi hpoint => exact hinv.move_same hi hpoint (by simp) (by simp) List.nodup_nil rfl
  | handler hi heffect => exact hinv.handler hi heffect

end ThreadedInvariant

/-- The invariant holds in every reachable state. -/
lemma threadedInvariant_of_reachable (h : (threadedChat d).Reachable s) :
    ThreadedInvariant s := by
  obtain ⟨ts, hrun⟩ := h
  refine hrun.invariant ?_ fun s a s' out hs hstep => hs.step hstep
  rintro _ ⟨serverFd, rfl⟩
  exact ⟨rfl, by simp [ThreadedChat.start], by simp [ThreadedChat.start],
    by simp [ThreadedChat.start], by simp [ThreadedChat.start]⟩

end SystemsDemos
