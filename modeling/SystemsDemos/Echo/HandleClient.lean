import SystemsDemos.Transition.System
import Mathlib.Data.List.Infix

/-!
# The echo server

`handle_client` of the echo server: a loop around `recv`, an inner loop that sends the chunk until
all of it is taken, and a jump out of both when `send` fails.  What `recv` and `send` return is up
to the environment, within what was asked for.

### Outline

* `HandleClient` with `step`, and `HandleClient.system`;
* `Echoing`, the invariant: what was received is what was sent followed by what is still owed;
* `echo_prefix`.
-/

namespace SystemsDemos

/-- Where `handle_client` is. -/
inductive EchoPoint
  /-- In front of the first log. -/
  | entry
  /-- At `recv`. -/
  | recv
  /-- In front of the log of the chunk. -/
  | received
  /-- At the condition of the inner loop. -/
  | sending
  /-- At the label `done`. -/
  | done
  /-- In front of `close`. -/
  | closing
  | returned
  deriving DecidableEq

/-- The local variables of `handle_client`. -/
structure HandleClient where
  point : EchoPoint
  buf : List UInt8
  n : ℤ
  sent : ℤ
  deriving DecidableEq

/-- The steps: one of the program's own, or a system call with its result. -/
inductive EchoAct
  | exec
  | recv (n : ℤ) (chunk : List UInt8)
  | send (r : ℤ)

/-- What `handle_client` makes visible. -/
inductive EchoObservation
  | logged (line : List UInt8)
  | received (chunk : List UInt8)
  /-- The offset and the length that `send` is called with. -/
  | sendCalled (offset length : ℤ)
  | sent (chunk : List UInt8)
  | closed
  deriving DecidableEq

namespace EchoObservation

/-- The bytes received. -/
def receivedBytes : EchoObservation → List UInt8
  | .received chunk => chunk
  | _ => []

/-- The bytes that `send` has taken. -/
def sentBytes : EchoObservation → List UInt8
  | .sent chunk => chunk
  | _ => []

end EchoObservation

/-- The stream of the client. -/
def receivedStream (obs : List EchoObservation) : List UInt8 :=
  obs.flatMap EchoObservation.receivedBytes

/-- The stream to the client. -/
def sentStream (obs : List EchoObservation) : List UInt8 := obs.flatMap EchoObservation.sentBytes

lemma receivedStream_append (obs obs' : List EchoObservation) :
    receivedStream (obs ++ obs') = receivedStream obs ++ receivedStream obs' :=
  List.flatMap_append

lemma sentStream_append (obs obs' : List EchoObservation) :
    sentStream (obs ++ obs') = sentStream obs ++ sentStream obs' :=
  List.flatMap_append

namespace HandleClient

/-- `BUF_SIZE`. -/
def bufSize : ℕ := 1024

/-- `log`. -/
def log (text : String) (data : List UInt8) : EchoObservation :=
  .logged (text.toUTF8.data.toList ++ data ++ [10])

/-- What is left to send of the chunk. -/
def pending (s : HandleClient) : List UInt8 :=
  (s.buf.drop s.sent.toNat).take (s.n - s.sent).toNat

/-- A step of `handle_client`.  `recv` fills at most the buffer, and `send` takes at most what it
is given. -/
def step (peer : String) (s : HandleClient) : EchoAct → Option (HandleClient × List EchoObservation)
  | .exec =>
      match s.point with
      | .entry => some ({ s with point := .recv }, [log ("[+] connected: " ++ peer) []])
      | .received => some ({ s with point := .sending, sent := 0 },
          [log ("[" ++ peer ++ "] ") (s.buf.take s.n.toNat)])
      | .sending => if s.sent < s.n then none else some ({ s with point := .recv }, [])
      | .done => some ({ s with point := .closing }, [log ("[-] disconnected: " ++ peer) []])
      | .closing => some ({ s with point := .returned }, [.closed])
      | _ => none
  | .recv n chunk =>
      if s.point = .recv ∧ n ≤ bufSize ∧ chunk.length = n.toNat then
        some ({ s with
            point := if n ≤ 0 then .done else .received
            buf := chunk ++ s.buf.drop chunk.length
            n := n },
          [.received chunk])
      else none
  | .send r =>
      if s.point = .sending ∧ s.sent < s.n ∧ r ≤ s.n - s.sent then
        if r ≤ 0 then some ({ s with point := .done }, [.sendCalled s.sent (s.n - s.sent)])
        else some ({ s with sent := s.sent + r },
          [.sendCalled s.sent (s.n - s.sent), .sent (s.pending.take r.toNat)])
      else none

/-- `handle_client` for a peer; the buffer is not initialised. -/
def system (peer : String) : System HandleClient EchoAct EchoObservation where
  init s := s.point = .entry ∧ s.buf.length = bufSize
  step := step peer

/-! ### What a step does -/

/-- The steps, one by one. -/
inductive Moves (peer : String) (s : HandleClient) :
    HandleClient → List EchoObservation → Prop
  | connected (h : s.point = .entry) :
      Moves peer s { s with point := .recv } [log ("[+] connected: " ++ peer) []]
  | recv (n : ℤ) (chunk : List UInt8) (h : s.point = .recv) (hn : n ≤ bufSize)
      (hpos : 0 < n) (hlength : chunk.length = n.toNat) :
      Moves peer s ⟨.received, chunk ++ s.buf.drop chunk.length, n, s.sent⟩ [.received chunk]
  | recvEnd (n : ℤ) (h : s.point = .recv) (hn : n ≤ 0) :
      Moves peer s ⟨.done, s.buf, n, s.sent⟩ [.received []]
  | logged (h : s.point = .received) :
      Moves peer s { s with point := .sending, sent := 0 }
        [log ("[" ++ peer ++ "] ") (s.buf.take s.n.toNat)]
  | sentAll (h : s.point = .sending) (hsent : s.n ≤ s.sent) :
      Moves peer s { s with point := .recv } []
  | send (r : ℤ) (h : s.point = .sending) (hsent : s.sent < s.n) (hr : r ≤ s.n - s.sent)
      (hpos : 0 < r) :
      Moves peer s { s with sent := s.sent + r }
        [.sendCalled s.sent (s.n - s.sent), .sent (s.pending.take r.toNat)]
  | sendFails (h : s.point = .sending) (hsent : s.sent < s.n) :
      Moves peer s { s with point := .done } [.sendCalled s.sent (s.n - s.sent)]
  | disconnected (h : s.point = .done) :
      Moves peer s { s with point := .closing } [log ("[-] disconnected: " ++ peer) []]
  | closed (h : s.point = .closing) : Moves peer s { s with point := .returned } [.closed]

variable {peer : String} {s s' : HandleClient} {a : EchoAct} {obs out : List EchoObservation}

lemma moves_of_step (h : s.step peer a = some (s', out)) : Moves peer s s' out := by
  cases a with
  | exec =>
    cases hpoint : s.point with
    | entry =>
      simp only [step, hpoint] at h
      cases h
      exact .connected hpoint
    | received =>
      simp only [step, hpoint] at h
      cases h
      exact .logged hpoint
    | sending =>
      simp only [step, hpoint] at h
      split at h
      · cases h
      · next hsent =>
        cases h
        exact .sentAll hpoint (Int.not_lt.mp hsent)
    | done =>
      simp only [step, hpoint] at h
      cases h
      exact .disconnected hpoint
    | closing =>
      simp only [step, hpoint] at h
      cases h
      exact .closed hpoint
    | recv => simp only [step, hpoint, reduceCtorEq] at h
    | returned => simp only [step, hpoint, reduceCtorEq] at h
  | recv n chunk =>
    simp only [step] at h
    split at h
    · next hrecv =>
      obtain ⟨hpoint, hn, hlength⟩ := hrecv
      cases h
      by_cases hpos : n ≤ 0
      · have hnil : chunk = [] := by
          rw [Int.toNat_of_nonpos hpos] at hlength
          exact List.length_eq_zero_iff.mp hlength
        rw [if_pos hpos, hnil]
        exact .recvEnd n hpoint hpos
      · rw [if_neg hpos]
        exact .recv n chunk hpoint hn (Int.not_le.mp hpos) hlength
    · cases h
  | send r =>
    simp only [step] at h
    split at h
    · next hsend =>
      obtain ⟨hpoint, hsent, hr⟩ := hsend
      split at h
      · cases h
        exact .sendFails hpoint hsent
      · next hpos =>
        cases h
        exact .send r hpoint hsent hr (Int.not_le.mp hpos)
    · cases h

/-! ### The stream -/

/-- `handle_client` has not left its loops. -/
def InLoop (s : HandleClient) : Prop :=
  s.point = .entry ∨ s.point = .recv ∨ s.point = .received ∨ s.point = .sending

/-- What has been received and is still to be sent. -/
def owed (s : HandleClient) : List UInt8 :=
  match s.point with
  | .received => s.buf.take s.n.toNat
  | .sending => s.pending
  | _ => []

lemma owed_received (h : s.point = .received) : s.owed = s.buf.take s.n.toNat := by rw [owed, h]

lemma owed_sending (h : s.point = .sending) : s.owed = s.pending := by rw [owed, h]

/-- What was received is what was sent followed by what is owed, or by anything once the loops are
left. -/
structure Echoing (obs : List EchoObservation) (s : HandleClient) : Prop where
  length_buf : s.buf.length = bufSize
  fits : s.point = .received ∨ s.point = .sending → 0 < s.n ∧ s.n ≤ bufSize
  sent_bounds : s.point = .sending → 0 ≤ s.sent ∧ s.sent ≤ s.n
  stream : ∃ rest, receivedStream obs = sentStream obs ++ rest ∧ (s.InLoop → rest = s.owed)
  closed : obs.count .closed = if s.point = .returned then 1 else 0

/-- Steps that neither receive nor send. -/
lemma stream_of_silent {rest : List UInt8} (hreceived : receivedStream out = [])
    (hsent : sentStream out = []) (h : receivedStream obs = sentStream obs ++ rest) :
    receivedStream (obs ++ out) = sentStream (obs ++ out) ++ rest := by
  rw [receivedStream_append, sentStream_append, hreceived, hsent, List.append_nil,
    List.append_nil, h]

/-- Sending takes the first bytes that are pending. -/
lemma pending_eq (r : ℤ) (hpos : 0 < r) (hr : r ≤ s.n - s.sent) (hsent : 0 ≤ s.sent) :
    s.pending = s.pending.take r.toNat ++ { s with sent := s.sent + r }.pending := by
  have hle : r.toNat ≤ (s.n - s.sent).toNat := by omega
  have hstart : (s.sent + r).toNat = s.sent.toNat + r.toNat := by omega
  have hrest : (s.n - (s.sent + r)).toNat = (s.n - s.sent).toNat - r.toNat := by omega
  unfold pending
  rw [List.take_take, Nat.min_eq_left hle]
  simp only [hstart, hrest]
  rw [← List.drop_drop, ← List.take_add, Nat.add_sub_cancel' hle]

/-- The connection is closed by the step that returns, and by no other. -/
lemma Moves.count_closed (hmoves : Moves peer s s' out)
    (h : obs.count .closed = if s.point = .returned then 1 else 0) :
    (obs ++ out).count .closed = if s'.point = .returned then 1 else 0 := by
  have hstart : s.point ≠ .returned := by
    intro hpoint
    cases hmoves <;> simp_all
  rw [List.count_append, h, if_neg hstart, Nat.zero_add]
  cases hmoves with
  | closed => rfl
  | connected => rfl
  | recv => rfl
  | recvEnd => rfl
  | logged => rfl
  | sentAll => rfl
  | send =>
    rw [if_neg hstart]
    rfl
  | sendFails => rfl
  | disconnected => rfl

/-- Every step keeps the invariant. -/
lemma Echoing.step (h : Echoing obs s) (hstep : s.step peer a = some (s', out)) :
    Echoing (obs ++ out) s' := by
  obtain ⟨rest, hstream, howed⟩ := h.stream
  have hmoves := moves_of_step hstep
  have hclosed := hmoves.count_closed h.closed
  cases hmoves with
  | connected hpoint =>
    have hrest : rest = [] := (howed (.inl hpoint)).trans (by rw [owed, hpoint])
    refine ⟨h.length_buf, by simp, by simp, ⟨rest, stream_of_silent rfl rfl hstream, fun _ => ?_⟩,
      hclosed⟩
    rw [hrest]
    rfl
  | recv n chunk hpoint hn hpos hlength =>
    have hrest : rest = [] := (howed (.inr (.inl hpoint))).trans (by rw [owed, hpoint])
    have hbuf : chunk.length ≤ bufSize := by omega
    refine ⟨?_, fun _ => ⟨hpos, hn⟩, by simp, ⟨chunk, ?_, fun _ => ?_⟩, hclosed⟩
    · rw [List.length_append, List.length_drop, h.length_buf]
      omega
    · rw [receivedStream_append, sentStream_append, hstream, hrest]
      simp [receivedStream, sentStream, EchoObservation.receivedBytes, EchoObservation.sentBytes]
    · simp only [owed]
      rw [← hlength, List.take_left]
  | recvEnd n hpoint hn =>
    exact ⟨h.length_buf, by simp, by simp,
      ⟨rest, stream_of_silent rfl rfl hstream, by simp [InLoop]⟩, hclosed⟩
  | logged hpoint =>
    have hrest := (howed (.inr (.inr (.inl hpoint)))).trans (owed_received hpoint)
    obtain ⟨hpos, hn⟩ := h.fits (.inl hpoint)
    refine ⟨h.length_buf, fun _ => ⟨hpos, hn⟩, fun _ => ⟨Int.le_refl 0, Int.le_of_lt hpos⟩,
      ⟨rest, stream_of_silent rfl rfl hstream, fun _ => ?_⟩, hclosed⟩
    rw [hrest]
    simp [owed, pending]
  | sentAll hpoint hsent =>
    have hrest := (howed (.inr (.inr (.inr hpoint)))).trans (owed_sending hpoint)
    refine ⟨h.length_buf, by simp, by simp, ⟨rest, stream_of_silent rfl rfl hstream, fun _ => ?_⟩,
      hclosed⟩
    have hzero : (s.n - s.sent).toNat = 0 := by omega
    rw [hrest, pending, hzero, List.take_zero]
    rfl
  | send r hpoint hsent hr hpos =>
    have hrest := (howed (.inr (.inr (.inr hpoint)))).trans (owed_sending hpoint)
    obtain ⟨hnonneg, -⟩ := h.sent_bounds hpoint
    refine ⟨h.length_buf, fun _ => h.fits (.inr hpoint), fun _ => ?_,
      ⟨{ s with sent := s.sent + r }.pending, ?_, fun _ => ?_⟩, hclosed⟩
    · simp only
      omega
    · have hsplit := pending_eq r hpos hr hnonneg
      rw [receivedStream_append, sentStream_append, hstream, hrest]
      simpa [receivedStream, sentStream, EchoObservation.receivedBytes,
        EchoObservation.sentBytes] using hsplit
    · exact (owed_sending (s := { s with sent := s.sent + r }) hpoint).symm
  | sendFails hpoint hsent =>
    exact ⟨h.length_buf, by simp, by simp,
      ⟨rest, stream_of_silent rfl rfl hstream, by simp [InLoop]⟩, hclosed⟩
  | disconnected hpoint =>
    exact ⟨h.length_buf, by simp, by simp,
      ⟨rest, stream_of_silent rfl rfl hstream, by simp [InLoop]⟩, hclosed⟩
  | closed hpoint =>
    exact ⟨h.length_buf, by simp, by simp,
      ⟨rest, stream_of_silent rfl rfl hstream, by simp [InLoop]⟩, hclosed⟩

/-- The invariant holds in every run. -/
lemma echoing_of_run {ts : List (Transition HandleClient EchoAct EchoObservation)}
    (h : (system peer).Run ts s) : Echoing (observations ts) s := by
  refine h.invariant_history (I := fun ts s => Echoing (observations ts) s) ?_ ?_
  · rintro s ⟨hpoint, hbuf⟩
    refine ⟨hbuf, by simp [hpoint], by simp [hpoint], ⟨[], rfl, fun _ => ?_⟩, ?_⟩
    · rw [owed, hpoint]
    · rw [hpoint]
      rfl
  · intro ts s a s' out _ ih hstep
    rw [observations_append, observations_singleton]
    exact ih.step hstep

/-- `send` is called with a part of the chunk that is not empty. -/
lemma Echoing.sendCalled (h : Echoing obs s) (hstep : s.step peer a = some (s', out))
    {offset length : ℤ} (hcall : .sendCalled offset length ∈ out) :
    0 ≤ offset ∧ 0 < length ∧ offset + length ≤ s.n ∧ s.n ≤ bufSize := by
  have hbounds : ∀ hpoint : s.point = .sending, ∀ hsent : s.sent < s.n,
      0 ≤ s.sent ∧ 0 < s.n - s.sent ∧ s.sent + (s.n - s.sent) ≤ s.n ∧ s.n ≤ bufSize := by
    intro hpoint hsent
    obtain ⟨hnonneg, -⟩ := h.sent_bounds hpoint
    obtain ⟨-, hn⟩ := h.fits (.inr hpoint)
    omega
  cases moves_of_step hstep with
  | send r hpoint hsent hr hpos =>
    obtain ⟨rfl, rfl⟩ : offset = s.sent ∧ length = s.n - s.sent := by simpa using hcall
    exact hbounds hpoint hsent
  | sendFails hpoint hsent =>
    obtain ⟨rfl, rfl⟩ : offset = s.sent ∧ length = s.n - s.sent := by simpa using hcall
    exact hbounds hpoint hsent
  | connected => simp [log] at hcall
  | recv => simp at hcall
  | recvEnd => simp at hcall
  | logged => simp [log] at hcall
  | sentAll => simp at hcall
  | disconnected => simp [log] at hcall
  | closed => simp at hcall

/-- `handle_client` goes on until it returns. -/
lemma step_eq_none_iff : (∀ a, s.step peer a = none) ↔ s.point = .returned := by
  constructor
  · intro h
    cases hpoint : s.point with
    | returned => rfl
    | recv =>
      have hrecv := h (.recv 0 [])
      simp [step, hpoint, bufSize] at hrecv
    | sending =>
      have hexec := h .exec
      have hsend := h (.send 0)
      simp only [step, hpoint] at hexec hsend
      split at hexec
      · next hlt =>
        rw [if_pos ⟨trivial, hlt, by omega⟩] at hsend
        cases hsend
      · cases hexec
    | entry =>
      have hexec := h .exec
      simp [step, hpoint] at hexec
    | received =>
      have hexec := h .exec
      simp [step, hpoint] at hexec
    | done =>
      have hexec := h .exec
      simp [step, hpoint] at hexec
    | closing =>
      have hexec := h .exec
      simp [step, hpoint] at hexec
  · intro hpoint a
    cases a with
    | exec => simp only [step, hpoint]
    | recv n chunk => simp [step, hpoint]
    | send r => simp [step, hpoint]

/-- **The echo server sends back what it receives.**  In every run the bytes sent are a prefix of
the bytes received, and all of them at `recv`; `send` gets a part of the chunk that is not empty;
the connection is closed once when `handle_client` returns and not before, and nothing but
returning ends it. -/
theorem echo_prefix {ts : List (Transition HandleClient EchoAct EchoObservation)}
    (h : (system peer).Run ts s) :
    sentStream (observations ts) <+: receivedStream (observations ts) ∧
      (s.point = .recv → sentStream (observations ts) = receivedStream (observations ts)) ∧
      (∀ t ∈ ts, ∀ offset length, .sendCalled offset length ∈ t.out →
        0 ≤ offset ∧ 0 < length ∧ offset + length ≤ t.pre.n ∧ t.pre.n ≤ bufSize) ∧
      (observations ts).count .closed = (if s.point = .returned then 1 else 0) ∧
      ((∀ a, (system peer).step s a = none) ↔ s.point = .returned) := by
  have hechoing := echoing_of_run h
  obtain ⟨rest, hstream, howed⟩ := hechoing.stream
  refine ⟨⟨rest, hstream.symm⟩, fun hpoint => ?_, fun t ht offset length hcall => ?_,
    hechoing.closed, step_eq_none_iff⟩
  · have hrest : rest = [] := (howed (.inr (.inl hpoint))).trans (by rw [owed, hpoint])
    rw [hstream, hrest, List.append_nil]
  · obtain ⟨⟨us, hus⟩, hvalid⟩ := h.of_mem ht
    exact (echoing_of_run hus).sendCalled hvalid hcall

/-- A chunk that is sent in two parts, and one whose `send` fails. -/
def twoChunks : List EchoAct :=
  [.exec, .recv 3 [1, 2, 3], .exec, .send 2, .send 1, .exec, .recv 1 [4], .exec, .send (-1), .exec,
    .exec]

/-- The first chunk is sent back, and the connection is closed. -/
theorem echo_prefix_twoChunks :
    ∃ ts s, (system "127.0.0.1:40000").Run ts s ∧
      receivedStream (observations ts) = [1, 2, 3, 4] ∧
      sentStream (observations ts) <+: receivedStream (observations ts) ∧
      (observations ts).count .closed = 1 := by
  have hrun := System.run_of_exec (system "127.0.0.1:40000")
    (s := ⟨.entry, List.replicate bufSize 0, 0, 0⟩) twoChunks ⟨rfl, List.length_replicate⟩ rfl
  obtain ⟨hstream, -, -, hclosed, -⟩ := echo_prefix hrun
  exact ⟨_, _, hrun, rfl, hstream, hclosed⟩

end HandleClient

end SystemsDemos
