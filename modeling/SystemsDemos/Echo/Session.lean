import SystemsDemos.Echo.Client
import SystemsDemos.Echo.HandleClient
import SystemsDemos.Transition.Party

/-!
# A session of the echo server

A client of the echo server and the thread of the server that handles it, with the two directions of
the connection between them.  Bytes arrive in order; `recv` reports the end of a direction when the
other side has shut it and nothing is left in it, and any call may fail at any time.

### Outline

* `EchoSession` with `step`, and its two parties;
* `session_echoed`, what has been printed against what has been typed;
* `session_ends`, the end of a session.
-/

namespace SystemsDemos

open HandleClient

/-- The two processes and the bytes on their way. -/
structure EchoSession where
  client : Client
  server : HandleClient
  toServer : List UInt8
  toClient : List UInt8
  deriving DecidableEq

/-- Who takes a step. -/
inductive SessionAct
  | client (a : ClientAct)
  | server (a : EchoAct)

/-- What becomes visible, and where. -/
inductive SessionObservation
  | client (o : ClientObservation)
  | server (o : EchoObservation)
  deriving DecidableEq

namespace SessionObservation

/-- What the server makes visible. -/
def server? : SessionObservation → Option EchoObservation
  | server o => some o
  | _ => none

end SessionObservation

/-- The main thread has called `shutdown`. -/
def ClientMain.hasShut : ClientMain → Bool
  | joining => true
  | closing => true
  | returned => true
  | _ => false

namespace EchoSession

/-- What `recv` of one side may return: bytes that are waiting, the end when the other side has shut
this direction, or an error. -/
def MayReceive (waiting : List UInt8) (shut : Bool) (n : ℤ) (chunk : List UInt8) : Prop :=
  chunk = waiting.take n.toNat ∧ (n = 0 → waiting = [] ∧ shut = true)

instance (waiting : List UInt8) (shut : Bool) (n : ℤ) (chunk : List UInt8) :
    Decidable (MayReceive waiting shut n chunk) :=
  inferInstanceAs (Decidable (_ ∧ _))

/-- What the connection says to a call of the client. -/
def AllowsClient (s : EchoSession) : ClientAct → Prop
  | .recv n chunk => MayReceive s.toClient (decide (s.server.point = .returned)) n chunk
  | _ => True

/-- What the connection says to a call of the server. -/
def AllowsServer (s : EchoSession) : EchoAct → Prop
  | .recv n chunk => MayReceive s.toServer s.client.main.hasShut n chunk
  | _ => True

instance (s : EchoSession) : DecidablePred s.AllowsClient
  | .recv _ _ => inferInstanceAs (Decidable (MayReceive _ _ _ _))
  | .main | .line _ | .endOfInput | .send _ | .receiver => inferInstanceAs (Decidable True)

instance (s : EchoSession) : DecidablePred s.AllowsServer
  | .recv _ _ => inferInstanceAs (Decidable (MayReceive _ _ _ _))
  | .exec | .send _ => inferInstanceAs (Decidable True)

/-- A step of the session. -/
def step (peer : String) (s : EchoSession) :
    SessionAct → Option (EchoSession × List SessionObservation)
  | .client a =>
      if s.AllowsClient a then
        (s.client.step echoClient a).map fun (client, out) =>
          ({ s with
              client := client
              toServer := s.toServer ++ out.flatMap ClientObservation.sentBytes
              toClient := s.toClient.drop (out.flatMap ClientObservation.receivedBytes).length },
            out.map .client)
      else none
  | .server a =>
      if s.AllowsServer a then
        (s.server.step peer a).map fun (server, out) =>
          ({ s with
              server := server
              toServer := s.toServer.drop (receivedStream out).length
              toClient := s.toClient ++ sentStream out },
            out.map .server)
      else none

/-- The client has connected; the buffer of the server is not initialised. -/
def system (peer : String) : System EchoSession SessionAct SessionObservation where
  init s := s.client = .initial ∧
    (s.server.point = .entry ∧ s.server.buf.length = HandleClient.bufSize) ∧
    s.toServer = [] ∧ s.toClient = []
  step := step peer

variable {peer : String} {s s' : EchoSession} {out : List SessionObservation}

/-! ### The parties -/

/-- What a step of the client does to the session. -/
lemma step_client {a : ClientAct} (h : (system peer).step s (.client a) = some (s', out)) :
    ∃ cout, s.AllowsClient a ∧ s.client.step echoClient a = some (s'.client, cout) ∧
      s'.server = s.server ∧
      s'.toServer = s.toServer ++ cout.flatMap ClientObservation.sentBytes ∧
      s'.toClient = s.toClient.drop (cout.flatMap ClientObservation.receivedBytes).length ∧
      out = cout.map .client := by
  simp only [system, step] at h
  split at h
  · next hallows =>
    obtain ⟨⟨client, cout⟩, hstep, heq⟩ := Option.map_eq_some_iff.mp h
    cases heq
    exact ⟨cout, hallows, hstep, rfl, rfl, rfl, rfl⟩
  · cases h

/-- What a step of the server does to the session. -/
lemma step_server {a : EchoAct} (h : (system peer).step s (.server a) = some (s', out)) :
    ∃ sout, s.AllowsServer a ∧ s.server.step peer a = some (s'.server, sout) ∧
      s'.client = s.client ∧ s'.toServer = s.toServer.drop (receivedStream sout).length ∧
      s'.toClient = s.toClient ++ sentStream sout ∧ out = sout.map .server := by
  simp only [system, step] at h
  split at h
  · next hallows =>
    obtain ⟨⟨server, sout⟩, hstep, heq⟩ := Option.map_eq_some_iff.mp h
    cases heq
    exact ⟨sout, hallows, hstep, rfl, rfl, rfl, rfl⟩
  · cases h

/-- What the server does in a step. -/
def serverPart (t : Transition EchoSession SessionAct SessionObservation) :
    Option (Transition HandleClient EchoAct EchoObservation) :=
  match t.act with
  | .client _ => none
  | .server a => some ⟨t.pre.server, a, t.post.server, t.out.filterMap SessionObservation.server?⟩

lemma filterMap_server (out : List EchoObservation) :
    (out.map SessionObservation.server).filterMap SessionObservation.server? = out := by
  rw [List.filterMap_map]
  exact List.filterMap_some

lemma filterMap_server_client (out : List ClientObservation) :
    (out.map SessionObservation.client).filterMap SessionObservation.server? = [] := by
  simp [SessionObservation.server?]

/-- The server is a party of the session. -/
lemma isParty_server (peer : String) :
    IsParty (system peer) (HandleClient.system peer) EchoSession.server serverPart where
  init s hinit := hinit.2.1
  idle t hvalid hpart := by
    obtain ⟨pre, act, post, out⟩ := t
    cases act with
    | client a =>
      obtain ⟨-, -, -, hsame, -⟩ := step_client hvalid
      exact hsame
    | server a => cases hpart
  move t u hvalid hpart := by
    obtain ⟨pre, act, post, out⟩ := t
    cases act with
    | client a => cases hpart
    | server a =>
      obtain ⟨sout, -, hstep, -, -, -, rfl⟩ := step_server hvalid
      cases hpart
      refine ⟨rfl, rfl, ?_⟩
      rw [System.Valid, filterMap_server]
      exact hstep

/-- What the server makes visible in a run. -/
lemma observations_server {ts : List (Transition EchoSession SessionAct SessionObservation)}
    (h : (system peer).Run ts s) :
    observations (ts.filterMap serverPart) =
      (observations ts).filterMap SessionObservation.server? := by
  refine h.observations_part fun t hvalid => ?_
  obtain ⟨pre, act, post, out⟩ := t
  cases act with
  | client a =>
    obtain ⟨cout, -, -, -, -, -, rfl⟩ := step_client hvalid
    exact (filterMap_server_client cout).symm
  | server a => rfl

end EchoSession

/-! ### The streams -/

namespace SessionObservation

/-- Bytes that the client handles. -/
def ofClient (bytes : ClientObservation → List UInt8) : SessionObservation → List UInt8
  | client o => bytes o
  | server _ => []

/-- Bytes that the server handles. -/
def ofServer (bytes : EchoObservation → List UInt8) : SessionObservation → List UInt8
  | client _ => []
  | server o => bytes o

section

variable (cbytes : ClientObservation → List UInt8) (sbytes : EchoObservation → List UInt8)

@[simp] lemma flatMap_ofClient_client (out : List ClientObservation) :
    (out.map client).flatMap (ofClient cbytes) = out.flatMap cbytes := by
  rw [List.flatMap_map]
  rfl

@[simp] lemma flatMap_ofClient_server (out : List EchoObservation) :
    (out.map server).flatMap (ofClient cbytes) = [] := by
  rw [List.flatMap_map]
  exact List.flatMap_eq_nil_iff.mpr fun _ _ => rfl

@[simp] lemma flatMap_ofServer_client (out : List ClientObservation) :
    (out.map client).flatMap (ofServer sbytes) = [] := by
  rw [List.flatMap_map]
  exact List.flatMap_eq_nil_iff.mpr fun _ _ => rfl

@[simp] lemma flatMap_ofServer_server (out : List EchoObservation) :
    (out.map server).flatMap (ofServer sbytes) = out.flatMap sbytes := by
  rw [List.flatMap_map]
  rfl

/-- The bytes that the server handles are found in what it makes visible. -/
lemma flatMap_ofServer (obs : List SessionObservation) :
    obs.flatMap (ofServer sbytes) = (obs.filterMap server?).flatMap sbytes := by
  induction obs with
  | nil => rfl
  | cons o obs ih =>
    cases o with
    | client o =>
      rw [List.flatMap_cons, ih, List.filterMap_cons_none rfl]
      rfl
    | server o =>
      have hsome : (server o :: obs).filterMap server? = o :: obs.filterMap server? :=
        List.filterMap_cons_some rfl
      rw [List.flatMap_cons, ih, hsome, List.flatMap_cons]
      rfl

end

end SessionObservation

/-- What `send` of the client has taken. -/
def takenBytes (obs : List SessionObservation) : List UInt8 :=
  obs.flatMap (SessionObservation.ofClient ClientObservation.sentBytes)

/-- What the client has printed. -/
def printedBytes (obs : List SessionObservation) : List UInt8 :=
  obs.flatMap (SessionObservation.ofClient ClientObservation.printedBytes)

/-- The lines read by the client, each with its line break. -/
def typedBytes (obs : List SessionObservation) : List UInt8 :=
  obs.flatMap (SessionObservation.ofClient (ClientObservation.messageBytes echoClient))

namespace EchoSession

variable {peer : String} {s s' : EchoSession} {out : List SessionObservation}

/-- What a call of `recv` receives. -/
lemma receivedStream_of_step {c c' : HandleClient} {a : EchoAct} {out : List EchoObservation}
    (h : c.step peer a = some (c', out)) :
    receivedStream out =
      match a with
      | .recv _ chunk => chunk
      | _ => [] := by
  cases a with
  | recv n chunk =>
    rw [HandleClient.step] at h
    split at h
    · cases h
      simp [receivedStream, EchoObservation.receivedBytes]
    · cases h
  | send r =>
    rw [HandleClient.step] at h
    split at h
    · split at h
      all_goals
        cases h
        rfl
    · cases h
  | exec =>
    simp only [HandleClient.step] at h
    split at h
    case h_3 =>
      split at h
      · cases h
      · cases h
        rfl
    all_goals
      cases h
      try rfl

/-- What `recv` returns is the first of what is waiting. -/
lemma MayReceive.eq_append_drop {waiting chunk : List UInt8} {shut : Bool} {n : ℤ}
    (h : MayReceive waiting shut n chunk) : waiting = chunk ++ waiting.drop chunk.length := by
  obtain ⟨rfl, -⟩ := h
  exact List.prefix_append_drop (List.take_prefix _ _)

/-- What the server receives is the first of what is on its way. -/
lemma toServer_eq {a : EchoAct} {server : HandleClient} {sout : List EchoObservation}
    (hallows : s.AllowsServer a) (hstep : s.server.step peer a = some (server, sout)) :
    s.toServer = receivedStream sout ++ s.toServer.drop (receivedStream sout).length := by
  rw [receivedStream_of_step hstep]
  cases a with
  | recv n chunk => exact hallows.eq_append_drop
  | exec => rfl
  | send r => rfl

/-- What the client receives is the first of what is on its way. -/
lemma toClient_eq {a : ClientAct} {client : Client} {cout : List ClientObservation}
    (hallows : s.AllowsClient a) (hstep : s.client.step echoClient a = some (client, cout)) :
    s.toClient = cout.flatMap ClientObservation.receivedBytes ++
      s.toClient.drop (cout.flatMap ClientObservation.receivedBytes).length := by
  rw [Client.receivedBytes_of_step hstep]
  cases a with
  | recv n chunk => exact hallows.eq_append_drop
  | _ => rfl

/-- The way to the server. -/
lemma isStream_toServer (peer : String) :
    IsStream (system peer) EchoSession.toServer
      (SessionObservation.ofClient ClientObservation.sentBytes)
      (SessionObservation.ofServer EchoObservation.receivedBytes) where
  init s hinit := hinit.2.2.1
  step s a s' out hstep := by
    cases a with
    | client a =>
      obtain ⟨cout, -, -, -, hto, -, rfl⟩ := step_client hstep
      simp [hto]
    | server a =>
      obtain ⟨sout, hallows, hserver, -, hto, -, rfl⟩ := step_server hstep
      simp only [SessionObservation.flatMap_ofClient_server,
        SessionObservation.flatMap_ofServer_server, List.append_nil, hto]
      exact toServer_eq hallows hserver

/-- The way to the client. -/
lemma isStream_toClient (peer : String) :
    IsStream (system peer) EchoSession.toClient
      (SessionObservation.ofServer EchoObservation.sentBytes)
      (SessionObservation.ofClient ClientObservation.receivedBytes) where
  init s hinit := hinit.2.2.2
  step s a s' out hstep := by
    cases a with
    | client a =>
      obtain ⟨cout, hallows, hclient, -, -, hto, rfl⟩ := step_client hstep
      simp only [SessionObservation.flatMap_ofServer_client,
        SessionObservation.flatMap_ofClient_client, List.append_nil, hto]
      exact toClient_eq hallows hclient
    | server a =>
      obtain ⟨sout, -, -, -, -, hto, rfl⟩ := step_server hstep
      simp [hto, sentStream]

/-- A stream of the client is one of the session. -/
lemma isStream_ofClient {content : Client → List UInt8}
    {sent received : ClientObservation → List UInt8}
    (hs : IsStream (Client.system echoClient) content sent received) (peer : String) :
    IsStream (system peer) (fun s => content s.client) (SessionObservation.ofClient sent)
      (SessionObservation.ofClient received) where
  init s hinit := hs.init _ hinit.1
  step s a s' out hstep := by
    cases a with
    | client a =>
      obtain ⟨cout, -, hclient, -, -, -, rfl⟩ := step_client hstep
      simp only [SessionObservation.flatMap_ofClient_client]
      exact hs.step _ _ _ _ hclient
    | server a =>
      obtain ⟨sout, -, -, hsame, -, -, rfl⟩ := step_server hstep
      simp [hsame]

/-- The server sends back what it receives. -/
lemma echoing {ts : List (Transition EchoSession SessionAct SessionObservation)}
    (h : (system peer).Run ts s) :
    Echoing ((observations ts).filterMap SessionObservation.server?) s.server := by
  rw [← observations_server h]
  exact echoing_of_run ((isParty_server peer).run h)

/-- **What is printed is what has been typed.**  In every run of a session the bytes printed are the
first of those that `send` has taken, and all of them when nothing is under way; if every call of
`send` takes the whole message, they are the first of those typed. -/
theorem session_echoed {ts : List (Transition EchoSession SessionAct SessionObservation)}
    (h : (system peer).Run ts s) :
    printedBytes (observations ts) <+: takenBytes (observations ts) ∧
      (s.server.point = .recv → s.toServer = [] → s.toClient = [] →
        s.client.receiver.unprinted = [] →
          printedBytes (observations ts) = takenBytes (observations ts)) ∧
      ((∀ msg taken, .client (.sent msg taken) ∈ observations ts → taken = msg) →
        takenBytes (observations ts) <+: typedBytes (observations ts)) := by
  have hscreen := (isStream_ofClient (Client.isStream_screen echoClient) peer).run h
  have hmessages := (isStream_ofClient (Client.isStream_messages echoClient) peer).run h
  have hback := (isStream_toClient peer).run h
  have hforth := (isStream_toServer peer).run h
  obtain ⟨rest, hechoed, howed⟩ := (echoing h).stream
  have hechoed' : (observations ts).flatMap
      (SessionObservation.ofServer EchoObservation.receivedBytes) =
        (observations ts).flatMap (SessionObservation.ofServer EchoObservation.sentBytes) ++
          rest := by
    rw [SessionObservation.flatMap_ofServer, SessionObservation.flatMap_ofServer]
    exact hechoed
  have hchain : takenBytes (observations ts) = printedBytes (observations ts) ++
      (s.client.receiver.unprinted ++ (s.toClient ++ (rest ++ s.toServer))) := by
    rw [takenBytes, hforth, hechoed', hback, hscreen]
    simp only [List.append_assoc, printedBytes]
  refine ⟨⟨_, hchain.symm⟩, ?_, ?_⟩
  · intro hpoint hserver hclient hunprinted
    have hrest : rest = [] := by
      rw [howed (.inr (.inl hpoint)), owed, hpoint]
    rw [hchain, hserver, hclient, hunprinted, hrest]
    simp
  · intro hwhole
    have htaken : takenBytes (observations ts) = (observations ts).flatMap
        (SessionObservation.ofClient ClientObservation.offeredBytes) := by
      refine List.flatMap_congr fun o ho => ?_
      cases o with
      | server o => rfl
      | client o =>
        cases o with
        | sent msg taken => exact hwhole msg taken ho
        | _ => rfl
    rw [htaken]
    exact ⟨_, hmessages.symm⟩

/-- A line is typed, sent in two parts and echoed, and printed in two chunks. -/
def oneLine : List SessionAct :=
  [.server .exec, .client .main, .client (.line (bytesOf "hey")), .client (.send 4),
    .client .receiver, .server (.recv 4 (bytesOf "hey" ++ [10])), .server .exec, .server (.send 3),
    .client (.recv 3 (bytesOf "hey")), .client .receiver, .client .receiver, .server (.send 1),
    .server .exec, .client (.recv 1 [10]), .client .receiver]

/-- The line appears on the screen. -/
theorem session_echoed_oneLine :
    ∃ ts s, (system "127.0.0.1:40000").Run ts s ∧
      takenBytes (observations ts) = bytesOf "hey" ++ [10] ∧
      printedBytes (observations ts) = takenBytes (observations ts) := by
  obtain ⟨ts, s, hrun, htaken, hpoint, hserver, hclient, hunprinted⟩ :=
    (system "127.0.0.1:40000").exists_run oneLine
      (fun ts s => takenBytes (observations ts) = bytesOf "hey" ++ [10] ∧
        s.server.point = .recv ∧ s.toServer = [] ∧ s.toClient = [] ∧
        s.client.receiver.unprinted = [])
      (s := ⟨.initial, ⟨.entry, List.replicate HandleClient.bufSize 0, 0, 0⟩, [], []⟩)
      ⟨rfl, ⟨rfl, List.length_replicate⟩, rfl, rfl⟩ (by decide +kernel)
  exact ⟨ts, s, hrun, htaken, (session_echoed hrun).2.1 hpoint hserver hclient hunprinted⟩

end EchoSession

/-! ### The end of a session -/

/-- The steps that `handle_client` has left, if it receives and owes nothing more. -/
def EchoPoint.work : EchoPoint → ℕ
  | entry => 4
  | recv => 3
  | received => 5
  | sending => 4
  | done => 2
  | closing => 1
  | returned => 0

namespace HandleClient

variable {peer : String} {s s' : HandleClient} {obs out : List EchoObservation}

/-- The steps that `handle_client` has left, if it receives nothing more. -/
def work (s : HandleClient) : ℕ := s.point.work + 4 * s.owed.length

/-- Every step is paid for by the work left or by bytes received, and pays for the bytes sent. -/
lemma Moves.work (hmoves : Moves peer s s' out) (h : Echoing obs s) :
    s'.work + 3 * (sentStream out).length + 1 ≤ s.work + 7 * (receivedStream out).length := by
  unfold HandleClient.work
  cases hmoves with
  | connected hpoint => simp [hpoint, owed, EchoPoint.work, log, sentStream, receivedStream,
      EchoObservation.sentBytes, EchoObservation.receivedBytes]
  | recv n chunk hpoint hn hpos hlength =>
    have howed : (HandleClient.mk .received (chunk ++ s.buf.drop chunk.length) n s.sent).owed =
        chunk := by
      simp only [owed]
      rw [← hlength, List.take_left]
    rw [howed]
    simp only [hpoint, EchoPoint.work, sentStream, receivedStream, EchoObservation.sentBytes,
      EchoObservation.receivedBytes, List.flatMap_singleton, List.length_nil]
    omega
  | recvEnd n hpoint hn => simp [hpoint, owed, EchoPoint.work, sentStream, receivedStream,
      EchoObservation.sentBytes, EchoObservation.receivedBytes]
  | logged hpoint =>
    have howed : (HandleClient.mk .sending s.buf s.n 0).owed = s.owed := by
      simp only [owed, hpoint, pending, Int.toNat_zero, List.drop_zero, Int.sub_zero]
    have hnone : sentStream [log ("[" ++ peer ++ "] ") (s.buf.take s.n.toNat)] = [] := rfl
    simp only [howed, hnone, hpoint, EchoPoint.work, List.length_nil]
    omega
  | sentAll hpoint hsent => simp [hpoint, owed, EchoPoint.work, sentStream, receivedStream]
  | send r hpoint hsent hr hpos =>
    obtain ⟨hnonneg, -⟩ := h.sent_bounds hpoint
    obtain ⟨-, hn⟩ := h.fits (.inr hpoint)
    have hsplit := congrArg List.length (pending_eq r hpos hr hnonneg)
    rw [List.length_append] at hsplit
    have htaken : (s.pending.take r.toNat).length = r.toNat := by
      have hbuf := h.length_buf
      simp only [pending, List.length_take, List.length_drop]
      omega
    have howed : { s with sent := s.sent + r }.owed = { s with sent := s.sent + r }.pending :=
      owed_sending hpoint
    rw [owed_sending hpoint, howed]
    generalize { s with sent := s.sent + r }.pending = rest at hsplit
    simp only [hpoint, EchoPoint.work, sentStream, receivedStream, EchoObservation.sentBytes,
      EchoObservation.receivedBytes, List.flatMap_cons, List.flatMap_nil, List.nil_append,
      List.append_nil, List.length_nil]
    omega
  | sendFails hpoint hsent =>
    have hnone : sentStream [.sendCalled s.sent (s.n - s.sent)] = [] := rfl
    simp only [hpoint, owed, hnone, EchoPoint.work, List.length_nil]
    omega
  | disconnected hpoint => simp [hpoint, owed, EchoPoint.work, log, sentStream, receivedStream,
      EchoObservation.sentBytes, EchoObservation.receivedBytes]
  | closed hpoint => simp [hpoint, owed, EchoPoint.work, sentStream, receivedStream,
      EchoObservation.sentBytes, EchoObservation.receivedBytes]

end HandleClient

/-- The step is a call that fails. -/
def SessionAct.fails : SessionAct → Bool
  | client (.recv n _) => decide (n < 0)
  | client (.send r) => decide (r < 0)
  | server (.recv n _) => decide (n < 0)
  | server (.send r) => decide (r ≤ 0)
  | _ => false

namespace EchoSession

variable {peer : String} {s s' : EchoSession} {out : List SessionObservation}

/-- A bound on the steps left once the client has left its loop. -/
def work (s : EchoSession) : ℕ :=
  s.client.work + 3 * s.toClient.length + s.server.work + 7 * s.toServer.length

/-- After the loop of the client every step uses up work. -/
lemma work_of_step {obs : List EchoObservation} {a : SessionAct}
    (hleft : s.client.main.hasLeft = true) (hechoing : Echoing obs s.server)
    (hstep : (system peer).step s a = some (s', out)) :
    s'.client.main.hasLeft = true ∧ s'.work + 1 ≤ s.work := by
  unfold EchoSession.work
  cases a with
  | client a =>
    obtain ⟨cout, hallows, hclient, hserver, hto, hfrom, -⟩ := step_client hstep
    obtain ⟨hleft', hsilent, hwork⟩ := (Client.moves_of_step hclient).work hleft
    have hreceived := congrArg List.length (toClient_eq hallows hclient)
    rw [List.length_append] at hreceived
    refine ⟨hleft', ?_⟩
    rw [hto, hfrom, hserver, hsilent, List.append_nil]
    omega
  | server a =>
    obtain ⟨sout, hallows, hserver, hclient, hto, hfrom, -⟩ := step_server hstep
    have hwork := (moves_of_step hserver).work hechoing
    have hreceived := congrArg List.length (toServer_eq hallows hserver)
    rw [List.length_append] at hreceived
    refine ⟨hclient ▸ hleft, ?_⟩
    rw [hto, hfrom, hclient, List.length_append]
    omega

/-- `recv` can return something when bytes are waiting. -/
lemma mayReceive_of_ne_nil {waiting : List UInt8} (shut : Bool) (h : waiting ≠ []) :
    ∃ (n : ℤ) (chunk : List UInt8), 0 < n ∧ n ≤ 1024 ∧ chunk.length = n.toNat ∧
      MayReceive waiting shut n chunk := by
  have hpos := List.length_pos_iff.mpr h
  refine ⟨(min 1024 waiting.length : ℕ), waiting.take (min 1024 waiting.length), ?_, ?_, ?_, ?_, ?_⟩
  · omega
  · omega
  · rw [List.length_take, Int.toNat_natCast]
    omega
  · rw [Int.toNat_natCast]
  · intro hzero
    omega

/-- `handle_client` goes on as long as bytes or the end of the stream can reach it. -/
lemma exists_step_server (s : EchoSession) (hshut : s.client.main.hasShut = true)
    (hpoint : s.server.point ≠ .returned) :
    ∃ a, a.fails = false ∧ (system peer).step s a ≠ none := by
  have hexec : ∀ after, s.server.step peer .exec = some after →
      ∃ a, a.fails = false ∧ (system peer).step s a ≠ none := by
    intro after hafter
    refine ⟨.server .exec, rfl, ?_⟩
    simp [system, step, AllowsServer, hafter]
  cases hserver : s.server.point with
  | entry => exact hexec _ (by simp only [HandleClient.step, hserver]; rfl)
  | received => exact hexec _ (by simp only [HandleClient.step, hserver]; rfl)
  | done => exact hexec _ (by simp only [HandleClient.step, hserver]; rfl)
  | closing => exact hexec _ (by simp only [HandleClient.step, hserver]; rfl)
  | returned => exact absurd hserver hpoint
  | sending =>
    by_cases hsent : s.server.sent < s.server.n
    · refine ⟨.server (.send (s.server.n - s.server.sent)), ?_, ?_⟩
      · simp [SessionAct.fails, hsent]
      · have hpos : ¬s.server.n - s.server.sent ≤ 0 := by omega
        simp [system, step, AllowsServer, HandleClient.step, hserver, hsent, hpos]
    · exact hexec _ (by simp only [HandleClient.step, hserver, if_neg hsent]; rfl)
  | recv =>
    by_cases hwaiting : s.toServer = []
    · refine ⟨.server (.recv 0 []), rfl, ?_⟩
      simp [system, step, AllowsServer, MayReceive, HandleClient.step, hserver, hwaiting, hshut,
        HandleClient.bufSize]
    · obtain ⟨n, chunk, hpos, hn, hlength, hmay⟩ :=
        mayReceive_of_ne_nil s.client.main.hasShut hwaiting
      refine ⟨.server (.recv n chunk), ?_, ?_⟩
      · simp [SessionAct.fails]
        omega
      · have hallows : s.AllowsServer (.recv n chunk) := hmay
        have hn' : n ≤ HandleClient.bufSize := hn
        simp [system, step, hallows, HandleClient.step, hserver, hn', hlength]

/-- A step of the client that the connection has no say in. -/
lemma exists_of_client {a : ClientAct} {after : Client × List ClientObservation}
    (hallows : s.AllowsClient a) (hfails : (SessionAct.client a).fails = false)
    (h : s.client.step echoClient a = some after) :
    ∃ a, a.fails = false ∧ (system peer).step s a ≠ none := by
  refine ⟨.client a, hfails, ?_⟩
  simp [system, step, hallows, h]

/-- `recv_loop` finishes or waits for something that the server can give. -/
lemma exists_step_receiver (s : EchoSession) (hshut : s.client.main.hasShut = true)
    (hreceiver : s.client.receiver ≠ .finished) :
    ∃ a, a.fails = false ∧ (system peer).step s a ≠ none := by
  have hexec : ∀ after, s.client.execReceiver echoClient = some after →
      ∃ a, a.fails = false ∧ (system peer).step s a ≠ none := by
    intro after hafter
    exact exists_of_client (a := .receiver) trivial rfl hafter
  cases hpoint : s.client.receiver with
  | condition => exact hexec _ (by simp only [Client.execReceiver, hpoint]; rfl)
  | printing chunk => exact hexec _ (by simp only [Client.execReceiver, hpoint]; rfl)
  | reporting => exact hexec _ (by simp only [Client.execReceiver, hpoint]; rfl)
  | clearing => exact hexec _ (by simp only [Client.execReceiver, hpoint]; rfl)
  | finished => exact absurd hpoint hreceiver
  | receiving =>
    by_cases hwaiting : s.toClient = []
    · by_cases hserver : s.server.point = .returned
      · refine ⟨.client (.recv 0 []), rfl, ?_⟩
        simp [system, step, AllowsClient, MayReceive, Client.step, hpoint, hwaiting, hserver,
          Client.bufSize]
      · exact exists_step_server s hshut hserver
    · obtain ⟨n, chunk, hpos, hn, hlength, hmay⟩ :=
        mayReceive_of_ne_nil (decide (s.server.point = .returned)) hwaiting
      refine ⟨.client (.recv n chunk), ?_, ?_⟩
      · simp [SessionAct.fails]
        omega
      · have hallows : s.AllowsClient (.recv n chunk) := hmay
        have hn' : n ≤ Client.bufSize := hn
        simp [system, step, hallows, Client.step, hpoint, hn', hlength]

/-- Something can happen until both sides have returned. -/
lemma exists_step (s : EchoSession)
    (h : ¬(s.client.main = .returned ∧ s.server.point = .returned)) :
    ∃ a, a.fails = false ∧ (system peer).step s a ≠ none := by
  have hexec : ∀ after, s.client.execMain = some after →
      ∃ a, a.fails = false ∧ (system peer).step s a ≠ none := by
    intro after hafter
    exact exists_of_client (a := .main) trivial rfl hafter
  cases hmain : s.client.main with
  | condition => exact hexec _ (by simp only [Client.execMain, hmain]; rfl)
  | stopping => exact hexec _ (by simp only [Client.execMain, hmain]; rfl)
  | shutting => exact hexec _ (by simp only [Client.execMain, hmain]; rfl)
  | closing => exact hexec _ (by simp only [Client.execMain, hmain]; rfl)
  | reading =>
    exact exists_of_client (a := .endOfInput) trivial rfl (by simp only [Client.step, hmain]; rfl)
  | sending msg =>
    have hall : s.client.step echoClient (.send msg.length) = some
        ({ s.client with main := .condition }, [.sent msg (msg.take (msg.length : ℤ).toNat)]) := by
      simp only [Client.step, hmain]
      exact if_pos (Int.le_refl _)
    exact exists_of_client (a := .send msg.length) trivial (by simp [SessionAct.fails]) hall
  | joining =>
    by_cases hreceiver : s.client.receiver = .finished
    · exact hexec _ (by simp only [Client.execMain, hmain, hreceiver, if_true]; rfl)
    · exact exists_step_receiver s (by rw [hmain]; rfl) hreceiver
  | returned =>
    refine exists_step_server s (by rw [hmain]; rfl) ?_
    intro hpoint
    exact h ⟨hmain, hpoint⟩

/-- In every run `recv_loop` has finished when it has been joined. -/
lemma joined_of_run {ts : List (Transition EchoSession SessionAct SessionObservation)}
    (h : (system peer).Run ts s) : s.client.Joined := by
  refine h.invariant (I := fun s => s.client.Joined) ?_ ?_
  · rintro s ⟨hinit, -⟩
    rw [hinit]
    simp [Client.Joined, Client.initial]
  · intro s a s' out ih hstep
    cases a with
    | client a =>
      obtain ⟨cout, -, hclient, -⟩ := step_client hstep
      exact ih.step hclient
    | server a =>
      obtain ⟨sout, -, -, hsame, -⟩ := step_server hstep
      rw [hsame]
      exact ih

/-- Nothing can happen when both sides have returned. -/
lemma step_eq_none (hjoined : s.client.Joined) (hmain : s.client.main = .returned)
    (hpoint : s.server.point = .returned) (a : SessionAct) : (system peer).step s a = none := by
  have hreceiver : s.client.receiver = .finished := hjoined (.inr hmain)
  cases a with
  | client a =>
    have hnone : s.client.step echoClient a = none := by
      cases a <;> simp [Client.step, Client.execMain, Client.execReceiver, hmain, hreceiver]
    simp [system, step, hnone]
  | server a =>
    have hnone : s.server.step peer a = none := step_eq_none_iff.mpr hpoint a
    simp [system, step, hnone]

/-- **Sessions end.**  The connection itself does not break.  As long as one of the two sides has
not returned, some step other than a failing call is possible; and once the client has left its
loop, the number of steps left is bounded by the bytes under way. -/
theorem session_ends {ts : List (Transition EchoSession SessionAct SessionObservation)}
    (h : (system peer).Run ts s) :
    ((∀ a, a.fails = false → (system peer).step s a = none) ↔
        s.client.main = .returned ∧ s.server.point = .returned) ∧
      ∀ us t vs, ts = us ++ t :: vs → t.post.client.main.hasLeft = true →
        vs.length ≤ t.post.work := by
  refine ⟨⟨fun hstuck => ?_, fun hreturned a _ => ?_⟩, ?_⟩
  · by_contra hopen
    obtain ⟨a, hfails, hstep⟩ := @exists_step peer s hopen
    exact hstep (hstuck a hfails)
  · exact step_eq_none (joined_of_run h) hreturned.1 hreturned.2 a
  · rintro us t vs rfl hleft
    obtain ⟨-, hwork⟩ := h.later_history
      (P := fun vs s => s.client.main.hasLeft = true ∧ vs.length + s.work ≤ t.post.work)
      ⟨hleft, by simp⟩ (by
        rintro vs s a s' out hrun ⟨hleft, hwork⟩ hstep
        obtain ⟨hleft', hless⟩ := work_of_step hleft (echoing hrun) hstep
        rw [List.length_append, List.length_singleton]
        exact ⟨hleft', by omega⟩)
    omega

/-- The input ends at once, and the connection is closed from both sides. -/
def atOnce : List SessionAct :=
  [.client .main, .client .endOfInput, .client .main, .client .main, .server .exec,
    .server (.recv 0 []), .server .exec, .server .exec, .client .receiver, .client .main,
    .client .main]

/-- Both sides have returned. -/
theorem session_ends_atOnce :
    ∃ ts s, (system "127.0.0.1:40000").Run ts s ∧
      ∀ a, a.fails = false → (system "127.0.0.1:40000").step s a = none := by
  obtain ⟨ts, s, hrun, hreturned⟩ := (system "127.0.0.1:40000").exists_run atOnce
    (fun _ s => s.client.main = .returned ∧ s.server.point = .returned)
    (s := ⟨.initial, ⟨.entry, List.replicate HandleClient.bufSize 0, 0, 0⟩, [], []⟩)
    ⟨rfl, ⟨rfl, List.length_replicate⟩, rfl, rfl⟩ (by decide +kernel)
  exact ⟨ts, s, hrun, (session_ends hrun).1.mpr hreturned⟩

end EchoSession

end SystemsDemos
