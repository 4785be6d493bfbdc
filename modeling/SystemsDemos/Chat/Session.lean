import SystemsDemos.Chat.Sockets
import SystemsDemos.Echo.Session
import Mathlib.Logic.Function.Basic

/-!
# A chat server with its clients

Any number of clients of a chat server, with the two directions of the connection of each.  A client
is numbered as its connection will be by `accept`; it may send before that, and hears nothing.
Bytes arrive in order, `recv` reports the end of a direction when the other side has shut it and
nothing is left in it, and any call may fail at any time.

### Outline

* `ChatServer`, `ChatSession` with `step`, and the server as a party;
* the streams of a session, from the keyboard of a client to the server and from the server to the
  screen of a client.
-/

namespace SystemsDemos

/-- The server has closed a connection that it had accepted. -/
def Sockets.hasClosed (s : Sockets) (c : ℕ) : Bool :=
  decide (c < s.accepted) && s.connections.keys.all fun fd => decide (s.connection? fd ≠ some c)

/-- What `recv` of the server may return on a connection. -/
def RecvResult.MayArrive (waiting : List UInt8) (shut : Bool) : RecvResult → Prop
  | data chunk => chunk = waiting.take chunk.length
  | closed => waiting = [] ∧ shut = true
  | _ => True

instance (waiting : List UInt8) (shut : Bool) : DecidablePred (RecvResult.MayArrive waiting shut)
  | .data _ => inferInstanceAs (Decidable (_ = _))
  | .closed => inferInstanceAs (Decidable (_ ∧ _))
  | .again | .error => inferInstanceAs (Decidable True)

/-- A chat server, as its clients meet it. -/
structure ChatServer (σ α : Type) where
  system : System σ α ChatObservation
  sockets : σ → Sockets
  /-- The connection that a step receives on, with what `recv` returns. -/
  receives : σ → α → Option (ℕ × RecvResult)

/-- A server, its clients and the bytes on their way. -/
structure ChatSession (σ : Type) where
  server : σ
  clients : ℕ → Client
  toServer : ℕ → List UInt8
  toClient : ℕ → List UInt8

/-- Who takes a step. -/
inductive ChatSessionAct (α : Type)
  | client (c : ℕ) (a : ClientAct)
  | server (a : α)

/-- What becomes visible, and where. -/
inductive ChatSessionObservation
  | client (c : ℕ) (o : ClientObservation)
  | server (o : ChatObservation)
  /-- The server has received a chunk. -/
  | received (c : ℕ) (chunk : List UInt8)
  deriving DecidableEq

namespace ChatSessionObservation

/-- What the server makes visible. -/
def server? : ChatSessionObservation → Option ChatObservation
  | server o => some o
  | _ => none

/-- The chunk received in a step of the server. -/
def ofReceives : Option (ℕ × RecvResult) → List ChatSessionObservation
  | some (c, .data chunk) => [received c chunk]
  | _ => []

/-- Bytes that a client handles. -/
def ofClient (c : ℕ) (bytes : ClientObservation → List UInt8) :
    ChatSessionObservation → List UInt8
  | client c' o => if c' = c then bytes o else []
  | _ => []

/-- Bytes that the server handles. -/
def ofServer (bytes : ChatObservation → List UInt8) : ChatSessionObservation → List UInt8
  | server o => bytes o
  | _ => []

/-- The bytes that the server receives from a client. -/
def receivedFrom (c : ℕ) : ChatSessionObservation → List UInt8
  | received c' chunk => if c' = c then chunk else []
  | _ => []

end ChatSessionObservation

/-- What `send` of a client has taken. -/
def takenFrom (c : ℕ) (obs : List ChatSessionObservation) : List UInt8 :=
  obs.flatMap (ChatSessionObservation.ofClient c ClientObservation.sentBytes)

/-- What a client has printed. -/
def screenOf (c : ℕ) (obs : List ChatSessionObservation) : List UInt8 :=
  obs.flatMap (ChatSessionObservation.ofClient c ClientObservation.printedBytes)

/-- The messages for the lines that a client has read. -/
def typedBy (c : ℕ) (name : List UInt8) (obs : List ChatSessionObservation) : List UInt8 :=
  obs.flatMap (ChatSessionObservation.ofClient c (ClientObservation.messageBytes (chatClient name)))

/-- What the server has received from a client. -/
def heardFrom (c : ℕ) (obs : List ChatSessionObservation) : List UInt8 :=
  obs.flatMap (ChatSessionObservation.receivedFrom c)

/-- Every call of `send` of a client takes its message whole. -/
def TakesWhole (c : ℕ) (obs : List ChatSessionObservation) : Prop :=
  ∀ msg taken, .client c (.sent msg taken) ∈ obs → taken = msg

namespace ChatSession

variable {σ α : Type} (server : ChatServer σ α) (name : ℕ → List UInt8)

/-- What the connection says to a call of a client. -/
def AllowsClient (s : ChatSession σ) (c : ℕ) : ClientAct → Prop
  | .recv n chunk =>
      EchoSession.MayReceive (s.toClient c) ((server.sockets s.server).hasClosed c) n chunk
  | _ => True

/-- What the connections say to a step of the server. -/
def AllowsServer (s : ChatSession σ) (a : α) : Prop :=
  match server.receives s.server a with
  | some (c, r) => r.MayArrive (s.toServer c) (s.clients c).main.hasShut
  | none => True

instance (s : ChatSession σ) (c : ℕ) : DecidablePred (s.AllowsClient server c)
  | .recv _ _ => inferInstanceAs (Decidable (EchoSession.MayReceive _ _ _ _))
  | .main | .line _ | .endOfInput | .send _ | .receiver => inferInstanceAs (Decidable True)

instance (s : ChatSession σ) : DecidablePred (s.AllowsServer server) := fun a => by
  unfold AllowsServer
  split <;> infer_instance

/-- The bytes on their way to the server after it has received some of them. -/
def drained (s : ChatSession σ) (received : Option (ℕ × RecvResult)) (c : ℕ) : List UInt8 :=
  (s.toServer c).drop (heardFrom c (ChatSessionObservation.ofReceives received)).length

/-- A step of the session. -/
def step (s : ChatSession σ) :
    ChatSessionAct α → Option (ChatSession σ × List ChatSessionObservation)
  | .client c a =>
      if s.AllowsClient server c a then
        ((s.clients c).step (chatClient (name c)) a).map fun (client, out) =>
          ({ s with
              clients := Function.update s.clients c client
              toServer := Function.update s.toServer c
                (s.toServer c ++ out.flatMap ClientObservation.sentBytes)
              toClient := Function.update s.toClient c
                ((s.toClient c).drop (out.flatMap ClientObservation.receivedBytes).length) },
            out.map (.client c))
      else none
  | .server a =>
      if s.AllowsServer server a then
        (server.system.step s.server a).map fun (after, out) =>
          ({ s with
              server := after
              toServer := s.drained (server.receives s.server a)
              toClient := fun c => s.toClient c ++ bytesTo c out },
            ChatSessionObservation.ofReceives (server.receives s.server a) ++ out.map .server)
      else none

/-- The clients are connected and have sent nothing yet. -/
def system : System (ChatSession σ) (ChatSessionAct α) ChatSessionObservation where
  init s := server.system.init s.server ∧ s.clients = (fun _ => .initial) ∧
    s.toServer = (fun _ => []) ∧ s.toClient = fun _ => []
  step := step server name

variable {server name} {s s' : ChatSession σ} {c : ℕ} {out : List ChatSessionObservation}
  {ts : List (Transition (ChatSession σ) (ChatSessionAct α) ChatSessionObservation)}

/-! ### The parties -/

/-- What a step of a client does to the session. -/
lemma step_client {a : ClientAct} (h : (system server name).step s (.client c a) = some (s', out)) :
    ∃ client cout, s.AllowsClient server c a ∧
      (s.clients c).step (chatClient (name c)) a = some (client, cout) ∧
      s'.server = s.server ∧ s'.clients = Function.update s.clients c client ∧
      s'.toServer = Function.update s.toServer c
        (s.toServer c ++ cout.flatMap ClientObservation.sentBytes) ∧
      s'.toClient = Function.update s.toClient c
        ((s.toClient c).drop (cout.flatMap ClientObservation.receivedBytes).length) ∧
      out = cout.map (.client c) := by
  simp only [system, step] at h
  split at h
  · next hallows =>
    obtain ⟨⟨client, cout⟩, hstep, heq⟩ := Option.map_eq_some_iff.mp h
    cases heq
    exact ⟨client, cout, hallows, hstep, rfl, rfl, rfl, rfl, rfl⟩
  · cases h

/-- What a step of the server does to the session. -/
lemma step_server {a : α} (h : (system server name).step s (.server a) = some (s', out)) :
    ∃ sout, s.AllowsServer server a ∧ server.system.step s.server a = some (s'.server, sout) ∧
      s'.clients = s.clients ∧ s'.toServer = s.drained (server.receives s.server a) ∧
      s'.toClient = (fun c => s.toClient c ++ bytesTo c sout) ∧
      out = ChatSessionObservation.ofReceives (server.receives s.server a) ++
        sout.map .server := by
  simp only [system, step] at h
  split at h
  · next hallows =>
    obtain ⟨⟨after, sout⟩, hstep, heq⟩ := Option.map_eq_some_iff.mp h
    cases heq
    exact ⟨sout, hallows, hstep, rfl, rfl, rfl, rfl⟩
  · cases h

/-- What the server does in a step. -/
def serverPart (t : Transition (ChatSession σ) (ChatSessionAct α) ChatSessionObservation) :
    Option (Transition σ α ChatObservation) :=
  match t.act with
  | .client _ _ => none
  | .server a =>
      some ⟨t.pre.server, a, t.post.server, t.out.filterMap ChatSessionObservation.server?⟩

lemma filterMap_server (received : Option (ℕ × RecvResult)) (out : List ChatObservation) :
    (ChatSessionObservation.ofReceives received ++ out.map ChatSessionObservation.server).filterMap
      ChatSessionObservation.server? = out := by
  have hreceived : (ChatSessionObservation.ofReceives received).filterMap
      ChatSessionObservation.server? = [] := by
    unfold ChatSessionObservation.ofReceives
    split <;> rfl
  rw [List.filterMap_append, hreceived, List.filterMap_map, List.nil_append]
  exact List.filterMap_some

lemma filterMap_server_client (c : ℕ) (out : List ClientObservation) :
    (out.map (ChatSessionObservation.client c)).filterMap ChatSessionObservation.server? = [] := by
  simp [ChatSessionObservation.server?]

/-- The server is a party of the session. -/
lemma isParty_server (server : ChatServer σ α) (name : ℕ → List UInt8) :
    IsParty (system server name) server.system ChatSession.server serverPart where
  init s hinit := hinit.1
  idle t hvalid hpart := by
    obtain ⟨pre, act, post, out⟩ := t
    cases act with
    | client c a =>
      obtain ⟨-, -, -, -, hsame, -⟩ := step_client hvalid
      exact hsame
    | server a => cases hpart
  move t u hvalid hpart := by
    obtain ⟨pre, act, post, out⟩ := t
    cases act with
    | client c a => cases hpart
    | server a =>
      have hwhole : (system server name).step pre (.server a) = some (post, out) := hvalid
      obtain ⟨sout, -, hstep, -, -, -, rfl⟩ := step_server hwhole
      cases hpart
      refine ⟨rfl, rfl, ?_⟩
      rw [System.Valid, filterMap_server]
      exact hstep

/-- What the server makes visible in a run. -/
lemma observations_server (h : (system server name).Run ts s) :
    observations (ts.filterMap serverPart) =
      (observations ts).filterMap ChatSessionObservation.server? := by
  refine h.observations_part fun t hvalid => ?_
  obtain ⟨pre, act, post, out⟩ := t
  cases act with
  | client c a =>
    obtain ⟨-, cout, -, -, -, -, -, -, rfl⟩ := step_client hvalid
    exact (filterMap_server_client c cout).symm
  | server a => rfl

/-! ### The streams -/

section

variable (bytes : ClientObservation → List UInt8) (sbytes : ChatObservation → List UInt8)
  (received : Option (ℕ × RecvResult))

@[simp] lemma flatMap_ofClient_client (c c' : ℕ) (out : List ClientObservation) :
    (out.map (ChatSessionObservation.client c')).flatMap
      (ChatSessionObservation.ofClient c bytes) =
        if c' = c then out.flatMap bytes else [] := by
  rw [List.flatMap_map]
  by_cases hc : c' = c
  · rw [if_pos hc]
    exact List.flatMap_congr fun o _ => if_pos hc
  · rw [if_neg hc]
    exact List.flatMap_eq_nil_iff.mpr fun o _ => if_neg hc

@[simp] lemma flatMap_ofClient_server (c : ℕ) (out : List ChatObservation) :
    (ChatSessionObservation.ofReceives received ++ out.map ChatSessionObservation.server).flatMap
      (ChatSessionObservation.ofClient c bytes) = [] := by
  refine List.flatMap_eq_nil_iff.mpr fun o ho => ?_
  rcases List.mem_append.mp ho with ho | ho
  · unfold ChatSessionObservation.ofReceives at ho
    split at ho
    · obtain rfl := List.mem_singleton.mp ho
      rfl
    · cases ho
  · obtain ⟨o, -, rfl⟩ := List.mem_map.mp ho
    rfl

@[simp] lemma flatMap_ofServer_client (c : ℕ) (out : List ClientObservation) :
    (out.map (ChatSessionObservation.client c)).flatMap
      (ChatSessionObservation.ofServer sbytes) = [] := by
  rw [List.flatMap_map]
  exact List.flatMap_eq_nil_iff.mpr fun _ _ => rfl

/-- The bytes that the server handles are found in what it makes visible. -/
lemma flatMap_ofServer (obs : List ChatSessionObservation) :
    obs.flatMap (ChatSessionObservation.ofServer sbytes) =
      (obs.filterMap ChatSessionObservation.server?).flatMap sbytes := by
  induction obs with
  | nil => rfl
  | cons o obs ih =>
    cases o with
    | client c o =>
      rw [List.flatMap_cons, ih, List.filterMap_cons_none rfl]
      rfl
    | received c chunk =>
      rw [List.flatMap_cons, ih, List.filterMap_cons_none rfl]
      rfl
    | server o =>
      have hsome : (ChatSessionObservation.server o :: obs).filterMap
          ChatSessionObservation.server? = o :: obs.filterMap ChatSessionObservation.server? :=
        List.filterMap_cons_some rfl
      rw [List.flatMap_cons, ih, hsome, List.flatMap_cons]
      rfl

@[simp] lemma heardFrom_client (c c' : ℕ) (out : List ClientObservation) :
    heardFrom c (out.map (ChatSessionObservation.client c')) = [] := by
  rw [heardFrom, List.flatMap_map]
  exact List.flatMap_eq_nil_iff.mpr fun _ _ => rfl

@[simp] lemma heardFrom_server (c : ℕ) (out : List ChatObservation) :
    heardFrom c
      (ChatSessionObservation.ofReceives received ++ out.map ChatSessionObservation.server) =
        heardFrom c (ChatSessionObservation.ofReceives received) := by
  have hserver : (out.map ChatSessionObservation.server).flatMap
      (ChatSessionObservation.receivedFrom c) = [] := by
    rw [List.flatMap_map]
    exact List.flatMap_eq_nil_iff.mpr fun _ _ => rfl
  rw [heardFrom, List.flatMap_append, hserver, List.append_nil, heardFrom]

end

/-- The bytes taken for a connection, one observation at a time. -/
lemma flatMap_bytesTo (c : ℕ) (out : List ChatObservation) :
    (out.flatMap fun o => bytesTo c [o]) = bytesTo c out := by
  induction out with
  | nil => rfl
  | cons o out ih =>
    rw [List.flatMap_cons, ih, ← bytesTo_append, List.singleton_append]

/-- What the server receives is the first of what is on its way. -/
lemma toServer_eq {a : α} (hallows : s.AllowsServer server a) (c : ℕ) :
    s.toServer c = heardFrom c (ChatSessionObservation.ofReceives (server.receives s.server a)) ++
      s.drained (server.receives s.server a) c := by
  unfold AllowsServer at hallows
  unfold drained
  generalize server.receives s.server a = received at hallows
  match received with
  | none => rfl
  | some (_, .closed) => rfl
  | some (_, .again) => rfl
  | some (_, .error) => rfl
  | some (c', .data chunk) =>
    by_cases hc : c' = c
    · subst hc
      have hchunk : chunk = (s.toServer c').take chunk.length := hallows
      have hheard : heardFrom c' (ChatSessionObservation.ofReceives (some (c', .data chunk))) =
          chunk := by
        simp [ChatSessionObservation.ofReceives, heardFrom, ChatSessionObservation.receivedFrom]
      have hprefix : chunk <+: s.toServer c' := by
        rw [hchunk]
        exact List.take_prefix _ _
      rw [hheard]
      exact List.prefix_append_drop hprefix
    · have hheard : heardFrom c (ChatSessionObservation.ofReceives (some (c', .data chunk))) =
          [] := by
        simp [ChatSessionObservation.ofReceives, heardFrom, ChatSessionObservation.receivedFrom, hc]
      rw [hheard]
      rfl

/-- What a client receives is the first of what is on its way. -/
lemma toClient_eq {a : ClientAct} {client : Client} {cout : List ClientObservation}
    (hallows : s.AllowsClient server c a)
    (hstep : (s.clients c).step (chatClient (name c)) a = some (client, cout)) :
    s.toClient c = cout.flatMap ClientObservation.receivedBytes ++
      (s.toClient c).drop (cout.flatMap ClientObservation.receivedBytes).length := by
  rw [Client.receivedBytes_of_step hstep]
  cases a with
  | recv n chunk => exact EchoSession.MayReceive.eq_append_drop hallows
  | _ => rfl

/-- The way to the server. -/
lemma isStream_toServer (server : ChatServer σ α) (name : ℕ → List UInt8) (c : ℕ) :
    IsStream (system server name) (fun s => s.toServer c)
      (ChatSessionObservation.ofClient c ClientObservation.sentBytes)
      (ChatSessionObservation.receivedFrom c) where
  init s hinit := congrFun hinit.2.2.1 c
  step s a s' out hstep := by
    cases a with
    | client c' a =>
      obtain ⟨client, cout, -, -, -, -, hto, -, rfl⟩ := step_client hstep
      rw [flatMap_ofClient_client, hto, ← heardFrom, heardFrom_client, List.nil_append]
      by_cases hc : c' = c
      · subst hc
        rw [if_pos rfl, Function.update_self]
      · rw [if_neg hc, Function.update_of_ne (Ne.symm hc), List.append_nil]
    | server a =>
      obtain ⟨sout, hallows, -, -, hto, -, rfl⟩ := step_server hstep
      rw [flatMap_ofClient_server, List.append_nil, hto, ← heardFrom, heardFrom_server]
      exact toServer_eq hallows c

/-- The way to a client. -/
lemma isStream_toClient (server : ChatServer σ α) (name : ℕ → List UInt8) (c : ℕ) :
    IsStream (system server name) (fun s => s.toClient c)
      (ChatSessionObservation.ofServer fun o => bytesTo c [o])
      (ChatSessionObservation.ofClient c ClientObservation.receivedBytes) where
  init s hinit := congrFun hinit.2.2.2 c
  step s a s' out hstep := by
    cases a with
    | client c' a =>
      obtain ⟨client, cout, hallows, hclient, -, -, -, hto, rfl⟩ := step_client hstep
      rw [flatMap_ofServer_client, List.append_nil, flatMap_ofClient_client, hto]
      by_cases hc : c' = c
      · subst hc
        rw [if_pos rfl, Function.update_self]
        exact toClient_eq hallows hclient
      · rw [if_neg hc, Function.update_of_ne (Ne.symm hc), List.nil_append]
    | server a =>
      obtain ⟨sout, -, -, -, -, hto, rfl⟩ := step_server hstep
      rw [flatMap_ofClient_server, List.nil_append, flatMap_ofServer, filterMap_server,
        flatMap_bytesTo, hto]

/-- A stream of a client is one of the session. -/
lemma isStream_ofClient {content : Client → List UInt8}
    {sent received : ClientObservation → List UInt8} (server : ChatServer σ α)
    (name : ℕ → List UInt8) (c : ℕ)
    (hs : IsStream (Client.system (chatClient (name c))) content sent received) :
    IsStream (system server name) (fun s => content (s.clients c))
      (ChatSessionObservation.ofClient c sent) (ChatSessionObservation.ofClient c received) where
  init s hinit := hs.init _ (congrFun hinit.2.1 c)
  step s a s' out hstep := by
    cases a with
    | client c' a =>
      obtain ⟨client, cout, -, hclient, -, hclients, -, -, rfl⟩ := step_client hstep
      rw [flatMap_ofClient_client, flatMap_ofClient_client, hclients]
      by_cases hc : c' = c
      · subst hc
        rw [if_pos rfl, if_pos rfl, Function.update_self]
        exact hs.step _ _ _ _ hclient
      · rw [if_neg hc, if_neg hc, Function.update_of_ne (Ne.symm hc), List.append_nil,
          List.nil_append]
    | server a =>
      obtain ⟨sout, -, -, hsame, -, -, rfl⟩ := step_server hstep
      rw [flatMap_ofClient_server, flatMap_ofClient_server, hsame, List.append_nil,
        List.nil_append]

/-- What `send` of a client has taken is what the server has received and what is on its way. -/
theorem takenFrom_eq (h : (system server name).Run ts s) (c : ℕ) :
    takenFrom c (observations ts) = heardFrom c (observations ts) ++ s.toServer c :=
  (isStream_toServer server name c).run h

/-- What the server has sent to a client is what is on its screen, what has not been printed yet and
what is on its way. -/
theorem bytesTo_eq (h : (system server name).Run ts s) (c : ℕ) :
    bytesTo c (observations (ts.filterMap serverPart)) =
      screenOf c (observations ts) ++ ((s.clients c).receiver.unprinted ++ s.toClient c) := by
  have hback := (isStream_toClient server name c).run h
  have hscreen :=
    (isStream_ofClient server name c (Client.isStream_screen (chatClient (name c)))).run h
  rw [flatMap_ofServer, flatMap_bytesTo, ← observations_server h, hscreen] at hback
  rw [hback, List.append_assoc, screenOf]

/-- If `send` takes every message whole, what it has taken is the first of what has been typed. -/
theorem takenFrom_prefix (h : (system server name).Run ts s)
    (hwhole : TakesWhole c (observations ts)) :
    takenFrom c (observations ts) <+: typedBy c (name c) (observations ts) := by
  have hmessages :=
    (isStream_ofClient server name c (Client.isStream_messages (chatClient (name c)))).run h
  have htaken : takenFrom c (observations ts) = (observations ts).flatMap
      (ChatSessionObservation.ofClient c ClientObservation.offeredBytes) := by
    refine List.flatMap_congr fun o ho => ?_
    cases o with
    | server o => rfl
    | received c' chunk => rfl
    | client c' o =>
      by_cases hc : c' = c
      · subst hc
        cases o with
        | sent msg taken =>
          obtain rfl := hwhole msg taken ho
          rfl
        | _ => rfl
      · exact (if_neg hc).trans (if_neg hc).symm
  rw [htaken]
  exact ⟨_, hmessages.symm⟩

end ChatSession

end SystemsDemos
