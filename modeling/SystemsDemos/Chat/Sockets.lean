import Mathlib.Data.List.AList
import Mathlib.Data.Finset.Basic
import Mathlib.Data.Finset.Dedup
import Mathlib.Data.Finset.Range

/-!
# Sockets of the chat servers

The chat servers share the operating system below them and the messages above.  A descriptor is a
number that the kernel gives out again once it is closed; the connection behind it is numbered in
the order of `accept`, so that it can be told apart from a later connection with the same
descriptor.  What `accept`, `recv` and `send` return is up to the environment.

### Outline

* `Sockets`, with `accept` and `close`;
* `PeerAddress`, `Announcement` and the messages;
* `SendResult`, `Sockets.send`, and what a broadcast sends to a connection.
-/

namespace SystemsDemos

/-! ### Descriptors and connections -/

/-- The open sockets of a server. -/
structure Sockets where
  /-- The listening socket. -/
  serverFd : ℕ
  /-- The connection behind each other open descriptor. -/
  connections : AList fun _ : ℕ => ℕ
  /-- The number of connections that `accept` has returned. -/
  accepted : ℕ
  serverFd_notMem : serverFd ∉ connections
  lt_accepted : ∀ fd c, connections.lookup fd = some c → c < accepted
  injective : ∀ fd fd' c, connections.lookup fd = some c → connections.lookup fd' = some c →
    fd = fd'
  deriving DecidableEq

namespace Sockets

variable (s : Sockets)

/-- The connection behind a descriptor, if it is an open connection. -/
def connection? (fd : ℕ) : Option ℕ := s.connections.lookup fd

/-- A server that has opened its listening socket. -/
def listening (serverFd : ℕ) : Sockets where
  serverFd := serverFd
  connections := ∅
  accepted := 0
  serverFd_notMem := by simp
  lt_accepted := by simp
  injective := by simp

/-- `accept` returns the descriptor `fd`, which no open socket has. -/
def accept (fd : ℕ) : Option Sockets :=
  if h : fd ≠ s.serverFd ∧ fd ∉ s.connections then
    some
      { serverFd := s.serverFd
        connections := s.connections.insert fd s.accepted
        accepted := s.accepted + 1
        serverFd_notMem := by
          rw [AList.mem_insert]
          rintro (hserver | hmem)
          · exact h.1 hserver.symm
          · exact s.serverFd_notMem hmem
        lt_accepted := by
          intro fd' c hc
          by_cases hfd : fd' = fd
          · subst hfd
            rw [AList.lookup_insert] at hc
            obtain rfl := Option.some.inj hc
            exact Nat.lt_succ_self _
          · rw [AList.lookup_insert_ne hfd] at hc
            exact Nat.lt_succ_of_lt (s.lt_accepted fd' c hc)
        injective := by
          have hold : ∀ fd', s.connections.lookup fd' ≠ some s.accepted := by
            intro fd' hfd'
            exact Nat.lt_irrefl _ (s.lt_accepted fd' _ hfd')
          intro fd₁ fd₂ c h₁ h₂
          by_cases hfd₁ : fd₁ = fd <;> by_cases hfd₂ : fd₂ = fd
          · rw [hfd₁, hfd₂]
          · subst hfd₁
            rw [AList.lookup_insert] at h₁
            obtain rfl := Option.some.inj h₁
            rw [AList.lookup_insert_ne hfd₂] at h₂
            exact (hold fd₂ h₂).elim
          · subst hfd₂
            rw [AList.lookup_insert] at h₂
            obtain rfl := Option.some.inj h₂
            rw [AList.lookup_insert_ne hfd₁] at h₁
            exact (hold fd₁ h₁).elim
          · rw [AList.lookup_insert_ne hfd₁] at h₁
            rw [AList.lookup_insert_ne hfd₂] at h₂
            exact s.injective fd₁ fd₂ c h₁ h₂ }
  else none

/-- `close(fd)`. -/
def close (fd : ℕ) : Sockets where
  serverFd := s.serverFd
  connections := s.connections.erase fd
  accepted := s.accepted
  serverFd_notMem := by
    rw [AList.mem_erase]
    rintro ⟨-, hmem⟩
    exact s.serverFd_notMem hmem
  lt_accepted := by
    intro fd' c hc
    by_cases hfd : fd' = fd
    · rw [hfd, AList.lookup_erase] at hc
      cases hc
    · rw [AList.lookup_erase_ne hfd] at hc
      exact s.lt_accepted fd' c hc
  injective := by
    intro fd₁ fd₂ c h₁ h₂
    by_cases hfd₁ : fd₁ = fd
    · rw [hfd₁, AList.lookup_erase] at h₁
      cases h₁
    · by_cases hfd₂ : fd₂ = fd
      · rw [hfd₂, AList.lookup_erase] at h₂
        cases h₂
      · rw [AList.lookup_erase_ne hfd₁] at h₁
        rw [AList.lookup_erase_ne hfd₂] at h₂
        exact s.injective fd₁ fd₂ c h₁ h₂

variable {s} {s' : Sockets} {fd fd' c : ℕ}

/-- What a successful `accept` says about the descriptor and the sockets after it. -/
lemma accept_spec (h : s.accept fd = some s') :
    fd ≠ s.serverFd ∧ s.connection? fd = none ∧ s'.serverFd = s.serverFd ∧
      s'.accepted = s.accepted + 1 ∧ s'.connections = s.connections.insert fd s.accepted := by
  unfold accept at h
  split at h
  · next hfree =>
    obtain rfl := Option.some.inj h
    exact ⟨hfree.1, AList.lookup_eq_none.mpr hfree.2, rfl, rfl, rfl⟩
  · cases h

/-- The new descriptor has the new connection behind it. -/
lemma connection?_accept_self (h : s.accept fd = some s') :
    s'.connection? fd = some s.accepted := by
  obtain ⟨-, -, -, -, hconn⟩ := accept_spec h
  rw [connection?, hconn, AList.lookup_insert]

/-- `accept` leaves the other descriptors alone. -/
lemma connection?_accept_ne (h : s.accept fd = some s') (hne : fd' ≠ fd) :
    s'.connection? fd' = s.connection? fd' := by
  obtain ⟨-, -, -, -, hconn⟩ := accept_spec h
  rw [connection?, hconn, AList.lookup_insert_ne hne, connection?]

/-- There is always a descriptor for `accept` to return. -/
lemma exists_accept (s : Sockets) : ∃ fd s', s.accept fd = some s' := by
  obtain ⟨n, hn⟩ := (insert s.serverFd s.connections.keys.toFinset).exists_nat_subset_range
  have hserver : n ≠ s.serverFd := by
    rintro rfl
    exact Finset.notMem_range_self (hn (Finset.mem_insert_self _ _))
  have hmem : n ∉ s.connections := by
    intro hmem
    rw [AList.mem_keys, ← List.mem_toFinset] at hmem
    exact Finset.notMem_range_self (hn (Finset.mem_insert_of_mem hmem))
  exact ⟨n, _, dif_pos ⟨hserver, hmem⟩⟩

/-- A descriptor with a connection is not the listening socket. -/
lemma ne_serverFd (h : s.connection? fd = some c) : fd ≠ s.serverFd := by
  rintro rfl
  cases (AList.lookup_eq_none.mpr s.serverFd_notMem).symm.trans h

@[simp] lemma serverFd_close : (s.close fd).serverFd = s.serverFd := rfl

@[simp] lemma accepted_close : (s.close fd).accepted = s.accepted := rfl

/-- A closed descriptor has no connection behind it. -/
@[simp] lemma connection?_close_self : (s.close fd).connection? fd = none :=
  AList.lookup_erase fd s.connections

/-- `close` leaves the other descriptors alone. -/
lemma connection?_close_ne (hne : fd' ≠ fd) :
    (s.close fd).connection? fd' = s.connection? fd' :=
  AList.lookup_erase_ne hne

/-- The connections after `close` were there before. -/
lemma connection?_of_close (h : (s.close fd).connection? fd' = some c) :
    fd' ≠ fd ∧ s.connection? fd' = some c := by
  by_cases hne : fd' = fd
  · rw [hne, connection?_close_self] at h
    cases h
  · exact ⟨hne, by rwa [connection?_close_ne hne] at h⟩

@[simp] lemma connection?_listening (serverFd : ℕ) :
    (listening serverFd).connection? fd = none := rfl

end Sockets

/-! ### Messages -/

/-- The address of a client, as `accept` reports it. -/
structure PeerAddress where
  /-- The four bytes of `sin_addr`. -/
  address : UInt8 × UInt8 × UInt8 × UInt8
  /-- `ntohs(sin_port)`. -/
  port : UInt16
  deriving DecidableEq

/-- `inet_ntop(AF_INET, ...)`. -/
def PeerAddress.ip (a : PeerAddress) : String :=
  toString a.address.1 ++ "." ++ toString a.address.2.1 ++ "." ++ toString a.address.2.2.1 ++
    "." ++ toString a.address.2.2.2

/-- `std::string(ip) + ":" + std::to_string(port)`. -/
def PeerAddress.peer (a : PeerAddress) : String := a.ip ++ ":" ++ toString a.port

/-- What a server tells the clients. -/
inductive Announcement
  | joined (peer : String)
  | said (peer : String) (chunk : List UInt8)
  | left (peer : String)
  deriving DecidableEq

namespace Announcement

/-- The bytes of a string. -/
def bytes (s : String) : List UInt8 := s.toUTF8.data.toList

/-- The message of an announcement. -/
def msg : Announcement → List UInt8
  | joined peer => bytes "*** " ++ bytes peer ++ bytes " joined ***\n"
  | said peer chunk => bytes "[" ++ bytes peer ++ bytes "] " ++ chunk
  | left peer => bytes "*** " ++ bytes peer ++ bytes " left ***\n"

/-- The announcement is about who is there, not about what somebody says. -/
def isMembership : Announcement → Bool
  | said _ _ => false
  | _ => true

end Announcement

/-! ### Sending and receiving -/

/-- What `recv` returns. -/
inductive RecvResult
  /-- A positive count, with the bytes received. -/
  | data (chunk : List UInt8)
  /-- Zero: the client has closed its side. -/
  | closed
  /-- Negative, with `EAGAIN` or `EWOULDBLOCK`. -/
  | again
  /-- Negative, with any other `errno`. -/
  | error
  deriving DecidableEq

/-- `BUF_SIZE`. -/
def bufSize : ℕ := 1024

/-- `recv` on an open connection gives between one byte and a full buffer; on a closed descriptor
it fails with `EBADF`. -/
def RecvResult.possible (r : RecvResult) (conn : Option ℕ) : Bool :=
  match conn, r with
  | some _, data chunk => decide (0 < chunk.length ∧ chunk.length ≤ bufSize)
  | some _, _ => true
  | none, error => true
  | none, _ => false

/-- What `send` returns. -/
inductive SendResult
  /-- The number of bytes taken into the socket buffer. -/
  | count (n : ℕ)
  | again
  | error
  deriving DecidableEq

/-- The bytes of a message that the socket has taken. -/
def SendResult.taken (msg : List UInt8) : SendResult → List UInt8
  | count n => msg.take n
  | _ => []

/-- What a chat server makes visible. -/
inductive ChatObservation
  /-- An announcement is written to `std::cout` by the handler of a connection. -/
  | announced (conn : Option ℕ) (a : Announcement)
  /-- `send` is called for a message on an open connection. -/
  | sent (conn : ℕ) (msg : List UInt8) (result : SendResult)
  deriving DecidableEq

/-- The messages sent to a connection. -/
def messagesTo (c : ℕ) (out : List ChatObservation) : List (List UInt8) :=
  out.filterMap fun
    | .sent conn msg _ => if conn = c then some msg else none
    | _ => none

/-- The bytes that the socket of a connection has taken. -/
def bytesTo (c : ℕ) (out : List ChatObservation) : List UInt8 :=
  out.flatMap fun
    | .sent conn msg result => if conn = c then result.taken msg else []
    | _ => []

/-- The announcements made about a connection. -/
def announcementsOf (c : ℕ) (out : List ChatObservation) : List Announcement :=
  out.filterMap fun
    | .announced conn a => if conn = some c then some a else none
    | _ => none

section Observed

variable (c : ℕ) (out out' : List ChatObservation)

@[simp] lemma messagesTo_nil : messagesTo c [] = [] := rfl

@[simp] lemma messagesTo_append :
    messagesTo c (out ++ out') = messagesTo c out ++ messagesTo c out' :=
  List.filterMap_append

@[simp] lemma messagesTo_announced (conn : Option ℕ) (a : Announcement) :
    messagesTo c (.announced conn a :: out) = messagesTo c out := rfl

@[simp] lemma messagesTo_singleton_sent (conn : ℕ) (msg : List UInt8) (result : SendResult) :
    messagesTo c [.sent conn msg result] = if conn = c then [msg] else [] := by
  by_cases hconn : conn = c <;> simp [messagesTo, hconn]

@[simp] lemma bytesTo_singleton_announced (conn : Option ℕ) (a : Announcement) :
    bytesTo c [.announced conn a] = [] := rfl

@[simp] lemma bytesTo_singleton_sent (conn : ℕ) (msg : List UInt8) (result : SendResult) :
    bytesTo c [.sent conn msg result] = if conn = c then result.taken msg else [] := by
  simp [bytesTo]

@[simp] lemma bytesTo_append : bytesTo c (out ++ out') = bytesTo c out ++ bytesTo c out' :=
  List.flatMap_append

@[simp] lemma announcementsOf_append :
    announcementsOf c (out ++ out') = announcementsOf c out ++ announcementsOf c out' :=
  List.filterMap_append

end Observed

namespace Sockets

variable (s : Sockets)

/-- `send(fd, msg)`.  On a closed descriptor it fails with `EBADF` and reaches nobody. -/
def send (msg : List UInt8) (fd : ℕ) (result : SendResult) : List ChatObservation :=
  match s.connection? fd with
  | some c => [.sent c msg result]
  | none => []

/-- The calls of `send` of a broadcast, one for each recipient. -/
def sendAll (msg : List UInt8) (sends : List (ℕ × SendResult)) : List ChatObservation :=
  sends.flatMap fun p => s.send msg p.1 p.2

variable (msg : List UInt8) (c : ℕ)

/-- What `send` sends to a connection. -/
lemma messagesTo_send (fd : ℕ) (result : SendResult) :
    messagesTo c (s.send msg fd result) = if s.connection? fd = some c then [msg] else [] := by
  unfold send
  cases s.connection? fd with
  | none => rfl
  | some c' => simp

/-- A broadcast sends its message once to each connection behind a recipient. -/
lemma messagesTo_sendAll {sends : List (ℕ × SendResult)} (hnodup : (sends.map Prod.fst).Nodup) :
    messagesTo c (s.sendAll msg sends) =
      if ∃ fd ∈ sends.map Prod.fst, s.connection? fd = some c then [msg] else [] := by
  induction sends with
  | nil => simp [sendAll]
  | cons p sends ih =>
    rw [List.map_cons, List.nodup_cons] at hnodup
    have hrest := ih hnodup.2
    have hcons : s.sendAll msg (p :: sends) = s.send msg p.1 p.2 ++ s.sendAll msg sends := rfl
    rw [hcons, messagesTo_append, messagesTo_send, hrest]
    by_cases hp : s.connection? p.1 = some c
    · have hnone : ¬∃ fd ∈ sends.map Prod.fst, s.connection? fd = some c := by
        rintro ⟨fd, hfd, hc⟩
        exact hnodup.1 (s.injective p.1 fd c hp hc ▸ hfd)
      rw [if_pos hp, if_neg hnone, if_pos ⟨p.1, by simp, hp⟩, List.append_nil]
    · have hiff : (∃ fd ∈ (p :: sends).map Prod.fst, s.connection? fd = some c) ↔
          ∃ fd ∈ sends.map Prod.fst, s.connection? fd = some c := by
        simp only [List.map_cons, List.mem_cons, exists_eq_or_imp, hp, false_or]
      rw [if_neg hp, List.nil_append]
      simp only [hiff]

/-- A broadcast sends to the connections behind its recipients, and to no others. -/
lemma sent_mem_sendAll {sends : List (ℕ × SendResult)} {msg' : List UInt8} {result : SendResult} :
    .sent c msg' result ∈ s.sendAll msg sends ↔
      msg' = msg ∧ ∃ fd, (fd, result) ∈ sends ∧ s.connection? fd = some c := by
  simp only [sendAll, List.mem_flatMap, send]
  constructor
  · rintro ⟨⟨fd, result'⟩, hmem, hsent⟩
    simp only at hsent
    split at hsent
    · next c' hconn =>
      obtain ⟨rfl, rfl, rfl⟩ := ChatObservation.sent.inj (List.mem_singleton.mp hsent)
      exact ⟨rfl, fd, hmem, hconn⟩
    · cases hsent
  · rintro ⟨rfl, fd, hmem, hconn⟩
    refine ⟨(fd, result), hmem, ?_⟩
    simp only [hconn]
    exact List.mem_singleton.mpr rfl

/-- Sending announces nothing. -/
@[simp] lemma announcementsOf_sendAll (sends : List (ℕ × SendResult)) :
    announcementsOf c (s.sendAll msg sends) = [] := by
  unfold announcementsOf
  rw [List.filterMap_eq_nil_iff]
  intro o ho
  obtain ⟨p, -, hp⟩ := List.mem_flatMap.mp ho
  unfold send at hp
  split at hp
  · obtain rfl := List.mem_singleton.mp hp
    rfl
  · cases hp

end Sockets

end SystemsDemos
