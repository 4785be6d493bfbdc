import SystemsDemos.Chat.Sockets

/-!
# The chat room

What the chat servers are for, without descriptors and threads: a room in which connections come,
speak and go, and in which everybody who is there is told about it, except the one it is about.
The room is compared with both kinds of server.

### Outline

* `ConnEvent`, `ChatRoom` and what an event does to the room;
* `ChatRoom.deliver` and `ChatRoom.transcript`: what a connection is told.
-/

namespace SystemsDemos

/-- What happens to the connections. -/
inductive ConnEvent
  | connect (addr : PeerAddress)
  | chunk (c : ℕ) (bytes : List UInt8)
  /-- The client has closed its side, or receiving has failed. -/
  | disconnect (c : ℕ)
  deriving DecidableEq

/-- The names of the connections, in the order in which they came; `none` for those that are gone
again. -/
abbrev ChatRoom := List (Option String)

namespace ChatRoom

variable (r : ChatRoom)

/-- The name of a connection that is there. -/
def peer? (c : ℕ) : Option String := (r[c]?).join

/-- The room after an event. -/
def apply : ConnEvent → ChatRoom
  | .connect addr => r ++ [some addr.peer]
  | .chunk _ _ => r
  | .disconnect c => r.set c none

/-- The events that can happen in the room. -/
def allows : ConnEvent → Bool
  | .connect _ => true
  | .chunk c bytes => (r.peer? c).isSome && decide (0 < bytes.length ∧ bytes.length ≤ bufSize)
  | .disconnect c => (r.peer? c).isSome

/-- What is announced. -/
def announcement : ConnEvent → Option Announcement
  | .connect addr => some (.joined addr.peer)
  | .chunk c bytes => (r.peer? c).map fun peer => .said peer bytes
  | .disconnect c => (r.peer? c).map .left

/-- The connection that an event is about, if it is in the room already. -/
def origin : ConnEvent → Option ℕ
  | .connect _ => none
  | .chunk c _ => some c
  | .disconnect c => some c

/-- The connection is told about the event. -/
def hears (e : ConnEvent) (c : ℕ) : Bool :=
  (r.peer? c).isSome && decide (origin e ≠ some c)

/-- What a connection is told about an event. -/
def deliver (e : ConnEvent) (c : ℕ) : List (List UInt8) :=
  match r.announcement e with
  | some a => if r.hears e c then [a.msg] else []
  | none => []

/-- The room after some events. -/
def applyAll (evs : List ConnEvent) : ChatRoom := evs.foldl apply r

/-- The events can happen one after the other. -/
def allowsAll : ChatRoom → List ConnEvent → Bool
  | _, [] => true
  | r, e :: evs => r.allows e && allowsAll (r.apply e) evs

/-- What a connection is told. -/
def transcript (c : ℕ) : ChatRoom → List ConnEvent → List (List UInt8)
  | _, [] => []
  | r, e :: evs => r.deliver e c ++ transcript c (r.apply e) evs

variable {r} {e : ConnEvent} {evs : List ConnEvent} {c c' : ℕ}

/-- One more event changes the room. -/
@[simp] lemma applyAll_snoc : r.applyAll (evs ++ [e]) = (r.applyAll evs).apply e := by
  simp [applyAll]

/-- One more event is told in the room that the events before it have left. -/
lemma transcript_snoc :
    transcript c r (evs ++ [e]) = transcript c r evs ++ (r.applyAll evs).deliver e c := by
  induction evs generalizing r with
  | nil => simp [transcript, applyAll]
  | cons e' evs ih =>
    simp only [List.cons_append, transcript, ih, List.append_assoc]
    rfl

/-- One more event happens in the room that the events before it have left. -/
lemma allowsAll_snoc :
    r.allowsAll (evs ++ [e]) = (r.allowsAll evs && (r.applyAll evs).allows e) := by
  induction evs generalizing r with
  | nil => simp [allowsAll, applyAll]
  | cons e' evs ih =>
    simp only [List.cons_append, allowsAll, ih, Bool.and_assoc]
    rfl

/-- Nobody is there before anybody has come. -/
lemma peer?_of_length_le (h : r.length ≤ c) : r.peer? c = none := by
  rw [peer?, List.getElem?_eq_none h]
  rfl

/-- Who comes is there. -/
lemma peer?_connect (addr : PeerAddress) :
    (r.apply (.connect addr)).peer? c = if c = r.length then some addr.peer else r.peer? c := by
  rcases Nat.lt_trichotomy c r.length with hlt | heq | hgt
  · rw [if_neg (by omega), peer?, apply, List.getElem?_append_left hlt, peer?]
  · subst heq
    rw [if_pos rfl, peer?, apply, List.getElem?_concat_length]
    rfl
  · rw [if_neg (by omega), peer?_of_length_le (Nat.le_of_lt hgt), peer?_of_length_le]
    simp only [apply, List.length_append, List.length_singleton]
    omega

/-- Who goes is not there. -/
lemma peer?_disconnect :
    (r.apply (.disconnect c')).peer? c = if c = c' then none else r.peer? c := by
  by_cases hc : c = c'
  · subst hc
    rw [if_pos rfl, peer?, apply]
    by_cases hlt : c < r.length
    · rw [List.getElem?_set_self hlt]
      rfl
    · rw [List.getElem?_eq_none (by simpa using hlt)]
      rfl
  · rw [if_neg hc, peer?, apply, List.getElem?_set_ne (Ne.symm hc), peer?]

/-- What is told about an event whose announcement is known. -/
lemma deliver_of_announcement {a : Announcement} (h : r.announcement e = some a) :
    r.deliver e c = if r.hears e c then [a.msg] else [] := by
  rw [deliver, h]

end ChatRoom

end SystemsDemos
