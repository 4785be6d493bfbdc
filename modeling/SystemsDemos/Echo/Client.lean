import SystemsDemos.Transition.Stream
import Mathlib.Data.Int.Notation

/-!
# The clients

`main` and `recv_loop` of the clients of the echo server and of the chat servers: the main thread
reads lines and sends a message for each, the other thread prints what it receives, and both look at
`g_running`.  What the standard input, `send` and `recv` yield is up to the environment, within what
was asked for.

### Outline

* `ClientProgram` with the two programs, and `Client` with `step`;
* `Client.isStream_screen`, what has been printed of what has been received;
* `client_afterStop`, what happens once `g_running` has been cleared.
-/

namespace SystemsDemos

/-- A string as bytes. -/
def bytesOf (text : String) : List UInt8 := text.toUTF8.data.toList

/-- What the programs differ in. -/
structure ClientProgram where
  /-- The message that is sent for a line. -/
  message : List UInt8 → List UInt8
  /-- What is printed in front of a chunk. -/
  label : List UInt8

/-- The client of the echo server. -/
def echoClient : ClientProgram where
  message line := line ++ [10]
  label := bytesOf "[echo] "

/-- The client of the three chat servers, for a user name. -/
def chatClient (name : List UInt8) : ClientProgram where
  message line := name ++ bytesOf ": " ++ line ++ [10]
  label := []

/-- Where the main thread is. -/
inductive ClientMain
  /-- At `g_running` in the condition of the loop. -/
  | condition
  /-- At `std::getline`. -/
  | reading
  | sending (msg : List UInt8)
  /-- In front of `g_running = false`. -/
  | stopping
  /-- In front of `shutdown`. -/
  | shutting
  | joining
  | closing
  | returned
  deriving DecidableEq

/-- Where `recv_loop` is. -/
inductive ClientReceiver
  /-- At the condition of the loop. -/
  | condition
  /-- At `recv`. -/
  | receiving
  | printing (chunk : List UInt8)
  /-- In front of the report that the server has closed. -/
  | reporting
  /-- In front of `g_running = false`. -/
  | clearing
  | finished
  deriving DecidableEq

/-- The two threads of a client, once it is connected. -/
structure Client where
  /-- `g_running`. -/
  running : Bool
  main : ClientMain
  receiver : ClientReceiver
  deriving DecidableEq

/-- The steps: one of a thread's own, or a call with its result. -/
inductive ClientAct
  | main
  | line (text : List UInt8)
  | endOfInput
  | send (r : ℤ)
  | receiver
  | recv (n : ℤ) (chunk : List UInt8)
  deriving DecidableEq

/-- What a client makes visible. -/
inductive ClientObservation
  | line (text : List UInt8)
  /-- A call of `send`, with what it takes. -/
  | sent (msg taken : List UInt8)
  | shut
  | closed
  | received (chunk : List UInt8)
  | printed (label chunk : List UInt8)
  | serverClosed
  deriving DecidableEq

namespace Client

/-- `BUF_SIZE`. -/
def bufSize : ℕ := 1024

/-- Both threads are at the conditions of their loops. -/
def initial : Client := ⟨true, .condition, .condition⟩

/-- The steps of `main` that need no input. -/
def execMain (c : Client) : Option (Client × List ClientObservation) :=
  match c.main with
  | .condition => some ({ c with main := if c.running then .reading else .stopping }, [])
  | .stopping => some ({ c with running := false, main := .shutting }, [])
  | .shutting => some ({ c with main := .joining }, [.shut])
  | .joining => if c.receiver = .finished then some ({ c with main := .closing }, []) else none
  | .closing => some ({ c with main := .returned }, [.closed])
  | _ => none

/-- The steps of `recv_loop` that receive nothing. -/
def execReceiver (p : ClientProgram) (c : Client) : Option (Client × List ClientObservation) :=
  match c.receiver with
  | .condition => some ({ c with receiver := if c.running then .receiving else .finished }, [])
  | .printing chunk => some ({ c with receiver := .condition }, [.printed p.label chunk])
  | .reporting => some ({ c with receiver := .clearing }, [.serverClosed])
  | .clearing => some ({ c with running := false, receiver := .finished }, [])
  | _ => none

/-- A step of a client.  A line ends before the line break, `send` takes at most the message, and
what it returns is not looked at; `recv` fills at most the buffer. -/
def step (p : ClientProgram) (c : Client) : ClientAct → Option (Client × List ClientObservation)
  | .main => c.execMain
  | .line text =>
      if c.main = .reading ∧ 10 ∉ text then
        some ({ c with main := .sending (p.message text) }, [.line text])
      else none
  | .endOfInput => if c.main = .reading then some ({ c with main := .stopping }, []) else none
  | .send r =>
      match c.main with
      | .sending msg =>
          if r ≤ msg.length then
            some ({ c with main := .condition }, [.sent msg (msg.take r.toNat)])
          else none
      | _ => none
  | .receiver => c.execReceiver p
  | .recv n chunk =>
      if c.receiver = .receiving ∧ n ≤ bufSize ∧ chunk.length = n.toNat then
        some ({ c with receiver := if n ≤ 0 then .reporting else .printing chunk },
          [.received chunk])
      else none

/-- A client in any environment. -/
def system (p : ClientProgram) : System Client ClientAct ClientObservation where
  init c := c = initial
  step := step p

end Client

/-! ### The streams of a client -/

namespace ClientObservation

/-- The bytes that `send` has taken. -/
def sentBytes : ClientObservation → List UInt8
  | .sent _ taken => taken
  | _ => []

/-- The bytes received. -/
def receivedBytes : ClientObservation → List UInt8
  | .received chunk => chunk
  | _ => []

/-- The bytes printed, without the label. -/
def printedBytes : ClientObservation → List UInt8
  | .printed _ chunk => chunk
  | _ => []

/-- The message that a line asks for. -/
def messageBytes (p : ClientProgram) : ClientObservation → List UInt8
  | .line text => p.message text
  | _ => []

/-- The message that `send` is called with. -/
def offeredBytes : ClientObservation → List UInt8
  | .sent msg _ => msg
  | _ => []

end ClientObservation

/-- The chunk that has been received and not printed yet. -/
def ClientReceiver.unprinted : ClientReceiver → List UInt8
  | .printing chunk => chunk
  | _ => []

/-- The message that `send` has not been called with yet. -/
def ClientMain.unsent : ClientMain → List UInt8
  | .sending msg => msg
  | _ => []

namespace Client

/-! ### What a step does -/

/-- The steps, one by one. -/
inductive Moves (p : ClientProgram) (c : Client) :
    ClientAct → Client → List ClientObservation → Prop
  | enters (h : c.main = .condition) (hrunning : c.running = true) :
      Moves p c .main { c with main := .reading } []
  | leaves (h : c.main = .condition) (hrunning : c.running = false) :
      Moves p c .main { c with main := .stopping } []
  | line (text : List UInt8) (h : c.main = .reading) (htext : 10 ∉ text) :
      Moves p c (.line text) { c with main := .sending (p.message text) } [.line text]
  | endOfInput (h : c.main = .reading) : Moves p c .endOfInput { c with main := .stopping } []
  | send (r : ℤ) (msg : List UInt8) (h : c.main = .sending msg) (hr : r ≤ msg.length) :
      Moves p c (.send r) { c with main := .condition } [.sent msg (msg.take r.toNat)]
  | stops (h : c.main = .stopping) :
      Moves p c .main { c with running := false, main := .shutting } []
  | shuts (h : c.main = .shutting) : Moves p c .main { c with main := .joining } [.shut]
  | joins (h : c.main = .joining) (hfinished : c.receiver = .finished) :
      Moves p c .main { c with main := .closing } []
  | closes (h : c.main = .closing) : Moves p c .main { c with main := .returned } [.closed]
  | continues (h : c.receiver = .condition) (hrunning : c.running = true) :
      Moves p c .receiver { c with receiver := .receiving } []
  | finishes (h : c.receiver = .condition) (hrunning : c.running = false) :
      Moves p c .receiver { c with receiver := .finished } []
  | recv (n : ℤ) (chunk : List UInt8) (h : c.receiver = .receiving) (hn : n ≤ bufSize)
      (hpos : 0 < n) (hlength : chunk.length = n.toNat) :
      Moves p c (.recv n chunk) { c with receiver := .printing chunk } [.received chunk]
  | recvEnd (n : ℤ) (h : c.receiver = .receiving) (hn : n ≤ 0) :
      Moves p c (.recv n []) { c with receiver := .reporting } [.received []]
  | prints (chunk : List UInt8) (h : c.receiver = .printing chunk) :
      Moves p c .receiver { c with receiver := .condition } [.printed p.label chunk]
  | reports (h : c.receiver = .reporting) :
      Moves p c .receiver { c with receiver := .clearing } [.serverClosed]
  | clears (h : c.receiver = .clearing) :
      Moves p c .receiver { c with running := false, receiver := .finished } []

variable {p : ClientProgram} {c c' : Client} {a : ClientAct} {out : List ClientObservation}

lemma moves_of_execMain (h : c.execMain = some (c', out)) : Moves p c .main c' out := by
  cases hmain : c.main with
  | condition =>
    simp only [execMain, hmain] at h
    cases h
    by_cases hrunning : c.running = true
    · rw [if_pos hrunning]
      exact .enters hmain hrunning
    · rw [if_neg hrunning]
      exact .leaves hmain (Bool.not_eq_true _ ▸ hrunning)
  | stopping =>
    simp only [execMain, hmain] at h
    cases h
    exact .stops hmain
  | shutting =>
    simp only [execMain, hmain] at h
    cases h
    exact .shuts hmain
  | joining =>
    simp only [execMain, hmain] at h
    split at h
    · next hfinished =>
      cases h
      exact .joins hmain hfinished
    · cases h
  | closing =>
    simp only [execMain, hmain] at h
    cases h
    exact .closes hmain
  | reading => simp only [execMain, hmain, reduceCtorEq] at h
  | sending msg => simp only [execMain, hmain, reduceCtorEq] at h
  | returned => simp only [execMain, hmain, reduceCtorEq] at h

lemma moves_of_execReceiver (h : c.execReceiver p = some (c', out)) :
    Moves p c .receiver c' out := by
  cases hreceiver : c.receiver with
  | condition =>
    simp only [execReceiver, hreceiver] at h
    cases h
    by_cases hrunning : c.running = true
    · rw [if_pos hrunning]
      exact .continues hreceiver hrunning
    · rw [if_neg hrunning]
      exact .finishes hreceiver (Bool.not_eq_true _ ▸ hrunning)
  | printing chunk =>
    simp only [execReceiver, hreceiver] at h
    cases h
    exact .prints chunk hreceiver
  | reporting =>
    simp only [execReceiver, hreceiver] at h
    cases h
    exact .reports hreceiver
  | clearing =>
    simp only [execReceiver, hreceiver] at h
    cases h
    exact .clears hreceiver
  | receiving => simp only [execReceiver, hreceiver, reduceCtorEq] at h
  | finished => simp only [execReceiver, hreceiver, reduceCtorEq] at h

lemma moves_of_step (h : c.step p a = some (c', out)) : Moves p c a c' out := by
  cases a with
  | main => exact moves_of_execMain h
  | receiver => exact moves_of_execReceiver h
  | line text =>
    rw [step] at h
    split at h
    · next hline =>
      cases h
      exact .line text hline.1 hline.2
    · cases h
  | endOfInput =>
    rw [step] at h
    split at h
    · next hreading =>
      cases h
      exact .endOfInput hreading
    · cases h
  | send r =>
    rw [step] at h
    split at h
    · next msg hsending =>
      split at h
      · next hr =>
        cases h
        exact .send r msg hsending hr
      · cases h
    · cases h
  | recv n chunk =>
    rw [step] at h
    split at h
    · next hrecv =>
      obtain ⟨hreceiving, hn, hlength⟩ := hrecv
      cases h
      by_cases hpos : n ≤ 0
      · have hnil : chunk = [] := by
          rw [Int.toNat_of_nonpos hpos] at hlength
          exact List.length_eq_zero_iff.mp hlength
        subst hnil
        rw [if_pos hpos]
        exact .recvEnd n hreceiving hpos
      · rw [if_neg hpos]
        exact .recv n chunk hreceiving hn (Int.not_le.mp hpos) hlength
    · cases h

/-! ### The streams over a run -/

/-- What a call of `recv` receives. -/
lemma receivedBytes_of_step (h : c.step p a = some (c', out)) :
    out.flatMap ClientObservation.receivedBytes =
      match a with
      | .recv _ chunk => chunk
      | _ => [] := by
  cases moves_of_step h <;> simp [ClientObservation.receivedBytes]

/-- `send` is called with one message for each line. -/
lemma isStream_messages (p : ClientProgram) :
    IsStream (system p) (fun c => c.main.unsent) (ClientObservation.messageBytes p)
      ClientObservation.offeredBytes where
  init c hinit := by
    obtain rfl := hinit
    rfl
  step c a c' out hstep := by
    cases moves_of_step hstep with
    | enters h => simp [h, ClientMain.unsent]
    | leaves h => simp [h, ClientMain.unsent]
    | line text h => simp [h, ClientMain.unsent, ClientObservation.messageBytes,
        ClientObservation.offeredBytes]
    | endOfInput h => simp [h, ClientMain.unsent]
    | send r msg h => simp [h, ClientMain.unsent, ClientObservation.messageBytes,
        ClientObservation.offeredBytes]
    | stops h => simp [h, ClientMain.unsent]
    | shuts h => simp [h, ClientMain.unsent, ClientObservation.messageBytes,
        ClientObservation.offeredBytes]
    | joins h => simp [h, ClientMain.unsent]
    | closes h => simp [h, ClientMain.unsent, ClientObservation.messageBytes,
        ClientObservation.offeredBytes]
    | continues => simp
    | finishes => simp
    | recv => simp [ClientObservation.messageBytes, ClientObservation.offeredBytes]
    | recvEnd => simp [ClientObservation.messageBytes, ClientObservation.offeredBytes]
    | prints => simp [ClientObservation.messageBytes, ClientObservation.offeredBytes]
    | reports => simp [ClientObservation.messageBytes, ClientObservation.offeredBytes]
    | clears => simp

/-- What has been received has been printed, except for one chunk. -/
lemma isStream_screen (p : ClientProgram) :
    IsStream (system p) (fun c => c.receiver.unprinted) ClientObservation.receivedBytes
      ClientObservation.printedBytes where
  init c hinit := by
    obtain rfl := hinit
    rfl
  step c a c' out hstep := by
    cases moves_of_step hstep with
    | recv n chunk h => simp [h, ClientReceiver.unprinted, ClientObservation.receivedBytes,
        ClientObservation.printedBytes]
    | recvEnd n h => simp [h, ClientReceiver.unprinted, ClientObservation.receivedBytes,
        ClientObservation.printedBytes]
    | prints chunk h => simp [h, ClientReceiver.unprinted, ClientObservation.receivedBytes,
        ClientObservation.printedBytes]
    | reports h => simp [h, ClientReceiver.unprinted, ClientObservation.receivedBytes,
        ClientObservation.printedBytes]
    | continues h => simp [h, ClientReceiver.unprinted]
    | finishes h => simp [h, ClientReceiver.unprinted]
    | clears h => simp [h, ClientReceiver.unprinted]
    | send r msg h => simp [ClientObservation.receivedBytes, ClientObservation.printedBytes]
    | line text h => simp [ClientObservation.receivedBytes, ClientObservation.printedBytes]
    | shuts h => simp [ClientObservation.receivedBytes, ClientObservation.printedBytes]
    | closes h => simp [ClientObservation.receivedBytes, ClientObservation.printedBytes]
    | enters h => simp
    | leaves h => simp
    | endOfInput h => simp
    | stops h => simp
    | joins h => simp

/-! ### After the end of the loop -/

end Client

namespace ClientObservation

/-- A line has been read. -/
def isLine : ClientObservation → Bool
  | line _ => true
  | _ => false

/-- `send` has been called. -/
def isSent : ClientObservation → Bool
  | sent _ _ => true
  | _ => false

/-- A chunk has been printed. -/
def isPrinted : ClientObservation → Bool
  | printed _ _ => true
  | _ => false

end ClientObservation

/-- Whether the main thread has passed `g_running` in the condition of its loop. -/
def ClientMain.inBody : ClientMain → Bool
  | reading => true
  | sending _ => true
  | _ => false

/-- Whether `recv_loop` has passed the condition of its loop. -/
def ClientReceiver.inBody : ClientReceiver → Bool
  | receiving => true
  | printing _ => true
  | _ => false

namespace Client

/-- The lines that can still be read once `g_running` has been cleared. -/
def linesLeft (c : Client) : ℕ := if c.main = .reading then 1 else 0

/-- The calls of `send` that can still follow. -/
def sendsLeft (c : Client) : ℕ := c.main.inBody.toNat

/-- The chunks that can still be printed. -/
def printsLeft (c : Client) : ℕ := c.receiver.inBody.toNat

variable {p : ClientProgram} {c c' : Client} {a : ClientAct} {out : List ClientObservation}

/-- Once `g_running` has been cleared, it stays so, and no thread enters its loop again. -/
lemma Moves.afterStop (hmoves : Moves p c a c' out) (hrunning : c.running = false) :
    c'.running = false ∧
      out.countP ClientObservation.isLine + c'.linesLeft ≤ c.linesLeft ∧
      out.countP ClientObservation.isSent + c'.sendsLeft ≤ c.sendsLeft ∧
      out.countP ClientObservation.isPrinted + c'.printsLeft ≤ c.printsLeft := by
  unfold linesLeft sendsLeft printsLeft
  cases hmoves with
  | enters h htrue => simp [hrunning] at htrue
  | continues h htrue => simp [hrunning] at htrue
  | leaves h => simp [h, hrunning, ClientMain.inBody]
  | line text h => simp [h, hrunning, ClientMain.inBody, ClientObservation.isLine,
      ClientObservation.isSent, ClientObservation.isPrinted]
  | endOfInput h => simp [h, hrunning, ClientMain.inBody]
  | send r msg h => simp [h, hrunning, ClientMain.inBody, ClientObservation.isLine,
      ClientObservation.isSent, ClientObservation.isPrinted]
  | stops h => simp [h, ClientMain.inBody]
  | shuts h => simp [h, hrunning, ClientMain.inBody, ClientObservation.isLine,
      ClientObservation.isSent, ClientObservation.isPrinted]
  | joins h => simp [h, hrunning, ClientMain.inBody]
  | closes h => simp [h, hrunning, ClientMain.inBody, ClientObservation.isLine,
      ClientObservation.isSent, ClientObservation.isPrinted]
  | finishes h => simp [h, hrunning, ClientReceiver.inBody]
  | recv n chunk h => simp [h, hrunning, ClientReceiver.inBody, ClientObservation.isLine,
      ClientObservation.isSent, ClientObservation.isPrinted]
  | recvEnd n h => simp [h, hrunning, ClientReceiver.inBody, ClientObservation.isLine,
      ClientObservation.isSent, ClientObservation.isPrinted]
  | prints chunk h => simp [h, hrunning, ClientReceiver.inBody, ClientObservation.isLine,
      ClientObservation.isSent, ClientObservation.isPrinted]
  | reports h => simp [h, hrunning, ClientReceiver.inBody, ClientObservation.isLine,
      ClientObservation.isSent, ClientObservation.isPrinted]
  | clears h => simp [h, ClientReceiver.inBody]

/-- What the threads have left to do is at most one iteration each. -/
lemma left_le (c : Client) : c.linesLeft ≤ 1 ∧ c.sendsLeft ≤ 1 ∧ c.printsLeft ≤ 1 := by
  refine ⟨?_, Bool.toNat_le _, Bool.toNat_le _⟩
  unfold linesLeft
  split <;> decide

/-- **Clearing `g_running` ends both loops after the current iteration.**  Whoever has cleared it,
afterwards at most one line is read and one message sent, and at most one chunk is printed, whatever
else the server still sends. -/
theorem client_afterStop {ts us : List (Transition Client ClientAct ClientObservation)}
    {t : Transition Client ClientAct ClientObservation}
    (h : (system p).Run (ts ++ t :: us) c) (hstop : t.post.running = false) :
    c.running = false ∧ (observations us).countP ClientObservation.isLine ≤ 1 ∧
      (observations us).countP ClientObservation.isSent ≤ 1 ∧
      (observations us).countP ClientObservation.isPrinted ≤ 1 := by
  obtain ⟨hline, hsend, hprint⟩ := t.post.left_le
  obtain ⟨hrunning, hlines, hsends, hprints⟩ := h.later_history
    (P := fun us c => c.running = false ∧
      (observations us).countP ClientObservation.isLine + c.linesLeft ≤ t.post.linesLeft ∧
      (observations us).countP ClientObservation.isSent + c.sendsLeft ≤ t.post.sendsLeft ∧
      (observations us).countP ClientObservation.isPrinted + c.printsLeft ≤ t.post.printsLeft)
    ⟨hstop, by simp, by simp, by simp⟩ (by
      rintro us c a c' out - ⟨hrunning, hlines, hsends, hprints⟩ hstep
      obtain ⟨hrunning', hlines', hsends', hprints'⟩ := (moves_of_step hstep).afterStop hrunning
      simp only [observations_append, observations_singleton, List.countP_append]
      exact ⟨hrunning', by omega, by omega, by omega⟩)
  exact ⟨hrunning, by omega, by omega, by omega⟩

/-- The end of the input while an answer is on its way: `recv_loop` prints its first chunk and not
the second one. -/
def twoChunksLate : List ClientAct :=
  [.main, .line (bytesOf "hi"), .send 3, .main, .receiver, .endOfInput, .main,
    .recv 1 (bytesOf "h"), .receiver, .receiver, .main, .main, .main]

/-- Two thirds of the message are not printed. -/
theorem client_afterStop_twoChunksLate :
    ∃ ts t us c, (system echoClient).Run (ts ++ t :: us) c ∧ c.main = .returned ∧
      t.act = .main ∧ (observations us).countP ClientObservation.isPrinted ≤ 1 ∧
      (observations us).flatMap ClientObservation.printedBytes = bytesOf "h" := by
  obtain ⟨ts, c, hrun, hmain, hdrop⟩ := (system echoClient).exists_run twoChunksLate
    (fun ts c => c.main = .returned ∧ (ts.drop 6).length = 7 ∧ (∀ t ∈ (ts.drop 6).take 1,
      t.act = .main ∧ t.post.running = false) ∧
      (observations (ts.drop 6).tail).flatMap ClientObservation.printedBytes = bytesOf "h")
    rfl (by decide +kernel)
  obtain ⟨hlength, hstops, hprinted⟩ := hdrop
  obtain ⟨t, us, hsplit⟩ := List.exists_cons_of_length_pos (by rw [hlength]; decide)
  rw [← ts.take_append_drop 6, hsplit] at hrun
  rw [hsplit] at hstops hprinted
  obtain ⟨hact, hstop⟩ := hstops t (by simp)
  obtain ⟨-, -, -, hone⟩ := client_afterStop hrun hstop
  exact ⟨_, t, us, c, hrun, hmain, hact, hone, hprinted⟩

end Client

/-! ### The end -/

/-- The main thread has left its loop. -/
def ClientMain.hasLeft : ClientMain → Bool
  | condition => false
  | reading => false
  | sending _ => false
  | _ => true

/-- The steps that the main thread has left after its loop. -/
def ClientMain.work : ClientMain → ℕ
  | stopping => 4
  | shutting => 3
  | joining => 2
  | closing => 1
  | _ => 0

/-- The steps that `recv_loop` has left, if it receives nothing more. -/
def ClientReceiver.work : ClientReceiver → ℕ
  | condition => 5
  | receiving => 4
  | printing _ => 6
  | reporting => 3
  | clearing => 2
  | finished => 0

namespace Client

variable {p : ClientProgram} {c c' : Client} {a : ClientAct} {out : List ClientObservation}

/-- The steps that a client has left, if it receives nothing more. -/
def work (c : Client) : ℕ := c.main.work + c.receiver.work

/-- After its loop the main thread sends nothing, and every step is paid for by the work left or by
bytes received. -/
lemma Moves.work (hmoves : Moves p c a c' out) (hleft : c.main.hasLeft = true) :
    c'.main.hasLeft = true ∧ out.flatMap ClientObservation.sentBytes = [] ∧
      c'.work + 1 ≤ c.work + 3 * (out.flatMap ClientObservation.receivedBytes).length := by
  unfold Client.work
  cases hmoves with
  | enters h => simp [h, ClientMain.hasLeft] at hleft
  | leaves h => simp [h, ClientMain.hasLeft] at hleft
  | line text h => simp [h, ClientMain.hasLeft] at hleft
  | endOfInput h => simp [h, ClientMain.hasLeft] at hleft
  | send r msg h => simp [h, ClientMain.hasLeft] at hleft
  | stops h => exact ⟨rfl, rfl, by simp only [h, ClientMain.work]; omega⟩
  | shuts h => exact ⟨rfl, rfl, by simp only [h, ClientMain.work]; omega⟩
  | joins h => exact ⟨rfl, rfl, by simp only [h, ClientMain.work]; omega⟩
  | closes h => exact ⟨rfl, rfl, by simp only [h, ClientMain.work]; omega⟩
  | continues h => exact ⟨hleft, rfl, by simp only [h, ClientReceiver.work]; omega⟩
  | finishes h => exact ⟨hleft, rfl, by simp only [h, ClientReceiver.work]; omega⟩
  | recv n chunk h hn hpos hlength =>
    refine ⟨hleft, rfl, ?_⟩
    simp only [h, ClientReceiver.work, ClientObservation.receivedBytes, List.flatMap_singleton]
    omega
  | recvEnd n h => exact ⟨hleft, rfl, by simp only [h, ClientReceiver.work]; omega⟩
  | prints chunk h => exact ⟨hleft, rfl, by simp only [h, ClientReceiver.work]; omega⟩
  | reports h => exact ⟨hleft, rfl, by simp only [h, ClientReceiver.work]; omega⟩
  | clears h => exact ⟨hleft, rfl, by simp only [h, ClientReceiver.work]; omega⟩

/-- `recv_loop` has finished when the main thread has joined it. -/
def Joined (c : Client) : Prop :=
  c.main = .closing ∨ c.main = .returned → c.receiver = .finished

lemma Joined.step (h : c.Joined) (hstep : c.step p a = some (c', out)) : c'.Joined := by
  unfold Joined at h ⊢
  cases moves_of_step hstep with
  | joins hmain hfinished => exact fun _ => hfinished
  | closes hmain => exact fun _ => h (.inl hmain)
  | enters => simp
  | leaves => simp
  | line => simp
  | endOfInput => simp
  | send => simp
  | stops => simp
  | shuts => simp
  | continues hreceiver => exact fun hmain => absurd (h hmain) (by simp [hreceiver])
  | finishes => exact fun _ => rfl
  | recv n chunk hreceiver => exact fun hmain => absurd (h hmain) (by simp [hreceiver])
  | recvEnd n hreceiver => exact fun hmain => absurd (h hmain) (by simp [hreceiver])
  | prints chunk hreceiver => exact fun hmain => absurd (h hmain) (by simp [hreceiver])
  | reports hreceiver => exact fun hmain => absurd (h hmain) (by simp [hreceiver])
  | clears => exact fun _ => rfl

end Client

end SystemsDemos
