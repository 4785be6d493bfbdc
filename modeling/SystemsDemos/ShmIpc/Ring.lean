import SystemsDemos.ShmIpc.Basic
import SystemsDemos.Ring.Slots
import Mathlib.Data.List.Infix

/-!
# The ring buffer keeps its promises

In every run of the writer and the reader the frames arrive complete and in order, no frame is
lost in its slot, the indices stay inside the array, the two processes exclude each other, and
nothing gets stuck.  Each semaphore is balanced against the program points of the two processes;
the counts do not match the indices between the steps of an iteration, so the balance names every
point in between (`RingInvariant`).

### Outline

* what a step of either process can do (`WriterEffect`, `ReaderEffect`);
* `RingInvariant`, kept by every step;
* the accesses of a run, and `NoOverwrite`;
* progress, and the number of steps of a run;
* `RingCorrect` and `ring_correct`.
-/

namespace SystemsDemos

/-! ### How far the processes are -/

/-- The writer has taken a slot from `empty`. -/
def WriterPoint.hasTaken : WriterPoint → Bool
  | waitEmpty => false
  | _ => true

/-- The writer has written its slot. -/
def WriterPoint.hasWritten : WriterPoint → Bool
  | moveHead | postMutex | postFull => true
  | _ => false

/-- The writer has moved `head`. -/
def WriterPoint.hasMoved : WriterPoint → Bool
  | postMutex | postFull => true
  | _ => false

/-- The reader has taken a frame from `full`. -/
def ReaderPoint.hasTaken : ReaderPoint → Bool
  | waitFull => false
  | _ => true

/-- The reader has read its slot. -/
def ReaderPoint.hasRead : ReaderPoint → Bool
  | moveTail | postMutex | postEmpty => true
  | _ => false

/-- The reader has moved `tail`. -/
def ReaderPoint.hasMoved : ReaderPoint → Bool
  | postMutex | postEmpty => true
  | _ => false

namespace RingState

variable {δ : Type} (s : RingState δ)

/-- The number of slots written so far. -/
def writes : ℕ := s.writerIteration + s.writer.hasWritten.toNat

/-- The number of slots read so far. -/
def reads : ℕ := s.readerIteration + s.reader.hasRead.toNat

end RingState

variable {δ : Type} {cfg : ShmIpc δ} {s s' : RingState δ} {out : List (RingEvent δ)}
  {ts : List (Transition (RingState δ) RingAction (RingEvent δ))}

/-! ### What a step can do -/

/-- What a step of the writer does. -/
inductive WriterEffect (cfg : ShmIpc δ) (s : RingState δ) :
    RingState δ → List (RingEvent δ) → Prop
  | waitEmpty (hw : s.writer = .waitEmpty) (hloop : s.writerIteration < cfg.totalFrames)
      (hempty : 0 < s.empty) :
      WriterEffect cfg s { s with empty := s.empty - 1, writer := .waitMutex } []
  | waitMutex (hw : s.writer = .waitMutex) (hmutex : 0 < s.mutex) :
      WriterEffect cfg s { s with mutex := s.mutex - 1, writer := .writeSlot } []
  | writeSlot (hw : s.writer = .writeSlot) :
      WriterEffect cfg s
        { s with
          region := { s.region with
            frames := Function.update s.region.frames s.region.head (cfg.frame s.writerIteration) }
          writer := .moveHead }
        [.wrote s.region.head (cfg.frame s.writerIteration)]
  | moveHead (hw : s.writer = .moveHead) :
      WriterEffect cfg s
        { s with
          region := { s.region with head := (s.region.head + 1) % cfg.capacity }
          writer := .postMutex } []
  | postMutex (hw : s.writer = .postMutex) :
      WriterEffect cfg s { s with mutex := s.mutex + 1, writer := .postFull } []
  | postFull (hw : s.writer = .postFull) :
      WriterEffect cfg s
        { s with
          full := s.full + 1
          writerIteration := s.writerIteration + 1
          writer := .waitEmpty } []

/-- What a step of the reader does. -/
inductive ReaderEffect (cfg : ShmIpc δ) (s : RingState δ) :
    RingState δ → List (RingEvent δ) → Prop
  | waitFull (hr : s.reader = .waitFull) (hloop : s.readerIteration < cfg.totalFrames)
      (hfull : 0 < s.full) :
      ReaderEffect cfg s { s with full := s.full - 1, reader := .waitMutex } []
  | waitMutex (hr : s.reader = .waitMutex) (hmutex : 0 < s.mutex) :
      ReaderEffect cfg s { s with mutex := s.mutex - 1, reader := .readSlot } []
  | readSlot (hr : s.reader = .readSlot) :
      ReaderEffect cfg s { s with reader := .moveTail }
        [.read s.region.tail (s.region.frames s.region.tail)]
  | moveTail (hr : s.reader = .moveTail) :
      ReaderEffect cfg s
        { s with
          region := { s.region with tail := (s.region.tail + 1) % cfg.capacity }
          reader := .postMutex } []
  | postMutex (hr : s.reader = .postMutex) :
      ReaderEffect cfg s { s with mutex := s.mutex + 1, reader := .postEmpty } []
  | postEmpty (hr : s.reader = .postEmpty) :
      ReaderEffect cfg s
        { s with
          empty := s.empty + 1
          readerIteration := s.readerIteration + 1
          reader := .waitFull } []

/-- What the writer can do. -/
lemma stepWriter_effect (h : cfg.stepWriter s = some (s', out)) : WriterEffect cfg s s' out := by
  unfold ShmIpc.stepWriter at h
  split at h
  · next hw =>
    split at h
    · next hguard =>
      obtain ⟨rfl, rfl⟩ := Prod.mk.inj (Option.some.inj h)
      exact .waitEmpty hw hguard.1 hguard.2
    · cases h
  · next hw =>
    split at h
    · next hguard =>
      obtain ⟨rfl, rfl⟩ := Prod.mk.inj (Option.some.inj h)
      exact .waitMutex hw hguard
    · cases h
  · next hw =>
    obtain ⟨rfl, rfl⟩ := Prod.mk.inj (Option.some.inj h)
    exact .writeSlot hw
  · next hw =>
    obtain ⟨rfl, rfl⟩ := Prod.mk.inj (Option.some.inj h)
    exact .moveHead hw
  · next hw =>
    obtain ⟨rfl, rfl⟩ := Prod.mk.inj (Option.some.inj h)
    exact .postMutex hw
  · next hw =>
    obtain ⟨rfl, rfl⟩ := Prod.mk.inj (Option.some.inj h)
    exact .postFull hw

/-- What the reader can do. -/
lemma stepReader_effect (h : cfg.stepReader s = some (s', out)) : ReaderEffect cfg s s' out := by
  unfold ShmIpc.stepReader at h
  split at h
  · next hr =>
    split at h
    · next hguard =>
      obtain ⟨rfl, rfl⟩ := Prod.mk.inj (Option.some.inj h)
      exact .waitFull hr hguard.1 hguard.2
    · cases h
  · next hr =>
    split at h
    · next hguard =>
      obtain ⟨rfl, rfl⟩ := Prod.mk.inj (Option.some.inj h)
      exact .waitMutex hr hguard
    · cases h
  · next hr =>
    obtain ⟨rfl, rfl⟩ := Prod.mk.inj (Option.some.inj h)
    exact .readSlot hr
  · next hr =>
    obtain ⟨rfl, rfl⟩ := Prod.mk.inj (Option.some.inj h)
    exact .moveTail hr
  · next hr =>
    obtain ⟨rfl, rfl⟩ := Prod.mk.inj (Option.some.inj h)
    exact .postMutex hr
  · next hr =>
    obtain ⟨rfl, rfl⟩ := Prod.mk.inj (Option.some.inj h)
    exact .postEmpty hr

/-! ### The invariant -/

/-- The balance of the semaphores, the position of the indices, and what is in the slots. -/
structure RingInvariant (cfg : ShmIpc δ) (s : RingState δ) : Prop where
  full : s.full + s.readerIteration + s.reader.hasTaken.toNat = s.writerIteration
  empty : s.empty + s.writerIteration + s.writer.hasTaken.toNat =
    cfg.capacity + s.readerIteration
  mutex : s.mutex + s.writer.inSection.toNat + s.reader.inSection.toNat = 1
  head : s.region.head = (s.writerIteration + s.writer.hasMoved.toNat) % cfg.capacity
  tail : s.region.tail = (s.readerIteration + s.reader.hasMoved.toNat) % cfg.capacity
  writer_le : s.writerIteration + s.writer.hasTaken.toNat ≤ cfg.totalFrames
  slots : Ring.Holds cfg.capacity s.region.frames cfg.frame s.reads s.writes

namespace RingInvariant

/-- Between its `sem_wait(full)` and its slot the reader has an unread frame. -/
lemma reads_lt_writes (h : RingInvariant cfg s) (hr : s.reader = .readSlot) :
    s.reads < s.writes := by
  have hfull := h.full
  rw [hr] at hfull
  simp only [RingState.reads, RingState.writes, hr, ReaderPoint.hasRead, Bool.toNat_false]
  simp only [ReaderPoint.hasTaken, Bool.toNat_true] at hfull
  omega

/-- At its slot the writer has room. -/
lemma writes_lt_reads_add (h : RingInvariant cfg s) (hw : s.writer = .writeSlot) :
    s.writes < s.reads + cfg.capacity := by
  have hempty := h.empty
  rw [hw] at hempty
  simp only [RingState.reads, RingState.writes, hw, WriterPoint.hasWritten, Bool.toNat_false]
  simp only [WriterPoint.hasTaken, Bool.toNat_true] at hempty
  omega

/-- A step of the writer keeps the invariant. -/
lemma stepWriter (h : RingInvariant cfg s) (hstep : cfg.stepWriter s = some (s', out)) :
    RingInvariant cfg s' := by
  have hroom := h.writes_lt_reads_add
  obtain ⟨hfull, hempty, hmutex, hhead, htail, hle, hslots⟩ := h
  cases stepWriter_effect hstep with
  | waitEmpty hw hloop hpos =>
    simp only [hw, WriterPoint.hasTaken, WriterPoint.inSection, WriterPoint.hasMoved,
      Bool.toNat_false] at hempty hmutex hhead hle
    refine ⟨hfull, ?_, hmutex, hhead, htail, ?_, ?_⟩
    · simp only [WriterPoint.hasTaken, Bool.toNat_true]
      omega
    · simp only [WriterPoint.hasTaken, Bool.toNat_true]
      omega
    · simpa only [RingState.reads, RingState.writes, hw, WriterPoint.hasWritten] using hslots
  | waitMutex hw hpos =>
    simp only [hw] at hempty hmutex hhead hle
    refine ⟨hfull, hempty, ?_, hhead, htail, hle, ?_⟩
    · simp only [WriterPoint.inSection, Bool.toNat_false, Bool.toNat_true] at hmutex ⊢
      omega
    · simpa only [RingState.reads, RingState.writes, hw, WriterPoint.hasWritten] using hslots
  | writeSlot hw =>
    simp only [hw] at hempty hmutex hhead hle
    refine ⟨hfull, hempty, hmutex, hhead, htail, hle, ?_⟩
    have hwrite := hslots.write (hroom hw)
    simp only [RingState.reads, RingState.writes, hw, WriterPoint.hasWritten, Bool.toNat_false,
      Nat.add_zero] at hwrite
    simp only [WriterPoint.hasMoved, Bool.toNat_false, Nat.add_zero] at hhead
    rw [← hhead] at hwrite
    exact hwrite
  | moveHead hw =>
    simp only [hw] at hempty hmutex hhead hle
    refine ⟨hfull, hempty, hmutex, ?_, htail, hle, ?_⟩
    · simp only [hhead, WriterPoint.hasMoved, Bool.toNat_false, Bool.toNat_true, Nat.add_zero]
      exact Nat.mod_add_mod _ _ _
    · simpa only [RingState.reads, RingState.writes, hw, WriterPoint.hasWritten] using hslots
  | postMutex hw =>
    simp only [hw] at hempty hmutex hhead hle
    refine ⟨hfull, hempty, ?_, hhead, htail, hle, ?_⟩
    · simp only [WriterPoint.inSection, Bool.toNat_false, Bool.toNat_true] at hmutex ⊢
      omega
    · simpa only [RingState.reads, RingState.writes, hw, WriterPoint.hasWritten] using hslots
  | postFull hw =>
    simp only [hw, WriterPoint.hasTaken, WriterPoint.inSection, WriterPoint.hasMoved,
      Bool.toNat_true] at hempty hmutex hhead hle
    refine ⟨?_, ?_, hmutex, ?_, htail, ?_, ?_⟩
    · change s.full + 1 + s.readerIteration + s.reader.hasTaken.toNat = s.writerIteration + 1
      omega
    · simp only [WriterPoint.hasTaken, Bool.toNat_false]
      omega
    · simpa only [WriterPoint.hasMoved, Bool.toNat_false, Nat.add_zero] using hhead
    · simpa only [WriterPoint.hasTaken, Bool.toNat_false, Nat.add_zero] using hle
    · simpa only [RingState.reads, RingState.writes, hw, WriterPoint.hasWritten, Bool.toNat_true,
        Bool.toNat_false, Nat.add_zero] using hslots

/-- A step of the reader keeps the invariant. -/
lemma stepReader (h : RingInvariant cfg s) (hstep : cfg.stepReader s = some (s', out)) :
    RingInvariant cfg s' := by
  obtain ⟨hfull, hempty, hmutex, hhead, htail, hle, hslots⟩ := h
  cases stepReader_effect hstep with
  | waitFull hr hloop hpos =>
    simp only [hr, ReaderPoint.hasTaken, ReaderPoint.inSection, ReaderPoint.hasMoved,
      Bool.toNat_false] at hfull hmutex htail
    refine ⟨?_, hempty, hmutex, hhead, htail, hle, ?_⟩
    · simp only [ReaderPoint.hasTaken, Bool.toNat_true]
      omega
    · simpa only [RingState.reads, RingState.writes, hr, ReaderPoint.hasRead] using hslots
  | waitMutex hr hpos =>
    simp only [hr] at hfull hmutex htail
    refine ⟨hfull, hempty, ?_, hhead, htail, hle, ?_⟩
    · simp only [ReaderPoint.inSection, Bool.toNat_false, Bool.toNat_true] at hmutex ⊢
      omega
    · simpa only [RingState.reads, RingState.writes, hr, ReaderPoint.hasRead] using hslots
  | readSlot hr =>
    simp only [hr] at hfull hmutex htail
    refine ⟨hfull, hempty, hmutex, hhead, htail, hle, ?_⟩
    have hleave := hslots.leave
    simp only [RingState.reads, RingState.writes, hr, ReaderPoint.hasRead, Bool.toNat_false,
      Nat.add_zero] at hleave
    exact hleave
  | moveTail hr =>
    simp only [hr] at hfull hmutex htail
    refine ⟨hfull, hempty, hmutex, hhead, ?_, hle, ?_⟩
    · simp only [htail, ReaderPoint.hasMoved, Bool.toNat_false, Bool.toNat_true, Nat.add_zero]
      exact Nat.mod_add_mod _ _ _
    · simpa only [RingState.reads, RingState.writes, hr, ReaderPoint.hasRead] using hslots
  | postMutex hr =>
    simp only [hr] at hfull hmutex htail
    refine ⟨hfull, hempty, ?_, hhead, htail, hle, ?_⟩
    · simp only [ReaderPoint.inSection, Bool.toNat_false, Bool.toNat_true] at hmutex ⊢
      omega
    · simpa only [RingState.reads, RingState.writes, hr, ReaderPoint.hasRead] using hslots
  | postEmpty hr =>
    simp only [hr, ReaderPoint.hasTaken, ReaderPoint.inSection, ReaderPoint.hasMoved,
      Bool.toNat_true] at hfull hmutex htail
    refine ⟨?_, ?_, hmutex, hhead, ?_, hle, ?_⟩
    · simp only [ReaderPoint.hasTaken, Bool.toNat_false]
      omega
    · change s.empty + 1 + s.writerIteration + s.writer.hasTaken.toNat =
        cfg.capacity + (s.readerIteration + 1)
      omega
    · simpa only [ReaderPoint.hasMoved, Bool.toNat_false, Nat.add_zero] using htail
    · simpa only [RingState.reads, RingState.writes, hr, ReaderPoint.hasRead, Bool.toNat_true,
        Bool.toNat_false, Nat.add_zero] using hslots

/-- A step of either process keeps the invariant. -/
lemma step {a : RingAction} (h : RingInvariant cfg s) (hstep : cfg.step s a = some (s', out)) :
    RingInvariant cfg s' := by
  cases a with
  | writer => exact h.stepWriter hstep
  | reader => exact h.stepReader hstep

/-- The invariant holds before the loops. -/
lemma start (cfg : ShmIpc δ) : RingInvariant cfg cfg.start where
  full := rfl
  empty := by simp [ShmIpc.start, WriterPoint.hasTaken]
  mutex := rfl
  head := by simp [ShmIpc.start, WriterPoint.hasMoved]
  tail := by simp [ShmIpc.start, ReaderPoint.hasMoved]
  writer_le := Nat.zero_le _
  slots := Ring.Holds.empty _ _ _

end RingInvariant

/-- The invariant holds in every reachable state. -/
lemma ring_invariant (h : cfg.system.Reachable s) : RingInvariant cfg s := by
  obtain ⟨ts, hrun⟩ := h
  refine hrun.invariant ?_ fun s a s' out hs hstep => hs.step hstep
  rintro s rfl
  exact .start cfg

/-! ### The accesses of a run -/

/-- What a step of the writer shows. -/
lemma stepWriter_shows (h : cfg.stepWriter s = some (s', out)) :
    s'.reads = s.reads ∧ (out = [] ∧ s'.writes = s.writes ∨
      s.writer = .writeSlot ∧ out = [.wrote s.region.head (cfg.frame s.writerIteration)] ∧
        s'.writes = s.writes + 1) := by
  cases stepWriter_effect h with
  | writeSlot hw =>
    exact ⟨rfl, Or.inr ⟨hw, rfl, by simp [RingState.writes, hw, WriterPoint.hasWritten]⟩⟩
  | waitEmpty hw | waitMutex hw | moveHead hw | postMutex hw | postFull hw =>
    exact ⟨rfl, Or.inl ⟨rfl, by simp [RingState.writes, hw, WriterPoint.hasWritten]⟩⟩

/-- What a step of the reader shows. -/
lemma stepReader_shows (h : cfg.stepReader s = some (s', out)) :
    s'.writes = s.writes ∧ (out = [] ∧ s'.reads = s.reads ∨
      s.reader = .readSlot ∧ out = [.read s.region.tail (s.region.frames s.region.tail)] ∧
        s'.reads = s.reads + 1) := by
  cases stepReader_effect h with
  | readSlot hr =>
    exact ⟨rfl, Or.inr ⟨hr, rfl, by simp [RingState.reads, hr, ReaderPoint.hasRead]⟩⟩
  | waitFull hr | waitMutex hr | moveTail hr | postMutex hr | postEmpty hr =>
    exact ⟨rfl, Or.inl ⟨rfl, by simp [RingState.reads, hr, ReaderPoint.hasRead]⟩⟩

/-- The slot and the frame of a write. -/
def RingEvent.wrote? : RingEvent δ → Option (ℕ × ShmIpc.LidarFrame δ)
  | wrote slot frame => some (slot, frame)
  | read .. => none

/-- The slot and the frame of a read. -/
def RingEvent.read? : RingEvent δ → Option (ℕ × ShmIpc.LidarFrame δ)
  | read slot frame => some (slot, frame)
  | wrote .. => none

/-- What the writer has written, in order. -/
def written (ts : List (Transition (RingState δ) RingAction (RingEvent δ))) :
    List (ℕ × ShmIpc.LidarFrame δ) :=
  (observations ts).filterMap RingEvent.wrote?

/-- What the reader has consumed, in order. -/
def consumed (ts : List (Transition (RingState δ) RingAction (RingEvent δ))) :
    List (ℕ × ShmIpc.LidarFrame δ) :=
  (observations ts).filterMap RingEvent.read?

@[simp] lemma written_append (ts us : List (Transition (RingState δ) RingAction (RingEvent δ))) :
    written (ts ++ us) = written ts ++ written us := by
  simp [written]

@[simp] lemma consumed_append
    (ts us : List (Transition (RingState δ) RingAction (RingEvent δ))) :
    consumed (ts ++ us) = consumed ts ++ consumed us := by
  simp [consumed]

/-- Item `j` with its slot. -/
def ShmIpc.item (cfg : ShmIpc δ) (j : ℕ) : ℕ × ShmIpc.LidarFrame δ :=
  (j % cfg.capacity, cfg.frame j)

/-- Before its slot the writer stands at the slot of the next frame. -/
lemma RingInvariant.next_write (h : RingInvariant cfg s) (hw : s.writer = .writeSlot) :
    (s.region.head, cfg.frame s.writerIteration) = cfg.item s.writes := by
  have hhead := h.head
  simp only [hw, WriterPoint.hasMoved, Bool.toNat_false, Nat.add_zero] at hhead
  simp [ShmIpc.item, RingState.writes, hhead, hw, WriterPoint.hasWritten]

/-- Before its slot the reader stands at the slot of the next frame. -/
lemma RingInvariant.next_read (h : RingInvariant cfg s) (hr : s.reader = .readSlot) :
    (s.region.tail, s.region.frames s.region.tail) = cfg.item s.reads := by
  have hread := h.slots.read (h.reads_lt_writes hr)
  have htail := h.tail
  simp only [hr, ReaderPoint.hasMoved, Bool.toNat_false, Nat.add_zero] at htail
  have hreads : s.reads = s.readerIteration := by simp [RingState.reads, hr, ReaderPoint.hasRead]
  rw [hreads] at hread ⊢
  rw [htail, hread]
  rfl

/-- What the writer has written are the first frames, each in its slot. -/
lemma ring_written (h : cfg.system.Run ts s) :
    written ts = (List.range s.writes).map cfg.item := by
  refine h.invariant_history (I := fun ts s => written ts = (List.range s.writes).map cfg.item)
    ?_ ?_
  · rintro s rfl
    rfl
  · intro ts s a s' out hrun hwritten hstep
    have hinv := ring_invariant ⟨ts, hrun⟩
    rw [written_append, hwritten]
    cases a with
    | writer =>
      obtain ⟨-, ⟨rfl, hw⟩ | ⟨hpoint, rfl, hw⟩⟩ := stepWriter_shows hstep
      · rw [hw]
        simp [written]
      · rw [hw, List.range_succ, List.map_append, List.map_singleton, ← hinv.next_write hpoint]
        rfl
    | reader =>
      obtain ⟨hw, ⟨rfl, -⟩ | ⟨-, rfl, -⟩⟩ := stepReader_shows hstep
      · rw [hw]
        simp [written]
      · rw [hw]
        simp [written, RingEvent.wrote?]

/-- What the reader has consumed are the first frames, each from its slot. -/
lemma ring_consumed (h : cfg.system.Run ts s) :
    consumed ts = (List.range s.reads).map cfg.item := by
  refine h.invariant_history (I := fun ts s => consumed ts = (List.range s.reads).map cfg.item)
    ?_ ?_
  · rintro s rfl
    rfl
  · intro ts s a s' out hrun hconsumed hstep
    have hinv := ring_invariant ⟨ts, hrun⟩
    rw [consumed_append, hconsumed]
    cases a with
    | writer =>
      obtain ⟨hr, ⟨rfl, -⟩ | ⟨-, rfl, -⟩⟩ := stepWriter_shows hstep
      · rw [hr]
        simp [consumed]
      · rw [hr]
        simp [consumed, RingEvent.read?]
    | reader =>
      obtain ⟨-, ⟨rfl, hr⟩ | ⟨hpoint, rfl, hr⟩⟩ := stepReader_shows hstep
      · rw [hr]
        simp [consumed]
      · rw [hr, List.range_succ, List.map_append, List.map_singleton, ← hinv.next_read hpoint]
        rfl

/-- No frame is consumed before it is written. -/
lemma RingInvariant.reads_le_writes (h : RingInvariant cfg s) : s.reads ≤ s.writes := by
  have hfull := h.full
  have htaken : s.reader.hasRead.toNat ≤ s.reader.hasTaken.toNat := by
    cases s.reader <;> decide
  unfold RingState.reads RingState.writes
  omega

/-- Between two writes to one slot the first of the two frames is read. -/
def NoOverwrite (ts : List (Transition (RingState δ) RingAction (RingEvent δ))) : Prop :=
  ∀ us t vs u ws slot frame frame', ts = us ++ t :: (vs ++ u :: ws) →
    .wrote slot frame ∈ t.out → .wrote slot frame' ∈ u.out → ∃ v ∈ vs, .read slot frame ∈ v.out

/-- A transition that writes a slot writes the next frame. -/
private lemma item_of_wrote {t : Transition (RingState δ) RingAction (RingEvent δ)}
    (hinv : RingInvariant cfg t.pre) (hvalid : cfg.system.Valid t) {slot : ℕ}
    {frame : ShmIpc.LidarFrame δ} (hmem : .wrote slot frame ∈ t.out) :
    t.pre.writer = .writeSlot ∧ (slot, frame) = cfg.item t.pre.writes ∧
      written [t] = [(slot, frame)] ∧ consumed [t] = [] := by
  obtain ⟨s, a, s', out⟩ := t
  cases a with
  | writer =>
    have hstep : cfg.stepWriter s = some (s', out) := hvalid
    obtain ⟨-, ⟨rfl, -⟩ | ⟨hpoint, rfl, -⟩⟩ := stepWriter_shows hstep
    · exact absurd hmem List.not_mem_nil
    · obtain ⟨rfl, rfl⟩ := RingEvent.wrote.inj (List.mem_singleton.mp hmem)
      exact ⟨hpoint, hinv.next_write hpoint, rfl, rfl⟩
  | reader =>
    have hstep : cfg.stepReader s = some (s', out) := hvalid
    obtain ⟨-, ⟨rfl, -⟩ | ⟨-, rfl, -⟩⟩ := stepReader_shows hstep
    · exact absurd hmem List.not_mem_nil
    · exact absurd (List.mem_singleton.mp hmem) (by simp)

/-- No slot is overwritten before it is read: the second write has waited for the read. -/
lemma ring_noOverwrite (h : cfg.system.Run ts s) : NoOverwrite ts := by
  rintro us t vs u ws slot frame frame' rfl ht hu
  obtain ⟨hbefore, htvalid⟩ := h.split
  have hrun : cfg.system.Run ((us ++ t :: vs) ++ u :: ws) s := by simpa using h
  obtain ⟨hbetween, huvalid⟩ := hrun.split
  have hinv := ring_invariant ⟨_, hbefore⟩
  have hinv' := ring_invariant ⟨_, hbetween⟩
  obtain ⟨-, hitem, hwrote, hsilent⟩ := item_of_wrote hinv htvalid ht
  obtain ⟨hpoint', hitem', -, -⟩ := item_of_wrote hinv' huvalid hu
  -- the two writes are at least one round apart
  have hlater : t.pre.writes < u.pre.writes := by
    have hlength := congrArg List.length (ring_written hbetween)
    rw [List.append_cons us t vs, written_append, written_append, ring_written hbefore, hwrote]
      at hlength
    simp only [List.length_append, List.length_map, List.length_range, List.length_singleton]
      at hlength
    omega
  have hslot : t.pre.writes % cfg.capacity = u.pre.writes % cfg.capacity :=
    (Prod.mk.inj hitem).1.symm.trans (Prod.mk.inj hitem').1
  have hround := Nat.ModEq.add_le_of_lt hslot hlater
  have hroom := hinv'.writes_lt_reads_add hpoint'
  -- so the first frame has been read, and not before it was written
  have hnotyet := hinv.reads_le_writes
  have hreads : consumed us ++ consumed vs = (List.range u.pre.reads).map cfg.item := by
    rw [← ring_consumed hbetween, List.append_cons us t vs, consumed_append, consumed_append,
      hsilent, List.append_nil]
  have hget : (consumed us ++ consumed vs)[t.pre.writes]? = some (slot, frame) := by
    rw [hreads, hitem, List.getElem?_map, List.getElem?_range (by omega)]
    rfl
  rw [List.getElem?_append_right (by rw [ring_consumed hbefore]; simpa using hnotyet)] at hget
  obtain ⟨event, hevent, hread⟩ := List.mem_filterMap.mp (List.mem_of_getElem? hget)
  obtain ⟨v, hv, hmem⟩ := List.mem_flatMap.mp hevent
  cases event with
  | wrote slot' frame'' => cases hread
  | read slot' frame'' =>
    obtain ⟨rfl, rfl⟩ := Prod.mk.inj (Option.some.inj hread)
    exact ⟨v, hv, hmem⟩

/-! ### Progress -/

/-- Both loops have come to their end. -/
def ShmIpc.Finished (cfg : ShmIpc δ) (s : RingState δ) : Prop :=
  s.writerIteration = cfg.totalFrames ∧ s.readerIteration = cfg.totalFrames

/-- Inside the mutex section and at its posts a process can always move. -/
private lemma isSome_stepWriter (hpoint : s.writer ≠ .waitEmpty)
    (hmutex : s.writer = .waitMutex → 0 < s.mutex) : (cfg.stepWriter s).isSome := by
  unfold ShmIpc.stepWriter
  cases hw : s.writer with
  | waitEmpty => exact absurd hw hpoint
  | waitMutex =>
    simp only
    rw [if_pos (hmutex hw)]
    rfl
  | _ => rfl

/-- Inside the mutex section and at its posts a process can always move. -/
private lemma isSome_stepReader (hpoint : s.reader ≠ .waitFull)
    (hmutex : s.reader = .waitMutex → 0 < s.mutex) : (cfg.stepReader s).isSome := by
  unfold ShmIpc.stepReader
  cases hr : s.reader with
  | waitFull => exact absurd hr hpoint
  | waitMutex =>
    simp only
    rw [if_pos (hmutex hr)]
    rfl
  | _ => rfl

/-- Some process can move until both loops are finished: the holder of the mutex, or else the one
whose semaphore is not zero. -/
lemma RingInvariant.progress (h : RingInvariant cfg s) (hle : s.readerIteration ≤ cfg.totalFrames)
    (hunfinished : ¬cfg.Finished s) : ∃ a, (cfg.step s a).isSome := by
  obtain ⟨hfull, hempty, hmutex, -, -, hwle, -⟩ := h
  by_cases hwin : s.writer.inSection = true
  · refine ⟨.writer, isSome_stepWriter ?_ ?_⟩ <;> intro hw <;> rw [hw] at hwin <;> cases hwin
  by_cases hrin : s.reader.inSection = true
  · refine ⟨.reader, isSome_stepReader ?_ ?_⟩ <;> intro hr <;> rw [hr] at hrin <;> cases hrin
  rw [Bool.not_eq_true] at hwin hrin
  rw [hwin, hrin, Bool.toNat_false] at hmutex
  by_cases hwriter : s.writer = .waitEmpty
  · by_cases hreader : s.reader = .waitFull
    · rw [hreader] at hfull
      rw [hwriter] at hempty
      simp only [ReaderPoint.hasTaken, WriterPoint.hasTaken, Bool.toNat_false] at hfull hempty
      have hpos := cfg.capacity_pos
      by_cases hgo : s.writerIteration < cfg.totalFrames ∧ 0 < s.empty
      · refine ⟨.writer, ?_⟩
        simp only [ShmIpc.step, ShmIpc.stepWriter, hwriter, if_pos hgo, Option.isSome_some]
      · have hgo' : s.readerIteration < cfg.totalFrames ∧ 0 < s.full := by
          unfold ShmIpc.Finished at hunfinished
          omega
        refine ⟨.reader, ?_⟩
        simp only [ShmIpc.step, ShmIpc.stepReader, hreader, if_pos hgo', Option.isSome_some]
    · exact ⟨.reader, isSome_stepReader hreader fun _ => by omega⟩
  · exact ⟨.writer, isSome_stepWriter hwriter fun _ => by omega⟩

/-- The reader does not run past the last frame. -/
lemma RingInvariant.reads_le (h : RingInvariant cfg s) :
    s.readerIteration ≤ cfg.totalFrames := by
  have hfull := h.full
  have hle := h.writer_le
  omega

/-! ### The number of steps -/

/-- The steps that the writer has made in an iteration. -/
def WriterPoint.index : WriterPoint → ℕ
  | waitEmpty => 0
  | waitMutex => 1
  | writeSlot => 2
  | moveHead => 3
  | postMutex => 4
  | postFull => 5

/-- The steps that the reader has made in an iteration. -/
def ReaderPoint.index : ReaderPoint → ℕ
  | waitFull => 0
  | waitMutex => 1
  | readSlot => 2
  | moveTail => 3
  | postMutex => 4
  | postEmpty => 5

/-- The steps that both processes have made. -/
def RingState.steps (s : RingState δ) : ℕ :=
  6 * s.writerIteration + s.writer.index + (6 * s.readerIteration + s.reader.index)

/-- Every step counts once. -/
lemma steps_of_step {a : RingAction} (h : cfg.step s a = some (s', out)) :
    s'.steps = s.steps + 1 := by
  cases a with
  | writer =>
    cases stepWriter_effect h with
    | waitEmpty hw | waitMutex hw | writeSlot hw | moveHead hw | postMutex hw | postFull hw =>
      simp only [RingState.steps, hw, WriterPoint.index]
      omega
  | reader =>
    cases stepReader_effect h with
    | waitFull hr | waitMutex hr | readSlot hr | moveTail hr | postMutex hr | postEmpty hr =>
      simp only [RingState.steps, hr, ReaderPoint.index]
      omega

/-- A run is as long as the steps of the two processes together. -/
lemma ring_length (h : cfg.system.Run ts s) : ts.length = s.steps := by
  refine h.invariant_history (I := fun ts s => ts.length = s.steps) ?_ ?_
  · rintro s rfl
    rfl
  · intro ts s a s' out _ hlength hstep
    rw [List.length_append, hlength, steps_of_step hstep]
    rfl

/-- The processes stop: each makes at most six steps for a frame. -/
theorem ring_terminates (h : cfg.system.Run ts s) : ts.length ≤ 12 * cfg.totalFrames := by
  have hinv := ring_invariant ⟨ts, h⟩
  have hfull := hinv.full
  have hle := hinv.writer_le
  rw [ring_length h, RingState.steps]
  have hwriter : s.writer.index ≤ 5 * s.writer.hasTaken.toNat := by
    cases s.writer <;> decide
  have hreader : s.reader.index ≤ 5 * s.reader.hasTaken.toNat := by
    cases s.reader <;> decide
  have hwbound : s.writer.hasTaken.toNat ≤ 1 := Bool.toNat_le _
  have hrbound : s.reader.hasTaken.toNat ≤ 1 := Bool.toNat_le _
  omega

/-! ### The promises -/

/-- The frames that the writer makes. -/
def ShmIpc.frames (cfg : ShmIpc δ) : List (ShmIpc.LidarFrame δ) :=
  (List.range cfg.totalFrames).map cfg.frame

/-- What the ring buffer promises at the end of a run. -/
structure RingCorrect (cfg : ShmIpc δ)
    (ts : List (Transition (RingState δ) RingAction (RingEvent δ))) (s : RingState δ) : Prop where
  /-- The frames consumed are the first frames written, in order. -/
  consumed_prefix : (consumed ts).map Prod.snd <+: (written ts).map Prod.snd
  /-- The frames written are the first frames of the writer, in order. -/
  written_prefix : (written ts).map Prod.snd <+: cfg.frames
  /-- In the end all frames have been consumed. -/
  complete : cfg.Finished s → (consumed ts).map Prod.snd = cfg.frames
  /-- No slot is overwritten before it is read. -/
  noOverwrite : NoOverwrite ts
  head_lt : s.region.head < cfg.capacity
  tail_lt : s.region.tail < cfg.capacity
  /-- The processes are never inside the mutex section together. -/
  exclusive : ¬(s.writer.inSection = true ∧ s.reader.inSection = true)
  /-- Some process can move until both loops have finished. -/
  notStuck : ¬cfg.Finished s → ∃ a, (cfg.step s a).isSome

/-- The first frames, with or without their slots. -/
private lemma map_snd_item (n : ℕ) :
    ((List.range n).map cfg.item).map Prod.snd = (List.range n).map cfg.frame := by
  simp [ShmIpc.item, Function.comp_def]

/-- The first frames are a prefix of more frames. -/
private lemma map_range_prefix {m n : ℕ} (h : m ≤ n) :
    (List.range m).map cfg.frame <+: (List.range n).map cfg.frame := by
  obtain ⟨k, rfl⟩ := Nat.exists_eq_add_of_le h
  rw [List.range_add, List.map_append]
  exact List.prefix_append _ _

/-- **The ring buffer is correct** in every run of the two processes. -/
theorem ring_correct (h : cfg.system.Run ts s) : RingCorrect cfg ts s := by
  have hinv := ring_invariant ⟨ts, h⟩
  have hfull := hinv.full
  have hle := hinv.writer_le
  have hwrites : s.writes ≤ cfg.totalFrames := by
    have htaken : s.writer.hasWritten.toNat ≤ s.writer.hasTaken.toNat := by
      cases s.writer <;> decide
    unfold RingState.writes
    omega
  constructor
  · rw [ring_consumed h, ring_written h, map_snd_item, map_snd_item]
    exact map_range_prefix hinv.reads_le_writes
  · rw [ring_written h, map_snd_item]
    exact map_range_prefix hwrites
  · rintro ⟨-, hreader⟩
    have hreads : s.reads = cfg.totalFrames := by
      have hupper := hinv.reads_le_writes
      have hlower : s.readerIteration ≤ s.reads := Nat.le_add_right _ _
      omega
    rw [ring_consumed h, map_snd_item, hreads]
    rfl
  · exact ring_noOverwrite h
  · rw [hinv.head]
    exact Nat.mod_lt _ cfg.capacity_pos
  · rw [hinv.tail]
    exact Nat.mod_lt _ cfg.capacity_pos
  · rintro ⟨hwriter, hreader⟩
    have hmutex := hinv.mutex
    rw [hwriter, hreader, Bool.toNat_true] at hmutex
    omega
  · exact hinv.progress hinv.reads_le

/-- Two frames through a single slot. -/
def twoFrames : ShmIpc ℕ := ⟨1, Nat.one_pos, 2, fun i => 10 + i, 0⟩

/-- The writer fills the slot, waits for the reader, and fills it again. -/
def alternation : List RingAction :=
  List.replicate 6 .writer ++ List.replicate 6 .reader ++ List.replicate 6 .writer ++
    List.replicate 6 .reader

/-- Both frames arrive. -/
theorem ring_correct_alternation :
    ∃ ts s, twoFrames.system.Run ts s ∧ ts.map Transition.act = alternation ∧
      twoFrames.Finished s ∧ RingCorrect twoFrames ts s := by
  have hrun := System.run_of_exec twoFrames.system alternation rfl rfl
  exact ⟨_, _, hrun, rfl, ⟨rfl, rfl⟩, ring_correct hrun⟩

end SystemsDemos
