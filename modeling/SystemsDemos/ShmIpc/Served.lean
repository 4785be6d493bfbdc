import SystemsDemos.ShmIpc.Attach

/-!
# The reader is served by the writer

If the reader opens each semaphore after the writer, the loops of the two programs are a run of the
ring buffer (`programs_refine_ring`), and the reader consumes the frames of the writer.  If it does
not, it works with a semaphore that is missing or stale.

### Outline

* `ShmState.loops`, the ring buffer behind the two programs, and what a step does to it;
* `ReaderServed` and `programs_serve_iff`;
* `programs_consume_stale_frame`, a run on the remains of a crashed run.
-/

namespace SystemsDemos

variable {δ : Type} {cfg : ShmIpc δ} {s s' : ShmState δ} {out : List (RingEvent δ)}

/-- What is known at the start. -/
lemma shmStarted_launch (regions : NamedObjects Unit (ShmObject δ))
    (semaphores : NamedObjects SemName ℕ) :
    ShmStarted cfg (ShmIpc.launch regions semaphores) where
  region := ⟨fun _ => rfl, nofun, nofun, nofun⟩
  semaphores := ⟨nofun, fun _ _ => rfl, nofun, nofun, fun _ => ⟨rfl, rfl⟩⟩
  names := ⟨nofun, nofun, nofun⟩
  attached := ⟨nofun, nofun, fun _ => .inl rfl, nofun, fun _ => ⟨rfl, rfl⟩, nofun, nofun⟩

/-- A step that meets the condition. -/
lemma ShmStarted.step {a : RingAction} (h : ShmStarted cfg s)
    (hstep : (cfg.programs.restrict OpensAfterWriter).step s a = some (s', out)) :
    ShmStarted cfg s' := by
  obtain ⟨hopens, hstep⟩ := System.restrict_step.mp hstep
  cases a with
  | writer => exact (writerMove_of_step hstep).kept h
  | reader => exact (readerMove_of_step hstep).kept h hopens

/-! ### The ring buffer behind the programs -/

/-- The loops as the writer sees them, or before the writer has come to its loop. -/
def ShmState.loops (cfg : ShmIpc δ) (s : ShmState δ) : RingState δ :=
  match s.writer.stage, s.writer.region with
  | .loop, some r => s.ring r s.writer.semaphores
  | _, _ => cfg.start

namespace ShmState

lemma loops_of_loop {r : ℕ} (hstage : s.writer.stage = .loop) (hr : s.writer.region = some r) :
    s.loops cfg = s.ring r s.writer.semaphores := by
  simp only [loops, hstage, hr]

lemma loops_of_ne (hstage : s.writer.stage ≠ .loop) : s.loops cfg = cfg.start := by
  unfold loops
  split
  · next hloop _ => exact absurd hloop hstage
  · rfl

end ShmState

/-- Before the writer has come to its loop. -/
private lemma ne_loop {w : WriterStage} (h : w.rank < 10) : w ≠ .loop := by
  rintro rfl
  exact absurd h (Nat.lt_irrefl 10)

private lemma loops_eq_start {w : WriterStage} (hstage : s.writer.stage = w) (hlt : w.rank < 10) :
    s.loops cfg = cfg.start :=
  ShmState.loops_of_ne (ne_loop (hstage ▸ hlt))

/-- What a loop has stored on the objects of the writer. -/
private lemma ShmStarted.loops_store (h : ShmStarted cfg s) {r : ℕ}
    (hstage : s.writer.stage = .loop) (hr : s.writer.region = some r) (ring : RingState δ) :
    (s.store r s.writer.semaphores ring).loops cfg = ring := by
  have hw : s.writer.stage.rank = 10 := by rw [hstage]; rfl
  have hopened (n : SemName) : ∃ i, s.writer.semaphores n = .opened i := by
    have hle := n.index_le
    obtain ⟨i, hi, -⟩ := h.semaphores.created n (by omega)
    exact ⟨i, hi⟩
  have hloops : (s.store r s.writer.semaphores ring).loops cfg =
      (s.store r s.writer.semaphores ring).ring r s.writer.semaphores :=
    ShmState.loops_of_loop hstage hr
  exact hloops.trans (s.ring_store r hopened h.semaphores.distinct ring)

/-- Before the loop of the writer the reader has not come to its own. -/
private lemma ShmStarted.reader_idle (h : ShmStarted cfg s) (hw : s.writer.stage.rank < 10) :
    s.reader.iteration = 0 ∧ s.reader.point = .waitFull := by
  refine h.attached.idle (Nat.lt_of_not_le fun hle => ?_)
  exact ne_loop hw (h.attached.writer_loop h.semaphores hle)

/-- When the writer has created the last semaphore, everything is as the ring buffer starts. -/
private lemma loops_of_created (h : ShmStarted cfg s) (hstage : s.writer.stage = .semOpen .empty)
    (hs' : s' =
      { s with
        semaphores := s.semaphores.bind .empty (cfg.initialCount .empty)
        writer := { s.writer with
          stage := .loop
          semaphores := Function.update s.writer.semaphores .empty
            (.opened s.semaphores.fresh) } }) : s'.loops cfg = cfg.start := by
  have hw : s.writer.stage.rank = 9 := by rw [hstage]; rfl
  obtain ⟨r, hr⟩ := h.region.opened (by omega)
  obtain ⟨i, hi, hifresh, hicount⟩ := h.semaphores.created .mutex
    (by simp only [SemName.index]; omega)
  obtain ⟨j, hj, hjfresh, hjcount⟩ := h.semaphores.created .full
    (by simp only [SemName.index]; omega)
  have hzeros := h.region.zeroed r hr (by omega) (by omega)
  obtain ⟨hwriter, hwriter'⟩ := h.semaphores.idle (by omega)
  obtain ⟨hreader, hreader'⟩ := h.reader_idle (by omega)
  rw [ShmState.loops_of_loop (r := r) (by rw [hs']) (by rw [hs']; exact hr), hs']
  simp only [ShmState.ring, hzeros, hwriter, hwriter', hreader, hreader',
    Function.update_of_ne (show SemName.mutex ≠ .empty by decide),
    Function.update_of_ne (show SemName.full ≠ .empty by decide), Function.update_self,
    hi, hj, Handle.count, NamedObjects.object_bind_of_lt _ hifresh,
    NamedObjects.object_bind_of_lt _ hjfresh, NamedObjects.object_bind, hicount (by omega),
    hjcount (by omega)]
  rfl

/-- A step of the writer is a step of the ring buffer, or a step of the start-up. -/
private lemma WriterMove.loops (hm : WriterMove cfg s s' out) (h : ShmStarted cfg s) :
    s'.reader.stage = s.reader.stage ∧
      ((cfg.stepWriter (s.loops cfg) = some (s'.loops cfg, out) ∧
        s'.writer.stage.rank = s.writer.stage.rank) ∨
        s'.loops cfg = s.loops cfg ∧ out = [] ∧
          s'.writer.stage.rank = s.writer.stage.rank + 1) := by
  have hrank {w : WriterStage} (hstage : s.writer.stage = w) : s.writer.stage.rank = w.rank := by
    rw [hstage]
  cases hm with
  | shmOpenFound hstage | shmOpenNew hstage =>
    refine ⟨rfl, .inr ⟨?_, rfl, by rw [hrank hstage]; rfl⟩⟩
    rw [loops_eq_start hstage (by decide)]
    exact loops_eq_start (w := .ftruncate) rfl (by decide)
  | ftruncate hstage hr =>
    refine ⟨rfl, .inr ⟨?_, rfl, by rw [hrank hstage]; rfl⟩⟩
    rw [loops_eq_start hstage (by decide)]
    exact loops_eq_start (w := .mmap) rfl (by decide)
  | mmap hstage =>
    refine ⟨rfl, .inr ⟨?_, rfl, by rw [hrank hstage]; rfl⟩⟩
    rw [loops_eq_start hstage (by decide)]
    exact loops_eq_start (w := .memset) rfl (by decide)
  | memset hstage hr =>
    refine ⟨rfl, .inr ⟨?_, rfl, by rw [hrank hstage]; rfl⟩⟩
    rw [loops_eq_start hstage (by decide)]
    exact loops_eq_start (w := .semUnlink .mutex) rfl (by decide)
  | @semUnlink n hstage =>
    refine ⟨rfl, .inr ⟨?_, rfl, ?_⟩⟩
    · rw [loops_eq_start hstage (by cases n <;> decide)]
      exact loops_eq_start (w := (n.next.map .semUnlink).getD (.semOpen .mutex)) rfl
        (by cases n <;> decide)
    · rw [hrank hstage]
      exact (rank_after_writer_unlink n).trans (by simp only [WriterStage.rank]; omega)
  | @semOpenFound n i hstage hi =>
    have hw : s.writer.stage.rank = 7 + n.index := hrank hstage
    rw [h.semaphores.cleared n (by omega) (by omega)] at hi
    cases hi
  | @semOpenNew n hstage hnone =>
    refine ⟨rfl, .inr ⟨?_, rfl, ?_⟩⟩
    · rw [loops_eq_start hstage (by cases n <;> decide)]
      cases n with
      | mutex => exact loops_eq_start (w := .semOpen .full) rfl (by decide)
      | full => exact loops_eq_start (w := .semOpen .empty) rfl (by decide)
      | empty => exact loops_of_created h hstage rfl
    · rw [hrank hstage]
      exact (rank_after_create n).trans (by simp only [WriterStage.rank]; omega)
  | @loop r ring out hstage hr hring =>
    refine ⟨rfl, .inl ⟨?_, rfl⟩⟩
    rw [ShmState.loops_of_loop hstage hr, hring, h.loops_store hstage hr]

/-- A step of the reader is a step of the ring buffer, or one before or after its loop. -/
private lemma ReaderMove.loops (hm : ReaderMove cfg s s' out) (h : ShmStarted cfg s) :
    s'.writer.stage = s.writer.stage ∧
      ((cfg.stepReader (s.loops cfg) = some (s'.loops cfg, out) ∧
        s'.reader.stage.rank = s.reader.stage.rank) ∨
        s'.loops cfg = s.loops cfg ∧ out = [] ∧
          s'.reader.stage.rank = s.reader.stage.rank + 1) := by
  have hrank {r : ReaderStage} (hstage : s.reader.stage = r) : s.reader.stage.rank = r.rank := by
    rw [hstage]
  cases hm with
  | shmOpenFailed hstage | shmOpen hstage | mmap hstage =>
    exact ⟨rfl, .inr ⟨rfl, rfl, by rw [hrank hstage]; rfl⟩⟩
  | @semOpen n hstage =>
    refine ⟨rfl, .inr ⟨rfl, rfl, ?_⟩⟩
    rw [hrank hstage]
    cases n <;> rfl
  | leave hstage => exact ⟨rfl, .inr ⟨rfl, rfl, by rw [hrank hstage]; rfl⟩⟩
  | fault hstage hr hfault =>
    rw [h.not_faults hstage hr] at hfault
    cases hfault
  | @loop r ring out hstage hr hring =>
    have hrank : s.reader.stage.rank = 5 := hrank hstage
    have hloop := h.attached.writer_loop h.semaphores (by omega)
    obtain ⟨r', hr'⟩ := h.region.opened (by rw [hloop]; decide)
    obtain rfl := h.attached.same r r' hr hr'
    rw [h.attached.semaphores_eq (by omega)] at hring ⊢
    refine ⟨rfl, .inl ⟨?_, rfl⟩⟩
    rw [ShmState.loops_of_loop hloop hr', hring, h.loops_store hloop hr']
  | @semUnlink n hstage =>
    refine ⟨rfl, .inr ⟨rfl, rfl, ?_⟩⟩
    rw [hrank hstage]
    cases n <;> rfl
  | shmUnlink hstage => exact ⟨rfl, .inr ⟨rfl, rfl, by rw [hrank hstage]; rfl⟩⟩

/-- A step under the condition is a step of the ring buffer, or one step of a program outside its
loop. -/
private lemma ShmStarted.loops_step {a : RingAction} (h : ShmStarted cfg s)
    (hstep : (cfg.programs.restrict OpensAfterWriter).step s a = some (s', out)) :
    (cfg.step (s.loops cfg) a = some (s'.loops cfg, out) ∧
      s'.writer.stage.rank + s'.reader.stage.rank = s.writer.stage.rank + s.reader.stage.rank) ∨
      s'.loops cfg = s.loops cfg ∧ out = [] ∧
        s'.writer.stage.rank + s'.reader.stage.rank =
          s.writer.stage.rank + s.reader.stage.rank + 1 := by
  obtain ⟨-, hstep⟩ := System.restrict_step.mp hstep
  cases a with
  | writer =>
    obtain ⟨hother, ⟨hring, hrank⟩ | ⟨hloops, hout, hrank⟩⟩ := (writerMove_of_step hstep).loops h
    · exact .inl ⟨hring, by rw [hother, hrank]⟩
    · refine .inr ⟨hloops, hout, ?_⟩
      rw [hother, hrank]
      omega
  | reader =>
    obtain ⟨hother, ⟨hring, hrank⟩ | ⟨hloops, hout, hrank⟩⟩ := (readerMove_of_step hstep).loops h
    · exact .inl ⟨hring, by rw [hother, hrank]⟩
    · refine .inr ⟨hloops, hout, ?_⟩
      rw [hother, hrank]
      omega

/-- The invariant of the programs under the condition. -/
lemma shmStarted_of_reachable (h : (cfg.programs.restrict OpensAfterWriter).Reachable s) :
    ShmStarted cfg s := by
  obtain ⟨ts, hrun⟩ := h
  refine hrun.invariant ?_ fun s a s' out hs hstep => hs.step hstep
  rintro _ ⟨regions, semaphores, rfl⟩
  exact shmStarted_launch regions semaphores

/-- Under the condition the two programs run the ring buffer. -/
theorem programs_refine_ring :
    Refinement (cfg.programs.restrict OpensAfterWriter) cfg.system (ShmState.loops cfg) some where
  init := by
    rintro _ ⟨regions, semaphores, rfl⟩
    rfl
  step := by
    intro s a s' out hreach hstep
    rcases (shmStarted_of_reachable hreach).loops_step hstep with ⟨hring, -⟩ | ⟨hloops, rfl, -⟩
    · exact .inl ⟨a, by rw [List.filterMap_some]; exact hring⟩
    · exact .inr ⟨hloops, rfl⟩

/-- Every step under the condition counts once, in one of the programs or in the ring buffer. -/
lemma programs_length {ts : List (Transition (ShmState δ) RingAction (RingEvent δ))}
    (h : (cfg.programs.restrict OpensAfterWriter).Run ts s) :
    ts.length = s.writer.stage.rank + s.reader.stage.rank + (s.loops cfg).steps := by
  refine h.invariant_history (I := fun ts s => ts.length =
    s.writer.stage.rank + s.reader.stage.rank + (s.loops cfg).steps) ?_ ?_
  · rintro _ ⟨regions, semaphores, rfl⟩
    rfl
  · intro ts s a s' out hrun hlength hstep
    rw [List.length_append, hlength]
    rcases (shmStarted_of_reachable ⟨ts, hrun⟩).loops_step hstep with
      ⟨hring, hrank⟩ | ⟨hloops, -, hrank⟩
    · rw [hrank, steps_of_step hring]
      rfl
    · rw [hrank, hloops]
      simp only [List.length_singleton]
      omega

/-! ### What the reader gets -/

/-- The reader has left its loop. -/
def ReaderStage.hasConsumed : ReaderStage → Bool
  | semUnlink _ | shmUnlink | done => true
  | _ => false

variable {ts : List (Transition (ShmState δ) RingAction (RingEvent δ))}

/-- The frames that the writer has written, in order. -/
def framesWritten (ts : List (Transition (ShmState δ) RingAction (RingEvent δ))) :
    List (ShmIpc.LidarFrame δ) :=
  ((observations ts).filterMap RingEvent.wrote?).map Prod.snd

/-- The frames that the reader has consumed, in order. -/
def framesConsumed (ts : List (Transition (ShmState δ) RingAction (RingEvent δ))) :
    List (ShmIpc.LidarFrame δ) :=
  ((observations ts).filterMap RingEvent.read?).map Prod.snd

/-- What the reader may expect at the end of a run of the two programs. -/
structure ReaderServed (cfg : ShmIpc δ)
    (ts : List (Transition (ShmState δ) RingAction (RingEvent δ))) (s : ShmState δ) : Prop where
  /-- The semaphores that it has are there, and are those of this writer. -/
  semaphores : ∀ n, s.reader.semaphores n = .unopened ∨
    ∃ i, s.reader.semaphores n = .opened i ∧ s.writer.semaphores n = .opened i
  /-- In its loop it has the region of this writer, which has sized and zeroed it. -/
  region : s.reader.stage = .loop → s.writer.stage = .loop ∧
    ∃ r, s.reader.region = some r ∧ s.writer.region = some r ∧ (s.regions.object r).sized = true
  defined : s.reader.stage ≠ .undefined
  /-- The frames consumed are the first frames of this writer, in order. -/
  consumed_prefix : framesConsumed ts <+: framesWritten ts
  written_prefix : framesWritten ts <+: cfg.frames
  /-- After its loop it has consumed all of them. -/
  complete : s.reader.stage.hasConsumed = true → framesConsumed ts = cfg.frames
  /-- Unless it has returned with an error or is done, some program can move. -/
  notStuck : s.reader.stage ≠ .failed → s.reader.stage ≠ .done →
    ∃ a, (cfg.stepMain s a).isSome
  /-- The programs stop. -/
  bounded : ts.length ≤ 20 + 12 * cfg.totalFrames

/-- In its loop the reader leaves it, or one of the two loops can move. -/
private lemma ShmStarted.progress (h : ShmStarted cfg s) (hstage : s.reader.stage = .loop)
    (hring : RingInvariant cfg (s.loops cfg))
    (hmoves : ¬cfg.Finished (s.loops cfg) → ∃ a, (cfg.step (s.loops cfg) a).isSome) :
    ∃ a, (cfg.stepMain s a).isSome := by
  have hrank : s.reader.stage.rank = 5 := by rw [hstage]; rfl
  have hloop := h.attached.writer_loop h.semaphores (by omega)
  obtain ⟨r, hr⟩ := h.attached.region (by omega) (by simp [hstage])
  obtain ⟨r', hr'⟩ := h.region.opened (by rw [hloop]; decide)
  obtain rfl := h.attached.same r r' hr hr'
  rw [ShmState.loops_of_loop hloop hr'] at hring hmoves
  by_cases hleave : s.reader.point = .waitFull ∧ cfg.totalFrames ≤ s.reader.iteration
  · refine ⟨.reader, ?_⟩
    simp [ShmIpc.stepMain, ShmIpc.stepReaderMain, hstage, hr, hleave]
  · have hunfinished : ¬cfg.Finished (s.ring r s.writer.semaphores) := by
      rintro ⟨hwriter, hreader⟩
      have hfull := hring.full
      rw [hwriter, hreader] at hfull
      refine hleave ⟨?_, Nat.le_of_eq hreader.symm⟩
      cases hpoint : s.reader.point with
      | waitFull => rfl
      | _ =>
        have htaken : (s.ring r s.writer.semaphores).reader.hasTaken = true := by
          simp only [ShmState.ring, hpoint, ReaderPoint.hasTaken]
        rw [htaken, Bool.toNat_true] at hfull
        omega
    obtain ⟨a, ha⟩ := hmoves hunfinished
    cases a with
    | writer =>
      refine ⟨.writer, ?_⟩
      have hsome : (cfg.stepWriter (s.ring r s.writer.semaphores)).isSome := ha
      simpa [ShmIpc.stepMain, ShmIpc.stepWriterMain, hloop, hr'] using hsome
    | reader =>
      refine ⟨.reader, ?_⟩
      have hsome : (cfg.stepReader (s.ring r s.writer.semaphores)).isSome := ha
      rw [← h.attached.semaphores_eq (by omega)] at hsome
      simpa [ShmIpc.stepMain, ShmIpc.stepReaderMain, hstage, hr, hleave, h.not_faults hstage hr]
        using hsome

/-- A reader that opens each semaphore after the writer is served. -/
private lemma readerServed_of_opens (h : cfg.programs.Run ts s)
    (hopens : ∀ t ∈ ts, OpensAfterWriter t.pre t.act) : ReaderServed cfg ts s := by
  have hrun := h.restrict hopens
  have hstarted := shmStarted_of_reachable ⟨ts, hrun⟩
  obtain ⟨us, hring, hobs⟩ := programs_refine_ring.run hrun
  have hcorrect := ring_correct hring
  have hinv := ring_invariant ⟨us, hring⟩
  have hobs' : observations us = observations ts := by simpa using hobs
  have hconsumed : framesConsumed ts = (consumed us).map Prod.snd := by
    simp only [framesConsumed, consumed, hobs']
  have hwritten : framesWritten ts = (written us).map Prod.snd := by
    simp only [framesWritten, written, hobs']
  constructor
  · exact hstarted.attached.semaphores
  · intro hstage
    have hrank : s.reader.stage.rank = 5 := by rw [hstage]; rfl
    have hloop := hstarted.attached.writer_loop hstarted.semaphores (by omega)
    obtain ⟨r, hr⟩ := hstarted.attached.region (by omega) (by simp [hstage])
    obtain ⟨r', hr'⟩ := hstarted.region.opened (by rw [hloop]; decide)
    obtain rfl := hstarted.attached.same r r' hr hr'
    exact ⟨hloop, r, hr, hr', hstarted.region.sized r hr' (by rw [hloop]; decide)⟩
  · exact hstarted.attached.defined
  · rw [hconsumed, hwritten]
    exact hcorrect.consumed_prefix
  · rw [hwritten]
    exact hcorrect.written_prefix
  · intro hpast
    have hrank : 5 < s.reader.stage.rank := by
      revert hpast
      cases s.reader.stage with
      | semUnlink n => exact fun _ => by simp only [ReaderStage.rank]; omega
      | shmUnlink | done => exact fun _ => by decide
      | _ => exact fun hpast => absurd hpast Bool.false_ne_true
    have hloop := hstarted.attached.writer_loop hstarted.semaphores (by omega)
    obtain ⟨r, hr⟩ := hstarted.region.opened (by rw [hloop]; decide)
    have hdone : cfg.totalFrames ≤ (s.loops cfg).readerIteration := by
      rw [ShmState.loops_of_loop hloop hr]
      exact (hstarted.attached.finished hrank).1
    have hfull := hinv.full
    have hle := hinv.writer_le
    rw [hconsumed]
    exact hcorrect.complete ⟨by omega, by omega⟩
  · intro hfailed hdone
    cases hstage : s.reader.stage with
    | shmOpen =>
      refine ⟨.reader, ?_⟩
      cases hbound : s.regions.bound () <;>
        simp [ShmIpc.stepMain, ShmIpc.stepReaderMain, hstage, hbound]
    | loop => exact hstarted.progress hstage hinv hcorrect.notStuck
    | mmap | semOpen | semUnlink | shmUnlink =>
      exact ⟨.reader, by simp [ShmIpc.stepMain, ShmIpc.stepReaderMain, hstage]⟩
    | failed => exact absurd hstage hfailed
    | done => exact absurd hstage hdone
    | undefined => exact absurd hstage hstarted.attached.defined
  · have hwriter := s.writer.stage.rank_le
    have hreader := s.reader.stage.rank_le
    have hsteps := ring_terminates hring
    rw [ring_length hring] at hsteps
    rw [programs_length hrun]
    omega

/-- **When the reader is served.**  Throughout a run of the two programs, started on whatever a
crashed run has left, the reader is served by this writer exactly when each of its `sem_open` calls
comes after that of the writer for the same name. -/
theorem programs_serve_iff (h : cfg.programs.Run ts s) :
    EveryStep (fun us t => ReaderServed cfg (us ++ [t]) t.post) ts ↔
      ∀ t ∈ ts, OpensAfterWriter t.pre t.act := by
  constructor
  · intro hserved t ht
    obtain ⟨us, vs, rfl⟩ := List.append_of_mem ht
    have hsemaphores := (hserved us t vs rfl).semaphores
    obtain ⟨pre, a, post, out⟩ := t
    cases a with
    | writer => trivial
    | reader =>
      intro n hn
      have hstage : pre.reader.stage = .semOpen n := by
        cases hstage : pre.reader.stage <;> rw [hstage] at hn <;> cases hn
        rfl
      have hstep : cfg.stepReaderMain pre = some (post, out) := h.split.2
      simp only [ShmIpc.stepReaderMain, hstage] at hstep
      cases hstep
      -- what it has opened is the semaphore of the writer
      rcases hsemaphores n with hnone | ⟨i, -, hi⟩
      · simp only [Function.update_self] at hnone
        cases hbound : pre.semaphores.bound n <;> rw [hbound] at hnone <;> cases hnone
      · rw [hi]
        exact Handle.noConfusion
  · rintro hopens us t vs rfl
    obtain ⟨hr, hvalid⟩ := h.split
    refine readerServed_of_opens (hr.snoc hvalid) fun u hu => hopens u ?_
    rcases List.mem_append.mp hu with hu | hu
    · exact List.mem_append_left _ hu
    · obtain rfl := List.mem_singleton.mp hu
      exact List.mem_append_right _ List.mem_cons_self

/-- The program with its constants; the distances are in tenths of a metre. -/
def lidarDemo : ShmIpc ℕ := ⟨4, by decide, 12, fun i => 10 + i, 0⟩

/-- A region with an unread frame of a crashed run. -/
def staleRegion : NamedObjects Unit (ShmObject ℕ) where
  bound _ := some 0
  object _ := ⟨true, ⟨fun _ => ⟨7, 17⟩, 1, 0⟩⟩
  fresh := 1
  bound_lt := by simp
  bound_inj := by simp

/-- The semaphores of a crashed run, with the count of the unread frame. -/
def staleSemaphores : NamedObjects SemName ℕ where
  bound n := some n.index
  object i := if i = 2 then 3 else 1
  fresh := 3
  bound_lt := by
    intro n i h
    obtain rfl := Option.some.inj h
    exact Nat.lt_succ_of_le n.index_le
  bound_inj := by
    intro m n i hm hn
    exact SemName.index_injective (Option.some.inj (hm.trans hn.symm))

/-- On the remains of a crashed run the writer comes first, and a frame goes through. -/
theorem programs_serve_iff_writerFirst :
    ∃ ts s, lidarDemo.programs.Run ts s ∧ framesConsumed ts = [lidarDemo.frame 0] ∧
      (EveryStep (fun us t => ReaderServed lidarDemo (us ++ [t]) t.post) ts ↔
        ∀ t ∈ ts, OpensAfterWriter t.pre t.act) := by
  have hrun := System.run_of_exec lidarDemo.programs
    (s := ShmIpc.launch staleRegion staleSemaphores)
    (List.replicate 10 .writer ++ List.replicate 5 .reader ++ List.replicate 6 .writer ++
      List.replicate 3 .reader) ⟨_, _, rfl⟩ rfl
  exact ⟨_, _, hrun, rfl, programs_serve_iff hrun⟩

/-- The reader starts while the writer has not yet unlinked the semaphores of the crashed run, and
consumes the frame that was left. -/
theorem programs_consume_stale_frame :
    ¬∀ (ts : List (Transition (ShmState ℕ) RingAction (RingEvent ℕ))) (s : ShmState ℕ),
      lidarDemo.programs.Run ts s →
        EveryStep (fun us t => ReaderServed lidarDemo (us ++ [t]) t.post) ts := by
  intro h
  have hrun := System.run_of_exec lidarDemo.programs
    (s := ShmIpc.launch staleRegion staleSemaphores)
    (List.replicate 2 .writer ++ List.replicate 7 .reader) ⟨_, _, rfl⟩ rfl
  have hlast := hrun.snoc (rfl : lidarDemo.programs.step _ .reader = some (_, [.read 0 ⟨7, 17⟩]))
  have hserved := h _ _ hlast _ _ [] rfl
  have hprefix : [(⟨7, 17⟩ : ShmIpc.LidarFrame ℕ)] <+: [] := hserved.consumed_prefix
  exact absurd (List.prefix_nil.mp hprefix) (List.cons_ne_nil _ _)

end SystemsDemos
