import SystemsDemos.ShmIpc.Startup
import SystemsDemos.ShmIpc.Ring
import SystemsDemos.Transition.History

/-!
# Attaching to the writer

What the reader gets when it starts next to the writer on the remains of a crashed run.  If each
`sem_open` of the reader comes after the `sem_open` of the writer for the same name, both programs
work on the same objects and their loops are a run of the ring buffer; the region needs no condition
of its own, because the semaphores come last.  Otherwise the reader has a semaphore that is missing
or of the crashed run, and does not notice.

### Outline

* `WriterStage.rank` and `ReaderStage.rank`, how far the programs are;
* `WriterMove` and `ReaderMove`, what a step can do;
* `ShmStarted`, kept by every step in which `OpensAfterWriter` holds.
-/

namespace SystemsDemos

/-! ### How far the programs are -/

/-- The number of names before this one. -/
def SemName.index : SemName → ℕ
  | mutex => 0
  | full => 1
  | empty => 2

/-- The steps of the writer before a stage. -/
def WriterStage.rank : WriterStage → ℕ
  | shmOpen => 0
  | ftruncate => 1
  | mmap => 2
  | memset => 3
  | semUnlink n => 4 + n.index
  | semOpen n => 7 + n.index
  | loop => 10

/-- The steps of the reader before a stage, outside its loop. -/
def ReaderStage.rank : ReaderStage → ℕ
  | shmOpen => 0
  | mmap | failed => 1
  | semOpen n => 2 + n.index
  | loop => 5
  | semUnlink n => 6 + n.index
  | shmUnlink => 9
  | done | undefined => 10

lemma SemName.index_le (n : SemName) : n.index ≤ 2 := by cases n <;> decide

lemma SemName.index_injective : Function.Injective SemName.index := by
  intro m n h
  cases m <;> cases n <;> first | rfl | cases h

lemma WriterStage.rank_le (w : WriterStage) : w.rank ≤ 10 := by
  cases w with
  | semUnlink n | semOpen n =>
    have hle := n.index_le
    simp only [rank]
    omega
  | _ => decide

lemma ReaderStage.rank_le (r : ReaderStage) : r.rank ≤ 10 := by
  cases r with
  | semUnlink n | semOpen n =>
    have hle := n.index_le
    simp only [rank]
    omega
  | _ => decide

/-- The writer has come to its loop. -/
lemma WriterStage.eq_loop {w : WriterStage} (h : 10 ≤ w.rank) : w = loop := by
  cases w with
  | semUnlink n | semOpen n =>
    have hle := n.index_le
    simp only [rank] at h
    omega
  | loop => rfl
  | _ => exact absurd h (by decide)

/-- After unlinking a name. -/
lemma rank_after_writer_unlink (n : SemName) :
    ((n.next.map WriterStage.semUnlink).getD (.semOpen .mutex)).rank = 5 + n.index := by
  cases n <;> rfl

/-- After creating a semaphore. -/
lemma rank_after_create (n : SemName) :
    ((n.next.map WriterStage.semOpen).getD .loop).rank = 8 + n.index := by
  cases n <;> rfl

/-- After opening a semaphore. -/
lemma rank_after_open (n : SemName) :
    ((n.next.map ReaderStage.semOpen).getD .loop).rank = 3 + n.index := by
  cases n <;> rfl

/-- After unlinking a name. -/
lemma rank_after_reader_unlink (n : SemName) :
    ((n.next.map ReaderStage.semUnlink).getD .shmUnlink).rank = 7 + n.index := by
  cases n <;> rfl

/-! ### Objects -/

namespace Handle

@[simp] lemma bound_store (semaphores : NamedObjects SemName ℕ) (n : ℕ) (h : Handle) :
    (h.store semaphores n).bound = semaphores.bound := by
  cases h <;> rfl

@[simp] lemma fresh_store (semaphores : NamedObjects SemName ℕ) (n : ℕ) (h : Handle) :
    (h.store semaphores n).fresh = semaphores.fresh := by
  cases h <;> rfl

end Handle

variable {δ : Type} {cfg : ShmIpc δ} {s s' : ShmState δ} {out : List (RingEvent δ)}

namespace ShmState

@[simp] lemma bound_semaphores_store (s : ShmState δ) (r : ℕ) (semaphores : SemName → Handle)
    (ring : RingState δ) : (s.store r semaphores ring).semaphores.bound = s.semaphores.bound := by
  simp [store]

@[simp] lemma fresh_semaphores_store (s : ShmState δ) (r : ℕ) (semaphores : SemName → Handle)
    (ring : RingState δ) : (s.store r semaphores ring).semaphores.fresh = s.semaphores.fresh := by
  simp [store]

/-- The loops do not change the size of a region. -/
@[simp] lemma sized_store (s : ShmState δ) (r i : ℕ) (semaphores : SemName → Handle)
    (ring : RingState δ) :
    ((s.store r semaphores ring).regions.object i).sized = (s.regions.object i).sized := by
  by_cases h : i = r
  · rw [h]
    simp [store]
  · simp [store, NamedObjects.object_set_of_ne _ h]

/-- What has been stored is found again, if the three semaphores are three objects. -/
lemma ring_store (s : ShmState δ) (r : ℕ) {semaphores : SemName → Handle}
    (hopened : ∀ n, ∃ i, semaphores n = .opened i)
    (hdistinct : ∀ m n i, semaphores m = .opened i → semaphores n = .opened i → m = n)
    (ring : RingState δ) : (s.store r semaphores ring).ring r semaphores = ring := by
  obtain ⟨i, hi⟩ := hopened .mutex
  obtain ⟨j, hj⟩ := hopened .full
  obtain ⟨k, hk⟩ := hopened .empty
  have hij : i ≠ j := by
    rintro rfl
    cases hdistinct _ _ _ hi hj
  have hik : i ≠ k := by
    rintro rfl
    cases hdistinct _ _ _ hi hk
  have hjk : j ≠ k := by
    rintro rfl
    cases hdistinct _ _ _ hj hk
  simp [ShmState.ring, store, hi, hj, hk, Handle.store, Handle.count,
    NamedObjects.object_set_of_ne _ hij, NamedObjects.object_set_of_ne _ hik,
    NamedObjects.object_set_of_ne _ hjk]

end ShmState

/-! ### What a step can do -/

/-- What a step of the writer does. -/
inductive WriterMove (cfg : ShmIpc δ) (s : ShmState δ) :
    ShmState δ → List (RingEvent δ) → Prop
  | shmOpenFound {r} (hstage : s.writer.stage = .shmOpen) (hr : s.regions.bound () = some r) :
      WriterMove cfg s
        { s with writer := { s.writer with stage := .ftruncate, region := some r } } []
  | shmOpenNew (hstage : s.writer.stage = .shmOpen) (hnone : s.regions.bound () = none) :
      WriterMove cfg s
        { s with
          regions := s.regions.bind () ⟨false, cfg.zeros⟩
          writer := { s.writer with stage := .ftruncate, region := some s.regions.fresh } } []
  | ftruncate {r} (hstage : s.writer.stage = .ftruncate) (hr : s.writer.region = some r) :
      WriterMove cfg s
        { s.moveWriter .mmap with
          regions := s.regions.set r
            ⟨true, if (s.regions.object r).sized then (s.regions.object r).content
              else cfg.zeros⟩ } []
  | mmap (hstage : s.writer.stage = .mmap) : WriterMove cfg s (s.moveWriter .memset) []
  | memset {r} (hstage : s.writer.stage = .memset) (hr : s.writer.region = some r) :
      WriterMove cfg s
        { s.moveWriter (.semUnlink .mutex) with
          regions := s.regions.set r { s.regions.object r with content := cfg.zeros } } []
  | semUnlink {n} (hstage : s.writer.stage = .semUnlink n) :
      WriterMove cfg s
        { s.moveWriter ((n.next.map .semUnlink).getD (.semOpen .mutex)) with
          semaphores := s.semaphores.unlink n } []
  | semOpenFound {n i} (hstage : s.writer.stage = .semOpen n) (hi : s.semaphores.bound n = some i) :
      WriterMove cfg s
        { s with
          writer := { s.writer with
            stage := (n.next.map .semOpen).getD .loop
            semaphores := Function.update s.writer.semaphores n (.opened i) } } []
  | semOpenNew {n} (hstage : s.writer.stage = .semOpen n) (hnone : s.semaphores.bound n = none) :
      WriterMove cfg s
        { s with
          semaphores := s.semaphores.bind n (cfg.initialCount n)
          writer := { s.writer with
            stage := (n.next.map .semOpen).getD .loop
            semaphores := Function.update s.writer.semaphores n
              (.opened s.semaphores.fresh) } } []
  | loop {r ring out} (hstage : s.writer.stage = .loop) (hr : s.writer.region = some r)
      (hring : cfg.stepWriter (s.ring r s.writer.semaphores) = some (ring, out)) :
      WriterMove cfg s (s.store r s.writer.semaphores ring) out

/-- What a step of the reader does. -/
inductive ReaderMove (cfg : ShmIpc δ) (s : ShmState δ) :
    ShmState δ → List (RingEvent δ) → Prop
  | shmOpenFailed (hstage : s.reader.stage = .shmOpen) (hnone : s.regions.bound () = none) :
      ReaderMove cfg s (s.moveReader .failed) []
  | shmOpen {r} (hstage : s.reader.stage = .shmOpen) (hr : s.regions.bound () = some r) :
      ReaderMove cfg s
        { s with reader := { s.reader with stage := .mmap, region := some r } } []
  | mmap (hstage : s.reader.stage = .mmap) :
      ReaderMove cfg s (s.moveReader (.semOpen .mutex)) []
  | semOpen {n} (hstage : s.reader.stage = .semOpen n) :
      ReaderMove cfg s
        { s with
          reader := { s.reader with
            stage := (n.next.map .semOpen).getD .loop
            semaphores := Function.update s.reader.semaphores n
              (((s.semaphores.bound n).map .opened).getD .failed) } } []
  | leave {r} (hstage : s.reader.stage = .loop) (hr : s.reader.region = some r)
      (hpoint : s.reader.point = .waitFull) (hdone : cfg.totalFrames ≤ s.reader.iteration) :
      ReaderMove cfg s (s.moveReader (.semUnlink .mutex)) []
  | fault {r} (hstage : s.reader.stage = .loop) (hr : s.reader.region = some r)
      (hfault : ShmIpc.faults s r = true) : ReaderMove cfg s (s.moveReader .undefined) []
  | loop {r ring out} (hstage : s.reader.stage = .loop) (hr : s.reader.region = some r)
      (hring : cfg.stepReader (s.ring r s.reader.semaphores) = some (ring, out)) :
      ReaderMove cfg s (s.store r s.reader.semaphores ring) out
  | semUnlink {n} (hstage : s.reader.stage = .semUnlink n) :
      ReaderMove cfg s
        { s.moveReader ((n.next.map .semUnlink).getD .shmUnlink) with
          semaphores := s.semaphores.unlink n } []
  | shmUnlink (hstage : s.reader.stage = .shmUnlink) :
      ReaderMove cfg s { s.moveReader .done with regions := s.regions.unlink () } []

/-- What the writer can do. -/
lemma writerMove_of_step (h : cfg.stepWriterMain s = some (s', out)) : WriterMove cfg s s' out := by
  unfold ShmIpc.stepWriterMain at h
  cases hstage : s.writer.stage with
  | shmOpen =>
    simp only [hstage] at h
    cases hr : s.regions.bound () with
    | none =>
      rw [s.regions.openCreate_of_unbound hr] at h
      cases h
      exact .shmOpenNew hstage hr
    | some r =>
      rw [s.regions.openCreate_of_bound hr] at h
      cases h
      exact .shmOpenFound hstage hr
  | ftruncate =>
    simp only [hstage] at h
    obtain ⟨r, hr, h⟩ := Option.map_eq_some_iff.mp h
    cases h
    exact .ftruncate hstage hr
  | mmap =>
    simp only [hstage] at h
    cases h
    exact .mmap hstage
  | memset =>
    simp only [hstage] at h
    obtain ⟨r, hr, h⟩ := Option.map_eq_some_iff.mp h
    cases h
    exact .memset hstage hr
  | semUnlink n =>
    simp only [hstage] at h
    cases h
    exact .semUnlink hstage
  | semOpen n =>
    simp only [hstage] at h
    cases hi : s.semaphores.bound n with
    | none =>
      rw [s.semaphores.openCreate_of_unbound hi] at h
      cases h
      exact .semOpenNew hstage hi
    | some i =>
      rw [s.semaphores.openCreate_of_bound hi] at h
      cases h
      exact .semOpenFound hstage hi
  | loop =>
    simp only [hstage] at h
    obtain ⟨r, hr, h⟩ := Option.bind_eq_some_iff.mp h
    obtain ⟨⟨ring, out⟩, hring, h⟩ := Option.map_eq_some_iff.mp h
    cases h
    exact .loop hstage hr hring

/-- What the reader can do. -/
lemma readerMove_of_step (h : cfg.stepReaderMain s = some (s', out)) : ReaderMove cfg s s' out := by
  unfold ShmIpc.stepReaderMain at h
  cases hstage : s.reader.stage with
  | shmOpen =>
    simp only [hstage] at h
    cases hr : s.regions.bound () with
    | none =>
      simp only [hr] at h
      cases h
      exact .shmOpenFailed hstage hr
    | some r =>
      simp only [hr] at h
      cases h
      exact .shmOpen hstage hr
  | mmap =>
    simp only [hstage] at h
    cases h
    exact .mmap hstage
  | semOpen n =>
    simp only [hstage] at h
    cases h
    exact .semOpen hstage
  | loop =>
    simp only [hstage] at h
    obtain ⟨r, hr, h⟩ := Option.bind_eq_some_iff.mp h
    split at h
    · next hleave =>
      cases h
      exact .leave hstage hr hleave.1 hleave.2
    · split at h
      · next hfault =>
        cases h
        exact .fault hstage hr hfault
      · obtain ⟨⟨ring, out⟩, hring, h⟩ := Option.map_eq_some_iff.mp h
        cases h
        exact .loop hstage hr hring
  | semUnlink n =>
    simp only [hstage] at h
    cases h
    exact .semUnlink hstage
  | shmUnlink =>
    simp only [hstage] at h
    cases h
    exact .shmUnlink hstage
  | done | failed | undefined =>
    simp only [hstage] at h
    cases h

/-! ### What the programs have -/

/-- What the writer has done with the region. -/
structure WriterRegion (cfg : ShmIpc δ) (s : ShmState δ) : Prop where
  unopened : s.writer.stage = .shmOpen → s.writer.region = none
  opened : 1 ≤ s.writer.stage.rank → ∃ r, s.writer.region = some r
  sized : ∀ r, s.writer.region = some r → 2 ≤ s.writer.stage.rank →
    (s.regions.object r).sized = true
  zeroed : ∀ r, s.writer.region = some r → 4 ≤ s.writer.stage.rank → s.writer.stage.rank < 10 →
    (s.regions.object r).content = cfg.zeros

/-- What the writer has done with the semaphores: the names that are unlinked and not yet bound
again, the semaphores that it has not created, and those that it has. -/
structure WriterSemaphores (cfg : ShmIpc δ) (s : ShmState δ) : Prop where
  cleared : ∀ n, 4 + n.index < s.writer.stage.rank → s.writer.stage.rank ≤ 7 + n.index →
    s.semaphores.bound n = none
  pending : ∀ n, s.writer.stage.rank ≤ 7 + n.index → s.writer.semaphores n = .unopened
  created : ∀ n, 7 + n.index < s.writer.stage.rank → ∃ i, s.writer.semaphores n = .opened i ∧
    i < s.semaphores.fresh ∧
      (s.writer.stage.rank < 10 → s.semaphores.object i = cfg.initialCount n)
  distinct : ∀ m n i, s.writer.semaphores m = .opened i → s.writer.semaphores n = .opened i → m = n
  idle : s.writer.stage.rank < 10 → s.writer.iteration = 0 ∧ s.writer.point = .waitEmpty

/-- The names of the objects of the writer, until the reader removes them, and of the region that
the reader has opened before the writer. -/
structure NamesKept (s : ShmState δ) : Prop where
  region : ∀ r, s.writer.region = some r → s.reader.stage.rank < 10 →
    s.regions.bound () = some r
  semaphore : ∀ n i, s.writer.semaphores n = .opened i → s.reader.stage.rank < 6 →
    s.semaphores.bound n = some i
  leftover : ∀ r, s.reader.region = some r → s.writer.region = none →
    s.regions.bound () = some r

/-- Where the reader is, and that it has nothing but what the writer has. -/
structure ReaderAttached (cfg : ShmIpc δ) (s : ShmState δ) : Prop where
  region : 1 ≤ s.reader.stage.rank → s.reader.stage ≠ .failed → ∃ r, s.reader.region = some r
  same : ∀ r r', s.reader.region = some r → s.writer.region = some r' → r = r'
  semaphores : ∀ n, s.reader.semaphores n = .unopened ∨
    ∃ i, s.reader.semaphores n = .opened i ∧ s.writer.semaphores n = .opened i
  opened : ∀ n, 2 + n.index < s.reader.stage.rank → s.reader.semaphores n ≠ .unopened
  idle : s.reader.stage.rank < 5 → s.reader.iteration = 0 ∧ s.reader.point = .waitFull
  finished : 5 < s.reader.stage.rank →
    cfg.totalFrames ≤ s.reader.iteration ∧ s.reader.point = .waitFull
  defined : s.reader.stage ≠ .undefined

/-- A reader that has opened everything comes after the start-up of the writer. -/
lemma ReaderAttached.writer_loop (h : ReaderAttached cfg s) (hw : WriterSemaphores cfg s)
    (hr : 5 ≤ s.reader.stage.rank) : s.writer.stage = .loop := by
  rcases h.semaphores .empty with hnone | ⟨i, -, hi⟩
  · exact absurd hnone (h.opened .empty (by simp only [SemName.index]; omega))
  · refine WriterStage.eq_loop (Nat.le_of_not_lt fun hlt => ?_)
    have hpending := hw.pending .empty (by simp only [SemName.index]; omega)
    rw [hi] at hpending
    cases hpending

/-- In its loop the reader has the semaphores of the writer. -/
lemma ReaderAttached.semaphores_eq (h : ReaderAttached cfg s) (hr : 5 ≤ s.reader.stage.rank) :
    s.reader.semaphores = s.writer.semaphores := by
  funext n
  rcases h.semaphores n with hnone | ⟨i, hi, hi'⟩
  · have hle := n.index_le
    exact absurd hnone (h.opened n (by omega))
  · rw [hi, hi']

/-! ### The steps of the writer -/

namespace WriterRegion

/-- After `shm_open`. -/
private lemma of_shmOpen {r : ℕ} (hr : s.writer.region = some r)
    (hrank : s.writer.stage.rank = 1) : WriterRegion cfg s where
  unopened hstage := by
    rw [hstage] at hrank
    cases hrank
  opened _ := ⟨r, hr⟩
  sized _ _ hle := by omega
  zeroed _ _ hle _ := by omega

/-- A step that leaves the regions alone. -/
private lemma keep (h : WriterRegion cfg s) {a b : ℕ} (ha : s.writer.stage.rank = a)
    (hb : s'.writer.stage.rank = b) (hregions : s'.regions = s.regions)
    (hregion : s'.writer.region = s.writer.region) (hab : b = a + 1) (hle : 2 ≤ a)
    (hne : a ≠ 3) : WriterRegion cfg s' where
  unopened hstage := by
    have hzero : 0 = b := (congrArg WriterStage.rank hstage).symm.trans hb
    omega
  opened _ := hregion ▸ h.opened (by omega)
  sized r hr _ := by
    rw [hregions]
    exact h.sized r (hregion ▸ hr) (by omega)
  zeroed r hr _ _ := by
    rw [hregions]
    exact h.zeroed r (hregion ▸ hr) (by omega) (by omega)

/-- A step that changes the region of the writer. -/
private lemma set {r b : ℕ} {x : ShmObject δ} (hb : s'.writer.stage.rank = b)
    (hregions : s'.regions = s.regions.set r x) (hregion : s'.writer.region = some r) (hle : 1 ≤ b)
    (hsized : x.sized = true) (hzeroed : 4 ≤ b → b < 10 → x.content = cfg.zeros) :
    WriterRegion cfg s' where
  unopened hstage := by
    have hzero : 0 = b := (congrArg WriterStage.rank hstage).symm.trans hb
    omega
  opened _ := ⟨r, hregion⟩
  sized r' hr _ := by
    rw [hregion] at hr
    obtain rfl := Option.some.inj hr
    rw [hregions, NamedObjects.object_set]
    exact hsized
  zeroed r' hr hle hlt := by
    rw [hregion] at hr
    obtain rfl := Option.some.inj hr
    rw [hregions, NamedObjects.object_set]
    exact hzeroed (by omega) (by omega)

end WriterRegion

/-- The rank of a stage. -/
private lemma rank_of_stage {w : WriterStage} (hstage : s.writer.stage = w) :
    s.writer.stage.rank = w.rank := by
  rw [hstage]

/-- A step of the writer keeps its region. -/
lemma WriterMove.region (hm : WriterMove cfg s s' out) (h : WriterRegion cfg s) :
    WriterRegion cfg s' := by
  cases hm with
  | shmOpenFound hstage hr => exact .of_shmOpen rfl rfl
  | shmOpenNew hstage hnone => exact .of_shmOpen rfl rfl
  | ftruncate hstage hr => exact .set (b := 2) rfl rfl hr (by omega) rfl (by omega)
  | mmap hstage =>
    have hw : s.writer.stage.rank = 2 := rank_of_stage hstage
    exact h.keep (b := 3) hw rfl rfl rfl rfl (by omega) (by omega)
  | memset hstage hr =>
    have hw : s.writer.stage.rank = 3 := rank_of_stage hstage
    exact .set (b := 4) rfl rfl hr (by omega) (h.sized _ hr (by omega)) fun _ _ => rfl
  | @semUnlink n hstage =>
    have hw : s.writer.stage.rank = 4 + n.index := rank_of_stage hstage
    exact h.keep hw (rank_after_writer_unlink n) rfl rfl (by omega) (by omega) (by omega)
  | @semOpenFound n i hstage hi =>
    have hw : s.writer.stage.rank = 7 + n.index := rank_of_stage hstage
    exact h.keep hw (rank_after_create n) rfl rfl (by omega) (by omega) (by omega)
  | @semOpenNew n hstage hnone =>
    have hw : s.writer.stage.rank = 7 + n.index := rank_of_stage hstage
    exact h.keep hw (rank_after_create n) rfl rfl (by omega) (by omega) (by omega)
  | @loop r ring out hstage hr hring =>
    have hw : s.writer.stage.rank = 10 := rank_of_stage hstage
    exact .set hw rfl hr (by omega) (h.sized r hr (by omega)) (by omega)

namespace WriterSemaphores

/-- A step before the first `sem_unlink`. -/
private lemma early (h : WriterSemaphores cfg s) {a b : ℕ} (ha : s.writer.stage.rank = a)
    (hb : s'.writer.stage.rank = b) (hle : a ≤ 4) (hle' : b ≤ 4)
    (hsemaphores : s'.writer.semaphores = s.writer.semaphores)
    (hiteration : s'.writer.iteration = s.writer.iteration)
    (hpoint : s'.writer.point = s.writer.point) : WriterSemaphores cfg s' where
  cleared n hlt _ := by omega
  pending n _ := by
    rw [hsemaphores]
    exact h.pending n (by omega)
  created n hlt := by omega
  distinct := hsemaphores ▸ h.distinct
  idle _ := by
    rw [hiteration, hpoint]
    exact h.idle (by omega)

/-- Unlinking a name. -/
private lemma unlink (h : WriterSemaphores cfg s) {n : SemName}
    (ha : s.writer.stage.rank = 4 + n.index) (hb : s'.writer.stage.rank = 5 + n.index)
    (hobjects : s'.semaphores = s.semaphores.unlink n)
    (hsemaphores : s'.writer.semaphores = s.writer.semaphores)
    (hiteration : s'.writer.iteration = s.writer.iteration)
    (hpoint : s'.writer.point = s.writer.point) : WriterSemaphores cfg s' where
  cleared m hlt _ := by
    rw [hobjects]
    by_cases hmn : m = n
    · rw [hmn, NamedObjects.bound_unlink]
    · have hindex : m.index ≠ n.index := fun heq => hmn (SemName.index_injective heq)
      rw [NamedObjects.bound_unlink_of_ne _ hmn]
      exact h.cleared m (by omega) (by omega)
  pending m _ := by
    have hle := n.index_le
    rw [hsemaphores]
    exact h.pending m (by omega)
  created m hlt := by
    have hle := n.index_le
    omega
  distinct := hsemaphores ▸ h.distinct
  idle _ := by
    have hle := n.index_le
    rw [hiteration, hpoint]
    exact h.idle (by omega)

/-- Creating a semaphore. -/
private lemma create (h : WriterSemaphores cfg s) {n : SemName}
    (ha : s.writer.stage.rank = 7 + n.index) (hb : s'.writer.stage.rank = 8 + n.index)
    (hobjects : s'.semaphores = s.semaphores.bind n (cfg.initialCount n))
    (hsemaphores : s'.writer.semaphores =
      Function.update s.writer.semaphores n (.opened s.semaphores.fresh))
    (hiteration : s'.writer.iteration = s.writer.iteration)
    (hpoint : s'.writer.point = s.writer.point) : WriterSemaphores cfg s' := by
  have hle := n.index_le
  have hother {m : SemName} (hmn : m ≠ n) : s'.writer.semaphores m = s.writer.semaphores m := by
    rw [hsemaphores, Function.update_of_ne hmn]
  have hself : s'.writer.semaphores n = .opened s.semaphores.fresh := by
    rw [hsemaphores, Function.update_self]
  -- the semaphores that the writer had are older than the new one
  have hold {m : SemName} {i : ℕ} (hi : s.writer.semaphores m = .opened i) :
      i < s.semaphores.fresh := by
    rcases Nat.lt_or_ge (7 + m.index) s.writer.stage.rank with hlt | hge
    · obtain ⟨j, hj, hfresh, -⟩ := h.created m hlt
      rw [hi] at hj
      obtain rfl := Handle.opened.inj hj
      exact hfresh
    · rw [h.pending m hge] at hi
      cases hi
  constructor
  · intro m hlt hle'
    have hindex := m.index_le
    have hmn : m ≠ n := by
      rintro rfl
      omega
    rw [hobjects, NamedObjects.bound_bind_of_ne _ hmn]
    exact h.cleared m (by omega) (by omega)
  · intro m hle'
    have hmn : m ≠ n := by
      rintro rfl
      omega
    rw [hother hmn]
    exact h.pending m (by omega)
  · intro m hlt
    rw [hobjects]
    by_cases hmn : m = n
    · rw [hmn]
      exact ⟨_, hself, Nat.lt_succ_self _, fun _ => NamedObjects.object_bind ..⟩
    · have hindex : m.index ≠ n.index := fun heq => hmn (SemName.index_injective heq)
      obtain ⟨i, hi, hfresh, hcount⟩ := h.created m (by omega)
      refine ⟨i, (hother hmn).trans hi, Nat.lt_succ_of_lt hfresh, fun _ => ?_⟩
      rw [NamedObjects.object_bind_of_lt _ hfresh]
      exact hcount (by omega)
  · intro m m' i hm hm'
    by_cases hmn : m = n
    · by_cases hmn' : m' = n
      · rw [hmn, hmn']
      · rw [hother hmn'] at hm'
        rw [hmn, hself] at hm
        obtain rfl := Handle.opened.inj hm
        exact absurd (hold hm') (Nat.lt_irrefl _)
    · rw [hother hmn] at hm
      by_cases hmn' : m' = n
      · rw [hmn', hself] at hm'
        obtain rfl := Handle.opened.inj hm'
        exact absurd (hold hm) (Nat.lt_irrefl _)
      · rw [hother hmn'] at hm'
        exact h.distinct m m' i hm hm'
  · intro _
    rw [hiteration, hpoint]
    exact h.idle (by omega)

/-- A step of one of the loops. -/
private lemma loop (h : WriterSemaphores cfg s) (ha : s.writer.stage.rank = 10)
    (hb : s'.writer.stage.rank = 10) (hfresh : s'.semaphores.fresh = s.semaphores.fresh)
    (hsemaphores : s'.writer.semaphores = s.writer.semaphores) : WriterSemaphores cfg s' where
  cleared n _ hle := by
    have hindex := n.index_le
    omega
  pending n hle := by
    have hindex := n.index_le
    omega
  created n hlt := by
    obtain ⟨i, hi, hi', -⟩ := h.created n (by omega)
    rw [hsemaphores, hfresh]
    exact ⟨i, hi, hi', fun hlt => by omega⟩
  distinct := hsemaphores ▸ h.distinct
  idle hlt := by omega

end WriterSemaphores

/-- A step of the writer keeps its semaphores. -/
lemma WriterMove.semaphores (hm : WriterMove cfg s s' out) (h : WriterSemaphores cfg s) :
    WriterSemaphores cfg s' := by
  cases hm with
  | shmOpenFound hstage | shmOpenNew hstage =>
    have hw : s.writer.stage.rank = 0 := rank_of_stage hstage
    exact h.early (b := 1) hw rfl (by omega) (by omega) rfl rfl rfl
  | ftruncate hstage hr =>
    have hw : s.writer.stage.rank = 1 := rank_of_stage hstage
    exact h.early (b := 2) hw rfl (by omega) (by omega) rfl rfl rfl
  | mmap hstage =>
    have hw : s.writer.stage.rank = 2 := rank_of_stage hstage
    exact h.early (b := 3) hw rfl (by omega) (by omega) rfl rfl rfl
  | memset hstage hr =>
    have hw : s.writer.stage.rank = 3 := rank_of_stage hstage
    exact h.early (b := 4) hw rfl (by omega) (by omega) rfl rfl rfl
  | @semUnlink n hstage =>
    have hw : s.writer.stage.rank = 4 + n.index := rank_of_stage hstage
    exact h.unlink hw (rank_after_writer_unlink n) rfl rfl rfl rfl
  | @semOpenFound n i hstage hi =>
    have hw : s.writer.stage.rank = 7 + n.index := rank_of_stage hstage
    rw [h.cleared n (by omega) (by omega)] at hi
    cases hi
  | @semOpenNew n hstage hnone =>
    have hw : s.writer.stage.rank = 7 + n.index := rank_of_stage hstage
    exact h.create hw (rank_after_create n) rfl rfl rfl rfl
  | loop hstage hr hring =>
    have hw : s.writer.stage.rank = 10 := rank_of_stage hstage
    exact h.loop hw hw (ShmState.fresh_semaphores_store ..) rfl

/-- What holds at every point of the two programs. -/
structure ShmStarted (cfg : ShmIpc δ) (s : ShmState δ) : Prop where
  region : WriterRegion cfg s
  semaphores : WriterSemaphores cfg s
  names : NamesKept s
  attached : ReaderAttached cfg s

/-- The loop of the writer leaves the reader alone. -/
private lemma reader_of_stepWriter {ring ring' : RingState δ}
    (h : cfg.stepWriter ring = some (ring', out)) :
    ring'.readerIteration = ring.readerIteration ∧ ring'.reader = ring.reader := by
  cases stepWriter_effect h <;> exact ⟨rfl, rfl⟩

/-- A step of the writer keeps the names. -/
lemma WriterMove.names (hm : WriterMove cfg s s' out) (h : ShmStarted cfg s) : NamesKept s' := by
  have hnames := h.names
  cases hm with
  | shmOpenFound hstage hr =>
    refine ⟨fun r hr' _ => ?_, hnames.semaphore, nofun⟩
    obtain rfl := Option.some.inj hr'
    exact hr
  | shmOpenNew hstage hnone =>
    refine ⟨fun r hr' _ => ?_, hnames.semaphore, nofun⟩
    obtain rfl := Option.some.inj hr'
    exact NamedObjects.bound_bind ..
  | ftruncate | mmap | memset => exact ⟨hnames.region, hnames.semaphore, hnames.leftover⟩
  | @semUnlink n hstage =>
    have hw : s.writer.stage.rank = 4 + n.index := rank_of_stage hstage
    refine ⟨hnames.region, fun m i hi hlt => ?_, hnames.leftover⟩
    have hi' : s.writer.semaphores m = .opened i := hi
    have hmn : m ≠ n := by
      rintro rfl
      rw [h.semaphores.pending m (by omega)] at hi'
      cases hi'
    exact (NamedObjects.bound_unlink_of_ne _ hmn).trans (hnames.semaphore m i hi hlt)
  | @semOpenFound n i hstage hi =>
    have hw : s.writer.stage.rank = 7 + n.index := rank_of_stage hstage
    rw [h.semaphores.cleared n (by omega) (by omega)] at hi
    cases hi
  | @semOpenNew n hstage hnone =>
    refine ⟨hnames.region, fun m i hi hlt => ?_, hnames.leftover⟩
    have hi' : Function.update s.writer.semaphores n (.opened s.semaphores.fresh) m = .opened i :=
      hi
    by_cases hmn : m = n
    · rw [hmn, Function.update_self] at hi'
      obtain rfl := Handle.opened.inj hi'
      rw [hmn]
      exact NamedObjects.bound_bind ..
    · rw [Function.update_of_ne hmn] at hi'
      exact (NamedObjects.bound_bind_of_ne _ hmn _).trans (hnames.semaphore m i hi' hlt)
  | loop hstage hr hring =>
    refine ⟨hnames.region, fun m i hi hlt => ?_, hnames.leftover⟩
    rw [ShmState.bound_semaphores_store]
    exact hnames.semaphore m i hi hlt

/-- A step of the writer keeps what the reader has. -/
lemma WriterMove.attached (hm : WriterMove cfg s s' out) (h : ShmStarted cfg s) :
    ReaderAttached cfg s' := by
  obtain ⟨hregion, hsame, hsemaphores, hopened, hidle, hfinished, hdefined⟩ := h.attached
  have hpending {n : SemName} (hw : s.writer.stage.rank = 7 + n.index) {i : ℕ} (m : SemName) :
      s.reader.semaphores m = .unopened ∨ ∃ j, s.reader.semaphores m = .opened j ∧
        Function.update s.writer.semaphores n (.opened i) m = .opened j := by
    rcases hsemaphores m with hnone | ⟨j, hj, hj'⟩
    · exact .inl hnone
    · have hmn : m ≠ n := by
        rintro rfl
        rw [h.semaphores.pending m (by omega)] at hj'
        cases hj'
      exact .inr ⟨j, hj, (Function.update_of_ne hmn ..).trans hj'⟩
  cases hm with
  | shmOpenFound hstage hr =>
    refine ⟨hregion, fun r r' hreader hr' => ?_, hsemaphores, hopened, hidle, hfinished, hdefined⟩
    obtain rfl := Option.some.inj hr'
    have hleft := h.names.leftover r hreader (h.region.unopened hstage)
    exact Option.some.inj (hleft.symm.trans hr)
  | shmOpenNew hstage hnone =>
    refine ⟨hregion, fun r r' hreader hr' => ?_, hsemaphores, hopened, hidle, hfinished, hdefined⟩
    have hleft := h.names.leftover r hreader (h.region.unopened hstage)
    rw [hnone] at hleft
    cases hleft
  | ftruncate | mmap | memset | semUnlink =>
    exact ⟨hregion, hsame, hsemaphores, hopened, hidle, hfinished, hdefined⟩
  | semOpenFound hstage | semOpenNew hstage =>
    exact ⟨hregion, hsame, hpending (rank_of_stage hstage), hopened, hidle, hfinished, hdefined⟩
  | loop hstage hr hring =>
    obtain ⟨hiteration, hpoint⟩ := reader_of_stepWriter hring
    refine ⟨hregion, hsame, hsemaphores, hopened, fun hlt => ?_, fun hlt => ?_, hdefined⟩
    · exact ⟨hiteration.trans (hidle hlt).1, hpoint.trans (hidle hlt).2⟩
    · exact ⟨(hfinished hlt).1.trans (Nat.le_of_eq hiteration.symm), hpoint.trans (hfinished hlt).2⟩

/-- A step of the writer. -/
lemma WriterMove.kept (hm : WriterMove cfg s s' out) (h : ShmStarted cfg s) : ShmStarted cfg s' :=
  ⟨hm.region h.region, hm.semaphores h.semaphores, hm.names h, hm.attached h⟩

/-! ### The steps of the reader -/

/-- The semaphore that the reader opens next. -/
def ReaderStage.opens : ReaderStage → Option SemName
  | semOpen n => some n
  | _ => none

/-- The reader opens a semaphore only after the writer has opened the one of this name. -/
def OpensAfterWriter (s : ShmState δ) : RingAction → Prop
  | .reader => ∀ n ∈ s.reader.stage.opens, s.writer.semaphores n ≠ .unopened
  | .writer => True

instance (s : ShmState δ) (a : RingAction) : Decidable (OpensAfterWriter s a) :=
  match a with
  | .writer => inferInstanceAs (Decidable True)
  | .reader =>
      inferInstanceAs
        (Decidable (∀ n ∈ s.reader.stage.opens, s.writer.semaphores n ≠ .unopened))

/-- The rank of a stage. -/
private lemma reader_rank_of_stage {r : ReaderStage} (hstage : s.reader.stage = r) :
    s.reader.stage.rank = r.rank := by
  rw [hstage]

/-- The reader does not use what it does not have. -/
lemma ShmStarted.not_faults (h : ShmStarted cfg s) {r : ℕ} (hstage : s.reader.stage = .loop)
    (hr : s.reader.region = some r) : ShmIpc.faults s r = false := by
  have hrank : s.reader.stage.rank = 5 := reader_rank_of_stage hstage
  have hloop := h.attached.writer_loop h.semaphores (by omega)
  have hw : s.writer.stage.rank = 10 := rank_of_stage hloop
  unfold ShmIpc.faults
  split
  · next n hn =>
    rcases h.attached.semaphores n with hnone | ⟨i, hi, -⟩
    · rw [hnone]
      rfl
    · rw [hi]
      rfl
  · obtain ⟨r', hr'⟩ := h.region.opened (by omega)
    rw [h.attached.same r r' hr hr', h.region.sized r' hr' (by omega)]
    rfl

/-- A step of the reader keeps the region of the writer. -/
lemma ReaderMove.region (hm : ReaderMove cfg s s' out) (h : ShmStarted cfg s) :
    WriterRegion cfg s' := by
  obtain ⟨hunopened, hopened, hsized, hzeroed⟩ := h.region
  cases hm with
  | @loop r ring out hstage hr hring =>
    have hrank : s.reader.stage.rank = 5 := reader_rank_of_stage hstage
    have hloop := h.attached.writer_loop h.semaphores (by omega)
    have hw : s.writer.stage.rank = 10 := rank_of_stage hloop
    refine ⟨hunopened, hopened, fun r' hr' _ => ?_, fun r' hr' _ hlt => ?_⟩
    · rw [ShmState.sized_store]
      exact hsized r' hr' (by omega)
    · have hlt' : s.writer.stage.rank < 10 := hlt
      omega
  | _ => exact ⟨hunopened, hopened, hsized, hzeroed⟩

/-- A step of the reader keeps the semaphores of the writer. -/
lemma ReaderMove.semaphores (hm : ReaderMove cfg s s' out) (h : ShmStarted cfg s) :
    WriterSemaphores cfg s' := by
  have hloop (hr : 5 ≤ s.reader.stage.rank) : s.writer.stage.rank = 10 :=
    rank_of_stage (h.attached.writer_loop h.semaphores hr)
  obtain ⟨hcleared, hpending, hcreated, hdistinct, hidle⟩ := h.semaphores
  cases hm with
  | @loop r ring out hstage hr hring =>
    have hrank : s.reader.stage.rank = 5 := reader_rank_of_stage hstage
    have hw := hloop (by omega)
    exact h.semaphores.loop hw hw (ShmState.fresh_semaphores_store ..) rfl
  | @semUnlink n hstage =>
    have hrank : s.reader.stage.rank = 6 + n.index := reader_rank_of_stage hstage
    have hw := hloop (by omega)
    exact h.semaphores.loop hw hw rfl rfl
  | _ => exact ⟨hcleared, hpending, hcreated, hdistinct, hidle⟩

/-- A step of the reader keeps the names. -/
lemma ReaderMove.names (hm : ReaderMove cfg s s' out) (h : ShmStarted cfg s) : NamesKept s' := by
  obtain ⟨hregion, hsemaphore, hleftover⟩ := h.names
  -- before it unlinks anything the reader changes no name
  have hkept {x : ShmProcess ReaderStage ReaderPoint} (hlt : s.reader.stage.rank < 6)
      (hx : x.region = s.reader.region) : NamesKept { s with reader := x } :=
    ⟨fun r hr _ => hregion r hr (by omega), fun n i hi _ => hsemaphore n i hi (by omega),
      fun r hr => hleftover r (hx.symm.trans hr)⟩
  cases hm with
  | shmOpenFailed hstage hnone =>
    have hrank : s.reader.stage.rank = 0 := reader_rank_of_stage hstage
    exact hkept (by omega) rfl
  | shmOpen hstage hr =>
    have hrank : s.reader.stage.rank = 0 := reader_rank_of_stage hstage
    refine ⟨fun r hr _ => hregion r hr (by omega), fun n i hi _ => hsemaphore n i hi (by omega),
      fun r hr' _ => ?_⟩
    obtain rfl := Option.some.inj hr'
    exact hr
  | mmap hstage =>
    have hrank : s.reader.stage.rank = 1 := reader_rank_of_stage hstage
    exact hkept (by omega) rfl
  | @semOpen n hstage =>
    have hrank : s.reader.stage.rank = 2 + n.index := reader_rank_of_stage hstage
    have hle := n.index_le
    exact hkept (by omega) rfl
  | leave hstage | fault hstage =>
    have hrank : s.reader.stage.rank = 5 := reader_rank_of_stage hstage
    exact hkept (by omega) rfl
  | loop hstage hr hring =>
    refine ⟨hregion, fun n i hi hlt => ?_, hleftover⟩
    rw [ShmState.bound_semaphores_store]
    exact hsemaphore n i hi hlt
  | @semUnlink n hstage =>
    have hrank : s.reader.stage.rank = 6 + n.index := reader_rank_of_stage hstage
    have hrank' := rank_after_reader_unlink n
    have hle := n.index_le
    refine ⟨fun r hr _ => hregion r hr (by omega), fun m i hi hlt => ?_, hleftover⟩
    have hlt' : ((n.next.map ReaderStage.semUnlink).getD .shmUnlink).rank < 6 := hlt
    omega
  | shmUnlink hstage =>
    have hrank : s.reader.stage.rank = 9 := reader_rank_of_stage hstage
    have hw : s.writer.stage.rank = 10 :=
      rank_of_stage (h.attached.writer_loop h.semaphores (by omega))
    refine ⟨fun r hr hlt => ?_, fun n i hi hlt => ?_, fun r hr hnone => ?_⟩
    · have hlt' : 10 < 10 := hlt
      omega
    · have hlt' : 10 < 6 := hlt
      omega
    · obtain ⟨r', hr'⟩ := h.region.opened (by omega)
      rw [show s.writer.region = none from hnone] at hr'
      cases hr'

namespace ReaderAttached

/-- The reader goes on to another stage and opens nothing. -/
private lemma move (h : ReaderAttached cfg s) {stage : ReaderStage} {a b : ℕ}
    (ha : s.reader.stage.rank = a) (hb : stage.rank = b)
    (hreader : s'.reader = { s.reader with stage := stage }) (hwriter : s'.writer = s.writer)
    (hregion : stage ≠ .failed → 1 ≤ a ∧ s.reader.stage ≠ .failed) (hopened : 2 < b → 5 ≤ a)
    (hidle : b < 5 → a < 5)
    (hfinished : 5 < b → cfg.totalFrames ≤ s.reader.iteration ∧ s.reader.point = .waitFull)
    (hdefined : stage ≠ .undefined) : ReaderAttached cfg s' := by
  constructor <;> rw [hreader]
  · intro _ hne
    obtain ⟨hle, hnot⟩ := hregion hne
    exact h.region (by omega) hnot
  · rw [hwriter]
    exact h.same
  · rw [hwriter]
    exact h.semaphores
  · intro n hlt
    have hindex := n.index_le
    dsimp only at hlt ⊢
    exact h.opened n (by omega)
  · intro hlt
    dsimp only at hlt
    exact h.idle (by omega)
  · intro hlt
    dsimp only at hlt
    exact hfinished (by omega)
  · exact hdefined

/-- The reader opens the region that the writer has. -/
private lemma openRegion (h : ReaderAttached cfg s) {r : ℕ} (hr : s.reader.stage.rank = 0)
    (hsame : ∀ r', s.writer.region = some r' → r = r') :
    ReaderAttached cfg { s with reader := { s.reader with stage := .mmap, region := some r } } where
  region _ _ := ⟨r, rfl⟩
  same r₁ r₂ hr₁ hr₂ := by
    obtain rfl := Option.some.inj hr₁
    exact hsame r₂ hr₂
  semaphores := h.semaphores
  opened n hlt := by
    have hlt' : 2 + n.index < 1 := hlt
    omega
  idle _ := h.idle (by omega)
  finished hlt := by
    have hlt' : 5 < 1 := hlt
    omega
  defined := by simp

/-- The reader opens a semaphore of the writer. -/
private lemma openSemaphore (h : ReaderAttached cfg s) {n : SemName} {i : ℕ}
    (hstage : s.reader.stage = .semOpen n) (hi : s.writer.semaphores n = .opened i) :
    ReaderAttached cfg
      { s with
        reader := { s.reader with
          stage := (n.next.map .semOpen).getD .loop
          semaphores := Function.update s.reader.semaphores n (.opened i) } } := by
  have hr : s.reader.stage.rank = 2 + n.index := reader_rank_of_stage hstage
  have hr' := rank_after_open n
  have hle := n.index_le
  constructor <;> dsimp only
  · intro _ _
    exact h.region (by omega) (by simp [hstage])
  · exact h.same
  · intro m
    by_cases hmn : m = n
    · rw [hmn, Function.update_self]
      exact .inr ⟨i, rfl, hi⟩
    · rw [Function.update_of_ne hmn]
      exact h.semaphores m
  · intro m hlt
    by_cases hmn : m = n
    · rw [hmn, Function.update_self]
      exact Handle.noConfusion
    · have hindex : m.index ≠ n.index := fun heq => hmn (SemName.index_injective heq)
      rw [Function.update_of_ne hmn]
      exact h.opened m (by omega)
  · exact fun _ => h.idle (by omega)
  · intro hlt
    omega
  · intro hundefined
    rw [hundefined] at hr'
    simp only [ReaderStage.rank] at hr'
    omega

end ReaderAttached

/-- The name of a semaphore that the writer has stands for it until the reader removes it. -/
lemma ShmStarted.exists_semaphore (h : ShmStarted cfg s) {n : SemName}
    (hne : s.writer.semaphores n ≠ .unopened) (hr : s.reader.stage.rank < 6) :
    ∃ i, s.writer.semaphores n = .opened i ∧ s.semaphores.bound n = some i := by
  rcases Nat.lt_or_ge (7 + n.index) s.writer.stage.rank with hlt | hge
  · obtain ⟨i, hi, -, -⟩ := h.semaphores.created n hlt
    exact ⟨i, hi, h.names.semaphore n i hi hr⟩
  · exact absurd (h.semaphores.pending n hge) hne

/-- A step of the reader that meets the condition keeps what it has. -/
lemma ReaderMove.attached (hm : ReaderMove cfg s s' out) (h : ShmStarted cfg s)
    (hopens : OpensAfterWriter s .reader) : ReaderAttached cfg s' := by
  have hattached := h.attached
  cases hm with
  | shmOpenFailed hstage hnone =>
    have hr : s.reader.stage.rank = 0 := reader_rank_of_stage hstage
    exact hattached.move (b := 1) hr rfl rfl rfl (fun hne => absurd rfl hne) (by omega) (by omega)
      (by omega) (by simp)
  | @shmOpen r hstage hbound =>
    have hr : s.reader.stage.rank = 0 := reader_rank_of_stage hstage
    refine hattached.openRegion hr fun r' hr' => ?_
    exact Option.some.inj (hbound.symm.trans (h.names.region r' hr' (by omega)))
  | mmap hstage =>
    have hr : s.reader.stage.rank = 1 := reader_rank_of_stage hstage
    exact hattached.move (b := 2) hr rfl rfl rfl (fun _ => ⟨Nat.le_refl _, by simp [hstage]⟩)
      (by omega) (by omega) (by omega) (by simp)
  | @semOpen n hstage =>
    have hr : s.reader.stage.rank = 2 + n.index := reader_rank_of_stage hstage
    have hle := n.index_le
    obtain ⟨i, hi, hbound⟩ := h.exists_semaphore (hopens n (by rw [hstage]; rfl)) (by omega)
    rw [hbound]
    exact hattached.openSemaphore hstage hi
  | leave hstage hregion hpoint hdone =>
    have hr : s.reader.stage.rank = 5 := reader_rank_of_stage hstage
    exact hattached.move (b := 6) hr rfl rfl rfl (fun _ => ⟨by omega, by simp [hstage]⟩) (by omega)
      (by omega) (fun _ => ⟨hdone, hpoint⟩) (by simp)
  | fault hstage hregion hfault =>
    rw [h.not_faults hstage hregion] at hfault
    cases hfault
  | loop hstage hregion hring =>
    have hr : s.reader.stage.rank = 5 := reader_rank_of_stage hstage
    refine ⟨hattached.region, hattached.same, hattached.semaphores, hattached.opened,
      fun hlt => ?_, fun hlt => ?_, hattached.defined⟩
    · have hlt' : s.reader.stage.rank < 5 := hlt
      omega
    · have hlt' : 5 < s.reader.stage.rank := hlt
      omega
  | @semUnlink n hstage =>
    have hr : s.reader.stage.rank = 6 + n.index := reader_rank_of_stage hstage
    exact hattached.move hr (rank_after_reader_unlink n) rfl rfl
      (fun _ => ⟨by omega, by simp [hstage]⟩) (by omega) (by omega)
      (fun _ => hattached.finished (by omega)) (by cases n <;> simp [SemName.next])
  | shmUnlink hstage =>
    have hr : s.reader.stage.rank = 9 := reader_rank_of_stage hstage
    exact hattached.move (b := 10) hr rfl rfl rfl (fun _ => ⟨by omega, by simp [hstage]⟩) (by omega)
      (by omega) (fun _ => hattached.finished (by omega)) (by simp)

/-- A step of the reader that meets the condition. -/
lemma ReaderMove.kept (hm : ReaderMove cfg s s' out) (h : ShmStarted cfg s)
    (hopens : OpensAfterWriter s .reader) : ShmStarted cfg s' :=
  ⟨hm.region h, hm.semaphores h, hm.names h, hm.attached h hopens⟩

end SystemsDemos
