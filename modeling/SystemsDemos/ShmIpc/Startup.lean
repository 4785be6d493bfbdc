import SystemsDemos.Named.Objects
import SystemsDemos.ShmIpc.Basic

/-!
# The start-up of the two processes

The two programs of `shm_ipc` from their first system call to their last: the writer creates the
region and the semaphores, the reader opens them by name, and both run their loops on the objects
they have opened, which need not be the same.  A crashed run may have left a region and semaphores
behind.  The system calls that the programs check or rely on succeed, except that an object may
be missing; closing and unmapping show nothing.

### Outline

* `SemName` and `Handle`, the semaphores and what a process has of them;
* `ShmProcess` and `ShmState`, with the program points before and after the loops;
* the loops of `ShmIpc.stepWriter` and `ShmIpc.stepReader` over opened objects, and
  `ShmIpc.programs`.
-/

namespace SystemsDemos

/-! ### The semaphores -/

/-- The names of the semaphores. -/
inductive SemName
  | mutex
  | full
  | empty
  deriving DecidableEq

/-- The name after this one, in the order in which the programs go through them. -/
def SemName.next : SemName → Option SemName
  | mutex => some full
  | full => some empty
  | empty => none

/-- The value of a `sem_t*`. -/
inductive Handle
  | unopened
  /-- `SEM_FAILED`. -/
  | failed
  | opened (i : ℕ)
  deriving DecidableEq

namespace Handle

/-- The count of the semaphore. -/
def count (semaphores : NamedObjects SemName ℕ) : Handle → ℕ
  | opened i => semaphores.object i
  | _ => 0

/-- Storing the count of the semaphore. -/
def store (semaphores : NamedObjects SemName ℕ) (n : ℕ) : Handle → NamedObjects SemName ℕ
  | opened i => semaphores.set i n
  | _ => semaphores

end Handle

/-- The semaphore that a step of the loop of the reader uses, if it does not use the region. -/
def ReaderPoint.semaphore : ReaderPoint → Option SemName
  | waitFull => some .full
  | waitMutex | postMutex => some .mutex
  | postEmpty => some .empty
  | readSlot | moveTail => none

/-! ### The processes -/

/-- Where the writer stands in `main`. -/
inductive WriterStage
  | shmOpen
  | ftruncate
  | mmap
  | memset
  | semUnlink (n : SemName)
  | semOpen (n : SemName)
  | loop
  deriving DecidableEq

/-- Where the reader stands in `main`. -/
inductive ReaderStage
  | shmOpen
  | mmap
  | semOpen (n : SemName)
  | loop
  | semUnlink (n : SemName)
  | shmUnlink
  | done
  /-- It has returned 1. -/
  | failed
  /-- It has used `SEM_FAILED` or memory beyond the end of the region. -/
  | undefined
  deriving DecidableEq

/-- A process: its stage, what it has opened, and its loop. -/
structure ShmProcess (σ π : Type) where
  stage : σ
  /-- The region behind `fd` and `shm`. -/
  region : Option ℕ
  semaphores : SemName → Handle
  iteration : ℕ
  point : π

/-- The object behind `SHM_NAME`. -/
structure ShmObject (δ : Type) where
  /-- Its size is that of `SharedRegion`, not zero. -/
  sized : Bool
  content : SharedRegion δ

/-- The regions, the semaphores and the two processes. -/
structure ShmState (δ : Type) where
  regions : NamedObjects Unit (ShmObject δ)
  semaphores : NamedObjects SemName ℕ
  writer : ShmProcess WriterStage WriterPoint
  reader : ShmProcess ReaderStage ReaderPoint

namespace ShmState

variable {δ : Type} (s : ShmState δ)

/-- The two loops on one region and one set of semaphores. -/
def ring (r : ℕ) (semaphores : SemName → Handle) : RingState δ where
  region := (s.regions.object r).content
  mutex := (semaphores .mutex).count s.semaphores
  full := (semaphores .full).count s.semaphores
  empty := (semaphores .empty).count s.semaphores
  writerIteration := s.writer.iteration
  writer := s.writer.point
  readerIteration := s.reader.iteration
  reader := s.reader.point

/-- Storing what a step of the loops has changed. -/
def store (r : ℕ) (semaphores : SemName → Handle) (ring : RingState δ) : ShmState δ where
  regions := s.regions.set r { s.regions.object r with content := ring.region }
  semaphores :=
    (semaphores .empty).store ((semaphores .full).store
      ((semaphores .mutex).store s.semaphores ring.mutex) ring.full) ring.empty
  writer := { s.writer with iteration := ring.writerIteration, point := ring.writer }
  reader := { s.reader with iteration := ring.readerIteration, point := ring.reader }

/-- The writer goes to another stage. -/
def moveWriter (stage : WriterStage) : ShmState δ :=
  { s with writer := { s.writer with stage := stage } }

/-- The reader goes to another stage. -/
def moveReader (stage : ReaderStage) : ShmState δ :=
  { s with reader := { s.reader with stage := stage } }

end ShmState

/-! ### The steps -/

namespace ShmIpc

variable {δ : Type} (cfg : ShmIpc δ)

/-- A region of zeros. -/
def zeros : SharedRegion δ := ⟨fun _ => ⟨0, cfg.zero⟩, 0, 0⟩

/-- The value with which the writer creates a semaphore. -/
def initialCount : SemName → ℕ
  | .mutex => 1
  | .full => 0
  | .empty => cfg.capacity

/-- The next step of the writer. -/
def stepWriterMain (s : ShmState δ) : Option (ShmState δ × List (RingEvent δ)) :=
  match s.writer.stage with
  | .shmOpen =>
      let (regions, r) := s.regions.openCreate () ⟨false, cfg.zeros⟩
      some ({ s with
        regions := regions
        writer := { s.writer with stage := .ftruncate, region := some r } }, [])
  | .ftruncate =>
      s.writer.region.map fun r =>
        -- a region that grows is filled with zeros
        let x := s.regions.object r
        ({ s.moveWriter .mmap with
          regions := s.regions.set r ⟨true, if x.sized then x.content else cfg.zeros⟩ }, [])
  | .mmap => some (s.moveWriter .memset, [])
  | .memset =>
      s.writer.region.map fun r =>
        ({ s.moveWriter (.semUnlink .mutex) with
          regions := s.regions.set r { s.regions.object r with content := cfg.zeros } }, [])
  | .semUnlink n =>
      some ({ s.moveWriter ((n.next.map .semUnlink).getD (.semOpen .mutex)) with
        semaphores := s.semaphores.unlink n }, [])
  | .semOpen n =>
      let (semaphores, i) := s.semaphores.openCreate n (cfg.initialCount n)
      some ({ s with
        semaphores := semaphores
        writer := { s.writer with
          stage := (n.next.map .semOpen).getD .loop
          semaphores := Function.update s.writer.semaphores n (.opened i) } }, [])
  | .loop =>
      s.writer.region.bind fun r =>
        (cfg.stepWriter (s.ring r s.writer.semaphores)).map fun x =>
          (s.store r s.writer.semaphores x.1, x.2)

/-- The next step of the loop uses what the reader does not have. -/
def faults (s : ShmState δ) (r : ℕ) : Bool :=
  match s.reader.point.semaphore with
  | some n => s.reader.semaphores n = .failed
  | none => !(s.regions.object r).sized

/-- The next step of the reader. -/
def stepReaderMain (s : ShmState δ) : Option (ShmState δ × List (RingEvent δ)) :=
  match s.reader.stage with
  | .shmOpen =>
      match s.regions.bound () with
      | none => some (s.moveReader .failed, [])
      | some r =>
          some ({ s with reader := { s.reader with stage := .mmap, region := some r } }, [])
  | .mmap => some (s.moveReader (.semOpen .mutex), [])
  | .semOpen n =>
      -- the result is not checked
      let handle := ((s.semaphores.bound n).map .opened).getD .failed
      some ({ s with
        reader := { s.reader with
          stage := (n.next.map .semOpen).getD .loop
          semaphores := Function.update s.reader.semaphores n handle } }, [])
  | .loop =>
      s.reader.region.bind fun r =>
        if s.reader.point = .waitFull ∧ cfg.totalFrames ≤ s.reader.iteration then
          some (s.moveReader (.semUnlink .mutex), [])
        else if faults s r then some (s.moveReader .undefined, [])
        else
          (cfg.stepReader (s.ring r s.reader.semaphores)).map fun x =>
            (s.store r s.reader.semaphores x.1, x.2)
  | .semUnlink n =>
      some ({ s.moveReader ((n.next.map .semUnlink).getD .shmUnlink) with
        semaphores := s.semaphores.unlink n }, [])
  | .shmUnlink =>
      some ({ s.moveReader .done with regions := s.regions.unlink () }, [])
  | .done | .failed | .undefined => none

/-- A step of either program. -/
def stepMain (s : ShmState δ) : RingAction → Option (ShmState δ × List (RingEvent δ))
  | .writer => cfg.stepWriterMain s
  | .reader => cfg.stepReaderMain s

/-- Both programs are started on what an earlier run has left. -/
def launch (regions : NamedObjects Unit (ShmObject δ)) (semaphores : NamedObjects SemName ℕ) :
    ShmState δ where
  regions := regions
  semaphores := semaphores
  writer := ⟨.shmOpen, none, fun _ => .unopened, 0, .waitEmpty⟩
  reader := ⟨.shmOpen, none, fun _ => .unopened, 0, .waitFull⟩

/-- The two programs. -/
def programs : System (ShmState δ) RingAction (RingEvent δ) where
  init s := ∃ regions semaphores, s = launch regions semaphores
  step := cfg.stepMain

end ShmIpc

end SystemsDemos
