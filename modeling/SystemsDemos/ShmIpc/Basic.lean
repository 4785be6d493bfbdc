import SystemsDemos.Transition.System
import Mathlib.Logic.Function.Basic

/-!
# The ring buffer in shared memory

The writer process and the reader process of `shm_ipc`, attached to the same fresh region.  Each
`sem_wait`, each `sem_post`, each access to a slot and each update of an index is a step of its
own, and the two processes move in any order.  What is printed shows in the slot accesses; the
sleeps have no effect.

### Outline

* `ShmIpc`, the constants, and `SharedRegion`;
* the program points of the two loops;
* `ShmIpc.step` and the system `ShmIpc.system`.
-/

namespace SystemsDemos

/-- A frame of the lidar. -/
structure ShmIpc.LidarFrame (δ : Type) where
  id : ℕ
  distanceM : δ

/-- The constants of the program.  The distances are floating-point numbers that nothing depends
on. -/
structure ShmIpc (δ : Type) where
  capacity : ℕ
  capacity_pos : 0 < capacity
  totalFrames : ℕ
  /-- The distance in frame `i`. -/
  distance : ℕ → δ
  /-- The distance in a region that is filled with zeros. -/
  zero : δ

/-- The frame that the writer makes in iteration `i`. -/
def ShmIpc.frame {δ : Type} (cfg : ShmIpc δ) (i : ℕ) : LidarFrame δ := ⟨i, cfg.distance i⟩

/-- The shared memory. -/
structure SharedRegion (δ : Type) where
  /-- The slots from `0` to `CAPACITY - 1`. -/
  frames : ℕ → ShmIpc.LidarFrame δ
  head : ℕ
  tail : ℕ

/-! ### The two loops -/

/-- Where the writer stands in an iteration. -/
inductive WriterPoint
  | waitEmpty
  | waitMutex
  | writeSlot
  | moveHead
  | postMutex
  | postFull
  deriving DecidableEq

/-- Where the reader stands in an iteration. -/
inductive ReaderPoint
  | waitFull
  | waitMutex
  | readSlot
  | moveTail
  | postMutex
  | postEmpty
  deriving DecidableEq

/-- The writer holds the mutex. -/
def WriterPoint.inSection : WriterPoint → Bool
  | writeSlot | moveHead | postMutex => true
  | _ => false

/-- The reader holds the mutex. -/
def ReaderPoint.inSection : ReaderPoint → Bool
  | readSlot | moveTail | postMutex => true
  | _ => false

/-- The region, the semaphores, and the iterations and program points of the two processes. -/
structure RingState (δ : Type) where
  region : SharedRegion δ
  mutex : ℕ
  full : ℕ
  empty : ℕ
  writerIteration : ℕ
  writer : WriterPoint
  readerIteration : ℕ
  reader : ReaderPoint

/-- Which process moves. -/
inductive RingAction
  | writer
  | reader
  deriving DecidableEq

/-- An access to a slot. -/
inductive RingEvent (δ : Type)
  | wrote (slot : ℕ) (frame : ShmIpc.LidarFrame δ)
  | read (slot : ℕ) (frame : ShmIpc.LidarFrame δ)

namespace ShmIpc

variable {δ : Type} (cfg : ShmIpc δ)

/-- The region and the semaphores that the writer creates, with both processes before their
loops. -/
def start : RingState δ where
  region := ⟨fun _ => ⟨0, cfg.zero⟩, 0, 0⟩
  mutex := 1
  full := 0
  empty := cfg.capacity
  writerIteration := 0
  writer := .waitEmpty
  readerIteration := 0
  reader := .waitFull

/-- The next step of the writer. -/
def stepWriter (s : RingState δ) : Option (RingState δ × List (RingEvent δ)) :=
  match s.writer with
  | .waitEmpty =>
      -- the loop condition is checked together with the first call of the body
      if s.writerIteration < cfg.totalFrames ∧ 0 < s.empty then
        some ({ s with empty := s.empty - 1, writer := .waitMutex }, [])
      else none
  | .waitMutex =>
      if 0 < s.mutex then some ({ s with mutex := s.mutex - 1, writer := .writeSlot }, [])
      else none
  | .writeSlot =>
      let frame := cfg.frame s.writerIteration
      some ({ s with
        region := { s.region with frames := Function.update s.region.frames s.region.head frame }
        writer := .moveHead }, [.wrote s.region.head frame])
  | .moveHead =>
      some ({ s with
        region := { s.region with head := (s.region.head + 1) % cfg.capacity }
        writer := .postMutex }, [])
  | .postMutex => some ({ s with mutex := s.mutex + 1, writer := .postFull }, [])
  | .postFull =>
      some ({ s with
        full := s.full + 1
        writerIteration := s.writerIteration + 1
        writer := .waitEmpty }, [])

/-- The next step of the reader. -/
def stepReader (s : RingState δ) : Option (RingState δ × List (RingEvent δ)) :=
  match s.reader with
  | .waitFull =>
      if s.readerIteration < cfg.totalFrames ∧ 0 < s.full then
        some ({ s with full := s.full - 1, reader := .waitMutex }, [])
      else none
  | .waitMutex =>
      if 0 < s.mutex then some ({ s with mutex := s.mutex - 1, reader := .readSlot }, [])
      else none
  | .readSlot =>
      some ({ s with reader := .moveTail },
        [.read s.region.tail (s.region.frames s.region.tail)])
  | .moveTail =>
      some ({ s with
        region := { s.region with tail := (s.region.tail + 1) % cfg.capacity }
        reader := .postMutex }, [])
  | .postMutex => some ({ s with mutex := s.mutex + 1, reader := .postEmpty }, [])
  | .postEmpty =>
      some ({ s with
        empty := s.empty + 1
        readerIteration := s.readerIteration + 1
        reader := .waitFull }, [])

/-- One step of either process. -/
def step (s : RingState δ) : RingAction → Option (RingState δ × List (RingEvent δ))
  | .writer => cfg.stepWriter s
  | .reader => cfg.stepReader s

/-- The two processes after both are attached. -/
def system : System (RingState δ) RingAction (RingEvent δ) where
  init s := s = cfg.start
  step := cfg.step

end ShmIpc

end SystemsDemos
