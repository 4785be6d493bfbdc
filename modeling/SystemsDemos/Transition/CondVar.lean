import SystemsDemos.Transition.Tally
import Mathlib.Logic.Relation

/-!
# Counting discipline of a condition variable

A condition variable guards a number of *available* units (queued items, free slots, pending
tasks).  A thread whose wait predicate fails goes to sleep; a thread that makes a unit available
owes one `notify_one`, either inside its critical section or after it.  `CondVar` keeps only the
four counts that matter, and `CondVar.Step` lists what threads do to them: spurious wakeups,
notifications that find nobody asleep, and units taken by threads that never slept included.

The lost-wakeup argument is the invariant `CondVar.Covered`: as long as somebody sleeps, every
available unit is covered by a thread that is about to look at the predicate or by a
notification still to be issued.  It holds whatever the interleaving, because every step keeps
it (`CondVar.Step.covered`).

A concrete program meets this abstract machine through the `Role` each of its threads plays for
one condition variable: `CondVar.ofRoles` counts the roles, and one lemma for each kind of role
change says which abstract step it is.
-/

namespace SystemsDemos

/-- The counts of one condition variable. -/
structure CondVar where
  /-- Units for which the wait predicate holds. -/
  available : ℕ
  /-- Threads asleep in `wait`. -/
  waiting : ℕ
  /-- Threads about to take the mutex and evaluate the predicate, woken ones included. -/
  ready : ℕ
  /-- Calls of `notify_one` that are owed but not made yet. -/
  pending : ℕ

namespace CondVar

/-- What one atomic step of some thread can do to the counts. -/
inductive Step (c c' : CondVar) : Prop
  /-- A unit becomes available and its notification is owed. -/
  | post (ha : c'.available = c.available + 1) (hw : c'.waiting = c.waiting)
      (hr : c'.ready = c.ready) (hp : c'.pending = c.pending + 1)
  /-- An owed `notify_one` wakes a sleeping thread. -/
  | notify (ha : c'.available = c.available) (hw : c'.waiting + 1 = c.waiting)
      (hr : c'.ready = c.ready + 1) (hp : c'.pending + 1 = c.pending)
  /-- An owed `notify_one` finds nobody asleep. -/
  | notifyNone (ha : c'.available = c.available) (hz : c.waiting = 0) (hw : c'.waiting = 0)
      (hr : c'.ready = c.ready) (hp : c'.pending + 1 = c.pending)
  /-- A thread arrives and is about to evaluate the predicate. -/
  | arrive (ha : c'.available = c.available) (hw : c'.waiting = c.waiting)
      (hr : c'.ready = c.ready + 1) (hp : c'.pending = c.pending)
  /-- A thread finds the predicate true and takes a unit. -/
  | take (ha : c'.available + 1 = c.available) (hw : c'.waiting = c.waiting)
      (hr : c'.ready + 1 = c.ready) (hp : c'.pending = c.pending)
  /-- A thread that does not wait takes a unit. -/
  | steal (ha : c'.available + 1 = c.available) (hw : c'.waiting = c.waiting)
      (hr : c'.ready = c.ready) (hp : c'.pending = c.pending)
  /-- A thread finds the predicate false and falls asleep. -/
  | sleep (hz : c.available = 0) (ha : c'.available = 0) (hw : c'.waiting = c.waiting + 1)
      (hr : c'.ready + 1 = c.ready) (hp : c'.pending = c.pending)
  /-- A sleeping thread wakes up without a notification. -/
  | spurious (ha : c'.available = c.available) (hw : c'.waiting + 1 = c.waiting)
      (hr : c'.ready = c.ready + 1) (hp : c'.pending = c.pending)
  /-- `notify_all`. -/
  | broadcast (ha : c'.available = c.available) (hw : c'.waiting = 0)
      (hr : c'.ready = c.ready + c.waiting) (hp : c'.pending = c.pending)
  /-- A thread that finds no unit leaves for good. -/
  | leave (hz : c.available = 0) (ha : c'.available = 0) (hw : c'.waiting = c.waiting)
      (hr : c'.ready + 1 = c.ready) (hp : c'.pending = c.pending)

/-- Nobody sleeps, or every available unit is covered by a thread about to look or by a
notification that is still owed. -/
def Covered (c : CondVar) : Prop :=
  c.waiting = 0 ∨ c.available ≤ c.ready + c.pending

/-- Every step keeps the available units covered. -/
theorem Step.covered {c c' : CondVar} (h : Step c c') (hc : c.Covered) : c'.Covered := by
  unfold Covered at *
  cases h <;> omega

/-- Any number of steps keeps the available units covered. -/
theorem Covered.of_steps {c c' : CondVar} (hc : c.Covered)
    (h : Relation.ReflTransGen Step c c') : c'.Covered := by
  induction h with
  | refl => exact hc
  | tail _ hs ih => exact hs.covered ih

/-- Without a thread about to look and without an owed notification, no thread sleeps while a
unit is available. -/
theorem Covered.quiescent {c : CondVar} (hc : c.Covered) (hr : c.ready = 0)
    (hp : c.pending = 0) : c.waiting = 0 ∨ c.available = 0 := by
  unfold Covered at hc
  omega

/-! ### Threads and their roles -/

/-- What a thread is to one condition variable. -/
inductive Role
  /-- It is not concerned with the variable at the moment. -/
  | absent
  /-- It is about to take the mutex and evaluate the predicate. -/
  | ready
  /-- It sleeps in `wait`. -/
  | asleep
  deriving DecidableEq

/-- The thread is counted as ready. -/
def Role.isReady : Role → Bool
  | ready => true
  | _ => false

/-- The thread is counted as asleep. -/
def Role.isAsleep : Role → Bool
  | asleep => true
  | _ => false

/-- The role of a thread after `notify_all`. -/
def Role.awake : Role → Role
  | asleep => ready
  | r => r

variable {ι : Type*} [Fintype ι]

/-- The counts of a condition variable whose threads play the given roles. -/
def ofRoles (available : ℕ) (role : ι → Role) (pending : ℕ) : CondVar where
  available := available
  waiting := tally Role.isAsleep role
  ready := tally Role.isReady role
  pending := pending

variable {a p : ℕ} {role role' : ι → Role} {i : ι}

/-- Nobody is counted as ready exactly when no thread has that role. -/
lemma ofRoles_ready_eq_zero_iff :
    (ofRoles a role p).ready = 0 ↔ ∀ j, role j ≠ .ready := by
  refine tally_eq_zero_iff.trans (forall_congr' fun j => ?_)
  cases role j <;> simp [Role.isReady]

/-- Nobody is counted as asleep exactly when no thread has that role. -/
lemma ofRoles_waiting_eq_zero_iff :
    (ofRoles a role p).waiting = 0 ↔ ∀ j, role j ≠ .asleep := by
  refine tally_eq_zero_iff.trans (forall_congr' fun j => ?_)
  cases role j <;> simp [Role.isAsleep]

/-- A unit becomes available, its notification is owed. -/
theorem step_post : Step (ofRoles a role p) (ofRoles (a + 1) role (p + 1)) :=
  .post rfl rfl rfl rfl

/-- A thread that does not wait takes a unit. -/
theorem step_steal : Step (ofRoles (a + 1) role p) (ofRoles a role p) :=
  .steal rfl rfl rfl rfl

/-- `notify_all`. -/
theorem step_broadcast :
    Step (ofRoles a role p) (ofRoles a (fun j => (role j).awake) p) := by
  refine .broadcast rfl ?_ ?_ rfl
  · refine tally_eq_zero_iff.mpr fun j => ?_
    cases role j <;> rfl
  · refine (tally_add (p := Role.isReady) (q := Role.isAsleep)
      (r := fun r => r.awake.isReady) role fun r => ?_).symm
    cases r <;> rfl

variable [DecidableEq ι]

/-- The effect of one `notify_one` on the roles: an arbitrary sleeper is woken, or nobody when
there is none. -/
def Wakes (role role' : ι → Role) : Prop :=
  ((∀ j, role j ≠ .asleep) ∧ role' = role) ∨
    ∃ j, role j = .asleep ∧ role' = Function.update role j .ready

/-- How the two counts of threads move when one thread changes its role. -/
private lemma counts_update {r : Role} (r' : Role) (h : role i = r) :
    tally Role.isAsleep (Function.update role i r') + r.isAsleep.toNat =
        tally Role.isAsleep role + r'.isAsleep.toNat ∧
      tally Role.isReady (Function.update role i r') + r.isReady.toNat =
        tally Role.isReady role + r'.isReady.toNat := by
  subst h
  exact ⟨tally_update _ _ _ _, tally_update _ _ _ _⟩

/-- A thread starts to look at the predicate. -/
theorem step_arrive (h : role i = .absent) :
    Step (ofRoles a role p) (ofRoles a (Function.update role i .ready) p) := by
  obtain ⟨hw, hr⟩ := counts_update .ready h
  simp only [Role.isAsleep, Role.isReady, Bool.toNat_true, Bool.toNat_false] at hw hr
  exact .arrive rfl hw hr rfl

/-- A thread about to look takes a unit and is done. -/
theorem step_take (h : role i = .ready) :
    Step (ofRoles (a + 1) role p) (ofRoles a (Function.update role i .absent) p) := by
  obtain ⟨hw, hr⟩ := counts_update .absent h
  simp only [Role.isAsleep, Role.isReady, Bool.toNat_true, Bool.toNat_false] at hw hr
  exact .take rfl hw hr rfl

/-- A thread about to look finds no unit and falls asleep. -/
theorem step_sleep (h : role i = .ready) :
    Step (ofRoles 0 role p) (ofRoles 0 (Function.update role i .asleep) p) := by
  obtain ⟨hw, hr⟩ := counts_update .asleep h
  simp only [Role.isAsleep, Role.isReady, Bool.toNat_true, Bool.toNat_false] at hw hr
  exact .sleep rfl rfl hw hr rfl

/-- A thread about to look finds no unit and leaves. -/
theorem step_leave (h : role i = .ready) :
    Step (ofRoles 0 role p) (ofRoles 0 (Function.update role i .absent) p) := by
  obtain ⟨hw, hr⟩ := counts_update .absent h
  simp only [Role.isAsleep, Role.isReady, Bool.toNat_true, Bool.toNat_false] at hw hr
  exact .leave rfl rfl hw hr rfl

/-- A sleeping thread wakes up by itself. -/
theorem step_spurious (h : role i = .asleep) :
    Step (ofRoles a role p) (ofRoles a (Function.update role i .ready) p) := by
  obtain ⟨hw, hr⟩ := counts_update .ready h
  simp only [Role.isAsleep, Role.isReady, Bool.toNat_true, Bool.toNat_false] at hw hr
  exact .spurious rfl hw hr rfl

/-- An owed `notify_one` is made. -/
theorem step_notify (h : Wakes role role') :
    Step (ofRoles a role (p + 1)) (ofRoles a role' p) := by
  rcases h with ⟨hnone, rfl⟩ | ⟨j, hj, rfl⟩
  · have hz := (ofRoles_waiting_eq_zero_iff (a := a) (p := p)).mpr hnone
    exact .notifyNone rfl hz hz rfl rfl
  · obtain ⟨hw, hr⟩ := counts_update .ready hj
    simp only [Role.isAsleep, Role.isReady, Bool.toNat_true, Bool.toNat_false] at hw hr
    exact .notify rfl hw hr rfl

/-- A unit becomes available and its `notify_one` follows in the same critical section. -/
theorem steps_post_notify (h : Wakes role role') :
    Relation.ReflTransGen Step (ofRoles a role p) (ofRoles (a + 1) role' p) :=
  .tail (.single step_post) (step_notify h)

/-! ### Roles read off a family of program points -/

variable {β : Type*} {r : β → Role} {f : ι → β} {b c : β}

omit [Fintype ι] in
/-- The roles after one thread has moved. -/
lemma role_update (r : β → Role) (f : ι → β) (i : ι) (b : β) :
    (fun j => r (Function.update f i b j)) = Function.update (fun j => r (f j)) i (r b) := by
  funext j
  exact Function.apply_update (fun _ => r) f i b j

omit [Fintype ι] in
/-- The roles after a thread has moved to a point that plays the same role. -/
lemma role_update_same (hf : f i = b) (hr : r c = r b) :
    (fun j => r (Function.update f i c j)) = fun j => r (f j) := by
  rw [role_update]
  exact Function.update_eq_self_iff.mpr (by rw [hf, hr])

/-- A thread that moves to a point with the same role does nothing to the condition variable. -/
lemma steps_of_same (hf : f i = b) (hr : r c = r b) :
    Relation.ReflTransGen Step (ofRoles a (fun j => r (f j)) p)
      (ofRoles a (fun j => r (Function.update f i c j)) p) := by
  rw [role_update_same hf hr]

end CondVar

end SystemsDemos
