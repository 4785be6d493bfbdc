import SystemsDemos.Ownership.Holdings
import SystemsDemos.Transition.System
import Mathlib.Data.List.Range
import Mathlib.Logic.Function.Basic

/-!
# `ResourceGuard`

The guard of the RAII practice: a name and a flag, with a constructor that opens, a destructor
that closes, and the two special members that move.  A program constructs, moves, uses and
destroys any number of guards; its observations are the lines it prints.  A name may be opened more
than once, so each opened resource has a number besides, which the guards carry and no branch looks
at: a line about a resource prints the name that the guard has then.

### Outline

* `Resource` and `ResourceGuard` with `closeIfNeeded` and `moved`;
* `Guards.step`, the special members as steps of a program, and `Guards.system`;
* `Guards.holdings`: a step is a step of unique ownership, or two;
* `Guards.closed_exactly_once`.
-/

namespace SystemsDemos

/-- A resource: which of the opened ones it is, and its name. -/
structure Resource where
  number : ℕ
  name : String
  deriving DecidableEq

/-- A `ResourceGuard`, with the number of the resource that was opened for it. -/
structure ResourceGuard where
  name : String
  valid : Bool
  number : ℕ
  deriving DecidableEq

/-- The lines that `ResourceGuard` prints; the name of a resource is what is printed of it. -/
inductive GuardLine
  | opened (resource : Resource)
  | closed (resource : Resource)
  | moveConstructed
  | moveAssigned
  | used (name : String)
  | skipped
  deriving DecidableEq

/-- A line as it is printed. -/
def GuardLine.text : GuardLine → String
  | .opened resource => "open resource: " ++ resource.name ++ "\n"
  | .closed resource => "close resource: " ++ resource.name ++ "\n"
  | .moveConstructed => "move construct resource owner\n"
  | .moveAssigned => "move assign resource owner\n"
  | .used name => "use resource: " ++ name ++ "\n"
  | .skipped => "resource is moved-from, skip use\n"

/-- The resource that a line says is opened. -/
def GuardLine.opened? : GuardLine → Option Resource
  | .opened r => some r
  | _ => none

/-- The resource that a line says is closed. -/
def GuardLine.closed? : GuardLine → Option Resource
  | .closed r => some r
  | _ => none

/-- The resources opened in the lines. -/
def opens (lines : List GuardLine) : List Resource := lines.filterMap GuardLine.opened?

/-- The resources closed in the lines. -/
def closes (lines : List GuardLine) : List Resource := lines.filterMap GuardLine.closed?

lemma opens_append (lines lines' : List GuardLine) :
    opens (lines ++ lines') = opens lines ++ opens lines' := List.filterMap_append

lemma closes_append (lines lines' : List GuardLine) :
    closes (lines ++ lines') = closes lines ++ closes lines' := List.filterMap_append

namespace ResourceGuard

/-- The resource that the guard stands for, under the name that it has. -/
def resource (guard : ResourceGuard) : Resource := ⟨guard.number, guard.name⟩

/-- `closeIfNeeded`: the guard afterwards, and what is printed. -/
def closeIfNeeded (guard : ResourceGuard) : ResourceGuard × List GuardLine :=
  if guard.valid then ({ guard with valid := false }, [.closed guard.resource])
  else (guard, [])

/-- `use`. -/
def use (guard : ResourceGuard) : List GuardLine :=
  if guard.valid then [.used guard.name] else [.skipped]

/-- The guard `other` after its name is moved and `other.valid_ = false`; `left` is what
`std::move` leaves of the name. -/
def moved (other : ResourceGuard) (left : String) : ResourceGuard :=
  { other with name := left, valid := false }

/-- What a guard holds. -/
def held (guard : ResourceGuard) : Option Resource :=
  if guard.valid then some guard.resource else none

end ResourceGuard

/-- The guards alive, each under its address, and the number of resources opened. -/
structure Guards where
  guards : ℕ → Option ResourceGuard
  opened : ℕ

/-- The operations of a program on its guards.  What is left of a moved string is unspecified. -/
inductive GuardOp
  | construct (g : ℕ) (name : String)
  | moveConstruct (g other : ℕ) (left : String)
  | moveAssign (g other : ℕ) (left : String)
  | use (g : ℕ)
  | destroy (g : ℕ)

namespace Guards

/-- The memory with another guard under an address, or none. -/
def set (s : Guards) (g : ℕ) (guard : Option ResourceGuard) : Guards :=
  { s with guards := Function.update s.guards g guard }

/-- An operation; constructors need free memory, the others a guard. -/
def step (s : Guards) : GuardOp → Option (Guards × List GuardLine)
  | .construct g name =>
      match s.guards g with
      | none => some ({ s.set g (some ⟨name, true, s.opened⟩) with opened := s.opened + 1 },
          [.opened ⟨s.opened, name⟩])
      | some _ => none
  | .moveConstruct g other left =>
      match s.guards g, s.guards other with
      | none, some source => some ((s.set other (some (source.moved left))).set g (some source),
          [.moveConstructed])
      | _, _ => none
  | .moveAssign g other left =>
      match s.guards g, s.guards other with
      | some this, some source =>
          if g = other then some (s, [])
          else some ((s.set other (some (source.moved left))).set g (some source),
            this.closeIfNeeded.2 ++ [.moveAssigned])
      | _, _ => none
  | .use g =>
      match s.guards g with
      | some this => some (s, this.use)
      | none => none
  | .destroy g =>
      match s.guards g with
      | some this => some (s.set g none, this.closeIfNeeded.2)
      | none => none

/-- The programs: at the start there are no guards. -/
def system : System Guards GuardOp GuardLine where
  init s := s = ⟨fun _ => none, 0⟩
  step := step

/-- The guard under this address is valid and holds the resource, name included. -/
def Holds (s : Guards) (g : ℕ) (r : Resource) : Prop :=
  ∃ guard, s.guards g = some guard ∧ guard.valid = true ∧ guard.resource = r

/-! ### Ownership -/

/-- Who holds what, and what the lines say was opened and closed. -/
def holdings (lines : List GuardLine) (s : Guards) : Holdings ℕ Resource :=
  ⟨fun g => (s.guards g).bind ResourceGuard.held, opens lines, closes lines⟩

variable {s s' : Guards} {lines out : List GuardLine} {g other : ℕ} {r : Resource}

lemma holdings_holds_iff : (holdings lines s).holds g = some r ↔ s.Holds g r := by
  have hheld : (holdings lines s).holds g = (s.guards g).bind ResourceGuard.held := rfl
  rw [hheld, Holds]
  cases s.guards g with
  | none => simp
  | some guard => simp [ResourceGuard.held]

/-- What the guards hold when one of them changes. -/
lemma holds_set (guard : Option ResourceGuard) :
    (holdings lines (s.set g guard)).holds =
      Function.update (holdings lines s).holds g (guard.bind ResourceGuard.held) := by
  funext g'
  by_cases hg : g' = g
  · simp [holdings, set, hg]
  · simp [holdings, set, hg]

/-- Closing prints the resource that the guard holds. -/
lemma closes_closeIfNeeded (guard : ResourceGuard) :
    closes guard.closeIfNeeded.2 = guard.held.toList := by
  unfold ResourceGuard.closeIfNeeded ResourceGuard.held
  cases guard.valid <;> rfl

lemma opens_closeIfNeeded (guard : ResourceGuard) : opens guard.closeIfNeeded.2 = [] := by
  unfold ResourceGuard.closeIfNeeded
  cases guard.valid <;> rfl

/-- What the guard under an address holds. -/
lemma holds_of_guard {guard : Option ResourceGuard} (hg : s.guards g = guard) :
    (holdings lines s).holds g = guard.bind ResourceGuard.held := by
  rw [← hg]
  rfl

/-- Construction opens a resource for the guard. -/
lemma holdings_construct (name : String) :
    holdings (lines ++ [.opened ⟨s.opened, name⟩])
        { s.set g (some ⟨name, true, s.opened⟩) with opened := s.opened + 1 } =
      (holdings lines s).acquire g ⟨s.opened, name⟩ := by
  apply Holdings.ext
  · exact holds_set _
  · exact opens_append _ _
  · exact (closes_append _ _).trans (List.append_nil _)

/-- Moving passes what the other guard holds on to the guard. -/
lemma holdings_move {source : ResourceGuard} (hother : s.guards other = some source)
    (left : String) (line : GuardLine) (hline : line.opened? = none)
    (hline' : line.closed? = none) :
    holdings (lines ++ [line])
        ((s.set other (some (source.moved left))).set g (some source)) =
      (holdings lines s).pass g other := by
  have hopens : opens [line] = [] := by rw [opens, List.filterMap_cons_none hline]; rfl
  have hcloses : closes [line] = [] := by rw [closes, List.filterMap_cons_none hline']; rfl
  apply Holdings.ext
  · rw [Holdings.pass, holds_of_guard hother, holds_set, holds_set]
    rfl
  · exact (opens_append _ _).trans (by rw [hopens, List.append_nil]; rfl)
  · exact (closes_append _ _).trans (by rw [hcloses, List.append_nil]; rfl)

/-- Destruction closes what the guard holds. -/
lemma holdings_destroy {this : ResourceGuard} (hg : s.guards g = some this) :
    holdings (lines ++ this.closeIfNeeded.2) (s.set g none) = (holdings lines s).release g := by
  apply Holdings.ext
  · exact holds_set _
  · exact (opens_append _ _).trans (by rw [opens_closeIfNeeded, List.append_nil]; rfl)
  · rw [Holdings.release, holds_of_guard hg]
    exact (closes_append _ _).trans (by rw [closes_closeIfNeeded]; rfl)

/-- Writing a guard twice. -/
lemma set_set_set (guard guard' : Option ResourceGuard) :
    ((s.set g none).set other guard).set g guard' = (s.set other guard).set g guard' := by
  unfold set
  congr 1
  funext g'
  by_cases hg : g' = g
  · simp [hg]
  · simp [hg, Function.update_apply]

/-- Unique ownership, with the resources numbered in the order in which they were opened. -/
structure Owned (lines : List GuardLine) (s : Guards) : Prop where
  linear : (holdings lines s).Linear
  numbers_eq : (opens lines).map Resource.number = List.range s.opened

/-- A step that opens nothing leaves the numbers as they are. -/
lemma Owned.numbers_of_quiet (h : Owned lines s) (hout : opens out = []) :
    (opens (lines ++ out)).map Resource.number = List.range s.opened := by
  rw [opens_append, hout, List.append_nil, h.numbers_eq]

/-- Every operation keeps unique ownership. -/
lemma Owned.step {a : GuardOp} (h : Owned lines s) (hstep : s.step a = some (s', out)) :
    Owned (lines ++ out) s' := by
  cases a with
  | construct g name =>
    simp only [Guards.step] at hstep
    split at hstep
    · next hg =>
      cases hstep
      have hnew : (⟨s.opened, name⟩ : Resource) ∉ (holdings lines s).opened := by
        intro hmem
        have hnumber : s.opened ∈ (opens lines).map Resource.number :=
          List.mem_map_of_mem (f := Resource.number) hmem
        simp [h.numbers_eq] at hnumber
      refine ⟨?_, ?_⟩
      · rw [holdings_construct]
        exact h.linear.acquire (holds_of_guard hg) hnew
      · rw [opens_append, List.map_append, h.numbers_eq]
        exact List.range_succ.symm
    · cases hstep
  | moveConstruct g other left =>
    simp only [Guards.step] at hstep
    split at hstep
    · next source hg hother =>
      cases hstep
      have hne : g ≠ other := by
        rintro rfl
        rw [hg] at hother
        cases hother
      refine ⟨?_, ?_⟩
      · rw [holdings_move hother left _ rfl rfl]
        exact h.linear.pass (holds_of_guard hg) hne
      · exact h.numbers_of_quiet rfl
    · cases hstep
  | moveAssign g other left =>
    simp only [Guards.step] at hstep
    split at hstep
    · next this source hg hother =>
      split at hstep
      · cases hstep
        rwa [List.append_nil]
      · next hne =>
        cases hstep
        -- what the guard held is closed first, then it takes over what the other one holds
        have hother' : (s.set g none).guards other = some source := by
          rw [← hother]
          exact Function.update_of_ne (Ne.symm hne) _ _
        have hempty : (s.set g none).guards g = none := Function.update_self _ _ _
        have hnone : (holdings (lines ++ this.closeIfNeeded.2) (s.set g none)).holds g = none :=
          holds_of_guard hempty
        have hrelease := h.linear.release g
        rw [← holdings_destroy hg] at hrelease
        refine ⟨?_, ?_⟩
        · rw [← List.append_assoc, ← set_set_set, holdings_move hother' left _ rfl rfl]
          exact hrelease.pass hnone hne
        · refine h.numbers_of_quiet ?_
          rw [opens_append, opens_closeIfNeeded]
          rfl
    · cases hstep
  | use g =>
    simp only [Guards.step] at hstep
    split at hstep
    · next this hg =>
      cases hstep
      have hopens : opens this.use = [] := by
        unfold ResourceGuard.use
        cases this.valid <;> rfl
      have hcloses : closes this.use = [] := by
        unfold ResourceGuard.use
        cases this.valid <;> rfl
      refine ⟨?_, ?_⟩
      · rw [holdings, opens_append, closes_append, hopens, hcloses, List.append_nil,
          List.append_nil]
        exact h.linear
      · exact h.numbers_of_quiet hopens
    · cases hstep
  | destroy g =>
    simp only [Guards.step] at hstep
    split at hstep
    · next this hg =>
      cases hstep
      refine ⟨?_, ?_⟩
      · rw [holdings_destroy hg]
        exact h.linear.release g
      · exact h.numbers_of_quiet (opens_closeIfNeeded this)
    · cases hstep

/-- Unique ownership holds after every program. -/
lemma owned_of_run {ts : List (Transition Guards GuardOp GuardLine)} (h : system.Run ts s) :
    Owned (observations ts) s := by
  refine h.invariant_history (I := fun ts s => Owned (observations ts) s) ?_ ?_
  · rintro s rfl
    exact ⟨Holdings.linear_empty, rfl⟩
  · intro ts s a s' out _ ih hstep
    rw [observations_append, observations_singleton]
    exact ih.step hstep

/-- **Every opened resource has one owner or has been closed once.**  After every program of
constructions, moves and destructions no two valid guards hold one resource, a resource that no
valid guard holds has been closed exactly once, none is closed twice, and when all guards are
destroyed every resource has been closed exactly once.  A resource is held and closed under the
name under which it was opened. -/
theorem closed_exactly_once {ts : List (Transition Guards GuardOp GuardLine)}
    (h : system.Run ts s) :
    ((opens (observations ts)).map Resource.number).Nodup ∧
    (∀ r, (r ∈ closes (observations ts) ∨ ∃ g, s.Holds g r) → r ∈ opens (observations ts)) ∧
    (∀ g g' r, s.Holds g r → s.Holds g' r → g = g') ∧
    (∀ r ∈ opens (observations ts), (∀ g, ¬s.Holds g r) →
      (closes (observations ts)).count r = 1) ∧
    (∀ r, (closes (observations ts)).count r ≤ 1) ∧
    ((∀ g, s.guards g = none) →
      ∀ r ∈ opens (observations ts), (closes (observations ts)).count r = 1) := by
  obtain ⟨hlinear, hnumbers⟩ := owned_of_run h
  have hfree : ∀ {r}, (∀ g, ¬s.Holds g r) → ∀ g, (holdings (observations ts) s).holds g ≠ some r :=
    fun hnone g hheld => hnone g (holdings_holds_iff.mp hheld)
  refine ⟨?_, fun r hr => ?_, fun g g' r hg hg' => ?_, fun r hr hnone => ?_, fun r => ?_,
    fun hdestroyed r hr => ?_⟩
  · rw [hnumbers]
    exact List.nodup_range
  · rcases hr with hclosed | ⟨g, hholds⟩
    · exact hlinear.opened_of_closed hclosed
    · exact hlinear.opened_of_holds (holdings_holds_iff.mpr hholds)
  · exact hlinear.unique (holdings_holds_iff.mpr hg) (holdings_holds_iff.mpr hg')
  · exact hlinear.count_closed hr (hfree hnone)
  · exact hlinear.count_closed_le r
  · refine hlinear.count_closed hr (hfree fun g hholds => ?_)
    obtain ⟨guard, hguard, -⟩ := hholds
    rw [hdestroyed g] at hguard
    cases hguard

/-- `demonstrateResourceGuard`: the guards `imu`, `owner` and `can` under the addresses 0 to 2. -/
def demonstrateResourceGuard : List GuardOp :=
  [.construct 0 "imu-driver", .use 0, .moveConstruct 1 0 "", .use 0, .use 1,
    .construct 2 "can-device", .moveAssign 2 1 "", .use 1, .use 2, .destroy 2, .destroy 1,
    .destroy 0]

/-- The demonstration opens two resources and closes each of them once. -/
theorem closed_exactly_once_demonstrate :
    ∃ ts s, system.Run ts s ∧
      opens (observations ts) = [⟨0, "imu-driver"⟩, ⟨1, "can-device"⟩] ∧
      ∀ r ∈ opens (observations ts), (closes (observations ts)).count r = 1 := by
  have hrun := System.run_of_exec system demonstrateResourceGuard rfl rfl
  refine ⟨_, _, hrun, rfl, (closed_exactly_once hrun).2.2.2.2.2 fun g => ?_⟩
  simp only [set, Function.update_apply]
  split_ifs <;> rfl

/-- The lines of the demonstration. -/
example : ((system.exec ⟨fun _ => none, 0⟩ demonstrateResourceGuard).map fun r =>
    (observations r.1).map GuardLine.text) = some ["open resource: imu-driver\n",
      "use resource: imu-driver\n", "move construct resource owner\n",
      "resource is moved-from, skip use\n", "use resource: imu-driver\n",
      "open resource: can-device\n", "close resource: can-device\n",
      "move assign resource owner\n", "resource is moved-from, skip use\n",
      "use resource: imu-driver\n", "close resource: imu-driver\n"] := by decide

end Guards

end SystemsDemos
