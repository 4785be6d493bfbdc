import Mathlib.Data.List.Basic

/-!
# Objects and sequences of calls

An object with a state is a Mealy machine: a call takes it to its next state and yields an output.
The rules of this file are about sequences of calls.  Two machines that simulate each other yield
the same outputs (`Simulation.outputs_eq`); a property that a call keeps exactly under a condition
holds throughout a sequence exactly when every call meets the condition (`throughout_iff_along`);
calls that leave the state alone can be inserted anywhere (`Inserted.observed_eq`).
-/

namespace SystemsDemos

/-- A machine with states `σ` that answers an input of `ι` with an output of `ο`. -/
structure Mealy (σ ι ο : Type*) where
  step : σ → ι → σ × ο

namespace Mealy

variable {σ τ ι ο ω : Type*} (M : Mealy σ ι ο)

/-- The state after an input. -/
def next (s : σ) (i : ι) : σ := (M.step s i).1

/-- The answer to an input. -/
def answer (s : σ) (i : ι) : ο := (M.step s i).2

/-- The state after a sequence of inputs. -/
def after (s : σ) (is : List ι) : σ := is.foldl M.next s

/-- The answers to a sequence of inputs, in order. -/
def outputs : σ → List ι → List ο
  | _, [] => []
  | s, i :: is => M.answer s i :: outputs (M.next s i) is

/-- What `g` keeps of the answers to a sequence of inputs. -/
def observed (g : ι → ο → Option ω) : σ → List ι → List ω
  | _, [] => []
  | s, i :: is => (g i (M.answer s i)).toList ++ observed g (M.next s i) is

/-- Every input of the sequence meets the condition `C` in the state in which it arrives. -/
def Along (C : σ → ι → Prop) : σ → List ι → Prop
  | _, [] => True
  | s, i :: is => C s i ∧ Along C (M.next s i) is

/-- Every state that is passed has the property `I`, the first and the last one included. -/
def Throughout (I : σ → Prop) : σ → List ι → Prop
  | s, [] => I s
  | s, i :: is => I s ∧ Throughout I (M.next s i) is

@[simp] lemma after_nil (s : σ) : M.after s [] = s := rfl

@[simp] lemma after_cons (s : σ) (i : ι) (is : List ι) :
    M.after s (i :: is) = M.after (M.next s i) is := rfl

variable {M}

/-! ### Properties of all states -/

/-- A property that every input keeps holds throughout. -/
lemma throughout_of_invariant {I : σ → Prop} (hstep : ∀ s i, I s → I (M.next s i)) {s : σ}
    (hs : I s) (is : List ι) : M.Throughout I s is := by
  induction is generalizing s with
  | nil => exact hs
  | cons i is ih => exact ⟨hs, ih (hstep s i hs)⟩

/-- A property that holds throughout holds after every part of the sequence. -/
lemma Throughout.after {I : σ → Prop} {s : σ} {is js : List ι}
    (h : M.Throughout I s (is ++ js)) : I (M.after s is) := by
  induction is generalizing s with
  | nil =>
    cases js with
    | nil => exact h
    | cons j js => exact h.1
  | cons i is ih => exact ih h.2

/-- Two properties hold throughout together. -/
lemma throughout_and {I J : σ → Prop} {s : σ} {is : List ι} :
    M.Throughout (fun s => I s ∧ J s) s is ↔ M.Throughout I s is ∧ M.Throughout J s is := by
  induction is generalizing s with
  | nil => exact Iff.rfl
  | cons i is ih =>
    simp only [Throughout, ih]
    tauto

/-- **A property that is kept exactly under a condition.**  If an input keeps `I` just when it
meets `C`, then `I` holds throughout a sequence just when every input of it meets `C`. -/
theorem throughout_iff_along {I : σ → Prop} {C : σ → ι → Prop}
    (hstep : ∀ s i, I s → (I (M.next s i) ↔ C s i)) {s : σ} (hs : I s) (is : List ι) :
    M.Throughout I s is ↔ M.Along C s is := by
  induction is generalizing s with
  | nil => exact ⟨fun _ => trivial, fun _ => hs⟩
  | cons i is ih =>
    constructor
    · rintro ⟨-, hrest⟩
      have hnext : I (M.next s i) := by
        cases is with
        | nil => exact hrest
        | cons j js => exact hrest.1
      exact ⟨(hstep s i hs).mp hnext, (ih hnext).mp hrest⟩
    · rintro ⟨hC, hrest⟩
      exact ⟨hs, (ih ((hstep s i hs).mpr hC)).mpr hrest⟩

/-- Two conditions that agree on every input agree along a sequence. -/
lemma along_congr {C D : σ → ι → Prop} (h : ∀ s i, C s i ↔ D s i) {s : σ} {is : List ι} :
    M.Along C s is ↔ M.Along D s is := by
  induction is generalizing s with
  | nil => exact Iff.rfl
  | cons i is ih => exact and_congr (h s i) ih

/-- Two conditions that agree as long as a property holds, which the inputs that meet them keep,
agree along a sequence. -/
theorem along_iff_along {I : σ → Prop} {C D : σ → ι → Prop}
    (hagree : ∀ s i, I s → (C s i ↔ D s i)) (hkeep : ∀ s i, I s → D s i → I (M.next s i)) {s : σ}
    (hs : I s) (is : List ι) : M.Along C s is ↔ M.Along D s is := by
  induction is generalizing s with
  | nil => exact Iff.rfl
  | cons i is ih =>
    constructor
    · rintro ⟨hC, hrest⟩
      have hD : D s i := (hagree s i hs).mp hC
      exact ⟨hD, (ih (hkeep s i hs hD)).mp hrest⟩
    · rintro ⟨hD, hrest⟩
      exact ⟨(hagree s i hs).mpr hD, (ih (hkeep s i hs hD)).mpr hrest⟩

/-- A weaker condition. -/
lemma Along.imp {C D : σ → ι → Prop} (himp : ∀ s i, C s i → D s i) {s : σ} {is : List ι}
    (h : M.Along C s is) : M.Along D s is := by
  induction is generalizing s with
  | nil => trivial
  | cons i is ih => exact ⟨himp s i h.1, ih h.2⟩

/-! ### Simulation -/

/-- Related states of the two machines give the same answer to every input, and stay related. -/
structure Simulation (M : Mealy σ ι ο) (N : Mealy τ ι ο) (R : σ → τ → Prop) : Prop where
  next : ∀ s t i, R s t → R (M.next s i) (N.next t i)
  answer : ∀ s t i, R s t → M.answer s i = N.answer t i

/-- Machines that simulate each other cannot be told apart. -/
theorem Simulation.outputs_eq {N : Mealy τ ι ο} {R : σ → τ → Prop} (h : Simulation M N R) {s : σ}
    {t : τ} (hR : R s t) (is : List ι) : M.outputs s is = N.outputs t is := by
  induction is generalizing s t with
  | nil => rfl
  | cons i is ih =>
    have hanswer : M.answer s i = N.answer t i := h.answer s t i hR
    have hrest : M.outputs (M.next s i) is = N.outputs (N.next t i) is := ih (h.next s t i hR)
    rw [outputs, outputs, hanswer, hrest]

/-! ### Insertion -/

/-- The second sequence is the first one with inputs inserted that satisfy `p`. -/
inductive Inserted (p : ι → Prop) : List ι → List ι → Prop
  | nil : Inserted p [] []
  | keep (i : ι) {is js : List ι} (h : Inserted p is js) : Inserted p (i :: is) (i :: js)
  | insert {j : ι} (hj : p j) {is js : List ι} (h : Inserted p is js) : Inserted p is (j :: js)

/-- Inserted inputs that leave the state alone and are not observed change nothing. -/
theorem Inserted.observed_eq {p : ι → Prop} {g : ι → ο → Option ω} {is js : List ι}
    (h : Inserted p is js) (hquiet : ∀ s i, p i → g i (M.answer s i) = none) {s : σ}
    (hkeep : M.Along (fun s i => p i → M.next s i = s) s js) :
    M.observed g s is = M.observed g s js := by
  induction h generalizing s with
  | nil => rfl
  | keep i h ih => rw [observed, observed, ih hkeep.2]
  | insert hj h ih =>
    have hsame := hkeep.1 hj
    have hrest := hkeep.2
    rw [hsame] at hrest
    rw [observed, hquiet _ _ hj, hsame, ih hrest]
    rfl

end Mealy

end SystemsDemos
