import Mathlib.Data.List.Basic
import Mathlib.Tactic.Common

/-!
# Windows of a list

The windows of `width` elements that begin at every multiple of `hop`, how many of them a list
has, and slices that fail when they are not inside the list.
-/

namespace SystemsDemos.Windows

variable {α : Type*} {hop width : ℕ}

/-- Window `k`. -/
def window (hop width : ℕ) (xs : List α) (k : ℕ) : List α := (xs.drop (k * hop)).take width

/-- The number of windows of a list of length `n`. -/
def count (hop width n : ℕ) : ℕ := if n < width then 0 else (n - width) / hop + 1

/-- The windows of a list are those that end inside it. -/
lemma lt_count_iff (hhop : 0 < hop) {n k : ℕ} :
    k < count hop width n ↔ k * hop + width ≤ n := by
  unfold count
  split
  · omega
  · rw [Nat.lt_succ_iff, Nat.le_div_iff_mul_le hhop]
    omega

/-- An empty list has no windows. -/
lemma count_zero (hwidth : 0 < width) : count hop width 0 = 0 := if_pos hwidth

/-- A longer list has no fewer windows. -/
lemma count_mono (hhop : 0 < hop) {m n : ℕ} (h : m ≤ n) :
    count hop width m ≤ count hop width n := by
  by_contra hless
  have hlast := (lt_count_iff hhop).mp (Nat.lt_of_not_le hless)
  exact absurd ((lt_count_iff hhop).mpr (Nat.le_trans hlast h)) (Nat.lt_irrefl _)

/-- A window does not see what is appended behind it. -/
lemma window_append {xs ys : List α} {k : ℕ} (h : k * hop + width ≤ xs.length) :
    window hop width (xs ++ ys) k = window hop width xs k := by
  unfold window
  rw [List.drop_append_of_le_length (by omega), List.take_append_of_le_length]
  rw [List.length_drop]
  omega

/-- A window inside the list is full. -/
lemma length_window {xs : List α} {k : ℕ} (h : k * hop + width ≤ xs.length) :
    (window hop width xs k).length = width := by
  rw [window, List.length_take, List.length_drop]
  omega

/-- The elements of a window are elements of the list. -/
lemma mem_of_mem_window {xs : List α} {k : ℕ} {x : α} (h : x ∈ window hop width xs k) : x ∈ xs :=
  List.mem_of_mem_drop (List.mem_of_mem_take h)

/-- A traversal in which every step succeeds. -/
lemma mapM_eq_some_map {β : Type*} {f : α → Option β} {g : α → β} {xs : List α}
    (h : ∀ x ∈ xs, f x = some (g x)) : xs.mapM f = some (xs.map g) := by
  induction xs with
  | nil => rfl
  | cons x xs ih =>
    have hhead := h x List.mem_cons_self
    have hrest := ih fun y hy => h y (List.mem_cons_of_mem _ hy)
    rw [List.mapM_cons, hhead, hrest]
    rfl

/-- The `n` elements from `first` on, read one by one; `none` when one of them does not exist. -/
def slice? (xs : List α) (first n : ℕ) : Option (List α) :=
  (List.range n).mapM fun j => xs[first + j]?

/-- A slice inside the list. -/
lemma slice?_eq_some {xs : List α} {first n : ℕ} (h : first + n ≤ xs.length) :
    slice? xs first n = some ((xs.drop first).take n) := by
  induction n with
  | zero => rfl
  | succ n ih =>
    have hget : xs[first + n]? = some xs[first + n] := List.getElem?_eq_getElem (by omega)
    have hprefix := ih (by omega)
    unfold slice? at hprefix ⊢
    rw [List.range_succ, List.mapM_append, hprefix]
    simp only [List.mapM_cons, List.mapM_nil, hget]
    rw [List.take_add_one, List.getElem?_drop, hget]
    rfl

end SystemsDemos.Windows
