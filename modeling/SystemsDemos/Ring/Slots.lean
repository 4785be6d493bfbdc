import Mathlib.Data.Nat.ModEq
import Mathlib.Logic.Function.Basic

/-!
# Circular arrays

A circular array with `cap` slots that holds a window of an infinite sequence of items: item `j`
is in slot `j % cap`.  Items enter at the end of the window and leave at its begin; the window is
never longer than the array.
-/

namespace SystemsDemos.Ring

variable {β : Type*} {cap lo hi : ℕ} {slots : ℕ → β} {item : ℕ → β}

/-- The slots hold the items from `lo` to `hi`. -/
def Holds (cap : ℕ) (slots item : ℕ → β) (lo hi : ℕ) : Prop :=
  ∀ j, lo ≤ j → j < hi → slots (j % cap) = item j

/-- Two items that are less than `cap` apart are in different slots. -/
lemma mod_ne_of_lt {i j : ℕ} (hlt : i < j) (hnear : j < i + cap) : i % cap ≠ j % cap := by
  intro heq
  have hle := Nat.ModEq.add_le_of_lt heq hlt
  omega

/-- An empty window is held by any array. -/
lemma Holds.empty (slots item : ℕ → β) (lo : ℕ) : Holds cap slots item lo lo := by
  intro j hlo hhi
  omega

/-- Writing the next item into its slot, when there is room. -/
lemma Holds.write (h : Holds cap slots item lo hi) (hroom : hi < lo + cap) :
    Holds cap (Function.update slots (hi % cap) (item hi)) item lo (hi + 1) := by
  intro j hlo hhi
  rcases Nat.lt_succ_iff_lt_or_eq.mp hhi with hlt | rfl
  · rw [Function.update_of_ne (mod_ne_of_lt hlt (by omega))]
    exact h j hlo hlt
  · rw [Function.update_self]

/-- The item that leaves next. -/
lemma Holds.read (h : Holds cap slots item lo hi) (hne : lo < hi) :
    slots (lo % cap) = item lo :=
  h lo (Nat.le_refl _) hne

/-- The first item leaves the window. -/
lemma Holds.leave (h : Holds cap slots item lo hi) : Holds cap slots item (lo + 1) hi :=
  fun j hlo hhi => h j (by omega) hhi

end SystemsDemos.Ring
