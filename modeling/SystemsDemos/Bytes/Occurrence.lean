import Mathlib.Data.List.Basic
import Mathlib.Tactic.Lemma

/-!
# Occurrences of a sequence in a file

`OccursAt xs data p`: the sequence `xs` stands in `data` at position `p`.  A sequence that is put
together from parts occurs where its parts occur one after the other, which is how the position of
every field of a nested format is found.
-/

namespace SystemsDemos

variable {α : Type*} {xs ys data : List α} {x : α} {p : ℕ}

/-- The sequence `xs` stands in `data` at position `p`. -/
def OccursAt (xs data : List α) (p : ℕ) : Prop := xs <+: data.drop p

/-- A sequence occurs at the begin of itself. -/
lemma occursAt_self (data : List α) : OccursAt data data 0 :=
  ⟨[], by simp⟩

/-- A sequence in two parts occurs where the parts occur one after the other. -/
lemma occursAt_append :
    OccursAt (xs ++ ys) data p ↔ OccursAt xs data p ∧ OccursAt ys data (p + xs.length) := by
  constructor
  · rintro ⟨rest, hrest⟩
    refine ⟨⟨ys ++ rest, by rw [← hrest, List.append_assoc]⟩, rest, ?_⟩
    rw [← List.drop_drop, ← hrest, List.append_assoc, List.drop_left]
  · rintro ⟨⟨rest, hrest⟩, hys⟩
    rw [OccursAt, ← List.drop_drop, ← hrest, List.drop_left] at hys
    obtain ⟨rest', rfl⟩ := hys
    exact ⟨rest', by rw [← hrest, List.append_assoc]⟩

/-- The first element of an occurrence. -/
lemma OccursAt.getElem?_eq (h : OccursAt (x :: xs) data p) : data[p]? = some x := by
  obtain ⟨rest, hrest⟩ := h
  have hhead : (data.drop p)[0]? = some x := by rw [← hrest]; rfl
  simpa using hhead

/-- What follows the first element of an occurrence. -/
lemma OccursAt.tail (h : OccursAt (x :: xs) data p) : OccursAt xs data (p + 1) := by
  have hparts : OccursAt ([x] ++ xs) data p := h
  exact (occursAt_append.mp hparts).2

/-- What occurs in `data` is not longer than `data`. -/
lemma OccursAt.length_le (h : OccursAt xs data p) : xs.length ≤ data.length := by
  have hle := List.IsPrefix.length_le h
  rw [List.length_drop] at hle
  omega

/-- The stretch of `data` in which `xs` occurs is `xs`. -/
lemma OccursAt.take_drop (h : OccursAt xs data p) : (data.drop p).take xs.length = xs := by
  obtain ⟨rest, hrest⟩ := h
  rw [← hrest, List.take_left]

end SystemsDemos
