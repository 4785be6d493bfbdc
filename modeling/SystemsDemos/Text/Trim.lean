import Mathlib.Data.List.DropRight

/-!
# Trimming

`trim p` removes the elements that satisfy `p` from both ends of a list.
-/

namespace SystemsDemos

variable {α : Type*} (p : α → Bool)

/-- The list without the elements of the given kind at its two ends. -/
def trim (l : List α) : List α := (l.dropWhile p).rdropWhile p

variable {p}

/-- Elements of the kind in front do not matter. -/
lemma trim_append_left {ws : List α} (hws : ∀ x ∈ ws, p x = true) (l : List α) :
    trim p (ws ++ l) = trim p l := by
  rw [trim, trim, List.dropWhile_append_of_pos hws]

private lemma rdropWhile_append_right {ws : List α} (hws : ∀ x ∈ ws, p x = true) (l : List α) :
    (l ++ ws).rdropWhile p = l.rdropWhile p := by
  have hreverse : ∀ x ∈ ws.reverse, p x = true := fun x hx => hws x (List.mem_reverse.mp hx)
  rw [List.rdropWhile, List.rdropWhile, List.reverse_append, List.dropWhile_append_of_pos hreverse]

/-- Elements of the kind behind do not matter. -/
lemma trim_append_right {ws : List α} (hws : ∀ x ∈ ws, p x = true) (l : List α) :
    trim p (l ++ ws) = trim p l := by
  rw [trim, trim, List.dropWhile_append]
  split
  · next hempty =>
    have hnil : ws.dropWhile p = [] := List.dropWhile_eq_nil_iff.mpr hws
    rw [hnil, List.isEmpty_iff.mp hempty]
  · exact rdropWhile_append_right hws _

/-- A list is its trimmed form with elements of the kind around it. -/
lemma exists_eq_append_trim (p : α → Bool) (l : List α) :
    ∃ front back : List α, l = front ++ trim p l ++ back ∧ (∀ x ∈ front, p x = true) ∧
      ∀ x ∈ back, p x = true := by
  refine ⟨l.takeWhile p, (l.dropWhile p).rtakeWhile p, ?_, fun x hx => ?_, fun x hx => ?_⟩
  · rw [trim, List.append_assoc, List.rdropWhile_append_rtakeWhile,
      List.takeWhile_append_dropWhile]
  · exact List.mem_takeWhile_imp hx
  · exact List.mem_rtakeWhile_imp hx

end SystemsDemos
