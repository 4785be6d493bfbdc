import Mathlib.Data.Finmap

/-!
# Tables under encoded keys

A table whose keys are codes stands for a finite map as long as no two keys have the same code.
-/

namespace SystemsDemos

variable {α κ β : Type*} [DecidableEq α] [DecidableEq κ]

/-- `table` has under the code of every key what `map` has under the key. -/
def Encodes (enc : α → κ) (table : AList fun _ : κ => β) (map : Finmap fun _ : α => β) : Prop :=
  ∀ a, table.lookup (enc a) = map.lookup a

namespace Encodes

variable {enc : α → κ} {table : AList fun _ : κ => β} {map : Finmap fun _ : α => β}

/-- The empty table stands for the empty map. -/
lemma empty (enc : α → κ) : Encodes enc (∅ : AList fun _ : κ => β) ∅ := by
  intro a
  rw [AList.lookup_empty, Finmap.lookup_empty]

/-- Writing an entry under the code of its key; what was there before is replaced on both
sides. -/
lemma insert (h : Encodes enc table map) (henc : Function.Injective enc) (a : α) (b : β) :
    Encodes enc (table.insert (enc a) b) (map.insert a b) := by
  intro x
  by_cases hx : x = a
  · subst hx
    rw [AList.lookup_insert, Finmap.lookup_insert]
  · have hcode : enc x ≠ enc a := fun heq => hx (henc heq)
    rw [AList.lookup_insert_ne hcode, Finmap.lookup_insert_of_ne map hx]
    exact h x

end Encodes

end SystemsDemos
