import Mathlib.Algebra.BigOperators.Group.Finset.Basic
import Mathlib.Algebra.Order.BigOperators.Group.Finset
import Mathlib.Data.Fintype.BigOperators

/-!
# Counting the members of a finite family

`tally p f` is the number of indices `i` for which the local state `f i` satisfies `p`.  It is
used for families of threads: a step of one thread changes the family at one index, and
`tally_update` says how every tally moves with it.
-/

namespace SystemsDemos

variable {ι β γ : Type*} [Fintype ι]

/-- The number of indices whose value satisfies `p`. -/
def tally (p : β → Bool) (f : ι → β) : ℕ :=
  ∑ i, (p (f i)).toNat

/-- A tally is zero exactly when no member is counted. -/
lemma tally_eq_zero_iff {p : β → Bool} {f : ι → β} :
    tally p f = 0 ↔ ∀ i, p (f i) = false := by
  simp [tally, Finset.sum_eq_zero_iff, Bool.toNat_eq_zero]

/-- Changing one member moves the tally by what that member contributes. -/
lemma tally_update [DecidableEq ι] (p : β → Bool) (f : ι → β) (i : ι) (b : β) :
    tally p (Function.update f i b) + (p (f i)).toNat = tally p f + (p b).toNat := by
  have hrest : ∑ j ∈ Finset.univ.erase i, (p (Function.update f i b j)).toNat =
      ∑ j ∈ Finset.univ.erase i, (p (f j)).toNat :=
    Finset.sum_congr rfl fun j hj => by
      rw [Function.update_of_ne (Finset.ne_of_mem_erase hj)]
  have hnew := Finset.add_sum_erase Finset.univ
    (fun j => (p (Function.update f i b j)).toNat) (Finset.mem_univ i)
  have hold := Finset.add_sum_erase Finset.univ
    (fun j => (p (f j)).toNat) (Finset.mem_univ i)
  simp only [Function.update_self] at hnew
  unfold tally
  omega

section Update

variable [DecidableEq ι] {p : β → Bool} {f : ι → β} {i : ι} {b c : β}

/-- A member that is counted after the change exactly when it was before does not move the
tally. -/
lemma tally_update_of_eq (hf : f i = b) (hp : p c = p b) :
    tally p (Function.update f i c) = tally p f := by
  have h := tally_update p f i c
  rw [hf, hp] at h
  omega

/-- A member that is counted from now on. -/
lemma tally_update_enter (hf : f i = b) (hb : p b = false) (hc : p c = true) :
    tally p (Function.update f i c) = tally p f + 1 := by
  have h := tally_update p f i c
  rw [hf, hb, hc, Bool.toNat_false, Bool.toNat_true] at h
  omega

/-- A member that is no longer counted. -/
lemma tally_update_leave (hf : f i = b) (hb : p b = true) (hc : p c = false) :
    tally p f = tally p (Function.update f i c) + 1 := by
  have h := tally_update p f i c
  rw [hf, hb, hc, Bool.toNat_false, Bool.toNat_true] at h
  omega

end Update

/-- Two members of the family are counted together: a tally over two disjoint conditions. -/
lemma tally_add {p q r : β → Bool} (f : ι → β)
    (h : ∀ b, (p b).toNat + (q b).toNat = (r b).toNat) :
    tally p f + tally q f = tally r f := by
  simp only [tally, ← Finset.sum_add_distrib, h]

end SystemsDemos
