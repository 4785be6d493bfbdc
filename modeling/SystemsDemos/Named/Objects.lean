import Mathlib.Data.Nat.Notation
import Mathlib.Logic.Function.Basic

/-!
# Objects with names

Objects that are found by name and used by identity, as a kernel keeps them: unlinking a name
leaves the object to those who have it open, and a name that is bound again stands for another
object.
-/

namespace SystemsDemos

variable {ν α : Type*}

/-- Objects of type `α`, some of which have names.  Two names never stand for one object, and the
objects from `fresh` on have not been created. -/
structure NamedObjects (ν α : Type*) where
  bound : ν → Option ℕ
  object : ℕ → α
  fresh : ℕ
  bound_lt : ∀ n i, bound n = some i → i < fresh
  bound_inj : ∀ m n i, bound m = some i → bound n = some i → m = n

namespace NamedObjects

variable (k : NamedObjects ν α)

/-- Changing the object `i`. -/
def set (i : ℕ) (x : α) : NamedObjects ν α :=
  { k with object := Function.update k.object i x }

@[simp] lemma bound_set (i : ℕ) (x : α) : (k.set i x).bound = k.bound := rfl

@[simp] lemma object_set (i : ℕ) (x : α) : (k.set i x).object i = x := Function.update_self ..

lemma object_set_of_ne {i j : ℕ} (h : j ≠ i) (x : α) : (k.set i x).object j = k.object j :=
  Function.update_of_ne h ..

variable [DecidableEq ν]

/-- Removing a name. -/
def unlink (n : ν) : NamedObjects ν α where
  bound := Function.update k.bound n none
  object := k.object
  fresh := k.fresh
  bound_lt := by
    intro m i h
    by_cases hm : m = n
    · rw [hm, Function.update_self] at h
      cases h
    · rw [Function.update_of_ne hm] at h
      exact k.bound_lt m i h
  bound_inj := by
    intro m m' i h h'
    by_cases hm : m = n
    · rw [hm, Function.update_self] at h
      cases h
    · by_cases hm' : m' = n
      · rw [hm', Function.update_self] at h'
        cases h'
      · rw [Function.update_of_ne hm] at h
        rw [Function.update_of_ne hm'] at h'
        exact k.bound_inj m m' i h h'

@[simp] lemma bound_unlink (n : ν) : (k.unlink n).bound n = none := Function.update_self ..

lemma bound_unlink_of_ne {m n : ν} (h : m ≠ n) : (k.unlink n).bound m = k.bound m :=
  Function.update_of_ne h ..

@[simp] lemma object_unlink (n : ν) : (k.unlink n).object = k.object := rfl

/-- A new object under a name. -/
def bind (n : ν) (x : α) : NamedObjects ν α where
  bound := Function.update k.bound n (some k.fresh)
  object := Function.update k.object k.fresh x
  fresh := k.fresh + 1
  bound_lt := by
    intro m i h
    by_cases hm : m = n
    · rw [hm, Function.update_self] at h
      obtain rfl := Option.some.inj h
      exact Nat.lt_succ_self _
    · rw [Function.update_of_ne hm] at h
      exact Nat.lt_succ_of_lt (k.bound_lt m i h)
  bound_inj := by
    have hfresh {m : ν} (h : k.bound m = some k.fresh) : False :=
      Nat.lt_irrefl _ (k.bound_lt m _ h)
    intro m m' i h h'
    by_cases hm : m = n
    · by_cases hm' : m' = n
      · rw [hm, hm']
      · rw [hm, Function.update_self] at h
        rw [Function.update_of_ne hm', ← Option.some.inj h] at h'
        exact (hfresh h').elim
    · rw [Function.update_of_ne hm] at h
      by_cases hm' : m' = n
      · rw [hm', Function.update_self] at h'
        rw [← Option.some.inj h'] at h
        exact (hfresh h).elim
      · rw [Function.update_of_ne hm'] at h'
        exact k.bound_inj m m' i h h'

/-- The object under a name, which is created if there is none. -/
def openCreate (n : ν) (x : α) : NamedObjects ν α × ℕ :=
  match k.bound n with
  | some i => (k, i)
  | none => (k.bind n x, k.fresh)

lemma openCreate_of_bound {n : ν} {i : ℕ} (h : k.bound n = some i) (x : α) :
    k.openCreate n x = (k, i) := by
  simp [openCreate, h]

lemma openCreate_of_unbound {n : ν} (h : k.bound n = none) (x : α) :
    k.openCreate n x = (k.bind n x, k.fresh) := by
  simp [openCreate, h]

@[simp] lemma bound_bind (n : ν) (x : α) : (k.bind n x).bound n = some k.fresh :=
  Function.update_self ..

lemma bound_bind_of_ne {m n : ν} (h : m ≠ n) (x : α) : (k.bind n x).bound m = k.bound m :=
  Function.update_of_ne h ..

@[simp] lemma object_bind (n : ν) (x : α) : (k.bind n x).object k.fresh = x :=
  Function.update_self ..

lemma object_bind_of_lt {i : ℕ} (h : i < k.fresh) (n : ν) (x : α) :
    (k.bind n x).object i = k.object i :=
  Function.update_of_ne (Nat.ne_of_lt h) ..

end NamedObjects

end SystemsDemos
