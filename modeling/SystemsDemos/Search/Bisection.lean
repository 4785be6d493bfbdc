import Mathlib.Order.Basic
import Mathlib.Data.Int.Order.Basic

/-!
# Bisection

A search for the first place from `0` to `last` that is not `below`, where the last place is taken
when there is none.  The places that come into question are kept in a `Bracket`; a look at a place
inside of it narrows it from the left or from the right, the place that is searched for stays in it
(`Bracket.mem`), and when one place is left it is this one (`Bracket.first`).
-/

namespace SystemsDemos

/-- The places from `lo` to `hi` come into question: those before are below, and `hi` is not,
unless it is the last one. -/
structure Bracket (below : ℤ → Prop) (last lo hi : ℤ) : Prop where
  nonneg : 0 ≤ lo
  ordered : lo ≤ hi
  inside : hi ≤ last
  before : ∀ j, 0 ≤ j → j < lo → below j
  stop : hi = last ∨ ¬below hi

/-- What lies in front of a place below is below. -/
def DownTo (below : ℤ → Prop) : Prop := ∀ i j, 0 ≤ i → i ≤ j → below j → below i

variable {below : ℤ → Prop} {last lo hi mid i : ℤ}

/-- In the beginning all places come into question. -/
lemma Bracket.whole (h : 0 ≤ last) : Bracket below last 0 last where
  nonneg := le_refl _
  ordered := h
  inside := le_refl _
  before _ hj hneg := absurd hj (not_le_of_gt hneg)
  stop := .inl rfl

/-- The middle of two places lies between them, and is not the right one. -/
lemma Bracket.middle (h : Bracket below last lo hi) (hlt : lo < hi) :
    lo ≤ (lo + hi).tdiv 2 ∧ (lo + hi).tdiv 2 < hi := by
  have hnonneg := h.nonneg
  rw [Int.tdiv_eq_ediv_of_nonneg (by omega)]
  omega

/-- A place that is below narrows the bracket from the left. -/
lemma Bracket.right (h : Bracket below last lo hi) (hdown : DownTo below) (hlo : lo ≤ mid)
    (hhi : mid < hi) (hmid : below mid) : Bracket below last (mid + 1) hi where
  nonneg := le_trans h.nonneg (le_trans hlo (by omega))
  ordered := hhi
  inside := h.inside
  before j hj hlt := hdown j mid hj (Int.lt_add_one_iff.mp hlt) hmid
  stop := h.stop

/-- A place that is not below narrows the bracket from the right. -/
lemma Bracket.left (h : Bracket below last lo hi) (hlo : lo ≤ mid) (hhi : mid < hi)
    (hmid : ¬below mid) : Bracket below last lo mid where
  nonneg := h.nonneg
  ordered := hlo
  inside := le_trans (le_of_lt hhi) h.inside
  before := h.before
  stop := .inr hmid

/-- The place that is searched for comes into question. -/
lemma Bracket.mem (h : Bracket below last lo hi) (hi' : Bracket below last i i) :
    lo ≤ i ∧ i ≤ hi := by
  have hinside := h.inside
  have hordered := h.ordered
  constructor
  · by_contra hless
    have hbelow := h.before i hi'.nonneg (not_le.mp hless)
    have hlast := hi'.stop.resolve_right (not_not_intro hbelow)
    omega
  · by_contra hmore
    have hbelow := hi'.before hi (le_trans h.nonneg hordered) (not_le.mp hmore)
    have hlast := h.stop.resolve_right (not_not_intro hbelow)
    have hend := hi'.inside
    omega

/-- There is one place that is searched for. -/
lemma Bracket.unique {j : ℤ} (hi : Bracket below last i i) (hj : Bracket below last j j) :
    i = j :=
  le_antisymm (hj.mem hi).2 (hj.mem hi).1

/-- The one place that is left is the first one that is not below, or the last one and all are
below. -/
lemma Bracket.first (h : Bracket below last i i) :
    (∀ j, 0 ≤ j → j < i → below j) ∧ (¬below i ∨ i = last ∧ ∀ j, 0 ≤ j → j ≤ last → below j) := by
  refine ⟨h.before, ?_⟩
  by_cases hi : below i
  · have hlast : i = last := h.stop.resolve_right (not_not_intro hi)
    refine .inr ⟨hlast, fun j hj hle => ?_⟩
    rcases lt_or_eq_of_le (hlast ▸ hle : j ≤ i) with hlt | rfl
    · exact h.before j hj hlt
    · exact hi
  · exact .inl hi

end SystemsDemos
