import Mathlib.Data.List.Nodup

/-!
# Resources with one owner

Names that each hold at most one resource.  A resource is opened for a name, passed from one name
to another, and closed when its holder releases it.  `Holdings.Linear` says that no two names hold
one resource and that the resources closed are exactly those opened that nobody holds; the three
operations keep it, passing only if the new holder has nothing to lose.
-/

namespace SystemsDemos

/-- What each name holds, and the resources opened and closed so far. -/
@[ext]
structure Holdings (γ ρ : Type*) where
  holds : γ → Option ρ
  opened : List ρ
  closed : List ρ

namespace Holdings

variable {γ ρ : Type*}

/-- Every resource has at most one holder, and it is closed once nobody holds it. -/
structure Linear (h : Holdings γ ρ) : Prop where
  unique : ∀ {g g' r}, h.holds g = some r → h.holds g' = some r → g = g'
  opened_of_holds : ∀ {g r}, h.holds g = some r → r ∈ h.opened
  not_closed : ∀ {g r}, h.holds g = some r → r ∉ h.closed
  opened_of_closed : ∀ {r}, r ∈ h.closed → r ∈ h.opened
  closed_of_opened : ∀ {r}, r ∈ h.opened → (∀ g, h.holds g ≠ some r) → r ∈ h.closed
  nodup_opened : h.opened.Nodup
  nodup_closed : h.closed.Nodup

variable {h : Holdings γ ρ} {g other : γ} {r : ρ}

/-- At the start nothing is held, opened or closed. -/
lemma linear_empty : Linear (⟨fun _ => none, [], []⟩ : Holdings γ ρ) where
  unique h := by cases h
  opened_of_holds h := by cases h
  not_closed h := by cases h
  opened_of_closed h := by cases h
  closed_of_opened h := by cases h
  nodup_opened := List.nodup_nil
  nodup_closed := List.nodup_nil

namespace Linear

variable [DecidableEq ρ]

/-- No resource is closed twice. -/
lemma count_closed_le (hl : h.Linear) (r : ρ) : h.closed.count r ≤ 1 :=
  List.nodup_iff_count_le_one.mp hl.nodup_closed r

/-- A resource that nobody holds has been closed once. -/
lemma count_closed (hl : h.Linear) (hopened : r ∈ h.opened) (hfree : ∀ g, h.holds g ≠ some r) :
    h.closed.count r = 1 :=
  List.count_eq_one_of_mem hl.nodup_closed (hl.closed_of_opened hopened hfree)

end Linear

variable [DecidableEq γ]

/-! ### The operations -/

/-- A resource is opened for a name. -/
def acquire (h : Holdings γ ρ) (g : γ) (r : ρ) : Holdings γ ρ :=
  ⟨Function.update h.holds g (some r), h.opened ++ [r], h.closed⟩

/-- What a name holds is closed. -/
def release (h : Holdings γ ρ) (g : γ) : Holdings γ ρ :=
  ⟨Function.update h.holds g none, h.opened, h.closed ++ (h.holds g).toList⟩

/-- A name takes over what another name holds. -/
def pass (h : Holdings γ ρ) (g other : γ) : Holdings γ ρ :=
  ⟨Function.update (Function.update h.holds other none) g (h.holds other), h.opened, h.closed⟩

/-! ### Who holds what afterwards -/

lemma holds_acquire {g' : γ} {r' : ρ} :
    (h.acquire g r).holds g' = some r' ↔
      (g' = g ∧ r = r') ∨ (g' ≠ g ∧ h.holds g' = some r') := by
  by_cases hg : g' = g
  · simp [acquire, hg]
  · simp [acquire, hg]

lemma holds_release {g' : γ} {r' : ρ} :
    (h.release g).holds g' = some r' ↔ g' ≠ g ∧ h.holds g' = some r' := by
  by_cases hg : g' = g
  · simp [release, hg]
  · simp [release, hg]

lemma holds_pass (hne : g ≠ other) {g' : γ} {r' : ρ} :
    (h.pass g other).holds g' = some r' ↔
      (g' = g ∧ h.holds other = some r') ∨
        (g' ≠ g ∧ g' ≠ other ∧ h.holds g' = some r') := by
  by_cases hg : g' = g
  · simp [pass, hg]
  · by_cases hother : g' = other
    · simp [pass, hother, hne.symm]
    · simp [pass, hg, hother]

/-! ### The operations keep linearity -/

namespace Linear

/-- Opening a new resource for a name that holds nothing. -/
theorem acquire (hl : h.Linear) (hnone : h.holds g = none) (hnew : r ∉ h.opened) :
    (h.acquire g r).Linear where
  unique {g₁ g₂ r'} h₁ h₂ := by
    rcases holds_acquire.mp h₁ with ⟨rfl, rfl⟩ | ⟨-, h₁⟩
    · rcases holds_acquire.mp h₂ with ⟨rfl, -⟩ | ⟨-, h₂⟩
      · rfl
      · exact (hnew (hl.opened_of_holds h₂)).elim
    · rcases holds_acquire.mp h₂ with ⟨-, rfl⟩ | ⟨-, h₂⟩
      · exact (hnew (hl.opened_of_holds h₁)).elim
      · exact hl.unique h₁ h₂
  opened_of_holds {g' r'} hheld := by
    rcases holds_acquire.mp hheld with ⟨-, rfl⟩ | ⟨-, hheld⟩
    · exact List.mem_append_right _ (List.mem_singleton_self _)
    · exact List.mem_append_left _ (hl.opened_of_holds hheld)
  not_closed {g' r'} hheld hclosed := by
    rcases holds_acquire.mp hheld with ⟨-, rfl⟩ | ⟨-, hheld⟩
    · exact hnew (hl.opened_of_closed hclosed)
    · exact hl.not_closed hheld hclosed
  opened_of_closed hclosed := List.mem_append_left _ (hl.opened_of_closed hclosed)
  closed_of_opened {r'} hopened hfree := by
    rcases List.mem_append.mp hopened with hopened | hopened
    · refine hl.closed_of_opened hopened fun g' hheld => ?_
      have hg : g' ≠ g := by
        rintro rfl
        rw [hnone] at hheld
        cases hheld
      exact hfree g' (holds_acquire.mpr (.inr ⟨hg, hheld⟩))
    · have hr : r = r' := (List.mem_singleton.mp hopened).symm
      exact (hfree g (holds_acquire.mpr (.inl ⟨rfl, hr⟩))).elim
  nodup_opened := by
    rw [Holdings.acquire, List.nodup_append_comm]
    exact List.nodup_cons.mpr ⟨hnew, hl.nodup_opened⟩
  nodup_closed := hl.nodup_closed

/-- Closing what a name holds. -/
theorem release (hl : h.Linear) (g : γ) : (h.release g).Linear where
  unique h₁ h₂ := hl.unique (holds_release.mp h₁).2 (holds_release.mp h₂).2
  opened_of_holds hheld := hl.opened_of_holds (holds_release.mp hheld).2
  not_closed {g' r'} hheld hclosed := by
    obtain ⟨hg, hheld⟩ := holds_release.mp hheld
    rcases List.mem_append.mp hclosed with hclosed | hclosed
    · exact hl.not_closed hheld hclosed
    · exact hg (hl.unique hheld (Option.mem_toList.mp hclosed))
  opened_of_closed {r'} hclosed := by
    rcases List.mem_append.mp hclosed with hclosed | hclosed
    · exact hl.opened_of_closed hclosed
    · exact hl.opened_of_holds (Option.mem_toList.mp hclosed)
  closed_of_opened {r'} hopened hfree := by
    by_cases hheld : h.holds g = some r'
    · exact List.mem_append_right _ (Option.mem_toList.mpr hheld)
    · refine List.mem_append_left _ (hl.closed_of_opened hopened fun g' hheld' => ?_)
      have hg : g' ≠ g := by
        rintro rfl
        exact hheld hheld'
      exact hfree g' (holds_release.mpr ⟨hg, hheld'⟩)
  nodup_opened := hl.nodup_opened
  nodup_closed := by
    have hdisjoint : h.closed.Disjoint (h.holds g).toList := fun r hclosed hheld =>
      hl.not_closed (Option.mem_toList.mp hheld) hclosed
    exact hl.nodup_closed.append (by cases h.holds g <;> simp) hdisjoint

/-- Passing a resource on to a name that holds nothing. -/
theorem pass (hl : h.Linear) (hnone : h.holds g = none) (hne : g ≠ other) :
    (h.pass g other).Linear where
  unique {g₁ g₂ r'} h₁ h₂ := by
    rcases (holds_pass hne).mp h₁ with ⟨rfl, hheld₁⟩ | ⟨-, hg₁, hheld₁⟩
    · rcases (holds_pass hne).mp h₂ with ⟨rfl, -⟩ | ⟨-, hg₂, hheld₂⟩
      · rfl
      · exact (hg₂ (hl.unique hheld₂ hheld₁)).elim
    · rcases (holds_pass hne).mp h₂ with ⟨-, hheld₂⟩ | ⟨-, -, hheld₂⟩
      · exact (hg₁ (hl.unique hheld₁ hheld₂)).elim
      · exact hl.unique hheld₁ hheld₂
  opened_of_holds {g' r'} hheld := by
    rcases (holds_pass hne).mp hheld with ⟨-, hheld⟩ | ⟨-, -, hheld⟩
    · exact hl.opened_of_holds hheld
    · exact hl.opened_of_holds hheld
  not_closed {g' r'} hheld := by
    rcases (holds_pass hne).mp hheld with ⟨-, hheld⟩ | ⟨-, -, hheld⟩
    · exact hl.not_closed hheld
    · exact hl.not_closed hheld
  opened_of_closed hclosed := hl.opened_of_closed hclosed
  closed_of_opened {r'} hopened hfree := by
    refine hl.closed_of_opened hopened fun g' hheld => ?_
    have hg : g' ≠ g := by
      rintro rfl
      rw [hnone] at hheld
      cases hheld
    by_cases hother : g' = other
    · exact hfree g ((holds_pass hne).mpr (.inl ⟨rfl, hother ▸ hheld⟩))
    · exact hfree g' ((holds_pass hne).mpr (.inr ⟨hg, hother, hheld⟩))
  nodup_opened := hl.nodup_opened
  nodup_closed := hl.nodup_closed

end Linear

end Holdings

end SystemsDemos
