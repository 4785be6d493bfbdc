import Mathlib.Data.List.Basic
import Mathlib.Data.List.Infix
import Mathlib.Data.List.TakeWhile

/-!
# Pieces of a list

A list is cut in front of every separator.  A pattern that begins with a separator occurs in a list
exactly where its pieces stand side by side among the pieces of the list, all but the last one
whole; so occurrences of such a pattern do not overlap, and searching on behind each occurrence
counts all of them.

### Outline

* `joined` and `BeginsWith`;
* `pieces`, and the occurrences of a pattern (`infix_iff_beginsWith`);
* `findText`, `countText`, and the number of occurrences (`countText_eq_countP`).
-/

namespace SystemsDemos

variable {α : Type*} {sep : α}

/-! ### Joining -/

/-- Pieces, each behind a separator. -/
def joined (sep : α) (ps : List (List α)) : List α := ps.flatMap (sep :: ·)

@[simp] lemma joined_nil : joined sep [] = [] := rfl

@[simp] lemma joined_cons (p : List α) (ps : List (List α)) :
    joined sep (p :: ps) = sep :: (p ++ joined sep ps) := rfl

/-- The pieces begin with the given ones, of which the last may be longer. -/
def BeginsWith : List (List α) → List (List α) → Prop
  | [], _ => True
  | _ :: _, [] => False
  | w :: ws, t :: ts => if ws = [] then w <+: t else w = t ∧ BeginsWith ws ts

/-- A prefix is compared up to the first separator, and then behind it. -/
lemma append_joined_prefix_iff {w t : List α} {ws ts : List (List α)} (hw : sep ∉ w)
    (ht : sep ∉ t) :
    w ++ joined sep ws <+: t ++ joined sep ts ↔
      if ws = [] then w <+: t else w = t ∧ joined sep ws <+: joined sep ts := by
  induction w generalizing t with
  | nil =>
    cases ws with
    | nil => simp
    | cons w' ws =>
      cases t with
      | nil => simp
      | cons c t =>
        rw [List.mem_cons, not_or] at ht
        simp [List.cons_prefix_cons, ht.1]
  | cons a w ih =>
    rw [List.mem_cons, not_or] at hw
    cases t with
    | nil =>
      cases ts with
      | nil => simp
      | cons t' ts => simp [List.cons_prefix_cons, Ne.symm hw.1]
    | cons c t =>
      rw [List.mem_cons, not_or] at ht
      rw [List.cons_append, List.cons_append, List.cons_prefix_cons, ih hw.2 ht.2]
      by_cases hws : ws = []
      · simp [hws, List.cons_prefix_cons]
      · simp [hws, and_assoc]

/-- Pieces are a prefix of others when these begin with them. -/
lemma joined_prefix_iff {ws ts : List (List α)} (hws : ∀ w ∈ ws, sep ∉ w)
    (hts : ∀ t ∈ ts, sep ∉ t) : joined sep ws <+: joined sep ts ↔ BeginsWith ws ts := by
  induction ws generalizing ts with
  | nil => simp [BeginsWith]
  | cons w ws ih =>
    cases ts with
    | nil => simp [BeginsWith]
    | cons t ts =>
      have hrest := @ih ts (fun w' hw' => hws w' (List.mem_cons_of_mem _ hw'))
        fun t' ht' => hts t' (List.mem_cons_of_mem _ ht')
      rw [joined_cons, joined_cons, List.cons_prefix_cons, eq_self_iff_true, true_and,
        append_joined_prefix_iff (hws w List.mem_cons_self) (hts t List.mem_cons_self), hrest,
        BeginsWith]

/-! ### Cutting -/

variable [DecidableEq α]

instance : ∀ ws ts : List (List α), Decidable (BeginsWith ws ts)
  | [], _ => inferInstanceAs (Decidable True)
  | _ :: _, [] => inferInstanceAs (Decidable False)
  | w :: ws, t :: ts =>
      have : Decidable (BeginsWith ws ts) := instDecidableBeginsWith ws ts
      inferInstanceAs (Decidable (if ws = [] then w <+: t else w = t ∧ BeginsWith ws ts))

/-- What stands behind each separator, up to the next one. -/
def pieces (sep : α) : List α → List (List α)
  | [] => []
  | c :: cs => if c = sep then cs.takeWhile (· ≠ sep) :: pieces sep cs else pieces sep cs

@[simp] lemma pieces_nil : pieces sep [] = [] := rfl

lemma pieces_sep (cs : List α) :
    pieces sep (sep :: cs) = cs.takeWhile (· ≠ sep) :: pieces sep cs := if_pos rfl

lemma pieces_of_ne {c : α} (h : c ≠ sep) (cs : List α) : pieces sep (c :: cs) = pieces sep cs :=
  if_neg h

/-- A list is what stands in front of the first separator, followed by its pieces. -/
lemma takeWhile_append_joined (l : List α) :
    l.takeWhile (· ≠ sep) ++ joined sep (pieces sep l) = l := by
  induction l with
  | nil => rfl
  | cons c cs ih =>
    by_cases hc : c = sep
    · subst hc
      rw [pieces_sep, joined_cons, ih]
      simp
    · rw [pieces_of_ne hc, List.takeWhile_cons_of_pos (by simpa using hc), List.cons_append, ih]

/-- A list that begins with a separator is its pieces. -/
lemma joined_pieces_sep (cs : List α) : joined sep (pieces sep (sep :: cs)) = sep :: cs := by
  rw [pieces_sep, joined_cons, takeWhile_append_joined]

/-- What stands in front of the first separator is in no piece. -/
lemma pieces_append {l : List α} (h : sep ∉ l) (l' : List α) :
    pieces sep (l ++ l') = pieces sep l' := by
  induction l with
  | nil => rfl
  | cons c cs ih =>
    rw [List.mem_cons, not_or] at h
    rw [List.cons_append, pieces_of_ne (Ne.symm h.1), ih h.2]

/-- There is no separator in a piece. -/
lemma sep_notMem_of_mem_pieces {l p : List α} (h : p ∈ pieces sep l) : sep ∉ p := by
  induction l with
  | nil => cases h
  | cons c cs ih =>
    by_cases hc : c = sep
    · subst hc
      rw [pieces_sep, List.mem_cons] at h
      rcases h with rfl | h
      · intro hmem
        simpa using List.mem_takeWhile_imp hmem
      · exact ih h
    · rw [pieces_of_ne hc] at h
      exact ih h

/-- Joining and cutting again. -/
lemma pieces_joined {ps : List (List α)} (h : ∀ p ∈ ps, sep ∉ p) :
    pieces sep (joined sep ps) = ps := by
  induction ps with
  | nil => rfl
  | cons p ps ih =>
    have hp : sep ∉ p := h p List.mem_cons_self
    have hps := ih fun p' hp' => h p' (List.mem_cons_of_mem _ hp')
    have htake : (p ++ joined sep ps).takeWhile (· ≠ sep) = p := by
      have hall : ∀ c ∈ p, decide (c ≠ sep) = true := by
        rintro c hc
        simpa using ne_of_mem_of_not_mem hc hp
      rw [List.takeWhile_append_of_pos hall]
      cases ps with
      | nil => simp
      | cons p' ps => simp
    rw [joined_cons, pieces_sep, htake, pieces_append hp, hps]

/-! ### Occurrences -/

/-- A pattern is a prefix of a list behind a separator. -/
lemma prefix_sep_iff {pattern : List α} (cs : List α) :
    sep :: pattern <+: sep :: cs ↔
      BeginsWith (pieces sep (sep :: pattern)) (pieces sep (sep :: cs)) := by
  have hpattern : ∀ w ∈ pieces sep (sep :: pattern), sep ∉ w := fun _ =>
    sep_notMem_of_mem_pieces
  have hlist : ∀ t ∈ pieces sep (sep :: cs), sep ∉ t := fun _ => sep_notMem_of_mem_pieces
  rw [← joined_prefix_iff hpattern hlist, joined_pieces_sep, joined_pieces_sep]

/-- **A pattern occurs where its pieces stand side by side.** -/
theorem infix_iff_beginsWith {pattern l : List α} :
    sep :: pattern <:+: l ↔
      ∃ ts, ts <:+ pieces sep l ∧ BeginsWith (pieces sep (sep :: pattern)) ts := by
  have hnone : ¬BeginsWith (pieces sep (sep :: pattern)) [] := by
    rw [pieces_sep]
    exact id
  induction l with
  | nil =>
    simp only [List.infix_nil, reduceCtorEq, pieces_nil, List.suffix_nil, false_iff]
    rintro ⟨ts, rfl, hts⟩
    exact hnone hts
  | cons c cs ih =>
    refine (List.infix_cons_iff.trans (or_congr_right ih)).trans ?_
    by_cases hc : c = sep
    · subst hc
      rw [prefix_sep_iff, pieces_sep cs]
      constructor
      · rintro (hhere | ⟨ts, hts, hlater⟩)
        · exact ⟨_, List.suffix_refl _, hhere⟩
        · exact ⟨ts, hts.trans (List.suffix_cons _ _), hlater⟩
      · rintro ⟨ts, hts, hbegins⟩
        rcases List.suffix_cons_iff.mp hts with rfl | hts
        · exact .inl hbegins
        · exact .inr ⟨ts, hts, hbegins⟩
    · rw [pieces_of_ne hc, List.cons_prefix_cons]
      exact or_iff_right fun h => hc h.1.symm

/-- A pattern with a single separator occurs where a piece begins with what is behind it. -/
theorem infix_iff_exists_piece {w l : List α} (hw : sep ∉ w) :
    sep :: w <:+: l ↔ ∃ p ∈ pieces sep l, w <+: p := by
  have hpieces : pieces sep (sep :: w) = [w] := by
    have hjoined : sep :: w = joined sep [w] := by simp
    rw [hjoined, pieces_joined (by simpa using hw)]
  rw [infix_iff_beginsWith, hpieces]
  constructor
  · rintro ⟨ts, hts, hbegins⟩
    cases ts with
    | nil => exact hbegins.elim
    | cons t ts => exact ⟨t, hts.subset List.mem_cons_self, by simpa [BeginsWith] using hbegins⟩
  · rintro ⟨p, hp, hpre⟩
    obtain ⟨us, vs, hsplit⟩ := List.append_of_mem hp
    exact ⟨p :: vs, ⟨us, hsplit.symm⟩, by simpa [BeginsWith] using hpre⟩

/-! ### Searching on behind each occurrence -/

/-- The position of the first occurrence. -/
def findText (needle : List α) : List α → Option ℕ
  | [] => if needle = [] then some 0 else none
  | c :: cs => if needle <+: c :: cs then some 0 else (findText needle cs).map (· + 1)

/-- The number of times the search succeeds, when it goes on behind each occurrence. -/
def countText (needle : List α) : ℕ → List α → ℕ
  | 0, _ => 0
  | fuel + 1, l =>
      match findText needle l with
      | none => 0
      | some i => countText needle fuel (l.drop (i + needle.length)) + 1

/-- The search succeeds when there is an occurrence. -/
lemma isSome_findText {needle l : List α} : (findText needle l).isSome ↔ needle <:+: l := by
  induction l with
  | nil =>
    rw [findText, List.infix_nil]
    by_cases hneedle : needle = [] <;> simp [hneedle]
  | cons c cs ih =>
    rw [findText, List.infix_cons_iff]
    by_cases hpre : needle <+: c :: cs
    · simp [hpre]
    · rw [if_neg hpre, Option.isSome_map, ih]
      exact (or_iff_right hpre).symm

/-- What the search has passed has no piece that begins with the pattern, and where it stops there
is one. -/
lemma pieces_of_findText {w l : List α} {i : ℕ} (hw : sep ∉ w)
    (h : findText (sep :: w) l = some i) :
    ∃ p, w <+: p ∧ (pieces sep l).countP (fun p => decide (w <+: p)) =
      ((p :: pieces sep (l.drop (i + (sep :: w).length))).countP fun p => decide (w <+: p)) := by
  induction l generalizing i with
  | nil => simp [findText] at h
  | cons c cs ih =>
    rw [findText] at h
    by_cases hpre : sep :: w <+: c :: cs
    · rw [if_pos hpre] at h
      obtain rfl := Option.some.inj h
      obtain ⟨rest, hrest⟩ := hpre
      obtain ⟨rfl, hcs⟩ := List.cons.inj hrest
      obtain rfl : w ++ rest = cs := hcs
      have hbehind : ((sep :: (w ++ rest)).drop (0 + (sep :: w).length)) = rest := by simp
      refine ⟨(w ++ rest).takeWhile (· ≠ sep), ?_, ?_⟩
      · have hall : ∀ a ∈ w, decide (a ≠ sep) = true := by
          rintro a ha
          simpa using ne_of_mem_of_not_mem ha hw
        rw [List.takeWhile_append_of_pos hall]
        exact List.prefix_append _ _
      · rw [hbehind, pieces_sep, pieces_append hw]
    · rw [if_neg hpre] at h
      obtain ⟨j, hj, rfl⟩ := Option.map_eq_some_iff.mp h
      obtain ⟨p, hp, hcount⟩ := ih hj
      refine ⟨p, hp, ?_⟩
      have hdrop :
          (c :: cs).drop (j + 1 + (sep :: w).length) = cs.drop (j + (sep :: w).length) := by
        rw [Nat.add_right_comm, List.drop_succ_cons]
      rw [hdrop, ← hcount]
      by_cases hc : c = sep
      · subst hc
        have hnot : ¬w <+: cs.takeWhile (· ≠ c) := by
          intro hwhole
          exact hpre (List.cons_prefix_cons.mpr
            ⟨rfl, hwhole.trans (List.takeWhile_prefix _)⟩)
        rw [pieces_sep, List.countP_cons_of_neg (by simpa using hnot)]
      · rw [pieces_of_ne hc]

/-- **All occurrences are counted.** -/
theorem countText_eq_countP {w : List α} (hw : sep ∉ w) {fuel : ℕ} {l : List α}
    (hfuel : l.length < fuel) :
    countText (sep :: w) fuel l = (pieces sep l).countP fun p => decide (w <+: p) := by
  induction fuel generalizing l with
  | zero => omega
  | succ fuel ih =>
    rw [countText]
    cases hfind : findText (sep :: w) l with
    | none =>
      have hnone : ¬sep :: w <:+: l := by
        rw [← isSome_findText, hfind]
        simp
      rw [infix_iff_exists_piece hw] at hnone
      refine (List.countP_eq_zero.mpr fun p hp => ?_).symm
      simpa using fun hpre => hnone ⟨p, hp, hpre⟩
    | some i =>
      obtain ⟨p, hp, hcount⟩ := pieces_of_findText hw hfind
      have hl : l ≠ [] := by
        rintro rfl
        simp [findText] at hfind
      have hpos := List.length_pos_iff.mpr hl
      rw [hcount, List.countP_cons_of_pos (by simpa using hp)]
      simp only
      rw [ih (by simp only [List.length_drop, List.length_cons]; omega)]

end SystemsDemos
