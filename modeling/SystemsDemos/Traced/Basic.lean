import Mathlib.Tactic.Lemma
import Mathlib.Data.Nat.Notation

/-!
# Traced computations

A `Traced` computation shows a list of events and then returns a value, throws an error, or has
used up its fuel; `whileLoop` is the only construct that uses fuel, one unit for each iteration.
A loop that has come to its end needs no fuel to notice it, so a computation that never ends is
one that runs out of fuel however much it is given.

Properties of a computation are composed here along its structure.  `Ends m` says that `m` comes
to an end, and `Shows p m` that all of its events satisfy `p`.  `Live bad m post` says that `m`
comes to an end with `post` unless it shows a bad event, with the usual rule of a decreasing
measure for loops; `Matched p q m` says that `m` shows an event of one kind exactly when it shows
one of another kind, and `Owes` is the part of it behind an event that announces another one.
`Guarded bad err m post` is about values and errors: unless `m` shows a bad event they satisfy
`post` and `err`.

### Outline

* `Traced`, its monad, and what the events and the result of a sequence are;
* `Control` and `whileLoop`;
* the rules for `Ends`, `Live`, `Shows`, `Matched`, `Owes` and `Guarded`.
-/

namespace SystemsDemos

variable {τ ε α β σ : Type}

/-- A computation with its events and its result, which is `none` when the fuel is used up. -/
structure Traced (τ ε α : Type) where
  events : List τ
  result : Option (Except ε α)

namespace Traced

/-- Running one computation after the other. -/
def andThen (m : Traced τ ε α) (f : α → Traced τ ε β) : Traced τ ε β :=
  match m.result with
  | none => ⟨m.events, none⟩
  | some (.error e) => ⟨m.events, some (.error e)⟩
  | some (.ok a) => ⟨m.events ++ (f a).events, (f a).result⟩

instance : Monad (Traced τ ε) where
  pure a := ⟨[], some (.ok a)⟩
  bind := andThen

/-- Throwing an error. -/
def fail (e : ε) : Traced τ ε α := ⟨[], some (.error e)⟩

/-- Showing an event. -/
def emit (event : τ) : Traced τ ε Unit := ⟨[event], some (.ok ())⟩

/-- The fuel is used up. -/
def outOfFuel : Traced τ ε α := ⟨[], none⟩

@[simp] lemma events_pure (a : α) : (pure a : Traced τ ε α).events = [] := rfl

@[simp] lemma result_pure (a : α) : (pure a : Traced τ ε α).result = some (.ok a) := rfl

@[simp] lemma events_fail (e : ε) : (fail e : Traced τ ε α).events = [] := rfl

@[simp] lemma result_fail (e : ε) : (fail e : Traced τ ε α).result = some (.error e) := rfl

@[simp] lemma events_emit (event : τ) : (emit event : Traced τ ε Unit).events = [event] := rfl

@[simp] lemma result_emit (event : τ) : (emit event : Traced τ ε Unit).result = some (.ok ()) := rfl

section Bind

variable {m : Traced τ ε α} {f : α → Traced τ ε β}

/-- After a value the second computation goes on. -/
lemma bind_of_ok {a : α} (h : m.result = some (.ok a)) :
    m >>= f = ⟨m.events ++ (f a).events, (f a).result⟩ := by
  change m.andThen f = _
  rw [andThen, h]

/-- After an error there is no second computation. -/
lemma bind_of_error {e : ε} (h : m.result = some (.error e)) :
    m >>= f = ⟨m.events, some (.error e)⟩ := by
  change m.andThen f = _
  rw [andThen, h]

/-- Without fuel there is no second computation. -/
lemma bind_of_none (h : m.result = none) : m >>= f = ⟨m.events, none⟩ := by
  change m.andThen f = _
  rw [andThen, h]

@[simp] lemma pure_bind (a : α) (f : α → Traced τ ε β) : pure a >>= f = f a := by
  simp [bind_of_ok (result_pure a)]

/-- The result of a sequence is the result of its second part, if that is reached. -/
lemma result_bind_of_ok {a : α} (h : m.result = some (.ok a)) :
    (m >>= f).result = (f a).result := by
  rw [bind_of_ok h]

/-- A sequence returns when both of its parts do. -/
lemma result_bind_eq_ok_iff {b : β} :
    (m >>= f).result = some (.ok b) ↔
      ∃ a, m.result = some (.ok a) ∧ (f a).result = some (.ok b) := by
  cases h : m.result with
  | none => simp [bind_of_none h]
  | some r =>
    cases r with
    | error e => simp [bind_of_error h]
    | ok a => simp [bind_of_ok h]

/-- The events of a sequence are those of its parts. -/
lemma mem_events_bind {event : τ} :
    event ∈ (m >>= f).events ↔
      event ∈ m.events ∨ ∃ a, m.result = some (.ok a) ∧ event ∈ (f a).events := by
  cases h : m.result with
  | none => simp [bind_of_none h]
  | some r =>
    cases r with
    | error e => simp [bind_of_error h]
    | ok a => simp [bind_of_ok h]

end Bind

/-! ### Loops -/

/-- How an iteration ends: with the state for the next one, or by returning from the loop. -/
inductive Control (σ α : Type)
  | next (s : σ)
  | done (a : α)

/-- `while (more) body`, followed by `exit`; an iteration can return. -/
def whileLoop (more : σ → Bool) (body : σ → Traced τ ε (Control σ α)) (exit : σ → α) :
    ℕ → σ → Traced τ ε α
  | 0, s => if more s then outOfFuel else pure (exit s)
  | fuel + 1, s =>
      if more s then
        body s >>= fun
          | .next s' => whileLoop more body exit fuel s'
          | .done a => pure a
      else pure (exit s)

section Loop

variable {more : σ → Bool} {body : σ → Traced τ ε (Control σ α)} {exit : σ → α}

/-- A loop that is at its end needs no fuel. -/
lemma whileLoop_of_not {s : σ} (h : more s = false) (fuel : ℕ) :
    whileLoop more body exit fuel s = pure (exit s) := by
  cases fuel <;> simp [whileLoop, h]

/-- The result of a loop that goes on after its first iteration. -/
lemma result_whileLoop_next {s s' : σ} (hmore : more s = true)
    (hbody : (body s).result = some (.ok (.next s'))) (fuel : ℕ) :
    (whileLoop more body exit (fuel + 1) s).result =
      (whileLoop more body exit fuel s').result := by
  rw [whileLoop, if_pos hmore, result_bind_of_ok hbody]

/-- The result of a loop that its first iteration leaves. -/
lemma result_whileLoop_done {s : σ} {a : α} (hmore : more s = true)
    (hbody : (body s).result = some (.ok (.done a))) (fuel : ℕ) :
    (whileLoop more body exit (fuel + 1) s).result = some (.ok a) := by
  rw [whileLoop, if_pos hmore, result_bind_of_ok hbody, result_pure]

end Loop

/-! ### Coming to an end -/

/-- `m` comes to an end. -/
def Ends (m : Traced τ ε α) : Prop := ∃ r, m.result = some r

namespace Ends

lemma pure (a : α) : (pure a : Traced τ ε α).Ends := ⟨_, rfl⟩

lemma fail (e : ε) : (fail e : Traced τ ε α).Ends := ⟨_, rfl⟩

lemma emit (event : τ) : (emit event : Traced τ ε Unit).Ends := ⟨_, rfl⟩

/-- One computation after the other. -/
lemma bind {m : Traced τ ε α} {f : α → Traced τ ε β} (hm : m.Ends) (hf : ∀ a, (f a).Ends) :
    (m >>= f).Ends := by
  obtain ⟨r, hr⟩ := hm
  cases r with
  | error e => exact ⟨.error e, by rw [bind_of_error hr]⟩
  | ok a =>
    obtain ⟨r, hr'⟩ := hf a
    exact ⟨r, by rw [result_bind_of_ok hr, hr']⟩

end Ends

/-- Unless `m` shows a bad event, it comes to an end, and a value it returns satisfies `post`. -/
def Live (bad : τ → Prop) (m : Traced τ ε α) (post : α → Prop) : Prop :=
  (∀ event ∈ m.events, ¬bad event) → ∃ r, m.result = some r ∧ ∀ a, r = .ok a → post a

namespace Live

variable {bad : τ → Prop} {post : α → Prop}

/-- A computation that comes to an end anyway. -/
lemma of_ends {m : Traced τ ε α} (h : m.Ends) (hpost : ∀ a, m.result = some (.ok a) → post a) :
    Live bad m post := by
  intro _
  obtain ⟨r, hr⟩ := h
  exact ⟨r, hr, fun a ha => hpost a (by rw [hr, ha])⟩

/-- Returning. -/
lemma of_pure {a : α} (h : post a) : Live (τ := τ) (ε := ε) bad (pure a) post :=
  of_ends (.pure a) fun _ hok => Except.ok.inj (Option.some.inj hok) ▸ h

/-- A weaker postcondition. -/
lemma mono {m : Traced τ ε α} {post' : α → Prop} (h : Live bad m post)
    (himp : ∀ a, post a → post' a) : Live bad m post' := by
  intro hevents
  obtain ⟨r, hr, hpost⟩ := h hevents
  exact ⟨r, hr, fun a ha => himp a (hpost a ha)⟩

/-- One computation after the other. -/
lemma bind {m : Traced τ ε α} {f : α → Traced τ ε β} {mid : α → Prop} {post : β → Prop}
    (hm : Live bad m mid) (hf : ∀ a, mid a → Live bad (f a) post) : Live bad (m >>= f) post := by
  intro hevents
  obtain ⟨r, hr, hmid⟩ :=
    hm fun event hevent => hevents event (mem_events_bind.mpr (Or.inl hevent))
  cases r with
  | error e => exact ⟨.error e, by rw [bind_of_error hr], fun b hb => by cases hb⟩
  | ok a =>
    rw [result_bind_of_ok hr]
    exact hf a (hmid a rfl) fun event hevent =>
      hevents event (mem_events_bind.mpr (Or.inr ⟨a, hr, hevent⟩))

/-- A loop whose iterations keep an invariant and decrease a measure. -/
lemma whileLoop {more : σ → Bool} {body : σ → Traced τ ε (Control σ α)} {exit : σ → α}
    (invariant : σ → Prop) (measure : σ → ℕ)
    (hmeasure : ∀ s, invariant s → more s = true → 0 < measure s)
    (hbody : ∀ s, invariant s → more s = true → Live bad (body s) fun
      | .next s' => invariant s' ∧ measure s' < measure s
      | .done a => post a)
    (hexit : ∀ s, invariant s → more s = false → post (exit s)) {fuel : ℕ} {s : σ}
    (hs : invariant s) (hfuel : measure s ≤ fuel) :
    Live bad (Traced.whileLoop more body exit fuel s) post := by
  induction fuel generalizing s with
  | zero =>
    cases hmore : more s with
    | false =>
      rw [whileLoop_of_not hmore]
      exact of_pure (hexit s hs hmore)
    | true => exact absurd (hmeasure s hs hmore) (by omega)
  | succ fuel ih =>
    cases hmore : more s with
    | false =>
      rw [whileLoop_of_not hmore]
      exact of_pure (hexit s hs hmore)
    | true =>
      rw [Traced.whileLoop, if_pos hmore]
      refine (hbody s hs hmore).bind ?_
      rintro (s' | a) hmid
      · exact ih hmid.1 (by have := hmid.2; omega)
      · exact of_pure hmid

end Live

/-! ### Events of one kind -/

/-- All events that `m` shows satisfy `p`. -/
def Shows (p : τ → Prop) (m : Traced τ ε α) : Prop := ∀ event ∈ m.events, p event

namespace Shows

variable {p : τ → Prop}

lemma pure (a : α) : Shows p (pure a : Traced τ ε α) := fun _ h => absurd h List.not_mem_nil

lemma fail (e : ε) : Shows p (fail e : Traced τ ε α) := fun _ h => absurd h List.not_mem_nil

lemma emit {event : τ} (h : p event) : Shows p (emit event : Traced τ ε Unit) :=
  fun _ hmem => List.mem_singleton.mp hmem ▸ h

/-- One computation after the other, where the second one knows what the first one returns. -/
lemma bind_of_ok {m : Traced τ ε α} {f : α → Traced τ ε β} (hm : Shows p m)
    (hf : ∀ a, m.result = some (.ok a) → Shows p (f a)) : Shows p (m >>= f) := by
  intro event hevent
  rcases mem_events_bind.mp hevent with h | ⟨a, ha, h⟩
  · exact hm event h
  · exact hf a ha event h

/-- One computation after the other. -/
lemma bind {m : Traced τ ε α} {f : α → Traced τ ε β} (hm : Shows p m)
    (hf : ∀ a, Shows p (f a)) : Shows p (m >>= f) :=
  hm.bind_of_ok fun a _ => hf a

/-- A loop. -/
lemma whileLoop {more : σ → Bool} {body : σ → Traced τ ε (Control σ α)} {exit : σ → α}
    (hbody : ∀ s, more s = true → Shows p (body s)) (fuel : ℕ) (s : σ) :
    Shows p (Traced.whileLoop more body exit fuel s) := by
  induction fuel generalizing s with
  | zero =>
    rw [Traced.whileLoop]
    split
    · exact fun _ h => absurd h List.not_mem_nil
    · exact .pure _
  | succ fuel ih =>
    cases hmore : more s with
    | false =>
      rw [whileLoop_of_not hmore]
      exact .pure _
    | true =>
      rw [Traced.whileLoop, if_pos hmore]
      refine (hbody s hmore).bind ?_
      rintro (s' | a)
      · exact ih s'
      · exact .pure _

end Shows

/-! ### Events that come together -/

/-- `m` shows an event with `p` exactly when it shows one with `q`. -/
def Matched (p q : τ → Prop) (m : Traced τ ε α) : Prop :=
  (∃ event ∈ m.events, p event) ↔ ∃ event ∈ m.events, q event

namespace Matched

variable {p q : τ → Prop}

/-- A computation that shows nothing of either kind. -/
lemma of_shows {m : Traced τ ε α} (h : Shows (fun event => ¬p event ∧ ¬q event) m) :
    Matched p q m := by
  constructor
  · rintro ⟨event, hevent, hp⟩
    exact absurd hp (h event hevent).1
  · rintro ⟨event, hevent, hq⟩
    exact absurd hq (h event hevent).2

/-- A computation that shows nothing at all. -/
lemma of_nil {m : Traced τ ε α} (h : m.events = []) : Matched p q m :=
  of_shows fun _ hevent => absurd (h ▸ hevent) List.not_mem_nil

/-- One computation after the other. -/
lemma bind {m : Traced τ ε α} {f : α → Traced τ ε β} (hm : Matched p q m)
    (hf : ∀ a, m.result = some (.ok a) → Matched p q (f a)) : Matched p q (m >>= f) := by
  cases h : m.result with
  | none =>
    rw [bind_of_none h]
    exact hm
  | some r =>
    cases r with
    | error e =>
      rw [bind_of_error h]
      exact hm
    | ok a =>
      have hpair := hf a h
      unfold Matched at hm hpair ⊢
      rw [bind_of_ok h]
      simp only [List.mem_append, or_and_right, exists_or, hm, hpair]

/-- A loop. -/
lemma whileLoop {more : σ → Bool} {body : σ → Traced τ ε (Control σ α)} {exit : σ → α}
    (hbody : ∀ s, more s = true → Matched p q (body s)) (fuel : ℕ) (s : σ) :
    Matched p q (Traced.whileLoop more body exit fuel s) := by
  induction fuel generalizing s with
  | zero =>
    rw [Traced.whileLoop]
    split
    · exact of_shows fun _ h => absurd h List.not_mem_nil
    · exact of_shows (.pure _)
  | succ fuel ih =>
    cases hmore : more s with
    | false =>
      rw [whileLoop_of_not hmore]
      exact of_shows (.pure _)
    | true =>
      rw [Traced.whileLoop, if_pos hmore]
      refine (hbody s hmore).bind ?_
      rintro (s' | a) -
      · exact ih s'
      · exact of_shows (.pure _)

end Matched

/-- `m` shows an event with `q` exactly when it shows one with `p`, or `due` says that it has one
with `q` to show. -/
def Owes (due : Prop) (p q : τ → Prop) (m : Traced τ ε α) : Prop :=
  (∃ event ∈ m.events, q event) ↔ due ∨ ∃ event ∈ m.events, p event

namespace Owes

variable {due : Prop} {p q : τ → Prop}

/-- A computation that has nothing to show. -/
lemma of_matched {m : Traced τ ε α} (h : Matched p q m) (hdue : ¬due) : Owes due p q m :=
  h.symm.trans (or_iff_right hdue).symm

/-- What is due is shown by the first computation. -/
lemma bind {m : Traced τ ε α} {f : α → Traced τ ε β} (hm : Owes due p q m)
    (hf : ∀ a, m.result = some (.ok a) → Matched p q (f a)) : Owes due p q (m >>= f) := by
  cases h : m.result with
  | none =>
    rw [bind_of_none h]
    exact hm
  | some r =>
    cases r with
    | error e =>
      rw [bind_of_error h]
      exact hm
    | ok a =>
      have hpair := hf a h
      unfold Matched at hpair
      unfold Owes at hm ⊢
      rw [bind_of_ok h]
      simp only [List.mem_append, or_and_right, exists_or, hm, hpair, or_assoc]

/-- What is due is shown by the second computation. -/
lemma bind_right {m : Traced τ ε α} {f : α → Traced τ ε β} {a : α} (hm : m.events = [])
    (ha : m.result = some (.ok a)) (hf : Owes due p q (f a)) : Owes due p q (m >>= f) := by
  unfold Owes at hf ⊢
  rwa [bind_of_ok ha, hm, List.nil_append]

/-- An event that says that another one is due. -/
lemma matched {m : Traced τ ε α} (h : Owes due p q m) {event : τ} (hp : p event ↔ due)
    (hq : ¬q event) : Matched p q (Traced.emit event >>= fun _ => m) := by
  unfold Owes at h
  unfold Matched
  rw [bind_of_ok (result_emit event), events_emit]
  simp only [List.singleton_append, List.mem_cons, exists_eq_or_imp, h, hp, hq, false_or]

end Owes

/-! ### What holds in the end -/

/-- Unless `m` shows a bad event, a value it returns satisfies `post` and an error it throws
satisfies `err`. -/
def Guarded (bad : τ → Prop) (err : ε → Prop) (m : Traced τ ε α) (post : α → Prop) : Prop :=
  (∀ event ∈ m.events, ¬bad event) →
    (∀ a, m.result = some (.ok a) → post a) ∧ ∀ e, m.result = some (.error e) → err e

namespace Guarded

variable {bad : τ → Prop} {err : ε → Prop}

lemma pure {a : α} {post : α → Prop} (h : post a) :
    Guarded (τ := τ) bad err (pure a) post := by
  intro _
  refine ⟨fun b hb => ?_, fun e he => ?_⟩
  · obtain rfl := Except.ok.inj (Option.some.inj hb)
    exact h
  · cases he

lemma fail {e : ε} {post : α → Prop} (h : err e) :
    Guarded (τ := τ) bad err (fail e) post := by
  intro _
  refine ⟨fun b hb => ?_, fun e' he => ?_⟩
  · cases hb
  · obtain rfl := Except.error.inj (Option.some.inj he)
    exact h

/-- A weaker postcondition. -/
lemma mono {m : Traced τ ε α} {post post' : α → Prop} (h : Guarded bad err m post)
    (himp : ∀ a, post a → post' a) : Guarded bad err m post' := by
  intro hevents
  obtain ⟨hvalue, herror⟩ := h hevents
  exact ⟨fun a ha => himp a (hvalue a ha), herror⟩

/-- One computation after the other. -/
lemma bind {m : Traced τ ε α} {f : α → Traced τ ε β} {mid : α → Prop} {post : β → Prop}
    (hm : Guarded bad err m mid) (hf : ∀ a, mid a → Guarded bad err (f a) post) :
    Guarded bad err (m >>= f) post := by
  intro hevents
  obtain ⟨hvalue, herror⟩ :=
    hm fun event hevent => hevents event (mem_events_bind.mpr (Or.inl hevent))
  cases h : m.result with
  | none =>
    rw [bind_of_none h]
    refine ⟨fun b hb => ?_, fun e he => ?_⟩
    · cases hb
    · cases he
  | some r =>
    cases r with
    | error e =>
      rw [bind_of_error h]
      refine ⟨fun b hb => ?_, fun e' he => ?_⟩
      · cases hb
      · obtain rfl := Except.error.inj (Option.some.inj he)
        exact herror _ h
    | ok a =>
      have hrest := hf a (hvalue a h) fun event hevent =>
        hevents event (mem_events_bind.mpr (Or.inr ⟨a, h, hevent⟩))
      rwa [bind_of_ok h]

/-- A loop whose iterations keep an invariant. -/
lemma whileLoop {more : σ → Bool} {body : σ → Traced τ ε (Control σ α)} {exit : σ → α}
    {post : α → Prop} (invariant : σ → Prop)
    (hbody : ∀ s, invariant s → more s = true → Guarded bad err (body s) fun
      | .next s' => invariant s'
      | .done a => post a)
    (hexit : ∀ s, invariant s → post (exit s)) (fuel : ℕ) {s : σ} (hs : invariant s) :
    Guarded bad err (Traced.whileLoop more body exit fuel s) post := by
  induction fuel generalizing s with
  | zero =>
    rw [Traced.whileLoop]
    split
    · intro _
      refine ⟨fun b hb => ?_, fun e he => ?_⟩
      · cases hb
      · cases he
    · exact .pure (hexit s hs)
  | succ fuel ih =>
    cases hmore : more s with
    | false =>
      rw [whileLoop_of_not hmore]
      exact .pure (hexit s hs)
    | true =>
      rw [Traced.whileLoop, if_pos hmore]
      refine (hbody s hs hmore).bind ?_
      rintro (s' | a) hmid
      · exact ih hmid
      · exact .pure hmid

end Guarded

end Traced

end SystemsDemos
