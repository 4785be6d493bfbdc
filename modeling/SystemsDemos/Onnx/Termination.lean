import SystemsDemos.Onnx.Parsers

/-!
# Termination of the model inspector

Whether `parseModel` comes to an end, and whether each iteration of its loops moves the position
forward.  A length field is added to the position without a check for overflow, so a length close
to `2 ^ 64` can move the position back, and a field that is moved back behind its own begin is
read again.  This is the only way in which a loop stands still: `parseModel` terminates, always
moving forward, exactly when none of its iterations begins with such a field
(`parseModel_terminates_iff`).

### Outline

* `JumpsBack`, the fields that move the position back;
* one field, one iteration, one parser;
* `parseModel`.
-/

namespace SystemsDemos

variable {σ β : Type} {fuel : ℕ} {data : ModelFile} {kind : MessageKind} {table : FieldTable σ}
  {slice : Slice} {pos : ℕ} {value : σ}

/-! ### Fields that move the position back -/

/-- At `pos` stands a length-delimited field, not a string, whose length wraps around `2 ^ 64`
and ends at `pos` or before. -/
def JumpsBack (data : ModelFile) (kind : MessageKind) (slice : Slice) (pos : ℕ) : Prop :=
  ∃ tag q length q', readVarint data slice pos = (.ok tag, q) ∧ tag &&& 0x07 = 2 ∧
    tag >>> 3 ∉ kind.textFields ∧ readVarint data slice q = (.ok length, q') ∧
    2 ^ 64 ≤ q' + length ∧ q' + length - 2 ^ 64 ≤ pos

/-- An iteration begins with a field that moves the position back. -/
def ParseEvent.BeginsJump (data : ModelFile) : ParseEvent → Prop
  | iteration kind slice pos => JumpsBack data kind slice pos
  | _ => False

/-- An iteration is complete that has not moved the position forward. -/
def ParseEvent.StandsStill : ParseEvent → Prop
  | completed _ pos next => next ≤ pos
  | _ => False

/-- A parser for a nested message: it comes to an end unless it meets a field that moves the
position back, it stands still in these fields only, and it has nothing to do in a slice whose end
is not behind its begin. -/
structure NestedSound (fuel : ℕ) (data : ModelFile) (parse : Slice → σ → Parse σ) : Prop where
  empty : ∀ slice value, slice.last ≤ slice.first →
    ∃ value', (parse slice value).result = some (.ok value')
  matched : ∀ slice value, slice.last ≤ data.size →
    Traced.Matched (ParseEvent.BeginsJump data) ParseEvent.StandsStill (parse slice value)
  live : data.size ≤ fuel → ∀ slice value, slice.last ≤ data.size →
    Traced.Live (ParseEvent.BeginsJump data) (parse slice value) fun _ => True

/-- The table of a parser reads its text fields as strings and its nested messages with sound
parsers. -/
structure FieldTable.Sound (fuel : ℕ) (data : ModelFile) (kind : MessageKind)
    (table : FieldTable σ) : Prop where
  text : ∀ field, (∃ set, table.bytes field = some (.text set)) ↔ field ∈ kind.textFields
  nested : ∀ field parse, table.bytes field = some (.message parse) → NestedSound fuel data parse

/-! ### One field -/

/-- A computation that shows nothing but cuts. -/
lemma matched_of_shows {m : Parse β} (h : Traced.Shows ParseEvent.IsCut m) :
    Traced.Matched (ParseEvent.BeginsJump data) ParseEvent.StandsStill m := by
  apply Traced.Matched.of_shows
  intro event hevent
  obtain ⟨_, _, rfl⟩ := h event hevent
  exact ⟨not_false, not_false⟩

section Fields

variable {action : Option (BytesAction σ)} {varintAction : Option (VarintAction σ)}

lemma shows_parseVarintField :
    Traced.Shows ParseEvent.IsCut (parseVarintField data slice pos value varintAction) := by
  rcases varintAction with _ | (_ | _)
  · exact (shows_skipField 0).bind fun _ => .pure _
  · exact shows_parseVarint.bind fun _ => .pure _
  · exact shows_parseVarint.bind fun _ => .pure _

lemma ends_parseVarintField : (parseVarintField data slice pos value varintAction).Ends := by
  rcases varintAction with _ | (_ | _)
  · exact (ends_skipField 0).bind fun _ => .pure _
  · exact ends_parseVarint.bind fun _ => .pure _
  · exact ends_parseVarint.bind fun _ => .pure _

lemma matched_parseBytesField
    (h : ∀ parse, action = some (.message parse) → NestedSound fuel data parse)
    (hlast : slice.last ≤ data.size) :
    Traced.Matched (ParseEvent.BeginsJump data) ParseEvent.StandsStill
      (parseBytesField data slice pos value action) := by
  rcases action with _ | (set | set | parse)
  · exact matched_of_shows ((shows_skipField 2).bind fun _ => .pure _)
  · exact matched_of_shows (shows_readBytes.bind fun _ => shows_asString.bind fun _ => .pure _)
  · exact matched_of_shows (shows_readBytes.bind fun _ => .pure _)
  · refine (matched_of_shows shows_readBytes).bind ?_
    rintro ⟨nested, next⟩ hread
    have hinside := Nat.le_trans (last_le_of_readBytes hread) hlast
    have hnested := (h parse rfl).matched nested value hinside
    exact hnested.bind fun _ _ => matched_of_shows (.pure _)

lemma live_parseBytesField
    (h : ∀ parse, action = some (.message parse) → NestedSound fuel data parse)
    (hlast : slice.last ≤ data.size) (hfuel : data.size ≤ fuel) :
    Traced.Live (ParseEvent.BeginsJump data) (parseBytesField data slice pos value action)
      fun _ => True := by
  rcases action with _ | (set | set | parse)
  · exact .of_ends ((ends_skipField 2).bind fun _ => .pure _) fun _ _ => trivial
  · exact .of_ends (ends_readBytes.bind fun _ => ends_asString.bind fun _ => .pure _)
      fun _ _ => trivial
  · exact .of_ends (ends_readBytes.bind fun _ => .pure _) fun _ _ => trivial
  · have hcut : Traced.Live (ParseEvent.BeginsJump data) (readBytes data slice pos)
        fun a => a.1.last ≤ data.size :=
      .of_ends ends_readBytes fun a ha => Nat.le_trans (last_le_of_readBytes ha) hlast
    refine hcut.bind ?_
    rintro ⟨nested, next⟩ hnested
    have hlive := (h parse rfl).live hfuel nested value hnested
    exact hlive.bind fun _ _ => .of_pure trivial

/-- A varint field moves the position forward. -/
lemma pos_of_parseVarintField {field : Field σ}
    (h : (parseVarintField data slice pos value varintAction).result = some (.ok field)) :
    pos < field.pos := by
  have hread : ∃ n, readVarint data slice pos = (.ok n, field.pos) := by
    rcases varintAction with _ | (set | set)
    · simp only [parseVarintField, skipField, if_true, Traced.result_bind_eq_ok_iff] at h
      obtain ⟨next, ⟨⟨n, _⟩, hread, hnext⟩, hfield⟩ := h
      cases hnext
      cases hfield
      exact ⟨n, result_parseVarint_eq_ok_iff.mp hread⟩
    · obtain ⟨⟨n, next⟩, hread, hfield⟩ := Traced.result_bind_eq_ok_iff.mp h
      cases hfield
      exact ⟨n, result_parseVarint_eq_ok_iff.mp hread⟩
    · obtain ⟨⟨n, next⟩, hread, hfield⟩ := Traced.result_bind_eq_ok_iff.mp h
      cases hfield
      exact ⟨n, result_parseVarint_eq_ok_iff.mp hread⟩
  obtain ⟨n, hread⟩ := hread
  exact (readVarint_ok hread).1

/-- Where a length-delimited field ends; a string does not end before its begin. -/
lemma pos_of_parseBytesField {field : Field σ}
    (h : (parseBytesField data slice pos value action).result = some (.ok field)) :
    ∃ length q, readVarint data slice pos = (.ok length, q) ∧
      field.pos = (q + length) % 2 ^ 64 ∧ ∀ set, action = some (.text set) → q ≤ field.pos := by
  rcases action with _ | (set | set | parse)
  · simp only [parseBytesField, skipField, if_true, Traced.result_bind_eq_ok_iff] at h
    obtain ⟨next, hskip, hfield⟩ := h
    cases hfield
    simp only [Nat.reduceEqDiff, if_false, Traced.result_bind_eq_ok_iff] at hskip
    obtain ⟨⟨nested, _⟩, hread, hnext⟩ := hskip
    cases hnext
    obtain ⟨length, q, hlength, -, hpos, -⟩ := result_readBytes_eq_ok_iff.mp hread
    exact ⟨length, q, hlength, hpos, by simp⟩
  · obtain ⟨⟨nested, next⟩, hread, hrest⟩ := Traced.result_bind_eq_ok_iff.mp h
    obtain ⟨text, htext, hfield⟩ := Traced.result_bind_eq_ok_iff.mp hrest
    cases hfield
    obtain ⟨length, q, hlength, rfl, hpos, -⟩ := result_readBytes_eq_ok_iff.mp hread
    refine ⟨length, q, hlength, hpos, fun _ _ => ?_⟩
    by_contra hback
    have hfails : asString data ⟨q, next⟩ = Traced.fail .lengthError :=
      if_pos (by simpa using hback)
    rw [hfails] at htext
    cases htext
  · obtain ⟨⟨nested, next⟩, hread, hfield⟩ := Traced.result_bind_eq_ok_iff.mp h
    cases hfield
    obtain ⟨length, q, hlength, -, hpos, -⟩ := result_readBytes_eq_ok_iff.mp hread
    exact ⟨length, q, hlength, hpos, by simp⟩
  · obtain ⟨⟨nested, next⟩, hread, hrest⟩ := Traced.result_bind_eq_ok_iff.mp h
    obtain ⟨_, -, hfield⟩ := Traced.result_bind_eq_ok_iff.mp hrest
    cases hfield
    obtain ⟨length, q, hlength, -, hpos, -⟩ := result_readBytes_eq_ok_iff.mp hread
    exact ⟨length, q, hlength, hpos, by simp⟩

/-- A length-delimited field, not a string, that ends before its begin is read without an
error. -/
lemma parseBytesField_of_jump {length q : ℕ} (hread : readVarint data slice pos = (.ok length, q))
    (hlast : (q + length) % 2 ^ 64 ≤ slice.last) (hback : (q + length) % 2 ^ 64 ≤ q)
    (htext : ∀ set, action ≠ some (.text set))
    (h : ∀ parse, action = some (.message parse) → NestedSound fuel data parse) :
    ∃ field, (parseBytesField data slice pos value action).result = some (.ok field) ∧
      field.pos = (q + length) % 2 ^ 64 := by
  have hbytes : (readBytes data slice pos).result =
      some (.ok (⟨q, (q + length) % 2 ^ 64⟩, (q + length) % 2 ^ 64)) :=
    result_readBytes_eq_ok_iff.mpr ⟨length, q, hread, rfl, rfl, hlast⟩
  rcases action with _ | (set | set | parse)
  · refine ⟨⟨value, (q + length) % 2 ^ 64, false⟩, ?_, rfl⟩
    refine Traced.result_bind_eq_ok_iff.mpr ⟨(q + length) % 2 ^ 64, ?_, rfl⟩
    exact Traced.result_bind_eq_ok_iff.mpr ⟨_, hbytes, rfl⟩
  · exact absurd rfl (htext set)
  · exact ⟨_, Traced.result_bind_eq_ok_iff.mpr ⟨_, hbytes, rfl⟩, rfl⟩
  · obtain ⟨value', hparse⟩ := (h parse rfl).empty ⟨q, (q + length) % 2 ^ 64⟩ value hback
    refine ⟨⟨value', (q + length) % 2 ^ 64, false⟩, ?_, rfl⟩
    refine Traced.result_bind_eq_ok_iff.mpr ⟨_, hbytes, ?_⟩
    exact Traced.result_bind_eq_ok_iff.mpr ⟨value', hparse, rfl⟩

end Fields

section Sound

variable (hsound : table.Sound fuel data kind) (hlast : slice.last ≤ data.size)

include hsound hlast

lemma matched_parseField (pos : ℕ) (value : σ) :
    Traced.Matched (ParseEvent.BeginsJump data) ParseEvent.StandsStill
      (parseField data table slice pos value) := by
  refine (matched_of_shows shows_parseVarint).bind ?_
  rintro ⟨tag, q⟩ -
  dsimp only
  split
  · exact matched_of_shows shows_parseVarintField
  split
  · exact matched_parseBytesField (hsound.nested _) hlast
  · exact matched_of_shows ((shows_skipField _).bind fun _ => .pure _)

lemma live_parseField (hfuel : data.size ≤ fuel) (pos : ℕ) (value : σ) :
    Traced.Live (ParseEvent.BeginsJump data) (parseField data table slice pos value)
      fun _ => True := by
  refine Traced.Live.bind (.of_ends ends_parseVarint fun _ _ => trivial) ?_
  rintro ⟨tag, q⟩ -
  dsimp only
  split
  · exact .of_ends ends_parseVarintField fun _ _ => trivial
  split
  · exact live_parseBytesField (hsound.nested _) hlast hfuel
  · exact .of_ends ((ends_skipField _).bind fun _ => .pure _) fun _ _ => trivial

/-- A field leaves the position where it was, or moves it back, exactly when it jumps. -/
lemma parseField_stuck_iff (pos : ℕ) (value : σ) :
    (∃ field, (parseField data table slice pos value).result = some (.ok field) ∧
        field.pos ≤ pos) ↔ JumpsBack data kind slice pos := by
  have hsize := data.size_lt
  unfold ModelFile.size at hlast
  constructor
  · rintro ⟨field, hfield, hstuck⟩
    obtain ⟨⟨tag, q⟩, htag, hrest⟩ := Traced.result_bind_eq_ok_iff.mp hfield
    have htag' := result_parseVarint_eq_ok_iff.mp htag
    obtain ⟨hforward, hinside, -⟩ := readVarint_ok htag'
    dsimp only at hrest
    split at hrest
    · have hmoved := pos_of_parseVarintField hrest
      omega
    split at hrest
    · next hwire =>
      obtain ⟨length, q', hlength, hpos, htext⟩ := pos_of_parseBytesField hrest
      obtain ⟨hforward', hinside', hbound⟩ := readVarint_ok hlength
      have hwrap : 2 ^ 64 ≤ q' + length := by
        by_contra hsmall
        rw [Nat.mod_eq_of_lt (by omega)] at hpos
        omega
      refine ⟨tag, q, length, q', htag', hwire, ?_, hlength, hwrap, by omega⟩
      intro hmem
      obtain ⟨set, hset⟩ := (hsound.text _).mpr hmem
      have hbehind := htext set hset
      omega
    · next hwire hwire' =>
      obtain ⟨next, hskip, hfield'⟩ := Traced.result_bind_eq_ok_iff.mp hrest
      cases hfield'
      have hstuck' : next ≤ pos := hstuck
      have hmoved : q < next := by
        unfold skipField at hskip
        rw [if_neg hwire, if_neg hwire'] at hskip
        split at hskip
        · rw [pos_of_skipFixed (by omega) hskip]
          omega
        split at hskip
        · rw [pos_of_skipFixed (by omega) hskip]
          omega
        · cases hskip
      omega
  · rintro ⟨tag, q, length, q', htag, hwire, htext, hlength, hwrap, hstuck⟩
    obtain ⟨hforward, hinside, -⟩ := readVarint_ok htag
    obtain ⟨hforward', hinside', hbound⟩ := readVarint_ok hlength
    have hmod : (q' + length) % 2 ^ 64 = q' + length - 2 ^ 64 := by omega
    have htext' : ∀ set, table.bytes (tag >>> 3) ≠ some (.text set) :=
      fun set hset => htext ((hsound.text _).mp ⟨set, hset⟩)
    obtain ⟨field, hfield, hpos⟩ :
        ∃ field, (parseBytesField data slice q value (table.bytes (tag >>> 3))).result =
          some (.ok field) ∧ field.pos = (q' + length) % 2 ^ 64 :=
      parseBytesField_of_jump hlength (by omega) (by omega) htext' (hsound.nested _)
    refine ⟨field, Traced.result_bind_eq_ok_iff.mpr
      ⟨(tag, q), result_parseVarint_eq_ok_iff.mpr htag, ?_⟩, by omega⟩
    dsimp only
    rw [if_neg (by omega), if_pos hwire]
    exact hfield

end Sound

/-! ### One iteration -/

section Iteration

variable (hsound : table.Sound fuel data kind) (hlast : slice.last ≤ data.size)

include hsound hlast

lemma matched_parseIteration (s : σ × ℕ) :
    Traced.Matched (ParseEvent.BeginsJump data) ParseEvent.StandsStill
      (parseIteration data kind table slice s) := by
  have hfield := matched_parseField hsound hlast s.2 s.1
  have hstuck := parseField_stuck_iff hsound hlast s.2 s.1
  constructor
  · rintro ⟨event, hevent, hjump⟩
    rcases mem_events_parseIteration.mp hevent with rfl | hmem | ⟨field, -, rfl⟩
    · obtain ⟨field, hok, hle⟩ := hstuck.mpr hjump
      exact ⟨_, mem_events_parseIteration.mpr (Or.inr (Or.inr ⟨field, hok, rfl⟩)), hle⟩
    · obtain ⟨event', hmem', hstill⟩ := hfield.mp ⟨event, hmem, hjump⟩
      exact ⟨event', mem_events_parseIteration.mpr (Or.inr (Or.inl hmem')), hstill⟩
    · exact absurd hjump not_false
  · rintro ⟨event, hevent, hstill⟩
    rcases mem_events_parseIteration.mp hevent with rfl | hmem | ⟨field, hok, rfl⟩
    · exact absurd hstill not_false
    · obtain ⟨event', hmem', hjump⟩ := hfield.mpr ⟨event, hmem, hstill⟩
      exact ⟨event', mem_events_parseIteration.mpr (Or.inr (Or.inl hmem')), hjump⟩
    · exact ⟨_, mem_events_parseIteration.mpr (Or.inl rfl), hstuck.mp ⟨field, hok, hstill⟩⟩

/-- An iteration moves the position forward unless it meets a field that jumps. -/
lemma live_parseIteration (hfuel : data.size ≤ fuel) (s : σ × ℕ) :
    Traced.Live (ParseEvent.BeginsJump data) (parseIteration data kind table slice s) fun
      | .next s' => s.2 < s'.2
      | .done _ => True := by
  intro hevents
  have hnot : ¬JumpsBack data kind slice s.2 :=
    hevents _ (mem_events_parseIteration.mpr (Or.inl rfl))
  obtain ⟨r, hr, -⟩ := live_parseField hsound hlast hfuel s.2 s.1
    fun event hevent => hevents event (mem_events_parseIteration.mpr (Or.inr (Or.inl hevent)))
  cases r with
  | error e => exact ⟨_, result_parseIteration_of_error hr, fun _ h => by cases h⟩
  | ok field =>
    refine ⟨_, result_parseIteration_of_ok hr, ?_⟩
    intro control hcontrol
    obtain rfl := Except.ok.inj hcontrol
    have hforward : s.2 < field.pos := by
      by_contra hback
      exact hnot ((parseField_stuck_iff hsound hlast s.2 s.1).mp ⟨field, hr, by omega⟩)
    cases field.returns with
    | true => trivial
    | false => exact hforward

end Iteration

/-! ### One parser -/

/-- A parser with a sound table is a sound parser for nested messages. -/
lemma FieldTable.Sound.nestedSound (h : table.Sound fuel data kind) :
    NestedSound fuel data (parseFields fuel data kind table) where
  empty := by
    intro slice value hempty
    refine ⟨value, ?_⟩
    rw [parseFields, Traced.whileLoop_of_not (by simpa using hempty), Traced.result_pure]
  matched := by
    intro slice value hlast
    exact Traced.Matched.whileLoop (fun s _ => matched_parseIteration h hlast s) _ _
  live := by
    intro hfuel slice value hlast
    refine Traced.Live.whileLoop (fun _ => True) (fun s => slice.last - s.2) ?_ ?_
      (fun _ _ _ => trivial) trivial (Nat.le_trans (Nat.sub_le _ _) (Nat.le_trans hlast hfuel))
    · intro s _ hmore
      have hinside : s.2 < slice.last := of_decide_eq_true hmore
      omega
    · intro s _ hmore
      have hinside : s.2 < slice.last := of_decide_eq_true hmore
      refine (live_parseIteration h hlast hfuel s).mono ?_
      rintro (s' | value') hforward
      · exact ⟨trivial, by omega⟩
      · trivial

/-- A parser that makes a part of the value out of a nested message. -/
lemma NestedSound.update {parse : Slice → β → Parse β} (h : NestedSound fuel data parse)
    (start : β) (set : β → σ → σ) :
    NestedSound fuel data fun nested value => do
      let part ← parse nested start
      return set part value where
  empty := by
    intro slice value hempty
    obtain ⟨part, hpart⟩ := h.empty slice start hempty
    exact ⟨set part value, Traced.result_bind_eq_ok_iff.mpr ⟨part, hpart, rfl⟩⟩
  matched := by
    intro slice value hlast
    exact (h.matched slice start hlast).bind fun _ _ => matched_of_shows (.pure _)
  live := by
    intro hfuel slice value hlast
    exact (h.live hfuel slice start hlast).bind fun _ _ => .of_pure trivial

/-- Being sound is a property of all the parsers. -/
lemma parserRule_nestedSound :
    ParserRule fuel data fun _ parse => NestedSound fuel data parse where
  loop hobeys := FieldTable.Sound.nestedSound
    ⟨fun field => (hobeys field).text_iff, fun field _ hparse => (hobeys field).of_message hparse⟩
  update h start set := h.update start set

/-! ### `parseModel` -/

/-- `parseModel` returns or throws after finitely many iterations. -/
def ParseTerminates (data : ModelFile) : Prop := ∃ fuel, (parseModel fuel data).Ends

/-- Every iteration that is completed has moved the position forward. -/
def IterationsMoveForward (data : ModelFile) : Prop :=
  ∀ fuel slice pos next, .completed slice pos next ∈ (parseModel fuel data).events → pos < next

/-- No iteration that is reached begins with a field that moves the position back. -/
def NeverJumpsBack (data : ModelFile) : Prop :=
  ∀ fuel kind slice pos, .iteration kind slice pos ∈ (parseModel fuel data).events →
    ¬JumpsBack data kind slice pos

/-- **`parseModel` comes to an end, always moving forward, exactly when no field that it reaches
jumps back.**  Every other field is at least one byte long, so a loop has at most as many
iterations as the file has bytes. -/
theorem parseModel_terminates_iff (data : ModelFile) :
    (ParseTerminates data ∧ IterationsMoveForward data) ↔ NeverJumpsBack data := by
  have hsound : ∀ fuel,
      NestedSound fuel data (parseFields fuel data .model (modelFields fuel data)) :=
    fun fuel => parserRule_nestedSound.model
  have hmatched : ∀ fuel, Traced.Matched (ParseEvent.BeginsJump data) ParseEvent.StandsStill
      (parseModel fuel data) :=
    fun fuel => (hsound fuel).matched ⟨0, data.size⟩ .empty (Nat.le_refl _)
  constructor
  · rintro ⟨-, hforward⟩ fuel kind slice pos hmem hjump
    obtain ⟨event, hevent, hstill⟩ := (hmatched fuel).mp ⟨_, hmem, hjump⟩
    cases event with
    | completed slice' pos' next =>
      have hmoved := hforward fuel slice' pos' next hevent
      have hstill' : next ≤ pos' := hstill
      omega
    | iteration kind' slice' pos' => exact hstill
    | cut slice' nested => exact hstill
  · intro hnever
    have hgood : ∀ fuel, ∀ event ∈ (parseModel fuel data).events, ¬event.BeginsJump data := by
      intro fuel event hevent hjump
      cases event with
      | iteration kind slice pos => exact hnever fuel kind slice pos hevent hjump
      | completed slice pos next => exact hjump
      | cut slice nested => exact hjump
    constructor
    · obtain ⟨r, hr, -⟩ := (hsound data.size).live (Nat.le_refl _) ⟨0, data.size⟩ .empty
        (Nat.le_refl _) (hgood data.size)
      exact ⟨data.size, r, hr⟩
    · intro fuel slice pos next hmem
      by_contra hstill
      obtain ⟨event, hevent, hjump⟩ := (hmatched fuel).mpr ⟨_, hmem, Nat.le_of_not_lt hstill⟩
      exact hgood fuel event hevent hjump

/-- One field of a model that `parseModel` does not know, with the length `2 ^ 64 - 11`. -/
def endlessFile : ModelFile where
  bytes := [0x12, 0xF5, 0xFF, 0xFF, 0xFF, 0xFF, 0xFF, 0xFF, 0xFF, 0xFF, 0x01]
  size_lt := by decide

/-- The field leads back to its own begin, for ever. -/
theorem parseModel_endless : ¬∀ data, ParseTerminates data ∧ IterationsMoveForward data := by
  intro h
  obtain ⟨fuel, r, hr⟩ := (h endlessFile).1
  have hiteration : (parseIteration endlessFile .model (modelFields fuel endlessFile)
      ⟨0, endlessFile.size⟩ (.empty, 0)).result = some (.ok (.next (.empty, 0))) := rfl
  have hnone : ∀ k, (Traced.whileLoop (fun s => decide (s.2 < endlessFile.size))
      (parseIteration endlessFile .model (modelFields fuel endlessFile) ⟨0, endlessFile.size⟩)
      (fun s => s.1) k (.empty, 0)).result = none := by
    intro k
    induction k with
    | zero => rfl
    | succ k ih => rw [Traced.result_whileLoop_next rfl hiteration, ih]
  cases (hnone fuel).symm.trans hr

end SystemsDemos
