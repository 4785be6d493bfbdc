import SystemsDemos.Onnx.Termination
import SystemsDemos.Onnx.Varint

/-!
# Where the slices of the model inspector lie

Every slice that `readBytes` cuts is meant to lie inside the slice it is cut out of, and so inside
the file.  The end of a slice is compared with the end of the slice around it, after a sum that can
wrap around `2 ^ 64`; its begin is not compared with its end.  A length that wraps makes a slice
that ends before it begins, and this is the only way in which a slice is not contained
(`contained_iff`).

### Outline

* `WrapsAt` and `Wraps`, the fields whose length wraps around;
* what one field, one iteration and one parser show, and what they return;
* the sizes of raw data;
* `Contained` and `contained_iff`, and a length that wraps around.
-/

namespace SystemsDemos

variable {σ β : Type} {fuel : ℕ} {data : ModelFile} {kind : MessageKind} {table : FieldTable σ}
  {slice : Slice} {pos : ℕ} {value : σ}

/-! ### Lengths that wrap around -/

/-- At `pos` stands a length that wraps around `2 ^ 64` and passes the test of `readBytes`. -/
def WrapsAt (data : ModelFile) (slice : Slice) (pos : ℕ) : Prop :=
  ∃ length q, readVarint data slice pos = (.ok length, q) ∧ 2 ^ 64 ≤ q + length ∧
    q + length - 2 ^ 64 ≤ slice.last

/-- At `pos` stands a length-delimited field with such a length. -/
def Wraps (data : ModelFile) (slice : Slice) (pos : ℕ) : Prop :=
  ∃ tag q, readVarint data slice pos = (.ok tag, q) ∧ tag &&& 0x07 = 2 ∧ WrapsAt data slice q

/-- An iteration begins with a field whose length wraps around. -/
def ParseEvent.BeginsWrap (data : ModelFile) : ParseEvent → Prop
  | iteration _ slice pos => Wraps data slice pos
  | _ => False

/-- The slice that is cut ends before it begins. -/
def ParseEvent.Inverted : ParseEvent → Prop
  | cut _ nested => nested.last < nested.first
  | _ => False

/-- A slice that a parser works on lies inside the file, and a slice that is cut ends inside the
one it is cut out of. -/
def ParseEvent.Within (data : ModelFile) : ParseEvent → Prop
  | iteration _ slice _ => slice.first ≤ slice.last ∧ slice.last ≤ data.size
  | completed _ _ _ => True
  | cut slice nested => nested.last ≤ slice.last ∧ slice.last ≤ data.size

/-- The error is one that the inspector throws by itself. -/
def ParseError.IsThrown (e : ParseError) : Prop := ∃ what, e = .runtimeError what

/-- A computation that throws only by itself and returns a value with `post`, unless it cuts a slice
that ends before it begins. -/
abbrev Careful (m : Parse β) (post : β → Prop) : Prop :=
  Traced.Guarded ParseEvent.Inverted ParseError.IsThrown m post

/-- A parser for a nested message: it cuts a slice that ends before it begins for each length that
wraps around and for no other, and stays inside the file. -/
structure NestedContained (data : ModelFile) (parse : Slice → σ → Parse σ) : Prop where
  matched : ∀ slice value, slice.last ≤ data.size →
    Traced.Matched (ParseEvent.BeginsWrap data) ParseEvent.Inverted (parse slice value)
  within : ∀ slice value, slice.last ≤ data.size →
    Traced.Shows (ParseEvent.Within data) (parse slice value)
  careful : ∀ slice value, slice.last ≤ data.size → Careful (parse slice value) fun _ => True

/-! ### Single values -/

/-- What `readBytes` does when there is a length. -/
lemma readBytes_of_ok {length q : ℕ} (h : readVarint data slice pos = (.ok length, q)) :
    readBytes data slice pos =
      if (q + length) % 2 ^ 64 > slice.last then
        Traced.fail (.runtimeError "protobuf length field exceeds file size")
      else ⟨[.cut slice ⟨q, (q + length) % 2 ^ 64⟩],
        some (.ok (⟨q, (q + length) % 2 ^ 64⟩, (q + length) % 2 ^ 64))⟩ := by
  have hparse : parseVarint data slice pos = pure (length, q) := by
    rw [parseVarint, h]
  rw [readBytes, hparse, Traced.pure_bind]
  rfl

/-- What `readBytes` does when there is none. -/
lemma readBytes_of_error {e : ParseError} {next : ℕ}
    (h : readVarint data slice pos = (.error e, next)) :
    readBytes data slice pos = Traced.fail e := by
  have hparse : parseVarint data slice pos = Traced.fail e := by
    rw [parseVarint, h]
  rw [readBytes, hparse]
  rfl

section Values

variable (hlast : slice.last ≤ data.size)

include hlast

/-- A slice that is cut ends before it begins exactly when its length wraps around. -/
lemma owes_readBytes :
    Traced.Owes (WrapsAt data slice pos) (ParseEvent.BeginsWrap data) ParseEvent.Inverted
      (readBytes data slice pos) := by
  have hsize := data.size_lt
  unfold ModelFile.size at hlast
  cases hread : readVarint data slice pos with
  | mk result q =>
    cases result with
    | error e =>
      rw [readBytes_of_error hread]
      refine .of_matched (.of_nil rfl) ?_
      rintro ⟨length, q', hread', -⟩
      cases hread.symm.trans hread'
    | ok length =>
      obtain ⟨-, hinside, hbound⟩ := readVarint_ok hread
      have hwraps : WrapsAt data slice pos ↔
          2 ^ 64 ≤ q + length ∧ q + length - 2 ^ 64 ≤ slice.last := by
        constructor
        · rintro ⟨length', q', hread', hwrap⟩
          obtain ⟨hok, rfl⟩ := Prod.mk.inj (hread.symm.trans hread')
          obtain rfl := Except.ok.inj hok
          exact hwrap
        · intro hwrap
          exact ⟨length, q, hread, hwrap⟩
      rw [readBytes_of_ok hread]
      split
      · refine .of_matched (.of_nil rfl) ?_
        rw [hwraps]
        omega
      · unfold Traced.Owes
        simp only [List.mem_singleton, exists_eq_left, hwraps, ParseEvent.Inverted,
          ParseEvent.BeginsWrap, or_false]
        omega

/-- A slice that is cut ends inside the slice around it. -/
lemma within_readBytes : Traced.Shows (ParseEvent.Within data) (readBytes data slice pos) := by
  cases hread : readVarint data slice pos with
  | mk result q =>
    cases result with
    | error e =>
      rw [readBytes_of_error hread]
      exact .fail _
    | ok length =>
      rw [readBytes_of_ok hread]
      split
      · exact .fail _
      · next hfits =>
        intro event hevent
        obtain rfl := List.mem_singleton.mp hevent
        exact ⟨Nat.le_of_not_lt hfits, hlast⟩

/-- Reading a varint fails by itself only. -/
lemma careful_parseVarint : Careful (parseVarint data slice pos) fun _ => True := by
  unfold parseVarint
  split
  · exact .pure trivial
  · next e next hread =>
    exact .fail ⟨_, (readVarintLoop_error hlast hread).1⟩

/-- A slice that is cut lies inside the slice around it, unless it ends before it begins. -/
lemma careful_readBytes :
    Careful (readBytes data slice pos) fun a =>
      a.1.first ≤ a.1.last ∧ a.1.last ≤ slice.last := by
  cases hread : readVarint data slice pos with
  | mk result q =>
    cases result with
    | error e =>
      rw [readBytes_of_error hread]
      exact .fail ⟨_, (readVarintLoop_error hlast hread).1⟩
    | ok length =>
      rw [readBytes_of_ok hread]
      split
      · exact .fail ⟨_, rfl⟩
      · next hfits =>
        intro hevents
        have hforward := hevents _ (List.mem_singleton.mpr rfl)
        refine ⟨fun a ha => ?_, fun e he => ?_⟩
        · obtain rfl := Except.ok.inj (Option.some.inj ha)
          exact ⟨Nat.le_of_not_lt hforward, Nat.le_of_not_lt hfits⟩
        · cases he

/-- Skipping a field fails by itself only. -/
lemma careful_skipField (wireType : ℕ) :
    Careful (skipField data slice pos wireType) fun _ => True := by
  have hfixed : ∀ width, Careful (skipFixed slice pos width) fun _ => True := by
    intro width
    unfold skipFixed
    dsimp only
    split
    · exact .fail ⟨_, rfl⟩
    · exact .pure trivial
  unfold skipField
  split
  · exact (careful_parseVarint hlast).bind fun _ _ => .pure trivial
  split
  · exact hfixed 8
  split
  · exact (careful_readBytes hlast).bind fun _ _ => .pure trivial
  split
  · exact hfixed 4
  · exact .fail ⟨_, rfl⟩

end Values

/-! ### One field -/

/-- Skipping a field of another wire type shows nothing. -/
lemma events_skipField {wireType : ℕ} (hwire : wireType ≠ 2) :
    (skipField data slice pos wireType).events = [] := by
  have hfixed : ∀ width, (skipFixed slice pos width).events = [] := by
    intro width
    unfold skipFixed
    dsimp only
    split <;> rfl
  unfold skipField
  split
  · cases hread : readVarint data slice pos with
    | mk result next => cases result <;> simp [parseVarint, hread, Traced.bind_of_error]
  split
  · exact hfixed 8
  split
  · exact hfixed 4
  · rfl

/-- A computation without events, in front of another one. -/
lemma events_bind_pure {m : Parse β} {β' : Type} {f : β → β'} (h : m.events = []) :
    (m >>= fun b => pure (f b)).events = [] := by
  refine List.eq_nil_iff_forall_not_mem.mpr fun event hevent => ?_
  rcases Traced.mem_events_bind.mp hevent with hmem | ⟨b, -, hmem⟩
  · exact absurd (h ▸ hmem) List.not_mem_nil
  · exact absurd hmem List.not_mem_nil

section Fields

variable {action : Option (BytesAction σ)} {varintAction : Option (VarintAction σ)}

lemma events_parseVarintField :
    (parseVarintField data slice pos value varintAction).events = [] := by
  rcases varintAction with _ | (set | set)
  · exact events_bind_pure (events_skipField (by decide))
  · exact events_bind_pure events_parseVarint
  · exact events_bind_pure events_parseVarint

variable (hlast : slice.last ≤ data.size)

include hlast

lemma owes_parseBytesField
    (h : ∀ parse, action = some (.message parse) → NestedContained data parse) :
    Traced.Owes (WrapsAt data slice pos) (ParseEvent.BeginsWrap data) ParseEvent.Inverted
      (parseBytesField data slice pos value action) := by
  have hread : Traced.Owes (WrapsAt data slice pos) (ParseEvent.BeginsWrap data)
      ParseEvent.Inverted (readBytes data slice pos) := owes_readBytes hlast
  rcases action with _ | (set | set | parse)
  · exact (hread.bind fun _ _ => .of_nil rfl).bind fun _ _ => .of_nil rfl
  · refine hread.bind fun a _ => ?_
    obtain ⟨nested, next⟩ := a
    refine .of_nil (events_bind_pure ?_)
    unfold asString
    split <;> rfl
  · exact hread.bind fun _ _ => .of_nil rfl
  · refine hread.bind ?_
    rintro ⟨nested, next⟩ hok
    have hinside := Nat.le_trans (last_le_of_readBytes hok) hlast
    exact ((h parse rfl).matched nested value hinside).bind fun _ _ => .of_nil rfl

lemma within_parseBytesField
    (h : ∀ parse, action = some (.message parse) → NestedContained data parse) :
    Traced.Shows (ParseEvent.Within data) (parseBytesField data slice pos value action) := by
  have hread : Traced.Shows (ParseEvent.Within data) (readBytes data slice pos) :=
    within_readBytes hlast
  rcases action with _ | (set | set | parse)
  · exact (hread.bind fun _ => .pure _).bind fun _ => .pure _
  · refine hread.bind fun a => ?_
    obtain ⟨nested, next⟩ := a
    refine Traced.Shows.bind ?_ fun _ => .pure _
    unfold asString
    split
    · exact .fail _
    · exact .pure _
  · exact hread.bind fun _ => .pure _
  · refine hread.bind_of_ok ?_
    rintro ⟨nested, next⟩ hok
    have hinside := Nat.le_trans (last_le_of_readBytes hok) hlast
    exact ((h parse rfl).within nested value hinside).bind fun _ => .pure _

end Fields

section Contained

variable (hnested : ∀ field parse, table.bytes field = some (.message parse) →
  NestedContained data parse) (hlast : slice.last ≤ data.size)

include hnested hlast

lemma owes_parseField (pos : ℕ) (value : σ) :
    Traced.Owes (Wraps data slice pos) (ParseEvent.BeginsWrap data) ParseEvent.Inverted
      (parseField data table slice pos value) := by
  cases hread : readVarint data slice pos with
  | mk result q =>
    cases result with
    | error e =>
      have hparse : parseVarint data slice pos = Traced.fail e := by
        rw [parseVarint, hread]
      rw [parseField, hparse]
      refine .of_matched (.of_nil rfl) ?_
      rintro ⟨tag, q', hread', -⟩
      cases hread.symm.trans hread'
    | ok tag =>
      have hwraps : Wraps data slice pos ↔ tag &&& 0x07 = 2 ∧ WrapsAt data slice q := by
        constructor
        · rintro ⟨tag', q', hread', hwrap⟩
          obtain ⟨hok, rfl⟩ := Prod.mk.inj (hread.symm.trans hread')
          obtain rfl := Except.ok.inj hok
          exact hwrap
        · intro hwrap
          exact ⟨tag, q, hread, hwrap⟩
      refine Traced.Owes.bind_right events_parseVarint
        (result_parseVarint_eq_ok_iff.mpr hread) ?_
      dsimp only
      split
      · refine .of_matched (.of_nil events_parseVarintField) ?_
        rw [hwraps]
        omega
      split
      · next hwire =>
        have hbytes : Traced.Owes (WrapsAt data slice q) (ParseEvent.BeginsWrap data)
            ParseEvent.Inverted (parseBytesField data slice q value (table.bytes (tag >>> 3))) :=
          owes_parseBytesField hlast (hnested (tag >>> 3))
        unfold Traced.Owes at hbytes ⊢
        rw [hbytes, hwraps, and_iff_right hwire]
      · next hwire =>
        refine .of_matched (.of_nil (events_bind_pure (events_skipField hwire))) ?_
        rw [hwraps]
        exact fun hwrap => hwire hwrap.1

lemma within_parseField (pos : ℕ) (value : σ) :
    Traced.Shows (ParseEvent.Within data) (parseField data table slice pos value) := by
  have hsilent : ∀ {m : Parse (Field σ)}, m.events = [] →
      Traced.Shows (ParseEvent.Within data) m :=
    fun h event hevent => absurd (h ▸ hevent) List.not_mem_nil
  refine Traced.Shows.bind ?_ ?_
  · intro event hevent
    rw [events_parseVarint] at hevent
    exact absurd hevent List.not_mem_nil
  · rintro ⟨tag, q⟩
    dsimp only
    split
    · exact hsilent events_parseVarintField
    split
    · exact within_parseBytesField hlast (hnested _)
    · next hwire => exact hsilent (events_bind_pure (events_skipField hwire))

/-! ### One iteration -/

lemma matched_wrap_parseIteration (s : σ × ℕ) :
    Traced.Matched (ParseEvent.BeginsWrap data) ParseEvent.Inverted
      (parseIteration data kind table slice s) := by
  have hfield := owes_parseField hnested hlast s.2 s.1
  have hrest := hfield.bind (f := fun field => do
    Traced.emit (.completed slice s.2 field.pos)
    return if field.returns then Traced.Control.done field.value
      else .next (field.value, field.pos)) fun _ _ => .of_shows ?_
  · exact hrest.matched Iff.rfl not_false
  · intro event hevent
    have hcompleted := Traced.mem_events_bind.mp hevent
    simp only [Traced.events_emit, List.mem_singleton, Traced.events_pure, List.not_mem_nil,
      and_false, exists_false, or_false] at hcompleted
    rw [hcompleted]
    exact ⟨not_false, not_false⟩

lemma within_parseIteration (hordered : slice.first ≤ slice.last) (s : σ × ℕ) :
    Traced.Shows (ParseEvent.Within data) (parseIteration data kind table slice s) := by
  refine Traced.Shows.bind (.emit ⟨hordered, hlast⟩) fun _ => ?_
  refine (within_parseField hnested hlast s.2 s.1).bind fun field => ?_
  exact Traced.Shows.bind (.emit trivial) fun _ => .pure _

end Contained

/-! ### What the parsers return -/

/-- What is done with a varint keeps a property of the value. -/
def VarintAction.Keeps (I : σ → Prop) : VarintAction σ → Prop
  | store set => ∀ n value, I value → I (set n value)
  | finish set => ∀ n, I (set n)

/-- What is done with a length-delimited field keeps it; a parser for a nested message does so
unless it cuts a slice that ends before it begins. -/
def BytesAction.Keeps (data : ModelFile) (I : σ → Prop) : BytesAction σ → Prop
  | text set => ∀ text value, I value → I (set text value)
  | rawBytes set => ∀ n value, n ≤ data.size → I value → I (set n value)
  | message parse => ∀ slice value, slice.last ≤ data.size → I value →
      Careful (parse slice value) I

/-- The actions of a table keep a property of the value. -/
structure FieldTable.Keeps (data : ModelFile) (table : FieldTable σ) (I : σ → Prop) : Prop where
  varints : ∀ {field action}, table.varints field = some action → action.Keeps I
  bytes : ∀ {field action}, table.bytes field = some action → action.Keeps data I

section Keeps

variable {I : σ → Prop} (hkeeps : table.Keeps data I) (hlast : slice.last ≤ data.size)

include hkeeps hlast

lemma careful_parseVarintField (field : ℕ) (hvalue : I value) :
    Careful (parseVarintField data slice pos value (table.varints field))
      fun f => I f.value := by
  cases haction : table.varints field with
  | none => exact (careful_skipField hlast 0).bind fun _ _ => .pure hvalue
  | some action =>
    cases action with
    | store set =>
      refine (careful_parseVarint hlast).bind fun a _ => ?_
      exact .pure (hkeeps.varints haction a.1 value hvalue)
    | finish set =>
      refine (careful_parseVarint hlast).bind fun a _ => ?_
      exact .pure (hkeeps.varints haction a.1)

lemma careful_parseBytesField (field : ℕ) (hvalue : I value) :
    Careful (parseBytesField data slice pos value (table.bytes field)) fun f => I f.value := by
  have hsize := data.size_lt
  unfold ModelFile.size at hlast
  cases haction : table.bytes field with
  | none => exact (careful_skipField hlast 2).bind fun _ _ => .pure hvalue
  | some action =>
    cases action with
    | text set =>
      refine (careful_readBytes hlast).bind ?_
      rintro ⟨nested, next⟩ ⟨hordered, -⟩
      have hstring : Careful (asString data nested) fun _ => True := by
        rw [asString, if_neg (Nat.not_lt.mpr hordered)]
        exact .pure trivial
      refine hstring.bind fun text _ => ?_
      exact .pure (hkeeps.bytes haction text value hvalue)
    | rawBytes set =>
      refine (careful_readBytes hlast).bind ?_
      rintro ⟨raw, next⟩ ⟨hordered, hinside⟩
      have hbytes : (raw.last + 2 ^ 64 - raw.first) % 2 ^ 64 ≤ data.size := by
        unfold ModelFile.size
        dsimp only at hordered hinside
        omega
      exact .pure (hkeeps.bytes haction _ value hbytes hvalue)
    | message parse =>
      refine (careful_readBytes hlast).bind ?_
      rintro ⟨nested, next⟩ ⟨-, hinside⟩
      have hnested : Careful (parse nested value) I :=
        hkeeps.bytes haction nested value (Nat.le_trans hinside hlast) hvalue
      exact hnested.bind fun _ h => .pure h

lemma careful_parseField (pos : ℕ) (hvalue : I value) :
    Careful (parseField data table slice pos value) fun f => I f.value := by
  refine (careful_parseVarint hlast).bind ?_
  rintro ⟨tag, q⟩ -
  dsimp only
  split
  · exact careful_parseVarintField hkeeps hlast _ hvalue
  split
  · exact careful_parseBytesField hkeeps hlast _ hvalue
  · exact (careful_skipField hlast _).bind fun _ _ => .pure hvalue

/-- A parser keeps what its table keeps. -/
lemma careful_parseFields (hvalue : I value) :
    Careful (parseFields fuel data kind table slice value) I := by
  have hemit : ∀ event : ParseEvent, Careful (Traced.emit event) fun _ => True :=
    fun event _ => ⟨fun _ _ => trivial, fun e he => by cases he⟩
  refine Traced.Guarded.whileLoop (fun s : σ × ℕ => I s.1) (fun s hs _ => ?_) (fun _ hs => hs)
    fuel hvalue
  refine (hemit _).bind fun _ _ => ?_
  refine (careful_parseField hkeeps hlast s.2 hs).bind fun field hfield => ?_
  refine (hemit _).bind fun _ _ => .pure ?_
  cases field.returns with
  | true => exact hfield
  | false => exact hfield

end Keeps

/-- A table whose parsers are careful keeps what is true anyway. -/
lemma keeps_true (hnested : ∀ field parse, table.bytes field = some (.message parse) →
    NestedContained data parse) : table.Keeps data fun _ => True where
  varints {field action} _ := by
    cases action with
    | store set => exact fun _ _ _ => trivial
    | finish set => exact fun _ => trivial
  bytes {field action} haction := by
    cases action with
    | text set => exact fun _ _ _ => trivial
    | rawBytes set => exact fun _ _ _ _ => trivial
    | message parse =>
      exact fun slice value hlast _ => (hnested field parse haction).careful slice value hlast

/-! ### All the parsers -/

/-- All the parsers are contained. -/
lemma parserRule_nestedContained :
    ParserRule fuel data fun _ parse => NestedContained data parse where
  loop {σ kind table} hobeys := by
    have hnested : ∀ field parse, table.bytes field = some (.message parse) →
        NestedContained data parse := fun field _ hparse => (hobeys field).of_message hparse
    refine ⟨fun slice value hlast => ?_, fun slice value hlast => ?_,
      fun slice value hlast => careful_parseFields (keeps_true hnested) hlast trivial⟩
    · exact .whileLoop (fun s _ => matched_wrap_parseIteration hnested hlast s) _ _
    · -- without a first iteration the loop shows nothing
      rcases Nat.lt_or_ge slice.first slice.last with hlt | hge
      · exact .whileLoop
          (fun s _ => within_parseIteration hnested hlast (Nat.le_of_lt hlt) s) _ _
      · rw [parseFields, Traced.whileLoop_of_not (by simpa using hge)]
        exact .pure _
  update {σ β parse} h start set := by
    refine ⟨fun slice value hlast => ?_, fun slice value hlast => ?_, fun slice value hlast => ?_⟩
    · exact (h.matched slice start hlast).bind fun _ _ => .of_nil rfl
    · exact (h.within slice start hlast).bind fun _ => .pure _
    · exact (h.careful slice start hlast).bind fun _ _ => .pure trivial

/-! ### The sizes of raw data -/

/-- The tensor has no more bytes of raw data than the file has bytes. -/
def TensorInfo.FitsFile (data : ModelFile) (tensor : TensorInfo) : Prop :=
  tensor.rawBytes ≤ data.size

/-- All the tensors of the model fit. -/
def ModelInfo.FitsFile (data : ModelFile) (model : ModelInfo) : Prop :=
  ∀ tensor ∈ model.initializers, tensor.FitsFile data

/-- Only the number of bytes matters. -/
lemma TensorInfo.FitsFile.congr {tensor tensor' : TensorInfo} (h : tensor.FitsFile data)
    (hsame : tensor'.rawBytes = tensor.rawBytes) : tensor'.FitsFile data := by
  unfold TensorInfo.FitsFile at h ⊢
  rwa [hsame]

/-- Only the tensors matter. -/
lemma ModelInfo.FitsFile.congr {model model' : ModelInfo} (h : model.FitsFile data)
    (hsame : model'.initializers = model.initializers) : model'.FitsFile data := by
  unfold ModelInfo.FitsFile at h ⊢
  rwa [hsame]

/-- A tensor that fits is appended. -/
lemma ModelInfo.FitsFile.append {model : ModelInfo} {tensor : TensorInfo}
    (h : model.FitsFile data) (htensor : tensor.FitsFile data) :
    ModelInfo.FitsFile data { model with initializers := model.initializers ++ [tensor] } := by
  intro t ht
  rcases List.mem_append.mp ht with ht | ht
  · exact h t ht
  · obtain rfl := List.mem_singleton.mp ht
    exact htensor

lemma keeps_tensorFields : tensorFields.Keeps data (TensorInfo.FitsFile data) where
  varints {field action} haction := by
    simp only [tensorFields] at haction
    split at haction
    · cases haction
      exact fun _ _ htensor => htensor.congr rfl
    split at haction
    · cases haction
      exact fun _ _ htensor => htensor.congr rfl
    · cases haction
  bytes {field action} haction := by
    simp only [tensorFields] at haction
    split at haction
    · cases haction
      exact fun _ _ htensor => htensor.congr rfl
    split at haction
    · cases haction
      exact fun _ _ hn _ => hn
    · cases haction

/-- A tensor that is parsed fits. -/
lemma careful_parseTensor (hlast : slice.last ≤ data.size) :
    Careful (parseTensor fuel data slice) (TensorInfo.FitsFile data) :=
  careful_parseFields keeps_tensorFields hlast (Nat.zero_le _)

lemma keeps_graphFields : (graphFields fuel data).Keeps data (ModelInfo.FitsFile data) where
  varints haction := by cases haction
  bytes {field action} haction := by
    simp only [graphFields] at haction
    split at haction
    · cases haction
      exact fun slice _ hlast hmodel =>
        (parserRule_nestedContained.node.careful slice .empty hlast).bind fun _ _ =>
          .pure (hmodel.congr rfl)
    split at haction
    · cases haction
      exact fun _ _ hmodel => hmodel.congr rfl
    split at haction
    · cases haction
      exact fun slice _ hlast hmodel => (careful_parseTensor hlast).bind fun _ htensor =>
        .pure (hmodel.append htensor)
    split at haction
    · cases haction
      exact fun slice _ hlast hmodel =>
        (parserRule_nestedContained.valueInfo.careful slice .empty hlast).bind fun _ _ =>
          .pure (hmodel.congr rfl)
    split at haction
    · cases haction
      exact fun slice _ hlast hmodel =>
        (parserRule_nestedContained.valueInfo.careful slice .empty hlast).bind fun _ _ =>
          .pure (hmodel.congr rfl)
    · cases haction

lemma keeps_modelFields : (modelFields fuel data).Keeps data (ModelInfo.FitsFile data) where
  varints {field action} haction := by
    simp only [modelFields] at haction
    split at haction
    · cases haction
      exact fun _ _ hmodel => hmodel.congr rfl
    · cases haction
  bytes {field action} haction := by
    simp only [modelFields] at haction
    split at haction
    · cases haction
      exact fun slice model hlast hmodel => careful_parseFields keeps_graphFields hlast hmodel
    split at haction
    · cases haction
      exact fun slice _ hlast hmodel =>
        (parserRule_nestedContained.opset.careful slice 0 hlast).bind fun _ _ =>
          .pure (hmodel.congr rfl)
    · cases haction

/-! ### `parseModel` -/

/-- What is meant to hold of a file, whatever it contains.  Every slice that is cut lies inside the
slice it is cut out of, and that inside the file, so every string is taken from the file; so does
every slice that a parser works on; the parse throws no error but its own, so no byte is read that
does not exist; and no tensor has more bytes of raw data than the file has bytes. -/
structure Contained (data : ModelFile) : Prop where
  cut : ∀ fuel slice nested, .cut slice nested ∈ (parseModel fuel data).events →
    nested.first ≤ nested.last ∧ nested.last ≤ slice.last ∧ slice.last ≤ data.size
  parsed : ∀ fuel kind slice pos, .iteration kind slice pos ∈ (parseModel fuel data).events →
    slice.first ≤ slice.last ∧ slice.last ≤ data.size
  thrown : ∀ fuel e, (parseModel fuel data).result = some (.error e) → e.IsThrown
  rawBytes : ∀ fuel model, (parseModel fuel data).result = some (.ok model) →
    ∀ tensor ∈ model.initializers, tensor.rawBytes ≤ data.size

/-- No iteration that is reached begins with a field whose length wraps around. -/
def NeverWraps (data : ModelFile) : Prop :=
  ∀ fuel kind slice pos, .iteration kind slice pos ∈ (parseModel fuel data).events →
    ¬Wraps data slice pos

/-- **Slices are contained exactly when no length wraps around.** -/
theorem contained_iff (data : ModelFile) : Contained data ↔ NeverWraps data := by
  have hroot : ∀ fuel,
      NestedContained data (parseFields fuel data .model (modelFields fuel data)) :=
    fun fuel => parserRule_nestedContained.model
  have hmatched : ∀ fuel, Traced.Matched (ParseEvent.BeginsWrap data) ParseEvent.Inverted
      (parseModel fuel data) :=
    fun fuel => (hroot fuel).matched ⟨0, data.size⟩ .empty (Nat.le_refl _)
  have hwithin : ∀ fuel, Traced.Shows (ParseEvent.Within data) (parseModel fuel data) :=
    fun fuel => (hroot fuel).within ⟨0, data.size⟩ .empty (Nat.le_refl _)
  have hcareful : ∀ fuel, Careful (parseModel fuel data) (ModelInfo.FitsFile data) :=
    fun fuel => careful_parseFields keeps_modelFields (Nat.le_refl _) fun tensor htensor =>
      absurd htensor List.not_mem_nil
  constructor
  · intro h fuel kind slice pos hmem hwraps
    obtain ⟨event, hevent, hinverted⟩ := (hmatched fuel).mp ⟨_, hmem, hwraps⟩
    cases event with
    | cut slice' nested =>
      have hordered := (h.cut fuel slice' nested hevent).1
      exact absurd hinverted (Nat.not_lt.mpr hordered)
    | iteration kind' slice' pos' => exact hinverted
    | completed slice' pos' next => exact hinverted
  · intro hnever
    have hordered : ∀ fuel, ∀ event ∈ (parseModel fuel data).events, ¬event.Inverted := by
      intro fuel event hevent hinverted
      obtain ⟨event', hevent', hwraps⟩ := (hmatched fuel).mpr ⟨event, hevent, hinverted⟩
      cases event' with
      | iteration kind slice pos => exact hnever fuel kind slice pos hevent' hwraps
      | completed slice pos next => exact hwraps
      | cut slice nested => exact hwraps
    refine ⟨fun fuel slice nested hmem => ?_, fun fuel kind slice pos hmem => ?_,
      fun fuel e he => ?_, fun fuel model hmodel => ?_⟩
    · exact ⟨Nat.le_of_not_lt (hordered fuel _ hmem), hwithin fuel _ hmem⟩
    · exact hwithin fuel _ hmem
    · exact (hcareful fuel (hordered fuel)).2 e he
    · exact (hcareful fuel (hordered fuel)).1 model hmodel

/-- A field of a model that it does not know, at the end of the file, with the length
`2 ^ 64 - 11`. -/
theorem parseModel_cuts_backwards : ¬∀ data, Contained data := by
  intro h
  have hcut : .cut ⟨0, 11⟩ ⟨11, 0⟩ ∈ (parseModel 1 endlessFile).events := by decide +kernel
  exact absurd ((h endlessFile).cut 1 _ _ hcut).1 (by decide)

end SystemsDemos
