import Mathlib.Data.List.Forall2
import SystemsDemos.Onnx.Acts

/-!
# Fields that the inspector does not use

A field that a parser does not use can be inserted at any field boundary of any message that the
inspector descends into, and `parseModel` returns the same model (`parseModel_inserted`).  The
length prefixes around it grow with it, but no parser sees where its message stands or how its
length is written: every well-formed message does the same in all files (`Means`).

### Outline

* `MessageKind.fields`, the ten tables as one family, with the fields they use and the messages they
  descend into;
* `Means`, what a message does, and `ActsAlways`, what a field does, in every file;
* `WellFormed` and `Inserted`, and what they mean.
-/

namespace SystemsDemos

/-! ### The ten parsers -/

namespace MessageKind

/-- What a parser builds. -/
def Value : MessageKind → Type
  | model | graph => ModelInfo
  | node => NodeInfo
  | tensor => TensorInfo
  | valueInfo | type | tensorType => ValueInfo
  | shape => List ℤ
  | dimension | opset => ℤ

/-- The table of a parser. -/
def fields (fuel : ℕ) (data : ModelFile) : (kind : MessageKind) → FieldTable kind.Value
  | model => modelFields fuel data
  | graph => graphFields fuel data
  | node => nodeFields
  | tensor => tensorFields
  | valueInfo => valueInfoFields fuel data
  | type => typeFields fuel data
  | tensorType => tensorTypeFields fuel data
  | shape => shapeFields fuel data
  | dimension => dimensionFields
  | opset => opsetFields

/-- The field numbers that a parser uses, with their wire types. -/
def usedFields : MessageKind → List (ℕ × ℕ)
  | model => [(1, 0), (7, 2), (8, 2)]
  | graph => [(1, 2), (2, 2), (5, 2), (11, 2), (12, 2)]
  | node => [(1, 2), (2, 2), (3, 2), (4, 2)]
  | tensor => [(1, 0), (2, 0), (8, 2), (9, 2)]
  | valueInfo => [(1, 2), (2, 2)]
  | type => [(1, 2)]
  | tensorType => [(1, 0), (2, 2)]
  | shape => [(1, 2)]
  | dimension => [(1, 0)]
  | opset => [(2, 0)]

/-- The parser that a length-delimited field goes to, if it holds a message. -/
def nested : MessageKind → ℕ → Option MessageKind
  | model, field => if field = 7 then some graph else if field = 8 then some opset else none
  | graph, field =>
      if field = 1 then some node
      else if field = 5 then some tensor
      else if field = 11 then some valueInfo
      else if field = 12 then some valueInfo
      else none
  | valueInfo, field => if field = 2 then some type else none
  | type, field => if field = 1 then some tensorType else none
  | tensorType, field => if field = 2 then some shape else none
  | shape, field => if field = 1 then some dimension else none
  | _, _ => none

variable {kind kind' : MessageKind} {field : ℕ}

/-- What a parser does with a varint does not depend on the file. -/
lemma exists_varints (kind : MessageKind) (field : ℕ) :
    ∃ action, ∀ fuel data, (kind.fields fuel data).varints field = action := by
  cases kind <;> exact ⟨_, fun _ _ => rfl⟩

/-- What a parser does with a length-delimited field without a message does not depend on the
file. -/
lemma exists_bytes (h : kind.nested field = none) :
    ∃ action, (∀ fuel data, (kind.fields fuel data).bytes field = action) ∧
      ∀ parse, action ≠ some (.message parse) := by
  cases kind with
  | model =>
    simp only [nested] at h
    split_ifs at h with h7 h8
    exact ⟨none, fun _ _ => (if_neg h7).trans (if_neg h8), nofun⟩
  | graph =>
    simp only [nested] at h
    split_ifs at h with h1 h5 h11 h12
    by_cases h2 : field = 2
    · exact ⟨_, fun _ _ => (if_neg h1).trans (if_pos h2), nofun⟩
    · refine ⟨none, fun _ _ => ?_, nofun⟩
      exact (if_neg h1).trans ((if_neg h2).trans ((if_neg h5).trans ((if_neg h11).trans
        (if_neg h12))))
  | node =>
    refine ⟨nodeFields.bytes field, fun _ _ => rfl, fun parse => ?_⟩
    simp only [nodeFields]
    split_ifs <;> nofun
  | tensor =>
    refine ⟨tensorFields.bytes field, fun _ _ => rfl, fun parse => ?_⟩
    simp only [tensorFields]
    split_ifs <;> nofun
  | valueInfo =>
    simp only [nested] at h
    split_ifs at h with h2
    by_cases h1 : field = 1
    · exact ⟨_, fun _ _ => if_pos h1, nofun⟩
    · exact ⟨none, fun _ _ => (if_neg h1).trans (if_neg h2), nofun⟩
  | type | shape =>
    simp only [nested] at h
    split_ifs at h with h1
    exact ⟨none, fun _ _ => if_neg h1, nofun⟩
  | tensorType =>
    simp only [nested] at h
    split_ifs at h with h2
    exact ⟨none, fun _ _ => if_neg h2, nofun⟩
  | dimension | opset => exact ⟨none, fun _ _ => rfl, nofun⟩

/-- A used field is another one. -/
private lemma ne_of_unused {wire : ℕ} (n : ℕ) (h : (field, wire) ∉ kind.usedFields)
    (hused : (n, wire) ∈ kind.usedFields) : field ≠ n := by
  rintro rfl
  exact h hused

/-- The used fields of wire type 0 are those in the table. -/
lemma varints_eq_none_iff (fuel : ℕ) (data : ModelFile) :
    (kind.fields fuel data).varints field = none ↔ (field, 0) ∉ kind.usedFields := by
  refine ⟨fun hnone hused => ?_, fun h => ?_⟩
  · have hsome : ∀ p ∈ kind.usedFields, p.2 = 0 →
        ((kind.fields fuel data).varints p.1).isSome := by
      cases kind <;> simp [usedFields] <;> repeat' apply And.intro
      all_goals rfl
    have hfield := hsome (field, 0) hused rfl
    rw [hnone] at hfield
    cases hfield
  · cases kind with
    | model | tensorType | dimension => exact if_neg (ne_of_unused 1 h (by decide))
    | opset => exact if_neg (ne_of_unused 2 h (by decide))
    | tensor =>
      have h1 := ne_of_unused 1 h (by decide)
      have h2 := ne_of_unused 2 h (by decide)
      exact (if_neg h1).trans (if_neg h2)
    | graph | node | valueInfo | type | shape => rfl

/-- The used fields of wire type 2 are those in the table. -/
lemma bytes_eq_none_iff (fuel : ℕ) (data : ModelFile) :
    (kind.fields fuel data).bytes field = none ↔ (field, 2) ∉ kind.usedFields := by
  refine ⟨fun hnone hused => ?_, fun h => ?_⟩
  · have hsome : ∀ p ∈ kind.usedFields, p.2 = 2 →
        ((kind.fields fuel data).bytes p.1).isSome := by
      cases kind <;> simp [usedFields] <;> repeat' apply And.intro
      all_goals rfl
    have hfield := hsome (field, 2) hused rfl
    rw [hnone] at hfield
    cases hfield
  · cases kind with
    | model =>
      have h7 := ne_of_unused 7 h (by decide)
      have h8 := ne_of_unused 8 h (by decide)
      exact (if_neg h7).trans (if_neg h8)
    | graph =>
      have h1 := ne_of_unused 1 h (by decide)
      have h2 := ne_of_unused 2 h (by decide)
      have h5 := ne_of_unused 5 h (by decide)
      have h11 := ne_of_unused 11 h (by decide)
      have h12 := ne_of_unused 12 h (by decide)
      exact (if_neg h1).trans ((if_neg h2).trans ((if_neg h5).trans ((if_neg h11).trans
        (if_neg h12))))
    | node =>
      have h1 := ne_of_unused 1 h (by decide)
      have h2 := ne_of_unused 2 h (by decide)
      have h3 := ne_of_unused 3 h (by decide)
      have h4 := ne_of_unused 4 h (by decide)
      exact (if_neg h1).trans ((if_neg h2).trans ((if_neg h3).trans (if_neg h4)))
    | tensor =>
      have h8 := ne_of_unused 8 h (by decide)
      have h9 := ne_of_unused 9 h (by decide)
      exact (if_neg h8).trans (if_neg h9)
    | valueInfo =>
      have h1 := ne_of_unused 1 h (by decide)
      have h2 := ne_of_unused 2 h (by decide)
      exact (if_neg h1).trans (if_neg h2)
    | type | shape => exact if_neg (ne_of_unused 1 h (by decide))
    | tensorType => exact if_neg (ne_of_unused 2 h (by decide))
    | dimension | opset => rfl

end MessageKind

/-! ### What messages and fields do in every file -/

variable {kind kind' : MessageKind} {bytes content : List UInt8}

/-- What a message does to the value of its parser, wherever it stands. -/
def Means (kind : MessageKind) (bytes : List UInt8) (u : kind.Value → kind.Value) : Prop :=
  ∀ fuel data, data.size ≤ fuel → ∀ value,
    Decodes data (fun slice => parseFields fuel data kind (kind.fields fuel data) slice value)
      bytes (u value)

/-- The parser reads the field with this effect in every file. -/
def ActsAlways (kind : MessageKind) (f : WireField) (e : Effect kind.Value) : Prop :=
  ∀ fuel data, data.size ≤ fuel → Acts data (kind.fields fuel data) f e

/-- How a parser takes the value of a nested message up. -/
lemma exists_combine {field : ℕ} (h : kind.nested field = some kind') :
    ∃ combine : (kind'.Value → kind'.Value) → kind.Value → kind.Value,
      ∀ content u, Means kind' content u → ∀ fuel data, data.size ≤ fuel →
        ∃ parse, (kind.fields fuel data).bytes field = some (.message parse) ∧
          ∀ value, Decodes data (fun nested => parse nested value) content (combine u value) := by
  cases kind with
  | model =>
    simp only [MessageKind.nested] at h
    split_ifs at h with h7 h8
    · obtain rfl := Option.some.inj h
      exact ⟨id, fun content u hu fuel data hfuel => ⟨_, if_pos h7, hu fuel data hfuel⟩⟩
    · obtain rfl := Option.some.inj h
      refine ⟨fun u (model : ModelInfo) => { model with opsetVersion := u (0 : ℤ) }, ?_⟩
      intro content u hu fuel data hfuel
      exact ⟨_, (if_neg h7).trans (if_pos h8), (hu fuel data hfuel (0 : ℤ)).update _⟩
  | graph =>
    simp only [MessageKind.nested] at h
    split_ifs at h with h1 h5 h11 h12
    · obtain rfl := Option.some.inj h
      refine ⟨fun (u : NodeInfo → NodeInfo) (model : ModelInfo) =>
        { model with nodes := model.nodes ++ [u NodeInfo.empty] }, ?_⟩
      intro content u hu fuel data hfuel
      exact ⟨_, if_pos h1, (hu fuel data hfuel NodeInfo.empty).update _⟩
    · obtain rfl := Option.some.inj h
      have h2 : field ≠ 2 := by omega
      refine ⟨fun (u : TensorInfo → TensorInfo) (model : ModelInfo) =>
        { model with initializers := model.initializers ++ [u TensorInfo.empty] }, ?_⟩
      intro content u hu fuel data hfuel
      exact ⟨_, (if_neg h1).trans ((if_neg h2).trans (if_pos h5)),
        (hu fuel data hfuel TensorInfo.empty).update _⟩
    · obtain rfl := Option.some.inj h
      have h2 : field ≠ 2 := by omega
      refine ⟨fun (u : ValueInfo → ValueInfo) (model : ModelInfo) =>
        { model with inputs := model.inputs ++ [u ValueInfo.empty] }, ?_⟩
      intro content u hu fuel data hfuel
      exact ⟨_, (if_neg h1).trans ((if_neg h2).trans ((if_neg h5).trans (if_pos h11))),
        (hu fuel data hfuel ValueInfo.empty).update _⟩
    · obtain rfl := Option.some.inj h
      have h2 : field ≠ 2 := by omega
      refine ⟨fun (u : ValueInfo → ValueInfo) (model : ModelInfo) =>
        { model with outputs := model.outputs ++ [u ValueInfo.empty] }, ?_⟩
      intro content u hu fuel data hfuel
      exact ⟨_, (if_neg h1).trans ((if_neg h2).trans ((if_neg h5).trans ((if_neg h11).trans
        (if_pos h12)))), (hu fuel data hfuel ValueInfo.empty).update _⟩
  | valueInfo =>
    simp only [MessageKind.nested] at h
    split_ifs at h with h2
    obtain rfl := Option.some.inj h
    have h1 : field ≠ 1 := by omega
    exact ⟨id, fun content u hu fuel data hfuel =>
      ⟨_, (if_neg h1).trans (if_pos h2), hu fuel data hfuel⟩⟩
  | type =>
    simp only [MessageKind.nested] at h
    split_ifs at h with h1
    obtain rfl := Option.some.inj h
    exact ⟨id, fun content u hu fuel data hfuel => ⟨_, if_pos h1, hu fuel data hfuel⟩⟩
  | tensorType =>
    simp only [MessageKind.nested] at h
    split_ifs at h with h2
    obtain rfl := Option.some.inj h
    refine ⟨fun u (value : ValueInfo) => { value with shape := u ([] : List ℤ) }, ?_⟩
    intro content u hu fuel data hfuel
    exact ⟨_, if_pos h2, (hu fuel data hfuel ([] : List ℤ)).update _⟩
  | shape =>
    simp only [MessageKind.nested] at h
    split_ifs at h with h1
    obtain rfl := Option.some.inj h
    refine ⟨fun (u : ℤ → ℤ) (dims : List ℤ) => dims ++ [u (-1 : ℤ)], ?_⟩
    intro content u hu fuel data hfuel
    exact ⟨_, if_pos h1, (hu fuel data hfuel (-1 : ℤ)).update _⟩
  | node | tensor | dimension | opset => cases h

/-- Fields that hold messages with one meaning act alike. -/
lemma exists_actsAlways_message {field : ℕ} (h : kind.nested field = some kind')
    (u : kind'.Value → kind'.Value) :
    ∃ e, ∀ f content, f.tag.number = field → f.Holds content → Means kind' content u →
      ActsAlways kind f e := by
  obtain ⟨combine, hcombine⟩ := exists_combine h
  refine ⟨.update (combine u), ?_⟩
  rintro f content rfl hholds hu fuel data hfuel
  obtain ⟨parse, htable, hmeans⟩ := hcombine content u hu fuel data hfuel
  exact .message hholds htable hmeans

/-- Every field acts, if the message that it may hold has a meaning. -/
lemma exists_actsAlways (f : WireField)
    (hnested : ∀ kind' content, kind.nested f.tag.number = some kind' → f.Holds content →
      ∃ u, Means kind' content u) :
    ∃ e, ActsAlways kind f e := by
  cases hpayload : f.payload with
  | varint v =>
    obtain ⟨action, haction⟩ := kind.exists_varints f.tag.number
    refine ⟨VarintAction.effect v.value action, fun fuel data _ => ?_⟩
    rw [← haction fuel data]
    exact .varint hpayload
  | fixed64 bytes size =>
    exact ⟨_, fun fuel data _ => .fixed (.inl (by rw [hpayload]; exact ⟨rfl, size⟩))⟩
  | fixed32 bytes size =>
    exact ⟨_, fun fuel data _ => .fixed (.inr (by rw [hpayload]; exact ⟨rfl, size⟩))⟩
  | delimited length content size =>
    have hholds : f.Holds content := ⟨length, size, hpayload⟩
    cases hkind : kind.nested f.tag.number with
    | some kind' =>
      obtain ⟨u, hu⟩ := hnested kind' content hkind hholds
      obtain ⟨e, he⟩ := exists_actsAlways_message hkind u
      exact ⟨e, he f content rfl hholds hu⟩
    | none =>
      obtain ⟨action, haction, hmessage⟩ := MessageKind.exists_bytes hkind
      rcases action with _ | (set | set | parse)
      · exact ⟨_, fun fuel data _ => .skipped hholds (haction fuel data)⟩
      · exact ⟨_, fun fuel data _ => .text hholds (haction fuel data)⟩
      · exact ⟨_, fun fuel data _ => .rawBytes hholds (haction fuel data)⟩
      · exact absurd rfl (hmessage parse)

/-- A field that the parser does not use leaves the value alone. -/
lemma actsAlways_of_unused {f : WireField}
    (h : (f.tag.number, f.tag.wireType) ∉ kind.usedFields) : ActsAlways kind f (.update id) := by
  intro fuel data _
  rw [f.wireType_eq] at h
  cases hpayload : f.payload with
  | varint v =>
    rw [hpayload] at h
    have hacts : Acts data (kind.fields fuel data) f
        (VarintAction.effect v.value ((kind.fields fuel data).varints f.tag.number)) :=
      .varint hpayload
    rw [(MessageKind.varints_eq_none_iff fuel data).mpr h] at hacts
    exact hacts
  | fixed64 bytes size => exact .fixed (.inl (by rw [hpayload]; exact ⟨rfl, size⟩))
  | fixed32 bytes size => exact .fixed (.inr (by rw [hpayload]; exact ⟨rfl, size⟩))
  | delimited length content size =>
    rw [hpayload] at h
    exact .skipped ⟨length, size, hpayload⟩ ((MessageKind.bytes_eq_none_iff fuel data).mpr h)

/-- A message does what its fields do. -/
lemma means_of_acts {fs : List WireField} {es : List (Effect kind.Value)}
    (h : List.Forall₂ (ActsAlways kind) fs es) : Means kind (encodeFields fs) (Effect.run es) := by
  intro fuel data hfuel
  exact decodes_of_acts (h.imp fun f e he => he fuel data hfuel) hfuel

/-- The effects of a sequence of fields. -/
lemma exists_effects {fs : List WireField} (h : ∀ f ∈ fs, ∃ e, ActsAlways kind f e) :
    ∃ es, List.Forall₂ (ActsAlways kind) fs es := by
  induction fs with
  | nil => exact ⟨[], .nil⟩
  | cons f fs ih =>
    obtain ⟨e, he⟩ := h f List.mem_cons_self
    obtain ⟨es, hes⟩ := ih fun g hg => h g (List.mem_cons_of_mem _ hg)
    exact ⟨e :: es, .cons he hes⟩

/-! ### Well-formed messages -/

/-- A message is a sequence of fields, and so is every message in it that the inspector descends
into. -/
inductive WellFormed : MessageKind → List UInt8 → Prop
  | fields {kind : MessageKind} (fs : List WireField)
      (nested : ∀ f ∈ fs, ∀ kind' content, kind.nested f.tag.number = some kind' →
        f.Holds content → WellFormed kind' content) :
      WellFormed kind (encodeFields fs)

/-- The messages in a well-formed message are well-formed. -/
lemma WellFormed.nested {fs : List WireField} (h : WellFormed kind (encodeFields fs))
    {f : WireField} (hf : f ∈ fs) (hkind : kind.nested f.tag.number = some kind')
    (hholds : f.Holds content) : WellFormed kind' content := by
  generalize hbytes : encodeFields fs = bytes at h
  obtain ⟨gs, hnested⟩ := h
  obtain rfl := encodeFields_injective hbytes
  exact hnested f hf kind' content hkind hholds

/-- Every well-formed message has a meaning. -/
lemma WellFormed.exists_means (h : WellFormed kind bytes) : ∃ u, Means kind bytes u := by
  induction h with
  | fields fs _ ih =>
    obtain ⟨es, hes⟩ := exists_effects fun f hf => exists_actsAlways f (ih f hf)
    exact ⟨_, means_of_acts hes⟩

/-- The fields of a well-formed message act. -/
lemma WellFormed.exists_acts {fs : List WireField} (h : WellFormed kind (encodeFields fs))
    {f : WireField} (hf : f ∈ fs) : ∃ e, ActsAlways kind f e :=
  exists_actsAlways f fun _ _ hkind hholds => (h.nested hf hkind hholds).exists_means

/-! ### Inserting a field -/

/-- The second message is the first with one more field, somewhere, that its parser does not use;
the lengths of the messages around it are those of their new contents. -/
inductive Inserted : MessageKind → List UInt8 → List UInt8 → Prop
  | field {kind : MessageKind} (before after : List WireField) (f : WireField)
      (unused : (f.tag.number, f.tag.wireType) ∉ kind.usedFields) :
      Inserted kind (encodeFields (before ++ after)) (encodeFields (before ++ f :: after))
  | nested {kind kind' : MessageKind} {content content' : List UInt8}
      (before after : List WireField) (f f' : WireField)
      (descends : kind.nested f.tag.number = some kind') (tag : f'.tag = f.tag)
      (holds : f.Holds content) (holds' : f'.Holds content')
      (inserted : Inserted kind' content content') :
      Inserted kind (encodeFields (before ++ f :: after)) (encodeFields (before ++ f' :: after))

/-- A message means the same with the field. -/
lemma Inserted.exists_means {bytes' : List UInt8} (h : Inserted kind bytes bytes')
    (hwf : WellFormed kind bytes) : ∃ u, Means kind bytes u ∧ Means kind bytes' u := by
  induction h with
  | field before after f unused =>
    obtain ⟨es, hes⟩ := exists_effects fun f hf => hwf.exists_acts (List.mem_append_left after hf)
    obtain ⟨es', hes'⟩ :=
      exists_effects fun f hf => hwf.exists_acts (List.mem_append_right before hf)
    refine ⟨_, means_of_acts (List.rel_append hes hes'), ?_⟩
    have hmeans := means_of_acts
      (List.rel_append hes (.cons (actsAlways_of_unused unused) hes'))
    intro fuel data hfuel value
    rw [← Effect.run_insert]
    exact hmeans fuel data hfuel value
  | @nested kind kind' content content' before after f f' descends tag holds holds' _ ih =>
    have hcontent := hwf.nested (List.mem_append_right before List.mem_cons_self) descends holds
    obtain ⟨u, hu, hu'⟩ := ih hcontent
    obtain ⟨e, he⟩ := exists_actsAlways_message descends u
    obtain ⟨es, hes⟩ :=
      exists_effects fun g hg => hwf.exists_acts (List.mem_append_left (f :: after) hg)
    obtain ⟨es', hes'⟩ := exists_effects fun g hg =>
      hwf.exists_acts (List.mem_append_right before (List.mem_cons_of_mem f hg))
    have hf := he f content rfl holds hu
    have hf' := he f' content' (by rw [tag]) holds' hu'
    exact ⟨_, means_of_acts (List.rel_append hes (.cons hf hes')),
      means_of_acts (List.rel_append hes (.cons hf' hes'))⟩

/-- `parseModel` does what the bytes of the file mean. -/
lemma result_parseModel_of_means {u : ModelInfo → ModelInfo} {data : ModelFile}
    (h : Means .model data.bytes u) {fuel : ℕ} (hfuel : data.size ≤ fuel) :
    (parseModel fuel data).result = some (.ok (u .empty)) := by
  have hwhole := h fuel data hfuel ModelInfo.empty 0 (occursAt_self data.bytes)
    (by have := data.size_lt; omega)
  rw [Nat.zero_add] at hwhole
  exact hwhole

/-- **A field that is not used makes no difference.**  The inspector returns the same model for a
well-formed file and for the file with one more field in any of its messages, which the parser of
that message does not use. -/
theorem parseModel_inserted (data data' : ModelFile) (hwf : WellFormed .model data.bytes)
    (hinserted : Inserted .model data.bytes data'.bytes) :
    ∃ model, (∀ fuel, data.size ≤ fuel → (parseModel fuel data).result = some (.ok model)) ∧
      ∀ fuel, data'.size ≤ fuel → (parseModel fuel data').result = some (.ok model) := by
  obtain ⟨u, hu, hu'⟩ := hinserted.exists_means hwf
  exact ⟨u ModelInfo.empty, fun _ hfuel => result_parseModel_of_means hu hfuel,
    fun _ hfuel => result_parseModel_of_means hu' hfuel⟩

/-- The name of a graph. -/
private def graphName : WireField :=
  ⟨.ofByte 0x12 (by decide), .delimited (.ofByte 1 (by decide)) [0x67] (by decide), by decide⟩

/-- The documentation of a graph. -/
private def graphDoc : WireField :=
  ⟨.ofByte 0x52 (by decide), .delimited (.ofByte 1 (by decide)) [0x64] (by decide), by decide⟩

/-- A graph with a name. -/
private def namedGraph : WireField :=
  ⟨.ofByte 0x3A (by decide),
    .delimited (.ofByte 3 (by decide)) (encodeFields [graphName]) (by decide), by decide⟩

/-- A graph with a name and documentation. -/
private def documentedGraph : WireField :=
  ⟨.ofByte 0x3A (by decide),
    .delimited (.ofByte 6 (by decide)) (encodeFields [graphName, graphDoc]) (by decide), by decide⟩

private lemma wellFormed_namedGraph : WellFormed .model (encodeFields [namedGraph]) := by
  refine .fields [namedGraph] fun f hf kind content hkind hholds => ?_
  obtain rfl := List.mem_singleton.mp hf
  obtain ⟨length, size, hpayload⟩ := hholds
  cases hpayload
  refine .fields [graphName] fun g hg kind' content' hkind' hholds' => ?_
  obtain rfl := List.mem_singleton.mp hg
  cases Option.some.inj hkind
  cases hkind'

private lemma inserted_graphDoc :
    Inserted .model (encodeFields [namedGraph]) (encodeFields [documentedGraph]) :=
  .nested [] [] namedGraph documentedGraph rfl rfl ⟨_, _, rfl⟩ ⟨_, _, rfl⟩
    (.field [graphName] [] graphDoc (by decide))

/-- The documentation of a graph makes no difference. -/
theorem parseModel_inserted_graphDoc :
    ∃ model, (∀ fuel, 5 ≤ fuel →
        (parseModel fuel ⟨[0x3A, 3, 0x12, 1, 0x67], by decide⟩).result = some (.ok model)) ∧
      ∀ fuel, 8 ≤ fuel →
        (parseModel fuel ⟨[0x3A, 6, 0x12, 1, 0x67, 0x52, 1, 0x64], by decide⟩).result =
          some (.ok model) :=
  parseModel_inserted ⟨[0x3A, 3, 0x12, 1, 0x67], by decide⟩
    ⟨[0x3A, 6, 0x12, 1, 0x67, 0x52, 1, 0x64], by decide⟩ wellFormed_namedGraph inserted_graphDoc

end SystemsDemos
