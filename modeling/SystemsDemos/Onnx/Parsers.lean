import SystemsDemos.Onnx.Inspector

/-!
# Properties of all the parsers

The ten parsers of the model inspector are nested in each other, and each is the common loop with
its own table.  A property of parsers that the loop has as soon as the parsers in its table have it,
and that is kept when a parser makes a part of a value (`ParserRule`), is a property of all of them.
-/

namespace SystemsDemos

variable {σ β : Type}

/-- The fields that the parser for such a message reads as strings. -/
def MessageKind.textFields : MessageKind → List ℕ
  | graph => [2]
  | node => [1, 2, 3, 4]
  | tensor => [8]
  | valueInfo => [1]
  | _ => []

/-- What a parser does with a length-delimited field goes with the text fields of its message, and a
parser for a nested message has the property `P`. -/
def FieldObeys (P : (σ : Type) → (Slice → σ → Parse σ) → Prop) (kind : MessageKind) (field : ℕ) :
    Option (BytesAction σ) → Prop
  | some (.text _) => field ∈ kind.textFields
  | some (.message parse) => field ∉ kind.textFields ∧ P σ parse
  | _ => field ∉ kind.textFields

/-- A property of parsers for nested messages that all of them have. -/
structure ParserRule (fuel : ℕ) (data : ModelFile)
    (P : (σ : Type) → (Slice → σ → Parse σ) → Prop) : Prop where
  loop : ∀ {σ : Type} {kind : MessageKind} {table : FieldTable σ},
    (∀ field, FieldObeys P kind field (table.bytes field)) → P σ (parseFields fuel data kind table)
  update : ∀ {σ β : Type} {parse : Slice → β → Parse β}, P β parse →
    ∀ (start : β) (set : β → σ → σ), P σ fun nested value => do
      let part ← parse nested start
      return set part value

namespace FieldObeys

variable {P : (σ : Type) → (Slice → σ → Parse σ) → Prop} {kind : MessageKind} {field : ℕ}
  {action : Option (BytesAction σ)}

/-- The parsers for nested messages have the property. -/
lemma of_message (h : FieldObeys P kind field action) {parse : Slice → σ → Parse σ}
    (haction : action = some (.message parse)) : P σ parse := by
  subst haction
  exact h.2

/-- The text fields are read as strings, and no others. -/
lemma text_iff (h : FieldObeys P kind field action) :
    (∃ set, action = some (.text set)) ↔ field ∈ kind.textFields := by
  rcases action with _ | (set | set | parse)
  · exact iff_of_false (by simp) h
  · exact iff_of_true ⟨set, rfl⟩ h
  · exact iff_of_false (by simp) h
  · exact iff_of_false (by simp) h.1

end FieldObeys

namespace ParserRule

variable {fuel : ℕ} {data : ModelFile} {P : (σ : Type) → (Slice → σ → Parse σ) → Prop}
  (h : ParserRule fuel data P)

include h

lemma dimension : P ℤ (parseFields fuel data .dimension dimensionFields) :=
  h.loop fun _ => List.not_mem_nil

lemma opset : P ℤ (parseFields fuel data .opset opsetFields) :=
  h.loop fun _ => List.not_mem_nil

lemma shape : P (List ℤ) (parseFields fuel data .shape (shapeFields fuel data)) := by
  refine h.loop fun field => ?_
  simp only [shapeFields]
  split
  · exact ⟨List.not_mem_nil,
      h.update h.dimension (-1) fun dimension dims => dims ++ [dimension]⟩
  · exact List.not_mem_nil

lemma tensorType : P ValueInfo (parseTensorType fuel data) := by
  refine h.loop fun field => ?_
  simp only [tensorTypeFields]
  split
  · exact ⟨List.not_mem_nil,
      h.update h.shape [] fun shape (value : ValueInfo) => { value with shape := shape }⟩
  · exact List.not_mem_nil

lemma type : P ValueInfo (parseType fuel data) := by
  refine h.loop fun field => ?_
  simp only [typeFields]
  split
  · exact ⟨List.not_mem_nil, h.tensorType⟩
  · exact List.not_mem_nil

lemma valueInfo : P ValueInfo (parseFields fuel data .valueInfo (valueInfoFields fuel data)) := by
  refine h.loop fun field => ?_
  simp only [valueInfoFields]
  split
  · next h1 => exact List.mem_singleton.mpr h1
  · next h1 =>
    have htext : field ∉ MessageKind.valueInfo.textFields := by
      simpa [MessageKind.textFields] using h1
    split
    · exact ⟨htext, h.type⟩
    · exact htext

lemma tensor : P TensorInfo (parseFields fuel data .tensor tensorFields) := by
  refine h.loop fun field => ?_
  simp only [tensorFields]
  split
  · next h8 => exact List.mem_singleton.mpr h8
  · next h8 =>
    have htext : field ∉ MessageKind.tensor.textFields := by
      simpa [MessageKind.textFields] using h8
    split
    · exact htext
    · exact htext

lemma node : P NodeInfo (parseFields fuel data .node nodeFields) := by
  refine h.loop fun field => ?_
  have htext : field ∈ MessageKind.node.textFields ↔
      field = 1 ∨ field = 2 ∨ field = 3 ∨ field = 4 := by
    simp [MessageKind.textFields]
  simp only [nodeFields]
  split
  · next h1 => exact htext.mpr (by omega)
  split
  · next h2 => exact htext.mpr (by omega)
  split
  · next h3 => exact htext.mpr (by omega)
  split
  · next h4 => exact htext.mpr (by omega)
  · exact fun hmem => absurd (htext.mp hmem) (by omega)

lemma graph : P ModelInfo (parseGraph fuel data) := by
  refine h.loop fun field => ?_
  have htext : field ∈ MessageKind.graph.textFields ↔ field = 2 := List.mem_singleton
  simp only [graphFields]
  split
  · next h1 =>
    exact ⟨fun hmem => absurd (htext.mp hmem) (by omega), h.update h.node .empty
      fun node (model : ModelInfo) => { model with nodes := model.nodes ++ [node] }⟩
  split
  · next h2 => exact htext.mpr h2
  next h2 =>
  have hnot : field ∉ MessageKind.graph.textFields := fun hmem => h2 (htext.mp hmem)
  split
  · exact ⟨hnot, h.update h.tensor .empty fun tensor (model : ModelInfo) =>
      { model with initializers := model.initializers ++ [tensor] }⟩
  split
  · exact ⟨hnot, h.update h.valueInfo .empty
      fun value (model : ModelInfo) => { model with inputs := model.inputs ++ [value] }⟩
  split
  · exact ⟨hnot, h.update h.valueInfo .empty
      fun value (model : ModelInfo) => { model with outputs := model.outputs ++ [value] }⟩
  · exact hnot

lemma model : P ModelInfo (parseFields fuel data .model (modelFields fuel data)) := by
  refine h.loop fun field => ?_
  simp only [modelFields]
  split
  · exact ⟨List.not_mem_nil, h.graph⟩
  split
  · exact ⟨List.not_mem_nil, h.update h.opset 0
      fun version (model : ModelInfo) => { model with opsetVersion := version }⟩
  · exact List.not_mem_nil

end ParserRule

end SystemsDemos
