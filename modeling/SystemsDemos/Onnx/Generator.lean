import Mathlib.Data.List.Basic
import Mathlib.Tactic.Lemma

/-!
# The model generator

The functions of `create_tiny_robot_score_onnx.py` that write the wire format.  A Python `int` is
a natural number here, and a `str` is a string of Unicode scalar values; `struct.pack` rounds a
`float` to single precision and writes its bytes in little-endian order.  `Generator.model`
composes a message as `model()` does, for any graph; `Generator.tinyRobotScore` is the graph that
`model()` writes.
-/

namespace SystemsDemos

/-- The arguments of `node`. -/
structure GeneratorNode where
  opType : String
  inputs : List String
  outputs : List String
  name : String

/-- The arguments of `tensor`. -/
structure GeneratorTensor where
  name : String
  dims : List ℕ
  values : List Float
  dataType : ℕ

/-- The arguments of `value_info`. -/
structure GeneratorValue where
  name : String
  dims : List ℕ
  elemType : ℕ

/-- The parts of a graph. -/
structure GeneratorGraph where
  nodes : List GeneratorNode
  name : String
  tensors : List GeneratorTensor
  inputs : List GeneratorValue
  outputs : List GeneratorValue

/-- The parts of a model. -/
structure GeneratorModel where
  irVersion : ℕ
  graph : GeneratorGraph
  opsetVersion : ℕ

namespace Generator

/-- `varint`. -/
def varint (value : ℕ) : List UInt8 :=
  if value < 0x80 then [value.toUInt8]
  else ((value &&& 0x7F) ||| 0x80).toUInt8 :: varint (value >>> 7)
termination_by value
decreasing_by
  rw [Nat.shiftRight_eq_div_pow]
  omega

/-- `key`. -/
def key (fieldNumber wireType : ℕ) : List UInt8 := varint ((fieldNumber <<< 3) ||| wireType)

/-- `field_varint`. -/
def fieldVarint (fieldNumber value : ℕ) : List UInt8 := key fieldNumber 0 ++ varint value

/-- `field_bytes`. -/
def fieldBytes (fieldNumber : ℕ) (value : List UInt8) : List UInt8 :=
  key fieldNumber 2 ++ varint value.length ++ value

/-- `value.encode("utf-8")`. -/
def utf8 (value : String) : List UInt8 := value.toUTF8.data.toList

/-- `field_string`. -/
def fieldString (fieldNumber : ℕ) (value : String) : List UInt8 :=
  fieldBytes fieldNumber (utf8 value)

/-- `tensor_shape`. -/
def tensorShape (dims : List ℕ) : List UInt8 :=
  dims.flatMap fun dim => fieldBytes 1 (fieldVarint 1 dim)

/-- `tensor_type`. -/
def tensorType (elemType : ℕ) (dims : List ℕ) : List UInt8 :=
  fieldVarint 1 elemType ++ fieldBytes 2 (tensorShape dims)

/-- `value_info`. -/
def valueInfo (v : GeneratorValue) : List UInt8 :=
  fieldString 1 v.name ++ fieldBytes 2 (fieldBytes 1 (tensorType v.elemType v.dims))

/-- `struct.pack("<f", value)`. -/
def packFloat (value : Float) : List UInt8 :=
  let bits := value.toFloat32.toBits
  [bits.toUInt8, (bits >>> 8).toUInt8, (bits >>> 16).toUInt8, (bits >>> 24).toUInt8]

/-- `tensor`. -/
def tensor (t : GeneratorTensor) : List UInt8 :=
  (t.dims.flatMap fun dim => fieldVarint 1 dim) ++ fieldVarint 2 t.dataType ++
    fieldString 8 t.name ++ fieldBytes 9 (t.values.flatMap packFloat)

/-- `node`. -/
def node (n : GeneratorNode) : List UInt8 :=
  (n.inputs.flatMap fun item => fieldString 1 item) ++
    (n.outputs.flatMap fun item => fieldString 2 item) ++
    fieldString 3 n.name ++ fieldString 4 n.opType

/-- `opset`. -/
def opset (version : ℕ) : List UInt8 := fieldVarint 2 version

/-- The graph that `model` composes. -/
def graph (g : GeneratorGraph) : List UInt8 :=
  (g.nodes.flatMap fun n => fieldBytes 1 (node n)) ++ fieldString 2 g.name ++
    (g.tensors.flatMap fun t => fieldBytes 5 (tensor t)) ++
    (g.inputs.flatMap fun v => fieldBytes 11 (valueInfo v)) ++
    (g.outputs.flatMap fun v => fieldBytes 12 (valueInfo v))

/-- `model`. -/
def model (m : GeneratorModel) : List UInt8 :=
  fieldVarint 1 m.irVersion ++ fieldString 2 "job_week7_tiny_model" ++
    fieldBytes 7 (graph m.graph) ++ fieldBytes 8 (opset m.opsetVersion)

/-- The model that the script writes. -/
def tinyRobotScore : GeneratorModel where
  irVersion := 8
  graph :=
    { nodes :=
        [⟨"MatMul", ["robot_features", "score_weight"], ["weighted_sum"], "score_matmul"⟩,
          ⟨"Add", ["weighted_sum", "score_bias"], ["anomaly_score"], "score_bias_add"⟩]
      name := "tiny_robot_score"
      tensors := [⟨"score_weight", [3, 1], [0.2, -0.1, 0.7], 1⟩, ⟨"score_bias", [1], [0.05], 1⟩]
      inputs := [⟨"robot_features", [1, 3], 1⟩]
      outputs := [⟨"anomaly_score", [1, 1], 1⟩] }
  opsetVersion := 13

/-! ### Sizes -/

lemma length_varint_pos (value : ℕ) : 0 < (varint value).length := by
  rw [varint]
  split <;> simp

lemma length_fieldBytes_pos (fieldNumber : ℕ) (value : List UInt8) :
    0 < (fieldBytes fieldNumber value).length := by
  rw [fieldBytes, key, List.length_append, List.length_append]
  have hkey := length_varint_pos ((fieldNumber <<< 3) ||| 2)
  omega

/-- A float takes four bytes. -/
lemma length_packFloats (values : List Float) :
    (values.flatMap packFloat).length = 4 * values.length := by
  induction values with
  | nil => rfl
  | cons value values ih =>
    rw [List.flatMap_cons, List.length_append, ih, List.length_cons]
    simp [packFloat]
    omega

end Generator

end SystemsDemos
